import GBServer.Foundation.OrderedMap
import GBServer.Foundation.Runs
import Mathlib.Data.List.Chain

/-!
The cache of sent video packets from which a receiver's NACK is answered.

The cache is keyed by the 16-bit RTP sequence number widened to 32 bits, and
the eviction bound is computed in 32-bit unsigned arithmetic.  The packet type
is left abstract: the cache reads nothing of a packet but its number.
-/

namespace GBServer.VideoPacketCache

open Std
open Foundation.OrderedMap
open Foundation.Runs

variable {Packet : Type*} (sequenceNumber : Packet → UInt16)

abbrev PacketCache (Packet : Type*) := ExtTreeMap UInt32 Packet

def kMaxVideoPacketSize : UInt32 := 1000

def addVideoPacket (rtpVideoPackets : PacketCache Packet) (rtpPacket : Packet) :
    PacketCache Packet :=
  let seqNumber := (sequenceNumber rtpPacket).toUInt32
  eraseBelow (rtpVideoPackets.insert seqNumber rtpPacket)
    (seqNumber - kMaxVideoPacketSize)

/-- The fields of an RTCP generic NACK read by `RequestNack`. -/
structure Nack where
  mediaSsrc : UInt32
  packetIds : List UInt16
  deriving DecidableEq, Repr

/-- The look-up half of `RtcInterface::RequestNack`: the cached packets it goes
on to retransmit, one per requested number that is found, in list order. -/
def requestNackOriginals (videoSsrc : UInt32) (rtpVideoPackets : PacketCache Packet)
    (nack : Nack) : List Packet :=
  if nack.mediaSsrc ≠ videoSsrc then []
  else nack.packetIds.filterMap fun packetId => rtpVideoPackets[packetId.toUInt32]?

/-- The packets sent so far carry consecutive sequence numbers, modulo `2^16`. -/
def Consecutive (packets : List Packet) : Prop :=
  packets.IsChain fun p q => sequenceNumber q = sequenceNumber p + 1

def cacheAfter (packets : List Packet) : PacketCache Packet :=
  run (addVideoPacket sequenceNumber) ∅ packets

def mostRecent (count : Nat) (packets : List Packet) : List Packet :=
  packets.reverse.take count

theorem getElem?_addVideoPacket (rtpVideoPackets : PacketCache Packet)
    (rtpPacket : Packet) (key : UInt32) :
    (addVideoPacket sequenceNumber rtpVideoPackets rtpPacket)[key]? =
      if key < (sequenceNumber rtpPacket).toUInt32 - kMaxVideoPacketSize then none
      else if (sequenceNumber rtpPacket).toUInt32 = key then some rtpPacket
      else rtpVideoPackets[key]? := by
  simp [addVideoPacket, getElem?_eraseBelow, ExtTreeMap.getElem?_insert, compare_eq_lt]

theorem cacheAfter_concat (packets : List Packet) (rtpPacket : Packet) :
    cacheAfter sequenceNumber (packets ++ [rtpPacket]) =
      addVideoPacket sequenceNumber (cacheAfter sequenceNumber packets) rtpPacket :=
  run_concat ..

/-- Below sequence number 1000 the eviction bound wraps past every 16-bit key. -/
theorem lt_evictionBound_of_lt {seqNumber : UInt16} (hseq : seqNumber < 1000)
    (key : UInt16) : key.toUInt32 < seqNumber.toUInt32 - kMaxVideoPacketSize := by
  rw [UInt32.lt_iff_toNat_lt, UInt32.toNat_sub]
  have hkey := key.toNat_lt
  have hlt : seqNumber.toNat < 1000 := hseq
  simp only [UInt16.toNat_toUInt32, kMaxVideoPacketSize]
  change key.toNat < (2 ^ 32 - 1000 + seqNumber.toNat) % 2 ^ 32
  omega

theorem toNat_evictionBound {seqNumber : UInt16} (hseq : 1000 ≤ seqNumber) :
    (seqNumber.toUInt32 - kMaxVideoPacketSize).toNat = seqNumber.toNat - 1000 := by
  have hlt := seqNumber.toNat_lt
  have hle : 1000 ≤ seqNumber.toNat := hseq
  rw [UInt32.toNat_sub]
  simp only [UInt16.toNat_toUInt32, kMaxVideoPacketSize]
  change (2 ^ 32 - 1000 + seqNumber.toNat) % 2 ^ 32 = _
  omega

/-- In an unbroken stretch of numbers from 1000 on, the `i`-th newest packet is
numbered exactly `i` below the newest. -/
theorem sequenceNumber_getElem {history : List Packet} {newest : Packet}
    (hchain : (newest :: history).IsChain
      fun q p => sequenceNumber q = sequenceNumber p + 1) {i : Nat} {p : Packet}
    (hp : (newest :: history)[i]? = some p)
    (hlow : ∀ j ≤ i, ∀ q, (newest :: history)[j]? = some q → 1000 ≤ sequenceNumber q) :
    (sequenceNumber p).toNat + i = (sequenceNumber newest).toNat := by
  induction i generalizing newest history with
  | zero =>
      simp only [List.getElem?_cons_zero, Option.some.injEq] at hp
      rw [hp, Nat.add_zero]
  | succ i ih =>
      rcases history with _ | ⟨next, older⟩
      · simp at hp
      · obtain ⟨hstep, htail⟩ := List.isChain_cons_cons.mp hchain
        have hnext := ih htail hp fun j hj q hq => hlow (j + 1) (by omega) q (by simpa using hq)
        have hnewest : 1000 ≤ (sequenceNumber newest).toNat := hlow 0 (by omega) newest rfl
        have hsucc : (sequenceNumber newest).toNat =
            ((sequenceNumber next).toNat + 1) % 2 ^ 16 := by
          rw [hstep, UInt16.toNat_add]
          rfl
        have hbound := (sequenceNumber next).toNat_lt
        omega

/-- The `i`-th packet of a history, newest first, is cached as long as `i` is at most
1000 and no packet sent since has had a number below 1000. -/
def CachedIn (history : List Packet) (key : UInt32) (p : Packet) : Prop :=
  ∃ i ≤ 1000, history[i]? = some p ∧ key = (sequenceNumber p).toUInt32 ∧
    ∀ j ≤ i, ∀ q, history[j]? = some q → 1000 ≤ sequenceNumber q

theorem CachedIn.eq_toUInt32 {history : List Packet} {key : UInt32} {p : Packet}
    (h : CachedIn sequenceNumber history key p) : key = (sequenceNumber p).toUInt32 := by
  obtain ⟨_, _, _, hkey, _⟩ := h
  exact hkey

theorem not_cachedIn_cons_of_lt {history : List Packet} {newest : Packet}
    (hseq : sequenceNumber newest < 1000) (key : UInt32) (p : Packet) :
    ¬ CachedIn sequenceNumber (newest :: history) key p := by
  rintro ⟨_, _, _, _, hlow⟩
  exact absurd hseq (not_lt.mpr (hlow 0 (Nat.zero_le _) newest rfl))

theorem cachedIn_cons_self {history : List Packet} {newest : Packet}
    (hge : 1000 ≤ sequenceNumber newest) :
    CachedIn sequenceNumber (newest :: history) (sequenceNumber newest).toUInt32 newest := by
  refine ⟨0, Nat.zero_le _, rfl, rfl, ?_⟩
  intro j hj q hq
  obtain rfl := Nat.le_zero.mp hj
  obtain rfl := Option.some.inj hq
  exact hge

section Cons

variable {history : List Packet} {newest : Packet}
  (hchain : (newest :: history).IsChain fun q p => sequenceNumber q = sequenceNumber p + 1)
  (hge : 1000 ≤ sequenceNumber newest)

include hchain hge

/-- What the eviction leaves of an older cached packet is within reach of the newest. -/
theorem CachedIn.cons {key : UInt32} {p : Packet} (h : CachedIn sequenceNumber history key p)
    (hkey : ¬ key < (sequenceNumber newest).toUInt32 - kMaxVideoPacketSize) :
    CachedIn sequenceNumber (newest :: history) key p := by
  obtain ⟨i, _, hi, rfl, hlow⟩ := h
  have hlow' : ∀ j ≤ i + 1, ∀ q, (newest :: history)[j]? = some q →
      1000 ≤ sequenceNumber q := by
    intro j hj q hq
    rcases j with _ | j
    · obtain rfl := Option.some.inj hq
      exact hge
    · exact hlow j (by omega) q hq
  have hnumber := sequenceNumber_getElem sequenceNumber hchain (i := i + 1) hi hlow'
  rw [UInt32.lt_iff_toNat_lt, toNat_evictionBound hge, UInt16.toNat_toUInt32] at hkey
  exact ⟨i + 1, by omega, hi, rfl, hlow'⟩

/-- A cached packet is not evicted, and is the newest one or was cached before. -/
theorem CachedIn.of_cons {key : UInt32} {p : Packet}
    (h : CachedIn sequenceNumber (newest :: history) key p) :
    ¬ key < (sequenceNumber newest).toUInt32 - kMaxVideoPacketSize ∧
      (p = newest ∨ ((sequenceNumber newest).toUInt32 ≠ key ∧
        CachedIn sequenceNumber history key p)) := by
  obtain ⟨i, hi, hp, rfl, hlow⟩ := h
  have hnumber := sequenceNumber_getElem sequenceNumber hchain hp hlow
  constructor
  · rw [UInt32.lt_iff_toNat_lt, toNat_evictionBound hge, UInt16.toNat_toUInt32]
    omega
  · rcases i with _ | i
    · exact Or.inl (Option.some.inj hp).symm
    · right
      refine ⟨?_, i, by omega, hp, rfl, fun j hj q hq => hlow (j + 1) (by omega) q hq⟩
      intro heq
      have hequal := congrArg UInt32.toNat heq
      simp only [UInt16.toNat_toUInt32] at hequal
      omega

end Cons

/-- Exact contents of the cache after a run. -/
theorem getElem?_cacheAfter {packets : List Packet}
    (hconsecutive : Consecutive sequenceNumber packets) (key : UInt32) (p : Packet) :
    (cacheAfter sequenceNumber packets)[key]? = some p ↔
      CachedIn sequenceNumber packets.reverse key p := by
  induction packets using List.reverseRecOn generalizing key p with
  | nil => simp [cacheAfter, CachedIn]
  | append_singleton packets newest ih =>
      have hchain : (newest :: packets.reverse).IsChain
          fun q p => sequenceNumber q = sequenceNumber p + 1 := by
        rw [← List.reverse_concat', List.isChain_reverse]
        exact hconsecutive
      have hrest : Consecutive sequenceNumber packets :=
        (List.isChain_append.mp hconsecutive).1
      rw [cacheAfter_concat, getElem?_addVideoPacket, List.reverse_concat']
      by_cases hseq : sequenceNumber newest < 1000
      · -- the wrapped bound lies above every 16-bit key, so nothing survives
        refine iff_of_false ?_ (not_cachedIn_cons_of_lt sequenceNumber hseq key p)
        intro hcached
        split at hcached
        · contradiction
        · rename_i hkey
          split at hcached
          · rename_i hnewest
            exact hkey (hnewest ▸ lt_evictionBound_of_lt hseq _)
          · have hold := (ih hrest key p).mp hcached
            exact hkey (hold.eq_toUInt32 ▸ lt_evictionBound_of_lt hseq _)
      · have hge : 1000 ≤ sequenceNumber newest := not_lt.mp hseq
        constructor
        · intro hcached
          split at hcached
          · contradiction
          · rename_i hkey
            split at hcached
            · rename_i hnewest
              obtain rfl := Option.some.inj hcached
              rw [← hnewest]
              exact cachedIn_cons_self sequenceNumber hge
            · exact ((ih hrest key p).mp hcached).cons sequenceNumber hchain hge hkey
        · intro hcached
          obtain ⟨hkey, rfl | ⟨hne, hold⟩⟩ := hcached.of_cons sequenceNumber hchain hge
          · rw [if_neg hkey, if_pos hcached.eq_toUInt32.symm]
          · rw [if_neg hkey, if_neg hne, ih hrest]
            exact hold

/-- What the cache promises after a run: it holds each of the last 1000 packets
(the packet just added among them), it holds nothing older than the last 1001,
and a NACK for any of the last 1000 numbers finds its packet. -/
structure RetainsRecent (rtpVideoPackets : PacketCache Packet) (packets : List Packet) :
    Prop where
  holds : ∀ p ∈ mostRecent 1000 packets,
    rtpVideoPackets[(sequenceNumber p).toUInt32]? = some p
  evicts : ∀ (key : UInt32) (p : Packet),
    rtpVideoPackets[key]? = some p → p ∈ mostRecent 1001 packets
  answers : ∀ p ∈ mostRecent 1000 packets, ∀ videoSsrc,
    requestNackOriginals videoSsrc rtpVideoPackets
      ⟨videoSsrc, [sequenceNumber p]⟩ = [p]

theorem mem_mostRecent {count : Nat} {packets : List Packet} {p : Packet} :
    p ∈ mostRecent count packets ↔ ∃ i < count, packets.reverse[i]? = some p := by
  simp only [mostRecent, List.mem_iff_getElem?, List.getElem?_take]
  constructor
  · rintro ⟨i, hi⟩
    split at hi
    · exact ⟨i, ‹_›, hi⟩
    · cases hi
  · rintro ⟨i, hi, hp⟩
    exact ⟨i, by rw [if_pos hi, hp]⟩

/-- After every call of every run, the cache retains the recent packets exactly
when none of the last 1000 packets has a sequence number below 1000. -/
theorem retainsRecent_iff {packets : List Packet}
    (hconsecutive : Consecutive sequenceNumber packets) :
    RetainsRecent sequenceNumber (cacheAfter sequenceNumber packets) packets ↔
      ∀ p ∈ mostRecent 1000 packets, 1000 ≤ sequenceNumber p := by
  constructor
  · intro hretains p hp
    obtain ⟨i, _, hi, _, hlow⟩ :=
      (getElem?_cacheAfter sequenceNumber hconsecutive _ _).mp (hretains.holds p hp)
    exact hlow i le_rfl p hi
  · intro hlow
    have hholds : ∀ p ∈ mostRecent 1000 packets,
        (cacheAfter sequenceNumber packets)[(sequenceNumber p).toUInt32]? = some p := by
      intro p hp
      obtain ⟨i, hi, hget⟩ := mem_mostRecent.mp hp
      rw [getElem?_cacheAfter sequenceNumber hconsecutive]
      refine ⟨i, by omega, hget, rfl, ?_⟩
      intro j hj q hq
      exact hlow q (mem_mostRecent.mpr ⟨j, by omega, hq⟩)
    refine ⟨hholds, ?_, ?_⟩
    · intro key p hcached
      obtain ⟨i, hi, hget, _, _⟩ :=
        (getElem?_cacheAfter sequenceNumber hconsecutive key p).mp hcached
      exact mem_mostRecent.mpr ⟨i, by omega, hget⟩
    · intro p hp videoSsrc
      simp [requestNackOriginals, hholds p hp]

theorem retainsRecent_iff_of_five :
    RetainsRecent id (cacheAfter id [2000, 2001, 2002, 2003, 2004])
        ([2000, 2001, 2002, 2003, 2004] : List UInt16) ↔
      ∀ p ∈ mostRecent 1000 ([2000, 2001, 2002, 2003, 2004] : List UInt16),
        1000 ≤ id p :=
  retainsRecent_iff id (by simp [Consecutive])

/-- The first packet of a stream that starts at 100, as `video_seq_` does, is
evicted by the very call that adds it. -/
theorem not_retainsRecent_first_packet :
    ¬ ∀ packets : List UInt16, Consecutive id packets →
      RetainsRecent id (cacheAfter id packets) packets := by
  intro h
  have hholds := (h [100] (by simp [Consecutive])).holds 100 (by decide)
  revert hholds
  decide

end GBServer.VideoPacketCache
