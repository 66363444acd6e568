import GBServer.Foundation.Iteration
import GBServer.Foundation.LengthPrefix
import GBServer.Foundation.Memory
import GBServer.Foundation.Runs
import Mathlib.Data.Int.Interval

namespace GBServer.Gb28181Receive

open Foundation.Iteration
open Foundation.LengthPrefix
open Foundation.Memory
open Foundation.Runs

def recvBufferCapacity : Nat := 1024 * 1024 * 8

/-- What is used of a parsed packet.  The payload is a range of the packet's bytes. -/
structure RtpPacket where
  payloadType : Nat
  payloadOffset : Nat
  payloadSize : Nat
  deriving DecidableEq, Repr

/-- The RTP library, on the memory behind a pointer and a `size_t` length.  The
result of `rtcp::CommonHeader::Parse` is only logged. -/
structure RtpLibrary where
  isRtpPacket : List UInt8 → Nat → Bool
  isRtcpPacket : List UInt8 → Nat → Bool
  parse : List UInt8 → Nat → Option RtpPacket

/-- `RtpPacketReceived::Parse` finds the payload inside the packet. -/
def RtpLibrary.PayloadWithin (lib : RtpLibrary) : Prop :=
  ∀ memory size packet, lib.parse memory size = some packet →
    packet.payloadOffset + packet.payloadSize ≤ size

def toSizeT (length : Int) : Nat := (length % 2 ^ 64).toNat

inductive Callee where
  | isRtpPacket
  | rtpParse
  | isRtcpPacket
  | rtcpParse
  | mpegParse
  deriving DecidableEq, Repr

structure Access where
  callee : Callee
  pointer : Int
  length : Int
  deriving DecidableEq, Repr

def Access.Within (buffer : List UInt8) (access : Access) : Prop :=
  0 ≤ access.length ∧ 0 ≤ access.pointer ∧
    access.pointer + access.length ≤ buffer.length

inductive Status where
  | running
  | finished
  | outOfBounds
  deriving DecidableEq, Repr

structure Loop where
  status : Status
  parseSize : Int
  deriving DecidableEq, Repr

/-- `ByteReader<int16_t>::ReadBigEndian`. -/
def readBigEndian (high low : UInt8) : Int := (BitVec.ofNat 16 (prefixLength high low)).toInt

def payloadSizeAt (buffer : List UInt8) (parseSize : Int) : Except Fault Int :=
  if parseSize < 0 then .error .outOfBounds
  else do
    let high ← readByte buffer parseSize.toNat
    let low ← readByte buffer (parseSize.toNat + 1)
    return readBigEndian high low

inductive Turn where
  | leave
  | outOfBounds
  | packet (payloadSize : Int)
  deriving DecidableEq, Repr

def turn (buffer : List UInt8) (parseSize : Int) : Turn :=
  if (buffer.length : Int) - parseSize > 2 then
    match payloadSizeAt buffer parseSize with
    | .error _ => .outOfBounds
    | .ok payloadSize =>
        if (buffer.length : Int) - parseSize < payloadSize + 2 then .leave
        else .packet payloadSize
  else .leave

/-- The calls that the loop body makes for one packet. -/
def packetCalls (lib : RtpLibrary) (buffer : List UInt8) (parseSize payloadSize : Int) :
    List Access :=
  let memory := buffer.drop parseSize.toNat
  let size := toSizeT payloadSize
  if lib.isRtpPacket memory size then
    [⟨.isRtpPacket, parseSize, payloadSize⟩, ⟨.rtpParse, parseSize, payloadSize⟩] ++
      match lib.parse memory size with
      | none => []
      | some packet =>
          if packet.payloadType = 96 then
            [⟨.mpegParse, parseSize + packet.payloadOffset, packet.payloadSize⟩]
          else []
  else
    [⟨.isRtpPacket, parseSize, payloadSize⟩, ⟨.isRtcpPacket, parseSize, payloadSize⟩] ++
      if lib.isRtcpPacket memory size then [⟨.rtcpParse, parseSize, payloadSize⟩] else []

def calls (lib : RtpLibrary) (buffer : List UInt8) (l : Loop) : List Access :=
  match l.status, turn buffer l.parseSize with
  | .running, .packet payloadSize => packetCalls lib buffer (l.parseSize + 2) payloadSize
  | _, _ => []

def parseStep (buffer : List UInt8) (l : Loop) : Loop :=
  match l.status with
  | .running =>
      match turn buffer l.parseSize with
      | .leave => { l with status := .finished }
      | .outOfBounds => { l with status := .outOfBounds }
      | .packet payloadSize => { l with parseSize := l.parseSize + 2 + payloadSize }
  | _ => l

def loopAfter (buffer : List UInt8) (turns : Nat) : Loop :=
  (parseStep buffer)^[turns] ⟨.running, 0⟩

def leftover (buffer : List UInt8) (parseSize : Int) : List UInt8 :=
  if (buffer.length : Int) - parseSize > 0 then buffer.drop parseSize.toNat else []

/-- `OnRecv`, from the received bytes to the received bytes.  There is no result
if the copy overflows the buffer, a read leaves it, or the loop does not end. -/
def onRecv (received : Option (List UInt8)) (chunk : List UInt8) : Option (List UInt8) :=
  match received with
  | none => none
  | some bytes =>
      let buffer := bytes ++ chunk
      if recvBufferCapacity < buffer.length then none
      else
        let l := loopAfter buffer (buffer.length + 2)
        match l.status with
        | .finished => some (leftover buffer l.parseSize)
        | _ => none

structure InBounds (lib : RtpLibrary) (buffer : List UInt8) (l : Loop) : Prop where
  status : l.status ≠ .outOfBounds
  nonneg : 0 ≤ l.parseSize
  le_length : l.parseSize ≤ buffer.length
  calls : ∀ access ∈ calls lib buffer l, access.Within buffer

structure ParseSafe (lib : RtpLibrary) (buffer : List UInt8) : Prop where
  capacity : buffer.length ≤ recvBufferCapacity
  ends : ∃ turns, (loopAfter buffer turns).status = .finished
  inBounds : ∀ turns, InBounds lib buffer (loopAfter buffer turns)

def CallSafe (lib : RtpLibrary) (received : Option (List UInt8)) (chunk : List UInt8) : Prop :=
  ∃ bytes, received = some bytes ∧ ParseSafe lib (bytes ++ chunk)

/-- The length of a packet that a signed 16-bit number can hold. -/
def lengthLimit : Nat := 0x8000

theorem readBigEndian_of_lt {high low : UInt8} (h : prefixLength high low < lengthLimit) :
    readBigEndian high low = prefixLength high low := by
  rw [lengthLimit] at h
  rw [readBigEndian, BitVec.toInt_eq_toNat_of_lt, BitVec.toNat_ofNat, Nat.mod_eq_of_lt (by omega)]
  rw [BitVec.toNat_ofNat]
  omega

theorem readBigEndian_neg {high low : UInt8} (h : ¬ prefixLength high low < lengthLimit) :
    readBigEndian high low < 0 := by
  have hhigh := high.toNat_lt
  have hlow := low.toNat_lt
  rw [lengthLimit] at h
  rw [prefixLength] at h
  rw [readBigEndian, BitVec.toInt_eq_toNat_cond, BitVec.toNat_ofNat, prefixLength, if_neg] <;>
    omega

theorem toSizeT_natCast {n : Nat} (h : n < 2 ^ 64) : toSizeT n = n := by
  rw [toSizeT]
  omega

theorem turn_short (front : List UInt8) {s : List UInt8} (h : s.length ≤ 2) :
    turn (front ++ s) front.length = .leave := by
  rw [turn, if_neg]
  rw [List.length_append]
  omega

theorem payloadSizeAt_append (front rest : List UInt8) (high low : UInt8) :
    payloadSizeAt (front ++ high :: low :: rest) front.length = .ok (readBigEndian high low) := by
  have hlow : readByte (front ++ high :: low :: rest) (front.length + 1) = .ok low := by
    have h := readByte_append (front ++ [high]) rest low
    simpa using h
  rw [payloadSizeAt, if_neg (by omega), Int.toNat_natCast, readByte_append, hlow]
  rfl

theorem turn_readable (front : List UInt8) {high low : UInt8} {rest : List UInt8}
    (hne : rest ≠ []) :
    turn (front ++ high :: low :: rest) front.length =
      if (rest.length : Int) < readBigEndian high low then .leave
      else .packet (readBigEndian high low) := by
  have hpos := List.length_pos_of_ne_nil hne
  have hlength : ((front ++ high :: low :: rest).length : Int) - front.length =
      rest.length + 2 := by
    simp only [List.length_append, List.length_cons]
    omega
  rw [turn, hlength, if_pos (by omega), payloadSizeAt_append]
  simp only [Int.add_lt_add_iff_right]

theorem turn_incomplete (front : List UInt8) {high low : UInt8} {rest : List UInt8}
    (hne : rest ≠ []) (hlimit : prefixLength high low < lengthLimit)
    (hlength : rest.length < prefixLength high low) :
    turn (front ++ high :: low :: rest) front.length = .leave := by
  rw [turn_readable front hne, readBigEndian_of_lt hlimit, if_pos (Int.ofNat_lt.mpr hlength)]

theorem turn_packet (front : List UInt8) {high low : UInt8} {payload bytes : List UInt8}
    (hne : payload ++ bytes ≠ []) (hlimit : prefixLength high low < lengthLimit)
    (hlength : payload.length = prefixLength high low) :
    turn (front ++ high :: low :: (payload ++ bytes)) front.length = .packet payload.length := by
  rw [turn_readable front hne, readBigEndian_of_lt hlimit, ← hlength, if_neg]
  rw [List.length_append]
  omega

theorem turn_negative (front : List UInt8) {high low : UInt8} {rest : List UInt8}
    (hne : rest ≠ []) (hlimit : ¬ prefixLength high low < lengthLimit) :
    turn (front ++ high :: low :: rest) front.length = .packet (readBigEndian high low) := by
  have hneg := readBigEndian_neg hlimit
  rw [turn_readable front hne, if_neg (by omega)]

theorem parseStep_running (buffer : List UInt8) (parseSize : Int) :
    parseStep buffer ⟨.running, parseSize⟩ =
      match turn buffer parseSize with
      | .leave => ⟨.finished, parseSize⟩
      | .outOfBounds => ⟨.outOfBounds, parseSize⟩
      | .packet payloadSize => ⟨.running, parseSize + 2 + payloadSize⟩ := rfl

theorem parseStep_of_ne_running {buffer : List UInt8} {l : Loop} (h : l.status ≠ .running) :
    parseStep buffer l = l := by
  rw [parseStep]
  split
  · contradiction
  · rfl

theorem parseStep_packet (front : List UInt8) {high low : UInt8} {payload bytes : List UInt8}
    (hne : payload ++ bytes ≠ []) (hlimit : prefixLength high low < lengthLimit)
    (hlength : payload.length = prefixLength high low) :
    parseStep (front ++ high :: low :: (payload ++ bytes)) ⟨.running, front.length⟩ =
      ⟨.running, (front ++ high :: low :: payload).length⟩ := by
  have hposition : (front.length : Int) + 2 + payload.length =
      (front ++ high :: low :: payload).length := by
    simp only [List.length_append, List.length_cons]
    omega
  rw [parseStep_running, turn_packet front hne hlimit hlength, ← hposition]

/-- The calls for a packet whose length is not negative stay inside the packet. -/
theorem within_of_packetCalls {lib : RtpLibrary} (hlib : lib.PayloadWithin)
    {buffer : List UInt8} {parseSize : Int} {length : Nat} (hlength : length < 2 ^ 64)
    (hnonneg : 0 ≤ parseSize) (hle : parseSize + length ≤ buffer.length) {access : Access}
    (haccess : access ∈ packetCalls lib buffer parseSize length) : access.Within buffer := by
  have hwhole : ∀ callee, Access.Within buffer ⟨callee, parseSize, length⟩ := fun _ =>
    ⟨Int.natCast_nonneg _, hnonneg, hle⟩
  rw [packetCalls, toSizeT_natCast hlength] at haccess
  split at haccess
  · rw [List.mem_append, List.mem_pair] at haccess
    rcases haccess with (rfl | rfl) | hpayload
    · exact hwhole _
    · exact hwhole _
    · split at hpayload
      · contradiction
      · rename_i packet hparse
        have hpacket := hlib _ _ _ hparse
        split at hpayload
        · obtain rfl := List.mem_singleton.mp hpayload
          refine ⟨Int.natCast_nonneg _, ?_, ?_⟩ <;> dsimp only <;> omega
        · contradiction
  · rw [List.mem_append, List.mem_pair] at haccess
    rcases haccess with (rfl | rfl) | hrtcp
    · exact hwhole _
    · exact hwhole _
    · split at hrtcp
      · obtain rfl := List.mem_singleton.mp hrtcp
        exact hwhole _
      · contradiction

theorem isRtpPacket_mem_packetCalls (lib : RtpLibrary) (buffer : List UInt8)
    (parseSize payloadSize : Int) :
    ⟨.isRtpPacket, parseSize, payloadSize⟩ ∈ packetCalls lib buffer parseSize payloadSize := by
  rw [packetCalls]
  split <;> exact List.mem_append_left _ List.mem_cons_self

theorem calls_of_packet (lib : RtpLibrary) {buffer : List UInt8} {parseSize payloadSize : Int}
    (hturn : turn buffer parseSize = .packet payloadSize) :
    calls lib buffer ⟨.running, parseSize⟩ =
      packetCalls lib buffer (parseSize + 2) payloadSize := by
  rw [calls, hturn]

theorem calls_of_leave (lib : RtpLibrary) {buffer : List UInt8} {parseSize : Int}
    (hturn : turn buffer parseSize = .leave) (status : Status) :
    calls lib buffer ⟨status, parseSize⟩ = [] := by
  rw [calls, hturn]
  cases status <;> rfl

theorem inBounds_of_leave (lib : RtpLibrary) {buffer : List UInt8} {position : Nat}
    {status : Status} (hturn : turn buffer position = .leave) (hstatus : status ≠ .outOfBounds)
    (hle : position ≤ buffer.length) : InBounds lib buffer ⟨status, position⟩ where
  status := hstatus
  nonneg := Int.natCast_nonneg _
  le_length := Int.ofNat_le.mpr hle
  calls := by
    intro access haccess
    rw [calls_of_leave lib hturn] at haccess
    contradiction

theorem parseStep_of_leave {buffer : List UInt8} {parseSize : Int}
    (hturn : turn buffer parseSize = .leave) :
    parseStep buffer ⟨.running, parseSize⟩ = ⟨.finished, parseSize⟩ := by
  rw [parseStep_running, hturn]

theorem inBounds_iterate_of_leave (lib : RtpLibrary) {buffer : List UInt8} {position : Nat}
    (hturn : turn buffer position = .leave) (hle : position ≤ buffer.length) (turns : Nat) :
    InBounds lib buffer ((parseStep buffer)^[turns] ⟨.running, position⟩) := by
  refine forall_iterate_of_succ ?_ ?_ turns
  · exact inBounds_of_leave lib hturn (by decide) hle
  · intro turns
    rw [parseStep_of_leave hturn, Function.iterate_fixed (parseStep_of_ne_running (by simp))]
    exact inBounds_of_leave lib hturn (by decide) hle

theorem inBounds_of_packet {lib : RtpLibrary} (hlib : lib.PayloadWithin) (front : List UInt8)
    {high low : UInt8} {payload bytes : List UInt8} (hne : payload ++ bytes ≠ [])
    (hlimit : prefixLength high low < lengthLimit)
    (hlength : payload.length = prefixLength high low) :
    InBounds lib (front ++ high :: low :: (payload ++ bytes)) ⟨.running, front.length⟩ where
  status := by simp
  nonneg := Int.natCast_nonneg _
  le_length := by
    rw [List.length_append]
    exact Int.ofNat_le.mpr (Nat.le_add_right _ _)
  calls := by
    intro access haccess
    rw [calls_of_packet lib (turn_packet front hne hlimit hlength)] at haccess
    have hsmall : payload.length < 2 ^ 64 := by
      rw [hlength]
      exact Nat.lt_trans hlimit (by decide)
    refine within_of_packetCalls hlib hsmall ?_ ?_ haccess
    · omega
    · simp only [List.length_append, List.length_cons]
      omega

/-- On a stream of positive lengths the loop parses every whole packet and then
ends in front of the rest. -/
theorem ends_of_framed {s rest : List UInt8} {packets : List (List UInt8)}
    (h : Framed lengthLimit s packets rest) (front : List UInt8) :
    ∃ turns, (parseStep (front ++ s))^[turns] ⟨.running, front.length⟩ =
      ⟨.finished, (front.length + s.length - rest.length : Nat)⟩ := by
  induction h generalizing front with
  | short hlength =>
      rw [Nat.add_sub_cancel]
      exact ⟨1, parseStep_of_leave (turn_short front hlength)⟩
  | incomplete hne hlimit hlength =>
      rw [Nat.add_sub_cancel]
      exact ⟨1, parseStep_of_leave (turn_incomplete front hne hlimit hlength)⟩
  | @packet high low payload bytes rest packets hne hlimit hlength _ ih =>
      have hbuffer : front ++ high :: low :: (payload ++ bytes) =
          (front ++ high :: low :: payload) ++ bytes := by simp
      obtain ⟨turns, hturns⟩ := ih (front ++ high :: low :: payload)
      rw [← hbuffer, ← parseStep_packet front hne hlimit hlength] at hturns
      refine ⟨turns + 1, hturns.trans ?_⟩
      simp only [List.length_append, List.length_cons]
      congr 3
      omega

theorem inBounds_of_framed {lib : RtpLibrary} (hlib : lib.PayloadWithin) {s rest : List UInt8}
    {packets : List (List UInt8)} (h : Framed lengthLimit s packets rest)
    (front : List UInt8) (turns : Nat) :
    InBounds lib (front ++ s) ((parseStep (front ++ s))^[turns] ⟨.running, front.length⟩) := by
  induction h generalizing front turns with
  | short hlength =>
      refine inBounds_iterate_of_leave lib (turn_short front hlength) ?_ turns
      rw [List.length_append]
      omega
  | incomplete hne hlimit hlength =>
      refine inBounds_iterate_of_leave lib (turn_incomplete front hne hlimit hlength) ?_ turns
      rw [List.length_append]
      omega
  | @packet high low payload bytes rest packets hne hlimit hlength _ ih =>
      have hbuffer : front ++ high :: low :: (payload ++ bytes) =
          (front ++ high :: low :: payload) ++ bytes := by simp
      refine forall_iterate_of_succ ?_ ?_ turns
      · exact inBounds_of_packet hlib front hne hlimit hlength
      · rw [parseStep_packet front hne hlimit hlength, hbuffer]
        exact ih (front ++ high :: low :: payload)

theorem limit_of_inBounds {lib : RtpLibrary} {front rest : List UInt8} {high low : UInt8}
    (hne : rest ≠ [])
    (h : InBounds lib (front ++ high :: low :: rest) ⟨.running, front.length⟩) :
    prefixLength high low < lengthLimit := by
  by_contra hlimit
  have hneg := readBigEndian_neg hlimit
  have hcalls := h.calls
  rw [calls_of_packet lib (turn_negative front hne hlimit)] at hcalls
  have hwithin := hcalls _ (isRtpPacket_mem_packetCalls lib _ _ _)
  exact absurd hwithin.1 (Int.not_le.mpr hneg)

theorem wellFramed_of_inBounds {lib : RtpLibrary} (s front : List UInt8)
    (h : ∀ turns, InBounds lib (front ++ s)
      ((parseStep (front ++ s))^[turns] ⟨.running, front.length⟩)) :
    WellFramed lengthLimit s := by
  induction s using stream_induction generalizing front with
  | short bytes hlength => exact (Framed.short hlength).wellFramed
  | incomplete high low rest hne hlength =>
      exact (Framed.incomplete hne (limit_of_inBounds hne (h 0)) hlength).wellFramed
  | packet high low payload bytes hne hlength ih =>
      have hlimit := limit_of_inBounds hne (h 0)
      have hbuffer : front ++ high :: low :: (payload ++ bytes) =
          (front ++ high :: low :: payload) ++ bytes := by simp
      have hstep := parseStep_packet front hne hlimit hlength
      refine WellFramed.packet (ih (front ++ high :: low :: payload) ?_) hne hlimit hlength
      intro turns
      rw [← hbuffer, ← hstep]
      exact h (turns + 1)

theorem parseSafe_iff {lib : RtpLibrary} (hlib : lib.PayloadWithin) {buffer : List UInt8}
    (hcapacity : buffer.length ≤ recvBufferCapacity) :
    ParseSafe lib buffer ↔ WellFramed lengthLimit buffer := by
  constructor
  · intro h
    exact wellFramed_of_inBounds buffer [] h.inBounds
  · rintro ⟨packets, rest, h⟩
    obtain ⟨turns, hturns⟩ := ends_of_framed h []
    exact ⟨hcapacity, ⟨turns, congrArg Loop.status hturns⟩, inBounds_of_framed hlib h []⟩

/-- A packet is taken only where its length can be read, and not past the end. -/
theorem bounds_of_turn_packet {buffer : List UInt8} {parseSize payloadSize : Int}
    (h : turn buffer parseSize = .packet payloadSize) :
    0 ≤ parseSize ∧ parseSize + 2 + payloadSize ≤ buffer.length := by
  rw [turn] at h
  split at h
  · cases hread : payloadSizeAt buffer parseSize with
    | error fault => simp [hread] at h
    | ok size =>
        have hnonneg : 0 ≤ parseSize := by
          by_contra hneg
          rw [payloadSizeAt, if_pos (Int.not_le.mp hneg)] at hread
          contradiction
        simp only [hread] at h
        split at h
        · contradiction
        · obtain rfl := Turn.packet.inj h
          omega
  · contradiction

theorem parseSize_parseStep_le {buffer : List UInt8} {l : Loop}
    (h : l.parseSize ≤ buffer.length) : (parseStep buffer l).parseSize ≤ buffer.length := by
  obtain ⟨status, parseSize⟩ := l
  by_cases hstatus : status = .running
  · subst hstatus
    rw [parseStep_running]
    cases hturn : turn buffer parseSize with
    | leave | outOfBounds => exact h
    | packet payloadSize => exact (bounds_of_turn_packet hturn).2
  · rw [parseStep_of_ne_running hstatus]
    exact h

theorem parseStep_status_of_neg {buffer : List UInt8} {l : Loop} (h : l.parseSize < 0) :
    (parseStep buffer l).status ≠ .running := by
  obtain ⟨status, parseSize⟩ := l
  by_cases hstatus : status = .running
  · subst hstatus
    rw [parseStep_running]
    cases hturn : turn buffer parseSize with
    | leave | outOfBounds => simp
    | packet payloadSize => exact absurd (bounds_of_turn_packet hturn).1 (Int.not_le.mpr h)
  · rw [parseStep_of_ne_running hstatus]
    exact hstatus

theorem parseSize_loopAfter_le (buffer : List UInt8) (turns : Nat) :
    (loopAfter buffer turns).parseSize ≤ buffer.length := by
  induction turns with
  | zero => exact Int.natCast_nonneg _
  | succ turns ih =>
      rw [loopAfter, Function.iterate_succ_apply']
      exact parseSize_parseStep_le ih

/-- A loop that ends does so within the turns that `onRecv` allows. -/
theorem loopAfter_of_stopped {buffer : List UInt8} {turns : Nat}
    (h : (loopAfter buffer turns).status ≠ .running) :
    loopAfter buffer (buffer.length + 2) = loopAfter buffer turns := by
  let stopped : Loop → Prop := fun l => l.status ≠ .running ∨ l.parseSize < 0
  let positions : Finset Loop :=
    (Finset.Icc (0 : Int) buffer.length).image fun parseSize => ⟨.running, parseSize⟩
  have hstay : ∀ l, stopped l → stopped (parseStep buffer l) := by
    rintro l (hstatus | hneg)
    · rw [parseStep_of_ne_running hstatus]
      exact Or.inl hstatus
    · exact Or.inl (parseStep_status_of_neg hneg)
  have hpositions : ∀ n, ¬ stopped (loopAfter buffer n) → loopAfter buffer n ∈ positions := by
    intro n hrunning
    obtain ⟨hstatus, hnonneg⟩ := not_or.mp hrunning
    refine Finset.mem_image.mpr ⟨(loopAfter buffer n).parseSize, ?_, ?_⟩
    · exact Finset.mem_Icc.mpr ⟨Int.not_lt.mp hnonneg, parseSize_loopAfter_le buffer n⟩
    · rw [← not_not.mp hstatus]
  have hcard : positions.card ≤ buffer.length + 1 := by
    apply Finset.card_image_le.trans
    rw [Int.card_Icc]
    omega
  have hstopped : stopped (loopAfter buffer (buffer.length + 1)) :=
    stopped_iterate_of_le hstay hcard (stopped_iterate_card hstay positions hpositions (Or.inl h))
  have hlast : (loopAfter buffer (buffer.length + 2)).status ≠ .running := by
    rw [loopAfter, Function.iterate_succ_apply']
    rcases hstopped with hstatus | hneg
    · rw [← loopAfter, parseStep_of_ne_running hstatus]
      exact hstatus
    · exact parseStep_status_of_neg hneg
  rcases Nat.le_total turns (buffer.length + 2) with hle | hle
  · exact iterate_eq_of_fixed (parseStep_of_ne_running h) hle
  · exact (iterate_eq_of_fixed (parseStep_of_ne_running hlast) hle).symm

theorem leftover_eq {s rest : List UInt8} {packets : List (List UInt8)}
    (h : Framed lengthLimit s packets rest) :
    leftover s (s.length - rest.length : Nat) = rest := by
  have hdrop : rest = s.drop (s.length - rest.length) :=
    List.suffix_iff_eq_drop.mp h.rest_suffix
  rw [leftover, Int.toNat_natCast, ← hdrop]
  split
  · rfl
  · rename_i hempty
    have hle := h.rest_suffix.length_le
    have hlength : rest.length = 0 := by omega
    exact (List.eq_nil_of_length_eq_zero hlength).symm

theorem onRecv_of_framed {bytes chunk rest : List UInt8} {packets : List (List UInt8)}
    (h : Framed lengthLimit (bytes ++ chunk) packets rest)
    (hcapacity : (bytes ++ chunk).length ≤ recvBufferCapacity) :
    onRecv (some bytes) chunk = some rest := by
  obtain ⟨turns, hturns⟩ := ends_of_framed h []
  have hend : loopAfter (bytes ++ chunk) turns =
      ⟨.finished, ((bytes ++ chunk).length - rest.length : Nat)⟩ := by
    simpa [loopAfter] using hturns
  have hstopped : (loopAfter (bytes ++ chunk) turns).status ≠ .running := by simp [hend]
  rw [onRecv]
  simp only [if_neg (Nat.not_lt.mpr hcapacity), loopAfter_of_stopped hstopped, hend, leftover_eq h]

theorem callSafe_some_iff {lib : RtpLibrary} {bytes chunk : List UInt8} :
    CallSafe lib (some bytes) chunk ↔ ParseSafe lib (bytes ++ chunk) := by
  constructor
  · rintro ⟨_, heq, hsafe⟩
    rw [Option.some.inj heq]
    exact hsafe
  · exact fun hsafe => ⟨bytes, rfl, hsafe⟩

/-- What one call leaves behind, and what is still to come, decide about the calls
that follow. -/
theorem admitted_callSafe_iff {lib : RtpLibrary} (hlib : lib.PayloadWithin)
    {chunks : List (List UInt8)}
    (hchunks : ∀ chunk ∈ chunks, chunk.length ≤ recvBufferCapacity - 65538)
    {rest : List UInt8} (hrest : Framed lengthLimit rest [] rest) :
    Admitted onRecv (CallSafe lib) (some rest) chunks ↔
      WellFramed lengthLimit (rest ++ chunks.flatten) := by
  induction chunks generalizing rest with
  | nil => simp [admitted_nil, hrest.wellFramed]
  | cons chunk chunks ih =>
      obtain ⟨hchunk, hchunks⟩ := List.forall_mem_cons.mp hchunks
      have hcapacity : (rest ++ chunk).length ≤ recvBufferCapacity := by
        have hlength := hrest.length_rest_le
        rw [lengthLimit] at hlength
        rw [recvBufferCapacity] at hchunk ⊢
        rw [List.length_append]
        omega
      have hlater : ∀ {packets later}, Framed lengthLimit (rest ++ chunk) packets later →
          (Admitted onRecv (CallSafe lib) (onRecv (some rest) chunk) chunks ↔
            WellFramed lengthLimit (rest ++ chunk ++ chunks.flatten)) := by
        intro packets later h
        rw [onRecv_of_framed h hcapacity, ih hchunks h.rest_framed, h.wellFramed_append_iff]
      rw [admitted_cons, callSafe_some_iff, parseSafe_iff hlib hcapacity, List.flatten_cons,
        ← List.append_assoc]
      constructor
      · rintro ⟨⟨_, _, h⟩, hrun⟩
        exact (hlater h).mp hrun
      · intro hwell
        obtain ⟨_, _, h⟩ := hwell.of_append
        exact ⟨h.wellFramed, (hlater h).mpr hwell⟩

/-- Every call of a run ends and stays in bounds exactly when no length of the
received stream, read behind the packets in front of it, is `0x8000` or more. -/
theorem onRecv_safe_iff {lib : RtpLibrary} (hlib : lib.PayloadWithin)
    (chunks : List (List UInt8))
    (hchunks : ∀ chunk ∈ chunks, chunk.length ≤ recvBufferCapacity - 65538) :
    Admitted onRecv (CallSafe lib) (some []) chunks ↔
      WellFramed lengthLimit chunks.flatten := by
  have hnil : Framed lengthLimit [] [] [] := .short (Nat.zero_le 2)
  rw [admitted_callSafe_iff hlib hchunks hnil, List.nil_append]

section Sample

/-- The type in the first two bytes of an RTP or RTCP packet of version two. -/
def headerType : List UInt8 → Option Nat
  | first :: second :: _ => if first.toNat / 64 = 2 then some (second.toNat % 128) else none
  | _ => none

def plainParse (memory : List UInt8) (size : Nat) : Option RtpPacket :=
  match headerType memory with
  | some type => if 12 ≤ size then some ⟨type, 12, size - 12⟩ else none
  | none => none

/-- RTP without contributing sources, extensions and padding. -/
def plainRtp : RtpLibrary where
  isRtpPacket memory size :=
    12 ≤ size && (headerType memory).any fun type => type < 64 || 96 ≤ type
  isRtcpPacket memory size :=
    4 ≤ size && (headerType memory).any fun type => 64 ≤ type && type < 96
  parse := plainParse

theorem plainRtp_payloadWithin : plainRtp.PayloadWithin := by
  intro memory size packet hparse
  change plainParse memory size = some packet at hparse
  rw [plainParse] at hparse
  split at hparse
  · split at hparse
    · obtain rfl := Option.some.inj hparse
      dsimp only
      omega
    · contradiction
  · contradiction

end Sample

theorem onRecv_safe_of_split_packet :
    Admitted onRecv (CallSafe plainRtp) (some [])
      [[0x00, 0x0D, 0x80], [0x60, 0, 1, 0, 0, 0, 0, 0, 0, 0, 9, 0xBA, 0x00, 0x0C, 0x80]] :=
  (onRecv_safe_iff plainRtp_payloadWithin _ (by decide)).mpr
    (Framed.packet (by decide) (by decide) rfl (.incomplete (by decide) (by decide) (by decide)) :
      Framed lengthLimit
        (0x00 :: 0x0D :: ([0x80, 0x60, 0, 1, 0, 0, 0, 0, 0, 0, 0, 9, 0xBA] ++
          [0x00, 0x0C, 0x80]))
        [[0x80, 0x60, 0, 1, 0, 0, 0, 0, 0, 0, 0, 9, 0xBA]] [0x00, 0x0C, 0x80]).wellFramed

/-- The length `0xFFFE` is read as `-2`, which takes back the two bytes of the
length itself. -/
theorem loopAfter_minus_two {rest : List UInt8} (hne : rest ≠ []) (turns : Nat) :
    loopAfter (0xFF :: 0xFE :: rest) turns = ⟨.running, 0⟩ := by
  have hturn : turn (0xFF :: 0xFE :: rest) 0 = .packet (-2) :=
    turn_negative [] hne (by decide)
  have hstep : parseStep (0xFF :: 0xFE :: rest) ⟨.running, 0⟩ = ⟨.running, 0⟩ := by
    rw [parseStep_running, hturn]
    rfl
  exact Function.iterate_fixed hstep turns

theorem not_onRecv_safe :
    ¬ ∀ chunks : List (List UInt8),
      (∀ chunk ∈ chunks, chunk.length ≤ recvBufferCapacity - 65538) →
        Admitted onRecv (CallSafe plainRtp) (some []) chunks := by
  intro hclaim
  have hrun := hclaim [[0xFF, 0xFE, 0x00]] (by decide)
  obtain ⟨hsafe, _⟩ := admitted_cons.mp hrun
  obtain ⟨turns, hend⟩ := (callSafe_some_iff.mp hsafe).ends
  have hloop := loopAfter_minus_two (List.cons_ne_nil (0x00 : UInt8) []) turns
  rw [List.nil_append, hloop] at hend
  contradiction

end GBServer.Gb28181Receive
