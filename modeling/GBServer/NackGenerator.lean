import GBServer.Foundation.OrderedMap
import GBServer.Foundation.Runs
import GBServer.Foundation.SerialNumber

/-!
The receiver-side NACK generator: it unwraps 16-bit RTP sequence numbers into
extended indices, keeps a table of the numbers still missing, and decides which
of them to request.  The table is keyed by the 16-bit number alone.
-/

namespace GBServer

open Std (ExtTreeMap)
open Foundation.OrderedMap
open Foundation.Runs
open Foundation.SerialNumber

namespace NackGenerator

def kMaxNackAgeMs : Int := 1000
def kMaxNackRetries : Nat := 10
def kFirstNackDelayMs : Int := 0
def kMinNackIntervalMs : Int := 20
def kProcessIntervalMs : Int := 20
def kMaxPendingSeq : Nat := 1000
def kMaxReorder : Int := 1000
def kDefaultRttMs : Int := 100

end NackGenerator

structure NackEntry where
  firstMissedAtMs : Int := 0
  sendAtMs : Int := 0
  sendCount : Nat := 0
  deriving DecidableEq, Repr

instance transCmpSequenceNumber : Std.TransCmp (compare : BitVec 16 → BitVec 16 → Ordering) :=
  BitVec.instTransOrd

abbrev NackList := ExtTreeMap (BitVec 16) NackEntry

structure NackGenerator where
  nackList : NackList := ∅
  lastSeqUnwrap : Int := -1
  lastSeqRaw : BitVec 16 := 0
  initialized : Bool := false
  rttMs : Int := 100
  lastProcessAtMs : Int := 0

namespace NackGenerator

def unwrap (g : NackGenerator) (seq : BitVec 16) : Int :=
  if g.initialized then g.lastSeqUnwrap + (seq - g.lastSeqRaw).toInt
  else seq.toNat

/-- The indices visited by the loop of `AddMissingRange`. -/
def openRange (fromExclusive toExclusive : Int) : List Int :=
  (List.range (toExclusive - fromExclusive - 1).toNat).map
    fun n : Nat => fromExclusive + 1 + (n : Int)

/-- The linear scan of `TrimBySize`: the first entry, in key order, among those
missed longest. -/
def oldest? (nackList : NackList) : Option (BitVec 16) :=
  match nackList.toList with
  | [] => none
  | first :: rest =>
      some (rest.foldl (fun oldest it =>
        if it.2.firstMissedAtMs < oldest.2.firstMissedAtMs then it else oldest) first).1

def trimBySize (nackList : NackList) : NackList :=
  evict oldest? kMaxPendingSeq nackList

def addMissingRange (g : NackGenerator) (fromExclusive toExclusive nowMs : Int) :
    NackGenerator :=
  { g with
    nackList := trimBySize
      (insertAllIfNew g.nackList ((openRange fromExclusive toExclusive).map (serial 16))
        { firstMissedAtMs := nowMs, sendAtMs := 0, sendCount := 0 }) }

def onReceivedPacket (g : NackGenerator) (seq : BitVec 16) (nowMs : Int) :
    NackGenerator :=
  if !g.initialized then
    { g with initialized := true, lastSeqRaw := seq, lastSeqUnwrap := seq.toNat }
  else
    let unwrapped := g.unwrap seq
    if unwrapped = g.lastSeqUnwrap then g
    else if g.lastSeqUnwrap < unwrapped then
      { g.addMissingRange g.lastSeqUnwrap unwrapped nowMs with
        lastSeqUnwrap := unwrapped, lastSeqRaw := seq }
    else
      let reorder := g.lastSeqUnwrap - unwrapped
      if kMaxReorder < reorder then
        { g with nackList := ∅, lastSeqRaw := seq, lastSeqUnwrap := seq.toNat }
      else
        { g with nackList := g.nackList.erase seq }

/-- What the loop of `GetNackBatch` does with one entry. -/
inductive Visit where
  | drop
  | keep
  | request

def expired (nowMs : Int) (e : NackEntry) : Bool :=
  kMaxNackAgeMs < nowMs - e.firstMissedAtMs || kMaxNackRetries ≤ e.sendCount

def visit (nowMs rttForCooldown : Int) (e : NackEntry) : Visit :=
  if expired nowMs e then .drop
  else if e.sendAtMs = 0 then
    if nowMs - e.firstMissedAtMs < kFirstNackDelayMs then .keep else .request
  else if nowMs - e.sendAtMs < rttForCooldown then .keep
  else .request

def afterVisit (nowMs rttForCooldown : Int) (e : NackEntry) : Option NackEntry :=
  match visit nowMs rttForCooldown e with
  | .drop => none
  | .keep => some e
  | .request => some { e with sendAtMs := nowMs, sendCount := e.sendCount + 1 }

def requested (nowMs rttForCooldown : Int) (e : NackEntry) : Bool :=
  match visit nowMs rttForCooldown e with
  | .request => true
  | _ => false

def rttForCooldown (g : NackGenerator) : Int :=
  max g.rttMs kMinNackIntervalMs

/-- `GetNackBatch` returns before its loop because it ran a moment ago. -/
def throttled (g : NackGenerator) (nowMs : Int) : Bool :=
  g.lastProcessAtMs ≠ 0 && nowMs - g.lastProcessAtMs < kProcessIntervalMs

def getNackBatch (g : NackGenerator) (nowMs : Int) : NackGenerator × List (BitVec 16) :=
  if g.nackList.isEmpty then ({ g with lastProcessAtMs := nowMs }, [])
  else if g.throttled nowMs then (g, [])
  else
    ({ g with
        lastProcessAtMs := nowMs
        nackList := g.nackList.filterMap fun _ => afterVisit nowMs g.rttForCooldown },
      g.nackList.toList.filterMap fun it =>
        if requested nowMs g.rttForCooldown it.2 then some it.1 else none)

def setRtt (g : NackGenerator) (rttMs : Int) : NackGenerator :=
  { g with rttMs := if rttMs ≤ 0 then kDefaultRttMs else rttMs }

def reset (g : NackGenerator) : NackGenerator :=
  { g with
    nackList := ∅
    lastSeqUnwrap := -1
    lastSeqRaw := 0
    initialized := false
    lastProcessAtMs := 0 }

def pendingSize (g : NackGenerator) : Nat := g.nackList.size

inductive Input where
  | packet (seq : BitVec 16) (nowMs : Int)
  | batch (nowMs : Int)
  | rtt (rttMs : Int)
  | reset

def Input.time? : Input → Option Int
  | .packet _ nowMs => some nowMs
  | .batch nowMs => some nowMs
  | _ => none

def Nondecreasing (inputs : List Input) : Prop :=
  (inputs.filterMap Input.time?).Pairwise (· ≤ ·)

instance (inputs : List Input) : Decidable (Nondecreasing inputs) :=
  inferInstanceAs (Decidable (List.Pairwise _ _))

theorem nondecreasing_append {front back : List Input} :
    Nondecreasing (front ++ back) ↔ Nondecreasing front ∧ Nondecreasing back ∧
      ∀ time ∈ front.filterMap Input.time?, ∀ later ∈ back.filterMap Input.time?,
        time ≤ later := by
  rw [Nondecreasing, List.filterMap_append, List.pairwise_append]
  rfl

def step (g : NackGenerator) : Input → NackGenerator
  | .packet seq nowMs => g.onReceivedPacket seq nowMs
  | .batch nowMs => (g.getNackBatch nowMs).1
  | .rtt rttMs => g.setRtt rttMs
  | .reset => g.reset

theorem mem_openRange {fromExclusive toExclusive j : Int} :
    j ∈ openRange fromExclusive toExclusive ↔ fromExclusive < j ∧ j < toExclusive := by
  simp only [openRange, List.mem_map, List.mem_range]
  constructor
  · rintro ⟨n, hn, rfl⟩
    omega
  · rintro ⟨hlow, hhigh⟩
    exact ⟨(j - fromExclusive - 1).toNat, by omega, by omega⟩

theorem scan_mem (rest : List (BitVec 16 × NackEntry)) (first : BitVec 16 × NackEntry) :
    (rest.foldl (fun oldest it =>
      if it.2.firstMissedAtMs < oldest.2.firstMissedAtMs then it else oldest) first) ∈
      first :: rest := by
  induction rest generalizing first with
  | nil => simp
  | cons it rest ih =>
      rw [List.foldl_cons]
      split
      · exact List.mem_cons_of_mem _ (ih it)
      · rcases List.mem_cons.mp (ih first) with heq | hmem
        · rw [heq]
          exact List.mem_cons_self
        · exact List.mem_cons_of_mem _ (List.mem_cons_of_mem _ hmem)

theorem exists_oldest? {nackList : NackList} (hne : nackList ≠ ∅) :
    ∃ key ∈ nackList, oldest? nackList = some key := by
  cases hlist : nackList.toList with
  | nil => exact absurd (ExtTreeMap.toList_eq_nil_iff.mp hlist) hne
  | cons first rest =>
      refine ⟨_, ?_, by rw [oldest?, hlist]⟩
      rw [← ExtTreeMap.mem_keys, ← ExtTreeMap.map_fst_toList_eq_keys, hlist]
      exact List.mem_map_of_mem (scan_mem rest first)

theorem size_trimBySize_le (nackList : NackList) :
    (trimBySize nackList).size ≤ kMaxPendingSeq :=
  size_evict_le oldest? kMaxPendingSeq (fun _ => exists_oldest?) nackList

/-- An entry after `AddMissingRange` was there before, or is a fresh one for an
index of the range whose number was free. -/
theorem getElem?_of_addMissingRange {g : NackGenerator} {a b nowMs : Int}
    {key : BitVec 16} {e : NackEntry}
    (h : (g.addMissingRange a b nowMs).nackList[key]? = some e) :
    g.nackList[key]? = some e ∨
      (g.nackList[key]? = none ∧ e = { firstMissedAtMs := nowMs } ∧
        ∃ j, a < j ∧ j < b ∧ key = serial 16 j) := by
  have hinserted := getElem?_of_evict _ _ h
  rw [getElem?_insertAllIfNew] at hinserted
  split at hinserted
  · rename_i hfree
    obtain ⟨j, hj, rfl⟩ := List.mem_map.mp hfree.2
    rw [mem_openRange] at hj
    exact Or.inr ⟨hfree.1, (Option.some.inj hinserted).symm, j, hj.1, hj.2, rfl⟩
  · exact Or.inl hinserted

theorem mem_nackList_of_getNackBatch {g : NackGenerator} {nowMs : Int} {key : BitVec 16}
    (h : key ∈ (g.getNackBatch nowMs).1.nackList) : key ∈ g.nackList := by
  rw [getNackBatch] at h
  split at h
  · exact h
  · split at h
    · exact h
    · exact ExtTreeMap.mem_of_mem_filterMap h

theorem getNackBatch_snd (g : NackGenerator) (nowMs : Int) :
    (g.getNackBatch nowMs).2 =
      if g.nackList.isEmpty || g.throttled nowMs then []
      else g.nackList.toList.filterMap fun it =>
        if requested nowMs g.rttForCooldown it.2 then some it.1 else none := by
  rw [getNackBatch]
  cases g.nackList.isEmpty with
  | true => rfl
  | false => cases g.throttled nowMs <;> rfl

theorem mem_getNackBatch_iff {g : NackGenerator} {nowMs : Int} {key : BitVec 16} :
    key ∈ (g.getNackBatch nowMs).2 ↔
      g.throttled nowMs = false ∧
        ∃ e, g.nackList[key]? = some e ∧ requested nowMs g.rttForCooldown e = true := by
  rw [getNackBatch_snd]
  cases hempty : g.nackList.isEmpty with
  | true =>
      have hlist : g.nackList = ∅ := ExtTreeMap.isEmpty_iff.mp hempty
      simp [hlist]
  | false =>
      cases hthrottled : g.throttled nowMs with
      | true => simp
      | false =>
          simp only [Bool.or_self, Bool.false_eq_true, if_false, List.mem_filterMap, true_and]
          constructor
          · rintro ⟨it, hit, hkey⟩
            split at hkey
            · rename_i hrequested
              obtain rfl := Option.some.inj hkey
              exact ⟨it.2, ExtTreeMap.mem_toList_iff_getElem?_eq_some.mp hit, hrequested⟩
            · cases hkey
          · rintro ⟨e, he, hrequested⟩
            refine ⟨(key, e), ExtTreeMap.mem_toList_iff_getElem?_eq_some.mpr he, ?_⟩
            rw [if_pos hrequested]

theorem getNackBatch_getElem? (g : NackGenerator) (nowMs : Int) (key : BitVec 16) :
    (g.getNackBatch nowMs).1.nackList[key]? =
      if g.throttled nowMs then g.nackList[key]?
      else g.nackList[key]?.bind (afterVisit nowMs g.rttForCooldown) := by
  rw [getNackBatch]
  cases hempty : g.nackList.isEmpty with
  | true =>
      have hlist : g.nackList = ∅ := ExtTreeMap.isEmpty_iff.mp hempty
      simp [hlist]
  | false =>
      cases g.throttled nowMs with
      | true => rfl
      | false => exact ExtTreeMap.getElem?_filterMap'

theorem isSome_afterVisit (nowMs rttForCooldown : Int) (e : NackEntry) :
    (afterVisit nowMs rttForCooldown e).isSome = !expired nowMs e := by
  rw [afterVisit, visit]
  cases expired nowMs e with
  | true => rfl
  | false =>
      simp only [Bool.false_eq_true, if_false]
      split_ifs <;> rfl

theorem firstMissedAtMs_of_afterVisit {nowMs rttForCooldown : Int} {e e' : NackEntry}
    (h : afterVisit nowMs rttForCooldown e = some e') :
    e'.firstMissedAtMs = e.firstMissedAtMs := by
  rw [afterVisit] at h
  split at h
  · cases h
  · cases h
    rfl
  · cases h
    rfl

theorem mem_getNackBatch_nackList_iff {g : NackGenerator} {nowMs : Int}
    (hkept : g.throttled nowMs = false → ∀ (key : BitVec 16) (e : NackEntry),
      g.nackList[key]? = some e → expired nowMs e = false) {key : BitVec 16} :
    key ∈ (g.getNackBatch nowMs).1.nackList ↔ key ∈ g.nackList := by
  rw [ExtTreeMap.mem_iff_isSome_getElem?, ExtTreeMap.mem_iff_isSome_getElem?,
    getNackBatch_getElem?]
  cases hthrottled : g.throttled nowMs with
  | true => rfl
  | false =>
      cases hget : g.nackList[key]? with
      | none => rfl
      | some e =>
          simp [isSome_afterVisit, hkept hthrottled key e hget]

theorem mem_nackList_of_requested {g : NackGenerator} {nowMs : Int} {key : BitVec 16}
    (h : key ∈ (g.getNackBatch nowMs).2) : key ∈ g.nackList := by
  obtain ⟨_, e, he, _⟩ := mem_getNackBatch_iff.mp h
  exact mem_of_getElem?_eq_some he

@[simp] theorem getNackBatch_lastSeqUnwrap (g : NackGenerator) (nowMs : Int) :
    (g.getNackBatch nowMs).1.lastSeqUnwrap = g.lastSeqUnwrap := by
  rw [getNackBatch]
  split
  · rfl
  · split <;> rfl

@[simp] theorem getNackBatch_lastSeqRaw (g : NackGenerator) (nowMs : Int) :
    (g.getNackBatch nowMs).1.lastSeqRaw = g.lastSeqRaw := by
  rw [getNackBatch]
  split
  · rfl
  · split <;> rfl

@[simp] theorem getNackBatch_initialized (g : NackGenerator) (nowMs : Int) :
    (g.getNackBatch nowMs).1.initialized = g.initialized := by
  rw [getNackBatch]
  split
  · rfl
  · split <;> rfl

/-- Every way an arrival can be handled, with the branch conditions of
`OnReceivedPacket`. -/
theorem onReceivedPacket_cases (g : NackGenerator) (seq : BitVec 16) (nowMs : Int) :
    (g.initialized = false ∧ g.onReceivedPacket seq nowMs =
      { g with initialized := true, lastSeqRaw := seq, lastSeqUnwrap := seq.toNat }) ∨
    (g.initialized = true ∧ g.unwrap seq = g.lastSeqUnwrap ∧
      g.onReceivedPacket seq nowMs = g) ∨
    (g.initialized = true ∧ g.lastSeqUnwrap < g.unwrap seq ∧
      g.onReceivedPacket seq nowMs =
        { g.addMissingRange g.lastSeqUnwrap (g.unwrap seq) nowMs with
          lastSeqUnwrap := g.unwrap seq, lastSeqRaw := seq }) ∨
    (g.initialized = true ∧ kMaxReorder < g.lastSeqUnwrap - g.unwrap seq ∧
      g.onReceivedPacket seq nowMs =
        { g with nackList := ∅, lastSeqRaw := seq, lastSeqUnwrap := seq.toNat }) ∨
    (g.initialized = true ∧ g.unwrap seq < g.lastSeqUnwrap ∧
      g.lastSeqUnwrap - g.unwrap seq ≤ kMaxReorder ∧
      g.onReceivedPacket seq nowMs = { g with nackList := g.nackList.erase seq }) := by
  cases hinit : g.initialized with
  | false => exact Or.inl ⟨rfl, by simp [onReceivedPacket, hinit]⟩
  | true =>
      right
      rcases lt_trichotomy (g.unwrap seq) g.lastSeqUnwrap with hlt | heq | hgt
      · have hne : g.unwrap seq ≠ g.lastSeqUnwrap := by omega
        have hnot : ¬ g.lastSeqUnwrap < g.unwrap seq := by omega
        right
        right
        rcases lt_or_ge kMaxReorder (g.lastSeqUnwrap - g.unwrap seq) with hfar | hnear
        · left
          exact ⟨rfl, hfar, by simp [onReceivedPacket, hinit, hne, hnot, hfar]⟩
        · right
          exact ⟨rfl, hlt, hnear,
            by simp [onReceivedPacket, hinit, hne, hnot, not_lt.mpr hnear]⟩
      · left
        exact ⟨rfl, heq, by simp [onReceivedPacket, hinit, heq]⟩
      · have hne : g.unwrap seq ≠ g.lastSeqUnwrap := by omega
        right
        left
        exact ⟨rfl, hgt, by simp [onReceivedPacket, hinit, hne, hgt]⟩

/-- An entry after an arrival was there before, or the arrival has entered it. -/
theorem getElem?_of_onReceivedPacket {g : NackGenerator} {seq : BitVec 16} {nowMs : Int}
    {key : BitVec 16} {e : NackEntry}
    (h : (g.onReceivedPacket seq nowMs).nackList[key]? = some e) :
    g.nackList[key]? = some e ∨
      (g.nackList[key]? = none ∧ e = { firstMissedAtMs := nowMs } ∧
        ∃ j, g.lastSeqUnwrap < j ∧ j < g.unwrap seq ∧ key = serial 16 j) := by
  rcases onReceivedPacket_cases g seq nowMs with ⟨_, heq⟩ | ⟨_, _, heq⟩ | ⟨_, _, heq⟩ |
    ⟨_, _, heq⟩ | ⟨_, _, _, heq⟩
  · rw [heq] at h
    exact Or.inl h
  · rw [heq] at h
    exact Or.inl h
  · rw [heq] at h
    exact getElem?_of_addMissingRange h
  · simp [heq] at h
  · rw [heq, ExtTreeMap.getElem?_erase] at h
    split at h
    · cases h
    · exact Or.inl h

theorem onReceivedPacket_initialized (g : NackGenerator) (seq : BitVec 16) (nowMs : Int) :
    (g.onReceivedPacket seq nowMs).initialized = true := by
  rcases onReceivedPacket_cases g seq nowMs with ⟨_, heq⟩ | ⟨hinit, _, heq⟩ |
    ⟨hinit, _, heq⟩ | ⟨hinit, _, heq⟩ | ⟨hinit, _, _, heq⟩
  · rw [heq]
  all_goals
    rw [heq]
    exact hinit

/-- What holds of the generator in every reachable state: the two copies of the
last number agree, nothing is pending before the first packet, and the table
respects its size limit. -/
structure WellFormed (g : NackGenerator) : Prop where
  raw : g.initialized = true → g.lastSeqRaw = serial 16 g.lastSeqUnwrap
  fresh : g.initialized = false → g.nackList = ∅ ∧ g.lastSeqRaw = 0
  bounded : g.pendingSize ≤ kMaxPendingSeq

theorem wellFormed_initial : WellFormed {} :=
  ⟨by simp, by simp, by simp [pendingSize]⟩

theorem WellFormed.serial_unwrap {g : NackGenerator} (h : WellFormed g)
    (seq : BitVec 16) : serial 16 (g.unwrap seq) = seq := by
  rw [unwrap]
  split
  · rename_i hinit
    rw [h.raw hinit, serial_add_toInt_sub]
  · exact serial_toNat seq

theorem unwrap_lt {g : NackGenerator} (hinit : g.initialized = true)
    (seq : BitVec 16) : g.unwrap seq < g.lastSeqUnwrap + 32768 := by
  have hlt := (seq - g.lastSeqRaw).toInt_lt
  rw [unwrap, if_pos hinit]
  omega

theorem wellFormed_onReceivedPacket {g : NackGenerator} (h : WellFormed g)
    (seq : BitVec 16) (nowMs : Int) : WellFormed (g.onReceivedPacket seq nowMs) := by
  rcases onReceivedPacket_cases g seq nowMs with ⟨_, heq⟩ | ⟨_, _, heq⟩ | ⟨hinit, _, heq⟩ |
    ⟨_, _, heq⟩ | ⟨_, _, _, heq⟩
  · rw [heq]
    exact ⟨fun _ => (serial_toNat seq).symm, by simp, h.bounded⟩
  · rw [heq]
    exact h
  · rw [heq]
    refine ⟨fun _ => (h.serial_unwrap seq).symm, ?_, size_trimBySize_le _⟩
    intro hfalse
    exact absurd (hinit.symm.trans hfalse) (by simp)
  · rw [heq]
    refine ⟨fun _ => (serial_toNat seq).symm, ?_, by simp [pendingSize]⟩
    intro hfalse
    simp_all
  · rw [heq]
    refine ⟨h.raw, ?_, le_trans ExtTreeMap.size_erase_le h.bounded⟩
    intro hfalse
    simp_all

theorem wellFormed_getNackBatch {g : NackGenerator} (h : WellFormed g) (nowMs : Int) :
    WellFormed (g.getNackBatch nowMs).1 := by
  rw [getNackBatch]
  split
  · exact ⟨h.raw, h.fresh, h.bounded⟩
  · split
    · exact h
    · rename_i hne _
      refine ⟨h.raw, ?_, le_trans ExtTreeMap.size_filterMap_le_size h.bounded⟩
      intro hinit
      exact absurd (ExtTreeMap.isEmpty_iff.mpr (h.fresh hinit).1) hne

theorem wellFormed_step {g : NackGenerator} (h : WellFormed g) (input : Input) :
    WellFormed (g.step input) := by
  cases input with
  | packet seq nowMs => exact wellFormed_onReceivedPacket h seq nowMs
  | batch nowMs => exact wellFormed_getNackBatch h nowMs
  | rtt rttMs => exact ⟨h.raw, h.fresh, h.bounded⟩
  | reset => exact ⟨by simp [step, reset], by simp [step, reset],
      by simp [step, reset, pendingSize]⟩

theorem wellFormed_run {g : NackGenerator} (h : WellFormed g) (inputs : List Input) :
    WellFormed (run step g inputs) :=
  invariant_run_of_step h (fun _ input h => wellFormed_step h input) inputs

theorem WellFormed.unwrap_next {g : NackGenerator} (h : WellFormed g)
    (hinit : g.initialized = true) :
    g.unwrap (serial 16 (g.lastSeqUnwrap + 1)) = g.lastSeqUnwrap + 1 := by
  have hdiff := toInt_serial_sub_of_lt (w := 16) (i := g.lastSeqUnwrap + 1)
    (j := g.lastSeqUnwrap) (by omega) (by omega)
  rw [unwrap, if_pos hinit, h.raw hinit, hdiff]
  omega

theorem WellFormed.onReceivedPacket_next {g : NackGenerator} (h : WellFormed g)
    (hinit : g.initialized = true) (nowMs : Int) :
    g.onReceivedPacket (serial 16 (g.lastSeqUnwrap + 1)) nowMs =
      { g with
        lastSeqUnwrap := g.lastSeqUnwrap + 1
        lastSeqRaw := serial 16 (g.lastSeqUnwrap + 1) } := by
  have hunwrap := h.unwrap_next hinit
  have hrange : openRange g.lastSeqUnwrap (g.lastSeqUnwrap + 1) = [] := by
    rw [List.eq_nil_iff_forall_not_mem]
    intro j hj
    rw [mem_openRange] at hj
    omega
  have htrim : trimBySize g.nackList = g.nackList := evict_eq_self _ _ h.bounded
  rcases onReceivedPacket_cases g (serial 16 (g.lastSeqUnwrap + 1)) nowMs with
    ⟨hfalse, _⟩ | ⟨_, hsame, _⟩ | ⟨_, _, heq⟩ | ⟨_, hfar, _⟩ | ⟨_, hbelow, _, _⟩
  · exact absurd (hinit.symm.trans hfalse) (by simp)
  · omega
  · rw [heq, hunwrap]
    simp [addMissingRange, hrange, insertAllIfNew, htrim]
  · rw [hunwrap, kMaxReorder] at hfar
    omega
  · omega

end NackGenerator

end GBServer
