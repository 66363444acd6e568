import GBServer.Foundation.StreamGaps
import GBServer.NackGenerator
import Mathlib.Order.Interval.Finset.Basic
import Mathlib.Data.Int.Interval

namespace GBServer.NackCompleteness

open Std (ExtTreeMap)
open Foundation.OrderedMap
open Foundation.Runs
open Foundation.SerialNumber
open Foundation.StreamGaps
open GBServer.NackGenerator

/-- A call as the sender's stream sees it: packets have their true index. -/
inductive StreamInput where
  | packet (index nowMs : Int)
  | batch (nowMs : Int)
  | rtt (rttMs : Int)

def StreamInput.deliver : StreamInput → Input
  | .packet index nowMs => .packet (serial 16 index) nowMs
  | .batch nowMs => .batch nowMs
  | .rtt rttMs => .rtt rttMs

def noteIndex (_ : NackGenerator) (arrived : List Int) : StreamInput → List Int
  | .packet index _ => arrived ++ [index]
  | _ => arrived

abbrev delivering : NackGenerator × List Int → StreamInput → NackGenerator × List Int :=
  observe (fun g input => g.step input.deliver) noteIndex

abbrev start : NackGenerator × List Int := ({}, [])

/-- The next index is less than `2 ^ 15` above the highest so far or at most 1000
below it, and not below the first. -/
def InReach (arrived : List Int) (index : Int) : Prop :=
  arrived ≠ [] → index < highest arrived + 2 ^ 15 ∧ highest arrived - 1000 ≤ index ∧
    first arrived ≤ index

/-- Fewer than 1000 indices are missing, none for more than `2 ^ 15` indices. -/
def Recoverable (arrived : List Int) : Prop :=
  (missing arrived).card < 1000 ∧ ∀ j ∈ missing arrived, highest arrived - j ≤ 2 ^ 15

instance (arrived : List Int) : Decidable (Recoverable arrived) :=
  inferInstanceAs (Decidable (_ ∧ ∀ j ∈ missing arrived, _))

def NoExpiry (g : NackGenerator) (nowMs : Int) : Prop :=
  g.throttled nowMs = false → ∀ it ∈ g.nackList.toList, expired nowMs it.2 = false

def Skipped (s : NackGenerator × List Int) : StreamInput → Prop
  | .batch nowMs => (s.1.nackList.isEmpty || s.1.throttled nowMs) = true
  | _ => True

def Mild (s : NackGenerator × List Int) : StreamInput → Prop
  | .packet index _ => InReach s.2 index ∧ Recoverable (s.2 ++ [index])
  | .batch nowMs => NoExpiry s.1 nowMs
  | .rtt _ => True

/-- The generator knows exactly what the stream is missing. -/
structure Tracks (s : NackGenerator × List Int) : Prop where
  pending : ∀ key, key ∈ s.1.nackList ↔ ∃ j ∈ missing s.2, key = serial 16 j
  unwrapped : s.2 ≠ [] → s.1.lastSeqUnwrap - ((serial 16 (first s.2)).toNat : Int) =
    highest s.2 - first s.2
  raw : s.2 ≠ [] → s.1.lastSeqRaw = serial 16 s.1.lastSeqUnwrap

theorem NoExpiry.not_expired {g : NackGenerator} {nowMs : Int} (h : NoExpiry g nowMs)
    (hprocess : g.throttled nowMs = false) (key : BitVec 16) (e : NackEntry)
    (he : g.nackList[key]? = some e) : expired nowMs e = false :=
  h hprocess (key, e) (ExtTreeMap.mem_toList_iff_getElem?_eq_some.mpr he)

structure Invariant (s : NackGenerator × List Int) : Prop extends Tracks s where
  wellFormed : WellFormed s.1
  opened : s.1.initialized = true ↔ s.2 ≠ []
  recoverable : Recoverable s.2

theorem invariant_start : Invariant start where
  pending := by simp [missing, highest, first]
  unwrapped := by simp
  raw := by simp
  wellFormed := wellFormed_initial
  opened := by simp
  recoverable := by simp [Recoverable, missing, highest, first]

theorem Invariant.lastSeqUnwrap_eq {s : NackGenerator × List Int} (h : Invariant s)
    (hne : s.2 ≠ []) :
    s.1.lastSeqUnwrap =
      highest s.2 + ((serial 16 (first s.2)).toNat - first s.2) := by
  have := h.unwrapped hne
  omega

theorem Invariant.unwrap_eq {s : NackGenerator × List Int} (h : Invariant s)
    (hne : s.2 ≠ []) {index : Int} (hreach : InReach s.2 index) :
    s.1.unwrap (serial 16 index) =
      index + ((serial 16 (first s.2)).toNat - first s.2) := by
  obtain ⟨hhigh, hlow, _⟩ := hreach hne
  have hraw : s.1.lastSeqRaw = serial 16 (highest s.2) := by
    rw [h.raw hne, h.lastSeqUnwrap_eq hne, serial_shift]
  have hdiff := toInt_serial_sub_of_lt (w := 16) (i := index) (j := highest s.2)
    (by omega) (by omega)
  rw [unwrap, if_pos (h.opened.mpr hne), hraw, hdiff, h.lastSeqUnwrap_eq hne]
  omega

theorem map_serial_openRange (opening a b : Int) :
    (openRange (a + ((serial 16 opening).toNat - opening))
        (b + ((serial 16 opening).toNat - opening))).map (serial 16) =
      (openRange a b).map (serial 16) := by
  have hlength : (b + ((serial 16 opening).toNat - opening) -
      (a + ((serial 16 opening).toNat - opening)) - 1) = b - a - 1 := by
    omega
  rw [openRange, openRange, hlength, List.map_map, List.map_map]
  congr 1
  funext n
  have hterm : a + ((serial 16 opening).toNat - opening) + 1 + (n : Int) =
      a + 1 + n + ((serial 16 opening).toNat - opening) := by
    omega
  change serial 16 (a + ((serial 16 opening).toNat - opening) + 1 + (n : Int)) = _
  rw [hterm, serial_shift]
  rfl

def withGap (s : NackGenerator × List Int) (index nowMs : Int) : NackList :=
  insertAllIfNew s.1.nackList ((openRange (highest s.2) index).map (serial 16))
    { firstMissedAtMs := nowMs }

theorem Invariant.mem_withGap_iff {s : NackGenerator × List Int} (h : Invariant s)
    (hne : s.2 ≠ []) {index : Int} (habove : highest s.2 < index) (nowMs : Int)
    (key : BitVec 16) :
    key ∈ withGap s index nowMs ↔
      ∃ j ∈ missing (s.2 ++ [index]), key = serial 16 j := by
  have hkeys : key ∈ withGap s index nowMs ↔
      key ∈ s.1.nackList ∨ ∃ j, highest s.2 < j ∧ j < index ∧ key = serial 16 j := by
    rw [ExtTreeMap.mem_iff_isSome_getElem?, withGap, getElem?_insertAllIfNew,
      ExtTreeMap.mem_iff_isSome_getElem?]
    cases hget : s.1.nackList[key]? with
    | none =>
        simp only [List.mem_map, mem_openRange, true_and, Option.isSome_ite,
          Option.isSome_none, Bool.false_eq_true, false_or]
        constructor
        · rintro ⟨j, ⟨hlow, hhigh⟩, rfl⟩
          exact ⟨j, hlow, hhigh, rfl⟩
        · rintro ⟨j, hlow, hhigh, rfl⟩
          exact ⟨j, ⟨hlow, hhigh⟩, rfl⟩
    | some e => simp
  rw [hkeys, h.pending]
  simp only [mem_missing_concat_of_lt hne habove]
  constructor
  · rintro (⟨j, hj, rfl⟩ | ⟨j, hlow, hhigh, rfl⟩)
    · exact ⟨j, Or.inl hj, rfl⟩
    · exact ⟨j, Or.inr ⟨hlow, hhigh⟩, rfl⟩
  · rintro ⟨j, hj | ⟨hlow, hhigh⟩, rfl⟩
    · exact Or.inl ⟨j, hj, rfl⟩
    · exact Or.inr ⟨j, hlow, hhigh, rfl⟩

/-- The branches of an arrival on a stream in reach: neither the restart nor the
size limit comes into play. -/
theorem Invariant.delivering_packet_cases {s : NackGenerator × List Int} (h : Invariant s)
    (hne : s.2 ≠ []) {index nowMs : Int} (hmild : Mild s (.packet index nowMs)) :
    (highest s.2 < index ∧ (delivering s (.packet index nowMs)).1 =
      { s.1 with
        nackList := withGap s index nowMs
        lastSeqUnwrap := index + ((serial 16 (first s.2)).toNat - first s.2)
        lastSeqRaw := serial 16 index }) ∨
    (index = highest s.2 ∧ (delivering s (.packet index nowMs)).1 = s.1) ∨
    (index < highest s.2 ∧ (delivering s (.packet index nowMs)).1 =
      { s.1 with nackList := s.1.nackList.erase (serial 16 index) }) := by
  obtain ⟨hreach, hrecoverable⟩ := hmild
  have hunwrap := h.unwrap_eq hne hreach
  have hlast := h.lastSeqUnwrap_eq hne
  obtain ⟨_, hlow, _⟩ := hreach hne
  have hstep : (delivering s (.packet index nowMs)).1 =
      s.1.onReceivedPacket (serial 16 index) nowMs := rfl
  rw [hstep]
  rcases onReceivedPacket_cases s.1 (serial 16 index) nowMs with ⟨hinit, _⟩ |
    ⟨_, hsame, heq⟩ | ⟨_, habove, heq⟩ | ⟨_, hfar, _⟩ | ⟨_, hbelow, _, heq⟩
  · exact absurd ((h.opened.mpr hne).symm.trans hinit) (by simp)
  · right
    left
    exact ⟨by omega, heq⟩
  · left
    have hindex : highest s.2 < index := by omega
    refine ⟨hindex, ?_⟩
    have hsize : (withGap s index nowMs).size ≤ kMaxPendingSeq := by
      have hcard := size_le_card fun key hkey =>
        (h.mem_withGap_iff hne hindex nowMs key).mp hkey
      exact hcard.trans hrecoverable.1.le
    have htrim : (s.1.addMissingRange s.1.lastSeqUnwrap (s.1.unwrap (serial 16 index))
        nowMs).nackList = withGap s index nowMs := by
      rw [addMissingRange, hunwrap, hlast, map_serial_openRange]
      exact evict_eq_self _ _ hsize
    rw [heq]
    dsimp only
    rw [htrim, hunwrap]
    rfl
  · rw [hunwrap, hlast, kMaxReorder] at hfar
    omega
  · right
    right
    exact ⟨by omega, heq⟩

theorem Invariant.serial_ne {s : NackGenerator × List Int} (h : Invariant s) {i j : Int}
    (hj : j ∈ missing s.2) (hlow : highest s.2 - 1000 ≤ i) (hhigh : i ≤ highest s.2)
    (hne : j ≠ i) : serial 16 j ≠ serial 16 i := by
  intro heq
  have hwindow := h.recoverable.2 j hj
  have hbelow := (mem_missing.mp hj).2.1
  apply hne
  apply serial_inj_of_lt (w := 16)
  · omega
  · omega
  · exact heq

theorem Invariant.tracks_packet {s : NackGenerator × List Int} (h : Invariant s)
    (hne : s.2 ≠ []) {index nowMs : Int} (hmild : Mild s (.packet index nowMs)) :
    Tracks (delivering s (.packet index nowMs)) := by
  have harrived : (delivering s (.packet index nowMs)).2 = s.2 ++ [index] := rfl
  have hlast := h.lastSeqUnwrap_eq hne
  obtain ⟨_, hlow, _⟩ := hmild.1 hne
  rcases h.delivering_packet_cases hne hmild with ⟨habove, heq⟩ | ⟨hsame, heq⟩ |
    ⟨hbelow, heq⟩
  · refine ⟨?_, ?_, ?_⟩
    · rw [heq, harrived]
      exact h.mem_withGap_iff hne habove nowMs
    · intro _
      rw [heq, harrived, first_concat hne, highest_concat hne, max_eq_right habove.le]
      change index + _ - _ = _
      omega
    · intro _
      rw [heq]
      exact (serial_shift _ _).symm
  · refine ⟨?_, ?_, ?_⟩
    · intro key
      rw [heq, harrived, h.pending]
      constructor
      · rintro ⟨j, hj, rfl⟩
        have hbelow := (mem_missing.mp hj).2.1
        exact ⟨j, (mem_missing_concat_of_le hne hsame.le).mpr ⟨hj, by omega⟩, rfl⟩
      · rintro ⟨j, hj, rfl⟩
        exact ⟨j, ((mem_missing_concat_of_le hne hsame.le).mp hj).1, rfl⟩
    · intro _
      rw [heq, harrived, first_concat hne, highest_concat hne, max_eq_left hsame.le]
      exact h.unwrapped hne
    · intro _
      rw [heq]
      exact h.raw hne
  · refine ⟨?_, ?_, ?_⟩
    · intro key
      rw [heq, harrived]
      change key ∈ s.1.nackList.erase (serial 16 index) ↔ _
      rw [ExtTreeMap.mem_erase, h.pending]
      constructor
      · rintro ⟨hcmp, j, hj, rfl⟩
        have hji : j ≠ index := by
          rintro rfl
          exact hcmp Std.compare_self
        exact ⟨j, (mem_missing_concat_of_le hne hbelow.le).mpr ⟨hj, hji⟩, rfl⟩
      · rintro ⟨j, hj, rfl⟩
        obtain ⟨hj, hji⟩ := (mem_missing_concat_of_le hne hbelow.le).mp hj
        refine ⟨?_, j, hj, rfl⟩
        intro hcmp
        exact h.serial_ne hj hlow hbelow.le hji (Std.LawfulEqCmp.eq_of_compare hcmp).symm
    · intro _
      rw [heq, harrived, first_concat hne, highest_concat hne, max_eq_left hbelow.le]
      exact h.unwrapped hne
    · intro _
      rw [heq]
      exact h.raw hne

theorem tracks_first {s : NackGenerator × List Int} (h : Invariant s) (hnil : s.2 = [])
    (index nowMs : Int) : Tracks (delivering s (.packet index nowMs)) := by
  have hinit : s.1.initialized = false := by
    rw [← Bool.not_eq_true, h.opened, not_not]
    exact hnil
  have heq : (delivering s (.packet index nowMs)).1 =
      { s.1 with
        initialized := true
        lastSeqRaw := serial 16 index
        lastSeqUnwrap := (serial 16 index).toNat } := by
    rcases onReceivedPacket_cases s.1 (serial 16 index) nowMs with ⟨_, heq⟩ | ⟨htrue, _⟩ |
      ⟨htrue, _⟩ | ⟨htrue, _⟩ | ⟨htrue, _⟩
    · exact heq
    all_goals exact absurd (htrue.symm.trans hinit) (by simp)
  have harrived : (delivering s (.packet index nowMs)).2 = [index] := by
    change s.2 ++ [index] = [index]
    rw [hnil, List.nil_append]
  refine ⟨?_, ?_, ?_⟩
  · intro key
    rw [heq, harrived, missing_singleton]
    simp [(h.wellFormed.fresh hinit).1]
  · intro _
    rw [heq, harrived, highest_singleton]
    simp [first]
  · intro _
    rw [heq]
    exact (serial_toNat _).symm

theorem Invariant.tracks_batch {s : NackGenerator × List Int} (h : Invariant s)
    {nowMs : Int} (hmild : NoExpiry s.1 nowMs) : Tracks (delivering s (.batch nowMs)) := by
  have hstep : (delivering s (.batch nowMs)).1 = (s.1.getNackBatch nowMs).1 := rfl
  have harrived : (delivering s (.batch nowMs)).2 = s.2 := rfl
  refine ⟨?_, ?_, ?_⟩
  · intro key
    rw [hstep, harrived, mem_getNackBatch_nackList_iff hmild.not_expired]
    exact h.pending key
  · rw [hstep, harrived, getNackBatch_lastSeqUnwrap]
    exact h.unwrapped
  · rw [hstep, harrived, getNackBatch_lastSeqUnwrap, getNackBatch_lastSeqRaw]
    exact h.raw

theorem invariant_delivering {s : NackGenerator × List Int} {input : StreamInput}
    (h : Invariant s) (hmild : Mild s input) : Invariant (delivering s input) := by
  have hwell := wellFormed_step h.wellFormed input.deliver
  cases input with
  | packet index nowMs =>
      have hopened : (delivering s (.packet index nowMs)).1.initialized = true :=
        onReceivedPacket_initialized ..
      have hne : (delivering s (.packet index nowMs)).2 ≠ [] :=
        List.append_ne_nil_of_right_ne_nil _ (List.cons_ne_nil _ _)
      rcases eq_or_ne s.2 [] with hnil | hsome
      · exact ⟨tracks_first h hnil index nowMs, hwell, iff_of_true hopened hne, hmild.2⟩
      · exact ⟨h.tracks_packet hsome hmild, hwell, iff_of_true hopened hne, hmild.2⟩
  | batch nowMs =>
      refine ⟨h.tracks_batch hmild, hwell, ?_, h.recoverable⟩
      change (s.1.getNackBatch nowMs).1.initialized = true ↔ s.2 ≠ []
      rw [getNackBatch_initialized]
      exact h.opened
  | rtt rttMs => exact ⟨⟨h.pending, h.unwrapped, h.raw⟩, hwell, h.opened, h.recoverable⟩

theorem invariant_run_delivering {inputs : List StreamInput}
    (hmild : Admitted delivering Mild start inputs) :
    Invariant (run delivering start inputs) :=
  invariant_run invariant_start (fun _ _ h hinput => invariant_delivering h hinput) hmild

/-- Every missing index outside `known` has an entry that was never sent. -/
def Unsent (known : Finset Int) (s : NackGenerator × List Int) : Prop :=
  ∀ j ∈ missing s.2, j ∉ known →
    ∃ e, s.1.nackList[serial 16 j]? = some e ∧ e.sendAtMs = 0

theorem Invariant.unsent_packet {s : NackGenerator × List Int} (h : Invariant s)
    (hne : s.2 ≠ []) {index nowMs : Int} (hmild : Mild s (.packet index nowMs))
    {known : Finset Int} (hunsent : Unsent known s) :
    Unsent known (delivering s (.packet index nowMs)) := by
  have harrived : (delivering s (.packet index nowMs)).2 = s.2 ++ [index] := rfl
  obtain ⟨hhigh, hlow, _⟩ := hmild.1 hne
  intro j hj hknown
  rw [harrived] at hj
  rcases h.delivering_packet_cases hne hmild with ⟨habove, heq⟩ | ⟨hsame, heq⟩ |
    ⟨hbelow, heq⟩
  · rw [heq]
    change ∃ e, (withGap s index nowMs)[serial 16 j]? = some e ∧ e.sendAtMs = 0
    rw [withGap, getElem?_insertAllIfNew]
    rcases (mem_missing_concat_of_lt hne habove).mp hj with hold | ⟨hgapLow, hgapHigh⟩
    · obtain ⟨e, he, hsend⟩ := hunsent j hold hknown
      exact ⟨e, by simp [he], hsend⟩
    · have hfree : s.1.nackList[serial 16 j]? = none := by
        apply ExtTreeMap.getElem?_eq_none
        rw [h.pending]
        rintro ⟨i, hi, hserial⟩
        have hwindow := h.recoverable.2 i hi
        have hbelow := (mem_missing.mp hi).2.1
        have hji : j = i := by
          apply serial_inj_of_lt (w := 16)
          · omega
          · omega
          · exact hserial
        omega
      refine ⟨{ firstMissedAtMs := nowMs }, ?_, rfl⟩
      rw [if_pos]
      exact ⟨hfree, List.mem_map_of_mem (mem_openRange.mpr ⟨hgapLow, hgapHigh⟩)⟩
  · rw [heq]
    exact hunsent j ((mem_missing_concat_of_le hne hsame.le).mp hj).1 hknown
  · obtain ⟨hj, hji⟩ := (mem_missing_concat_of_le hne hbelow.le).mp hj
    obtain ⟨e, he, hsend⟩ := hunsent j hj hknown
    have hserial := h.serial_ne hj hlow hbelow.le hji
    refine ⟨e, ?_, hsend⟩
    rw [heq]
    change (s.1.nackList.erase (serial 16 index))[serial 16 j]? = some e
    rw [ExtTreeMap.getElem?_erase, if_neg, he]
    intro hcmp
    exact hserial (Std.LawfulEqCmp.eq_of_compare hcmp).symm

theorem unsent_delivering {s : NackGenerator × List Int} {input : StreamInput}
    (h : Invariant s) (hmild : Mild s input) (hskip : Skipped s input) {known : Finset Int}
    (hunsent : Unsent known s) : Unsent known (delivering s input) := by
  cases input with
  | packet index nowMs =>
      rcases eq_or_ne s.2 [] with hnil | hne
      · intro j hj
        have harrived : (delivering s (.packet index nowMs)).2 = [index] := by
          change s.2 ++ [index] = [index]
          rw [hnil, List.nil_append]
        rw [harrived, missing_singleton] at hj
        simp at hj
      · exact h.unsent_packet hne hmild hunsent
  | batch nowMs =>
      have hsame : (s.1.getNackBatch nowMs).1.nackList = s.1.nackList := by
        rw [getNackBatch]
        cases hempty : s.1.nackList.isEmpty with
        | true => rfl
        | false =>
            have hthrottled : s.1.throttled nowMs = true := by
              simpa [Skipped, hempty] using hskip
            rw [hthrottled]
            rfl
      intro j hj hknown
      change ∃ e, (s.1.getNackBatch nowMs).1.nackList[serial 16 j]? = some e ∧ _
      rw [hsame]
      exact hunsent j hj hknown
  | rtt rttMs => exact hunsent

def MissedBy (limitMs : Int) (s : NackGenerator × List Int) : Prop :=
  ∀ (key : BitVec 16) (e : NackEntry), s.1.nackList[key]? = some e → e.firstMissedAtMs ≤ limitMs

theorem missedBy_delivering {s : NackGenerator × List Int} {input : StreamInput}
    {limitMs : Int} (h : MissedBy limitMs s)
    (htime : ∀ t ∈ input.deliver.time?, t ≤ limitMs) :
    MissedBy limitMs (delivering s input) := by
  intro key e he
  cases input with
  | packet index nowMs =>
      have hnow : nowMs ≤ limitMs := htime nowMs rfl
      change (s.1.onReceivedPacket (serial 16 index) nowMs).nackList[key]? = some e at he
      rcases onReceivedPacket_cases s.1 (serial 16 index) nowMs with ⟨_, heq⟩ | ⟨_, _, heq⟩ |
        ⟨_, _, heq⟩ | ⟨_, _, heq⟩ | ⟨_, _, _, heq⟩
      · rw [heq] at he
        exact h key e he
      · rw [heq] at he
        exact h key e he
      · rw [heq] at he
        rcases getElem?_of_addMissingRange he with hold | ⟨_, rfl, _⟩
        · exact h key e hold
        · exact hnow
      · rw [heq] at he
        simp at he
      · rw [heq] at he
        change (s.1.nackList.erase (serial 16 index))[key]? = some e at he
        rw [ExtTreeMap.getElem?_erase] at he
        split at he
        · cases he
        · exact h key e he
  | batch nowMs =>
      change (s.1.getNackBatch nowMs).1.nackList[key]? = some e at he
      rw [getNackBatch_getElem?] at he
      split at he
      · exact h key e he
      · obtain ⟨old, hold, hvisit⟩ := Option.bind_eq_some_iff.mp he
        rw [firstMissedAtMs_of_afterVisit hvisit]
        exact h key old hold
  | rtt rttMs => exact h key e he

theorem missedBy_run {inputs : List StreamInput} {limitMs : Int}
    (htimes : ∀ t ∈ (inputs.map StreamInput.deliver).filterMap Input.time?, t ≤ limitMs) :
    MissedBy limitMs (run delivering start inputs) := by
  have hadmitted : Admitted delivering
      (fun _ input => ∀ t ∈ input.deliver.time?, t ≤ limitMs) start inputs := by
    rintro front input back rfl t ht
    apply htimes
    rw [List.mem_filterMap]
    exact ⟨input.deliver, by simp, ht⟩
  have hstart : MissedBy limitMs start := by
    intro key e he
    simp at he
  exact invariant_run hstart (fun _ _ h htime => missedBy_delivering h htime) hadmitted

theorem unsent_run {s : NackGenerator × List Int} {inputs : List StreamInput}
    (h : Invariant s) (hmild : Admitted delivering Mild s inputs)
    (hskipped : Admitted delivering Skipped s inputs) :
    Unsent (missing s.2) (run delivering s inputs) := by
  have hboth : Admitted delivering (fun s input => Mild s input ∧ Skipped s input) s inputs :=
    fun front input back heq => ⟨hmild front input back heq, hskipped front input back heq⟩
  have hstart : Invariant s ∧ Unsent (missing s.2) s :=
    ⟨h, fun _ hj hnew => absurd hj hnew⟩
  refine (invariant_run (P := fun t => Invariant t ∧ Unsent (missing s.2) t)
    hstart ?_ hboth).2
  rintro t input ⟨hinvariant, hunsent⟩ ⟨hinput, hskip⟩
  exact ⟨invariant_delivering hinvariant hinput,
    unsent_delivering hinvariant hinput hskip hunsent⟩

/-- An entry that was never sent is requested by the next processed batch. -/
theorem requested_of_unsent {g : NackGenerator} {nowMs : Int} {key : BitVec 16}
    {e : NackEntry} (he : g.nackList[key]? = some e) (hunsent : e.sendAtMs = 0)
    (hmissed : e.firstMissedAtMs ≤ nowMs) (hexpired : expired nowMs e = false)
    (hprocess : g.throttled nowMs = false) : key ∈ (g.getNackBatch nowMs).2 := by
  refine mem_getNackBatch_iff.mpr ⟨hprocess, e, he, ?_⟩
  have hdelay : ¬ nowMs - e.firstMissedAtMs < kFirstNackDelayMs := by
    rw [kFirstNackDelayMs]
    omega
  rw [requested, visit, hexpired, if_neg (by simp), if_pos hunsent, if_neg hdelay]

/-- On every stream that stays in reach and recoverable, the generator knows
after every call exactly what is missing; and while the clock does not go back, the
first batch processed after an index went missing requests it. -/
theorem tracks_and_requests {inputs : List StreamInput}
    (hmild : Admitted delivering Mild start inputs) :
    Throughout delivering Tracks start inputs ∧
      (Nondecreasing (inputs.map StreamInput.deliver) →
        ∀ front mid nowMs back, inputs = front ++ mid ++ .batch nowMs :: back →
        Admitted delivering Skipped (run delivering start front) mid →
        (run delivering start (front ++ mid)).1.throttled nowMs = false →
        ∀ j ∈ missing (run delivering start (front ++ mid)).2,
          j ∉ missing (run delivering start front).2 →
          serial 16 j ∈ ((run delivering start (front ++ mid)).1.getNackBatch nowMs).2) := by
  constructor
  · rintro front back rfl
    exact (invariant_run_delivering (admitted_append.mp hmild).1).toTracks
  · rintro htimes front mid nowMs back rfl hskipped hprocess j hj hnew
    obtain ⟨hinputs, hrest⟩ := admitted_append.mp hmild
    obtain ⟨hfront, hmid⟩ := admitted_append.mp hinputs
    have hunsent := unsent_run (invariant_run_delivering hfront) hmid hskipped
    rw [← run_append] at hunsent
    obtain ⟨e, he, hsend⟩ := hunsent j hj hnew
    have hbefore : ∀ t ∈ ((front ++ mid).map StreamInput.deliver).filterMap Input.time?,
        t ≤ nowMs := by
      intro t ht
      rw [Nondecreasing, List.map_append, List.filterMap_append, List.pairwise_append] at htimes
      exact htimes.2.2 t ht nowMs (by simp [StreamInput.deliver, Input.time?])
    exact requested_of_unsent he hsend (missedBy_run hbefore _ e he)
      (NoExpiry.not_expired (admitted_cons.mp hrest).1 hprocess _ e he) hprocess

/-- Indices 65535 and 65536 go missing across a wrap, the second arrives late, and
the batch asks for the first. -/
theorem tracks_and_requests_across_wrap :
    serial 16 65535 ∈ ((run delivering start
      [.packet 65534 1, .packet 65537 1, .packet 65536 2]).1.getNackBatch 5).2 := by
  have hmild : Admitted delivering Mild start
      [.packet 65534 1, .packet 65537 1, .packet 65536 2, .batch 5] := by
    refine admitted_cons.mpr ⟨⟨fun hne => absurd rfl hne, by decide⟩, ?_⟩
    refine admitted_cons.mpr ⟨⟨fun _ => by decide, by decide⟩, ?_⟩
    refine admitted_cons.mpr ⟨⟨fun _ => by decide, by decide⟩, ?_⟩
    exact admitted_cons.mpr ⟨fun _ => by decide, admitted_nil⟩
  have htimes : Nondecreasing (List.map StreamInput.deliver
      [.packet 65534 1, .packet 65537 1, .packet 65536 2, .batch 5]) := by
    decide
  have hskipped : Admitted delivering Skipped (run delivering start [.packet 65534 1])
      [.packet 65537 1, .packet 65536 2] :=
    admitted_cons.mpr ⟨trivial, admitted_cons.mpr ⟨trivial, admitted_nil⟩⟩
  exact (tracks_and_requests hmild).2 htimes [.packet 65534 1]
    [.packet 65537 1, .packet 65536 2] 5 [] rfl hskipped (by decide) 65535 (by decide)
    (by decide)

end GBServer.NackCompleteness
