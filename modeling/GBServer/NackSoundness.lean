import GBServer.NackGenerator

/-!
Soundness of the NACK batches: which runs only request packets that are really
missing.  The generator is observed together with the list of extended indices
received since the stream last started over.
-/

namespace GBServer.NackSoundness

open Std (ExtTreeMap)
open Foundation.OrderedMap
open Foundation.Runs
open Foundation.SerialNumber
open GBServer.NackGenerator

def isRestart (g : NackGenerator) (seq : BitVec 16) : Prop :=
  kMaxReorder < g.lastSeqUnwrap - g.unwrap seq

instance (g : NackGenerator) (seq : BitVec 16) : Decidable (isRestart g seq) :=
  inferInstanceAs (Decidable (_ < _))

def noteArrival (g : NackGenerator) (received : List Int) : Input → List Int
  | .packet seq _ =>
      if !g.initialized then [(seq.toNat : Int)]
      else if isRestart g seq then [(seq.toNat : Int)]
      else g.unwrap seq :: received
  | .reset => []
  | _ => received

abbrev observed : NackGenerator × List Int → Input → NackGenerator × List Int :=
  observe NackGenerator.step noteArrival

abbrev start : NackGenerator × List Int := ({}, [])

/-- The number of a packet below `highest`, within the last 65535 indices, that
has not been received. -/
def LostBelow (highest : Int) (received : List Int) (key : BitVec 16) : Prop :=
  ∃ j, highest - 65535 ≤ j ∧ j < highest ∧ key = serial 16 j ∧ j ∉ received

/-- A number stands for a lost packet and not for any received packet of the
current window. -/
structure DenotesLost (g : NackGenerator) (received : List Int) (key : BitVec 16) :
    Prop where
  lost : LostBelow g.lastSeqUnwrap received key
  notReceived : ∀ i ∈ received, g.lastSeqUnwrap - 65535 ≤ i → key ≠ serial 16 i

/-- Whatever the time of the next `GetNackBatch`, all it returns is lost. -/
def BatchSound (s : NackGenerator × List Int) : Prop :=
  ∀ nowMs, ∀ key ∈ (s.1.getNackBatch nowMs).2, DenotesLost s.1 s.2 key

def PendingSound (s : NackGenerator × List Int) : Prop :=
  ∀ key ∈ s.1.nackList, DenotesLost s.1 s.2 key

/-- An in-order arrival does not carry a number that is already pending. -/
def ArrivalFree (s : NackGenerator × List Int) : Input → Prop
  | .packet seq _ =>
      s.1.initialized = true → s.1.lastSeqUnwrap < s.1.unwrap seq → seq ∉ s.1.nackList
  | _ => True

def ArrivalSettled (s : NackGenerator × List Int) : Input → Prop
  | .packet seq nowMs =>
      s.1.initialized = true → s.1.lastSeqUnwrap < s.1.unwrap seq →
        seq ∉ (s.1.addMissingRange s.1.lastSeqUnwrap (s.1.unwrap seq) nowMs).nackList
  | _ => True

structure Recorded (s : NackGenerator × List Int) : Prop where
  wellFormed : WellFormed s.1
  le_last : ∀ i ∈ s.2, i ≤ s.1.lastSeqUnwrap

theorem observed_packet_cases (s : NackGenerator × List Int) (seq : BitVec 16)
    (nowMs : Int) :
    (s.1.initialized = false ∧ observed s (.packet seq nowMs) =
      ({ s.1 with initialized := true, lastSeqRaw := seq, lastSeqUnwrap := seq.toNat },
        [(seq.toNat : Int)])) ∨
    (s.1.initialized = true ∧ s.1.unwrap seq = s.1.lastSeqUnwrap ∧
      observed s (.packet seq nowMs) = (s.1, s.1.unwrap seq :: s.2)) ∨
    (s.1.initialized = true ∧ s.1.lastSeqUnwrap < s.1.unwrap seq ∧
      observed s (.packet seq nowMs) =
        ({ s.1.addMissingRange s.1.lastSeqUnwrap (s.1.unwrap seq) nowMs with
            lastSeqUnwrap := s.1.unwrap seq, lastSeqRaw := seq },
          s.1.unwrap seq :: s.2)) ∨
    (s.1.initialized = true ∧ isRestart s.1 seq ∧ observed s (.packet seq nowMs) =
      ({ s.1 with nackList := ∅, lastSeqRaw := seq, lastSeqUnwrap := seq.toNat },
        [(seq.toNat : Int)])) ∨
    (s.1.initialized = true ∧ s.1.unwrap seq < s.1.lastSeqUnwrap ∧
      observed s (.packet seq nowMs) =
        ({ s.1 with nackList := s.1.nackList.erase seq }, s.1.unwrap seq :: s.2)) := by
  have hpair : observed s (.packet seq nowMs) =
      (s.1.onReceivedPacket seq nowMs, noteArrival s.1 s.2 (.packet seq nowMs)) := rfl
  rw [hpair]
  rcases onReceivedPacket_cases s.1 seq nowMs with ⟨hinit, heq⟩ | ⟨hinit, hsame, heq⟩ |
    ⟨hinit, habove, heq⟩ | ⟨hinit, hfar, heq⟩ | ⟨hinit, hbelow, hnear, heq⟩
  · left
    exact ⟨hinit, by simp [heq, noteArrival, hinit]⟩
  · have hno : ¬ isRestart s.1 seq := by
      simp [isRestart, hsame, kMaxReorder]
    right
    left
    exact ⟨hinit, hsame, by simp [heq, noteArrival, hinit, hno]⟩
  · have hno : ¬ isRestart s.1 seq := by
      rw [isRestart, kMaxReorder]
      omega
    right
    right
    left
    exact ⟨hinit, habove, by simp [heq, noteArrival, hinit, hno]⟩
  · have hyes : isRestart s.1 seq := hfar
    right
    right
    right
    left
    exact ⟨hinit, hyes, by simp [heq, noteArrival, hinit, hyes]⟩
  · have hno : ¬ isRestart s.1 seq := not_lt.mpr hnear
    right
    right
    right
    right
    exact ⟨hinit, hbelow, by simp [heq, noteArrival, hinit, hno]⟩

theorem le_last_observed {s : NackGenerator × List Int}
    (h : ∀ i ∈ s.2, i ≤ s.1.lastSeqUnwrap) (input : Input) :
    ∀ i ∈ (observed s input).2, i ≤ (observed s input).1.lastSeqUnwrap := by
  cases input with
  | batch nowMs =>
      intro i hi
      change i ≤ (s.1.getNackBatch nowMs).1.lastSeqUnwrap
      rw [getNackBatch_lastSeqUnwrap]
      exact h i hi
  | rtt rttMs => exact h
  | reset =>
      intro i hi
      simp [observe, noteArrival] at hi
  | packet seq nowMs =>
      rcases observed_packet_cases s seq nowMs with ⟨_, heq⟩ | ⟨_, hsame, heq⟩ |
        ⟨_, habove, heq⟩ | ⟨_, _, heq⟩ | ⟨_, hbelow, heq⟩
      · rw [heq]
        simp
      · rw [heq]
        rintro i (_ | ⟨_, hi⟩)
        · exact hsame.le
        · exact h i hi
      · rw [heq]
        rintro i (_ | ⟨_, hi⟩)
        · exact le_rfl
        · exact (h i hi).trans habove.le
      · rw [heq]
        simp
      · rw [heq]
        rintro i (_ | ⟨_, hi⟩)
        · exact hbelow.le
        · exact h i hi

theorem recorded_observed {s : NackGenerator × List Int} (h : Recorded s)
    (input : Input) : Recorded (observed s input) :=
  ⟨wellFormed_step h.wellFormed input, le_last_observed h.le_last input⟩

theorem recorded_start : Recorded start :=
  ⟨wellFormed_initial, by simp⟩

theorem Recorded.denotesLost {s : NackGenerator × List Int} (h : Recorded s)
    {key : BitVec 16} (hlost : LostBelow s.1.lastSeqUnwrap s.2 key) :
    DenotesLost s.1 s.2 key := by
  refine ⟨hlost, ?_⟩
  obtain ⟨j, hlow, hhigh, hkey, hj⟩ := hlost
  intro i hi hwindow heq
  have hle := h.le_last i hi
  have hij : i = j := by
    apply serial_inj_of_lt (w := 16)
    · omega
    · omega
    · exact heq.symm.trans hkey
  exact hj (hij ▸ hi)

theorem not_lostBelow_self (highest : Int) (received : List Int) :
    ¬ LostBelow highest received (serial 16 highest) := by
  rintro ⟨j, hlow, hhigh, hkey, _⟩
  have hlast : highest = j := by
    apply serial_inj_of_lt (w := 16)
    · omega
    · omega
    · exact hkey
  omega

/-- An index that the advancing window leaves behind comes back one period
later, inside the gap, unless the arrival is that very index. -/
theorem LostBelow.advance {highest next : Int} {received : List Int} {key : BitVec 16}
    (h : LostBelow highest received key) (hle : ∀ i ∈ received, i ≤ highest)
    (hnext : highest < next) (hgap : next ≤ highest + 65535) (hne : key ≠ serial 16 next) :
    LostBelow next (next :: received) key := by
  obtain ⟨j, hlow, hhigh, hkey, hlost⟩ := h
  rcases lt_or_ge j (next - 65535) with hout | hin
  · have hkey' : key = serial 16 (j + 65536) :=
      hkey.trans (serial_add_pow (w := 16) j).symm
    have hself : j + 65536 ≠ next := by
      intro hj
      rw [hj] at hkey'
      exact hne hkey'
    refine ⟨j + 65536, by omega, by omega, hkey', ?_⟩
    intro hmem
    rcases List.mem_cons.mp hmem with hj | hmem
    · exact hself hj
    · have := hle _ hmem
      omega
  · refine ⟨j, hin, hhigh.trans hnext, hkey, ?_⟩
    intro hmem
    rcases List.mem_cons.mp hmem with hj | hmem
    · omega
    · exact hlost hmem

theorem LostBelow.cons {highest i : Int} {received : List Int} {key : BitVec 16}
    (h : LostBelow highest received key) (hne : key ≠ serial 16 i) :
    LostBelow highest (i :: received) key := by
  obtain ⟨j, hlow, hhigh, hj, hlost⟩ := h
  refine ⟨j, hlow, hhigh, hj, ?_⟩
  intro hmem
  rcases List.mem_cons.mp hmem with hself | hmem
  · exact hne (hself ▸ hj)
  · exact hlost hmem

theorem LostBelow.ne_highest {highest : Int} {received : List Int} {key : BitVec 16}
    (h : LostBelow highest received key) : key ≠ serial 16 highest := by
  rintro rfl
  exact not_lostBelow_self highest received h

theorem pendingSound_inOrder_iff {s : NackGenerator × List Int} (h : Recorded s)
    (hsound : PendingSound s) {seq : BitVec 16} {nowMs : Int} (hinit : s.1.initialized = true)
    (habove : s.1.lastSeqUnwrap < s.1.unwrap seq)
    (heq : observed s (.packet seq nowMs) =
      ({ s.1.addMissingRange s.1.lastSeqUnwrap (s.1.unwrap seq) nowMs with
          lastSeqUnwrap := s.1.unwrap seq, lastSeqRaw := seq },
        s.1.unwrap seq :: s.2)) :
    PendingSound (observed s (.packet seq nowMs)) ↔ ArrivalSettled s (.packet seq nowMs) := by
  have hnext := recorded_observed h (.packet seq nowMs)
  have hseq := h.wellFormed.serial_unwrap seq
  have hgap := unwrap_lt hinit seq
  rw [heq] at hnext ⊢
  constructor
  · intro hafter _ _ hmem
    have hself := (hafter seq hmem).lost.ne_highest
    exact hself hseq.symm
  · intro hok key hkey
    apply hnext.denotesLost
    have hne : key ≠ seq := by
      rintro rfl
      exact hok hinit habove hkey
    obtain ⟨e, he⟩ := mem_iff_exists.mp hkey
    rcases getElem?_of_addMissingRange he with hold | ⟨_, _, j, hlow, hhigh, hj⟩
    · apply (hsound key (mem_of_getElem?_eq_some hold)).lost.advance h.le_last habove
      · omega
      · rw [hseq]
        exact hne
    · have hwindow : s.1.unwrap seq - 65535 ≤ j := by omega
      refine ⟨j, hwindow, hhigh, hj, ?_⟩
      intro hmem
      rcases List.mem_cons.mp hmem with hself | hmem
      · omega
      · have := h.le_last j hmem
        omega

theorem pendingSound_observed_iff {s : NackGenerator × List Int} (h : Recorded s)
    (hsound : PendingSound s) (input : Input) :
    PendingSound (observed s input) ↔ ArrivalSettled s input := by
  have hnext := recorded_observed h input
  cases input with
  | batch nowMs =>
      refine ⟨fun _ => trivial, fun _ key hkey => ?_⟩
      have hold := hsound key (mem_nackList_of_getNackBatch hkey)
      apply hnext.denotesLost
      change LostBelow (s.1.getNackBatch nowMs).1.lastSeqUnwrap s.2 key
      rw [getNackBatch_lastSeqUnwrap]
      exact hold.lost
  | rtt rttMs =>
      refine ⟨fun _ => trivial, fun _ key hkey => ?_⟩
      exact hnext.denotesLost (hsound key hkey).lost
  | reset =>
      refine ⟨fun _ => trivial, fun _ key hkey => ?_⟩
      simp [observe, NackGenerator.step, NackGenerator.reset] at hkey
  | packet seq nowMs =>
      rcases observed_packet_cases s seq nowMs with ⟨hinit, heq⟩ | ⟨_, hsame, heq⟩ |
        ⟨hinit, habove, heq⟩ | ⟨_, hfar, heq⟩ | ⟨_, hbelow, heq⟩
      · refine ⟨fun _ htrue => absurd (htrue.symm.trans hinit) (by simp), ?_⟩
        intro _ key hkey
        rw [heq, (h.wellFormed.fresh hinit).1] at hkey
        simp at hkey
      · refine ⟨fun _ _ hlt => absurd hlt (by omega), ?_⟩
        intro _ key hkey
        apply hnext.denotesLost
        rw [heq] at hkey ⊢
        have hold := (hsound key hkey).lost
        exact hold.cons (hsame ▸ hold.ne_highest)
      · exact pendingSound_inOrder_iff h hsound hinit habove heq
      · refine ⟨fun _ _ hlt => ?_, ?_⟩
        · rw [isRestart, kMaxReorder] at hfar
          omega
        · intro _ key hkey
          rw [heq] at hkey
          simp at hkey
      · refine ⟨fun _ _ hlt => absurd hlt (by omega), ?_⟩
        intro _ key hkey
        apply hnext.denotesLost
        rw [heq] at hkey ⊢
        obtain ⟨hne, hkey⟩ := ExtTreeMap.mem_erase.mp hkey
        apply (hsound key hkey).lost.cons
        rintro rfl
        rw [h.wellFormed.serial_unwrap, Std.compare_self] at hne
        contradiction

theorem pendingSound_start : PendingSound start := by
  intro key hkey
  simp at hkey

/-- The pending table never names a received packet exactly in the runs whose
in-order arrivals do not leave their own number pending. -/
theorem throughout_pendingSound_iff (inputs : List Input) :
    Throughout observed PendingSound start inputs ↔
      Admitted observed ArrivalSettled start inputs := by
  apply throughout_iff_admitted pendingSound_start recorded_start
  · intro s input hrecorded hsound
    exact pendingSound_observed_iff hrecorded hsound input
  · intro s input hrecorded _ _
    exact recorded_observed hrecorded input

/-- A number that is not pending does not become so by filling the gap in front
of its own packet. -/
theorem arrivalSettled_of_free {s : NackGenerator × List Int} (h : Recorded s)
    {input : Input} (hfree : ArrivalFree s input) : ArrivalSettled s input := by
  cases input with
  | packet seq nowMs =>
      intro hinit habove hmem
      obtain ⟨e, he⟩ := mem_iff_exists.mp hmem
      rcases getElem?_of_addMissingRange he with hold | ⟨_, _, j, hlow, hhigh, hj⟩
      · exact hfree hinit habove (mem_of_getElem?_eq_some hold)
      · have hgap := unwrap_lt hinit seq
        have hself : j = s.1.unwrap seq := by
          apply serial_inj_of_lt (w := 16)
          · omega
          · omega
          · rw [← hj, h.wellFormed.serial_unwrap]
        omega
  | batch nowMs => trivial
  | rtt rttMs => trivial
  | reset => trivial

theorem PendingSound.batchSound {s : NackGenerator × List Int} (h : PendingSound s) :
    BatchSound s :=
  fun _ key hkey => h key (mem_nackList_of_requested hkey)

/-- In every run whose in-order arrivals find their own number free, every batch
that is or could be requested on the way names lost packets only. -/
theorem batchSound_of_arrivalFree {inputs : List Input}
    (hfree : Admitted observed ArrivalFree start inputs) :
    Throughout observed BatchSound start inputs := by
  have hsettled : Admitted observed ArrivalSettled start inputs := by
    intro front input back heq
    have hrecorded : Recorded (run observed start front) :=
      invariant_run_of_step recorded_start (fun _ i hs => recorded_observed hs i) front
    exact arrivalSettled_of_free hrecorded (hfree front input back heq)
  intro front back heq
  exact ((throughout_pendingSound_iff inputs).mpr hsettled front back heq).batchSound

theorem batchSound_of_arrivalFree_of_reordered :
    Throughout observed BatchSound start
      [.packet 5 1, .packet 8 1, .packet 6 2, .batch 2] :=
  batchSound_of_arrivalFree (by
    refine admitted_cons.mpr ⟨by simp [ArrivalFree], ?_⟩
    refine admitted_cons.mpr ⟨fun _ _ => by decide, ?_⟩
    refine admitted_cons.mpr ⟨fun _ habove => absurd habove (by decide), ?_⟩
    exact admitted_cons.mpr ⟨trivial, admitted_nil⟩)

section Wrap

def NoRestart (s : NackGenerator × List Int) : Input → Prop
  | .packet seq _ => s.1.initialized = true → ¬ isRestart s.1 seq
  | .reset => False
  | _ => True

def consecutive (last : Int) (count : Nat) (nowMs : Int) : List Input :=
  (List.range count).map fun k : Nat => .packet (serial 16 (last + 1 + k)) nowMs

theorem run_consecutive {s : NackGenerator × List Int} (h : WellFormed s.1)
    (hinit : s.1.initialized = true) (count : Nat) (nowMs : Int) :
    (run observed s (consecutive s.1.lastSeqUnwrap count nowMs)).1 =
        { s.1 with
          lastSeqUnwrap := s.1.lastSeqUnwrap + count
          lastSeqRaw := serial 16 (s.1.lastSeqUnwrap + count) } ∧
      Admitted observed NoRestart s (consecutive s.1.lastSeqUnwrap count nowMs) := by
  induction count with
  | zero =>
      refine ⟨?_, admitted_nil⟩
      simp [consecutive, ← h.raw hinit]
  | succ count ih =>
      obtain ⟨hstate, hadmitted⟩ := ih
      have hlist : consecutive s.1.lastSeqUnwrap (count + 1) nowMs =
          consecutive s.1.lastSeqUnwrap count nowMs ++
            [.packet (serial 16 (s.1.lastSeqUnwrap + 1 + count)) nowMs] := by
        simp [consecutive, List.range_succ]
      have hwell := wellFormed_run h (consecutive s.1.lastSeqUnwrap count nowMs)
      rw [← run_observe_fst NackGenerator.step noteArrival s, hstate] at hwell
      have hsucc : s.1.lastSeqUnwrap + 1 + (count : Int) =
          s.1.lastSeqUnwrap + count + 1 := by
        omega
      have hunwrap := hwell.unwrap_next hinit
      have hstep := hwell.onReceivedPacket_next hinit nowMs
      rw [hlist, run_concat, admitted_append]
      refine ⟨?_, hadmitted, ?_⟩
      · rw [observe_fst, hstate, hsucc, NackGenerator.step, hstep]
        push_cast
        rw [add_assoc]
      · refine admitted_cons.mpr ⟨?_, admitted_nil⟩
        intro _ hrestart
        rw [isRestart, hstate, hsucc, hunwrap, kMaxReorder] at hrestart
        omega

/-- Gapless arrivals that reach a pending number once more make the next batch
unsound. -/
theorem not_batchSound_consecutive {s : NackGenerator × List Int} (h : WellFormed s.1)
    (hinit : s.1.initialized = true) (count : Nat) {nowMs : Int}
    (hrequested : serial 16 (s.1.lastSeqUnwrap + count) ∈ (s.1.getNackBatch nowMs).2) :
    ¬ BatchSound (run observed s (consecutive s.1.lastSeqUnwrap count nowMs)) := by
  intro hsound
  have hstate := (run_consecutive h hinit count nowMs).1
  generalize run observed s (consecutive s.1.lastSeqUnwrap count nowMs) = final
    at hsound hstate
  have hbatch : serial 16 (s.1.lastSeqUnwrap + count) ∈ (final.1.getNackBatch nowMs).2 := by
    rw [mem_getNackBatch_iff] at hrequested ⊢
    rw [hstate]
    exact hrequested
  have hlost := (hsound nowMs _ hbatch).lost
  rw [hstate] at hlost
  exact not_lostBelow_self _ _ hlost

/-- Index 1 stays lost while 65535 packets arrive in order behind it; the last of
them is number 1 again, and the next batch requests it. -/
theorem not_batchSound_after_wrap :
    ¬ ∀ inputs, Nondecreasing inputs → Admitted observed NoRestart start inputs →
      Throughout observed BatchSound start inputs := by
  intro hclaim
  have hwell : WellFormed (run observed start [.packet 0 1, .packet 2 1]).1 :=
    wellFormed_run wellFormed_initial [.packet 0 1, .packet 2 1]
  have hadmitted := (run_consecutive hwell rfl 65535 1).2
  have htimes : Nondecreasing (.packet 0 1 :: .packet 2 1 :: consecutive 2 65535 1) := by
    have hone : ∀ t ∈ (consecutive 2 65535 1).filterMap Input.time?, t = 1 := by
      simp [consecutive, Input.time?]
    have hall : ∀ t ∈ (1 : Int) :: 1 :: (consecutive 2 65535 1).filterMap Input.time?,
        t = 1 := by
      simpa using hone
    change List.Pairwise _ ((1 : Int) :: 1 :: (consecutive 2 65535 1).filterMap Input.time?)
    rw [List.eq_replicate_of_mem hall]
    exact List.pairwise_replicate.mpr (Or.inr le_rfl)
  have hrestart : Admitted observed NoRestart start
      (.packet 0 1 :: .packet 2 1 :: consecutive 2 65535 1) := by
    refine admitted_cons.mpr ⟨fun hinit => absurd hinit (by decide), ?_⟩
    exact admitted_cons.mpr ⟨fun _ => by decide, hadmitted⟩
  have hrequested : (1 : BitVec 16) ∈
      ((run observed start [.packet 0 1, .packet 2 1]).1.getNackBatch 1).2 := by
    refine mem_getNackBatch_iff.mpr ⟨by decide, { firstMissedAtMs := 1 }, by decide, by decide⟩
  have hsound := hclaim _ htimes hrestart _ [] (List.append_nil _).symm
  rw [run_cons, run_cons] at hsound
  exact not_batchSound_consecutive hwell rfl 65535 hrequested hsound

end Wrap

end GBServer.NackSoundness
