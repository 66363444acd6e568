import GBServer.FailedRequests

namespace GBServer.ProducerStatistics

open Foundation.CStrings
open Foundation.Runs

/-- The producers made so far, `producer_` of the session, and the shared pointers that
handlers, the registry and posted lambdas hold, one entry for each. -/
structure State where
  manager : StatisticsManager := {}
  types : ResourceId → ShareResourceType := fun _ => .unknowed
  next : ResourceId := 0
  producer : Option ResourceId := none
  held : List ResourceId := []

inductive Input where
  | createProducer (type : ShareResourceType)
  | setProducer (producer : Option ResourceId)
  | clear
  | share (i : ResourceId)
  | release (i : ResourceId)
  deriving DecidableEq, Repr

namespace State

def Alive (s : State) (i : ResourceId) : Prop := i ∈ s.held ∨ s.producer = some i

instance (s : State) (i : ResourceId) : Decidable (s.Alive i) :=
  inferInstanceAs (Decidable (_ ∨ _))

section

variable (sessionName : CString)

def getProducerStatistics (s : State) : Option ResourceId :=
  s.manager.producerStats[sessionName]?

/-- Only the constructor of `RtcProducer` makes and registers a statistics object. -/
def construct (s : State) (type : ShareResourceType) : State :=
  { s with
    manager := if type = .producerRtc then s.manager.registerProducer sessionName s.next
      else s.manager
    types := Function.update s.types s.next type
    next := s.next + 1
    held := s.next :: s.held }

def createProducer (s : State) (type : ShareResourceType) : State :=
  match type with
  | .producerGB28181 | .producerRtc | .producerRtsp => s.construct sessionName type
  | _ => s

def destroy (s : State) (i : ResourceId) : State :=
  if s.types i = .producerRtc then
    { s with manager := s.manager.unregisterProducer sessionName }
  else s

/-- A shared pointer to `i` is gone; the destructor runs if it was the last one. -/
def dropped (s : State) (i : ResourceId) : State :=
  if s.Alive i then s else s.destroy sessionName i

/-- `producer_.reset()` -/
def resetProducer (s : State) : State :=
  match s.producer with
  | some old => { s with producer := none }.dropped sessionName old
  | none => s

def setProducer (s : State) (producer : Option ResourceId) : State :=
  match producer with
  | some i => { s.resetProducer sessionName with producer := some i }
  | none => s.resetProducer sessionName

/-- Who calls `SetProducer` or copies a shared pointer has one. -/
def step (s : State) : Input → State
  | .createProducer type => s.createProducer sessionName type
  | .setProducer producer =>
      if ∀ i ∈ producer, i ∈ s.held then s.setProducer sessionName producer else s
  | .clear => s.resetProducer sessionName
  | .share i => if s.Alive i then { s with held := i :: s.held } else s
  | .release i =>
      if i ∈ s.held then { s with held := s.held.erase i }.dropped sessionName i else s

/-- The statistics of the RTC producer that serves the session are the ones found under
its name. -/
def StatisticsSurvive (s : State) : Prop :=
  ∀ i, s.producer = some i → s.types i = .producerRtc →
    s.getProducerStatistics sessionName = some i

end

def ServesRtc (s : State) : Prop := ∃ i, s.producer = some i ∧ s.types i = .producerRtc

/-- No RTC producer is constructed or destroyed while another one serves the session, and
one that starts to serve it is still registered and ends the life of no other. -/
def KeepsRegistration (sessionName : CString) (s : State) : Input → Prop
  | .createProducer type => type = .producerRtc → ¬ s.ServesRtc
  | .setProducer (some i) =>
      i ∈ s.held → s.types i = .producerRtc →
        s.getProducerStatistics sessionName = some i ∧
          ∀ old, s.producer = some old → s.types old = .producerRtc → old ∈ s.held
  | .release i =>
      s.types i = .producerRtc → i ∈ s.held → i ∉ s.held.erase i → s.producer ≠ some i →
        ¬ s.ServesRtc
  | .setProducer none | .clear | .share _ => True

/-- The shared pointers point to producers that have been made. -/
def Allocated (s : State) : Prop := ∀ i, s.Alive i → i < s.next

@[simp] theorem destroy_producer (sessionName : CString) (s : State) (i : ResourceId) :
    (s.destroy sessionName i).producer = s.producer := by
  unfold destroy
  split <;> rfl

@[simp] theorem destroy_types (sessionName : CString) (s : State) (i : ResourceId) :
    (s.destroy sessionName i).types = s.types := by
  unfold destroy
  split <;> rfl

theorem getProducerStatistics_destroy (sessionName : CString) (s : State) (i : ResourceId) :
    (s.destroy sessionName i).getProducerStatistics sessionName =
      if s.types i = .producerRtc then none else s.getProducerStatistics sessionName := by
  unfold destroy
  split
  · simp [getProducerStatistics, StatisticsManager.unregisterProducer]
  · rfl

theorem resetProducer_producer (sessionName : CString) (s : State) :
    (s.resetProducer sessionName).producer = none := by
  cases hproducer : s.producer with
  | none => simp [resetProducer, hproducer]
  | some old =>
      simp only [resetProducer, hproducer, dropped]
      split
      · rfl
      · exact destroy_producer sessionName _ old

theorem resetProducer_types (sessionName : CString) (s : State) :
    (s.resetProducer sessionName).types = s.types := by
  cases hproducer : s.producer with
  | none => simp [resetProducer, hproducer]
  | some old =>
      simp only [resetProducer, hproducer, dropped]
      split
      · rfl
      · exact destroy_types sessionName _ old

theorem getProducerStatistics_resetProducer (sessionName : CString) (s : State)
    (i : ResourceId) :
    (s.resetProducer sessionName).getProducerStatistics sessionName = some i ↔
      s.getProducerStatistics sessionName = some i ∧
        ∀ old, s.producer = some old → s.types old = .producerRtc → old ∈ s.held := by
  cases hproducer : s.producer with
  | none => simp [resetProducer, hproducer]
  | some old =>
      by_cases hheld : old ∈ s.held
      · have hreset : s.resetProducer sessionName = { s with producer := none } := by
          simp [resetProducer, hproducer, dropped, Alive, hheld]
        rw [hreset]
        simp [getProducerStatistics, hheld]
      · have hreset : s.resetProducer sessionName =
            { s with producer := none }.destroy sessionName old := by
          simp [resetProducer, hproducer, dropped, Alive, hheld]
        rw [hreset, getProducerStatistics_destroy]
        by_cases htype : s.types old = .producerRtc
        · simp [htype, hheld]
        · simp [htype, getProducerStatistics]

theorem not_servesRtc {s : State} :
    ¬ s.ServesRtc ↔ ∀ i, s.producer = some i → s.types i ≠ .producerRtc := by
  simp [ServesRtc]

theorem statisticsSurvive_destroy {sessionName : CString} {s : State} {i : ResourceId}
    (h : s.StatisticsSurvive sessionName) :
    (s.destroy sessionName i).StatisticsSurvive sessionName ↔
      (s.types i = .producerRtc → ¬ s.ServesRtc) := by
  rw [not_servesRtc]
  by_cases htype : s.types i = .producerRtc
  · simp [StatisticsSurvive, getProducerStatistics_destroy, htype]
  · have hsame : s.destroy sessionName i = s := by simp [destroy, htype]
    rw [hsame]
    exact iff_of_true h fun hrtc => absurd hrtc htype

theorem statisticsSurvive_construct {sessionName : CString} {s : State}
    {type : ShareResourceType} (hallocated : s.Allocated)
    (h : s.StatisticsSurvive sessionName) :
    (s.construct sessionName type).StatisticsSurvive sessionName ↔
      (type = .producerRtc → ¬ s.ServesRtc) := by
  have hfresh : ∀ i, s.producer = some i → i ≠ s.next := fun i hi =>
    Nat.ne_of_lt (hallocated i (.inr hi))
  have htypes : ∀ i, s.producer = some i →
      (s.construct sessionName type).types i = s.types i := fun i hi =>
    Function.update_of_ne (hfresh i hi) _ _
  rw [not_servesRtc]
  by_cases htype : type = .producerRtc
  · have hentry : (s.construct sessionName type).getProducerStatistics sessionName =
        some s.next := by
      simp [construct, htype, getProducerStatistics, StatisticsManager.registerProducer]
    constructor
    · intro hafter _ i hi hrtc
      have hi' := hafter i hi ((htypes i hi).trans hrtc)
      rw [hentry] at hi'
      exact hfresh i hi (Option.some.inj hi').symm
    · intro hnone i hi hrtc
      exact absurd ((htypes i hi).symm.trans hrtc) (hnone htype i hi)
  · have hentry : (s.construct sessionName type).getProducerStatistics sessionName =
        s.getProducerStatistics sessionName := by
      simp [construct, htype, getProducerStatistics]
    refine iff_of_true ?_ fun hrtc => absurd hrtc htype
    intro i hi hrtc
    exact hentry.trans (h i hi ((htypes i hi).symm.trans hrtc))

theorem statisticsSurvive_setProducer {sessionName : CString} {s : State} {i : ResourceId} :
    (s.setProducer sessionName (some i)).StatisticsSurvive sessionName ↔
      (s.types i = .producerRtc →
        s.getProducerStatistics sessionName = some i ∧
          ∀ old, s.producer = some old → s.types old = .producerRtc → old ∈ s.held) := by
  rw [← getProducerStatistics_resetProducer, ← resetProducer_types sessionName s]
  constructor
  · intro h hrtc
    exact h i rfl hrtc
  · rintro h j hj hrtc
    obtain rfl : i = j := Option.some.inj hj
    exact h hrtc

theorem statisticsSurvive_of_none {sessionName : CString} {s : State}
    (h : s.producer = none) : s.StatisticsSurvive sessionName := by
  intro i hi
  simp [h] at hi

theorem statisticsSurvive_step {sessionName : CString} {s : State} (input : Input)
    (hallocated : s.Allocated) (h : s.StatisticsSurvive sessionName) :
    (s.step sessionName input).StatisticsSurvive sessionName ↔
      s.KeepsRegistration sessionName input := by
  cases input with
  | createProducer type =>
      cases type
      case producerGB28181 => exact statisticsSurvive_construct hallocated h
      case producerRtc => exact statisticsSurvive_construct hallocated h
      case producerRtsp => exact statisticsSurvive_construct hallocated h
      all_goals exact iff_of_true h (fun hrtc => absurd hrtc (by simp))
  | setProducer producer =>
      cases producer with
      | none =>
          exact iff_of_true (statisticsSurvive_of_none (resetProducer_producer sessionName s))
            trivial
      | some i =>
          by_cases hheld : i ∈ s.held
          · have hstep : s.step sessionName (.setProducer (some i)) =
                s.setProducer sessionName (some i) := by simp [step, hheld]
            rw [hstep, statisticsSurvive_setProducer]
            simp [KeepsRegistration, hheld]
          · have hstep : s.step sessionName (.setProducer (some i)) = s := by
              simp [step, hheld]
            rw [hstep]
            exact iff_of_true h fun hi => absurd hi hheld
  | clear =>
      exact iff_of_true (statisticsSurvive_of_none (resetProducer_producer sessionName s))
        trivial
  | share i =>
      refine iff_of_true ?_ trivial
      simp only [step]
      split
      · exact h
      · exact h
  | release i =>
      by_cases hheld : i ∈ s.held
      · by_cases halive : { s with held := s.held.erase i }.Alive i
        · have hstep : s.step sessionName (.release i) =
              { s with held := s.held.erase i } := by simp [step, hheld, dropped, halive]
          rw [hstep]
          refine iff_of_true h fun _ _ hlast hother => ?_
          exact absurd halive (not_or.mpr ⟨hlast, hother⟩)
        · have hstep : s.step sessionName (.release i) =
              { s with held := s.held.erase i }.destroy sessionName i := by
            simp [step, hheld, dropped, halive]
          have hgone := not_or.mp halive
          rw [hstep, @statisticsSurvive_destroy _ { s with held := s.held.erase i } _ h]
          exact ⟨fun hkeep hrtc _ _ _ => hkeep hrtc, fun hkeep hrtc =>
            hkeep hrtc hheld hgone.1 hgone.2⟩
      · have hstep : s.step sessionName (.release i) = s := by simp [step, hheld]
        rw [hstep]
        exact iff_of_true h fun _ hi => absurd hi hheld

theorem destroy_alive (sessionName : CString) (s : State) (i j : ResourceId) :
    (s.destroy sessionName i).Alive j ↔ s.Alive j := by
  unfold destroy
  split <;> rfl

theorem destroy_next (sessionName : CString) (s : State) (i : ResourceId) :
    (s.destroy sessionName i).next = s.next := by
  unfold destroy
  split <;> rfl

theorem Allocated.dropped {sessionName : CString} {s : State} (h : s.Allocated)
    (i : ResourceId) : (s.dropped sessionName i).Allocated := by
  unfold State.dropped
  split
  · exact h
  · intro j hj
    rw [destroy_next]
    exact h j ((destroy_alive sessionName s i j).mp hj)

theorem Allocated.construct {sessionName : CString} {s : State} (h : s.Allocated)
    (type : ShareResourceType) : (s.construct sessionName type).Allocated := by
  rintro j (hj | hj)
  · rcases List.mem_cons.mp hj with rfl | hj
    · exact Nat.lt_succ_self _
    · exact Nat.lt_succ_of_lt (h j (.inl hj))
  · exact Nat.lt_succ_of_lt (h j (.inr hj))

theorem Allocated.resetProducer {sessionName : CString} {s : State} (h : s.Allocated) :
    (s.resetProducer sessionName).Allocated := by
  unfold State.resetProducer
  split
  · refine Allocated.dropped ?_ _
    rintro j (hj | hj)
    · exact h j (.inl hj)
    · simp at hj
  · exact h

theorem resetProducer_held (sessionName : CString) (s : State) :
    (s.resetProducer sessionName).held = s.held := by
  unfold State.resetProducer State.dropped State.destroy
  repeat' split
  all_goals rfl

theorem Allocated.setProducer {sessionName : CString} {s : State} (h : s.Allocated)
    {i : ResourceId} (hi : i ∈ s.held) :
    (s.setProducer sessionName (some i)).Allocated := by
  have hreset := @Allocated.resetProducer sessionName s h
  rintro j (hj | hj)
  · exact hreset j (.inl hj)
  · obtain rfl : i = j := Option.some.inj hj
    exact hreset i (.inl (by rwa [resetProducer_held]))

theorem Allocated.step {sessionName : CString} {s : State} (h : s.Allocated)
    (input : Input) : (s.step sessionName input).Allocated := by
  cases input with
  | createProducer type =>
      simp only [State.step, State.createProducer]
      split
      case h_4 => exact h
      all_goals exact h.construct _
  | setProducer producer =>
      simp only [State.step]
      split
      case isTrue hheld =>
        cases producer with
        | none => exact h.resetProducer
        | some i => exact h.setProducer (hheld i rfl)
      case isFalse => exact h
  | clear => exact h.resetProducer
  | share i =>
      simp only [State.step]
      split
      case isTrue halive =>
        rintro j (hj | hj)
        · rcases List.mem_cons.mp hj with rfl | hj
          · exact h j halive
          · exact h j (.inl hj)
        · exact h j (.inr hj)
      case isFalse => exact h
  | release i =>
      simp only [State.step]
      split
      case isTrue =>
        refine Allocated.dropped ?_ i
        rintro j (hj | hj)
        · exact h j (.inl (List.mem_of_mem_erase hj))
        · exact h j (.inr hj)
      case isFalse => exact h

end State

open State

/-- Starting without producers, the statistics survive a run exactly when its steps keep
the registration. -/
theorem throughout_statisticsSurvive_iff (sessionName : CString) (inputs : List Input) :
    Throughout (State.step sessionName) (StatisticsSurvive sessionName) {} inputs ↔
      Admitted (State.step sessionName) (KeepsRegistration sessionName) {} inputs :=
  throughout_iff_admitted (statisticsSurvive_of_none rfl)
    (fun i hi => by simp [Alive] at hi)
    (fun _ input hallocated h => statisticsSurvive_step input hallocated h)
    (fun _ input hallocated _ _ => hallocated.step input)

/-- Two push requests for one stream: each handler drops its shared pointer when it is
done. -/
def republish : List Input :=
  [.createProducer .producerRtc, .setProducer (some 0), .release 0,
    .createProducer .producerRtc, .setProducer (some 1), .release 1]

/-- After the second push the session has a producer whose statistics are gone. -/
theorem not_statisticsSurvive_republish :
    ¬ ∀ (sessionName : CString) (inputs : List Input),
      Throughout (State.step sessionName) (StatisticsSurvive sessionName) {} inputs := by
  intro hall
  have hlast := hall [] republish republish [] (List.append_nil _).symm
  have hentry := hlast 1 (by decide) (by decide)
  simp [republish, run, State.step, State.createProducer, State.construct,
    State.setProducer, State.resetProducer, State.dropped, State.destroy, State.Alive,
    getProducerStatistics, StatisticsManager.unregisterProducer] at hentry

end GBServer.ProducerStatistics
