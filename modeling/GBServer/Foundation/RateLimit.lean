import Mathlib.Data.List.Basic
import Mathlib.Data.List.Induction
import Mathlib.Algebra.Order.Ring.Int
import Mathlib.Tactic.Ring

namespace Foundation.RateLimit

/-- The clock is read twice: one reading is compared, the other is kept. -/
structure Reading where
  now : Int
  stamp : Int
  deriving DecidableEq, Repr

/-- The reading that was kept last, and the events let through. -/
structure Gate where
  last : Int
  passed : List Reading := []
  deriving DecidableEq, Repr

def Gate.offer (period : Int) (gate : Gate) (event : Reading) : Gate :=
  if event.now - gate.last < period then gate
  else { last := event.stamp, passed := gate.passed ++ [event] }

def Gate.offers (period : Int) (gate : Gate) (events : List Reading) : Gate :=
  events.foldl (Gate.offer period) gate

/-- The clock does not run back. -/
structure Ticking (events : List Reading) : Prop where
  within : ∀ event ∈ events, event.now ≤ event.stamp
  between : events.Pairwise fun earlier later => earlier.stamp ≤ later.now

def Spaced (period : Int) (times : List Int) : Prop :=
  times.Pairwise fun earlier later => earlier + period ≤ later

variable {period : Int} {gate : Gate} {events : List Reading} {event : Reading}

theorem Ticking.sublist {few : List Reading} (h : Ticking events) (hfew : few.Sublist events) :
    Ticking few :=
  ⟨fun event hevent => h.within event (hfew.subset hevent), h.between.sublist hfew⟩

theorem ticking_concat :
    Ticking (events ++ [event]) ↔
      Ticking events ∧ event.now ≤ event.stamp ∧ ∀ earlier ∈ events, earlier.stamp ≤ event.now := by
  constructor
  · rintro ⟨hwithin, hbetween⟩
    rw [List.pairwise_append] at hbetween
    refine ⟨⟨fun e he => hwithin e (List.mem_append_left _ he), hbetween.1⟩,
      hwithin event (List.mem_append_right _ List.mem_cons_self), ?_⟩
    intro earlier hearlier
    exact hbetween.2.2 earlier hearlier event List.mem_cons_self
  · rintro ⟨hticking, hevent, hearlier⟩
    constructor
    · intro e he
      rcases List.mem_append.mp he with he | he
      · exact hticking.within e he
      · rwa [List.mem_singleton.mp he]
    · rw [List.pairwise_append]
      refine ⟨hticking.between, List.pairwise_singleton _ _, ?_⟩
      intro earlier he later hl
      rw [List.mem_singleton.mp hl]
      exact hearlier earlier he

theorem offers_concat :
    gate.offers period (events ++ [event]) = (gate.offers period events).offer period event := by
  rw [Gate.offers, List.foldl_append]
  rfl

theorem passed_sublist (last : Int) (events : List Reading) :
    (Gate.offers period ⟨last, []⟩ events).passed.Sublist events := by
  induction events using List.reverseRecOn with
  | nil => exact List.Sublist.refl _
  | append_singleton events event ih =>
      rw [offers_concat, Gate.offer]
      split
      · exact ih.trans (List.sublist_append_left _ _)
      · exact ih.append (List.Sublist.refl _)

theorem stamp_le_last {last : Int} (h : Ticking events) :
    ∀ e ∈ (Gate.offers period ⟨last, []⟩ events).passed,
      e.stamp ≤ (Gate.offers period ⟨last, []⟩ events).last := by
  induction events using List.reverseRecOn with
  | nil => exact fun _ he => absurd he List.not_mem_nil
  | append_singleton events event ih =>
      obtain ⟨hticking, hevent, hearlier⟩ := ticking_concat.mp h
      intro e he
      rw [offers_concat, Gate.offer] at he ⊢
      split at he
      · rename_i hless
        rw [if_pos hless]
        exact ih hticking e he
      · rename_i hmore
        rw [if_neg hmore]
        rcases List.mem_append.mp he with he | he
        · exact (hearlier e ((passed_sublist last events).subset he)).trans hevent
        · rw [List.mem_singleton.mp he]

theorem spaced_passed {last : Int} (h : Ticking events) :
    Spaced period ((Gate.offers period ⟨last, []⟩ events).passed.map Reading.stamp) := by
  induction events using List.reverseRecOn with
  | nil => exact List.Pairwise.nil
  | append_singleton events event ih =>
      obtain ⟨hticking, hevent, _⟩ := ticking_concat.mp h
      rw [offers_concat, Gate.offer]
      split
      · exact ih hticking
      · rename_i hmore
        rw [List.map_append, Spaced, List.pairwise_append]
        refine ⟨ih hticking, List.pairwise_singleton _ _, ?_⟩
        intro earlier hmem later hlater
        obtain ⟨e, he, rfl⟩ := List.mem_map.mp hmem
        rw [List.map_singleton, List.mem_singleton] at hlater
        have hlast : e.stamp ≤ (Gate.offers period ⟨last, []⟩ events).last :=
          stamp_le_last hticking e he
        omega

theorem last_eq (period last : Int) (events : List Reading) :
    (Gate.offers period ⟨last, []⟩ events).last = last ∨
      ∃ e ∈ (Gate.offers period ⟨last, []⟩ events).passed,
        (Gate.offers period ⟨last, []⟩ events).last = e.stamp := by
  induction events using List.reverseRecOn with
  | nil => exact Or.inl rfl
  | append_singleton events event ih =>
      rw [offers_concat, Gate.offer]
      split
      · exact ih
      · exact Or.inr ⟨event, List.mem_append_right _ List.mem_cons_self, rfl⟩

/-- An event is let through itself, or comes less than a period after one that was. -/
theorem exists_passed {last : Int} (hperiod : 0 < period) (h : Ticking events)
    (hevent : event ∈ events) :
    event.now < last + period ∨ ∃ e ∈ (Gate.offers period ⟨last, []⟩ events).passed,
      e.now ≤ event.now ∧ event.now < e.stamp + period := by
  induction events using List.reverseRecOn with
  | nil => exact absurd hevent List.not_mem_nil
  | append_singleton events newest ih =>
      obtain ⟨hticking, hwithin, hearlier⟩ := ticking_concat.mp h
      have hkept : ∀ e ∈ (Gate.offers period ⟨last, []⟩ events).passed,
          e ∈ (Gate.offers period ⟨last, []⟩ (events ++ [newest])).passed := by
        intro e he
        rw [offers_concat, Gate.offer]
        split
        · exact he
        · exact List.mem_append_left _ he
      rcases List.mem_append.mp hevent with hold | hnew
      · rcases ih hticking hold with hearly | ⟨e, he, hbefore, hless⟩
        · exact Or.inl hearly
        · exact Or.inr ⟨e, hkept e he, hbefore, hless⟩
      · obtain rfl := List.mem_singleton.mp hnew
        by_cases hless : event.now - (Gate.offers period ⟨last, []⟩ events).last < period
        · rcases last_eq period last events with hlast | ⟨e, he, hlast⟩
          · exact Or.inl (by omega)
          · have hstamp := hearlier e ((passed_sublist last events).subset he)
            have hnow := hticking.within e ((passed_sublist last events).subset he)
            exact Or.inr ⟨e, hkept e he, by omega, by omega⟩
        · refine Or.inr ⟨event, ?_, Int.le_refl _, by omega⟩
          rw [offers_concat, Gate.offer, if_neg hless]
          exact List.mem_append_right _ List.mem_cons_self

theorem Spaced.length_lt {times : List Int} (h : Spaced period times) {low high : Int}
    (hwindow : ∀ t ∈ times, low ≤ t ∧ t < high) (hne : times ≠ []) :
    low + (times.length - 1) * period < high := by
  induction times generalizing low with
  | nil => exact absurd rfl hne
  | cons t rest ih =>
      obtain ⟨hlow, hhigh⟩ := hwindow t List.mem_cons_self
      rcases eq_or_ne rest [] with rfl | hrest
      · simp only [List.length_cons, List.length_nil]
        omega
      · obtain ⟨hhead, htail⟩ := List.pairwise_cons.mp h
        have hwindow' : ∀ u ∈ rest, low + period ≤ u ∧ u < high := by
          intro u hu
          have hspace := hhead u hu
          exact ⟨by omega, (hwindow u (List.mem_cons_of_mem _ hu)).2⟩
        have hbound := ih htail hwindow' hrest
        have hsum : low + ((t :: rest).length - 1 : Int) * period =
            low + period + (rest.length - 1) * period := by
          rw [List.length_cons]
          push_cast
          ring
        rw [hsum]
        exact hbound

theorem Spaced.length_filter_le {times : List Int} (h : Spaced period times)
    (hperiod : 0 < period) (low : Int) (n : Nat) :
    (times.filter fun t => low ≤ t ∧ t < low + n * period).length ≤ n := by
  rcases eq_or_ne (times.filter fun t => low ≤ t ∧ t < low + n * period) [] with hnil | hne
  · rw [hnil]
    exact Nat.zero_le n
  · have hbound := Spaced.length_lt (h.sublist List.filter_sublist)
      (fun t ht => by simpa using (List.mem_filter.mp ht).2) hne
    have hcount := lt_of_mul_lt_mul_right (Int.lt_of_add_lt_add_left hbound) hperiod.le
    omega

end Foundation.RateLimit
