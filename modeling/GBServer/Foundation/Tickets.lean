import Mathlib.Data.List.Chain

namespace Foundation.Tickets

variable {α : Type*} (succ : α → α)

/-- `ticket` may be used next: it follows the last one used, if any. -/
def Continues (used : List α) (ticket : α) : Prop := ∀ last ∈ used.getLast?, ticket = succ last

/-- The tickets held are the last ones drawn, and all tickets before them that matter
have been used. -/
def Held (used : List α) (next : α) : Option α → Option α → Prop
  | none, none => Continues succ used next
  | some a, none => Continues succ used a ∧ next = succ a
  | none, some b => Continues succ used b ∧ next = succ b
  | some a, some b =>
      (Continues succ used a ∧ b = succ a ∧ next = succ b) ∨
        (Continues succ used b ∧ a = succ b ∧ next = succ a)

variable {succ} {used : List α} {next a : α} {mine other : Option α}

theorem continues_nil (ticket : α) : Continues succ [] ticket := by
  intro last h
  cases h

theorem continues_concat (ticket : α) : Continues succ (used ++ [ticket]) (succ ticket) := by
  intro last h
  rw [List.getLast?_concat] at h
  rw [Option.some.inj h]

theorem Held.symm (h : Held succ used next mine other) : Held succ used next other mine := by
  cases mine with
  | none =>
      cases other with
      | none => exact h
      | some b => exact h
  | some a =>
      cases other with
      | none => exact h
      | some b => exact h.symm

theorem Held.draw (h : Held succ used next none other) :
    Held succ used (succ next) (some next) other := by
  cases other with
  | none => exact ⟨h, rfl⟩
  | some b => exact Or.inr ⟨h.1, h.2, rfl⟩

/-- The ticket is the older one: the other party holds none, or the one after it. -/
def Older (succ : α → α) (a : α) (other : Option α) : Prop := other = none ∨ other = some (succ a)

theorem Held.continues (hsucc : ∀ a, succ (succ a) ≠ a) (h : Held succ used next (some a) other)
    (hother : Older succ a other) : Continues succ used a := by
  rcases hother with rfl | rfl
  · exact h.1
  · rcases h with ⟨hused, _⟩ | ⟨_, heq, _⟩
    · exact hused
    · exact absurd heq.symm (hsucc a)

theorem Held.use (hsucc : ∀ a, succ (succ a) ≠ a) (h : Held succ used next (some a) other)
    (hother : Older succ a other) : Held succ (used ++ [a]) next none other := by
  rcases hother with rfl | rfl
  · rw [h.2]
    exact continues_concat a
  · rcases h with ⟨_, _, hnext⟩ | ⟨_, heq, _⟩
    · exact ⟨continues_concat a, hnext⟩
    · exact absurd heq.symm (hsucc a)

theorem Held.giveUp (hsucc : ∀ a, succ (succ a) ≠ a) (h : Held succ [] next (some a) other)
    (hother : Older succ a other) : Held succ [] next none other := by
  rcases hother with rfl | rfl
  · exact continues_nil next
  · rcases h with ⟨_, _, hnext⟩ | ⟨_, heq, _⟩
    · exact ⟨continues_nil _, hnext⟩
    · exact absurd heq.symm (hsucc a)

theorem Continues.isChain_concat (h : used.IsChain fun a b => b = succ a)
    (hticket : Continues succ used a) : (used ++ [a]).IsChain fun a b => b = succ a := by
  rw [List.isChain_append]
  refine ⟨h, List.isChain_singleton a, ?_⟩
  intro last hlast b hb
  rw [← Option.some.inj hb]
  exact hticket last hlast

end Foundation.Tickets
