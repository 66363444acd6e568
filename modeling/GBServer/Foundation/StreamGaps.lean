import Mathlib.Data.Finset.Card
import Mathlib.Order.Interval.Finset.Defs

namespace Foundation.StreamGaps

variable {α : Type*} [Inhabited α]

/-- The element that opened the stream. -/
def first (arrived : List α) : α := arrived.headD default

theorem first_concat {arrived : List α} (hne : arrived ≠ []) (i : α) :
    first (arrived ++ [i]) = first arrived := by
  cases arrived with
  | nil => exact absurd rfl hne
  | cons head rest => rfl

variable [LinearOrder α]

def highest (arrived : List α) : α := arrived.foldl max (first arrived)

theorem highest_concat {arrived : List α} (hne : arrived ≠ []) (i : α) :
    highest (arrived ++ [i]) = max (highest arrived) i := by
  rw [highest, first_concat hne, List.foldl_append]
  rfl

@[simp] theorem highest_singleton (i : α) : highest [i] = i := by
  simp [highest, first]

theorem le_highest {arrived : List α} {i : α} (hi : i ∈ arrived) :
    i ≤ highest arrived := by
  induction arrived using List.reverseRecOn with
  | nil => simp at hi
  | append_singleton front last ih =>
      rcases eq_or_ne front [] with rfl | hne
      · obtain rfl : i = last := by simpa using hi
        simp
      · rw [highest_concat hne]
        rcases List.mem_append.mp hi with hfront | hlast
        · exact le_max_of_le_left (ih hfront)
        · rw [List.mem_singleton.mp hlast]
          exact le_max_right _ _

theorem highest_mem {arrived : List α} (hne : arrived ≠ []) :
    highest arrived ∈ arrived := by
  induction arrived using List.reverseRecOn with
  | nil => exact absurd rfl hne
  | append_singleton front last ih =>
      rcases eq_or_ne front [] with rfl | hfront
      · simp
      · rw [highest_concat hfront]
        rcases max_choice (highest front) last with heq | heq
        · rw [heq]
          exact List.mem_append_left _ (ih hfront)
        · rw [heq]
          simp

variable [LocallyFiniteOrder α]

/-- What lies strictly between the first and the highest element and has not
arrived. -/
def missing (arrived : List α) : Finset α :=
  (Finset.Ioo (first arrived) (highest arrived)).filter (· ∉ arrived)

theorem mem_missing {arrived : List α} {j : α} :
    j ∈ missing arrived ↔
      first arrived < j ∧ j < highest arrived ∧ j ∉ arrived := by
  rw [missing, Finset.mem_filter, Finset.mem_Ioo, and_assoc]

theorem missing_singleton (i : α) : missing [i] = ∅ := by
  ext j
  simp only [mem_missing, highest_singleton, first, List.headD_cons, Finset.notMem_empty,
    iff_false]
  rintro ⟨hlow, hhigh, _⟩
  exact lt_asymm hlow hhigh

theorem mem_missing_concat_of_lt {arrived : List α} (hne : arrived ≠ []) {i j : α}
    (hi : highest arrived < i) :
    j ∈ missing (arrived ++ [i]) ↔
      j ∈ missing arrived ∨ (highest arrived < j ∧ j < i) := by
  rw [mem_missing, mem_missing, first_concat hne, highest_concat hne, max_eq_right hi.le,
    List.mem_append, List.mem_singleton]
  have hfirst : first arrived ≤ highest arrived := by
    apply le_highest
    cases arrived with
    | nil => exact absurd rfl hne
    | cons head rest => exact List.mem_cons_self
  constructor
  · rintro ⟨hlow, hhigh, hnew⟩
    rcases lt_trichotomy j (highest arrived) with hlt | heq | hgt
    · exact Or.inl ⟨hlow, hlt, fun hmem => hnew (Or.inl hmem)⟩
    · exact absurd (Or.inl (heq ▸ highest_mem hne)) hnew
    · exact Or.inr ⟨hgt, hhigh⟩
  · rintro (⟨hlow, hhigh, hnew⟩ | ⟨hlow, hhigh⟩)
    · refine ⟨hlow, hhigh.trans hi, ?_⟩
      rintro (hmem | heq)
      · exact hnew hmem
      · exact absurd (heq ▸ hhigh) (lt_asymm hi)
    · refine ⟨hfirst.trans_lt hlow, hhigh, ?_⟩
      rintro (hmem | heq)
      · exact absurd (le_highest hmem) (not_le.mpr hlow)
      · exact absurd heq hhigh.ne

theorem mem_missing_concat_of_le {arrived : List α} (hne : arrived ≠ []) {i j : α}
    (hi : i ≤ highest arrived) :
    j ∈ missing (arrived ++ [i]) ↔ j ∈ missing arrived ∧ j ≠ i := by
  rw [mem_missing, mem_missing, first_concat hne, highest_concat hne, max_eq_left hi,
    List.mem_append, List.mem_singleton, not_or]
  tauto

end Foundation.StreamGaps
