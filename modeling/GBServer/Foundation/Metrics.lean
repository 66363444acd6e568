import Mathlib.Algebra.BigOperators.Group.List.Basic
import Mathlib.Algebra.Order.BigOperators.Group.List
import Mathlib.Algebra.Order.Field.Rat
import Mathlib.Data.Finset.Max
import Mathlib.Tactic.Linarith
import Mathlib.Tactic.Positivity

namespace Foundation.Metrics

section Thresholds

variable {α β : Type*} [LinearOrder α]

/-- The value of the first row whose bound is above `x`, or `last`. -/
def lookBelow (rows : List (α × β)) (last : β) (x : α) : β :=
  match rows with
  | [] => last
  | (bound, value) :: rest => if x < bound then value else lookBelow rest last x

/-- The values of the table from its first row to `last`. -/
def values (rows : List (α × β)) (last : β) : List β := rows.map Prod.snd ++ [last]

theorem lookBelow_mem (rows : List (α × β)) (last : β) (x : α) :
    lookBelow rows last x ∈ values rows last := by
  induction rows with
  | nil => exact List.mem_singleton_self last
  | cons row rest ih =>
      rw [lookBelow]
      split
      · exact List.mem_cons_self
      · exact List.mem_cons_of_mem _ ih

theorem lookBelow_mem_Icc [Preorder β] {rows : List (α × β)} {last a b : β}
    (h : ∀ value ∈ values rows last, a ≤ value ∧ value ≤ b) (x : α) :
    lookBelow rows last x ∈ Set.Icc a b := h _ (lookBelow_mem rows last x)

/-- A table whose values go down gives smaller values for larger arguments. -/
theorem lookBelow_antitone [Preorder β] {rows : List (α × β)} {last : β}
    (h : (values rows last).Pairwise (· ≥ ·)) : Antitone (lookBelow rows last) := by
  induction rows with
  | nil => exact antitone_const
  | cons row rest ih =>
      obtain ⟨hhead, hrest⟩ := List.pairwise_cons.mp h
      intro x y hxy
      rw [lookBelow, lookBelow]
      by_cases hy : y < row.1
      · rw [if_pos hy, if_pos (lt_of_le_of_lt hxy hy)]
      · rw [if_neg hy]
        split
        · exact hhead _ (lookBelow_mem rest last y)
        · exact ih hrest hxy

end Thresholds

section Averages

/-- The average of a list, 0 if it is empty. -/
def average (xs : List ℚ) : ℚ := if 0 < xs.length then xs.sum / xs.length else 0

@[simp] theorem average_nil : average [] = 0 := rfl

theorem average_of_ne_nil {xs : List ℚ} (h : xs ≠ []) : average xs = xs.sum / xs.length :=
  if_pos (List.length_pos_iff.mpr h)

theorem le_average {xs : List ℚ} (h : xs ≠ []) {a : ℚ} (ha : ∀ x ∈ xs, a ≤ x) :
    a ≤ average xs := by
  have hpos : (0 : ℚ) < xs.length := by exact_mod_cast List.length_pos_iff.mpr h
  rw [average_of_ne_nil h, le_div_iff₀ hpos, mul_comm, ← nsmul_eq_mul]
  exact List.card_nsmul_le_sum xs a ha

theorem average_le {xs : List ℚ} (h : xs ≠ []) {b : ℚ} (hb : ∀ x ∈ xs, x ≤ b) :
    average xs ≤ b := by
  have hpos : (0 : ℚ) < xs.length := by exact_mod_cast List.length_pos_iff.mpr h
  rw [average_of_ne_nil h, div_le_iff₀ hpos, mul_comm, ← nsmul_eq_mul]
  exact List.sum_le_card_nsmul xs b hb

/-- `x` lies between the smallest and the largest of `xs`. -/
def Between (x : ℚ) (xs : List ℚ) : Prop := (∃ lo ∈ xs, lo ≤ x) ∧ ∃ hi ∈ xs, x ≤ hi

theorem between_average {xs : List ℚ} (h : xs ≠ []) : Between (average xs) xs := by
  have hne : xs.toFinset.Nonempty := List.toFinset_nonempty_iff xs |>.mpr h
  obtain ⟨lo, hlo, hmin⟩ := xs.toFinset.exists_min_image id hne
  obtain ⟨hi, hhi, hmax⟩ := xs.toFinset.exists_max_image id hne
  rw [List.mem_toFinset] at hlo hhi
  exact ⟨⟨lo, hlo, le_average h fun x hx => hmin x (List.mem_toFinset.mpr hx)⟩,
    ⟨hi, hhi, average_le h fun x hx => hmax x (List.mem_toFinset.mpr hx)⟩⟩

/-- The midpoint of a value and the average of others is between the smallest and the
largest of them all. -/
theorem between_midpoint (x : ℚ) {xs : List ℚ} (h : xs ≠ []) :
    Between ((x + average xs) / 2) (x :: xs) := by
  obtain ⟨⟨lo, hlo, hloAverage⟩, hi, hhi, hhiAverage⟩ := between_average h
  rcases le_total x (average xs) with hle | hle
  · exact ⟨⟨x, List.mem_cons_self, by linarith⟩, hi, List.mem_cons_of_mem x hhi, by linarith⟩
  · exact ⟨⟨lo, List.mem_cons_of_mem x hlo, by linarith⟩, x, List.mem_cons_self, by linarith⟩

end Averages

end Foundation.Metrics
