import Mathlib.Dynamics.PeriodicPts.Defs

namespace Foundation.Iteration

variable {σ : Type*} {step : σ → σ} {stopped : σ → Prop} {s : σ}

theorem stopped_iterate_add (hstay : ∀ s, stopped s → stopped (step s)) {n : ℕ}
    (h : stopped (step^[n] s)) (m : ℕ) : stopped (step^[n + m] s) := by
  induction m with
  | zero => exact h
  | succ m ih =>
      rw [← Nat.add_assoc, Function.iterate_succ_apply']
      exact hstay _ ih

theorem stopped_iterate_of_le (hstay : ∀ s, stopped s → stopped (step s)) {n m : ℕ}
    (hle : n ≤ m) (h : stopped (step^[n] s)) : stopped (step^[m] s) := by
  obtain ⟨k, rfl⟩ := Nat.exists_eq_add_of_le hle
  exact stopped_iterate_add hstay h k

theorem iterate_eq_of_fixed {n m : ℕ} (hfixed : step (step^[n] s) = step^[n] s) (hle : n ≤ m) :
    step^[m] s = step^[n] s := by
  obtain ⟨k, rfl⟩ := Nat.exists_eq_add_of_le hle
  rw [Nat.add_comm, Function.iterate_add_apply, Function.iterate_fixed hfixed]

theorem forall_iterate_of_succ {P : σ → Prop} (hs : P s)
    (hnext : ∀ n, P (step^[n] (step s))) (n : ℕ) : P (step^[n] s) := by
  cases n with
  | zero => exact hs
  | succ n => exact hnext n

theorem iterate_of_repeated {i j : ℕ} (hij : i ≤ j) (heq : step^[i] s = step^[j] s)
    (rounds : ℕ) : step^[i + rounds * (j - i)] s = step^[i] s := by
  have hperiod : Function.IsPeriodicPt step (j - i) (step^[i] s) := by
    rw [Function.IsPeriodicPt, Function.IsFixedPt, ← Function.iterate_add_apply,
      Nat.sub_add_cancel hij, heq]
  rw [Nat.add_comm, Function.iterate_add_apply]
  exact hperiod.const_mul rounds

theorem not_stopped_of_repeated (hstay : ∀ s, stopped s → stopped (step s)) {i j : ℕ}
    (hij : i < j) (heq : step^[i] s = step^[j] s) (hrunning : ¬ stopped (step^[i] s))
    (n : ℕ) : ¬ stopped (step^[n] s) := by
  intro hn
  apply hrunning
  have hle : n ≤ i + n * (j - i) := by
    have : n * 1 ≤ n * (j - i) := Nat.mul_le_mul_left n (by omega)
    omega
  rw [← iterate_of_repeated (Nat.le_of_lt hij) heq n]
  exact stopped_iterate_of_le hstay hle hn

/-- A loop over finitely many running states stops within their number of steps,
or not at all. -/
theorem stopped_iterate_card (hstay : ∀ s, stopped s → stopped (step s)) (states : Finset σ)
    (hstates : ∀ n, ¬ stopped (step^[n] s) → step^[n] s ∈ states) {n : ℕ}
    (hn : stopped (step^[n] s)) : stopped (step^[states.card] s) := by
  by_contra hrunning
  have hall : ∀ k ≤ states.card, ¬ stopped (step^[k] s) := fun k hk h =>
    hrunning (stopped_iterate_of_le hstay hk h)
  have hcard : states.card < (Finset.range (states.card + 1)).card := by
    rw [Finset.card_range]
    exact Nat.lt_succ_self _
  have hmaps : ∀ k ∈ Finset.range (states.card + 1), step^[k] s ∈ states := fun k hk =>
    hstates k (hall k (Nat.lt_succ_iff.mp (Finset.mem_range.mp hk)))
  obtain ⟨i, hi, j, hj, hne, heq⟩ :=
    Finset.exists_ne_map_eq_of_card_lt_of_maps_to hcard hmaps
  rw [Finset.mem_range, Nat.lt_succ_iff] at hi hj
  rcases Nat.lt_or_gt_of_ne hne with hij | hji
  · exact not_stopped_of_repeated hstay hij heq (hall i hi) n hn
  · exact not_stopped_of_repeated hstay hji heq.symm (hall j hj) n hn

end Foundation.Iteration
