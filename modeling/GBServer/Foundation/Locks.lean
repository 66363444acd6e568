import Mathlib.Logic.Relation
import Mathlib.Order.Basic

namespace Foundation.Locks

variable {T L : Type*}

def WaitsFor (wants : T → Option L) (holds : T → L → Bool) (t u : T) : Prop :=
  ∃ lock, wants t = some lock ∧ holds u lock = true

/-- No thread waits for itself, directly or along a chain of threads. -/
def NoDeadlock (wants : T → Option L) (holds : T → L → Bool) : Prop :=
  ∀ t, ¬ Relation.TransGen (WaitsFor wants holds) t t

def Exclusive (holds : T → L → Bool) : Prop :=
  ∀ t u lock, holds t lock = true → holds u lock = true → t = u

section

variable {wants : T → Option L} {holds : T → L → Bool}

/-- Along a chain of waiting threads the locks held only go up in the order. -/
theorem le_of_transGen {α : Type*} [Preorder α] {rank : L → α}
    (h : ∀ t lock other, wants t = some lock → holds t other = true → rank other < rank lock)
    {t u : T} (hchain : Relation.TransGen (WaitsFor wants holds) t u) {lock : L}
    (hlock : wants t = some lock) : ∃ other, holds u other = true ∧ rank lock ≤ rank other := by
  induction hchain with
  | single hwaits =>
      obtain ⟨other, hother, hheld⟩ := hwaits
      rw [hlock, Option.some.injEq] at hother
      exact ⟨other, hheld, hother ▸ le_refl _⟩
  | tail _ hwaits ih =>
      obtain ⟨other, hother, hle⟩ := ih
      obtain ⟨next, hnext, hheld⟩ := hwaits
      exact ⟨next, hheld, hle.trans (h _ next other hnext hother).le⟩

/-- Threads that take locks only in a fixed order do not deadlock. -/
theorem noDeadlock_of_rank {α : Type*} [Preorder α] (rank : L → α)
    (h : ∀ t lock other, wants t = some lock → holds t other = true → rank other < rank lock) :
    NoDeadlock wants holds := by
  intro t hcycle
  have hwants : ∃ lock, wants t = some lock := by
    obtain ⟨u, ⟨lock, hlock, _⟩, _⟩ := Relation.TransGen.head'_iff.mp hcycle
    exact ⟨lock, hlock⟩
  obtain ⟨lock, hlock⟩ := hwants
  obtain ⟨other, hother, hle⟩ := le_of_transGen h hcycle hlock
  exact absurd (hle.trans_lt (h t lock other hlock hother)) (lt_irrefl _)

theorem not_noDeadlock_of_self {t : T} {lock : L} (hwants : wants t = some lock)
    (hholds : holds t lock = true) : ¬ NoDeadlock wants holds :=
  fun h => h t (.single ⟨lock, hwants, hholds⟩)

theorem not_noDeadlock_of_crossed {t u : T} {lock other : L} (ht : wants t = some lock)
    (hu : holds u lock = true) (hu' : wants u = some other) (ht' : holds t other = true) :
    ¬ NoDeadlock wants holds :=
  fun h => h t (.tail (.single ⟨lock, ht, hu⟩) ⟨other, hu', ht'⟩)

/-- A thread that releases locks, or takes one that is free, leaves the others theirs. -/
theorem Exclusive.step (h : Exclusive holds) {holds' : T → L → Bool} {t : T}
    (hothers : ∀ u, u ≠ t → holds' u = holds u)
    (hself : ∀ lock, holds' t lock = true → holds t lock = true ∨ ∀ u, holds u lock = false) :
    Exclusive holds' := by
  have hother : ∀ u lock, u ≠ t → holds' t lock = true → holds' u lock = true → False := by
    intro u lock hu ht hheld
    rw [hothers u hu] at hheld
    rcases hself lock ht with hold | hfree
    · exact hu (h u t lock hheld hold)
    · rw [hfree u] at hheld
      exact Bool.false_ne_true hheld
  intro u v lock hu hv
  by_cases hut : u = t
  · by_cases hvt : v = t
    · rw [hut, hvt]
    · exact absurd hv (fun hv => hother v lock hvt (hut ▸ hu) hv)
  · by_cases hvt : v = t
    · exact absurd hu (fun hu => hother u lock hut (hvt ▸ hv) hu)
    · rw [hothers u hut] at hu
      rw [hothers v hvt] at hv
      exact h u v lock hu hv

end

end Foundation.Locks
