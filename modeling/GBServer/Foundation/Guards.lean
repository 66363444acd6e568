import Mathlib.Data.List.Basic

namespace Foundation.Guards

variable {L σ α : Type*}

/-- From the locks that the thread holds and the state, the state that the code leaves, or
the lock that it waits for although it holds it. -/
abbrev Code (L σ : Type*) := List L → σ → Except L σ

def effect (f : σ → σ) : Code L σ := fun _ s => .ok (f s)

def andThen (c d : Code L σ) : Code L σ := fun held s => (c held s).bind (d held)

/-- The loop over a list that is read when it begins. -/
def forEach (xs : σ → List α) (body : α → Code L σ) : Code L σ := fun held s =>
  (xs s).foldlM (fun s x => body x held s) s

/-- `std::lock_guard` over a block. -/
def lockGuard [DecidableEq L] (lock : L) (body : Code L σ) : Code L σ := fun held s =>
  if lock ∈ held then .error lock else body (lock :: held) s

/-- With these locks held, the code returns from every state and does `f`. -/
def Runs (c : Code L σ) (held : List L) (f : σ → σ) : Prop := ∀ s, c held s = .ok (f s)

variable {held : List L}

theorem runs_effect (f : σ → σ) : Runs (effect f) held f := fun _ => rfl

theorem Runs.andThen {c d : Code L σ} {f g : σ → σ} (hc : Runs c held f) (hd : Runs d held g) :
    Runs (andThen c d) held (g ∘ f) := by
  intro s
  rw [Guards.andThen, hc s]
  exact hd (f s)

theorem Runs.forEach {xs : σ → List α} {body : α → Code L σ} {f : α → σ → σ}
    (hbody : ∀ x, Runs (body x) held (f x)) :
    Runs (forEach xs body) held (fun s => (xs s).foldl (fun s x => f x s) s) := by
  have hfold : ∀ (l : List α) (s : σ),
      l.foldlM (fun s x => body x held s) s = .ok (l.foldl (fun s x => f x s) s) := by
    intro l
    induction l with
    | nil => exact fun _ => rfl
    | cons x rest ih =>
        intro s
        rw [List.foldlM_cons, hbody x s, List.foldl_cons]
        exact ih (f x s)
  exact fun s => hfold (xs s) s

variable [DecidableEq L] {lock : L}

theorem Runs.lockGuard {body : Code L σ} {f : σ → σ} (hfree : lock ∉ held)
    (hbody : Runs body (lock :: held) f) : Runs (lockGuard lock body) held f := by
  intro s
  rw [Guards.lockGuard, if_neg hfree]
  exact hbody s

theorem lockGuard_again (lock : L) (c d : Code L σ) (s : σ) :
    lockGuard lock (andThen (lockGuard lock c) d) held s = .error lock := by
  have hagain : Guards.lockGuard lock c (lock :: held) s = .error lock :=
    if_pos List.mem_cons_self
  rw [Guards.lockGuard]
  split
  · rfl
  · rw [andThen, hagain]
    rfl

end Foundation.Guards
