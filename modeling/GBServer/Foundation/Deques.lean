import Mathlib.Data.List.InsertIdx
import Mathlib.Data.List.Nodup

namespace Foundation.Deques

variable {α : Type*}

/-- The elements, each with the number that references to it have. -/
structure Deque (α : Type*) where
  cells : List (α × Nat) := []
  next : Nat := 0
  distinct : (cells.map Prod.snd).Nodup := by exact List.nodup_nil
  bounded : ∀ cell ∈ cells, cell.2 < next := by exact List.forall_mem_nil _

namespace Deque

def elements (d : Deque α) : List α := d.cells.map Prod.fst

def size (d : Deque α) : Nat := d.cells.length

def Refers (d : Deque α) (reference : Nat) (a : α) : Prop := (a, reference) ∈ d.cells

instance [DecidableEq α] (d : Deque α) (reference : Nat) (a : α) :
    Decidable (d.Refers reference a) :=
  inferInstanceAs (Decidable (_ ∈ d.cells))

def front? (d : Deque α) : Option (α × Nat) := d.cells.head?

/-- References to the other elements stay valid. -/
def pushBack (d : Deque α) (a : α) : Deque α where
  cells := d.cells ++ [(a, d.next)]
  next := d.next + 1
  distinct := by
    rw [List.map_append, List.nodup_append]
    refine ⟨d.distinct, List.nodup_singleton _, ?_⟩
    rintro _ hold _ hnew rfl
    obtain ⟨cell, hcell, heq⟩ := List.mem_map.mp hold
    have hlt := d.bounded cell hcell
    have hnext := List.mem_singleton.mp hnew
    dsimp only at hnext
    omega
  bounded := by
    intro cell hcell
    rcases List.mem_append.mp hcell with hold | hnew
    · exact Nat.lt_succ_of_lt (d.bounded cell hold)
    · rw [List.mem_singleton.mp hnew]
      exact Nat.lt_succ_self _

def popFront (d : Deque α) : Deque α where
  cells := d.cells.tail
  next := d.next
  distinct := d.distinct.sublist ((List.tail_sublist _).map _)
  bounded cell hcell := d.bounded cell (List.mem_of_mem_tail hcell)

/-- At either end only the references to the erased element become invalid, elsewhere all. -/
def erase (d : Deque α) (it : Nat) : Deque α :=
  if it = 0 ∨ it + 1 = d.size then
    { cells := d.cells.eraseIdx it
      next := d.next
      distinct := d.distinct.sublist ((List.eraseIdx_sublist _ _).map _)
      bounded := fun cell hcell => d.bounded cell (List.mem_of_mem_eraseIdx hcell) }
  else
    { cells := (d.elements.eraseIdx it).zipIdx d.next
      next := d.next + d.size
      distinct := by
        rw [List.zipIdx_map_snd]
        exact List.nodup_range'
      bounded := by
        rintro ⟨a, i⟩ hcell
        have hi := List.snd_lt_of_mem_zipIdx hcell
        have hlength : (d.elements.eraseIdx it).length ≤ d.size :=
          Nat.le_trans (List.length_eraseIdx_le _ it) (Nat.le_of_eq (List.length_map _))
        dsimp only at hi ⊢
        omega }

section Elements

variable (d : Deque α)

@[simp]
theorem elements_pushBack (a : α) : (d.pushBack a).elements = d.elements ++ [a] := by
  rw [elements, pushBack, List.map_append, List.map_singleton, elements]

@[simp]
theorem elements_popFront : d.popFront.elements = d.elements.tail := by
  rw [elements, popFront, List.map_tail, elements]

@[simp]
theorem elements_erase (it : Nat) : (d.erase it).elements = d.elements.eraseIdx it := by
  rw [erase]
  split
  · exact (List.eraseIdx_map _ _ _).symm
  · rw [elements, List.zipIdx_map_fst]

theorem length_elements : d.elements.length = d.size := List.length_map _

end Elements

section References

variable {d : Deque α} {reference : Nat} {a : α}

structure Lost (d : Deque α) (reference : Nat) : Prop where
  old : reference < d.next
  invalid : ∀ a, ¬ d.Refers reference a

theorem Refers.lt (h : d.Refers reference a) : reference < d.next := d.bounded _ h

theorem Lost.popFront (h : d.Lost reference) : d.popFront.Lost reference :=
  ⟨h.old, fun a ha => h.invalid a (List.mem_of_mem_tail ha)⟩

theorem front_notMem_tail (h : d.front? = some (a, reference)) (b : α) :
    (b, reference) ∉ d.cells.tail := by
  obtain ⟨rest, hcells⟩ := List.head?_eq_some_iff.mp h
  have hdistinct := d.distinct
  rw [hcells, List.map_cons, List.nodup_cons] at hdistinct
  intro hmem
  rw [hcells] at hmem
  exact hdistinct.1 (List.mem_map.mpr ⟨_, hmem, rfl⟩)

theorem front_refers (h : d.front? = some (a, reference)) : d.Refers reference a :=
  List.mem_of_mem_head? h

theorem front?_pushBack (h : d.front? = some (a, reference)) (b : α) :
    (d.pushBack b).front? = some (a, reference) := by
  have happend : (d.cells ++ [(b, d.next)]).head? = some (a, reference) := by
    rw [List.head?_append, show d.cells.head? = _ from h, Option.some_or]
  exact happend

theorem lost_popFront (h : d.front? = some (a, reference)) : d.popFront.Lost reference :=
  ⟨(front_refers h).lt, front_notMem_tail h⟩

theorem lost_erase_of_inside {it : Nat} (hit : it ≠ 0) (hlast : it + 1 ≠ d.size)
    (hold : reference < d.next) : (d.erase it).Lost reference := by
  rw [erase, if_neg (not_or.mpr ⟨hit, hlast⟩)]
  refine ⟨Nat.lt_add_right _ hold, ?_⟩
  intro a ha
  have hle := List.le_snd_of_mem_zipIdx ha
  exact absurd hold (Nat.not_lt.mpr hle)

theorem lost_erase_zero (h : d.front? = some (a, reference)) : (d.erase 0).Lost reference := by
  rw [erase, if_pos (.inl rfl)]
  refine ⟨(front_refers h).lt, ?_⟩
  intro b (hb : (b, reference) ∈ d.cells.eraseIdx 0)
  rw [List.eraseIdx_zero] at hb
  exact front_notMem_tail h b hb

theorem Lost.erase (h : d.Lost reference) (it : Nat) : (d.erase it).Lost reference := by
  by_cases hend : it = 0 ∨ it + 1 = d.size
  · rw [Deque.erase, if_pos hend]
    exact ⟨h.old, fun a ha => h.invalid a (List.mem_of_mem_eraseIdx ha)⟩
  · rw [not_or] at hend
    exact lost_erase_of_inside hend.1 hend.2 h.old

end References

end Deque

end Foundation.Deques
