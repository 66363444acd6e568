import Mathlib.Data.List.Basic

namespace Foundation.Memory

inductive Fault where
  | nullDereference
  | outOfBounds
  | uninitialised
  | uncaughtException
  deriving DecidableEq, Repr

def readRange (buffer : List UInt8) (offset size : Nat) : Except Fault (List UInt8) :=
  if offset + size ≤ buffer.length then .ok ((buffer.drop offset).take size)
  else .error .outOfBounds

def deref {α : Type*} : Option α → Except Fault α
  | some a => .ok a
  | none => .error .nullDereference

def readByte (buffer : List UInt8) (offset : Nat) : Except Fault UInt8 :=
  match buffer[offset]? with
  | some byte => .ok byte
  | none => .error .outOfBounds

theorem readRange_append (front middle back : List UInt8) :
    readRange (front ++ (middle ++ back)) front.length middle.length = .ok middle := by
  rw [readRange, if_pos, List.drop_left, List.take_left]
  simp only [List.length_append]
  omega

theorem readByte_append (front back : List UInt8) (byte : UInt8) :
    readByte (front ++ byte :: back) front.length = .ok byte := by
  rw [readByte, List.getElem?_append_right (Nat.le_refl _), Nat.sub_self]
  rfl

section Defined

universe u

variable {α β : Type u}

def Defined (x : Except Fault α) : Prop := ∃ a, x = .ok a

@[simp] theorem defined_ok (a : α) : Defined (.ok a) := ⟨a, rfl⟩

@[simp] theorem defined_pure (a : α) : Defined (pure a) := ⟨a, rfl⟩

@[simp] theorem not_defined_error (fault : Fault) : ¬ Defined (.error fault : Except Fault α) := by
  rintro ⟨_, h⟩
  contradiction

theorem bind_eq_ok {x : Except Fault α} {f : α → Except Fault β} {b : β} :
    (x >>= f) = .ok b ↔ ∃ a, x = .ok a ∧ f a = .ok b := by
  cases x with
  | error fault => simp [Bind.bind, Except.bind]
  | ok a => simp [Bind.bind, Except.bind]

theorem pure_eq_ok {a b : α} : (pure a : Except Fault α) = .ok b ↔ a = b :=
  ⟨Except.ok.inj, congrArg Except.ok⟩

theorem pure_pair_eq_ok {a a' : α} {b b' : β} :
    (pure (a, b) : Except Fault (α × β)) = .ok (a', b') ↔ a = a' ∧ b = b' := by
  rw [pure_eq_ok, Prod.mk.injEq]

theorem defined_bind {x : Except Fault α} {f : α → Except Fault β} :
    Defined (x >>= f) ↔ ∃ a, x = .ok a ∧ Defined (f a) := by
  simp only [Defined, bind_eq_ok]
  exact ⟨fun ⟨b, a, hx, hf⟩ => ⟨a, hx, b, hf⟩, fun ⟨a, hx, b, hf⟩ => ⟨b, a, hx, hf⟩⟩

/-- A second computation that is defined or not whatever the first one gives. -/
theorem defined_bind_of_forall {x : Except Fault α} {f : α → Except Fault β} {P : Prop}
    (hf : ∀ a, Defined (f a) ↔ P) : Defined (x >>= f) ↔ Defined x ∧ P := by
  rw [defined_bind]
  simp only [hf, exists_and_right]
  rfl

/-- A list of computations gives the expected results when each of them does. -/
theorem map_mapM_eq_ok_iff {γ : Type u} {f : α → Except Fault β} {g : β → γ} {expected : α → γ}
    {xs : List α} :
    (xs.mapM f).map (List.map g) = .ok (xs.map expected) ↔
      ∀ x ∈ xs, (f x).map g = .ok (expected x) := by
  induction xs with
  | nil => exact iff_of_true rfl (List.forall_mem_nil _)
  | cons x rest ih =>
      rw [List.mapM_cons, List.forall_mem_cons, ← ih]
      cases f x with
      | error fault =>
          refine iff_of_false ?_ ?_
          · rintro ⟨⟩
          · rintro ⟨⟨⟩, _⟩
      | ok b =>
          cases rest.mapM f with
          | error fault =>
              refine iff_of_false ?_ ?_
              · rintro ⟨⟩
              · rintro ⟨_, ⟨⟩⟩
          | ok bs =>
              change Except.ok (g b :: bs.map g) = .ok (expected x :: rest.map expected) ↔
                Except.ok (g b) = .ok (expected x) ∧
                  Except.ok (bs.map g) = .ok (rest.map expected)
              rw [Except.ok.injEq, Except.ok.injEq, Except.ok.injEq, List.cons.injEq]

theorem deref_eq_ok {p : Option α} {a : α} : deref p = .ok a ↔ p = some a := by
  cases p <;> simp [deref]

theorem defined_deref_bind {p : Option α} {f : α → Except Fault β} :
    Defined (deref p >>= f) ↔ ∃ a, p = some a ∧ Defined (f a) := by
  simp only [defined_bind, deref_eq_ok]

end Defined

end Foundation.Memory
