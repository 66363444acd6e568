import GBServer.Foundation.CStrings
import Mathlib.Algebra.Group.Int.Defs

/-!
The string functions of the C library on memory.  A pointer is the list of the bytes from it
to the end of its object, so that nothing is left of it when an access leaves the object.
-/

namespace Foundation.CBuffers

open Foundation.CStrings

/-- The object that is left: the one that is read, or the one that is written. -/
inductive Overrun where
  | source
  | destination
  deriving DecidableEq, Repr

abbrev Pointer := List UInt8

def terminated (s : CString) : Pointer := s ++ [0]

def matchesMark : Pointer → CString → Except Overrun Bool
  | _, [] => .ok true
  | [], _ :: _ => .error .source
  | byte :: p, first :: mark => if byte = first then matchesMark p mark else .ok false

/-- `strstr`, read up to the terminator. -/
def findMark (mark : CString) : Pointer → Except Overrun (Option Pointer)
  | [] => .error .source
  | byte :: p => do
      if ← matchesMark (byte :: p) mark then return some (byte :: p)
      else if byte = 0 then return none
      else findMark mark p

def fillZeros : Pointer → Nat → Except Overrun Pointer
  | dest, 0 => .ok dest
  | [], _ + 1 => .error .destination
  | _ :: dest, count + 1 => (fillZeros dest count).map (0 :: ·)

/-- `strncpy`: what is left of the count behind a terminator is filled with zeros. -/
def copyBytes : (dest source : Pointer) → (count : Nat) → Except Overrun Pointer
  | dest, _, 0 => .ok dest
  | _, [], _ + 1 => .error .source
  | [], _ :: _, _ + 1 => .error .destination
  | _ :: dest, byte :: source, count + 1 =>
      if byte = 0 then (fillZeros dest count).map (0 :: ·)
      else (copyBytes dest source count).map (byte :: ·)

/-- The difference of two pointers as a `size_t`. -/
def toSizeT (difference : Int) : Nat :=
  if difference < 0 then (difference + 2 ^ 64).toNat else difference.toNat

theorem toSizeT_natCast (n : Nat) : toSizeT n = n := by
  rw [toSizeT, if_neg (by omega), Int.toNat_natCast]

theorem matchesMark_terminated {s mark : CString} (hmark : 0 ∉ mark) :
    matchesMark (terminated s) mark = .ok (decide (mark <+: s)) := by
  induction mark generalizing s with
  | nil => rw [matchesMark, decide_eq_true (List.nil_prefix)]
  | cons first mark ih =>
      have hfirst : (0 : UInt8) ≠ first := fun heq => hmark (heq ▸ List.mem_cons_self)
      have hrest : 0 ∉ mark := fun hmem => hmark (List.mem_cons_of_mem first hmem)
      cases s with
      | nil =>
          change (if (0 : UInt8) = first then matchesMark [] mark else .ok false) = _
          rw [if_neg hfirst, decide_eq_false (fun h => List.cons_ne_nil _ _ (List.prefix_nil.mp h))]
      | cons byte s =>
          change (if byte = first then matchesMark (terminated s) mark else .ok false) = _
          split
          · next heq =>
              rw [ih hrest]
              simp only [List.cons_prefix_cons, heq, true_and]
          · next hne =>
              rw [decide_eq_false fun h => hne (List.cons_prefix_cons.mp h).1.symm]

/-- On a string and a mark without zeros, what is found is what `strstr` gives. -/
theorem findMark_terminated {s mark : CString} (hs : 0 ∉ s) (hmark : 0 ∉ mark) :
    findMark mark (terminated s) = .ok ((strstr s mark).map terminated) := by
  induction s with
  | nil =>
      change (matchesMark (terminated []) mark >>= fun found =>
        if found = true then pure (some (terminated [])) else pure none) = _
      rw [matchesMark_terminated hmark, strstr]
      by_cases hprefix : mark <+: []
      · rw [if_pos hprefix, decide_eq_true hprefix]
        rfl
      · rw [if_neg hprefix, decide_eq_false hprefix]
        rfl
  | cons byte s ih =>
      have hbyte : byte ≠ 0 := fun heq => hs (heq ▸ List.mem_cons_self)
      have hrest : 0 ∉ s := fun hmem => hs (List.mem_cons_of_mem byte hmem)
      change (matchesMark (terminated (byte :: s)) mark >>= fun found =>
        if found = true then pure (some (terminated (byte :: s)))
        else if byte = 0 then pure none else findMark mark (terminated s)) = _
      rw [matchesMark_terminated hmark, strstr, ih hrest]
      by_cases hprefix : mark <+: byte :: s
      · rw [if_pos hprefix, decide_eq_true hprefix]
        rfl
      · rw [if_neg hprefix, decide_eq_false hprefix]
        simp only [bind, Except.bind, Bool.false_eq_true, if_false, if_neg hbyte]

theorem copyBytes_append (dest rest : Pointer) {text : CString} (h : 0 ∉ text) :
    copyBytes dest (text ++ rest) text.length =
      if text.length ≤ dest.length then .ok (text ++ dest.drop text.length)
      else .error .destination := by
  induction text generalizing dest with
  | nil => rw [List.length_nil, copyBytes, if_pos (Nat.zero_le _)]; rfl
  | cons byte text ih =>
      have hbyte : byte ≠ 0 := fun heq => h (heq ▸ List.mem_cons_self)
      have hrest : 0 ∉ text := fun hmem => h (List.mem_cons_of_mem byte hmem)
      cases dest with
      | nil => rfl
      | cons old dest =>
          rw [List.cons_append, List.length_cons, copyBytes, if_neg hbyte, ih dest hrest,
            List.length_cons, List.drop_succ_cons]
          by_cases hlength : text.length ≤ dest.length
          · rw [if_pos hlength, if_pos (Nat.succ_le_succ hlength)]
            rfl
          · rw [if_neg hlength, if_neg (fun hle => hlength (Nat.le_of_succ_le_succ hle))]
            rfl

end Foundation.CBuffers
