import GBServer.SessionName

namespace GBServer.StringUtils

open Foundation.CStrings
open GBServer.SessionName (slash)

def substr (source : CString) (pos count : Nat) : CString := (source.drop pos).take count

/-- The body of the loop, on `last` and `fields`. -/
def splitTurn (source : CString) (delimiter : UInt8) (scan : Nat × List CString) (i : Nat) :
    Nat × List CString :=
  if source[i]? = some delimiter then
    (i + 1, scan.2 ++ [substr source scan.1 (i - scan.1)])
  else scan

/-- The number of the fields, and the fields. -/
def split (source : CString) (delimiter : UInt8) : Nat × List CString :=
  let scan := (List.range source.length).foldl (splitTurn source delimiter) (0, [])
  let fields := scan.2 ++ [source.drop scan.1]
  (fields.length, fields)

example : split (ascii "a//b/c") slash = (4, [ascii "a", [], ascii "b", ascii "c"]) := by
  decide

section Joining

variable {delimiter : UInt8}

theorem intercalate_concat (fields : List CString) (field : CString) :
    [delimiter].intercalate (fields ++ [field]) =
      fields.flatMap (· ++ [delimiter]) ++ field := by
  induction fields with
  | nil => simp
  | cons first rest ih =>
      obtain ⟨next, tail, htail⟩ : ∃ next tail, rest ++ [field] = next :: tail :=
        List.exists_cons_of_ne_nil (List.concat_ne_nil field rest)
      rw [List.cons_append, htail, List.intercalate_cons_cons, ← htail, ih, List.flatMap_cons]
      simp only [List.append_assoc]

theorem count_flatMap {fields : List CString} (h : ∀ field ∈ fields, delimiter ∉ field) :
    (fields.flatMap (· ++ [delimiter])).count delimiter = fields.length := by
  induction fields with
  | nil => rfl
  | cons first rest ih =>
      obtain ⟨hfirst, hrest⟩ := List.forall_mem_cons.mp h
      rw [List.flatMap_cons, List.count_append, List.count_append, List.count_singleton_self,
        List.count_eq_zero.mpr hfirst, ih hrest, List.length_cons]
      omega

end Joining

section Scanning

variable {source : CString} {delimiter : UInt8}

/-- The loop has put the delimited fields of `front` into `fields`, and what stands behind
them begins at `last`. -/
structure Scanned (delimiter : UInt8) (front : CString) (scan : Nat × List CString) : Prop where
  le : scan.1 ≤ front.length
  fields : ∀ field ∈ scan.2, delimiter ∉ field
  current : delimiter ∉ front.drop scan.1
  front : front = scan.2.flatMap (· ++ [delimiter]) ++ front.drop scan.1

theorem Scanned.start : Scanned delimiter [] (0, []) :=
  ⟨Nat.le_refl _, nofun, List.not_mem_nil, rfl⟩

theorem Scanned.turn {i : Nat} {scan : Nat × List CString} (hi : i < source.length)
    (h : Scanned delimiter (source.take i) scan) :
    Scanned delimiter (source.take (i + 1)) (splitTurn source delimiter scan i) := by
  have hlength : (source.take i).length = i := List.length_take_of_le (Nat.le_of_lt hi)
  have hle : scan.1 ≤ i := hlength ▸ h.le
  have htake : source.take (i + 1) = source.take i ++ [source[i]] := by
    rw [List.take_add_one, List.getElem?_eq_getElem hi, Option.toList_some]
  have hfield : substr source scan.1 (i - scan.1) = (source.take i).drop scan.1 := by
    rw [substr, List.drop_take]
  have hdrop : (source.take (i + 1)).drop scan.1 = (source.take i).drop scan.1 ++ [source[i]] := by
    rw [htake, List.drop_append_of_le_length (by omega)]
  rw [splitTurn, List.getElem?_eq_getElem hi]
  split
  case isTrue hfound =>
    have hdelimiter : source[i] = delimiter := Option.some.inj hfound
    have hnil : (source.take (i + 1)).drop (i + 1) = [] :=
      List.drop_eq_nil_of_le (List.length_take_le _ _)
    refine ⟨?_, ?_, ?_, ?_⟩
    · rw [htake, List.length_append, hlength]
      exact Nat.le_refl _
    · rw [List.forall_mem_append, List.forall_mem_singleton, hfield]
      exact ⟨h.fields, h.current⟩
    · rw [hnil]
      exact List.not_mem_nil
    · rw [hnil, List.append_nil, List.flatMap_append, List.flatMap_singleton, hfield,
        ← List.append_assoc, ← h.front, htake, hdelimiter]
  case isFalse hother =>
    refine ⟨?_, h.fields, ?_, ?_⟩
    · rw [htake, List.length_append, hlength]
      exact Nat.le_succ_of_le hle
    · rw [hdrop, List.mem_append, List.mem_singleton, not_or]
      exact ⟨h.current, fun heq => hother (congrArg some heq.symm)⟩
    · rw [hdrop, ← List.append_assoc, ← h.front, htake]

theorem Scanned.loop (n : Nat) (hn : n ≤ source.length) :
    Scanned delimiter (source.take n)
      ((List.range n).foldl (splitTurn source delimiter) (0, [])) := by
  induction n with
  | zero => exact Scanned.start
  | succ n ih =>
      rw [List.range_succ, List.foldl_concat]
      exact (ih (Nat.le_of_succ_le hn)).turn hn

/-- What the loop leaves behind. -/
theorem Scanned.whole (source : CString) (delimiter : UInt8) :
    Scanned delimiter source
      ((List.range source.length).foldl (splitTurn source delimiter) (0, [])) := by
  have hscanned : Scanned delimiter (source.take source.length) _ :=
    Scanned.loop source.length (Nat.le_refl _)
  rwa [List.take_length] at hscanned

theorem notMem_of_mem_split {field : CString} (h : field ∈ (split source delimiter).2) :
    delimiter ∉ field := by
  have hscanned := Scanned.whole source delimiter
  rcases List.mem_append.mp h with hfield | hlast
  · exact hscanned.fields field hfield
  · rw [List.mem_singleton.mp hlast]
    exact hscanned.current

theorem intercalate_split (source : CString) (delimiter : UInt8) :
    [delimiter].intercalate (split source delimiter).2 = source := by
  have hscanned := Scanned.whole source delimiter
  rw [split, intercalate_concat]
  exact hscanned.front.symm

theorem split_fst (source : CString) (delimiter : UInt8) :
    (split source delimiter).1 = source.count delimiter + 1 := by
  have hscanned := Scanned.whole source delimiter
  have hcount := congrArg (List.count delimiter) hscanned.front
  rw [List.count_append, count_flatMap hscanned.fields, List.count_eq_zero.mpr hscanned.current,
    Nat.add_zero] at hcount
  rw [hcount, split, List.length_append, List.length_singleton]

theorem split_snd (source : CString) (delimiter : UInt8) :
    (split source delimiter).2 = source.splitOn delimiter := by
  have hne : (split source delimiter).2 ≠ [] := List.concat_ne_nil _ _
  have hsplit := List.splitOn_intercalate delimiter (fun _ => notMem_of_mem_split) hne
  rw [intercalate_split] at hsplit
  exact hsplit.symm

theorem split_slash (source : CString) : (split source slash).2 = SessionName.split source :=
  split_snd source slash

end Scanning

/-- `split` and the join with the delimiter are inverse to each other. -/
theorem split_inverse (source : CString) (delimiter : UInt8) :
    [delimiter].intercalate (split source delimiter).2 = source ∧
      (∀ field ∈ (split source delimiter).2, delimiter ∉ field) ∧
      (split source delimiter).1 = source.count delimiter + 1 ∧
      ∀ fields : List CString, fields ≠ [] → (∀ field ∈ fields, delimiter ∉ field) →
        (split ([delimiter].intercalate fields) delimiter).2 = fields := by
  refine ⟨intercalate_split source delimiter, fun _ => notMem_of_mem_split,
    split_fst source delimiter, ?_⟩
  intro fields hne hfree
  rw [split_snd]
  exact List.splitOn_intercalate delimiter hfree hne

/-- An empty field at either end. -/
theorem split_inverse_emptyEnds :
    (split (ascii "/a/") slash).2 = [[], ascii "a", []] :=
  (split_inverse (ascii "/a/") slash).2.2.2 [[], ascii "a", []] (by decide) (by decide)

end GBServer.StringUtils
