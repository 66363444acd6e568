import GBServer.NalRepackaging

namespace GBServer.NalStartCodes

open Foundation.Memory
open GBServer.NalRepackaging

/-- The reads that `AddVideoFrame` makes for one unit: its header, and the range it copies. -/
def copyUnit (frame : List UInt8) (index : NaluIndex) :
    Except Fault (NaluType × List UInt8) := do
  let header ← readByte frame index.payloadStartOffset
  let bytes ← readRange frame index.startOffset (index.payloadSize + 4)
  return (naluType header, bytes)

def copies (findNaluIndices : List UInt8 → List NaluIndex) (frame : EncodedImage) :
    Except Fault (List (NaluType × List UInt8)) :=
  (findNaluIndices frame.data).mapM (copyUnit frame.data)

def addCopies (c : Consumer) (copied : List (NaluType × List UInt8)) : Consumer :=
  copied.foldl (fun c copy => addNalu c copy.1 copy.2) c

theorem addCopies_induction {P : Consumer → Prop} {copied : List (NaluType × List UInt8)}
    (hstep : ∀ copy ∈ copied, ∀ c, P c → P (addNalu c copy.1 copy.2)) {c : Consumer} (h : P c) :
    P (addCopies c copied) := by
  induction copied generalizing c with
  | nil => exact h
  | cons copy rest ih =>
      obtain ⟨hcopy, hrest⟩ := List.forall_mem_cons.mp hstep
      exact ih hrest (hcopy c h)

/-- A start code of three or four bytes, with the payload right after it. -/
def StartCodeAt (frame : List UInt8) (index : NaluIndex) : Prop :=
  (index.payloadStartOffset = index.startOffset + 3 ∧
    (frame.drop index.startOffset).take 3 = [0, 0, 1]) ∨
  (index.payloadStartOffset = index.startOffset + 4 ∧
    (frame.drop index.startOffset).take 4 = [0, 0, 0, 1])

/-- Every payload goes up to the next start code, and the last one to the end. -/
def Describes (frame : List UInt8) : List NaluIndex → Prop
  | [] => True
  | [index] =>
      StartCodeAt frame index ∧ index.payloadStartOffset + index.payloadSize = frame.length
  | index :: next :: rest =>
      StartCodeAt frame index ∧
        index.payloadStartOffset + index.payloadSize = next.startOffset ∧
        Describes frame (next :: rest)

def unitBytes (frame : List UInt8) (index : NaluIndex) : List UInt8 :=
  (frame.drop index.startOffset).take
    (index.payloadStartOffset - index.startOffset + index.payloadSize)

/-- Nothing is read outside the frame, and what is copied are the units. -/
def CopiesExactly (findNaluIndices : List UInt8 → List NaluIndex) (frame : EncodedImage) :
    Prop :=
  (copies findNaluIndices frame).map (List.map Prod.snd) =
    .ok ((findNaluIndices frame.data).map (unitBytes frame.data))

instance (findNaluIndices : List UInt8 → List NaluIndex) (frame : EncodedImage) :
    Decidable (CopiesExactly findNaluIndices frame) :=
  inferInstanceAs (Decidable (_ = _))

theorem addIndexed_eq (frame : List UInt8) (c : Consumer) (index : NaluIndex) :
    addIndexed frame c index =
      (copyUnit frame index).map fun copy => addNalu c copy.1 copy.2 := by
  rw [addIndexed, copyUnit]
  cases readByte frame index.payloadStartOffset with
  | error fault => rfl
  | ok header =>
      cases readRange frame index.startOffset (index.payloadSize + 4) with
      | error fault => rfl
      | ok bytes => rfl

theorem foldlM_addIndexed_eq (frame : List UInt8) (indices : List NaluIndex) (c : Consumer) :
    indices.foldlM (addIndexed frame) c =
      (indices.mapM (copyUnit frame)).map (addCopies c) := by
  induction indices generalizing c with
  | nil => rfl
  | cons index rest ih =>
      rw [List.foldlM_cons, List.mapM_cons, addIndexed_eq]
      cases copyUnit frame index with
      | error fault => rfl
      | ok copy =>
          change List.foldlM (addIndexed frame) (addNalu c copy.1 copy.2) rest = _
          rw [ih]
          cases rest.mapM (copyUnit frame) with
          | error fault => rfl
          | ok copied => rfl

theorem addVideoFrame_eq_copies (findNaluIndices : List UInt8 → List NaluIndex) (c : Consumer)
    (frame : EncodedImage) :
    addVideoFrame findNaluIndices c frame = (copies findNaluIndices frame).map fun copied =>
      if (addCopies { c with videoBufferFrame := [] } copied).videoBufferFrame.length ≤ 0 then
        (addCopies { c with videoBufferFrame := [] } copied, none)
      else
        ({ addCopies { c with videoBufferFrame := [] } copied with sendSpsPps := true },
          some
            { timestamp := frame.timestamp
              data := (addCopies { c with videoBufferFrame := [] } copied).videoBufferFrame }) := by
  rw [addVideoFrame, foldlM_addIndexed_eq, copies]
  cases (findNaluIndices frame.data).mapM (copyUnit frame.data) with
  | error fault => rfl
  | ok copied =>
      change (if (addCopies _ copied).videoBufferFrame.length ≤ 0 then Except.ok (_, none)
        else Except.ok (_, some _)) = Except.ok (if _ then _ else _)
      split
      · rfl
      · rfl

section Copies

variable {frame : List UInt8} {index : NaluIndex}

theorem StartCodeAt.offset_le (h : StartCodeAt frame index) :
    index.startOffset + 3 ≤ index.payloadStartOffset ∧
      index.payloadStartOffset ≤ index.startOffset + 4 ∧
      index.payloadStartOffset ≤ frame.length := by
  rcases h with ⟨heq, hcode⟩ | ⟨heq, hcode⟩
  · have hlength := congrArg List.length hcode
    simp only [List.length_take, List.length_drop, List.length_cons, List.length_nil] at hlength
    omega
  · have hlength := congrArg List.length hcode
    simp only [List.length_take, List.length_drop, List.length_cons, List.length_nil] at hlength
    omega

/-- A copy has four bytes more than the payload, whatever the start code is. -/
theorem map_copyUnit_eq_ok_iff (hcode : StartCodeAt frame index)
    (hend : index.payloadStartOffset + index.payloadSize ≤ frame.length) :
    (copyUnit frame index).map Prod.snd = .ok (unitBytes frame index) ↔
      index.payloadStartOffset = index.startOffset + 4 ∧
        index.payloadStartOffset < frame.length := by
  obtain ⟨hlow, hhigh, _⟩ := hcode.offset_le
  constructor
  · intro h
    rw [copyUnit] at h
    cases hheader : readByte frame index.payloadStartOffset with
    | error fault =>
        rw [hheader] at h
        cases h
    | ok header =>
        have hinside : index.payloadStartOffset < frame.length := by
          rw [readByte] at hheader
          split at hheader
          · rename_i hget
            exact (List.getElem?_eq_some_iff.mp hget).1
          · cases hheader
        refine ⟨?_, hinside⟩
        rw [hheader, readRange] at h
        by_cases hfits : index.startOffset + (index.payloadSize + 4) ≤ frame.length
        · rw [if_pos hfits] at h
          have hlength := congrArg List.length (Except.ok.inj h)
          simp only [unitBytes, List.length_take, List.length_drop] at hlength
          omega
        · rw [if_neg hfits] at h
          cases h
  · rintro ⟨hfour, hinside⟩
    have hheader : readByte frame index.payloadStartOffset =
        .ok frame[index.payloadStartOffset] := by
      rw [readByte, List.getElem?_eq_getElem hinside]
    have hfits : index.startOffset + (index.payloadSize + 4) ≤ frame.length := by omega
    have hsize : index.payloadStartOffset - index.startOffset + index.payloadSize =
        index.payloadSize + 4 := by omega
    rw [copyUnit, hheader, readRange, if_pos hfits, unitBytes, hsize]
    rfl

theorem Describes.of_cons {rest : List NaluIndex} (h : Describes frame (index :: rest)) :
    StartCodeAt frame index ∧ Describes frame rest ∧
      index.payloadStartOffset + index.payloadSize ≤ frame.length ∧
      (rest ≠ [] → index.payloadStartOffset < frame.length) := by
  cases rest with
  | nil =>
      obtain ⟨hcode, hend⟩ := h
      exact ⟨hcode, trivial, Nat.le_of_eq hend, fun hne => absurd rfl hne⟩
  | cons next rest =>
      obtain ⟨hcode, hend, hrest⟩ := h
      have hnext : StartCodeAt frame next := by
        cases rest with
        | nil => exact hrest.1
        | cons _ _ => exact hrest.1
      obtain ⟨hlow, _, hinside⟩ := hnext.offset_le
      exact ⟨hcode, hrest, by omega, fun _ => by omega⟩

theorem forall_map_copyUnit_iff {indices : List NaluIndex} (h : Describes frame indices) :
    (∀ index ∈ indices, (copyUnit frame index).map Prod.snd = .ok (unitBytes frame index)) ↔
      (∀ index ∈ indices, index.payloadStartOffset = index.startOffset + 4) ∧
        ∀ last ∈ indices.getLast?, last.payloadSize ≠ 0 := by
  induction indices with
  | nil => simp
  | cons index rest ih =>
      obtain ⟨hcode, hrest, hend, hinside⟩ := h.of_cons
      rw [List.forall_mem_cons, List.forall_mem_cons, ih hrest, map_copyUnit_eq_ok_iff hcode hend]
      cases rest with
      | nil =>
          have hlast : index.payloadStartOffset + index.payloadSize = frame.length := h.2
          simp only [List.getLast?_singleton, Option.mem_some_iff, forall_eq', List.getLast?_nil,
            Option.not_mem_none, List.not_mem_nil, false_imp_iff, implies_true, and_true]
          refine and_congr_right fun _ => ?_
          omega
      | cons next rest =>
          have hnonempty := hinside (List.cons_ne_nil _ _)
          rw [List.getLast?_cons_cons]
          constructor
          · rintro ⟨⟨hfour, _⟩, hothers, hlast⟩
            exact ⟨⟨hfour, hothers⟩, hlast⟩
          · rintro ⟨⟨hfour, hothers⟩, hlast⟩
            exact ⟨⟨hfour, hnonempty⟩, hothers, hlast⟩

end Copies

/-- The copies are in bounds and exact for exactly the frames whose units all stand behind a
four-byte start code, the last one not empty. -/
theorem copiesExactly_iff {findNaluIndices : List UInt8 → List NaluIndex} (frame : EncodedImage)
    (hfind : Describes frame.data (findNaluIndices frame.data)) :
    CopiesExactly findNaluIndices frame ↔
      (∀ index ∈ findNaluIndices frame.data,
        index.payloadStartOffset = index.startOffset + 4) ∧
      ∀ last ∈ (findNaluIndices frame.data).getLast?, last.payloadSize ≠ 0 := by
  rw [CopiesExactly, copies, map_mapM_eq_ok_iff]
  exact forall_map_copyUnit_iff hfind

theorem copiesExactly_iff_of_two :
    CopiesExactly scanFourByte ⟨90, [0, 0, 0, 1, 0x09, 0xf0, 0, 0, 0, 1, 0x65, 0x88]⟩ ↔
      (∀ index ∈ scanFourByte [0, 0, 0, 1, 0x09, 0xf0, 0, 0, 0, 1, 0x65, 0x88],
        index.payloadStartOffset = index.startOffset + 4) ∧
      ∀ last ∈ (scanFourByte [0, 0, 0, 1, 0x09, 0xf0, 0, 0, 0, 1, 0x65, 0x88]).getLast?,
        last.payloadSize ≠ 0 :=
  copiesExactly_iff ⟨90, [0, 0, 0, 1, 0x09, 0xf0, 0, 0, 0, 1, 0x65, 0x88]⟩
    ⟨Or.inr (by decide), by decide, Or.inr (by decide), by decide⟩

/-- A slice behind a three-byte start code at the end of the frame: the copy goes one byte
past the end. -/
theorem not_copiesExactly_short_code :
    ¬ ∀ (findNaluIndices : List UInt8 → List NaluIndex) (frame : EncodedImage),
      Describes frame.data (findNaluIndices frame.data) →
        CopiesExactly findNaluIndices frame := by
  intro h
  have hcopies := h (fun _ => [⟨0, 3, 2⟩]) ⟨90, [0, 0, 1, 0x41, 0x9a]⟩
    ⟨Or.inl (by decide), by decide⟩
  exact absurd hcopies (by decide)

end GBServer.NalStartCodes
