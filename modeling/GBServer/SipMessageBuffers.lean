import Mathlib.Data.Nat.Find
import GBServer.Foundation.CBuffers
import GBServer.SipTotality

namespace GBServer.SipMessageBuffers

open Foundation.CBuffers
open Foundation.CStrings
open GBServer.SipEvents

def zeros (count : Nat) : Pointer := List.replicate count 0

def parseXml (data : Pointer) (sMark : CString) (withSMark : Bool) (eMark : CString)
    (withEMark : Bool) (dest : Pointer) : Except Overrun (Int × Pointer) := do
  match ← findMark sMark data with
  | none => return (-1, dest)
  | some start =>
      match ← findMark eMark start with
      | none => return (0, dest)
      | some stop =>
          let sPos := if withSMark then 0 else sMark.length
          let ePos := if withEMark then eMark.length else 0
          let count := toSizeT ((start.length : Int) - stop.length + ePos - sPos)
          let dest ← copyBytes dest (start.drop sPos) count
          return (0, dest)

def messageBuffers (body : Option Pointer) : Except Overrun (Pointer × Pointer) :=
  match body with
  | none => return (zeros bufferSize, zeros bufferSize)
  | some body => do
      let cmdType ← parseXml body (ascii "<CmdType>") false (ascii "</CmdType>") false
        (zeros bufferSize)
      let deviceID ← parseXml body (ascii "<DeviceID>") false (ascii "</DeviceID>") false
        (zeros bufferSize)
      return (cmdType.2, deviceID.2)

/-- A body, by what stands in front of its terminator. -/
structure Body where
  text : CString
  noNul : 0 ∉ text

/-- `<name>t</name>` behind `front`, with a text that is plain and fits a buffer. -/
def PlainElement (text name front t : CString) : Prop :=
  front ++ (openMark name ++ (t ++ closeMark name)) <+: text ∧ lessThan ∉ t ∧
    t.length < bufferSize

def FirstPlain (text name t : CString) : Prop :=
  ∃ front, PlainElement text name front t ∧
    ∀ front' t', PlainElement text name front' t' → front.length ≤ front'.length

/-- A string and its terminator fit the buffer, and it is the text of the first plain
element. -/
def Parsed (text name : CString) (buffer : Pointer) : Prop :=
  ∃ written, buffer = written ++ zeros (bufferSize - written.length) ∧ 0 ∉ written ∧
    written.length < bufferSize ∧ ∀ t, FirstPlain text name t → written = t

def ParsesExactly (body : Body) : Prop :=
  ∃ cmdType deviceID, messageBuffers (some (terminated body.text)) = .ok (cmdType, deviceID) ∧
    Parsed body.text (ascii "CmdType") cmdType ∧ Parsed body.text (ascii "DeviceID") deviceID

/-- `t` stands between the first opening mark and the next closing mark. -/
structure Enclosed (text name front t : CString) : Prop where
  element : front ++ (openMark name ++ (t ++ closeMark name)) <+: text
  first : ∀ front', front' ++ openMark name <+: text → front.length ≤ front'.length
  next : ∀ t', front ++ (openMark name ++ (t' ++ closeMark name)) <+: text → t.length ≤ t'.length

/-- What stands between the first opening mark and the next closing mark fits a buffer, and
is plain if there is a plain element at all. -/
def Fits (text name : CString) : Prop :=
  ∀ front t, Enclosed text name front t →
    t.length < bufferSize ∧ ((∃ front' t', PlainElement text name front' t') → lessThan ∉ t)

section Elements

variable {text name front front' t t' : CString}

theorem opens_of_element (h : front ++ (openMark name ++ (t ++ closeMark name)) <+: text) :
    front ++ openMark name <+: text := by
  refine List.IsPrefix.trans ?_ h
  rw [← List.append_assoc]
  exact List.prefix_append _ _

theorem front_eq (h : front ++ t <+: text) (h' : front' ++ t' <+: text)
    (hlength : front.length = front'.length) : front = front' := by
  have hprefix := (List.prefix_append front t).trans h
  have hprefix' := (List.prefix_append front' t').trans h'
  exact (List.prefix_of_prefix_length_le hprefix hprefix' (Nat.le_of_eq hlength)).eq_of_length
    hlength

theorem Enclosed.unique (h : Enclosed text name front t) (h' : Enclosed text name front' t') :
    front = front' ∧ t = t' := by
  obtain rfl : front = front' :=
    front_eq h.element h'.element (Nat.le_antisymm (h.first _ (opens_of_element h'.element))
      (h'.first _ (opens_of_element h.element)))
  refine ⟨rfl, ?_⟩
  have hlength : t.length = t'.length := Nat.le_antisymm (h.next _ h'.element) (h'.next _ h.element)
  have hsame := (List.prefix_of_prefix_length_le h.element h'.element
    (by simp [hlength])).eq_of_length (by simp [hlength])
  exact List.append_cancel_right (List.append_cancel_left (List.append_cancel_left hsame))

theorem bne_of_notMem {mark : UInt8} {s : CString} (h : mark ∉ s) :
    ∀ byte ∈ s, (byte != mark) = true := by
  intro byte hbyte
  rw [bne_iff_ne]
  rintro rfl
  exact h hbyte

/-- The text in front of a closing mark ends where the first `<` stands. -/
theorem FirstPlain.unique (h : FirstPlain text name t) (h' : FirstPlain text name t') :
    t = t' := by
  obtain ⟨front, hplain, hfirst⟩ := h
  obtain ⟨front', hplain', hfirst'⟩ := h'
  obtain rfl : front = front' :=
    front_eq hplain.1 hplain'.1 (Nat.le_antisymm (hfirst _ _ hplain') (hfirst' _ _ hplain))
  have hstop : ∀ rest, ∀ byte ∈ (closeMark name ++ rest).head?, (byte != lessThan) = false := by
    rintro rest byte ⟨⟩
    decide
  obtain ⟨rest, hrest⟩ := hplain.1
  obtain ⟨rest', hrest'⟩ := hplain'.1
  have hall := hrest.trans hrest'.symm
  simp only [List.append_assoc] at hall
  have hsame : t ++ (closeMark name ++ rest) = t' ++ (closeMark name ++ rest') :=
    List.append_cancel_left (List.append_cancel_left hall)
  exact front_inj (bne_of_notMem hplain.2.1) (bne_of_notMem hplain'.2.1) (hstop rest) (hstop rest')
    hsame

theorem Enclosed.firstPlain (h : Enclosed text name front t) (hplain : lessThan ∉ t)
    (hlength : t.length < bufferSize) : FirstPlain text name t :=
  ⟨front, ⟨h.element, hplain, hlength⟩, fun _ _ hother => h.first _ (opens_of_element hother.1)⟩

theorem exists_firstPlain (h : PlainElement text name front t) : ∃ t', FirstPlain text name t' := by
  classical
  have hexists : ∃ n, ∃ front t, PlainElement text name front t ∧ front.length = n :=
    ⟨_, front, t, h, rfl⟩
  obtain ⟨front', t', hplain, hlength⟩ := Nat.find_spec hexists
  refine ⟨t', front', hplain, ?_⟩
  intro other s hother
  rw [hlength]
  exact Nat.find_min' hexists ⟨other, s, hother, rfl⟩

theorem mark_of_append_eq {a b c mark rest : CString} (h : a ++ (mark ++ rest) = b ++ c)
    (hle : b.length ≤ a.length) : ∃ u, u ++ mark <+: c := by
  obtain ⟨u, rfl⟩ := List.prefix_of_prefix_length_le (List.prefix_append b c)
    (h ▸ List.prefix_append a (mark ++ rest)) hle
  rw [List.append_assoc] at h
  refine ⟨u, rest, ?_⟩
  rw [List.append_assoc]
  exact List.append_cancel_left h

/-- `elementText` is what stands between the first two marks, if both are there. -/
theorem elementText_cases (text name : CString) :
    (∃ front, Enclosed text name front (elementText text name)) ∨
      elementText text name = [] ∧
        ∀ front t, ¬ front ++ (openMark name ++ (t ++ closeMark name)) <+: text := by
  unfold elementText
  cases hstart : strstr text (openMark name) with
  | none =>
      right
      exact ⟨rfl, fun front t h => strstr_eq_none_iff.mp hstart front (opens_of_element h)⟩
  | some start =>
      obtain ⟨front, rfl, ⟨content, rfl⟩, hfirst⟩ := strstr_eq_some_iff.mp hstart
      simp only [List.drop_left]
      cases hstop : strstr content (closeMark name) with
      | none =>
          right
          refine ⟨rfl, ?_⟩
          -- a closing mark behind a later opening mark is behind the first one, too
          intro front' t hprefix
          have hle := hfirst front' (opens_of_element hprefix)
          obtain ⟨rest, hrest⟩ := hprefix
          have hsplit : (front' ++ openMark name ++ t) ++ (closeMark name ++ rest) =
              (front ++ openMark name) ++ content := by
            simpa only [List.append_assoc] using hrest
          obtain ⟨u, hu⟩ := mark_of_append_eq hsplit (by simp only [List.length_append]; omega)
          exact strstr_eq_none_iff.mp hstop u hu
      | some stop =>
          left
          obtain ⟨t, rfl, hclose, hnext⟩ := strstr_eq_some_iff.mp hstop
          have htake : (t ++ stop).take ((t ++ stop).length - stop.length) = t := by
            rw [List.length_append, Nat.add_sub_cancel, List.take_left]
          dsimp only
          rw [htake]
          refine ⟨front, ?_, hfirst, ?_⟩
          · rw [List.prefix_append_right_inj, List.prefix_append_right_inj,
              List.prefix_append_right_inj]
            exact hclose
          · intro t' hprefix
            rw [List.prefix_append_right_inj, List.prefix_append_right_inj] at hprefix
            exact hnext t' hprefix

theorem fits_iff (text name : CString) :
    Fits text name ↔ (elementText text name).length < bufferSize ∧
      ((∃ front t, PlainElement text name front t) → lessThan ∉ elementText text name) := by
  rcases elementText_cases text name with ⟨front, henclosed⟩ | ⟨hnil, hnone⟩
  · constructor
    · intro h
      exact h front _ henclosed
    · intro h front' t hother
      rw [(hother.unique henclosed).2]
      exact h
  · rw [hnil]
    refine iff_of_true ?_ ⟨by decide, fun _ => List.not_mem_nil⟩
    intro front t h
    exact absurd h.element (hnone front t)

end Elements

section Copying

variable {text name : CString}

theorem notMem_openMark (h : 0 ∉ name) : 0 ∉ openMark name := by
  simp only [openMark, List.mem_cons, List.mem_append, not_or]
  exact ⟨by decide, h, by decide⟩

theorem notMem_closeMark (h : 0 ∉ name) : 0 ∉ closeMark name := by
  simp only [closeMark, List.mem_cons, List.mem_append, not_or]
  exact ⟨by decide, by decide, h, by decide⟩

/-- On memory, the element is copied as it is on strings, and nothing beyond the terminator is
read. -/
theorem parseXml_terminated (htext : 0 ∉ text) (hname : PlainName name) (hnul : 0 ∉ name) :
    parseXml (terminated text) (openMark name) false (closeMark name) false (zeros bufferSize) =
      match SipEvents.parseXml (some text) (openMark name) false (closeMark name) false [] with
      | .ok (code, written) => .ok (code, written ++ zeros (bufferSize - written.length))
      | .error _ => .error .destination := by
  rw [parseXml, SipEvents.parseXml, findMark_terminated htext (notMem_openMark hnul)]
  simp only [bind, Except.bind, Foundation.Memory.deref]
  cases hstart : strstr text (openMark name) with
  | none => rfl
  | some start =>
      obtain ⟨front, rfl, ⟨content, rfl⟩, _⟩ := strstr_eq_some_iff.mp hstart
      have hstartNul : 0 ∉ openMark name ++ content := fun h => htext (List.mem_append_right _ h)
      simp only [Option.map_some]
      rw [findMark_terminated hstartNul (notMem_closeMark hnul), strstr_closeMark hname]
      cases hstop : strstr content (closeMark name) with
      | none => rfl
      | some stop =>
          obtain ⟨t, rfl, _⟩ := strstr_eq_some_iff.mp hstop
          have ht : 0 ∉ t := fun h => hstartNul (by simp [h])
          have hcount : ((terminated (openMark name ++ (t ++ stop))).length : Int) -
              (terminated stop).length + (0 : Nat) - (openMark name).length = t.length := by
            simp only [terminated, List.length_append, List.length_singleton]
            omega
          have hstringCount : ((openMark name ++ (t ++ stop)).length : Int) - stop.length +
              (0 : Nat) - (openMark name).length = t.length := by
            simp only [List.length_append]
            omega
          have hsource : (terminated (openMark name ++ (t ++ stop))).drop (openMark name).length =
              t ++ terminated stop := by
            rw [terminated, List.append_assoc, List.drop_left, List.append_assoc, terminated]
          simp only [Option.map_some, Bool.false_eq_true, if_false, hcount, hstringCount, hsource,
            toSizeT_natCast, copyBytes_append _ _ ht, List.drop_left, strncpy, zeros,
            List.length_replicate, Int.natCast_nonneg, true_and, Int.ofNat_le, Int.toNat_natCast,
            List.take_left, List.drop_replicate]
          by_cases hlength : t.length ≤ bufferSize
          · rw [if_pos hlength, if_pos hlength]
            rfl
          · rw [if_neg hlength, if_neg hlength]

theorem parseXml_eq (htext : 0 ∉ text) (hname : PlainName name) (hnul : 0 ∉ name) :
    ∃ code, parseXml (terminated text) (openMark name) false (closeMark name) false
        (zeros bufferSize) =
      if (elementText text name).length ≤ bufferSize then
        .ok (code, elementText text name ++ zeros (bufferSize - (elementText text name).length))
      else .error .destination := by
  obtain ⟨code, hcode⟩ := SipEvents.parseXml_eq text hname
  refine ⟨code, ?_⟩
  rw [parseXml_terminated htext hname hnul, hcode]
  by_cases hlength : (elementText text name).length ≤ bufferSize
  · rw [if_pos hlength, if_pos hlength]
  · rw [if_neg hlength, if_neg hlength]

theorem notMem_elementText (htext : 0 ∉ text) : 0 ∉ elementText text name := by
  rcases elementText_cases text name with ⟨front, henclosed⟩ | ⟨hnil, _⟩
  · intro h
    exact htext (henclosed.element.subset (by simp [h]))
  · rw [hnil]
    exact List.not_mem_nil

theorem append_zeros_inj {s t : CString} {m n : Nat} (hs : 0 ∉ s) (ht : 0 ∉ t)
    (h : s ++ zeros m = t ++ zeros n) : s = t := by
  have hstop : ∀ count, ∀ byte ∈ (zeros count).head?, (byte != 0) = false := by
    intro count byte hbyte
    rw [zeros] at hbyte
    rw [List.eq_of_mem_replicate (List.mem_of_mem_head? hbyte)]
    rfl
  exact front_inj (bne_of_notMem hs) (bne_of_notMem ht) (hstop m) (hstop n) h

/-- The buffer that an element leaves is the one that is asked for when the element fits. -/
theorem parsed_iff (htext : 0 ∉ text) :
    ((elementText text name).length ≤ bufferSize ∧ Parsed text name
        (elementText text name ++ zeros (bufferSize - (elementText text name).length))) ↔
      Fits text name := by
  have hnul : 0 ∉ elementText text name := notMem_elementText htext
  rw [fits_iff]
  constructor
  · rintro ⟨_, written, hbuffer, hwritten, hlength, hfirst⟩
    obtain rfl := append_zeros_inj hwritten hnul hbuffer.symm
    refine ⟨hlength, ?_⟩
    rintro ⟨front, t, hplain⟩
    obtain ⟨t', hfirstPlain⟩ := exists_firstPlain hplain
    rw [hfirst t' hfirstPlain]
    obtain ⟨_, ⟨_, hless, _⟩, _⟩ := hfirstPlain
    exact hless
  · rintro ⟨hlength, hless⟩
    refine ⟨Nat.le_of_lt hlength, _, rfl, hnul, hlength, ?_⟩
    intro t hfirst
    rcases elementText_cases text name with ⟨front, henclosed⟩ | ⟨_, hnone⟩
    · obtain ⟨front', hplain, _⟩ := id hfirst
      exact (henclosed.firstPlain (hless ⟨front', t, hplain⟩) hlength).unique hfirst
    · obtain ⟨front', hplain, _⟩ := hfirst
      exact absurd hplain.1 (hnone front' t)

end Copying

theorem messageBuffers_eq (body : Body) :
    messageBuffers (some (terminated body.text)) =
      let cmdType := elementText body.text (ascii "CmdType")
      let deviceID := elementText body.text (ascii "DeviceID")
      if cmdType.length ≤ bufferSize ∧ deviceID.length ≤ bufferSize then
        .ok (cmdType ++ zeros (bufferSize - cmdType.length),
          deviceID ++ zeros (bufferSize - deviceID.length))
      else .error .destination := by
  obtain ⟨hcmdType, hcmdOpen, hcmdClose⟩ := cmdType_marks
  obtain ⟨hdeviceID, hdeviceOpen, hdeviceClose⟩ := deviceID_marks
  obtain ⟨_, hcommand⟩ := parseXml_eq body.noNul hcmdType (by decide)
  obtain ⟨_, hdevice⟩ := parseXml_eq body.noNul hdeviceID (by decide)
  rw [messageBuffers, hcmdOpen, hcmdClose, hdeviceOpen, hdeviceClose, hcommand, hdevice]
  dsimp only
  by_cases hfirst : (elementText body.text (ascii "CmdType")).length ≤ bufferSize
  · by_cases hsecond : (elementText body.text (ascii "DeviceID")).length ≤ bufferSize
    · rw [if_pos hfirst, if_pos hsecond, if_pos ⟨hfirst, hsecond⟩]
      rfl
    · rw [if_pos hfirst, if_neg hsecond, if_neg fun h => hsecond h.2]
      rfl
  · have hnot : ¬ ((elementText body.text (ascii "CmdType")).length ≤ bufferSize ∧
        (elementText body.text (ascii "DeviceID")).length ≤ bufferSize) := fun h => hfirst h.1
    rw [if_neg hfirst, if_neg hnot]
    rfl

/-- No body is read beyond its terminator, and the buffers are what they should be exactly
when what stands between the first marks of each fits. -/
theorem parsesExactly_iff (body : Body) :
    messageBuffers (some (terminated body.text)) ≠ .error .source ∧
      (ParsesExactly body ↔
        Fits body.text (ascii "CmdType") ∧ Fits body.text (ascii "DeviceID")) := by
  rw [ParsesExactly, messageBuffers_eq, ← parsed_iff body.noNul, ← parsed_iff body.noNul]
  dsimp only
  split
  · next hlengths =>
      refine ⟨nofun, ?_⟩
      constructor
      · rintro ⟨_, _, heq, hcmdType, hdeviceID⟩
        obtain ⟨rfl, rfl⟩ := Prod.mk.inj (Except.ok.inj heq)
        exact ⟨⟨hlengths.1, hcmdType⟩, hlengths.2, hdeviceID⟩
      · rintro ⟨⟨_, hcmdType⟩, _, hdeviceID⟩
        exact ⟨_, _, rfl, hcmdType, hdeviceID⟩
  · next hlengths =>
      refine ⟨nofun, iff_of_false ?_ ?_⟩
      · rintro ⟨_, _, heq, _⟩
        cases heq
      · rintro ⟨⟨hcmdType, _⟩, hdeviceID, _⟩
        exact hlengths ⟨hcmdType, hdeviceID⟩

def longCmdType : Body where
  text := ascii "<CmdType>" ++ (List.replicate 65 0x61 ++ ascii "</CmdType>")
  noNul := by decide

theorem not_parsesExactly_longCmdType : ¬ ∀ body : Body, ParsesExactly body := by
  intro hall
  obtain ⟨_, _, heq, _⟩ := hall longCmdType
  have hoverrun : messageBuffers (some (terminated longCmdType.text)) = .error .destination := by
    rw [messageBuffers_eq]
    exact if_neg (by decide)
  rw [hoverrun] at heq
  cases heq

end GBServer.SipMessageBuffers
