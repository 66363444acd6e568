import GBServer.Foundation.CStrings
import Mathlib.Algebra.Order.Field.Rat
import Mathlib.Data.Rat.Cast.Defs

/-!
A reader of JSON texts.

A text is a list of bytes that must be valid UTF-8.  The reader keeps the members of an
object in the order of the text, repeated names included.  The second half of the module
says what it reads from the pieces that writers put together.
-/

namespace Foundation.JsonText

open Foundation.CStrings

inductive Json where
  | null
  | bool (value : Bool)
  | number (value : Rat)
  | string (value : CString)
  | array (items : List Json)
  | object (members : List (CString × Json))

/-- The ranges in which the bytes after a leading byte of UTF-8 lie. -/
def continuation (lead : UInt8) : Option (List (UInt8 × UInt8)) :=
  if lead < 0x80 then some []
  else if lead < 0xC2 then none
  else if lead < 0xE0 then some [(0x80, 0xBF)]
  else if lead = 0xE0 then some [(0xA0, 0xBF), (0x80, 0xBF)]
  else if lead = 0xED then some [(0x80, 0x9F), (0x80, 0xBF)]
  else if lead < 0xF0 then some [(0x80, 0xBF), (0x80, 0xBF)]
  else if lead = 0xF0 then some [(0x90, 0xBF), (0x80, 0xBF), (0x80, 0xBF)]
  else if lead < 0xF4 then some [(0x80, 0xBF), (0x80, 0xBF), (0x80, 0xBF)]
  else if lead = 0xF4 then some [(0x80, 0x8F), (0x80, 0xBF), (0x80, 0xBF)]
  else none

def utf8From : List (UInt8 × UInt8) → CString → Bool
  | [], [] => true
  | _ :: _, [] => false
  | [], byte :: rest =>
      match continuation byte with
      | some pending => utf8From pending rest
      | none => false
  | (low, high) :: pending, byte :: rest =>
      decide (low ≤ byte) && decide (byte ≤ high) && utf8From pending rest

def validUtf8 (text : CString) : Bool := utf8From [] text

def encodeUtf8 (point : Nat) : CString :=
  if point < 0x80 then [point.toUInt8]
  else if point < 0x800 then
    [(0xC0 + point / 0x40).toUInt8, (0x80 + point % 0x40).toUInt8]
  else if point < 0x10000 then
    [(0xE0 + point / 0x1000).toUInt8, (0x80 + point / 0x40 % 0x40).toUInt8,
      (0x80 + point % 0x40).toUInt8]
  else
    [(0xF0 + point / 0x40000).toUInt8, (0x80 + point / 0x1000 % 0x40).toUInt8,
      (0x80 + point / 0x40 % 0x40).toUInt8, (0x80 + point % 0x40).toUInt8]

def isBlank (byte : UInt8) : Bool := byte == 0x20 || byte == 0x09 || byte == 0x0A || byte == 0x0D

def skipBlanks (text : CString) : CString := text.dropWhile isBlank

def hexDigit (byte : UInt8) : Option Nat :=
  if 0x30 ≤ byte ∧ byte ≤ 0x39 then some (byte.toNat - 0x30)
  else if 0x61 ≤ byte ∧ byte ≤ 0x66 then some (byte.toNat - 0x57)
  else if 0x41 ≤ byte ∧ byte ≤ 0x46 then some (byte.toNat - 0x37)
  else none

def readUnit : CString → Option (Nat × CString)
  | a :: b :: c :: d :: rest => do
      let a ← hexDigit a
      let b ← hexDigit b
      let c ← hexDigit c
      let d ← hexDigit d
      return (0x1000 * a + 0x100 * b + 0x10 * c + d, rest)
  | _ => none

def skipEscape : CString → Option CString
  | 0x5C :: 0x75 :: rest => some rest
  | _ => none

/-- What follows a `\u`: one code unit, or the two halves of a surrogate pair. -/
def readPoint (text : CString) : Option (CString × CString) := do
  let (first, rest) ← readUnit text
  if 0xD800 ≤ first ∧ first < 0xDC00 then
    let rest ← skipEscape rest
    let (second, rest) ← readUnit rest
    if 0xDC00 ≤ second ∧ second < 0xE000 then
      return (encodeUtf8 (0x10000 + 0x400 * (first - 0xD800) + (second - 0xDC00)), rest)
    else none
  else if 0xDC00 ≤ first ∧ first < 0xE000 then none
  else return (encodeUtf8 first, rest)

/-- What a backslash and the byte after it stand for. -/
def shortEscape (byte : UInt8) : Option UInt8 :=
  if byte = 0x22 ∨ byte = 0x5C ∨ byte = 0x2F then some byte
  else if byte = 0x62 then some 0x08
  else if byte = 0x66 then some 0x0C
  else if byte = 0x6E then some 0x0A
  else if byte = 0x72 then some 0x0D
  else if byte = 0x74 then some 0x09
  else none

def readEscape : CString → Option (CString × CString)
  | [] => none
  | byte :: rest =>
      if byte = 0x75 then readPoint rest
      else (shortEscape byte).map fun escaped => ([escaped], rest)

def readString : Nat → CString → Option (CString × CString)
  | 0, _ => none
  | _ + 1, [] => none
  | fuel + 1, byte :: rest =>
      if byte = 0x22 then some ([], rest)
      else if byte = 0x5C then do
        let (escaped, rest) ← readEscape rest
        let (value, rest) ← readString fuel rest
        return (escaped ++ value, rest)
      else if byte < 0x20 then none
      else do
        let (value, rest) ← readString fuel rest
        return (byte :: value, rest)

def readNatural : CString → Option (Nat × CString)
  | [] => none
  | byte :: rest =>
      if byte = 0x30 then some (0, rest)
      else if isDigit byte then some (digits (byte :: rest), rest.dropWhile isDigit)
      else none

def readDigits (text : CString) : Option (Nat × Nat × CString) :=
  match text.takeWhile isDigit with
  | [] => none
  | front => some (digits text, front.length, text.dropWhile isDigit)

def readFraction : CString → Option (Rat × CString)
  | 0x2E :: rest => do
      let (value, places, rest) ← readDigits rest
      return ((value : Rat) / 10 ^ places, rest)
  | text => some (0, text)

def readExponent : CString → Option (Int × CString)
  | [] => some (0, [])
  | byte :: rest =>
      if byte = 0x65 ∨ byte = 0x45 then
        match rest with
        | 0x2D :: rest => (readDigits rest).map fun p => (-(p.1 : Int), p.2.2)
        | 0x2B :: rest => (readDigits rest).map fun p => ((p.1 : Int), p.2.2)
        | rest => (readDigits rest).map fun p => ((p.1 : Int), p.2.2)
      else some (0, byte :: rest)

def readMagnitude (text : CString) : Option (Rat × CString) := do
  let (natural, rest) ← readNatural text
  let (fraction, rest) ← readFraction rest
  let (exponent, rest) ← readExponent rest
  return ((natural + fraction) * 10 ^ exponent, rest)

def readNumber : CString → Option (Rat × CString)
  | 0x2D :: rest => (readMagnitude rest).map fun p => (-p.1, p.2)
  | text => readMagnitude text

def readLiteral (literal text : CString) : Option CString :=
  if literal <+: text then some (text.drop literal.length) else none

def readScalar (text : CString) : Option (Json × CString) :=
  ((readLiteral (ascii "null") text).map fun rest => (.null, rest)) <|>
  ((readLiteral (ascii "true") text).map fun rest => (.bool true, rest)) <|>
  ((readLiteral (ascii "false") text).map fun rest => (.bool false, rest)) <|>
  ((readNumber text).map fun p => (.number p.1, p.2))

def skipByte (byte : UInt8) (text : CString) : Option CString :=
  match skipBlanks text with
  | [] => none
  | first :: rest => if first = byte then some rest else none

mutual

def readValue : Nat → CString → Option (Json × CString)
  | 0, _ => none
  | fuel + 1, text =>
      match skipBlanks text with
      | [] => none
      | byte :: rest =>
          if byte = 0x22 then (readString fuel rest).map fun p => (.string p.1, p.2)
          else if byte = 0x5B then
            match skipByte 0x5D rest with
            | some rest => some (.array [], rest)
            | none => (readItems fuel rest).map fun p => (.array p.1, p.2)
          else if byte = 0x7B then
            match skipByte 0x7D rest with
            | some rest => some (.object [], rest)
            | none => (readMembers fuel rest).map fun p => (.object p.1, p.2)
          else readScalar (byte :: rest)

def readItems : Nat → CString → Option (List Json × CString)
  | 0, _ => none
  | fuel + 1, text => do
      let (item, rest) ← readValue fuel text
      match skipByte 0x2C rest with
      | some rest =>
          let (items, rest) ← readItems fuel rest
          return (item :: items, rest)
      | none =>
          let rest ← skipByte 0x5D rest
          return ([item], rest)

def readMembers : Nat → CString → Option (List (CString × Json) × CString)
  | 0, _ => none
  | fuel + 1, text => do
      let rest ← skipByte 0x22 text
      let (name, rest) ← readString fuel rest
      let rest ← skipByte 0x3A rest
      let (value, rest) ← readValue fuel rest
      match skipByte 0x2C rest with
      | some rest =>
          let (members, rest) ← readMembers fuel rest
          return ((name, value) :: members, rest)
      | none =>
          let rest ← skipByte 0x7D rest
          return ([(name, value)], rest)

end

def parse (text : CString) : Option Json := do
  if validUtf8 text then
    let (value, rest) ← readValue (2 * text.length) text
    if skipBlanks rest = [] then return value else none
  else none

theorem skipBlanks_cons {byte : UInt8} (h : isBlank byte = false) (rest : CString) :
    skipBlanks (byte :: rest) = byte :: rest := by
  simp [skipBlanks, h]

theorem skipByte_self {byte : UInt8} (h : isBlank byte = false) (rest : CString) :
    skipByte byte (byte :: rest) = some rest := by
  simp [skipByte, skipBlanks_cons h]

theorem skipByte_ne {byte first : UInt8} (h : isBlank first = false) (hne : first ≠ byte)
    (rest : CString) : skipByte byte (first :: rest) = none := by
  simp [skipByte, skipBlanks_cons h, hne]

theorem utf8From_of_ascii {text : CString} (h : ∀ byte ∈ text, byte < 0x80) :
    utf8From [] text = true := by
  induction text with
  | nil => rfl
  | cons byte rest ih =>
      have hbyte : continuation byte = some [] := by
        simp [continuation, h byte List.mem_cons_self]
      simp only [utf8From, hbyte]
      exact ih fun b hb => h b (List.mem_cons_of_mem byte hb)

section Strings

theorem readString_quote (fuel : Nat) (rest : CString) :
    readString (fuel + 1) (0x22 :: rest) = some ([], rest) := by
  simp [readString]

theorem readString_plain {byte : UInt8} (hquote : byte ≠ 0x22) (hbackslash : byte ≠ 0x5C)
    (hcontrol : ¬ byte < 0x20) (fuel : Nat) (rest : CString) :
    readString (fuel + 1) (byte :: rest) =
      (readString fuel rest).map fun p => (byte :: p.1, p.2) := by
  simp only [readString, hquote, hbackslash, hcontrol, if_false]
  cases readString fuel rest <;> rfl

theorem readString_escape {text escaped rest : CString}
    (h : readEscape text = some (escaped, rest)) (fuel : Nat) :
    readString (fuel + 1) (0x5C :: text) =
      (readString fuel rest).map fun p => (escaped ++ p.1, p.2) := by
  have hquote : (0x5C : UInt8) ≠ 0x22 := by decide
  simp only [readString, hquote, if_true, if_false, h, Option.bind_eq_bind, Option.bind_some]
  cases readString fuel rest <;> rfl

theorem readString_succ {fuel : Nat} {text : CString} {p : CString × CString}
    (h : readString fuel text = some p) : readString (fuel + 1) text = some p := by
  induction fuel generalizing text p with
  | zero => simp [readString] at h
  | succ fuel ih =>
      cases text with
      | nil => simp [readString] at h
      | cons byte rest =>
          rw [readString] at h ⊢
          split_ifs at h ⊢ with hquote hbackslash hcontrol
          · exact h
          · simp only [Option.bind_eq_bind, Option.bind_eq_some_iff] at h ⊢
            obtain ⟨e, he, q, hq, hp⟩ := h
            exact ⟨e, he, q, ih hq, hp⟩
          · simp only [Option.bind_eq_bind, Option.bind_eq_some_iff] at h ⊢
            obtain ⟨q, hq, hp⟩ := h
            exact ⟨q, ih hq, hp⟩

theorem readString_add {fuel : Nat} {text : CString} {p : CString × CString}
    (h : readString fuel text = some p) (more : Nat) :
    readString (fuel + more) text = some p := by
  induction more with
  | zero => exact h
  | succ more ih => exact readString_succ ih

/-- Between the quotes of a string, `text` stands for `value`. -/
def Spells (text value : CString) : Prop :=
  ∀ fuel rest tail q, readString fuel rest = some (tail, q) →
    readString (fuel + text.length) (text ++ rest) = some (value ++ tail, q)

theorem spells_nil : Spells [] [] := fun _ _ _ _ h => h

theorem Spells.append {text value text' value' : CString} (h : Spells text value)
    (h' : Spells text' value') : Spells (text ++ text') (value ++ value') := by
  intro fuel rest tail q hq
  have hback := h _ _ _ _ (h' fuel rest tail q hq)
  rw [List.append_assoc, List.append_assoc, List.length_append, Nat.add_comm text.length,
    ← Nat.add_assoc]
  exact hback

theorem spells_plain {byte : UInt8} (hquote : byte ≠ 0x22) (hbackslash : byte ≠ 0x5C)
    (hcontrol : ¬ byte < 0x20) : Spells [byte] [byte] := by
  intro fuel rest tail q hq
  rw [List.length_singleton, List.singleton_append,
    readString_plain hquote hbackslash hcontrol, hq]
  rfl

theorem spells_escape {text escaped : CString}
    (h : ∀ rest, readEscape (text ++ rest) = some (escaped, rest)) :
    Spells (0x5C :: text) escaped := by
  intro fuel rest tail q hq
  have hmore := readString_add hq text.length
  rw [List.length_cons, List.cons_append, ← Nat.add_assoc, readString_escape (h rest), hmore]
  rfl

theorem Spells.readString {text value : CString} (h : Spells text value) {fuel : Nat}
    (hfuel : text.length < fuel) (rest : CString) :
    readString fuel (text ++ 0x22 :: rest) = some (value, rest) := by
  obtain ⟨more, rfl⟩ := Nat.exists_eq_add_of_lt hfuel
  have hread := h (more + 1) (0x22 :: rest) [] rest (readString_quote more rest)
  rw [List.append_nil, Nat.add_comm, ← Nat.add_assoc] at hread
  exact hread

end Strings

section Numbers

def Delimited (rest : CString) : Prop :=
  ∀ byte ∈ rest.head?, isDigit byte = false ∧ byte ≠ 0x2E ∧ byte ≠ 0x65 ∧ byte ≠ 0x45

theorem delimited_nil : Delimited [] := by
  intro byte hbyte
  simp at hbyte

theorem delimited_cons {byte : UInt8}
    (h : isDigit byte = false ∧ byte ≠ 0x2E ∧ byte ≠ 0x65 ∧ byte ≠ 0x45) (rest : CString) :
    Delimited (byte :: rest) := by
  intro first hfirst
  obtain rfl : byte = first := by simpa using hfirst
  exact h

theorem Delimited.takeWhile {rest : CString} (h : Delimited rest) :
    rest.takeWhile isDigit = [] := by
  cases rest with
  | nil => rfl
  | cons byte rest => simp [(h byte rfl).1]

theorem Delimited.dropWhile {rest : CString} (h : Delimited rest) :
    rest.dropWhile isDigit = rest := by
  cases rest with
  | nil => rfl
  | cons byte rest => simp [(h byte rfl).1]

theorem Delimited.readFraction {rest : CString} (h : Delimited rest) :
    readFraction rest = some (0, rest) := by
  cases rest with
  | nil => rfl
  | cons byte rest =>
      have hpoint := (h byte rfl).2.1
      unfold JsonText.readFraction
      split
      case h_1 heq => exact absurd (List.cons.inj heq).1 hpoint
      case h_2 => rfl

theorem Delimited.readExponent {rest : CString} (h : Delimited rest) :
    readExponent rest = some (0, rest) := by
  cases rest with
  | nil => rfl
  | cons byte rest =>
      have hmark := (h byte rfl).2.2
      simp [JsonText.readExponent, hmark]

theorem readMagnitude_of_natural {text rest : CString} {n : Nat}
    (h : readNatural text = some (n, rest)) (hrest : Delimited rest) :
    readMagnitude text = some ((n : Rat), rest) := by
  simp [readMagnitude, h, hrest.readFraction, hrest.readExponent]

theorem digits_repr {rest : CString} (h : Delimited rest) (n : Nat) :
    digits (ascii n.repr ++ rest) = n := by
  have htake : (ascii n.repr ++ rest).takeWhile isDigit = ascii n.repr := by
    rw [List.takeWhile_append_of_pos fun _ => isDigit_of_mem_repr, h.takeWhile, List.append_nil]
  rw [digits, htake, ascii_repr,
    foldl_digits _ fun _ hc => Nat.isDigit_of_mem_toDigits (by decide) (by decide) hc,
    Nat.ofDigitChars_toDigits (by decide) (by decide)]

theorem head_repr (n : Nat) :
    ∃ byte rest, ascii n.repr = byte :: rest ∧ (byte = 0x30 → n = 0 ∧ rest = []) := by
  rw [ascii_repr]
  induction n using Nat.strong_induction_on with
  | h n ih =>
      rcases Nat.lt_or_ge n 10 with hlt | hge
      · refine ⟨_, [], by rw [Nat.toDigits_of_lt_base hlt, List.map_singleton], ?_⟩
        intro hzero
        have hall : ∀ k < 10, (Nat.digitChar k).toNat.toUInt8 = 0x30 → k = 0 := by decide
        exact ⟨hall n hlt hzero, rfl⟩
      · have hsmaller : n / 10 < n := Nat.div_lt_self (by omega) (by decide)
        obtain ⟨byte, rest, heq, hzero⟩ := ih (n / 10) hsmaller
        rw [Nat.toDigits_of_base_le (by decide) hge, List.map_append, heq]
        refine ⟨byte, _, rfl, ?_⟩
        intro hbyte
        have := (hzero hbyte).1
        omega

theorem readNatural_repr {rest : CString} (h : Delimited rest) (n : Nat) :
    readNatural (ascii n.repr ++ rest) = some (n, rest) := by
  obtain ⟨byte, back, heq, hzero⟩ := head_repr n
  have hbyte : isDigit byte = true := isDigit_of_mem_repr (n := n) (by simp [heq])
  have hvalue := digits_repr h n
  have hdrop : (ascii n.repr ++ rest).dropWhile isDigit = rest := by
    rw [List.dropWhile_append_of_pos fun _ => isDigit_of_mem_repr, h.dropWhile]
  rw [heq, List.cons_append] at hvalue hdrop ⊢
  rw [readNatural]
  split_ifs with hbyteZero
  · obtain ⟨rfl, rfl⟩ := hzero hbyteZero
    rfl
  · rw [List.dropWhile_cons_of_pos hbyte] at hdrop
    rw [hvalue, hdrop]

theorem readNumber_repr {rest : CString} (h : Delimited rest) (n : Nat) :
    readNumber (ascii n.repr ++ rest) = some ((n : Rat), rest) := by
  obtain ⟨byte, back, heq, _⟩ := head_repr n
  have hbyte : isDigit byte = true := isDigit_of_mem_repr (n := n) (by simp [heq])
  have hmagnitude := readMagnitude_of_natural (readNatural_repr h n) h
  rw [heq, List.cons_append] at hmagnitude ⊢
  unfold readNumber
  split
  case h_1 hminus =>
    obtain rfl := (List.cons.inj hminus).1
    exact absurd hbyte (by decide)
  case h_2 => exact hmagnitude

theorem readNumber_int {rest : CString} (h : Delimited rest) (n : Int) :
    readNumber (ascii (toString n) ++ rest) = some ((n : Rat), rest) := by
  cases n with
  | ofNat n => exact readNumber_repr h n
  | negSucc n =>
      have htext : ascii (toString (Int.negSucc n)) = 0x2D :: ascii (n + 1).repr := by
        simp [ascii, toString, Int.repr]
      rw [htext, List.cons_append, readNumber,
        readMagnitude_of_natural (readNatural_repr h (n + 1)) h]
      simp [Int.negSucc_eq]

end Numbers

section Values

/-- In front of a delimiter, `text` is read as `value`. -/
def Reads (text : CString) (value : Json) : Prop :=
  ∀ fuel rest, 2 * text.length ≤ fuel → Delimited rest →
    readValue fuel (text ++ rest) = some (value, rest)

def commaSeparated : List CString → CString
  | [] => []
  | [text] => text
  | text :: rest => text ++ 0x2C :: commaSeparated rest

theorem commaSeparated_cons {rest : List CString} (h : rest ≠ []) (text : CString) :
    commaSeparated (text :: rest) = text ++ 0x2C :: commaSeparated rest := by
  cases rest with
  | nil => exact absurd rfl h
  | cons _ _ => rfl

theorem delimited_comma (rest : CString) : Delimited (0x2C :: rest) :=
  delimited_cons (by decide) rest

theorem delimited_bracket (rest : CString) : Delimited (0x5D :: rest) :=
  delimited_cons (by decide) rest

theorem delimited_brace (rest : CString) : Delimited (0x7D :: rest) :=
  delimited_cons (by decide) rest

theorem readValue_scalar {byte : UInt8} (hblank : isBlank byte = false)
    (h : byte ≠ 0x22 ∧ byte ≠ 0x5B ∧ byte ≠ 0x7B) (fuel : Nat) (rest : CString) :
    readValue (fuel + 1) (byte :: rest) = readScalar (byte :: rest) := by
  simp [readValue, skipBlanks_cons hblank, h]

theorem reads_bool (value : Bool) :
    Reads (ascii (if value then "true" else "false")) (.bool value) := by
  intro fuel rest hfuel hrest
  cases value
  · obtain ⟨fuel, rfl⟩ := Nat.exists_eq_add_of_le' (Nat.le_trans (by decide : 1 ≤ 2 * 5) hfuel)
    exact readValue_scalar (by decide) (by decide) fuel _
  · obtain ⟨fuel, rfl⟩ := Nat.exists_eq_add_of_le' (Nat.le_trans (by decide : 1 ≤ 2 * 4) hfuel)
    exact readValue_scalar (by decide) (by decide) fuel _

theorem readScalar_number {byte : UInt8} {rest : CString}
    (h : byte = 0x2D ∨ isDigit byte = true) :
    readScalar (byte :: rest) =
      (readNumber (byte :: rest)).map fun p => (.number p.1, p.2) := by
  have hletters : byte ≠ 0x6E ∧ byte ≠ 0x74 ∧ byte ≠ 0x66 := by
    rcases h with rfl | h
    · decide
    · refine ⟨?_, ?_, ?_⟩ <;>
        · rintro rfl
          revert h
          decide
  have hliteral : ∀ letter literal, byte ≠ letter →
      readLiteral (letter :: literal) (byte :: rest) = none := by
    intro letter literal hne
    rw [readLiteral, if_neg]
    intro hprefix
    exact hne (List.cons_prefix_cons.mp hprefix).1.symm
  have hnull : readLiteral (ascii "null") (byte :: rest) = none := hliteral _ _ hletters.1
  have htrue : readLiteral (ascii "true") (byte :: rest) = none := hliteral _ _ hletters.2.1
  have hfalse : readLiteral (ascii "false") (byte :: rest) = none := hliteral _ _ hletters.2.2
  simp [readScalar, hnull, htrue, hfalse]

theorem not_special_of_digit {byte : UInt8} (h : byte = 0x2D ∨ isDigit byte = true) :
    isBlank byte = false ∧ byte ≠ 0x22 ∧ byte ≠ 0x5B ∧ byte ≠ 0x7B := by
  rcases h with rfl | h
  · decide
  · have hrange : 0x30 ≤ byte.toNat ∧ byte.toNat ≤ 0x39 := by
      simpa [isDigit, UInt8.le_iff_toNat_le] using h
    have hne : ∀ other : UInt8, other.toNat < 0x30 ∨ 0x39 < other.toNat → byte ≠ other := by
      rintro other hother rfl
      omega
    simp [isBlank, hne]

theorem head_int (n : Int) :
    ∃ byte rest, ascii (toString n) = byte :: rest ∧ (byte = 0x2D ∨ isDigit byte = true) := by
  cases n with
  | ofNat n =>
      obtain ⟨byte, rest, heq, _⟩ := head_repr n
      exact ⟨byte, rest, heq, .inr (isDigit_of_mem_repr (n := n) (by simp [heq]))⟩
  | negSucc n =>
      exact ⟨0x2D, ascii (n + 1).repr, by simp [ascii, toString, Int.repr], .inl rfl⟩

theorem reads_int (n : Int) : Reads (ascii (toString n)) (.number n) := by
  intro fuel rest hfuel hrest
  obtain ⟨byte, back, heq, hbyte⟩ := head_int n
  have hnumber := readNumber_int hrest n
  rw [heq, List.cons_append] at hnumber ⊢
  rw [heq, List.length_cons] at hfuel
  obtain ⟨fuel, rfl⟩ := Nat.exists_eq_add_of_le' (Nat.le_trans (by omega : 1 ≤ _) hfuel)
  have hspecial := not_special_of_digit hbyte
  rw [readValue_scalar hspecial.1 hspecial.2, readScalar_number hbyte, hnumber]
  rfl

theorem reads_string {text value : CString} (h : Spells text value) :
    Reads (0x22 :: (text ++ [0x22])) (.string value) := by
  intro fuel rest hfuel hrest
  simp only [List.length_cons, List.length_append, List.length_nil] at hfuel
  obtain ⟨fuel, rfl⟩ := Nat.exists_eq_add_of_le' (Nat.le_trans (by omega : 1 ≤ _) hfuel)
  have hread := @Spells.readString _ _ h fuel (by omega) rest
  have hblank : isBlank 0x22 = false := by decide
  simp [readValue, skipBlanks_cons hblank, hread]

theorem readScalar_bracket (rest : CString) : readScalar (0x5D :: rest) = none := by
  have hliteral : ∀ letter literal, (0x5D : UInt8) ≠ letter →
      readLiteral (letter :: literal) (0x5D :: rest) = none := by
    intro letter literal hne
    rw [readLiteral, if_neg]
    intro hprefix
    exact hne (List.cons_prefix_cons.mp hprefix).1.symm
  have hnull : readLiteral (ascii "null") (0x5D :: rest) = none := hliteral _ _ (by decide)
  have htrue : readLiteral (ascii "true") (0x5D :: rest) = none := hliteral _ _ (by decide)
  have hfalse : readLiteral (ascii "false") (0x5D :: rest) = none := hliteral _ _ (by decide)
  have hnumber : readNumber (0x5D :: rest) = none := by
    have hdigit : isDigit 0x5D = false := by decide
    simp [readNumber, readMagnitude, readNatural, hdigit]
  simp [readScalar, hnull, htrue, hfalse, hnumber]

theorem skipByte_of_readValue {fuel : Nat} {text : CString} {p : Json × CString}
    (h : readValue fuel text = some p) : skipByte 0x5D text = none := by
  cases fuel with
  | zero => simp [readValue] at h
  | succ fuel =>
      rw [skipByte]
      rw [readValue] at h
      cases hskip : skipBlanks text with
      | nil => rfl
      | cons first rest =>
          rw [hskip] at h
          by_cases hfirst : first = 0x5D
          · subst hfirst
            simp [readScalar_bracket] at h
          · simp [hfirst]

theorem readItems_of_reads {texts : List CString} {values : List Json}
    (h : List.Forall₂ Reads texts values) (hne : texts ≠ []) (fuel : Nat) (rest : CString)
    (hfuel : 2 * (commaSeparated texts).length + 1 ≤ fuel) :
    readItems fuel (commaSeparated texts ++ 0x5D :: rest) = some (values, rest) := by
  induction h generalizing fuel with
  | nil => exact absurd rfl hne
  | @cons text value texts values hread hrest ih =>
      obtain ⟨fuel, rfl⟩ := Nat.exists_eq_add_of_le' (Nat.le_trans (by omega : 1 ≤ _) hfuel)
      cases texts with
      | nil =>
          cases hrest
          have hvalue := hread fuel (0x5D :: rest) (by simp [commaSeparated] at hfuel; omega)
            (delimited_bracket rest)
          have hcomma : skipByte 0x2C (0x5D :: rest) = none :=
            skipByte_ne (by decide) (by decide) rest
          have hclose : skipByte 0x5D (0x5D :: rest) = some rest :=
            skipByte_self (by decide) rest
          simp [readItems, commaSeparated, hvalue, hcomma, hclose]
      | cons next texts =>
          have hmore : next :: texts ≠ [] := List.cons_ne_nil _ _
          rw [commaSeparated_cons hmore] at hfuel ⊢
          simp only [List.length_append, List.length_cons] at hfuel
          have hvalue := hread fuel
            (0x2C :: (commaSeparated (next :: texts) ++ 0x5D :: rest)) (by omega)
            (delimited_comma _)
          have hcomma : skipByte 0x2C
              (0x2C :: (commaSeparated (next :: texts) ++ 0x5D :: rest)) =
                some (commaSeparated (next :: texts) ++ 0x5D :: rest) :=
            skipByte_self (by decide) _
          have hitems := ih hmore fuel (by omega)
          rw [List.append_assoc, List.cons_append]
          simp [readItems, hvalue, hcomma, hitems]

theorem reads_array {texts : List CString} {values : List Json}
    (h : List.Forall₂ Reads texts values) :
    Reads (0x5B :: (commaSeparated texts ++ [0x5D])) (.array values) := by
  intro fuel rest hfuel hrest
  simp only [List.length_cons, List.length_append, List.length_nil] at hfuel
  obtain ⟨fuel, rfl⟩ := Nat.exists_eq_add_of_le' (Nat.le_trans (by omega : 1 ≤ _) hfuel)
  have hblank : isBlank 0x5B = false := by decide
  cases texts with
  | nil =>
      cases h
      have hclose : skipByte 0x5D (0x5D :: rest) = some rest := skipByte_self (by decide) rest
      simp [readValue, skipBlanks_cons hblank, commaSeparated, hclose]
  | cons text texts =>
      have hitems := readItems_of_reads h (List.cons_ne_nil _ _) fuel rest (by omega)
      have hopen : skipByte 0x5D (commaSeparated (text :: texts) ++ 0x5D :: rest) = none := by
        cases fuel with
        | zero => simp [readItems] at hitems
        | succ fuel =>
            simp only [readItems, Option.bind_eq_bind, Option.bind_eq_some_iff] at hitems
            obtain ⟨p, hp, _⟩ := hitems
            exact skipByte_of_readValue hp
      simp [readValue, skipBlanks_cons hblank, hopen, hitems]

/-- A member of an object: a quoted name, a colon, a value. -/
def ReadsMember (text : CString) (member : CString × Json) : Prop :=
  ∃ name value, text = 0x22 :: (name ++ 0x22 :: 0x3A :: value) ∧ Spells name member.1 ∧
    Reads value member.2

theorem readMembers_of_reads {texts : List CString} {members : List (CString × Json)}
    (h : List.Forall₂ ReadsMember texts members) (hne : texts ≠ []) (fuel : Nat)
    (rest : CString) (hfuel : 2 * (commaSeparated texts).length + 1 ≤ fuel) :
    readMembers fuel (commaSeparated texts ++ 0x7D :: rest) = some (members, rest) := by
  induction h generalizing fuel with
  | nil => exact absurd rfl hne
  | @cons text member texts members hread hrest ih =>
      obtain ⟨name, value, rfl, hname, hvalue⟩ := hread
      obtain ⟨fuel, rfl⟩ := Nat.exists_eq_add_of_le' (Nat.le_trans (by omega : 1 ≤ _) hfuel)
      have hopen : ∀ back, skipByte 0x22 (0x22 :: back) = some back :=
        skipByte_self (by decide)
      have hcolon : ∀ back, skipByte 0x3A (0x3A :: back) = some back :=
        skipByte_self (by decide)
      cases texts with
      | nil =>
          cases hrest
          simp only [commaSeparated, List.length_cons, List.length_append] at hfuel
          have hkey := @Spells.readString _ _ hname fuel (by omega)
            (0x3A :: (value ++ 0x7D :: rest))
          have hbody := hvalue fuel (0x7D :: rest) (by omega) (delimited_brace rest)
          have hcomma : skipByte 0x2C (0x7D :: rest) = none :=
            skipByte_ne (by decide) (by decide) rest
          have hclose : skipByte 0x7D (0x7D :: rest) = some rest :=
            skipByte_self (by decide) rest
          simp [readMembers, commaSeparated, hopen, hkey, hcolon, hbody, hcomma, hclose]
      | cons next texts =>
          have hmore : next :: texts ≠ [] := List.cons_ne_nil _ _
          rw [commaSeparated_cons hmore] at hfuel ⊢
          simp only [List.length_append, List.length_cons] at hfuel
          have hkey := @Spells.readString _ _ hname fuel (by omega)
            (0x3A :: (value ++ 0x2C :: (commaSeparated (next :: texts) ++ 0x7D :: rest)))
          have hbody := hvalue fuel
            (0x2C :: (commaSeparated (next :: texts) ++ 0x7D :: rest)) (by omega)
            (delimited_comma _)
          have hcomma : skipByte 0x2C
              (0x2C :: (commaSeparated (next :: texts) ++ 0x7D :: rest)) =
                some (commaSeparated (next :: texts) ++ 0x7D :: rest) :=
            skipByte_self (by decide) _
          have hmembers := ih hmore fuel (by omega)
          simp [readMembers, hopen, hkey, hcolon, hbody, hcomma, hmembers]

theorem skipByte_commaSeparated {text : CString} {member : CString × Json}
    (h : ReadsMember text member) (texts : List CString) (back : CString) :
    skipByte 0x7D (commaSeparated (text :: texts) ++ back) = none := by
  obtain ⟨name, value, rfl, _, _⟩ := h
  cases texts with
  | nil => exact skipByte_ne (by decide) (by decide) _
  | cons _ _ => exact skipByte_ne (by decide) (by decide) _

theorem reads_object {texts : List CString} {members : List (CString × Json)}
    (h : List.Forall₂ ReadsMember texts members) :
    Reads (0x7B :: (commaSeparated texts ++ [0x7D])) (.object members) := by
  intro fuel rest hfuel hrest
  simp only [List.length_cons, List.length_append, List.length_nil] at hfuel
  obtain ⟨fuel, rfl⟩ := Nat.exists_eq_add_of_le' (Nat.le_trans (by omega : 1 ≤ _) hfuel)
  have hblank : isBlank 0x7B = false := by decide
  cases h with
  | nil =>
      have hclose : skipByte 0x7D (0x7D :: rest) = some rest := skipByte_self (by decide) rest
      simp [readValue, skipBlanks_cons hblank, commaSeparated, hclose]
  | @cons text member texts members hmember hmembers =>
      have hopen := skipByte_commaSeparated hmember texts (0x7D :: rest)
      have hread := readMembers_of_reads (.cons hmember hmembers) (List.cons_ne_nil _ _)
        fuel rest (by omega)
      simp [readValue, skipBlanks_cons hblank, hopen, hread]

/-- A text that is read as a value is the JSON text of that value. -/
theorem Reads.parse {text : CString} {value : Json} (h : Reads text value)
    (hascii : ∀ byte ∈ text, byte < 0x80) : parse text = some value := by
  have hread := h (2 * text.length) [] (Nat.le_refl _) delimited_nil
  rw [List.append_nil] at hread
  simp [JsonText.parse, validUtf8, utf8From_of_ascii hascii, hread, skipBlanks]

end Values

end Foundation.JsonText
