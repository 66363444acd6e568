import GBServer.Foundation.JsonText
import GBServer.Foundation.OrderedMap

namespace GBServer.JsonUtils

open Std (ExtTreeMap)
open Foundation.CStrings
open Foundation.JsonText

/-- `std::hex << std::setw(4) << std::setfill('0') << (int)c`: a negative number is
printed as the unsigned one. -/
def hexField (c : Int8) : CString :=
  let text := (Nat.toDigits 16 c.toInt32.toUInt32.toNat).map fun digit => digit.toNat.toUInt8
  List.replicate (4 - text.length) 0x30 ++ text

def escapeByte (byte : UInt8) : CString :=
  if byte = 0x22 then [0x5C, 0x22]
  else if byte = 0x5C then [0x5C, 0x5C]
  else if byte = 0x08 then [0x5C, 0x62]
  else if byte = 0x0C then [0x5C, 0x66]
  else if byte = 0x0A then [0x5C, 0x6E]
  else if byte = 0x0D then [0x5C, 0x72]
  else if byte = 0x09 then [0x5C, 0x74]
  else if byte.toInt8 < 0x20 then 0x5C :: 0x75 :: hexField byte.toInt8
  else [byte]

def escapeString (str : CString) : CString := str.flatMap escapeByte

def quoted (str : CString) : CString := 0x22 :: (escapeString str ++ [0x22])

def bracketed (items : List CString) : CString := 0x5B :: (commaSeparated items ++ [0x5D])

structure JsonBuilder where
  fields : ExtTreeMap CString CString := ∅

namespace JsonBuilder

/-- What all the `Add` functions do with the text of the value. -/
def add (json : JsonBuilder) (key value : CString) : JsonBuilder :=
  ⟨json.fields.insert key (quoted key ++ 0x3A :: value)⟩

def addString (json : JsonBuilder) (key value : CString) : JsonBuilder :=
  json.add key (quoted value)

def addInt64 (json : JsonBuilder) (key : CString) (value : Int64) : JsonBuilder :=
  json.add key (ascii (toString value.toInt))

def addUInt64 (json : JsonBuilder) (key : CString) (value : UInt64) : JsonBuilder :=
  json.add key (ascii (toString (value.toNat : Int)))

def addUInt32 (json : JsonBuilder) (key : CString) (value : UInt32) : JsonBuilder :=
  json.add key (ascii (toString (value.toNat : Int)))

def addBool (json : JsonBuilder) (key : CString) (value : Bool) : JsonBuilder :=
  json.add key (ascii (if value then "true" else "false"))

def addObject (json : JsonBuilder) (key jsonObject : CString) : JsonBuilder :=
  json.add key jsonObject

def addArray (json : JsonBuilder) (key : CString) (items : List CString) : JsonBuilder :=
  json.add key (bracketed items)

def build (json : JsonBuilder) : CString :=
  0x7B :: (commaSeparated (json.fields.toList.map Prod.snd) ++ [0x7D])

end JsonBuilder

structure JsonArrayBuilder where
  items : List CString := []

namespace JsonArrayBuilder

def addString (json : JsonArrayBuilder) (value : CString) : JsonArrayBuilder :=
  ⟨json.items ++ [quoted value]⟩

def addInt64 (json : JsonArrayBuilder) (value : Int64) : JsonArrayBuilder :=
  ⟨json.items ++ [ascii (toString value.toInt)]⟩

def addObject (json : JsonArrayBuilder) (jsonObject : CString) : JsonArrayBuilder :=
  ⟨json.items ++ [jsonObject]⟩

def build (json : JsonArrayBuilder) : CString := bracketed json.items

end JsonArrayBuilder

inductive Tree where
  | string (value : CString)
  | int (value : Int)
  | bool (value : Bool)
  | array (items : List Tree)
  | object (members : List (CString × Tree))

/-- A builder on its way, or a text that one has built, beside its tree. -/
inductive Stage where
  | builder (json : JsonBuilder) (members : ExtTreeMap CString Tree)
  | arrayBuilder (json : JsonArrayBuilder) (items : List Tree)
  | text (text : CString) (tree : Tree)

/-- Everything that can be built: a later field replaces an earlier one with its key, and
objects and arrays nest by their texts. -/
inductive Built : Stage → Prop
  | builder : Built (.builder {} ∅)
  | addString {json members} (key value : CString) (h : Built (.builder json members)) :
      Built (.builder (json.addString key value) (members.insert key (.string value)))
  | addInt64 {json members} (key : CString) (value : Int64)
      (h : Built (.builder json members)) :
      Built (.builder (json.addInt64 key value) (members.insert key (.int value.toInt)))
  | addUInt64 {json members} (key : CString) (value : UInt64)
      (h : Built (.builder json members)) :
      Built (.builder (json.addUInt64 key value) (members.insert key (.int value.toNat)))
  | addUInt32 {json members} (key : CString) (value : UInt32)
      (h : Built (.builder json members)) :
      Built (.builder (json.addUInt32 key value) (members.insert key (.int value.toNat)))
  | addBool {json members} (key : CString) (value : Bool)
      (h : Built (.builder json members)) :
      Built (.builder (json.addBool key value) (members.insert key (.bool value)))
  | addObject {json members text tree} (key : CString) (h : Built (.builder json members))
      (hobject : Built (.text text tree)) :
      Built (.builder (json.addObject key text) (members.insert key tree))
  | addArray {json members} (key : CString) (items : List (CString × Tree))
      (h : Built (.builder json members)) (hitems : ∀ p ∈ items, Built (.text p.1 p.2)) :
      Built (.builder (json.addArray key (items.map Prod.fst))
        (members.insert key (.array (items.map Prod.snd))))
  | build {json members} (h : Built (.builder json members)) :
      Built (.text json.build (.object members.toList))
  | arrayBuilder : Built (.arrayBuilder {} [])
  | pushString {json items} (value : CString) (h : Built (.arrayBuilder json items)) :
      Built (.arrayBuilder (json.addString value) (items ++ [.string value]))
  | pushInt64 {json items} (value : Int64) (h : Built (.arrayBuilder json items)) :
      Built (.arrayBuilder (json.addInt64 value) (items ++ [.int value.toInt]))
  | pushObject {json items text tree} (h : Built (.arrayBuilder json items))
      (hobject : Built (.text text tree)) :
      Built (.arrayBuilder (json.addObject text) (items ++ [tree]))
  | buildArray {json items} (h : Built (.arrayBuilder json items)) :
      Built (.text json.build (.array items))

namespace Tree

theorem induct {motive : Tree → Prop} (string : ∀ value, motive (.string value))
    (int : ∀ value, motive (.int value)) (bool : ∀ value, motive (.bool value))
    (array : ∀ items, (∀ t ∈ items, motive t) → motive (.array items))
    (object : ∀ members, (∀ p ∈ members, motive p.2) → motive (.object members)) :
    ∀ t, motive t
  | .string value => string value
  | .int value => int value
  | .bool value => bool value
  | .array items => array items fun t _ => induct string int bool array object t
  | .object members => object members fun p hp =>
      have : sizeOf p.2 < 1 + sizeOf members := by
        have hlt := List.sizeOf_lt_of_mem hp
        cases p
        simp at hlt ⊢
        omega
      induct string int bool array object p.2

mutual

/-- The tree as a JSON value, with its strings read as `f` says. -/
def toJson (f : CString → CString) : Tree → Json
  | .string value => .string (f value)
  | .int value => .number value
  | .bool value => .bool value
  | .array items => .array (itemsToJson f items)
  | .object members => .object (membersToJson f members)

def itemsToJson (f : CString → CString) : List Tree → List Json
  | [] => []
  | t :: rest => toJson f t :: itemsToJson f rest

def membersToJson (f : CString → CString) : List (CString × Tree) → List (CString × Json)
  | [] => []
  | p :: rest => (f p.1, toJson f p.2) :: membersToJson f rest

end

mutual

def strings : Tree → List CString
  | .string value => [value]
  | .int _ | .bool _ => []
  | .array items => itemStrings items
  | .object members => memberStrings members

def itemStrings : List Tree → List CString
  | [] => []
  | t :: rest => strings t ++ itemStrings rest

def memberStrings : List (CString × Tree) → List CString
  | [] => []
  | p :: rest => p.1 :: (strings p.2 ++ memberStrings rest)

end

/-- All keys and string values are made of bytes below 0x80. -/
def Ascii (t : Tree) : Prop := ∀ s ∈ t.strings, ∀ byte ∈ s, byte < 0x80

def Utf8 (t : Tree) : Prop := ∀ s ∈ t.strings, validUtf8 s = true

end Tree

/-- The text is valid JSON and a reader gets the tree back. -/
def RoundTrips (text : CString) (tree : Tree) : Prop := parse text = some (tree.toJson id)

/-- What a reader makes of an escaped byte.  The `\uffffff` in front of the two digits of
a byte from 0x80 on is the code unit 0xFFFF and two letters. -/
def decodedByte (byte : UInt8) : CString :=
  if byte < 0x80 then [byte] else encodeUtf8 0xFFFF ++ (hexField byte.toInt8).drop 4

def decodedString (str : CString) : CString := str.flatMap decodedByte

section Escaping

theorem readUnit_append {text tail : CString} {n : Nat} (h : readUnit text = some (n, tail))
    (rest : CString) : readUnit (text ++ rest) = some (n, tail ++ rest) := by
  match text with
  | a :: b :: c :: d :: back =>
      simp only [readUnit, Option.bind_eq_bind, Option.bind_eq_some_iff, Option.pure_def,
        Option.some.injEq, Prod.mk.injEq, List.cons_append] at h ⊢
      obtain ⟨a', ha, b', hb, c', hc, d', hd, hn, rfl⟩ := h
      exact ⟨a', ha, b', hb, c', hc, d', hd, hn, rfl⟩
  | [] => simp [readUnit] at h
  | [_] => simp [readUnit] at h
  | [_, _] => simp [readUnit] at h
  | [_, _, _] => simp [readUnit] at h

theorem spells_unit {digits : CString} {n : Nat} (h : readUnit digits = some (n, []))
    (hplain : n < 0xD800 ∨ 0xE000 ≤ n) : Spells (0x5C :: 0x75 :: digits) (encodeUtf8 n) := by
  refine @spells_escape (0x75 :: digits) _ fun rest => ?_
  have hhigh : ¬ (0xD800 ≤ n ∧ n < 0xDC00) := by omega
  have hlow : ¬ (0xDC00 ≤ n ∧ n < 0xE000) := by omega
  simp [readEscape, readPoint, readUnit_append h rest, hhigh, hlow]

theorem spells_short {mark byte : UInt8} (hmark : mark ≠ 0x75)
    (h : shortEscape mark = some byte) : Spells [0x5C, mark] [byte] := by
  refine @spells_escape [mark] _ fun rest => ?_
  simp [readEscape, hmark, h]

theorem readUnit_hexField_control :
    ∀ n < 0x20, readUnit (hexField (UInt8.ofNat n).toInt8) = some (n, []) := by
  decide

theorem escapeByte_high :
    ∀ n < 0x80, escapeByte (UInt8.ofNat (n + 0x80)) =
      0x5C :: 0x75 :: hexField (UInt8.ofNat (n + 0x80)).toInt8 := by
  decide

/-- The bytes that stand for themselves in a string. -/
def isPlain (byte : UInt8) : Bool := byte != 0x22 && byte != 0x5C && !decide (byte < 0x20)

theorem hexField_high :
    ∀ n < 0x80, readUnit ((hexField (UInt8.ofNat (n + 0x80)).toInt8).take 4) =
        some (0xFFFF, []) ∧
      ((hexField (UInt8.ofNat (n + 0x80)).toInt8).drop 4).all isPlain = true := by
  decide

theorem spells_plain_bytes {text : CString} (h : text.all isPlain = true) :
    Spells text text := by
  induction text with
  | nil => exact spells_nil
  | cons byte rest ih =>
      simp only [List.all_cons, isPlain, Bool.and_eq_true, bne_iff_ne, Bool.not_eq_true',
        decide_eq_false_iff_not] at h
      obtain ⟨⟨⟨hquote, hbackslash⟩, hcontrol⟩, hrest⟩ := h
      exact (spells_plain hquote hbackslash hcontrol).append
        (ih (by simpa [isPlain] using hrest))

theorem spells_escapeByte_high {byte : UInt8} (h : ¬ byte < 0x80) :
    Spells (escapeByte byte) (decodedByte byte) := by
  have hlarge : 0x80 ≤ byte.toNat := by simpa [UInt8.lt_iff_toNat_lt] using h
  obtain ⟨n, hn⟩ := Nat.exists_eq_add_of_le' hlarge
  have hsmall : n < 0x80 := by
    have := byte.toNat_lt
    omega
  obtain rfl : byte = UInt8.ofNat (n + 0x80) := by rw [← hn, UInt8.ofNat_toNat]
  obtain ⟨hunit, hplain⟩ := hexField_high n hsmall
  have hfront := spells_unit hunit (.inr (by decide))
  have hboth := hfront.append (spells_plain_bytes hplain)
  rw [List.cons_append, List.cons_append, List.take_append_drop] at hboth
  rw [escapeByte_high n hsmall, decodedByte, if_neg h]
  exact hboth

theorem toInt8_lt_iff : ∀ n < 0x80, ((UInt8.ofNat n).toInt8 < 0x20 ↔ n < 0x20) := by
  decide

theorem spells_escapeByte_low {byte : UInt8} (h : byte < 0x80) :
    Spells (escapeByte byte) [byte] := by
  have hsigned := toInt8_lt_iff byte.toNat (by simpa [UInt8.lt_iff_toNat_lt] using h)
  rw [UInt8.ofNat_toNat] at hsigned
  unfold escapeByte
  split_ifs with hquote hbackslash hb hf hn hr ht hcontrol
  · exact spells_short (by decide) (by rw [hquote]; rfl)
  · exact spells_short (by decide) (by rw [hbackslash]; rfl)
  · exact spells_short (by decide) (by rw [hb]; rfl)
  · exact spells_short (by decide) (by rw [hf]; rfl)
  · exact spells_short (by decide) (by rw [hn]; rfl)
  · exact spells_short (by decide) (by rw [hr]; rfl)
  · exact spells_short (by decide) (by rw [ht]; rfl)
  · have hsmall : byte.toNat < 0x20 := hsigned.mp hcontrol
    have hunit := readUnit_hexField_control byte.toNat hsmall
    rw [UInt8.ofNat_toNat] at hunit
    have hspells := spells_unit hunit (.inl (by omega))
    rw [encodeUtf8, if_pos (by omega), Nat.toUInt8_eq, UInt8.ofNat_toNat] at hspells
    exact hspells
  · refine spells_plain hquote hbackslash fun hlt => hcontrol (hsigned.mpr ?_)
    simpa [UInt8.lt_iff_toNat_lt] using hlt

theorem spells_escapeByte (byte : UInt8) : Spells (escapeByte byte) (decodedByte byte) := by
  by_cases h : byte < 0x80
  · rw [decodedByte, if_pos h]
    exact spells_escapeByte_low h
  · exact spells_escapeByte_high h

theorem spells_escapeString (str : CString) :
    Spells (escapeString str) (decodedString str) := by
  induction str with
  | nil => exact spells_nil
  | cons byte rest ih => exact (spells_escapeByte byte).append ih

theorem ascii_escapeByte :
    ∀ n < 256, (escapeByte (UInt8.ofNat n)).all (fun b => decide (b < 0x80)) = true := by
  set_option maxRecDepth 1000 in
  decide

end Escaping

/-- A text that is read as the tree with its strings decoded, and is made of bytes below
0x80. -/
def Good (text : CString) (tree : Tree) : Prop :=
  Reads text (tree.toJson decodedString) ∧ ∀ byte ∈ text, byte < 0x80

section Good

theorem ascii_escapeString (str : CString) : ∀ byte ∈ escapeString str, byte < 0x80 := by
  intro byte hbyte
  obtain ⟨b, _, hb⟩ := List.mem_flatMap.mp hbyte
  have hall := ascii_escapeByte b.toNat b.toNat_lt
  rw [UInt8.ofNat_toNat] at hall
  exact of_decide_eq_true (List.all_eq_true.mp hall byte hb)

theorem ascii_quoted (str : CString) : ∀ byte ∈ quoted str, byte < 0x80 := by
  intro byte hbyte
  simp only [quoted, List.mem_cons, List.mem_append, List.not_mem_nil, or_false] at hbyte
  rcases hbyte with rfl | hbyte | rfl
  · decide
  · exact ascii_escapeString str byte hbyte
  · decide

theorem ascii_commaSeparated {texts : List CString}
    (h : ∀ text ∈ texts, ∀ byte ∈ text, byte < 0x80) :
    ∀ byte ∈ commaSeparated texts, byte < 0x80 := by
  induction texts with
  | nil => simp [commaSeparated]
  | cons text rest ih =>
      have htext := h text List.mem_cons_self
      have hrest := ih fun t ht => h t (List.mem_cons_of_mem text ht)
      by_cases hnil : rest = []
      · subst hnil
        exact htext
      · rw [commaSeparated_cons hnil]
        intro byte hbyte
        rcases List.mem_append.mp hbyte with hbyte | hbyte
        · exact htext byte hbyte
        · rcases List.mem_cons.mp hbyte with rfl | hbyte
          · decide
          · exact hrest byte hbyte

theorem good_string (value : CString) : Good (quoted value) (.string value) :=
  ⟨reads_string (spells_escapeString value), ascii_quoted value⟩

theorem good_bool (value : Bool) :
    Good (ascii (if value then "true" else "false")) (.bool value) := by
  refine ⟨reads_bool value, ?_⟩
  intro byte hbyte
  have hall : (ascii (if value then "true" else "false")).all (fun b => decide (b < 0x80)) =
      true := by
    cases value <;> decide
  exact of_decide_eq_true (List.all_eq_true.mp hall byte hbyte)

theorem ascii_digit {byte : UInt8} (h : byte = 0x2D ∨ isDigit byte = true) : byte < 0x80 := by
  rcases h with rfl | h
  · decide
  · simp only [isDigit, Bool.and_eq_true, decide_eq_true_eq] at h
    exact UInt8.lt_of_le_of_lt h.2 (by decide)

theorem good_int (value : Int) : Good (ascii (toString value)) (.int value) := by
  refine ⟨reads_int value, ?_⟩
  intro byte hbyte
  apply ascii_digit
  cases value with
  | ofNat n => exact .inr (isDigit_of_mem_repr hbyte)
  | negSucc n =>
      have htext : ascii (toString (Int.negSucc n)) = 0x2D :: ascii (n + 1).repr := by
        simp [ascii, toString, Int.repr]
      rw [htext, List.mem_cons] at hbyte
      exact hbyte.imp id isDigit_of_mem_repr

theorem itemsToJson_eq_map (f : CString → CString) (items : List Tree) :
    Tree.itemsToJson f items = items.map (Tree.toJson f) := by
  induction items with
  | nil => rfl
  | cons t rest ih => rw [Tree.itemsToJson, ih, List.map_cons]

theorem membersToJson_eq_map (f : CString → CString) (members : List (CString × Tree)) :
    Tree.membersToJson f members = members.map fun p => (f p.1, p.2.toJson f) := by
  induction members with
  | nil => rfl
  | cons p rest ih => rw [Tree.membersToJson, ih, List.map_cons]

theorem good_array {texts : List CString} {items : List Tree}
    (h : List.Forall₂ Good texts items) : Good (bracketed texts) (.array items) := by
  have hreads : List.Forall₂ Reads texts (items.map (Tree.toJson decodedString)) := by
    rw [List.forall₂_map_right_iff]
    exact h.imp fun _ _ hgood => hgood.1
  constructor
  · rw [Tree.toJson, itemsToJson_eq_map]
    exact reads_array hreads
  · have hascii : ∀ text ∈ texts, ∀ byte ∈ text, byte < 0x80 := by
      clear hreads
      induction h with
      | nil => simp
      | cons hgood _ ih => exact List.forall_mem_cons.mpr ⟨hgood.2, ih⟩
    intro byte hbyte
    simp only [bracketed, List.mem_cons, List.mem_append, List.not_mem_nil, or_false] at hbyte
    rcases hbyte with rfl | hbyte | rfl
    · decide
    · exact ascii_commaSeparated hascii byte hbyte
    · decide

def field (key value : CString) : CString := quoted key ++ 0x3A :: value

theorem readsMember_field {key value : CString} {tree : Tree} (h : Good value tree) :
    ReadsMember (field key value) (decodedString key, tree.toJson decodedString) :=
  ⟨escapeString key, value, by simp [field, quoted], spells_escapeString key, h.1⟩

theorem good_object {entries : List (CString × CString × Tree)}
    (h : ∀ p ∈ entries, Good p.2.1 p.2.2) :
    Good (0x7B :: (commaSeparated (entries.map fun p => field p.1 p.2.1) ++ [0x7D]))
      (.object (entries.map fun p => (p.1, p.2.2))) := by
  constructor
  · rw [Tree.toJson, membersToJson_eq_map, List.map_map]
    apply reads_object
    rw [List.forall₂_map_left_iff, List.forall₂_map_right_iff, List.forall₂_same]
    exact fun p hp => readsMember_field (h p hp)
  · intro byte hbyte
    simp only [List.mem_cons, List.mem_append, List.not_mem_nil, or_false] at hbyte
    rcases hbyte with rfl | hbyte | rfl
    · decide
    · refine ascii_commaSeparated ?_ byte hbyte
      intro text htext b hb
      obtain ⟨p, hp, rfl⟩ := List.mem_map.mp htext
      rcases List.mem_append.mp hb with hb | hb
      · exact ascii_quoted p.1 b hb
      · rcases List.mem_cons.mp hb with rfl | hb
        · decide
        · exact (h p hp).2 b hb
    · decide

end Good

/-- What the builders keep: a builder and its tree come from one map of values and
subtrees. -/
def GoodStage : Stage → Prop
  | .builder json members =>
      ∃ entries : ExtTreeMap CString (CString × Tree),
        json.fields = entries.map (fun key (p : CString × Tree) => field key p.1) ∧
          members = entries.map (fun _ (p : CString × Tree) => p.2) ∧
            ∀ (key : CString) (p : CString × Tree), entries[key]? = some p → Good p.1 p.2
  | .arrayBuilder json items => List.Forall₂ Good json.items items
  | .text text tree => Good text tree

theorem map_insert {α β : Type} (m : ExtTreeMap CString α) (f : CString → α → β)
    (key : CString) (a : α) : (m.insert key a).map f = (m.map f).insert key (f key a) := by
  ext k : 1
  rw [ExtTreeMap.getElem?_map, ExtTreeMap.getElem?_insert, ExtTreeMap.getElem?_insert,
    ExtTreeMap.getElem?_map]
  by_cases hkey : compare key k = .eq
  · obtain rfl := Std.LawfulEqCmp.eq_of_compare hkey
    simp
  · simp [hkey]

theorem goodStage_add {json : JsonBuilder} {members : ExtTreeMap CString Tree}
    {value : CString} {tree : Tree} (h : GoodStage (.builder json members)) (key : CString)
    (hgood : Good value tree) :
    GoodStage (.builder (json.add key value) (members.insert key tree)) := by
  obtain ⟨entries, hfields, hmembers, hall⟩ := h
  refine ⟨entries.insert key (value, tree), ?_, ?_, ?_⟩
  · rw [map_insert, ← hfields]
    rfl
  · rw [map_insert, ← hmembers]
  · intro k p hp
    rw [ExtTreeMap.getElem?_insert] at hp
    split_ifs at hp with hkey
    · obtain rfl := Option.some.inj hp
      exact hgood
    · exact hall k p hp

theorem goodStage_of_built {stage : Stage} (h : Built stage) : GoodStage stage := by
  induction h with
  | builder =>
      refine ⟨∅, ?_, ?_, ?_⟩
      · simp
      · simp
      · intro key p hp
        simp at hp
  | addString key value _ ih => exact goodStage_add ih key (good_string value)
  | addInt64 key value _ ih => exact goodStage_add ih key (good_int value.toInt)
  | addUInt64 key value _ ih => exact goodStage_add ih key (good_int value.toNat)
  | addUInt32 key value _ ih => exact goodStage_add ih key (good_int value.toNat)
  | addBool key value _ ih => exact goodStage_add ih key (good_bool value)
  | addObject key _ _ ih ihobject => exact goodStage_add ih key ihobject
  | addArray key items _ _ ih ihitems =>
      refine goodStage_add ih key (good_array ?_)
      rw [List.forall₂_map_left_iff, List.forall₂_map_right_iff, List.forall₂_same]
      exact ihitems
  | build _ ih =>
      obtain ⟨entries, hfields, rfl, hall⟩ := ih
      have hgood := @good_object entries.toList fun p hp =>
        hall p.1 p.2 (ExtTreeMap.mem_toList_iff_getElem?_eq_some.mp hp)
      rw [GoodStage, JsonBuilder.build, hfields, ExtTreeMap.toList_map, ExtTreeMap.toList_map,
        List.map_map]
      exact hgood
  | arrayBuilder => exact .nil
  | pushString value _ ih => exact List.rel_append ih (.cons (good_string value) .nil)
  | pushInt64 value _ ih => exact List.rel_append ih (.cons (good_int value.toInt) .nil)
  | pushObject _ _ ih ihobject => exact List.rel_append ih (.cons ihobject .nil)
  | buildArray _ ih => exact good_array ih

/-- Everything built is a JSON text, of the tree with its strings decoded. -/
theorem parse_of_built {text : CString} {tree : Tree} (h : Built (.text text tree)) :
    parse text = some (tree.toJson decodedString) :=
  (goodStage_of_built h).1.parse (goodStage_of_built h).2

section Decoding

theorem length_le_decodedString (str : CString) : str.length ≤ (decodedString str).length := by
  induction str with
  | nil => exact Nat.le_refl 0
  | cons byte rest ih =>
      have hbyte : 1 ≤ (decodedByte byte).length := by
        unfold decodedByte
        split
        · exact Nat.le_refl 1
        · simp [encodeUtf8]
      change _ ≤ (decodedByte byte ++ decodedString rest).length
      rw [List.length_append, List.length_cons]
      omega

theorem decodedString_eq_self {str : CString} :
    decodedString str = str ↔ ∀ byte ∈ str, byte < 0x80 := by
  induction str with
  | nil => simp [decodedString]
  | cons byte rest ih =>
      have hcons : decodedString (byte :: rest) = decodedByte byte ++ decodedString rest := rfl
      rw [hcons, List.forall_mem_cons, ← ih]
      by_cases hbyte : byte < 0x80
      · simp [decodedByte, hbyte]
      · refine iff_of_false ?_ fun h => hbyte h.1
        intro heq
        have hlonger := length_le_decodedString rest
        have hlength := congrArg List.length heq
        simp [decodedByte, hbyte, encodeUtf8] at hlength
        omega

theorem itemStrings_eq_flatMap (items : List Tree) :
    Tree.itemStrings items = items.flatMap Tree.strings := by
  induction items with
  | nil => rfl
  | cons t rest ih => rw [Tree.itemStrings, ih, List.flatMap_cons]

theorem memberStrings_eq_flatMap (members : List (CString × Tree)) :
    Tree.memberStrings members = members.flatMap fun p => p.1 :: p.2.strings := by
  induction members with
  | nil => rfl
  | cons p rest ih => rw [Tree.memberStrings, ih, List.flatMap_cons, List.cons_append]

theorem ascii_array {items : List Tree} :
    (Tree.array items).Ascii ↔ ∀ t ∈ items, t.Ascii := by
  simp only [Tree.Ascii, Tree.strings, itemStrings_eq_flatMap, List.mem_flatMap]
  constructor
  · intro h t ht s hs
    exact h s ⟨t, ht, hs⟩
  · rintro h s ⟨t, ht, hs⟩
    exact h t ht s hs

theorem ascii_object {members : List (CString × Tree)} :
    (Tree.object members).Ascii ↔
      ∀ p ∈ members, (∀ byte ∈ p.1, byte < 0x80) ∧ p.2.Ascii := by
  simp only [Tree.Ascii, Tree.strings, memberStrings_eq_flatMap, List.mem_flatMap,
    List.mem_cons]
  constructor
  · intro h p hp
    exact ⟨h p.1 ⟨p, hp, .inl rfl⟩, fun s hs => h s ⟨p, hp, .inr hs⟩⟩
  · rintro h s ⟨p, hp, rfl | hs⟩
    · exact (h p hp).1
    · exact (h p hp).2 s hs

/-- The strings that are decoded wrongly are those with a byte from 0x80 on. -/
theorem toJson_decodedString_eq (t : Tree) :
    t.toJson decodedString = t.toJson id ↔ t.Ascii := by
  induction t using Tree.induct with
  | string value =>
      simp only [Tree.toJson, Json.string.injEq, id_eq, decodedString_eq_self, Tree.Ascii,
        Tree.strings, List.mem_singleton, forall_eq]
  | int value => simp [Tree.toJson, Tree.Ascii, Tree.strings]
  | bool value => simp [Tree.toJson, Tree.Ascii, Tree.strings]
  | array items ih =>
      rw [ascii_array, Tree.toJson, Tree.toJson, Json.array.injEq, itemsToJson_eq_map,
        itemsToJson_eq_map, List.map_inj_left]
      exact forall₂_congr ih
  | object members ih =>
      rw [ascii_object, Tree.toJson, Tree.toJson, Json.object.injEq, membersToJson_eq_map,
        membersToJson_eq_map, List.map_inj_left]
      refine forall₂_congr fun p hp => ?_
      rw [Prod.mk.injEq, id_eq, decodedString_eq_self, ih p hp]

end Decoding

/-- Exactly the trees whose keys and strings are ASCII come back. -/
theorem roundTrips_iff_ascii {text : CString} {tree : Tree} (h : Built (.text text tree)) :
    RoundTrips text tree ↔ tree.Ascii := by
  rw [RoundTrips, parse_of_built h, Option.some.injEq, toJson_decodedString_eq]

theorem roundTrips_iff_ascii_codec :
    RoundTrips (({} : JsonBuilder).addString (ascii "codec") (ascii "H264")).build
        (.object [(ascii "codec", .string (ascii "H264"))]) ↔
      (Tree.object [(ascii "codec", .string (ascii "H264"))]).Ascii :=
  roundTrips_iff_ascii (Built.build (Built.addString (ascii "codec") (ascii "H264") .builder))

/-- A session whose name is one accented letter. -/
theorem not_roundTrips_session_name :
    ¬ ∀ (text : CString) (tree : Tree), Built (.text text tree) → tree.Utf8 →
      RoundTrips text tree := by
  intro hall
  have hbuilt : Built (.text
      (({} : JsonBuilder).addString (ascii "session_name") [0xC3, 0xA9]).build
        (.object [(ascii "session_name", .string [0xC3, 0xA9])])) :=
    Built.build (Built.addString (ascii "session_name") [0xC3, 0xA9] .builder)
  have hutf8 : (Tree.object [(ascii "session_name", .string [0xC3, 0xA9])]).Utf8 := by
    unfold Tree.Utf8
    decide
  have htrip := hall _ _ hbuilt hutf8
  rw [RoundTrips, parse_of_built hbuilt, Option.some.injEq, toJson_decodedString_eq] at htrip
  exact absurd (htrip [0xC3, 0xA9] (by decide) 0xC3 (by decide)) (by decide)

end GBServer.JsonUtils
