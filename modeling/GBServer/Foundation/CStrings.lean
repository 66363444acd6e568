import Mathlib.Data.List.Basic

namespace Foundation.CStrings

abbrev CString := List UInt8

def ascii (s : String) : CString := s.toList.map fun c => c.toNat.toUInt8

def toLower (byte : UInt8) : UInt8 :=
  if 0x41 ≤ byte ∧ byte ≤ 0x5A then byte + 0x20 else byte

/-- `strcasecmp(s, t) == 0`. -/
def equalIgnoringCase (s t : CString) : Bool := s.map toLower == t.map toLower

def isSpace (byte : UInt8) : Bool := byte == 0x20 || (0x09 ≤ byte && byte ≤ 0x0D)

def isDigit (byte : UInt8) : Bool := 0x30 ≤ byte && byte ≤ 0x39

def digits (s : CString) : Nat :=
  (s.takeWhile isDigit).foldl (fun n byte => 10 * n + (byte.toNat - 0x30)) 0

def atoi (s : CString) : Int :=
  match s.dropWhile isSpace with
  | 0x2D :: rest => -(digits rest : Int)
  | 0x2B :: rest => digits rest
  | rest => digits rest

/-- The rest of `s` from the first occurrence of `mark` on. -/
def strstr (s mark : CString) : Option CString :=
  if mark <+: s then some s
  else
    match s with
    | [] => none
    | _ :: rest => strstr rest mark

theorem strstr_eq_some_iff {s mark found : CString} :
    strstr s mark = some found ↔ ∃ front, s = front ++ found ∧ mark <+: found ∧
      ∀ front', front' ++ mark <+: s → front.length ≤ front'.length := by
  induction s with
  | nil =>
      rw [strstr]
      constructor
      · intro h
        split at h
        · next hmark =>
            obtain rfl := Option.some.inj h
            exact ⟨[], rfl, hmark, fun _ _ => Nat.zero_le _⟩
        · cases h
      · rintro ⟨front, happend, hmark, _⟩
        obtain ⟨rfl, rfl⟩ := List.nil_eq_append_iff.mp happend
        rw [if_pos hmark]
  | cons byte s ih =>
      rw [strstr]
      by_cases hbegins : mark <+: byte :: s
      · rw [if_pos hbegins, Option.some.injEq]
        constructor
        · rintro rfl
          exact ⟨[], rfl, hbegins, fun _ _ => Nat.zero_le _⟩
        · rintro ⟨front, happend, _, hfirst⟩
          have hnil : front = [] := List.length_eq_zero_iff.mp (Nat.le_zero.mp (hfirst [] hbegins))
          rw [happend, hnil, List.nil_append]
      · rw [if_neg hbegins, ih]
        constructor
        · rintro ⟨front, happend, hmark, hfirst⟩
          refine ⟨byte :: front, congrArg (byte :: ·) happend, hmark, ?_⟩
          intro front' hprefix
          cases front' with
          | nil => exact absurd hprefix hbegins
          | cons byte' front' =>
              exact Nat.succ_le_succ (hfirst front' (List.cons_prefix_cons.mp hprefix).2)
        · rintro ⟨front, happend, hmark, hfirst⟩
          cases front with
          | nil => exact absurd (happend ▸ hmark) hbegins
          | cons byte' front =>
              obtain ⟨rfl, hrest⟩ := List.cons.inj happend
              refine ⟨front, hrest, hmark, ?_⟩
              intro front' hprefix
              exact Nat.le_of_succ_le_succ
                (hfirst (byte :: front') (List.cons_prefix_cons.mpr ⟨rfl, hprefix⟩))

theorem strstr_eq_none_iff {s mark : CString} :
    strstr s mark = none ↔ ∀ front, ¬ front ++ mark <+: s := by
  induction s with
  | nil =>
      rw [strstr]
      constructor
      · intro h front hprefix
        split at h
        · cases h
        · next hmark =>
            have hnil := (List.append_eq_nil_iff.mp (List.prefix_nil.mp hprefix)).2
            exact hmark (hnil ▸ List.nil_prefix)
      · intro h
        exact if_neg (h [])
  | cons byte s ih =>
      rw [strstr]
      by_cases hbegins : mark <+: byte :: s
      · rw [if_pos hbegins]
        exact iff_of_false nofun fun h => h [] hbegins
      · rw [if_neg hbegins, ih]
        constructor
        · intro h front hprefix
          cases front with
          | nil => exact hbegins hprefix
          | cons byte' front => exact h front (List.cons_prefix_cons.mp hprefix).2
        · intro h front hprefix
          exact h (byte :: front) (List.cons_prefix_cons.mpr ⟨rfl, hprefix⟩)

/-- A front is known by the property that all its bytes have and the next byte lacks. -/
theorem front_inj {p : UInt8 → Bool} {front front' rest rest' : CString}
    (hfront : ∀ byte ∈ front, p byte = true) (hfront' : ∀ byte ∈ front', p byte = true)
    (hrest : ∀ byte ∈ rest.head?, p byte = false) (hrest' : ∀ byte ∈ rest'.head?, p byte = false)
    (h : front ++ rest = front' ++ rest') : front = front' := by
  have htake : ∀ (s r : CString), (∀ byte ∈ s, p byte = true) →
      (∀ byte ∈ r.head?, p byte = false) → (s ++ r).takeWhile p = s := by
    intro s r hs hr
    rw [List.takeWhile_append_of_pos hs]
    cases r with
    | nil => exact List.append_nil s
    | cons byte r => rw [List.takeWhile_cons_of_neg (by simp [hr byte rfl]), List.append_nil]
  rw [← htake front rest hfront hrest, h, htake front' rest' hfront' hrest']

theorem append_underscore_inj {key key' rest rest' : CString} (hkey : key.all isDigit = true)
    (hkey' : key'.all isDigit = true) (h : key ++ 0x5F :: rest = key' ++ 0x5F :: rest') :
    key = key' ∧ rest = rest' := by
  have hstop : ∀ (r : CString), ∀ byte ∈ (0x5F :: r).head?, isDigit byte = false := by
    rintro r byte ⟨⟩
    decide
  obtain rfl : key = key' :=
    front_inj (List.all_eq_true.mp hkey) (List.all_eq_true.mp hkey') (hstop rest) (hstop rest') h
  exact ⟨rfl, (List.cons.inj (List.append_cancel_left h)).2⟩

/-- A number written with `std::setfill('0') << std::setw(width)`. -/
def padded (width n : Nat) : CString :=
  List.replicate (width - n.repr.length) 0x30 ++ ascii n.repr

section Decimal

theorem isDigit_toUInt8 {c : Char} (h : c.isDigit = true) :
    isDigit c.toNat.toUInt8 = true ∧ c.toNat.toUInt8.toNat = c.toNat := by
  have hrange : 48 ≤ c.toNat ∧ c.toNat ≤ 57 := by
    simpa [Char.isDigit, UInt32.le_iff_toNat_le] using h
  have hsame : c.toNat.toUInt8.toNat = c.toNat := by
    simp only [Nat.toUInt8_eq, UInt8.toNat_ofNat']
    omega
  refine ⟨?_, hsame⟩
  simp only [isDigit, Bool.and_eq_true, decide_eq_true_eq, UInt8.le_iff_toNat_le, hsame]
  simpa using hrange

theorem foldl_digits (chars : List Char) (h : ∀ c ∈ chars, c.isDigit = true) (start : Nat) :
    (chars.map fun c => c.toNat.toUInt8).foldl (fun n byte => 10 * n + (byte.toNat - 0x30)) start =
      Nat.ofDigitChars 10 chars start := by
  induction chars generalizing start with
  | nil => simp
  | cons c rest ih =>
      have hc := isDigit_toUInt8 (h c List.mem_cons_self)
      rw [List.map_cons, List.foldl_cons, ih fun d hd => h d (List.mem_cons_of_mem c hd),
        Nat.ofDigitChars_cons, hc.2]
      rfl

theorem ascii_repr (n : Nat) :
    ascii n.repr = (Nat.toDigits 10 n).map fun c => c.toNat.toUInt8 := by
  rw [ascii, Nat.toList_repr]

theorem isDigit_of_mem_repr {n : Nat} {byte : UInt8} (h : byte ∈ ascii n.repr) :
    isDigit byte = true := by
  rw [ascii_repr] at h
  obtain ⟨c, hc, rfl⟩ := List.mem_map.mp h
  exact (isDigit_toUInt8 (Nat.isDigit_of_mem_toDigits (by decide) (by decide) hc)).1

theorem repr_injective : Function.Injective fun n : Nat => ascii n.repr := by
  have hvalue : ∀ n : Nat,
      (ascii n.repr).foldl (fun n byte => 10 * n + (byte.toNat - 0x30)) 0 = n := by
    intro n
    rw [ascii_repr, foldl_digits]
    · exact Nat.ofDigitChars_ten_toDigits
    · exact fun c hc => Nat.isDigit_of_mem_toDigits (by decide) (by decide) hc
  intro m n h
  have hsame : ascii m.repr = ascii n.repr := h
  rw [← hvalue m, hsame, hvalue n]

theorem isDigit_of_mem_padded {width n : Nat} {byte : UInt8} (h : byte ∈ padded width n) :
    isDigit byte = true := by
  rcases List.mem_append.mp h with hzero | hdigit
  · rw [List.eq_of_mem_replicate hzero]
    decide
  · exact isDigit_of_mem_repr hdigit

theorem length_padded (width n : Nat) :
    (padded width n).length = max width n.repr.length := by
  have hascii : (ascii n.repr).length = n.repr.length := by
    rw [ascii, List.length_map, String.length_toList]
  rw [padded, List.length_append, List.length_replicate, hascii]
  omega

theorem length_padded_le {width m n : Nat} (h : m ≤ n) :
    (padded width m).length ≤ (padded width n).length := by
  have hlength : m.repr.length ≤ n.repr.length := by
    apply (Nat.length_repr_le_iff Nat.length_repr_pos).mpr
    exact Nat.lt_of_le_of_lt h ((Nat.length_repr_le_iff Nat.length_repr_pos).mp (Nat.le_refl _))
  rw [length_padded, length_padded]
  omega

theorem length_padded_two {n : Nat} (h : n < 100) : (padded 2 n).length = 2 := by
  have hlength : n.repr.length ≤ 2 := (Nat.length_repr_le_iff (by decide)).mpr h
  rw [length_padded]
  omega

theorem padded_injective (width : Nat) : Function.Injective (padded width) := by
  have hvalue : ∀ n, (padded width n).foldl (fun n byte => 10 * n + (byte.toNat - 0x30)) 0 = n := by
    intro n
    have hchars : padded width n = (List.replicate (width - n.repr.length) '0' ++
        Nat.toDigits 10 n).map fun c => c.toNat.toUInt8 := by
      rw [padded, ascii_repr, List.map_append, List.map_replicate]
      rfl
    rw [hchars, foldl_digits]
    · rw [Nat.ofDigitChars_append, Nat.ofDigitChars_replicate_zero, Nat.mul_zero,
        Nat.ofDigitChars_ten_toDigits]
    · intro c hc
      rcases List.mem_append.mp hc with hzero | hdigit
      · rw [List.eq_of_mem_replicate hzero]
        rfl
      · exact Nat.isDigit_of_mem_toDigits (by decide) (by decide) hdigit
  intro m n h
  rw [← hvalue m, h, hvalue n]

end Decimal

end Foundation.CStrings
