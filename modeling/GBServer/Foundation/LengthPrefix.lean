import Mathlib.Data.List.Basic

/-!
Byte streams of packets behind two-byte big-endian lengths.

`Framed limit bytes packets rest` reads a stream from its front: the packets that
have arrived whole, and the bytes of the packet that has not.  Every length that
can be read is below `limit`.
-/

namespace Foundation.LengthPrefix

def prefixLength (high low : UInt8) : Nat := high.toNat * 256 + low.toNat

inductive Framed (limit : Nat) : List UInt8 → List (List UInt8) → List UInt8 → Prop
  | short {bytes : List UInt8} (hlength : bytes.length ≤ 2) : Framed limit bytes [] bytes
  | incomplete {high low : UInt8} {rest : List UInt8} (hne : rest ≠ [])
      (hlimit : prefixLength high low < limit) (hlength : rest.length < prefixLength high low) :
      Framed limit (high :: low :: rest) [] (high :: low :: rest)
  | packet {high low : UInt8} {payload bytes rest : List UInt8} {packets : List (List UInt8)}
      (hne : payload ++ bytes ≠ []) (hlimit : prefixLength high low < limit)
      (hlength : payload.length = prefixLength high low)
      (hbytes : Framed limit bytes packets rest) :
      Framed limit (high :: low :: (payload ++ bytes)) (payload :: packets) rest

/-- Every length of the stream that can be read is below the limit. -/
def WellFramed (limit : Nat) (bytes : List UInt8) : Prop :=
  ∃ packets rest, Framed limit bytes packets rest

variable {limit : Nat} {high low : UInt8} {bytes payload rest more : List UInt8}
  {packets later : List (List UInt8)}

def encode (packet : List UInt8) : List UInt8 :=
  UInt8.ofNat (packet.length / 256) :: UInt8.ofNat packet.length :: packet

def Incomplete : List UInt8 → Prop
  | high :: low :: rest => rest.length < prefixLength high low
  | _ => True

theorem prefixLength_ofNat {n : Nat} (h : n < 0x10000) :
    prefixLength (UInt8.ofNat (n / 256)) (UInt8.ofNat n) = n := by
  rw [prefixLength, UInt8.toNat_ofNat', UInt8.toNat_ofNat']
  omega

theorem not_short_of_ne_nil (hne : rest ≠ []) : ¬ (high :: low :: rest).length ≤ 2 := by
  have hpos := List.length_pos_of_ne_nil hne
  simp only [List.length_cons]
  omega

theorem append_append_ne_nil {front middle : List UInt8} (hne : front ++ middle ≠ [])
    (back : List UInt8) : front ++ (middle ++ back) ≠ [] := by
  rw [← List.append_assoc]
  exact List.append_ne_nil_of_left_ne_nil hne back

theorem Framed.rest_framed (h : Framed limit bytes packets rest) : Framed limit rest [] rest := by
  induction h with
  | short hlength => exact .short hlength
  | incomplete hne hlimit hlength => exact .incomplete hne hlimit hlength
  | packet _ _ _ _ ih => exact ih

theorem Framed.wellFramed (h : Framed limit bytes packets rest) : WellFramed limit bytes :=
  ⟨packets, rest, h⟩

theorem Framed.length_rest_le (h : Framed limit bytes packets rest) :
    rest.length ≤ limit + 2 := by
  induction h with
  | short hlength => omega
  | incomplete _ hlimit hlength =>
      rw [List.length_cons, List.length_cons]
      omega
  | packet _ _ _ _ ih => exact ih

theorem Framed.rest_suffix (h : Framed limit bytes packets rest) : rest <:+ bytes := by
  induction h with
  | short | incomplete => exact List.suffix_refl _
  | @packet high low payload _ _ _ _ _ _ _ ih =>
      exact ih.trans (List.suffix_append (high :: low :: payload) _)

theorem Framed.length_packets_le (h : Framed limit bytes packets rest) :
    packets.length ≤ bytes.length := by
  induction h with
  | short | incomplete => exact Nat.zero_le _
  | packet _ _ _ _ ih =>
      simp only [List.length_cons, List.length_append]
      omega

/-- More bytes continue the packet that has not arrived whole. -/
theorem Framed.append (h : Framed limit bytes packets rest)
    (hmore : Framed limit (rest ++ more) later payload) :
    Framed limit (bytes ++ more) (packets ++ later) payload := by
  induction h with
  | short | incomplete => exact hmore
  | packet hne hlimit hlength _ ih =>
      have hkept := Framed.packet (append_append_ne_nil hne more) hlimit hlength (ih hmore)
      simpa only [List.cons_append, List.append_assoc] using hkept

theorem Framed.limit_of_readable (h : Framed limit (high :: low :: bytes) packets rest)
    (hne : bytes ≠ []) : prefixLength high low < limit := by
  cases h with
  | short hlength => exact absurd hlength (not_short_of_ne_nil hne)
  | incomplete _ hlimit _ => exact hlimit
  | packet _ hlimit _ _ => exact hlimit

theorem Framed.wellFramed_tail
    (h : Framed limit (high :: low :: (payload ++ bytes)) packets rest)
    (hne : payload ++ bytes ≠ []) (hlength : payload.length = prefixLength high low) :
    WellFramed limit bytes := by
  generalize hall : payload ++ bytes = body at h hne
  cases h with
  | short hshort => exact absurd hshort (not_short_of_ne_nil hne)
  | incomplete _ _ hshort =>
      rw [← hall, List.length_append] at hshort
      omega
  | packet _ _ hlength' hbytes =>
      obtain ⟨_, rfl⟩ := List.append_inj hall (by omega)
      exact hbytes.wellFramed

theorem Framed.wellFramed_append_iff (h : Framed limit bytes packets rest) :
    WellFramed limit (bytes ++ more) ↔ WellFramed limit (rest ++ more) := by
  constructor
  · intro hwell
    induction h with
    | short | incomplete => exact hwell
    | packet hne _ hlength _ ih =>
        obtain ⟨_, _, hframed⟩ := hwell
        rw [List.cons_append, List.cons_append, List.append_assoc] at hframed
        exact ih (hframed.wellFramed_tail (append_append_ne_nil hne more) hlength)
  · rintro ⟨_, _, hmore⟩
    exact (h.append hmore).wellFramed

/-- Case analysis of a stream at its first length, whatever the length is. -/
theorem stream_induction {motive : List UInt8 → Prop}
    (short : ∀ bytes, bytes.length ≤ 2 → motive bytes)
    (incomplete : ∀ high low rest, rest ≠ [] → rest.length < prefixLength high low →
      motive (high :: low :: rest))
    (packet : ∀ high low payload bytes, payload ++ bytes ≠ [] →
      payload.length = prefixLength high low → motive bytes →
      motive (high :: low :: (payload ++ bytes)))
    (bytes : List UInt8) : motive bytes := by
  induction hn : bytes.length using Nat.strongRecOn generalizing bytes with
  | ind n ih =>
      match bytes with
      | [] => exact short [] (Nat.zero_le _)
      | [byte] => exact short [byte] (by simp)
      | high :: low :: rest =>
          by_cases hne : rest = []
          · subst hne
            exact short [high, low] (Nat.le_refl _)
          · by_cases hlength : rest.length < prefixLength high low
            · exact incomplete high low rest hne hlength
            · rw [← List.take_append_drop (prefixLength high low) rest] at hne ⊢
              have hpayload : (rest.take (prefixLength high low)).length =
                  prefixLength high low := List.length_take_of_le (Nat.le_of_not_lt hlength)
              have hshorter : (rest.drop (prefixLength high low)).length < n := by
                rw [← hn, List.length_drop, List.length_cons, List.length_cons]
                omega
              exact packet high low _ _ hne hpayload (ih _ hshorter _ rfl)

theorem WellFramed.packet (h : WellFramed limit bytes) (hne : payload ++ bytes ≠ [])
    (hlimit : prefixLength high low < limit) (hlength : payload.length = prefixLength high low) :
    WellFramed limit (high :: low :: (payload ++ bytes)) := by
  obtain ⟨_, _, hbytes⟩ := h
  exact (Framed.packet hne hlimit hlength hbytes).wellFramed

theorem WellFramed.of_append {front back : List UInt8} (h : WellFramed limit (front ++ back)) :
    WellFramed limit front := by
  induction front using stream_induction with
  | short bytes hlength => exact (Framed.short hlength).wellFramed
  | incomplete high low rest hne hlength =>
      obtain ⟨_, _, h⟩ := h
      have hlimit : prefixLength high low < limit :=
        h.limit_of_readable (List.append_ne_nil_of_left_ne_nil hne back)
      exact (Framed.incomplete hne hlimit hlength).wellFramed
  | packet high low payload bytes hne hlength ih =>
      obtain ⟨_, _, h⟩ := h
      have hne' : payload ++ (bytes ++ back) ≠ [] := append_append_ne_nil hne back
      rw [List.cons_append, List.cons_append, List.append_assoc] at h
      exact WellFramed.packet (ih (h.wellFramed_tail hne' hlength)) hne
        (h.limit_of_readable hne') hlength

/-- A stream is read in one way. -/
theorem Framed.unique (h : Framed limit bytes packets rest) {packets' : List (List UInt8)}
    {rest' : List UInt8} (h' : Framed limit bytes packets' rest') :
    packets = packets' ∧ rest = rest' := by
  induction h generalizing packets' rest' with
  | short hlength =>
      cases h' with
      | short => exact ⟨rfl, rfl⟩
      | incomplete hne => exact absurd hlength (not_short_of_ne_nil hne)
      | packet hne => exact absurd hlength (not_short_of_ne_nil hne)
  | @incomplete high low body hne hlimit hlength =>
      cases h' with
      | short => exact ⟨rfl, rfl⟩
      | incomplete => exact ⟨rfl, rfl⟩
      | packet _ _ hlength' =>
          rw [List.length_append] at hlength
          omega
  | @packet high low payload bytes rest packets hne hlimit hlength _ ih =>
      generalize hall : payload ++ bytes = body at h' hne
      cases h' with
      | short hshort => exact absurd hshort (not_short_of_ne_nil hne)
      | incomplete _ _ hshort =>
          rw [← hall, List.length_append] at hshort
          omega
      | packet _ _ hlength' hbytes' =>
          obtain ⟨rfl, rfl⟩ := List.append_inj hall (by omega)
          obtain ⟨rfl, rfl⟩ := ih hbytes'
          exact ⟨rfl, rfl⟩

/-- Encoded packets are read back, unless the last of them is empty and nothing follows. -/
theorem framed_flatMap_encode {tail : List UInt8}
    (hlimit : ∀ packet ∈ packets, packet.length < limit)
    (hencodable : ∀ packet ∈ packets, packet.length < 0x10000)
    (htail : Framed limit tail [] tail) (hlast : tail = [] → packets.getLast? ≠ some []) :
    Framed limit (packets.flatMap encode ++ tail) packets tail := by
  induction packets with
  | nil => exact htail
  | cons packet later ih =>
      obtain ⟨hpacket, hlater⟩ := List.forall_mem_cons.mp hlimit
      obtain ⟨hpacket', hlater'⟩ := List.forall_mem_cons.mp hencodable
      have hlength := prefixLength_ofNat hpacket'
      have hkept := ih hlater hlater' (by
        intro htail hempty
        apply hlast htail
        rw [List.getLast?_cons, hempty]
        rfl)
      have hne : packet ++ (later.flatMap encode ++ tail) ≠ [] := by
        intro hnil
        obtain ⟨rfl, hnil⟩ := List.append_eq_nil_iff.mp hnil
        obtain ⟨hnil, htail⟩ := List.append_eq_nil_iff.mp hnil
        cases later with
        | nil => exact hlast htail rfl
        | cons => simp [encode] at hnil
      have hframed := Framed.packet hne (hlength.symm ▸ hpacket) hlength.symm hkept
      simpa only [List.flatMap_cons, encode, List.cons_append, List.append_assoc] using hframed

end Foundation.LengthPrefix
