import GBServer.Foundation.Runs

/-!
Parsers of byte streams that arrive in chunks.

`next` reads one unit from the front of what has arrived.  A codec ties it to an encoder,
and makes what is read independent of the chunks: a receiver that keeps what it cannot read
yet gets the units that were encoded, each of them once.
-/

namespace Foundation.StreamParser

open Foundation.Runs

variable {α φ : Type*}

/-- Units read one after the other until no more can be read. -/
inductive Reads (next : List α → Option (φ × List α)) : List α → List φ → List α → Prop
  | stop {bytes : List α} (hnext : next bytes = none) : Reads next bytes [] bytes
  | unit {bytes rest left : List α} {u : φ} {units : List φ}
      (hnext : next bytes = some (u, rest)) (hrest : Reads next rest units left) :
      Reads next bytes (u :: units) left

/-- `next` makes progress, reads encoded units back, and does not change its mind when more
arrives. -/
structure Codec (next : List α → Option (φ × List α)) (encode : φ → List α)
    (valid : φ → Prop) : Prop where
  nil : next [] = none
  shorter : ∀ {bytes rest u}, next bytes = some (u, rest) → rest.length < bytes.length
  stable : ∀ {bytes rest u}, next bytes = some (u, rest) → ∀ more,
    next (bytes ++ more) = some (u, rest ++ more)
  read : ∀ {u}, valid u → ∀ more, next (encode u ++ more) = some (u, more)

/-- The units that are still to come, when `rest` has arrived of them and `more` has not:
none has arrived whole. -/
structure Awaits (encode : φ → List α) (units : List φ) (rest more : List α) : Prop where
  stream : rest ++ more = units.flatMap encode
  begun : ∀ u, units.head? = some u → rest <+: encode u ∧ rest ≠ encode u

variable {next : List α → Option (φ × List α)} {encode : φ → List α} {valid : φ → Prop}
  {bytes rest left more : List α} {units later : List φ}

theorem exists_reads (hshorter : ∀ {bytes rest u}, next bytes = some (u, rest) →
    rest.length < bytes.length) (bytes : List α) :
    ∃ units left, Reads next bytes units left := by
  induction hn : bytes.length using Nat.strongRecOn generalizing bytes with
  | ind n ih =>
      cases hnext : next bytes with
      | none => exact ⟨[], bytes, .stop hnext⟩
      | some p =>
          obtain ⟨u, rest⟩ := p
          obtain ⟨units, left, hrest⟩ := ih rest.length (hn ▸ hshorter hnext) rest rfl
          exact ⟨u :: units, left, .unit hnext hrest⟩

theorem Reads.next_left (h : Reads next bytes units left) : next left = none := by
  induction h with
  | stop hnext => exact hnext
  | unit _ _ ih => exact ih

theorem Codec.length_units_le (h : Codec next encode valid) (hreads : Reads next bytes units left) :
    units.length ≤ bytes.length := by
  induction hreads with
  | stop => exact Nat.zero_le _
  | unit hnext _ ih =>
      have hshorter := h.shorter hnext
      rw [List.length_cons]
      omega

/-- The units read from a part of an encoded stream are its first ones, and what is left is
a part of the next one. -/
theorem Codec.awaits_of_reads (h : Codec next encode valid) (hreads : Reads next bytes units left)
    {all : List φ} (hvalid : ∀ u ∈ all, valid u) (hstream : bytes ++ more = all.flatMap encode) :
    ∃ later, all = units ++ later ∧ Awaits encode later left more := by
  induction hreads generalizing all with
  | @stop bytes hnext =>
      refine ⟨all, rfl, hstream, ?_⟩
      intro u hu
      obtain ⟨rest, rfl⟩ := List.head?_eq_some_iff.mp hu
      have hread := h.read (hvalid u List.mem_cons_self)
      rw [List.flatMap_cons] at hstream
      rcases List.append_eq_append_iff.mp hstream with ⟨back, henc, _⟩ | ⟨back, hbytes, _⟩
      · refine ⟨⟨back, henc.symm⟩, ?_⟩
        rintro rfl
        rw [← List.append_nil (encode u), hread] at hnext
        cases hnext
      · rw [hbytes, hread] at hnext
        cases hnext
  | @unit bytes rest left u units hnext _ ih =>
      have hmore := h.stable hnext more
      rw [hstream] at hmore
      cases all with
      | nil =>
          rw [List.flatMap_nil, h.nil] at hmore
          cases hmore
      | cons w all =>
          obtain ⟨hw, hall⟩ := List.forall_mem_cons.mp hvalid
          rw [List.flatMap_cons, h.read hw] at hmore
          obtain ⟨rfl, hrest⟩ := Prod.mk.inj (Option.some.inj hmore)
          obtain ⟨later, rfl, hlater⟩ := ih hall hrest.symm
          exact ⟨later, rfl, hlater⟩

theorem Awaits.eq_nil (h : Awaits encode units rest []) : units = [] ∧ rest = [] := by
  obtain ⟨hstream, hbegun⟩ := h
  rw [List.append_nil] at hstream
  cases units with
  | nil => exact ⟨rfl, hstream⟩
  | cons u units =>
      obtain ⟨hpart, hne⟩ := hbegun u rfl
      have hle := hpart.length_le
      rw [hstream, List.flatMap_cons, List.length_append] at hle
      refine absurd (hpart.eq_of_length_le ?_) hne
      rw [hstream, List.flatMap_cons, List.length_append]
      exact Nat.le_add_right _ _

section Feeding

variable {σ β ε : Type*} {step : σ × List β → List α → Except ε (σ × List β)}
  {kept : σ → List α} {emit : φ → List β} {ok : σ → List α → Prop}

/-- A receiver that reads what it can and keeps the rest gets the units of an encoded stream
in their order, and between two chunks it keeps a part of the next one. -/
theorem Codec.run_feed (h : Codec next encode valid)
    (hstep : ∀ {s given chunk units rest later more}, ok s chunk →
      Reads next (kept s ++ chunk) units rest → Awaits encode later rest more →
        ∃ s', step (s, given) chunk = .ok (s', given ++ units.flatMap emit) ∧ kept s' = rest)
    {chunks : List (List α)} {s : σ} {given : List β} (hvalid : ∀ u ∈ units, valid u)
    (hawaits : Awaits encode units (kept s) (chunks.flatten ++ more))
    (hok : Admitted (guarded step) (fun p chunk => OnOk (fun p => ok p.1 chunk) p)
      (.ok (s, given)) chunks) :
    ∃ s' arrived later,
      run (guarded step) (.ok (s, given)) chunks = .ok (s', given ++ arrived.flatMap emit) ∧
        units = arrived ++ later ∧ Awaits encode later (kept s') more := by
  induction chunks generalizing s given units with
  | nil => exact ⟨s, [], units, by simp, rfl, hawaits⟩
  | cons chunk chunks ih =>
      obtain ⟨hchunk, hchunks⟩ := admitted_cons.mp hok
      obtain ⟨now, rest, hreads⟩ := exists_reads h.shorter (kept s ++ chunk)
      have hstream : (kept s ++ chunk) ++ (chunks.flatten ++ more) = units.flatMap encode := by
        rw [← hawaits.stream, List.flatten_cons]
        simp only [List.append_assoc]
      obtain ⟨later, rfl, hlater⟩ := h.awaits_of_reads hreads hvalid hstream
      obtain ⟨s', hs', rfl⟩ := hstep (hchunk _ rfl) hreads hlater
      rw [guarded_ok, hs'] at hchunks
      obtain ⟨s'', arrived, left, hrun, rfl, hleft⟩ :=
        ih (fun u hu => hvalid u (List.mem_append_right _ hu)) hlater hchunks
      refine ⟨s'', now ++ arrived, left, ?_, (List.append_assoc _ _ _).symm, hleft⟩
      rw [run_cons, guarded_ok, hs', hrun, List.flatMap_append, List.append_assoc]

end Feeding

end Foundation.StreamParser
