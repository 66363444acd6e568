import GBServer.NackGenerator

namespace GBServer.NackTrimming

open Std (ExtTreeMap)
open Foundation.OrderedMap
open Foundation.Runs
open Foundation.SerialNumber
open GBServer.NackGenerator

/-- Which stream position each number of the table denotes. -/
abbrev Positions := BitVec 16 → Int

/-- The arrival is ahead of everything received so far. -/
def Advances (g : NackGenerator) (seq : BitVec 16) : Prop :=
  g.initialized = true ∧ g.lastSeqUnwrap < g.unwrap seq

instance (g : NackGenerator) (seq : BitVec 16) : Decidable (Advances g seq) :=
  inferInstanceAs (Decidable (_ ∧ _))

def withGap (g : NackGenerator) (seq : BitVec 16) (nowMs : Int) : NackList :=
  insertAllIfNew g.nackList ((openRange g.lastSeqUnwrap (g.unwrap seq)).map (serial 16))
    { firstMissedAtMs := nowMs }

/-- A number that a gap adds to the table denotes its index in the gap; one that is there
already keeps its position, as it keeps its entry. -/
def notePositions (g : NackGenerator) (positions : Positions) : Input → Positions
  | .packet seq _ => fun key =>
      if Advances g seq ∧ key ∉ g.nackList then
        ((openRange g.lastSeqUnwrap (g.unwrap seq)).find? fun j => serial 16 j = key).getD
          (positions key)
      else positions key
  | _ => positions

abbrev positioning : NackGenerator × Positions → Input → NackGenerator × Positions :=
  observe NackGenerator.step notePositions

abbrev start : NackGenerator × Positions := ({}, fun _ => 0)

/-- The arrival leaves at most `kMaxPendingSeq` numbers, and all that it evicts are older
than all that stay. -/
def KeepsNewest (s : NackGenerator × Positions) : Input → Prop
  | .packet seq nowMs =>
      (s.1.onReceivedPacket seq nowMs).pendingSize ≤ kMaxPendingSeq ∧
        (Advances s.1 seq →
          ∀ evicted ∈ withGap s.1 seq nowMs, evicted ∉ trimBySize (withGap s.1 seq nowMs) →
            ∀ kept ∈ trimBySize (withGap s.1 seq nowMs),
              (positioning s (.packet seq nowMs)).2 evicted <
                (positioning s (.packet seq nowMs)).2 kept)
  | _ => True

/-- The order in which `TrimBySize` picks the entries. -/
def MissedBefore (a b : BitVec 16 × NackEntry) : Prop :=
  a.2.firstMissedAtMs < b.2.firstMissedAtMs ∨
    (a.2.firstMissedAtMs = b.2.firstMissedAtMs ∧ a.1 < b.1)

instance : DecidableRel MissedBefore := fun _ _ => inferInstanceAs (Decidable (_ ∨ _))

def excess (g : NackGenerator) (seq : BitVec 16) (nowMs : Int) : Nat :=
  (withGap g seq nowMs).size - kMaxPendingSeq

/-- How often the numbers have wrapped around before a position. -/
def cycle (position : Int) : Int := position / 65536

/-- The eviction does not stop among numbers missed at one time where those that go first
lie behind a wrap and some of the others in front of it. -/
def EndsInOneCycle (s : NackGenerator × Positions) : Input → Prop
  | .packet seq nowMs =>
      Advances s.1 seq → ∀ a ∈ (withGap s.1 seq nowMs).toList,
        ∀ b ∈ (withGap s.1 seq nowMs).toList,
          a.2.firstMissedAtMs = b.2.firstMissedAtMs →
            countBefore MissedBefore (withGap s.1 seq nowMs) a < excess s.1 seq nowMs →
              excess s.1 seq nowMs ≤ countBefore MissedBefore (withGap s.1 seq nowMs) b →
                cycle ((positioning s (.packet seq nowMs)).2 a.1) ≤
                  cycle ((positioning s (.packet seq nowMs)).2 b.1)
  | _ => True

section Oldest

theorem MissedBefore.trans {a b c : BitVec 16 × NackEntry} (hab : MissedBefore a b)
    (hbc : MissedBefore b c) : MissedBefore a c := by
  rcases hab with hab | ⟨hab, hkeys⟩
  · rcases hbc with hbc | ⟨hbc, _⟩
    · exact Or.inl (hab.trans hbc)
    · exact Or.inl (hbc ▸ hab)
  · rcases hbc with hbc | ⟨hbc, hkeys'⟩
    · exact Or.inl (hab ▸ hbc)
    · exact Or.inr ⟨hab.trans hbc, BitVec.lt_trans hkeys hkeys'⟩

theorem MissedBefore.asymm (a b : BitVec 16 × NackEntry) (hab : MissedBefore a b) :
    ¬ MissedBefore b a := by
  intro hba
  rcases hab with hab | ⟨hab, hkeys⟩ <;> rcases hba with hba | ⟨hba, hkeys'⟩
  · omega
  · omega
  · omega
  · exact absurd (BitVec.lt_trans hkeys hkeys') (BitVec.lt_irrefl _)

/-- The scan over a list in key order ends at the entry that comes before all others. -/
theorem scan_missedBefore (rest : List (BitVec 16 × NackEntry)) (first : BitVec 16 × NackEntry)
    (hsorted : (first :: rest).Pairwise fun a b => a.1 < b.1) :
    ∀ it ∈ first :: rest,
      it = rest.foldl (fun oldest it =>
        if it.2.firstMissedAtMs < oldest.2.firstMissedAtMs then it else oldest) first ∨
      MissedBefore (rest.foldl (fun oldest it =>
        if it.2.firstMissedAtMs < oldest.2.firstMissedAtMs then it else oldest) first) it := by
  induction rest generalizing first with
  | nil =>
      intro it hit
      exact Or.inl (List.mem_singleton.mp hit)
  | cons next rest ih =>
      obtain ⟨hfirst, hrest⟩ := List.pairwise_cons.mp hsorted
      obtain ⟨hnext, htail⟩ := List.pairwise_cons.mp hrest
      intro it hit
      rw [List.foldl_cons]
      split
      · rename_i hlt
        have hscan := ih next hrest
        rcases List.mem_cons.mp hit with rfl | hmem
        · -- the entry passed over was missed later than the one taken instead
          have hover : MissedBefore next it := Or.inl hlt
          rcases hscan next List.mem_cons_self with heq | hbefore
          · rw [← heq]
            exact Or.inr hover
          · exact Or.inr (hbefore.trans hover)
        · exact hscan it hmem
      · rename_i hle
        have hskip : (first :: rest).Pairwise fun a b => a.1 < b.1 :=
          List.pairwise_cons.mpr
            ⟨fun other hother => hfirst other (List.mem_cons_of_mem _ hother), htail⟩
        have hscan := ih first hskip
        rcases List.mem_cons.mp hit with rfl | hmem
        · exact hscan it List.mem_cons_self
        · rcases List.mem_cons.mp hmem with rfl | hlater
          · have hover : MissedBefore first it := by
              rcases lt_or_eq_of_le (not_lt.mp hle) with hlt | heq
              · exact Or.inl hlt
              · exact Or.inr ⟨heq, hfirst it List.mem_cons_self⟩
            rcases hscan first List.mem_cons_self with heq | hbefore
            · rw [← heq]
              exact Or.inr hover
            · exact Or.inr (hbefore.trans hover)
          · exact hscan it (List.mem_cons_of_mem _ hlater)

theorem takesFirst_oldest? : TakesFirst oldest? MissedBefore := by
  intro nackList hne
  cases hlist : nackList.toList with
  | nil => exact absurd (ExtTreeMap.toList_eq_nil_iff.mp hlist) hne
  | cons first rest =>
      have hsorted : (first :: rest).Pairwise fun a b => a.1 < b.1 := by
        rw [← hlist]
        apply (ExtTreeMap.ordered_keys_toList (t := nackList)).imp
        intro a b hlt
        exact compareOfLessAndEq_eq_lt.mp hlt
      obtain ⟨⟨key, e⟩, hscan⟩ : ∃ it, rest.foldl (fun oldest it =>
        if it.2.firstMissedAtMs < oldest.2.firstMissedAtMs then it else oldest) first = it :=
        ⟨_, rfl⟩
      have hmem := scan_mem rest first
      have hleast := scan_missedBefore rest first hsorted
      rw [hscan] at hmem hleast
      rw [← hlist] at hmem hleast
      have holdest : oldest? nackList = some key := by
        rw [oldest?, hlist]
        exact congrArg (fun it => some it.1) hscan
      refine ⟨key, e, holdest, ExtTreeMap.mem_toList_iff_getElem?_eq_some.mp hmem, ?_⟩
      intro key' e' hget hne'
      rcases hleast (key', e') (ExtTreeMap.mem_toList_iff_getElem?_eq_some.mpr hget) with
        heq | hbefore
      · exact absurd (congrArg Prod.fst heq) hne'
      · exact hbefore

end Oldest

section Gap

variable {g : NackGenerator} {positions : Positions} {seq : BitVec 16} {nowMs : Int}

theorem nackList_of_advances (h : Advances g seq) :
    (g.onReceivedPacket seq nowMs).nackList = trimBySize (withGap g seq nowMs) := by
  obtain ⟨hinit, hlt⟩ := h
  have hne : g.unwrap seq ≠ g.lastSeqUnwrap := by omega
  simp [onReceivedPacket, hinit, hne, hlt, addMissingRange, withGap]

theorem lastSeqUnwrap_of_advances (h : Advances g seq) :
    (g.onReceivedPacket seq nowMs).lastSeqUnwrap = g.unwrap seq := by
  obtain ⟨hinit, hlt⟩ := h
  have hne : g.unwrap seq ≠ g.lastSeqUnwrap := by omega
  simp [onReceivedPacket, hinit, hne, hlt]

theorem notePositions_packet (key : BitVec 16) :
    notePositions g positions (.packet seq nowMs) key =
      if Advances g seq ∧ key ∉ g.nackList then
        ((openRange g.lastSeqUnwrap (g.unwrap seq)).find? fun j => serial 16 j = key).getD
          (positions key)
      else positions key := rfl

variable (positions) in
/-- An entry of the table with the gap is an old one in its old place, or one of the gap. -/
theorem withGap_cases (h : Advances g seq) {key : BitVec 16} {e : NackEntry}
    (he : (withGap g seq nowMs)[key]? = some e) :
    (g.nackList[key]? = some e ∧
      notePositions g positions (.packet seq nowMs) key = positions key) ∨
    (e = { firstMissedAtMs := nowMs } ∧
      serial 16 (notePositions g positions (.packet seq nowMs) key) = key ∧
      g.lastSeqUnwrap < notePositions g positions (.packet seq nowMs) key ∧
      notePositions g positions (.packet seq nowMs) key < g.unwrap seq) := by
  rw [withGap, getElem?_insertAllIfNew] at he
  split at he
  · rename_i hfree
    right
    obtain ⟨j, hj, hkey⟩ := List.mem_map.mp hfree.2
    have hsome : ((openRange g.lastSeqUnwrap (g.unwrap seq)).find? fun j =>
        decide (serial 16 j = key)).isSome := by
      rw [List.find?_isSome]
      exact ⟨j, hj, decide_eq_true hkey⟩
    obtain ⟨index, hindex⟩ := Option.isSome_iff_exists.mp hsome
    have hnote : notePositions g positions (.packet seq nowMs) key = index := by
      rw [notePositions_packet, if_pos ⟨h, notMem_of_getElem?_eq_none hfree.1⟩, hindex]
      rfl
    have hserial : serial 16 index = key := by
      simpa using List.find?_some hindex
    obtain ⟨hlow, hhigh⟩ := mem_openRange.mp (List.mem_of_find?_eq_some hindex)
    rw [hnote]
    exact ⟨(Option.some.inj he).symm, hserial, hlow, hhigh⟩
  · left
    refine ⟨he, ?_⟩
    rw [notePositions_packet, if_neg]
    rintro ⟨_, hfree⟩
    exact hfree (mem_of_getElem?_eq_some he)

theorem mem_withGap (nowMs : Int) {j : Int} (hlow : g.lastSeqUnwrap < j)
    (hhigh : j < g.unwrap seq) : serial 16 j ∈ withGap g seq nowMs := by
  have hkey : serial 16 j ∈ (openRange g.lastSeqUnwrap (g.unwrap seq)).map (serial 16) :=
    List.mem_map_of_mem (mem_openRange.mpr ⟨hlow, hhigh⟩)
  rw [mem_iff_exists, withGap]
  cases hget : g.nackList[serial 16 j]? with
  | none => exact ⟨_, by rw [getElem?_insertAllIfNew, if_pos ⟨hget, hkey⟩]⟩
  | some e => exact ⟨e, by rw [getElem?_insertAllIfNew, if_neg (by simp [hget]), hget]⟩

variable (seq) in
theorem le_size_withGap (nowMs : Int) (hinit : g.initialized = true) :
    (g.unwrap seq - g.lastSeqUnwrap - 1).toNat ≤ (withGap g seq nowMs).size := by
  have hshort := unwrap_lt hinit seq
  have hnodup : ((openRange g.lastSeqUnwrap (g.unwrap seq)).map (serial 16)).Nodup := by
    refine List.Nodup.map_on ?_ ?_
    · intro i hi j hj heq
      rw [mem_openRange] at hi hj
      exact serial_inj_of_lt (by omega) (by omega) heq
    · rw [openRange]
      refine List.Nodup.map ?_ List.nodup_range
      intro m n heq
      dsimp only at heq
      omega
  have hsize := length_le_size (m := withGap g seq nowMs) hnodup ?_
  · simpa [openRange] using hsize
  · intro key hkey
    obtain ⟨j, hj, rfl⟩ := List.mem_map.mp hkey
    obtain ⟨hlow, hhigh⟩ := mem_openRange.mp hj
    exact mem_withGap nowMs hlow hhigh

end Gap

/-- The positions are those the numbers were missed at, behind what has been received, and
a number missed earlier is further back. -/
structure Located (nackList : NackList) (positions : Positions) (lastSeqUnwrap : Int) :
    Prop where
  ends : ∀ key ∈ nackList, serial 16 (positions key) = key
  below : ∀ key ∈ nackList, positions key < lastSeqUnwrap
  ordered : ∀ (key key' : BitVec 16) (e e' : NackEntry), nackList[key]? = some e →
    nackList[key']? = some e' → e.firstMissedAtMs < e'.firstMissedAtMs →
      positions key < positions key'

section Positions

variable {g : NackGenerator} {positions : Positions} {seq : BitVec 16} {nowMs : Int}
  {nackList nackList' : NackList} {lastSeqUnwrap : Int}

theorem located_empty : Located ∅ positions lastSeqUnwrap :=
  ⟨by simp, by simp, by simp⟩

theorem Located.of_sub (h : Located nackList positions lastSeqUnwrap)
    (hsub : ∀ (key : BitVec 16) (e : NackEntry), nackList'[key]? = some e →
      ∃ old, nackList[key]? = some old ∧ old.firstMissedAtMs = e.firstMissedAtMs) :
    Located nackList' positions lastSeqUnwrap := by
  have hmem : ∀ key ∈ nackList', key ∈ nackList := by
    intro key hkey
    obtain ⟨e, he⟩ := mem_iff_exists.mp hkey
    obtain ⟨old, hold, _⟩ := hsub key e he
    exact mem_of_getElem?_eq_some hold
  refine ⟨fun key hkey => h.ends key (hmem key hkey), fun key hkey => h.below key (hmem key hkey),
    ?_⟩
  intro key key' e e' he he' hlt
  obtain ⟨old, hold, htime⟩ := hsub key e he
  obtain ⟨old', hold', htime'⟩ := hsub key' e' he'
  exact h.ordered key key' old old' hold hold' (by omega)

theorem Located.withGap (h : Located g.nackList positions g.lastSeqUnwrap)
    (hadvances : Advances g seq)
    (hlatest : ∀ (key : BitVec 16) (e : NackEntry), g.nackList[key]? = some e →
      e.firstMissedAtMs ≤ nowMs) :
    Located (withGap g seq nowMs) (notePositions g positions (.packet seq nowMs))
      (g.unwrap seq) := by
  have hahead := hadvances.2
  refine ⟨?_, ?_, ?_⟩
  · intro key hkey
    obtain ⟨e, he⟩ := mem_iff_exists.mp hkey
    rcases withGap_cases positions hadvances he with ⟨hold, hsame⟩ |
      ⟨_, hends, _, _⟩
    · rw [hsame]
      exact h.ends key (mem_of_getElem?_eq_some hold)
    · exact hends
  · intro key hkey
    obtain ⟨e, he⟩ := mem_iff_exists.mp hkey
    rcases withGap_cases positions hadvances he with ⟨hold, hsame⟩ |
      ⟨_, _, _, hbelow⟩
    · rw [hsame]
      exact (h.below key (mem_of_getElem?_eq_some hold)).trans hahead
    · exact hbelow
  · intro key key' e e' he he' hlt
    rcases withGap_cases positions hadvances he with ⟨hold, hsame⟩ |
      ⟨rfl, _, hlow, _⟩ <;>
    rcases withGap_cases positions hadvances he' with ⟨hold', hsame'⟩ |
      ⟨rfl, _, hlow', _⟩
    · rw [hsame, hsame']
      exact h.ordered key key' e e' hold hold' hlt
    · rw [hsame]
      exact (h.below key (mem_of_getElem?_eq_some hold)).trans hlow'
    · have hle := hlatest key' e' hold'
      exact absurd hlt (not_lt.mpr hle)
    · exact absurd hlt (lt_irrefl _)

theorem Located.onReceivedPacket (h : Located g.nackList positions g.lastSeqUnwrap)
    (hlatest : ∀ (key : BitVec 16) (e : NackEntry), g.nackList[key]? = some e →
      e.firstMissedAtMs ≤ nowMs) (hfresh : g.initialized = false → g.nackList = ∅) :
    Located (g.onReceivedPacket seq nowMs).nackList
      (notePositions g positions (.packet seq nowMs))
      (g.onReceivedPacket seq nowMs).lastSeqUnwrap := by
  by_cases hadvances : Advances g seq
  · rw [nackList_of_advances hadvances, lastSeqUnwrap_of_advances hadvances]
    apply (h.withGap hadvances hlatest).of_sub
    intro key e he
    exact ⟨e, getElem?_of_evict _ _ he, rfl⟩
  · have hsame : notePositions g positions (.packet seq nowMs) = positions := by
      funext key
      rw [notePositions_packet, if_neg fun hboth => hadvances hboth.1]
    rw [hsame]
    rcases onReceivedPacket_cases g seq nowMs with ⟨hinit, heq⟩ | ⟨_, _, heq⟩ |
      ⟨hinit, hlt, _⟩ | ⟨_, _, heq⟩ | ⟨_, _, _, heq⟩
    · rw [heq]
      dsimp only
      rw [hfresh hinit]
      exact located_empty
    · rw [heq]
      exact h
    · exact absurd ⟨hinit, hlt⟩ hadvances
    · rw [heq]
      exact located_empty
    · rw [heq]
      apply h.of_sub
      intro key e he
      rw [ExtTreeMap.getElem?_erase] at he
      split at he
      · cases he
      · exact ⟨e, he, rfl⟩

theorem getElem?_of_getNackBatch {key : BitVec 16} {e : NackEntry}
    (h : (g.getNackBatch nowMs).1.nackList[key]? = some e) :
    ∃ old, g.nackList[key]? = some old ∧ old.firstMissedAtMs = e.firstMissedAtMs := by
  rw [getNackBatch_getElem?] at h
  split at h
  · exact ⟨e, h, rfl⟩
  · obtain ⟨old, hold, hvisit⟩ := Option.bind_eq_some_iff.mp h
    exact ⟨old, hold, (firstMissedAtMs_of_afterVisit hvisit).symm⟩

end Positions

theorem firstMissedAtMs_mem_times (inputs : List Input) (key : BitVec 16) (e : NackEntry)
    (h : (run NackGenerator.step {} inputs).nackList[key]? = some e) :
    e.firstMissedAtMs ∈ inputs.filterMap Input.time? := by
  induction inputs using List.reverseRecOn generalizing e with
  | nil => simp at h
  | append_singleton inputs input ih =>
      rw [run_concat] at h
      rw [List.filterMap_append]
      cases input with
      | packet seq nowMs =>
          rcases getElem?_of_onReceivedPacket h with hold | ⟨_, rfl, _⟩
          · exact List.mem_append_left _ (ih e hold)
          · exact List.mem_append_right _ List.mem_cons_self
      | batch nowMs =>
          obtain ⟨old, hold, htime⟩ := getElem?_of_getNackBatch h
          rw [← htime]
          exact List.mem_append_left _ (ih old hold)
      | rtt rttMs => exact List.mem_append_left _ (ih e h)
      | reset => simp [NackGenerator.step, reset] at h

theorem firstMissedAtMs_le {inputs : List Input} {seq : BitVec 16} {nowMs : Int}
    (hsorted : Nondecreasing (inputs ++ [.packet seq nowMs])) (key : BitVec 16) (e : NackEntry)
    (h : (run NackGenerator.step {} inputs).nackList[key]? = some e) :
    e.firstMissedAtMs ≤ nowMs := by
  obtain ⟨_, _, hlater⟩ := nondecreasing_append.mp hsorted
  exact hlater _ (firstMissedAtMs_mem_times inputs key e h) nowMs (List.mem_singleton.mpr rfl)

theorem located_run (inputs : List Input) (hsorted : Nondecreasing inputs) :
    Located (run positioning start inputs).1.nackList (run positioning start inputs).2
      (run positioning start inputs).1.lastSeqUnwrap := by
  induction inputs using List.reverseRecOn with
  | nil => exact located_empty
  | append_singleton inputs input ih =>
      have hlocated := ih (nondecreasing_append.mp hsorted).1
      rw [run_concat]
      cases input with
      | packet seq nowMs =>
          refine hlocated.onReceivedPacket ?_ ?_
          · rw [run_observe_fst]
            exact firstMissedAtMs_le hsorted
          · rw [run_observe_fst]
            exact fun hinit => ((wellFormed_run wellFormed_initial inputs).fresh hinit).1
      | batch nowMs =>
          change Located (getNackBatch _ nowMs).1.nackList _ (getNackBatch _ nowMs).1.lastSeqUnwrap
          rw [getNackBatch_lastSeqUnwrap]
          exact hlocated.of_sub fun key e he => getElem?_of_getNackBatch he
      | rtt rttMs => exact hlocated
      | reset => exact located_empty

/-- Positions in one cycle are in the order of the numbers. -/
theorem position_lt_iff {i j : Int} {key key' : BitVec 16} (hi : serial 16 i = key)
    (hj : serial 16 j = key') (hkeys : key < key') : i < j ↔ cycle i ≤ cycle j := by
  have hlow : (key.toNat : Int) = i % 65536 := by
    rw [← hi, BitVec.toNat_ofInt]
    exact Int.toNat_of_nonneg (Int.emod_nonneg i (by decide))
  have hhigh : (key'.toNat : Int) = j % 65536 := by
    rw [← hj, BitVec.toNat_ofInt]
    exact Int.toNat_of_nonneg (Int.emod_nonneg j (by decide))
  have hlt : key.toNat < key'.toNat := hkeys
  rw [cycle, cycle]
  omega

theorem keepsNewest_iff_endsInOneCycle {s : NackGenerator × Positions} (hwell : WellFormed s.1)
    (hlocated : Located s.1.nackList s.2 s.1.lastSeqUnwrap) {seq : BitVec 16} {nowMs : Int}
    (hlatest : ∀ (key : BitVec 16) (e : NackEntry), s.1.nackList[key]? = some e →
      e.firstMissedAtMs ≤ nowMs) :
    KeepsNewest s (.packet seq nowMs) ↔ EndsInOneCycle s (.packet seq nowMs) := by
  have hbounded := (wellFormed_onReceivedPacket hwell seq nowMs).bounded
  rw [KeepsNewest, and_iff_right hbounded, EndsInOneCycle]
  refine imp_congr_right fun hadvances => ?_
  have hgap := hlocated.withGap hadvances hlatest
  constructor
  · intro h a ha b hb _ hevicted hkept
    have hget := ExtTreeMap.mem_toList_iff_getElem?_eq_some.mp ha
    have hget' := ExtTreeMap.mem_toList_iff_getElem?_eq_some.mp hb
    have hgone : a.1 ∉ trimBySize (withGap s.1 seq nowMs) := by
      rw [trimBySize, mem_evict_iff takesFirst_oldest? MissedBefore.asymm hget, not_le]
      exact hevicted
    have hstays : b.1 ∈ trimBySize (withGap s.1 seq nowMs) := by
      rw [trimBySize, mem_evict_iff takesFirst_oldest? MissedBefore.asymm hget']
      exact hkept
    have hlt := h a.1 (mem_of_getElem?_eq_some hget) hgone b.1 hstays
    exact Int.ediv_le_ediv (by decide) hlt.le
  · intro h evicted hmem hgone kept hstays
    obtain ⟨e, hget⟩ := mem_iff_exists.mp hmem
    obtain ⟨e', hkept⟩ := mem_iff_exists.mp hstays
    have hget' : (withGap s.1 seq nowMs)[kept]? = some e' := getElem?_of_evict _ _ hkept
    rcases before_of_evict takesFirst_oldest? hget hgone hkept with hearlier | ⟨hsame, hkeys⟩
    · exact hgap.ordered evicted kept e e' hget hget' hearlier
    · have hends := hgap.ends evicted hmem
      have hends' := hgap.ends kept (mem_of_getElem?_eq_some hget')
      apply (position_lt_iff hends hends' hkeys).mpr
      refine h (evicted, e) (ExtTreeMap.mem_toList_iff_getElem?_eq_some.mpr hget) (kept, e')
        (ExtTreeMap.mem_toList_iff_getElem?_eq_some.mpr hget') hsame ?_ ?_
      · rw [trimBySize, mem_evict_iff takesFirst_oldest? MissedBefore.asymm hget, not_le] at hgone
        exact hgone
      · rw [trimBySize, mem_evict_iff takesFirst_oldest? MissedBefore.asymm hget'] at hstays
        exact hstays

/-- Trimming keeps the newest positions in exactly the runs where it never stops among
numbers missed at one time on both sides of a wrap. -/
theorem keepsNewest_iff (inputs : List Input) (hsorted : Nondecreasing inputs) :
    Admitted positioning KeepsNewest start inputs ↔
      Admitted positioning EndsInOneCycle start inputs := by
  have hstep : ∀ front input back, inputs = front ++ input :: back →
      (KeepsNewest (run positioning start front) input ↔
        EndsInOneCycle (run positioning start front) input) := by
    rintro front input back rfl
    rw [List.append_cons, nondecreasing_append] at hsorted
    have hnow : Nondecreasing (front ++ [input]) := hsorted.1
    have hbefore : Nondecreasing front := (nondecreasing_append.mp hnow).1
    cases input with
    | packet seq nowMs =>
        refine keepsNewest_iff_endsInOneCycle ?_ (located_run front hbefore) ?_
        · rw [run_observe_fst]
          exact wellFormed_run wellFormed_initial front
        · rw [run_observe_fst]
          exact firstMissedAtMs_le hnow
    | batch nowMs => exact Iff.rfl
    | rtt rttMs => exact Iff.rfl
    | reset => exact Iff.rfl
  constructor
  · intro h front input back heq
    exact (hstep front input back heq).mp (h front input back heq)
  · intro h front input back heq
    exact (hstep front input back heq).mpr (h front input back heq)

/-- After 1 comes 1500, and 498 of the numbers in between are evicted. -/
theorem keepsNewest_long_gap :
    498 ≤ excess (positioning start (.packet 1 1)).1 1500 2 ∧
      Admitted positioning KeepsNewest start [.packet 1 1, .packet 1500 2] := by
  have hadvances : Advances (positioning start (.packet 1 1)).1 1500 := by decide
  have hlow : (positioning start (.packet 1 1)).1.lastSeqUnwrap = 1 := by decide
  have hhigh : (positioning start (.packet 1 1)).1.unwrap 1500 = 1500 := by decide
  have hempty : (positioning start (.packet 1 1)).1.nackList = ∅ := rfl
  constructor
  · have hsize := le_size_withGap 1500 2 hadvances.1
    rw [hlow, hhigh] at hsize
    rw [excess, kMaxPendingSeq]
    omega
  apply (keepsNewest_iff [.packet 1 1, .packet 1500 2] (by decide)).mpr
  rw [admitted_cons, admitted_cons]
  refine ⟨fun hnone => absurd hnone (by decide), ?_, admitted_nil⟩
  generalize positioning start (.packet 1 1) = s at hadvances hlow hhigh hempty
  have hcycle : ∀ entry ∈ (withGap s.1 1500 2).toList,
      cycle ((positioning s (.packet 1500 2)).2 entry.1) = 0 := by
    intro entry hentry
    rcases withGap_cases s.2 hadvances (ExtTreeMap.mem_toList_iff_getElem?_eq_some.mp hentry) with
      ⟨hold, _⟩ | ⟨_, _, hfirst, hlast⟩
    · rw [hempty] at hold
      cases hold
    · rw [hlow] at hfirst
      rw [hhigh] at hlast
      exact Int.ediv_eq_zero_of_lt (Int.le_of_lt (Int.lt_trans Int.one_pos hfirst))
        (Int.lt_trans hlast (by decide))
  intro _ a ha b hb _ _ _
  rw [hcycle a ha, hcycle b hb]

section OneTime

variable {nackList : NackList} {timeMs : Int}

theorem zero_notMem_trimBySize
    (htimes : ∀ (key : BitVec 16) (e : NackEntry), nackList[key]? = some e →
      e.firstMissedAtMs = timeMs)
    (hzero : 0 ∈ nackList) (hsize : kMaxPendingSeq < nackList.size) :
    0 ∉ trimBySize nackList := by
  obtain ⟨newest, hnewest⟩ := mem_iff_exists.mp hzero
  have hfirst : countBefore MissedBefore nackList (0, newest) = 0 := by
    rw [countBefore, List.countP_eq_zero]
    rintro ⟨key, e⟩ hit hbefore
    have htime := htimes key e (ExtTreeMap.mem_toList_iff_getElem?_eq_some.mp hit)
    have htime' := htimes 0 newest hnewest
    rcases of_decide_eq_true hbefore with hlt | ⟨_, hlt⟩
    · dsimp only at hlt
      omega
    · exact absurd hlt BitVec.not_lt_zero
  rw [trimBySize, mem_evict_iff takesFirst_oldest? MissedBefore.asymm hnewest, hfirst]
  omega

theorem allOnes_mem_trimBySize
    (htimes : ∀ (key : BitVec 16) (e : NackEntry), nackList[key]? = some e →
      e.firstMissedAtMs = timeMs)
    (htop : BitVec.allOnes 16 ∈ nackList) : BitVec.allOnes 16 ∈ trimBySize nackList := by
  obtain ⟨oldest, holdest⟩ := mem_iff_exists.mp htop
  by_contra hevicted
  have hempty : trimBySize nackList = ∅ := by
    rw [ExtTreeMap.eq_empty_iff_forall_not_mem]
    intro key hkey
    obtain ⟨e, he⟩ := mem_iff_exists.mp hkey
    have htime := htimes key e (getElem?_of_evict _ _ he)
    have htime' := htimes _ oldest holdest
    rcases before_of_evict takesFirst_oldest? holdest hevicted he with hlt | ⟨_, hlt⟩
    · dsimp only at hlt
      omega
    · exact absurd hlt BitVec.not_allOnes_lt
  have hleft := size_evict oldest? kMaxPendingSeq takesFirst_oldest?.exists nackList
  rw [← trimBySize, hempty, ExtTreeMap.size_empty, kMaxPendingSeq] at hleft
  have hnone : nackList = ∅ := ExtTreeMap.eq_empty_iff_size_eq_zero.mpr (by omega)
  rw [hnone] at htop
  exact ExtTreeMap.not_mem_empty htop

end OneTime

/-- After 65000 comes 1000: of the 1535 numbers in between, the 535 evicted are the newest. -/
theorem not_keepsNewest_at_wrap :
    ¬ ∀ inputs, Nondecreasing inputs → Admitted positioning KeepsNewest start inputs := by
  intro h
  have hlast := h [.packet 65000 1, .packet 1000 2] (by decide) [.packet 65000 1]
    (.packet 1000 2) [] rfl
  generalize hs : run positioning start [.packet 65000 1] = s at hlast
  have hadvances : Advances s.1 1000 := by
    rw [← hs]
    decide
  have hsize := le_size_withGap 1000 2 hadvances.1
  have htimes : ∀ (key : BitVec 16) (e : NackEntry), (withGap s.1 1000 2)[key]? = some e →
      e.firstMissedAtMs = 2 := by
    intro key e he
    rcases withGap_cases s.2 hadvances he with ⟨hold, _⟩ | ⟨rfl, _⟩
    · rw [← hs] at hold
      cases hold
    · rfl
  have hnewest : 0 ∈ withGap s.1 1000 2 := by
    rw [← hs]
    exact mem_withGap 2 (j := 65536) (by decide) (by decide)
  have holdest : BitVec.allOnes 16 ∈ withGap s.1 1000 2 := by
    rw [← hs]
    exact mem_withGap 2 (j := 65535) (by decide) (by decide)
  have hmany : kMaxPendingSeq < (withGap s.1 1000 2).size := by
    refine Nat.lt_of_lt_of_le ?_ hsize
    rw [← hs]
    decide
  have hlt := hlast.2 hadvances 0 hnewest (zero_notMem_trimBySize htimes hnewest hmany)
    (BitVec.allOnes 16) (allOnes_mem_trimBySize htimes holdest)
  rw [← hs] at hlt
  exact absurd hlt (by decide +kernel)

end GBServer.NackTrimming
