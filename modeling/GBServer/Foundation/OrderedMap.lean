import Mathlib.Data.Finset.Card
import Mathlib.Data.List.Perm.Basic

namespace Foundation.OrderedMap

open Std

variable {K V : Type*} {cmp : K → K → Ordering} [TransCmp cmp]

theorem mem_of_getElem?_eq_some {m : ExtTreeMap K V cmp} {k : K} {v : V}
    (h : m[k]? = some v) : k ∈ m := by
  rw [ExtTreeMap.mem_iff_isSome_getElem?, h, Option.isSome_some]

theorem notMem_of_getElem?_eq_none {m : ExtTreeMap K V cmp} {k : K} (h : m[k]? = none) :
    k ∉ m := by
  rw [ExtTreeMap.mem_iff_isSome_getElem?, h]
  simp

theorem mem_iff_exists {m : ExtTreeMap K V cmp} {k : K} :
    k ∈ m ↔ ∃ v, m[k]? = some v := by
  rw [ExtTreeMap.mem_iff_isSome_getElem?, Option.isSome_iff_exists]

theorem mem_insert_iff [LawfulEqCmp cmp] {m : ExtTreeMap K V cmp} {k a : K} {v : V} :
    a ∈ m.insert k v ↔ a = k ∨ a ∈ m := by
  rw [ExtTreeMap.mem_insert, LawfulEqCmp.compare_eq_iff_eq, eq_comm]

theorem mem_erase_iff [LawfulEqCmp cmp] {m : ExtTreeMap K V cmp} {k a : K} :
    a ∈ m.erase k ↔ a ≠ k ∧ a ∈ m := by
  rw [ExtTreeMap.mem_erase, Ne, LawfulEqCmp.compare_eq_iff_eq, eq_comm]

theorem size_le_card {α : Type*} [DecidableEq K] [LawfulEqCmp cmp] {m : ExtTreeMap K V cmp}
    {names : Finset α} {key : α → K} (h : ∀ k ∈ m, ∃ a ∈ names, k = key a) :
    m.size ≤ names.card := by
  have hsubset : m.keys.toFinset ⊆ names.image key := by
    intro k hk
    rw [List.mem_toFinset, ExtTreeMap.mem_keys] at hk
    obtain ⟨a, ha, rfl⟩ := h k hk
    exact Finset.mem_image_of_mem key ha
  calc m.size = m.keys.length := ExtTreeMap.length_keys.symm
    _ = m.keys.toFinset.card := (List.toFinset_card_of_nodup ExtTreeMap.nodup_keys).symm
    _ ≤ (names.image key).card := Finset.card_le_card hsubset
    _ ≤ names.card := Finset.card_image_le

theorem length_le_size [LawfulEqCmp cmp] {m : ExtTreeMap K V cmp} {keys : List K}
    (hnodup : keys.Nodup) (h : ∀ k ∈ keys, k ∈ m) : keys.length ≤ m.size := by
  rw [← ExtTreeMap.length_keys]
  exact (hnodup.subperm fun k hk => ExtTreeMap.mem_keys.mpr (h k hk)).length_le

section Fold

variable [DecidableEq K] [LawfulEqCmp cmp]

/-- Erase every entry in front of the lower bound of `bound`. -/
def eraseBelow (m : ExtTreeMap K V cmp) (bound : K) : ExtTreeMap K V cmp :=
  m.keys.foldl (fun acc key => if cmp key bound = .lt then acc.erase key else acc) m

private theorem getElem?_foldl_erase (bound : K) (keys : List K)
    (m : ExtTreeMap K V cmp) (k : K) :
    (keys.foldl (fun acc key =>
        if cmp key bound = .lt then acc.erase key else acc) m)[k]? =
      if k ∈ keys ∧ cmp k bound = .lt then none else m[k]? := by
  induction keys generalizing m with
  | nil => simp
  | cons key rest ih =>
      rw [List.foldl_cons, ih]
      rcases eq_or_ne key k with rfl | hkey
      · cases cmp key bound <;> simp
      · cases hcmp : cmp key bound <;>
          simp [ExtTreeMap.getElem?_erase, hkey, hkey.symm]

theorem getElem?_eraseBelow (m : ExtTreeMap K V cmp) (bound k : K) :
    (eraseBelow m bound)[k]? = if cmp k bound = .lt then none else m[k]? := by
  rw [eraseBelow, getElem?_foldl_erase]
  cases hget : m[k]? with
  | none => simp
  | some v => simp [ExtTreeMap.mem_keys.mpr (mem_of_getElem?_eq_some hget)]

/-- Give every key of a list that is still free the value `v`. -/
def insertAllIfNew (m : ExtTreeMap K V cmp) (keys : List K) (v : V) :
    ExtTreeMap K V cmp :=
  keys.foldl (fun acc key => acc.insertIfNew key v) m

theorem getElem?_insertAllIfNew (m : ExtTreeMap K V cmp) (keys : List K) (v : V) (k : K) :
    (insertAllIfNew m keys v)[k]? =
      if m[k]? = none ∧ k ∈ keys then some v else m[k]? := by
  induction keys generalizing m with
  | nil => simp [insertAllIfNew]
  | cons key rest ih =>
      change (insertAllIfNew (m.insertIfNew key v) rest v)[k]? = _
      rw [ih, ExtTreeMap.getElem?_insertIfNew]
      rcases eq_or_ne key k with rfl | hkey
      · cases hget : m[key]? with
        | none => simp [ExtTreeMap.mem_iff_isSome_getElem?, hget]
        | some w => simp [ExtTreeMap.mem_iff_isSome_getElem?, hget]
      · simp [hkey, hkey.symm]

end Fold

section Eviction

variable (victim : ExtTreeMap K V cmp → Option K) (limit : Nat)

/-- Erase the chosen victim while more than `limit` entries are left, at most
`fuel` times. -/
def evictLoop : Nat → ExtTreeMap K V cmp → ExtTreeMap K V cmp
  | 0, m => m
  | fuel + 1, m =>
      if limit < m.size then
        match victim m with
        | none => m
        | some key => evictLoop fuel (m.erase key)
      else m

def evict (m : ExtTreeMap K V cmp) : ExtTreeMap K V cmp :=
  evictLoop victim limit m.size m

theorem getElem?_of_evictLoop [LawfulEqCmp cmp] [DecidableEq K] {fuel : Nat}
    {m : ExtTreeMap K V cmp} {k : K} {v : V}
    (h : (evictLoop victim limit fuel m)[k]? = some v) : m[k]? = some v := by
  induction fuel generalizing m with
  | zero => exact h
  | succ fuel ih =>
      rw [evictLoop] at h
      split at h
      · split at h
        · exact h
        · have herase := ih h
          rw [ExtTreeMap.getElem?_erase] at herase
          split at herase
          · cases herase
          · exact herase
      · exact h

theorem getElem?_of_evict [LawfulEqCmp cmp] [DecidableEq K] {m : ExtTreeMap K V cmp}
    {k : K} {v : V} (h : (evict victim limit m)[k]? = some v) : m[k]? = some v :=
  getElem?_of_evictLoop victim limit h

theorem evict_eq_self {m : ExtTreeMap K V cmp} (h : m.size ≤ limit) :
    evict victim limit m = m := by
  rw [evict]
  cases hsize : m.size with
  | zero => rfl
  | succ n =>
      rw [evictLoop, if_neg]
      omega

/-- The loop leaves `limit` entries of what is more, when every nonempty map has a victim. -/
theorem size_evict
    (hvictim : ∀ m : ExtTreeMap K V cmp, m ≠ ∅ → ∃ key ∈ m, victim m = some key)
    (m : ExtTreeMap K V cmp) : (evict victim limit m).size = min limit m.size := by
  have hloop : ∀ fuel (m : ExtTreeMap K V cmp), m.size ≤ fuel →
      (evictLoop victim limit fuel m).size = min limit m.size := by
    intro fuel
    induction fuel with
    | zero =>
        intro m hfuel
        rw [evictLoop]
        omega
    | succ fuel ih =>
        intro m hfuel
        rw [evictLoop]
        split
        · rename_i hlimit
          have hne : m ≠ ∅ := by
            rintro rfl
            simp at hlimit
          obtain ⟨key, hmem, hkey⟩ := hvictim m hne
          have hsize : (m.erase key).size = m.size - 1 := by
            rw [ExtTreeMap.size_erase, if_pos (ExtTreeMap.mem_iff_contains.mp hmem)]
          rw [hkey]
          dsimp only
          rw [ih _ (by omega), hsize]
          omega
        · omega
  exact hloop m.size m (Nat.le_refl _)

theorem size_evict_le
    (hvictim : ∀ m : ExtTreeMap K V cmp, m ≠ ∅ → ∃ key ∈ m, victim m = some key)
    (m : ExtTreeMap K V cmp) : (evict victim limit m).size ≤ limit := by
  rw [size_evict victim limit hvictim]
  exact Nat.min_le_left _ _

end Eviction

section Ordered

variable {victim : ExtTreeMap K V cmp → Option K} {limit : Nat} {before : K × V → K × V → Prop}

/-- The victim is an entry that comes before all others. -/
def TakesFirst (victim : ExtTreeMap K V cmp → Option K) (before : K × V → K × V → Prop) : Prop :=
  ∀ (m : ExtTreeMap K V cmp), m ≠ ∅ → ∃ k v, victim m = some k ∧ m[k]? = some v ∧
    ∀ (k' : K) (v' : V), m[k']? = some v' → k' ≠ k → before (k, v) (k', v')

theorem TakesFirst.exists (h : TakesFirst victim before) (m : ExtTreeMap K V cmp) (hne : m ≠ ∅) :
    ∃ key ∈ m, victim m = some key := by
  obtain ⟨k, v, hvictim, hget, _⟩ := h m hne
  exact ⟨k, mem_of_getElem?_eq_some hget, hvictim⟩

theorem nodup_toList (m : ExtTreeMap K V cmp) : m.toList.Nodup := by
  apply List.Nodup.of_map Prod.fst
  rw [ExtTreeMap.map_fst_toList_eq_keys]
  exact ExtTreeMap.nodup_keys

def countBefore (before : K × V → K × V → Prop) [DecidableRel before] (m : ExtTreeMap K V cmp)
    (it : K × V) : Nat :=
  m.toList.countP fun other => before other it

variable [DecidableEq K] [LawfulEqCmp cmp]

theorem before_of_evict (h : TakesFirst victim before) {m : ExtTreeMap K V cmp} {k k' : K}
    {v v' : V} (hk : m[k]? = some v) (hevicted : k ∉ evict victim limit m)
    (hkept : (evict victim limit m)[k']? = some v') : before (k, v) (k', v') := by
  have hloop : ∀ fuel (m : ExtTreeMap K V cmp), m[k]? = some v →
      k ∉ evictLoop victim limit fuel m → (evictLoop victim limit fuel m)[k']? = some v' →
        before (k, v) (k', v') := by
    intro fuel
    induction fuel with
    | zero =>
        intro m hk hevicted _
        exact absurd (mem_of_getElem?_eq_some hk) hevicted
    | succ fuel ih =>
        intro m hk hevicted hkept
        rw [evictLoop] at hevicted hkept
        split at hevicted
        · rename_i hlimit
          rw [if_pos hlimit] at hkept
          have hne : m ≠ ∅ := by
            rintro rfl
            simp at hlimit
          obtain ⟨first, w, hvictim, hfirst, hleast⟩ := h m hne
          rw [hvictim] at hevicted hkept
          rcases eq_or_ne k first with rfl | hother
          · -- the victim itself: the kept entry is another one
            obtain rfl := Option.some.inj (hfirst.symm.trans hk)
            have hrest := getElem?_of_evictLoop _ _ hkept
            rw [ExtTreeMap.getElem?_erase] at hrest
            split at hrest
            · cases hrest
            · rename_i hne'
              apply hleast k' v' hrest
              rintro rfl
              exact hne' (by simp)
          · refine ih (m.erase first) ?_ hevicted hkept
            rw [ExtTreeMap.getElem?_erase, if_neg, hk]
            simpa using hother.symm
        · exact absurd (mem_of_getElem?_eq_some hk) hevicted
  exact hloop m.size m hk hevicted hkept

variable (victim limit) in
theorem toList_evict_perm (m : ExtTreeMap K V cmp) :
    (m.toList.filter fun it => it.1 ∈ evict victim limit m).Perm (evict victim limit m).toList := by
  rw [List.perm_ext_iff_of_nodup ((nodup_toList m).filter _) (nodup_toList _)]
  intro it
  rw [List.mem_filter, ExtTreeMap.mem_toList_iff_getElem?_eq_some,
    ExtTreeMap.mem_toList_iff_getElem?_eq_some, decide_eq_true_eq]
  constructor
  · rintro ⟨hit, hkept⟩
    obtain ⟨v, hv⟩ := mem_iff_exists.mp hkept
    rw [hv, ← hit, getElem?_of_evict _ _ hv]
  · intro hit
    exact ⟨getElem?_of_evict _ _ hit, mem_of_getElem?_eq_some hit⟩

/-- The keys that are evicted are those that come first, as many as there are too many. -/
theorem mem_evict_iff [DecidableRel before] (h : TakesFirst victim before)
    (hasymm : ∀ a b, before a b → ¬ before b a) {m : ExtTreeMap K V cmp} {k : K} {v : V}
    (hk : m[k]? = some v) :
    k ∈ evict victim limit m ↔ m.size - limit ≤ countBefore before m (k, v) := by
  have hevicted : (m.toList.countP fun it => it.1 ∉ evict victim limit m) = m.size - limit := by
    have hkept := (toList_evict_perm victim limit m).length_eq
    rw [← List.countP_eq_length_filter, ExtTreeMap.length_toList,
      size_evict victim limit h.exists] at hkept
    have hall := List.length_eq_countP_add_countP
      (fun it : K × V => decide (it.1 ∈ evict victim limit m)) (l := m.toList)
    rw [hkept, ExtTreeMap.length_toList] at hall
    simp only [decide_eq_true_eq] at hall
    omega
  rw [← hevicted]
  constructor
  · intro hkept
    obtain ⟨w, hw⟩ := mem_iff_exists.mp hkept
    obtain rfl : w = v := Option.some.inj ((getElem?_of_evict _ _ hw).symm.trans hk)
    apply List.countP_mono_left
    intro it hit hgone
    rw [decide_eq_true_eq] at hgone ⊢
    exact before_of_evict h (ExtTreeMap.mem_toList_iff_getElem?_eq_some.mp hit) hgone hw
  · intro hle
    by_contra hgone
    -- all that comes before an evicted entry is evicted, and so is the entry itself
    have hsplit := List.countP_eq_countP_filter_add m.toList
      (fun it => decide (it.1 ∉ evict victim limit m)) (fun it => decide (before it (k, v)))
    have hbefore : countBefore before m (k, v) ≤ List.countP
        (fun it => decide (it.1 ∉ evict victim limit m))
        (m.toList.filter fun it => decide (before it (k, v))) := by
      rw [countBefore, List.countP_eq_length_filter, List.countP_filter,
        ← List.countP_eq_length_filter]
      apply List.countP_mono_left
      intro it hit hit'
      rw [decide_eq_true_eq] at hit'
      simp only [hit', decide_true, Bool.and_true, decide_eq_true_eq]
      intro hkept
      obtain ⟨w, hw⟩ := mem_iff_exists.mp hkept
      have hitem := ExtTreeMap.mem_toList_iff_getElem?_eq_some.mp hit
      obtain rfl : w = it.2 := Option.some.inj ((getElem?_of_evict _ _ hw).symm.trans hitem)
      exact hasymm _ _ hit' (before_of_evict h hk hgone hw)
    have hself : 0 < List.countP (fun it => decide (it.1 ∉ evict victim limit m))
        (m.toList.filter fun it => !decide (before it (k, v))) := by
      refine List.countP_pos_iff.mpr ⟨(k, v), List.mem_filter.mpr ⟨?_, ?_⟩, ?_⟩
      · exact ExtTreeMap.mem_toList_iff_getElem?_eq_some.mpr hk
      · simp only [Bool.not_eq_true', decide_eq_false_iff_not]
        exact fun hbefore => hasymm _ _ hbefore hbefore
      · rw [decide_eq_true_eq]
        exact hgone
    omega

end Ordered

section Inverse

variable {cmp' : V → V → Ordering} [TransCmp cmp']

/-- Two maps that say the same, one in each direction. -/
def Inverse (m : ExtTreeMap K V cmp) (m' : ExtTreeMap V K cmp') : Prop :=
  ∀ (k : K) (v : V), m[k]? = some v ↔ m'[v]? = some k

theorem Inverse.empty : Inverse (∅ : ExtTreeMap K V cmp) (∅ : ExtTreeMap V K cmp') := by
  intro k v
  simp

variable [LawfulEqCmp cmp] [LawfulEqCmp cmp'] {m : ExtTreeMap K V cmp} {m' : ExtTreeMap V K cmp'}

theorem Inverse.insert (h : Inverse m m') {k : K} {v : V} (hk : k ∉ m) (hv : v ∉ m') :
    Inverse (m.insert k v) (m'.insert v k) := by
  intro a b
  rw [ExtTreeMap.getElem?_insert, ExtTreeMap.getElem?_insert]
  by_cases ha : k = a
  · subst ha
    by_cases hb : v = b
    · simp [hb]
    · have hnone : m'[b]? ≠ some k := fun hsome =>
        hk (mem_of_getElem?_eq_some ((h k b).mpr hsome))
      simp [hb, hnone]
  · by_cases hb : v = b
    · subst hb
      have hnone : m[a]? ≠ some v := fun hsome =>
        hv (mem_of_getElem?_eq_some ((h a v).mp hsome))
      simp [ha, hnone]
    · simp [ha, hb, h a b]

theorem Inverse.erase (h : Inverse m m') {k : K} {v : V} (hkv : m[k]? = some v) :
    Inverse (m.erase k) (m'.erase v) := by
  have hvk := (h k v).mp hkv
  intro a b
  rw [ExtTreeMap.getElem?_erase, ExtTreeMap.getElem?_erase]
  by_cases ha : k = a
  · subst ha
    by_cases hb : v = b
    · simp [hb]
    · have hnone : m'[b]? ≠ some k := by
        intro hsome
        rw [← h, hkv] at hsome
        exact hb (Option.some.inj hsome)
      simp [hb, hnone]
  · by_cases hb : v = b
    · subst hb
      have hnone : m[a]? ≠ some v := by
        intro hsome
        rw [h, hvk] at hsome
        exact ha (Option.some.inj hsome)
      simp [ha, hnone]
    · simp [ha, hb, h a b]

end Inverse

end Foundation.OrderedMap
