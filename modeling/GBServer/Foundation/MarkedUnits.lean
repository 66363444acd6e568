import Mathlib.Data.List.Chain
import Mathlib.Data.List.DropRight

namespace Foundation.MarkedUnits

variable {α κ : Type*}

def whole (unit : List α × α) : List α := unit.1 ++ [unit.2]

structure MarkedUnit (marked : α → Bool) (unit : List α × α) : Prop where
  front : ∀ a ∈ unit.1, marked a = false
  last : marked unit.2 = true

/-- The units that a stream closes, when `opened` is still waiting for its mark. -/
def units (marked : α → Bool) : List α → List α → List (List α × α)
  | _, [] => []
  | opened, a :: rest =>
      if marked a then (opened, a) :: units marked [] rest
      else units marked (opened ++ [a]) rest

def closed (marked : α → Bool) (stream : List α) : List α :=
  stream.rdropWhile fun a => !marked a

variable {marked : α → Bool}

theorem unmarked_concat {opened : List α} {a : α} (hopened : ∀ b ∈ opened, marked b = false)
    (ha : ¬ marked a = true) : ∀ b ∈ opened ++ [a], marked b = false := by
  intro b hb
  rcases List.mem_append.mp hb with hb | hb
  · exact hopened b hb
  · rw [List.mem_singleton.mp hb]
    exact Bool.eq_false_iff.mpr ha

theorem markedUnit_of_mem_units {opened stream : List α}
    (hopened : ∀ a ∈ opened, marked a = false) {unit : List α × α}
    (h : unit ∈ units marked opened stream) : MarkedUnit marked unit := by
  induction stream generalizing opened with
  | nil => exact absurd h List.not_mem_nil
  | cons a rest ih =>
      rw [units] at h
      split at h
      · rename_i hmarked
        rcases List.mem_cons.mp h with rfl | h
        · exact ⟨hopened, hmarked⟩
        · exact ih (fun _ h => absurd h List.not_mem_nil) h
      · rename_i hmarked
        exact ih (unmarked_concat hopened hmarked) h

theorem mem_units_of_mem (opened : List α) {stream : List α} {a : α} (ha : a ∈ stream)
    (hmarked : marked a = true) : ∃ unit ∈ units marked opened stream, unit.2 = a := by
  induction stream generalizing opened with
  | nil => exact absurd ha List.not_mem_nil
  | cons b rest ih =>
      rw [units]
      rcases List.mem_cons.mp ha with rfl | ha
      · rw [if_pos hmarked]
        exact ⟨_, List.mem_cons_self, rfl⟩
      · split
        · obtain ⟨unit, hunit, hlast⟩ := ih [] ha
          exact ⟨unit, List.mem_cons_of_mem _ hunit, hlast⟩
        · exact ih _ ha

theorem last_mem_of_mem_units {opened stream : List α} {unit : List α × α}
    (h : unit ∈ units marked opened stream) : unit.2 ∈ stream := by
  induction stream generalizing opened with
  | nil => exact absurd h List.not_mem_nil
  | cons a rest ih =>
      rw [units] at h
      split at h
      · rcases List.mem_cons.mp h with rfl | h
        · exact List.mem_cons_self
        · exact List.mem_cons_of_mem _ (ih h)
      · exact List.mem_cons_of_mem _ (ih h)

theorem exists_waiting (opened stream : List α) (hopened : ∀ a ∈ opened, marked a = false) :
    ∃ waiting, (∀ a ∈ waiting, marked a = false) ∧
      opened ++ stream = (units marked opened stream).flatMap whole ++ waiting := by
  induction stream generalizing opened with
  | nil => exact ⟨opened, hopened, by simp [units]⟩
  | cons a rest ih =>
      rw [units]
      split
      · obtain ⟨waiting, hwaiting, heq⟩ := ih [] (fun _ h => absurd h List.not_mem_nil)
        refine ⟨waiting, hwaiting, ?_⟩
        rw [List.flatMap_cons, List.append_assoc, ← heq]
        simp [whole]
      · rename_i hmarked
        obtain ⟨waiting, hwaiting, heq⟩ := ih (opened ++ [a]) (unmarked_concat hopened hmarked)
        refine ⟨waiting, hwaiting, ?_⟩
        rw [← heq, List.append_assoc, List.singleton_append]

theorem closed_append_waiting {front waiting : List α}
    (hwaiting : ∀ a ∈ waiting, marked a = false) :
    closed marked (front ++ waiting) = closed marked front := by
  induction waiting using List.reverseRecOn with
  | nil => rw [List.append_nil]
  | append_singleton waiting a ih =>
      have ha : marked a = false := hwaiting a (by simp)
      rw [← ih fun b hb => hwaiting b (List.mem_append_left _ hb), ← List.append_assoc]
      exact List.rdropWhile_concat_pos _ _ _ (by simp [ha])

theorem closed_flatMap_whole {us : List (List α × α)} (h : ∀ u ∈ us, MarkedUnit marked u) :
    closed marked (us.flatMap whole) = us.flatMap whole := by
  induction us using List.reverseRecOn with
  | nil => rfl
  | append_singleton us u _ =>
      have hlast : marked u.2 = true := (h u (by simp)).last
      rw [List.flatMap_append, List.flatMap_singleton, whole, ← List.append_assoc]
      exact List.rdropWhile_concat_neg _ _ _ (by simp [hlast])

theorem flatMap_units (stream : List α) :
    (units marked [] stream).flatMap whole = closed marked stream := by
  have hnil : ∀ a ∈ ([] : List α), marked a = false := fun _ h => absurd h List.not_mem_nil
  obtain ⟨waiting, hwaiting, heq⟩ := exists_waiting [] stream hnil
  rw [List.nil_append] at heq
  conv_rhs => rw [heq]
  rw [closed_append_waiting hwaiting,
    closed_flatMap_whole fun _ h => markedUnit_of_mem_units hnil h]

theorem units_append_of_unmarked {opened front rest : List α}
    (hfront : ∀ a ∈ front, marked a = false) :
    units marked opened (front ++ rest) = units marked (opened ++ front) rest := by
  induction front generalizing opened with
  | nil => rw [List.nil_append, List.append_nil]
  | cons a front ih =>
      have ha : marked a = false := hfront a List.mem_cons_self
      rw [List.cons_append, units, ha, if_neg Bool.false_ne_true,
        ih fun b hb => hfront b (List.mem_cons_of_mem _ hb), List.append_assoc,
        List.singleton_append]

theorem units_flatMap_whole {us : List (List α × α)} (h : ∀ u ∈ us, MarkedUnit marked u) :
    units marked [] (us.flatMap whole) = us := by
  induction us with
  | nil => rfl
  | cons u us ih =>
      have hu : MarkedUnit marked u := h u List.mem_cons_self
      rw [List.flatMap_cons, whole, List.append_assoc, units_append_of_unmarked hu.front,
        List.nil_append, List.singleton_append, units, if_pos hu.last,
        ih fun v hv => h v (List.mem_cons_of_mem _ hv)]

theorem eq_of_flatMap_whole_eq {us vs : List (List α × α)} (hus : ∀ u ∈ us, MarkedUnit marked u)
    (hvs : ∀ v ∈ vs, MarkedUnit marked v) (h : us.flatMap whole = vs.flatMap whole) : us = vs := by
  rw [← units_flatMap_whole hus, h, units_flatMap_whole hvs]

section Keys

variable (key : α → κ)

/-- An element that closes nothing is followed by one of its own key. -/
def SameKey (marked : α → Bool) (a b : α) : Prop := marked a = true ∨ key a = key b

/-- The elements of a unit have the key of the element that closes it. -/
def Uniform (unit : List α × α) : Prop := ∀ a ∈ unit.1, key a = key unit.2

theorem isChain_whole_iff {unit : List α × α} (h : MarkedUnit marked unit) :
    (whole unit).IsChain (SameKey key marked) ↔ Uniform key unit := by
  obtain ⟨front, last⟩ := unit
  obtain ⟨hfront, -⟩ := h
  induction front with
  | nil => simp [whole, Uniform]
  | cons a front ih =>
      have ha : marked a = false := hfront a List.mem_cons_self
      have ih := ih fun b hb => hfront b (List.mem_cons_of_mem _ hb)
      simp only [whole, Uniform, List.cons_append, List.forall_mem_cons] at ih ⊢
      cases front with
      | nil => simp [SameKey, ha]
      | cons b front =>
          rw [List.cons_append, List.isChain_cons_cons, ← List.cons_append, ih]
          constructor
          · rintro ⟨hab, htail⟩
            have hab : key a = key b := hab.resolve_left (by simp [ha])
            exact ⟨hab.trans (htail b List.mem_cons_self), htail⟩
          · rintro ⟨hlast, htail⟩
            exact ⟨Or.inr (hlast.trans (htail b List.mem_cons_self).symm), htail⟩

theorem isChain_flatMap_whole_iff {us : List (List α × α)} (h : ∀ u ∈ us, MarkedUnit marked u) :
    (us.flatMap whole).IsChain (SameKey key marked) ↔ ∀ u ∈ us, Uniform key u := by
  induction us with
  | nil => simp
  | cons u us ih =>
      have hu : MarkedUnit marked u := h u List.mem_cons_self
      have hlink : ∀ a ∈ (whole u).getLast?, ∀ b ∈ (us.flatMap whole).head?,
          SameKey key marked a b := by
        intro a ha b _
        rw [whole, List.getLast?_concat] at ha
        exact Or.inl (Option.some.inj ha ▸ hu.last)
      rw [List.flatMap_cons, List.isChain_append, isChain_whole_iff key hu,
        ih fun v hv => h v (List.mem_cons_of_mem _ hv), List.forall_mem_cons]
      exact ⟨fun h => ⟨h.1, h.2.1⟩, fun h => ⟨h.1, h.2, hlink⟩⟩

variable [DecidableEq κ]

/-- Where the units are uniform, the elements of one key are the units of that key. -/
theorem filter_flatMap_whole {us : List (List α × α)} (h : ∀ u ∈ us, Uniform key u) (k : κ) :
    (us.flatMap whole).filter (fun a => key a = k) =
      (us.filter fun u => key u.2 = k).flatMap whole := by
  induction us with
  | nil => rfl
  | cons u us ih =>
      have hu : Uniform key u := h u List.mem_cons_self
      rw [List.flatMap_cons, List.filter_append, ih fun v hv => h v (List.mem_cons_of_mem _ hv),
        List.filter_cons]
      split
      · rename_i hkey
        have hkey : key u.2 = k := of_decide_eq_true hkey
        rw [List.flatMap_cons, List.filter_eq_self.mpr]
        intro a ha
        rcases List.mem_append.mp ha with ha | ha
        · exact decide_eq_true ((hu a ha).trans hkey)
        · exact decide_eq_true ((congrArg key (List.mem_singleton.mp ha)).trans hkey)
      · rename_i hkey
        have hkey : key u.2 ≠ k := fun h => hkey (decide_eq_true h)
        rw [List.filter_eq_nil_iff.mpr, List.nil_append]
        intro a ha
        rw [decide_eq_true_iff]
        rcases List.mem_append.mp ha with ha | ha
        · rwa [hu a ha]
        · rwa [List.mem_singleton.mp ha]

/-- The units of one key are all the same exactly when the elements of that key are
copies of it, one after the other. -/
theorem forall_unit_eq_iff {us : List (List α × α)} (hus : ∀ u ∈ us, MarkedUnit marked u)
    (huniform : ∀ u ∈ us, Uniform key u) {k : κ} {unit : List α × α}
    (hunit : MarkedUnit marked unit) :
    (∀ u ∈ us, key u.2 = k → u = unit) ↔
      ∃ n, (us.flatMap whole).filter (fun a => key a = k) =
        (List.replicate n (whole unit)).flatten := by
  have hcopies : ∀ n, (List.replicate n (whole unit)).flatten =
      (List.replicate n unit).flatMap whole := by
    intro n
    rw [List.flatMap_def, List.map_replicate]
  rw [filter_flatMap_whole key huniform]
  constructor
  · intro h
    refine ⟨(us.filter fun u => key u.2 = k).length, ?_⟩
    have hsame : us.filter (fun u => key u.2 = k) =
        List.replicate (us.filter fun u => key u.2 = k).length unit := by
      refine List.eq_replicate_iff.mpr ⟨rfl, fun u hu => ?_⟩
      obtain ⟨hmem, hkey⟩ := List.mem_filter.mp hu
      exact h u hmem (of_decide_eq_true hkey)
    rw [hcopies, ← hsame]
  · rintro ⟨n, hn⟩ u hu hkey
    rw [hcopies] at hn
    have hkept : ∀ v ∈ us.filter fun u => key u.2 = k, MarkedUnit marked v :=
      fun v hv => hus v (List.mem_of_mem_filter hv)
    have hcopied : ∀ v ∈ List.replicate n unit, MarkedUnit marked v :=
      fun v hv => List.eq_of_mem_replicate hv ▸ hunit
    have hsame := eq_of_flatMap_whole_eq hkept hcopied hn
    have hmem : u ∈ us.filter fun u => key u.2 = k :=
      List.mem_filter.mpr ⟨hu, decide_eq_true hkey⟩
    rw [hsame] at hmem
    exact List.eq_of_mem_replicate hmem

end Keys

end Foundation.MarkedUnits
