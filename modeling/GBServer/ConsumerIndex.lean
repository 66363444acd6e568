import GBServer.Foundation.OrderedMap
import GBServer.SessionStatistics

namespace GBServer.ConsumerIndex

open Std (ExtTreeMap)
open Foundation.CStrings
open Foundation.OrderedMap
open Foundation.Runs
open GBServer.SessionStatistics

inductive Input where
  | registerConsumer (consumerId : CString) (statistics : ResourceId)
  | unregisterConsumer (consumerId : CString)
  deriving DecidableEq, Repr

section

variable (objects : StatisticsObjects)

def sessionNameOf (i : ResourceId) : CString := (objects.consumers i).sessionName

def step (m : StatisticsManager) : Input → StatisticsManager
  | .registerConsumer consumerId statistics =>
      m.registerConsumer consumerId (sessionNameOf objects statistics) statistics
  | .unregisterConsumer consumerId => m.unregisterConsumer consumerId

/-- A registered consumer is listed once, under its own session, and only registered
consumers are listed. -/
structure Indexed (m : StatisticsManager) : Prop where
  own : ∀ id i, m.consumerStats[id]? = some i →
    (sessionConsumers m (sessionNameOf objects i)).count id = 1
  other : ∀ id i sessionName, m.consumerStats[id]? = some i →
    sessionName ≠ sessionNameOf objects i → id ∉ sessionConsumers m sessionName
  registered : ∀ sessionName id, id ∈ sessionConsumers m sessionName → id ∈ m.consumerStats

/-- The registered consumers of a session, each of them once. -/
def liveConsumers (m : StatisticsManager) (sessionName : CString) : List ConsumerStatistics :=
  (m.consumerStats.toList.filter fun entry =>
    sessionNameOf objects entry.2 = sessionName).map fun entry => objects.consumers entry.2

/-- What is reported of a session counts each of its registered consumers once. -/
structure Counted (m : StatisticsManager) (stats : SessionStats) : Prop where
  consumerCount : stats.summary.consumerCount = stats.consumers.length
  consumers : stats.consumers.Perm (liveConsumers objects m stats.sessionName)
  totalBytesSent : stats.summary.totalBytesSent =
    ((liveConsumers objects m stats.sessionName).map bytesSent).sum
  totalPacketsSent : stats.summary.totalPacketsSent =
    ((liveConsumers objects m stats.sessionName).map packetsSent).sum
  totalFramesSent : stats.summary.totalFramesSent =
    ((liveConsumers objects m stats.sessionName).map framesSent).sum

/-- The index is consistent, and so is what is reported of every session. -/
def Consistent (m : StatisticsManager) : Prop :=
  Indexed objects m ∧ ∀ (sessionName : CString) (nowMs : Int),
    Counted objects m (getSessionStatsJson m objects sessionName nowMs)

/-- An id is registered only while it is free, and the list of its session has not more
entries than an `int` can count. -/
def Fresh (m : StatisticsManager) : Input → Prop
  | .registerConsumer consumerId statistics =>
      consumerId ∉ m.consumerStats ∧
        (sessionConsumers m (sessionNameOf objects statistics)).length + 1 < 2 ^ 31
  | .unregisterConsumer _ => True

def due (m : StatisticsManager) (sessionName id : CString) : Nat :=
  match m.consumerStats[id]? with
  | some i => if sessionNameOf objects i = sessionName then 1 else 0
  | none => 0

variable {objects}

theorem indexed_iff {m : StatisticsManager} :
    Indexed objects m ↔
      ∀ sessionName id,
        (sessionConsumers m sessionName).count id = due objects m sessionName id := by
  constructor
  · intro h sessionName id
    unfold due
    split
    · rename_i i hi
      split
      · rename_i hname
        rw [← hname]
        exact h.own id i hi
      · rename_i hname
        exact List.count_eq_zero.mpr (h.other id i sessionName hi (Ne.symm hname))
    · rename_i hnone
      exact List.count_eq_zero.mpr fun hmem =>
        notMem_of_getElem?_eq_none hnone (h.registered sessionName id hmem)
  · intro h
    refine ⟨fun id i hi => ?_, fun id i sessionName hi hne => ?_, fun sessionName id hmem => ?_⟩
    · rw [h, due, hi]
      exact if_pos rfl
    · rw [← List.count_eq_zero, h, due, hi]
      exact if_neg (Ne.symm hne)
    · rw [← List.count_pos_iff, h, due] at hmem
      split at hmem
      · rename_i i hi
        exact mem_of_getElem?_eq_some hi
      · exact absurd hmem (Nat.lt_irrefl 0)

theorem indexed_empty : Indexed objects {} := by
  rw [indexed_iff]
  intro sessionName id
  simp [sessionConsumers, due]

theorem sessionConsumers_registerConsumer (m : StatisticsManager) (id name : CString)
    (i : ResourceId) (sessionName : CString) :
    sessionConsumers (m.registerConsumer id name i) sessionName =
      if name = sessionName then sessionConsumers m sessionName ++ [id]
      else sessionConsumers m sessionName := by
  simp only [sessionConsumers, StatisticsManager.registerConsumer, ExtTreeMap.getElem?_insert,
    Std.LawfulEqCmp.compare_eq_iff_eq]
  split
  · rename_i hname
    subst hname
    rfl
  · rfl

theorem sessionConsumers_unregisterConsumer (m : StatisticsManager) (id sessionName : CString) :
    sessionConsumers (m.unregisterConsumer id) sessionName =
      (sessionConsumers m sessionName).filter (· ≠ id) := by
  simp only [sessionConsumers, StatisticsManager.unregisterConsumer, ExtTreeMap.getElem?_map]
  cases m.sessionConsumers[sessionName]? <;> rfl

theorem getElem?_registerConsumer (m : StatisticsManager) (id name id' : CString)
    (i : ResourceId) : (m.registerConsumer id name i).consumerStats[id']? =
      if id = id' then some i else m.consumerStats[id']? := by
  simp only [StatisticsManager.registerConsumer, ExtTreeMap.getElem?_insert,
    Std.LawfulEqCmp.compare_eq_iff_eq]

theorem getElem?_unregisterConsumer (m : StatisticsManager) (id id' : CString) :
    (m.unregisterConsumer id).consumerStats[id']? =
      if id = id' then none else m.consumerStats[id']? := by
  simp only [StatisticsManager.unregisterConsumer, ExtTreeMap.getElem?_erase,
    Std.LawfulEqCmp.compare_eq_iff_eq]

theorem Indexed.register {m : StatisticsManager} (h : Indexed objects m) {id : CString}
    {i : ResourceId} (hfresh : id ∉ m.consumerStats) :
    Indexed objects (m.registerConsumer id (sessionNameOf objects i) i) := by
  rw [indexed_iff] at h ⊢
  intro sessionName id'
  rw [sessionConsumers_registerConsumer, due, getElem?_registerConsumer]
  by_cases hid : id = id'
  · subst hid
    have hnone : m.consumerStats[id]? = none := ExtTreeMap.getElem?_eq_none hfresh
    have hcount : (sessionConsumers m sessionName).count id = 0 := by rw [h, due, hnone]
    simp only [if_true]
    split
    · rw [List.count_append, hcount, List.count_singleton_self]
    · exact hcount
  · rw [if_neg hid]
    have hold := h sessionName id'
    rw [due] at hold
    split
    · rw [List.count_append, List.count_singleton, hold]
      simp [hid]
    · exact hold

/-- An id that is registered again is listed twice, or under a session that is no longer its
own. -/
theorem not_indexed_register {m : StatisticsManager} (h : Indexed objects m) {id : CString}
    {i : ResourceId} (htaken : id ∈ m.consumerStats) :
    ¬ Indexed objects (m.registerConsumer id (sessionNameOf objects i) i) := by
  intro hafter
  obtain ⟨j, hj⟩ := mem_iff_exists.mp htaken
  have hentry : (m.registerConsumer id (sessionNameOf objects i) i).consumerStats[id]? =
      some i := by
    rw [getElem?_registerConsumer, if_pos rfl]
  by_cases hname : sessionNameOf objects j = sessionNameOf objects i
  · have htwice := hafter.own id i hentry
    rw [sessionConsumers_registerConsumer, if_pos rfl, List.count_append,
      List.count_singleton_self, ← hname, h.own id j hj] at htwice
    omega
  · have hstale := hafter.other id i _ hentry hname
    rw [sessionConsumers_registerConsumer, if_neg (Ne.symm hname)] at hstale
    exact hstale (List.count_pos_iff.mp (by rw [h.own id j hj]; exact Nat.one_pos))

theorem Indexed.unregister {m : StatisticsManager} (h : Indexed objects m) (id : CString) :
    Indexed objects (m.unregisterConsumer id) := by
  rw [indexed_iff] at h ⊢
  intro sessionName id'
  rw [sessionConsumers_unregisterConsumer, due, getElem?_unregisterConsumer]
  by_cases hid : id = id'
  · subst hid
    rw [if_pos rfl, List.count_eq_zero]
    simp
  · have hold := h sessionName id'
    rw [due] at hold
    rw [if_neg hid, ← hold]
    exact List.count_filter (by simpa using Ne.symm hid)

section Counting

variable {m : StatisticsManager} (h : Indexed objects m)
include h

theorem Indexed.perm_ids (sessionName : CString) :
    (sessionConsumers m sessionName).Perm
      ((m.consumerStats.toList.filter fun entry =>
        sessionNameOf objects entry.2 = sessionName).map Prod.fst) := by
  have hnodup : (sessionConsumers m sessionName).Nodup := by
    rw [List.nodup_iff_count_le_one]
    intro id
    rw [indexed_iff.mp h, due]
    split
    · split <;> omega
    · omega
  have hkeys : ((m.consumerStats.toList.filter fun entry =>
      sessionNameOf objects entry.2 = sessionName).map Prod.fst).Nodup := by
    refine List.Nodup.sublist (List.filter_sublist.map Prod.fst) ?_
    rw [ExtTreeMap.map_fst_toList_eq_keys]
    exact ExtTreeMap.nodup_keys
  rw [List.perm_ext_iff_of_nodup hnodup hkeys]
  intro id
  rw [← List.count_pos_iff, indexed_iff.mp h, due]
  simp only [List.mem_map, List.mem_filter, ExtTreeMap.mem_toList_iff_getElem?_eq_some,
    decide_eq_true_eq, Prod.exists, exists_and_right, exists_eq_right]
  cases m.consumerStats[id]? with
  | none => simp
  | some i =>
      by_cases hname : sessionNameOf objects i = sessionName <;> simp [hname]

theorem Indexed.length_getSessionConsumers (sessionName : CString) :
    (getSessionConsumers m objects sessionName).length =
      (sessionConsumers m sessionName).length := by
  rw [getSessionConsumers, List.length_map, List.length_filterMap_eq_countP, List.countP_eq_length]
  intro id hid
  rw [← ExtTreeMap.mem_iff_isSome_getElem?]
  exact h.registered sessionName id hid

theorem Indexed.perm_getSessionConsumers (sessionName : CString) :
    (getSessionConsumers m objects sessionName).Perm (liveConsumers objects m sessionName) := by
  set entries := m.consumerStats.toList.filter fun entry =>
    sessionNameOf objects entry.2 = sessionName with hentries
  have hfound : entries.filterMap ((m.consumerStats[·]?) ∘ Prod.fst) = entries.map Prod.snd := by
    rw [← List.filterMap_eq_map]
    refine List.filterMap_congr fun entry hentry => ?_
    exact ExtTreeMap.mem_toList_iff_getElem?_eq_some.mp (List.mem_of_mem_filter hentry)
  have hperm := ((h.perm_ids sessionName).filterMap (m.consumerStats[·]?)).map objects.consumers
  rw [List.filterMap_map, hfound, List.map_map] at hperm
  exact hperm

/-- Everything reported counts each registered consumer once, as long as the size of the
list fits an `int`. -/
theorem Indexed.counted_iff (sessionName : CString) (nowMs : Int) :
    Counted objects m (getSessionStatsJson m objects sessionName nowMs) ↔
      (sessionConsumers m sessionName).length < 2 ^ 31 := by
  have hperm := h.perm_getSessionConsumers sessionName
  constructor
  · intro hcounted
    have hcount : (Int32.ofNat (sessionConsumers m sessionName).length).toInt =
        ((getSessionConsumers m objects sessionName).length : Int) := hcounted.consumerCount
    have hbound := Int32.toInt_lt (Int32.ofNat (sessionConsumers m sessionName).length)
    rw [hcount, h.length_getSessionConsumers] at hbound
    exact_mod_cast hbound
  · intro hfits
    refine ⟨?_, hperm, ?_, ?_, ?_⟩
    · change (Int32.ofNat (sessionConsumers m sessionName).length).toInt =
        ((getSessionConsumers m objects sessionName).length : Int)
      rw [h.length_getSessionConsumers, Int32.toInt_ofNat_of_lt hfits]
    · exact (hperm.map bytesSent).sum_eq
    · exact (hperm.map packetsSent).sum_eq
    · exact (hperm.map framesSent).sum_eq

end Counting

theorem consistent_iff {m : StatisticsManager} :
    Consistent objects m ↔ Indexed objects m ∧
      ∀ sessionName, (sessionConsumers m sessionName).length < 2 ^ 31 := by
  constructor
  · rintro ⟨hindexed, hcounted⟩
    exact ⟨hindexed, fun sessionName => (hindexed.counted_iff sessionName 0).mp
      (hcounted sessionName 0)⟩
  · rintro ⟨hindexed, hfits⟩
    exact ⟨hindexed, fun sessionName nowMs => (hindexed.counted_iff sessionName nowMs).mpr
      (hfits sessionName)⟩

theorem consistent_step {m : StatisticsManager} (h : Consistent objects m) (input : Input) :
    Consistent objects (step objects m input) ↔ Fresh objects m input := by
  rw [consistent_iff] at h ⊢
  obtain ⟨hindexed, hfits⟩ := h
  cases input with
  | registerConsumer id i =>
      constructor
      · rintro ⟨hafter, hlengths⟩
        refine ⟨fun htaken => not_indexed_register hindexed htaken hafter, ?_⟩
        have hlength := hlengths (sessionNameOf objects i)
        rw [step, sessionConsumers_registerConsumer, if_pos rfl, List.length_append] at hlength
        exact hlength
      · rintro ⟨hfresh, hlength⟩
        refine ⟨hindexed.register hfresh, fun sessionName => ?_⟩
        rw [step, sessionConsumers_registerConsumer]
        split
        · rename_i hname
          subst hname
          rw [List.length_append]
          exact hlength
        · exact hfits sessionName
  | unregisterConsumer id =>
      refine iff_of_true ⟨hindexed.unregister id, fun sessionName => ?_⟩ trivial
      rw [step, sessionConsumers_unregisterConsumer]
      exact Nat.lt_of_le_of_lt (List.length_filter_le _ _) (hfits sessionName)

/-- A run keeps the index and the reports consistent exactly when it registers free ids. -/
theorem throughout_index_consistent_iff (objects : StatisticsObjects) (inputs : List Input) :
    Throughout (step objects) (Consistent objects) {} inputs ↔
      Admitted (step objects) (Fresh objects) {} inputs :=
  throughout_iff_admitted_of_step
    (consistent_iff.mpr ⟨indexed_empty, fun sessionName => by simp [sessionConsumers]⟩)
    fun _ input h => consistent_step h input

def sameId : CString := ascii "live/a_consumer_10000000"

/-- Two consumers of one session that draw the same SSRC. -/
def sameSsrc : List Input := [.registerConsumer sameId 0, .registerConsumer sameId 1]

theorem not_consistent_sameSsrc :
    ¬ ∀ (objects : StatisticsObjects) (inputs : List Input),
      Throughout (step objects) (Consistent objects) {} inputs := by
  intro hall
  have hrun := hall ⟨fun _ => {}, fun _ => .construct (ascii "live/a") 0⟩ sameSsrc
  have hfirst := hrun [.registerConsumer sameId 0] _ rfl
  have hsecond := hrun sameSsrc [] (List.append_nil _).symm
  have hfresh := ((consistent_step hfirst (.registerConsumer sameId 1)).mp
    hsecond).1
  simp [step, StatisticsManager.registerConsumer] at hfresh

end

end GBServer.ConsumerIndex
