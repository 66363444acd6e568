import GBServer.NackGenerator
import Mathlib.Data.List.Chain

namespace GBServer.NackRetries

open Std (ExtTreeMap)
open Foundation.OrderedMap
open Foundation.Runs
open GBServer.NackGenerator

/-- A call of `GetNackBatch`: its time, `rtt_ms_` at that time and what it returns. -/
structure BatchCall where
  nowMs : Int
  rttMs : Int
  batch : List (BitVec 16)
  deriving DecidableEq

def noteCall (g : NackGenerator) (calls : List BatchCall) : Input → List BatchCall
  | .batch nowMs => calls ++ [⟨nowMs, g.rttMs, (g.getNackBatch nowMs).2⟩]
  | _ => calls

abbrev calling : NackGenerator × List BatchCall → Input → NackGenerator × List BatchCall :=
  observe NackGenerator.step noteCall

def batchCalls (g : NackGenerator) (inputs : List Input) : List BatchCall :=
  (run calling (g, []) inputs).2

def requestsOf (key : BitVec 16) (g : NackGenerator) (inputs : List Input) : List BatchCall :=
  (batchCalls g inputs).filter fun call => key ∈ call.batch

def nonemptyCalls (g : NackGenerator) (inputs : List Input) : List BatchCall :=
  (batchCalls g inputs).filter fun call => call.batch ≠ []

abbrev reached (inputs : List Input) : NackGenerator := run NackGenerator.step {} inputs

/-- The times of the calls are positive and never decrease. -/
structure Timed (inputs : List Input) : Prop where
  nondecreasing : Nondecreasing inputs
  positive : ∀ nowMs ∈ inputs.filterMap Input.time?, 0 < nowMs

instance (inputs : List Input) : Decidable (Timed inputs) :=
  decidable_of_iff
    (Nondecreasing inputs ∧ ∀ nowMs ∈ inputs.filterMap Input.time?, 0 < nowMs)
    ⟨fun h => ⟨h.1, h.2⟩, fun h => ⟨h.nondecreasing, h.positive⟩⟩

/-- An arrival enters the number into the table, and the calls after it leave it there. -/
structure Lifetime (key : BitVec 16) (front : List Input) (seq : BitVec 16) (insertedMs : Int)
    (life : List Input) : Prop where
  timed : Timed (front ++ .packet seq insertedMs :: life)
  absent : key ∉ (reached front).nackList
  pending : Throughout NackGenerator.step (fun g => key ∈ g.nackList)
    (reached (front ++ [.packet seq insertedMs])) life

/-- What is asked of the requests for one number, from its entry into the table on. -/
structure Disciplined (insertedMs : Int) (requests : List BatchCall) : Prop where
  few : requests.length ≤ kMaxNackRetries
  apart : requests.IsChain fun earlier later =>
    max later.rttMs kMinNackIntervalMs ≤ later.nowMs - earlier.nowMs
  young : ∀ request ∈ requests, request.nowMs - insertedMs ≤ kMaxNackAgeMs

/-- Another request at `nowMs` would break the discipline. -/
def Excluded (insertedMs : Int) (requests : List BatchCall) (g : NackGenerator) (nowMs : Int) :
    Prop :=
  kMaxNackRetries ≤ requests.length ∨
    (∃ last, requests.getLast? = some last ∧
      nowMs - last.nowMs < max g.rttMs kMinNackIntervalMs) ∨
    kMaxNackAgeMs < nowMs - insertedMs

instance (insertedMs : Int) (requests : List BatchCall) (g : NackGenerator) (nowMs : Int) :
    Decidable (Excluded insertedMs requests g nowMs) :=
  decidable_of_iff (kMaxNackRetries ≤ requests.length ∨
    (∃ last ∈ requests.getLast?, nowMs - last.nowMs < max g.rttMs kMinNackIntervalMs) ∨
    kMaxNackAgeMs < nowMs - insertedMs) Iff.rfl

def Spaced (calls : List BatchCall) : Prop :=
  calls.Pairwise fun earlier later => kProcessIntervalMs ≤ later.nowMs - earlier.nowMs

instance (calls : List BatchCall) : Decidable (Spaced calls) :=
  inferInstanceAs (Decidable (List.Pairwise _ _))

/-- The entry that a number entered at `insertedMs` has after these requests. -/
def entryAfter (insertedMs : Int) (requests : List BatchCall) : NackEntry where
  firstMissedAtMs := insertedMs
  sendAtMs := (requests.getLast?.map BatchCall.nowMs).getD 0
  sendCount := requests.length

theorem batchCalls_concat (g : NackGenerator) (inputs : List Input) (input : Input) :
    batchCalls g (inputs ++ [input]) =
      noteCall (run NackGenerator.step g inputs) (batchCalls g inputs) input := by
  rw [batchCalls, run_concat]
  change noteCall (run calling (g, []) inputs).1 (batchCalls g inputs) input = _
  rw [run_observe_fst]

theorem noteCall_eq_append (g : NackGenerator) (calls : List BatchCall) (input : Input) :
    noteCall g calls input = calls ++ noteCall g [] input := by
  cases input with
  | batch nowMs => rfl
  | packet seq nowMs => exact (List.append_nil calls).symm
  | rtt rttMs => exact (List.append_nil calls).symm
  | reset => exact (List.append_nil calls).symm

theorem requestsOf_concat (key : BitVec 16) (g : NackGenerator) (inputs : List Input)
    (input : Input) :
    requestsOf key g (inputs ++ [input]) = requestsOf key g inputs ++
      (noteCall (run NackGenerator.step g inputs) [] input).filter
        fun call => key ∈ call.batch := by
  rw [requestsOf, batchCalls_concat, noteCall_eq_append, List.filter_append, requestsOf]

section Times

variable {front back : List Input} {nowMs : Int}

theorem Timed.of_append (h : Timed (front ++ back)) : Timed front ∧ Timed back := by
  obtain ⟨hsorted, hpositive⟩ := h
  obtain ⟨hfront, hback, _⟩ := nondecreasing_append.mp hsorted
  rw [List.filterMap_append, List.forall_mem_append] at hpositive
  exact ⟨⟨hfront, hpositive.1⟩, hback, hpositive.2⟩

theorem Timed.le (h : Timed (front ++ [.batch nowMs])) {time : Int}
    (htime : time ∈ front.filterMap Input.time?) : time ≤ nowMs := by
  obtain ⟨_, _, hsorted⟩ := nondecreasing_append.mp h.nondecreasing
  exact hsorted time htime nowMs (List.mem_singleton.mpr rfl)

theorem Timed.pos (h : Timed (front ++ [.batch nowMs])) : 0 < nowMs := by
  apply h.positive
  rw [List.filterMap_append]
  exact List.mem_append_right _ (List.mem_singleton.mpr rfl)

end Times

theorem nodup_getNackBatch (g : NackGenerator) (nowMs : Int) :
    (g.getNackBatch nowMs).2.Nodup := by
  rw [getNackBatch_snd]
  split
  · exact List.nodup_nil
  · have hkeys : g.nackList.toList.filterMap (fun it =>
        if requested nowMs g.rttForCooldown it.2 then some it.1 else none) =
        (g.nackList.toList.filter fun it => requested nowMs g.rttForCooldown it.2).map
          Prod.fst := by
      rw [← List.filterMap_eq_map, List.filterMap_filter]
      rfl
    rw [hkeys]
    have hsub := (List.filter_sublist (p := fun it : BitVec 16 × NackEntry =>
      requested nowMs g.rttForCooldown it.2) (l := g.nackList.toList)).map Prod.fst
    rw [ExtTreeMap.map_fst_toList_eq_keys] at hsub
    exact hsub.nodup ExtTreeMap.nodup_keys

theorem requested_eq_true_iff {nowMs rttForCooldown : Int} {e : NackEntry} :
    requested nowMs rttForCooldown e = true ↔
      expired nowMs e = false ∧
        (e.sendAtMs = 0 ∧ kFirstNackDelayMs ≤ nowMs - e.firstMissedAtMs ∨
          e.sendAtMs ≠ 0 ∧ rttForCooldown ≤ nowMs - e.sendAtMs) := by
  rw [requested, visit]
  cases expired nowMs e with
  | true => simp
  | false =>
      simp only [Bool.false_eq_true, if_false]
      by_cases hsent : e.sendAtMs = 0
      · by_cases hdelay : nowMs - e.firstMissedAtMs < kFirstNackDelayMs
        · simp [hsent, hdelay]
        · simp [hsent, hdelay, not_lt.mp hdelay]
      · by_cases hcooling : nowMs - e.sendAtMs < rttForCooldown
        · simp [hsent, hcooling]
        · simp [hsent, hcooling, not_lt.mp hcooling]

theorem afterVisit_of_requested {nowMs rttForCooldown : Int} {e : NackEntry}
    (h : requested nowMs rttForCooldown e = true) :
    afterVisit nowMs rttForCooldown e =
      some { e with sendAtMs := nowMs, sendCount := e.sendCount + 1 } := by
  rw [requested] at h
  split at h
  · rename_i hvisit
    rw [afterVisit, hvisit]
  · cases h

theorem eq_of_afterVisit {nowMs rttForCooldown : Int} {e e' : NackEntry}
    (h : requested nowMs rttForCooldown e = false)
    (hkept : afterVisit nowMs rttForCooldown e = some e') : e' = e := by
  rw [requested] at h
  rw [afterVisit] at hkept
  split at hkept
  · cases hkept
  · exact (Option.some.inj hkept).symm
  · rename_i hvisit
    rw [hvisit] at h
    cases h

theorem Disciplined.concat {insertedMs nowMs : Int} {requests : List BatchCall}
    {g : NackGenerator} {batch : List (BitVec 16)} (h : Disciplined insertedMs requests)
    (hallowed : ¬ Excluded insertedMs requests g nowMs) :
    Disciplined insertedMs (requests ++ [⟨nowMs, g.rttMs, batch⟩]) := by
  rw [Excluded, not_or, not_or, not_le, not_lt] at hallowed
  obtain ⟨hfew, hcooled, hyoung⟩ := hallowed
  refine ⟨?_, ?_, ?_⟩
  · rw [List.length_append, List.length_singleton]
    exact hfew
  · refine List.isChain_append.mpr ⟨h.apart, List.isChain_singleton _, ?_⟩
    rintro last hlast call hcall
    obtain rfl := Option.some.inj hcall
    by_contra hclose
    exact hcooled ⟨last, hlast, not_le.mp hclose⟩
  · intro request hrequest
    rcases List.mem_append.mp hrequest with hold | hnew
    · exact h.young request hold
    · obtain rfl := List.mem_singleton.mp hnew
      exact hyoung

section Life

variable {key : BitVec 16} {g : NackGenerator} {insertedMs nowMs : Int}
  {requests : List BatchCall}

/-- The entry of a pending number records its requests so far. -/
structure Recorded (key : BitVec 16) (insertedMs : Int) (requests : List BatchCall)
    (g : NackGenerator) : Prop extends Disciplined insertedMs requests where
  entry : g.nackList[key]? = some (entryAfter insertedMs requests)
  positive : ∀ request ∈ requests, 0 < request.nowMs

theorem Recorded.requested_iff (h : Recorded key insertedMs requests g)
    (hinserted : insertedMs ≤ nowMs) :
    requested nowMs g.rttForCooldown (entryAfter insertedMs requests) = true ↔
      ¬ Excluded insertedMs requests g nowMs := by
  have hmissed : (entryAfter insertedMs requests).firstMissedAtMs = insertedMs := rfl
  have hcount : (entryAfter insertedMs requests).sendCount = requests.length := rfl
  rw [requested_eq_true_iff, expired, hmissed, hcount, Excluded, rttForCooldown,
    kFirstNackDelayMs, Bool.or_eq_false_iff, decide_eq_false_iff_not, decide_eq_false_iff_not]
  cases hlast : requests.getLast? with
  | none =>
      have hfirst : (entryAfter insertedMs requests).sendAtMs = 0 := by
        simp [entryAfter, hlast]
      simp only [hfirst, reduceCtorEq, true_and, ne_eq, not_true_eq_false, false_and,
        exists_false, or_false, false_or]
      omega
  | some last =>
      have hsent : (entryAfter insertedMs requests).sendAtMs = last.nowMs := by
        simp [entryAfter, hlast]
      have hpos := h.positive last (List.mem_of_getLast? hlast)
      simp only [hsent, Option.some.injEq, exists_eq_left']
      omega

theorem recorded_packet {seq : BitVec 16} (habsent : key ∉ g.nackList)
    (hpending : key ∈ (g.onReceivedPacket seq insertedMs).nackList) :
    Recorded key insertedMs [] (g.onReceivedPacket seq insertedMs) := by
  obtain ⟨e, he⟩ := mem_iff_exists.mp hpending
  refine ⟨⟨Nat.zero_le _, List.isChain_nil, by simp⟩, ?_, by simp⟩
  rcases getElem?_of_onReceivedPacket he with hold | ⟨_, rfl, _⟩
  · exact absurd (mem_of_getElem?_eq_some hold) habsent
  · exact he

/-- A batch that leaves the number pending records the request, if it makes one. -/
theorem Recorded.batch (h : Recorded key insertedMs requests g) (hinserted : insertedMs ≤ nowMs)
    (hpos : 0 < nowMs) (hpending : key ∈ (g.getNackBatch nowMs).1.nackList) :
    Recorded key insertedMs
      (requests ++ [(⟨nowMs, g.rttMs, (g.getNackBatch nowMs).2⟩ : BatchCall)].filter
        fun call => key ∈ call.batch) (g.getNackBatch nowMs).1 := by
  obtain ⟨e, he⟩ := mem_iff_exists.mp hpending
  have hafter := getNackBatch_getElem? g nowMs key
  rw [h.entry, he] at hafter
  by_cases hasked : key ∈ (g.getNackBatch nowMs).2
  · obtain ⟨hprocess, asked, hget, hrequested⟩ := mem_getNackBatch_iff.mp hasked
    obtain rfl := Option.some.inj (h.entry.symm.trans hget)
    rw [hprocess, if_neg Bool.false_ne_true, Option.bind_some,
      afterVisit_of_requested hrequested] at hafter
    rw [List.filter_cons_of_pos (by simpa using hasked), List.filter_nil]
    have hallowed := (h.requested_iff hinserted).mp hrequested
    refine ⟨h.toDisciplined.concat hallowed, ?_, ?_⟩
    · rw [he, hafter]
      simp [entryAfter]
    · intro request hrequest
      rcases List.mem_append.mp hrequest with hold | hnew
      · exact h.positive request hold
      · obtain rfl := List.mem_singleton.mp hnew
        exact hpos
  · rw [List.filter_cons_of_neg (by simpa using hasked), List.filter_nil, List.append_nil]
    refine ⟨h.toDisciplined, ?_, h.positive⟩
    rw [he]
    cases hprocess : g.throttled nowMs with
    | true =>
        rw [hprocess, if_pos rfl] at hafter
        exact hafter
    | false =>
        rw [hprocess, if_neg Bool.false_ne_true, Option.bind_some] at hafter
        have hspared : requested nowMs g.rttForCooldown (entryAfter insertedMs requests) =
            false := by
          rw [← Bool.not_eq_true]
          exact fun hrequested =>
            hasked (mem_getNackBatch_iff.mpr ⟨hprocess, _, h.entry, hrequested⟩)
        rw [eq_of_afterVisit hspared hafter.symm]

/-- So does every other call. -/
theorem Recorded.step (h : Recorded key insertedMs requests g) {input : Input}
    (htime : ∀ nowMs, input.time? = some nowMs → insertedMs ≤ nowMs ∧ 0 < nowMs)
    (hpending : key ∈ (g.step input).nackList) :
    Recorded key insertedMs
      (requests ++ (noteCall g [] input).filter fun call => key ∈ call.batch)
      (g.step input) := by
  cases input with
  | batch nowMs =>
      obtain ⟨hinserted, hpos⟩ := htime nowMs rfl
      exact h.batch hinserted hpos hpending
  | reset => simp [NackGenerator.step, reset] at hpending
  | rtt rttMs =>
      change Recorded key insertedMs (requests ++ []) _
      rw [List.append_nil]
      exact ⟨h.toDisciplined, h.entry, h.positive⟩
  | packet seq nowMs =>
      change Recorded key insertedMs (requests ++ []) _
      rw [List.append_nil]
      refine ⟨h.toDisciplined, ?_, h.positive⟩
      obtain ⟨e, he⟩ := mem_iff_exists.mp hpending
      rcases getElem?_of_onReceivedPacket he with hold | ⟨hnone, _⟩
      · rw [← h.entry, hold]
        exact he
      · rw [h.entry] at hnone
        cases hnone

end Life

section Lifetimes

variable {key seq : BitVec 16} {front life : List Input} {insertedMs : Int}

theorem Timed.inserted_le {input : Input} {nowMs : Int}
    (h : Timed (front ++ .packet seq insertedMs :: (life ++ [input])))
    (htime : input.time? = some nowMs) : insertedMs ≤ nowMs ∧ 0 < nowMs := by
  have hmem : nowMs ∈ (life ++ [input]).filterMap Input.time? := by
    rw [List.filterMap_append, List.filterMap_cons_some htime]
    exact List.mem_append_right _ List.mem_cons_self
  obtain ⟨_, hsorted, _⟩ := nondecreasing_append.mp h.nondecreasing
  constructor
  · exact (List.pairwise_cons.mp hsorted).1 nowMs hmem
  · apply h.positive
    rw [List.filterMap_append]
    exact List.mem_append_right _ (List.mem_cons_of_mem _ hmem)

theorem Lifetime.of_concat {input : Input}
    (h : Lifetime key front seq insertedMs (life ++ [input])) :
    Lifetime key front seq insertedMs life := by
  refine ⟨?_, h.absent, ?_⟩
  · have htimed := h.timed
    rw [← List.cons_append, ← List.append_assoc] at htimed
    exact htimed.of_append.1
  · intro earlier later heq
    exact h.pending earlier (later ++ [input]) (by rw [heq, List.append_assoc])

/-- Over a whole lifetime the entry records the requests made for the number. -/
theorem Lifetime.recorded (h : Lifetime key front seq insertedMs life) :
    Recorded key insertedMs
      (requestsOf key (reached (front ++ [.packet seq insertedMs])) life)
      (reached (front ++ .packet seq insertedMs :: life)) := by
  induction life using List.reverseRecOn with
  | nil =>
      have hpending := h.pending [] [] rfl
      rw [run_nil, reached, run_concat] at hpending
      rw [reached, run_concat]
      exact recorded_packet h.absent hpending
  | append_singleton life input ih =>
      have hstart : run NackGenerator.step (reached (front ++ [.packet seq insertedMs])) life =
          reached (front ++ .packet seq insertedMs :: life) := by
        rw [reached, reached, ← run_append, List.append_assoc, List.singleton_append]
      have hpending := h.pending (life ++ [input]) [] (List.append_nil _).symm
      rw [run_concat, hstart] at hpending
      have hend : reached (front ++ .packet seq insertedMs :: (life ++ [input])) =
          (reached (front ++ .packet seq insertedMs :: life)).step input := by
        rw [← List.cons_append, ← List.append_assoc, reached, run_concat]
      rw [requestsOf_concat, hstart, hend]
      exact (ih h.of_concat).step (fun _ htime => h.timed.inserted_le htime) hpending

end Lifetimes

section Spacing

variable {front inputs : List Input}

theorem time_of_mem_batchCalls {g : NackGenerator} {call : BatchCall}
    (h : call ∈ batchCalls g inputs) : call.nowMs ∈ inputs.filterMap Input.time? := by
  induction inputs using List.reverseRecOn with
  | nil => exact absurd h List.not_mem_nil
  | append_singleton inputs input ih =>
      rw [batchCalls_concat, noteCall_eq_append] at h
      rw [List.filterMap_append]
      rcases List.mem_append.mp h with hold | hnew
      · exact List.mem_append_left _ (ih hold)
      · cases input with
        | batch nowMs =>
            obtain rfl := List.mem_singleton.mp hnew
            exact List.mem_append_right _ List.mem_cons_self
        | packet seq nowMs => exact absurd hnew List.not_mem_nil
        | rtt rttMs => exact absurd hnew List.not_mem_nil
        | reset => exact absurd hnew List.not_mem_nil

theorem lastProcessAtMs_getNackBatch (g : NackGenerator) (nowMs : Int) :
    (g.getNackBatch nowMs).1.lastProcessAtMs = nowMs ∨
      (g.getNackBatch nowMs).1.lastProcessAtMs = g.lastProcessAtMs := by
  rw [getNackBatch]
  split
  · exact Or.inl rfl
  · split
    · exact Or.inr rfl
    · exact Or.inl rfl

theorem not_throttled_of_batch_ne_nil {g : NackGenerator} {nowMs : Int}
    (h : (g.getNackBatch nowMs).2 ≠ []) :
    g.throttled nowMs = false ∧ (g.getNackBatch nowMs).1.lastProcessAtMs = nowMs := by
  rw [getNackBatch] at h ⊢
  split at h
  · exact absurd rfl h
  · split at h
    · exact absurd rfl h
    · rename_i hempty hthrottled
      rw [if_neg hempty, if_neg hthrottled]
      exact ⟨Bool.eq_false_of_not_eq_true hthrottled, rfl⟩

/-- The throttle knows when the last batch was that asked for anything. -/
structure Paced (g : NackGenerator) (calls : List BatchCall) : Prop where
  spaced : Spaced calls
  processed : ∀ call ∈ calls, 0 < call.nowMs ∧ call.nowMs ≤ g.lastProcessAtMs

theorem Paced.batch {g : NackGenerator} {calls : List BatchCall} {nowMs : Int}
    (h : Paced g calls) (hpos : 0 < nowMs) (hlatest : ∀ call ∈ calls, call.nowMs ≤ nowMs) :
    Paced (g.getNackBatch nowMs).1
      (calls ++ [(⟨nowMs, g.rttMs, (g.getNackBatch nowMs).2⟩ : BatchCall)].filter
        fun call => call.batch ≠ []) := by
  by_cases hempty : (g.getNackBatch nowMs).2 = []
  · rw [List.filter_cons_of_neg (by simpa using hempty), List.filter_nil, List.append_nil]
    refine ⟨h.spaced, fun call hcall => ⟨(h.processed call hcall).1, ?_⟩⟩
    rcases lastProcessAtMs_getNackBatch g nowMs with hnow | hsame
    · rw [hnow]
      exact hlatest call hcall
    · rw [hsame]
      exact (h.processed call hcall).2
  · rw [List.filter_cons_of_pos (by simpa using hempty), List.filter_nil]
    obtain ⟨hprocess, hlast⟩ := not_throttled_of_batch_ne_nil hempty
    constructor
    · refine List.pairwise_append.mpr ⟨h.spaced, List.pairwise_singleton _ _, ?_⟩
      rintro earlier hearlier call hcall
      obtain rfl := List.mem_singleton.mp hcall
      obtain ⟨hearlierPos, hle⟩ := h.processed earlier hearlier
      have hgap : kProcessIntervalMs ≤ nowMs - g.lastProcessAtMs := by
        by_contra hclose
        have hthrottled : g.throttled nowMs = true := by
          have hne : g.lastProcessAtMs ≠ 0 := by omega
          simp [throttled, hne, not_le.mp hclose]
        rw [hprocess] at hthrottled
        cases hthrottled
      change kProcessIntervalMs ≤ nowMs - earlier.nowMs
      omega
    · intro call hcall
      rw [hlast]
      rcases List.mem_append.mp hcall with hold | hnew
      · exact ⟨(h.processed call hold).1, hlatest call hold⟩
      · obtain rfl := List.mem_singleton.mp hnew
        exact ⟨hpos, le_rfl⟩

theorem nonemptyCalls_concat (g : NackGenerator) (inputs : List Input) (input : Input) :
    nonemptyCalls g (inputs ++ [input]) = nonemptyCalls g inputs ++
      (noteCall (run NackGenerator.step g inputs) [] input).filter
        fun call => call.batch ≠ [] := by
  rw [nonemptyCalls, batchCalls_concat, noteCall_eq_append, List.filter_append, nonemptyCalls]

theorem lastProcessAtMs_onReceivedPacket (g : NackGenerator) (seq : BitVec 16) (nowMs : Int) :
    (g.onReceivedPacket seq nowMs).lastProcessAtMs = g.lastProcessAtMs := by
  rcases onReceivedPacket_cases g seq nowMs with ⟨_, heq⟩ | ⟨_, _, heq⟩ | ⟨_, _, heq⟩ |
    ⟨_, _, heq⟩ | ⟨_, _, _, heq⟩
  · rw [heq]
  · rw [heq]
  · rw [heq]
    rfl
  · rw [heq]
  · rw [heq]

/-- As long as the table is not reset, the batches that ask for anything are spaced. -/
theorem paced_of_no_reset {g : NackGenerator} (htimed : Timed inputs)
    (hreset : Input.reset ∉ inputs) :
    Paced (run NackGenerator.step g inputs) (nonemptyCalls g inputs) := by
  induction inputs using List.reverseRecOn with
  | nil => exact ⟨List.Pairwise.nil, by simp [nonemptyCalls, batchCalls]⟩
  | append_singleton inputs input ih =>
      have hpaced := ih htimed.of_append.1 fun hmem => hreset (List.mem_append_left _ hmem)
      rw [run_concat, nonemptyCalls_concat]
      cases input with
      | batch nowMs =>
          refine hpaced.batch htimed.pos fun call hcall => htimed.le ?_
          exact time_of_mem_batchCalls (List.mem_of_mem_filter hcall)
      | reset => exact absurd (List.mem_append_right _ List.mem_cons_self) hreset
      | rtt rttMs =>
          change Paced _ (nonemptyCalls g inputs ++ [])
          rw [List.append_nil]
          exact ⟨hpaced.spaced, hpaced.processed⟩
      | packet seq nowMs =>
          change Paced _ (nonemptyCalls g inputs ++ [])
          rw [List.append_nil]
          refine ⟨hpaced.spaced, fun call hcall => ?_⟩
          rw [NackGenerator.step, lastProcessAtMs_onReceivedPacket]
          exact hpaced.processed call hcall

end Spacing

/-- A number is requested in turn from its entry into the table on: not too often, not too
close together and not for too long, and whenever nothing speaks against it.  A batch
lists no number twice, and batches between which the table is not reset keep their
distance. -/
theorem retry_discipline (key seq : BitVec 16) (front life inputs : List Input)
    (insertedMs nowMs : Int) :
    (Lifetime key front seq insertedMs life →
      Disciplined insertedMs
        (requestsOf key (reached (front ++ [.packet seq insertedMs])) life)) ∧
    (Lifetime key front seq insertedMs life →
      Timed (front ++ .packet seq insertedMs :: (life ++ [.batch nowMs])) →
        (reached (front ++ .packet seq insertedMs :: life)).throttled nowMs = false →
          ¬ Excluded insertedMs
            (requestsOf key (reached (front ++ [.packet seq insertedMs])) life)
            (reached (front ++ .packet seq insertedMs :: life)) nowMs →
            key ∈ ((reached (front ++ .packet seq insertedMs :: life)).getNackBatch nowMs).2) ∧
    ((reached front).getNackBatch nowMs).2.Nodup ∧
    (Timed (front ++ inputs) → Input.reset ∉ inputs →
      Spaced (nonemptyCalls (reached front) inputs)) := by
  refine ⟨?_, ?_, nodup_getNackBatch _ _, ?_⟩
  · intro hlife
    exact hlife.recorded.toDisciplined
  · intro hlife htimed hprocess hallowed
    obtain ⟨hinserted, _⟩ := htimed.inserted_le rfl
    have hrecorded := hlife.recorded
    exact mem_getNackBatch_iff.mpr
      ⟨hprocess, _, hrecorded.entry, (hrecorded.requested_iff hinserted).mpr hallowed⟩
  · intro htimed hreset
    exact (paced_of_no_reset htimed.of_append.2 hreset).spaced

/-- Number 2 is missed at 5 and requested at 5 and at 110, with the initial RTT of 100. -/
theorem retry_discipline_twice :
    Disciplined 5 [⟨5, 100, [2]⟩, ⟨110, 100, [2]⟩] ∧
      2 ∈ ((reached [.packet 1 1, .packet 3 5, .batch 5, .batch 110]).getNackBatch 300).2 ∧
      Spaced [⟨5, 100, [2]⟩, ⟨110, 100, [2]⟩] := by
  have hlife : Lifetime 2 [.packet 1 1] 3 5 [.batch 5, .batch 110] := by
    refine ⟨by decide, by decide, ?_⟩
    refine throughout_cons.mpr ⟨by decide, ?_⟩
    refine throughout_cons.mpr ⟨by decide +kernel, ?_⟩
    exact throughout_nil.mpr (by decide +kernel)
  have hrequests : requestsOf 2 (reached ([.packet 1 1] ++ [.packet 3 5]))
      [.batch 5, .batch 110] = [⟨5, 100, [2]⟩, ⟨110, 100, [2]⟩] := by
    decide +kernel
  have hcalls : nonemptyCalls (reached [.packet 1 1]) [.packet 3 5, .batch 5, .batch 110] =
      [⟨5, 100, [2]⟩, ⟨110, 100, [2]⟩] := by
    decide +kernel
  obtain ⟨hdisciplined, hdue, _, hspaced⟩ := retry_discipline 2 3 [.packet 1 1]
    [.batch 5, .batch 110] [.packet 3 5, .batch 5, .batch 110] 5 300
  rw [hrequests] at hdisciplined hdue
  rw [hcalls] at hspaced
  refine ⟨hdisciplined hlife, hdue hlife (by decide) (by decide +kernel) ?_,
    hspaced (by decide) (by simp)⟩
  decide +kernel

/-- After `Reset` the throttle starts over: two batches ask at the same time. -/
theorem not_spaced_after_reset :
    ¬ ∀ inputs, Timed inputs → Spaced (nonemptyCalls {} inputs) := by
  intro h
  have hspaced := h [.packet 1 5, .packet 3 5, .batch 5, .reset, .packet 1 5, .packet 3 5,
    .batch 5] (by decide)
  exact absurd hspaced (by decide +kernel)

end GBServer.NackRetries
