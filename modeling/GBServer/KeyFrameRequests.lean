import GBServer.Foundation.RateLimit
import GBServer.Foundation.Runs
import Mathlib.Logic.Function.Basic

namespace GBServer.KeyFrameRequests

open Foundation.RateLimit
open Foundation.Runs

abbrev ProducerId := Nat

/-- A producer; all but `RtcProducer` inherit the empty `RequestKeyFrame`. -/
structure Producer where
  rtc : Bool
  dtlsDone : Bool := false
  srtpSendSession : Bool := false
  requestKeyFrame : Int := 0
  deriving DecidableEq, Repr

/-- The lambda that `RtcConsumer::RequestKeyFrame` posts, and the one that
`Session::ConsumerRequestKeyFrame` posts. -/
inductive Task where
  | consumer
  | session
  deriving DecidableEq, Repr

structure State where
  producer : Option ProducerId := none
  producers : ProducerId → Producer
  tasks : List Task := []

inductive Input where
  /-- A PLI or FIR of a viewer, or the end of its DTLS handshake. -/
  | feedback
  | setProducer (producer : Option ProducerId)
  | dtls (p : ProducerId) (dtlsDone srtpSendSession : Bool)
  /-- `encrypted` is the result of `EncryptRtcp`. -/
  | worker (clock : Reading) (encrypted : Bool)
  deriving DecidableEq, Repr

def requestKeyFrameMs : Int := 500

/-- `RtcProducer::RequestKeyFrame`, and whether a PLI is built. -/
def Producer.request (x : Producer) (clock : Reading) : Producer × Bool :=
  if x.rtc then
    if clock.now - x.requestKeyFrame < requestKeyFrameMs then (x, false)
    else ({ x with requestKeyFrame := clock.stamp }, true)
  else (x, false)

def Producer.sendSrtpRtcp (x : Producer) (encrypted : Bool) : Bool :=
  x.dtlsDone && x.srtpSendSession && encrypted

namespace State

def runTask (s : State) (clock : Reading) : State :=
  match s.tasks with
  | [] => s
  | .consumer :: rest =>
      { s with tasks := if s.producer.isSome then rest ++ [.session] else rest }
  | .session :: rest =>
      match s.producer with
      | none => { s with tasks := rest }
      | some p =>
          { s with
            tasks := rest
            producers := Function.update s.producers p ((s.producers p).request clock).1 }

def step (s : State) : Input → State
  | .feedback => { s with tasks := s.tasks ++ [.consumer] }
  | .setProducer producer => { s with producer := producer }
  | .dtls p dtlsDone srtpSendSession =>
      { s with
        producers := Function.update s.producers p
          { s.producers p with dtlsDone := dtlsDone, srtpSendSession := srtpSendSession } }
  | .worker clock _ => s.runTask clock

end State

/-- A call of a producer's `RequestKeyFrame`: whether it builds a PLI, and whether that
reaches the socket. -/
structure Call where
  producer : ProducerId
  clock : Reading
  built : Bool
  sent : Bool
  deriving DecidableEq, Repr

/-- The feedback that came, the tasks that found no producer, and the calls. -/
structure Journal where
  feedback : Nat := 0
  dropped : Nat := 0
  calls : List Call := []

def callOf (x : Producer) (p : ProducerId) (clock : Reading) (encrypted : Bool) : Call where
  producer := p
  clock := clock
  built := (x.request clock).2
  sent := (x.request clock).2 && x.sendSrtpRtcp encrypted

def note (s : State) (j : Journal) : Input → Journal
  | .feedback => { j with feedback := j.feedback + 1 }
  | .worker clock encrypted =>
      match s.tasks, s.producer with
      | [], _ => j
      | _ :: _, none => { j with dropped := j.dropped + 1 }
      | .consumer :: _, some _ => j
      | .session :: _, some p =>
          { j with calls := j.calls ++ [callOf (s.producers p) p clock encrypted] }
  | _ => j

abbrev requesting : State × Journal → Input → State × Journal := observe State.step note

def start (kinds : ProducerId → Bool) : State × Journal :=
  ({ producers := fun p => { rtc := kinds p } }, {})

/-- The readings of the clock in the order of the inputs. -/
def readings (inputs : List Input) : List Reading :=
  inputs.filterMap fun
    | .worker clock _ => some clock
    | _ => none

namespace Journal

def callsTo (j : Journal) (p : ProducerId) : List Call := j.calls.filter (·.producer = p)

def sentTimes (j : Journal) (p : ProducerId) : List Int :=
  ((j.callsTo p).filter Call.sent).map (·.clock.stamp)

end Journal

/-- The calls of a producer as events at a gate. -/
def gateOf (j : Journal) (p : ProducerId) : Gate :=
  Gate.offers requestKeyFrameMs ⟨0, []⟩ ((j.callsTo p).map Call.clock)

/-- The producers stand where the calls have brought them, and all feedback is waiting,
dropped or called for. -/
structure Accounted (kinds : ProducerId → Bool) (p : State × Journal) : Prop where
  kind : ∀ i, (p.1.producers i).rtc = kinds i
  last : ∀ i, kinds i = true → (p.1.producers i).requestKeyFrame = (gateOf p.2 i).last
  built : ∀ i, ((p.2.callsTo i).filter Call.built).map Call.clock =
    if kinds i = true then (gateOf p.2 i).passed else []
  sent : ∀ call ∈ p.2.calls, call.sent = true → call.built = true
  feedback : p.2.feedback = p.2.dropped + p.2.calls.length + p.1.tasks.length

variable {kinds : ProducerId → Bool} {p : State × Journal}

theorem request_rtc (x : Producer) (clock : Reading) : (x.request clock).1.rtc = x.rtc := by
  rw [Producer.request]
  split
  · split <;> rfl
  · rfl

theorem callsTo_append (j : Journal) (x : Producer) (i k : ProducerId) (clock : Reading)
    (encrypted : Bool) :
    ({ j with calls := j.calls ++ [callOf x i clock encrypted] } : Journal).callsTo k =
      j.callsTo k ++ if i = k then [callOf x i clock encrypted] else [] := by
  rw [Journal.callsTo, List.filter_append]
  by_cases hcall : i = k
  · simp [hcall, Journal.callsTo, callOf]
  · simp [hcall, Journal.callsTo, callOf]

theorem gateOf_append (j : Journal) (x : Producer) (i k : ProducerId) (clock : Reading)
    (encrypted : Bool) :
    gateOf { j with calls := j.calls ++ [callOf x i clock encrypted] } k =
      if i = k then (gateOf j k).offer requestKeyFrameMs clock else gateOf j k := by
  rw [gateOf, callsTo_append, List.map_append]
  split
  · exact offers_concat
  · rw [List.map_nil, List.append_nil]
    rfl

/-- `RequestKeyFrame` is the gate: it builds a PLI when the gate lets the call through. -/
theorem request_eq_offer {x : Producer} {gate : Gate} (hrtc : x.rtc = true)
    (hlast : x.requestKeyFrame = gate.last) (clock : Reading) :
    (x.request clock).1.requestKeyFrame = (gate.offer requestKeyFrameMs clock).last ∧
      (gate.offer requestKeyFrameMs clock).passed =
        gate.passed ++ if (x.request clock).2 then [clock] else [] := by
  rw [Producer.request, if_pos hrtc, hlast, Gate.offer]
  split
  · exact ⟨hlast, (List.append_nil _).symm⟩
  · exact ⟨rfl, rfl⟩

/-- A call is an event at the gate of its producer. -/
theorem Accounted.call (h : Accounted kinds p) {i : ProducerId} {rest : List Task}
    (htasks : p.1.tasks = .session :: rest) (clock : Reading) (encrypted : Bool) :
    Accounted kinds
      ({ p.1 with
          tasks := rest
          producers := Function.update p.1.producers i ((p.1.producers i).request clock).1 },
        { p.2 with calls := p.2.calls ++ [callOf (p.1.producers i) i clock encrypted] }) := by
  obtain ⟨hkind, hlast, hbuilt, hsent, hfeedback⟩ := h
  refine ⟨fun k => ?_, fun k hk => ?_, fun k => ?_, ?_, ?_⟩
  · change (Function.update p.1.producers i ((p.1.producers i).request clock).1 k).rtc = kinds k
    rcases eq_or_ne k i with rfl | hne
    · rw [Function.update_self, request_rtc, hkind]
    · rw [Function.update_of_ne hne, hkind]
  · rw [gateOf_append]
    change (Function.update p.1.producers i
      ((p.1.producers i).request clock).1 k).requestKeyFrame = _
    rcases eq_or_ne k i with rfl | hne
    · rw [Function.update_self, if_pos rfl]
      exact (request_eq_offer ((hkind k).trans hk) (hlast k hk) clock).1
    · rw [Function.update_of_ne hne, if_neg hne.symm]
      exact hlast k hk
  · rw [gateOf_append, callsTo_append]
    rcases eq_or_ne k i with rfl | hne
    · rw [if_pos rfl, if_pos rfl, List.filter_append, List.map_append, hbuilt]
      by_cases hk : kinds k = true
      · rw [if_pos hk, if_pos hk,
          (request_eq_offer ((hkind k).trans hk) (hlast k hk) clock).2, List.filter_singleton]
        congr 1
        change List.map Call.clock (bif ((p.1.producers k).request clock).2 then _ else _) = _
        cases ((p.1.producers k).request clock).2 <;> rfl
      · have hother : ((p.1.producers k).request clock).2 = false := by
          rw [Producer.request, if_neg (by rwa [hkind])]
        rw [if_neg hk, if_neg hk, List.filter_singleton]
        change [] ++ List.map Call.clock (bif ((p.1.producers k).request clock).2 then _ else _) = _
        rw [hother]
        rfl
    · rw [if_neg hne.symm, if_neg hne.symm, List.append_nil]
      exact hbuilt k
  · intro call hcall hcallSent
    rcases List.mem_append.mp hcall with hcall | hcall
    · exact hsent call hcall hcallSent
    · rw [List.mem_singleton.mp hcall] at hcallSent ⊢
      exact (Bool.and_eq_true_iff.mp hcallSent).1
  · rw [htasks, List.length_cons] at hfeedback
    change p.2.feedback = p.2.dropped + (p.2.calls ++ [_]).length + rest.length
    rw [List.length_append, List.length_singleton]
    omega

theorem Accounted.step (h : Accounted kinds p) (input : Input) :
    Accounted kinds (requesting p input) := by
  obtain ⟨hkind, hlast, hbuilt, hsent, hfeedback⟩ := id h
  cases input with
  | feedback =>
      refine ⟨hkind, hlast, hbuilt, hsent, ?_⟩
      change p.2.feedback + 1 = p.2.dropped + p.2.calls.length + (p.1.tasks ++ [_]).length
      rw [List.length_append, List.length_singleton]
      omega
  | setProducer producer => exact ⟨hkind, hlast, hbuilt, hsent, hfeedback⟩
  | dtls i dtlsDone srtpSendSession =>
      have hsame : ∀ k, ((p.1.step (.dtls i dtlsDone srtpSendSession)).producers k).rtc =
          (p.1.producers k).rtc ∧
            ((p.1.step (.dtls i dtlsDone srtpSendSession)).producers k).requestKeyFrame =
              (p.1.producers k).requestKeyFrame := by
        intro k
        simp only [State.step, Function.update_apply]
        split
        · rename_i hk
          exact ⟨by rw [hk], by rw [hk]⟩
        · exact ⟨rfl, rfl⟩
      exact ⟨fun k => (hsame k).1.trans (hkind k),
        fun k hk => (hsame k).2.trans (hlast k hk), hbuilt, hsent, hfeedback⟩
  | worker clock encrypted =>
      obtain ⟨⟨producer, producers, tasks⟩, j⟩ := p
      change j.feedback = j.dropped + j.calls.length + tasks.length at hfeedback
      rcases tasks with _ | ⟨_ | _, rest⟩
      · exact h
      · -- the first task posts the second, unless there is no producer
        rcases producer with _ | i
        · refine ⟨hkind, hlast, hbuilt, hsent, ?_⟩
          change j.feedback = j.dropped + 1 + j.calls.length + rest.length
          rw [List.length_cons] at hfeedback
          omega
        · refine ⟨hkind, hlast, hbuilt, hsent, ?_⟩
          change j.feedback = j.dropped + j.calls.length + (rest ++ [Task.session]).length
          rw [List.length_append, List.length_singleton]
          exact hfeedback
      · rcases producer with _ | i
        · refine ⟨hkind, hlast, hbuilt, hsent, ?_⟩
          change j.feedback = j.dropped + 1 + j.calls.length + rest.length
          rw [List.length_cons] at hfeedback
          omega
        · exact h.call rfl clock encrypted

theorem accounted_run (kinds : ProducerId → Bool) (inputs : List Input) :
    Accounted kinds (run requesting (start kinds) inputs) := by
  refine invariant_run_of_step ?_ (fun _ input h => h.step input) inputs
  refine ⟨fun _ => rfl, fun _ _ => rfl, fun i => ?_, nofun, rfl⟩
  split <;> rfl

theorem calls_step (p : State × Journal) (input : Input) :
    ((requesting p input).2.calls.map Call.clock).Sublist
      (p.2.calls.map Call.clock ++ readings [input]) := by
  obtain ⟨⟨producer, producers, tasks⟩, j⟩ := p
  cases input with
  | worker clock encrypted =>
      rcases tasks with _ | ⟨_ | _, rest⟩
      · exact List.sublist_append_left _ _
      · rcases producer with _ | i
        · exact List.sublist_append_left _ _
        · exact List.sublist_append_left _ _
      · rcases producer with _ | i
        · exact List.sublist_append_left _ _
        · change ((j.calls ++ [_]).map Call.clock).Sublist _
          rw [List.map_append]
          exact List.Sublist.refl _
  | _ => exact List.sublist_append_left _ _

theorem calls_sublist (p : State × Journal) (inputs : List Input) :
    ((run requesting p inputs).2.calls.map Call.clock).Sublist
      (p.2.calls.map Call.clock ++ readings inputs) := by
  induction inputs generalizing p with
  | nil => exact List.sublist_append_left _ _
  | cons input rest ih =>
      have hsplit : readings (input :: rest) = readings [input] ++ readings rest := by
        rw [readings, readings, readings, ← List.filterMap_append]
        rfl
      rw [run_cons, hsplit, ← List.append_assoc]
      exact (ih _).trans ((calls_step p input).append (List.Sublist.refl _))

/-- However many viewers ask and however often, on a clock that does not run back a publisher
is sent at most `n` PLIs in any `n` times 500 ms, and every call that reaches a WebRTC
publisher builds a PLI or finds one that was built less than 500 ms before.  No feedback is
lost or counted twice on the way. -/
theorem plis_limited (kinds : ProducerId → Bool) (inputs : List Input)
    (hclock : Ticking (readings inputs)) (i : ProducerId) :
    let p := run requesting (start kinds) inputs
    (∀ (low : Int) (n : Nat),
        ((p.2.sentTimes i).filter fun t => low ≤ t ∧ t < low + n * 500).length ≤ n) ∧
      (kinds i = true → ∀ call ∈ p.2.callsTo i, 500 ≤ call.clock.now →
        ∃ other ∈ p.2.callsTo i, other.built = true ∧ other.clock.now ≤ call.clock.now ∧
          call.clock.now < other.clock.stamp + 500) ∧
      p.2.feedback = p.2.dropped + p.2.calls.length + p.1.tasks.length := by
  intro p
  have hacc : Accounted kinds p := accounted_run kinds inputs
  have hticking : Ticking ((p.2.callsTo i).map Call.clock) :=
    hclock.sublist ((List.filter_sublist.map Call.clock).trans
      (calls_sublist (start kinds) inputs))
  refine ⟨fun low n => ?_, fun hrtc call hcall hnow => ?_, hacc.feedback⟩
  · have hsent : (p.2.callsTo i).filter Call.sent =
        ((p.2.callsTo i).filter Call.built).filter Call.sent := by
      rw [List.filter_filter]
      refine List.filter_congr fun call hcall => ?_
      have himp := hacc.sent call (List.mem_of_mem_filter hcall)
      cases hbit : call.sent with
      | false => rfl
      | true => rw [himp hbit]; rfl
    have hspaced : Spaced requestKeyFrameMs
        (((p.2.callsTo i).filter Call.built).map (·.clock.stamp)) := by
      have hstamps : ((p.2.callsTo i).filter Call.built).map (·.clock.stamp) =
          (((p.2.callsTo i).filter Call.built).map Call.clock).map Reading.stamp := by
        rw [List.map_map]
        rfl
      rw [hstamps, hacc.built]
      split
      · exact spaced_passed hticking
      · exact List.Pairwise.nil
    have hfew : (p.2.sentTimes i).Sublist
        (((p.2.callsTo i).filter Call.built).map (·.clock.stamp)) := by
      rw [Journal.sentTimes, hsent]
      exact List.filter_sublist.map _
    exact Spaced.length_filter_le (hspaced.sublist hfew) (by decide) low n
  · have hmem : call.clock ∈ (p.2.callsTo i).map Call.clock := List.mem_map_of_mem hcall
    have hpassed : call.clock.now < 0 + requestKeyFrameMs ∨ ∃ e ∈ (gateOf p.2 i).passed,
        e.now ≤ call.clock.now ∧ call.clock.now < e.stamp + requestKeyFrameMs :=
      exists_passed (by decide) hticking hmem
    rcases hpassed with hearly | ⟨e, he, hbefore, hless⟩
    · exact absurd hearly (Int.not_lt.mpr hnow)
    · have hbuilt := hacc.built i
      rw [if_pos hrtc] at hbuilt
      rw [← hbuilt] at he
      obtain ⟨other, hother, rfl⟩ := List.mem_map.mp he
      obtain ⟨hcalls, hbit⟩ := List.mem_filter.mp hother
      exact ⟨other, hcalls, hbit, hbefore, hless⟩

theorem plis_limited_of_two :
    let p := run requesting (start fun _ => true)
      [.setProducer (some 0), .dtls 0 true true, .feedback, .feedback, .worker ⟨1000, 1000⟩ true,
        .worker ⟨1000, 1000⟩ true, .worker ⟨1000, 1001⟩ true, .worker ⟨1002, 1002⟩ true]
    (∀ (low : Int) (n : Nat),
        ((p.2.sentTimes 0).filter fun t => low ≤ t ∧ t < low + n * 500).length ≤ n) ∧
      (true = true → ∀ call ∈ p.2.callsTo 0, 500 ≤ call.clock.now →
        ∃ other ∈ p.2.callsTo 0, other.built = true ∧ other.clock.now ≤ call.clock.now ∧
          call.clock.now < other.clock.stamp + 500) ∧
      p.2.feedback = p.2.dropped + p.2.calls.length + p.1.tasks.length :=
  plis_limited (fun _ => true) _ ⟨by decide, by decide⟩ 0

end GBServer.KeyFrameRequests
