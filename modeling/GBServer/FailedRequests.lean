import GBServer.MediaRuns

namespace GBServer

open Std (ExtTreeMap)
open Foundation.CStrings
open Foundation.Runs
open GBServer.SessionName

/-- The registry of the statistics objects; an object is known by its endpoint. -/
structure StatisticsManager where
  producerStats : ExtTreeMap CString ResourceId := ∅
  consumerStats : ExtTreeMap CString ResourceId := ∅
  sessionConsumers : ExtTreeMap CString (List CString) := ∅

namespace StatisticsManager

def registerProducer (m : StatisticsManager) (sessionName : CString) (i : ResourceId) :
    StatisticsManager :=
  { m with producerStats := m.producerStats.insert sessionName i }

def unregisterProducer (m : StatisticsManager) (sessionName : CString) : StatisticsManager :=
  { m with producerStats := m.producerStats.erase sessionName }

def registerConsumer (m : StatisticsManager) (consumerId sessionName : CString)
    (i : ResourceId) : StatisticsManager :=
  { m with
    consumerStats := m.consumerStats.insert consumerId i
    sessionConsumers := m.sessionConsumers.insert sessionName
      ((m.sessionConsumers[sessionName]?).getD [] ++ [consumerId]) }

def unregisterConsumer (m : StatisticsManager) (consumerId : CString) : StatisticsManager :=
  { m with
    sessionConsumers := m.sessionConsumers.map fun _ consumers =>
      consumers.filter (· ≠ consumerId)
    consumerStats := m.consumerStats.erase consumerId }

end StatisticsManager

instance (session : Session) (i : ResourceId) : Decidable (session.Has i) :=
  inferInstanceAs (Decidable (_ ∨ _))

namespace GbMediaService

def sessionNameOf (s : GbMediaService) (i : ResourceId) : CString :=
  (s.sessionHeap (s.resources i).session).sessionName

/-- The audio SSRC is drawn at random by the constructor. -/
def consumerId (s : GbMediaService) (ssrc : ResourceId → UInt32) (i : ResourceId) : CString :=
  s.sessionNameOf i ++ ascii "_consumer_" ++ ascii (toString (ssrc i).toNat)

/-- The constructor of an RTC endpoint registers its statistics. -/
def constructStatistics (s : GbMediaService) (ssrc : ResourceId → UInt32)
    (m : StatisticsManager) (i : ResourceId) : StatisticsManager :=
  match (s.resources i).type with
  | .producerRtc => m.registerProducer (s.sessionNameOf i) i
  | .consumerRtc => m.registerConsumer (s.consumerId ssrc i) (s.sessionNameOf i) i
  | _ => m

/-- The destructor unregisters them, a producer by the name of its session. -/
def destroyStatistics (s : GbMediaService) (ssrc : ResourceId → UInt32)
    (m : StatisticsManager) (i : ResourceId) : StatisticsManager :=
  match (s.resources i).type with
  | .producerRtc => m.unregisterProducer (s.sessionNameOf i)
  | .consumerRtc => m.unregisterConsumer (s.consumerId ssrc i)
  | _ => m

def Referenced (s : GbMediaService) (i : ResourceId) : Prop :=
  (s.sessionHeap (s.resources i).session).Has i ∨
    i ∈ (s.serviceOf i).nameRtcInterface.values ∨ i ∈ (s.serviceOf i).rtcInterfaces.values

instance (s : GbMediaService) (i : ResourceId) : Decidable (s.Referenced i) :=
  inferInstanceAs (Decidable (_ ∨ _))

/-- The statistics after a request that leads from `s` to `t`: its new endpoints are
constructed before those without a reference are destroyed. -/
def statisticsAfter (s t : GbMediaService) (ssrc : ResourceId → UInt32)
    (m : StatisticsManager) : StatisticsManager :=
  let created := (List.range t.nextResource).filter (s.nextResource ≤ ·)
  let destroyed := (List.range t.nextResource).filter fun i =>
    (s.nextResource ≤ i ∨ s.Referenced i) ∧ ¬ t.Referenced i
  destroyed.foldl (t.destroyStatistics ssrc) (created.foldl (t.constructStatistics ssrc) m)

end GbMediaService

namespace FailedRequests

open GBServer.GbMediaService

/-- The session table, the endpoints of the sessions, the registry and the statistics are
as they were. -/
structure Unchanged (s t : GbMediaService) (m n : StatisticsManager) : Prop where
  sessions : t.sessions = s.sessions
  producer : ∀ sid, (t.sessionHeap sid).producer = (s.sessionHeap sid).producer
  consumers : ∀ sid, (t.sessionHeap sid).consumers = (s.sessionHeap sid).consumers
  nameRtcInterface : ∀ k, (t.rtcServices k).nameRtcInterface = (s.rtcServices k).nameRtcInterface
  nameRtcUfrag : ∀ k, (t.rtcServices k).nameRtcUfrag = (s.rtcServices k).nameRtcUfrag
  rtcInterfaces : ∀ k, (t.rtcServices k).rtcInterfaces = (s.rtcServices k).rtcInterfaces
  statistics : n = m

def FailsCleanly (s : GbMediaService) (ssrc : ResourceId → UInt32) (m : StatisticsManager)
    (p : GbMediaService × Answer) : Prop :=
  p.2 = .notFound → Unchanged s p.1 m (s.statisticsAfter p.1 ssrc m)

/-- An offer for an acceptable URL has an SDP that parses. -/
def SdpParses {Stun : Type*} (api : MediaApi Stun) (body : OfferBody) : Prop :=
  ∀ streamurl sdp, body = .offer streamurl sdp → 5 ≤ (split streamurl).length →
    api.decodeSdp sdp = true

theorem statisticsAfter_self (s : GbMediaService) (ssrc : ResourceId → UInt32)
    (m : StatisticsManager) : s.statisticsAfter s ssrc m = m := by
  have hcreated : (List.range s.nextResource).filter (s.nextResource ≤ ·) = [] := by
    rw [List.filter_eq_nil_iff]
    intro i hi
    simpa using List.mem_range.mp hi
  have hdestroyed : ((List.range s.nextResource).filter fun i =>
      (s.nextResource ≤ i ∨ s.Referenced i) ∧ ¬ s.Referenced i) = [] := by
    rw [List.filter_eq_nil_iff]
    intro i hi
    have hlt := List.mem_range.mp hi
    simp only [decide_eq_true_eq, not_and, not_not]
    intro hreferenced
    exact hreferenced.resolve_left (Nat.not_le.mpr hlt)
  simp only [statisticsAfter, hcreated, hdestroyed, List.foldl_nil]

theorem unchanged_self (s : GbMediaService) (ssrc : ResourceId → UInt32)
    (m : StatisticsManager) : Unchanged s s m (s.statisticsAfter s ssrc m) :=
  ⟨rfl, fun _ => rfl, fun _ => rfl, fun _ => rfl, fun _ => rfl, fun _ => rfl,
    statisticsAfter_self s ssrc m⟩

theorem lt_length_split_of_createSession {s s' : GbMediaService} (h : s.Linked)
    {streamurl : CString} {sid : SessionId}
    (hcreate : s.createSession (getSessionNameFromUrl streamurl) = (s', some sid)) :
    5 ≤ (split streamurl).length := by
  obtain ⟨h', hlisted⟩ := h.createSession hcreate
  have hfields := (h'.session hlisted).2.2
  by_contra hshort
  have hname := length_split_getSessionNameFromUrl_lt.mpr (Nat.not_le.mp hshort)
  omega

theorem length_split_lt_of_createSession {s s' : GbMediaService} {streamurl : CString}
    (hcreate : s.createSession (getSessionNameFromUrl streamurl) = (s', none)) :
    ¬ 5 ≤ (split streamurl).length := by
  rw [Nat.not_le, ← length_split_getSessionNameFromUrl_lt]
  exact (createSession_of_none hcreate).2.1

section Requests

variable {Stun : Type*} (api : MediaApi Stun) {s : GbMediaService} (h : s.Linked)
  (ssrc : ResourceId → UInt32) (m : StatisticsManager)

include h

theorem not_unchanged_of_has {t : GbMediaService} {n : StatisticsManager} {sid : SessionId}
    (hattached : (t.sessionHeap sid).Has s.nextResource) : ¬ Unchanged s t m n := by
  intro hsame
  have hold : (s.sessionHeap sid).Has s.nextResource := by
    rcases hattached with hp | hc
    · exact Or.inl (hsame.producer sid ▸ hp)
    · exact Or.inr (hsame.consumers sid ▸ hc)
  rcases hold with hp | hc
  · exact absurd (h.producer hp).1.created (Nat.lt_irrefl _)
  · exact absurd (h.consumer hc).1.created (Nat.lt_irrefl _)

theorem failsCleanly_answer_iff {t u : GbMediaService} {sid : SessionId} {i : ResourceId}
    (hattached : (t.sessionHeap sid).Has s.nextResource) {streamurl : CString}
    (hfields : 5 ≤ (split streamurl).length) (sdp : CString) :
    FailsCleanly s ssrc m (if api.decodeSdp sdp then (u, .sdp i) else (t, .notFound)) ↔
      SdpParses api (.offer streamurl sdp) := by
  cases hdecode : api.decodeSdp sdp with
  | true =>
      apply iff_of_true (by simp [FailsCleanly])
      rintro _ _ ⟨⟩ _
      exact hdecode
  | false =>
      apply iff_of_false
      · intro hclean
        exact not_unchanged_of_has h m hattached (hclean rfl)
      · intro hparses
        rw [hparses streamurl sdp rfl hfields] at hdecode
        cases hdecode

theorem push_failsCleanly_iff (body : OfferBody) (secrets : IceSecrets) (nowMs : Int) :
    FailsCleanly s ssrc m (s.handlerRtcProducer api body secrets nowMs) ↔ SdpParses api body := by
  cases body with
  | malformed => exact iff_of_true (fun _ => unchanged_self s ssrc m) (by simp [SdpParses])
  | incomplete => exact iff_of_true (fun _ => unchanged_self s ssrc m) (by simp [SdpParses])
  | offer streamurl sdp =>
      rcases hcreate : s.createSession (getSessionNameFromUrl streamurl) with ⟨s', _ | sid⟩
      · rw [handlerRtcProducer_rejected api secrets nowMs hcreate]
        refine iff_of_true (fun _ => unchanged_self s ssrc m) ?_
        rintro _ _ ⟨⟩ hfields
        exact absurd hfields (length_split_lt_of_createSession hcreate)
      · have hattached : ((s'.attachRtcProducer sid secrets nowMs).sessionHeap
            sid).Has s.nextResource := by
          left
          rw [producer_attachRtcProducer]
          exact congrArg some (createSession_frame nextResource rfl hcreate)
        rw [handlerRtcProducer_offer api secrets nowMs h hcreate]
        exact failsCleanly_answer_iff api h ssrc m hattached
          (lt_length_split_of_createSession h hcreate) sdp

theorem play_failsCleanly_iff (body : OfferBody) (secrets : IceSecrets) (nowMs : Int) :
    FailsCleanly s ssrc m (s.handlerRtcConsumer api body secrets nowMs) ↔ SdpParses api body := by
  cases body with
  | malformed => exact iff_of_true (fun _ => unchanged_self s ssrc m) (by simp [SdpParses])
  | incomplete => exact iff_of_true (fun _ => unchanged_self s ssrc m) (by simp [SdpParses])
  | offer streamurl sdp =>
      rcases hcreate : s.createSession (getSessionNameFromUrl streamurl) with ⟨s', _ | sid⟩
      · rw [handlerRtcConsumer_rejected api secrets nowMs hcreate]
        refine iff_of_true (fun _ => unchanged_self s ssrc m) ?_
        rintro _ _ ⟨⟩ hfields
        exact absurd hfields (length_split_lt_of_createSession hcreate)
      · have hattached : ((s'.attachRtcConsumer sid secrets nowMs).sessionHeap
            sid).Has s.nextResource := by
          right
          rw [← createSession_frame nextResource rfl hcreate]
          exact mem_attachRtcConsumer s' sid secrets nowMs
        rw [handlerRtcConsumer_offer api secrets nowMs h hcreate]
        exact failsCleanly_answer_iff api h ssrc m hattached
          (lt_length_split_of_createSession h hcreate) sdp

end Requests

/-- In every reachable state, a request that is answered 404 changes nothing exactly when
the offer of an acceptable URL has an SDP that parses. -/
theorem reached_failsCleanly_iff {Stun : Type*} (api : MediaApi Stun) (config : ServerConfig)
    (inputs : List Input) :
    OnOk (fun s => ∀ (ssrc : ResourceId → UInt32) (m : StatisticsManager) (body : OfferBody)
        (secrets : IceSecrets) (nowMs : Int),
        (FailsCleanly s ssrc m (s.handlerRtcProducer api body secrets nowMs) ↔
            SdpParses api body) ∧
          (FailsCleanly s ssrc m (s.handlerRtcConsumer api body secrets nowMs) ↔
            SdpParses api body))
      (run (guarded (step api)) (.ok (startup config)) inputs) := by
  have hreached := onOk_run (linked_startup config) (fun _ input h => h.step api input) inputs
  intro s hs ssrc m body secrets nowMs
  have h : s.Linked := hreached s hs
  exact ⟨push_failsCleanly_iff api h ssrc m body secrets nowMs,
    play_failsCleanly_iff api h ssrc m body secrets nowMs⟩

/-- A push whose SDP does not parse displaces the live producer. -/
theorem not_reached_failsCleanly :
    ¬ ∀ (config : ServerConfig) (inputs : List Input),
      OnOk (fun s => ∀ (ssrc : ResourceId → UInt32) (m : StatisticsManager) (body : OfferBody)
          (secrets : IceSecrets) (nowMs : Int),
          FailsCleanly s ssrc m (s.handlerRtcProducer sampleApi body secrets nowMs))
        (run (guarded (step sampleApi)) (.ok (startup config)) inputs) := by
  intro hclaim
  have hunchanged := hclaim sampleConfig [samplePush "aa" 0] _ rfl (fun _ => 10000000) {}
    (.offer sampleUrl []) ⟨fun _ => "bb", "secret"⟩ 1000 (by decide)
  have hproducer := hunchanged.producer 0
  revert hproducer
  decide

end FailedRequests

end GBServer
