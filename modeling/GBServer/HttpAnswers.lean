import GBServer.SessionClosing
import GBServer.WebService

namespace GBServer.WebService

open Foundation.CStrings
open Foundation.Memory
open GBServer.SessionName
open GBServer.JsonRequests
open Std (ExtTreeMap)

/-- A request whose tasks all complete, with one response unless it opens an FLV
stream. -/
def AnsweredOnce (result : Except Fault (GbMediaService × Outcome)) : Prop :=
  ∃ s outcome responses, result = .ok (s, outcome) ∧
    runNetworkTasks outcome.tasks = .ok responses ∧
    (outcome.flv = none → responses.length = 1)

/-- A session that is closed without a read through a pointer that has been reset. -/
def CloseCompletes (s : GbMediaService) (sessionName : CString) : Prop :=
  ∀ sid, s.sessions[sessionName]? = some sid →
    (s.sessionHeap sid).consumers = [] ∨ s.config.logs .info = false

structure CloseReadable (json : JsonCpp) (s : GbMediaService) (root : JsonValue) : Prop where
  object : ObjectLike json root
  closes : ∃ streamId, json.asString (field root (ascii "streamid")) = .ok streamId ∧
    CloseCompletes s (getSessionNameFromUrl (gb28181Url streamId))

def HandlerAnswers (json : JsonCpp) (s : GbMediaService) (req : HttpRequest)
    (packet : Option CString) : Handler → Prop
  | .rtcProducer | .rtcConsumer => BodyReadable json packet (OfferReadable json)
  | .openRtpServer => BodyReadable json packet (OpenReadable json)
  | .closeRtpServer => BodyReadable json packet (CloseReadable json s)
  | .tsConsumer =>
      getSessionNameFromUrl (flvUrl req.path) ∉ s.sessions ∧
        (split (getSessionNameFromUrl (flvUrl req.path))).length < 2
  | _ => True

/-- The requests that are answered: on a connection with a context, an `OPTIONS`, or one
with a handler that answers it. -/
def Answerable (json : JsonCpp) (httpApiStats hasContext : Bool) (s : GbMediaService)
    (req : HttpRequest) (packet : Option CString) : Prop :=
  hasContext ∧ req.isRequest ∧
    (req.method = .options ∨
      ∃ handler, route httpApiStats req.path = some handler ∧
        HandlerAnswers json s req packet handler)

theorem answeredOnce_respond (s : GbMediaService) (response : HttpResponse) :
    AnsweredOnce (.ok (s, respond response)) :=
  ⟨s, respond response, [response], rfl, rfl, fun _ => rfl⟩

theorem answeredOnce_answerResponse (s : GbMediaService) (answer : Answer) :
    AnsweredOnce (.ok (s, answerResponse answer)) := by
  cases answer with
  | flv viewer => exact ⟨s, _, [], rfl, rfl, nofun⟩
  | notFound => exact answeredOnce_respond s _
  | incomplete => exact answeredOnce_respond s _
  | sdp i => exact answeredOnce_respond s _
  | opened tcpMode streamId port => exact answeredOnce_respond s _
  | closed streamId => exact answeredOnce_respond s _

theorem not_answeredOnce_error (fault : Fault) : ¬ AnsweredOnce (.error fault) := by
  rintro ⟨_, _, _, h, _⟩
  contradiction

theorem answeredOnce_bind_iff {α : Type} {x : Except Fault α}
    {f : α → Except Fault (GbMediaService × Outcome)} :
    AnsweredOnce (x >>= f) ↔ ∃ a, x = .ok a ∧ AnsweredOnce (f a) := by
  cases x with
  | error fault =>
      refine iff_of_false (not_answeredOnce_error fault) ?_
      rintro ⟨_, h, _⟩
      contradiction
  | ok a =>
      constructor
      · intro h
        exact ⟨a, rfl, h⟩
      · rintro ⟨_, heq, h⟩
        obtain rfl := Except.ok.inj heq
        exact h

theorem answeredOnce_bind_answer_iff {α : Type} {x : Except Fault α}
    {f : α → GbMediaService × Answer} :
    AnsweredOnce (x >>= fun a => .ok ((f a).1, answerResponse (f a).2)) ↔ Defined x := by
  rw [answeredOnce_bind_iff]
  exact exists_congr fun a => and_iff_left (answeredOnce_answerResponse _ _)

section Handlers

variable {Stun : Type*} {api : MediaApi Stun} {json : JsonCpp} {around : Surroundings}
  {s : GbMediaService} {packet : Option CString} {path : CString}

theorem answeredOnce_handlerRtcProducer_iff :
    AnsweredOnce (handlerRtcProducer api json around s packet) ↔
      BodyReadable json packet (OfferReadable json) := by
  rw [← defined_offerBody_iff]
  exact answeredOnce_bind_answer_iff

theorem answeredOnce_handlerRtcConsumer_iff :
    AnsweredOnce (handlerRtcConsumer api json around s packet) ↔
      BodyReadable json packet (OfferReadable json) := by
  rw [← defined_offerBody_iff]
  exact answeredOnce_bind_answer_iff

theorem answeredOnce_handlerOpenRtpServer_iff :
    AnsweredOnce (handlerOpenRtpServer json around s packet) ↔
      BodyReadable json packet (OpenReadable json) := by
  rw [← defined_openRtpServerBody_iff]
  exact answeredOnce_bind_answer_iff

theorem defined_closeSession_iff {sessionName : CString} :
    Defined (s.closeSession sessionName) ↔ CloseCompletes s sessionName := by
  rw [CloseCompletes]
  cases hlisted : s.sessions[sessionName]? with
  | none =>
      rw [GbMediaService.closeSession_of_none hlisted]
      exact iff_of_true (defined_ok _) nofun
  | some sid =>
      rw [GbMediaService.closeSession_of_some hlisted]
      simp only [Option.some.injEq, forall_eq']
      split
      · rename_i hfault
        refine iff_of_false (not_defined_error _) ?_
        rintro (hnone | hsilent)
        · exact hfault.1 hnone
        · rw [hsilent] at hfault
          exact absurd hfault.2 nofun
      · rename_i hcompletes
        refine iff_of_true (defined_ok _) ?_
        by_cases hviewers : (s.sessionHeap sid).consumers = []
        · exact Or.inl hviewers
        · exact Or.inr (by simpa [hviewers] using hcompletes)

theorem answeredOnce_handlerCloseRtpServer_iff :
    AnsweredOnce (handlerCloseRtpServer json s packet) ↔
      BodyReadable json packet (CloseReadable json s) := by
  have hcloses : ∀ body, AnsweredOnce (s.handlerCloseRtpServer body >>= fun result =>
      .ok (result.1, answerResponse result.2)) ↔ Defined (s.handlerCloseRtpServer body) :=
    fun body => answeredOnce_bind_answer_iff
  have hread : AnsweredOnce (handlerCloseRtpServer json s packet) ↔
      ∃ body, json.closeRtpServerBody packet = .ok body ∧
        Defined (s.handlerCloseRtpServer body) := by
    rw [handlerCloseRtpServer, answeredOnce_bind_iff]
    exact exists_congr fun body => and_congr_right fun _ => hcloses body
  rw [hread]
  refine exists_readBody_iff (defined_ok _) ?_
  intro root
  constructor
  · rintro ⟨_, hbody, hdefined⟩
    obtain ⟨streamId, hobject, htext, rfl⟩ := readCloseRtpServer_eq_ok.mp hbody
    obtain ⟨_, hdefined⟩ := hdefined
    obtain ⟨closed, hclosed, _⟩ := bind_eq_ok.mp hdefined
    exact ⟨hobject, streamId, htext, defined_closeSession_iff.mp ⟨closed, hclosed⟩⟩
  · rintro ⟨hobject, streamId, htext, hcloses⟩
    refine ⟨_, readCloseRtpServer_eq_ok.mpr ⟨streamId, hobject, htext, rfl⟩, ?_⟩
    rw [GbMediaService.handlerCloseRtpServer,
      defined_bind_of_forall fun _ => iff_true_intro (defined_pure _), and_true,
      defined_closeSession_iff]
    exact hcloses

theorem answeredOnce_handlerFlvConsumer : AnsweredOnce (handlerFlvConsumer around s path) := by
  obtain ⟨s', outcome, responses, heq, hrun, honce⟩ := answeredOnce_answerResponse
    (s.handlerFlvConsumer path around.secrets around.nowMs).1
    (s.handlerFlvConsumer path around.secrets around.nowMs).2
  obtain ⟨rfl, rfl⟩ := Prod.mk.inj (Except.ok.inj heq)
  exact ⟨_, _, responses, rfl, hrun, honce⟩

theorem answeredOnce_handlerM3u8Consumer : AnsweredOnce (handlerM3u8Consumer around s path) := by
  rw [handlerM3u8Consumer]
  split
  · exact answeredOnce_respond _ _
  · split
    · exact ⟨_, _, [_], rfl, rfl, fun _ => rfl⟩
    · exact ⟨_, _, [_], rfl, rfl, fun _ => rfl⟩

theorem runNetworkTasks_fragment {frag : Option CString} {responses : List HttpResponse}
    (h : runNetworkTasks [.fragment frag] = .ok responses) : responses = [] := by
  simp only [runNetworkTasks, runNetworkTask, bind_eq_ok, pure_eq_ok] at h
  obtain ⟨_, ⟨_, _, rfl⟩, _, hlater, rfl⟩ := h
  obtain rfl := Except.ok.inj hlater
  rfl

theorem sessionOfPath_eq_none_iff : (sessionOfPath s path).2 = none ↔
    getSessionNameFromUrl (flvUrl path) ∉ s.sessions ∧
      (split (getSessionNameFromUrl (flvUrl path))).length < 2 := by
  rw [sessionOfPath, GbMediaService.createSession, ExtTreeMap.mem_iff_isSome_getElem?]
  cases s.sessions[getSessionNameFromUrl (flvUrl path)]? with
  | some sid => simp
  | none =>
      by_cases hshort : (split (getSessionNameFromUrl (flvUrl path))).length < 2
      · simp [hshort]
      · simp [hshort]

theorem answeredOnce_handlerTsConsumer_iff :
    AnsweredOnce (handlerTsConsumer around s path) ↔
      getSessionNameFromUrl (flvUrl path) ∉ s.sessions ∧
        (split (getSessionNameFromUrl (flvUrl path))).length < 2 := by
  rw [handlerTsConsumer, ← sessionOfPath_eq_none_iff]
  split
  · rename_i hsession
    rw [hsession]
    exact iff_of_true (answeredOnce_respond _ _) rfl
  · rename_i sid hsession
    rw [hsession]
    refine iff_of_false ?_ nofun
    rintro ⟨_, _, responses, heq, hrun, honce⟩
    obtain ⟨rfl, rfl⟩ := Prod.mk.inj (Except.ok.inj heq)
    rw [runNetworkTasks_fragment hrun] at honce
    exact absurd (honce rfl) (by decide)

theorem answeredOnce_namedStats (mark path : CString) (stats : CString → Option CString) :
    AnsweredOnce (.ok (s, namedStats mark path stats)) := by
  rw [namedStats]
  split
  · exact answeredOnce_respond s _
  · split
    · exact answeredOnce_respond s _
    · split
      · exact answeredOnce_respond s _
      · exact answeredOnce_respond s _

theorem answeredOnce_handle_iff (req : HttpRequest) (handler : Handler) :
    AnsweredOnce (handle api json around s req packet handler) ↔
      HandlerAnswers json s req packet handler := by
  cases handler with
  | rtcProducer => exact answeredOnce_handlerRtcProducer_iff
  | rtcConsumer => exact answeredOnce_handlerRtcConsumer_iff
  | flvConsumer => exact iff_of_true answeredOnce_handlerFlvConsumer trivial
  | m3u8Consumer => exact iff_of_true answeredOnce_handlerM3u8Consumer trivial
  | tsConsumer => exact answeredOnce_handlerTsConsumer_iff
  | openRtpServer => exact answeredOnce_handlerOpenRtpServer_iff
  | closeRtpServer => exact answeredOnce_handlerCloseRtpServer_iff
  | systemStats => exact iff_of_true (answeredOnce_respond s _) trivial
  | producerStats => exact iff_of_true (answeredOnce_namedStats _ _ _) trivial
  | consumerStats => exact iff_of_true (answeredOnce_namedStats _ _ _) trivial
  | sessionStats => exact iff_of_true (answeredOnce_namedStats _ _ _) trivial
  | allSessionsStats => exact iff_of_true (answeredOnce_respond s _) trivial

theorem not_answeredOnce_silent : ¬ AnsweredOnce (.ok (s, {})) := by
  rintro ⟨_, _, responses, heq, hrun, honce⟩
  obtain ⟨rfl, rfl⟩ := Prod.mk.inj (Except.ok.inj heq)
  obtain rfl := Except.ok.inj hrun
  exact absurd (honce rfl) (by decide)

end Handlers

/-- A request ends well exactly when it has a handler that answers it. -/
theorem answeredOnce_iff {Stun : Type*} (api : MediaApi Stun) (json : JsonCpp)
    (around : Surroundings) (s : GbMediaService) (httpApiStats hasContext : Bool)
    (req : HttpRequest) (packet : Option CString) :
    AnsweredOnce (onRequest api json around s httpApiStats hasContext req packet) ↔
      Answerable json httpApiStats hasContext s req packet := by
  rw [onRequest, Answerable]
  by_cases hreq : hasContext && req.isRequest
  · rw [if_pos hreq]
    obtain ⟨hcontext, hrequest⟩ := Bool.and_eq_true_iff.mp hreq
    by_cases hoptions : req.method = .options
    · rw [if_pos hoptions]
      exact iff_of_true (answeredOnce_respond s _) ⟨hcontext, hrequest, Or.inl hoptions⟩
    · rw [if_neg hoptions]
      cases hroute : route httpApiStats req.path with
      | none =>
          refine iff_of_false not_answeredOnce_silent ?_
          rintro ⟨_, _, h | ⟨_, h, _⟩⟩
          · exact hoptions h
          · contradiction
      | some handler =>
          dsimp only
          rw [answeredOnce_handle_iff]
          constructor
          · intro h
            exact ⟨hcontext, hrequest, Or.inr ⟨handler, rfl, h⟩⟩
          · rintro ⟨_, _, h | ⟨_, heq, h⟩⟩
            · exact absurd h hoptions
            · obtain rfl := Option.some.inj heq
              exact h
  · rw [if_neg hreq]
    refine iff_of_false not_answeredOnce_silent ?_
    rintro ⟨hcontext, hrequest, _⟩
    exact hreq (Bool.and_eq_true_iff.mpr ⟨hcontext, hrequest⟩)

def sampleJson : JsonCpp where
  parse := fun data => .ok (if data = ascii "[]" then some (.array []) else none)
  nullIsObject := true
  realText := fun _ => []

def sampleSurroundings : Surroundings where
  secrets := ⟨fun _ => "aa", "secret"⟩
  nowMs := 0
  started := true
  playList := fun _ => []
  fragment := fun _ _ => none
  systemStats := []
  producerStats := fun _ => none
  consumerStats := fun _ => none
  sessionStats := fun _ => []
  allSessionsStats := []

/-- `POST /rtc/push` with an array for its body. -/
theorem not_answeredOnce :
    ¬ ∀ (req : HttpRequest) (packet : Option CString),
      req.isRequest → AnsweredOnce
        (onRequest GbMediaService.sampleApi sampleJson sampleSurroundings
          (GbMediaService.startup GbMediaService.sampleConfig) false true req packet) := by
  intro hclaim
  have hpush := hclaim ⟨true, .post, ascii "/rtc/push"⟩ (some (ascii "[]")) rfl
  have hfault : onRequest GbMediaService.sampleApi sampleJson sampleSurroundings
      (GbMediaService.startup GbMediaService.sampleConfig) false true
      ⟨true, .post, ascii "/rtc/push"⟩ (some (ascii "[]")) = .error .uncaughtException := rfl
  rw [hfault] at hpush
  exact not_answeredOnce_error _ hpush

end GBServer.WebService
