import GBServer.FlvViewers
import GBServer.HttpAnswers

namespace GBServer.WebService

open Foundation.CStrings
open Foundation.Memory
open GBServer.SessionName
open GBServer.JsonRequests

/-- A body that is not JSON is answered on the worker thread. -/
def answersAtOnce (json : JsonCpp) (packet : Option CString) : Handler → Bool
  | .rtcProducer | .rtcConsumer =>
      match json.offerBody packet with
      | .ok .malformed => true
      | _ => false
  | .openRtpServer =>
      match json.openRtpServerBody packet with
      | .ok .malformed => true
      | _ => false
  | .closeRtpServer =>
      match json.closeRtpServerBody packet with
      | .ok .malformed => true
      | _ => false
  | _ => false

/-- The response tasks of an HLS request that found its session do not call `WriteComplete`.
The one of a playlist calls `HttpContext::PostRequest`, which is not part of the program;
`postRequestUses` is whether that uses the connection. -/
def writesConnection (postRequestUses : Bool) (outcome : Outcome) : Handler → Bool
  | .m3u8Consumer => outcome.session.isNone || postRequestUses
  | .tsConsumer => outcome.session.isNone
  | _ => true

/-- Whether a handler dereferences the connection, at once or from a response task. -/
def usesConnection (postRequestUses : Bool) (req : HttpRequest) : Handler → Prop
  | .m3u8Consumer =>
      (split (getSessionNameFromUrl (flvUrl req.path))).length < 2 ∨ postRequestUses = true
  | .tsConsumer => (split (getSessionNameFromUrl (flvUrl req.path))).length < 2
  | _ => True

section Handlers

variable {Stun : Type*} {api : MediaApi Stun} {json : JsonCpp} {around : Surroundings}
  {s t : GbMediaService} {req : HttpRequest} {packet : Option CString} {handler : Handler}
  {outcome : Outcome}

structure Handled (s t : GbMediaService) (req : HttpRequest) (handler : Handler)
    (outcome : Outcome) : Prop where
  linked : t.Linked
  viewer : ∀ i, t.IsFlvViewer i → s.IsFlvViewer i ∨ outcome.flv = some i
  answers : outcome.tasks ≠ [] ∨ outcome.flv ≠ none
  writes : ∀ postRequestUses, writesConnection postRequestUses outcome handler = true ↔
    usesConnection postRequestUses req handler
  flv : outcome.flv ≠ none → handler = .flvConsumer ∧
    2 ≤ (split (getSessionNameFromUrl (flvUrl req.path))).length

theorem Handled.of_noNewViewer (hlinked : t.Linked) (hviewer : GbMediaService.NoNewViewer s t)
    (hanswers : outcome.tasks ≠ [] ∨ outcome.flv ≠ none)
    (hwrites : ∀ postRequestUses, writesConnection postRequestUses outcome handler = true ↔
      usesConnection postRequestUses req handler)
    (hflv : outcome.flv = none) : Handled s t req handler outcome :=
  ⟨hlinked, fun i hi => .inl (hviewer i hi), hanswers, hwrites, fun h => absurd hflv h⟩

theorem answers_answerResponse (answer : Answer) :
    (answerResponse answer).tasks ≠ [] ∨ (answerResponse answer).flv ≠ none := by
  cases answer with
  | flv viewer => exact .inr (Option.some_ne_none viewer)
  | _ => exact .inl (List.cons_ne_nil _ _)

theorem flv_handlerRtcProducer (h : s.Linked) (body : OfferBody) (secrets : IceSecrets)
    (nowMs : Int) :
    (answerResponse (s.handlerRtcProducer api body secrets nowMs).2).flv = none := by
  cases body with
  | malformed => rfl
  | incomplete => rfl
  | offer streamurl sdp =>
      rcases hcreate : s.createSession (getSessionNameFromUrl streamurl) with ⟨s', _ | sid⟩
      · rw [GbMediaService.handlerRtcProducer_rejected api secrets nowMs hcreate]
        rfl
      · rw [GbMediaService.handlerRtcProducer_offer api secrets nowMs h hcreate]
        split <;> rfl

theorem flv_handlerRtcConsumer (h : s.Linked) (body : OfferBody) (secrets : IceSecrets)
    (nowMs : Int) :
    (answerResponse (s.handlerRtcConsumer api body secrets nowMs).2).flv = none := by
  cases body with
  | malformed => rfl
  | incomplete => rfl
  | offer streamurl sdp =>
      rcases hcreate : s.createSession (getSessionNameFromUrl streamurl) with ⟨s', _ | sid⟩
      · rw [GbMediaService.handlerRtcConsumer_rejected api secrets nowMs hcreate]
        rfl
      · rw [GbMediaService.handlerRtcConsumer_offer api secrets nowMs h hcreate]
        split <;> rfl

theorem flv_handlerOpenRtpServer (h : s.Linked) (body : RtpServerBody) (started : Bool)
    (secrets : IceSecrets) (nowMs : Int) :
    (answerResponse (s.handlerOpenRtpServer body started secrets nowMs).2).flv = none := by
  cases body with
  | malformed => rfl
  | request tcpMode streamId =>
      obtain ⟨s', sid, hcreate⟩ := @GbMediaService.createSession_gb28181Url s streamId
      cases hfree : s'.rtpServer[getSessionNameFromUrl (gb28181Url streamId)]? with
      | some server =>
          rw [GbMediaService.handlerOpenRtpServer_again started secrets nowMs tcpMode hcreate
            hfree]
          rfl
      | none =>
          rw [GbMediaService.handlerOpenRtpServer_request started secrets nowMs tcpMode hcreate h
            hfree]
          rfl

theorem flv_handlerCloseRtpServer {body : RtpServerBody} {answer : Answer}
    (hclose : s.handlerCloseRtpServer body = .ok (t, answer)) :
    (answerResponse answer).flv = none := by
  cases body with
  | malformed =>
      obtain ⟨_, rfl⟩ := Prod.mk.inj (Except.ok.inj hclose)
      rfl
  | request tcpMode streamId =>
      rw [GbMediaService.handlerCloseRtpServer, bind_eq_ok] at hclose
      obtain ⟨⟨s', ok⟩, _, hclose⟩ := hclose
      cases ok with
      | false =>
          obtain ⟨_, rfl⟩ := pure_pair_eq_ok.mp hclose
          rfl
      | true =>
          obtain ⟨_, rfl⟩ := pure_pair_eq_ok.mp hclose
          rfl

theorem handled_handlerRtcProducer (h : s.Linked)
    (hhandle : handlerRtcProducer api json around s packet = .ok (t, outcome)) :
    Handled s t req .rtcProducer outcome := by
  obtain ⟨body, _, hhandle⟩ := bind_eq_ok.mp hhandle
  obtain ⟨rfl, rfl⟩ := pure_pair_eq_ok.mp hhandle
  refine .of_noNewViewer (h.handlerRtcProducer api body _ _) ?_
    (answers_answerResponse _) (fun _ => iff_of_true rfl trivial)
    (flv_handlerRtcProducer h body _ _)
  refine GbMediaService.handlerRtcProducer_rule api (.refl s) h body _ _ ?_
  intro s' sessionName sid hcreate
  have hattached := (GbMediaService.noNewViewer_createSession hcreate).trans
    (GbMediaService.noNewViewer_attachRtcProducer (h.createSession hcreate).1 sid
      around.secrets around.nowMs)
  exact ⟨hattached, hattached.trans
    (GbMediaService.noNewViewer_registerRtcInterface _ sid s'.nextResource)⟩

theorem handled_handlerRtcConsumer (h : s.Linked)
    (hhandle : handlerRtcConsumer api json around s packet = .ok (t, outcome)) :
    Handled s t req .rtcConsumer outcome := by
  obtain ⟨body, _, hhandle⟩ := bind_eq_ok.mp hhandle
  obtain ⟨rfl, rfl⟩ := pure_pair_eq_ok.mp hhandle
  refine .of_noNewViewer (h.handlerRtcConsumer api body _ _) ?_
    (answers_answerResponse _) (fun _ => iff_of_true rfl trivial)
    (flv_handlerRtcConsumer h body _ _)
  refine GbMediaService.handlerRtcConsumer_rule api (.refl s) h body _ _ ?_
  intro s' sessionName sid hcreate
  have hattached := (GbMediaService.noNewViewer_createSession hcreate).trans
    (GbMediaService.noNewViewer_attachRtcConsumer (h.createSession hcreate).1 sid
      around.secrets around.nowMs)
  exact ⟨hattached, hattached.trans
    (GbMediaService.noNewViewer_registerRtcInterface _ sid s'.nextResource)⟩

theorem handled_handlerOpenRtpServer (h : s.Linked)
    (hhandle : handlerOpenRtpServer json around s packet = .ok (t, outcome)) :
    Handled s t req .openRtpServer outcome := by
  obtain ⟨body, _, hhandle⟩ := bind_eq_ok.mp hhandle
  obtain ⟨rfl, rfl⟩ := pure_pair_eq_ok.mp hhandle
  refine .of_noNewViewer (h.handlerOpenRtpServer body _ _ _) ?_
    (answers_answerResponse _) (fun _ => iff_of_true rfl trivial)
    (flv_handlerOpenRtpServer h body _ _ _)
  refine GbMediaService.handlerOpenRtpServer_rule (.refl s) h body _ _ _ ?_
  intro s' sessionName sid hcreate
  have hnew := GbMediaService.noNewViewer_createSession hcreate
  exact ⟨hnew, hnew.trans (GbMediaService.noNewViewer_openedRtpServer
    (h.createSession hcreate).1 sessionName sid around.started around.nowMs)⟩

theorem handled_handlerCloseRtpServer (h : s.Linked)
    (hhandle : handlerCloseRtpServer json s packet = .ok (t, outcome)) :
    Handled s t req .closeRtpServer outcome := by
  obtain ⟨body, _, hhandle⟩ := bind_eq_ok.mp hhandle
  obtain ⟨⟨s', answer⟩, hclose, hhandle⟩ := bind_eq_ok.mp hhandle
  obtain ⟨rfl, rfl⟩ := pure_pair_eq_ok.mp hhandle
  refine .of_noNewViewer ?_ ?_ (answers_answerResponse _) (fun _ => iff_of_true rfl trivial)
    (flv_handlerCloseRtpServer hclose)
  · exact GbMediaService.onOk_handlerCloseRtpServer h body h.closed _ hclose
  · exact GbMediaService.onOk_handlerCloseRtpServer (.refl s) body
      (fun _ => GbMediaService.noNewViewer_closed s _ _) _ hclose

theorem handled_handlerFlvConsumer (h : s.Linked)
    (hhandle : handlerFlvConsumer around s req.path = .ok (t, outcome)) :
    Handled s t req .flvConsumer outcome := by
  have hlinked := h.handlerFlvConsumer req.path around.secrets around.nowMs
  rw [handlerFlvConsumer] at hhandle
  rcases hcreate : s.createSession (getSessionNameFromUrl (flvUrl req.path)) with
    ⟨s', _ | sid⟩
  · rw [GbMediaService.handlerFlvConsumer_rejected around.secrets around.nowMs hcreate]
      at hhandle
    obtain ⟨rfl, rfl⟩ := pure_pair_eq_ok.mp hhandle
    exact .of_noNewViewer h (.refl _) (.inl (List.cons_ne_nil _ _))
      (fun _ => iff_of_true rfl trivial) rfl
  · rw [GbMediaService.handlerFlvConsumer_path around.secrets around.nowMs h hcreate]
      at hhandle hlinked
    obtain ⟨rfl, rfl⟩ := pure_pair_eq_ok.mp hhandle
    obtain ⟨h', hlisted⟩ := h.createSession hcreate
    refine ⟨hlinked, ?_, .inr (Option.some_ne_none _), fun _ => iff_of_true rfl trivial,
      fun _ => ⟨rfl, ?_⟩⟩
    · intro i hi
      rcases hi.of_addConsumer with hi | ⟨rfl, _⟩
      · exact .inl (GbMediaService.noNewViewer_createSession hcreate i
          (GbMediaService.noNewViewer_newResource h' sid .consumerFlv around.nowMs i hi))
      · exact .inr rfl
    · exact (h'.session hlisted).2.2

theorem Handled.of_noSession (h : s.Linked)
    (hhls : handler = .m3u8Consumer ∨ handler = .tsConsumer)
    (hsession : sessionOfPath s req.path = (t, none)) :
    Handled s t req handler (respond notFound) := by
  obtain ⟨_, hshort, rfl⟩ := GbMediaService.createSession_of_none hsession
  refine .of_noNewViewer h (.refl _) (.inl (List.cons_ne_nil _ _)) ?_ rfl
  intro postRequestUses
  rcases hhls with rfl | rfl
  · exact iff_of_true rfl (.inl hshort)
  · exact iff_of_true rfl hshort

theorem Handled.of_session {sid : SessionId} (h : s.Linked)
    (hhls : handler = .m3u8Consumer ∨ handler = .tsConsumer)
    (hsession : sessionOfPath s req.path = (t, some sid)) (hfound : outcome.session = some sid)
    (htasks : outcome.tasks ≠ []) (hflv : outcome.flv = none) :
    Handled s t req handler outcome := by
  obtain ⟨h', hlisted⟩ := h.createSession hsession
  have hnew := GbMediaService.noNewViewer_createSession hsession
  have hfields := Nat.not_lt.mpr (h'.session hlisted).2.2
  have hsilent : ¬ outcome.session.isNone = true := by simp [hfound]
  refine .of_noNewViewer h' hnew (.inl htasks) ?_ hflv
  intro postRequestUses
  rcases hhls with rfl | rfl
  · rw [writesConnection, usesConnection, Bool.or_eq_true]
    exact or_congr_left (iff_of_false hsilent hfields)
  · exact iff_of_false hsilent hfields

theorem handled_handlerM3u8Consumer (h : s.Linked)
    (hhandle : handlerM3u8Consumer around s req.path = .ok (t, outcome)) :
    Handled s t req .m3u8Consumer outcome := by
  rw [handlerM3u8Consumer] at hhandle
  split at hhandle
  · rename_i hsession
    obtain ⟨rfl, rfl⟩ := pure_pair_eq_ok.mp hhandle
    exact .of_noSession h (.inl rfl) hsession
  · rename_i hsession
    split at hhandle
    all_goals
      obtain ⟨rfl, rfl⟩ := pure_pair_eq_ok.mp hhandle
      exact .of_session h (.inl rfl) hsession rfl (List.cons_ne_nil _ _) rfl

theorem handled_handlerTsConsumer (h : s.Linked)
    (hhandle : handlerTsConsumer around s req.path = .ok (t, outcome)) :
    Handled s t req .tsConsumer outcome := by
  rw [handlerTsConsumer] at hhandle
  split at hhandle
  · rename_i hsession
    obtain ⟨rfl, rfl⟩ := pure_pair_eq_ok.mp hhandle
    exact .of_noSession h (.inr rfl) hsession
  · rename_i hsession
    obtain ⟨rfl, rfl⟩ := pure_pair_eq_ok.mp hhandle
    exact .of_session h (.inr rfl) hsession rfl (List.cons_ne_nil _ _) rfl

theorem handled_respond (h : s.Linked) (response : HttpResponse)
    (huses : ∀ postRequestUses, usesConnection postRequestUses req handler)
    (hwrites : ∀ postRequestUses outcome,
      writesConnection postRequestUses outcome handler = true) :
    Handled s s req handler (respond response) :=
  .of_noNewViewer h (.refl s) (.inl (List.cons_ne_nil _ _))
    (fun uses => iff_of_true (hwrites uses _) (huses uses)) rfl

theorem handled_namedStats (h : s.Linked) (mark path : CString)
    (stats : CString → Option CString)
    (huses : ∀ postRequestUses, usesConnection postRequestUses req handler)
    (hwrites : ∀ postRequestUses outcome,
      writesConnection postRequestUses outcome handler = true) :
    Handled s s req handler (namedStats mark path stats) := by
  rw [namedStats]
  split
  · exact handled_respond h _ huses hwrites
  · split
    · exact handled_respond h _ huses hwrites
    · split
      · exact handled_respond h _ huses hwrites
      · exact handled_respond h _ huses hwrites

theorem handled_handle (h : s.Linked)
    (hhandle : handle api json around s req packet handler = .ok (t, outcome)) :
    Handled s t req handler outcome := by
  cases handler with
  | rtcProducer => exact handled_handlerRtcProducer h hhandle
  | rtcConsumer => exact handled_handlerRtcConsumer h hhandle
  | flvConsumer => exact handled_handlerFlvConsumer h hhandle
  | m3u8Consumer => exact handled_handlerM3u8Consumer h hhandle
  | tsConsumer => exact handled_handlerTsConsumer h hhandle
  | openRtpServer => exact handled_handlerOpenRtpServer h hhandle
  | closeRtpServer => exact handled_handlerCloseRtpServer h hhandle
  | systemStats | allSessionsStats =>
      obtain ⟨rfl, rfl⟩ := pure_pair_eq_ok.mp hhandle
      exact handled_respond h _ (fun _ => trivial) fun _ _ => rfl
  | producerStats | consumerStats | sessionStats =>
      obtain ⟨rfl, rfl⟩ := pure_pair_eq_ok.mp hhandle
      exact handled_namedStats h _ _ _ (fun _ => trivial) fun _ _ => rfl

end Handlers

end GBServer.WebService
