import GBServer.MediaInvariants

namespace GBServer

open Std (ExtTreeMap)
open Foundation.CStrings
open Foundation.Runs
open GBServer.SessionName

namespace GbMediaService

theorem rtcServices_newRtcResource (s : GbMediaService) (sid : SessionId)
    (type : ShareResourceType) (kind : RtcKind) (secrets : IceSecrets) (nowMs : Int) :
    (s.newRtcResource sid type kind secrets nowMs).rtcServices =
      Function.update s.rtcServices (s.sessionHeap sid).rtcService
        ((s.rtcServices (s.sessionHeap sid).rtcService).setInterface s.nextResource
          { kind := kind
            localUFrag :=
              drawUFrag (s.rtcServices (s.sessionHeap sid).rtcService) secrets.ufragDraws 10 0
            localPasswd := secrets.passwd }) := rfl

section Creation

variable {s : GbMediaService} {sid : SessionId} {sessionName : CString}
  (hname : (s.sessionHeap sid).sessionName = sessionName) (secrets : IceSecrets) (nowMs : Int)

include hname

theorem createProducer_rtc :
    s.createProducer sid sessionName .producerRtc secrets nowMs =
      (s.newRtcResource sid .producerRtc .producer secrets nowMs, some s.nextResource) := by
  rw [createProducer, if_neg (by simp [hname])]

theorem createConsumer_rtc (hfields : 2 ≤ (split sessionName).length) :
    s.createConsumer sid sessionName .consumerRtc secrets nowMs =
      (s.newRtcResource sid .consumerRtc .consumer secrets nowMs, some s.nextResource) := by
  rw [createConsumer, if_neg (by simp [hname]), if_neg (Nat.not_lt.mpr hfields)]

theorem createConsumer_flv (hfields : 2 ≤ (split sessionName).length) :
    s.createConsumer sid sessionName .consumerFlv secrets nowMs =
      (s.newResource sid .consumerFlv nowMs, some s.nextResource) := by
  rw [createConsumer, if_neg (by simp [hname]), if_neg (Nat.not_lt.mpr hfields)]

end Creation

def attachRtcProducer (s : GbMediaService) (sid : SessionId) (secrets : IceSecrets)
    (nowMs : Int) : GbMediaService :=
  (s.newRtcResource sid .producerRtc .producer secrets nowMs).setProducer sid
    (some s.nextResource)

def attachRtcConsumer (s : GbMediaService) (sid : SessionId) (secrets : IceSecrets)
    (nowMs : Int) : GbMediaService :=
  (s.newRtcResource sid .consumerRtc .consumer secrets nowMs).addConsumer sid s.nextResource

@[simp] theorem producer_attachRtcProducer (s : GbMediaService) (sid : SessionId)
    (secrets : IceSecrets) (nowMs : Int) :
    ((s.attachRtcProducer sid secrets nowMs).sessionHeap sid).producer = some s.nextResource :=
  producer_setProducer _ sid _

theorem isRtc_attachRtcProducer (s : GbMediaService) (sid : SessionId) (secrets : IceSecrets)
    (nowMs : Int) : (s.attachRtcProducer sid secrets nowMs).IsRtc s.nextResource :=
  ⟨Nat.lt_succ_self _, Or.inl (congrArg ShareResource.type
    (resources_newRtcResource s sid .producerRtc .producer secrets nowMs))⟩

theorem isRtc_attachRtcConsumer (s : GbMediaService) (sid : SessionId) (secrets : IceSecrets)
    (nowMs : Int) : (s.attachRtcConsumer sid secrets nowMs).IsRtc s.nextResource :=
  ⟨Nat.lt_succ_self _, Or.inr (congrArg ShareResource.type
    (resources_newRtcResource s sid .consumerRtc .consumer secrets nowMs))⟩

theorem mem_attachRtcConsumer (s : GbMediaService) (sid : SessionId) (secrets : IceSecrets)
    (nowMs : Int) :
    s.nextResource ∈ ((s.attachRtcConsumer sid secrets nowMs).sessionHeap sid).consumers := by
  rw [attachRtcConsumer, addConsumer, sessionHeap_withSession]
  exact List.mem_insert_self

section Requests

variable {Stun : Type*} (api : MediaApi Stun) {s s' : GbMediaService} {streamurl : CString}
  {sid : SessionId} (secrets : IceSecrets) (nowMs : Int)

theorem handlerRtcProducer_rejected
    (hcreate : s.createSession (getSessionNameFromUrl streamurl) = (s', none))
    (sdp : CString) :
    s.handlerRtcProducer api (.offer streamurl sdp) secrets nowMs = (s, .notFound) := by
  obtain ⟨_, _, rfl⟩ := createSession_of_none hcreate
  simp only [handlerRtcProducer, hcreate]

theorem handlerRtcConsumer_rejected
    (hcreate : s.createSession (getSessionNameFromUrl streamurl) = (s', none))
    (sdp : CString) :
    s.handlerRtcConsumer api (.offer streamurl sdp) secrets nowMs = (s, .notFound) := by
  obtain ⟨_, _, rfl⟩ := createSession_of_none hcreate
  simp only [handlerRtcConsumer, hcreate]

variable (h : s.Linked)
  (hcreate : s.createSession (getSessionNameFromUrl streamurl) = (s', some sid))

include h hcreate

theorem handlerRtcProducer_offer (sdp : CString) :
    s.handlerRtcProducer api (.offer streamurl sdp) secrets nowMs =
      if api.decodeSdp sdp then
        ((s'.attachRtcProducer sid secrets nowMs).registerRtcInterface sid s'.nextResource,
          .sdp s'.nextResource)
      else (s'.attachRtcProducer sid secrets nowMs, .notFound) := by
  obtain ⟨h', hlisted⟩ := h.createSession hcreate
  obtain ⟨_, hname, _⟩ := h'.session hlisted
  simp only [handlerRtcProducer, hcreate, createProducer_rtc hname]
  rfl

theorem handlerRtcConsumer_offer (sdp : CString) :
    s.handlerRtcConsumer api (.offer streamurl sdp) secrets nowMs =
      if api.decodeSdp sdp then
        ((s'.attachRtcConsumer sid secrets nowMs).registerRtcInterface sid s'.nextResource,
          .sdp s'.nextResource)
      else (s'.attachRtcConsumer sid secrets nowMs, .notFound) := by
  obtain ⟨h', hlisted⟩ := h.createSession hcreate
  obtain ⟨_, hname, hfields⟩ := h'.session hlisted
  simp only [handlerRtcConsumer, hcreate, createConsumer_rtc hname secrets nowMs hfields]
  rfl

end Requests

section Attachment

variable {s : GbMediaService} (h : s.Linked) {sessionName : CString} {sid : SessionId}
  (hlisted : s.sessions[sessionName]? = some sid) (secrets : IceSecrets) (nowMs : Int)

include h hlisted

theorem member_newResource (type : ShareResourceType) :
    (s.newResource sid type nowMs).Member sid s.nextResource := by
  refine ⟨Nat.lt_succ_self _, ?_, ?_⟩
  · rw [resources_newResource]
  · obtain ⟨_, hname, _⟩ := h.session hlisted
    change s.sessions[(s.sessionHeap sid).sessionName]? = some sid
    rw [hname, hlisted]

theorem member_newRtcResource (type : ShareResourceType) (kind : RtcKind) :
    (s.newRtcResource sid type kind secrets nowMs).Member sid s.nextResource := by
  obtain ⟨hcreated, hsession, hnow⟩ := member_newResource h hlisted nowMs type
  exact ⟨hcreated, hsession, hnow⟩

theorem Linked.attachRtcProducer : (s.attachRtcProducer sid secrets nowMs).Linked := by
  apply (h.newRtcResource (h.session hlisted).1 .producerRtc .producer secrets nowMs).setProducer
  intro i hi
  obtain rfl := Option.some.inj hi
  refine ⟨member_newRtcResource h hlisted secrets nowMs _ _, ?_⟩
  rw [resources_newRtcResource]
  rfl

theorem Linked.attachRtcConsumer : (s.attachRtcConsumer sid secrets nowMs).Linked := by
  apply (h.newRtcResource (h.session hlisted).1 .consumerRtc .consumer secrets nowMs).addConsumer
  · exact member_newRtcResource h hlisted secrets nowMs _ _
  · rw [resources_newRtcResource]
    rfl

end Attachment

/-- After `CloseSession` of a session, when it completes. -/
def closed (s : GbMediaService) (sessionName : CString) (sid : SessionId) : GbMediaService :=
  { s with sessions := s.sessions.erase sessionName }.withSession sid fun session =>
    { session with producer := none, consumers := [] }

section Closing

theorem clearConsumers_eq (config : ServerConfig) (consumers : List ResourceId) :
    clearConsumers config consumers =
      if consumers ≠ [] ∧ config.logs .info = true then .error .nullDereference else .ok () := by
  induction consumers with
  | nil => rfl
  | cons consumer rest ih =>
      rw [clearConsumers, ih]
      cases config.logs .info with
      | false => simp
      | true => rfl

variable {s : GbMediaService} {sessionName : CString} {sid : SessionId}

theorem closeSession_of_none (hfree : s.sessions[sessionName]? = none) :
    s.closeSession sessionName = .ok (s, true) := by
  simp only [closeSession, hfree]

theorem closeSession_of_some (hlisted : s.sessions[sessionName]? = some sid) :
    s.closeSession sessionName =
      if (s.sessionHeap sid).consumers ≠ [] ∧ s.config.logs .info = true then
        .error .nullDereference
      else .ok (s.closed sessionName sid, true) := by
  simp only [closeSession, hlisted, clear, clearConsumers_eq]
  split <;> rfl

theorem handlerCloseRtpServer_of_none {tcpMode : Nat} {streamId : CString}
    (hfree : s.sessions[getSessionNameFromUrl (gb28181Url streamId)]? = none) :
    s.handlerCloseRtpServer (.request tcpMode streamId) = .ok (s, .closed streamId) := by
  rw [handlerCloseRtpServer, closeSession_of_none hfree]
  rfl

theorem handlerCloseRtpServer_of_some {tcpMode : Nat} {streamId : CString}
    (hlisted : s.sessions[getSessionNameFromUrl (gb28181Url streamId)]? = some sid) :
    s.handlerCloseRtpServer (.request tcpMode streamId) =
      if (s.sessionHeap sid).consumers ≠ [] ∧ s.config.logs .info = true then
        .error .nullDereference
      else
        .ok (s.closed (getSessionNameFromUrl (gb28181Url streamId)) sid, .closed streamId) := by
  rw [handlerCloseRtpServer, closeSession_of_some hlisted]
  split <;> rfl

theorem Linked.closed (h : s.Linked) (hlisted : s.sessions[sessionName]? = some sid) :
    (s.closed sessionName sid).Linked := by
  have hsessions : ∀ (name : CString), (s.closed sessionName sid).sessions[name]? =
      if sessionName = name then none else s.sessions[name]? := by
    intro name
    change (s.sessions.erase sessionName)[name]? = _
    simp only [ExtTreeMap.getElem?_erase, Std.LawfulEqCmp.compare_eq_iff_eq]
  have hheap : ∀ sid', (s.closed sessionName sid).sessionHeap sid' =
      if sid' = sid then { s.sessionHeap sid with producer := none, consumers := [] }
      else s.sessionHeap sid' :=
    fun sid' => Function.update_apply _ _ _ _
  have hmember : ∀ {sid' i}, sid' ≠ sid → s.Member sid' i →
      (s.closed sessionName sid).Member sid' i := by
    intro sid' i hne hi
    refine ⟨hi.created, hi.session, ?_⟩
    rw [hheap, if_neg hne, hsessions, if_neg, hi.listed]
    rintro hname
    have hsame := hi.listed
    rw [← hname, hlisted] at hsame
    exact hne (Option.some.inj hsame).symm
  constructor
  · intro name sid' hget
    rw [hsessions] at hget
    split at hget
    · cases hget
    · obtain ⟨hlt, hname, hfields⟩ := h.session hget
      refine ⟨hlt, ?_, hfields⟩
      rw [hheap]
      split
      · rename_i heq
        exact heq ▸ hname
      · exact hname
  · exact h.resource
  · intro sid' i hi
    rw [hheap] at hi
    split at hi
    · cases hi
    · rename_i hne
      exact ⟨hmember hne (h.producer hi).1, (h.producer hi).2⟩
  · intro sid' i hi
    rw [hheap] at hi
    split at hi
    · cases hi
    · rename_i hne
      exact ⟨hmember hne (h.consumer hi).1, (h.consumer hi).2⟩
  · intro k
    apply (h.serves k).mono
    intro i hi
    refine ⟨hi, ?_⟩
    rw [serviceIndex, hheap]
    split
    · rename_i heq
      rw [serviceIndex, ← heq]
      rfl
    · rfl
  · exact h.posted

end Closing

section OpenRtpServer

variable {s s' : GbMediaService} {sid : SessionId} {streamId : CString} (started : Bool)
  (secrets : IceSecrets) (nowMs : Int) (tcpMode : Nat)

def openedRtpServer (s : GbMediaService) (sessionName : CString) (sid : SessionId)
    (started : Bool) (nowMs : Int) : GbMediaService :=
  let server : TcpServer := { serverId := s.nextServer, port := s.tcpPort, listening := started }
  { (s.newResource sid .producerGB28181 nowMs).setProducer sid (some s.nextResource) with
    rtpServer := (s.rtpServer.insert sessionName server).insert sessionName
      { server with context := some s.nextResource }
    nextServer := s.nextServer + 1
    tcpPort := s.tcpPort + 1 }

theorem createSession_gb28181Url :
    ∃ s' sid, s.createSession (getSessionNameFromUrl (gb28181Url streamId)) = (s', some sid) := by
  rcases hcreate : s.createSession (getSessionNameFromUrl (gb28181Url streamId)) with
    ⟨s', _ | sid⟩
  · obtain ⟨_, hshort, _⟩ := createSession_of_none hcreate
    rw [length_split_getSessionNameFromUrl_lt] at hshort
    have hfields := length_split_gb28181Url streamId
    omega
  · exact ⟨s', sid, rfl⟩

variable (hcreate : s.createSession (getSessionNameFromUrl (gb28181Url streamId)) =
  (s', some sid))

include hcreate

theorem handlerOpenRtpServer_again {server : TcpServer}
    (hopen : s'.rtpServer[getSessionNameFromUrl (gb28181Url streamId)]? = some server) :
    s.handlerOpenRtpServer (.request tcpMode streamId) started secrets nowMs =
      (s', .notFound) := by
  simp only [handlerOpenRtpServer, hcreate, openTcpServer, hopen]

theorem handlerOpenRtpServer_request (h : s.Linked)
    (hfree : s'.rtpServer[getSessionNameFromUrl (gb28181Url streamId)]? = none) :
    s.handlerOpenRtpServer (.request tcpMode streamId) started secrets nowMs =
      (s'.openedRtpServer (getSessionNameFromUrl (gb28181Url streamId)) sid started nowMs,
        .opened tcpMode streamId s'.tcpPort) := by
  obtain ⟨h', hlisted⟩ := h.createSession hcreate
  obtain ⟨_, hname, _⟩ := h'.session hlisted
  -- the name of the session is not touched by the new table entry
  simp only [handlerOpenRtpServer, hcreate, openTcpServer, hfree,
    createProducer, hname, ne_eq, not_true, if_false]
  rfl

omit hcreate

theorem Linked.openedRtpServer (h : s.Linked) {sessionName : CString}
    (hlisted : s.sessions[sessionName]? = some sid) :
    (s.openedRtpServer sessionName sid started nowMs).Linked := by
  have hproducer : ((s.newResource sid .producerGB28181 nowMs).setProducer sid
      (some s.nextResource)).Linked := by
    apply (h.newResource (h.session hlisted).1 .producerGB28181 nowMs).setProducer
    intro i hi
    obtain rfl := Option.some.inj hi
    refine ⟨member_newResource h hlisted nowMs _, ?_⟩
    rw [resources_newResource]
    rfl
  exact hproducer.congr rfl rfl rfl rfl rfl rfl fun _ hi => hproducer.posted hi

end OpenRtpServer

section Flv

variable {s s' : GbMediaService} {sid : SessionId} {path : CString} (secrets : IceSecrets)
  (nowMs : Int)

theorem handlerFlvConsumer_rejected
    (hcreate : s.createSession (getSessionNameFromUrl (flvUrl path)) = (s', none)) :
    s.handlerFlvConsumer path secrets nowMs = (s, .notFound) := by
  obtain ⟨_, _, rfl⟩ := createSession_of_none hcreate
  simp only [handlerFlvConsumer, hcreate]

variable (h : s.Linked)

include h

theorem handlerFlvConsumer_path
    (hcreate : s.createSession (getSessionNameFromUrl (flvUrl path)) = (s', some sid)) :
    s.handlerFlvConsumer path secrets nowMs =
      ((s'.newResource sid .consumerFlv nowMs).addConsumer sid s'.nextResource,
        .flv s'.nextResource) := by
  obtain ⟨h', hlisted⟩ := h.createSession hcreate
  obtain ⟨_, hname, hfields⟩ := h'.session hlisted
  simp only [handlerFlvConsumer, hcreate, createConsumer_flv hname secrets nowMs hfields]

end Flv

-- What is left to check of a property when a request has been handled: one case for each
-- way it can go.
section Rules

variable {Stun : Type*} (api : MediaApi Stun) {s : GbMediaService}
  {P : GbMediaService → Prop} (hs : P s)

include hs

theorem onOk_handlerCloseRtpServer (body : RtpServerBody)
    (hclosed : ∀ {sessionName : CString} {sid}, s.sessions[sessionName]? = some sid →
      P (s.closed sessionName sid)) :
    OnOk (fun p => P p.1) (s.handlerCloseRtpServer body) := by
  cases body with
  | malformed => exact onOk_ok.mpr hs
  | request tcpMode streamId =>
      cases hlisted : s.sessions[getSessionNameFromUrl (gb28181Url streamId)]? with
      | none =>
          rw [handlerCloseRtpServer_of_none hlisted]
          exact onOk_ok.mpr hs
      | some sid =>
          rw [handlerCloseRtpServer_of_some hlisted]
          split
          · exact onOk_error
          · exact onOk_ok.mpr (hclosed hlisted)

variable (h : s.Linked)

include h

theorem handlerRtcProducer_rule (body : OfferBody) (secrets : IceSecrets) (nowMs : Int)
    (hattached : ∀ {s' : GbMediaService} {sessionName : CString} {sid : SessionId},
      s.createSession sessionName = (s', some sid) →
        P (s'.attachRtcProducer sid secrets nowMs) ∧
          P ((s'.attachRtcProducer sid secrets nowMs).registerRtcInterface sid
            s'.nextResource)) :
    P (s.handlerRtcProducer api body secrets nowMs).1 := by
  cases body with
  | malformed => exact hs
  | incomplete => exact hs
  | offer streamurl sdp =>
      rcases hcreate : s.createSession (getSessionNameFromUrl streamurl) with ⟨s', _ | sid⟩
      · rw [handlerRtcProducer_rejected api secrets nowMs hcreate]
        exact hs
      · rw [handlerRtcProducer_offer api secrets nowMs h hcreate]
        split
        · exact (hattached hcreate).2
        · exact (hattached hcreate).1

theorem handlerRtcConsumer_rule (body : OfferBody) (secrets : IceSecrets) (nowMs : Int)
    (hattached : ∀ {s' : GbMediaService} {sessionName : CString} {sid : SessionId},
      s.createSession sessionName = (s', some sid) →
        P (s'.attachRtcConsumer sid secrets nowMs) ∧
          P ((s'.attachRtcConsumer sid secrets nowMs).registerRtcInterface sid
            s'.nextResource)) :
    P (s.handlerRtcConsumer api body secrets nowMs).1 := by
  cases body with
  | malformed => exact hs
  | incomplete => exact hs
  | offer streamurl sdp =>
      rcases hcreate : s.createSession (getSessionNameFromUrl streamurl) with ⟨s', _ | sid⟩
      · rw [handlerRtcConsumer_rejected api secrets nowMs hcreate]
        exact hs
      · rw [handlerRtcConsumer_offer api secrets nowMs h hcreate]
        split
        · exact (hattached hcreate).2
        · exact (hattached hcreate).1

theorem handlerFlvConsumer_rule (path : CString) (secrets : IceSecrets) (nowMs : Int)
    (hviewer : ∀ {s' : GbMediaService} {sessionName : CString} {sid : SessionId},
      s.createSession sessionName = (s', some sid) →
        P ((s'.newResource sid .consumerFlv nowMs).addConsumer sid s'.nextResource)) :
    P (s.handlerFlvConsumer path secrets nowMs).1 := by
  rcases hcreate : s.createSession (getSessionNameFromUrl (flvUrl path)) with ⟨s', _ | sid⟩
  · rw [handlerFlvConsumer_rejected secrets nowMs hcreate]
    exact hs
  · rw [handlerFlvConsumer_path secrets nowMs h hcreate]
    exact hviewer hcreate

theorem handlerOpenRtpServer_rule (body : RtpServerBody) (started : Bool)
    (secrets : IceSecrets) (nowMs : Int)
    (hopened : ∀ {s' : GbMediaService} {sessionName : CString} {sid : SessionId},
      s.createSession sessionName = (s', some sid) →
        P s' ∧ P (s'.openedRtpServer sessionName sid started nowMs)) :
    P (s.handlerOpenRtpServer body started secrets nowMs).1 := by
  cases body with
  | malformed => exact hs
  | request tcpMode streamId =>
      obtain ⟨s', sid, hcreate⟩ := @createSession_gb28181Url s streamId
      cases hfree : s'.rtpServer[getSessionNameFromUrl (gb28181Url streamId)]? with
      | some server =>
          rw [handlerOpenRtpServer_again started secrets nowMs tcpMode hcreate hfree]
          exact (hopened hcreate).1
      | none =>
          rw [handlerOpenRtpServer_request started secrets nowMs tcpMode hcreate h hfree]
          exact (hopened hcreate).2

end Rules

end GbMediaService

end GBServer
