import GBServer.RtpServers
import Mathlib.Data.Set.Insert

namespace GBServer.RtpServers

open Foundation.CStrings
open Foundation.Memory
open Foundation.OrderedMap
open Foundation.Runs
open GBServer.GbMediaService
open GBServer.SessionName

section Reopening

/-- The two requests about servers, with a `Startup` that succeeds. -/
inductive RtpRequest where
  | open (body : RtpServerBody) (secrets : IceSecrets) (nowMs : Int)
  | close (body : RtpServerBody)

def RtpRequest.input : RtpRequest → Input
  | .open body secrets nowMs => .openRtpServer body true secrets nowMs
  | .close body => .closeRtpServer body

/-- The abstract effect of a request: which streams are open. -/
def opened (_ : GbMediaService) (names : Set CString) : RtpRequest → Set CString
  | .open (.request _ streamId) _ _ => insert (rtpSessionName streamId) names
  | .close (.request _ streamId) => names \ {rtpSessionName streamId}
  | _ => names

def serve {Stun : Type*} (api : MediaApi Stun) (s : GbMediaService) (request : RtpRequest) :
    Except Fault GbMediaService :=
  s.step api request.input

/-- The service beside the set of streams opened and not closed since. -/
def serveOpened {Stun : Type*} (api : MediaApi Stun) :
    GbMediaService × Set CString → RtpRequest → Except Fault (GbMediaService × Set CString) :=
  observeGuarded (serve api) opened

def ServersAgree (p : GbMediaService × Set CString) : Prop :=
  ∀ name, name ∈ p.1.rtpServer ↔ name ∈ p.2

/-- A stream that is not open can be opened, with a new server bound to the new producer
of its session, and closing it is answered 404. -/
def RequestKept (p : GbMediaService × Set CString) : RtpRequest → Prop
  | .open (.request tcpMode streamId) secrets nowMs =>
      rtpSessionName streamId ∉ p.2 →
        ∃ t, p.1.handlerOpenRtpServer (.request tcpMode streamId) true secrets nowMs =
            (t, .opened tcpMode streamId p.1.tcpPort) ∧
          ∃ sid producer server, t.sessions[rtpSessionName streamId]? = some sid ∧
            (t.sessionHeap sid).producer = some producer ∧ p.1.nextResource ≤ producer ∧
            t.rtpServer[rtpSessionName streamId]? = some server ∧
            server.context = some producer ∧
            ∀ (name : CString) (old : TcpServer), p.1.rtpServer[name]? = some old →
              server.serverId ≠ old.serverId
  | .close (.request tcpMode streamId) =>
      rtpSessionName streamId ∉ p.2 →
        p.1.handlerCloseRtpServer (.request tcpMode streamId) = .ok (p.1, .notFound)
  | _ => True

def ClosesNothing : RtpRequest → Prop
  | .close (.request _ _) => False
  | _ => True

/-- What the two requests keep: nobody views a stream, and a server keeps its identity. -/
structure Unviewed (s : GbMediaService) : Prop where
  linked : s.Linked
  consumers : ∀ sid, (s.sessionHeap sid).consumers = []
  serverId : ∀ {name : CString} {server}, s.rtpServer[name]? = some server →
    server.serverId < s.nextServer

theorem unviewed_startup (config : ServerConfig) : Unviewed (startup config) := by
  refine ⟨linked_startup config, fun _ => rfl, ?_⟩
  intro name server hserver
  simp [startup] at hserver

theorem unviewed_createSession {s s' : GbMediaService} (h : Unviewed s) {sessionName : CString}
    {sid : SessionId} (hcreate : s.createSession sessionName = (s', some sid)) : Unviewed s' := by
  refine ⟨(h.linked.createSession hcreate).1, ?_, ?_⟩
  · intro sid'
    rcases createSession_of_some hcreate with ⟨_, rfl⟩ | ⟨_, _, rfl, rfl⟩
    · exact h.consumers sid'
    · change (Function.update s.sessionHeap _ _ sid').consumers = []
      rw [Function.update_apply]
      split
      · rfl
      · exact h.consumers sid'
  · obtain ⟨hserver, _, hid⟩ := fields_of_servers_eq (servers_createSession hcreate)
    rw [hserver, hid]
    exact h.serverId

theorem unviewed_opened {s : GbMediaService} (h : Unviewed s) {sessionName : CString}
    {sid : SessionId} (hlisted : s.sessions[sessionName]? = some sid) (nowMs : Int) :
    Unviewed (s.openedRtpServer sessionName sid true nowMs) := by
  refine ⟨h.linked.openedRtpServer true nowMs hlisted, ?_, ?_⟩
  · intro sid'
    change (Function.update s.sessionHeap sid _ sid').consumers = []
    rw [Function.update_apply]
    split
    · exact h.consumers sid
    · exact h.consumers sid'
  · intro name server hserver
    rw [getElem?_openedRtpServer] at hserver
    split at hserver
    · obtain rfl := Option.some.inj hserver
      exact Nat.lt_succ_self _
    · exact Nat.lt_succ_of_lt (h.serverId hserver)

theorem unviewed_closed {s : GbMediaService} (h : Unviewed s) {sessionName : CString}
    {sid : SessionId} (hlisted : s.sessions[sessionName]? = some sid) :
    Unviewed (s.closed sessionName sid) := by
  refine ⟨h.linked.closed hlisted, ?_, h.serverId⟩
  intro sid'
  change (Function.update s.sessionHeap sid _ sid').consumers = []
  rw [Function.update_apply]
  split
  · rfl
  · exact h.consumers sid'

section Open

variable {s : GbMediaService} (h : Unviewed s) (tcpMode : Nat) (streamId : CString)
  (secrets : IceSecrets) (nowMs : Int)

include h

theorem handlerOpenRtpServer_cases :
    ∃ s' sid, s.createSession (rtpSessionName streamId) = (s', some sid) ∧
      ((∃ server, s.rtpServer[rtpSessionName streamId]? = some server ∧
          s.handlerOpenRtpServer (.request tcpMode streamId) true secrets nowMs =
            (s', .notFound)) ∨
        s.rtpServer[rtpSessionName streamId]? = none ∧
          s.handlerOpenRtpServer (.request tcpMode streamId) true secrets nowMs =
            (s'.openedRtpServer (rtpSessionName streamId) sid true nowMs,
              .opened tcpMode streamId s'.tcpPort)) := by
  obtain ⟨s', sid, hcreate⟩ := @createSession_gb28181Url s streamId
  have hserver : s'.rtpServer = s.rtpServer :=
    congrArg Prod.fst (servers_createSession hcreate)
  refine ⟨s', sid, hcreate, ?_⟩
  cases hfree : s.rtpServer[rtpSessionName streamId]? with
  | some server =>
      exact Or.inl ⟨server, rfl, handlerOpenRtpServer_again true secrets nowMs tcpMode hcreate
        (by rw [hserver]; exact hfree)⟩
  | none =>
      exact Or.inr ⟨rfl, handlerOpenRtpServer_request true secrets nowMs tcpMode hcreate h.linked
        (by rw [hserver]; exact hfree)⟩

theorem open_unviewed :
    Unviewed (s.handlerOpenRtpServer (.request tcpMode streamId) true secrets nowMs).1 ∧
      ∀ name, name ∈ (s.handlerOpenRtpServer (.request tcpMode streamId) true secrets
          nowMs).1.rtpServer ↔ name = rtpSessionName streamId ∨ name ∈ s.rtpServer := by
  obtain ⟨s', sid, hcreate, ⟨server, hserver, heq⟩ | ⟨_, heq⟩⟩ :=
    handlerOpenRtpServer_cases h tcpMode streamId secrets nowMs
  · have hsame : s'.rtpServer = s.rtpServer := congrArg Prod.fst (servers_createSession hcreate)
    rw [heq]
    refine ⟨unviewed_createSession h hcreate, ?_⟩
    intro name
    rw [hsame]
    constructor
    · exact Or.inr
    · rintro (rfl | hmem)
      · exact mem_of_getElem?_eq_some hserver
      · exact hmem
  · have hsame : s'.rtpServer = s.rtpServer := congrArg Prod.fst (servers_createSession hcreate)
    rw [heq]
    refine ⟨unviewed_opened (unviewed_createSession h hcreate)
      (h.linked.createSession hcreate).2 nowMs, ?_⟩
    intro name
    rw [mem_iff_exists]
    simp only [getElem?_openedRtpServer, hsame]
    by_cases hname : rtpSessionName streamId = name
    · simp [hname]
    · simp [hname, Ne.symm hname, mem_iff_exists]

theorem requestKept_open {names : Set CString} (hagree : ServersAgree (s, names)) :
    RequestKept (s, names) (.open (.request tcpMode streamId) secrets nowMs) := by
  intro hclosed
  have hfree : rtpSessionName streamId ∉ s.rtpServer := fun hmem => hclosed ((hagree _).mp hmem)
  obtain ⟨s', sid, hcreate, ⟨server, hserver, _⟩ | ⟨_, heq⟩⟩ :=
    handlerOpenRtpServer_cases h tcpMode streamId secrets nowMs
  · exact absurd (mem_of_getElem?_eq_some hserver) hfree
  · obtain ⟨_, hport, hid⟩ := fields_of_servers_eq (servers_createSession hcreate)
    have hresource : s'.nextResource = s.nextResource :=
      createSession_frame nextResource rfl hcreate
    refine ⟨s'.openedRtpServer (rtpSessionName streamId) sid true nowMs, by rw [heq, hport],
      sid, s'.nextResource, ⟨s'.nextServer, s'.tcpPort, true, some s'.nextResource⟩,
      (h.linked.createSession hcreate).2, ?_, hresource.ge, ?_, rfl, ?_⟩
    · exact producer_setProducer _ sid _
    · rw [getElem?_openedRtpServer, if_pos rfl]
    · intro name old hold
      have hlt := h.serverId hold
      change s'.nextServer ≠ old.serverId
      omega

end Open

section Close

variable {s : GbMediaService} (h : Unviewed s) (tcpMode : Nat) (streamId : CString)

include h

/-- A request to close a stream is always answered with success, and its server stays. -/
theorem handlerCloseRtpServer_unviewed :
    ∃ t, s.handlerCloseRtpServer (.request tcpMode streamId) = .ok (t, .closed streamId) ∧
      t.rtpServer = s.rtpServer ∧ Unviewed t := by
  cases hlisted : s.sessions[getSessionNameFromUrl (gb28181Url streamId)]? with
  | none => exact ⟨s, handlerCloseRtpServer_of_none hlisted, rfl, h⟩
  | some sid =>
      refine ⟨s.closed _ sid, ?_, rfl, unviewed_closed h hlisted⟩
      rw [handlerCloseRtpServer_of_some hlisted, if_neg]
      rintro ⟨hviewed, _⟩
      exact hviewed (h.consumers sid)

omit h in
/-- The entry of the server stays when the stream was open, and the answer is wrong when
it was not. -/
theorem not_kept_close {names : Set CString} (hagree : ServersAgree (s, names))
    {t : GbMediaService}
    (hclose : s.handlerCloseRtpServer (.request tcpMode streamId) = .ok (t, .closed streamId))
    (hserver : t.rtpServer = s.rtpServer) :
    ¬ (RequestKept (s, names) (.close (.request tcpMode streamId)) ∧
      ServersAgree (t, names \ {rtpSessionName streamId})) := by
  rintro ⟨hkept, hagree'⟩
  by_cases hopen : rtpSessionName streamId ∈ names
  · have hstays : rtpSessionName streamId ∈ t.rtpServer := hserver ▸ (hagree _).mpr hopen
    exact ((hagree' _).mp hstays).2 rfl
  · have hanswer := hkept hopen
    dsimp only at hanswer
    rw [hclose] at hanswer
    cases hanswer

end Close

theorem serve_unviewed {Stun : Type*} (api : MediaApi Stun) {s : GbMediaService}
    (h : Unviewed s) (request : RtpRequest) : ∃ t, serve api s request = .ok t ∧ Unviewed t := by
  cases request with
  | «open» body secrets nowMs =>
      cases body with
      | malformed => exact ⟨s, rfl, h⟩
      | request tcpMode streamId =>
          exact ⟨_, rfl, (open_unviewed h tcpMode streamId secrets nowMs).1⟩
  | close body =>
      cases body with
      | malformed => exact ⟨s, rfl, h⟩
      | request tcpMode streamId =>
          obtain ⟨t, hclose, _, h'⟩ := handlerCloseRtpServer_unviewed h tcpMode streamId
          refine ⟨t, ?_, h'⟩
          change (s.handlerCloseRtpServer (.request tcpMode streamId)).map Prod.fst = _
          rw [hclose]
          rfl

section Run

variable {Stun : Type*} (api : MediaApi Stun)

theorem serveOpened_unviewed {p : GbMediaService × Set CString} (h : Unviewed p.1)
    (request : RtpRequest) :
    ∃ t, serve api p.1 request = .ok t ∧
      serveOpened api p request = .ok (t, opened p.1 p.2 request) ∧ Unviewed t := by
  obtain ⟨t, hserve, h'⟩ := serve_unviewed api h request
  refine ⟨t, hserve, ?_, h'⟩
  rw [serveOpened, observeGuarded, hserve]
  rfl

theorem serveOpened_of_closesNothing {p : GbMediaService × Set CString} (h : Unviewed p.1)
    (hagree : ServersAgree p) {request : RtpRequest} (hrequest : ClosesNothing request) :
    RequestKept p request ∧
      ∃ q, serveOpened api p request = .ok q ∧ Unviewed q.1 ∧ ServersAgree q := by
  obtain ⟨t, hserve, hstep, h'⟩ := serveOpened_unviewed api h request
  cases request with
  | «open» body secrets nowMs =>
      cases body with
      | malformed =>
          obtain rfl := Except.ok.inj hserve
          exact ⟨trivial, _, hstep, h', hagree⟩
      | request tcpMode streamId =>
          refine ⟨requestKept_open h tcpMode streamId secrets nowMs hagree, _, hstep, h', ?_⟩
          obtain rfl := Except.ok.inj hserve
          intro name
          change _ ↔ name ∈ insert (rtpSessionName streamId) p.2
          rw [Set.mem_insert_iff, ← hagree name]
          exact (open_unviewed h tcpMode streamId secrets nowMs).2 name
  | close body =>
      cases body with
      | malformed =>
          obtain rfl := Except.ok.inj hserve
          exact ⟨trivial, _, hstep, h', hagree⟩
      | request tcpMode streamId => exact hrequest.elim

theorem not_kept_of_close {p : GbMediaService × Set CString} (h : Unviewed p.1)
    (hagree : ServersAgree p) (tcpMode : Nat) (streamId : CString) :
    ¬ (RequestKept p (.close (.request tcpMode streamId)) ∧
      OnOk ServersAgree (serveOpened api p (.close (.request tcpMode streamId)))) := by
  rintro ⟨hkept, hafter⟩
  obtain ⟨t, hclose, hserver, _⟩ := handlerCloseRtpServer_unviewed h tcpMode streamId
  apply not_kept_close tcpMode streamId hagree hclose hserver
  refine ⟨hkept, hafter _ ?_⟩
  have hserve : serve api p.1 (.close (.request tcpMode streamId)) = .ok t := by
    change (p.1.handlerCloseRtpServer (.request tcpMode streamId)).map Prod.fst = _
    rw [hclose]
    rfl
  rw [serveOpened, observeGuarded, hserve]
  rfl

theorem run_unviewed {p : GbMediaService × Set CString} (h : Unviewed p.1)
    (requests : List RtpRequest) :
    ∃ q, run (guarded (serveOpened api)) (.ok p) requests = .ok q ∧ Unviewed q.1 := by
  apply invariant_run_of_step (P := fun r => ∃ q, r = Except.ok q ∧ Unviewed q.1)
    ⟨p, rfl, h⟩
  rintro _ request ⟨q, rfl, hq⟩
  obtain ⟨t, _, hstep, ht⟩ := serveOpened_unviewed api hq request
  exact ⟨_, hstep, ht⟩

/-- The table of servers lists the streams opened and not closed since, and every request
about them does what it should, in the runs without a well-formed close request and in no
others. -/
theorem reopens_iff (config : ServerConfig) (requests : List RtpRequest) :
    Throughout (guarded (serveOpened api)) (OnOk ServersAgree) (.ok (startup config, ∅))
          requests ∧
        Admitted (guarded (serveOpened api))
          (fun p request => OnOk (fun p => RequestKept p request) p)
          (.ok (startup config, ∅)) requests ↔
      ∀ request ∈ requests, ClosesNothing request := by
  have hstart : ServersAgree (startup config, ∅) := by
    intro name
    simp [startup]
  constructor
  · rintro ⟨hagree, hkept⟩ request hmem
    obtain ⟨front, back, rfl⟩ := List.append_of_mem hmem
    obtain ⟨p, hp, h⟩ := run_unviewed api (p := (startup config, ∅)) (unviewed_startup config)
      front
    cases request with
    | «open» body secrets nowMs => trivial
    | close body =>
        cases body with
        | malformed => trivial
        | request tcpMode streamId =>
            have hbefore := hagree front _ rfl p hp
            have hafter := hagree (front ++ [.close (.request tcpMode streamId)]) back (by simp)
            rw [run_concat, hp, guarded_ok] at hafter
            exact not_kept_of_close api h hbefore tcpMode streamId
              ⟨hkept front _ back rfl p hp, hafter⟩
  · intro hrequests
    have hall : Throughout (guarded (serveOpened api))
        (fun r => ∃ p, r = .ok p ∧ Unviewed p.1 ∧ ServersAgree p) (.ok (startup config, ∅))
        requests := by
      have hadmitted : Admitted (guarded (serveOpened api))
          (fun _ request => ClosesNothing request) (.ok (startup config, ∅)) requests := by
        rintro front request back rfl
        exact hrequests request (by simp)
      refine throughout_of_admitted ⟨_, rfl, unviewed_startup config, hstart⟩ ?_ hadmitted
      rintro _ request ⟨p, rfl, h, hagree⟩ hrequest
      exact (serveOpened_of_closesNothing api h hagree hrequest).2
    constructor
    · intro front back heq p hp
      obtain ⟨q, hq, _, hagree⟩ := hall front back heq
      obtain rfl := Except.ok.inj (hq.symm.trans hp)
      exact hagree
    · intro front request back heq p hp
      obtain ⟨q, hq, h, hagree⟩ := hall front (request :: back) heq
      obtain rfl := Except.ok.inj (hq.symm.trans hp)
      exact (serveOpened_of_closesNothing api h hagree (hrequests request (by simp [heq]))).1

def openCam : RtpRequest := .open (.request 1 (ascii "cam")) ⟨fun _ => "aa", "secret"⟩ 0

def closeCam : RtpRequest := .close (.request 1 (ascii "cam"))

def closedCam : GbMediaService :=
  ((startup sampleConfig).handlerOpenRtpServer (.request 1 (ascii "cam")) true
    ⟨fun _ => "aa", "secret"⟩ 0).1.closed (rtpSessionName (ascii "cam")) 0

/-- A stream that was closed cannot be opened again. -/
theorem not_reopens :
    ¬ ∀ (config : ServerConfig) (requests : List RtpRequest),
      Throughout (guarded (serveOpened sampleApi)) (OnOk ServersAgree)
          (.ok (startup config, ∅)) requests ∧
        Admitted (guarded (serveOpened sampleApi))
          (fun p request => OnOk (fun p => RequestKept p request) p)
          (.ok (startup config, ∅)) requests := by
  intro hclaim
  have hkept := (hclaim sampleConfig [openCam, closeCam, openCam]).2 [openCam, closeCam]
    openCam [] rfl (closedCam, insert (rtpSessionName (ascii "cam")) ∅ \
      {rtpSessionName (ascii "cam")}) rfl
  obtain ⟨t, hanswer, _⟩ := hkept (fun hmem => hmem.2 rfl)
  have hrejected : (closedCam.handlerOpenRtpServer (.request 1 (ascii "cam")) true
      ⟨fun _ => "aa", "secret"⟩ 0).2 = .notFound := by decide
  dsimp only at hanswer
  rw [hanswer] at hrejected
  cases hrejected

end Run

end Reopening

end GBServer.RtpServers
