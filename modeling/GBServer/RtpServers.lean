import GBServer.MediaRuns

namespace GBServer.RtpServers

open Std (ExtTreeMap)
open Foundation.CStrings
open Foundation.Runs
open GBServer.GbMediaService
open GBServer.SessionName

def rtpSessionName (streamId : CString) : CString :=
  getSessionNameFromUrl (gb28181Url streamId)

/-- The part of the state that only `HandlerOpenRtpServer` writes. -/
def servers (s : GbMediaService) : ExtTreeMap CString TcpServer × UInt16 × Nat :=
  (s.rtpServer, s.tcpPort, s.nextServer)

theorem fields_of_servers_eq {s t : GbMediaService} (h : servers t = servers s) :
    t.rtpServer = s.rtpServer ∧ t.tcpPort = s.tcpPort ∧ t.nextServer = s.nextServer := by
  simpa [servers] using h

theorem servers_createSession {s s' : GbMediaService} {sessionName : CString}
    {sid : SessionId} (hcreate : s.createSession sessionName = (s', some sid)) :
    servers s' = servers s :=
  createSession_frame servers rfl hcreate

section Requests

variable {s : GbMediaService} (h : s.Linked)

include h

theorem servers_handlerRtcProducer {Stun : Type*} (api : MediaApi Stun) (body : OfferBody)
    (secrets : IceSecrets) (nowMs : Int) :
    servers (s.handlerRtcProducer api body secrets nowMs).1 = servers s := by
  apply handlerRtcProducer_rule (P := fun t => servers t = servers s) api rfl h
  intro s' sessionName sid hcreate
  rw [← servers_createSession hcreate]
  exact ⟨rfl, rfl⟩

theorem servers_handlerRtcConsumer {Stun : Type*} (api : MediaApi Stun) (body : OfferBody)
    (secrets : IceSecrets) (nowMs : Int) :
    servers (s.handlerRtcConsumer api body secrets nowMs).1 = servers s := by
  apply handlerRtcConsumer_rule (P := fun t => servers t = servers s) api rfl h
  intro s' sessionName sid hcreate
  rw [← servers_createSession hcreate]
  exact ⟨rfl, rfl⟩

theorem servers_handlerFlvConsumer (path : CString) (secrets : IceSecrets) (nowMs : Int) :
    servers (s.handlerFlvConsumer path secrets nowMs).1 = servers s := by
  apply handlerFlvConsumer_rule (P := fun t => servers t = servers s) rfl h
  intro s' sessionName sid hcreate
  rw [← servers_createSession hcreate]
  rfl

theorem servers_step {Stun : Type*} (api : MediaApi Stun) {input : Input}
    (hinput : ∀ body started secrets nowMs, input ≠ .openRtpServer body started secrets nowMs) :
    OnOk (fun t => servers t = servers s) (s.step api input) := by
  cases input with
  | push body secrets nowMs =>
      exact onOk_ok.mpr (servers_handlerRtcProducer h api body secrets nowMs)
  | play body secrets nowMs =>
      exact onOk_ok.mpr (servers_handlerRtcConsumer h api body secrets nowMs)
  | flv path secrets nowMs => exact onOk_ok.mpr (servers_handlerFlvConsumer h path secrets nowMs)
  | disconnect i =>
      exact onOk_ok.mpr (disconnect_rule (P := fun t => servers t = servers s) rfl i rfl)
  | openRtpServer body started secrets nowMs => exact absurd rfl (hinput body started secrets nowMs)
  | closeRtpServer body =>
      exact onOk_map.mpr (onOk_handlerCloseRtpServer (P := fun t => servers t = servers s) rfl body
        fun _ => rfl)
  | stun k transport data addr nowMs => exact onOk_ok.mpr rfl
  | dtls i callback =>
      exact onOk_ok.mpr (onDtls_rule (P := fun t => servers t = servers s) rfl i callback
        fun _ => ⟨rfl, rfl⟩)
  | rtp k addr data media => exact onOk_onRtp data media rfl fun _ _ => rfl
  | tcp streamId images =>
      exact onOk_ok.mpr (onTcp_rule (P := fun t => servers t = servers s) rfl streamId images
        fun _ _ => rfl)
  | tick sid nowMs =>
      refine onOk_ok.mpr ?_
      rw [checkTimeOut_eq h]
      rfl
  | worker =>
      exact onOk_ok.mpr (runTask_rule (P := fun t => servers t = servers s) rfl
        (fun _ _ _ => rfl) fun _ _ _ => ⟨rfl, rfl⟩)

end Requests

theorem getElem?_openedRtpServer (s : GbMediaService) (sessionName : CString) (sid : SessionId)
    (started : Bool) (nowMs : Int) (name : CString) :
    (s.openedRtpServer sessionName sid started nowMs).rtpServer[name]? =
      if sessionName = name then
        some ⟨s.nextServer, s.tcpPort, started, some s.nextResource⟩
      else s.rtpServer[name]? := by
  change ((s.rtpServer.insert _ _).insert _ _)[name]? = _
  simp only [ExtTreeMap.getElem?_insert, Std.LawfulEqCmp.compare_eq_iff_eq]
  split <;> rfl

section Ports

/-- What the answer to a request for a server promises: a server for that stream listens
on the port of a successful answer, and a rejection leaves no new server. -/
structure AnswerKept (s : GbMediaService) (p : GbMediaService × Answer) : Prop where
  opened : ∀ tcpMode streamId port, p.2 = .opened tcpMode streamId port →
    port ≠ 0 ∧ ∃ server, p.1.rtpServer[rtpSessionName streamId]? = some server ∧
      server.port = port ∧ server.listening = true
  notFound : p.2 = .notFound → p.1.rtpServer = s.rtpServer

def OpenKept (s : GbMediaService) : Input → Prop
  | .openRtpServer body started secrets nowMs =>
      AnswerKept s (s.handlerOpenRtpServer body started secrets nowMs)
  | _ => True

/-- Servers that listen at the same time have different ports. -/
def PortsDistinct (s : GbMediaService) : Prop :=
  ∀ (name name' : CString) (server server' : TcpServer), name ≠ name' →
    s.rtpServer[name]? = some server → s.rtpServer[name']? = some server' →
    server.listening = true → server'.listening = true → server.port ≠ server'.port

/-- A server that is created also starts, and the port counter has not wrapped. -/
def Starts (s : GbMediaService) : Input → Prop
  | .openRtpServer (.request _ streamId) started _ _ =>
      s.rtpServer[rtpSessionName streamId]? = none → started = true ∧ s.tcpPort ≠ 0
  | _ => True

theorem openKept_iff {s : GbMediaService} (h : s.Linked) (input : Input) :
    OpenKept s input ↔ Starts s input := by
  rcases input with _ | _ | _ | _ | ⟨_ | ⟨tcpMode, streamId⟩, started, secrets, nowMs⟩
  case openRtpServer.request =>
    obtain ⟨s', sid, hcreate⟩ := @createSession_gb28181Url s streamId
    obtain ⟨hserver, hport, _⟩ := fields_of_servers_eq (servers_createSession hcreate)
    rw [OpenKept, Starts]
    cases hfree : s.rtpServer[rtpSessionName streamId]? with
    | some server =>
        rw [handlerOpenRtpServer_again started secrets nowMs tcpMode hcreate
          (by rw [hserver]; exact hfree)]
        exact iff_of_true ⟨by simp, fun _ => hserver⟩ (by simp)
    | none =>
        rw [handlerOpenRtpServer_request started secrets nowMs tcpMode hcreate h
          (by rw [hserver]; exact hfree)]
        constructor
        · rintro ⟨hopened, _⟩ _
          obtain ⟨hnonzero, server, hget, _, hlistening⟩ := hopened tcpMode streamId _ rfl
          rw [rtpSessionName, getElem?_openedRtpServer, if_pos rfl] at hget
          obtain rfl := Option.some.inj hget
          exact ⟨hlistening, hport ▸ hnonzero⟩
        · intro hstarts
          obtain ⟨hstarted, hnonzero⟩ := hstarts rfl
          refine ⟨?_, by simp⟩
          intro tcpMode' streamId' port hanswer
          obtain ⟨_, rfl, rfl⟩ := Answer.opened.inj hanswer
          refine ⟨hport ▸ hnonzero, ⟨s'.nextServer, s'.tcpPort, started, some s'.nextResource⟩,
            ?_, rfl, hstarted⟩
          rw [rtpSessionName, getElem?_openedRtpServer, if_pos rfl]
  case openRtpServer.malformed =>
    exact iff_of_true ⟨by simp [handlerOpenRtpServer], fun _ => rfl⟩ trivial
  all_goals exact Iff.rfl

theorem succ_eq_zero_or (port : UInt16) : port + 1 = 0 ∨ port < port + 1 ∧
    ∀ bound ≤ port, bound ≤ port + 1 := by
  rcases Nat.lt_or_ge (port.toNat + 1) 0x10000 with hlt | hge
  · have hsucc : (port + 1).toNat = port.toNat + 1 := by
      rw [UInt16.toNat_add]
      exact Nat.mod_eq_of_lt hlt
    refine Or.inr ⟨?_, ?_⟩
    · rw [UInt16.lt_iff_toNat_lt, hsucc]
      exact Nat.lt_succ_self _
    · intro bound hbound
      rw [UInt16.le_iff_toNat_le] at hbound ⊢
      omega
  · left
    have hmax : port.toNat = 0xFFFF := by
      have hlt := port.toNat_lt
      omega
    rw [← UInt16.toNat_inj, UInt16.toNat_add, hmax]
    rfl

/-- While the counter has not wrapped, every server listens on a port below it. -/
structure PortsBelow (s : GbMediaService) : Prop where
  counter : s.tcpPort ≠ 0 → 20000 ≤ s.tcpPort
  below : ∀ {name : CString} {server}, s.rtpServer[name]? = some server →
    s.tcpPort = 0 ∨ server.port < s.tcpPort
  distinct : PortsDistinct s

theorem portsBelow_congr {s t : GbMediaService} (hservers : servers t = servers s)
    (h : PortsBelow s) : PortsBelow t := by
  obtain ⟨hserver, hport, _⟩ := fields_of_servers_eq hservers
  constructor
  · rw [hport]
    exact h.counter
  · rw [hserver, hport]
    exact h.below
  · rw [PortsDistinct, hserver]
    exact h.distinct

theorem portsBelow_opened {s : GbMediaService} (h : PortsBelow s) (hnonzero : s.tcpPort ≠ 0)
    (sessionName : CString) (sid : SessionId) (started : Bool) (nowMs : Int) :
    PortsBelow (s.openedRtpServer sessionName sid started nowMs) := by
  have hget := getElem?_openedRtpServer s sessionName sid started nowMs
  have hcounter : (s.openedRtpServer sessionName sid started nowMs).tcpPort = s.tcpPort + 1 := rfl
  have hold : ∀ {name : CString} {server}, s.rtpServer[name]? = some server →
      server.port < s.tcpPort := by
    intro name server hserver
    exact (h.below hserver).resolve_left hnonzero
  have hlower := h.counter hnonzero
  constructor
  · rw [hcounter]
    intro hnowrap
    exact ((succ_eq_zero_or s.tcpPort).resolve_left hnowrap).2 _ hlower
  · intro name server hserver
    rw [hcounter]
    refine (succ_eq_zero_or s.tcpPort).imp_right ?_
    rintro ⟨hsucc, _⟩
    rw [hget] at hserver
    split at hserver
    · obtain rfl := Option.some.inj hserver
      exact hsucc
    · exact UInt16.lt_trans (hold hserver) hsucc
  · intro name name' server server' hne hserver hserver' _ _
    rw [hget] at hserver hserver'
    split at hserver
    · rename_i hname
      rw [if_neg (hname ▸ hne)] at hserver'
      obtain rfl := Option.some.inj hserver
      exact (UInt16.ne_of_lt (hold hserver')).symm
    · split at hserver'
      · obtain rfl := Option.some.inj hserver'
        exact UInt16.ne_of_lt (hold hserver)
      · exact h.distinct name name' server server' hne hserver hserver' ‹_› ‹_›

theorem portsBelow_step {Stun : Type*} (api : MediaApi Stun) {s : GbMediaService}
    (h : s.Linked) (hports : PortsBelow s) {input : Input} (hstarts : Starts s input) :
    OnOk PortsBelow (s.step api input) := by
  by_cases hopen : ∃ body started secrets nowMs, input = .openRtpServer body started secrets nowMs
  · obtain ⟨body, started, secrets, nowMs, rfl⟩ := hopen
    refine onOk_ok.mpr ?_
    cases body with
    | malformed => exact hports
    | request tcpMode streamId =>
        obtain ⟨s', sid, hcreate⟩ := @createSession_gb28181Url s streamId
        have hservers := servers_createSession hcreate
        have hports' := portsBelow_congr hservers hports
        cases hfree : s'.rtpServer[getSessionNameFromUrl (gb28181Url streamId)]? with
        | some server =>
            rw [handlerOpenRtpServer_again started secrets nowMs tcpMode hcreate hfree]
            exact hports'
        | none =>
            rw [handlerOpenRtpServer_request started secrets nowMs tcpMode hcreate h hfree]
            obtain ⟨hserver, hport, _⟩ := fields_of_servers_eq hservers
            rw [hserver] at hfree
            exact portsBelow_opened hports' (hport ▸ (hstarts hfree).2) _ _ _ _
  · intro t ht
    refine portsBelow_congr (servers_step h api ?_ t ht) hports
    intro body started secrets nowMs hinput
    exact hopen ⟨body, started, secrets, nowMs, hinput⟩

theorem portsBelow_startup (config : ServerConfig) : PortsBelow (startup config) := by
  constructor
  · intro _
    exact UInt16.le_refl _
  · simp [startup]
  · intro name name' server server' _ hserver
    simp [startup] at hserver

/-- Every successful answer names a listening server, every rejection leaves none and
live servers never share a port, in the runs in which every server that is created starts
while the port counter has not wrapped, and in no others. -/
theorem opens_kept_iff {Stun : Type*} (api : MediaApi Stun) (config : ServerConfig)
    (inputs : List Input) :
    Throughout (guarded (step api)) (OnOk PortsDistinct) (.ok (startup config)) inputs ∧
        Admitted (guarded (step api)) (fun p input => OnOk (fun s => OpenKept s input) p)
          (.ok (startup config)) inputs ↔
      Admitted (guarded (step api)) (fun p input => OnOk (fun s => Starts s input) p)
        (.ok (startup config)) inputs := by
  rw [admitted_onOk_congr (linked_startup config) (fun _ input h => h.step api input)
    (fun _ input h => openKept_iff h input), and_iff_right_iff_imp]
  intro hstarts
  have hkept : Throughout (guarded (step api)) (OnOk fun s => s.Linked ∧ PortsBelow s)
      (.ok (startup config)) inputs := by
    refine throughout_of_admitted
      (onOk_ok.mpr ⟨linked_startup config, portsBelow_startup config⟩) ?_ hstarts
    intro p input hp hinput
    cases p with
    | error fault => exact onOk_error
    | ok s =>
        obtain ⟨h, hports⟩ := onOk_ok.mp hp
        intro t ht
        exact ⟨h.step api input t ht, portsBelow_step api h hports (hinput s rfl) t ht⟩
  intro front back heq s hs
  exact (hkept front back heq s hs).2.distinct

/-- A server that cannot listen is announced all the same. -/
theorem not_opens_kept :
    ¬ ∀ (config : ServerConfig) (inputs : List Input),
      Throughout (guarded (step sampleApi)) (OnOk PortsDistinct) (.ok (startup config)) inputs ∧
        Admitted (guarded (step sampleApi)) (fun p input => OnOk (fun s => OpenKept s input) p)
          (.ok (startup config)) inputs := by
  intro hclaim
  have hkept := (hclaim sampleConfig [.openRtpServer (.request 1 (ascii "cam"))
    false ⟨fun _ => "aa", "secret"⟩ 0]).2 [] _ [] rfl
  obtain ⟨_, server, hget, _, hlistening⟩ :=
    (onOk_ok.mp hkept).opened 1 (ascii "cam") 20000 (by decide)
  have hsilent : server.listening = false := by
    have hstored := Option.some.inj (hget.symm.trans (show _ = some
      (⟨0, 20000, false, some 0⟩ : TcpServer) by decide))
    rw [hstored]
  rw [hsilent] at hlistening
  cases hlistening

end Ports

end GBServer.RtpServers
