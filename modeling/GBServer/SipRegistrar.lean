import GBServer.DeviceRegistry
import GBServer.DigestContexts
import GBServer.SipServerRuns

namespace GBServer.SipRegistrar

open Foundation.CStrings
open Foundation.Memory
open Foundation.Runs
open GBServer.HttpDigest
open GBServer.SipEvents
open GBServer.SipRegistration
open GBServer.SipServerTransactions

/-- `EXOSIP_MESSAGE_NEW`. -/
def messageNew (tid : Nat) (request : SipMessage) : SipEvent where
  type := .messageNew
  tid := tid
  did := 0
  request := some request
  response := none

def answerOf : List Effect → Option (Response SipRegistration.Answer)
  | .answer _ answer :: _ => some { statusCode := answerCode answer, content := answer }
  | _ => none

/-- `HandlerSipMessageNew`; a server that has failed handles nothing more. -/
def handle (md5 : Md5) (config : SipServerConfig) (env : Environment) (times : Nat → Int)
    (user : Except Fault SipServer) (tid : Nat)
    (request : SipTransactionMatching.Request SipMessage) :
    Except Fault SipServer × Option (Response SipRegistration.Answer) :=
  match user with
  | .error fault => (.error fault, none)
  | .ok s =>
      match handlerSipMessageNew md5 config env (times tid) s (messageNew tid request.content) with
      | .error fault => (.error fault, none)
      | .ok handled => (.ok handled.1, answerOf handled.2)

def registrar (md5 : Md5) (config : SipServerConfig) (env : Environment) (times : Nat → Int) :
    Application SipMessage SipRegistration.Answer (Except Fault SipServer) where
  handle := handle md5 config env times
  buildResponseDefault status _ := some { statusCode := status, content := .message status }

variable {md5 : Md5} {config : SipServerConfig} {env : Environment} {times : Nat → Int}

theorem handle_devices {s s' : SipServer} {tid : Nat}
    {request : SipTransactionMatching.Request SipMessage}
    (h : (handle md5 config env times (.ok s) tid request).1 = .ok s') :
    s'.devices.length ≤ s.devices.length + if isRegister request.content then 1 else 0 := by
  rw [handle] at h
  cases hhandled : handlerSipMessageNew md5 config env (times tid) s
      (messageNew tid request.content) with
  | error fault =>
      rw [hhandled] at h
      cases h
  | ok handled =>
      rw [hhandled] at h
      obtain ⟨s₁, effects⟩ := handled
      obtain rfl := Except.ok.inj h
      have hcases : (∃ client, DeviceRegistry.acceptedClient md5 config s
          ⟨times tid, messageNew tid request.content⟩ = some client ∧
            s₁ = s.register (times tid) client) ∨ DeviceRegistry.acceptedClient md5 config s
              ⟨times tid, messageNew tid request.content⟩ = none ∧ s₁ = s :=
        DeviceRegistry.messageNew_cases rfl hhandled
      rcases hcases with ⟨client, haccepted, rfl⟩ | ⟨-, rfl⟩
      · have hregister : isRegister request.content = true := by
          rw [DeviceRegistry.acceptedClient] at haccepted
          split at haccepted
          · rename_i hevent
            exact hevent.2
          · cases haccepted
        rw [if_pos hregister, SipServer.register, List.length_append]
        exact Nat.le_refl _
      · exact Nat.le_add_right _ _

theorem foldl_devices {s s' : SipServer}
    (handled : List (Nat × SipTransactionMatching.Request SipMessage))
    (h : handled.foldl (fun user handled =>
      (handle md5 config env times user handled.1 handled.2).1) (.ok s) = .ok s') :
    s'.devices.length ≤ s.devices.length +
      (handled.filter fun handled => isRegister handled.2.content).length := by
  induction handled generalizing s with
  | nil =>
      obtain rfl := Except.ok.inj h
      exact Nat.le_add_right _ _
  | cons first rest ih =>
      rw [List.foldl_cons] at h
      cases hfirst : (handle md5 config env times (.ok s) first.1 first.2).1 with
      | error fault =>
          rw [hfirst] at h
          have hfailed : ∀ rest : List (Nat × SipTransactionMatching.Request SipMessage),
              rest.foldl (fun user handled =>
                (handle md5 config env times user handled.1 handled.2).1) (.error fault) =
                  .error fault := by
            intro rest
            induction rest with
            | nil => rfl
            | cons _ _ ih => exact ih
          rw [hfailed] at h
          cases h
      | ok s₁ =>
          rw [hfirst] at h
          have hone := handle_devices hfirst
          have hrest := ih h
          rw [List.filter_cons]
          split at hone
          · rename_i hregister
            rw [if_pos hregister, List.length_cons]
            omega
          · rename_i hregister
            rw [if_neg hregister]
            omega

/-- However often the `REGISTER` requests are retransmitted and duplicated on their way, the
server stores no more devices than there were transactions for a `REGISTER`. -/
theorem devices_le (md5 : Md5) (config : SipServerConfig) (env : Environment)
    (times : Nat → Int) (s s' : SipServer) {inputs : List (Input SipMessage)}
    (hclock : Ticking inputs)
    (hend : (run (World.step (registrar md5 config env times)) (start (.ok s)) inputs).user =
      .ok s') :
    s'.devices.length ≤ s.devices.length +
      ((run (World.step (registrar md5 config env times)) (start (.ok s)) inputs).opened.filter
        fun o => isRegister o.request.content).length := by
  have hinv := inv_run (registrar md5 config env times) (.ok s) hclock
  rw [user_run _ _ hclock] at hend
  generalize run (World.step (registrar md5 config env times)) (start (.ok s)) inputs = w
    at hinv hend ⊢
  refine Nat.le_trans (foldl_devices w.handled hend) (Nat.add_le_add_left ?_ _)
  have hnodup : ((w.handled.filter fun handled => isRegister handled.2.content).map
      Prod.fst).Nodup := hinv.handled.1.sublist (List.filter_sublist.map _)
  have hsub : (w.handled.filter fun handled => isRegister handled.2.content).map Prod.fst ⊆
      (w.opened.filter fun o => isRegister o.request.content).map Opened.tid := by
    intro tid htid
    obtain ⟨handled, hmem, rfl⟩ := List.mem_map.mp htid
    obtain ⟨hhandled, hregister⟩ := List.mem_filter.mp hmem
    obtain ⟨o, ho, hsame, hrequest⟩ := hinv.handled.2 handled hhandled
    refine List.mem_map.mpr ⟨o, List.mem_filter.mpr ⟨ho, ?_⟩, hsame⟩
    rw [hrequest]
    exact hregister
  have hle := (List.subperm_of_subset hnodup hsub).length_le
  rwa [List.length_map, List.length_map] at hle

def firstRegister : SipTransactionMatching.Request SipMessage where
  sipMethod := ascii "REGISTER"
  topvia :=
    { version := ascii "2.0", protocol := ascii "UDP", host := some (ascii "192.0.2.1"),
      port := none, viaParams := [(ascii "branch", some (ascii "z9hG4bK74b4"))], comment := none }
  fromTag := some (some (ascii "1928"))
  toTag := none
  callId := { number := ascii "a84b4c76e667", host := none }
  cseq := { number := ascii "1", method := ascii "REGISTER" }
  content :=
    { sipMethod := ascii "REGISTER", authorizations := [], statusCode := 0, headers := [],
      bodies := []
      contacts := [⟨some ⟨some (ascii "192.0.2.1"), some (ascii "5060")⟩⟩] }

/-- The answer to the challenge of `defaultConfig`, with the digest that its password gives. -/
def credentials : Authorization :=
  { uriOnly with
    username := some (ascii "\"41010500001320000001\"")
    realm := some (osipEnquote defaultConfig.sipServerRealm)
    nonce := some (osipEnquote defaultConfig.nonce)
    response := some (ascii "\"9ee85ca82b0f52bf48a417d194ad6448\"") }

def secondRegister : SipTransactionMatching.Request SipMessage :=
  { firstRegister with
    topvia :=
      { firstRegister.topvia with viaParams := [(ascii "branch", some (ascii "z9hG4bK74b5"))] }
    cseq := { firstRegister.cseq with number := ascii "2" }
    content := { firstRegister.content with authorizations := [credentials] } }

def camera : SipClient where
  ip := ascii "192.0.2.1"
  port := 5060
  device := ascii "41010500001320000001"

def quietEnvironment : Environment where
  logsInfo := false
  messageToStr := fun _ => .untouched
  buildAnswer := fun _ _ => true
  buildAck := fun _ => true
  responseCmdType := fun _ => none
  handlersMade := true
  handleMessageResponse := fun _ _ => .ok ()
  handleAlarmNotify := fun _ => .ok ()

theorem responseRegister_secondRegister (md5 : Md5) (now : Int) (s : SipServer) :
    responseRegister md5 defaultConfig now s secondRegister.content.toRequest =
      .ok (s.register now camera, .message 200) := by
  have hown : credentials.strdup = .ok credentials.unquoted := rfl
  have hclient : sipClient secondRegister.content.toRequest credentials.unquoted = .ok camera := rfl
  obtain ⟨digest, hheader, hchallenge⟩ : ∃ digest,
      headerDigest md5 defaultConfig credentials.unquoted (ascii "REGISTER") = .ok digest ∧
        challengeDigest md5 defaultConfig credentials.unquoted (ascii "REGISTER") = .ok digest :=
    ⟨_, rfl, rfl⟩
  change answerAuthorization md5 defaultConfig now s secondRegister.content.toRequest
    credentials = _
  simp only [answerAuthorization, bind_eq_ok]
  exact ⟨_, hown, _, hheader, _, hchallenge, _, hclient, if_pos rfl⟩

theorem handle_secondRegister (md5 : Md5) (times : Nat → Int) (s : SipServer) (tid : Nat) :
    (registrar md5 defaultConfig quietEnvironment times).handle (.ok s) tid secondRegister =
      (.ok (s.register (times tid) camera),
        some { statusCode := 200, content := .message 200 }) := by
  have hhandled : handlerSipMessageNew md5 defaultConfig quietEnvironment (times tid) s
      (messageNew tid secondRegister.content) =
        .ok (s.register (times tid) camera, [.answer tid (.message 200)]) := by
    change (do
      let registered ← responseRegister md5 defaultConfig (times tid) s
        secondRegister.content.toRequest
      return (registered.1, sendAnswer quietEnvironment (messageNew tid secondRegister.content)
        registered.2) : Except Fault _) = _
    rw [responseRegister_secondRegister]
    rfl
  change SipRegistrar.handle md5 defaultConfig quietEnvironment times (.ok s) tid
    secondRegister = _
  rw [handle, hhandled]
  rfl

abbrev sampleRegistrar :
    Application SipMessage SipRegistration.Answer (Except Fault SipServer) :=
  registrar (DigestContexts.hash 64) defaultConfig quietEnvironment fun _ => 0

/-- The `REGISTER` comes twice and is challenged; the one with the credentials comes twice. -/
def challenged : List (Input SipMessage) :=
  [.datagram 0 firstRegister, .datagram 500000 firstRegister, .execute 500000 fun _ _ => true,
    .eventWait, .buildAnswer, .sendAnswer, .execute 600000 fun _ _ => true,
    .datagram 700000 secondRegister, .datagram 1200000 secondRegister,
    .execute 1200000 fun _ _ => true]

/-- The credentials are accepted and come once more. -/
def registered : List (Input SipMessage) :=
  challenged ++
    [.eventWait, .buildAnswer, .sendAnswer, .execute 1300000 fun _ _ => true,
      .datagram 2700000 secondRegister, .execute 2700000 fun _ _ => true, .eventWait]

theorem ticking_registered : Ticking registered := by
  change List.Pairwise (· ≤ ·)
    [0, 500000, 500000, 600000, 700000, 1200000, 1200000, 1300000, 2700000, 2700000]
  decide

theorem events_challenged :
    (run (World.step sampleRegistrar) (start (.ok DeviceRegistry.initial)) challenged).events =
      [(2, secondRegister)] := by
  decide

theorem user_challenged :
    (run (World.step sampleRegistrar) (start (.ok DeviceRegistry.initial)) challenged).user =
      .ok DeviceRegistry.initial := by
  rfl

theorem handled_registered :
    (run (World.step sampleRegistrar) (start (.ok DeviceRegistry.initial)) registered).handled =
      [(1, firstRegister), (2, secondRegister)] := by
  have hturn : (run (World.step sampleRegistrar) (start (.ok DeviceRegistry.initial))
      challenged).turn = .waiting := rfl
  have hhandle : sampleRegistrar.handle (run (World.step sampleRegistrar)
      (start (.ok DeviceRegistry.initial)) challenged).user 2 secondRegister =
        (.ok (DeviceRegistry.initial.register 0 camera),
          some { statusCode := 200, content := .message 200 }) := by
    rw [user_challenged]
    exact handle_secondRegister (DigestContexts.hash 64) (fun _ => 0) DeviceRegistry.initial 2
  -- the digests are compared here, and the rest of the run does not look at them
  rw [registered, run_append, run_cons, World.step,
    eventWait_of_answer hturn events_challenged hhandle]
  decide

theorem user_registered :
    (run (World.step sampleRegistrar) (start (.ok DeviceRegistry.initial)) registered).user =
      .ok (DeviceRegistry.initial.register 0 camera) := by
  have hfirst : sampleRegistrar.handle (.ok DeviceRegistry.initial) 1 firstRegister =
      (.ok DeviceRegistry.initial,
        some { statusCode := 401, content := challenge defaultConfig }) := rfl
  rw [user_run _ _ ticking_registered, handled_registered, List.foldl_cons, hfirst,
    List.foldl_cons, List.foldl_nil, handle_secondRegister]

theorem devices_le_of_registered :
    (DeviceRegistry.initial.register 0 camera).devices.length ≤
      DeviceRegistry.initial.devices.length +
        ((run (World.step (registrar (DigestContexts.hash 64) defaultConfig quietEnvironment
          fun _ => 0)) (start (.ok DeviceRegistry.initial)) registered).opened.filter
            fun o => isRegister o.request.content).length :=
  devices_le (DigestContexts.hash 64) defaultConfig quietEnvironment (fun _ => 0)
    DeviceRegistry.initial _ ticking_registered user_registered

end GBServer.SipRegistrar
