import GBServer.Foundation.Runs
import GBServer.SipTotality

namespace GBServer.DeviceRegistry

open Foundation.CStrings
open Foundation.Memory
open Foundation.Runs
open GBServer.HttpDigest
open GBServer.SipRegistration
open GBServer.SipEvents
open Std (ExtTreeMap)

def initial : SipServer := ⟨∅, []⟩

/-- The address of the `Contact` and the user name of a `REGISTER`. -/
def contactClient (request : Request) : Option SipClient := do
  let auth ← request.authorizations.head?
  let own ← auth.strdup.toOption
  (sipClient request own).toOption

def IsRegister (event : SipEvent) : Prop :=
  event.type = .messageNew ∧ event.request.any isRegister

instance : DecidablePred IsRegister :=
  fun event => inferInstanceAs (Decidable (event.type = .messageNew ∧ event.request.any isRegister))

/-- The client whose `REGISTER` is answered with 200. -/
def acceptedClient (md5 : Md5) (config : SipServerConfig) (s : SipServer)
    (delivery : Delivery) : Option SipClient :=
  if IsRegister delivery.event then do
    let request ← delivery.event.request
    match responseRegister md5 config delivery.now s request.toRequest with
    | .ok (_, .message 200) => contactClient request.toRequest
    | _ => none
  else none

theorem responseRegister_cases {md5 : Md5} {config : SipServerConfig} {now : Int}
    {s s' : SipServer} {request : Request} {answer : SipRegistration.Answer}
    (h : responseRegister md5 config now s request = .ok (s', answer)) :
    (∃ client, answer = .message 200 ∧ contactClient request = some client ∧
        s' = s.register now client) ∨
      (answer ≠ .message 200 ∧ s' = s) := by
  rw [responseRegister] at h
  cases hauth : request.authorizations.head? with
  | none =>
      rw [hauth] at h
      obtain ⟨rfl, rfl⟩ := pure_pair_eq_ok.mp h
      exact Or.inr ⟨by simp [challenge], rfl⟩
  | some auth =>
      rw [hauth] at h
      dsimp only at h
      split at h
      · simp only [answerAuthorization, bind_eq_ok] at h
        obtain ⟨own, hown, _, _, _, _, client, hclient, h⟩ := h
        split at h
        · obtain ⟨rfl, rfl⟩ := pure_pair_eq_ok.mp h
          refine Or.inl ⟨client, rfl, ?_, rfl⟩
          simp [contactClient, hauth, hown, hclient, Except.toOption]
        · obtain ⟨rfl, rfl⟩ := pure_pair_eq_ok.mp h
          exact Or.inr ⟨by decide, rfl⟩
      · obtain ⟨rfl, rfl⟩ := pure_pair_eq_ok.mp h
        exact Or.inr ⟨by simp [challenge], rfl⟩

section Steps

variable {md5 : Md5} {config : SipServerConfig} {env : Environment} {s s' : SipServer}
  {delivery : Delivery}

theorem step_eq_ok : step md5 config env s delivery = .ok s' ↔
    ∃ effects, loopSip md5 config env delivery.now s delivery.event = .ok (s', effects) := by
  rw [step]
  cases loopSip md5 config env delivery.now s delivery.event with
  | error fault => simp [Except.map]
  | ok result => simp [Except.map, Prod.ext_iff]

theorem eq_of_pure {kept effects : List Effect}
    (h : (pure (s, kept) : Except Fault (SipServer × List Effect)) = .ok (s', effects)) :
    s' = s := (pure_pair_eq_ok.mp h).1.symm

theorem eq_of_bind_pure {α : Type} {x : Except Fault α} {kept : α → List Effect}
    {effects : List Effect} (h : (x >>= fun a => pure (s, kept a)) = .ok (s', effects)) :
    s' = s := by
  obtain ⟨_, _, h⟩ := bind_eq_ok.mp h
  exact eq_of_pure h

theorem eq_of_handlerSipMessageAnswerd {event : SipEvent} {effects : List Effect}
    (h : handlerSipMessageAnswerd env s event = .ok (s', effects)) : s' = s := by
  rw [handlerSipMessageAnswerd] at h
  obtain ⟨_, _, h⟩ := bind_eq_ok.mp h
  split at h
  · exact eq_of_bind_pure h
  · exact eq_of_pure h

theorem eq_of_handlerSipInSubscriptionNew {event : SipEvent} {effects : List Effect}
    (h : handlerSipInSubscriptionNew env s event = .ok (s', effects)) : s' = s := by
  rw [handlerSipInSubscriptionNew] at h
  split at h
  · exact eq_of_bind_pure h
  · exact eq_of_pure h

theorem acceptedClient_of_type (h : delivery.event.type ≠ .messageNew) :
    acceptedClient md5 config s delivery = none := if_neg fun hregister => h hregister.1

theorem messageNew_cases {effects : List Effect} (htype : delivery.event.type = .messageNew)
    (h : handlerSipMessageNew md5 config env delivery.now s delivery.event = .ok (s', effects)) :
    (∃ client, acceptedClient md5 config s delivery = some client ∧
        s' = s.register delivery.now client) ∨
      (acceptedClient md5 config s delivery = none ∧ s' = s) := by
  rw [handlerSipMessageNew] at h
  obtain ⟨request, hrequest, h⟩ := bind_eq_ok.mp h
  have hrequest : delivery.event.request = some request := deref_eq_ok.mp hrequest
  split at h
  · rename_i hregister
    have hevent : IsRegister delivery.event := ⟨htype, by rw [hrequest]; exact hregister⟩
    obtain ⟨⟨_, answer⟩, hresponse, h⟩ := bind_eq_ok.mp h
    obtain ⟨rfl, _⟩ := pure_pair_eq_ok.mp h
    rw [acceptedClient, if_pos hevent, hrequest, Option.bind_eq_bind, Option.bind_some, hresponse]
    rcases responseRegister_cases hresponse with ⟨client, rfl, hclient, hs⟩ | ⟨hanswer, hs⟩
    · exact Or.inl ⟨client, hclient, hs⟩
    · refine Or.inr ⟨?_, hs⟩
      split
      · rename_i heq
        exact absurd (Prod.mk.inj (Except.ok.inj heq)).2 hanswer
      · rfl
  · rename_i hregister
    have hevent : ¬ IsRegister delivery.event := by
      rintro ⟨_, hany⟩
      rw [hrequest] at hany
      exact hregister hany
    refine Or.inr ⟨if_neg hevent, ?_⟩
    split at h
    · exact eq_of_bind_pure h
    · exact eq_of_pure h

theorem eq_of_loopSip {now : Int} {event : SipEvent} {effects : List Effect}
    (hnew : event.type ≠ .messageNew) (hreleased : event.type ≠ .callReleased)
    (h : loopSip md5 config env now s event = .ok (s', effects)) : s' = s := by
  rw [loopSip] at h
  cases htype : event.type with
  | messageNew => exact absurd htype hnew
  | callReleased => exact absurd htype hreleased
  | callMessageNew | callClosed | messageRequestFailure | callProceeding | callAnswered =>
      rw [htype] at h
      exact eq_of_bind_pure h
  | callInvite | callServerFailure | other =>
      rw [htype] at h
      exact eq_of_pure h
  | messageAnswered =>
      rw [htype] at h
      exact eq_of_handlerSipMessageAnswerd h
  | inSubscriptionNew =>
      rw [htype] at h
      exact eq_of_handlerSipInSubscriptionNew h

/-- What an event does to the devices: nothing, but for an accepted `REGISTER` and the
release of a call. -/
theorem step_cases (h : step md5 config env s delivery = .ok s') :
    (∃ client, acceptedClient md5 config s delivery = some client ∧
        s' = s.register delivery.now client) ∨
      (acceptedClient md5 config s delivery = none ∧ delivery.event.type = .callReleased ∧
        s' = { s with clientMap := ∅ }) ∨
      (acceptedClient md5 config s delivery = none ∧ delivery.event.type ≠ .callReleased ∧
        s' = s) := by
  obtain ⟨effects, h⟩ := step_eq_ok.mp h
  by_cases hnew : delivery.event.type = .messageNew
  · rw [loopSip, hnew] at h
    rcases messageNew_cases hnew h with haccepted | ⟨haccepted, hs⟩
    · exact Or.inl haccepted
    · exact Or.inr (Or.inr ⟨haccepted, by simp [hnew], hs⟩)
  · have haccepted : acceptedClient md5 config s delivery = none := acceptedClient_of_type hnew
    by_cases hreleased : delivery.event.type = .callReleased
    · rw [loopSip, hreleased] at h
      obtain ⟨_, _, h⟩ := bind_eq_ok.mp h
      exact Or.inr (Or.inl ⟨haccepted, hreleased, (pure_pair_eq_ok.mp h).1.symm⟩)
    · exact Or.inr (Or.inr ⟨haccepted, hreleased, eq_of_loopSip hnew hreleased h⟩)

theorem step_accepted {client : SipClient}
    (h : acceptedClient md5 config s delivery = some client) :
    step md5 config env s delivery = .ok (s.register delivery.now client) := by
  rw [acceptedClient] at h
  split at h
  · rename_i hevent
    obtain ⟨htype, hregister⟩ := hevent
    obtain ⟨request, hrequest, h⟩ := Option.bind_eq_some_iff.mp h
    rw [hrequest] at hregister
    have hregister : isRegister request := hregister
    split at h
    · rename_i s' hresponse
      rcases responseRegister_cases hresponse with ⟨_, _, hclient, rfl⟩ | ⟨hanswer, _⟩
      · obtain rfl := Option.some.inj (hclient.symm.trans h)
        refine step_eq_ok.mpr ⟨sendAnswer env delivery.event (.message 200), ?_⟩
        rw [loopSip, htype]
        simp only [handlerSipMessageNew, bind_eq_ok, deref_eq_ok]
        refine ⟨request, hrequest, ?_⟩
        rw [if_pos hregister, hresponse]
        rfl
      · exact absurd rfl hanswer
    · contradiction
  · contradiction

theorem step_released (h : delivery.event.type = .callReleased) :
    step md5 config env s delivery = .ok { s with clientMap := ∅ } ↔
      Completed env delivery.event := by
  rw [← defined_step_iff md5 config env s]
  constructor
  · intro hstep
    exact ⟨_, hstep⟩
  · rintro ⟨s', hstep⟩
    rcases step_cases hstep with ⟨_, haccepted, _⟩ | ⟨_, _, rfl⟩ | ⟨_, hother, _⟩
    · rw [acceptedClient_of_type (h ▸ nofun)] at haccepted
      contradiction
    · exact hstep
    · exact absurd h hother

/-- A device and the client of its last accepted `REGISTER`. -/
def note (md5 : Md5) (config : SipServerConfig) (s : SipServer)
    (latest : CString → Option SipClient) (delivery : Delivery) : CString → Option SipClient :=
  match acceptedClient md5 config s delivery with
  | some client => Function.update latest client.device (some client)
  | none => latest

/-- Every device that has registered is found under its last `Contact`. -/
def LatestWins (p : SipServer × (CString → Option SipClient)) : Prop :=
  ∀ device client, p.2 device = some client → p.1.clientMap[device]? = some client

/-- Only devices that have registered are in the table, each under its own name. -/
def Recorded (p : SipServer × (CString → Option SipClient)) : Prop :=
  ∀ device, device ∈ p.1.clientMap → (p.2 device).isSome

/-- A device registers with another address only where it is not in the table, and a
call is released only while the table is empty. -/
def KeepsLatest (md5 : Md5) (config : SipServerConfig) (env : Environment) (s : SipServer)
    (delivery : Delivery) : Prop :=
  (∀ client, acceptedClient md5 config s delivery = some client →
      ∀ old, s.clientMap[client.device]? = some old → old = client) ∧
    (delivery.event.type = .callReleased → Completed env delivery.event →
      ∀ device, device ∉ s.clientMap)

theorem compare_device_eq_iff {client : SipClient} {device : CString} :
    compare client.device device = .eq ↔ device = client.device :=
  Std.LawfulEqCmp.compare_eq_iff_eq.trans eq_comm

theorem getElem?_clientMap_register (s : SipServer) (now : Int) (client : SipClient)
    (device : CString) : (s.register now client).clientMap[device]? =
      if device = client.device ∧ client.device ∉ s.clientMap then some client
      else s.clientMap[device]? := by
  simp only [SipServer.register, ExtTreeMap.getElem?_insertIfNew, compare_device_eq_iff]

theorem mem_clientMap_register_iff {now : Int} {client : SipClient} {device : CString} :
    device ∈ (s.register now client).clientMap ↔
      device = client.device ∨ device ∈ s.clientMap := by
  simp only [SipServer.register, ExtTreeMap.mem_insertIfNew, compare_device_eq_iff]

variable {latest : CString → Option SipClient}

theorem note_of_accepted {client : SipClient}
    (h : acceptedClient md5 config s delivery = some client) :
    note md5 config s latest delivery = Function.update latest client.device (some client) := by
  rw [note, h]

theorem note_of_not_accepted (h : acceptedClient md5 config s delivery = none) :
    note md5 config s latest delivery = latest := by
  rw [note, h]

theorem observeGuarded_accepted {client : SipClient}
    (h : acceptedClient md5 config s delivery = some client) :
    observeGuarded (step md5 config env) (note md5 config) (s, latest) delivery =
      .ok (s.register delivery.now client,
        Function.update latest client.device (some client)) := by
  rw [observeGuarded, step_accepted h, note_of_accepted h]
  rfl

theorem recorded_step (h : Recorded (s, latest)) :
    OnOk Recorded
      (observeGuarded (step md5 config env) (note md5 config) (s, latest) delivery) := by
  rw [onOk_observeGuarded]
  intro s' hstep device hdevice
  rcases step_cases hstep with ⟨client, haccepted, rfl⟩ | ⟨haccepted, _, rfl⟩ | ⟨haccepted, _, rfl⟩
  · rw [note_of_accepted haccepted]
    dsimp only
    by_cases hclient : device = client.device
    · rw [hclient, Function.update_self]
      rfl
    · rw [Function.update_of_ne hclient]
      exact h device ((mem_clientMap_register_iff.mp hdevice).resolve_left hclient)
  · exact absurd hdevice ExtTreeMap.not_mem_empty
  · rw [note_of_not_accepted haccepted]
    exact h device hdevice

theorem latestWins_register_iff {client : SipClient} {now : Int} (h : LatestWins (s, latest)) :
    LatestWins (s.register now client, Function.update latest client.device (some client)) ↔
      ∀ old, s.clientMap[client.device]? = some old → old = client := by
  constructor
  · intro hlatest old hold
    have hentry := hlatest client.device client (Function.update_self _ _ _)
    have hmem : client.device ∈ s.clientMap :=
      ExtTreeMap.mem_iff_isSome_getElem?.mpr (by rw [hold]; rfl)
    rw [getElem?_clientMap_register, if_neg fun hnew => hnew.2 hmem, hold] at hentry
    exact Option.some.inj hentry
  · intro hsame device registered hregistered
    dsimp only at hregistered
    rw [getElem?_clientMap_register]
    by_cases hdevice : device = client.device
    · subst hdevice
      rw [Function.update_self] at hregistered
      obtain rfl := Option.some.inj hregistered
      split
      · rfl
      · rename_i hold
        have hmem : client.device ∈ s.clientMap := by
          by_contra hnew
          exact hold ⟨rfl, hnew⟩
        obtain ⟨old, hold⟩ := Option.isSome_iff_exists.mp
          (ExtTreeMap.mem_iff_isSome_getElem?.mp hmem)
        rw [hold, hsame old hold]
    · rw [Function.update_of_ne hdevice] at hregistered
      rw [if_neg fun hnew => hdevice hnew.1]
      exact h device registered hregistered

theorem latestWins_clear_iff (h : LatestWins (s, latest)) (hrecorded : Recorded (s, latest)) :
    LatestWins ({ s with clientMap := ∅ }, latest) ↔ ∀ device, device ∉ s.clientMap := by
  constructor
  · intro hlatest device hmem
    obtain ⟨client, hclient⟩ := Option.isSome_iff_exists.mp (hrecorded device hmem)
    have hentry := hlatest device client hclient
    rw [ExtTreeMap.getElem?_empty] at hentry
    contradiction
  · intro hempty device client hclient
    have hentry := h device client hclient
    exact absurd (ExtTreeMap.mem_iff_isSome_getElem?.mpr (by rw [hentry]; rfl)) (hempty device)

theorem latestWins_step_iff (hrecorded : Recorded (s, latest)) (h : LatestWins (s, latest)) :
    OnOk LatestWins
        (observeGuarded (step md5 config env) (note md5 config) (s, latest) delivery) ↔
      KeepsLatest md5 config env s delivery := by
  rw [onOk_observeGuarded]
  cases haccepted : acceptedClient md5 config s delivery with
  | some client =>
      have hreleased : delivery.event.type ≠ .callReleased := by
        intro hreleased
        rw [acceptedClient_of_type (hreleased ▸ nofun)] at haccepted
        contradiction
      rw [step_accepted haccepted, onOk_ok, note_of_accepted haccepted, latestWins_register_iff h]
      constructor
      · intro hsame
        refine ⟨?_, fun h => absurd h hreleased⟩
        intro client' haccepted'
        obtain rfl := Option.some.inj (haccepted.symm.trans haccepted')
        exact hsame
      · intro hkeeps
        exact hkeeps.1 client haccepted
  | none =>
      rw [note_of_not_accepted haccepted]
      have hregisters : ∀ client, acceptedClient md5 config s delivery = some client →
          ∀ old, s.clientMap[client.device]? = some old → old = client := by
        rw [haccepted]
        exact nofun
      by_cases hreleased : delivery.event.type = .callReleased
      · by_cases hcompleted : Completed env delivery.event
        · rw [(step_released hreleased).mpr hcompleted, onOk_ok,
            latestWins_clear_iff h hrecorded]
          exact ⟨fun hempty => ⟨hregisters, fun _ _ => hempty⟩,
            fun hkeeps => hkeeps.2 hreleased hcompleted⟩
        · refine iff_of_true ?_ ⟨hregisters, fun _ h => absurd h hcompleted⟩
          intro s' hstep
          exact absurd ((defined_step_iff md5 config env s delivery).mp ⟨s', hstep⟩) hcompleted
      · refine iff_of_true ?_ ⟨hregisters, fun h => absurd h hreleased⟩
        intro s' hstep
        rcases step_cases hstep with ⟨_, haccepted', _⟩ | ⟨_, hreleased', _⟩ | ⟨_, _, rfl⟩
        · rw [haccepted] at haccepted'
          contradiction
        · exact absurd hreleased' hreleased
        · exact h

end Steps

/-- In a run the last `Contact` of every device is the one in the table exactly when no
device moves while it is in the table and no call is released while a device is. -/
theorem latestWins_iff (md5 : Md5) (config : SipServerConfig) (env : Environment)
    (deliveries : List Delivery) :
    Throughout (guarded (observeGuarded (step md5 config env) (note md5 config))) (OnOk LatestWins)
        (.ok (initial, fun _ => none)) deliveries ↔
      Admitted (guarded (observeGuarded (step md5 config env) (note md5 config)))
        (fun p delivery => OnOk (fun q => KeepsLatest md5 config env q.1 delivery) p)
        (.ok (initial, fun _ => none)) deliveries := by
  have hlatest : LatestWins (initial, fun _ => none) := by
    intro device client h
    contradiction
  have hrecorded : Recorded (initial, fun _ => none) := by
    intro device h
    exact absurd h ExtTreeMap.not_mem_empty
  refine throughout_onOk_iff hlatest hrecorded ?_ ?_
  · rintro ⟨s, latest⟩ delivery hrecorded h
    exact latestWins_step_iff hrecorded h
  · rintro ⟨s, latest⟩ delivery hrecorded
    exact recorded_step hrecorded

/-- A `REGISTER` that copies the challenge, for a user name and from a host. -/
def registerFrom (username host : CString) : Request :=
  registering
    { sipMethod := ascii "REGISTER"
      authorizations := []
      contacts := [⟨some ⟨some host, some (ascii "5060")⟩⟩] }
    { uriOnly with
      realm := some (osipEnquote defaultConfig.sipServerRealm)
      nonce := some (osipEnquote defaultConfig.nonce) }
    username (ascii "\"0\"")

theorem contactClient_registerFrom {username : CString} (host : CString)
    (husername : username ≠ [quote]) :
    contactClient (registerFrom username host) = some ⟨host, 5060, unquote username⟩ := by
  have hstrdup : ∀ auth : Authorization, auth.NoLoneQuote →
      auth.strdup.toOption = some auth.unquoted := by
    intro auth hquotes
    rw [Authorization.strdup_eq_ok.mpr ⟨hquotes, rfl⟩]
    rfl
  rw [contactClient, registerFrom, registering, List.head?_cons, Option.bind_eq_bind,
    Option.bind_some, hstrdup]
  · rfl
  · exact ⟨nofun, fun h => husername (Option.some.inj h), osipEnquote_ne_quote _,
      osipEnquote_ne_quote _, nofun, show uriOnly.uri ≠ some [quote] by decide⟩

theorem acceptedClient_registerFrom (md5 : Md5) (s : SipServer) (now : Int)
    {username : CString} (host : CString) (husername : username ≠ [quote]) :
    acceptedClient md5 defaultConfig s ⟨now, registerEvent (registerFrom username host)⟩ =
      some ⟨host, 5060, unquote username⟩ := by
  have hparameters : HasDigestParameters { uriOnly with username := some username } :=
    ⟨nofun, fun h => husername (Option.some.inj h), nofun,
      show uriOnly.uri ≠ some [quote] by decide, rfl, nofun, fun h => absurd rfl h⟩
  have hechoes : EchoesChallenge md5 defaultConfig (registerFrom username host) :=
    echoesChallenge_of_copied uriOnly username _ (List.all_eq_true.mp rfl)
      (List.all_eq_true.mp rfl) hparameters rfl rfl ⟨_, _, rfl, rfl, rfl, rfl⟩
  have haccepted : Accepted md5 defaultConfig now s (registerFrom username host) :=
    accepted_iff.mpr hechoes
  obtain ⟨s', _, _, _, hresponse, _⟩ := haccepted
  rw [acceptedClient, if_pos ⟨rfl, rfl⟩, registerEvent, Option.bind_eq_bind, Option.bind_some,
    hresponse]
  exact contactClient_registerFrom host husername

/-- A camera that registers, and registers again after it has got another address. -/
def movedDevice : List Delivery :=
  [⟨0, registerEvent (registerFrom (ascii "41010500001320000001") (ascii "192.0.2.1"))⟩,
    ⟨60, registerEvent (registerFrom (ascii "41010500001320000001") (ascii "192.0.2.2"))⟩]

theorem not_latestWins :
    ¬ ∃ md5, ∀ deliveries,
      Throughout (guarded (observeGuarded (step md5 defaultConfig builtEnvironment)
          (note md5 defaultConfig))) (OnOk LatestWins)
        (.ok (initial, fun _ => none)) deliveries := by
  rintro ⟨md5, hclaim⟩
  have hname : ascii "41010500001320000001" ≠ [quote] := by decide
  have hbefore := hclaim movedDevice [_] [_] rfl
  have hafter := hclaim movedDevice movedDevice [] rfl
  rw [run_cons, guarded_ok,
    observeGuarded_accepted (acceptedClient_registerFrom md5 _ _ _ hname), run_nil, onOk_ok]
    at hbefore
  rw [movedDevice, run_cons, guarded_ok,
    observeGuarded_accepted (acceptedClient_registerFrom md5 _ _ _ hname), run_cons, guarded_ok,
    observeGuarded_accepted (acceptedClient_registerFrom md5 _ _ _ hname), run_nil, onOk_ok]
    at hafter
  have hsame := (latestWins_register_iff hbefore).mp hafter _
    (getElem?_clientMap_register initial _ _ _ |>.trans (if_pos ⟨rfl, ExtTreeMap.not_mem_empty⟩))
  exact absurd (congrArg SipClient.ip hsame) (by decide)

section Calls

/-- Devices that are no party of the event's call keep their entries. -/
def KeepsOthers (party : SipEvent → CString → Prop) (event : SipEvent) (s s' : SipServer) : Prop :=
  ∀ device, ¬ party event device → s'.clientMap[device]? = s.clientMap[device]?

/-- A call is released only while all registered devices are parties of it. -/
def ReleasesAll (env : Environment) (party : SipEvent → CString → Prop) (s : SipServer)
    (event : SipEvent) : Prop :=
  event.type = .callReleased → Completed env event →
    ∀ device, device ∈ s.clientMap → party event device

variable {md5 : Md5} {config : SipServerConfig} {env : Environment} {s : SipServer}
  {delivery : Delivery} {party : SipEvent → CString → Prop}

theorem keepsOthers_clear_iff {event : SipEvent} :
    KeepsOthers party event s { s with clientMap := ∅ } ↔
      ∀ device, device ∈ s.clientMap → party event device := by
  constructor
  · intro hkeeps device hmem
    by_contra hparty
    have hentry := hkeeps device hparty
    rw [ExtTreeMap.getElem?_empty] at hentry
    rw [ExtTreeMap.mem_iff_isSome_getElem?, ← hentry] at hmem
    contradiction
  · intro hall device hparty
    have hnew : device ∉ s.clientMap := fun hmem => hparty (hall device hmem)
    rw [ExtTreeMap.getElem?_empty, ExtTreeMap.getElem?_eq_none hnew]

theorem acceptedClient_isRegister {client : SipClient}
    (h : acceptedClient md5 config s delivery = some client) : IsRegister delivery.event := by
  rw [acceptedClient] at h
  split at h
  · assumption
  · contradiction

theorem keepsOthers_step_iff (hregister : ¬ IsRegister delivery.event) :
    OnOk (KeepsOthers party delivery.event s) (step md5 config env s delivery) ↔
      ReleasesAll env party s delivery.event := by
  by_cases hreleased : delivery.event.type = .callReleased
  · by_cases hcompleted : Completed env delivery.event
    · rw [(step_released hreleased).mpr hcompleted, onOk_ok, keepsOthers_clear_iff]
      exact ⟨fun hall _ _ => hall, fun hall => hall hreleased hcompleted⟩
    · refine iff_of_true ?_ fun _ h => absurd h hcompleted
      intro s' hstep
      exact absurd ((defined_step_iff md5 config env s delivery).mp ⟨s', hstep⟩) hcompleted
  · refine iff_of_true ?_ fun h => absurd h hreleased
    intro s' hstep device _
    rcases step_cases hstep with ⟨_, haccepted, _⟩ | ⟨_, hreleased', _⟩ | ⟨_, _, rfl⟩
    · exact absurd (acceptedClient_isRegister haccepted) hregister
    · exact absurd hreleased' hreleased
    · rfl

/-- In a run every event but a `REGISTER` keeps the devices outside its call exactly
when no call is released while such a device is registered. -/
theorem calls_local_iff (md5 : Md5) (config : SipServerConfig) (env : Environment)
    (party : SipEvent → CString → Prop) (deliveries : List Delivery) :
    Admitted (guarded (step md5 config env))
        (fun p delivery => OnOk (fun s => ¬ IsRegister delivery.event →
          OnOk (KeepsOthers party delivery.event s) (step md5 config env s delivery)) p)
        (.ok initial) deliveries ↔
      Admitted (guarded (step md5 config env))
        (fun p delivery => OnOk (fun s => ReleasesAll env party s delivery.event) p)
        (.ok initial) deliveries := by
  have hany : ∀ (s : SipServer) (delivery : Delivery), True →
      OnOk (fun _ => True) (step md5 config env s delivery) := fun _ _ _ _ _ => trivial
  apply admitted_onOk_congr trivial hany
  intro s delivery _
  by_cases hregister : IsRegister delivery.event
  · refine iff_of_true (fun h => absurd hregister h) ?_
    intro hreleased
    exact absurd (hreleased.symm.trans hregister.1) nofun
  · rw [← keepsOthers_step_iff hregister]
    exact ⟨fun h => h hregister, fun h _ => h⟩

end Calls

/-- Two cameras register, and the call of the first one is released. -/
def releasedCall : List Delivery :=
  [⟨0, registerEvent (registerFrom (ascii "41010500001320000001") (ascii "192.0.2.1"))⟩,
    ⟨1, registerEvent (registerFrom (ascii "41010500001320000002") (ascii "192.0.2.2"))⟩,
    ⟨2, { type := .callReleased, tid := 0, did := 1, request := none, response := none }⟩]

theorem not_calls_local :
    ¬ ∃ md5, ∀ party deliveries,
      Admitted (guarded (step md5 defaultConfig builtEnvironment))
        (fun p delivery => OnOk (fun s => ¬ IsRegister delivery.event →
          OnOk (KeepsOthers party delivery.event s)
            (step md5 defaultConfig builtEnvironment s delivery)) p)
        (.ok initial) deliveries := by
  rintro ⟨md5, hclaim⟩
  have hfirst : ascii "41010500001320000001" ≠ [quote] := by decide
  have hsecond : ascii "41010500001320000002" ≠ [quote] := by decide
  have hlocal := hclaim (fun _ device => device = ascii "41010500001320000001") releasedCall
    [_, _] _ [] rfl
  rw [run_cons, guarded_ok, step_accepted (acceptedClient_registerFrom md5 _ _ _ hfirst), run_cons,
    guarded_ok, step_accepted (acceptedClient_registerFrom md5 _ _ _ hsecond), run_nil, onOk_ok]
    at hlocal
  have hrelease : ¬ IsRegister ⟨.callReleased, 0, 1, none, none⟩ := by decide
  have hreleases := (keepsOthers_step_iff hrelease).mp (hlocal hrelease) rfl
    ⟨fun _ => nofun, fun _ => nofun⟩ (ascii "41010500001320000002")
    (mem_clientMap_register_iff.mpr (Or.inl rfl))
  exact absurd hreleases (by decide)

end GBServer.DeviceRegistry
