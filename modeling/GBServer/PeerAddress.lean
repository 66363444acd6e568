import GBServer.SrtpSessions

namespace GBServer.PeerAddress

open Std (ExtTreeMap)
open Foundation.Runs
open GBServer.RtcService
open GBServer.RtcInterface

inductive Role where
  | server
  | client
  deriving DecidableEq, Repr

/-- The role that `MayRunDtls` gives to `Dtls::Run`, by the setup role of the offer. -/
def localRole (role : String) : Role :=
  if role = "actpass" ∨ role = "active" then .server
  else if role = "passive" then .client
  else .server

/-- What the DTLS library does with a packet it is handed. -/
inductive DtlsSignal where
  | sendPacket (data : List UInt8)
  | callback (callback : DtlsCallback)
  deriving DecidableEq, Repr

/-- `SendPacketTo`, `SendRtpPacketTo` and `SendRtcpPacketTo`. -/
inductive Channel where
  | packet
  | rtp
  | rtcp
  deriving DecidableEq, Repr

structure Send where
  channel : Channel
  sender : InterfaceId
  data : List UInt8
  addr : SocketAddress
  deriving DecidableEq, Repr

/-- The service with its endpoints.  An endpoint whose handshake is under way can send DTLS
packets unasked; those of a consumer wait on the worker thread. -/
structure Endpoints where
  service : RtcService
  handshaking : InterfaceId → Bool := fun _ => false
  workerTasks : List (InterfaceId × List UInt8) := []

namespace Endpoints

def remoteAddress (s : Endpoints) (i : InterfaceId) : SocketAddress :=
  (s.service.interfaces i).rtcRemoteAddress

/-- `OnDtlsSendPakcet` of the two classes. -/
def onDtlsSendPacket (s : Endpoints) (i : InterfaceId) (data : List UInt8) :
    Endpoints × List Send :=
  match (s.service.interfaces i).kind with
  | .producer => (s, [⟨.packet, i, data, s.remoteAddress i⟩])
  | .consumer => ({ s with workerTasks := s.workerTasks ++ [(i, data)] }, [])

def startHandshake (s : Endpoints) (i : InterfaceId) : Endpoints :=
  { s with handshaking := fun j => if j = i then true else s.handshaking j }

/-- `MayRunDtls`; `hello` is the packet that `Dtls::Run` sends in the client role. -/
def mayRunDtls (s : Endpoints) (i : InterfaceId) (role : String) (hello : List UInt8) :
    Endpoints × List Send :=
  match localRole role with
  | .server => (s, [])
  | .client => (s.startHandshake i).onDtlsSendPacket i hello

/-- `HandlerRtcProducer` and `HandlerRtcConsumer`, once the offer is processed. -/
def handlerRtc (s : Endpoints) (i : InterfaceId) (role : String) (hello : List UInt8) :
    Endpoints × List Send :=
  let (s, sends) := s.mayRunDtls i role hello
  ({ s with service := s.service.registerRtcInterface i }, sends)

def onDtlsSignal (s : Endpoints) (i : InterfaceId) : DtlsSignal → Endpoints × List Send
  | .sendPacket data => s.onDtlsSendPacket i data
  | .callback callback =>
      ({ s with
        service := s.service.setInterface i ((s.service.interfaces i).onDtls callback) }, [])

def onDtlsSignals (s : Endpoints) (i : InterfaceId) : List DtlsSignal → Endpoints × List Send
  | [] => (s, [])
  | signal :: rest =>
      let (s, sends) := s.onDtlsSignal i signal
      let (s, later) := s.onDtlsSignals i rest
      (s, sends ++ later)

def onDtls (s : Endpoints) (data : List UInt8) (addr : SocketAddress)
    (signals : List DtlsSignal) : Endpoints × List Send :=
  match s.service.onDtls data addr with
  | none => (s, [])
  | some (i, _) => (s.startHandshake i).onDtlsSignals i signals

/-- A DTLS packet that no packet from the peer asks for: a retransmission, or application
data. -/
def sendUnasked (s : Endpoints) (i : InterfaceId) (data : List UInt8) : Endpoints × List Send :=
  if s.handshaking i then s.onDtlsSendPacket i data else (s, [])

def runTask (s : Endpoints) : Endpoints × List Send :=
  match s.workerTasks with
  | [] => (s, [])
  | (i, data) :: rest =>
      ({ s with workerTasks := rest }, [⟨.packet, i, data, s.remoteAddress i⟩])

/-- The body of `SendSrtpRtp` and `SendSrtpRtcp`; `encrypted` is the result of the
encryption. -/
def sendSrtp (channel : Channel) (s : Endpoints) (i : InterfaceId)
    (encrypted : Option (List UInt8)) : Endpoints × List Send :=
  if !(s.service.interfaces i).dtlsDone then (s, [])
  else if (s.service.interfaces i).srtpSendSession.isNone then (s, [])
  else
    match encrypted with
    | none => (s, [])
    | some data => (s, [⟨channel, i, data, s.remoteAddress i⟩])

def sendSrtpRtp (s : Endpoints) (i : InterfaceId) (encrypted : Option (List UInt8)) :
    Endpoints × List Send :=
  s.sendSrtp .rtp i encrypted

def sendSrtpRtcp (s : Endpoints) (i : InterfaceId) (encrypted : Option (List UInt8)) :
    Endpoints × List Send :=
  s.sendSrtp .rtcp i encrypted

end Endpoints

inductive Input where
  | request (i : InterfaceId) (role : String) (hello : List UInt8)
  | control (input : RtcService.Input)
  | dtls (data : List UInt8) (addr : SocketAddress) (signals : List DtlsSignal)
  | dtlsUnasked (i : InterfaceId) (data : List UInt8)
  | worker
  | srtpRtp (i : InterfaceId) (encrypted : Option (List UInt8))
  | srtpRtcp (i : InterfaceId) (encrypted : Option (List UInt8))

variable {Stun : Type*} (api : StunApi Stun)

def handle (s : Endpoints) : Input → Endpoints × List Send
  | .request i role hello => s.handlerRtc i role hello
  | .control input => ({ s with service := s.service.step api input }, [])
  | .dtls data addr signals => s.onDtls data addr signals
  | .dtlsUnasked i data => s.sendUnasked i data
  | .worker => s.runTask
  | .srtpRtp i encrypted => s.sendSrtpRtp i encrypted
  | .srtpRtcp i encrypted => s.sendSrtpRtcp i encrypted

def step (s : Endpoints) (input : Input) : Endpoints := (handle api s input).1

/-- The addresses that `OnStun` has stored, each with its endpoint. -/
abbrev Stored := List (InterfaceId × SocketAddress)

def noteStored (s : Endpoints) (stored : Stored) : Input → Stored
  | .control (.stun _ data addr _) =>
      match s.service.namedInterface api data with
      | none => stored
      | some i => (i, addr) :: stored
  | _ => stored

abbrev observed : Endpoints × Stored → Input → Endpoints × Stored :=
  observe (step api) (noteStored api)

abbrev start (parameters : InterfaceId → RtcParameters) : Endpoints × Stored :=
  ({ service := startup parameters }, [])

/-- What is sent goes to an address that an earlier `OnStun` has stored. -/
def AddressKnown (p : Endpoints × Stored) (input : Input) : Prop :=
  ∀ send ∈ (handle api p.1 input).2, (send.sender, send.addr) ∈ p.2

def Heard (stored : Stored) (i : InterfaceId) : Prop := ∃ addr, (i, addr) ∈ stored

/-- What an endpoint sends without having been reached through the address table comes
after a STUN packet: the client's hello of a producer, its retransmission, and the task that
sends a DTLS packet of a consumer. -/
def AfterStun (p : Endpoints × Stored) : Input → Prop
  | .request i role _ =>
      role = "passive" → (p.1.service.interfaces i).kind = .producer → Heard p.2 i
  | .dtlsUnasked i _ =>
      p.1.handshaking i = true → (p.1.service.interfaces i).kind = .producer → Heard p.2 i
  | .worker => ∀ task ∈ p.1.workerTasks.head?, Heard p.2 task.1
  | _ => True

/-- The current address of an endpoint is known once any is, and what is routed or connected
has one. -/
structure Bound (service : RtcService) (stored : Stored) : Prop where
  address : ∀ i, Heard stored i → (i, (service.interfaces i).rtcRemoteAddress) ∈ stored
  routed : ∀ (key : String) i, service.rtcInterfaces[key]? = some i → Heard stored i
  connected : ∀ i, (service.interfaces i).dtlsDone = true → Heard stored i

theorem localRole_eq_client_iff (role : String) : localRole role = .client ↔ role = "passive" := by
  rw [localRole]
  split_ifs with hserver hclient
  · refine iff_of_false nofun ?_
    rintro rfl
    revert hserver
    decide
  · exact iff_of_true rfl hclient
  · exact iff_of_false nofun hclient

section Sends

variable {s : Endpoints} {i : InterfaceId} {data : List UInt8}

theorem onDtlsSendPacket_snd :
    (s.onDtlsSendPacket i data).2 =
      if (s.service.interfaces i).kind = .producer then [⟨.packet, i, data, s.remoteAddress i⟩]
      else [] := by
  rw [Endpoints.onDtlsSendPacket]
  cases (s.service.interfaces i).kind with
  | producer => rfl
  | consumer => rfl

theorem onDtlsSendPacket_service : (s.onDtlsSendPacket i data).1.service = s.service := by
  rw [Endpoints.onDtlsSendPacket]
  split
  · rfl
  · rfl

theorem mayRunDtls_service (role : String) : (s.mayRunDtls i role data).1.service = s.service := by
  rw [Endpoints.mayRunDtls]
  split
  · rfl
  · exact onDtlsSendPacket_service

theorem handlerRtc_snd (role : String) :
    (s.handlerRtc i role data).2 =
      if role = "passive" ∧ (s.service.interfaces i).kind = .producer then
        [⟨.packet, i, data, s.remoteAddress i⟩]
      else [] := by
  have hsends : (s.handlerRtc i role data).2 = (s.mayRunDtls i role data).2 := rfl
  simp only [hsends, Endpoints.mayRunDtls, ← localRole_eq_client_iff]
  cases localRole role with
  | server => exact (if_neg fun h => nomatch h.1).symm
  | client =>
      simp only [true_and]
      exact onDtlsSendPacket_snd

theorem sendUnasked_snd :
    (s.sendUnasked i data).2 =
      if s.handshaking i = true ∧ (s.service.interfaces i).kind = .producer then
        [⟨.packet, i, data, s.remoteAddress i⟩]
      else [] := by
  rw [Endpoints.sendUnasked]
  cases s.handshaking i with
  | false => exact (if_neg fun h => Bool.false_ne_true h.1).symm
  | true =>
      simp only [if_true, true_and]
      exact onDtlsSendPacket_snd

theorem sendUnasked_service : (s.sendUnasked i data).1.service = s.service := by
  rw [Endpoints.sendUnasked]
  split
  · exact onDtlsSendPacket_service
  · rfl

theorem runTask_service : s.runTask.1.service = s.service := by
  rw [Endpoints.runTask]
  split
  · rfl
  · rfl

theorem sendSrtp_fst (channel : Channel) (encrypted : Option (List UInt8)) :
    (s.sendSrtp channel i encrypted).1 = s := by
  rw [Endpoints.sendSrtp.eq_def]
  split_ifs
  · rfl
  · rfl
  · cases encrypted with
    | none => rfl
    | some data => rfl

/-- The guards of `SendSrtpRtp` and `SendSrtpRtcp` let nothing out before the handshake is
done. -/
theorem mem_sendSrtp {channel : Channel} {encrypted : Option (List UInt8)} {send : Send}
    (h : send ∈ (s.sendSrtp channel i encrypted).2) :
    (s.service.interfaces i).dtlsDone = true ∧ send.sender = i ∧
      send.addr = s.remoteAddress i := by
  rw [Endpoints.sendSrtp.eq_def] at h
  cases hdone : (s.service.interfaces i).dtlsDone with
  | false =>
      rw [hdone] at h
      exact absurd h List.not_mem_nil
  | true =>
      rw [hdone, Bool.not_true, if_neg Bool.false_ne_true] at h
      split at h
      · exact absurd h List.not_mem_nil
      · cases encrypted with
        | none => exact absurd h List.not_mem_nil
        | some data =>
            obtain rfl := List.mem_singleton.mp h
            exact ⟨rfl, rfl, rfl⟩

end Sends

section Signals

/-- A handshake changes no address and no route, and `dtls_done_` of one endpoint only. -/
structure SameAddresses (i : InterfaceId) (before after : RtcService) : Prop where
  address : ∀ j, (after.interfaces j).rtcRemoteAddress = (before.interfaces j).rtcRemoteAddress
  done : ∀ j, j ≠ i → (after.interfaces j).dtlsDone = (before.interfaces j).dtlsDone
  routes : after.rtcInterfaces = before.rtcInterfaces

variable {i : InterfaceId} {service before after last : RtcService} {stored : Stored}

theorem SameAddresses.refl (i : InterfaceId) (service : RtcService) :
    SameAddresses i service service :=
  ⟨fun _ => rfl, fun _ _ => rfl, rfl⟩

theorem SameAddresses.trans (h : SameAddresses i before after)
    (h' : SameAddresses i after last) : SameAddresses i before last :=
  ⟨fun j => (h'.address j).trans (h.address j),
    fun j hne => (h'.done j hne).trans (h.done j hne), h'.routes.trans h.routes⟩

theorem onDtls_rtcRemoteAddress (x : RtcInterface) (callback : DtlsCallback) :
    (x.onDtls callback).rtcRemoteAddress = x.rtcRemoteAddress := by
  cases callback with
  | connected keys =>
      rw [RtcInterface.onDtls, onDtlsConnected]
      split
      · rfl
      · rfl
  | _ => rfl

theorem sameAddresses_onDtlsSignal (s : Endpoints) (i : InterfaceId) (signal : DtlsSignal) :
    SameAddresses i s.service (s.onDtlsSignal i signal).1.service := by
  cases signal with
  | sendPacket data =>
      rw [Endpoints.onDtlsSignal, onDtlsSendPacket_service]
      exact SameAddresses.refl i s.service
  | callback callback =>
      refine ⟨?_, ?_, rfl⟩
      · intro j
        rw [Endpoints.onDtlsSignal, setInterface]
        dsimp only
        split
        · rename_i heq
          rw [heq]
          exact onDtls_rtcRemoteAddress _ callback
        · rfl
      · intro j hne
        rw [Endpoints.onDtlsSignal, setInterface]
        dsimp only
        rw [if_neg hne]

theorem sameAddresses_onDtlsSignals (s : Endpoints) (i : InterfaceId) (signals : List DtlsSignal) :
    SameAddresses i s.service (s.onDtlsSignals i signals).1.service := by
  induction signals generalizing s with
  | nil => exact SameAddresses.refl i s.service
  | cons signal rest ih => exact (sameAddresses_onDtlsSignal s i signal).trans (ih _)

theorem mem_onDtlsSignals {s : Endpoints} {signals : List DtlsSignal} {send : Send}
    (h : send ∈ (s.onDtlsSignals i signals).2) :
    send.sender = i ∧ send.addr = s.remoteAddress i := by
  induction signals generalizing s with
  | nil => exact absurd h List.not_mem_nil
  | cons signal rest ih =>
      rcases List.mem_append.mp h with hfirst | hlater
      · cases signal with
        | callback callback => exact absurd hfirst List.not_mem_nil
        | sendPacket data =>
            have hsent : send ∈ (s.onDtlsSendPacket i data).2 := hfirst
            rw [onDtlsSendPacket_snd] at hsent
            split at hsent
            · obtain rfl := List.mem_singleton.mp hsent
              exact ⟨rfl, rfl⟩
            · exact absurd hsent List.not_mem_nil
      · obtain ⟨hsender, haddr⟩ := ih hlater
        exact ⟨hsender, haddr.trans ((sameAddresses_onDtlsSignal s i signal).address i)⟩

theorem Bound.of_same (h : Bound before stored) (hsame : SameAddresses i before after)
    (hheard : Heard stored i) : Bound after stored := by
  refine ⟨?_, ?_, ?_⟩
  · intro j hj
    rw [hsame.address j]
    exact h.address j hj
  · intro key j hroute
    rw [hsame.routes] at hroute
    exact h.routed key j hroute
  · intro j hdone
    rcases eq_or_ne j i with rfl | hne
    · exact hheard
    · rw [hsame.done j hne] at hdone
      exact h.connected j hdone

theorem Bound.mem_iff (h : Bound service stored) (i : InterfaceId) :
    (i, (service.interfaces i).rtcRemoteAddress) ∈ stored ↔ Heard stored i :=
  ⟨fun hmem => ⟨_, hmem⟩, h.address i⟩

end Signals

section Runs

variable {service : RtcService} {stored : Stored}

theorem heard_cons {i j : InterfaceId} {addr : SocketAddress} :
    Heard ((i, addr) :: stored) j ↔ j = i ∨ Heard stored j := by
  constructor
  · rintro ⟨addr', hmem⟩
    rcases List.mem_cons.mp hmem with heq | hmem
    · exact Or.inl (Prod.mk.inj heq).1
    · exact Or.inr ⟨addr', hmem⟩
  · rintro (rfl | ⟨addr', hmem⟩)
    · exact ⟨addr, List.mem_cons_self⟩
    · exact ⟨addr', List.mem_cons_of_mem _ hmem⟩

/-- A STUN packet stores the address where it says so. -/
theorem Bound.stun (h : Bound service stored) {i : InterfaceId} {data : List UInt8}
    (hnamed : service.namedInterface api data = some i) (transport : Transport)
    (addr : SocketAddress) (nowMs : Int) :
    Bound (onStun api transport service data addr nowMs).1 ((i, addr) :: stored) := by
  refine ⟨?_, ?_, ?_⟩
  · intro j hj
    rw [onStun_fst_of_some api transport addr nowMs hnamed]
    dsimp only
    rcases eq_or_ne j i with rfl | hne
    · rw [if_pos rfl]
      exact List.mem_cons_self
    · rw [if_neg hne]
      exact List.mem_cons_of_mem _ (h.address j ((heard_cons.mp hj).resolve_left hne))
  · intro key j hroute
    rw [getElem?_onStun_route api transport addr nowMs hnamed] at hroute
    split at hroute
    · exact heard_cons.mpr (Or.inl (Option.some.inj hroute).symm)
    · exact heard_cons.mpr (Or.inr (h.routed key j hroute))
  · intro j hdone
    have hsame := (SrtpSessions.step_dtlsFields api service (.stun transport data addr nowMs) j).1
    exact heard_cons.mpr (Or.inr (h.connected j (hsame.symm.trans hdone)))

theorem Bound.control {s : Endpoints} (h : Bound s.service stored) (input : RtcService.Input) :
    Bound (s.service.step api input) (noteStored api s stored (.control input)) := by
  cases input with
  | register i => exact ⟨h.address, h.routed, h.connected⟩
  | unregister i =>
      refine ⟨h.address, ?_, h.connected⟩
      intro key j hroute
      rw [RtcService.step, getElem?_unregister_route] at hroute
      split at hroute
      · cases hroute
      · exact h.routed key j hroute
  | stun transport data addr nowMs =>
      rw [RtcService.step, noteStored]
      cases hnamed : s.service.namedInterface api data with
      | none =>
          rw [onStun_fst_of_none api transport addr nowMs hnamed]
          exact h
      | some i => exact h.stun api hnamed transport addr nowMs

variable {p : Endpoints × Stored}

theorem onDtls_of_none {s : Endpoints} {data : List UInt8} {addr : SocketAddress}
    (hroute : s.service.rtcInterfaces[addressKey addr]? = none) (signals : List DtlsSignal) :
    s.onDtls data addr signals = (s, []) := by
  rw [Endpoints.onDtls, RtcService.onDtls, hroute]
  rfl

theorem onDtls_of_some {s : Endpoints} {data : List UInt8} {addr : SocketAddress}
    {i : InterfaceId} (hroute : s.service.rtcInterfaces[addressKey addr]? = some i)
    (signals : List DtlsSignal) :
    s.onDtls data addr signals = (s.startHandshake i).onDtlsSignals i signals := by
  rw [Endpoints.onDtls, RtcService.onDtls, hroute]
  rfl

theorem observed_srtpRtp (i : InterfaceId) (encrypted : Option (List UInt8)) :
    observed api p (.srtpRtp i encrypted) = p :=
  Prod.ext (sendSrtp_fst _ _) rfl

theorem observed_srtpRtcp (i : InterfaceId) (encrypted : Option (List UInt8)) :
    observed api p (.srtpRtcp i encrypted) = p :=
  Prod.ext (sendSrtp_fst _ _) rfl

theorem bound_step (h : Bound p.1.service p.2) (input : Input) :
    Bound (observed api p input).1.service (observed api p input).2 := by
  cases input with
  | request i role hello =>
      have hservice : (observed api p (.request i role hello)).1.service =
          p.1.service.registerRtcInterface i :=
        congrArg (RtcService.registerRtcInterface · i) (mayRunDtls_service role)
      rw [hservice]
      exact ⟨h.address, h.routed, h.connected⟩
  | control input => exact h.control api input
  | dtls data addr signals =>
      have hstep : (observed api p (.dtls data addr signals)).1 =
          (p.1.onDtls data addr signals).1 := rfl
      cases hroute : p.1.service.rtcInterfaces[addressKey addr]? with
      | none =>
          rw [hstep, onDtls_of_none hroute]
          exact h
      | some i =>
          rw [hstep, onDtls_of_some hroute]
          exact h.of_same (sameAddresses_onDtlsSignals (p.1.startHandshake i) i signals)
            (h.routed _ i hroute)
  | dtlsUnasked i data =>
      have hservice : (observed api p (.dtlsUnasked i data)).1.service = p.1.service :=
        sendUnasked_service
      rw [hservice]
      exact h
  | worker =>
      have hservice : (observed api p .worker).1.service = p.1.service := runTask_service
      rw [hservice]
      exact h
  | srtpRtp i encrypted =>
      rw [observed_srtpRtp]
      exact h
  | srtpRtcp i encrypted =>
      rw [observed_srtpRtcp]
      exact h

theorem forall_mem_ite_singleton_iff {P : Prop} [Decidable P] {send : Send}
    {known : Send → Prop} : (∀ s ∈ if P then [send] else [], known s) ↔ (P → known send) := by
  split
  · rename_i hP
    rw [List.forall_mem_singleton, forall_prop_of_true hP]
  · rename_i hP
    exact iff_of_true (List.forall_mem_nil _) fun h => absurd h hP

theorem addressKnown_srtp (h : Bound p.1.service p.2) {channel : Channel} {i : InterfaceId}
    {encrypted : Option (List UInt8)} {send : Send}
    (hsend : send ∈ (p.1.sendSrtp channel i encrypted).2) : (send.sender, send.addr) ∈ p.2 := by
  obtain ⟨hdone, hsender, haddr⟩ := mem_sendSrtp hsend
  rw [hsender, haddr]
  exact h.address i (h.connected i hdone)

theorem addressKnown_iff (h : Bound p.1.service p.2) (input : Input) :
    AddressKnown api p input ↔ AfterStun p input := by
  cases input with
  | request i role hello =>
      rw [AddressKnown, handle, handlerRtc_snd, forall_mem_ite_singleton_iff, and_imp]
      rw [Endpoints.remoteAddress, h.mem_iff]
      rfl
  | control input => exact iff_of_true (List.forall_mem_nil _) trivial
  | dtls data addr signals =>
      refine iff_of_true ?_ trivial
      intro send hsend
      rw [handle] at hsend
      cases hroute : p.1.service.rtcInterfaces[addressKey addr]? with
      | none =>
          rw [onDtls_of_none hroute] at hsend
          exact absurd hsend List.not_mem_nil
      | some i =>
          rw [onDtls_of_some hroute] at hsend
          obtain ⟨hsender, haddr⟩ := mem_onDtlsSignals hsend
          rw [hsender, haddr]
          exact h.address i (h.routed _ i hroute)
  | dtlsUnasked i data =>
      rw [AddressKnown, handle, sendUnasked_snd, forall_mem_ite_singleton_iff, and_imp]
      rw [Endpoints.remoteAddress, h.mem_iff]
      rfl
  | worker =>
      rw [AddressKnown, handle, Endpoints.runTask, AfterStun]
      cases p.1.workerTasks with
      | nil => exact iff_of_true (List.forall_mem_nil _) nofun
      | cons task rest =>
          rw [List.forall_mem_singleton]
          apply (h.mem_iff task.1).trans
          simp only [List.head?_cons, Option.mem_some_iff, forall_eq']
  | srtpRtp i encrypted =>
      exact iff_of_true (fun _ hsend => addressKnown_srtp h hsend) trivial
  | srtpRtcp i encrypted =>
      exact iff_of_true (fun _ hsend => addressKnown_srtp h hsend) trivial

theorem bound_start (parameters : InterfaceId → RtcParameters) :
    Bound (start parameters).1.service (start parameters).2 := by
  refine ⟨?_, ?_, ?_⟩
  · rintro i ⟨_, hmem⟩
    exact absurd hmem List.not_mem_nil
  · intro key i hroute
    rw [start, startup, ExtTreeMap.getElem?_empty] at hroute
    cases hroute
  · intro i hdone
    cases hdone

/-- In every run, all that is sent goes to an address from a STUN packet exactly where the
packets that endpoints send unasked come after one. -/
theorem addressesKnown_iff (parameters : InterfaceId → RtcParameters) (inputs : List Input) :
    Admitted (observed api) (AddressKnown api) (start parameters) inputs ↔
      Admitted (observed api) AfterStun (start parameters) inputs :=
  admitted_congr_of_step (P := fun p : Endpoints × Stored => Bound p.1.service p.2)
    (bound_start parameters) (fun _ input h => bound_step api h input)
    (fun _ input h => addressKnown_iff api h input)

end Runs

section NotPassive

def NotPassive : Input → Prop
  | .request _ role _ => role ≠ "passive"
  | _ => True

/-- What waits to be sent, or may be sent unasked, comes after a STUN packet. -/
structure Answering (s : Endpoints) (stored : Stored) : Prop where
  handshaking : ∀ i, s.handshaking i = true → Heard stored i
  workerTasks : ∀ task ∈ s.workerTasks, Heard stored task.1

variable {s : Endpoints} {stored : Stored} {i : InterfaceId}

theorem Answering.onDtlsSendPacket (h : Answering s stored) (hheard : Heard stored i)
    (data : List UInt8) : Answering (s.onDtlsSendPacket i data).1 stored := by
  rw [Endpoints.onDtlsSendPacket]
  split
  · exact h
  · refine ⟨h.handshaking, ?_⟩
    dsimp only
    rw [List.forall_mem_append, List.forall_mem_singleton]
    exact ⟨h.workerTasks, hheard⟩

theorem Answering.startHandshake (h : Answering s stored) (hheard : Heard stored i) :
    Answering (s.startHandshake i) stored := by
  refine ⟨?_, h.workerTasks⟩
  intro j hj
  rcases eq_or_ne j i with rfl | hne
  · exact hheard
  · rw [Endpoints.startHandshake] at hj
    dsimp only at hj
    rw [if_neg hne] at hj
    exact h.handshaking j hj

theorem Answering.onDtlsSignals (h : Answering s stored) (hheard : Heard stored i)
    (signals : List DtlsSignal) : Answering (s.onDtlsSignals i signals).1 stored := by
  induction signals generalizing s with
  | nil => exact h
  | cons signal rest ih =>
      apply ih
      cases signal with
      | sendPacket data => exact h.onDtlsSendPacket hheard data
      | callback callback => exact ⟨h.handshaking, h.workerTasks⟩

theorem heard_noteStored (h : Heard stored i) (input : Input) :
    Heard (noteStored api s stored input) i := by
  cases input with
  | control input =>
      cases input with
      | stun transport data addr nowMs =>
          rw [noteStored]
          split
          · exact h
          · exact heard_cons.mpr (Or.inr h)
      | _ => exact h
  | _ => exact h

variable {p : Endpoints × Stored}

theorem answering_step (hbound : Bound p.1.service p.2) (h : Answering p.1 p.2) {input : Input}
    (hinput : NotPassive input) :
    Answering (observed api p input).1 (observed api p input).2 := by
  cases input with
  | request i role hello =>
      have hrole : localRole role = .server := by
        cases hlocal : localRole role with
        | server => rfl
        | client => exact absurd ((localRole_eq_client_iff role).mp hlocal) hinput
      have hstep : observed api p (.request i role hello) =
          ((p.1.handlerRtc i role hello).1, p.2) := rfl
      rw [hstep, Endpoints.handlerRtc, Endpoints.mayRunDtls, hrole]
      exact ⟨h.handshaking, h.workerTasks⟩
  | control input =>
      exact ⟨fun i hi => heard_noteStored api (h.handshaking i hi) _,
        fun task htask => heard_noteStored api (h.workerTasks task htask) _⟩
  | dtls data addr signals =>
      have hstep : observed api p (.dtls data addr signals) =
          ((p.1.onDtls data addr signals).1, p.2) := rfl
      rw [hstep]
      cases hroute : p.1.service.rtcInterfaces[addressKey addr]? with
      | none =>
          rw [onDtls_of_none hroute]
          exact h
      | some i =>
          rw [onDtls_of_some hroute]
          have hheard := hbound.routed _ i hroute
          exact (h.startHandshake hheard).onDtlsSignals hheard signals
  | dtlsUnasked i data =>
      have hstep : observed api p (.dtlsUnasked i data) = ((p.1.sendUnasked i data).1, p.2) := rfl
      rw [hstep, Endpoints.sendUnasked]
      split
      · rename_i hunder
        exact h.onDtlsSendPacket (h.handshaking i hunder) data
      · exact h
  | worker =>
      have hstep : observed api p .worker = (p.1.runTask.1, p.2) := rfl
      rw [hstep, Endpoints.runTask]
      split
      · exact h
      · rename_i htasks
        have hwaiting := h.workerTasks
        rw [htasks] at hwaiting
        exact ⟨h.handshaking, (List.forall_mem_cons.mp hwaiting).2⟩
  | srtpRtp i encrypted =>
      rw [observed_srtpRtp]
      exact h
  | srtpRtcp i encrypted =>
      rw [observed_srtpRtcp]
      exact h

theorem Answering.afterStun (h : Answering p.1 p.2) {input : Input} (hinput : NotPassive input) :
    AfterStun p input := by
  cases input with
  | request i role hello => exact fun hrole => absurd hrole hinput
  | dtlsUnasked i data => exact fun hunder _ => h.handshaking i hunder
  | worker => exact fun task htask => h.workerTasks task (List.mem_of_mem_head? htask)
  | _ => trivial

/-- Where no offer has the setup role `passive`, nothing is ever sent too early. -/
theorem addressesKnown_of_notPassive (parameters : InterfaceId → RtcParameters)
    {inputs : List Input} (h : ∀ input ∈ inputs, NotPassive input) :
    Admitted (observed api) (AddressKnown api) (start parameters) inputs := by
  have hreached : Throughout (observed api)
      (fun p => Bound p.1.service p.2 ∧ Answering p.1 p.2) (start parameters) inputs := by
    refine throughout_of_admitted ⟨bound_start parameters, ?_⟩ ?_ (admitted_of_forall_mem h)
    · exact ⟨fun i hi => absurd hi Bool.false_ne_true, List.forall_mem_nil _⟩
    · rintro p input ⟨hbound, hanswering⟩ hinput
      exact ⟨bound_step api hbound input, answering_step api hbound hanswering hinput⟩
  rintro front input back rfl
  obtain ⟨hbound, hanswering⟩ := hreached front _ rfl
  refine (addressKnown_iff api hbound input).mpr (hanswering.afterStun ?_)
  exact h input (List.mem_append_right front List.mem_cons_self)

end NotPassive

/-- A push offer with the setup role `passive`: the client's hello goes to no address. -/
theorem not_addressesKnown_passive :
    ¬ ∀ inputs, Admitted (observed usernameFirst) (AddressKnown usernameFirst)
      (start twoEndpoints) inputs := by
  intro h
  have hsent := h [.request 0 "passive" [0x16]] [] (.request 0 "passive" [0x16]) [] rfl
  exact absurd (hsent ⟨.packet, 0, [0x16], {}⟩ (by decide)) List.not_mem_nil

end GBServer.PeerAddress
