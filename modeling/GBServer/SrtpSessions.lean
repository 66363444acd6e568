import GBServer.RtcService

/-!
Use of the SRTP sessions.  The service now also takes DTLS, RTP and RTCP packets
and hands them to the endpoints; a call through a null session ends the run.
-/

namespace GBServer.SrtpSessions

open Std (ExtTreeMap)
open Foundation.Memory
open Foundation.OrderedMap
open Foundation.Runs
open GBServer.RtcService
open GBServer.RtcInterface

/-- A DTLS packet is given by the callback it makes the DTLS library fire; one
that fires several is a sequence of such packets. -/
inductive PacketInput where
  | control (input : RtcService.Input)
  | dtls (addr : SocketAddress) (data : List UInt8) (callback : DtlsCallback)
  | rtp (addr : SocketAddress) (data : List UInt8)
  | rtcp (addr : SocketAddress) (data : List UInt8)
  deriving DecidableEq, Repr

variable {Stun : Type*} (api : StunApi Stun)

def deliver (s : RtcService) (i : InterfaceId) : Delivery → Except Fault RtcInterface
  | .onDtlsRecv _ => .ok (s.interfaces i)
  | .onSrtpRtp _ => (s.interfaces i).onSrtpRtp
  | .onSrtpRtcp _ => (s.interfaces i).onSrtpRtcp

def dispatch (s : RtcService) : Option (InterfaceId × Delivery) → Except Fault RtcService
  | none => .ok s
  | some (i, delivery) => (deliver s i delivery).map fun x => s.setInterface i x

def stepService (s : RtcService) : PacketInput → Except Fault RtcService
  | .control input => .ok (s.step api input)
  | .dtls addr data callback =>
      match s.onDtls data addr with
      | none => .ok s
      | some (i, _) => .ok (s.setInterface i ((s.interfaces i).onDtls callback))
  | .rtp addr data => dispatch s (s.onRtp data addr)
  | .rtcp addr data => dispatch s (s.onRtcp data addr)

/-- The running process: a service, or the fault that ended it. -/
abbrev Process := Except Fault RtcService

def stepProcess (p : Process) (input : PacketInput) : Process :=
  p.bind fun s => stepService api s input

def noteConnected (p : Process) (connected : List InterfaceId) :
    PacketInput → List InterfaceId
  | .dtls addr data (.connected _) =>
      match p with
      | .error _ => connected
      | .ok s =>
          match s.onDtls data addr with
          | none => connected
          | some (i, _) => i :: connected
  | _ => connected

abbrev observed : Process × List InterfaceId → PacketInput → Process × List InterfaceId :=
  observe (stepProcess api) noteConnected

abbrev start (parameters : InterfaceId → RtcParameters) : Process × List InterfaceId :=
  (.ok (startup parameters), [])

/-- No null session has been used, and a finished handshake means two sessions. -/
def SessionsSafe (p : Process × List InterfaceId) : Prop :=
  ∃ s, p.1 = .ok s ∧ ∀ i, (s.interfaces i).SessionsReady

/-- `OnDtlsConnected` constructs both sessions; RTP reaches a producer and RTCP
reaches any endpoint only after `OnDtlsConnected` has run on it. -/
def InOrder (p : Process × List InterfaceId) : PacketInput → Prop
  | .control _ => True
  | .dtls addr _ callback =>
      ∀ s i, p.1 = .ok s → s.rtcInterfaces[addressKey addr]? = some i →
        SessionsConstructed callback
  | .rtp addr _ =>
      ∀ s i, p.1 = .ok s → s.rtcInterfaces[addressKey addr]? = some i →
        (s.interfaces i).kind = .producer → i ∈ p.2
  | .rtcp addr _ =>
      ∀ s i, p.1 = .ok s → s.rtcInterfaces[addressKey addr]? = some i → i ∈ p.2

/-- The observer knows which endpoints have a receive session. -/
def SessionsKnown (p : Process × List InterfaceId) : Prop :=
  ∀ s, p.1 = .ok s → ∀ i, (s.interfaces i).srtpRecvSession.isSome = true ↔ i ∈ p.2

theorem step_dtlsFields (s : RtcService) (input : RtcService.Input) (j : InterfaceId) :
    ((s.step api input).interfaces j).dtlsDone = (s.interfaces j).dtlsDone ∧
      ((s.step api input).interfaces j).srtpSendSession =
        (s.interfaces j).srtpSendSession ∧
      ((s.step api input).interfaces j).srtpRecvSession =
        (s.interfaces j).srtpRecvSession := by
  cases input with
  | register i => exact ⟨rfl, rfl, rfl⟩
  | unregister i => exact ⟨rfl, rfl, rfl⟩
  | stun transport data addr nowMs =>
      rw [RtcService.step]
      cases hnamed : s.namedInterface api data with
      | none =>
          rw [onStun_fst_of_none api transport addr nowMs hnamed]
          exact ⟨rfl, rfl, rfl⟩
      | some i =>
          rw [onStun_fst_of_some api transport addr nowMs hnamed]
          rcases eq_or_ne j i with rfl | hne
          · simp [bound]
          · simp [hne]

theorem setInterface_self (s : RtcService) (i : InterfaceId) :
    s.setInterface i (s.interfaces i) = s := by
  have hheap : (fun j => if j = i then s.interfaces i else s.interfaces j) =
      s.interfaces := by
    funext j
    split
    · rename_i heq
      rw [heq]
    · rfl
  rw [setInterface, hheap]

theorem stepService_rtp {s : RtcService} {addr : SocketAddress} {i : InterfaceId}
    (hroute : s.rtcInterfaces[addressKey addr]? = some i) (data : List UInt8) :
    stepService api s (.rtp addr data) =
      if (s.interfaces i).kind = .producer ∧ (s.interfaces i).srtpRecvSession = none then
        .error .nullDereference
      else .ok s := by
  simp only [stepService, dispatch, onRtp, hroute, Option.map_some, deliver, onSrtpRtp,
    useRecvSession]
  cases (s.interfaces i).kind with
  | consumer => simp [Except.map, setInterface_self]
  | producer =>
      cases (s.interfaces i).srtpRecvSession with
      | none => rfl
      | some session => simp [Except.map, setInterface_self]

theorem stepService_rtcp {s : RtcService} {addr : SocketAddress} {i : InterfaceId}
    (hroute : s.rtcInterfaces[addressKey addr]? = some i) (data : List UInt8) :
    stepService api s (.rtcp addr data) =
      if (s.interfaces i).srtpRecvSession = none then .error .nullDereference
      else .ok s := by
  simp only [stepService, dispatch, onRtcp, hroute, Option.map_some, deliver, onSrtpRtcp,
    useRecvSession]
  cases (s.interfaces i).kind <;>
    cases (s.interfaces i).srtpRecvSession <;> simp [Except.map, setInterface_self]

theorem stepService_dtls {s : RtcService} {addr : SocketAddress} {i : InterfaceId}
    (hroute : s.rtcInterfaces[addressKey addr]? = some i) (data : List UInt8)
    (callback : DtlsCallback) :
    stepService api s (.dtls addr data callback) =
      .ok (s.setInterface i ((s.interfaces i).onDtls callback)) := by
  simp [stepService, RtcService.onDtls, hroute]

theorem observed_unrouted {s : RtcService} {connected : List InterfaceId}
    {addr : SocketAddress} (hroute : s.rtcInterfaces[addressKey addr]? = none) :
    (∀ data, observed api (.ok s, connected) (.rtp addr data) = (.ok s, connected)) ∧
      (∀ data, observed api (.ok s, connected) (.rtcp addr data) = (.ok s, connected)) ∧
      ∀ data callback,
        observed api (.ok s, connected) (.dtls addr data callback) =
          (.ok s, connected) := by
  refine ⟨?_, ?_, ?_⟩
  · intro data
    simp [observe, stepProcess, Except.bind, stepService, dispatch, onRtp, noteConnected,
      hroute]
  · intro data
    simp [observe, stepProcess, Except.bind, stepService, dispatch, onRtcp, noteConnected,
      hroute]
  · intro data callback
    cases callback <;> simp [observe, stepProcess, Except.bind, stepService,
      RtcService.onDtls, noteConnected, hroute]

theorem sessionsReady_step {s : RtcService} (h : ∀ i, (s.interfaces i).SessionsReady)
    (input : RtcService.Input) (i : InterfaceId) :
    ((s.step api input).interfaces i).SessionsReady := by
  obtain ⟨hdone, hsend, hrecv⟩ := step_dtlsFields api s input i
  rw [SessionsReady, hdone, hsend, hrecv]
  exact h i

theorem forall_routed_iff {s : RtcService} {addr : SocketAddress} {i : InterfaceId}
    (hroute : s.rtcInterfaces[addressKey addr]? = some i)
    {P : RtcService → InterfaceId → Prop} :
    (∀ t j, (Except.ok s : Process) = .ok t → t.rtcInterfaces[addressKey addr]? = some j →
      P t j) ↔ P s i := by
  constructor
  · intro h
    exact h s i rfl hroute
  · rintro h t j ⟨⟩ hj
    obtain rfl : i = j := Option.some.inj (hroute.symm.trans hj)
    exact h

theorem forall_routed_of_none {s : RtcService} {addr : SocketAddress}
    (hroute : s.rtcInterfaces[addressKey addr]? = none)
    {P : RtcService → InterfaceId → Prop} :
    ∀ t j, (Except.ok s : Process) = .ok t → t.rtcInterfaces[addressKey addr]? = some j →
      P t j := by
  rintro t j ⟨⟩ hj
  rw [hroute] at hj
  contradiction

section Routed

variable {s : RtcService} {connected : List InterfaceId} {addr : SocketAddress}
  {i : InterfaceId}

theorem sessionsSafe_dtls_iff (hready : ∀ j, (s.interfaces j).SessionsReady)
    (hroute : s.rtcInterfaces[addressKey addr]? = some i) (data : List UInt8)
    (callback : DtlsCallback) :
    SessionsSafe (observed api (.ok s, connected) (.dtls addr data callback)) ↔
      SessionsConstructed callback := by
  have hone := sessionsReady_onDtls_iff (hready i) callback
  have hstep : (observed api (.ok s, connected) (.dtls addr data callback)).1 =
      .ok (s.setInterface i ((s.interfaces i).onDtls callback)) :=
    stepService_dtls api hroute data callback
  constructor
  · rintro ⟨t, ht, hafter⟩
    obtain rfl := Except.ok.inj (hstep.symm.trans ht)
    have hi := hafter i
    simp only [setInterface, if_true] at hi
    exact hone.mp hi
  · intro hconstructed
    refine ⟨_, hstep, ?_⟩
    intro j
    rcases eq_or_ne j i with rfl | hne
    · simp only [setInterface, if_true]
      exact hone.mpr hconstructed
    · simp only [setInterface, if_neg hne]
      exact hready j

/-- A packet that uses the receive session of endpoint `i` when `needs` holds. -/
theorem sessionsSafe_media_iff {needs : Prop} [Decidable needs] {input : PacketInput}
    (hready : ∀ j, (s.interfaces j).SessionsReady)
    (hi : (s.interfaces i).srtpRecvSession.isSome = true ↔ i ∈ connected)
    (hservice : stepService api s input =
      if needs ∧ (s.interfaces i).srtpRecvSession = none then .error .nullDereference
      else .ok s) :
    SessionsSafe (observed api (.ok s, connected) input) ↔ (needs → i ∈ connected) := by
  have hstep : (observed api (.ok s, connected) input).1 = stepService api s input := rfl
  rw [← hi, Option.isSome_iff_ne_none]
  constructor
  · rintro ⟨t, ht, _⟩ hneeds hnone
    rw [hstep, hservice, if_pos ⟨hneeds, hnone⟩] at ht
    contradiction
  · intro hsome
    refine ⟨s, ?_, hready⟩
    rw [hstep, hservice, if_neg]
    rintro ⟨hneeds, hnone⟩
    exact hsome hneeds hnone

end Routed

theorem sessionsSafe_observed_iff {p : Process × List InterfaceId} (hknown : SessionsKnown p)
    (hsafe : SessionsSafe p) (input : PacketInput) :
    SessionsSafe (observed api p input) ↔ InOrder p input := by
  obtain ⟨s, hs, hready⟩ := hsafe
  obtain ⟨p, connected⟩ := p
  subst hs
  have hsafe : SessionsSafe (.ok s, connected) := ⟨s, rfl, hready⟩
  cases input with
  | control input => exact iff_of_true ⟨_, rfl, sessionsReady_step api hready input⟩ trivial
  | dtls addr data callback =>
      cases hroute : s.rtcInterfaces[addressKey addr]? with
      | none =>
          rw [(observed_unrouted api hroute).2.2]
          exact iff_of_true hsafe (forall_routed_of_none hroute)
      | some i =>
          rw [sessionsSafe_dtls_iff api hready hroute]
          exact (forall_routed_iff (P := fun _ _ => SessionsConstructed callback) hroute).symm
  | rtp addr data =>
      cases hroute : s.rtcInterfaces[addressKey addr]? with
      | none =>
          rw [(observed_unrouted api hroute).1]
          exact iff_of_true hsafe (forall_routed_of_none hroute)
      | some i =>
          rw [sessionsSafe_media_iff api hready (hknown s rfl i) (stepService_rtp api hroute data)]
          exact (forall_routed_iff (P := fun t j =>
            (t.interfaces j).kind = .producer → j ∈ connected) hroute).symm
  | rtcp addr data =>
      cases hroute : s.rtcInterfaces[addressKey addr]? with
      | none =>
          rw [(observed_unrouted api hroute).2.1]
          exact iff_of_true hsafe (forall_routed_of_none hroute)
      | some i =>
          have hservice : stepService api s (.rtcp addr data) =
              if True ∧ (s.interfaces i).srtpRecvSession = none then .error .nullDereference
              else .ok s := by
            simp only [true_and]
            exact stepService_rtcp api hroute data
          rw [sessionsSafe_media_iff api hready (hknown s rfl i) hservice, true_implies]
          exact (forall_routed_iff (P := fun _ j => j ∈ connected) hroute).symm

theorem stepService_media_eq {s t : RtcService} {addr : SocketAddress} {data : List UInt8}
    (h : stepService api s (.rtp addr data) = .ok t ∨
      stepService api s (.rtcp addr data) = .ok t) : t = s := by
  cases hroute : s.rtcInterfaces[addressKey addr]? with
  | none =>
      rcases h with h | h
      · simp [stepService, dispatch, onRtp, hroute] at h
        exact h.symm
      · simp [stepService, dispatch, onRtcp, hroute] at h
        exact h.symm
  | some i =>
      rcases h with h | h
      · rw [stepService_rtp api hroute] at h
        split at h
        · cases h
        · exact (Except.ok.inj h).symm
      · rw [stepService_rtcp api hroute] at h
        split at h
        · cases h
        · exact (Except.ok.inj h).symm

theorem sessionsKnown_observed {p : Process × List InterfaceId} (hknown : SessionsKnown p)
    (hsafe : SessionsSafe p) {input : PacketInput} (horder : InOrder p input) :
    SessionsKnown (observed api p input) := by
  obtain ⟨s, hs, _⟩ := hsafe
  obtain ⟨p, connected⟩ := p
  subst hs
  have hknown := hknown s rfl
  intro t ht j
  cases input with
  | control input =>
      obtain rfl := Except.ok.inj ht
      rw [(step_dtlsFields api s input j).2.2]
      exact hknown j
  | rtp addr data =>
      obtain rfl := stepService_media_eq api (Or.inl ht)
      exact hknown j
  | rtcp addr data =>
      obtain rfl := stepService_media_eq api (Or.inr ht)
      exact hknown j
  | dtls addr data callback =>
      cases hroute : s.rtcInterfaces[addressKey addr]? with
      | none =>
          rw [(observed_unrouted api hroute).2.2] at ht ⊢
          obtain rfl := Except.ok.inj ht
          exact hknown j
      | some i =>
          have hconstructed := horder s i rfl hroute
          have hnote : j ∈ (observed api (.ok s, connected) (.dtls addr data callback)).2 ↔
              (j = i ∧ ∃ keys, callback = .connected keys) ∨ j ∈ connected := by
            cases callback <;> simp [observe, noteConnected, RtcService.onDtls, hroute]
          have hstep := stepService_dtls api hroute data callback
          obtain rfl := Except.ok.inj (hstep.symm.trans ht)
          rw [hnote]
          rcases eq_or_ne j i with rfl | hne
          · simp only [setInterface, if_true]
            rw [srtpRecvSession_onDtls hconstructed, hknown]
            simp [or_comm]
          · simp only [setInterface, if_neg hne]
            rw [hknown]
            simp [hne]

theorem sessionsSafe_start (parameters : InterfaceId → RtcParameters) :
    SessionsSafe (start parameters) := by
  refine ⟨startup parameters, rfl, ?_⟩
  intro i hdone
  simp [startup] at hdone

theorem sessionsKnown_start (parameters : InterfaceId → RtcParameters) :
    SessionsKnown (start parameters) := by
  intro s hs i
  obtain rfl := Except.ok.inj hs
  simp [startup]

/-- No null SRTP session is used in a run, and no state of it has a finished
handshake without both sessions, exactly when every `OnDtlsConnected` of the run
constructs both and no RTP or RTCP packet is routed ahead of it. -/
theorem throughout_sessionsSafe_iff (parameters : InterfaceId → RtcParameters)
    (inputs : List PacketInput) :
    Throughout (observed api) SessionsSafe (start parameters) inputs ↔
      Admitted (observed api) InOrder (start parameters) inputs := by
  apply throughout_iff_admitted (sessionsSafe_start parameters) (sessionsKnown_start parameters)
  · intro p input hknown hsafe
    exact sessionsSafe_observed_iff api hknown hsafe input
  · intro p input hknown hsafe hnext
    exact sessionsKnown_observed api hknown hsafe
      ((sessionsSafe_observed_iff api hknown hsafe input).mp hnext)

theorem not_throughout_sessionsSafe :
    ¬ ∀ (parameters : InterfaceId → RtcParameters) (inputs : List PacketInput),
      Throughout (observed usernameFirst) SessionsSafe (start parameters) inputs := by
  intro hclaim
  obtain ⟨s, hs, _⟩ := hclaim twoEndpoints
    [.control (.register 0),
      .control (.stun .udp (bindingRequest [0x61, 0x61]) ⟨"192.0.2.1", 5000⟩ 10),
      .rtp ⟨"192.0.2.1", 5000⟩ [0x80]]
    _ [] (List.append_nil _).symm
  have hfault : (run (observed usernameFirst) (start twoEndpoints)
      [.control (.register 0),
        .control (.stun .udp (bindingRequest [0x61, 0x61]) ⟨"192.0.2.1", 5000⟩ 10),
        .rtp ⟨"192.0.2.1", 5000⟩ [0x80]]).1 = .error .nullDereference := by
    rfl
  rw [hfault] at hs
  cases hs

end GBServer.SrtpSessions
