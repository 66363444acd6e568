import GBServer.Foundation.OrderedMap
import GBServer.Foundation.Runs
import GBServer.RtcInterface

/-!
The RTC service: the tables that find the endpoint of a packet, by the ICE user
fragment named in a STUN packet and by the remote address of every other packet.
Endpoints are shared objects, so the service keeps their identities and the
objects live in a heap of their own.
-/

namespace GBServer

open Std (ExtTreeMap)
open Foundation.OrderedMap
open Foundation.Runs

abbrev InterfaceId := Nat

/-- The STUN message class and the socket address functions used by `OnStun`. -/
structure StunApi (Stun : Type*) where
  decode : List UInt8 → Option Stun
  localUFrag : Stun → String
  setPassword : Stun → String → Stun
  setBindingResponse : Stun → Stun
  setMappedAddr : Stun → UInt32 → Stun
  setMappedPort : Stun → UInt16 → Stun
  encode : Stun → List UInt8
  ipv4Address : SocketAddress → UInt32

structure RtcService where
  interfaces : InterfaceId → RtcInterface
  nameRtcInterface : ExtTreeMap String InterfaceId := ∅
  nameRtcUfrag : ExtTreeMap String Unit := ∅
  rtcInterfaces : ExtTreeMap String InterfaceId := ∅

inductive Transport where
  | udp
  | tcp
  deriving DecidableEq, Repr

namespace RtcService

/-- `addr.ipaddr().ToString() + ":" + std::to_string(addr.port())`. -/
def addressKey (addr : SocketAddress) : String :=
  addr.ipaddr ++ ":" ++ toString addr.port.toNat

def setInterface (s : RtcService) (i : InterfaceId) (x : RtcInterface) : RtcService :=
  { s with interfaces := fun j => if j = i then x else s.interfaces j }

def registerRtcInterface (s : RtcService) (i : InterfaceId) : RtcService :=
  let ufragName := (s.interfaces i).localUFrag
  { s with
    nameRtcInterface := s.nameRtcInterface.insertIfNew ufragName i
    nameRtcUfrag := s.nameRtcUfrag.insertIfNew ufragName () }

def unregisterRtcInterface (s : RtcService) (i : InterfaceId) : RtcService :=
  let key := addressKey (s.interfaces i).rtcRemoteAddress
  let ufragName := (s.interfaces i).localUFrag
  { s with
    nameRtcInterface := s.nameRtcInterface.erase ufragName
    rtcInterfaces := s.rtcInterfaces.erase key
    nameRtcUfrag := s.nameRtcUfrag.erase ufragName }

def setRtcRemoteAddress (s : RtcService) (i : InterfaceId) (addr : SocketAddress) :
    RtcService :=
  s.setInterface i { s.interfaces i with rtcRemoteAddress := addr }

def setStunTime (s : RtcService) (i : InterfaceId) (nowMs : Int) : RtcService :=
  s.setInterface i { s.interfaces i with rtcStunTimestamp := nowMs }

/-- `OnStun` with the datagram it sends. -/
def onStun {Stun : Type*} (api : StunApi Stun) (transport : Transport) (s : RtcService)
    (data : List UInt8) (addr : SocketAddress) (nowMs : Int) :
    RtcService × Option (List UInt8 × SocketAddress) :=
  match api.decode data with
  | none => (s, none)
  | some stun =>
      match s.nameRtcInterface[api.localUFrag stun]? with
      | none => (s, none)
      | some i =>
          let stun := api.setPassword stun (s.interfaces i).localPasswd
          let s := s.setRtcRemoteAddress i addr
          let stun := api.setBindingResponse stun
          let stun := api.setMappedAddr stun (api.ipv4Address addr)
          let stun := api.setMappedPort stun addr.port
          let packet := api.encode stun
          let s :=
            match transport with
            -- both SDP types take a branch that calls `SetStunTime`
            | .udp => s.setStunTime i nowMs
            | .tcp => s
          ({ s with rtcInterfaces := s.rtcInterfaces.insertIfNew (addressKey addr) i },
            some (packet, addr))

inductive Delivery where
  | onDtlsRecv (data : List UInt8)
  | onSrtpRtp (data : List UInt8)
  | onSrtpRtcp (data : List UInt8)
  deriving DecidableEq, Repr

def onDtls (s : RtcService) (data : List UInt8) (addr : SocketAddress) :
    Option (InterfaceId × Delivery) :=
  (s.rtcInterfaces[addressKey addr]?).map fun i => (i, .onDtlsRecv data)

def onRtp (s : RtcService) (data : List UInt8) (addr : SocketAddress) :
    Option (InterfaceId × Delivery) :=
  (s.rtcInterfaces[addressKey addr]?).map fun i => (i, .onSrtpRtp data)

def onRtcp (s : RtcService) (data : List UInt8) (addr : SocketAddress) :
    Option (InterfaceId × Delivery) :=
  (s.rtcInterfaces[addressKey addr]?).map fun i => (i, .onSrtpRtcp data)

inductive Input where
  | register (i : InterfaceId)
  | unregister (i : InterfaceId)
  | stun (transport : Transport) (data : List UInt8) (addr : SocketAddress) (nowMs : Int)
  deriving DecidableEq, Repr

def step {Stun : Type*} (api : StunApi Stun) (s : RtcService) : Input → RtcService
  | .register i => s.registerRtcInterface i
  | .unregister i => s.unregisterRtcInterface i
  | .stun transport data addr nowMs => (onStun api transport s data addr nowMs).1

/-- A service with empty tables over freshly constructed endpoints. -/
def startup (parameters : InterfaceId → RtcParameters) : RtcService where
  interfaces i := { toRtcParameters := parameters i }

abbrev reached {Stun : Type*} (api : StunApi Stun) (parameters : InterfaceId → RtcParameters)
    (inputs : List Input) : RtcService :=
  run (step api) (startup parameters) inputs

def namedInterface {Stun : Type*} (api : StunApi Stun) (s : RtcService)
    (data : List UInt8) : Option InterfaceId :=
  (api.decode data).bind fun stun => s.nameRtcInterface[api.localUFrag stun]?

theorem append_cons_inj_of_notMem_right {α : Type*} {separator : α}
    {front front' back back' : List α} (hback : separator ∉ back)
    (hback' : separator ∉ back')
    (h : front ++ separator :: back = front' ++ separator :: back') :
    front = front' ∧ back = back' := by
  rcases List.append_eq_append_iff.mp h with ⟨mid, hfront, hmid⟩ | ⟨mid, hfront, hmid⟩
  · rcases List.cons_eq_append_iff.mp hmid with ⟨rfl, heq⟩ | ⟨rest, rfl, heq⟩
    · exact ⟨by simpa using hfront.symm, (List.cons.inj heq).2.symm⟩
    · exact absurd (heq ▸ by simp) hback
  · rcases List.cons_eq_append_iff.mp hmid with ⟨rfl, heq⟩ | ⟨rest, rfl, heq⟩
    · exact ⟨by simpa using hfront, (List.cons.inj heq).2⟩
    · exact absurd (heq ▸ by simp) hback'

theorem addressKey_inj {addr addr' : SocketAddress} :
    addressKey addr = addressKey addr' ↔ addr = addr' := by
  constructor
  · intro h
    have hcolon : ∀ n : Nat, ':' ∉ n.repr.toList := by
      intro n hmem
      rw [Nat.toList_repr] at hmem
      exact absurd (Nat.isDigit_of_mem_toDigits (by decide) (by decide) hmem) (by decide)
    have hlist := congrArg String.toList h
    simp only [addressKey, String.toList_append, List.append_assoc] at hlist
    obtain ⟨hip, hport⟩ := append_cons_inj_of_notMem_right (hcolon _) (hcolon _) hlist
    have hnat : addr.port.toNat = addr'.port.toNat := by
      have hdigits := congrArg (fun digits => Nat.ofDigitChars 10 digits 0) hport
      simpa [Nat.toList_repr, Nat.ofDigitChars_toDigits] using hdigits
    rcases addr with ⟨ip, port⟩
    rcases addr' with ⟨ip', port'⟩
    obtain rfl := String.toList_injective hip
    obtain rfl := UInt16.toNat_inj.mp hnat
    rfl
  · rintro rfl
    rfl

/-- The endpoint after a STUN packet from `addr` has named it. -/
def bound (x : RtcInterface) (transport : Transport) (addr : SocketAddress) (nowMs : Int) :
    RtcInterface :=
  { x with
    rtcRemoteAddress := addr
    rtcStunTimestamp := match transport with
      | .udp => nowMs
      | .tcp => x.rtcStunTimestamp }

section Stun

variable {Stun : Type*} (api : StunApi Stun) (transport : Transport) {s : RtcService}
  {data : List UInt8} (addr : SocketAddress) (nowMs : Int)

theorem onStun_fst_of_none (h : s.namedInterface api data = none) :
    (onStun api transport s data addr nowMs).1 = s := by
  rw [onStun]
  cases hdecode : api.decode data with
  | none => rfl
  | some stun =>
      have hname : s.nameRtcInterface[api.localUFrag stun]? = none := by
        simpa [namedInterface, hdecode] using h
      simp only [hname]

theorem onStun_fst_of_some {i : InterfaceId} (h : s.namedInterface api data = some i) :
    (onStun api transport s data addr nowMs).1 =
      { s with
        interfaces := fun j =>
          if j = i then bound (s.interfaces i) transport addr nowMs else s.interfaces j
        rtcInterfaces := s.rtcInterfaces.insertIfNew (addressKey addr) i } := by
  obtain ⟨stun, hdecode, hname⟩ := Option.bind_eq_some_iff.mp h
  have hinterfaces : (match transport with
      | .udp => (s.setRtcRemoteAddress i addr).setStunTime i nowMs
      | .tcp => s.setRtcRemoteAddress i addr) =
      { s with
        interfaces := fun j =>
          if j = i then bound (s.interfaces i) transport addr nowMs else s.interfaces j } := by
    cases transport with
    | tcp => rfl
    | udp =>
        have hboth : ((s.setRtcRemoteAddress i addr).setStunTime i nowMs).interfaces =
            fun j =>
              if j = i then bound (s.interfaces i) .udp addr nowMs else s.interfaces j := by
          funext j
          simp only [setStunTime, setRtcRemoteAddress, setInterface, bound, if_true]
          split <;> rfl
        exact congrArg (fun interfaces => { s with interfaces := interfaces }) hboth
  simp only [onStun, hdecode, hname, hinterfaces]

theorem getElem?_onStun_route {i : InterfaceId} (h : s.namedInterface api data = some i)
    (key : String) :
    (onStun api transport s data addr nowMs).1.rtcInterfaces[key]? =
      if addressKey addr = key ∧ addressKey addr ∉ s.rtcInterfaces then some i
      else s.rtcInterfaces[key]? := by
  rw [onStun_fst_of_some api transport addr nowMs h, ExtTreeMap.getElem?_insertIfNew]
  simp only [Std.LawfulEqCmp.compare_eq_iff_eq]

theorem onStun_names :
    (onStun api transport s data addr nowMs).1.nameRtcInterface = s.nameRtcInterface ∧
      (onStun api transport s data addr nowMs).1.nameRtcUfrag = s.nameRtcUfrag := by
  cases hnamed : s.namedInterface api data with
  | none =>
      rw [onStun_fst_of_none api transport addr nowMs hnamed]
      exact ⟨rfl, rfl⟩
  | some i =>
      rw [onStun_fst_of_some api transport addr nowMs hnamed]
      exact ⟨rfl, rfl⟩

end Stun

theorem getElem?_unregister_route (s : RtcService) (i : InterfaceId) (key : String) :
    (s.unregisterRtcInterface i).rtcInterfaces[key]? =
      if addressKey (s.interfaces i).rtcRemoteAddress = key then none
      else s.rtcInterfaces[key]? := by
  change (s.rtcInterfaces.erase _)[key]? = _
  simp only [ExtTreeMap.getElem?_erase, Std.LawfulEqCmp.compare_eq_iff_eq]

@[simp] theorem bound_toRtcParameters (x : RtcInterface) (transport : Transport)
    (addr : SocketAddress) (nowMs : Int) :
    (bound x transport addr nowMs).toRtcParameters = x.toRtcParameters := rfl

theorem step_toRtcParameters {Stun : Type*} (api : StunApi Stun) (s : RtcService)
    (input : Input) (j : InterfaceId) :
    ((s.step api input).interfaces j).toRtcParameters =
      (s.interfaces j).toRtcParameters := by
  cases input with
  | register i => rfl
  | unregister i => rfl
  | stun transport data addr nowMs =>
      rw [step]
      cases hnamed : s.namedInterface api data with
      | none => rw [onStun_fst_of_none api transport addr nowMs hnamed]
      | some i =>
          rw [onStun_fst_of_some api transport addr nowMs hnamed]
          rcases eq_or_ne j i with rfl | hne
          · simp
          · simp [hne]

section Sample

/-- A STUN Binding Request without MESSAGE-INTEGRITY whose only attribute is the
USERNAME `xx:r`, for a two-byte fragment `xx`. -/
def bindingRequest (ufrag : List UInt8) : List UInt8 :=
  [0x00, 0x01, 0x00, 0x08, 0x21, 0x12, 0xa4, 0x42] ++ List.replicate 12 0x00 ++
    [0x00, 0x06, 0x00, 0x04] ++ ufrag ++ [0x3a, 0x72]

/-- A STUN class for packets whose first attribute is the USERNAME. -/
def usernameFirst : StunApi (List UInt8) where
  decode data :=
    if (data.drop 4).take 4 = [0x21, 0x12, 0xa4, 0x42] ∧
      (data.drop 20).take 2 = [0x00, 0x06] then some data
    else none
  localUFrag stun :=
    String.ofList (((stun.drop 24).takeWhile (· ≠ 0x3a)).map fun b => Char.ofNat b.toNat)
  setPassword stun _ := stun
  setBindingResponse stun := [0x01, 0x01] ++ stun.drop 2
  setMappedAddr stun _ := stun
  setMappedPort stun _ := stun
  encode stun := stun
  ipv4Address _ := 0

/-- Two endpoints, a producer with the fragment `aa` and a consumer with `bb`. -/
def twoEndpoints : InterfaceId → RtcParameters
  | 0 => ⟨.producer, "aa", "secret"⟩
  | _ => ⟨.consumer, "bb", "hidden"⟩

end Sample

end RtcService

end GBServer
