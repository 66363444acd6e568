import GBServer.RtcService

/-!
Which STUN packets move the endpoints of the RTC service.  The checks that ICE
prescribes are given by two functions of the packet that `OnStun` never calls.
-/

namespace GBServer.StunAuthentication

open Std (ExtTreeMap)
open Foundation.OrderedMap
open Foundation.Runs
open GBServer.RtcService

/-- How ICE authenticates a packet: it is a Binding Request, and its
MESSAGE-INTEGRITY is valid under a password. -/
structure IceChecks where
  isBindingRequest : List UInt8 → Bool
  integrityValid : List UInt8 → String → Bool

variable {Stun : Type*} (api : StunApi Stun) (checks : IceChecks)

def Authentic (s : RtcService) (data : List UInt8) : Prop :=
  checks.isBindingRequest data = true ∧
    ∃ i, s.namedInterface api data = some i ∧
      checks.integrityValid data (s.interfaces i).localPasswd = true

structure SameEndpoints (s t : RtcService) : Prop where
  remote : ∀ i, (t.interfaces i).rtcRemoteAddress = (s.interfaces i).rtcRemoteAddress
  stunTime : ∀ i, (t.interfaces i).rtcStunTimestamp = (s.interfaces i).rtcStunTimestamp
  routes : t.rtcInterfaces = s.rtcInterfaces

/-- The endpoint the packet names, if any, is already bound to its address, the
address already has a route, and a UDP packet comes at the recorded time. -/
def AlreadyBound (s : RtcService) (transport : Transport) (data : List UInt8)
    (addr : SocketAddress) (nowMs : Int) : Prop :=
  ∀ i, s.namedInterface api data = some i →
    (s.interfaces i).rtcRemoteAddress = addr ∧
      addressKey addr ∈ s.rtcInterfaces ∧
      (transport = .udp → (s.interfaces i).rtcStunTimestamp = nowMs)

theorem insertIfNew_eq_self_iff {m : ExtTreeMap String InterfaceId} {key : String}
    {i : InterfaceId} : m.insertIfNew key i = m ↔ key ∈ m := by
  constructor
  · intro h
    rw [← h]
    exact ExtTreeMap.mem_insertIfNew_self
  · intro hmem
    apply ExtTreeMap.ext_getElem?
    intro k
    rw [ExtTreeMap.getElem?_insertIfNew]
    split
    · rename_i hcmp
      exact absurd (Std.LawfulEqCmp.eq_of_compare hcmp.1 ▸ hmem) hcmp.2
    · rfl

theorem sameEndpoints_onStun_iff (transport : Transport) (s : RtcService)
    (data : List UInt8) (addr : SocketAddress) (nowMs : Int) :
    SameEndpoints s (onStun api transport s data addr nowMs).1 ↔
      AlreadyBound api s transport data addr nowMs := by
  cases hnamed : s.namedInterface api data with
  | none =>
      rw [onStun_fst_of_none api transport addr nowMs hnamed]
      constructor
      · intro _ i hi
        rw [hnamed] at hi
        cases hi
      · intro _
        exact ⟨fun _ => rfl, fun _ => rfl, rfl⟩
  | some i =>
      rw [onStun_fst_of_some api transport addr nowMs hnamed]
      constructor
      · rintro ⟨hremote, htime, hroutes⟩ j hj
        obtain rfl : i = j := Option.some.inj (hnamed.symm.trans hj)
        have hremote := hremote i
        have htime := htime i
        simp only [if_true] at hremote htime
        refine ⟨hremote.symm, insertIfNew_eq_self_iff.mp hroutes, ?_⟩
        rintro rfl
        exact htime.symm
      · intro h
        obtain ⟨hremote, hmem, htime⟩ := h i hnamed
        refine ⟨?_, ?_, insertIfNew_eq_self_iff.mpr hmem⟩
        · intro j
          rcases eq_or_ne j i with rfl | hne
          · simp [bound, hremote]
          · simp [hne]
        · intro j
          rcases eq_or_ne j i with rfl | hne
          · cases transport with
            | udp => simp [bound, htime rfl]
            | tcp => simp [bound]
          · simp [hne]

/-- The effect of a packet on the service depends on its user fragment alone; two
packets that differ in their MESSAGE-INTEGRITY do the same. -/
theorem onStun_fst_congr (transport : Transport) (s : RtcService) {data data' : List UInt8}
    (addr : SocketAddress) (nowMs : Int)
    (h : (api.decode data).map api.localUFrag = (api.decode data').map api.localUFrag) :
    (onStun api transport s data addr nowMs).1 =
      (onStun api transport s data' addr nowMs).1 := by
  have hnamed : s.namedInterface api data = s.namedInterface api data' := by
    have hmap : ∀ packet, s.namedInterface api packet =
        ((api.decode packet).map api.localUFrag).bind fun ufrag =>
          s.nameRtcInterface[ufrag]? := by
      intro packet
      rw [namedInterface, Option.bind_map]
      rfl
    rw [hmap, hmap, h]
  cases hdata : s.namedInterface api data with
  | none =>
      rw [onStun_fst_of_none api transport addr nowMs hdata,
        onStun_fst_of_none api transport addr nowMs (hnamed ▸ hdata)]
  | some i =>
      rw [onStun_fst_of_some api transport addr nowMs hdata,
        onStun_fst_of_some api transport addr nowMs (hnamed ▸ hdata)]

/-- In every reachable state, a packet that fails the ICE checks leaves the
endpoints alone exactly when it moves nothing anyway; no check of the packet
enters the condition. -/
theorem unauthentic_kept_iff (parameters : InterfaceId → RtcParameters)
    (inputs : List Input) (transport : Transport) (data : List UInt8)
    (addr : SocketAddress) (nowMs : Int) :
    (¬ Authentic api checks (reached api parameters inputs) data →
        SameEndpoints (reached api parameters inputs)
          (onStun api transport (reached api parameters inputs) data addr nowMs).1) ↔
      Authentic api checks (reached api parameters inputs) data ∨
        AlreadyBound api (reached api parameters inputs) transport data addr nowMs := by
  rw [sameEndpoints_onStun_iff]
  constructor
  · intro h
    rcases Classical.em (Authentic api checks (reached api parameters inputs) data) with
      hauthentic | hforged
    · exact Or.inl hauthentic
    · exact Or.inr (h hforged)
  · rintro (hauthentic | hbound) hforged
    · exact absurd hauthentic hforged
    · exact hbound

/-- A Binding Request without MESSAGE-INTEGRITY takes over a registered
endpoint. -/
theorem not_unauthentic_kept :
    ¬ ∀ (checks : IceChecks) (parameters : InterfaceId → RtcParameters)
      (inputs : List Input) (transport : Transport) (data : List UInt8)
      (addr : SocketAddress) (nowMs : Int),
      ¬ Authentic usernameFirst checks (reached usernameFirst parameters inputs) data →
        SameEndpoints (reached usernameFirst parameters inputs)
          (onStun usernameFirst transport (reached usernameFirst parameters inputs)
            data addr nowMs).1 := by
  intro hclaim
  have hsame := hclaim ⟨fun _ => true, fun _ _ => false⟩ twoEndpoints [.register 0] .udp
    (bindingRequest [0x61, 0x61]) ⟨"198.51.100.7", 4000⟩ 1000
    (by rintro ⟨_, _, _, hvalid⟩; cases hvalid)
  have hremote := hsame.remote 0
  revert hremote
  decide

end GBServer.StunAuthentication
