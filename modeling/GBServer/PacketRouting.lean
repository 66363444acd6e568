import GBServer.RtcService

/-!
Routing by remote address.  The service is observed together with the binding
that the history of STUN packets asks for, and the runs in which the address
table agrees with it are characterised.
-/

namespace GBServer.PacketRouting

open Std (ExtTreeMap)
open Foundation.OrderedMap
open Foundation.Runs
open GBServer.RtcService

/-- For each address, the endpoint named last by a STUN packet from it, as long as
that endpoint has not been unregistered. -/
abbrev Bindings := SocketAddress → Option InterfaceId

variable {Stun : Type*} (api : StunApi Stun)

def noteBinding (s : RtcService) (lastStun : Bindings) : Input → Bindings
  | .register _ => lastStun
  | .unregister i => fun addr => if lastStun addr = some i then none else lastStun addr
  | .stun _ data addr _ =>
      match s.namedInterface api data with
      | none => lastStun
      | some i => fun other => if other = addr then some i else lastStun other

abbrev observed : RtcService × Bindings → Input → RtcService × Bindings :=
  observe (step api) (noteBinding api)

abbrev start (parameters : InterfaceId → RtcParameters) : RtcService × Bindings :=
  (startup parameters, fun _ => none)

/-- DTLS, RTP and RTCP packets from a bound address reach the endpoint bound to
it, and nothing else. -/
def RoutingFollows (s : RtcService × Bindings) : Prop :=
  ∀ addr i, s.2 addr = some i → ∀ data,
    s.1.onDtls data addr = some (i, .onDtlsRecv data) ∧
      s.1.onRtp data addr = some (i, .onSrtpRtp data) ∧
      s.1.onRtcp data addr = some (i, .onSrtpRtcp data)

/-- A STUN packet finds its address unrouted or routed to the endpoint it names;
an endpoint is unregistered only while its latest address is not bound to
another one. -/
def KeepsRouting (s : RtcService × Bindings) : Input → Prop
  | .register _ => True
  | .unregister i =>
      ∀ j, s.2 (s.1.interfaces i).rtcRemoteAddress = some j → j = i
  | .stun _ data addr _ =>
      ∀ i, s.1.namedInterface api data = some i →
        s.1.rtcInterfaces[addressKey addr]? = none ∨
          s.1.rtcInterfaces[addressKey addr]? = some i

theorem routingFollows_iff {s : RtcService × Bindings} :
    RoutingFollows s ↔
      ∀ addr i, s.2 addr = some i → s.1.rtcInterfaces[addressKey addr]? = some i := by
  constructor
  · intro h addr i hbound
    have hroute := (h addr i hbound []).1
    rw [onDtls] at hroute
    obtain ⟨j, hj, heq⟩ := Option.map_eq_some_iff.mp hroute
    rw [hj, (Prod.mk.inj heq).1]
  · intro h addr i hbound data
    simp [onDtls, onRtp, onRtcp, h addr i hbound]

theorem routingFollows_unregister_iff {s : RtcService × Bindings} (h : RoutingFollows s)
    (i : InterfaceId) :
    RoutingFollows (observed api s (.unregister i)) ↔ KeepsRouting api s (.unregister i) := by
  rw [routingFollows_iff] at h ⊢
  have hroutes : ∀ addr, (observed api s (.unregister i)).1.rtcInterfaces[addressKey addr]? =
      if (s.1.interfaces i).rtcRemoteAddress = addr then none
      else s.1.rtcInterfaces[addressKey addr]? := by
    intro addr
    have hroute := getElem?_unregister_route s.1 i (addressKey addr)
    simp only [addressKey_inj] at hroute
    exact hroute
  have hbindings : ∀ addr, (observed api s (.unregister i)).2 addr =
      if s.2 addr = some i then none else s.2 addr := fun _ => rfl
  constructor
  · intro hafter j hj
    by_contra hne
    have hbound : (observed api s (.unregister i)).2 (s.1.interfaces i).rtcRemoteAddress =
        some j := by
      rw [hbindings, if_neg (by rw [hj]; simpa using hne), hj]
    have hlast := hafter _ j hbound
    rw [hroutes, if_pos rfl] at hlast
    contradiction
  · intro hkeeps addr j hj
    rw [hbindings] at hj
    split at hj
    · contradiction
    · rename_i hother
      rw [hroutes, if_neg, h addr j hj]
      rintro rfl
      exact hother (hkeeps j hj ▸ hj)

theorem routingFollows_stun_iff {s : RtcService × Bindings} (h : RoutingFollows s)
    {data : List UInt8} {i : InterfaceId} (hnamed : s.1.namedInterface api data = some i)
    (transport : Transport) (addr : SocketAddress) (nowMs : Int) :
    RoutingFollows (observed api s (.stun transport data addr nowMs)) ↔
      KeepsRouting api s (.stun transport data addr nowMs) := by
  rw [routingFollows_iff] at h ⊢
  have hroutes : ∀ other, (observed api s
      (.stun transport data addr nowMs)).1.rtcInterfaces[addressKey other]? =
      if addr = other ∧ addressKey addr ∉ s.1.rtcInterfaces then some i
      else s.1.rtcInterfaces[addressKey other]? := by
    intro other
    have hroute := getElem?_onStun_route api transport addr nowMs hnamed (addressKey other)
    simp only [addressKey_inj] at hroute
    exact hroute
  have hbindings : ∀ other, (observed api s (.stun transport data addr nowMs)).2 other =
      if other = addr then some i else s.2 other := by
    intro other
    simp [observe, noteBinding, hnamed]
  constructor
  · intro hafter j hj
    obtain rfl : i = j := Option.some.inj (hnamed.symm.trans hj)
    have hself := hafter addr i (by rw [hbindings, if_pos rfl])
    rw [hroutes] at hself
    split at hself
    · rename_i hfree
      exact Or.inl (ExtTreeMap.getElem?_eq_none hfree.2)
    · exact Or.inr hself
  · intro hkeeps other j hj
    rw [hbindings] at hj
    rw [hroutes]
    split at hj
    · rename_i hsame
      subst hsame
      obtain rfl := Option.some.inj hj
      rcases hkeeps i hnamed with hfree | hown
      · rw [if_pos]
        exact ⟨rfl, notMem_of_getElem?_eq_none hfree⟩
      · rw [if_neg, hown]
        exact fun hnew => hnew.2 (mem_of_getElem?_eq_some hown)
    · rename_i hother
      rw [if_neg, h other j hj]
      exact fun hnew => hother hnew.1.symm

theorem observed_stun_of_none {s : RtcService × Bindings} {data : List UInt8}
    (hnamed : s.1.namedInterface api data = none) (transport : Transport)
    (addr : SocketAddress) (nowMs : Int) :
    observed api s (.stun transport data addr nowMs) = s := by
  apply Prod.ext
  · exact onStun_fst_of_none api transport addr nowMs hnamed
  · simp [observe, noteBinding, hnamed]

theorem routingFollows_observed_iff {s : RtcService × Bindings} (h : RoutingFollows s)
    (input : Input) :
    RoutingFollows (observed api s input) ↔ KeepsRouting api s input := by
  cases input with
  | register i =>
      have hsame : RoutingFollows (observed api s (.register i)) := h
      exact iff_of_true hsame trivial
  | unregister i => exact routingFollows_unregister_iff api h i
  | stun transport data addr nowMs =>
      cases hnamed : s.1.namedInterface api data with
      | none =>
          rw [observed_stun_of_none api hnamed]
          apply iff_of_true h
          intro i hi
          rw [hnamed] at hi
          contradiction
      | some i => exact routingFollows_stun_iff api h hnamed transport addr nowMs

/-- Packets follow the last STUN binding throughout a run exactly when every STUN
packet finds its address free or its own, and no endpoint is unregistered while
its latest address is bound to another. -/
theorem throughout_routingFollows_iff (parameters : InterfaceId → RtcParameters)
    (inputs : List Input) :
    Throughout (observed api) RoutingFollows (start parameters) inputs ↔
      Admitted (observed api) (KeepsRouting api) (start parameters) inputs := by
  have hstart : RoutingFollows (start parameters) := by
    intro addr i hbound
    cases hbound
  exact throughout_iff_admitted_of_step hstart fun _ input h =>
    routingFollows_observed_iff api h input

/-- After STUN packets from one address name first the one and then the other
endpoint, its packets still go to the first. -/
theorem not_throughout_routingFollows :
    ¬ ∀ (parameters : InterfaceId → RtcParameters) (inputs : List Input),
      Throughout (observed usernameFirst) RoutingFollows (start parameters) inputs := by
  intro hclaim
  have hroute := hclaim twoEndpoints
    [.register 0, .register 1,
      .stun .udp (bindingRequest [0x61, 0x61]) ⟨"192.0.2.1", 5000⟩ 10,
      .stun .udp (bindingRequest [0x62, 0x62]) ⟨"192.0.2.1", 5000⟩ 20]
    _ [] (List.append_nil _).symm ⟨"192.0.2.1", 5000⟩ 1 (by decide) []
  revert hroute
  decide

end GBServer.PacketRouting
