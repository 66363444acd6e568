import GBServer.Unregistration

namespace GBServer

open Std (ExtTreeMap)
open Foundation.OrderedMap

namespace RtcService

/-- One of the tables that find endpoints refers to the endpoint. -/
def HeldBy (service : RtcService) (i : InterfaceId) : Prop :=
  (∃ ufrag : String, service.nameRtcInterface[ufrag]? = some i) ∨
    ∃ key : String, service.rtcInterfaces[key]? = some i

@[simp] theorem heldBy_setInterface {service : RtcService} {j : InterfaceId}
    {x : RtcInterface} {i : InterfaceId} :
    (service.setInterface j x).HeldBy i ↔ service.HeldBy i := Iff.rfl

theorem getElem?_register_name (service : RtcService) (j : InterfaceId) (ufrag : String) :
    (service.registerRtcInterface j).nameRtcInterface[ufrag]? =
      if (service.interfaces j).localUFrag = ufrag ∧
        (service.interfaces j).localUFrag ∉ service.nameRtcInterface then some j
      else service.nameRtcInterface[ufrag]? := by
  change (service.nameRtcInterface.insertIfNew _ j)[ufrag]? = _
  simp only [ExtTreeMap.getElem?_insertIfNew, Std.LawfulEqCmp.compare_eq_iff_eq]

theorem heldBy_register {service : RtcService} {i j : InterfaceId} :
    (service.registerRtcInterface j).HeldBy i ↔
      service.HeldBy i ∨
        i = j ∧ (service.interfaces j).localUFrag ∉ service.nameRtcInterface := by
  have hroute : (service.registerRtcInterface j).rtcInterfaces = service.rtcInterfaces := rfl
  simp only [HeldBy, hroute, getElem?_register_name]
  constructor
  · rintro (⟨ufrag, h⟩ | h)
    · split at h
      · rename_i hnew
        exact Or.inr ⟨(Option.some.inj h).symm, hnew.2⟩
      · exact Or.inl (Or.inl ⟨ufrag, h⟩)
    · exact Or.inl (Or.inr h)
  · rintro ((⟨ufrag, h⟩ | h) | ⟨rfl, hnew⟩)
    · refine Or.inl ⟨ufrag, ?_⟩
      rw [if_neg, h]
      rintro ⟨rfl, hnew⟩
      exact hnew (mem_of_getElem?_eq_some h)
    · exact Or.inr h
    · exact Or.inl ⟨_, if_pos ⟨rfl, hnew⟩⟩

theorem heldBy_onStun {Stun : Type*} (api : StunApi Stun) (transport : Transport)
    {service : RtcService} {data : List UInt8} {addr : SocketAddress} {nowMs : Int}
    {i : InterfaceId} :
    (onStun api transport service data addr nowMs).1.HeldBy i ↔ service.HeldBy i := by
  cases hnamed : service.namedInterface api data with
  | none => rw [onStun_fst_of_none api transport addr nowMs hnamed]
  | some j =>
      have hname : (onStun api transport service data addr nowMs).1.nameRtcInterface =
          service.nameRtcInterface := (onStun_names api transport addr nowMs).1
      simp only [HeldBy, hname, getElem?_onStun_route api transport addr nowMs hnamed]
      obtain ⟨stun, _, hj⟩ := Option.bind_eq_some_iff.mp hnamed
      constructor
      · rintro (h | ⟨key, h⟩)
        · exact Or.inl h
        · split at h
          · obtain rfl := Option.some.inj h
            exact Or.inl ⟨_, hj⟩
          · exact Or.inr ⟨key, h⟩
      · rintro (h | ⟨key, h⟩)
        · exact Or.inl h
        · refine Or.inr ⟨key, ?_⟩
          rw [if_neg, h]
          rintro ⟨rfl, hnew⟩
          exact hnew (mem_of_getElem?_eq_some h)

def unregisterAll (service : RtcService) (dropped : List InterfaceId) : RtcService :=
  dropped.foldl unregisterRtcInterface service

@[simp] theorem interfaces_unregisterAll (service : RtcService) (dropped : List InterfaceId) :
    (service.unregisterAll dropped).interfaces = service.interfaces := by
  induction dropped generalizing service with
  | nil => rfl
  | cons d rest ih => exact ih _

/-- The latest address or the fragment of an endpoint leads nowhere after it has been
unregistered with others; everything else is still found. -/
theorem getElem?_unregisterAll_name (service : RtcService) (dropped : List InterfaceId)
    (ufrag : String) :
    (service.unregisterAll dropped).nameRtcInterface[ufrag]? =
      if ∃ d ∈ dropped, (service.interfaces d).localUFrag = ufrag then none
      else service.nameRtcInterface[ufrag]? := by
  induction dropped generalizing service with
  | nil => simp [unregisterAll]
  | cons d rest ih =>
      change ((service.unregisterRtcInterface d).unregisterAll rest).nameRtcInterface[ufrag]? = _
      have hsame : (service.unregisterRtcInterface d).interfaces = service.interfaces := rfl
      rw [ih, Unregistration.getElem?_unregister_name, hsame]
      by_cases hd : (service.interfaces d).localUFrag = ufrag
      · simp [hd]
      · simp [hd]

theorem getElem?_unregisterAll_route (service : RtcService) (dropped : List InterfaceId)
    (key : String) :
    (service.unregisterAll dropped).rtcInterfaces[key]? =
      if ∃ d ∈ dropped, addressKey (service.interfaces d).rtcRemoteAddress = key then none
      else service.rtcInterfaces[key]? := by
  induction dropped generalizing service with
  | nil => simp [unregisterAll]
  | cons d rest ih =>
      change ((service.unregisterRtcInterface d).unregisterAll rest).rtcInterfaces[key]? = _
      have hsame : (service.unregisterRtcInterface d).interfaces = service.interfaces := rfl
      rw [ih, getElem?_unregister_route, hsame]
      by_cases hd : addressKey (service.interfaces d).rtcRemoteAddress = key
      · simp [hd]
      · simp [hd]

end RtcService

end GBServer
