import GBServer.RtcService

namespace GBServer.Unregistration

open Std (ExtTreeMap)
open Foundation.OrderedMap
open Foundation.Runs
open GBServer.RtcService

variable {Stun : Type*} (api : StunApi Stun)

/-- What holds of the name tables in every reachable state: an endpoint is only
registered under its own fragment, and the fragment set lists the same names. -/
structure NamesAgree (s : RtcService) : Prop where
  named : ∀ (ufrag : String) (i : InterfaceId),
    s.nameRtcInterface[ufrag]? = some i → ufrag = (s.interfaces i).localUFrag
  listed : ∀ ufrag, ufrag ∈ s.nameRtcUfrag ↔ ufrag ∈ s.nameRtcInterface

theorem namesAgree_startup (parameters : InterfaceId → RtcParameters) :
    NamesAgree (startup parameters) :=
  ⟨by simp [startup], by simp [startup]⟩

theorem localUFrag_step (s : RtcService) (input : Input) (i : InterfaceId) :
    ((s.step api input).interfaces i).localUFrag = (s.interfaces i).localUFrag :=
  congrArg RtcParameters.localUFrag (step_toRtcParameters api s input i)

theorem NamesAgree.register {s : RtcService} (h : NamesAgree s) (i : InterfaceId) :
    NamesAgree (s.registerRtcInterface i) := by
  constructor
  · intro ufrag j hj
    change (s.nameRtcInterface.insertIfNew _ i)[ufrag]? = some j at hj
    rw [ExtTreeMap.getElem?_insertIfNew] at hj
    split at hj
    · rename_i hnew
      obtain rfl := Option.some.inj hj
      exact (Std.LawfulEqCmp.eq_of_compare hnew.1).symm
    · exact h.named ufrag j hj
  · intro ufrag
    change ufrag ∈ s.nameRtcUfrag.insertIfNew _ () ↔ ufrag ∈ s.nameRtcInterface.insertIfNew _ i
    rw [ExtTreeMap.mem_insertIfNew, ExtTreeMap.mem_insertIfNew, h.listed]

theorem NamesAgree.unregister {s : RtcService} (h : NamesAgree s) (i : InterfaceId) :
    NamesAgree (s.unregisterRtcInterface i) := by
  constructor
  · intro ufrag j hj
    change (s.nameRtcInterface.erase _)[ufrag]? = some j at hj
    rw [ExtTreeMap.getElem?_erase] at hj
    split at hj
    · contradiction
    · exact h.named ufrag j hj
  · intro ufrag
    change ufrag ∈ s.nameRtcUfrag.erase _ ↔ ufrag ∈ s.nameRtcInterface.erase _
    rw [ExtTreeMap.mem_erase, ExtTreeMap.mem_erase, h.listed]

theorem namesAgree_step {s : RtcService} (h : NamesAgree s) (input : Input) :
    NamesAgree (s.step api input) := by
  cases input with
  | register i => exact h.register i
  | unregister i => exact h.unregister i
  | stun transport data addr nowMs =>
      have hfrag := localUFrag_step api s (.stun transport data addr nowMs)
      obtain ⟨hnames, hlisted⟩ : (s.step api (.stun transport data addr nowMs)).nameRtcInterface =
            s.nameRtcInterface ∧
          (s.step api (.stun transport data addr nowMs)).nameRtcUfrag = s.nameRtcUfrag :=
        onStun_names api transport addr nowMs
      constructor
      · intro ufrag j hj
        rw [hfrag]
        rw [hnames] at hj
        exact h.named ufrag j hj
      · intro ufrag
        rw [hnames, hlisted]
        exact h.listed ufrag

theorem namesAgree_reached (parameters : InterfaceId → RtcParameters) (inputs : List Input) :
    NamesAgree (reached api parameters inputs) :=
  invariant_run_of_step (namesAgree_startup parameters)
    (fun _ input h => namesAgree_step api h input) inputs

def Registered (s : RtcService) (i : InterfaceId) : Prop :=
  s.nameRtcInterface[(s.interfaces i).localUFrag]? = some i

structure Forgotten (s : RtcService) (i : InterfaceId) : Prop where
  name : ∀ ufrag : String, s.nameRtcInterface[ufrag]? ≠ some i
  ufrag : (s.interfaces i).localUFrag ∉ s.nameRtcUfrag
  route : ∀ key : String, s.rtcInterfaces[key]? ≠ some i

/-- From `s` to `t`, every entry that referred to another endpoint than `i` is
still present and unchanged. -/
structure OthersKept (s t : RtcService) (i : InterfaceId) : Prop where
  name : ∀ (ufrag : String) (j : InterfaceId), j ≠ i → s.nameRtcInterface[ufrag]? = some j →
    t.nameRtcInterface[ufrag]? = some j ∧ ufrag ∈ t.nameRtcUfrag
  route : ∀ (key : String) (j : InterfaceId), j ≠ i →
    s.rtcInterfaces[key]? = some j → t.rtcInterfaces[key]? = some j

/-- The endpoint is routed from its latest address alone, and that address is not
routed to another endpoint. -/
def RoutedFromLatestOnly (s : RtcService) (i : InterfaceId) : Prop :=
  (∀ key : String, s.rtcInterfaces[key]? = some i →
      key = addressKey (s.interfaces i).rtcRemoteAddress) ∧
    ∀ j, s.rtcInterfaces[addressKey (s.interfaces i).rtcRemoteAddress]? = some j → j = i

theorem getElem?_unregister_name (s : RtcService) (i : InterfaceId) (ufrag : String) :
    (s.unregisterRtcInterface i).nameRtcInterface[ufrag]? =
      if (s.interfaces i).localUFrag = ufrag then none
      else s.nameRtcInterface[ufrag]? := by
  change (s.nameRtcInterface.erase _)[ufrag]? = _
  simp only [ExtTreeMap.getElem?_erase, Std.LawfulEqCmp.compare_eq_iff_eq]

theorem mem_unregister_ufrag (s : RtcService) (i : InterfaceId) (ufrag : String) :
    ufrag ∈ (s.unregisterRtcInterface i).nameRtcUfrag ↔
      (s.interfaces i).localUFrag ≠ ufrag ∧ ufrag ∈ s.nameRtcUfrag := by
  change ufrag ∈ s.nameRtcUfrag.erase _ ↔ _
  rw [ExtTreeMap.mem_erase, ne_eq, Std.LawfulEqCmp.compare_eq_iff_eq]

/-- The name tables are always cleaned up: they hold the endpoint once. -/
theorem forgotten_iff {s : RtcService} (h : NamesAgree s) (i : InterfaceId) :
    Forgotten (s.unregisterRtcInterface i) i ↔
      ∀ key : String, s.rtcInterfaces[key]? = some i →
        key = addressKey (s.interfaces i).rtcRemoteAddress := by
  constructor
  · intro hforgotten key hkey
    have hgone := hforgotten.route key
    rw [getElem?_unregister_route] at hgone
    split at hgone
    · rename_i heq
      exact heq.symm
    · exact absurd hkey hgone
  · intro hlatest
    refine ⟨?_, ?_, ?_⟩
    · intro ufrag hname
      rw [getElem?_unregister_name] at hname
      split at hname
      · cases hname
      · rename_i hne
        exact hne (h.named ufrag i hname).symm
    · intro hmem
      exact ((mem_unregister_ufrag s i _).mp hmem).1 rfl
    · intro key hroute
      rw [getElem?_unregister_route] at hroute
      split at hroute
      · cases hroute
      · rename_i hne
        exact hne (hlatest key hroute).symm

theorem othersKept_iff {s : RtcService} (h : NamesAgree s) {i : InterfaceId}
    (hregistered : Registered s i) :
    OthersKept s (s.unregisterRtcInterface i) i ↔
      ∀ j, s.rtcInterfaces[addressKey (s.interfaces i).rtcRemoteAddress]? = some j →
        j = i := by
  constructor
  · intro hkept j hj
    rcases eq_or_ne j i with rfl | hne
    · rfl
    · have hroute := hkept.route _ j hne hj
      rw [getElem?_unregister_route, if_pos rfl] at hroute
      cases hroute
  · intro hown
    constructor
    · intro ufrag j hne hname
      have hother : (s.interfaces i).localUFrag ≠ ufrag := by
        rintro rfl
        exact hne (Option.some.inj (hname.symm.trans hregistered))
      refine ⟨by rw [getElem?_unregister_name, if_neg hother, hname], ?_⟩
      rw [mem_unregister_ufrag, h.listed]
      exact ⟨hother, mem_of_getElem?_eq_some hname⟩
    · intro key j hne hroute
      rw [getElem?_unregister_route, if_neg, hroute]
      rintro rfl
      exact hne (hown j hroute)

/-- In every reachable state, unregistering a registered endpoint is complete and
local exactly when the endpoint is routed from its latest address alone and no
other endpoint is. -/
theorem unregister_complete_local_iff (parameters : InterfaceId → RtcParameters)
    (inputs : List Input) {i : InterfaceId}
    (hregistered : Registered (reached api parameters inputs) i) :
    (Forgotten ((reached api parameters inputs).unregisterRtcInterface i) i ∧
        OthersKept (reached api parameters inputs)
          ((reached api parameters inputs).unregisterRtcInterface i) i) ↔
      RoutedFromLatestOnly (reached api parameters inputs) i := by
  have hnames := namesAgree_reached api parameters inputs
  rw [forgotten_iff hnames, othersKept_iff hnames hregistered]
  rfl

/-- A STUN packet comes from the only address its endpoint is routed from, and
that address is not used by another endpoint. -/
def StaysPut (s : RtcService) : Input → Prop
  | .stun _ data addr _ =>
      ∀ i, s.namedInterface api data = some i →
        (∀ key : String, s.rtcInterfaces[key]? = some i → key = addressKey addr) ∧
        (∀ j, s.rtcInterfaces[addressKey addr]? = some j → j = i) ∧
        ∀ j, j ≠ i → (s.interfaces j).rtcRemoteAddress ≠ addr
  | _ => True

section Stun

variable {s : RtcService} {i : InterfaceId} {data : List UInt8}
  (hnamed : s.namedInterface api data = some i) (transport : Transport)
  (addr : SocketAddress) (nowMs : Int)

include hnamed

theorem rtcRemoteAddress_onStun (j : InterfaceId) :
    ((onStun api transport s data addr nowMs).1.interfaces j).rtcRemoteAddress =
      if j = i then addr else (s.interfaces j).rtcRemoteAddress := by
  rw [onStun_fst_of_some api transport addr nowMs hnamed]
  dsimp only
  split <;> rfl

theorem getElem?_onStun_route_of_some {key : String} {j : InterfaceId}
    (hj : s.rtcInterfaces[key]? = some j) :
    (onStun api transport s data addr nowMs).1.rtcInterfaces[key]? = some j := by
  rw [getElem?_onStun_route api transport addr nowMs hnamed, if_neg, hj]
  rintro ⟨rfl, hfree⟩
  exact hfree (mem_of_getElem?_eq_some hj)

theorem staysPut_of_routedFromLatestOnly
    (hafter : ∀ j, RoutedFromLatestOnly (onStun api transport s data addr nowMs).1 j) :
    StaysPut api s (.stun transport data addr nowMs) := by
  have hold : ∀ {key : String} {j}, s.rtcInterfaces[key]? = some j → _ :=
    getElem?_onStun_route_of_some api hnamed transport addr nowMs
  intro j hj
  obtain rfl : i = j := Option.some.inj (hnamed.symm.trans hj)
  obtain ⟨hlatest, hown⟩ := hafter i
  rw [rtcRemoteAddress_onStun api hnamed, if_pos rfl] at hlatest hown
  have hself : (onStun api transport s data addr nowMs).1.rtcInterfaces[addressKey addr]? =
      some i := by
    cases hget : s.rtcInterfaces[addressKey addr]? with
    | none =>
        rw [getElem?_onStun_route api transport addr nowMs hnamed,
          if_pos ⟨rfl, notMem_of_getElem?_eq_none hget⟩]
    | some k => rw [hold hget, hown k (hold hget)]
  refine ⟨fun key hkey => hlatest key (hold hkey), fun k hk => hown k (hold hk), ?_⟩
  intro k hne hremote
  have hother := (hafter k).2
  rw [rtcRemoteAddress_onStun api hnamed, if_neg hne, hremote] at hother
  exact hne (hother i hself).symm

theorem routedFromLatestOnly_of_staysPut (h : ∀ j, RoutedFromLatestOnly s j)
    (hput : StaysPut api s (.stun transport data addr nowMs)) (j : InterfaceId) :
    RoutedFromLatestOnly (onStun api transport s data addr nowMs).1 j := by
  obtain ⟨honly, hown, hothers⟩ := hput i hnamed
  have hroute := getElem?_onStun_route api transport addr nowMs hnamed
  rw [RoutedFromLatestOnly, rtcRemoteAddress_onStun api hnamed]
  rcases eq_or_ne j i with rfl | hne
  · rw [if_pos rfl]
    constructor
    · intro key hkey
      rw [hroute] at hkey
      split at hkey
      · rename_i hnew
        exact hnew.1.symm
      · exact honly key hkey
    · intro k hk
      rw [hroute] at hk
      split at hk
      · exact (Option.some.inj hk).symm
      · exact hown k hk
  · rw [if_neg hne]
    constructor
    · intro key hkey
      rw [hroute] at hkey
      split at hkey
      · exact absurd (Option.some.inj hkey).symm hne
      · exact (h j).1 key hkey
    · intro k hk
      rw [hroute, if_neg] at hk
      · exact (h j).2 k hk
      · rintro ⟨hsame, _⟩
        exact hothers j hne (addressKey_inj.mp hsame).symm

end Stun

theorem routedFromLatestOnly_step_iff {s : RtcService}
    (h : ∀ j, RoutedFromLatestOnly s j) (input : Input) :
    (∀ j, RoutedFromLatestOnly (s.step api input) j) ↔ StaysPut api s input := by
  cases input with
  | register i => exact iff_of_true h trivial
  | unregister i =>
      refine iff_of_true ?_ trivial
      have hshrinks : ∀ {key : String} {j},
          (s.unregisterRtcInterface i).rtcInterfaces[key]? = some j →
            s.rtcInterfaces[key]? = some j := by
        intro key j hj
        rw [getElem?_unregister_route] at hj
        split at hj
        · cases hj
        · exact hj
      intro j
      exact ⟨fun key hkey => (h j).1 key (hshrinks hkey), fun k hk => (h j).2 k (hshrinks hk)⟩
  | stun transport data addr nowMs =>
      cases hnamed : s.namedInterface api data with
      | none =>
          rw [step, onStun_fst_of_none api transport addr nowMs hnamed]
          apply iff_of_true h
          intro i hi
          rw [hnamed] at hi
          cases hi
      | some i =>
          exact ⟨staysPut_of_routedFromLatestOnly api hnamed transport addr nowMs,
            fun hput => routedFromLatestOnly_of_staysPut api hnamed transport addr nowMs h hput⟩

/-- Every endpoint could be unregistered cleanly throughout a run exactly when no
endpoint changes its address in it and no two share one. -/
theorem throughout_routedFromLatestOnly_iff (parameters : InterfaceId → RtcParameters)
    (inputs : List Input) :
    Throughout (step api) (fun s => ∀ j, RoutedFromLatestOnly s j) (startup parameters)
        inputs ↔
      Admitted (step api) (StaysPut api) (startup parameters) inputs := by
  apply throughout_iff_admitted_of_step
  · intro j
    simp [RoutedFromLatestOnly, startup]
  · intro s input h
    exact routedFromLatestOnly_step_iff api h input

def boundOnce : RtcService :=
  reached usernameFirst twoEndpoints
    [.register 0, .stun .udp (bindingRequest [0x61, 0x61]) ⟨"192.0.2.1", 5000⟩ 10]

theorem unregister_complete_local_iff_boundOnce :
    (Forgotten (boundOnce.unregisterRtcInterface 0) 0 ∧
        OthersKept boundOnce (boundOnce.unregisterRtcInterface 0) 0) ↔
      RoutedFromLatestOnly boundOnce 0 :=
  unregister_complete_local_iff usernameFirst twoEndpoints _
    (show _ = some 0 by decide)

/-- An endpoint that moved to a second address leaves the entry of the first one
behind. -/
theorem not_unregister_complete :
    ¬ ∀ (parameters : InterfaceId → RtcParameters) (inputs : List Input) (i : InterfaceId),
      Registered (reached usernameFirst parameters inputs) i →
        Forgotten ((reached usernameFirst parameters inputs).unregisterRtcInterface i) i ∧
        OthersKept (reached usernameFirst parameters inputs)
          ((reached usernameFirst parameters inputs).unregisterRtcInterface i) i := by
  intro hclaim
  have hforgotten := (hclaim twoEndpoints
    [.register 0, .stun .udp (bindingRequest [0x61, 0x61]) ⟨"192.0.2.1", 5000⟩ 10,
      .stun .udp (bindingRequest [0x61, 0x61]) ⟨"192.0.2.9", 6000⟩ 20] 0
    (show _ = some 0 by decide)).1
  have hroute := hforgotten.route "192.0.2.1:5000"
  revert hroute
  decide

end GBServer.Unregistration
