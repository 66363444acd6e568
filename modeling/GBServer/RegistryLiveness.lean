import GBServer.MediaRuns

namespace GBServer.RegistryLiveness

open Foundation.CStrings
open Foundation.Runs
open GBServer.GbMediaService
open GBServer.SessionName

/-- Every endpoint that an RTC service knows is attached to a session. -/
def RegistryLive (s : GbMediaService) : Prop := ∀ i, s.Held i → s.Attached i

def ProducerUnheld (s : GbMediaService) (sid : SessionId) : Prop :=
  ∀ p, (s.sessionHeap sid).producer = some p → ¬ s.Held p

/-- The addresses that lead to the endpoints are latest addresses of these endpoints. -/
def RoutedWithin (s : GbMediaService) (dropped : List ResourceId) : Prop :=
  ∀ d ∈ dropped, ∀ (k : Nat) (key : String), (s.rtcServices k).rtcInterfaces[key]? = some d →
    ∃ d' ∈ dropped, key = RtcService.addressKey (s.rtcInterface d').rtcRemoteAddress

/-- The input detaches no endpoint that stays in the registry. -/
def Clean (s : GbMediaService) : Input → Prop
  | .push (.offer streamurl _) _ _ =>
      ∀ sid, s.sessions[getSessionNameFromUrl streamurl]? = some sid → ProducerUnheld s sid
  | .openRtpServer (.request _ streamId) _ _ _ =>
      ∀ sid, s.sessions[getSessionNameFromUrl (gb28181Url streamId)]? = some sid →
        s.rtpServer[getSessionNameFromUrl (gb28181Url streamId)]? = none → ProducerUnheld s sid
  | .closeRtpServer (.request _ streamId) =>
      ∀ sid, s.sessions[getSessionNameFromUrl (gb28181Url streamId)]? = some sid →
        (s.sessionHeap sid).consumers ≠ [] ∧ s.config.logs .info = true ∨
          ∀ i, (s.sessionHeap sid).Has i → ¬ s.Held i
  | .tick sid nowMs => RoutedWithin s (s.timedOut sid nowMs)
  | .worker =>
      match s.tasks with
      | .dtlsEnded i :: _ =>
          if (s.resources i).type = .producerRtc then
            (s.rtcInterface i).localUFrag ∈ (s.serviceOf i).nameRtcInterface ∧
              ProducerUnheld s (s.resources i).session
          else RoutedWithin s [i]
      | _ => True
  | _ => True

section Attachment

variable {s : GbMediaService}

theorem member_of_has (h : s.Linked) {sid : SessionId} {i : ResourceId}
    (hi : (s.sessionHeap sid).Has i) : s.Member sid i := by
  rcases hi with hi | hi
  · exact (h.producer hi).1
  · exact (h.consumer hi).1

theorem attached_iff (h : s.Linked) {i : ResourceId} :
    s.Attached i ↔ ∃ sid, (s.sessionHeap sid).Has i := by
  constructor
  · rintro ⟨_, sid, _, hi⟩
    exact ⟨sid, hi⟩
  · rintro ⟨sid, hi⟩
    exact ⟨_, sid, (member_of_has h hi).listed, hi⟩

theorem isRtc_of_held (h : s.Linked) {i : ResourceId} (hi : s.Held i) : s.IsRtc i := by
  rcases hi with ⟨k, ⟨_, hi⟩ | ⟨_, hi⟩⟩
  · exact ((h.serves k).name hi).1
  · exact ((h.serves k).route hi).1

theorem held_updateService {k : Nat} {service : RtcService} {i : ResourceId} :
    { s with rtcServices := Function.update s.rtcServices k service }.Held i ↔
      service.HeldBy i ∨ ∃ k', k' ≠ k ∧ (s.rtcServices k').HeldBy i := by
  change (∃ k', (Function.update s.rtcServices k service k').HeldBy i) ↔ _
  constructor
  · rintro ⟨k', hi⟩
    rcases eq_or_ne k' k with rfl | hne
    · rw [Function.update_self] at hi
      exact Or.inl hi
    · rw [Function.update_of_ne hne] at hi
      exact Or.inr ⟨k', hne, hi⟩
  · rintro (hi | ⟨k', hne, hi⟩)
    · exact ⟨k, by rwa [Function.update_self]⟩
    · exact ⟨k', by rwa [Function.update_of_ne hne]⟩

theorem held_of_services {k : Nat} {i : ResourceId} :
    s.Held i ↔ (s.rtcServices k).HeldBy i ∨ ∃ k', k' ≠ k ∧ (s.rtcServices k').HeldBy i := by
  rw [← held_updateService, Function.update_eq_self]

theorem held_updateService_congr {k : Nat} {service : RtcService} {i : ResourceId}
    (hheld : service.HeldBy i ↔ (s.rtcServices k).HeldBy i) :
    { s with rtcServices := Function.update s.rtcServices k service }.Held i ↔ s.Held i := by
  rw [held_updateService, hheld, ← held_of_services]

theorem held_register {sid : SessionId} {i j : ResourceId} :
    (s.registerRtcInterface sid j).Held i ↔
      s.Held i ∨ i = j ∧ ((s.rtcServices (s.sessionHeap sid).rtcService).interfaces j).localUFrag ∉
        (s.rtcServices (s.sessionHeap sid).rtcService).nameRtcInterface := by
  rw [registerRtcInterface, withRtcService, held_updateService, RtcService.heldBy_register,
    held_of_services (k := (s.sessionHeap sid).rtcService), or_right_comm]

theorem registryLive_update {s' : GbMediaService} (h : s.Linked) (h' : s'.Linked)
    (hlive : RegistryLive s) {sid : SessionId} {session : Session}
    (hheap : s'.sessionHeap = Function.update s.sessionHeap sid session)
    (hsession : ∀ {i}, s.Member sid i → (s'.resources i).session = sid)
    (hheld : ∀ {i}, s'.Held i → s.Held i) :
    RegistryLive s' ↔ ∀ i, (s.sessionHeap sid).Has i → s'.Held i → session.Has i := by
  constructor
  · intro hlive' i hi hheld'
    obtain ⟨sid', hi'⟩ := (attached_iff h').mp (hlive' i hheld')
    have hsame : sid' = sid :=
      (member_of_has h' hi').session.symm.trans (hsession (member_of_has h hi))
    subst hsame
    rw [hheap, Function.update_self] at hi'
    exact hi'
  · intro hkept i hheld'
    obtain ⟨sid', hi⟩ := (attached_iff h).mp (hlive i (hheld hheld'))
    refine (attached_iff h').mpr ⟨sid', ?_⟩
    rw [hheap]
    rcases eq_or_ne sid' sid with rfl | hne
    · rw [Function.update_self]
      exact hkept i hi hheld'
    · rw [Function.update_of_ne hne]
      exact hi

theorem held_newRtcResource {sid : SessionId} {type : ShareResourceType} {kind : RtcKind}
    {secrets : IceSecrets} {nowMs : Int} {i : ResourceId} :
    (s.newRtcResource sid type kind secrets nowMs).Held i ↔ s.Held i := by
  rw [newRtcResource, newRtcInterface, withRtcService,
    held_updateService_congr RtcService.heldBy_setInterface]
  rfl

theorem session_newResource {sid : SessionId} {type : ShareResourceType} {nowMs : Int}
    {i : ResourceId} (hi : s.Member sid i) :
    ((s.newResource sid type nowMs).resources i).session = sid := by
  have hresource : (s.newResource sid type nowMs).resources i = s.resources i :=
    Function.update_of_ne (Nat.ne_of_lt hi.created) _ _
  rw [hresource, hi.session]

theorem forall_has_producer_iff {session : Session} {producer : Option ResourceId}
    (hproducer : ∀ p, producer = some p → ¬ s.Held p)
    (hconsumers : ∀ p, session.producer = some p → p ∉ session.consumers) :
    (∀ i, session.Has i → s.Held i → { session with producer := producer }.Has i) ↔
      ∀ p, session.producer = some p → ¬ s.Held p := by
  constructor
  · intro hkept p hp hheld
    rcases hkept p (Or.inl hp) hheld with hnew | hconsumer
    · exact hproducer p hnew hheld
    · exact hconsumers p hp hconsumer
  · intro hunheld i hi hheld
    rcases hi with hi | hi
    · exact absurd hheld (hunheld i hi)
    · exact Or.inr hi

theorem notMem_consumers_of_producer (h : s.Linked) {sid : SessionId} {p : ResourceId}
    (hp : (s.sessionHeap sid).producer = some p) : p ∉ (s.sessionHeap sid).consumers :=
  h.notMem_consumers (h.producer hp).2 sid

theorem not_held_nextResource (h : s.Linked) : ¬ s.Held s.nextResource :=
  fun hi => absurd (isRtc_of_held h hi).1 (Nat.lt_irrefl _)

end Attachment

section Creation

variable {s : GbMediaService} (h : s.Linked) (hlive : RegistryLive s)

include h hlive

theorem registryLive_newSession {sessionName : CString} (h' : (s.newSession sessionName).Linked) :
    RegistryLive (s.newSession sessionName) := by
  have hempty : ∀ i, ¬ (s.sessionHeap s.rtcServiceIndex).Has i := by
    intro i hi
    have hmember := member_of_has h hi
    have hlt := h.resource hmember.created
    rw [hmember.session] at hlt
    exact absurd hlt (Nat.lt_irrefl _)
  apply (registryLive_update h h' hlive rfl (fun hi => hi.session) (fun hi => hi)).mpr
  intro i hi
  exact absurd hi (hempty i)

theorem registryLive_createSession {s' : GbMediaService} {sessionName : CString}
    {sid : SessionId} (hcreate : s.createSession sessionName = (s', some sid)) :
    RegistryLive s' ∧
      (ProducerUnheld s' sid ↔
        ∀ sid', s.sessions[sessionName]? = some sid' → ProducerUnheld s sid') := by
  have h' := (h.createSession hcreate).1
  rcases createSession_of_some hcreate with ⟨hfound, rfl⟩ | ⟨hfree, _, rfl, rfl⟩
  · refine ⟨hlive, ?_⟩
    simp only [hfound, Option.some.injEq, forall_eq']
  · refine ⟨registryLive_newSession h hlive h', iff_of_true ?_ ?_⟩
    · intro p hp
      change (Function.update s.sessionHeap _ _ s.rtcServiceIndex).producer = some p at hp
      rw [Function.update_self] at hp
      cases hp
    · intro sid' hsid'
      rw [hfree] at hsid'
      cases hsid'

variable {sessionName : CString} {sid : SessionId}
  (hlisted : s.sessions[sessionName]? = some sid) (secrets : IceSecrets) (nowMs : Int)

include hlisted

theorem registryLive_attachRtcProducer :
    RegistryLive (s.attachRtcProducer sid secrets nowMs) ↔ ProducerUnheld s sid := by
  have hheld : ∀ {i}, (s.attachRtcProducer sid secrets nowMs).Held i ↔ s.Held i :=
    held_newRtcResource
  rw [registryLive_update h (h.attachRtcProducer hlisted secrets nowMs) hlive rfl
    session_newResource hheld.mp]
  simp only [hheld]
  apply forall_has_producer_iff
  · intro p hp
    obtain rfl := Option.some.inj hp
    exact not_held_nextResource h
  · exact fun p hp => notMem_consumers_of_producer h hp

theorem registryLive_attachRtcConsumer :
    RegistryLive (s.attachRtcConsumer sid secrets nowMs) := by
  apply (registryLive_update h (h.attachRtcConsumer hlisted secrets nowMs) hlive rfl
    session_newResource held_newRtcResource.mp).mpr
  rintro i (hi | hi) _
  · exact Or.inl hi
  · exact Or.inr (List.mem_insert_of_mem hi)

omit h hlisted in
theorem registryLive_register {j : ResourceId} (hj : s.Attached j) :
    RegistryLive (s.registerRtcInterface sid j) := by
  intro i hi
  rcases held_register.mp hi with hi | ⟨rfl, _⟩
  · exact hlive i hi
  · exact hj

end Creation

section Requests

variable {Stun : Type*} (api : MediaApi Stun) {s : GbMediaService} (h : s.Linked)
  (hlive : RegistryLive s)

include h hlive

theorem registryLive_push_iff (body : OfferBody) (secrets : IceSecrets) (nowMs : Int) :
    RegistryLive (s.handlerRtcProducer api body secrets nowMs).1 ↔
      Clean s (.push body secrets nowMs) := by
  cases body with
  | malformed => exact iff_of_true hlive trivial
  | incomplete => exact iff_of_true hlive trivial
  | offer streamurl sdp =>
      rcases hcreate : s.createSession (getSessionNameFromUrl streamurl) with ⟨s', _ | sid⟩
      · rw [handlerRtcProducer_rejected api secrets nowMs hcreate]
        apply iff_of_true hlive
        intro sid hsid
        rw [(createSession_of_none hcreate).1] at hsid
        cases hsid
      · obtain ⟨h', hlisted⟩ := h.createSession hcreate
        obtain ⟨hlive', hunheld⟩ := registryLive_createSession h hlive hcreate
        rw [Clean, ← hunheld, handlerRtcProducer_offer api secrets nowMs h hcreate,
          ← registryLive_attachRtcProducer h' hlive' hlisted secrets nowMs]
        have hattached := h'.attachRtcProducer hlisted secrets nowMs
        have hnew : (s'.attachRtcProducer sid secrets nowMs).Attached s'.nextResource := by
          refine (attached_iff hattached).mpr ⟨sid, Or.inl ?_⟩
          exact producer_attachRtcProducer s' sid secrets nowMs
        split
        · constructor
          · intro hregistered i hi
            exact hregistered i (held_register.mpr (Or.inl hi))
          · exact fun hlive => registryLive_register hlive hnew
        · exact Iff.rfl

theorem registryLive_play (body : OfferBody) (secrets : IceSecrets) (nowMs : Int) :
    RegistryLive (s.handlerRtcConsumer api body secrets nowMs).1 := by
  apply handlerRtcConsumer_rule api hlive h
  intro s' sessionName sid hcreate
  obtain ⟨h', hlisted⟩ := h.createSession hcreate
  have hlive' := (registryLive_createSession h hlive hcreate).1
  have hattached := h'.attachRtcConsumer hlisted secrets nowMs
  have hlive'' := registryLive_attachRtcConsumer h' hlive' hlisted secrets nowMs
  refine ⟨hlive'', registryLive_register hlive'' ?_⟩
  refine (attached_iff hattached).mpr ⟨sid, Or.inr ?_⟩
  exact mem_attachRtcConsumer s' sid secrets nowMs

theorem registryLive_flv (path : CString) (secrets : IceSecrets) (nowMs : Int) :
    RegistryLive (s.handlerFlvConsumer path secrets nowMs).1 := by
  have hlinked : (s.handlerFlvConsumer path secrets nowMs).1.Linked →
      RegistryLive (s.handlerFlvConsumer path secrets nowMs).1 := by
    apply handlerFlvConsumer_rule (P := fun t => t.Linked → RegistryLive t) (fun _ => hlive) h
    intro s' sessionName sid hcreate h''
    obtain ⟨h', hlisted⟩ := h.createSession hcreate
    have hlive' := (registryLive_createSession h hlive hcreate).1
    apply (registryLive_update h' h'' hlive' rfl session_newResource (fun hi => hi)).mpr
    rintro i (hi | hi) _
    · exact Or.inl hi
    · exact Or.inr (List.mem_insert_of_mem hi)
  exact hlinked (h.handlerFlvConsumer path secrets nowMs)

theorem registryLive_openRtpServer_iff (body : RtpServerBody) (started : Bool)
    (secrets : IceSecrets) (nowMs : Int) :
    RegistryLive (s.handlerOpenRtpServer body started secrets nowMs).1 ↔
      Clean s (.openRtpServer body started secrets nowMs) := by
  cases body with
  | malformed => exact iff_of_true hlive trivial
  | request tcpMode streamId =>
      obtain ⟨s', sid, hcreate⟩ := @createSession_gb28181Url s streamId
      obtain ⟨h', hlisted⟩ := h.createSession hcreate
      obtain ⟨hlive', hunheld⟩ := registryLive_createSession h hlive hcreate
      have hserver : s'.rtpServer = s.rtpServer := createSession_frame rtpServer rfl hcreate
      cases hfree : s.rtpServer[getSessionNameFromUrl (gb28181Url streamId)]? with
      | some server =>
          rw [handlerOpenRtpServer_again started secrets nowMs tcpMode hcreate
            (by rw [hserver, hfree])]
          apply iff_of_true hlive'
          intro sid _ hnone
          rw [hfree] at hnone
          cases hnone
      | none =>
          rw [handlerOpenRtpServer_request started secrets nowMs tcpMode hcreate h
            (by rw [hserver, hfree]), Clean]
          simp only [hfree, forall_const]
          rw [← hunheld, registryLive_update h' (h'.openedRtpServer started nowMs hlisted) hlive'
            rfl session_newResource (fun hi => hi)]
          apply forall_has_producer_iff (s := s')
          · intro p hp
            obtain rfl := Option.some.inj hp
            exact not_held_nextResource h'
          · exact fun p hp => notMem_consumers_of_producer h' hp

theorem registryLive_closeRtpServer_iff (body : RtpServerBody) :
    OnOk (fun p => RegistryLive p.1) (s.handlerCloseRtpServer body) ↔
      Clean s (.closeRtpServer body) := by
  cases body with
  | malformed => exact iff_of_true (onOk_ok.mpr hlive) trivial
  | request tcpMode streamId =>
      cases hlisted : s.sessions[getSessionNameFromUrl (gb28181Url streamId)]? with
      | none =>
          rw [handlerCloseRtpServer_of_none hlisted, Clean]
          simp [hlisted, hlive]
      | some sid =>
          rw [handlerCloseRtpServer_of_some hlisted, Clean]
          simp only [hlisted, Option.some.injEq, forall_eq']
          split
          · rename_i hcrash
            exact iff_of_true onOk_error (Or.inl hcrash)
          · rename_i hcompletes
            rw [onOk_ok, or_iff_right hcompletes, registryLive_update h (h.closed hlisted) hlive
              rfl (fun hi => hi.session) (fun hi => hi)]
            constructor
            · intro hkept i hi hheld
              rcases hkept i hi hheld with hnone | hnil
              · cases hnone
              · cases hnil
            · intro hunheld i hi hheld
              exact absurd hheld (hunheld i hi)

end Requests

section Withdrawal

variable {s : GbMediaService} (h : s.Linked) {sid : SessionId} {producer : Option ResourceId}
  {dropped : List ResourceId} (hdropped : ∀ d ∈ dropped, (s.resources d).session = sid)

theorem held_withdraw {i : ResourceId} :
    (s.withdraw sid producer dropped).Held i ↔
      ((s.rtcServices (s.sessionHeap sid).rtcService).unregisterAll dropped).HeldBy i ∨
        ∃ k, k ≠ (s.sessionHeap sid).rtcService ∧ (s.rtcServices k).HeldBy i := by
  rw [withdraw, withRtcService, ← held_updateService]
  rfl

theorem held_of_withdraw {i : ResourceId} (hi : (s.withdraw sid producer dropped).Held i) :
    s.Held i := by
  rw [held_withdraw] at hi
  rw [held_of_services]
  apply hi.imp_left
  rintro (⟨ufrag, hname⟩ | ⟨key, hroute⟩)
  · rw [RtcService.getElem?_unregisterAll_name] at hname
    split at hname
    · cases hname
    · exact Or.inl ⟨ufrag, hname⟩
  · rw [RtcService.getElem?_unregisterAll_route] at hroute
    split at hroute
    · cases hroute
    · exact Or.inr ⟨key, hroute⟩

include h hdropped

/-- Unregistering always clears the names; an address entry stays when no endpoint
that is unregistered has it as its latest address. -/
theorem forall_not_held_withdraw_iff :
    (∀ d ∈ dropped, ¬ (s.withdraw sid producer dropped).Held d) ↔ RoutedWithin s dropped := by
  have hindex : ∀ {d k}, d ∈ dropped → s.serviceIndex d = k →
      (s.sessionHeap sid).rtcService = k := by
    intro d k hd hk
    rw [← hk, serviceIndex, hdropped d hd]
  have hinterface : ∀ d ∈ dropped, s.rtcInterface d =
      (s.rtcServices (s.sessionHeap sid).rtcService).interfaces d := by
    intro d hd
    rw [rtcInterface, serviceOf, hdropped d hd]
  constructor
  · intro hgone d hd k key hroute
    obtain rfl := hindex hd ((h.serves k).route hroute).2
    by_contra hother
    apply hgone d hd
    refine held_withdraw.mpr (Or.inl (Or.inr ⟨key, ?_⟩))
    rw [RtcService.getElem?_unregisterAll_route, if_neg, hroute]
    rintro ⟨d', hd', hkey⟩
    exact hother ⟨d', hd', by rw [hinterface d' hd', hkey]⟩
  · intro hwithin d hd hheld
    rcases held_withdraw.mp hheld with (⟨ufrag, hname⟩ | ⟨key, hroute⟩) | ⟨k, hne, hother⟩
    · rw [RtcService.getElem?_unregisterAll_name] at hname
      split at hname
      · cases hname
      · rename_i hfrag
        exact hfrag ⟨d, hd, ((h.serves _).name hname).2.2⟩
    · rw [RtcService.getElem?_unregisterAll_route] at hroute
      split at hroute
      · cases hroute
      · rename_i hkey
        obtain ⟨d', hd', heq⟩ := hwithin d hd _ key hroute
        exact hkey ⟨d', hd', by rw [heq, hinterface d' hd']⟩
    · rcases hother with ⟨_, hname⟩ | ⟨_, hroute⟩
      · exact hne (hindex hd ((h.serves k).name hname).2.1).symm
      · exact hne (hindex hd ((h.serves k).route hroute).2).symm

theorem registryLive_withdraw_iff (h' : (s.withdraw sid producer dropped).Linked)
    (hlive : RegistryLive s)
    (hkept : ∀ p, (s.sessionHeap sid).producer = some p → p ∉ dropped → producer = some p)
    (hnew : ∀ p, producer = some p → p ∉ dropped) :
    RegistryLive (s.withdraw sid producer dropped) ↔ RoutedWithin s dropped := by
  have hgone : (∀ d ∈ dropped, ¬ (s.withdraw sid producer dropped).Held d) ↔ _ :=
    forall_not_held_withdraw_iff h hdropped
  rw [registryLive_update h h' hlive rfl (fun hi => hi.session) held_of_withdraw, ← hgone]
  constructor
  · intro hhas d hd hheld
    obtain ⟨sid', hattached⟩ := (attached_iff h).mp (hlive d (held_of_withdraw hheld))
    obtain rfl : sid' = sid := (member_of_has h hattached).session.symm.trans (hdropped d hd)
    rcases hhas d hattached hheld with hp | hc
    · exact hnew d hp hd
    · have hstays := (List.mem_filter.mp hc).2
      simp only [decide_not, Bool.not_eq_true', decide_eq_false_iff_not] at hstays
      exact hstays hd
  · intro hgone i hi hheld
    have hstays : i ∉ dropped := fun hd => hgone i hd hheld
    rcases hi with hi | hi
    · exact Or.inl (hkept i hi hstays)
    · exact Or.inr (List.mem_filter.mpr ⟨hi, by simpa using hstays⟩)

end Withdrawal

section Steps

variable {s : GbMediaService} (h : s.Linked) (hlive : RegistryLive s)

include h hlive

theorem registryLive_checkTimeOut_iff (sid : SessionId) (nowMs : Int) :
    RegistryLive (s.checkTimeOut sid nowMs) ↔ Clean s (.tick sid nowMs) := by
  have h' := h.checkTimeOut sid nowMs
  have hdropped : ∀ d ∈ s.timedOut sid nowMs, (s.resources d).session = sid := by
    intro d hd
    rcases List.mem_append.mp hd with hd | hd
    · have hp := (mem_producerTimedOut.mp (Option.mem_toList.mp hd)).1
      exact (h.producer hp).1.session
    · exact (h.consumer (mem_consumersTimedOut.mp hd).1).1.session
  have hconsumer : ∀ p, (s.sessionHeap sid).producer = some p →
      p ∉ s.consumersTimedOut sid nowMs :=
    fun p hp hc => notMem_consumers_of_producer h hp (mem_consumersTimedOut.mp hc).1
  rw [checkTimeOut_eq h] at h' ⊢
  apply registryLive_withdraw_iff h hdropped h' hlive
  · intro p hp hstays
    rw [if_neg, hp]
    intro hsome
    obtain ⟨q, hq⟩ := Option.isSome_iff_exists.mp hsome
    obtain rfl : p = q := Option.some.inj (hp.symm.trans (mem_producerTimedOut.mp hq).1)
    exact hstays (List.mem_append_left _ (Option.mem_toList.mpr hq))
  · intro p hp
    split at hp
    · cases hp
    · rename_i hnone
      rw [timedOut, Option.not_isSome_iff_eq_none.mp hnone]
      exact hconsumer p hp

/-- The task of a producer registers it, and then detaches the current producer. -/
theorem registryLive_producerEnded_iff {i : ResourceId} (hrtc : s.IsRtc i)
    (htype : (s.resources i).type = .producerRtc) :
    RegistryLive (s.onDtlsEnded i) ↔
      (s.rtcInterface i).localUFrag ∈ (s.serviceOf i).nameRtcInterface ∧
        ProducerUnheld s (s.resources i).session := by
  have hended : s.onDtlsEnded i = (s.registerRtcInterface (s.resources i).session i).setProducer
      (s.resources i).session none := by
    simp only [onDtlsEnded, htype]
  have hregistered := h.registerRtcInterface hrtc rfl
  have hempty : ∀ p, (none : Option ResourceId) ≠ some p := by simp
  have h' : (s.onDtlsEnded i).Linked :=
    hended ▸ hregistered.setProducer fun p hp => absurd hp (hempty p)
  have hheld : ∀ {j}, (s.onDtlsEnded i).Held j ↔ s.Held j ∨ j = i ∧
      (s.rtcInterface i).localUFrag ∉ (s.serviceOf i).nameRtcInterface := by
    intro j
    rw [hended]
    exact held_register
  have hheap : (s.onDtlsEnded i).sessionHeap =
      Function.update s.sessionHeap (s.resources i).session
        { s.sessionHeap (s.resources i).session with producer := none } := by
    rw [hended]
    rfl
  have hdetached : ¬ (s.onDtlsEnded i).Attached i := by
    rw [attached_iff h']
    rintro ⟨sid, hi⟩
    have hsession : (s.resources i).session = sid := by
      have hmember := (member_of_has h' hi).session
      rwa [hended] at hmember
    rw [hheap, hsession, Function.update_self] at hi
    rcases hi with hnone | hconsumer
    · cases hnone
    · exact h.notMem_consumers (by rw [htype]; rfl) _ hconsumer
  by_cases hfrag : (s.rtcInterface i).localUFrag ∈ (s.serviceOf i).nameRtcInterface
  · have hsame : ∀ {j}, (s.onDtlsEnded i).Held j ↔ s.Held j := by
      intro j
      rw [hheld, or_iff_left (fun hnew => hnew.2 hfrag)]
    rw [registryLive_update h h' hlive hheap (fun hi => by rw [hended]; exact hi.session)
      hsame.mp]
    simp only [hsame, hfrag, true_and]
    exact forall_has_producer_iff (fun p hp => absurd hp (hempty p))
      fun p hp => notMem_consumers_of_producer h hp
  · apply iff_of_false
    · intro hlive'
      exact hdetached (hlive' i (hheld.mpr (Or.inr ⟨rfl, hfrag⟩)))
    · exact fun hboth => hfrag hboth.1

theorem registryLive_consumerEnded_iff {i : ResourceId}
    (htype : (s.resources i).type = .consumerRtc) :
    RegistryLive (s.onDtlsEnded i) ↔ RoutedWithin s [i] := by
  have hended : s.onDtlsEnded i = s.withdraw (s.resources i).session
      (s.sessionHeap (s.resources i).session).producer [i] := by
    simp only [onDtlsEnded, htype, dropConsumer_eq]
  have h' : (s.withdraw (s.resources i).session
      (s.sessionHeap (s.resources i).session).producer [i]).Linked := by
    rw [← dropConsumer_eq]
    exact h.dropConsumer i
  rw [hended]
  apply registryLive_withdraw_iff h (by simp) h' hlive (fun p hp _ => hp)
  intro p hp hmem
  obtain rfl := List.mem_singleton.mp hmem
  have hproducer := (h.producer hp).2
  rw [htype] at hproducer
  cases hproducer

theorem registryLive_runTask_iff : RegistryLive s.runTask ↔ Clean s .worker := by
  rw [runTask, Clean]
  cases htasks : s.tasks with
  | nil => exact iff_of_true hlive trivial
  | cons task rest =>
      cases task with
      | addFrame sid origin media => exact iff_of_true hlive trivial
      | dtlsEnded i =>
          have hrtc : s.IsRtc i := h.posted (htasks ▸ List.mem_cons_self)
          have hrest : { s with tasks := rest }.Linked := by
            apply h.withTasks
            intro j hj
            exact h.posted (htasks ▸ List.mem_cons_of_mem _ hj)
          have hrestLive : RegistryLive { s with tasks := rest } := hlive
          dsimp only
          rcases hrtc.2 with htype | htype
          · rw [if_pos htype]
            exact registryLive_producerEnded_iff hrest hrestLive hrtc htype
          · rw [if_neg (by simp [htype])]
            exact registryLive_consumerEnded_iff hrest hrestLive htype

omit h in
theorem registryLive_onStun {Stun : Type*} (api : MediaApi Stun) (k : Nat)
    (transport : Transport) (data : List UInt8) (addr : SocketAddress) (nowMs : Int) :
    RegistryLive (s.onStun api k transport data addr nowMs) := by
  intro i hi
  apply hlive i
  rwa [GbMediaService.onStun, held_updateService_congr
    (RtcService.heldBy_onStun api.toStunApi transport)] at hi

omit h in
theorem registryLive_onDtls (i : ResourceId) (callback : RtcInterface.DtlsCallback) :
    RegistryLive (s.onDtls i callback) := by
  have hstored : RegistryLive (s.withRtcService (s.resources i).session fun service =>
      service.setInterface i ((service.interfaces i).onDtls callback)) := by
    intro j hj
    apply hlive j
    rwa [withRtcService, held_updateService_congr RtcService.heldBy_setInterface] at hj
  exact onDtls_rule hlive i callback fun _ => ⟨hstored, hstored⟩

theorem registryLive_disconnect {i : ResourceId} (htype : (s.resources i).type = .consumerFlv) :
    RegistryLive (s.onDestroy i) := by
  have hremoved : s.onDestroy i = s.removeConsumer (s.resources i).session i := by
    simp only [onDestroy, htype]
  rw [hremoved]
  apply (registryLive_update h (h.removeConsumer i) hlive rfl (fun hi => hi.session)
    (fun hi => hi)).mpr
  rintro j (hj | hj) hheld
  · exact Or.inl hj
  · refine Or.inr (List.mem_filter.mpr ⟨hj, ?_⟩)
    have hne : j ≠ i := by
      rintro rfl
      have hrtc := (isRtc_of_held h hheld).2
      rw [htype] at hrtc
      rcases hrtc with hrtc | hrtc <;> cases hrtc
    simpa using hne

theorem registryLive_step_iff {Stun : Type*} (api : MediaApi Stun) (input : Input) :
    OnOk RegistryLive (s.step api input) ↔ Clean s input := by
  cases input with
  | push body secrets nowMs =>
      exact onOk_ok.trans (registryLive_push_iff api h hlive body secrets nowMs)
  | play body secrets nowMs =>
      exact iff_of_true (onOk_ok.mpr (registryLive_play api h hlive body secrets nowMs)) trivial
  | flv path secrets nowMs =>
      exact iff_of_true (onOk_ok.mpr (registryLive_flv h hlive path secrets nowMs)) trivial
  | disconnect i =>
      refine iff_of_true (onOk_ok.mpr ?_) trivial
      split
      · rename_i htype
        exact registryLive_disconnect h hlive htype
      · exact hlive
  | openRtpServer body started secrets nowMs =>
      exact onOk_ok.trans
        (registryLive_openRtpServer_iff h hlive body started secrets nowMs)
  | closeRtpServer body =>
      exact onOk_map.trans (registryLive_closeRtpServer_iff h hlive body)
  | stun k transport data addr nowMs =>
      exact iff_of_true (onOk_ok.mpr (registryLive_onStun hlive api k transport data addr nowMs))
        trivial
  | dtls i callback =>
      exact iff_of_true (onOk_ok.mpr (registryLive_onDtls hlive i callback)) trivial
  | rtp k addr data media =>
      exact iff_of_true (onOk_onRtp data media hlive fun _ _ => hlive) trivial
  | tcp streamId images =>
      exact iff_of_true (onOk_ok.mpr (onTcp_rule hlive streamId images fun _ _ => hlive)) trivial
  | tick sid nowMs => exact onOk_ok.trans (registryLive_checkTimeOut_iff h hlive sid nowMs)
  | worker => exact onOk_ok.trans (registryLive_runTask_iff h hlive)

end Steps

theorem registryLive_startup (config : ServerConfig) : RegistryLive (startup config) := by
  rintro i ⟨k, ⟨ufrag, hi⟩ | ⟨key, hi⟩⟩
  · simp [startup, RtcService.startup] at hi
  · simp [startup, RtcService.startup] at hi

/-- The registry stays live throughout a run exactly when no step detaches an endpoint
that stays in it. -/
theorem throughout_registryLive_iff {Stun : Type*} (api : MediaApi Stun)
    (config : ServerConfig) (inputs : List Input) :
    Throughout (guarded (step api)) (OnOk RegistryLive) (.ok (startup config)) inputs ↔
      Admitted (guarded (step api)) (fun p input => OnOk (fun s => Clean s input) p)
        (.ok (startup config)) inputs :=
  throughout_onOk_iff (registryLive_startup config) (linked_startup config)
    (fun _ input h hlive => registryLive_step_iff h hlive api input)
    (fun _ input h => h.step api input)

def published : GbMediaService :=
  ((startup sampleConfig).handlerRtcProducer sampleApi (.offer sampleUrl sampleSdp)
    ⟨fun _ => "aa", "secret"⟩ 0).1

def republished : GbMediaService :=
  (published.handlerRtcProducer sampleApi (.offer sampleUrl sampleSdp)
    ⟨fun _ => "bb", "secret"⟩ 1000).1

/-- A stream that is published again leaves its first producer in the registry. -/
theorem not_throughout_registryLive :
    ¬ ∀ (config : ServerConfig) (inputs : List Input),
      Throughout (guarded (step sampleApi)) (OnOk RegistryLive) (.ok (startup config)) inputs := by
  intro hclaim
  have hlive : RegistryLive republished :=
    onOk_ok.mp (hclaim sampleConfig [samplePush "aa" 0, samplePush "bb" 1000]
      [samplePush "aa" 0, samplePush "bb" 1000] [] rfl)
  have hlinked : republished.Linked :=
    ((linked_startup sampleConfig).handlerRtcProducer sampleApi _ _ _).handlerRtcProducer
      sampleApi _ _ _
  have hheld : republished.Held 0 := ⟨0, Or.inl ⟨"aa", by decide⟩⟩
  obtain ⟨sid, hhas⟩ := (attached_iff hlinked).mp (hlive 0 hheld)
  obtain rfl : 0 = sid := (member_of_has hlinked hhas).session
  rcases hhas with hproducer | hconsumer
  · revert hproducer
    decide
  · revert hconsumer
    decide

end GBServer.RegistryLiveness
