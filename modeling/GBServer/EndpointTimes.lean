import GBServer.MediaRuns

namespace GBServer.StunTimeouts

open Foundation.CStrings
open Foundation.Runs
open GBServer.GbMediaService

def inputTime : Input → Option Int
  | .push _ _ nowMs => some nowMs
  | .play _ _ nowMs => some nowMs
  | .flv _ _ nowMs => some nowMs
  | .openRtpServer _ _ _ nowMs => some nowMs
  | .stun _ _ _ _ nowMs => some nowMs
  | .tick _ nowMs => some nowMs
  | _ => none

def stunTime (s : GbMediaService) (i : ResourceId) : Int := (s.rtcInterface i).rtcStunTimestamp

/-- From `s` to `t` endpoints may be created at this time, and no timestamp changes. -/
structure Extends (time : Option Int) (s t : GbMediaService) : Prop where
  next : s.nextResource ≤ t.nextResource
  resource : ∀ i < s.nextResource, t.resources i = s.resources i
  kept : ∀ i, s.IsRtc i → stunTime t i = stunTime s i
  created : ∀ i, s.nextResource ≤ i → i < t.nextResource →
    some (t.resources i).startTimestamp = time
  fresh : ∀ i, s.nextResource ≤ i → t.IsRtc i → stunTime t i = 0

section Extension

variable {time : Option Int} {s t u : GbMediaService}

theorem isRtc_iff_of_lt (h : Extends time s t) {i : ResourceId} (hi : i < s.nextResource) :
    t.IsRtc i ↔ s.IsRtc i := by
  simp only [IsRtc, h.resource i hi, hi, Nat.lt_of_lt_of_le hi h.next]

theorem Extends.trans (h : Extends time s t) (h' : Extends time t u) : Extends time s u := by
  constructor
  · exact Nat.le_trans h.next h'.next
  · intro i hi
    rw [h'.resource i (Nat.lt_of_lt_of_le hi h.next), h.resource i hi]
  · intro i hi
    rw [h'.kept i ((isRtc_iff_of_lt h hi.1).mpr hi), h.kept i hi]
  · intro i hi hlt
    rcases Nat.lt_or_ge i t.nextResource with hold | hnew
    · rw [h'.resource i hold]
      exact h.created i hi hold
    · exact h'.created i hnew hlt
  · intro i hi hrtc
    rcases Nat.lt_or_ge i t.nextResource with hold | hnew
    · have hrtc' := (isRtc_iff_of_lt h' hold).mp hrtc
      rw [h'.kept i hrtc', h.fresh i hi hrtc']
    · exact h'.fresh i hnew hrtc

theorem extends_of_frame (hnext : t.nextResource = s.nextResource)
    (hresources : t.resources = s.resources)
    (hservice : ∀ sid, (t.sessionHeap sid).rtcService = (s.sessionHeap sid).rtcService)
    (hstamp : ∀ k i, ((t.rtcServices k).interfaces i).rtcStunTimestamp =
      ((s.rtcServices k).interfaces i).rtcStunTimestamp) : Extends time s t := by
  refine ⟨hnext.ge, fun i _ => congrFun hresources i, ?_, ?_, ?_⟩
  · intro i _
    rw [stunTime, stunTime, rtcInterface, rtcInterface, serviceOf, serviceOf, hservice, hstamp,
      hresources]
  · intro i hi hlt
    rw [hnext] at hlt
    exact absurd hlt (Nat.not_lt.mpr hi)
  · intro i hi hrtc
    have hlt := hrtc.1
    rw [hnext] at hlt
    exact absurd hlt (Nat.not_lt.mpr hi)

theorem Extends.refl (s : GbMediaService) : Extends time s s :=
  extends_of_frame rfl rfl (fun _ => rfl) (fun _ _ => rfl)

theorem extends_withSession {sid : SessionId} {f : Session → Session}
    (hf : (f (s.sessionHeap sid)).rtcService = (s.sessionHeap sid).rtcService) :
    Extends time s (s.withSession sid f) := by
  refine extends_of_frame rfl rfl ?_ (fun _ _ => rfl)
  intro sid'
  change (Function.update s.sessionHeap sid _ sid').rtcService = _
  rcases eq_or_ne sid' sid with rfl | hne
  · rw [Function.update_self, hf]
  · rw [Function.update_of_ne hne]

theorem extends_updateService {k : Nat} {service : RtcService}
    (hservice : ∀ i, (service.interfaces i).rtcStunTimestamp =
      ((s.rtcServices k).interfaces i).rtcStunTimestamp) :
    Extends time s { s with rtcServices := Function.update s.rtcServices k service } := by
  refine extends_of_frame rfl rfl (fun _ => rfl) ?_
  intro k' i
  change ((Function.update s.rtcServices k service k').interfaces i).rtcStunTimestamp = _
  rcases eq_or_ne k' k with rfl | hne
  · rw [Function.update_self, hservice]
  · rw [Function.update_of_ne hne]

theorem extends_newSession (h : s.Linked) (sessionName : CString) :
    Extends time s (s.newSession sessionName) := by
  refine ⟨Nat.le_refl _, fun _ _ => rfl, ?_, ?_, ?_⟩
  · intro i hi
    have hne : (s.resources i).session ≠ s.rtcServiceIndex := Nat.ne_of_lt (h.resource hi.1)
    simp only [stunTime, rtcInterface, serviceOf, newSession, Function.update_of_ne hne]
  · intro i hi hlt
    exact absurd hlt (Nat.not_lt.mpr hi)
  · intro i hi hrtc
    exact absurd hrtc.1 (Nat.not_lt.mpr hi)

theorem extends_createSession (h : s.Linked) {sessionName : CString} {sid : SessionId}
    (hcreate : s.createSession sessionName = (t, some sid)) : Extends time s t := by
  rcases createSession_of_some hcreate with ⟨_, rfl⟩ | ⟨_, _, rfl, _⟩
  · exact Extends.refl _
  · exact extends_newSession h sessionName

theorem extends_newResource {sid : SessionId} {type : ShareResourceType} {nowMs : Int}
    (htype : type ≠ .producerRtc ∧ type ≠ .consumerRtc) :
    Extends (some nowMs) s (s.newResource sid type nowMs) := by
  have hresource : ∀ i < s.nextResource,
      (s.newResource sid type nowMs).resources i = s.resources i := by
    intro i hi
    exact Function.update_of_ne (Nat.ne_of_lt hi) _ _
  refine ⟨Nat.le_succ _, hresource, ?_, ?_, ?_⟩
  · intro i hi
    rw [stunTime, stunTime, rtcInterface, rtcInterface, serviceOf, serviceOf, hresource i hi.1]
    rfl
  · intro i hi hlt
    obtain rfl := Nat.eq_of_le_of_lt_succ hi hlt
    rw [resources_newResource]
  · intro i hi hrtc
    obtain rfl := Nat.eq_of_le_of_lt_succ hi hrtc.1
    have hkind := hrtc.2
    rw [resources_newResource] at hkind
    exact absurd hkind (not_or.mpr htype)

theorem extends_newRtcResource {sid : SessionId} {type : ShareResourceType} {kind : RtcKind}
    {secrets : IceSecrets} {nowMs : Int} :
    Extends (some nowMs) s (s.newRtcResource sid type kind secrets nowMs) := by
  have hresource : ∀ i < s.nextResource,
      (s.newRtcResource sid type kind secrets nowMs).resources i = s.resources i := by
    intro i hi
    exact Function.update_of_ne (Nat.ne_of_lt hi) _ _
  have hservices : ∀ k i, i ≠ s.nextResource →
      ((s.newRtcResource sid type kind secrets nowMs).rtcServices k).interfaces i =
        (s.rtcServices k).interfaces i := by
    intro k i hne
    rw [rtcServices_newRtcResource]
    rcases eq_or_ne k (s.sessionHeap sid).rtcService with rfl | hk
    · rw [Function.update_self]
      exact if_neg hne
    · rw [Function.update_of_ne hk]
  refine ⟨Nat.le_succ _, hresource, ?_, ?_, ?_⟩
  · intro i hi
    rw [stunTime, stunTime, rtcInterface, rtcInterface, serviceOf, serviceOf, hresource i hi.1,
      hservices _ _ (Nat.ne_of_lt hi.1)]
    rfl
  · intro i hi hlt
    obtain rfl := Nat.eq_of_le_of_lt_succ hi hlt
    rw [resources_newRtcResource]
  · intro i hi hrtc
    obtain rfl := Nat.eq_of_le_of_lt_succ hi hrtc.1
    have hsession : ((s.newRtcResource sid type kind secrets nowMs).resources
        s.nextResource).session = sid := by
      rw [resources_newRtcResource]
    have hservice : ((s.newRtcResource sid type kind secrets nowMs).sessionHeap sid).rtcService =
        (s.sessionHeap sid).rtcService := rfl
    rw [stunTime, rtcInterface, serviceOf, hsession, hservice, rtcServices_newRtcResource,
      Function.update_self, RtcService.setInterface]
    dsimp only
    rw [if_pos rfl]

end Extension

section Steps

variable {s : GbMediaService}

theorem extends_register {time : Option Int} (sid : SessionId) (i : ResourceId) :
    Extends time s (s.registerRtcInterface sid i) :=
  extends_updateService fun _ => rfl

theorem extends_setProducer {time : Option Int} (sid : SessionId)
    (producer : Option ResourceId) : Extends time s (s.setProducer sid producer) :=
  extends_withSession rfl

theorem extends_addConsumer {time : Option Int} (sid : SessionId) (consumer : ResourceId) :
    Extends time s (s.addConsumer sid consumer) :=
  extends_withSession rfl

theorem extends_attachRtcProducer (sid : SessionId) (secrets : IceSecrets) (nowMs : Int) :
    Extends (some nowMs) s (s.attachRtcProducer sid secrets nowMs) :=
  extends_newRtcResource.trans (extends_setProducer sid _)

theorem extends_attachRtcConsumer (sid : SessionId) (secrets : IceSecrets) (nowMs : Int) :
    Extends (some nowMs) s (s.attachRtcConsumer sid secrets nowMs) :=
  extends_newRtcResource.trans (extends_addConsumer sid _)

theorem extends_closed {time : Option Int} (sessionName : CString) (sid : SessionId) :
    Extends time s (s.closed sessionName sid) := by
  rw [closed]
  refine Extends.trans ?_ (extends_withSession rfl)
  exact extends_of_frame rfl rfl (fun _ => rfl) fun _ _ => rfl

theorem extends_withdraw {time : Option Int} (sid : SessionId) (producer : Option ResourceId)
    (dropped : List ResourceId) : Extends time s (s.withdraw sid producer dropped) := by
  refine Extends.trans (extends_updateService ?_) (extends_withSession rfl)
  intro i
  rw [RtcService.interfaces_unregisterAll]

theorem extends_onDtls {time : Option Int} (i : ResourceId)
    (callback : RtcInterface.DtlsCallback) : Extends time s (s.onDtls i callback) := by
  have hcallback : ∀ x : RtcInterface,
      (x.onDtls callback).rtcStunTimestamp = x.rtcStunTimestamp := by
    intro x
    cases callback with
    | connected keys =>
        simp only [RtcInterface.onDtls, RtcInterface.onDtlsConnected]
        split <;> rfl
    | _ => rfl
  have hstored : Extends time s (s.withRtcService (s.resources i).session fun service =>
      service.setInterface i ((service.interfaces i).onDtls callback)) := by
    apply extends_updateService
    intro j
    change (if j = i then _ else _ : RtcInterface).rtcStunTimestamp = _
    split
    · rename_i hj
      rw [hcallback, hj]
    · rfl
  apply onDtls_rule (Extends.refl s)
  intro _
  exact ⟨hstored, hstored.trans (extends_of_frame rfl rfl (fun _ => rfl) fun _ _ => rfl)⟩

theorem extends_runTask {time : Option Int} : Extends time s s.runTask := by
  have hrest : ∀ rest, Extends time s { s with tasks := rest } :=
    fun _ => extends_of_frame rfl rfl (fun _ => rfl) fun _ _ => rfl
  apply runTask_rule (Extends.refl s) fun _ rest _ => hrest rest
  intro i rest _
  rw [dropConsumer_eq]
  exact ⟨(hrest rest).trans ((extends_register _ i).trans (extends_setProducer _ none)),
    (hrest rest).trans (extends_withdraw _ _ _)⟩

variable (h : s.Linked)

include h

theorem extends_handlerRtcProducer {Stun : Type*} (api : MediaApi Stun) (body : OfferBody)
    (secrets : IceSecrets) (nowMs : Int) :
    Extends (some nowMs) s (s.handlerRtcProducer api body secrets nowMs).1 := by
  apply handlerRtcProducer_rule api (Extends.refl s) h
  intro s' sessionName sid hcreate
  have hattached : Extends (some nowMs) s (s'.attachRtcProducer sid secrets nowMs) :=
    (extends_createSession h hcreate).trans (extends_attachRtcProducer sid secrets nowMs)
  exact ⟨hattached, hattached.trans (extends_register _ _)⟩

theorem extends_handlerRtcConsumer {Stun : Type*} (api : MediaApi Stun) (body : OfferBody)
    (secrets : IceSecrets) (nowMs : Int) :
    Extends (some nowMs) s (s.handlerRtcConsumer api body secrets nowMs).1 := by
  apply handlerRtcConsumer_rule api (Extends.refl s) h
  intro s' sessionName sid hcreate
  have hattached : Extends (some nowMs) s (s'.attachRtcConsumer sid secrets nowMs) :=
    (extends_createSession h hcreate).trans (extends_attachRtcConsumer sid secrets nowMs)
  exact ⟨hattached, hattached.trans (extends_register _ _)⟩

theorem extends_handlerFlvConsumer (path : CString) (secrets : IceSecrets) (nowMs : Int) :
    Extends (some nowMs) s (s.handlerFlvConsumer path secrets nowMs).1 := by
  apply handlerFlvConsumer_rule (Extends.refl s) h
  intro s' sessionName sid hcreate
  have hviewer : Extends (some nowMs) s' (s'.newResource sid .consumerFlv nowMs) :=
    extends_newResource (by decide)
  exact (extends_createSession h hcreate).trans (hviewer.trans (extends_addConsumer sid _))

theorem extends_handlerOpenRtpServer (body : RtpServerBody) (started : Bool)
    (secrets : IceSecrets) (nowMs : Int) :
    Extends (some nowMs) s (s.handlerOpenRtpServer body started secrets nowMs).1 := by
  apply handlerOpenRtpServer_rule (Extends.refl s) h
  intro s' sessionName sid hcreate
  have hsession : Extends (some nowMs) s s' := extends_createSession h hcreate
  have hproducer : Extends (some nowMs) s' ((s'.newResource sid .producerGB28181
      nowMs).setProducer sid (some s'.nextResource)) :=
    (extends_newResource (by decide)).trans (extends_setProducer sid _)
  exact ⟨hsession, hsession.trans (hproducer.trans
    (extends_of_frame rfl rfl (fun _ => rfl) fun _ _ => rfl))⟩

theorem extends_step {Stun : Type*} (api : MediaApi Stun) {input : Input}
    (hinput : ∀ k transport data addr nowMs, input ≠ .stun k transport data addr nowMs) :
    OnOk (Extends (inputTime input) s) (s.step api input) := by
  cases input with
  | push body secrets nowMs =>
      exact onOk_ok.mpr (extends_handlerRtcProducer h api body secrets nowMs)
  | play body secrets nowMs =>
      exact onOk_ok.mpr (extends_handlerRtcConsumer h api body secrets nowMs)
  | flv path secrets nowMs => exact onOk_ok.mpr (extends_handlerFlvConsumer h path secrets nowMs)
  | disconnect i =>
      exact onOk_ok.mpr (disconnect_rule (Extends.refl s) i (extends_withSession rfl))
  | openRtpServer body started secrets nowMs =>
      exact onOk_ok.mpr (extends_handlerOpenRtpServer h body started secrets nowMs)
  | closeRtpServer body =>
      exact onOk_map.mpr (onOk_handlerCloseRtpServer (Extends.refl s) body fun _ =>
        extends_closed _ _)
  | stun k transport data addr nowMs =>
      exact absurd rfl (hinput k transport data addr nowMs)
  | dtls i callback => exact onOk_ok.mpr (extends_onDtls i callback)
  | rtp k addr data media =>
      exact onOk_onRtp data media (Extends.refl s) fun _ _ =>
        extends_of_frame rfl rfl (fun _ => rfl) fun _ _ => rfl
  | tcp streamId images =>
      exact onOk_ok.mpr (onTcp_rule (Extends.refl s) streamId images fun _ _ =>
        extends_of_frame rfl rfl (fun _ => rfl) fun _ _ => rfl)
  | tick sid nowMs =>
      refine onOk_ok.mpr ?_
      rw [checkTimeOut_eq h]
      exact extends_withdraw _ _ _
  | worker => exact onOk_ok.mpr extends_runTask

end Steps

end GBServer.StunTimeouts
