import GBServer.MediaRuns

namespace GBServer

open Foundation.CStrings
open Foundation.Runs
open GBServer.SessionName

namespace GbMediaService

def IsFlvViewer (s : GbMediaService) (i : ResourceId) : Prop :=
  (s.resources i).type = .consumerFlv ∧ ∃ sid, i ∈ (s.sessionHeap sid).consumers

def NoNewViewer (s t : GbMediaService) : Prop := ∀ i, t.IsFlvViewer i → s.IsFlvViewer i

/-- The inputs that do not come from a connection of the HTTP server or of a stream. -/
def isConnectionless : Input → Bool
  | .stun .. | .dtls .. | .rtp .. | .tick .. => true
  | _ => false

section Viewers

variable {s t : GbMediaService}

theorem NoNewViewer.refl (s : GbMediaService) : NoNewViewer s s := fun _ hi => hi

theorem NoNewViewer.trans {u : GbMediaService} (h : NoNewViewer s t) (h' : NoNewViewer t u) :
    NoNewViewer s u :=
  fun i hi => h i (h' i hi)

theorem noNewViewer_of_subset (hresources : t.resources = s.resources)
    (hconsumers : ∀ sid, (t.sessionHeap sid).consumers ⊆ (s.sessionHeap sid).consumers) :
    NoNewViewer s t := by
  rintro i ⟨htype, sid, hmem⟩
  exact ⟨hresources ▸ htype, sid, hconsumers sid hmem⟩

theorem noNewViewer_of_eq (hresources : t.resources = s.resources)
    (hheap : t.sessionHeap = s.sessionHeap) : NoNewViewer s t :=
  noNewViewer_of_subset hresources fun _ => by rw [hheap]; exact List.Subset.refl _

theorem noNewViewer_withSession (s : GbMediaService) {sid : SessionId} {f : Session → Session}
    (hconsumers : (f (s.sessionHeap sid)).consumers ⊆ (s.sessionHeap sid).consumers) :
    NoNewViewer s (s.withSession sid f) := by
  refine noNewViewer_of_subset rfl ?_
  intro sid'
  change (Function.update s.sessionHeap sid _ sid').consumers ⊆ _
  rcases eq_or_ne sid' sid with rfl | hne
  · rw [Function.update_self]
    exact hconsumers
  · rw [Function.update_of_ne hne]
    exact List.Subset.refl _

theorem noNewViewer_setProducer (s : GbMediaService) (sid : SessionId)
    (producer : Option ResourceId) : NoNewViewer s (s.setProducer sid producer) :=
  noNewViewer_withSession s (List.Subset.refl _)

theorem noNewViewer_removeConsumer (s : GbMediaService) (sid : SessionId) (i : ResourceId) :
    NoNewViewer s (s.removeConsumer sid i) :=
  noNewViewer_withSession s fun _ hmem => List.mem_of_mem_filter hmem

theorem noNewViewer_closed (s : GbMediaService) (sessionName : CString) (sid : SessionId) :
    NoNewViewer s (s.closed sessionName sid) :=
  noNewViewer_withSession { s with sessions := s.sessions.erase sessionName }
    (List.nil_subset _)

theorem IsFlvViewer.of_addConsumer {sid : SessionId} {consumer i : ResourceId}
    (hi : (s.addConsumer sid consumer).IsFlvViewer i) :
    s.IsFlvViewer i ∨ i = consumer ∧ (s.resources consumer).type = .consumerFlv := by
  obtain ⟨htype, sid', hmem⟩ := hi
  change i ∈ (Function.update s.sessionHeap sid _ sid').consumers at hmem
  rcases eq_or_ne sid' sid with rfl | hne
  · rw [Function.update_self] at hmem
    rcases List.mem_insert_iff.mp hmem with rfl | hmem
    · exact .inr ⟨rfl, htype⟩
    · exact .inl ⟨htype, sid', hmem⟩
  · rw [Function.update_of_ne hne] at hmem
    exact .inl ⟨htype, sid', hmem⟩

theorem noNewViewer_createSession {sessionName : CString} {found : Option SessionId}
    (hcreate : s.createSession sessionName = (t, found)) : NoNewViewer s t := by
  have hnew : NoNewViewer s (s.newSession sessionName) := by
    refine noNewViewer_of_subset rfl ?_
    intro sid
    change (Function.update s.sessionHeap s.rtcServiceIndex _ sid).consumers ⊆ _
    rcases eq_or_ne sid s.rtcServiceIndex with rfl | hne
    · rw [Function.update_self]
      exact List.nil_subset _
    · rw [Function.update_of_ne hne]
      exact List.Subset.refl _
  cases found with
  | none =>
      obtain ⟨_, _, rfl⟩ := createSession_of_none hcreate
      exact .refl _
  | some sid =>
      rcases createSession_of_some hcreate with ⟨_, rfl⟩ | ⟨_, _, rfl, _⟩
      · exact .refl _
      · exact hnew

section Linked

variable (h : s.Linked)

include h

theorem noNewViewer_newResource (sid : SessionId) (type : ShareResourceType) (nowMs : Int) :
    NoNewViewer s (s.newResource sid type nowMs) := by
  rintro i ⟨htype, sid', hmem⟩
  have hlt : i < s.nextResource := (h.consumer hmem).1.created
  refine ⟨?_, sid', hmem⟩
  rw [← htype]
  exact congrArg ShareResource.type (Function.update_of_ne (Nat.ne_of_lt hlt) _ _).symm

theorem noNewViewer_attachRtcProducer (sid : SessionId) (secrets : IceSecrets) (nowMs : Int) :
    NoNewViewer s (s.attachRtcProducer sid secrets nowMs) :=
  (noNewViewer_newResource h sid .producerRtc nowMs).trans
    ((noNewViewer_of_eq rfl rfl).trans (noNewViewer_setProducer _ sid _))

theorem noNewViewer_attachRtcConsumer (sid : SessionId) (secrets : IceSecrets) (nowMs : Int) :
    NoNewViewer s (s.attachRtcConsumer sid secrets nowMs) := by
  intro i hi
  rcases hi.of_addConsumer with hi | ⟨_, htype⟩
  · exact noNewViewer_newResource h sid .consumerRtc nowMs i (noNewViewer_of_eq rfl rfl i hi)
  · rw [resources_newRtcResource] at htype
    contradiction

theorem noNewViewer_openedRtpServer (sessionName : CString) (sid : SessionId) (started : Bool)
    (nowMs : Int) : NoNewViewer s (s.openedRtpServer sessionName sid started nowMs) :=
  (noNewViewer_newResource h sid .producerGB28181 nowMs).trans
    ((noNewViewer_setProducer _ sid (some s.nextResource)).trans (noNewViewer_of_eq rfl rfl))

end Linked

theorem noNewViewer_registerRtcInterface (s : GbMediaService) (sid : SessionId)
    (i : ResourceId) : NoNewViewer s (s.registerRtcInterface sid i) :=
  noNewViewer_of_eq rfl rfl

theorem noNewViewer_dropConsumer (s : GbMediaService) (sid : SessionId) (i : ResourceId) :
    NoNewViewer s (dropConsumer sid s i) :=
  NoNewViewer.trans (t := s.unregisterRtcInterface sid i) (noNewViewer_of_eq rfl rfl)
    (noNewViewer_removeConsumer _ sid i)

theorem noNewViewer_checkTimeOut (s : GbMediaService) (sid : SessionId) (nowMs : Int) :
    NoNewViewer s (s.checkTimeOut sid nowMs) := by
  have hfold : ∀ (dropped : List ResourceId) (s : GbMediaService),
      NoNewViewer s (dropped.foldl (dropConsumer sid) s) := by
    intro dropped
    induction dropped with
    | nil => exact .refl
    | cons c rest ih => exact fun s => (noNewViewer_dropConsumer s sid c).trans (ih _)
  rw [checkTimeOut]
  split
  · rename_i p _
    refine NoNewViewer.trans (t := s.dropProducer sid p) ?_ (hfold _ _)
    exact NoNewViewer.trans (t := s.unregisterRtcInterface sid p) (noNewViewer_of_eq rfl rfl)
      (noNewViewer_setProducer _ sid none)
  · exact hfold _ _

theorem noNewViewer_runTask (s : GbMediaService) : NoNewViewer s s.runTask := by
  refine runTask_rule (.refl s) (fun _ _ _ => noNewViewer_of_eq rfl rfl) ?_
  intro i rest _
  have hrest : NoNewViewer s { s with tasks := rest } := noNewViewer_of_eq rfl rfl
  constructor
  · exact hrest.trans ((noNewViewer_registerRtcInterface _ _ i).trans
      (noNewViewer_setProducer _ _ none))
  · exact hrest.trans (noNewViewer_dropConsumer _ _ i)

theorem noNewViewer_onTcp (s : GbMediaService) (streamId : CString)
    (images : List (List UInt8)) : NoNewViewer s (s.onTcp streamId images) :=
  onTcp_rule (.refl s) streamId images fun _ _ => noNewViewer_of_eq rfl rfl

theorem noNewViewer_onDestroy (s : GbMediaService) (i : ResourceId) :
    NoNewViewer s (s.onDestroy i) :=
  onDestroy_rule (.refl s) i (noNewViewer_removeConsumer s _ i)

theorem noNewViewer_step {Stun : Type*} (api : MediaApi Stun) {input : Input}
    (hinput : isConnectionless input = true) : OnOk (NoNewViewer s) (s.step api input) := by
  cases input with
  | stun k transport data addr nowMs => exact onOk_ok.mpr (noNewViewer_of_eq rfl rfl)
  | dtls i callback =>
      refine onOk_ok.mpr (onDtls_rule (.refl s) i callback fun _ => ?_)
      exact ⟨noNewViewer_of_eq rfl rfl, noNewViewer_of_eq rfl rfl⟩
  | rtp k addr data media =>
      exact onOk_onRtp data media (.refl s) fun _ _ => noNewViewer_of_eq rfl rfl
  | tick sid nowMs => exact onOk_ok.mpr (noNewViewer_checkTimeOut s sid nowMs)
  | _ => contradiction

theorem Linked.not_isFlvViewer_onDestroy (h : s.Linked) (i : ResourceId) :
    ¬ (s.onDestroy i).IsFlvViewer i := by
  rintro hi
  have hflv : (s.resources i).type = .consumerFlv := (noNewViewer_onDestroy s i i hi).1
  rw [onDestroy, hflv] at hi
  obtain ⟨_, sid, hmem⟩ := hi
  change i ∈ (Function.update s.sessionHeap (s.resources i).session _ sid).consumers at hmem
  rcases eq_or_ne sid (s.resources i).session with rfl | hne
  · rw [Function.update_self] at hmem
    simp at hmem
  · rw [Function.update_of_ne hne] at hmem
    exact hne (h.consumer hmem).1.session.symm

end Viewers

end GbMediaService

end GBServer
