import GBServer.EndpointTimes
import GBServer.SinglePublisher

/-!
The way of the frames through the media service: a run is observed together with the frames
that its sessions were given, those the worker thread has taken, and what each endpoint was
handed.
-/

namespace GBServer.MediaRelay

open Foundation.CStrings
open Foundation.Runs
open GBServer.GbMediaService
open GBServer.SinglePublisher
open GBServer.StunTimeouts

/-- The frames given to the sessions and those the worker thread has taken, in their order,
and the calls of `AddVideoFrame` and `AddAudioFrame` of consumers. -/
structure RelayLog where
  published : List Frame := []
  dispatched : List Frame := []
  handed : List (ResourceId × Media) := []

def dispatchedBy (s : GbMediaService) : Input → List Frame
  | .worker => (s.tasks.head?.bind frame?).toList
  | _ => []

/-- The loop over the `consumers_` of the frame's session. -/
def handedOut (s : GbMediaService) (frame : Frame) : List (ResourceId × Media) :=
  (s.sessionHeap frame.session).consumers.map (·, frame.media)

def noteRelay (s : GbMediaService) (log : RelayLog) (input : Input) : RelayLog where
  published := log.published ++ (frameTasks s input).filterMap frame?
  dispatched := log.dispatched ++ dispatchedBy s input
  handed := log.handed ++ (dispatchedBy s input).flatMap (handedOut s)

variable {Stun : Type*} (api : MediaApi Stun)

abbrev relaying : GbMediaService × RelayLog → Input → Except Foundation.Memory.Fault
    (GbMediaService × RelayLog) :=
  observeGuarded (step api) noteRelay

/-- The media among `frames` that belong to a session. -/
def ofSession (sid : SessionId) (frames : List Frame) : List Media :=
  (frames.filter (·.session = sid)).map Frame.media

/-- What an endpoint was handed. -/
def viewed (c : ResourceId) (log : RelayLog) : List Media :=
  (log.handed.filter (·.1 = c)).map Prod.snd

def pending (s : GbMediaService) : List Frame := s.tasks.filterMap frame?

/-- From `s` to `t` consumers may leave, and only endpoints that `s` does not know join. -/
structure Retains (s t : GbMediaService) : Prop where
  next : s.nextResource ≤ t.nextResource
  consumers : ∀ sid, ∀ c ∈ (t.sessionHeap sid).consumers,
    c ∈ (s.sessionHeap sid).consumers ∨ s.nextResource ≤ c
  nodup : ∀ sid, (s.sessionHeap sid).consumers.Nodup → (t.sessionHeap sid).consumers.Nodup

section Membership

variable {s t u : GbMediaService}

theorem Retains.trans (h : Retains s t) (h' : Retains t u) : Retains s u where
  next := Nat.le_trans h.next h'.next
  consumers sid c hc := by
    rcases h'.consumers sid c hc with hold | hnew
    · exact h.consumers sid c hold
    · exact Or.inr (Nat.le_trans h.next hnew)
  nodup sid hnodup := h'.nodup sid (h.nodup sid hnodup)

theorem retains_of_heap (hnext : s.nextResource ≤ t.nextResource)
    (hheap : t.sessionHeap = s.sessionHeap) : Retains s t where
  next := hnext
  consumers sid c hc := Or.inl (hheap ▸ hc)
  nodup sid hnodup := by rwa [hheap]

theorem Retains.refl (s : GbMediaService) : Retains s s := retains_of_heap (Nat.le_refl _) rfl

theorem sessionHeap_withSession_of_ne {sid sid' : SessionId} (f : Session → Session)
    (hne : sid' ≠ sid) : (s.withSession sid f).sessionHeap sid' = s.sessionHeap sid' :=
  Function.update_of_ne hne _ _

theorem retains_withSession {sid : SessionId} {f : Session → Session}
    (hf : List.Sublist (f (s.sessionHeap sid)).consumers (s.sessionHeap sid).consumers) :
    Retains s (s.withSession sid f) := by
  have hsublist : ∀ sid', List.Sublist ((s.withSession sid f).sessionHeap sid').consumers
      (s.sessionHeap sid').consumers := by
    intro sid'
    rcases eq_or_ne sid' sid with rfl | hne
    · rw [sessionHeap_withSession]
      exact hf
    · rw [sessionHeap_withSession_of_ne f hne]
  exact ⟨Nat.le_refl _, fun sid' c hc => Or.inl ((hsublist sid').subset hc),
    fun sid' hnodup => (hsublist sid').nodup hnodup⟩

theorem retains_addConsumer {sid : SessionId} {c : ResourceId} (h : Retains s t)
    (hc : s.nextResource ≤ c) : Retains s (t.addConsumer sid c) := by
  have hheap : ∀ sid', sid' ≠ sid →
      (t.addConsumer sid c).sessionHeap sid' = t.sessionHeap sid' := fun _ hne =>
    sessionHeap_withSession_of_ne _ hne
  have hsame : ((t.addConsumer sid c).sessionHeap sid).consumers =
      (t.sessionHeap sid).consumers.insert c := by
    rw [addConsumer, sessionHeap_withSession]
  refine ⟨h.next, fun sid' c' hc' => ?_, fun sid' hnodup => ?_⟩
  · rcases eq_or_ne sid' sid with rfl | hne
    · rw [hsame, List.mem_insert_iff] at hc'
      rcases hc' with rfl | hc'
      · exact Or.inr hc
      · exact h.consumers sid' c' hc'
    · rw [hheap sid' hne] at hc'
      exact h.consumers sid' c' hc'
  · rcases eq_or_ne sid' sid with rfl | hne
    · rw [hsame]
      exact (h.nodup sid' hnodup).insert
    · rw [hheap sid' hne]
      exact h.nodup sid' hnodup

theorem retains_createSession {sessionName : CString} {sid : SessionId}
    (hcreate : s.createSession sessionName = (t, some sid)) : Retains s t := by
  rcases createSession_of_some hcreate with ⟨_, rfl⟩ | ⟨_, _, rfl, _⟩
  · exact Retains.refl _
  · have hsublist : ∀ sid', List.Sublist ((s.newSession sessionName).sessionHeap sid').consumers
        (s.sessionHeap sid').consumers := by
      intro sid'
      rcases eq_or_ne sid' s.rtcServiceIndex with rfl | hne
      · simp only [newSession, Function.update_self]
        exact List.nil_sublist _
      · simp only [newSession, Function.update_of_ne hne]
        exact List.Sublist.refl _
    exact ⟨Nat.le_refl _, fun sid' c hc => Or.inl ((hsublist sid').subset hc),
      fun sid' hnodup => (hsublist sid').nodup hnodup⟩

theorem retains_withdraw (sid : SessionId) (producer : Option ResourceId)
    (dropped : List ResourceId) : Retains s (s.withdraw sid producer dropped) := by
  refine Retains.trans ?_ (retains_withSession List.filter_sublist)
  exact retains_of_heap (Nat.le_refl _) rfl

theorem retains_register (sid : SessionId) (i : ResourceId) :
    Retains s (s.registerRtcInterface sid i) :=
  retains_of_heap (Nat.le_refl _) rfl

theorem retains_closed (sessionName : CString) (sid : SessionId) :
    Retains s (s.closed sessionName sid) := by
  refine Retains.trans ?_ (retains_withSession (List.nil_sublist _))
  exact retains_of_heap (Nat.le_refl _) rfl

theorem retains_setProducer (sid : SessionId) (producer : Option ResourceId) :
    Retains s (s.setProducer sid producer) :=
  retains_withSession (List.Sublist.refl _)

theorem retains_runTask : Retains s s.runTask := by
  have hrest : ∀ rest, Retains s { s with tasks := rest } := fun _ =>
    retains_of_heap (Nat.le_refl _) rfl
  apply runTask_rule (Retains.refl s) fun _ rest _ => hrest rest
  intro i rest _
  rw [dropConsumer_eq]
  exact ⟨(hrest rest).trans ((retains_register _ i).trans (retains_setProducer _ none)),
    (hrest rest).trans (retains_withdraw _ _ _)⟩

variable (h : s.Linked)

include h

theorem retains_handlerRtcProducer (body : OfferBody) (secrets : IceSecrets) (nowMs : Int) :
    Retains s (s.handlerRtcProducer api body secrets nowMs).1 := by
  apply handlerRtcProducer_rule api (Retains.refl s) h
  intro s' sessionName sid hcreate
  have hcreated : Retains s' (s'.newRtcResource sid .producerRtc .producer secrets nowMs) :=
    retains_of_heap (Nat.le_succ _) rfl
  have hattached : Retains s (s'.attachRtcProducer sid secrets nowMs) :=
    (retains_createSession hcreate).trans (hcreated.trans (retains_setProducer sid _))
  exact ⟨hattached, hattached.trans (retains_register _ _)⟩

theorem retains_handlerRtcConsumer (body : OfferBody) (secrets : IceSecrets) (nowMs : Int) :
    Retains s (s.handlerRtcConsumer api body secrets nowMs).1 := by
  apply handlerRtcConsumer_rule api (Retains.refl s) h
  intro s' sessionName sid hcreate
  have hcreated : Retains s' (s'.newRtcResource sid .consumerRtc .consumer secrets nowMs) :=
    retains_of_heap (Nat.le_succ _) rfl
  have hattached : Retains s (s'.attachRtcConsumer sid secrets nowMs) :=
    (retains_createSession hcreate).trans (retains_addConsumer hcreated (Nat.le_refl _))
  exact ⟨hattached, hattached.trans (retains_register _ _)⟩

theorem retains_handlerFlvConsumer (path : CString) (secrets : IceSecrets) (nowMs : Int) :
    Retains s (s.handlerFlvConsumer path secrets nowMs).1 := by
  apply handlerFlvConsumer_rule (Retains.refl s) h
  intro s' sessionName sid hcreate
  have hcreated : Retains s' (s'.newResource sid .consumerFlv nowMs) :=
    retains_of_heap (Nat.le_succ _) rfl
  exact (retains_createSession hcreate).trans (retains_addConsumer hcreated (Nat.le_refl _))

theorem retains_handlerOpenRtpServer (body : RtpServerBody) (started : Bool)
    (secrets : IceSecrets) (nowMs : Int) :
    Retains s (s.handlerOpenRtpServer body started secrets nowMs).1 := by
  apply handlerOpenRtpServer_rule (Retains.refl s) h
  intro s' sessionName sid hcreate
  have hsession := retains_createSession hcreate
  have hcreated : Retains s' (s'.newResource sid .producerGB28181 nowMs) :=
    retains_of_heap (Nat.le_succ _) rfl
  have hproducer := hcreated.trans (retains_setProducer sid (some s'.nextResource))
  exact ⟨hsession, hsession.trans (hproducer.trans (retains_of_heap (Nat.le_refl _) rfl))⟩

theorem retains_step (input : Input) : OnOk (Retains s) (s.step api input) := by
  cases input with
  | push body secrets nowMs =>
      exact onOk_ok.mpr (retains_handlerRtcProducer api h body secrets nowMs)
  | play body secrets nowMs =>
      exact onOk_ok.mpr (retains_handlerRtcConsumer api h body secrets nowMs)
  | flv path secrets nowMs => exact onOk_ok.mpr (retains_handlerFlvConsumer h path secrets nowMs)
  | disconnect i =>
      exact onOk_ok.mpr (disconnect_rule (Retains.refl s) i
        (retains_withSession List.filter_sublist))
  | openRtpServer body started secrets nowMs =>
      exact onOk_ok.mpr (retains_handlerOpenRtpServer h body started secrets nowMs)
  | closeRtpServer body =>
      exact onOk_map.mpr (onOk_handlerCloseRtpServer (Retains.refl s) body fun _ =>
        retains_closed _ _)
  | stun k transport data addr nowMs =>
      exact onOk_ok.mpr (retains_of_heap (Nat.le_refl _) rfl)
  | dtls i callback =>
      refine onOk_ok.mpr (onDtls_rule (Retains.refl s) i callback fun _ => ?_)
      exact ⟨retains_of_heap (Nat.le_refl _) rfl, retains_of_heap (Nat.le_refl _) rfl⟩
  | rtp k addr data media =>
      exact onOk_onRtp data media (Retains.refl s) fun _ _ =>
        retains_of_heap (Nat.le_refl _) rfl
  | tcp streamId images =>
      exact onOk_ok.mpr (onTcp_rule (Retains.refl s) streamId images fun _ _ =>
        retains_of_heap (Nat.le_refl _) rfl)
  | tick sid nowMs =>
      refine onOk_ok.mpr ?_
      rw [checkTimeOut_eq h]
      exact retains_withdraw _ _ _
  | worker => exact onOk_ok.mpr retains_runTask

end Membership

section Step

variable {s t : GbMediaService} {input : Input} {log : RelayLog} {c : ResourceId}

@[simp] theorem ofSession_append (sid : SessionId) (front back : List Frame) :
    ofSession sid (front ++ back) = ofSession sid front ++ ofSession sid back := by
  rw [ofSession, List.filter_append, List.map_append]
  rfl

theorem ofSession_cons (sid : SessionId) (frame : Frame) (rest : List Frame) :
    ofSession sid (frame :: rest) =
      (if frame.session = sid then [frame.media] else []) ++ ofSession sid rest := by
  rw [ofSession, List.filter_cons]
  by_cases hsession : frame.session = sid
  · simp [hsession, ofSession]
  · simp [hsession, ofSession]

theorem filterMap_endTasks (s : GbMediaService) (input : Input) :
    (endTasks s input).filterMap frame? = [] := by
  cases input with
  | dtls i callback =>
      rw [endTasks]
      split <;> rfl
  | _ => rfl

theorem dispatchedBy_append_waiting (s : GbMediaService) (input : Input) :
    dispatchedBy s input ++ (waiting s input).filterMap frame? = pending s := by
  cases input with
  | worker =>
      rw [dispatchedBy, waiting, pending]
      cases htasks : s.tasks with
      | nil => rfl
      | cons task rest =>
          cases task with
          | addFrame session origin media => rfl
          | dtlsEnded i => rfl
  | _ => rfl

theorem pending_step (h : s.Linked) (hstep : s.step api input = .ok t) :
    dispatchedBy s input ++ pending t =
      pending s ++ (frameTasks s input).filterMap frame? := by
  rw [pending, tasks_step api h input t hstep, List.filterMap_append, List.filterMap_append,
    filterMap_endTasks, List.append_nil, ← List.append_assoc, dispatchedBy_append_waiting]

theorem resources_step (h : s.Linked) (hstep : s.step api input = .ok t) {i : ResourceId}
    (hi : i < s.nextResource) : t.resources i = s.resources i := by
  by_cases hstun : ∀ k transport data addr nowMs, input ≠ .stun k transport data addr nowMs
  · exact (extends_step h api hstun t hstep).resource i hi
  · push Not at hstun
    obtain ⟨k, transport, data, addr, nowMs, rfl⟩ := hstun
    obtain rfl := Except.ok.inj hstep
    rfl

theorem viewed_handedOut {frame : Frame}
    (hnodup : (s.sessionHeap frame.session).consumers.Nodup) :
    ((handedOut s frame).filter (·.1 = c)).map Prod.snd =
      if c ∈ (s.sessionHeap frame.session).consumers then [frame.media] else [] := by
  rw [handedOut, List.filter_map, List.map_map]
  change ((s.sessionHeap frame.session).consumers.filter fun i => decide (i = c)).map
    (fun _ => frame.media) = _
  split
  · rename_i hmem
    rw [List.filter_eq, List.count_eq_one_of_mem hnodup hmem]
    rfl
  · rename_i hnot
    rw [List.filter_eq, List.count_eq_zero_of_not_mem hnot]
    rfl

/-- An endpoint is handed the frames of its session, while it is one of the consumers. -/
theorem viewed_noteRelay (h : s.Linked) (hnodup : ∀ sid, (s.sessionHeap sid).consumers.Nodup) :
    viewed c (noteRelay s log input) = viewed c log ++
      if c ∈ (s.sessionHeap (s.resources c).session).consumers then
        ofSession (s.resources c).session (dispatchedBy s input)
      else [] := by
  have hmember : ∀ frame : Frame, c ∈ (s.sessionHeap frame.session).consumers →
      frame.session = (s.resources c).session := fun frame hc => (h.consumer hc).1.session.symm
  rw [viewed, noteRelay, List.filter_append, List.map_append]
  refine congrArg _ ?_
  induction dispatchedBy s input with
  | nil =>
      split <;> rfl
  | cons frame rest ih =>
      rw [List.flatMap_cons, List.filter_append, List.map_append, viewed_handedOut (hnodup _), ih,
        ofSession_cons]
      by_cases hsession : frame.session = (s.resources c).session
      · rw [hsession, if_pos rfl]
        split <;> rfl
      · have hother : c ∉ (s.sessionHeap frame.session).consumers := fun hc =>
          hsession (hmember frame hc)
        rw [if_neg hother, if_neg hsession]
        rfl

end Step

/-- What every endpoint was handed is a stretch of what its session gave out, up to the
last frame if the endpoint is still a consumer. -/
structure InStretches (p : GbMediaService × RelayLog) : Prop where
  linked : p.1.Linked
  nodup : ∀ sid, (p.1.sessionHeap sid).consumers.Nodup
  queue : p.2.published = p.2.dispatched ++ pending p.1
  unborn : ∀ c, p.1.nextResource ≤ c → viewed c p.2 = []
  joined : ∀ c, c ∈ (p.1.sessionHeap (p.1.resources c).session).consumers →
    viewed c p.2 <:+ ofSession (p.1.resources c).session p.2.dispatched
  ever : ∀ c, viewed c p.2 <:+: ofSession (p.1.resources c).session p.2.dispatched

section Runs

variable {p q : GbMediaService × RelayLog} {input : Input}

theorem relaying_eq_ok (h : relaying api p input = .ok q) :
    p.1.step api input = .ok q.1 ∧ q.2 = noteRelay p.1 p.2 input := by
  rw [relaying, observeGuarded] at h
  cases hstep : p.1.step api input with
  | error e =>
      rw [hstep] at h
      cases h
  | ok t =>
      rw [hstep] at h
      obtain rfl := Except.ok.inj h
      exact ⟨rfl, rfl⟩

theorem inStretches_startup (config : ServerConfig) :
    InStretches (startup config, {}) where
  linked := linked_startup config
  nodup _ := List.nodup_nil
  queue := rfl
  unborn _ _ := rfl
  joined _ _ := List.nil_suffix
  ever _ := List.nil_infix

/-- Whoever is a consumer after a step was one before, or is new. -/
theorem InStretches.step (hp : InStretches p) (hrelay : relaying api p input = .ok q) :
    InStretches q := by
  obtain ⟨s, log⟩ := p
  obtain ⟨t, log'⟩ := q
  obtain ⟨hlinked, hnodup, hqueue, hunborn, hjoined, hever⟩ := hp
  obtain ⟨hstep, hlog⟩ := relaying_eq_ok api hrelay
  clear hrelay
  dsimp only at hstep hlog hlinked hnodup hqueue hunborn hjoined hever
  subst hlog
  have hlinked' : t.Linked := hlinked.step api input t hstep
  have hretains : Retains s t := retains_step api hlinked input t hstep
  have hkept : ∀ {c}, c < s.nextResource → t.resources c = s.resources c :=
    fun hc => resources_step api hlinked hstep hc
  have hviewed : ∀ c, viewed c (noteRelay s log input) = viewed c log ++
      if c ∈ (s.sessionHeap (s.resources c).session).consumers then
        ofSession (s.resources c).session (dispatchedBy s input)
      else [] := fun c => viewed_noteRelay hlinked hnodup
  have hfresh : ∀ c, s.nextResource ≤ c → viewed c (noteRelay s log input) = [] := by
    intro c hc
    have hnot : c ∉ (s.sessionHeap (s.resources c).session).consumers := fun hmem =>
      absurd (hlinked.consumer hmem).1.created (Nat.not_lt.mpr hc)
    rw [hviewed, hunborn c hc, if_neg hnot, List.append_nil]
  have hdispatched : ∀ sid, ofSession sid (noteRelay s log input).dispatched =
      ofSession sid log.dispatched ++ ofSession sid (dispatchedBy s input) := fun sid =>
    ofSession_append sid _ _
  have hever' : ∀ c, viewed c (noteRelay s log input) <:+:
      ofSession (s.resources c).session (noteRelay s log input).dispatched := by
    intro c
    rw [hviewed, hdispatched]
    split
    · rename_i hmem
      obtain ⟨front, hfront⟩ := hjoined c hmem
      exact ⟨front, [], by rw [List.append_nil, ← List.append_assoc, hfront]⟩
    · rw [List.append_nil]
      obtain ⟨front, back, hsegment⟩ := hever c
      exact ⟨front, back ++ ofSession _ (dispatchedBy s input), by
        rw [← List.append_assoc, hsegment]⟩
  refine ⟨hlinked', fun sid => hretains.nodup sid (hnodup sid), ?_, ?_, ?_, ?_⟩
  · change log.published ++ _ = log.dispatched ++ _ ++ _
    rw [List.append_assoc, pending_step api hlinked hstep, ← List.append_assoc, ← hqueue]
  · exact fun c hc => hfresh c (Nat.le_trans hretains.next hc)
  · intro c hc
    rcases Nat.lt_or_ge c s.nextResource with hold | hnew
    · rw [hkept hold] at hc ⊢
      have hbefore : c ∈ (s.sessionHeap (s.resources c).session).consumers := by
        rcases hretains.consumers _ c hc with hmem | hfresh
        · exact hmem
        · exact absurd hold (Nat.not_lt.mpr hfresh)
      obtain ⟨front, hfront⟩ := hjoined c hbefore
      rw [hviewed, if_pos hbefore, hdispatched]
      exact ⟨front, by rw [← List.append_assoc, hfront]⟩
    · rw [hfresh c hnew]
      exact List.nil_suffix
  · intro c
    rcases Nat.lt_or_ge c s.nextResource with hold | hnew
    · rw [hkept hold]
      exact hever' c
    · rw [hfresh c hnew]
      exact List.nil_infix

theorem inStretches_run (config : ServerConfig) (inputs : List Input) :
    OnOk InStretches (run (guarded (relaying api)) (.ok (startup config, {})) inputs) :=
  onOk_run (inStretches_startup config) (fun _ _ hp _ hstep => hp.step api hstep) inputs

/-- In every run of the media service, what an endpoint is handed is a stretch of the frames
its own session was given, in their order and without a gap or a repetition; and for as long
as it is a consumer, the frames that wait are the next of that stretch and the last there
are. -/
theorem viewed_isInfix (config : ServerConfig) (inputs : List Input) :
    OnOk (fun p => ∀ c,
      viewed c p.2 <:+: ofSession (p.1.resources c).session p.2.published ∧
        (c ∈ (p.1.sessionHeap (p.1.resources c).session).consumers →
          viewed c p.2 ++ ofSession (p.1.resources c).session (pending p.1) <:+
            ofSession (p.1.resources c).session p.2.published))
      (run (guarded (relaying api)) (.ok (startup config, {})) inputs) := by
  intro p hrun c
  have hp := inStretches_run api config inputs p hrun
  rw [hp.queue, ofSession_append]
  refine ⟨?_, fun hmem => ?_⟩
  · obtain ⟨front, back, hsegment⟩ := hp.ever c
    exact ⟨front, back ++ _, by rw [← List.append_assoc, hsegment]⟩
  · obtain ⟨front, hfront⟩ := hp.joined c hmem
    exact ⟨front, by rw [← List.append_assoc, hfront]⟩

/-- The endpoint is a consumer of the session whenever an input of `inputs` arrives. -/
def Stays (sid : SessionId) (c : ResourceId) (p : Except Foundation.Memory.Fault
    (GbMediaService × RelayLog)) (inputs : List Input) : Prop :=
  Admitted (guarded (relaying api))
    (fun p _ => OnOk (fun p => c ∈ (p.1.sessionHeap sid).consumers) p) p inputs

/-- From `p` to `q` the session has been given `new` and the endpoint has been handed `seen`,
which is what waited and `new`, but for what waits now. -/
def Conserved (sid : SessionId) (c : ResourceId) (p q : GbMediaService × RelayLog) : Prop :=
  ∃ seen new, viewed c q.2 = viewed c p.2 ++ seen ∧
    ofSession sid q.2.published = ofSession sid p.2.published ++ new ∧
    seen ++ ofSession sid (pending q.1) = ofSession sid (pending p.1) ++ new

theorem conserved_relaying (hp : InStretches p) (hrelay : relaying api p input = .ok q)
    {sid : SessionId} {c : ResourceId} (hc : c ∈ (p.1.sessionHeap sid).consumers) :
    Conserved sid c p q := by
  obtain ⟨hstep, hlog⟩ := relaying_eq_ok api hrelay
  obtain rfl := (hp.linked.consumer hc).1.session
  refine ⟨ofSession (p.1.resources c).session (dispatchedBy p.1 input),
    ofSession (p.1.resources c).session ((frameTasks p.1 input).filterMap frame?), ?_, ?_, ?_⟩
  · rw [hlog, viewed_noteRelay hp.linked hp.nodup, if_pos hc]
  · rw [hlog]
    exact ofSession_append _ _ _
  · rw [← ofSession_append, pending_step api hp.linked hstep, ofSession_append]

theorem Conserved.trans {sid : SessionId} {c : ResourceId} {r : GbMediaService × RelayLog}
    (h : Conserved sid c p q) (h' : Conserved sid c q r) : Conserved sid c p r := by
  obtain ⟨seen, new, hviewed, hpublished, hpending⟩ := h
  obtain ⟨seen', new', hviewed', hpublished', hpending'⟩ := h'
  refine ⟨seen ++ seen', new ++ new', ?_, ?_, ?_⟩
  · rw [hviewed', hviewed, List.append_assoc]
  · rw [hpublished', hpublished, List.append_assoc]
  · rw [List.append_assoc, hpending', ← List.append_assoc, hpending, List.append_assoc]

theorem conserved_run (hp : InStretches p) {sid : SessionId} {c : ResourceId}
    {inputs : List Input} (hstay : Stays api sid c (.ok p) inputs)
    (hrun : run (guarded (relaying api)) (.ok p) inputs = .ok q) : Conserved sid c p q := by
  induction inputs generalizing p with
  | nil =>
      obtain rfl := Except.ok.inj hrun
      exact ⟨[], [], (List.append_nil _).symm, (List.append_nil _).symm,
        (List.append_nil _).symm⟩
  | cons input rest ih =>
      rw [run_cons, guarded_ok] at hrun
      obtain ⟨hfirst, hrest⟩ := admitted_cons.mp hstay
      cases hrelay : relaying api p input with
      | error e =>
          rw [hrelay, run_guarded_error] at hrun
          cases hrun
      | ok r =>
          rw [hrelay] at hrun
          rw [guarded_ok, hrelay] at hrest
          exact (conserved_relaying api hp hrelay (hfirst p rfl)).trans
            (ih (hp.step api hrelay) hrest hrun)

/-- While an endpoint stays a consumer it is handed, in order and once each, the frames
that waited for its session when the stay began and those that came since, but for the
ones that still wait. -/
theorem viewed_conserved (config : ServerConfig) (before during : List Input) (sid : SessionId)
    (c : ResourceId)
    (hstay : Stays api sid c
      (run (guarded (relaying api)) (.ok (startup config, {})) before) during) :
    OnOk (fun p => OnOk (Conserved sid c p) (run (guarded (relaying api)) (.ok p) during))
      (run (guarded (relaying api)) (.ok (startup config, {})) before) := by
  intro p hp q hq
  rw [hp] at hstay
  exact conserved_run api (inStretches_run api config before p hp) hstay hq

/-- A stream that is opened for a device, and a viewer. -/
def watching : List Input :=
  [.openRtpServer (.request 1 (ascii "cam")) true ⟨fun _ => "zz", "secret"⟩ 0,
    samplePlay "aa" 0]

/-- Three frames, of which the worker thread takes two. -/
def relayed : List Input := [.tcp (ascii "live/cam") [[1], [2], [3]], .worker, .worker]

theorem viewed_conserved_of_relayed :
    OnOk (fun p => OnOk (Conserved 0 1 p) (run (guarded (relaying sampleApi)) (.ok p) relayed))
      (run (guarded (relaying sampleApi)) (.ok (startup sampleConfig, {})) watching) := by
  refine viewed_conserved sampleApi sampleConfig watching relayed 0 1 ?_
  refine admitted_cons.mpr ⟨?_, admitted_cons.mpr ⟨?_, admitted_cons.mpr ⟨?_, admitted_nil⟩⟩⟩
  all_goals
    intro p hp
    obtain rfl := Except.ok.inj hp
    decide

/-- The viewer is handed two of the three frames, and the third one waits. -/
example :
    (run (guarded (relaying sampleApi)) (.ok (startup sampleConfig, {})) (watching ++ relayed)).map
      (fun p => (viewed 1 p.2, (pending p.1).map Frame.media)) =
        .ok ([.video [1], .video [2]], [.video [3]]) :=
  rfl

end Runs

end GBServer.MediaRelay
