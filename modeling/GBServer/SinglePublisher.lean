import GBServer.MediaRuns

/-!
One publisher for each session: a run of the media service is observed together with the
producer that the session had when each frame was received, and with what the end of a
producer did to its session.
-/

namespace GBServer.SinglePublisher

open Foundation.CStrings
open Foundation.Memory
open Foundation.Runs
open GBServer.SessionName
open GBServer.GbMediaService

/-- A frame given to `AddVideoFrame` or `AddAudioFrame` of a session. -/
structure Frame where
  session : SessionId
  origin : ResourceId
  media : Media
  deriving DecidableEq, Repr

/-- A frame, and `producer_` of its session when it was received. -/
structure Reception where
  frame : Frame
  producer : Option ResourceId
  deriving DecidableEq, Repr

/-- The end of a producer, and `producer_` of its session before and after. -/
structure Ending where
  ended : ResourceId
  before : Option ResourceId
  after : Option ResourceId
  deriving DecidableEq, Repr

/-- The frames in the order of their reception, those that the worker thread has handed
to the consumers and those that wait for it, and the producers that have ended. -/
structure Journal where
  dispatched : List Reception := []
  queued : List Reception := []
  endings : List Ending := []

def frame? : Task → Option Frame
  | .addFrame session origin media => some ⟨session, origin, media⟩
  | .dtlsEnded _ => none

/-- The tasks that are there already when a step posts its own. -/
def waiting (s : GbMediaService) : Input → List Task
  | .worker => s.tasks.tail
  | _ => s.tasks

def producerOf (s : GbMediaService) (i : ResourceId) : Option ResourceId :=
  (s.sessionHeap (s.resources i).session).producer

/-- The frames that the step from `s` to `t` has posted. -/
def receptions (s t : GbMediaService) (input : Input) : List Reception :=
  ((t.tasks.drop (waiting s input).length).filterMap frame?).map fun frame =>
    ⟨frame, (s.sessionHeap frame.session).producer⟩

/-- The producer that comes to its end: its DTLS association has closed or failed, it has
timed out, or its session is closed. -/
def endedBy (s : GbMediaService) : Input → Option ResourceId
  | .worker =>
      match s.tasks with
      | .dtlsEnded i :: _ => if (s.resources i).type = .producerRtc then some i else none
      | _ => none
  | .tick sid nowMs => s.producerTimedOut sid nowMs
  | .closeRtpServer (.request _ streamId) =>
      (s.sessions[getSessionNameFromUrl (gb28181Url streamId)]?).bind fun sid =>
        (s.sessionHeap sid).producer
  | _ => none

/-- The worker thread hands the oldest frame to the consumers. -/
def Journal.dispatch (j : Journal) (s : GbMediaService) : Input → Journal
  | .worker =>
      match s.tasks with
      | .addFrame _ _ _ :: _ =>
          { j with dispatched := j.dispatched ++ j.queued.take 1, queued := j.queued.tail }
      | _ => j
  | _ => j

def Journal.record (j : Journal) (s t : GbMediaService) (input : Input) : Journal :=
  let j := j.dispatch s input
  { j with
    queued := j.queued ++ receptions s t input
    endings := j.endings ++ (endedBy s input).toList.map fun i =>
      ⟨i, producerOf s i, (t.sessionHeap (s.resources i).session).producer⟩ }

variable {Stun : Type*} (api : MediaApi Stun)

def note (s : GbMediaService) (j : Journal) (input : Input) : Journal :=
  match s.step api input with
  | .ok t => j.record s t input
  | .error _ => j

/-- Every frame comes from the producer that its session had when it was received, and the
end of a producer that is not that of its session changes nothing there. -/
structure SinglySourced (p : GbMediaService × Journal) : Prop where
  frames : ∀ r ∈ p.2.dispatched ++ p.2.queued, r.producer = some r.frame.origin
  endings : ∀ e ∈ p.2.endings, e.before ≠ some e.ended → e.after = e.before

/-- The producer that a packet reaches, and the media that the packet completes. -/
def frameSource (s : GbMediaService) : Input → Option (ResourceId × List Media)
  | .rtp k addr data media =>
      ((s.rtcServices k).onRtp data addr).bind fun (i, _) =>
        let x := (s.rtcServices k).interfaces i
        if x.kind = .producer ∧ x.srtpRecvSession.isSome then some (i, media) else none
  | .tcp streamId images =>
      ((s.rtpServer[streamId]?).bind TcpServer.context).map fun i => (i, images.map .video)
  | _ => none

/-- A packet that completes a frame reaches the producer of its session, and a producer
that ends is that of its session unless the session has none. -/
structure FromCurrent (s : GbMediaService) (input : Input) : Prop where
  source : ∀ {i media}, frameSource s input = some (i, media) → media ≠ [] →
    producerOf s i = some i
  ending : ∀ {i}, endedBy s input = some i → producerOf s i = some i ∨ producerOf s i = none

def frameTasks (s : GbMediaService) (input : Input) : List Task :=
  match frameSource s input with
  | some (i, media) => media.map (.addFrame (s.resources i).session i)
  | none => []

def endTasks (s : GbMediaService) : Input → List Task
  | .dtls i callback =>
      if s.IsRtc i ∧ (callback = .closed ∨ callback = .failed) then [.dtlsEnded i] else []
  | _ => []

section Tasks

variable {s : GbMediaService}

theorem tasks_onTcp (streamId : CString) (images : List (List UInt8)) :
    (s.onTcp streamId images).tasks = s.tasks ++ frameTasks s (.tcp streamId images) := by
  rw [onTcp]
  cases hserver : s.rtpServer[streamId]? with
  | none => simp [frameTasks, frameSource, hserver]
  | some server =>
      cases hcontext : server.context with
      | none => simp [frameTasks, frameSource, hserver, hcontext]
      | some producer =>
          simp [frameTasks, frameSource, hserver, hcontext, addFrames, post]

theorem tasks_onRtp (k : Nat) (addr : SocketAddress) (data : List UInt8)
    (media : List Media) :
    OnOk (fun t => t.tasks = s.tasks ++ frameTasks s (.rtp k addr data media))
      (s.onRtp k addr data media) := by
  cases hroute : (s.rtcServices k).rtcInterfaces[RtcService.addressKey addr]? with
  | none =>
      rw [onRtp_of_none data media hroute]
      exact onOk_ok.mpr (by simp [frameTasks, frameSource, RtcService.onRtp, hroute])
  | some i =>
      cases hkind : ((s.rtcServices k).interfaces i).kind with
      | consumer =>
          rw [onRtp_of_consumer data media hroute hkind]
          exact onOk_ok.mpr (by simp [frameTasks, frameSource, RtcService.onRtp, hroute, hkind])
      | producer =>
          rw [onRtp_of_producer data media hroute hkind]
          split
          · rename_i hrecv
            refine onOk_ok.mpr ?_
            simp [frameTasks, frameSource, RtcService.onRtp, hroute, hkind, hrecv, addFrames, post]
          · exact onOk_error

theorem tasks_onDtls (i : ResourceId) (callback : RtcInterface.DtlsCallback) :
    (s.onDtls i callback).tasks = s.tasks ++ endTasks s (.dtls i callback) := by
  rw [onDtls, endTasks]
  by_cases hrtc : s.IsRtc i
  · rw [if_pos hrtc]
    cases callback with
    | closed => rw [if_pos ⟨hrtc, Or.inl rfl⟩]; rfl
    | failed => rw [if_pos ⟨hrtc, Or.inr rfl⟩]; rfl
    | connecting => simp [withRtcService]
    | connected keys => simp [withRtcService]
    | applicationData data => simp [withRtcService]
  · rw [if_neg hrtc, if_neg (fun hended => hrtc hended.1), List.append_nil]

theorem tasks_runTask : s.runTask.tasks = s.tasks.tail := by
  rw [runTask]
  split
  · rename_i htasks
    rw [htasks]
    rfl
  · rename_i htasks
    rw [htasks]
    rfl
  · rename_i htasks
    rw [htasks, onDtlsEnded]
    dsimp only
    split <;> rfl

variable (h : s.Linked)

include h

theorem tasks_push (body : OfferBody) (secrets : IceSecrets) (nowMs : Int) :
    (s.handlerRtcProducer api body secrets nowMs).1.tasks = s.tasks := by
  apply handlerRtcProducer_rule (P := fun t => t.tasks = s.tasks) api rfl h
  intro s' sessionName sid hcreate
  rw [← createSession_frame tasks rfl hcreate]
  exact ⟨rfl, rfl⟩

theorem tasks_play (body : OfferBody) (secrets : IceSecrets) (nowMs : Int) :
    (s.handlerRtcConsumer api body secrets nowMs).1.tasks = s.tasks := by
  apply handlerRtcConsumer_rule (P := fun t => t.tasks = s.tasks) api rfl h
  intro s' sessionName sid hcreate
  rw [← createSession_frame tasks rfl hcreate]
  exact ⟨rfl, rfl⟩

theorem tasks_flv (path : CString) (secrets : IceSecrets) (nowMs : Int) :
    (s.handlerFlvConsumer path secrets nowMs).1.tasks = s.tasks := by
  apply handlerFlvConsumer_rule (P := fun t => t.tasks = s.tasks) rfl h
  intro s' sessionName sid hcreate
  rw [← createSession_frame tasks rfl hcreate]
  rfl

theorem tasks_openRtpServer (body : RtpServerBody) (started : Bool) (secrets : IceSecrets)
    (nowMs : Int) :
    (s.handlerOpenRtpServer body started secrets nowMs).1.tasks = s.tasks := by
  apply handlerOpenRtpServer_rule (P := fun t => t.tasks = s.tasks) rfl h
  intro s' sessionName sid hcreate
  rw [← createSession_frame tasks rfl hcreate]
  exact ⟨rfl, rfl⟩

theorem tasks_step (input : Input) :
    OnOk (fun t => t.tasks = waiting s input ++ (frameTasks s input ++ endTasks s input))
      (s.step api input) := by
  have hnothing : ∀ {t : GbMediaService}, t.tasks = s.tasks → t.tasks = s.tasks ++ [] := by
    intro t ht
    rw [ht, List.append_nil]
  cases input with
  | push body secrets nowMs =>
      exact onOk_ok.mpr (hnothing (tasks_push api h body secrets nowMs))
  | play body secrets nowMs =>
      exact onOk_ok.mpr (hnothing (tasks_play api h body secrets nowMs))
  | flv path secrets nowMs => exact onOk_ok.mpr (hnothing (tasks_flv h path secrets nowMs))
  | disconnect i =>
      exact onOk_ok.mpr (hnothing (disconnect_rule (P := fun t => t.tasks = s.tasks) rfl i rfl))
  | openRtpServer body started secrets nowMs =>
      exact onOk_ok.mpr (hnothing (tasks_openRtpServer h body started secrets nowMs))
  | closeRtpServer body =>
      refine onOk_map.mpr ?_
      intro p hp
      exact hnothing (onOk_handlerCloseRtpServer (P := fun t => t.tasks = s.tasks) rfl body
        (fun _ => rfl) p hp)
  | stun k transport data addr nowMs => exact onOk_ok.mpr (hnothing rfl)
  | dtls i callback => exact onOk_ok.mpr (tasks_onDtls i callback)
  | rtp k addr data media =>
      intro t ht
      rw [tasks_onRtp k addr data media t ht]
      exact congrArg _ (List.append_nil _).symm
  | tcp streamId images =>
      refine onOk_ok.mpr ?_
      rw [tasks_onTcp]
      exact congrArg _ (List.append_nil _).symm
  | tick sid nowMs =>
      refine onOk_ok.mpr (hnothing ?_)
      rw [checkTimeOut_eq h]
      rfl
  | worker =>
      refine onOk_ok.mpr ?_
      rw [tasks_runTask]
      exact (List.append_nil _).symm

end Tasks

section Steps

variable {s t : GbMediaService} {input : Input} (h : s.Linked)

include h

/-- The frames that a step posts are those of the producer that its packet reaches. -/
theorem receptions_of_step (hstep : s.step api input = .ok t) :
    receptions s t input =
      match frameSource s input with
      | some (i, media) =>
          media.map fun m => ⟨⟨(s.resources i).session, i, m⟩, producerOf s i⟩
      | none => [] := by
  have hends : (endTasks s input).filterMap frame? = [] := by
    cases input with
    | dtls i callback =>
        rw [endTasks]
        split <;> rfl
    | _ => rfl
  rw [receptions, tasks_step api h input t hstep, List.drop_left, List.filterMap_append, hends,
    List.append_nil, frameTasks]
  split
  · simp [List.filterMap_map, Function.comp_def, frame?, producerOf]
  · rfl

omit h in
theorem ending_worker {i : ResourceId} (hended : endedBy s .worker = some i) :
    (s.runTask.sessionHeap (s.resources i).session).producer = none := by
  simp only [endedBy] at hended
  split at hended
  · rename_i j rest htasks
    split at hended
    · rename_i htype
      obtain rfl : j = i := Option.some.inj hended
      simp [runTask, htasks, onDtlsEnded, htype, setProducer, withSession]
    · cases hended
  · cases hended

/-- Only a DTLS association that has closed or failed ends a producer that its session has
replaced. -/
theorem producerOf_of_endedBy {i : ResourceId} (hended : endedBy s input = some i)
    (hworker : input ≠ .worker) : producerOf s i = some i := by
  have hown : ∀ {sid : SessionId}, (s.sessionHeap sid).producer = some i →
      producerOf s i = some i := by
    intro sid hproducer
    rw [producerOf, (h.producer hproducer).1.session, hproducer]
  cases input with
  | worker => exact absurd rfl hworker
  | tick sid nowMs => exact hown (mem_producerTimedOut.mp hended).1
  | closeRtpServer body =>
      cases body with
      | malformed => cases hended
      | request tcpMode streamId =>
          obtain ⟨sid, _, hproducer⟩ := Option.bind_eq_some_iff.mp hended
          exact hown hproducer
  | _ => cases hended

theorem fromCurrent_of_error {e : Fault} (hstep : s.step api input = .error e) :
    FromCurrent s input := by
  constructor
  · intro i media hsource _
    cases input with
    | rtp k addr data media =>
        obtain ⟨⟨j, action⟩, hroute, hsent⟩ := Option.bind_eq_some_iff.mp hsource
        obtain ⟨j', hj', hpair⟩ := Option.map_eq_some_iff.mp hroute
        obtain rfl : j' = j := (Prod.mk.inj hpair).1
        dsimp only at hsent
        split at hsent
        · rename_i hready
          change s.onRtp k addr data media = _ at hstep
          rw [onRtp_of_producer data media hj' hready.1, if_pos hready.2] at hstep
          cases hstep
        · cases hsent
    | tcp streamId images => cases hstep
    | _ => cases hsource
  · intro i hended
    left
    apply producerOf_of_endedBy h hended
    rintro rfl
    cases hstep

end Steps

section Runs

theorem frames_record (j : Journal) (s t : GbMediaService) (input : Input) :
    (j.record s t input).dispatched ++ (j.record s t input).queued =
      j.dispatched ++ j.queued ++ receptions s t input := by
  have hkept : (j.dispatch s input).dispatched ++ (j.dispatch s input).queued =
      j.dispatched ++ j.queued := by
    unfold Journal.dispatch
    split
    · split
      · rw [List.append_assoc, ← List.drop_one, List.take_append_drop]
      · rfl
    · rfl
  rw [Journal.record, ← List.append_assoc, hkept]

theorem endings_record (j : Journal) (s t : GbMediaService) (input : Input) :
    (j.record s t input).endings = j.endings ++ (endedBy s input).toList.map fun i =>
      ⟨i, producerOf s i, (t.sessionHeap (s.resources i).session).producer⟩ := by
  have hkept : (j.dispatch s input).endings = j.endings := by
    unfold Journal.dispatch
    split
    · split <;> rfl
    · rfl
  rw [Journal.record, hkept]

variable {s : GbMediaService} {j : Journal}

theorem queued_dispatch (hqueued : j.queued.map Reception.frame = s.tasks.filterMap frame?)
    (input : Input) :
    (j.dispatch s input).queued.map Reception.frame = (waiting s input).filterMap frame? := by
  cases input with
  | worker =>
      rw [waiting, Journal.dispatch]
      cases htasks : s.tasks with
      | nil => rw [hqueued, htasks]; rfl
      | cons task rest =>
          rw [htasks] at hqueued
          cases task with
          | dtlsEnded i => exact hqueued
          | addFrame session origin media =>
              change j.queued.tail.map _ = rest.filterMap frame?
              rw [List.map_tail, hqueued]
              rfl
  | _ => exact hqueued

variable (h : s.Linked)

include h

theorem queued_step (hqueued : j.queued.map Reception.frame = s.tasks.filterMap frame?)
    (input : Input) :
    OnOk (fun p => p.2.queued.map Reception.frame = p.1.tasks.filterMap frame?)
      (observeGuarded (step api) (note api) (s, j) input) := by
  rw [onOk_observeGuarded]
  intro t hstep
  have htasks := tasks_step api h input t hstep
  dsimp only
  rw [note, hstep]
  dsimp only
  rw [Journal.record, List.map_append, queued_dispatch hqueued, receptions, htasks,
    List.drop_left, List.map_map]
  conv_rhs => rw [List.filterMap_append]
  exact congrArg _ (List.map_id _)

variable (hsourced : SinglySourced (s, j))

include hsourced

theorem singlySourced_record_iff {t : GbMediaService} {input : Input}
    (hstep : s.step api input = .ok t) :
    SinglySourced (t, j.record s t input) ↔ FromCurrent s input := by
  have hreceived := receptions_of_step api h hstep
  constructor
  · rintro ⟨hframes, hendings⟩
    dsimp only at hframes hendings
    rw [frames_record] at hframes
    rw [endings_record] at hendings
    constructor
    · intro i media hsource hne
      rw [hsource] at hreceived
      obtain ⟨m, hm⟩ := List.exists_mem_of_ne_nil media hne
      apply hframes ⟨⟨(s.resources i).session, i, m⟩, producerOf s i⟩
      rw [hreceived]
      exact List.mem_append_right _ (List.mem_map_of_mem hm)
    · intro i hended
      by_cases hworker : input = .worker
      · subst hworker
        obtain rfl : s.runTask = t := Except.ok.inj hstep
        have hlast := hendings ⟨i, producerOf s i, none⟩
        rw [hended, Option.toList_some, List.map_singleton, ending_worker hended] at hlast
        by_cases hcurrent : producerOf s i = some i
        · exact Or.inl hcurrent
        · exact Or.inr (hlast (by simp) hcurrent).symm
      · exact Or.inl (producerOf_of_endedBy h hended hworker)
  · rintro ⟨hsource, hending⟩
    constructor
    · intro r hr
      dsimp only at hr
      rw [frames_record] at hr
      rcases List.mem_append.mp hr with hold | hnew
      · exact hsourced.frames r hold
      · rw [hreceived] at hnew
        split at hnew
        · rename_i i media heq
          obtain ⟨m, hm, rfl⟩ := List.mem_map.mp hnew
          exact hsource heq (List.ne_nil_of_mem hm)
        · cases hnew
    · intro e he hreplaced
      dsimp only at he
      rw [endings_record] at he
      rcases List.mem_append.mp he with hold | hnew
      · exact hsourced.endings e hold hreplaced
      · obtain ⟨i, hi, rfl⟩ := List.mem_map.mp hnew
        have hended : endedBy s input = some i := Option.mem_toList.mp hi
        by_cases hworker : input = .worker
        · subst hworker
          obtain rfl : s.runTask = t := Except.ok.inj hstep
          rw [ending_worker hended]
          exact ((hending hended).resolve_left hreplaced).symm
        · exact absurd (producerOf_of_endedBy h hended hworker) hreplaced

theorem singlySourced_step_iff (input : Input) :
    OnOk SinglySourced (observeGuarded (step api) (note api) (s, j) input) ↔
      FromCurrent s input := by
  rw [onOk_observeGuarded]
  cases hstep : s.step api input with
  | error e => exact iff_of_true onOk_error (fromCurrent_of_error api h hstep)
  | ok t =>
      rw [onOk_ok, note, hstep]
      exact singlySourced_record_iff api h hsourced hstep

end Runs

abbrev start (config : ServerConfig) : GbMediaService × Journal := (startup config, {})

/-- The frames of the journal that wait are those in the queue of the worker thread. -/
theorem queued_run (config : ServerConfig) (inputs : List Input) :
    OnOk (fun p => p.2.queued.map Reception.frame = p.1.tasks.filterMap frame?)
      (run (guarded (observeGuarded (step api) (note api))) (.ok (start config)) inputs) := by
  have hkept : OnOk (fun p : GbMediaService × Journal => p.1.Linked ∧
      p.2.queued.map Reception.frame = p.1.tasks.filterMap frame?)
      (run (guarded (observeGuarded (step api) (note api))) (.ok (start config)) inputs) := by
    refine onOk_run ⟨linked_startup config, rfl⟩ ?_ inputs
    rintro ⟨s, j⟩ input ⟨h, hqueued⟩ p hp
    refine ⟨?_, queued_step api h hqueued input p hp⟩
    revert p hp
    exact onOk_observeGuarded.mpr (h.step api input)
  intro p hp
  exact (hkept p hp).2

/-- Frames come from the current producer and ends leave a newer one alone throughout a run
exactly when every packet that completes a frame reaches the current producer of its session
and no replaced producer ends while its session has another. -/
theorem throughout_singlySourced_iff (config : ServerConfig) (inputs : List Input) :
    Throughout (guarded (observeGuarded (step api) (note api))) (OnOk SinglySourced)
        (.ok (start config)) inputs ↔
      Admitted (guarded (observeGuarded (step api) (note api)))
        (fun p input => OnOk (fun p => FromCurrent p.1 input) p) (.ok (start config)) inputs := by
  refine @throughout_onOk_iff _ _ _ _ (fun (p : GbMediaService × Journal) input =>
    FromCurrent p.1 input) _ (fun p => p.1.Linked) _ _ ?_ (linked_startup config) ?_ ?_
  · exact ⟨nofun, nofun⟩
  · intro p input h hsourced
    exact singlySourced_step_iff api h hsourced input
  · intro p input h
    rw [onOk_observeGuarded]
    exact h.step api input

/-- The end of the first of two producers of a stream clears the second. -/
theorem not_throughout_singlySourced :
    ¬ ∀ (config : ServerConfig) (inputs : List Input),
      Throughout (guarded (observeGuarded (step sampleApi) (note sampleApi)))
        (OnOk SinglySourced) (.ok (start config)) inputs := by
  intro hclaim
  have hsourced := hclaim sampleConfig
    [samplePush "aa" 0, .dtls 0 .closed, samplePush "bb" 1000, .worker]
    [samplePush "aa" 0, .dtls 0 .closed, samplePush "bb" 1000, .worker] [] rfl _ rfl
  have hkept := hsourced.endings ⟨0, some 1, none⟩ (by decide) (by decide)
  cases hkept

end GBServer.SinglePublisher
