import GBServer.Foundation.PostedTasks
import GBServer.RtcProducer

/-!
The tasks that a WebRTC publisher posts to the worker thread under its safety flag: the
sequence numbers that `OnSrtpRtp` hands over, and the receiver reports that
`OnDtlsConnected` and `OnTimer` schedule.
-/

namespace GBServer.ProducerTasks

open Foundation.Runs
open Foundation.PostedTasks
open Foundation.PostedTasks.TaskQueue

inductive ProducerTask where
  | processIncomingSeq (task : NackTask)
  /-- The tasks of `OnDtlsConnected` and of `OnTimer` do the same. -/
  | sendReport

/-- A producer that is alive, the worker thread's queue, the numbers of the tasks that
have been executed, and the times of the receiver reports. -/
structure State where
  producer : RtcProducer
  nowMs : Int
  queue : TaskQueue ProducerTask := {}
  executed : List Nat := []
  reports : List Int := []

inductive Input where
  | srtpRtp (received : Option RtpPacketReceived)
  | dtlsConnected
  /-- `OnDtlsClosed` or `OnDtlsFailed`. -/
  | dtlsEnded
  | elapse (ms : Nat)
  | worker (ticket : Nat)

namespace State

/-- The constructor of `RtcProducer`; nothing calls `SetAlive` on its flag. -/
def constructed (sdp : Sdp) (nowMs : Int) : State where
  producer := { sdp, taskSafety := SafetyFlag.createDetachedInactive.alive }
  nowMs := nowMs

/-- What `OnSrtpRtp` posts goes to the worker's queue at once. -/
def onSrtpRtp (s : State) (received : Option RtpPacketReceived) : State :=
  let producer := (s.producer.onSrtpRtp received s.nowMs).1
  { s with
    producer := { producer with workerTasks := [] }
    queue := producer.workerTasks.foldl
      (fun q task => q.post s.nowMs (.processIncomingSeq task)) s.queue }

def onDtlsConnected (s : State) : State :=
  { s with
    producer := { s.producer with dtlsDone := true }
    queue := s.queue.post s.nowMs .sendReport }

def onTimer (s : State) : State :=
  { s with queue := s.queue.post (s.nowMs + 5000) .sendReport }

def perform (s : State) : ProducerTask → State
  | .processIncomingSeq task =>
      { s with producer := (s.producer.processIncomingSeqOnWorker task).1 }
  | .sendReport =>
      if s.producer.dtlsDone then { s with reports := s.reports ++ [s.nowMs] }.onTimer else s

/-- A closure of `ToQueuedTask` runs if the flag is alive when it is dequeued. -/
def dequeue (s : State) (e : Entry ProducerTask) : State :=
  if s.producer.taskSafety then
    { s with executed := s.executed ++ [e.ticket] }.perform e.task
  else s

def step (s : State) : Input → State
  | .srtpRtp received => s.onSrtpRtp received
  | .dtlsConnected => s.onDtlsConnected
  | .dtlsEnded => { s with producer := { s.producer with dtlsDone := false } }
  | .elapse ms => { s with nowMs := s.nowMs + ms }
  | .worker ticket =>
      match s.queue.due? s.nowMs ticket with
      | some e => { s with queue := s.queue.remove s.nowMs ticket }.dequeue e
      | none => s

/-- While DTLS is up, a receiver report is due within five seconds. -/
def ReportsRecur (s : State) : Prop :=
  s.producer.dtlsDone = true →
    ∃ e ∈ s.queue.entries, e.task = .sendReport ∧ e.due ≤ s.nowMs + 5000

/-- Every task posted waits or has been executed once, and reports go on. -/
def TasksRun (s : State) : Prop := s.queue.Accounted s.executed ∧ s.ReportsRecur

/-- The worker thread takes none of the producer's tasks. -/
def NothingTaken (s : State) : Input → Prop
  | .worker ticket => s.queue.due? s.nowMs ticket = none
  | _ => True

theorem onSrtpRtp_producer (p : RtcProducer) (received : Option RtpPacketReceived)
    (nowMs : Int) :
    (p.onSrtpRtp received nowMs).1.dtlsDone = p.dtlsDone ∧
      (p.onSrtpRtp received nowMs).1.taskSafety = p.taskSafety := by
  cases received with
  | none => exact ⟨rfl, rfl⟩
  | some packet =>
      unfold RtcProducer.onSrtpRtp RtcProducer.depacketize
      dsimp only
      split_ifs <;> exact ⟨rfl, rfl⟩

theorem processIncomingSeqOnWorker_producer (p : RtcProducer) (task : NackTask) :
    (p.processIncomingSeqOnWorker task).1.dtlsDone = p.dtlsDone ∧
      (p.processIncomingSeqOnWorker task).1.taskSafety = p.taskSafety := by
  unfold RtcProducer.processIncomingSeqOnWorker
  dsimp only
  split_ifs <;> exact ⟨rfl, rfl⟩

theorem accounted_posts {q : TaskQueue ProducerTask} {done : List Nat}
    (h : q.Accounted done) (due : Int) (tasks : List NackTask) :
    (tasks.foldl (fun q task => q.post due (.processIncomingSeq task)) q).Accounted done := by
  induction tasks generalizing q with
  | nil => exact h
  | cons task rest ih => exact ih (h.post due (.processIncomingSeq task))

theorem mem_entries_posts {q : TaskQueue ProducerTask} {e : Entry ProducerTask}
    (h : e ∈ q.entries) (due : Int) (tasks : List NackTask) :
    e ∈ (tasks.foldl (fun q task => q.post due (.processIncomingSeq task)) q).entries := by
  induction tasks generalizing q with
  | nil => exact h
  | cons task rest ih => exact ih (mem_entries_post.mpr (.inl h))

theorem TasksRun.onSrtpRtp {s : State} (h : s.TasksRun)
    (received : Option RtpPacketReceived) : (s.onSrtpRtp received).TasksRun := by
  refine ⟨accounted_posts h.1 s.nowMs _, ?_⟩
  intro hdtls
  have hbefore := (onSrtpRtp_producer s.producer received s.nowMs).1
  obtain ⟨e, he, htask, hdue⟩ := h.2 (hbefore.symm.trans hdtls)
  exact ⟨e, mem_entries_posts he s.nowMs _, htask, hdue⟩

theorem TasksRun.onDtlsConnected {s : State} (h : s.TasksRun) :
    s.onDtlsConnected.TasksRun := by
  refine ⟨h.1.post s.nowMs .sendReport, ?_⟩
  intro _
  refine ⟨_, mem_entries_post.mpr (.inr rfl), rfl, ?_⟩
  change s.nowMs ≤ s.nowMs + 5000
  omega

theorem TasksRun.elapse {s : State} (h : s.TasksRun) (ms : Nat) :
    { s with nowMs := s.nowMs + ms }.TasksRun := by
  refine ⟨h.1, ?_⟩
  intro hdtls
  obtain ⟨e, he, htask, hdue⟩ := h.2 hdtls
  refine ⟨e, he, htask, ?_⟩
  change e.due ≤ s.nowMs + ms + 5000
  omega

/-- With a live flag a dequeued task is executed, and a report schedules the next one. -/
theorem TasksRun.dequeue {s : State} {ticket : Nat} {e : Entry ProducerTask}
    (h : s.TasksRun) (halive : s.producer.taskSafety = true)
    (hdue : s.queue.due? s.nowMs ticket = some e) :
    ({ s with queue := s.queue.remove s.nowMs ticket }.dequeue e).TasksRun := by
  obtain ⟨_, _, _, _, rfl, _⟩ := exists_of_due? hdue
  have htaken := h.1.take hdue
  rw [State.dequeue, if_pos halive]
  cases htask : e.task with
  | processIncomingSeq task =>
      refine ⟨htaken, ?_⟩
      intro hdtls
      have hbefore := (processIncomingSeqOnWorker_producer s.producer task).1
      obtain ⟨a, ha, hreport, hsoon⟩ := h.2 (hbefore.symm.trans hdtls)
      refine ⟨a, mem_entries_remove hdue ha ?_, hreport, hsoon⟩
      rintro rfl
      rw [htask] at hreport
      contradiction
  | sendReport =>
      simp only [perform]
      split
      case isTrue =>
        refine ⟨htaken.post (s.nowMs + 5000) .sendReport, ?_⟩
        intro _
        exact ⟨_, mem_entries_post.mpr (.inr rfl), rfl, Int.le_refl _⟩
      case isFalse hended =>
        exact ⟨htaken, fun hdtls => absurd hdtls hended⟩

theorem tasksRun_step {s : State} (h : s.TasksRun) (input : Input) :
    (s.step input).TasksRun ↔ s.producer.taskSafety = true ∨ s.NothingTaken input := by
  cases input with
  | srtpRtp received => exact iff_of_true (h.onSrtpRtp received) (.inr trivial)
  | dtlsConnected => exact iff_of_true h.onDtlsConnected (.inr trivial)
  | dtlsEnded =>
      exact iff_of_true ⟨h.1, fun hdtls => absurd hdtls Bool.false_ne_true⟩ (.inr trivial)
  | elapse ms => exact iff_of_true (h.elapse ms) (.inr trivial)
  | worker ticket =>
      cases hdue : s.queue.due? s.nowMs ticket with
      | none =>
          have hsame : s.step (.worker ticket) = s := by simp [step, hdue]
          rw [hsame]
          exact iff_of_true h (.inr hdue)
      | some e =>
          have hstep : s.step (.worker ticket) =
              { s with queue := s.queue.remove s.nowMs ticket }.dequeue e := by
            simp [step, hdue]
          rw [hstep]
          by_cases halive : s.producer.taskSafety = true
          · exact iff_of_true (h.dequeue halive hdue) (.inl halive)
          · refine iff_of_false ?_ (not_or.mpr ⟨halive, by simp [NothingTaken, hdue]⟩)
            rw [State.dequeue, if_neg halive]
            intro hafter
            exact h.1.not_remove hdue hafter.1

theorem step_taskSafety (s : State) (input : Input) :
    (s.step input).producer.taskSafety = s.producer.taskSafety := by
  cases input with
  | srtpRtp received => exact (onSrtpRtp_producer s.producer received s.nowMs).2
  | worker ticket =>
      simp only [step]
      split
      · next e _ =>
          unfold State.dequeue
          split
          · cases htask : e.task with
            | processIncomingSeq task =>
                exact (processIncomingSeqOnWorker_producer s.producer task).2
            | sendReport =>
                simp only [perform]
                split <;> rfl
          · rfl
      · rfl
  | dtlsConnected => rfl
  | dtlsEnded => rfl
  | elapse ms => rfl

end State

open State

theorem tasksRun_start (producer : RtcProducer) (nowMs : Int)
    (h : producer.dtlsDone = false) : TasksRun { producer, nowMs } :=
  ⟨accounted_empty, fun hdtls => absurd (h.symm.trans hdtls) (by decide)⟩

/-- With a flag that is created alive, as sessions have one, all tasks would run. -/
theorem throughout_tasksRun_of_create (sdp : Sdp) (nowMs : Int) (inputs : List Input) :
    Throughout State.step TasksRun
      { producer := { sdp, taskSafety := SafetyFlag.create.alive }, nowMs } inputs := by
  have hstart : TasksRun
      { producer := { sdp, taskSafety := SafetyFlag.create.alive }, nowMs } :=
    tasksRun_start _ nowMs rfl
  rintro front back rfl
  have hboth := invariant_run_of_step
    (P := fun s => s.TasksRun ∧ s.producer.taskSafety = true) ⟨hstart, rfl⟩
    (fun s input h => ⟨(tasksRun_step h.1 input).mpr (.inl h.2),
      (step_taskSafety s input).trans h.2⟩) front
  exact hboth.1

/-- The flag of a producer is never set alive: its tasks run as they should exactly as
long as none is taken. -/
theorem throughout_tasksRun_iff (sdp : Sdp) (nowMs : Int) (inputs : List Input) :
    Throughout State.step TasksRun (constructed sdp nowMs) inputs ↔
      Admitted State.step NothingTaken (constructed sdp nowMs) inputs := by
  refine @throughout_iff_admitted _ _ _ _ _ (fun s => s.producer.taskSafety = false) _ _
    (tasksRun_start _ nowMs rfl) rfl ?_ ?_
  · intro s input hflag h
    rw [tasksRun_step h input, hflag]
    simp
  · intro s input hflag _ _
    exact (step_taskSafety s input).trans hflag

/-- The report of `OnDtlsConnected` is dropped by the worker thread. -/
theorem not_tasksRun_dtlsConnected :
    ¬ ∀ (sdp : Sdp) (nowMs : Int) (inputs : List Input),
      Throughout State.step TasksRun (constructed sdp nowMs) inputs := by
  intro hall
  have hafter := hall Sdp.h264Opus 0 [.dtlsConnected, .worker 0]
    [.dtlsConnected, .worker 0] [] rfl
  have hcount := hafter.1.length_eq
  exact absurd hcount (by decide)

end GBServer.ProducerTasks
