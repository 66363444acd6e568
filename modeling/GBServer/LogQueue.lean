import Mathlib.Data.List.Induction
import GBServer.Foundation.CStrings
import GBServer.Foundation.Runs

namespace GBServer.LogQueue

open Foundation.CStrings
open Foundation.Runs

structure Config where
  enabled : Bool
  echoStdout : Bool
  maxQueued : Nat

/-- A message in the queue, known by its place among the messages ever enqueued, and by
the number of batches taken before. -/
structure Entry where
  ticket : Nat
  epoch : Nat
  message : CString
  deriving DecidableEq, Repr

/-- An entry that gave way to the message with the number `newcomer`, and the number of
batches taken by then. -/
structure Drop where
  entry : Entry
  newcomer : Nat
  epoch : Nat
  deriving DecidableEq, Repr

inductive Worker where
  | waiting
  | writing (batch : List Entry)
  | exited
  deriving DecidableEq, Repr

def Worker.batch : Worker → List Entry
  | .writing batch => batch
  | .waiting | .exited => []

/-- `enqueued` are all the entries there have been; `queuedAtShutdown` are those in the
queue when `worker_shutdown_` was set, and `shutdownTicket` is the next number then. -/
structure FileLogWriter where
  config : Config
  queue : List Entry := []
  workerShutdown : Bool := false
  worker : Worker := .waiting
  epoch : Nat := 0
  next : Nat := 0
  enqueued : List Entry := []
  written : List Entry := []
  dropped : List Drop := []
  queuedAtShutdown : List Entry := []
  shutdownTicket : Nat := 0

inductive Input where
  | write (message : CString)
  | worker
  | destroy
  deriving DecidableEq, Repr

/-- `while (queue_.size() >= cap) queue_.pop_front()`: what is popped, and the rest. -/
def evict (cap : Nat) : List Entry → List Entry × List Entry
  | [] => ([], [])
  | e :: rest =>
      if cap ≤ (e :: rest).length then (e :: (evict cap rest).1, (evict cap rest).2)
      else ([], e :: rest)

namespace FileLogWriter

def pushBack (s : FileLogWriter) (message : CString) : FileLogWriter :=
  let e : Entry := ⟨s.next, s.epoch, message⟩
  { s with queue := s.queue ++ [e], enqueued := s.enqueued ++ [e], next := s.next + 1 }

def popFront (s : FileLogWriter) : FileLogWriter :=
  let popped := evict s.config.maxQueued s.queue
  { s with
    queue := popped.2
    dropped := s.dropped ++ popped.1.map fun e => ⟨e, s.next, s.epoch⟩ }

def write (s : FileLogWriter) (message : CString) : FileLogWriter :=
  if message = [] then s
  else if s.config.enabled = false ∧ s.config.echoStdout = false then s
  else if 0 < s.config.maxQueued then s.popFront.pushBack message
  else s.pushBack message

/-- One critical section or one message of `WorkerLoop`: the messages of a batch go to the
file or to the standard output. -/
def workerLoop (s : FileLogWriter) : FileLogWriter :=
  match s.worker with
  | .waiting =>
      if s.workerShutdown = true ∧ s.queue = [] then { s with worker := .exited }
      else if s.queue = [] then s
      else { s with worker := .writing s.queue, queue := [], epoch := s.epoch + 1 }
  | .writing [] => { s with worker := .waiting }
  | .writing (e :: rest) =>
      { s with
        worker := .writing rest
        written := if s.config.enabled ∨ s.config.echoStdout then s.written ++ [e]
          else s.written }
  | .exited => s

/-- The destructor sets the flag and waits for the worker to exit. -/
def destroy (s : FileLogWriter) : FileLogWriter :=
  if s.workerShutdown then s
  else
    { s with
      workerShutdown := true
      queuedAtShutdown := s.queue
      shutdownTicket := s.next }

def step (s : FileLogWriter) : Input → FileLogWriter
  | .write message => s.write message
  | .worker => s.workerLoop
  | .destroy => s.destroy

/-- An entry that is written, or still on its way to the file. -/
def Present (s : FileLogWriter) (e : Entry) : Prop :=
  e ∈ s.written ∨ e ∈ s.worker.batch ∨ e ∈ s.queue

/-- The messages written are among those enqueued, each once and in their order; the queue
is bounded; what was enqueued is present unless it was dropped; and who was dropped saw a full
queue of later messages, the newcomer included, with no batch taken in between. -/
structure KeepsQueue (s : FileLogWriter) : Prop where
  inOrder : s.written.Sublist s.enqueued
  distinct : s.enqueued.map Entry.ticket = List.range s.next
  bounded : s.queue.length ≤ s.config.maxQueued
  conserved : ∀ e ∈ s.enqueued, s.Present e ∨ ∃ d ∈ s.dropped, d.entry = e
  dropped : ∀ d ∈ s.dropped,
    d.entry.ticket + s.config.maxQueued ≤ d.newcomer ∧ d.entry.epoch = d.epoch

/-- When the worker has exited, what was queued at shutdown has been written. -/
def WrittenAtExit (s : FileLogWriter) : Prop :=
  s.worker = .exited → ∀ e ∈ s.queuedAtShutdown, e ∈ s.written

/-- The same, but for entries that a message enqueued after the shutdown has displaced. -/
def AccountedAtExit (s : FileLogWriter) : Prop :=
  s.worker = .exited → ∀ e ∈ s.queuedAtShutdown,
    e ∈ s.written ∨ ∃ d ∈ s.dropped, d.entry = e ∧ s.shutdownTicket ≤ d.newcomer

end FileLogWriter

def Input.enqueues (config : Config) : Input → Option CString
  | .write message =>
      if message = [] ∨ config.enabled = false ∧ config.echoStdout = false then none
      else some message
  | .worker | .destroy => none

section Eviction

theorem evict_append (cap : Nat) (q : List Entry) : (evict cap q).1 ++ (evict cap q).2 = q := by
  induction q with
  | nil => rfl
  | cons e rest ih =>
      rw [evict]
      split
      · rw [List.cons_append, ih]
      · rfl

theorem length_evict_lt {cap : Nat} (hcap : 0 < cap) (q : List Entry) :
    (evict cap q).2.length < cap := by
  induction q with
  | nil => exact hcap
  | cons e rest ih =>
      rw [evict]
      split
      · exact ih
      · next h => exact Nat.lt_of_not_le h

/-- The entries of a queue count down to the next ticket, and none is older than the last
batch. -/
def Recent (next epoch : Nat) : List Entry → Prop
  | [] => True
  | e :: rest => e.ticket + (rest.length + 1) = next ∧ e.epoch = epoch ∧ Recent next epoch rest

theorem Recent.evict {cap next epoch : Nat} {q : List Entry} (h : Recent next epoch q) :
    Recent next epoch (evict cap q).2 ∧
      ∀ e ∈ (evict cap q).1, e.ticket + cap ≤ next ∧ e.epoch = epoch := by
  induction q with
  | nil => exact ⟨h, fun e he => absurd he List.not_mem_nil⟩
  | cons e rest ih =>
      obtain ⟨hticket, hepoch, hrest⟩ := h
      rw [LogQueue.evict]
      split
      case isTrue hfull =>
        refine ⟨(ih hrest).1, ?_⟩
        intro a ha
        rcases List.mem_cons.mp ha with rfl | ha
        · rw [List.length_cons] at hfull
          exact ⟨by omega, hepoch⟩
        · exact (ih hrest).2 a ha
      case isFalse => exact ⟨⟨hticket, hepoch, hrest⟩, fun a ha => absurd ha List.not_mem_nil⟩

theorem Recent.pushBack {next epoch : Nat} {q : List Entry} (h : Recent next epoch q)
    (message : CString) : Recent (next + 1) epoch (q ++ [⟨next, epoch, message⟩]) := by
  induction q with
  | nil => exact ⟨rfl, rfl, trivial⟩
  | cons e rest ih =>
      obtain ⟨hticket, hepoch, hrest⟩ := h
      rw [List.cons_append]
      refine ⟨?_, hepoch, ih hrest⟩
      rw [List.length_append, List.length_singleton]
      omega

end Eviction

namespace FileLogWriter

structure Invariant (s : FileLogWriter) : Prop where
  kept : s.KeepsQueue
  cap : 0 < s.config.maxQueued
  off : ¬ (s.config.enabled = true ∨ s.config.echoStdout = true) → s.enqueued = []
  sublist : (s.written ++ (s.worker.batch ++ s.queue)).Sublist s.enqueued
  recent : Recent s.next s.epoch s.queue
  ticket : s.workerShutdown = true → s.shutdownTicket ≤ s.next
  running : s.workerShutdown = false → s.queuedAtShutdown = [] ∧ s.worker ≠ .exited
  accounted : ∀ e ∈ s.queuedAtShutdown,
    s.Present e ∨ ∃ d ∈ s.dropped, d.entry = e ∧ s.shutdownTicket ≤ d.newcomer
  exited : s.AccountedAtExit

theorem invariant_start (config : Config) (h : 0 < config.maxQueued) :
    Invariant { config } where
  kept :=
    { inOrder := List.Sublist.refl []
      distinct := rfl
      bounded := Nat.zero_le _
      conserved := fun _ he => absurd he List.not_mem_nil
      dropped := fun _ hd => absurd hd List.not_mem_nil }
  cap := h
  off _ := rfl
  sublist := List.Sublist.refl []
  recent := trivial
  ticket _ := Nat.le_refl 0
  running _ := ⟨rfl, by simp⟩
  accounted _ he := absurd he List.not_mem_nil
  exited _ _ he := absurd he List.not_mem_nil

theorem Invariant.shutdown_of_queued {s : FileLogWriter} (h : s.Invariant) {e : Entry}
    (he : e ∈ s.queuedAtShutdown) : s.workerShutdown = true := by
  by_contra hrunning
  rw [(h.running (by simpa using hrunning)).1] at he
  exact absurd he List.not_mem_nil

section Present

variable {s : FileLogWriter} {e : Entry}

/-- An entry that is popped for a message is dropped with that message as the newcomer. -/
theorem Present.enqueue (h : s.Present e) (message : CString) :
    (s.popFront.pushBack message).Present e ∨
      ∃ d ∈ (s.popFront.pushBack message).dropped, d.entry = e ∧ d.newcomer = s.next := by
  rcases h with hwritten | hbatch | hqueue
  · exact .inl (.inl hwritten)
  · exact .inl (.inr (.inl hbatch))
  · rw [← evict_append s.config.maxQueued s.queue, List.mem_append] at hqueue
    rcases hqueue with hpopped | hqueue
    · refine .inr ⟨⟨e, s.next, s.epoch⟩, ?_, rfl, rfl⟩
      exact List.mem_append_right _ (List.mem_map.mpr ⟨e, hpopped, rfl⟩)
    · exact .inl (.inr (.inr (List.mem_append_left _ hqueue)))

theorem Present.takeBatch (h : s.Present e) (hworker : s.worker = .waiting) :
    { s with worker := .writing s.queue, queue := [], epoch := s.epoch + 1 }.Present e := by
  rcases h with hwritten | hbatch | hqueue
  · exact .inl hwritten
  · rw [hworker] at hbatch
    exact absurd hbatch List.not_mem_nil
  · exact .inr (.inl hqueue)

theorem Present.writeFirst (h : s.Present e) {first : Entry} {rest : List Entry}
    (hworker : s.worker = .writing (first :: rest)) :
    { s with worker := .writing rest, written := s.written ++ [first] }.Present e := by
  rcases h with hwritten | hbatch | hqueue
  · exact .inl (List.mem_append_left _ hwritten)
  · rw [hworker] at hbatch
    rcases List.mem_cons.mp hbatch with rfl | hrest
    · exact .inl (List.mem_append_right _ List.mem_cons_self)
    · exact .inr (.inl hrest)
  · exact .inr (.inr hqueue)

theorem Present.workerRests (h : s.Present e) (hbatch : s.worker.batch = []) (worker : Worker) :
    { s with worker }.Present e := by
  rcases h with hwritten | hin | hqueue
  · exact .inl hwritten
  · rw [hbatch] at hin
    exact absurd hin List.not_mem_nil
  · exact .inr (.inr hqueue)

end Present

theorem Invariant.sublist_enqueue {s : FileLogWriter} (h : s.Invariant) (message : CString) :
    let s' := s.popFront.pushBack message
    (s'.written ++ (s'.worker.batch ++ s'.queue)).Sublist s'.enqueued := by
  have hrest : (evict s.config.maxQueued s.queue).2.Sublist s.queue := by
    conv_rhs => rw [← evict_append s.config.maxQueued s.queue]
    exact List.sublist_append_right _ _
  have hold := ((hrest.append_left s.worker.batch).append_left s.written).trans h.sublist
  change (s.written ++ (s.worker.batch ++ ((evict s.config.maxQueued s.queue).2 ++ [_]))).Sublist
    (s.enqueued ++ [_])
  rw [← List.append_assoc, ← List.append_assoc, List.append_assoc s.written]
  exact hold.append_right _

theorem Invariant.enqueue {s : FileLogWriter} (h : s.Invariant) (message : CString)
    (hon : s.config.enabled = true ∨ s.config.echoStdout = true) :
    (s.popFront.pushBack message).Invariant := by
  have hevict := @Recent.evict s.config.maxQueued _ _ _ h.recent
  refine
    { kept := ⟨?_, ?_, ?_, ?_, ?_⟩
      cap := h.cap
      off := fun hoff => absurd hon hoff
      sublist := h.sublist_enqueue message
      recent := hevict.1.pushBack message
      ticket := fun hshutdown => Nat.le_succ_of_le (h.ticket hshutdown)
      running := h.running
      accounted := ?_
      exited := ?_ }
  · exact h.kept.inOrder.trans (List.sublist_append_left _ _)
  · change (s.enqueued ++ [_]).map Entry.ticket = List.range (s.next + 1)
    rw [List.map_append, h.kept.distinct, List.range_succ]
    rfl
  · change ((evict s.config.maxQueued s.queue).2 ++ [_]).length ≤ s.config.maxQueued
    rw [List.length_append, List.length_singleton]
    exact length_evict_lt h.cap s.queue
  · intro e he
    rcases List.mem_append.mp he with hold | hnew
    · rcases h.kept.conserved e hold with hpresent | ⟨d, hd, hentry⟩
      · exact (hpresent.enqueue message).imp_right fun ⟨d, hd, hentry, _⟩ => ⟨d, hd, hentry⟩
      · exact .inr ⟨d, List.mem_append_left _ hd, hentry⟩
    · exact .inl (.inr (.inr (List.mem_append_right _ hnew)))
  · intro d hd
    rcases List.mem_append.mp hd with hd | hd
    · exact h.kept.dropped d hd
    · obtain ⟨e, he, rfl⟩ := List.mem_map.mp hd
      exact hevict.2 e he
  · intro e he
    rcases h.accounted e he with hpresent | ⟨d, hd, hentry⟩
    · apply (hpresent.enqueue message).imp_right
      rintro ⟨d, hd, hentry, hnewcomer⟩
      refine ⟨d, hd, hentry, ?_⟩
      rw [hnewcomer]
      exact h.ticket (h.shutdown_of_queued he)
    · exact .inr ⟨d, List.mem_append_left _ hd, hentry⟩
  · intro hexited e he
    rcases h.exited hexited e he with hwritten | ⟨d, hd, hentry⟩
    · exact .inl hwritten
    · exact .inr ⟨d, List.mem_append_left _ hd, hentry⟩

theorem Invariant.write {s : FileLogWriter} (h : s.Invariant) (message : CString) :
    (s.write message).Invariant := by
  unfold FileLogWriter.write
  split_ifs with hempty hoff hcap
  · exact h
  · exact h
  · apply h.enqueue message
    by_contra hnone
    simp only [not_or, Bool.not_eq_true] at hnone
    exact hoff hnone
  · exact absurd h.cap hcap

theorem Invariant.takeBatch {s : FileLogWriter} (h : s.Invariant)
    (hworker : s.worker = .waiting) :
    { s with worker := .writing s.queue, queue := [], epoch := s.epoch + 1 }.Invariant where
  kept :=
    { inOrder := h.kept.inOrder
      distinct := h.kept.distinct
      bounded := Nat.zero_le _
      conserved := fun e he => (h.kept.conserved e he).imp_left (·.takeBatch hworker)
      dropped := h.kept.dropped }
  cap := h.cap
  off := h.off
  sublist := by
    have hsublist := h.sublist
    rw [hworker] at hsublist
    simpa [Worker.batch] using hsublist
  recent := trivial
  ticket := h.ticket
  running hrunning := ⟨(h.running hrunning).1, by simp⟩
  accounted e he := (h.accounted e he).imp_left (·.takeBatch hworker)
  exited hexited := by simp at hexited

theorem Invariant.writeFirst {s : FileLogWriter} (h : s.Invariant) {e : Entry}
    {rest : List Entry} (hworker : s.worker = .writing (e :: rest)) :
    { s with worker := .writing rest, written := s.written ++ [e] }.Invariant := by
  have hsublist : (s.written ++ [e] ++ (rest ++ s.queue)).Sublist s.enqueued := by
    have hbefore := h.sublist
    rw [hworker] at hbefore
    simpa [Worker.batch] using hbefore
  exact
    { kept :=
        { inOrder := (List.sublist_append_left _ _).trans hsublist
          distinct := h.kept.distinct
          bounded := h.kept.bounded
          conserved := fun a ha => (h.kept.conserved a ha).imp_left (·.writeFirst hworker)
          dropped := h.kept.dropped }
      cap := h.cap
      off := h.off
      sublist := hsublist
      recent := h.recent
      ticket := h.ticket
      running := fun hrunning => ⟨(h.running hrunning).1, by simp⟩
      accounted := fun a ha => (h.accounted a ha).imp_left (·.writeFirst hworker)
      exited := fun hexited => by simp at hexited }

theorem Invariant.workerRests {s : FileLogWriter} (h : s.Invariant)
    (hbatch : s.worker.batch = []) {worker : Worker} (hrests : worker.batch = [])
    (hexit : worker = .exited → s.workerShutdown = true ∧ s.queue = []) :
    { s with worker }.Invariant where
  kept :=
    { h.kept with
      conserved := fun e he => (h.kept.conserved e he).imp_left (·.workerRests hbatch worker) }
  cap := h.cap
  off := h.off
  sublist := by
    have hsublist := h.sublist
    rw [hbatch] at hsublist
    rw [hrests]
    exact hsublist
  recent := h.recent
  ticket := h.ticket
  running hrunning := by
    refine ⟨(h.running hrunning).1, fun hexited => ?_⟩
    exact absurd ((hexit hexited).1.symm.trans hrunning) (by decide)
  accounted e he := (h.accounted e he).imp_left (·.workerRests hbatch worker)
  exited := by
    intro hexited e he
    apply (h.accounted e he).imp_left
    rintro (hwritten | hin | hqueue)
    · exact hwritten
    · rw [hbatch] at hin
      exact absurd hin List.not_mem_nil
    · rw [(hexit hexited).2] at hqueue
      exact absurd hqueue List.not_mem_nil

theorem Invariant.workerLoop {s : FileLogWriter} (h : s.Invariant) :
    s.workerLoop.Invariant := by
  cases hworker : s.worker with
  | waiting =>
      have hbatch : s.worker.batch = [] := by rw [hworker]; rfl
      simp only [FileLogWriter.workerLoop, hworker]
      split_ifs with hexit hempty
      · exact h.workerRests hbatch rfl fun _ => hexit
      · exact h
      · exact h.takeBatch hworker
  | exited =>
      simp only [FileLogWriter.workerLoop, hworker]
      exact h
  | writing batch =>
      cases batch with
      | nil =>
          have hbatch : s.worker.batch = [] := by rw [hworker]; rfl
          simp only [FileLogWriter.workerLoop, hworker]
          exact h.workerRests hbatch rfl fun hexited => by simp at hexited
      | cons e rest =>
          have hon : s.config.enabled = true ∨ s.config.echoStdout = true := by
            by_contra hoff
            have hnone := h.sublist
            rw [h.off hoff, List.sublist_nil, hworker] at hnone
            simp [Worker.batch] at hnone
          simp only [FileLogWriter.workerLoop, hworker, if_pos hon]
          exact h.writeFirst hworker

theorem Invariant.destroy {s : FileLogWriter} (h : s.Invariant) : s.destroy.Invariant := by
  unfold FileLogWriter.destroy
  split
  case isTrue => exact h
  case isFalse hrunning =>
    have hworker := (h.running (by simpa using hrunning)).2
    exact
      { kept := { h.kept with conserved := h.kept.conserved }
        cap := h.cap
        off := h.off
        sublist := h.sublist
        recent := h.recent
        ticket := fun _ => Nat.le_refl s.next
        running := fun hfalse => by simp at hfalse
        accounted := fun e he => .inl (.inr (.inr he))
        exited := fun hexited => absurd hexited hworker }

theorem Invariant.step {s : FileLogWriter} (h : s.Invariant) (input : Input) :
    (s.step input).Invariant := by
  cases input with
  | write message => exact h.write message
  | worker => exact h.workerLoop
  | destroy => exact h.destroy

theorem step_enqueued (s : FileLogWriter) (input : Input) :
    (s.step input).config = s.config ∧ (s.step input).enqueued.map Entry.message =
      s.enqueued.map Entry.message ++ (input.enqueues s.config).toList := by
  cases input with
  | write message =>
      rw [FileLogWriter.step, FileLogWriter.write, Input.enqueues]
      by_cases hempty : message = []
      · rw [if_pos hempty, if_pos (Or.inl hempty)]
        exact ⟨rfl, (List.append_nil _).symm⟩
      · by_cases hoff : s.config.enabled = false ∧ s.config.echoStdout = false
        · rw [if_neg hempty, if_pos hoff, if_pos (Or.inr hoff)]
          exact ⟨rfl, (List.append_nil _).symm⟩
        · rw [if_neg hempty, if_neg hoff, if_neg (not_or.mpr ⟨hempty, hoff⟩)]
          split <;> exact ⟨rfl, List.map_append⟩
  | worker =>
      rw [FileLogWriter.step, workerLoop, Input.enqueues, Option.toList_none, List.append_nil]
      split
      · split_ifs <;> exact ⟨rfl, rfl⟩
      · exact ⟨rfl, rfl⟩
      · exact ⟨rfl, rfl⟩
      · exact ⟨rfl, rfl⟩
  | destroy =>
      rw [FileLogWriter.step, FileLogWriter.destroy, Input.enqueues, Option.toList_none,
        List.append_nil]
      split <;> exact ⟨rfl, rfl⟩

end FileLogWriter

open FileLogWriter

theorem enqueued_run (config : Config) (inputs : List Input) :
    (run FileLogWriter.step { config } inputs).config = config ∧
      (run FileLogWriter.step { config } inputs).enqueued.map Entry.message =
        inputs.filterMap (Input.enqueues config) := by
  induction inputs using List.reverseRecOn with
  | nil => exact ⟨rfl, rfl⟩
  | append_singleton inputs input ih =>
      rw [run_concat]
      obtain ⟨hconfig, henqueued⟩ := step_enqueued (run FileLogWriter.step { config } inputs) input
      rw [ih.1] at hconfig henqueued
      refine ⟨hconfig, ?_⟩
      rw [henqueued, ih.2, List.filterMap_append]
      rfl

/-- In every run the messages of the `Write` calls are enqueued in their order and the queue is
kept, and what was queued at shutdown has been written, or displaced by messages that came
after it, when the worker exits. -/
theorem keepsQueue_run (config : Config) (h : 0 < config.maxQueued) (inputs : List Input) :
    (run FileLogWriter.step { config } inputs).enqueued.map Entry.message =
        inputs.filterMap (Input.enqueues config) ∧
      (run FileLogWriter.step { config } inputs).KeepsQueue ∧
      (run FileLogWriter.step { config } inputs).AccountedAtExit := by
  have hinvariant := invariant_run_of_step (invariant_start config h)
    (fun _ input hs => Invariant.step hs input) inputs
  exact ⟨(enqueued_run config inputs).2, hinvariant.kept, hinvariant.exited⟩

/-- A queue of two: the third message displaces the first, and the other two are written. -/
def displaced : List Input :=
  [.write [0x61], .write [0x62], .write [0x63], .destroy, .worker, .worker, .worker, .worker,
    .worker]

theorem keepsQueue_run_displaced :
    0 < 2 ∧ (run FileLogWriter.step { config := ⟨true, false, 2⟩ } displaced).enqueued.map
        Entry.message = displaced.filterMap (Input.enqueues ⟨true, false, 2⟩) ∧
      (run FileLogWriter.step { config := ⟨true, false, 2⟩ } displaced).KeepsQueue ∧
      (run FileLogWriter.step { config := ⟨true, false, 2⟩ } displaced).AccountedAtExit :=
  ⟨by decide, keepsQueue_run ⟨true, false, 2⟩ (by decide) displaced⟩

/-- A queue of one: the message that is queued when the destructor starts is displaced by
one that another thread logs before the worker wakes up. -/
theorem not_writtenAtExit_displaced :
    ¬ ∀ (config : Config) (inputs : List Input), 0 < config.maxQueued →
      (run FileLogWriter.step { config } inputs).KeepsQueue ∧
        (run FileLogWriter.step { config } inputs).WrittenAtExit := by
  intro hall
  have hexit := (hall ⟨true, false, 1⟩ [.write [0x61], .destroy, .write [0x62], .worker,
    .worker, .worker, .worker] (by decide)).2
  have hwritten := hexit (by decide) ⟨0, 0, [0x61]⟩ (by decide)
  exact absurd hwritten (by decide)

end GBServer.LogQueue
