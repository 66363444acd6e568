import GBServer.Foundation.PostedTasks
import GBServer.RtcProducer

/-!
Recovery of lost uplink packets: what becomes of a publisher's answer to a NACK.  The
producer is observed together with the numbers it has requested, those answered, and
those whose answer has been handled on both threads.
-/

namespace GBServer.RtcProducer

open Std (ExtTreeMap)
open Foundation.Runs
open Foundation.SerialNumber
open NackGenerator (WellFormed)

section Generator

variable {g : NackGenerator} {seq key : BitVec 16} {nowMs : Int}

/-- The arrival of `seq` leaves a gap over an index that is numbered `key`. -/
def GapCovers (g : NackGenerator) (seq key : BitVec 16) : Prop :=
  g.initialized = true ∧ ∃ j, g.lastSeqUnwrap < j ∧ j < g.unwrap seq ∧ key = serial 16 j

theorem not_mem_onReceivedPacket (hkey : key ∉ g.nackList) (hgap : ¬ GapCovers g seq key) :
    key ∉ (g.onReceivedPacket seq nowMs).nackList := by
  rcases g.onReceivedPacket_cases seq nowMs with ⟨_, heq⟩ | ⟨_, _, heq⟩ |
    ⟨hinit, _, heq⟩ | ⟨_, _, heq⟩ | ⟨_, _, _, heq⟩
  · rwa [heq]
  · rwa [heq]
  · rw [heq]
    intro hmem
    obtain ⟨e, he⟩ := ExtTreeMap.mem_iff_isSome_getElem?.mp hmem |> Option.isSome_iff_exists.mp
    rcases NackGenerator.getElem?_of_addMissingRange he with hold | ⟨_, _, hgap'⟩
    · exact hkey (Foundation.OrderedMap.mem_of_getElem?_eq_some hold)
    · exact hgap ⟨hinit, hgap'⟩
  · rw [heq]
    exact ExtTreeMap.not_mem_empty
  · rw [heq]
    exact fun hmem => hkey (ExtTreeMap.mem_of_mem_erase hmem)

theorem not_gapCovers_self (h : WellFormed g) : ¬ GapCovers g seq seq := by
  rintro ⟨hinit, j, hlow, hhigh, hserial⟩
  have hbound := NackGenerator.unwrap_lt hinit seq
  have hsame : serial 16 (g.unwrap seq) = serial 16 j := (h.serial_unwrap seq).trans hserial
  have heq := serial_inj_of_lt (by omega) (by omega) hsame
  omega

theorem not_mem_onReceivedPacket_self (hbelow : g.unwrap seq < g.lastSeqUnwrap)
    (hinit : g.initialized = true) : seq ∉ (g.onReceivedPacket seq nowMs).nackList := by
  rcases g.onReceivedPacket_cases seq nowMs with ⟨hinit', _⟩ | ⟨_, hsame, _⟩ |
    ⟨_, habove, _⟩ | ⟨_, _, heq⟩ | ⟨_, _, _, heq⟩
  · exact absurd (hinit.symm.trans hinit') (by simp)
  · omega
  · omega
  · rw [heq]
    exact ExtTreeMap.not_mem_empty
  · rw [heq]
    simp

end Generator

/-- A retransmission on the media source, with the number and the payload it brings. -/
def mediaAnswer? (sdp : Sdp) (requested : List (BitVec 16)) (packet : RtpPacketReceived) :
    Option (BitVec 16 × List UInt8) :=
  if isVideo sdp packet && packet.ssrc == sdp.videoSsrc &&
      requested.contains packet.sequenceNumber then
    some (packet.sequenceNumber, packet.payload)
  else none

/-- A retransmission of the RTX type: the original number, then the original payload. -/
def rtxAnswer? (sdp : Sdp) (requested : List (BitVec 16)) (packet : RtpPacketReceived) :
    Option (BitVec 16 × List UInt8) :=
  match packet.payload with
  | high :: low :: original =>
      if (packet.payloadType.toNat : Int) = sdp.videoPayloadRtxType ∧
          high.toBitVec ++ low.toBitVec ∈ requested then
        some (high.toBitVec ++ low.toBitVec, original)
      else none
  | _ => none

def answer? (sdp : Sdp) (requested : List (BitVec 16)) (packet : RtpPacketReceived) :
    Option (BitVec 16 × List UInt8) :=
  (mediaAnswer? sdp requested packet).or (rtxAnswer? sdp requested packet)

def Effect.videoRequests : Effect → List (BitVec 16)
  | .sendNack true _ packetIds => packetIds
  | _ => []

/-- `underway` tells for each task of the worker which request it answers, if any. -/
structure Recovery where
  requested : List (BitVec 16) := []
  underway : List (Option (BitVec 16)) := []
  settled : List (BitVec 16) := []
  requestedAgain : List (BitVec 16) := []
  unparsed : List (BitVec 16) := []

def noteRecovery (s : RtcProducer) (r : Recovery) : Input → Recovery
  | .srtpRtp (some packet) nowMs =>
      let posted := (nackTask? s.sdp packet nowMs).toList
      match answer? s.sdp r.requested packet with
      | some (seq, original) =>
          { r with
            underway := r.underway ++ posted.map fun _ => some seq
            settled := if posted.isEmpty then seq :: r.settled else r.settled
            unparsed :=
              if .parsePacket original ∈ (s.onSrtpRtp (some packet) nowMs).2 then r.unparsed
              else seq :: r.unparsed }
      | none => { r with underway := r.underway ++ posted.map fun _ => none }
  | .worker =>
      let batch := s.runTask.2.flatMap Effect.videoRequests
      let settled := r.underway.head?.join.toList ++ r.settled
      { r with
        requested := batch ++ r.requested
        underway := r.underway.tail
        settled
        requestedAgain := batch.filter (settled.contains ·) ++ r.requestedAgain }
  | _ => r

abbrev recovering : RtcProducer × Recovery → Input → RtcProducer × Recovery :=
  observe step noteRecovery

/-- A number whose answer has been handled is not pending and has not been requested
again, and every answer has brought its original payload to the parser. -/
structure Recovered (p : RtcProducer × Recovery) : Prop where
  notPending : ∀ seq ∈ p.2.settled, seq ∉ p.1.videoNackGenerator.nackList
  notRequested : p.2.requestedAgain = []
  parsed : p.2.unparsed = []

/-- What the worker meets when it runs a task of the video stream. -/
structure Settles (p : RtcProducer × Recovery) (task : NackTask) : Prop where
  behind : p.2.underway.head? = some (some task.seq) →
    task.seq ∈ p.1.videoNackGenerator.nackList →
      p.1.taskSafety = true ∧ p.1.dtlsDone = true ∧
        p.1.videoNackGenerator.unwrap task.seq < p.1.videoNackGenerator.lastSeqUnwrap
  noGap : p.1.taskSafety = true → p.1.dtlsDone = true →
    ∀ seq ∈ p.2.settled, ¬ GapCovers p.1.videoNackGenerator task.seq seq

/-- Answers come on the media source, they are handled with DTLS done and behind the
newest number, and no later arrival opens a gap over an answered number. -/
def AnsweredOnMedia (p : RtcProducer × Recovery) : Input → Prop
  | .srtpRtp (some packet) _ =>
      answer? p.1.sdp p.2.requested packet = mediaAnswer? p.1.sdp p.2.requested packet
  | .worker => ∀ task ∈ p.1.workerTasks.head?, task.isVideo = true → Settles p task
  | _ => True

def Underway (task : NackTask) (answered : Option (BitVec 16)) : Prop :=
  ∀ seq, answered = some seq → task.isVideo = true ∧ task.seq = seq

structure Paired (p : RtcProducer × Recovery) : Prop where
  wellFormed : WellFormed p.1.videoNackGenerator
  underway : List.Forall₂ Underway p.1.workerTasks p.2.underway

section Arrivals

variable {s : RtcProducer} {packet : RtpPacketReceived} {nowMs : Int}

theorem onSrtpRtp_workerTasks : (s.onSrtpRtp (some packet) nowMs).1.workerTasks =
    s.workerTasks ++ (nackTask? s.sdp packet nowMs).toList := by
  rw [onSrtpRtp, depacketize]
  split_ifs <;> rfl

theorem onSrtpRtp_videoNackGenerator :
    (s.onSrtpRtp (some packet) nowMs).1.videoNackGenerator = s.videoNackGenerator := by
  rw [onSrtpRtp, depacketize]
  split_ifs <;> rfl

theorem mediaAnswer?_eq_some {requested : List (BitVec 16)} {seq : BitVec 16}
    {original : List UInt8} (h : mediaAnswer? s.sdp requested packet = some (seq, original)) :
    isVideo s.sdp packet = true ∧ packet.ssrc = s.sdp.videoSsrc ∧
      packet.sequenceNumber = seq ∧ packet.payload = original := by
  rw [mediaAnswer?] at h
  split at h
  · rename_i hanswer
    simp only [Bool.and_eq_true, beq_iff_eq] at hanswer
    obtain ⟨hseq, hpayload⟩ := Prod.mk.inj (Option.some.inj h)
    exact ⟨hanswer.1.1, hanswer.1.2, hseq, hpayload⟩
  · contradiction

theorem nackTask?_of_media (nowMs : Int) (hvideo : isVideo s.sdp packet = true)
    (hssrc : packet.ssrc = s.sdp.videoSsrc) : nackTask? s.sdp packet nowMs =
      some { isVideo := true, seq := packet.sequenceNumber, mediaSsrc := packet.ssrc, nowMs } := by
  simp [nackTask?, hvideo, hssrc]

theorem parsePacket_mem_of_video (nowMs : Int) (hvideo : isVideo s.sdp packet = true) :
    .parsePacket packet.payload ∈ (s.onSrtpRtp (some packet) nowMs).2 := by
  rw [onSrtpRtp, depacketize, if_pos hvideo]
  split
  · exact List.mem_cons_self
  · exact List.mem_cons_self

end Arrivals

section Worker

variable {s : RtcProducer}

theorem runTask_workerTasks : s.runTask.1.workerTasks = s.workerTasks.tail := by
  rw [runTask]
  split
  · rename_i hnil
    rw [hnil, List.tail_nil]
  · rename_i task rest htasks
    rw [htasks, List.tail_cons]
    split
    · rw [processIncomingSeqOnWorker]
      split_ifs <;> rfl
    · rfl

/-- The tasks that the worker handles for the video stream. -/
def handled? (s : RtcProducer) : Option NackTask :=
  s.workerTasks.head?.filter fun task => s.taskSafety && s.dtlsDone && task.isVideo

def batchFor (s : RtcProducer) (task : NackTask) : NackGenerator × List (BitVec 16) :=
  (s.videoNackGenerator.onReceivedPacket task.seq task.nowMs).getNackBatch task.nowMs

theorem runTask_of_handled {task : NackTask} (h : s.handled? = some task) :
    s.runTask.1.videoNackGenerator = (s.batchFor task).1 ∧
      s.runTask.2.flatMap Effect.videoRequests = (s.batchFor task).2 := by
  obtain ⟨hhead, hactive⟩ := Option.filter_eq_some_iff.mp h
  simp only [Bool.and_eq_true] at hactive
  obtain ⟨⟨hsafety, hdone⟩, hvideo⟩ := hactive
  obtain ⟨rest, htasks⟩ := List.head?_eq_some_iff.mp hhead
  rw [runTask, htasks]
  dsimp only
  rw [if_pos hsafety, processIncomingSeqOnWorker]
  simp only [hdone, hvideo, Bool.not_true, Bool.false_eq_true, if_false, if_true]
  refine ⟨rfl, ?_⟩
  cases hbatch : (s.batchFor task).2 with
  | nil =>
      rw [batchFor] at hbatch
      simp [hbatch]
  | cons seq batch =>
      rw [batchFor] at hbatch
      simp [hbatch, Effect.videoRequests]

theorem runTask_of_not_handled (h : s.handled? = none) :
    s.runTask.1.videoNackGenerator = s.videoNackGenerator ∧
      s.runTask.2.flatMap Effect.videoRequests = [] := by
  rw [runTask]
  split
  · exact ⟨rfl, rfl⟩
  · rename_i task rest htasks
    split
    · rename_i hsafety
      rw [processIncomingSeqOnWorker]
      split
      · exact ⟨rfl, rfl⟩
      · rename_i hdone
        have hdone : s.dtlsDone = true := by simpa using hdone
        have hvideo : task.isVideo = false := by
          simpa [handled?, htasks, hsafety, hdone] using h
        refine ⟨by simp [hvideo], ?_⟩
        simp only [hvideo, Bool.false_eq_true, if_false]
        split
        · rfl
        · rfl
    · exact ⟨rfl, rfl⟩

end Worker

section Steps

variable {p : RtcProducer × Recovery}

theorem recovered_arrival {packet : RtpPacketReceived} {nowMs : Int} (h : Recovered p)
    (hpaired : Paired p) (hmedia : AnsweredOnMedia p (.srtpRtp (some packet) nowMs)) :
    Recovered (recovering p (.srtpRtp (some packet) nowMs)) ∧
      Paired (recovering p (.srtpRtp (some packet) nowMs)) := by
  obtain ⟨s, r⟩ := p
  have hanswer : answer? s.sdp r.requested packet = mediaAnswer? s.sdp r.requested packet :=
    hmedia
  have hgenerator : (s.step (.srtpRtp (some packet) nowMs)).videoNackGenerator =
      s.videoNackGenerator := onSrtpRtp_videoNackGenerator
  have htasks : (s.step (.srtpRtp (some packet) nowMs)).workerTasks =
      s.workerTasks ++ (nackTask? s.sdp packet nowMs).toList := onSrtpRtp_workerTasks
  rw [recovering, observe, noteRecovery, hanswer]
  dsimp only
  cases hmediaAnswer : mediaAnswer? s.sdp r.requested packet with
  | none =>
      refine ⟨⟨hgenerator ▸ h.notPending, h.notRequested, h.parsed⟩,
        ⟨hgenerator ▸ hpaired.wellFormed, ?_⟩⟩
      rw [htasks]
      apply List.rel_append hpaired.underway
      rw [List.forall₂_map_right_iff]
      exact List.forall₂_same.mpr fun _ _ _ h => absurd h (by simp)
  | some answer =>
      obtain ⟨seq, original⟩ := answer
      obtain ⟨hvideo, hssrc, rfl, rfl⟩ := mediaAnswer?_eq_some hmediaAnswer
      have hposted := nackTask?_of_media nowMs hvideo hssrc
      have hparsed := parsePacket_mem_of_video nowMs hvideo
      rw [hposted] at htasks
      rw [hposted]
      dsimp only
      rw [if_pos hparsed]
      refine ⟨⟨hgenerator ▸ h.notPending, h.notRequested, h.parsed⟩,
        ⟨hgenerator ▸ hpaired.wellFormed, ?_⟩⟩
      rw [htasks]
      refine List.rel_append hpaired.underway (List.Forall₂.cons ?_ List.Forall₂.nil)
      intro seq hseq
      exact ⟨rfl, Option.some.inj hseq⟩

/-- The task that brings an answer is a task of the video stream for the answered
number. -/
theorem Paired.head_task (hpaired : Paired p) {seq : BitVec 16}
    (h : p.2.underway.head? = some (some seq)) :
    ∃ task, p.1.workerTasks.head? = some task ∧ task.isVideo = true ∧ task.seq = seq := by
  obtain ⟨rest, hunderway⟩ := List.head?_eq_some_iff.mp h
  have hpairs := hpaired.underway
  rw [hunderway] at hpairs
  obtain ⟨task, tasks, hhead, _, htasks⟩ := List.forall₂_cons_right_iff.mp hpairs
  exact ⟨task, by rw [htasks, List.head?_cons], hhead seq rfl⟩

theorem mem_settling {seq : BitVec 16}
    (h : seq ∈ p.2.underway.head?.join.toList ++ p.2.settled) :
    p.2.underway.head? = some (some seq) ∨ seq ∈ p.2.settled := by
  rcases List.mem_append.mp h with h | h
  · exact Or.inl (Option.join_eq_some_iff.mp (Option.mem_toList.mp h))
  · exact Or.inr h

/-- Handling a task of the video stream leaves no settled number pending. -/
theorem settling_not_mem (h : Recovered p) (hpaired : Paired p)
    (hsettles : AnsweredOnMedia p .worker) {task : NackTask} (hhandled : p.1.handled? = some task)
    {seq : BitVec 16} (hseq : seq ∈ p.2.underway.head?.join.toList ++ p.2.settled) :
    seq ∉ (p.1.videoNackGenerator.onReceivedPacket task.seq task.nowMs).nackList := by
  obtain ⟨hhead, hactive⟩ := Option.filter_eq_some_iff.mp hhandled
  simp only [Bool.and_eq_true] at hactive
  obtain ⟨⟨hsafety, hdone⟩, hvideo⟩ := hactive
  have hsettles : Settles p task := hsettles task hhead hvideo
  rcases mem_settling hseq with hanswer | hsettled
  · obtain ⟨task', hhead', _, rfl⟩ := hpaired.head_task hanswer
    obtain rfl := Option.some.inj (hhead.symm.trans hhead')
    by_cases hpending : task.seq ∈ p.1.videoNackGenerator.nackList
    · obtain ⟨_, _, hbelow⟩ := hsettles.behind hanswer hpending
      apply not_mem_onReceivedPacket_self hbelow
      by_contra hinit
      rw [(hpaired.wellFormed.fresh (by simpa using hinit)).1] at hpending
      exact ExtTreeMap.not_mem_empty hpending
    · exact not_mem_onReceivedPacket hpending (not_gapCovers_self hpaired.wellFormed)
  · exact not_mem_onReceivedPacket (h.notPending seq hsettled)
      (hsettles.noGap hsafety hdone seq hsettled)

theorem settling_not_mem_of_not_handled (h : Recovered p) (hpaired : Paired p)
    (hsettles : AnsweredOnMedia p .worker) (hhandled : p.1.handled? = none)
    {seq : BitVec 16} (hseq : seq ∈ p.2.underway.head?.join.toList ++ p.2.settled) :
    seq ∉ p.1.videoNackGenerator.nackList := by
  rcases mem_settling hseq with hanswer | hsettled
  · obtain ⟨task, hhead, hvideo, rfl⟩ := hpaired.head_task hanswer
    intro hpending
    obtain ⟨hsafety, hdone, _⟩ := (hsettles task hhead hvideo).behind hanswer hpending
    simp [handled?, hhead, hsafety, hdone, hvideo] at hhandled
  · exact h.notPending seq hsettled

theorem underway_tail {tasks : List NackTask} {answered : List (Option (BitVec 16))}
    (h : List.Forall₂ Underway tasks answered) :
    List.Forall₂ Underway tasks.tail answered.tail := by
  cases h with
  | nil => exact List.Forall₂.nil
  | cons _ hrest => exact hrest

theorem recovered_worker (h : Recovered p) (hpaired : Paired p)
    (hsettles : AnsweredOnMedia p .worker) :
    Recovered (recovering p .worker) ∧ Paired (recovering p .worker) := by
  have htasks : (p.1.step .worker).workerTasks = p.1.workerTasks.tail := runTask_workerTasks
  have hunderway : List.Forall₂ Underway (p.1.step .worker).workerTasks p.2.underway.tail := by
    rw [htasks]
    exact underway_tail hpaired.underway
  have hsilent : ∀ batch : List (BitVec 16),
      (∀ seq ∈ p.2.underway.head?.join.toList ++ p.2.settled, seq ∉ batch) →
      batch.filter ((p.2.underway.head?.join.toList ++ p.2.settled).contains ·) ++
        p.2.requestedAgain = [] := by
    intro batch hbatch
    rw [h.notRequested, List.append_nil, List.filter_eq_nil_iff]
    intro seq hseq hsettled
    exact hbatch seq (List.contains_iff_mem.mp hsettled) hseq
  cases hhandled : p.1.handled? with
  | none =>
      obtain ⟨hgenerator, hbatch⟩ := runTask_of_not_handled hhandled
      refine ⟨⟨?_, hsilent _ ?_, h.parsed⟩, ⟨?_, hunderway⟩⟩
      · intro seq hseq
        change seq ∉ p.1.runTask.1.videoNackGenerator.nackList
        rw [hgenerator]
        exact settling_not_mem_of_not_handled h hpaired hsettles hhandled hseq
      · intro seq _
        rw [hbatch]
        exact List.not_mem_nil
      · change WellFormed p.1.runTask.1.videoNackGenerator
        rw [hgenerator]
        exact hpaired.wellFormed
  | some task =>
      obtain ⟨hgenerator, hbatch⟩ := runTask_of_handled hhandled
      refine ⟨⟨?_, hsilent _ ?_, h.parsed⟩, ⟨?_, hunderway⟩⟩
      · intro seq hseq
        change seq ∉ p.1.runTask.1.videoNackGenerator.nackList
        rw [hgenerator]
        exact fun hmem => settling_not_mem h hpaired hsettles hhandled hseq
          (NackGenerator.mem_nackList_of_getNackBatch hmem)
      · intro seq hseq
        rw [hbatch]
        exact fun hmem => settling_not_mem h hpaired hsettles hhandled hseq
          (NackGenerator.mem_nackList_of_requested hmem)
      · change WellFormed p.1.runTask.1.videoNackGenerator
        rw [hgenerator]
        exact NackGenerator.wellFormed_getNackBatch
          (NackGenerator.wellFormed_onReceivedPacket hpaired.wellFormed _ _) _

theorem recovered_step {input : Input} (h : Recovered p ∧ Paired p)
    (hinput : AnsweredOnMedia p input) :
    Recovered (recovering p input) ∧ Paired (recovering p input) := by
  cases input with
  | srtpRtp received nowMs =>
      cases received with
      | none => exact h
      | some packet => exact recovered_arrival h.1 h.2 hinput
  | worker => exact recovered_worker h.1 h.2 hinput
  | dtls done =>
      exact ⟨⟨h.1.notPending, h.1.notRequested, h.1.parsed⟩,
        ⟨h.2.wellFormed, h.2.underway⟩⟩

end Steps

/-- In every run whose requests are answered on the media source, every answer that has
been handled closes its request for good. -/
theorem recovered_of_answeredOnMedia {sdp : Sdp} {taskSafety : Bool} {inputs : List Input}
    (hinputs : Admitted recovering AnsweredOnMedia ({ sdp, taskSafety }, {}) inputs) :
    Throughout recovering Recovered ({ sdp, taskSafety }, {}) inputs := by
  have hstart : Recovered ({ sdp, taskSafety }, {}) ∧ Paired ({ sdp, taskSafety }, {}) :=
    ⟨⟨fun _ h => absurd h List.not_mem_nil, rfl, rfl⟩,
      ⟨NackGenerator.wellFormed_initial, List.Forall₂.nil⟩⟩
  have hkept : Throughout recovering (fun p => Recovered p ∧ Paired p)
      ({ sdp, taskSafety }, {}) inputs :=
    throughout_of_admitted hstart (fun _ _ => recovered_step) hinputs
  exact fun front back heq => (hkept front back heq).1

section Constructed

open Foundation.PostedTasks

/-- The constructor of `RtcProducer`; nothing calls `SetAlive` on its flag. -/
def constructed (sdp : Sdp) : RtcProducer where
  sdp := sdp
  taskSafety := SafetyFlag.createDetachedInactive.alive

/-- The posted tasks have been dropped, so that nothing is pending or has been requested. -/
structure Dropping (p : RtcProducer × Recovery) : Prop where
  inactive : p.1.taskSafety = false
  nothingPending : p.1.videoNackGenerator = {}
  nothingRequested : p.2.requested = []

variable {p : RtcProducer × Recovery}

theorem runTask_of_inactive {s : RtcProducer} (h : s.taskSafety = false) :
    s.runTask = ({ s with workerTasks := s.workerTasks.tail }, []) := by
  rw [runTask]
  split
  · rename_i hnil
    rw [hnil, List.tail_nil, ← hnil]
  · rename_i task rest htasks
    rw [htasks, h]
    rfl

theorem onSrtpRtp_taskSafety {s : RtcProducer} {packet : RtpPacketReceived} {nowMs : Int} :
    (s.onSrtpRtp (some packet) nowMs).1.taskSafety = s.taskSafety := by
  rw [onSrtpRtp, depacketize]
  split_ifs <;> rfl

theorem dropping_step (h : Dropping p) (input : Input) : Dropping (recovering p input) := by
  obtain ⟨s, r⟩ := p
  cases input with
  | srtpRtp received nowMs =>
      cases received with
      | none => exact h
      | some packet =>
          have hrequested : (noteRecovery s r (.srtpRtp (some packet) nowMs)).requested =
              r.requested := by
            rw [noteRecovery]
            split <;> rfl
          exact ⟨onSrtpRtp_taskSafety.trans h.inactive,
            onSrtpRtp_videoNackGenerator.trans h.nothingPending,
            hrequested.trans h.nothingRequested⟩
  | worker =>
      have hrun := runTask_of_inactive h.inactive
      refine ⟨?_, ?_, ?_⟩
      · change s.runTask.1.taskSafety = false
        rw [hrun]
        exact h.inactive
      · change s.runTask.1.videoNackGenerator = {}
        rw [hrun]
        exact h.nothingPending
      · change s.runTask.2.flatMap Effect.videoRequests ++ r.requested = []
        rw [hrun]
        exact h.nothingRequested
  | dtls done => exact ⟨h.inactive, h.nothingPending, h.nothingRequested⟩

/-- Where nothing is requested there are no answers, and nothing is pending. -/
theorem Dropping.answeredOnMedia (h : Dropping p) (input : Input) : AnsweredOnMedia p input := by
  cases input with
  | srtpRtp received nowMs =>
      cases received with
      | none => trivial
      | some packet =>
          have hrtx : rtxAnswer? p.1.sdp p.2.requested packet = none := by
            rw [rtxAnswer?, h.nothingRequested]
            split
            · exact if_neg fun hanswer => List.not_mem_nil hanswer.2
            · rfl
          change answer? p.1.sdp p.2.requested packet = _
          rw [answer?, hrtx, Option.or_none]
  | worker =>
      intro task _ _
      refine ⟨fun _ hpending => ?_, fun hactive => ?_⟩
      · rw [h.nothingPending] at hpending
        exact absurd hpending ExtTreeMap.not_mem_empty
      · rw [h.inactive] at hactive
        contradiction
  | dtls done => trivial

end Constructed

end GBServer.RtcProducer
