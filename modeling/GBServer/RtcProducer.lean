import GBServer.NackGenerator

/-!
The receiving side of a WebRTC publisher.  On the network thread `OnSrtpRtp`
depacketises what arrives and posts the sequence numbers of the two media streams
to the worker thread, where `ProcessIncomingSeqOnWorker` requests what is missing.
-/

namespace GBServer

open Foundation.Runs

/-- The negotiated types and sources that `OnSrtpRtp` compares with; the type of an
absent medium is `-1`. -/
structure Sdp where
  videoPayloadType : Int
  videoPayloadRtxType : Int
  audioPayloadType : Int
  videoSsrc : BitVec 32
  audioSsrc : BitVec 32
  deriving DecidableEq, Repr

def Sdp.h264Opus : Sdp where
  videoPayloadType := 96
  videoPayloadRtxType := 97
  audioPayloadType := 111
  videoSsrc := 1
  audioSsrc := 2

structure RtpPacketReceived where
  payloadType : UInt8
  sequenceNumber : BitVec 16
  timestamp : BitVec 32
  ssrc : BitVec 32
  marker : Bool
  payload : List UInt8
  deriving DecidableEq, Repr

/-- What the task posted by `OnSrtpRtp` captures. -/
structure NackTask where
  isVideo : Bool
  seq : BitVec 16
  mediaSsrc : BitVec 32
  nowMs : Int

/-- The data of an image is kept as the packets whose NAL data it is made of. -/
structure EncodedImage where
  timestamp : BitVec 32
  encodedData : List RtpPacketReceived
  deriving DecidableEq, Repr

/-- `nalParse` is `buffer_stream_` up to `buffer_index_`, kept as the packets whose NAL
data it holds.  `taskSafety` says whether the flag of the posted tasks lets them run. -/
structure RtcProducer where
  sdp : Sdp
  taskSafety : Bool
  dtlsDone : Bool := false
  nalParse : List RtpPacketReceived := []
  videoNackGenerator : NackGenerator := {}
  audioNackGenerator : NackGenerator := {}
  workerTasks : List NackTask := []

namespace RtcProducer

def isVideo (sdp : Sdp) (packet : RtpPacketReceived) : Bool :=
  (packet.payloadType.toNat : Int) = sdp.videoPayloadType

def isAudio (sdp : Sdp) (packet : RtpPacketReceived) : Bool :=
  (packet.payloadType.toNat : Int) = sdp.audioPayloadType

/-- The task that `OnSrtpRtp` posts: only the two media streams are watched for gaps. -/
def nackTask? (sdp : Sdp) (packet : RtpPacketReceived) (nowMs : Int) : Option NackTask :=
  let nackVideo := isVideo sdp packet && packet.ssrc == sdp.videoSsrc
  let nackAudio := !isVideo sdp packet && sdp.audioPayloadType != -1 && isAudio sdp packet &&
    packet.ssrc == sdp.audioSsrc
  if nackVideo || nackAudio then
    some { isVideo := nackVideo, seq := packet.sequenceNumber, mediaSsrc := packet.ssrc, nowMs }
  else none

inductive Effect where
  | parsePacket (payload : List UInt8)
  | addAudioFrame (payload : List UInt8) (timestamp : BitVec 32)
  | addVideoFrame (image : EncodedImage)
  | sendNack (isVideo : Bool) (mediaSsrc : BitVec 32) (packetIds : List (BitVec 16))
  deriving DecidableEq, Repr

def depacketize (s : RtcProducer) (packet : RtpPacketReceived) : RtcProducer × List Effect :=
  if isVideo s.sdp packet then
    let buffer := s.nalParse ++ [packet]
    if packet.marker then
      ({ s with nalParse := [] },
        [.parsePacket packet.payload,
          .addVideoFrame { timestamp := packet.timestamp / 90, encodedData := buffer }])
    else ({ s with nalParse := buffer }, [.parsePacket packet.payload])
  else if isAudio s.sdp packet then
    (s, [.addAudioFrame packet.payload (packet.timestamp / 90)])
  else (s, [])

/-- `received` is what `DecryptSrtp` and `Parse` make of the datagram. -/
def onSrtpRtp (s : RtcProducer) (received : Option RtpPacketReceived) (nowMs : Int) :
    RtcProducer × List Effect :=
  match received with
  | none => (s, [])
  | some packet =>
      depacketize
        { s with workerTasks := s.workerTasks ++ (nackTask? s.sdp packet nowMs).toList } packet

def processIncomingSeqOnWorker (s : RtcProducer) (task : NackTask) :
    RtcProducer × List Effect :=
  if !s.dtlsDone then (s, [])
  else
    let generator := if task.isVideo then s.videoNackGenerator else s.audioNackGenerator
    let result := (generator.onReceivedPacket task.seq task.nowMs).getNackBatch task.nowMs
    (if task.isVideo then { s with videoNackGenerator := result.1 }
      else { s with audioNackGenerator := result.1 },
      if result.2.isEmpty then [] else [.sendNack task.isVideo task.mediaSsrc result.2])

def runTask (s : RtcProducer) : RtcProducer × List Effect :=
  match s.workerTasks with
  | [] => (s, [])
  | task :: rest =>
      if s.taskSafety then processIncomingSeqOnWorker { s with workerTasks := rest } task
      else ({ s with workerTasks := rest }, [])

inductive Input where
  | srtpRtp (received : Option RtpPacketReceived) (nowMs : Int)
  | worker
  /-- `OnDtlsConnected`, or `OnDtlsClosed` and `OnDtlsFailed`. -/
  | dtls (done : Bool)

def handle (s : RtcProducer) : Input → RtcProducer × List Effect
  | .srtpRtp received nowMs => s.onSrtpRtp received nowMs
  | .worker => s.runTask
  | .dtls done => ({ s with dtlsDone := done }, [])

def step (s : RtcProducer) (input : Input) : RtcProducer := (s.handle input).1

theorem processIncomingSeqOnWorker_nalParse (s : RtcProducer) (task : NackTask) :
    (s.processIncomingSeqOnWorker task).1.nalParse = s.nalParse := by
  rw [processIncomingSeqOnWorker]
  split
  · rfl
  · dsimp only
    split <;> rfl

theorem runTask_nalParse (s : RtcProducer) : s.runTask.1.nalParse = s.nalParse := by
  rw [runTask]
  split
  · rfl
  · split
    · exact processIncomingSeqOnWorker_nalParse _ _
    · rfl

theorem step_sdp (s : RtcProducer) (input : Input) : (s.step input).sdp = s.sdp := by
  cases input with
  | dtls done => rfl
  | srtpRtp received nowMs =>
      cases received with
      | none => rfl
      | some packet =>
          rw [step, handle, onSrtpRtp, depacketize]
          split_ifs <;> rfl
  | worker =>
      rw [step, handle, runTask]
      split
      · rfl
      · rw [processIncomingSeqOnWorker]
        split_ifs <;> rfl

end RtcProducer

end GBServer
