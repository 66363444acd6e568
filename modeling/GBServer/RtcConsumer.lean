import GBServer.Foundation.Rounding
import GBServer.Foundation.Runs
import GBServer.NalRepackaging

namespace GBServer

open Foundation.Rounding
open Foundation.Runs

structure BandwidthEstimation where
  minBitrateBps : Int := 100000
  maxBitrateBps : Int := 10000000
  targetBitrateBps : Int := 500000
  -- the constructor leaves it as it is
  rttMs : Int
  lastUpdateTimeMs : Int := 0
  packetsLost : Int := 0
  packetsReceived : Int := 0
  lastFractionLoss : Int := 0
  deriving DecidableEq, Repr

namespace BandwidthEstimation

/-- The product with the double `mantissa * 2 ^ -exponent`, cut to a whole number. -/
def scaled (bitrateBps : Int) (mantissa exponent : Nat) : Int :=
  bitrateBps.sign * (roundNearest 53 (bitrateBps.natAbs * mantissa) / 2 ^ exponent : Nat)

def setBitrates (b : BandwidthEstimation) (minBps maxBps initialBps : Int) :
    BandwidthEstimation :=
  { b with
    minBitrateBps := minBps
    maxBitrateBps := maxBps
    targetBitrateBps := max minBps (min maxBps initialBps) }

def updateBitrate (b : BandwidthEstimation) (lossFraction : Int) : BandwidthEstimation :=
  let target :=
    -- the doubles next to 0.7, 0.85 and 1.1
    if 20 < lossFraction then scaled b.targetBitrateBps 6305039478318694 53
    else if 10 < lossFraction then scaled b.targetBitrateBps 7656119366529843 53
    else if lossFraction < 2 ∧ b.rttMs < 100 then scaled b.targetBitrateBps 4953959590107546 52
    else b.targetBitrateBps
  { b with targetBitrateBps := max b.minBitrateBps (min b.maxBitrateBps target) }

def updatePacketsLost (b : BandwidthEstimation) (lost expected nowMs : Int) :
    BandwidthEstimation :=
  let b := { b with packetsLost := lost, packetsReceived := expected }
  if 0 < expected then
    let fraction := (lost * 100).tdiv expected
    let b := { b with lastFractionLoss := fraction.bmod (2 ^ 32) }
    if 1000 < nowMs - b.lastUpdateTimeMs then
      { b.updateBitrate fraction with lastUpdateTimeMs := nowMs }
    else b
  else b

def updateRtt (b : BandwidthEstimation) (rttMs : Int) : BandwidthEstimation := { b with rttMs }

end BandwidthEstimation

/-- The fields of a report block that `OnSrtpRtcp` computes with. -/
structure ReportBlock where
  sourceSsrc : UInt32
  cumulativeLost : Int
  extendedHighSeqNum : UInt32
  lastSr : UInt32
  delaySinceLastSr : UInt32
  deriving DecidableEq, Repr

structure SenderReport where
  senderSsrc : UInt32
  ntp : UInt64
  rtpTimestamp : UInt32
  packetCount : UInt32
  octetCount : UInt32
  deriving DecidableEq, Repr

/-- The middle 32 bits of the NTP time, by which a report block names a sender report. -/
def SenderReport.compactNtp (report : SenderReport) : UInt32 := (report.ntp >>> 16).toUInt32

structure VideoPacket where
  sequenceNumber : UInt16
  timestamp : UInt32
  payload : List UInt8
  deriving DecidableEq, Repr

structure RtcConsumer where
  videoSsrc : UInt32
  videoSeq : UInt32 := 100
  dtlsDone : Bool := false
  srtpSendSession : Bool := false
  srRtpTimestamp : UInt32 := 0
  srPacketCount : UInt32 := 0
  srOctetCount : UInt32 := 0
  lastSrSendTimeMs : Int := 0
  bandwidthEstimation : BandwidthEstimation
  deriving DecidableEq, Repr

namespace RtcConsumer

/-- A new viewer; `rttMs` is what the memory of its bandwidth estimation held. -/
def fresh (videoSsrc : UInt32) (rttMs : Int) : RtcConsumer where
  videoSsrc := videoSsrc
  bandwidthEstimation := { rttMs }

inductive Effect where
  | rtp (packet : VideoPacket)
  | frameSent (isKeyFrame : Bool)
  | senderReport (report : SenderReport) (nowMs : Int)
  deriving DecidableEq, Repr

/-- The loop over the packets of a frame; `packets` are the payloads that the calls of
`NextPacket` give, where they succeed. -/
def sendPackets (s : RtcConsumer) (rtpTimestamp : UInt32) :
    List (Option (List UInt8)) → RtcConsumer × List Effect
  | [] => (s, [])
  | none :: _ => (s, [])
  | some payload :: rest =>
      let packet := { sequenceNumber := s.videoSeq.toUInt16, timestamp := rtpTimestamp, payload }
      let (s, later) := sendPackets { s with videoSeq := s.videoSeq + 1 } rtpTimestamp rest
      (s, .rtp packet :: later)

/-- The check in front of `OnFrameSent`: the type in the fifth byte. -/
def isKeyFrame (data : List UInt8) : Bool :=
  match data[4]? with
  | some byte => byte &&& 0x1F == 5
  | none => false

/-- `OnVideoFrame` gets past its three checks. -/
def takes (s : RtcConsumer) (frame : NalRepackaging.EncodedImage) : Bool :=
  s.dtlsDone && 5 ≤ frame.data.length && s.srtpSendSession

def onVideoFrame (s : RtcConsumer) (frame : NalRepackaging.EncodedImage)
    (packets : List (Option (List UInt8))) : RtcConsumer × List Effect :=
  if !s.takes frame then (s, [])
  else
    let rtpTimestamp := frame.timestamp * 90
    let (s, sent) := sendPackets
      { s with
        srRtpTimestamp := rtpTimestamp
        srPacketCount := s.srPacketCount + 1
        srOctetCount := s.srOctetCount + UInt32.ofNat frame.data.length }
      rtpTimestamp packets
    (s, sent ++ [.frameSent (isKeyFrame frame.data)])

def sendSenderReport (s : RtcConsumer) (ntp : UInt64) (nowMs : Int) :
    RtcConsumer × List Effect :=
  if !s.dtlsDone then (s, [])
  else
    ({ s with lastSrSendTimeMs := nowMs },
      [.senderReport
        { senderSsrc := s.videoSsrc
          ntp
          rtpTimestamp := s.srRtpTimestamp
          packetCount := s.srPacketCount
          octetCount := s.srOctetCount } nowMs])

/-- `OnTimer` as far as it leaves a trace here. -/
def onTimer (s : RtcConsumer) (ntp : UInt64) (nowMs : Int) : RtcConsumer × List Effect :=
  if !s.dtlsDone then (s, []) else s.sendSenderReport ntp nowMs

def initBandwidthEstimation (s : RtcConsumer) : RtcConsumer :=
  { s with
    bandwidthEstimation := s.bandwidthEstimation.setBitrates 100000 10000000 500000 }

def onDtlsConnected (s : RtcConsumer) (srtpSendSession : Bool) (ntp : UInt64) (nowMs : Int) :
    RtcConsumer × List Effect :=
  ({ s with srtpSendSession, dtlsDone := true }).initBandwidthEstimation.onTimer ntp nowMs

/-- `packets_expected`: the difference is taken in 32 bits and then widened. -/
def packetsExpected (s : RtcConsumer) (block : ReportBlock) : Int :=
  (block.extendedHighSeqNum - s.videoSeq + 1).toNat

def delayMs? (block : ReportBlock) : Option Int :=
  if 0 < block.lastSr ∧ 0 < block.delaySinceLastSr then
    some ((block.delaySinceLastSr * 1000) / 65536).toNat
  else none

/-- The RR branch of `OnSrtpRtcp` for one block; `nowMs` is `GetSystemTimeMs`. -/
def onReportBlock (nowMs : Int) (s : RtcConsumer) (block : ReportBlock) : RtcConsumer :=
  if block.sourceSsrc ≠ s.videoSsrc then s
  else
    let b := s.bandwidthEstimation.updatePacketsLost block.cumulativeLost
      (s.packetsExpected block) nowMs
    match delayMs? block with
    | some delayMs => { s with bandwidthEstimation := b.updateRtt delayMs }
    | none => { s with bandwidthEstimation := b }

def onReceiverReport (s : RtcConsumer) (blocks : List ReportBlock) (nowMs : Int) : RtcConsumer :=
  blocks.foldl (onReportBlock nowMs) s

inductive Input where
  | videoFrame (frame : NalRepackaging.EncodedImage) (packets : List (Option (List UInt8)))
  | receiverReport (blocks : List ReportBlock) (nowMs : Int)
  | timer (ntp : UInt64) (nowMs : Int)
  | dtlsConnected (srtpSendSession : Bool) (ntp : UInt64) (nowMs : Int)
  /-- `OnDtlsClosed` or `OnDtlsFailed`. -/
  | dtlsClosed

def handle (s : RtcConsumer) : Input → RtcConsumer × List Effect
  | .videoFrame frame packets => s.onVideoFrame frame packets
  | .receiverReport blocks nowMs => (s.onReceiverReport blocks nowMs, [])
  | .timer ntp nowMs => s.onTimer ntp nowMs
  | .dtlsConnected srtpSendSession ntp nowMs => s.onDtlsConnected srtpSendSession ntp nowMs
  | .dtlsClosed => ({ s with dtlsDone := false }, [])

def step (s : RtcConsumer) (input : Input) : RtcConsumer := (s.handle input).1

def noteEffects (s : RtcConsumer) (effects : List Effect) (input : Input) : List Effect :=
  effects ++ (s.handle input).2

def effects (s : RtcConsumer) (inputs : List Input) : List Effect :=
  (run (observe step noteEffects) (s, []) inputs).2

theorem sendPackets_fst (s : RtcConsumer) (rtpTimestamp : UInt32)
    (packets : List (Option (List UInt8))) :
    ∃ videoSeq, (s.sendPackets rtpTimestamp packets).1 = { s with videoSeq } := by
  induction packets generalizing s with
  | nil => exact ⟨s.videoSeq, rfl⟩
  | cons next rest ih =>
      cases next with
      | none => exact ⟨s.videoSeq, rfl⟩
      | some payload =>
          obtain ⟨videoSeq, hlater⟩ := ih { s with videoSeq := s.videoSeq + 1 }
          exact ⟨videoSeq, hlater⟩

theorem onVideoFrame_of_not_takes {s : RtcConsumer} {frame : NalRepackaging.EncodedImage}
    (h : s.takes frame = false) (packets : List (Option (List UInt8))) :
    s.onVideoFrame frame packets = (s, []) := by
  rw [onVideoFrame, h]
  rfl

/-- Of a viewer a frame changes the counters and the sequence number only. -/
theorem onVideoFrame_fst {s : RtcConsumer} {frame : NalRepackaging.EncodedImage}
    (h : s.takes frame = true) (packets : List (Option (List UInt8))) :
    ∃ videoSeq, (s.onVideoFrame frame packets).1 =
      { s with
        srRtpTimestamp := frame.timestamp * 90
        srPacketCount := s.srPacketCount + 1
        srOctetCount := s.srOctetCount + UInt32.ofNat frame.data.length
        videoSeq := videoSeq } := by
  rw [onVideoFrame, h, Bool.not_true, if_neg Bool.false_ne_true]
  exact sendPackets_fst _ _ packets

theorem sendSenderReport_fst (s : RtcConsumer) (ntp : UInt64) (nowMs : Int) :
    ∃ lastSrSendTimeMs, (s.sendSenderReport ntp nowMs).1 = { s with lastSrSendTimeMs } := by
  rw [sendSenderReport]
  split
  · exact ⟨s.lastSrSendTimeMs, rfl⟩
  · exact ⟨nowMs, rfl⟩

theorem mem_sendPackets {s : RtcConsumer} {rtpTimestamp : UInt32}
    {packets : List (Option (List UInt8))} {effect : Effect}
    (h : effect ∈ (s.sendPackets rtpTimestamp packets).2) : ∃ packet, effect = .rtp packet := by
  induction packets generalizing s with
  | nil => exact absurd h List.not_mem_nil
  | cons next rest ih =>
      cases next with
      | none => exact absurd h List.not_mem_nil
      | some payload =>
          rcases List.mem_cons.mp h with rfl | hlater
          · exact ⟨_, rfl⟩
          · exact ih hlater

theorem frameSent_mem_onVideoFrame {s : RtcConsumer} {frame : NalRepackaging.EncodedImage}
    {packets : List (Option (List UInt8))} {flag : Bool} :
    .frameSent flag ∈ (s.onVideoFrame frame packets).2 ↔
      s.takes frame = true ∧ flag = isKeyFrame frame.data := by
  rw [onVideoFrame]
  cases s.takes frame with
  | false => simp
  | true =>
      rw [Bool.not_true, if_neg Bool.false_ne_true]
      dsimp only
      rw [List.mem_append, List.mem_singleton, Effect.frameSent.injEq, and_iff_right rfl]
      refine or_iff_right fun hsent => ?_
      obtain ⟨_, hpacket⟩ := mem_sendPackets hsent
      cases hpacket

theorem onTimer_eq (s : RtcConsumer) (ntp : UInt64) (nowMs : Int) :
    s.onTimer ntp nowMs = s.sendSenderReport ntp nowMs := by
  rw [onTimer, sendSenderReport]
  split
  · rfl
  · rfl

end RtcConsumer

end GBServer
