import GBServer.Foundation.CStrings
import GBServer.Foundation.Metrics
import GBServer.Foundation.Runs
import Mathlib.Tactic.NormNum

namespace GBServer

open Foundation.CStrings
open Foundation.Metrics
open Foundation.Runs

inductive QualityLevel where
  | unknown
  | excellent
  | good
  | fair
  | poor
  deriving DecidableEq, Repr

namespace ConsumerStatistics

structure VideoStats where
  packetsSent : UInt64 := 0
  bytesSent : UInt64 := 0
  rtxPacketsSent : UInt64 := 0
  rtxBytesSent : UInt64 := 0
  packetsLost : UInt32 := 0
  framesSent : UInt32 := 0
  keyFramesSent : UInt32 := 0
  framesEncoded : UInt32 := 0
  nackCount : UInt32 := 0
  pliCount : UInt32 := 0
  firCount : UInt32 := 0
  bitrate : ℚ := 0
  fps : ℚ := 0
  packetLossRate : ℚ := 0

structure AudioStats where
  packetsSent : UInt64 := 0
  bytesSent : UInt64 := 0
  packetsLost : UInt32 := 0
  bitrate : ℚ := 0
  packetLossRate : ℚ := 0

structure RtcpStats where
  srCount : UInt32 := 0
  rrCount : UInt32 := 0
  rtt : ℚ := 0
  jitter : ℚ := 0

structure QualityMetrics where
  mosScore : ℚ := 0
  qualityLevel : QualityLevel := .unknown
  videoQualityScore : ℚ := 0
  audioQualityScore : ℚ := 0

end ConsumerStatistics

open ConsumerStatistics in
structure ConsumerStatistics where
  sessionName : CString
  createdTime : Int
  lastUpdateTime : Int
  videoStats : VideoStats := {}
  audioStats : AudioStats := {}
  rtcpStats : RtcpStats := {}
  qualityMetrics : QualityMetrics := {}
  lastBitrateCalcTime : Int := 0
  lastVideoBytes : UInt64 := 0
  lastAudioBytes : UInt64 := 0
  lastFpsCalcTime : Int := 0
  lastVideoFrames : UInt32 := 0

namespace ConsumerStatistics

inductive Event where
  | onRtpPacketSent (isVideo : Bool) (packetSize : UInt64)
  | onRtxPacketSent (packetSize : UInt64)
  | onFrameSent (isVideo isKeyFrame : Bool)
  | onFrameEncoded (isVideo : Bool)
  | onRtcpSRSent
  | onRtcpRRReceived (packetsLost : UInt32) (jitter : ℚ)
  | onNackSent (count : UInt32)
  | onPliSent
  | onFirSent
  | updateRtt (rttMs : ℚ)
  /-- `CalculateFps` reads the clock again, at `laterMs`. -/
  | update (laterMs : Int)

def construct (sessionName : CString) (nowMs : Int) : ConsumerStatistics :=
  { sessionName, createdTime := nowMs, lastUpdateTime := nowMs }

def updateTimestamp (s : ConsumerStatistics) (nowMs : Int) : ConsumerStatistics :=
  { s with lastUpdateTime := nowMs }

def onRtpPacketSent (s : ConsumerStatistics) (isVideo : Bool) (packetSize : UInt64) :
    ConsumerStatistics :=
  if isVideo then
    { s with videoStats :=
        { s.videoStats with
          packetsSent := s.videoStats.packetsSent + 1
          bytesSent := s.videoStats.bytesSent + packetSize } }
  else
    { s with audioStats :=
        { s.audioStats with
          packetsSent := s.audioStats.packetsSent + 1
          bytesSent := s.audioStats.bytesSent + packetSize } }

def onRtxPacketSent (s : ConsumerStatistics) (packetSize : UInt64) : ConsumerStatistics :=
  { s with videoStats :=
      { s.videoStats with
        rtxPacketsSent := s.videoStats.rtxPacketsSent + 1
        rtxBytesSent := s.videoStats.rtxBytesSent + packetSize } }

def onFrameSent (s : ConsumerStatistics) (isVideo isKeyFrame : Bool) : ConsumerStatistics :=
  if isVideo then
    { s with videoStats :=
        { s.videoStats with
          framesSent := s.videoStats.framesSent + 1
          keyFramesSent := s.videoStats.keyFramesSent + if isKeyFrame then 1 else 0 } }
  else s

def onFrameEncoded (s : ConsumerStatistics) (isVideo : Bool) : ConsumerStatistics :=
  if isVideo then
    { s with videoStats :=
        { s.videoStats with framesEncoded := s.videoStats.framesEncoded + 1 } }
  else s

def onRtcpSRSent (s : ConsumerStatistics) : ConsumerStatistics :=
  { s with rtcpStats := { s.rtcpStats with srCount := s.rtcpStats.srCount + 1 } }

/-- A receiver report counts its losses as video packets, whichever stream it is about. -/
def onRtcpRRReceived (s : ConsumerStatistics) (packetsLost : UInt32) (jitter : ℚ) :
    ConsumerStatistics :=
  { s with
    rtcpStats := { s.rtcpStats with rrCount := s.rtcpStats.rrCount + 1, jitter := jitter }
    videoStats := { s.videoStats with packetsLost := s.videoStats.packetsLost + packetsLost } }

def onNackSent (s : ConsumerStatistics) (count : UInt32) : ConsumerStatistics :=
  { s with videoStats := { s.videoStats with nackCount := s.videoStats.nackCount + count } }

def onPliSent (s : ConsumerStatistics) : ConsumerStatistics :=
  { s with videoStats := { s.videoStats with pliCount := s.videoStats.pliCount + 1 } }

def onFirSent (s : ConsumerStatistics) : ConsumerStatistics :=
  { s with videoStats := { s.videoStats with firCount := s.videoStats.firCount + 1 } }

def updateRtt (s : ConsumerStatistics) (rttMs : ℚ) : ConsumerStatistics :=
  { s with rtcpStats := { s.rtcpStats with rtt := rttMs } }

/-- Kilobits a second, from the bytes sent in `timeDiff` milliseconds. -/
def bitrate (bytesDiff : UInt64) (timeDiff : Int) : ℚ :=
  (bytesDiff.toNat * 8 * 1000) / (timeDiff * 1024)

def calculateBitrate (s : ConsumerStatistics) (currentTime : Int) : ConsumerStatistics :=
  if s.lastBitrateCalcTime = 0 then
    { s with
      lastBitrateCalcTime := currentTime
      lastVideoBytes := s.videoStats.bytesSent
      lastAudioBytes := s.audioStats.bytesSent }
  else if currentTime - s.lastBitrateCalcTime < 1000 then s
  else
    { s with
      videoStats :=
        { s.videoStats with
          bitrate := bitrate (s.videoStats.bytesSent - s.lastVideoBytes)
            (currentTime - s.lastBitrateCalcTime) }
      audioStats :=
        { s.audioStats with
          bitrate := bitrate (s.audioStats.bytesSent - s.lastAudioBytes)
            (currentTime - s.lastBitrateCalcTime) }
      lastBitrateCalcTime := currentTime
      lastVideoBytes := s.videoStats.bytesSent
      lastAudioBytes := s.audioStats.bytesSent }

/-- The loss rate in percent; it keeps its value `rate` while the total is 0. -/
def packetLossRate (packetsSent : UInt64) (packetsLost : UInt32) (rate : ℚ) : ℚ :=
  if packetsSent + packetsLost.toUInt64 > 0 then
    (packetsLost.toNat * 100) / (packetsSent + packetsLost.toUInt64).toNat
  else rate

def calculatePacketLossRate (s : ConsumerStatistics) : ConsumerStatistics :=
  { s with
    videoStats :=
      { s.videoStats with
        packetLossRate := packetLossRate s.videoStats.packetsSent s.videoStats.packetsLost
          s.videoStats.packetLossRate }
    audioStats :=
      { s.audioStats with
        packetLossRate := packetLossRate s.audioStats.packetsSent s.audioStats.packetsLost
          s.audioStats.packetLossRate } }

def calculateFps (s : ConsumerStatistics) (currentTime : Int) : ConsumerStatistics :=
  if s.lastFpsCalcTime = 0 then
    { s with lastFpsCalcTime := currentTime, lastVideoFrames := s.videoStats.framesSent }
  else if currentTime - s.lastFpsCalcTime < 1000 then s
  else
    { s with
      videoStats :=
        { s.videoStats with
          fps := ((s.videoStats.framesSent - s.lastVideoFrames).toNat * 1000) /
            (currentTime - s.lastFpsCalcTime) }
      lastFpsCalcTime := currentTime
      lastVideoFrames := s.videoStats.framesSent }

def packetLossImpact : ℚ → ℚ := lookBelow [(0.5, 30), (1, 25), (3, 20), (5, 10)] (0 : ℚ)

def rttImpact : ℚ → ℚ := lookBelow [(100, 30), (200, 25), (400, 20), (600, 10)] (0 : ℚ)

def jitterImpact : ℚ → ℚ := lookBelow [(30, 20), (50, 15), (100, 10)] (0 : ℚ)

def fpsImpact (fps : ℚ) : ℚ :=
  if fps ≥ 30 then 20 else if fps ≥ 25 then 15 else if fps ≥ 15 then 10 else 0

def videoQualityScore (s : ConsumerStatistics) : ℚ :=
  packetLossImpact s.videoStats.packetLossRate + rttImpact s.rtcpStats.rtt +
    jitterImpact s.rtcpStats.jitter + fpsImpact s.videoStats.fps

def audioQualityScore (s : ConsumerStatistics) : ℚ :=
  min 100 (100 - s.audioStats.packetLossRate * 10)

def mosScore (s : ConsumerStatistics) : ℚ :=
  1 + ((s.videoQualityScore + s.audioQualityScore) / 2 / 100) * 4

def qualityLevelOf (mosScore : ℚ) : QualityLevel :=
  if mosScore ≥ 4 then .excellent
  else if mosScore ≥ 3.5 then .good
  else if mosScore ≥ 3 then .fair
  else .poor

def calculateQualityScore (s : ConsumerStatistics) : ConsumerStatistics :=
  { s with qualityMetrics :=
      { videoQualityScore := s.videoQualityScore
        audioQualityScore := s.audioQualityScore
        mosScore := s.mosScore
        qualityLevel := qualityLevelOf s.mosScore } }

def update (s : ConsumerStatistics) (nowMs laterMs : Int) : ConsumerStatistics :=
  (((s.calculateBitrate nowMs).calculatePacketLossRate).calculateFps laterMs).calculateQualityScore

def step (s : ConsumerStatistics) (call : Int × Event) : ConsumerStatistics :=
  match call.2 with
  | .onRtpPacketSent isVideo packetSize =>
      (s.onRtpPacketSent isVideo packetSize).updateTimestamp call.1
  | .onRtxPacketSent packetSize => (s.onRtxPacketSent packetSize).updateTimestamp call.1
  | .onFrameSent isVideo isKeyFrame => (s.onFrameSent isVideo isKeyFrame).updateTimestamp call.1
  | .onFrameEncoded isVideo => s.onFrameEncoded isVideo
  | .onRtcpSRSent => s.onRtcpSRSent
  | .onRtcpRRReceived packetsLost jitter => s.onRtcpRRReceived packetsLost jitter
  | .onNackSent count => s.onNackSent count
  | .onPliSent => s.onPliSent
  | .onFirSent => s.onFirSent
  | .updateRtt rttMs => s.updateRtt rttMs
  | .update laterMs => s.update call.1 laterMs

/-- The numbers `Update` publishes are on their scales. -/
structure ScoresInRange (s : ConsumerStatistics) : Prop where
  audioLoss : s.audioStats.packetLossRate ∈ Set.Icc 0 100
  video : s.qualityMetrics.videoQualityScore ∈ Set.Icc 0 100
  audio : s.qualityMetrics.audioQualityScore ∈ Set.Icc 0 100
  mos : s.qualityMetrics.mosScore ∈ Set.Icc 1 5

def VideoLossInRange (s : ConsumerStatistics) : Prop :=
  s.videoStats.packetLossRate ∈ Set.Icc 0 100

/-- The video packets sent and lost add up without wrapping around. -/
def CountsFit (s : ConsumerStatistics) : Prop :=
  s.videoStats.packetsSent.toNat + s.videoStats.packetsLost.toNat < 2 ^ 64

def Event.NonNegative : Event → Prop
  | .onRtcpRRReceived _ jitter => 0 ≤ jitter
  | .updateRtt rttMs => 0 ≤ rttMs
  | _ => True

/-- Calls in the order of time, with arguments that are not negative. -/
def Proper (calls : List (Int × Event)) : Prop :=
  (calls.map Prod.fst).Pairwise (· ≤ ·) ∧ ∀ call ∈ calls, call.2.NonNegative

def withConditions (s : ConsumerStatistics) (loss rtt jitter : ℚ) : ConsumerStatistics :=
  { s with
    videoStats := { s.videoStats with packetLossRate := loss }
    rtcpStats := { s.rtcpStats with rtt := rtt, jitter := jitter } }

section Impacts

theorem packetLossImpact_mem (loss : ℚ) : packetLossImpact loss ∈ Set.Icc 0 30 :=
  lookBelow_mem_Icc (by norm_num [values]) loss

theorem rttImpact_mem (rtt : ℚ) : rttImpact rtt ∈ Set.Icc 0 30 :=
  lookBelow_mem_Icc (by norm_num [values]) rtt

theorem jitterImpact_mem (jitter : ℚ) : jitterImpact jitter ∈ Set.Icc 0 20 :=
  lookBelow_mem_Icc (by norm_num [values]) jitter

theorem fpsImpact_mem (fps : ℚ) : fpsImpact fps ∈ Set.Icc 0 20 := by
  unfold fpsImpact
  split_ifs <;> norm_num

theorem packetLossImpact_antitone : Antitone packetLossImpact :=
  lookBelow_antitone (by norm_num [values])

theorem rttImpact_antitone : Antitone rttImpact := lookBelow_antitone (by norm_num [values])

theorem jitterImpact_antitone : Antitone jitterImpact :=
  lookBelow_antitone (by norm_num [values])

theorem videoQualityScore_mem (s : ConsumerStatistics) :
    s.videoQualityScore ∈ Set.Icc 0 100 := by
  have hloss := packetLossImpact_mem s.videoStats.packetLossRate
  have hrtt := rttImpact_mem s.rtcpStats.rtt
  have hjitter := jitterImpact_mem s.rtcpStats.jitter
  have hfps := fpsImpact_mem s.videoStats.fps
  rw [Set.mem_Icc] at *
  unfold videoQualityScore
  constructor <;> linarith

theorem mosScore_antitone (s : ConsumerStatistics) {loss loss' rtt rtt' jitter jitter' : ℚ}
    (hloss : loss ≤ loss') (hrtt : rtt ≤ rtt') (hjitter : jitter ≤ jitter') :
    (s.withConditions loss' rtt' jitter').calculateQualityScore.qualityMetrics.mosScore ≤
      (s.withConditions loss rtt jitter).calculateQualityScore.qualityMetrics.mosScore := by
  have h1 := packetLossImpact_antitone hloss
  have h2 := rttImpact_antitone hrtt
  have h3 := jitterImpact_antitone hjitter
  simp only [calculateQualityScore, mosScore, videoQualityScore, audioQualityScore,
    withConditions]
  linarith

end Impacts

section Update

theorem calculateBitrate_videoStats (s : ConsumerStatistics) (nowMs : Int) :
    (s.calculateBitrate nowMs).videoStats =
      { s.videoStats with bitrate := (s.calculateBitrate nowMs).videoStats.bitrate } := by
  unfold calculateBitrate
  split_ifs <;> rfl

theorem calculateBitrate_audioStats (s : ConsumerStatistics) (nowMs : Int) :
    (s.calculateBitrate nowMs).audioStats =
      { s.audioStats with bitrate := (s.calculateBitrate nowMs).audioStats.bitrate } := by
  unfold calculateBitrate
  split_ifs <;> rfl

theorem calculateFps_videoStats (s : ConsumerStatistics) (nowMs : Int) :
    (s.calculateFps nowMs).videoStats =
      { s.videoStats with fps := (s.calculateFps nowMs).videoStats.fps } := by
  unfold calculateFps
  split_ifs <;> rfl

theorem calculateFps_audioStats (s : ConsumerStatistics) (nowMs : Int) :
    (s.calculateFps nowMs).audioStats = s.audioStats := by
  unfold calculateFps
  split_ifs <;> rfl

theorem update_video_packetLossRate (s : ConsumerStatistics) (nowMs laterMs : Int) :
    (s.update nowMs laterMs).videoStats.packetLossRate =
      packetLossRate s.videoStats.packetsSent s.videoStats.packetsLost
        s.videoStats.packetLossRate := by
  simp only [update, calculateQualityScore]
  rw [calculateFps_videoStats]
  simp only [calculatePacketLossRate]
  rw [calculateBitrate_videoStats]

theorem update_audioStats (s : ConsumerStatistics) (nowMs laterMs : Int) :
    (s.update nowMs laterMs).audioStats =
      { s.audioStats with
        bitrate := (s.calculateBitrate nowMs).audioStats.bitrate
        packetLossRate := packetLossRate s.audioStats.packetsSent s.audioStats.packetsLost
          s.audioStats.packetLossRate } := by
  simp only [update, calculateQualityScore]
  rw [calculateFps_audioStats]
  simp only [calculatePacketLossRate]
  rw [calculateBitrate_audioStats]

theorem packetLossRate_mem {packetsSent : UInt64} {packetsLost : UInt32} {rate : ℚ}
    (hrate : rate ∈ Set.Icc 0 100) (hfit : packetsSent.toNat + packetsLost.toNat < 2 ^ 64) :
    packetLossRate packetsSent packetsLost rate ∈ Set.Icc 0 100 := by
  have htotal : (packetsSent + packetsLost.toUInt64).toNat =
      packetsSent.toNat + packetsLost.toNat := by
    rw [UInt64.toNat_add, UInt32.toNat_toUInt64, Nat.mod_eq_of_lt hfit]
  unfold packetLossRate
  split
  case isFalse => exact hrate
  case isTrue hpos =>
    have hpos' : 0 < packetsSent.toNat + packetsLost.toNat :=
      htotal ▸ UInt64.lt_iff_toNat_lt.mp hpos
    have hposq : (0 : ℚ) < packetsSent.toNat + packetsLost.toNat := by exact_mod_cast hpos'
    have hsent : (0 : ℚ) ≤ packetsSent.toNat := Nat.cast_nonneg _
    have hlost : (0 : ℚ) ≤ packetsLost.toNat := Nat.cast_nonneg _
    rw [htotal, Nat.cast_add, Set.mem_Icc, div_le_iff₀ hposq]
    exact ⟨by positivity, by linarith⟩

theorem step_video_packetLossRate {s : ConsumerStatistics} {call : Int × Event}
    (h : ∀ laterMs, call.2 ≠ .update laterMs) :
    (s.step call).videoStats.packetLossRate = s.videoStats.packetLossRate := by
  obtain ⟨nowMs, event⟩ := call
  cases event with
  | onRtpPacketSent isVideo packetSize => cases isVideo <;> rfl
  | onFrameSent isVideo isKeyFrame => cases isVideo <;> rfl
  | onFrameEncoded isVideo => cases isVideo <;> rfl
  | update laterMs => exact absurd rfl (h laterMs)
  | onRtxPacketSent | onRtcpSRSent | onRtcpRRReceived | onNackSent | onPliSent | onFirSent
  | updateRtt => rfl

end Update

structure AudioLossFree (s : ConsumerStatistics) : Prop where
  packetsLost : s.audioStats.packetsLost = 0
  packetLossRate : s.audioStats.packetLossRate = 0

theorem AudioLossFree.step {s : ConsumerStatistics} (h : s.AudioLossFree) (call : Int × Event) :
    (s.step call).AudioLossFree := by
  obtain ⟨nowMs, event⟩ := call
  cases event with
  | onRtpPacketSent isVideo packetSize => cases isVideo <;> exact ⟨h.1, h.2⟩
  | onFrameSent isVideo isKeyFrame => cases isVideo <;> exact ⟨h.1, h.2⟩
  | onFrameEncoded isVideo => cases isVideo <;> exact ⟨h.1, h.2⟩
  | update laterMs =>
      have haudio := update_audioStats s nowMs laterMs
      change (s.update nowMs laterMs).AudioLossFree
      constructor
      · rw [haudio]
        exact h.packetsLost
      · rw [haudio]
        simp [ConsumerStatistics.packetLossRate, h.packetsLost, h.packetLossRate]
  | onRtxPacketSent | onRtcpSRSent | onRtcpRRReceived | onNackSent | onPliSent | onFirSent
  | updateRtt => exact ⟨h.1, h.2⟩

theorem AudioLossFree.scoresInRange_update {s : ConsumerStatistics} (h : s.AudioLossFree)
    (nowMs laterMs : Int) : (s.update nowMs laterMs).ScoresInRange := by
  have hloss : (s.update nowMs laterMs).audioStats.packetLossRate = 0 :=
    (h.step (nowMs, .update laterMs)).packetLossRate
  set t := ((s.calculateBitrate nowMs).calculatePacketLossRate).calculateFps laterMs with ht
  have hupdate : s.update nowMs laterMs = t.calculateQualityScore := rfl
  have haudio : t.audioQualityScore = 100 := by
    rw [hupdate] at hloss
    simp only [calculateQualityScore] at hloss
    rw [audioQualityScore, hloss]
    norm_num
  have hvideo := t.videoQualityScore_mem
  rw [hupdate] at hloss ⊢
  refine ⟨by rw [hloss]; norm_num, hvideo, ?_, ?_⟩
  · change t.audioQualityScore ∈ _
    rw [haudio]
    norm_num
  · change t.mosScore ∈ _
    rw [Set.mem_Icc] at hvideo ⊢
    rw [mosScore, haudio]
    constructor <;> linarith

/-- An update leaves the video loss rate in range unless its total has wrapped around. -/
theorem VideoLossInRange.step {s : ConsumerStatistics} (h : s.VideoLossInRange)
    {call : Int × Event} (hfit : ∀ laterMs, call.2 = .update laterMs → s.CountsFit) :
    (s.step call).VideoLossInRange := by
  by_cases hupdate : ∃ laterMs, call.2 = .update laterMs
  · obtain ⟨laterMs, hevent⟩ := hupdate
    have hstep : s.step call = s.update call.1 laterMs := by rw [ConsumerStatistics.step, hevent]
    rw [VideoLossInRange, hstep, update_video_packetLossRate]
    exact packetLossRate_mem h (hfit laterMs hevent)
  · rw [VideoLossInRange, step_video_packetLossRate (not_exists.mp hupdate)]
    exact h

/-- The updates of a run see counts that fit. -/
def UpdatesFit (s : ConsumerStatistics) (call : Int × Event) : Prop :=
  ∀ laterMs, call.2 = .update laterMs → s.CountsFit

/-- After every update the scores are in range, the video loss rate as long as the counts
fit, and better conditions do not lower the MOS. -/
theorem scoresInRange_and_videoLossInRange (sessionName : CString) (createdMs : Int) :
    (∀ (calls : List (Int × Event)) (nowMs laterMs : Int),
      (run step (construct sessionName createdMs)
        (calls ++ [(nowMs, .update laterMs)])).ScoresInRange) ∧
    (∀ calls : List (Int × Event),
      Admitted step UpdatesFit (construct sessionName createdMs) calls →
        (run step (construct sessionName createdMs) calls).VideoLossInRange) ∧
    ∀ (s : ConsumerStatistics) (loss loss' rtt rtt' jitter jitter' : ℚ),
      loss ≤ loss' → rtt ≤ rtt' → jitter ≤ jitter' →
      (s.withConditions loss' rtt' jitter').calculateQualityScore.qualityMetrics.mosScore ≤
        (s.withConditions loss rtt jitter).calculateQualityScore.qualityMetrics.mosScore := by
  refine ⟨?_, ?_, ?_⟩
  · intro calls nowMs laterMs
    rw [run_concat]
    have hreached : (run step (construct sessionName createdMs) calls).AudioLossFree :=
      invariant_run_of_step ⟨rfl, rfl⟩ (fun _ call h => h.step call) calls
    exact hreached.scoresInRange_update nowMs laterMs
  · intro calls hfit
    refine invariant_run ?_ (fun s call h hok => h.step hok) hfit
    exact ⟨le_refl 0, by norm_num [construct]⟩
  · intro s loss loss' rtt rtt' jitter jitter' hloss hrtt hjitter
    exact s.mosScore_antitone hloss hrtt hjitter

section Wraparound

theorem run_replicate_sent (s : ConsumerStatistics) (n : Nat) :
    (run step s (List.replicate n (0, .onRtpPacketSent true 0))).videoStats.packetsSent =
        s.videoStats.packetsSent + UInt64.ofNat n ∧
      (run step s (List.replicate n (0, .onRtpPacketSent true 0))).videoStats.packetsLost =
        s.videoStats.packetsLost := by
  induction n generalizing s with
  | zero => simp
  | succ n ih =>
      have hnext := ih (s.step (0, .onRtpPacketSent true 0))
      rw [List.replicate_succ, run_cons]
      refine ⟨hnext.1.trans ?_, hnext.2⟩
      change s.videoStats.packetsSent + 1 + UInt64.ofNat n = _
      rw [UInt64.ofNat_add, UInt64.add_assoc, UInt64.add_comm (UInt64.ofNat n)]
      rfl

def sentAndLost (sent : Nat) : List (Int × Event) :=
  List.replicate sent (0, .onRtpPacketSent true 0) ++ [(0, .onRtcpRRReceived 2 0)]

theorem run_sentAndLost (sent : Nat) :
    (run step (construct [] 0) (sentAndLost sent)).videoStats.packetsSent = UInt64.ofNat sent ∧
      (run step (construct [] 0) (sentAndLost sent)).videoStats.packetsLost = 2 := by
  have hsent := run_replicate_sent (construct [] 0) sent
  rw [sentAndLost, run_concat]
  constructor
  · exact hsent.1.trans (UInt64.zero_add _)
  · change _ + 2 = (2 : UInt32)
    rw [hsent.2]
    rfl

theorem proper_sentAndLost (sent : Nat) : Proper (sentAndLost sent ++ [(0, .update 0)]) := by
  have hcalls : ∀ call ∈ sentAndLost sent ++ [(0, .update 0)],
      call.1 = 0 ∧ call.2.NonNegative := by
    intro call hcall
    rcases List.mem_append.mp hcall with hcall | hupdate
    · rcases List.mem_append.mp hcall with hsent | hreport
      · obtain rfl := List.eq_of_mem_replicate hsent
        exact ⟨rfl, trivial⟩
      · obtain rfl := List.mem_singleton.mp hreport
        exact ⟨rfl, le_refl 0⟩
    · obtain rfl := List.mem_singleton.mp hupdate
      exact ⟨rfl, trivial⟩
  refine ⟨?_, fun call hcall => (hcalls call hcall).2⟩
  rw [List.pairwise_map]
  refine List.pairwise_of_forall_mem_list fun call hcall call' hcall' => ?_
  rw [(hcalls call hcall).1, (hcalls call' hcall').1]

theorem packetLossRate_wrapped (rate : ℚ) : packetLossRate 0xFFFFFFFFFFFFFFFF 2 rate = 200 := by
  have htotal : (0xFFFFFFFFFFFFFFFF + (2 : UInt32).toUInt64 : UInt64).toNat = 1 := by decide
  have hlost : (2 : UInt32).toNat = 2 := by decide
  rw [packetLossRate, if_pos (by decide), htotal, hlost]
  norm_num

/-- With as many packets as the counter holds the total wraps around to 1, and the loss
rate is 200. -/
theorem not_inRange_sentAndLost :
    ¬ ∀ (sessionName : CString) (createdMs : Int) (calls : List (Int × Event))
        (nowMs laterMs : Int), Proper (calls ++ [(nowMs, .update laterMs)]) →
      (run step (construct sessionName createdMs)
          (calls ++ [(nowMs, .update laterMs)])).ScoresInRange ∧
        (run step (construct sessionName createdMs)
          (calls ++ [(nowMs, .update laterMs)])).VideoLossInRange := by
  intro hall
  have hlast : UInt64.ofNat (2 ^ 64 - 1) = 0xFFFFFFFFFFFFFFFF := by decide
  generalize 2 ^ 64 - 1 = sent at hlast
  have hrange := (hall [] 0 (sentAndLost sent) 0 0 (proper_sentAndLost sent)).2
  have hcounts := run_sentAndLost sent
  rw [VideoLossInRange, run_concat] at hrange
  change (update _ 0 0).videoStats.packetLossRate ∈ _ at hrange
  rw [update_video_packetLossRate, hcounts.1, hcounts.2, hlast, packetLossRate_wrapped] at hrange
  norm_num at hrange

end Wraparound

end ConsumerStatistics

end GBServer
