import GBServer.ConsumerStatistics
import GBServer.FailedRequests
import GBServer.Foundation.Guards
import Mathlib.Logic.Function.Basic

namespace GBServer.StatisticsLocks

open Foundation.CStrings
open Foundation.Guards

namespace ProducerStatistics

structure VideoStats where
  packetsReceived : UInt64 := 0
  bytesReceived : UInt64 := 0
  packetsLost : UInt32 := 0
  framesReceived : UInt32 := 0
  keyFramesReceived : UInt32 := 0
  framesDecoded : UInt32 := 0
  framesDropped : UInt32 := 0
  jitter : ℚ := 0
  bitrate : ℚ := 0
  fps : ℚ := 0
  packetLossRate : ℚ := 0

structure AudioStats where
  packetsReceived : UInt64 := 0
  bytesReceived : UInt64 := 0
  packetsLost : UInt32 := 0
  jitter : ℚ := 0
  bitrate : ℚ := 0
  packetLossRate : ℚ := 0

structure RtcpStats where
  srCount : UInt32 := 0
  rrCount : UInt32 := 0
  nackCount : UInt32 := 0
  pliCount : UInt32 := 0
  firCount : UInt32 := 0
  rtt : ℚ := 0

end ProducerStatistics

structure ProducerStatistics where
  createdTime : Int
  lastUpdateTime : Int
  videoStats : ProducerStatistics.VideoStats := {}
  audioStats : ProducerStatistics.AudioStats := {}
  rtcpStats : ProducerStatistics.RtcpStats := {}
  lastBitrateCalcTime : Int := 0
  lastVideoBytes : UInt64 := 0
  lastAudioBytes : UInt64 := 0
  lastFpsCalcTime : Int := 0
  lastVideoFrames : UInt32 := 0

namespace ProducerStatistics

def updateTimestamp (s : ProducerStatistics) (nowMs : Int) : ProducerStatistics :=
  { s with lastUpdateTime := nowMs }

/-- `StatisticsBase::Reset()` -/
def resetTimes (s : ProducerStatistics) (nowMs : Int) : ProducerStatistics :=
  { s with createdTime := nowMs, lastUpdateTime := nowMs }

def resetCounters (s : ProducerStatistics) : ProducerStatistics :=
  { s with
    videoStats := {}
    audioStats := {}
    rtcpStats := {}
    lastBitrateCalcTime := 0
    lastVideoBytes := 0
    lastAudioBytes := 0
    lastFpsCalcTime := 0
    lastVideoFrames := 0 }

def onRtpPacketReceived (s : ProducerStatistics) (isVideo : Bool) (packetSize : UInt64) :
    ProducerStatistics :=
  if isVideo then
    { s with videoStats :=
        { s.videoStats with
          packetsReceived := s.videoStats.packetsReceived + 1
          bytesReceived := s.videoStats.bytesReceived + packetSize } }
  else
    { s with audioStats :=
        { s.audioStats with
          packetsReceived := s.audioStats.packetsReceived + 1
          bytesReceived := s.audioStats.bytesReceived + packetSize } }

def onRtpPacketLost (s : ProducerStatistics) (isVideo : Bool) (lostCount : UInt32) :
    ProducerStatistics :=
  if isVideo then
    { s with videoStats :=
        { s.videoStats with packetsLost := s.videoStats.packetsLost + lostCount } }
  else
    { s with audioStats :=
        { s.audioStats with packetsLost := s.audioStats.packetsLost + lostCount } }

def onFrameReceived (s : ProducerStatistics) (isVideo isKeyFrame : Bool) : ProducerStatistics :=
  if isVideo then
    { s with videoStats :=
        { s.videoStats with
          framesReceived := s.videoStats.framesReceived + 1
          keyFramesReceived := s.videoStats.keyFramesReceived + if isKeyFrame then 1 else 0 } }
  else s

def onFrameDecoded (s : ProducerStatistics) (isVideo : Bool) : ProducerStatistics :=
  if isVideo then
    { s with videoStats :=
        { s.videoStats with framesDecoded := s.videoStats.framesDecoded + 1 } }
  else s

def onFrameDropped (s : ProducerStatistics) (isVideo : Bool) : ProducerStatistics :=
  if isVideo then
    { s with videoStats :=
        { s.videoStats with framesDropped := s.videoStats.framesDropped + 1 } }
  else s

def onRtcpSRReceived (s : ProducerStatistics) : ProducerStatistics :=
  { s with rtcpStats := { s.rtcpStats with srCount := s.rtcpStats.srCount + 1 } }

def onRtcpRRSent (s : ProducerStatistics) : ProducerStatistics :=
  { s with rtcpStats := { s.rtcpStats with rrCount := s.rtcpStats.rrCount + 1 } }

def onNackReceived (s : ProducerStatistics) (count : UInt32) : ProducerStatistics :=
  { s with rtcpStats := { s.rtcpStats with nackCount := s.rtcpStats.nackCount + count } }

def onPliReceived (s : ProducerStatistics) : ProducerStatistics :=
  { s with rtcpStats := { s.rtcpStats with pliCount := s.rtcpStats.pliCount + 1 } }

def onFirReceived (s : ProducerStatistics) : ProducerStatistics :=
  { s with rtcpStats := { s.rtcpStats with firCount := s.rtcpStats.firCount + 1 } }

def updateRtt (s : ProducerStatistics) (rttMs : ℚ) : ProducerStatistics :=
  { s with rtcpStats := { s.rtcpStats with rtt := rttMs } }

def updateJitter (s : ProducerStatistics) (isVideo : Bool) (jitterMs : ℚ) : ProducerStatistics :=
  if isVideo then { s with videoStats := { s.videoStats with jitter := jitterMs } }
  else { s with audioStats := { s.audioStats with jitter := jitterMs } }

def calculateBitrate (s : ProducerStatistics) (currentTime : Int) : ProducerStatistics :=
  if s.lastBitrateCalcTime = 0 then
    { s with
      lastBitrateCalcTime := currentTime
      lastVideoBytes := s.videoStats.bytesReceived
      lastAudioBytes := s.audioStats.bytesReceived }
  else if currentTime - s.lastBitrateCalcTime < 1000 then s
  else
    { s with
      videoStats :=
        { s.videoStats with
          bitrate := ConsumerStatistics.bitrate (s.videoStats.bytesReceived - s.lastVideoBytes)
            (currentTime - s.lastBitrateCalcTime) }
      audioStats :=
        { s.audioStats with
          bitrate := ConsumerStatistics.bitrate (s.audioStats.bytesReceived - s.lastAudioBytes)
            (currentTime - s.lastBitrateCalcTime) }
      lastBitrateCalcTime := currentTime
      lastVideoBytes := s.videoStats.bytesReceived
      lastAudioBytes := s.audioStats.bytesReceived }

def calculatePacketLossRate (s : ProducerStatistics) : ProducerStatistics :=
  { s with
    videoStats :=
      { s.videoStats with
        packetLossRate := ConsumerStatistics.packetLossRate s.videoStats.packetsReceived
          s.videoStats.packetsLost s.videoStats.packetLossRate }
    audioStats :=
      { s.audioStats with
        packetLossRate := ConsumerStatistics.packetLossRate s.audioStats.packetsReceived
          s.audioStats.packetsLost s.audioStats.packetLossRate } }

def calculateFps (s : ProducerStatistics) (currentTime : Int) : ProducerStatistics :=
  if s.lastFpsCalcTime = 0 then
    { s with lastFpsCalcTime := currentTime, lastVideoFrames := s.videoStats.framesReceived }
  else if currentTime - s.lastFpsCalcTime < 1000 then s
  else
    { s with
      videoStats :=
        { s.videoStats with
          fps := ((s.videoStats.framesReceived - s.lastVideoFrames).toNat * 1000) /
            (currentTime - s.lastFpsCalcTime) }
      lastFpsCalcTime := currentTime
      lastVideoFrames := s.videoStats.framesReceived }

/-- The clock is read again, at `laterMs`, for the frames. -/
def update (s : ProducerStatistics) (nowMs laterMs : Int) : ProducerStatistics :=
  ((s.calculateBitrate nowMs).calculatePacketLossRate).calculateFps laterMs

end ProducerStatistics

/-- An object with the mutex of `StatisticsBase`. -/
inductive Object where
  | producer (i : ResourceId)
  | consumer (i : ResourceId)
  deriving DecidableEq, Repr

inductive Mutex where
  | manager
  | object (o : Object)
  deriving DecidableEq, Repr

structure State where
  manager : StatisticsManager := {}
  producers : ResourceId → ProducerStatistics
  consumers : ResourceId → ConsumerStatistics
  timerRunning : Bool := false

inductive ProducerEvent where
  | onRtpPacketReceived (isVideo : Bool) (packetSize : UInt64)
  | onRtpPacketLost (isVideo : Bool) (lostCount : UInt32)
  | onFrameReceived (isVideo isKeyFrame : Bool)
  | onFrameDecoded (isVideo : Bool)
  | onFrameDropped (isVideo : Bool)
  | onRtcpSRReceived
  | onRtcpRRSent
  | onNackReceived (count : UInt32)
  | onPliReceived
  | onFirReceived
  | updateRtt (rttMs : ℚ)
  | updateJitter (isVideo : Bool) (jitterMs : ℚ)
  | onDtlsHandshakeStart
  | onDtlsHandshakeComplete
  | onDtlsHandshakeFailed
  | setVideoInfo
  | setAudioInfo
  | setState
  | update (laterMs : Int)

inductive ConsumerEvent where
  | counted (event : ConsumerStatistics.Event)
  | setVideoInfo
  | setAudioInfo
  | setRemoteAddress
  | setState

/-- The public operations. Those of the base class are called on an object, and `reset` and
`toJson` are virtual. `updateAllStatistics` is what the timer posts. -/
inductive Operation where
  | reset (o : Object) (nowMs : Int)
  | baseReset (o : Object) (nowMs : Int)
  | toJson (o : Object)
  | updateTimestamp (o : Object) (nowMs : Int)
  | get (o : Object)
  | producer (i : ResourceId) (nowMs : Int) (event : ProducerEvent)
  | consumer (i : ResourceId) (nowMs : Int) (event : ConsumerEvent)
  | registerProducer (sessionName : CString) (i : ResourceId)
  | unregisterProducer (sessionName : CString)
  | registerConsumer (consumerId : CString) (i : ResourceId)
  | unregisterConsumer (consumerId : CString)
  | getProducerStatistics (sessionName : CString)
  | getConsumerStatistics (consumerId : CString)
  | getSessionConsumers (sessionName : CString)
  | getSessionStatsJson (sessionName : CString)
  | getAllSessionsStatsJson
  | getSystemStatsJson
  | startUpdateTimer
  | stopUpdateTimer
  | updateAllStatistics (nowMs laterMs : Object → Int)

namespace State

def setProducer (i : ResourceId) (f : ProducerStatistics → ProducerStatistics) (s : State) :
    State :=
  { s with producers := Function.update s.producers i (f (s.producers i)) }

def setConsumer (i : ResourceId) (f : ConsumerStatistics → ConsumerStatistics) (s : State) :
    State :=
  { s with consumers := Function.update s.consumers i (f (s.consumers i)) }

def setManager (f : StatisticsManager → StatisticsManager) (s : State) : State :=
  { s with manager := f s.manager }

end State

open State

def resetConsumerCounters (s : ConsumerStatistics) : ConsumerStatistics :=
  { s with
    videoStats := {}
    audioStats := {}
    rtcpStats := {}
    qualityMetrics := {}
    lastBitrateCalcTime := 0
    lastVideoBytes := 0
    lastAudioBytes := 0
    lastFpsCalcTime := 0
    lastVideoFrames := 0 }

def resetTimes (o : Object) (nowMs : Int) : State → State :=
  match o with
  | .producer i => setProducer i (·.resetTimes nowMs)
  | .consumer i => setConsumer i ({ · with createdTime := nowMs, lastUpdateTime := nowMs })

def resetCounters (o : Object) : State → State :=
  match o with
  | .producer i => setProducer i (·.resetCounters)
  | .consumer i => setConsumer i resetConsumerCounters

section Code

/-- Only reads, or fields that no figure is made of. -/
def skip : Code Mutex State := effect id

def baseReset (o : Object) (nowMs : Int) : Code Mutex State :=
  lockGuard (.object o) (effect (resetTimes o nowMs))

def reset (o : Object) (nowMs : Int) : Code Mutex State :=
  lockGuard (.object o) (andThen (baseReset o nowMs) (effect (resetCounters o)))

def toJson (o : Object) : Code Mutex State := lockGuard (.object o) skip

def updateTimestamp (o : Object) (nowMs : Int) : Code Mutex State :=
  match o with
  | .producer i => effect (setProducer i (·.updateTimestamp nowMs))
  | .consumer i => effect (setConsumer i (·.updateTimestamp nowMs))

def producerCode (i : ResourceId) (nowMs : Int) : ProducerEvent → Code Mutex State
  | .onRtpPacketReceived isVideo packetSize =>
      effect (setProducer i fun s =>
        (s.onRtpPacketReceived isVideo packetSize).updateTimestamp nowMs)
  | .onRtpPacketLost isVideo lostCount =>
      effect (setProducer i (·.onRtpPacketLost isVideo lostCount))
  | .onFrameReceived isVideo isKeyFrame =>
      effect (setProducer i fun s => (s.onFrameReceived isVideo isKeyFrame).updateTimestamp nowMs)
  | .onFrameDecoded isVideo => effect (setProducer i (·.onFrameDecoded isVideo))
  | .onFrameDropped isVideo => effect (setProducer i (·.onFrameDropped isVideo))
  | .onRtcpSRReceived => effect (setProducer i (·.onRtcpSRReceived))
  | .onRtcpRRSent => effect (setProducer i (·.onRtcpRRSent))
  | .onNackReceived count => effect (setProducer i (·.onNackReceived count))
  | .onPliReceived => effect (setProducer i (·.onPliReceived))
  | .onFirReceived => effect (setProducer i (·.onFirReceived))
  | .updateRtt rttMs =>
      lockGuard (.object (.producer i)) (effect (setProducer i (·.updateRtt rttMs)))
  | .updateJitter isVideo jitterMs =>
      lockGuard (.object (.producer i)) (effect (setProducer i (·.updateJitter isVideo jitterMs)))
  | .onDtlsHandshakeStart | .onDtlsHandshakeComplete | .onDtlsHandshakeFailed | .setVideoInfo
  | .setAudioInfo | .setState => lockGuard (.object (.producer i)) skip
  | .update laterMs => effect (setProducer i (·.update nowMs laterMs))

/-- `CalculateQualityScore` is the part of `Update` that takes the lock. -/
def updateConsumer (i : ResourceId) (nowMs laterMs : Int) : Code Mutex State :=
  andThen
    (effect (setConsumer i fun s =>
      ((s.calculateBitrate nowMs).calculatePacketLossRate).calculateFps laterMs))
    (lockGuard (.object (.consumer i)) (effect (setConsumer i (·.calculateQualityScore))))

def consumerCode (i : ResourceId) (nowMs : Int) : ConsumerEvent → Code Mutex State
  | .counted (.update laterMs) => updateConsumer i nowMs laterMs
  | .counted (.onRtcpRRReceived packetsLost jitter) =>
      andThen
        (effect (setConsumer i fun s =>
          s.onRtcpRRReceived packetsLost s.rtcpStats.jitter))
        (lockGuard (.object (.consumer i))
          (effect (setConsumer i fun s =>
            { s with rtcpStats := { s.rtcpStats with jitter := jitter } })))
  | .counted (.updateRtt rttMs) =>
      lockGuard (.object (.consumer i)) (effect (setConsumer i (·.updateRtt rttMs)))
  | .counted event => effect (setConsumer i (·.step (nowMs, event)))
  | .setVideoInfo | .setAudioInfo | .setRemoteAddress | .setState =>
      lockGuard (.object (.consumer i)) skip

def registeredProducer (sessionName : CString) (s : State) : List Object :=
  (s.manager.producerStats[sessionName]?.map Object.producer).toList

def sessionConsumers (sessionName : CString) (s : State) : List Object :=
  (((s.manager.sessionConsumers[sessionName]?).getD []).filterMap
    (s.manager.consumerStats[·]?)).map Object.consumer

/-- The figures of the summary are read without a lock. -/
def getSessionStatsJson (sessionName : CString) : Code Mutex State :=
  lockGuard .manager
    (andThen (forEach (registeredProducer sessionName) toJson)
      (forEach (sessionConsumers sessionName) toJson))

def updateAllStatistics (nowMs laterMs : Object → Int) : Code Mutex State :=
  lockGuard .manager
    (andThen
      (forEach (fun s => s.manager.producerStats.values) fun i =>
        producerCode i (nowMs (.producer i)) (.update (laterMs (.producer i))))
      (forEach (fun s => s.manager.consumerStats.values) fun i =>
        updateConsumer i (nowMs (.consumer i)) (laterMs (.consumer i))))

def Operation.code : Operation → Code Mutex State
  | .reset o nowMs => StatisticsLocks.reset o nowMs
  | .baseReset o nowMs => StatisticsLocks.baseReset o nowMs
  | .toJson o => StatisticsLocks.toJson o
  | .updateTimestamp o nowMs => StatisticsLocks.updateTimestamp o nowMs
  | .get _ => skip
  | .producer i nowMs event => producerCode i nowMs event
  | .consumer i nowMs event => consumerCode i nowMs event
  | .registerProducer sessionName i =>
      lockGuard .manager (effect (setManager (·.registerProducer sessionName i)))
  | .unregisterProducer sessionName =>
      lockGuard .manager (effect (setManager (·.unregisterProducer sessionName)))
  | .registerConsumer consumerId i =>
      lockGuard .manager (effect fun s =>
        s.setManager (·.registerConsumer consumerId (s.consumers i).sessionName i))
  | .unregisterConsumer consumerId =>
      lockGuard .manager (effect (setManager (·.unregisterConsumer consumerId)))
  | .getProducerStatistics _ | .getConsumerStatistics _ | .getSessionConsumers _
  | .getAllSessionsStatsJson | .getSystemStatsJson => lockGuard .manager skip
  | .getSessionStatsJson sessionName => StatisticsLocks.getSessionStatsJson sessionName
  | .startUpdateTimer => effect fun s => { s with timerRunning := true }
  | .stopUpdateTimer => effect fun s => { s with timerRunning := false }
  | .updateAllStatistics nowMs laterMs => StatisticsLocks.updateAllStatistics nowMs laterMs

def update (o : Object) (nowMs laterMs : Int) : Code Mutex State :=
  match o with
  | .producer i => producerCode i nowMs (.update laterMs)
  | .consumer i => updateConsumer i nowMs laterMs

end Code

def Zeroed (s : State) : Object → Prop
  | .producer i =>
      (s.producers i).videoStats = {} ∧ (s.producers i).audioStats = {} ∧
        (s.producers i).rtcpStats = {}
  | .consumer i =>
      (s.consumers i).videoStats = {} ∧ (s.consumers i).audioStats = {} ∧
        (s.consumers i).rtcpStats = {}

def RatesZero (s : State) : Object → Prop
  | .producer i =>
      (s.producers i).videoStats.bitrate = 0 ∧ (s.producers i).videoStats.fps = 0 ∧
        (s.producers i).videoStats.packetLossRate = 0 ∧ (s.producers i).audioStats.bitrate = 0 ∧
          (s.producers i).audioStats.packetLossRate = 0
  | .consumer i =>
      (s.consumers i).videoStats.bitrate = 0 ∧ (s.consumers i).videoStats.fps = 0 ∧
        (s.consumers i).videoStats.packetLossRate = 0 ∧ (s.consumers i).audioStats.bitrate = 0 ∧
          (s.consumers i).audioStats.packetLossRate = 0

/-- An object has been reset: all is zero, and so are the rates after the next `Update`. -/
def ResetDone (s : State) (o : Object) : Prop :=
  Zeroed s o ∧ ∀ nowMs laterMs, ∃ s', update o nowMs laterMs [] s = .ok s' ∧ RatesZero s' o

/-- The operation returns when the thread holds no lock, and a `Reset` has reset. -/
def Sound (op : Operation) (s : State) : Prop :=
  ∃ s', op.code [] s = .ok s' ∧ ∀ o nowMs, op = .reset o nowMs → ResetDone s' o

section Calls

variable {held : List Mutex} {i : ResourceId} {o : Object}

theorem runs_skip : Runs skip held id := runs_effect id

theorem runs_toJson (h : .object o ∉ held) : Runs (toJson o) held id :=
  Runs.lockGuard h runs_skip

theorem runs_baseReset (nowMs : Int) (h : .object o ∉ held) :
    Runs (baseReset o nowMs) held (resetTimes o nowMs) :=
  Runs.lockGuard h (runs_effect _)

/-- `Reset` calls the `Reset` of the base class, which takes the lock that it holds. -/
theorem reset_eq_error (o : Object) (nowMs : Int) (s : State) :
    reset o nowMs held s = .error (.object o) := by
  rw [reset, baseReset]
  exact lockGuard_again _ _ _ s

theorem runs_updateProducer (nowMs laterMs : Int) :
    Runs (producerCode i nowMs (.update laterMs)) held (setProducer i (·.update nowMs laterMs)) :=
  runs_effect _

theorem setConsumer_comp (f g : ConsumerStatistics → ConsumerStatistics) :
    setConsumer i g ∘ setConsumer i f = setConsumer i (g ∘ f) := by
  funext s
  simp only [Function.comp_apply, setConsumer, Function.update_self, Function.update_idem]

theorem runs_updateConsumer (nowMs laterMs : Int) (h : .object (.consumer i) ∉ held) :
    Runs (updateConsumer i nowMs laterMs) held (setConsumer i (·.update nowMs laterMs)) := by
  have hrates : Runs (effect (setConsumer i fun s =>
      ((s.calculateBitrate nowMs).calculatePacketLossRate).calculateFps laterMs)) held _ :=
    runs_effect _
  have hparts := hrates.andThen
    (Runs.lockGuard h (runs_effect (setConsumer i (·.calculateQualityScore))))
  rw [setConsumer_comp] at hparts
  exact hparts

theorem runs_consumerCode (nowMs : Int) (event : ConsumerStatistics.Event)
    (h : .object (.consumer i) ∉ held) :
    Runs (consumerCode i nowMs (.counted event)) held (setConsumer i (·.step (nowMs, event))) := by
  cases event with
  | update laterMs => exact runs_updateConsumer nowMs laterMs h
  | onRtcpRRReceived packetsLost jitter =>
      have hcounts : Runs (effect (setConsumer i fun s =>
          s.onRtcpRRReceived packetsLost s.rtcpStats.jitter)) held _ := runs_effect _
      have hparts := hcounts.andThen (Runs.lockGuard h (runs_effect (setConsumer i fun s =>
        { s with rtcpStats := { s.rtcpStats with jitter := jitter } })))
      rw [setConsumer_comp] at hparts
      exact hparts
  | updateRtt rttMs => exact Runs.lockGuard h (runs_effect _)
  | onRtpPacketSent | onRtxPacketSent | onFrameSent | onFrameEncoded | onRtcpSRSent | onNackSent
  | onPliSent | onFirSent => exact runs_effect _

theorem runs_producerCode (nowMs : Int) (event : ProducerEvent)
    (h : .object (.producer i) ∉ held) : ∃ f, Runs (producerCode i nowMs event) held f := by
  cases event with
  | updateRtt rttMs => exact ⟨_, Runs.lockGuard h (runs_effect _)⟩
  | updateJitter isVideo jitterMs => exact ⟨_, Runs.lockGuard h (runs_effect _)⟩
  | onDtlsHandshakeStart | onDtlsHandshakeComplete | onDtlsHandshakeFailed | setVideoInfo
  | setAudioInfo | setState => exact ⟨_, Runs.lockGuard h runs_skip⟩
  | onRtpPacketReceived | onRtpPacketLost | onFrameReceived | onFrameDecoded | onFrameDropped
  | onRtcpSRReceived | onRtcpRRSent | onNackReceived | onPliReceived | onFirReceived
  | update => exact ⟨_, runs_effect _⟩

theorem runs_consumerEvent (nowMs : Int) (event : ConsumerEvent)
    (h : .object (.consumer i) ∉ held) : ∃ f, Runs (consumerCode i nowMs event) held f := by
  cases event with
  | counted event => exact ⟨_, runs_consumerCode nowMs event h⟩
  | setVideoInfo | setAudioInfo | setRemoteAddress | setState =>
      exact ⟨_, Runs.lockGuard h runs_skip⟩

/-- The manager holds its own lock while it calls the objects, which take theirs. -/
theorem runs_getSessionStatsJson (sessionName : CString) :
    ∃ f, Runs (getSessionStatsJson sessionName) [] f := by
  have hcall : ∀ o, Runs (toJson o) [.manager] id := fun o => runs_toJson (by simp)
  exact ⟨_, Runs.lockGuard List.not_mem_nil
    ((Runs.forEach hcall).andThen (Runs.forEach hcall))⟩

theorem runs_updateAllStatistics (nowMs laterMs : Object → Int) :
    ∃ f, Runs (updateAllStatistics nowMs laterMs) [] f := by
  have hproducer : ∀ i, Runs (producerCode i (nowMs (.producer i))
      (.update (laterMs (.producer i)))) [.manager] _ := fun i =>
    runs_updateProducer (nowMs (.producer i)) (laterMs (.producer i))
  have hconsumer : ∀ i, Runs (updateConsumer i (nowMs (.consumer i)) (laterMs (.consumer i)))
      [.manager] _ := fun i =>
    runs_updateConsumer (nowMs (.consumer i)) (laterMs (.consumer i)) (by simp)
  exact ⟨_, Runs.lockGuard List.not_mem_nil
    ((Runs.forEach hproducer).andThen (Runs.forEach hconsumer))⟩

theorem runs_update (o : Object) (nowMs laterMs : Int) :
    Runs (update o nowMs laterMs) []
      (match o with
      | .producer i => setProducer i (·.update nowMs laterMs)
      | .consumer i => setConsumer i (·.update nowMs laterMs)) := by
  cases o with
  | producer i => exact runs_updateProducer nowMs laterMs
  | consumer i => exact runs_updateConsumer nowMs laterMs List.not_mem_nil

/-- Every operation but `Reset` returns. -/
theorem runs_code (op : Operation) (hop : ∀ o nowMs, op ≠ .reset o nowMs) :
    ∃ f, Runs op.code [] f := by
  have hmanager : ∀ f : State → State, Runs (lockGuard Mutex.manager (effect f)) [] f := fun f =>
    Runs.lockGuard List.not_mem_nil (runs_effect f)
  cases op with
  | reset o nowMs => exact absurd rfl (hop o nowMs)
  | baseReset o nowMs => exact ⟨_, runs_baseReset nowMs List.not_mem_nil⟩
  | toJson o => exact ⟨_, runs_toJson List.not_mem_nil⟩
  | updateTimestamp o nowMs =>
      cases o with
      | producer i => exact ⟨_, runs_effect _⟩
      | consumer i => exact ⟨_, runs_effect _⟩
  | get o => exact ⟨_, runs_skip⟩
  | producer i nowMs event => exact runs_producerCode nowMs event List.not_mem_nil
  | consumer i nowMs event => exact runs_consumerEvent nowMs event List.not_mem_nil
  | registerProducer | unregisterProducer | registerConsumer | unregisterConsumer
  | getProducerStatistics | getConsumerStatistics | getSessionConsumers
  | getAllSessionsStatsJson | getSystemStatsJson => exact ⟨_, hmanager _⟩
  | getSessionStatsJson sessionName => exact runs_getSessionStatsJson sessionName
  | startUpdateTimer | stopUpdateTimer => exact ⟨_, runs_effect _⟩
  | updateAllStatistics nowMs laterMs => exact runs_updateAllStatistics nowMs laterMs

end Calls

/-- What `Reset` sets to zero behind the call is zero, and stays so with the next `Update`. -/
theorem resetDone_resetCounters (o : Object) (s : State) : ResetDone (resetCounters o s) o := by
  constructor
  · cases o with
    | producer i => simp [Zeroed, resetCounters, setProducer, ProducerStatistics.resetCounters]
    | consumer i => simp [Zeroed, resetCounters, setConsumer, resetConsumerCounters]
  · intro nowMs laterMs
    refine ⟨_, runs_update o nowMs laterMs (resetCounters o s), ?_⟩
    cases o with
    | producer i =>
        simp [RatesZero, resetCounters, setProducer, ProducerStatistics.resetCounters,
          ProducerStatistics.update, ProducerStatistics.calculateBitrate,
          ProducerStatistics.calculatePacketLossRate, ProducerStatistics.calculateFps,
          ConsumerStatistics.packetLossRate]
    | consumer i =>
        simp [RatesZero, resetCounters, setConsumer, resetConsumerCounters,
          ConsumerStatistics.update, ConsumerStatistics.calculateBitrate,
          ConsumerStatistics.calculatePacketLossRate, ConsumerStatistics.calculateFps,
          ConsumerStatistics.calculateQualityScore, ConsumerStatistics.packetLossRate]

/-- The operations that are sound are all but the two `Reset`s, which wait for the lock that
they hold; the counters that they do not come to would be zero. -/
theorem sound_iff (s : State) :
    (∀ op : Operation, Sound op s ↔ ∀ o nowMs, op ≠ .reset o nowMs) ∧
      ∀ o, ResetDone (resetCounters o s) o := by
  refine ⟨fun op => ?_, fun o => resetDone_resetCounters o s⟩
  constructor
  · rintro ⟨s', hcode, _⟩ o nowMs rfl
    have herror : (Operation.reset o nowMs).code [] s = .error (.object o) :=
      reset_eq_error o nowMs s
    rw [herror] at hcode
    cases hcode
  · intro hop
    obtain ⟨f, hruns⟩ := runs_code op hop
    exact ⟨f s, hruns s, fun o nowMs heq => absurd heq (hop o nowMs)⟩

def newProducer : State where
  producers _ := { createdTime := 0, lastUpdateTime := 0 }
  consumers _ := ConsumerStatistics.construct [] 0

/-- `Reset` on a producer as it is constructed. -/
theorem not_sound_reset : ¬ ∀ (op : Operation) (s : State), Sound op s := by
  intro hall
  obtain ⟨s', hcode, _⟩ := hall (.reset (.producer 0) 0) newProducer
  have herror : (Operation.reset (.producer 0) 0).code [] newProducer =
      .error (.object (.producer 0)) := reset_eq_error (.producer 0) 0 newProducer
  rw [herror] at hcode
  cases hcode

end GBServer.StatisticsLocks
