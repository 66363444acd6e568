import GBServer.ConsumerStatistics
import GBServer.FailedRequests
import Mathlib.Data.Rat.Floor
import Mathlib.Data.UInt

namespace GBServer.SessionStatistics

open Std (ExtTreeMap)
open Foundation.CStrings
open Foundation.Metrics

structure ProducerStatistics where
  videoBytesReceived : UInt64 := 0
  audioBytesReceived : UInt64 := 0
  videoPacketsReceived : UInt64 := 0
  audioPacketsReceived : UInt64 := 0
  videoFramesReceived : UInt32 := 0
  nackCount : UInt32 := 0
  pliCount : UInt32 := 0
  videoBitrate : ℚ := 0
  audioBitrate : ℚ := 0
  videoPacketLossRate : ℚ := 0
  rtt : ℚ := 0
  createdTime : Int := 0

/-- What the shared pointers in the manager point to. -/
structure StatisticsObjects where
  producers : ResourceId → ProducerStatistics
  consumers : ResourceId → ConsumerStatistics

inductive SessionState where
  | active
  | waitingConsumers
  | waitingProducer
  | idle
  deriving DecidableEq, Repr

structure SessionSummary where
  producerCount : Int
  consumerCount : Int
  totalBytesReceived : UInt64
  totalPacketsReceived : UInt64
  totalBytesSent : UInt64
  totalPacketsSent : UInt64
  totalFramesReceived : UInt64
  totalFramesSent : UInt64
  totalNackCount : UInt32
  totalPliCount : UInt32
  avgBitrateIn : ℚ
  avgBitrateOut : ℚ
  maxRtt : ℚ
  avgPacketLossRate : ℚ
  sessionState : SessionState
  sessionDuration : Int

/-- The document of `GetSessionStatsJson`; the endpoints stand for their own documents. -/
structure SessionStats where
  sessionName : CString
  timestamp : Int
  producer : Option ProducerStatistics
  consumers : List ConsumerStatistics
  summary : SessionSummary

structure SystemStats where
  totalSessions : Nat
  totalProducers : Nat
  totalConsumers : Nat
  timestamp : Int
  totalBytesIn : UInt64
  totalBytesOut : UInt64
  totalPacketsIn : UInt64
  totalPacketsOut : UInt64
  avgBitrateIn : Int
  avgBitrateOut : Int
  avgPacketLoss : ℚ
  avgRtt : ℚ
  activeSessions : Nat
  waitingSessions : Nat

namespace ProducerStatistics

def bytesReceived (p : ProducerStatistics) : UInt64 := p.videoBytesReceived + p.audioBytesReceived

def packetsReceived (p : ProducerStatistics) : UInt64 :=
  p.videoPacketsReceived + p.audioPacketsReceived

def bitrate (p : ProducerStatistics) : ℚ := p.videoBitrate + p.audioBitrate

/-- `GetDuration()`, in seconds. -/
def duration (p : ProducerStatistics) (nowMs : Int) : Int := (nowMs - p.createdTime).tdiv 1000

end ProducerStatistics

section Consumer

variable (c : ConsumerStatistics)

def bytesSent : UInt64 := c.videoStats.bytesSent + c.audioStats.bytesSent

def packetsSent : UInt64 := c.videoStats.packetsSent + c.audioStats.packetsSent

def framesSent : UInt64 := c.videoStats.framesSent.toUInt64

def bitrate : ℚ := c.videoStats.bitrate + c.audioStats.bitrate

def packetLossRate : ℚ := c.videoStats.packetLossRate

def rtt : ℚ := c.rtcpStats.rtt

end Consumer

/-- `(int64_t)x` -/
def truncate (x : ℚ) : Int := x.num.tdiv x.den

section

variable (m : StatisticsManager) (objects : StatisticsObjects)

/-- `session_consumers_[session_name]`, empty if there is no entry. -/
def sessionConsumers (sessionName : CString) : List CString :=
  (m.sessionConsumers[sessionName]?).getD []

def producerOf (sessionName : CString) : Option ProducerStatistics :=
  m.producerStats[sessionName]?.map objects.producers

def getSessionConsumers (sessionName : CString) : List ConsumerStatistics :=
  ((sessionConsumers m sessionName).filterMap (m.consumerStats[·]?)).map objects.consumers

def sessionState (producerCount consumerCount : Int) : SessionState :=
  if producerCount > 0 ∧ consumerCount > 0 then .active
  else if producerCount > 0 then .waitingConsumers
  else if consumerCount > 0 then .waitingProducer
  else .idle

/-- The sums, averages and counts of a session with these endpoints; `listed` ids are in
the list of the session, whose size is read into an `int`. -/
def sessionSummary (producer : Option ProducerStatistics) (consumers : List ConsumerStatistics)
    (listed : Nat) (nowMs : Int) : SessionSummary :=
  let p := producer.getD {}
  let producerCount : Int := if producer.isSome then 1 else 0
  let consumerCount : Int := (Int32.ofNat listed).toInt
  { producerCount
    consumerCount
    totalBytesReceived := p.bytesReceived
    totalPacketsReceived := p.packetsReceived
    totalBytesSent := (consumers.map bytesSent).sum
    totalPacketsSent := (consumers.map packetsSent).sum
    totalFramesReceived := p.videoFramesReceived.toUInt64
    totalFramesSent := (consumers.map framesSent).sum
    totalNackCount := p.nackCount
    totalPliCount := p.pliCount
    avgBitrateIn := p.bitrate
    avgBitrateOut :=
      if 0 < consumers.length then (consumers.map bitrate).sum / consumers.length else 0
    maxRtt :=
      if 0 < consumers.length then max p.rtt ((consumers.map rtt).sum / consumers.length)
      else p.rtt
    avgPacketLossRate :=
      if 0 < consumers.length then
        (p.videoPacketLossRate + (consumers.map packetLossRate).sum / consumers.length) / 2
      else p.videoPacketLossRate
    sessionState := sessionState producerCount consumerCount
    sessionDuration := (producer.map (·.duration nowMs)).getD 0 }

def getSessionStatsJson (sessionName : CString) (nowMs : Int) : SessionStats :=
  let producer := producerOf m objects sessionName
  let consumers := getSessionConsumers m objects sessionName
  { sessionName
    timestamp := nowMs
    producer
    consumers
    summary :=
      sessionSummary producer consumers (sessionConsumers m sessionName).length nowMs }

def producers : List ProducerStatistics := m.producerStats.values.map objects.producers

def consumers : List ConsumerStatistics := m.consumerStats.values.map objects.consumers

/-- The averages over the producers are divided by the number of consumers. -/
def getSystemStatsJson (nowMs : Int) : SystemStats :=
  let validProducerCount := (producers m objects).length
  let validConsumerCount := (consumers m objects).length
  let active := m.producerStats.keys.filter fun name => sessionConsumers m name ≠ []
  let waiting := m.producerStats.keys.filter fun name => sessionConsumers m name = []
  { totalSessions := m.producerStats.size
    totalProducers := m.producerStats.size
    totalConsumers := m.consumerStats.size
    timestamp := nowMs
    totalBytesIn := ((producers m objects).map (·.bytesReceived)).sum
    totalBytesOut := ((consumers m objects).map bytesSent).sum
    totalPacketsIn := ((producers m objects).map (·.packetsReceived)).sum
    totalPacketsOut := ((consumers m objects).map packetsSent).sum
    avgBitrateIn := truncate
      (if 0 < validProducerCount then
        ((producers m objects).map (·.bitrate)).sum / validProducerCount else 0)
    avgBitrateOut := truncate
      (if 0 < validConsumerCount then
        ((consumers m objects).map bitrate).sum / validConsumerCount else 0)
    avgPacketLoss :=
      if 0 < validConsumerCount then
        ((producers m objects).map (·.videoPacketLossRate)).sum / validConsumerCount else 0
    avgRtt :=
      if 0 < validConsumerCount then
        ((producers m objects).map (·.rtt)).sum / validConsumerCount else 0
    activeSessions := active.length
    waitingSessions := waiting.length }

structure Averaged (nowMs : Int) : Prop where
  bitrateIn : ((getSystemStatsJson m objects nowMs).avgBitrateIn : ℚ) =
    average ((producers m objects).map (·.bitrate))
  bitrateOut : ((getSystemStatsJson m objects nowMs).avgBitrateOut : ℚ) =
    average ((consumers m objects).map bitrate)
  packetLoss : (getSystemStatsJson m objects nowMs).avgPacketLoss =
    average ((producers m objects).map (·.videoPacketLossRate))
  rtt : (getSystemStatsJson m objects nowMs).avgRtt =
    average ((producers m objects).map (·.rtt))

end

namespace SessionStats

def rtts (stats : SessionStats) : List ℚ :=
  (stats.producer.map (·.rtt)).toList ++ stats.consumers.map rtt

def lossRates (stats : SessionStats) : List ℚ :=
  (stats.producer.map (·.videoPacketLossRate)).toList ++ stats.consumers.map packetLossRate

/-- The maximum and the average of the session are what their names say. -/
structure Bounded (stats : SessionStats) : Prop where
  maxRtt : ∀ x ∈ stats.rtts, x ≤ stats.summary.maxRtt
  lossRate : stats.lossRates ≠ [] → Between stats.summary.avgPacketLossRate stats.lossRates

end SessionStats

section

variable (m : StatisticsManager) (objects : StatisticsObjects)

theorem avgBitrateIn_eq (nowMs : Int) : (getSystemStatsJson m objects nowMs).avgBitrateIn =
    truncate (average ((producers m objects).map (·.bitrate))) := by
  simp [getSystemStatsJson, average]

theorem avgBitrateOut_eq (nowMs : Int) : (getSystemStatsJson m objects nowMs).avgBitrateOut =
    truncate (average ((consumers m objects).map bitrate)) := by
  simp [getSystemStatsJson, average]

/-- A figure summed over the producers and divided by the number of consumers is an average
if there are as many of both, or no producers at all. -/
theorem sum_div_eq_average {xs : List ℚ} {n : Nat} (h : xs = [] ∨ xs.length = n) :
    (if 0 < n then xs.sum / n else 0) = average xs := by
  rcases h with rfl | rfl
  · simp
  · rfl

theorem maxRtt_eq (producer : Option ProducerStatistics) (consumers : List ConsumerStatistics)
    (listed : Nat) (nowMs : Int) :
    (sessionSummary producer consumers listed nowMs).maxRtt =
      if consumers = [] then (producer.getD {}).rtt
      else max (producer.getD {}).rtt (average (consumers.map rtt)) := by
  rcases consumers with _ | ⟨c, rest⟩ <;> simp [sessionSummary, average]

theorem avgPacketLossRate_eq (producer : Option ProducerStatistics)
    (consumers : List ConsumerStatistics) (listed : Nat) (nowMs : Int) :
    (sessionSummary producer consumers listed nowMs).avgPacketLossRate =
      if consumers = [] then (producer.getD {}).videoPacketLossRate
      else
        ((producer.getD {}).videoPacketLossRate + average (consumers.map packetLossRate)) / 2 := by
  rcases consumers with _ | ⟨c, rest⟩ <;> simp [sessionSummary, average]

theorem rtt_producer_le {producer : Option ProducerStatistics} {p : ProducerStatistics}
    (hp : producer = some p) (consumers : List ConsumerStatistics) (listed : Nat)
    (nowMs : Int) : p.rtt ≤ (sessionSummary producer consumers listed nowMs).maxRtt := by
  subst hp
  rw [maxRtt_eq]
  split
  · exact le_refl _
  · exact le_max_left _ _

/-- Nor is it smaller than the RTT of a consumer that the producer or all other consumers
match. -/
theorem rtt_consumer_le {producer : Option ProducerStatistics}
    {consumers : List ConsumerStatistics} {c : ConsumerStatistics} (hc : c ∈ consumers)
    (h : (∃ p ∈ producer, rtt c ≤ p.rtt) ∨ ∀ c' ∈ consumers, rtt c ≤ rtt c') (listed : Nat)
    (nowMs : Int) : rtt c ≤ (sessionSummary producer consumers listed nowMs).maxRtt := by
  rcases h with ⟨p, hp, hle⟩ | hleast
  · exact hle.trans (rtt_producer_le hp consumers listed nowMs)
  · have hne : consumers ≠ [] := List.ne_nil_of_mem hc
    rw [maxRtt_eq, if_neg hne]
    refine le_trans (le_average (by simpa using hne) ?_) (le_max_right _ _)
    intro x hx
    obtain ⟨c', hc', rfl⟩ := List.mem_map.mp hx
    exact hleast c' hc'

/-- With a producer, or without consumers, the loss rate of the session lies between those
of its endpoints. -/
theorem between_avgPacketLossRate {producer : Option ProducerStatistics}
    {consumers : List ConsumerStatistics} (h : producer.isSome = true ∨ consumers = [])
    (hne : (producer.map (·.videoPacketLossRate)).toList ++ consumers.map packetLossRate ≠ [])
    (listed : Nat) (nowMs : Int) :
    Between (sessionSummary producer consumers listed nowMs).avgPacketLossRate
      ((producer.map (·.videoPacketLossRate)).toList ++ consumers.map packetLossRate) := by
  rw [avgPacketLossRate_eq]
  cases producer with
  | none =>
      have hconsumers : consumers = [] := h.resolve_left (by simp)
      exact absurd (by simp [hconsumers]) hne
  | some p =>
      split
      case isTrue hconsumers =>
        simp [hconsumers, Between]
      case isFalse hconsumers =>
        exact between_midpoint p.videoPacketLossRate (by simpa using hconsumers)

/-- What holds of the aggregates for every registry. -/
theorem aggregates_of_registry (sessionName : CString) (nowMs : Int) :
    let system := getSystemStatsJson m objects nowMs
    let stats := getSessionStatsJson m objects sessionName nowMs
    system.avgBitrateIn = truncate (average ((producers m objects).map (·.bitrate))) ∧
    system.avgBitrateOut = truncate (average ((consumers m objects).map bitrate)) ∧
    (producers m objects = [] ∨ (producers m objects).length = (consumers m objects).length →
      system.avgPacketLoss = average ((producers m objects).map (·.videoPacketLossRate)) ∧
      system.avgRtt = average ((producers m objects).map (·.rtt))) ∧
    (∀ p ∈ stats.producer, p.rtt ≤ stats.summary.maxRtt) ∧
    (∀ c ∈ stats.consumers,
      (∃ p ∈ stats.producer, rtt c ≤ p.rtt) ∨ (∀ c' ∈ stats.consumers, rtt c ≤ rtt c') →
        rtt c ≤ stats.summary.maxRtt) ∧
    (stats.producer.isSome = true ∨ stats.consumers = [] → stats.lossRates ≠ [] →
      Between stats.summary.avgPacketLossRate stats.lossRates) := by
  refine ⟨avgBitrateIn_eq m objects nowMs, avgBitrateOut_eq m objects nowMs, ?_, ?_, ?_, ?_⟩
  · intro h
    have hdivisor : ∀ f : ProducerStatistics → ℚ, (producers m objects).map f = [] ∨
        ((producers m objects).map f).length = (consumers m objects).length := fun f => by
      simpa using h
    exact ⟨sum_div_eq_average (hdivisor _), sum_div_eq_average (hdivisor _)⟩
  · intro p hp
    exact rtt_producer_le hp _ _ _
  · intro c hc h
    exact rtt_consumer_le hc h _ _
  · intro h hne
    exact between_avgPacketLossRate h hne _ _

end

/-- One producer that receives half a kilobit a second. -/
def slowProducer : StatisticsManager × StatisticsObjects :=
  (({} : StatisticsManager).registerProducer (ascii "live/a") 0,
    { producers := fun _ => { videoBitrate := 1 / 2 }
      consumers := fun _ => .construct (ascii "live/a") 0 })

/-- The average bitrate is cut down to 0. -/
theorem not_averaged_slowProducer :
    ¬ ∀ (m : StatisticsManager) (objects : StatisticsObjects) (sessionName : CString)
        (nowMs : Int), Averaged m objects nowMs ∧
      (getSessionStatsJson m objects sessionName nowMs).Bounded := by
  intro hall
  have hbitrate := (hall slowProducer.1 slowProducer.2 [] 0).1.bitrateIn
  have hproducers : producers slowProducer.1 slowProducer.2 = [{ videoBitrate := 1 / 2 }] := rfl
  have haverage : average ([{ videoBitrate := 1 / 2 }].map ProducerStatistics.bitrate) = 1 / 2 := by
    norm_num [average, ProducerStatistics.bitrate]
  have hcut : truncate (1 / 2) = 0 := by decide +kernel
  rw [avgBitrateIn_eq, hproducers, haverage, hcut] at hbitrate
  norm_num at hbitrate

end GBServer.SessionStatistics
