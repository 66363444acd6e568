import GBServer.RtcConsumer
import Mathlib.Data.Nat.ModEq

namespace GBServer.SenderReports

open Foundation.Runs
open GBServer.RtcConsumer

/-- The payloads that the loop of `OnVideoFrame` sends: those up to the first call of
`NextPacket` that fails. -/
def payloadsOf : List (Option (List UInt8)) → List (List UInt8)
  | some payload :: rest => payload :: payloadsOf rest
  | _ => []

/-- The frames that a viewer has taken, the payloads they are split into, and the packets
it has sent. -/
structure Produced where
  frames : List NalRepackaging.EncodedImage := []
  payloads : List (List UInt8) := []
  packets : List VideoPacket := []

def Produced.frameOctets (produced : Produced) : Nat :=
  (produced.frames.map fun frame => frame.data.length).sum

def Produced.payloadOctets (produced : Produced) : Nat := (produced.payloads.map List.length).sum

def Produced.packetOctets (produced : Produced) : Nat :=
  (produced.packets.map fun packet => packet.payload.length).sum

def packetOf : Effect → Option VideoPacket
  | .rtp packet => some packet
  | _ => none

def noteFrame (s : RtcConsumer) (produced : Produced) : Input → Produced
  | .videoFrame frame packets =>
      if s.takes frame then
        { produced with
          frames := produced.frames ++ [frame]
          payloads := produced.payloads ++ payloadsOf packets }
      else produced
  | _ => produced

def noteProduced (s : RtcConsumer) (produced : Produced) (input : Input) : Produced :=
  { noteFrame s produced input with
    packets := produced.packets ++ (s.handle input).2.filterMap packetOf }

abbrev producing : RtcConsumer × Produced → Input → RtcConsumer × Produced :=
  observe step noteProduced

/-- A report made now counts the packets produced so far and the octets of their payloads. -/
def CountersMatch (p : RtcConsumer × Produced) (input : Input) : Prop :=
  ∀ report nowMs, .senderReport report nowMs ∈ (p.1.handle input).2 →
    report.packetCount = UInt32.ofNat p.2.packets.length ∧
      report.octetCount = UInt32.ofNat p.2.packetOctets

def Reports (s : RtcConsumer) : Input → Prop
  | .timer _ _ => s.dtlsDone = true
  | .dtlsConnected _ _ _ => True
  | _ => False

/-- When a report is made, the packetizer has split the frames into as many payloads as there
are frames, with as many octets, up to multiples of 2^32. -/
def FramesMatch (p : RtcConsumer × Produced) (input : Input) : Prop :=
  Reports p.1 input → p.2.frames.length ≡ p.2.payloads.length [MOD 2 ^ 32] ∧
    p.2.frameOctets ≡ p.2.payloadOctets [MOD 2 ^ 32]

/-- The counters count the frames, and what is sent are the payloads. -/
structure Counted (p : RtcConsumer × Produced) : Prop where
  packetCount : p.1.srPacketCount = UInt32.ofNat p.2.frames.length
  octetCount : p.1.srOctetCount = UInt32.ofNat p.2.frameOctets
  packets : p.2.packets.map VideoPacket.payload = p.2.payloads

theorem ofNat_eq_iff {m n : Nat} : UInt32.ofNat m = UInt32.ofNat n ↔ m ≡ n [MOD 2 ^ 32] := by
  rw [← UInt32.toNat_inj, UInt32.toNat_ofNat', UInt32.toNat_ofNat']
  rfl

theorem mem_sendSenderReport_iff {s : RtcConsumer} {ntp : UInt64} {nowMs sentMs : Int}
    {report : SenderReport} :
    .senderReport report sentMs ∈ (s.sendSenderReport ntp nowMs).2 ↔
      s.dtlsDone = true ∧ sentMs = nowMs ∧
        report = ⟨s.videoSsrc, ntp, s.srRtpTimestamp, s.srPacketCount, s.srOctetCount⟩ := by
  rw [sendSenderReport]
  cases hdone : s.dtlsDone with
  | false => simp
  | true =>
      simp only [Bool.not_true, Bool.false_eq_true, if_false, List.mem_singleton,
        Effect.senderReport.injEq, true_and]
      exact and_comm

theorem senderReport_mem_handle {s : RtcConsumer} {input : Input} {report : SenderReport}
    {nowMs : Int} (h : .senderReport report nowMs ∈ (s.handle input).2) :
    Reports s input ∧ report.packetCount = s.srPacketCount ∧
      report.octetCount = s.srOctetCount := by
  cases input with
  | videoFrame frame packets =>
      rw [handle, onVideoFrame] at h
      split at h
      · exact absurd h List.not_mem_nil
      · rcases List.mem_append.mp h with hsent | hlast
        · obtain ⟨_, hpacket⟩ := mem_sendPackets hsent
          cases hpacket
        · cases List.mem_singleton.mp hlast
  | receiverReport blocks nowMs => exact absurd h List.not_mem_nil
  | timer ntp nowMs =>
      rw [handle, onTimer_eq, mem_sendSenderReport_iff] at h
      obtain ⟨hdone, _, rfl⟩ := h
      exact ⟨hdone, rfl, rfl⟩
  | dtlsConnected srtpSendSession ntp nowMs =>
      rw [handle, onDtlsConnected, onTimer_eq, mem_sendSenderReport_iff] at h
      obtain ⟨_, _, rfl⟩ := h
      exact ⟨trivial, rfl, rfl⟩
  | dtlsClosed => exact absurd h List.not_mem_nil

theorem exists_senderReport {s : RtcConsumer} {input : Input} (h : Reports s input) :
    ∃ report nowMs, .senderReport report nowMs ∈ (s.handle input).2 := by
  cases input with
  | videoFrame frame packets => exact absurd h not_false
  | receiverReport blocks nowMs => exact absurd h not_false
  | timer ntp nowMs =>
      refine ⟨⟨s.videoSsrc, ntp, s.srRtpTimestamp, s.srPacketCount, s.srOctetCount⟩, nowMs, ?_⟩
      rw [handle, onTimer_eq, mem_sendSenderReport_iff]
      exact ⟨h, rfl, rfl⟩
  | dtlsConnected srtpSendSession ntp nowMs =>
      refine ⟨⟨s.videoSsrc, ntp, s.srRtpTimestamp, s.srPacketCount, s.srOctetCount⟩, nowMs, ?_⟩
      rw [handle, onDtlsConnected, onTimer_eq, mem_sendSenderReport_iff]
      exact ⟨rfl, rfl, rfl⟩
  | dtlsClosed => exact absurd h not_false

section Counters

variable {p : RtcConsumer × Produced}

theorem onReportBlock_counts (nowMs : Int) (s : RtcConsumer) (block : ReportBlock) :
    (s.onReportBlock nowMs block).srPacketCount = s.srPacketCount ∧
      (s.onReportBlock nowMs block).srOctetCount = s.srOctetCount := by
  rw [onReportBlock]
  split
  · exact ⟨rfl, rfl⟩
  · dsimp only
    split
    · exact ⟨rfl, rfl⟩
    · exact ⟨rfl, rfl⟩

theorem onReceiverReport_counts (s : RtcConsumer) (blocks : List ReportBlock) (nowMs : Int) :
    (s.onReceiverReport blocks nowMs).srPacketCount = s.srPacketCount ∧
      (s.onReceiverReport blocks nowMs).srOctetCount = s.srOctetCount := by
  induction blocks generalizing s with
  | nil => exact ⟨rfl, rfl⟩
  | cons block rest ih =>
      obtain ⟨hpackets, hoctets⟩ := ih (s.onReportBlock nowMs block)
      obtain ⟨hpackets', hoctets'⟩ := onReportBlock_counts nowMs s block
      exact ⟨hpackets.trans hpackets', hoctets.trans hoctets'⟩

theorem sendPackets_payloads (s : RtcConsumer) (rtpTimestamp : UInt32)
    (packets : List (Option (List UInt8))) :
    ((s.sendPackets rtpTimestamp packets).2.filterMap packetOf).map VideoPacket.payload =
      payloadsOf packets := by
  induction packets generalizing s with
  | nil => rfl
  | cons next rest ih =>
      cases next with
      | none => rfl
      | some payload => exact congrArg (payload :: ·) (ih { s with videoSeq := s.videoSeq + 1 })

theorem sendSenderReport_packets (s : RtcConsumer) (ntp : UInt64) (nowMs : Int) :
    (s.sendSenderReport ntp nowMs).2.filterMap packetOf = [] := by
  rw [sendSenderReport]
  split
  · rfl
  · rfl

theorem onVideoFrame_payloads {s : RtcConsumer} {frame : NalRepackaging.EncodedImage}
    (h : s.takes frame = true) (packets : List (Option (List UInt8))) :
    ((s.onVideoFrame frame packets).2.filterMap packetOf).map VideoPacket.payload =
      payloadsOf packets := by
  rw [onVideoFrame, h, Bool.not_true, if_neg Bool.false_ne_true]
  dsimp only
  rw [List.filterMap_append, List.map_append, sendPackets_payloads]
  exact List.append_nil _

theorem Counted.videoFrame (h : Counted p) (frame : NalRepackaging.EncodedImage)
    (packets : List (Option (List UInt8))) :
    Counted (producing p (.videoFrame frame packets)) := by
  have hstep : producing p (.videoFrame frame packets) =
      ((p.1.onVideoFrame frame packets).1,
        { noteFrame p.1 p.2 (.videoFrame frame packets) with
          packets := p.2.packets ++ (p.1.onVideoFrame frame packets).2.filterMap packetOf }) :=
    rfl
  obtain ⟨hpackets, hoctets, hsent⟩ := h
  cases htakes : p.1.takes frame with
  | false =>
      rw [onVideoFrame_of_not_takes htakes, List.filterMap_nil, List.append_nil, noteFrame, htakes,
        if_neg Bool.false_ne_true] at hstep
      rw [hstep]
      exact ⟨hpackets, hoctets, hsent⟩
  | true =>
      obtain ⟨videoSeq, hstate⟩ := onVideoFrame_fst htakes packets
      rw [hstate, noteFrame, htakes, if_pos rfl] at hstep
      rw [hstep]
      refine ⟨?_, ?_, ?_⟩
      · rw [List.length_append, List.length_singleton, UInt32.ofNat_add]
        exact congrArg (· + 1) hpackets
      · rw [Produced.frameOctets, List.map_append, List.sum_append, UInt32.ofNat_add,
          List.map_singleton, List.sum_singleton]
        exact congrArg (· + UInt32.ofNat frame.data.length) hoctets
      · rw [List.map_append, onVideoFrame_payloads htakes, hsent]

/-- What is neither a frame nor sends one leaves all the counts as they are. -/
theorem Counted.of_same (h : Counted p) {input : Input}
    (hpackets : (p.1.handle input).1.srPacketCount = p.1.srPacketCount)
    (hoctets : (p.1.handle input).1.srOctetCount = p.1.srOctetCount)
    (hframe : noteFrame p.1 p.2 input = p.2)
    (hsent : (p.1.handle input).2.filterMap packetOf = []) : Counted (producing p input) := by
  have hstep : producing p input = ((p.1.handle input).1, p.2) := by
    rw [producing, observe, noteProduced, hframe, hsent, List.append_nil]
    rfl
  rw [hstep]
  exact ⟨hpackets.trans h.packetCount, hoctets.trans h.octetCount, h.packets⟩

theorem Counted.of_senderReport (h : Counted p) {input : Input} {s : RtcConsumer} {ntp : UInt64}
    {nowMs : Int} (hhandle : p.1.handle input = s.sendSenderReport ntp nowMs)
    (hframe : noteFrame p.1 p.2 input = p.2)
    (hsame : s.srPacketCount = p.1.srPacketCount ∧ s.srOctetCount = p.1.srOctetCount) :
    Counted (producing p input) := by
  obtain ⟨lastSrSendTimeMs, hstate⟩ := s.sendSenderReport_fst ntp nowMs
  apply h.of_same
  · rw [hhandle, hstate]
    exact hsame.1
  · rw [hhandle, hstate]
    exact hsame.2
  · exact hframe
  · rw [hhandle]
    exact sendSenderReport_packets s ntp nowMs

theorem counted_step (h : Counted p) (input : Input) : Counted (producing p input) := by
  cases input with
  | videoFrame frame packets => exact h.videoFrame frame packets
  | receiverReport blocks nowMs =>
      obtain ⟨hpackets, hoctets⟩ := onReceiverReport_counts p.1 blocks nowMs
      exact h.of_same hpackets hoctets rfl rfl
  | timer ntp nowMs =>
      exact h.of_senderReport (onTimer_eq p.1 ntp nowMs) rfl ⟨rfl, rfl⟩
  | dtlsConnected srtpSendSession ntp nowMs =>
      have hhandle : p.1.handle (.dtlsConnected srtpSendSession ntp nowMs) =
          ({ p.1 with srtpSendSession, dtlsDone := true }).initBandwidthEstimation.sendSenderReport
            ntp nowMs := by
        rw [handle, onDtlsConnected, onTimer_eq]
      exact h.of_senderReport hhandle rfl ⟨rfl, rfl⟩
  | dtlsClosed => exact h.of_same rfl rfl rfl rfl

theorem Counted.packets_length (h : Counted p) : p.2.packets.length = p.2.payloads.length := by
  rw [← h.packets, List.length_map]

theorem Counted.packetOctets_eq (h : Counted p) : p.2.packetOctets = p.2.payloadOctets := by
  rw [Produced.payloadOctets, ← h.packets, List.map_map]
  rfl

theorem countersMatch_iff_framesMatch (h : Counted p) (input : Input) :
    CountersMatch p input ↔ FramesMatch p input := by
  rw [CountersMatch, h.packets_length, h.packetOctets_eq]
  rw [FramesMatch, ← ofNat_eq_iff, ← ofNat_eq_iff, ← h.packetCount, ← h.octetCount]
  constructor
  · intro hmatch hreports
    obtain ⟨report, nowMs, hmem⟩ := exists_senderReport hreports
    obtain ⟨_, hpackets, hoctets⟩ := senderReport_mem_handle hmem
    rw [← hpackets, ← hoctets]
    exact hmatch report nowMs hmem
  · intro hmatch report nowMs hmem
    obtain ⟨hreports, hpackets, hoctets⟩ := senderReport_mem_handle hmem
    rw [hpackets, hoctets]
    exact hmatch hreports

end Counters

/-- In every run the sender reports are right exactly where the packetizer has made as many
payloads as there have been frames, with as many octets. -/
theorem countersMatch_iff (videoSsrc : UInt32) (rttMs : Int) (inputs : List Input) :
    Admitted producing CountersMatch (fresh videoSsrc rttMs, {}) inputs ↔
      Admitted producing FramesMatch (fresh videoSsrc rttMs, {}) inputs :=
  admitted_congr_of_step (P := Counted) ⟨rfl, rfl, rfl⟩ (fun _ input h => counted_step h input)
    (fun _ input h => countersMatch_iff_framesMatch h input)

/-- A frame of six octets is sent in two packets of one each. -/
theorem not_countersMatch_two_packets :
    ¬ ∀ inputs, Admitted producing CountersMatch (fresh 7 0, {}) inputs := by
  intro h
  have hlast := h [.dtlsConnected true 0 0,
    .videoFrame ⟨0, [0, 0, 0, 1, 0x41, 0x9a]⟩ [some [0x41], some [0x9a]], .timer 0 5000]
    [.dtlsConnected true 0 0,
      .videoFrame ⟨0, [0, 0, 0, 1, 0x41, 0x9a]⟩ [some [0x41], some [0x9a]]] (.timer 0 5000) [] rfl
  obtain ⟨hpackets, _⟩ := hlast ⟨7, 0, 0, 1, 6⟩ 5000 (by decide)
  exact absurd hpackets (by decide)

end GBServer.SenderReports
