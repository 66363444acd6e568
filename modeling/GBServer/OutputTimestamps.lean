import GBServer.RtcProducer

namespace GBServer.OutputTimestamps

-- what `OnVideoFrame` and `OnAudioFrame` of the FLV, WebRTC and RTSP consumers write
def flvVideoTime (timestamp : BitVec 32) : BitVec 32 := timestamp / 1000

def flvAudioTime (pts : Int) : Int := pts.tdiv 1000

def rtcVideoTimestamp (timestamp : BitVec 32) : BitVec 32 := timestamp * 90

def rtcAudioTimestamp (pts : Int) : BitVec 32 := BitVec.ofInt 32 (pts * 90)

/-- `RtspConsumer::PacketizeH264Frame`; `RtspConsumer::OnAudioFrame` sends nothing. -/
def rtspVideoTimestamp (timestamp : BitVec 32) : BitVec 32 := timestamp * 90

/-- The RTP timestamp is that of the time in milliseconds, up to one millisecond and
modulo the wrap of the 90 kHz clock. -/
def Denotes (rtp : BitVec 32) (ms : Int) : Prop :=
  ∃ error : Int, -90 ≤ error ∧ error ≤ 90 ∧
    (rtp.toNat : Int) % 2 ^ 32 = (90 * ms + error) % 2 ^ 32

def VideoOnOneTimeLine (timestamp : BitVec 32) : Prop :=
  Denotes (rtcVideoTimestamp timestamp) (flvVideoTime timestamp).toNat ∧
    rtcVideoTimestamp timestamp = rtspVideoTimestamp timestamp

def AudioOnOneTimeLine (pts : Int) : Prop := Denotes (rtcAudioTimestamp pts) (flvAudioTime pts)

/-- Up to one millisecond, the time is a whole number of periods of the clock. -/
def WholePeriods (ms : Int) : Prop :=
  ∃ periods : Int, periods * 2 ^ 32 - 90 ≤ 90 * ms ∧ 90 * ms ≤ periods * 2 ^ 32 + 90

theorem denotes_iff (rtp : BitVec 32) (time ms : Int)
    (h : (rtp.toNat : Int) = (90 * time) % 2 ^ 32) :
    Denotes rtp ms ↔ WholePeriods (time - ms) := by
  rw [Denotes, WholePeriods, h]
  constructor
  · rintro ⟨error, hlow, hhigh, heq⟩
    refine ⟨(90 * (time - ms) - error) / 2 ^ 32, ?_, ?_⟩ <;> omega
  · rintro ⟨periods, hlow, hhigh⟩
    refine ⟨90 * (time - ms) - periods * 2 ^ 32, ?_, ?_, ?_⟩ <;> omega

theorem videoOnOneTimeLine_iff (timestamp : BitVec 32) :
    VideoOnOneTimeLine timestamp ↔
      WholePeriods (timestamp.toNat - (timestamp.toNat / 1000 : Nat)) := by
  have hrtp : ((rtcVideoTimestamp timestamp).toNat : Int) =
      (90 * (timestamp.toNat : Int)) % 2 ^ 32 := by
    have hfactor : (90 : BitVec 32).toNat = 90 := rfl
    rw [rtcVideoTimestamp, BitVec.toNat_mul, hfactor]
    omega
  have hflv : (flvVideoTime timestamp).toNat = timestamp.toNat / 1000 := by
    simp [flvVideoTime]
  rw [VideoOnOneTimeLine, denotes_iff _ _ _ hrtp, hflv]
  exact and_iff_left rfl

theorem audioOnOneTimeLine_iff (pts : Int) :
    AudioOnOneTimeLine pts ↔ WholePeriods (pts - pts.tdiv 1000) := by
  have hrtp : ((rtcAudioTimestamp pts).toNat : Int) = (90 * pts) % 2 ^ 32 := by
    simp only [rtcAudioTimestamp, BitVec.toNat_ofInt]
    omega
  exact denotes_iff _ _ _ hrtp

theorem wholePeriods_iff_of_lt {ms : Nat} (h : 90 * ms < 2 ^ 32) :
    WholePeriods (ms - (ms / 1000 : Nat)) ↔ ms ≤ 1 := by
  constructor
  · rintro ⟨periods, hlow, hhigh⟩
    have hperiods : periods ≤ 0 := by omega
    omega
  · intro hsmall
    exact ⟨0, by omega, by omega⟩

/-- A video frame of a WebRTC publisher carries the clock of its RTP packet in
milliseconds. -/
theorem timestamp_of_addVideoFrame {producer : RtcProducer} {packet : RtpPacketReceived}
    {nowMs : Int} {image : EncodedImage}
    (h : .addVideoFrame image ∈ (producer.onSrtpRtp (some packet) nowMs).2) :
    image.timestamp = packet.timestamp / 90 := by
  simp only [RtcProducer.onSrtpRtp, RtcProducer.depacketize] at h
  split_ifs at h <;> simp at h
  rw [h]
  rfl

theorem timestamp_of_addAudioFrame {producer : RtcProducer} {packet : RtpPacketReceived}
    {nowMs : Int} {payload : List UInt8} {timestamp : BitVec 32}
    (h : .addAudioFrame payload timestamp ∈ (producer.onSrtpRtp (some packet) nowMs).2) :
    timestamp = packet.timestamp / 90 := by
  simp only [RtcProducer.onSrtpRtp, RtcProducer.depacketize] at h
  split_ifs at h <;> simp at h
  exact h.2

/-- On the clock of a WebRTC publisher the condition means the first two milliseconds. -/
theorem wholePeriods_clock_iff (clock : BitVec 32) :
    WholePeriods ((clock / 90).toNat - ((clock / 90).toNat / 1000 : Nat)) ↔
      clock.toNat < 180 := by
  have hms : (clock / 90).toNat = clock.toNat / 90 := by
    rw [BitVec.toNat_udiv]
    rfl
  rw [hms, wholePeriods_iff_of_lt (by omega)]
  omega

/-- The time lines agree exactly where the division by 1000 loses a whole number of
periods, which for the frames of a WebRTC publisher means the first 180 ticks. -/
theorem onOneTimeLine_iff (timestamp : BitVec 32) (pts : Int) (producer : RtcProducer)
    (packet : RtpPacketReceived) (nowMs : Int) :
    (VideoOnOneTimeLine timestamp ↔
      WholePeriods (timestamp.toNat - (timestamp.toNat / 1000 : Nat))) ∧
    (AudioOnOneTimeLine pts ↔ WholePeriods (pts - pts.tdiv 1000)) ∧
    (∀ image, .addVideoFrame image ∈ (producer.onSrtpRtp (some packet) nowMs).2 →
      (VideoOnOneTimeLine image.timestamp ↔ packet.timestamp.toNat < 180)) ∧
    ∀ payload time,
      .addAudioFrame payload time ∈ (producer.onSrtpRtp (some packet) nowMs).2 →
        (AudioOnOneTimeLine time.toNat ↔ packet.timestamp.toNat < 180) := by
  refine ⟨videoOnOneTimeLine_iff timestamp, audioOnOneTimeLine_iff pts, ?_, ?_⟩
  · intro image himage
    rw [timestamp_of_addVideoFrame himage, videoOnOneTimeLine_iff, wholePeriods_clock_iff]
  · intro payload time haudio
    rw [timestamp_of_addAudioFrame haudio, audioOnOneTimeLine_iff,
      ← wholePeriods_clock_iff packet.timestamp]
    rfl

/-- One second: one FLV millisecond, 90000 ticks of RTP. -/
theorem not_onOneTimeLine_second :
    ¬ ((∀ timestamp, VideoOnOneTimeLine timestamp) ∧ ∀ pts, AudioOnOneTimeLine pts) := by
  rintro ⟨hvideo, _⟩
  have hsecond := (videoOnOneTimeLine_iff 1000).mp (hvideo 1000)
  have hlag := (@wholePeriods_iff_of_lt 1000 (by decide)).mp hsecond
  exact absurd hlag (by decide)

end GBServer.OutputTimestamps
