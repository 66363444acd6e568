import GBServer.RtcConsumer
import Mathlib.Tactic.Linarith

namespace GBServer.ReceiverReports

open Foundation.Rounding
open Foundation.Runs
open GBServer.RtcConsumer

section Loss

/-- The share of the packets up to the highest one that is reported lost; they are numbered
from 100 on. -/
def lossPercent (block : ReportBlock) : Int :=
  100 * block.cumulativeLost / ((block.extendedHighSeqNum.toNat : Int) - 99)

/-- A report block for the video stream, about packets that have been sent. -/
structure Plausible (s : RtcConsumer) (block : ReportBlock) : Prop where
  source : block.sourceSsrc = s.videoSsrc
  first : 100 ≤ block.extendedHighSeqNum.toNat
  sent : block.extendedHighSeqNum.toNat < s.videoSeq.toNat
  lost : 0 ≤ block.cumulativeLost
  some : block.cumulativeLost ≤ (block.extendedHighSeqNum.toNat : Int) - 99

instance (s : RtcConsumer) (block : ReportBlock) : Decidable (Plausible s block) :=
  decidable_of_iff (block.sourceSsrc = s.videoSsrc ∧ 100 ≤ block.extendedHighSeqNum.toNat ∧
    block.extendedHighSeqNum.toNat < s.videoSeq.toNat ∧ 0 ≤ block.cumulativeLost ∧
    block.cumulativeLost ≤ (block.extendedHighSeqNum.toNat : Int) - 99)
    ⟨fun ⟨h, h', h'', h₃, h₄⟩ => ⟨h, h', h'', h₃, h₄⟩, fun h => ⟨h.1, h.2, h.3, h.4, h.5⟩⟩

/-- The bitrate does not go up, and goes down if it may be changed again and is not at the
lowest already. -/
def Lowers (before after : BandwidthEstimation) (nowMs : Int) : Prop :=
  after.targetBitrateBps ≤ before.targetBitrateBps ∧
    (1000 < nowMs - before.lastUpdateTimeMs → before.minBitrateBps < before.targetBitrateBps →
      after.targetBitrateBps < before.targetBitrateBps)

/-- The values given to `UpdatePacketsLost` make the right percentage, and a loss above
20% lowers the bitrate. -/
structure LossEstimated (s : RtcConsumer) (block : ReportBlock) (nowMs : Int) : Prop where
  expected : 0 < s.packetsExpected block
  percent : (block.cumulativeLost * 100).tdiv (s.packetsExpected block) = lossPercent block
  lowers : 20 < lossPercent block →
    Lowers s.bandwidthEstimation (s.onReportBlock nowMs block).bandwidthEstimation nowMs

structure InRange (b : BandwidthEstimation) : Prop where
  pos : 0 < b.minBitrateBps
  low : b.minBitrateBps ≤ b.targetBitrateBps
  high : b.targetBitrateBps ≤ b.maxBitrateBps

variable {b : BandwidthEstimation} {s : RtcConsumer} {block : ReportBlock} {nowMs : Int}

theorem inRange_setBitrates {minBps maxBps : Int} (hpos : 0 < minBps) (hle : minBps ≤ maxBps)
    (initialBps : Int) : InRange (b.setBitrates minBps maxBps initialBps) := by
  refine ⟨hpos, le_max_left _ _, ?_⟩
  exact max_le hle (min_le_left _ _)

theorem InRange.updateBitrate (h : InRange b) (lossFraction : Int) :
    InRange (b.updateBitrate lossFraction) := by
  refine ⟨h.pos, le_max_left _ _, ?_⟩
  exact max_le (h.low.trans h.high) (min_le_left _ _)

/-- Of the bounds and the target only the target can change, and only through
`UpdateBitrate`. -/
theorem updatePacketsLost_cases (b : BandwidthEstimation) (lost expected nowMs : Int) :
    (b.updatePacketsLost lost expected nowMs).minBitrateBps = b.minBitrateBps ∧
      (b.updatePacketsLost lost expected nowMs).maxBitrateBps = b.maxBitrateBps ∧
      (b.updatePacketsLost lost expected nowMs).targetBitrateBps =
        if 0 < expected ∧ 1000 < nowMs - b.lastUpdateTimeMs then
          (b.updateBitrate ((lost * 100).tdiv expected)).targetBitrateBps
        else b.targetBitrateBps := by
  rw [BandwidthEstimation.updatePacketsLost]
  dsimp only
  by_cases hexpected : 0 < expected
  · rw [if_pos hexpected]
    by_cases hdue : 1000 < nowMs - b.lastUpdateTimeMs
    · rw [if_pos hdue, if_pos ⟨hexpected, hdue⟩]
      exact ⟨rfl, rfl, rfl⟩
    · rw [if_neg hdue, if_neg fun h => hdue h.2]
      exact ⟨rfl, rfl, rfl⟩
  · rw [if_neg hexpected, if_neg fun h => hexpected h.1]
    exact ⟨rfl, rfl, rfl⟩

theorem InRange.updatePacketsLost (h : InRange b) (lost expected nowMs : Int) :
    InRange (b.updatePacketsLost lost expected nowMs) := by
  obtain ⟨hmin, hmax, htarget⟩ := updatePacketsLost_cases b lost expected nowMs
  have hupdated := h.updateBitrate ((lost * 100).tdiv expected)
  refine ⟨by rw [hmin]; exact h.pos, ?_, ?_⟩
  · rw [hmin, htarget]
    split
    · exact hupdated.low
    · exact h.low
  · rw [hmax, htarget]
    split
    · exact hupdated.high
    · exact h.high

theorem inRange_onReportBlock (h : InRange s.bandwidthEstimation) (block : ReportBlock) :
    InRange (s.onReportBlock nowMs block).bandwidthEstimation := by
  have hlost := h.updatePacketsLost block.cumulativeLost (s.packetsExpected block) nowMs
  rw [onReportBlock]
  split_ifs
  · exact h
  · split
    · exact ⟨hlost.pos, hlost.low, hlost.high⟩
    · exact hlost

theorem inRange_onReceiverReport (h : InRange s.bandwidthEstimation) (blocks : List ReportBlock) :
    InRange (s.onReceiverReport blocks nowMs).bandwidthEstimation := by
  induction blocks generalizing s with
  | nil => exact h
  | cons block rest ih => exact ih (inRange_onReportBlock h block)

theorem inRange_fresh (videoSsrc : UInt32) (rttMs : Int) :
    InRange (fresh videoSsrc rttMs).bandwidthEstimation :=
  ⟨by norm_num [fresh], by norm_num [fresh], by norm_num [fresh]⟩

theorem inRange_step (h : InRange s.bandwidthEstimation) (input : Input) :
    InRange (s.step input).bandwidthEstimation := by
  cases input with
  | videoFrame frame packets =>
      rw [step, handle]
      cases htakes : s.takes frame with
      | false =>
          rw [onVideoFrame_of_not_takes htakes]
          exact h
      | true =>
          obtain ⟨videoSeq, hstate⟩ := onVideoFrame_fst htakes packets
          rw [hstate]
          exact h
  | receiverReport blocks nowMs => exact inRange_onReceiverReport h blocks
  | timer ntp nowMs =>
      obtain ⟨lastSrSendTimeMs, hstate⟩ := s.sendSenderReport_fst ntp nowMs
      rw [step, handle, onTimer_eq, hstate]
      exact h
  | dtlsConnected srtpSendSession ntp nowMs =>
      obtain ⟨lastSrSendTimeMs, hstate⟩ := sendSenderReport_fst
        ({ s with srtpSendSession, dtlsDone := true }).initBandwidthEstimation ntp nowMs
      rw [step, handle, onDtlsConnected, onTimer_eq, hstate]
      exact inRange_setBitrates (by decide) (by decide) _
  | dtlsClosed => exact h

theorem inRange_run (h : InRange s.bandwidthEstimation) (inputs : List Input) :
    InRange (run step s inputs).bandwidthEstimation :=
  invariant_run_of_step (P := fun s : RtcConsumer => InRange s.bandwidthEstimation) h
    (fun _ input h => inRange_step h input) inputs

theorem scaled_seven_tenths_lt {bitrateBps : Int} (hpos : 0 < bitrateBps) :
    BandwidthEstimation.scaled bitrateBps 6305039478318694 53 < bitrateBps := by
  obtain ⟨n, rfl⟩ := Int.eq_ofNat_of_zero_le hpos.le
  have hn : 0 < n := by exact_mod_cast hpos
  have hround := roundNearest_mul_le 53 (n * 6305039478318694)
  have hquotient : roundNearest 53 (n * 6305039478318694) / 2 ^ 53 < n := by
    rw [Nat.div_lt_iff_lt_mul (by decide)]
    norm_num at hround ⊢
    omega
  rw [BandwidthEstimation.scaled, Int.sign_eq_one_of_pos hpos, one_mul, Int.natAbs_natCast]
  exact_mod_cast hquotient

theorem updateBitrate_lt (h : InRange b) {lossFraction : Int} (hloss : 20 < lossFraction) :
    (b.updateBitrate lossFraction).targetBitrateBps ≤ b.targetBitrateBps ∧
      (b.minBitrateBps < b.targetBitrateBps →
        (b.updateBitrate lossFraction).targetBitrateBps < b.targetBitrateBps) := by
  have hscaled := scaled_seven_tenths_lt (h.pos.trans_le h.low)
  have htarget : (b.updateBitrate lossFraction).targetBitrateBps =
      max b.minBitrateBps (min b.maxBitrateBps
        (BandwidthEstimation.scaled b.targetBitrateBps 6305039478318694 53)) := by
    rw [BandwidthEstimation.updateBitrate]
    dsimp only
    rw [if_pos hloss]
  have hlow := h.low
  rw [htarget]
  constructor
  · omega
  · intro hmin
    omega

theorem targetBitrateBps_onReportBlock (hsource : block.sourceSsrc = s.videoSsrc) :
    (s.onReportBlock nowMs block).bandwidthEstimation.targetBitrateBps =
      (s.bandwidthEstimation.updatePacketsLost block.cumulativeLost
        (s.packetsExpected block) nowMs).targetBitrateBps := by
  rw [onReportBlock, if_neg (not_not.mpr hsource)]
  dsimp only
  split
  · rfl
  · rfl

theorem lowers_of_percent (h : InRange s.bandwidthEstimation)
    (hsource : block.sourceSsrc = s.videoSsrc)
    (hpercent : (block.cumulativeLost * 100).tdiv (s.packetsExpected block) = lossPercent block)
    (hloss : 20 < lossPercent block) (hexpected : 0 < s.packetsExpected block) :
    Lowers s.bandwidthEstimation (s.onReportBlock nowMs block).bandwidthEstimation nowMs := by
  obtain ⟨hle, hlt⟩ := updateBitrate_lt h hloss
  obtain ⟨_, _, htarget⟩ := updatePacketsLost_cases s.bandwidthEstimation block.cumulativeLost
    (s.packetsExpected block) nowMs
  rw [hpercent] at htarget
  rw [Lowers, targetBitrateBps_onReportBlock hsource, htarget]
  constructor
  · split
    · exact hle
    · exact le_rfl
  · intro hdue hmin
    rw [if_pos ⟨hexpected, hdue⟩]
    exact hlt hmin

theorem Plausible.packetsExpected_eq (h : Plausible s block) :
    s.packetsExpected block =
      if block.extendedHighSeqNum.toNat + 1 < s.videoSeq.toNat then
        2 ^ 32 - ((s.videoSeq.toNat : Int) - 1 - block.extendedHighSeqNum.toNat)
      else 0 := by
  have hsent := h.sent
  have hseq := s.videoSeq.toNat_lt
  rw [packetsExpected, UInt32.toNat_add, UInt32.toNat_sub, UInt32.toNat_one]
  split
  · omega
  · omega

/-- A larger divisor leaves the quotient as it is when the dividend is large enough. -/
theorem ediv_eq_ediv_iff {a m n : Int} (ha : 0 ≤ a) (hm : 0 < m) (hmn : m ≤ n) :
    a / n = a / m ↔ a / m * n ≤ a := by
  have hn : 0 < n := hm.trans_le hmn
  constructor
  · intro heq
    rw [← heq]
    exact Int.ediv_mul_le _ hn.ne'
  · intro hle
    have hupper : a < (a / m + 1) * m := Int.lt_ediv_add_one_mul_self a hm
    have hbound : (a / m + 1) * m ≤ (a / m + 1) * n :=
      Int.mul_le_mul_of_nonneg_left hmn (Int.add_nonneg (Int.ediv_nonneg ha hm.le) Int.one_nonneg)
    refine le_antisymm ?_ ((Int.le_ediv_iff_mul_le hn).mpr hle)
    rw [← Int.lt_add_one_iff]
    exact (Int.ediv_lt_iff_lt_mul hn).mpr (hupper.trans_le hbound)

/-- For a block about packets that have been sent, in a state with a bitrate in range. -/
theorem lossEstimated_iff_of_inRange (hrange : InRange s.bandwidthEstimation)
    (h : Plausible s block) :
    LossEstimated s block nowMs ↔
      block.extendedHighSeqNum.toNat + 1 < s.videoSeq.toNat ∧
        lossPercent block *
            (2 ^ 32 - ((s.videoSeq.toNat : Int) - 1 - block.extendedHighSeqNum.toNat)) ≤
          100 * block.cumulativeLost := by
  have hexpected := h.packetsExpected_eq
  have hfirst := h.first
  have hlost := h.lost
  have hseq := s.videoSeq.toNat_lt
  by_cases hbehind : block.extendedHighSeqNum.toNat + 1 < s.videoSeq.toNat
  · rw [if_pos hbehind] at hexpected
    have hpos : 0 < s.packetsExpected block := by omega
    -- the number expected is larger than the number of packets reported on
    have hlarge : (block.extendedHighSeqNum.toNat : Int) - 99 ≤ s.packetsExpected block := by
      omega
    have hpercent : (block.cumulativeLost * 100).tdiv (s.packetsExpected block) =
        lossPercent block ↔
          lossPercent block * s.packetsExpected block ≤ 100 * block.cumulativeLost := by
      rw [Int.tdiv_eq_ediv_of_nonneg (by omega), mul_comm block.cumulativeLost 100]
      exact ediv_eq_ediv_iff (by omega) (by omega) hlarge
    rw [and_iff_right hbehind, ← hexpected, ← hpercent]
    constructor
    · intro hestimated
      exact hestimated.percent
    · intro heq
      exact ⟨hpos, heq, fun hloss => lowers_of_percent hrange h.source heq hloss hpos⟩
  · rw [if_neg hbehind] at hexpected
    refine iff_of_false ?_ fun hboth => hbehind hboth.1
    intro hestimated
    have hpos := hestimated.expected
    omega

/-- The viewer after a run and after the first blocks of a receiver report. -/
abbrev reached (videoSsrc : UInt32) (rttMs : Int) (inputs : List Input)
    (earlier : List ReportBlock) (nowMs : Int) : RtcConsumer :=
  (run step (fresh videoSsrc rttMs) inputs).onReceiverReport earlier nowMs

/-- The loss is estimated rightly exactly where the number of packets expected, which is
near 2^32, makes no difference to the percentage. -/
theorem lossEstimated_iff (videoSsrc : UInt32) (rttMs : Int) (inputs : List Input)
    (earlier : List ReportBlock) (nowMs : Int) (block : ReportBlock)
    (h : Plausible (reached videoSsrc rttMs inputs earlier nowMs) block) :
    LossEstimated (reached videoSsrc rttMs inputs earlier nowMs) block nowMs ↔
      block.extendedHighSeqNum.toNat + 1 <
          (reached videoSsrc rttMs inputs earlier nowMs).videoSeq.toNat ∧
        lossPercent block *
            (2 ^ 32 - (((reached videoSsrc rttMs inputs earlier nowMs).videoSeq.toNat : Int) - 1 -
              block.extendedHighSeqNum.toNat)) ≤
          100 * block.cumulativeLost := by
  refine lossEstimated_iff_of_inRange ?_ h
  exact inRange_onReceiverReport (inRange_run (inRange_fresh videoSsrc rttMs) inputs) earlier

def threePackets : List Input :=
  [.dtlsConnected true 0 0,
    .videoFrame ⟨0, [0, 0, 0, 1, 0x41, 0x9a]⟩ [some [0x41], some [0x9a], some [0x9a]]]

theorem lossEstimated_no_loss :
    LossEstimated (reached 7 0 threePackets [] 2000) ⟨7, 0, 101, 0, 0⟩ 2000 :=
  (lossEstimated_iff 7 0 threePackets [] 2000 ⟨7, 0, 101, 0, 0⟩ (by decide)).mpr (by decide)

/-- The first of the three packets is reported, and lost: the loss comes out as 0%. -/
theorem not_lossEstimated_first_lost :
    ¬ ∀ (inputs : List Input) (nowMs : Int) (block : ReportBlock),
      Plausible (reached 7 0 inputs [] nowMs) block →
        LossEstimated (reached 7 0 inputs [] nowMs) block nowMs := by
  intro h
  have hestimated := h threePackets 2000 ⟨7, 1, 100, 0, 0⟩ (by decide)
  exact absurd hestimated.percent (by decide)

end Loss

section RoundTrip

/-- `SendSenderReport` was called at this time and made this report. -/
def Sent (videoSsrc : UInt32) (rttMs : Int) (inputs : List Input) (report : SenderReport)
    (sentMs : Int) : Prop :=
  .senderReport report sentMs ∈ effects (fresh videoSsrc rttMs) inputs

instance (videoSsrc : UInt32) (rttMs : Int) (inputs : List Input) (report : SenderReport)
    (sentMs : Int) : Decidable (Sent videoSsrc rttMs inputs report sentMs) :=
  inferInstanceAs (Decidable (_ ∈ _))

/-- `UpdateRtt` is given the time from the sender report to the receiver report without the
delay at the receiver, up to one millisecond; the delay is in units of 1/65536 s.  Its
product by 1000 fits into 32 bits. -/
def RttMeasured (block : ReportBlock) (sentMs arrivalMs : Int) : Prop :=
  (∃ rttMs, delayMs? block = some rttMs ∧
    |65536 * rttMs - (65536 * (arrivalMs - sentMs) - 1000 * block.delaySinceLastSr.toNat)| ≤
      65536) ∧
  1000 * block.delaySinceLastSr.toNat < 2 ^ 32

instance (block : ReportBlock) (sentMs arrivalMs : Int) :
    Decidable (RttMeasured block sentMs arrivalMs) :=
  decidable_of_iff ((∃ rttMs ∈ delayMs? block,
    |65536 * rttMs - (65536 * (arrivalMs - sentMs) - 1000 * block.delaySinceLastSr.toNat)| ≤
      65536) ∧ 1000 * block.delaySinceLastSr.toNat < 2 ^ 32) Iff.rfl

/-- The holding delay in whole milliseconds. -/
def heldMs (block : ReportBlock) : Int := 1000 * block.delaySinceLastSr.toNat / 65536

theorem delayMs?_eq {block : ReportBlock} (hfits : 1000 * block.delaySinceLastSr.toNat < 2 ^ 32)
    (hsr : 0 < block.lastSr) (hdelay : 0 < block.delaySinceLastSr) :
    delayMs? block = some (heldMs block) := by
  rw [delayMs?, if_pos ⟨hsr, hdelay⟩, heldMs, UInt32.toNat_div, UInt32.toNat_mul]
  have hfactor : (1000 : UInt32).toNat = 1000 := rfl
  have hunit : (65536 : UInt32).toNat = 65536 := rfl
  rw [hfactor, hunit, Nat.mod_eq_of_lt (by omega), Nat.mul_comm]
  norm_cast

theorem rttMeasured_iff_of_held {block : ReportBlock} {sentMs arrivalMs : Int} :
    RttMeasured block sentMs arrivalMs ↔
      0 < block.lastSr ∧ 0 < block.delaySinceLastSr ∧
        1000 * block.delaySinceLastSr.toNat < 2 ^ 32 ∧
          (arrivalMs - sentMs = 2 * heldMs block ∨ arrivalMs - sentMs = 2 * heldMs block + 1 ∨
            (arrivalMs - sentMs = 2 * heldMs block - 1 ∧
              65536 ∣ 1000 * block.delaySinceLastSr.toNat)) := by
  constructor
  · rintro ⟨⟨rttMs, hrtt, hclose⟩, hfits⟩
    have hcalled : 0 < block.lastSr ∧ 0 < block.delaySinceLastSr := by
      rw [delayMs?] at hrtt
      split at hrtt
      · assumption
      · cases hrtt
    rw [delayMs?_eq hfits hcalled.1 hcalled.2] at hrtt
    obtain rfl := Option.some.inj hrtt
    refine ⟨hcalled.1, hcalled.2, hfits, ?_⟩
    rw [abs_le] at hclose
    have hquotient : 65536 * heldMs block ≤ 1000 * block.delaySinceLastSr.toNat ∧
        1000 * block.delaySinceLastSr.toNat < 65536 * heldMs block + 65536 := by
      rw [heldMs]
      omega
    by_cases hwhole : 65536 ∣ 1000 * block.delaySinceLastSr.toNat
    · omega
    · have hpart : 65536 * heldMs block ≠ 1000 * block.delaySinceLastSr.toNat := by
        intro heq
        exact hwhole (Int.natCast_dvd_natCast.mp ⟨heldMs block, by push_cast; exact heq.symm⟩)
      omega
  · rintro ⟨hsr, hdelay, hfits, hmatch⟩
    refine ⟨⟨_, delayMs?_eq hfits hsr hdelay, ?_⟩, hfits⟩
    rw [heldMs] at hmatch ⊢
    rw [abs_le]
    omega

end RoundTrip

end GBServer.ReceiverReports
