import GBServer.RtcConsumer
import Mathlib.Algebra.Order.Field.Rat

namespace GBServer.BandwidthTarget

open Foundation.Runs

inductive Fault where
  | conversion
  deriving DecidableEq, Repr

/-- The product with `numerator / denominator`, cut to a whole number. -/
def scaled (bitrateBps numerator denominator : Int) : Int :=
  (bitrateBps * numerator).tdiv denominator

/-- `static_cast<int32_t>`, which is undefined outside of the range. -/
def toInt32 (value : Int) : Except Fault Int :=
  if -2 ^ 31 ≤ value ∧ value < 2 ^ 31 then .ok value else .error .conversion

/-- The first statement of `UpdateBitrate`. -/
def ladder (b : BandwidthEstimation) (lossFraction : Int) : Except Fault Int :=
  if 20 < lossFraction then toInt32 (scaled b.targetBitrateBps 7 10)
  else if 10 < lossFraction then toInt32 (scaled b.targetBitrateBps 17 20)
  else if lossFraction < 2 ∧ b.rttMs < 100 then toInt32 (scaled b.targetBitrateBps 11 10)
  else .ok b.targetBitrateBps

def updateBitrate (b : BandwidthEstimation) (lossFraction : Int) :
    Except Fault BandwidthEstimation := do
  let target ← ladder b lossFraction
  return { b with targetBitrateBps := max b.minBitrateBps (min b.maxBitrateBps target) }

def updatePacketsLost (b : BandwidthEstimation) (lost expected nowMs : Int) :
    Except Fault BandwidthEstimation :=
  let b := { b with packetsLost := lost, packetsReceived := expected }
  if 0 < expected then
    let fraction := (lost * 100).tdiv expected
    let b := { b with lastFractionLoss := fraction.bmod (2 ^ 32) }
    if 1000 < nowMs - b.lastUpdateTimeMs then do
      let b ← updateBitrate b fraction
      return { b with lastUpdateTimeMs := nowMs }
    else .ok b
  else .ok b

inductive Input where
  | updatePacketsLost (lost : Nat) (expected nowMs : Int)
  | updateRtt (rttMs : Int)
  deriving DecidableEq, Repr

def step (b : BandwidthEstimation) : Input → Except Fault BandwidthEstimation
  | .updatePacketsLost lost expected nowMs => updatePacketsLost b lost expected nowMs
  | .updateRtt rttMs => .ok (b.updateRtt rttMs)

/-- From the same state and at the same time, a larger share of lost packets does not give a
larger target. -/
def LossAntitone (b : BandwidthEstimation) : Prop :=
  ∀ (nowMs : Int) (lost lost' : Nat) (expected expected' : Int), 0 < expected → 0 < expected' →
    (lost : ℚ) / expected ≤ lost' / expected' →
    ∀ s s', step b (.updatePacketsLost lost expected nowMs) = .ok s →
      step b (.updatePacketsLost lost' expected' nowMs) = .ok s' →
        s'.targetBitrateBps ≤ s.targetBitrateBps

/-- No conversion has been out of range, and the target is between the bounds. -/
def Sound (minBps maxBps : Int) (p : Except Fault BandwidthEstimation) : Prop :=
  ∃ b, p = .ok b ∧ minBps ≤ b.targetBitrateBps ∧ b.targetBitrateBps ≤ maxBps ∧ LossAntitone b

/-- The largest target whose product with 1.1 fits. -/
def raiseLimit : Int := 1952257861

def RaisesInRange (b : BandwidthEstimation) : Input → Prop
  | .updatePacketsLost lost expected nowMs =>
      0 < expected → 1000 < nowMs - b.lastUpdateTimeMs → (lost * 100 : Int).tdiv expected < 2 →
        b.rttMs < 100 → b.targetBitrateBps ≤ raiseLimit
  | .updateRtt _ => True

section Frame

variable {b b' : BandwidthEstimation}

end Frame

section Products

variable {target : Int}

theorem scaled_eq (htarget : 0 ≤ target) (numerator denominator : Nat) :
    scaled target numerator denominator = target * numerator / denominator :=
  Int.tdiv_eq_ediv_of_nonneg (Int.mul_nonneg htarget (Int.natCast_nonneg numerator))

theorem scaled_ladder (htarget : 0 ≤ target) :
    0 ≤ scaled target 7 10 ∧ scaled target 7 10 ≤ scaled target 17 20 ∧
      scaled target 17 20 ≤ target ∧ target ≤ scaled target 11 10 := by
  have hlow := scaled_eq htarget 7 10
  have hmiddle := scaled_eq htarget 17 20
  have hhigh := scaled_eq htarget 11 10
  push_cast at hlow hmiddle hhigh
  rw [hlow, hmiddle, hhigh]
  omega

theorem scaled_raise_lt_iff (htarget : 0 ≤ target) :
    scaled target 11 10 < 2 ^ 31 ↔ target ≤ raiseLimit := by
  have hhigh := scaled_eq htarget 11 10
  push_cast at hhigh
  rw [hhigh, raiseLimit]
  omega

theorem toInt32_of_lt {value : Int} (hlow : 0 ≤ value) (hhigh : value < 2 ^ 31) :
    toInt32 value = .ok value :=
  if_pos ⟨by omega, hhigh⟩

end Products

def wanted (target rttMs lossFraction : Int) : Int :=
  if 20 < lossFraction then scaled target 7 10
  else if 10 < lossFraction then scaled target 17 20
  else if lossFraction < 2 ∧ rttMs < 100 then scaled target 11 10
  else target

theorem wanted_antitone {target : Int} (htarget : 0 ≤ target) (rttMs : Int)
    {fraction fraction' : Int} (h : fraction ≤ fraction') :
    wanted target rttMs fraction' ≤ wanted target rttMs fraction := by
  obtain ⟨_, hlow, hmiddle, hhigh⟩ := scaled_ladder htarget
  unfold wanted
  split_ifs <;> omega

/-- The target that a report leaves, if no conversion fails. -/
def retargeted (b : BandwidthEstimation) (lost : Nat) (expected nowMs : Int) : Int :=
  if 0 < expected ∧ 1000 < nowMs - b.lastUpdateTimeMs then
    max b.minBitrateBps (min b.maxBitrateBps
      (wanted b.targetBitrateBps b.rttMs ((lost * 100 : Int).tdiv expected)))
  else b.targetBitrateBps

theorem percent_le {lost lost' : Nat} {expected expected' : Int} (hexpected : 0 < expected)
    (hexpected' : 0 < expected') (h : (lost : ℚ) / expected ≤ lost' / expected') :
    (lost * 100 : Int).tdiv expected ≤ (lost' * 100 : Int).tdiv expected' := by
  have hcross : (lost : Int) * expected' ≤ lost' * expected := by
    rw [div_le_div_iff₀ (by exact_mod_cast hexpected) (by exact_mod_cast hexpected')] at h
    exact_mod_cast h
  rw [Int.tdiv_eq_ediv_of_nonneg (by omega), Int.tdiv_eq_ediv_of_nonneg (by omega),
    Int.le_ediv_iff_mul_le hexpected']
  have hfloor : (lost * 100 : Int) / expected * expected ≤ lost * 100 :=
    Int.ediv_mul_le _ hexpected.ne'
  refine le_of_mul_le_mul_right ?_ hexpected
  calc (lost * 100 : Int) / expected * expected' * expected
      = (lost * 100 : Int) / expected * expected * expected' := mul_right_comm _ _ _
    _ ≤ lost * 100 * expected' := Int.mul_le_mul_of_nonneg_right hfloor hexpected'.le
    _ = lost * expected' * 100 := mul_right_comm _ _ _
    _ ≤ lost' * expected * 100 := Int.mul_le_mul_of_nonneg_right hcross (by decide)
    _ = lost' * 100 * expected := mul_right_comm _ _ _

/-- The bounds are as they were set, and the target is between them. -/
structure Bounded (minBps maxBps : Int) (b : BandwidthEstimation) : Prop where
  pos : 0 < minBps
  fits : maxBps ≤ 2 ^ 31 - 1
  min : b.minBitrateBps = minBps
  max : b.maxBitrateBps = maxBps
  low : minBps ≤ b.targetBitrateBps
  high : b.targetBitrateBps ≤ maxBps

section Updates

variable {minBps maxBps : Int} {b : BandwidthEstimation} (h : Bounded minBps maxBps b)

include h

theorem Bounded.nonneg : 0 ≤ b.targetBitrateBps := Int.le_of_lt (Int.lt_of_lt_of_le h.pos h.low)

theorem Bounded.ladder {lossFraction : Int}
    (hraise : lossFraction < 2 → b.rttMs < 100 → b.targetBitrateBps ≤ raiseLimit) :
    ladder b lossFraction = .ok (wanted b.targetBitrateBps b.rttMs lossFraction) := by
  obtain ⟨hpos, hlow, hmiddle, _⟩ := scaled_ladder h.nonneg
  have hfits := h.fits
  have hhigh := h.high
  rw [BandwidthTarget.ladder, wanted]
  split
  · exact toInt32_of_lt (by omega) (by omega)
  · split
    · exact toInt32_of_lt (by omega) (by omega)
    · split
      · next hgood =>
          have hraised := (scaled_raise_lt_iff h.nonneg).mpr (hraise hgood.1 hgood.2)
          exact toInt32_of_lt (by omega) hraised
      · rfl

theorem Bounded.ladder_overflow {lossFraction : Int} (hloss : lossFraction < 2)
    (hrtt : b.rttMs < 100) (hlimit : raiseLimit < b.targetBitrateBps) :
    BandwidthTarget.ladder b lossFraction = .error .conversion := by
  have hraised : ¬ scaled b.targetBitrateBps 11 10 < 2 ^ 31 := by
    rw [scaled_raise_lt_iff h.nonneg]
    omega
  rw [BandwidthTarget.ladder, if_neg (by omega), if_neg (by omega), if_pos ⟨hloss, hrtt⟩,
    toInt32, if_neg fun hrange => hraised hrange.2]

/-- A report does not touch what the ladder reads. -/
theorem Bounded.reported (lost expected : Int) :
    Bounded minBps maxBps
      { b with
        packetsLost := lost
        packetsReceived := expected
        lastFractionLoss := ((lost * 100).tdiv expected).bmod (2 ^ 32) } :=
  ⟨h.pos, h.fits, h.min, h.max, h.low, h.high⟩

theorem Bounded.updateRtt (rttMs : Int) : Bounded minBps maxBps (b.updateRtt rttMs) :=
  ⟨h.pos, h.fits, h.min, h.max, h.low, h.high⟩

/-- Between a report and its target there is nothing but the ladder and the bounds. -/
theorem Bounded.updatePacketsLost {lost : Nat} {expected nowMs : Int}
    (hraise : RaisesInRange b (.updatePacketsLost lost expected nowMs)) :
    ∃ b', BandwidthTarget.updatePacketsLost b lost expected nowMs = .ok b' ∧
      b'.minBitrateBps = minBps ∧ b'.maxBitrateBps = maxBps ∧
      b'.targetBitrateBps = retargeted b lost expected nowMs := by
  rw [BandwidthTarget.updatePacketsLost, retargeted]
  by_cases hexpected : 0 < expected
  · by_cases hdue : 1000 < nowMs - b.lastUpdateTimeMs
    · have hladder := (h.reported lost expected).ladder (hraise hexpected hdue)
      dsimp only
      rw [if_pos hexpected, if_pos hdue, if_pos ⟨hexpected, hdue⟩, updateBitrate, hladder]
      exact ⟨_, rfl, h.min, h.max, rfl⟩
    · dsimp only
      rw [if_pos hexpected, if_neg hdue, if_neg fun hboth => hdue hboth.2]
      exact ⟨_, rfl, h.min, h.max, rfl⟩
  · dsimp only
    rw [if_neg hexpected, if_neg fun hboth => hexpected hboth.1]
    exact ⟨_, rfl, h.min, h.max, rfl⟩

theorem Bounded.retargeted (hle : minBps ≤ maxBps) (lost : Nat) (expected nowMs : Int) :
    minBps ≤ retargeted b lost expected nowMs ∧ retargeted b lost expected nowMs ≤ maxBps := by
  have hlow := h.low
  have hhigh := h.high
  rw [BandwidthTarget.retargeted, h.min, h.max]
  split_ifs <;> omega

theorem Bounded.le : minBps ≤ maxBps := h.low.trans h.high

theorem Bounded.step {input : Input} (hraise : RaisesInRange b input) :
    ∃ b', BandwidthTarget.step b input = .ok b' ∧ Bounded minBps maxBps b' := by
  cases input with
  | updatePacketsLost lost expected nowMs =>
      obtain ⟨b', hb', hmin, hmax, htarget⟩ := h.updatePacketsLost hraise
      obtain ⟨hlow, hhigh⟩ := h.retargeted h.le lost expected nowMs
      exact ⟨b', hb', h.pos, h.fits, hmin, hmax, htarget ▸ hlow, htarget ▸ hhigh⟩
  | updateRtt rttMs => exact ⟨_, rfl, h.updateRtt rttMs⟩

theorem Bounded.step_overflow {input : Input} (hraise : ¬ RaisesInRange b input) :
    BandwidthTarget.step b input = .error .conversion := by
  cases input with
  | updatePacketsLost lost expected nowMs =>
      simp only [RaisesInRange, not_forall, not_le] at hraise
      obtain ⟨hexpected, hdue, hloss, hrtt, hlimit⟩ := hraise
      have hoverflow := (h.reported lost expected).ladder_overflow hloss hrtt hlimit
      rw [BandwidthTarget.step, BandwidthTarget.updatePacketsLost]
      dsimp only
      rw [if_pos hexpected, if_pos hdue, updateBitrate, hoverflow]
      rfl
  | updateRtt rttMs => exact absurd trivial hraise

theorem Bounded.raisesInRange {input : Input} {b' : BandwidthEstimation}
    (hb' : BandwidthTarget.step b input = .ok b') : RaisesInRange b input := by
  by_contra hraise
  rw [h.step_overflow hraise] at hb'
  cases hb'

theorem Bounded.target_eq {lost : Nat} {expected nowMs : Int} {b' : BandwidthEstimation}
    (hb' : BandwidthTarget.step b (.updatePacketsLost lost expected nowMs) = .ok b') :
    b'.targetBitrateBps = BandwidthTarget.retargeted b lost expected nowMs := by
  obtain ⟨s, hs, _, _, htarget⟩ := h.updatePacketsLost (h.raisesInRange hb')
  obtain rfl := Except.ok.inj (hs.symm.trans hb')
  exact htarget

theorem Bounded.lossAntitone : LossAntitone b := by
  intro nowMs lost lost' expected expected' hexpected hexpected' hshare s s' hs hs'
  have hwanted := wanted_antitone h.nonneg b.rttMs (percent_le hexpected hexpected' hshare)
  rw [h.target_eq hs, h.target_eq hs', BandwidthTarget.retargeted, BandwidthTarget.retargeted]
  by_cases hdue : 1000 < nowMs - b.lastUpdateTimeMs
  · rw [if_pos ⟨hexpected', hdue⟩, if_pos ⟨hexpected, hdue⟩]
    omega
  · rw [if_neg fun hboth => hdue hboth.2, if_neg fun hboth => hdue hboth.2]

end Updates

section Runs

variable {minBps maxBps : Int}

theorem Sound.of_bounded {b : BandwidthEstimation} (h : Bounded minBps maxBps b) :
    Sound minBps maxBps (.ok b) :=
  ⟨b, rfl, h.low, h.high, h.lossAntitone⟩

theorem sound_step_iff {b : BandwidthEstimation} (h : Bounded minBps maxBps b) (input : Input) :
    Sound minBps maxBps (step b input) ↔ RaisesInRange b input := by
  constructor
  · rintro ⟨b', hb', _⟩
    exact h.raisesInRange hb'
  · intro hraise
    obtain ⟨b', hb', hbounded⟩ := h.step hraise
    rw [hb']
    exact Sound.of_bounded hbounded

theorem onOk_bounded_step {b : BandwidthEstimation} (h : Bounded minBps maxBps b)
    (input : Input) : OnOk (Bounded minBps maxBps) (step b input) := by
  intro b' hb'
  obtain ⟨s, hs, hbounded⟩ := h.step (h.raisesInRange hb')
  obtain rfl := Except.ok.inj (hs.symm.trans hb')
  exact hbounded

/-- A run is sound exactly when no target above the limit is raised. -/
theorem throughout_sound_iff {b : BandwidthEstimation} (h : Bounded minBps maxBps b)
    (inputs : List Input) :
    Throughout (guarded step) (Sound minBps maxBps) (.ok b) inputs ↔
      Admitted (guarded step) (fun p input => OnOk (RaisesInRange · input) p) (.ok b) inputs := by
  refine @throughout_iff_admitted _ _ _ _ _ (OnOk (Bounded minBps maxBps)) _ _
    (Sound.of_bounded h) (onOk_ok.mpr h) ?_ ?_
  · rintro _ input hbounded ⟨s, rfl, _⟩
    rw [guarded_ok, onOk_ok]
    exact sound_step_iff (onOk_ok.mp hbounded) input
  · rintro _ input hbounded ⟨s, rfl, _⟩ _
    exact onOk_bounded_step (onOk_ok.mp hbounded) input

/-- With these bounds, or from so small a target, no run comes to a target that a raise would
take out of the range. -/
def NeverOverflows (maxBps : Int) (b : BandwidthEstimation) : Prop :=
  maxBps ≤ raiseLimit ∨ b.targetBitrateBps < 10

instance (maxBps : Int) (b : BandwidthEstimation) : Decidable (NeverOverflows maxBps b) :=
  inferInstanceAs (Decidable (_ ∨ _))

theorem RaisesInRange.of_neverOverflows {b : BandwidthEstimation}
    (h : Bounded minBps maxBps b) (hnever : NeverOverflows maxBps b) (input : Input) :
    RaisesInRange b input := by
  have hhigh := h.high
  have htarget : b.targetBitrateBps ≤ raiseLimit := by
    rcases hnever with hmax | hsmall
    · omega
    · rw [raiseLimit]
      omega
  cases input with
  | updatePacketsLost lost expected nowMs => exact fun _ _ _ _ => htarget
  | updateRtt rttMs => trivial

theorem retargeted_lt {b : BandwidthEstimation} (h : Bounded minBps maxBps b)
    (hsmall : b.targetBitrateBps < 10) (lost : Nat) (expected nowMs : Int) :
    retargeted b lost expected nowMs < 10 := by
  have hnonneg := h.nonneg
  have hlow := h.low
  have hraised := scaled_eq h.nonneg 11 10
  push_cast at hraised
  obtain ⟨_, hseven, heighty, _⟩ := scaled_ladder h.nonneg
  rw [retargeted, h.min, wanted]
  split_ifs <;> omega

theorem NeverOverflows.step {b b' : BandwidthEstimation} (h : Bounded minBps maxBps b)
    (hnever : NeverOverflows maxBps b) {input : Input} (hb' : step b input = .ok b') :
    NeverOverflows maxBps b' := by
  refine hnever.imp_right fun hsmall => ?_
  cases input with
  | updatePacketsLost lost expected nowMs =>
      rw [h.target_eq hb']
      exact retargeted_lt h hsmall lost expected nowMs
  | updateRtt rttMs =>
      obtain rfl := Except.ok.inj hb'
      exact hsmall

theorem sound_of_neverOverflows {b : BandwidthEstimation} (h : Bounded minBps maxBps b)
    (hnever : NeverOverflows maxBps b) (inputs : List Input) :
    Throughout (guarded step) (Sound minBps maxBps) (.ok b) inputs := by
  rw [throughout_sound_iff h]
  intro front input back _ s hs
  have hreached : Bounded minBps maxBps s ∧ NeverOverflows maxBps s := by
    refine onOk_run (P := fun b => Bounded minBps maxBps b ∧ NeverOverflows maxBps b)
      ⟨h, hnever⟩ ?_ front s hs
    intro s input hs s' hs'
    exact ⟨onOk_bounded_step hs.1 input s' hs', hs.2.step hs.1 hs'⟩
  obtain ⟨hbounded, hsafe⟩ := hreached
  exact RaisesInRange.of_neverOverflows hbounded hsafe input

/-- A report without loss, when the next update is due. -/
def raise (b : BandwidthEstimation) : List Input :=
  [.updateRtt 0, .updatePacketsLost 0 1 (b.lastUpdateTimeMs + 1001)]

theorem run_raise (b : BandwidthEstimation) :
    run (guarded step) (.ok b) (raise b) =
      step (b.updateRtt 0) (.updatePacketsLost 0 1 (b.lastUpdateTimeMs + 1001)) := rfl

theorem run_raise_overflow {b : BandwidthEstimation} (h : Bounded minBps maxBps b)
    (hlimit : raiseLimit < b.targetBitrateBps) :
    run (guarded step) (.ok b) (raise b) = .error .conversion := by
  rw [run_raise]
  apply (h.updateRtt 0).step_overflow
  intro hraise
  have hdue : 1000 < b.lastUpdateTimeMs + 1001 - b.lastUpdateTimeMs := by omega
  have hrtt : (0 : Int) < 100 := by decide
  exact absurd (hraise Int.one_pos hdue (by decide) hrtt) (Int.not_le.mpr hlimit)

theorem run_raise_climb {b : BandwidthEstimation} (h : Bounded minBps maxBps b)
    (hlimit : b.targetBitrateBps ≤ raiseLimit) :
    ∃ b', run (guarded step) (.ok b) (raise b) = .ok b' ∧ Bounded minBps maxBps b' ∧
      b'.targetBitrateBps = min maxBps (scaled b.targetBitrateBps 11 10) := by
  rw [run_raise]
  have hrtt := h.updateRtt 0
  have hraise : RaisesInRange (b.updateRtt 0)
      (.updatePacketsLost 0 1 (b.lastUpdateTimeMs + 1001)) := fun _ _ _ _ => hlimit
  obtain ⟨b', hb', hbounded⟩ := hrtt.step hraise
  refine ⟨b', hb', hbounded, ?_⟩
  obtain ⟨_, _, _, hgrows⟩ := scaled_ladder h.nonneg
  have hlow := h.low
  have hle := h.le
  have hdue : 1000 < b.lastUpdateTimeMs + 1001 - b.lastUpdateTimeMs := by omega
  rw [hrtt.target_eq hb', retargeted, if_pos ⟨Int.one_pos, hdue⟩, hrtt.min, hrtt.max]
  change max minBps (min maxBps (scaled b.targetBitrateBps 11 10)) = _
  omega

/-- A target that is raised again and again passes the limit, and its next raise fails. -/
theorem exists_overflow (hmax : raiseLimit < maxBps) (n : Nat) {b : BandwidthEstimation}
    (h : Bounded minBps maxBps b) (hten : 10 ≤ b.targetBitrateBps)
    (hn : raiseLimit + 1 - b.targetBitrateBps ≤ n) :
    ∃ inputs, run (guarded step) (.ok b) inputs = .error .conversion := by
  induction n generalizing b with
  | zero => exact ⟨raise b, run_raise_overflow h (by omega)⟩
  | succ n ih =>
      by_cases hlimit : raiseLimit < b.targetBitrateBps
      · exact ⟨raise b, run_raise_overflow h hlimit⟩
      · obtain ⟨b', hrun, hbounded, htarget⟩ := run_raise_climb h (Int.not_lt.mp hlimit)
        have hraised := scaled_eq h.nonneg 11 10
        push_cast at hraised
        have hgrows : b.targetBitrateBps + 1 ≤ b'.targetBitrateBps := by omega
        obtain ⟨inputs, hoverflow⟩ := ih hbounded (by omega) (by omega)
        refine ⟨raise b ++ inputs, ?_⟩
        rw [run_append, hrun, hoverflow]

theorem neverOverflows_of_sound {b : BandwidthEstimation} (h : Bounded minBps maxBps b)
    (hsound : ∀ inputs, Throughout (guarded step) (Sound minBps maxBps) (.ok b) inputs) :
    NeverOverflows maxBps b := by
  by_contra hnever
  rw [NeverOverflows, not_or, Int.not_le, Int.not_lt] at hnever
  obtain ⟨hmax, hten⟩ := hnever
  obtain ⟨inputs, hoverflow⟩ := exists_overflow hmax _ h hten (Int.self_le_toNat _)
  obtain ⟨b', hb', _⟩ := hsound inputs inputs [] (List.append_nil inputs).symm
  rw [hoverflow] at hb'
  cases hb'

theorem bounded_setBitrates (b : BandwidthEstimation) (initialBps : Int) (hpos : 0 < minBps)
    (hle : minBps ≤ maxBps) (hfits : maxBps ≤ 2 ^ 31 - 1) :
    Bounded minBps maxBps (b.setBitrates minBps maxBps initialBps) := by
  refine ⟨hpos, hfits, rfl, rfl, Int.le_max_left _ _, ?_⟩
  exact Int.max_le.mpr ⟨hle, Int.min_le_left _ _⟩

end Runs

/-- From the bounds on, a run is sound exactly when it raises no target above the limit; and
all runs are, exactly when the upper bound is not above it or the first target has one
digit. -/
theorem sound_iff_raisesInRange (b : BandwidthEstimation) {minBps maxBps : Int}
    (initialBps : Int) (hpos : 0 < minBps) (hle : minBps ≤ maxBps)
    (hfits : maxBps ≤ 2 ^ 31 - 1) :
    let start := b.setBitrates minBps maxBps initialBps
    (∀ inputs, Throughout (guarded step) (Sound minBps maxBps) (.ok start) inputs ↔
      Admitted (guarded step) (fun p input => OnOk (RaisesInRange · input) p) (.ok start)
        inputs) ∧
    ((∀ inputs, Throughout (guarded step) (Sound minBps maxBps) (.ok start) inputs) ↔
      NeverOverflows maxBps start) := by
  intro start
  have hbounded : Bounded minBps maxBps start := bounded_setBitrates b initialBps hpos hle hfits
  refine ⟨throughout_sound_iff hbounded, ?_⟩
  constructor
  · exact neverOverflows_of_sound hbounded
  · exact sound_of_neverOverflows hbounded

/-- The bitrates of a viewer. -/
theorem sound_iff_raisesInRange_viewer :
    Throughout (guarded step) (Sound 100000 10000000)
      (.ok (({ rttMs := 0 } : BandwidthEstimation).setBitrates 100000 10000000 500000))
      [.updateRtt 50, .updatePacketsLost 1 200 2000] :=
  (sound_iff_raisesInRange { rttMs := 0 } 500000 (by decide) (by decide) (by decide)).2.mpr
    (.inl (by decide)) _

/-- The largest target there is, raised once. -/
theorem not_sound_largestTarget :
    ¬ ∀ (b : BandwidthEstimation) (minBps maxBps initialBps : Int), 0 < minBps →
      minBps ≤ maxBps → maxBps ≤ 2 ^ 31 - 1 → ∀ inputs,
        Throughout (guarded step) (Sound minBps maxBps)
          (.ok (b.setBitrates minBps maxBps initialBps)) inputs := by
  intro hall
  have hsound := hall { rttMs := 0 } 1 2147483647 2147483647 (by decide) (by decide) (by decide)
  have hbounded : Bounded 1 2147483647 _ :=
    bounded_setBitrates { rttMs := 0 } 2147483647 (by decide) (by decide) (by decide)
  exact absurd (neverOverflows_of_sound hbounded hsound) (by decide)

end GBServer.BandwidthTarget
