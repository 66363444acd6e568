import GBServer.Foundation.Deques
import GBServer.Foundation.Runs
import Mathlib.Algebra.Group.Nat.Defs
import Mathlib.Data.List.Chain
import Mathlib.Data.List.DropRight

namespace GBServer

open Foundation.Deques
open Foundation.Runs

structure JitterBufferPacket (Image : Type*) where
  frame : Image
  timestampMs : Int
  rtpTimestamp : UInt32
  seq : BitVec 16
  isKeyFrame : Bool
  deriving DecidableEq, Repr

structure JitterBuffer (Image : Type*) where
  packetBuffer : Deque (JitterBufferPacket Image) := {}
  targetDelayMs : Int := 100

namespace JitterBuffer

variable {Image : Type*}

def isStale (seq : BitVec 16) (p : JitterBufferPacket Image) : Bool :=
  !p.isKeyFrame && decide (p.seq < seq)

/-- The loop of a key frame at `it`, which is `rest` elements in front of the end. -/
def purge (seq : BitVec 16) : (rest it : Nat) → Deque (JitterBufferPacket Image) →
    Deque (JitterBufferPacket Image)
  | 0, _, d => d
  | rest + 1, it, d =>
      match d.elements[it]? with
      | none => d
      | some p =>
          if isStale seq p then purge seq rest it (d.erase it) else purge seq rest (it + 1) d

def trim : Nat → Deque (JitterBufferPacket Image) → Deque (JitterBufferPacket Image)
  | 0, d => d
  | n + 1, d => if 100 < d.size then trim n d.popFront else d

def addFrame (b : JitterBuffer Image) (packet : JitterBufferPacket Image) : JitterBuffer Image :=
  let d := b.packetBuffer.pushBack packet
  let d := if packet.isKeyFrame then purge packet.seq d.size 0 d else d
  { b with packetBuffer := trim d.size d }

/-- The front and its reference, when its playout time has come. -/
def getFrame (b : JitterBuffer Image) (nowMs : Int) : Option (JitterBufferPacket Image × Nat) :=
  match b.packetBuffer.front? with
  | none => none
  | some (front, reference) =>
      if front.timestampMs + b.targetDelayMs ≤ nowMs then some (front, reference) else none

def popFrame (b : JitterBuffer Image) : JitterBuffer Image :=
  match b.packetBuffer.front? with
  | none => b
  | some _ => { b with packetBuffer := b.packetBuffer.popFront }

def getNextFramePlayTime (b : JitterBuffer Image) : Int :=
  match b.packetBuffer.front? with
  | none => 0
  | some (front, _) => front.timestampMs + b.targetDelayMs

theorem getFrame_eq_some_iff {b : JitterBuffer Image} {nowMs : Int}
    {out : JitterBufferPacket Image × Nat} :
    b.getFrame nowMs = some out ↔
      b.packetBuffer.front? = some out ∧ b.getNextFramePlayTime ≤ nowMs := by
  rw [getFrame, getNextFramePlayTime]
  cases b.packetBuffer.front? with
  | none => simp
  | some front =>
      dsimp only
      rw [Option.ite_none_right_eq_some, Option.some_inj]
      exact and_comm

def frames (b : JitterBuffer Image) : List (JitterBufferPacket Image) := b.packetBuffer.elements

inductive Input (Image : Type*) where
  | addFrame (packet : JitterBufferPacket Image)
  | popFrame

def step (b : JitterBuffer Image) : Input Image → JitterBuffer Image
  | .addFrame packet => b.addFrame packet
  | .popFrame => b.popFrame

def Input.seq? : Input Image → Option (BitVec 16)
  | .addFrame packet => some packet.seq
  | .popFrame => none

/-- The frames that are added are numbered one after the other. -/
def Consecutive (inputs : List (Input Image)) : Prop :=
  (inputs.filterMap Input.seq?).IsChain fun a b => b = a + 1

instance (inputs : List (Input Image)) : Decidable (Consecutive inputs) :=
  inferInstanceAs (Decidable (List.IsChain _ _))

/-- The order in the stream: the signed distance of the numbers. -/
def precedes (a b : BitVec 16) : Bool := 0 < (b - a).toInt

example : precedes 65535 0 = true ∧ precedes 0 65535 = false := by decide

/-- The frames after an `AddFrame`: a key frame purges what is no key frame and precedes it, and
the oldest frames beyond a hundred are dropped. -/
def expected (buffer : List (JitterBufferPacket Image)) (packet : JitterBufferPacket Image) :
    List (JitterBufferPacket Image) :=
  let kept :=
    if packet.isKeyFrame then buffer.filter fun p => p.isKeyFrame || !precedes p.seq packet.seq
    else buffer
  (kept ++ [packet]).rtake 100

def AddsExactly (b : JitterBuffer Image) : Input Image → Prop
  | .addFrame packet => (b.addFrame packet).frames = expected b.frames packet
  | .popFrame => True

/-- A key frame has a higher number than all frames that it is to purge. -/
def NumbersBelow (b : JitterBuffer Image) : Input Image → Prop
  | .addFrame packet =>
      packet.isKeyFrame → ∀ p ∈ b.frames, p.isKeyFrame = false → p.seq < packet.seq
  | .popFrame => True

instance [DecidableEq Image] (b : JitterBuffer Image) (input : Input Image) :
    Decidable (b.AddsExactly input) :=
  match input with
  | .addFrame packet => inferInstanceAs (Decidable ((b.addFrame packet).frames = _))
  | .popFrame => inferInstanceAs (Decidable True)

instance (b : JitterBuffer Image) (input : Input Image) : Decidable (b.NumbersBelow input) :=
  match input with
  | .addFrame packet =>
      inferInstanceAs (Decidable (_ → ∀ p ∈ b.frames, p.isKeyFrame = false → p.seq < packet.seq))
  | .popFrame => inferInstanceAs (Decidable True)

section Loops

variable {d : Deque (JitterBufferPacket Image)}

theorem elements_purge (seq : BitVec 16) (rest it : Nat) (h : it + rest = d.size) :
    (purge seq rest it d).elements =
      d.elements.take it ++ (d.elements.drop it).filter fun p => !isStale seq p := by
  induction rest generalizing it d with
  | zero =>
      have hlength : d.elements.length = it := d.length_elements.trans h.symm
      rw [purge, List.take_of_length_le hlength.le, List.drop_eq_nil_of_le hlength.le,
        List.filter_nil, List.append_nil]
  | succ rest ih =>
      have hlt : it < d.elements.length := by
        rw [d.length_elements]
        omega
      rw [purge, List.getElem?_eq_getElem hlt, List.drop_eq_getElem_cons hlt]
      dsimp only
      split
      case isTrue hstale =>
        have hsize : it + rest = (d.erase it).size := by
          rw [← Deque.length_elements, Deque.elements_erase, List.length_eraseIdx_of_lt hlt,
            d.length_elements]
          omega
        have hfront : (d.elements.take it).length = it := List.length_take_of_le hlt.le
        rw [ih it hsize, Deque.elements_erase, List.filter_cons_of_neg (by simp [hstale]),
          List.eraseIdx_eq_take_drop_succ, List.take_left' hfront, List.drop_left' hfront]
      case isFalse hkept =>
        rw [ih (it + 1) (by omega), List.filter_cons_of_pos (by simp [hkept]),
          List.take_add_one, List.getElem?_eq_getElem hlt, Option.toList_some, List.append_assoc,
          List.singleton_append]

theorem elements_trim (n : Nat) (h : d.size ≤ n + 100) :
    (trim n d).elements = d.elements.rtake 100 := by
  induction n generalizing d with
  | zero =>
      rw [trim, List.rtake, d.length_elements, Nat.sub_eq_zero_of_le (by omega), List.drop_zero]
  | succ n ih =>
      rw [trim]
      split
      case isTrue hlong =>
        have hsize : d.popFront.size = d.size - 1 := List.length_tail
        rw [ih (by omega), Deque.elements_popFront, List.rtake, List.rtake, List.length_tail,
          d.length_elements, List.drop_tail]
        congr 1
        omega
      case isFalse hshort =>
        rw [List.rtake, d.length_elements, Nat.sub_eq_zero_of_le (by omega), List.drop_zero]

theorem frames_addFrame (b : JitterBuffer Image) (packet : JitterBufferPacket Image) :
    (b.addFrame packet).frames =
      ((if packet.isKeyFrame then b.frames.filter fun p => !isStale packet.seq p
        else b.frames) ++ [packet]).rtake 100 := by
  rw [frames, addFrame]
  dsimp only
  rw [elements_trim _ (Nat.le_add_right _ _)]
  congr 1
  split
  case isTrue hkey =>
    have hkept : (!isStale packet.seq packet) = true := by simp [isStale, hkey]
    rw [elements_purge packet.seq _ 0 (Nat.zero_add _), List.take_zero, List.nil_append,
      List.drop_zero, Deque.elements_pushBack, List.filter_append, List.filter_singleton, hkept,
      cond_true, frames]
  case isFalse hnotKey => rw [Deque.elements_pushBack, frames]

theorem frames_popFrame (b : JitterBuffer Image) : b.popFrame.frames = b.frames.tail := by
  rw [popFrame]
  split
  case h_1 hnone =>
    have hnil : b.packetBuffer.cells = [] := List.head?_eq_none_iff.mp hnone
    rw [frames, Deque.elements, hnil]
    rfl
  case h_2 => rw [frames, Deque.elements_popFront, frames]

end Loops

theorem length_rtake_le (n : Nat) (l : List (JitterBufferPacket Image)) :
    (l.rtake n).length ≤ n := by
  rw [List.rtake, List.length_drop]
  omega

theorem throughout_length_le (inputs : List (Input Image)) :
    Throughout step (fun b => b.frames.length ≤ 100) {} inputs := by
  intro front _ _
  refine invariant_run_of_step (P := fun b : JitterBuffer Image => b.frames.length ≤ 100)
    (Nat.zero_le _) ?_ front
  intro b input h
  cases input with
  | addFrame packet =>
      rw [step, frames_addFrame]
      exact length_rtake_le 100 _
  | popFrame =>
      rw [step, frames_popFrame, List.length_tail]
      omega

section Numbers

def age (next : BitVec 16) (p : JitterBufferPacket Image) : Nat := (next - p.seq).toNat

/-- What can lie between a frame and the next one to come: each key frame behind it is still
there, and has purged at most a hundred frames. -/
def weight (l : List (JitterBufferPacket Image)) : Nat :=
  l.length + 100 * l.countP (·.isKeyFrame)

def Aged (next : BitVec 16) : List (JitterBufferPacket Image) → Prop
  | [] => True
  | p :: rest => 1 ≤ age next p ∧ age next p ≤ 1 + weight rest ∧ Aged next rest

variable {next : BitVec 16} {p packet : JitterBufferPacket Image}
  {l : List (JitterBufferPacket Image)}

theorem age_succ (h : age next p < 2 ^ 16 - 1) : age (next + 1) p = age next p + 1 := by
  rw [age] at h ⊢
  have hcomm : next + 1 - p.seq = next - p.seq + 1 := by grind
  rw [hcomm, BitVec.toNat_add_of_lt]
  · rfl
  · exact Nat.add_lt_of_lt_sub h

theorem weight_le (l : List (JitterBufferPacket Image)) : weight l ≤ 101 * l.length := by
  have hkeys : l.countP (·.isKeyFrame) ≤ l.length := List.countP_le_length
  rw [weight]
  omega

theorem Aged.tail (h : Aged next l) : Aged next l.tail := by
  cases l with
  | nil => exact h
  | cons p rest => exact h.2.2

theorem Aged.drop (h : Aged next l) (n : Nat) : Aged next (l.drop n) := by
  induction n generalizing l with
  | zero => exact h
  | succ n ih =>
      rw [← List.drop_tail]
      exact ih h.tail

theorem Aged.age_le (h : Aged next l) (hlength : l.length ≤ 100) (hp : p ∈ l) :
    1 ≤ age next p ∧ age next p ≤ 10000 := by
  induction l with
  | nil => cases hp
  | cons q rest ih =>
      obtain ⟨hpos, hle, hrest⟩ := h
      rw [List.length_cons] at hlength
      rcases List.mem_cons.mp hp with rfl | hp
      · have hweight := weight_le rest
        exact ⟨hpos, by omega⟩
      · exact ih hrest (by omega) hp

theorem weight_lt_of_kept {keep : JitterBufferPacket Image → Bool} (hlength : l.length ≤ 100)
    (hkeys : ∀ p, p.isKeyFrame → keep p)
    (hpurge : packet.isKeyFrame = true ∨ ∀ p, keep p) :
    weight l < weight (l.filter keep ++ [packet]) := by
  have hcount : (l.filter keep).countP (·.isKeyFrame) = l.countP (·.isKeyFrame) := by
    rw [List.countP_filter]
    refine List.countP_congr fun p _ => ?_
    simp only [Bool.and_eq_true, and_iff_left_iff_imp]
    exact hkeys p
  rw [weight, weight, List.length_append, List.countP_append, hcount, List.length_singleton,
    List.countP_singleton]
  rcases hpurge with hkey | hall
  · rw [if_pos hkey]
    omega
  · rw [List.filter_eq_self.mpr fun p _ => hall p]
    omega

theorem Aged.add {keep : JitterBufferPacket Image → Bool} (h : Aged next l)
    (hlength : l.length ≤ 100) (hseq : packet.seq = next) (hkeys : ∀ p, p.isKeyFrame → keep p)
    (hpurge : packet.isKeyFrame = true ∨ ∀ p, keep p) :
    Aged (next + 1) (l.filter keep ++ [packet]) := by
  induction l with
  | nil =>
      have hage : age (next + 1) packet = 1 := by
        have hone : next + 1 - next = 1 := by grind
        rw [age, hseq, hone]
        rfl
      exact ⟨hage.ge, hage.le, trivial⟩
  | cons p rest ih =>
      have hbound := h.age_le hlength List.mem_cons_self
      obtain ⟨hpos, hle, hrest⟩ := h
      rw [List.length_cons] at hlength
      have hadded := ih hrest (by omega)
      have hweight : weight rest < weight (rest.filter keep ++ [packet]) :=
        weight_lt_of_kept (by omega) hkeys hpurge
      have hage : age (next + 1) p = age next p + 1 := age_succ (by omega)
      rw [List.filter_cons]
      split
      · rw [List.cons_append]
        refine ⟨?_, ?_, hadded⟩
        · omega
        · omega
      · exact hadded

/-- In the buffer, what is older precedes what comes next, on either side of a wrap. -/
theorem Aged.precedes (h : Aged next l) (hlength : l.length ≤ 100) (hp : p ∈ l) :
    precedes p.seq next = true := by
  obtain ⟨hpos, hle⟩ := h.age_le hlength hp
  rw [age] at hpos hle
  rw [JitterBuffer.precedes, decide_eq_true_eq, BitVec.toInt_eq_toNat_of_lt (by omega)]
  omega

end Numbers

/-- What is no key frame has come after all key frames in the buffer. -/
def KeysFirst (l : List (JitterBufferPacket Image)) : Prop :=
  l.Pairwise fun p q => q.isKeyFrame → p.isKeyFrame

section Purging

variable {l : List (JitterBufferPacket Image)} {packet : JitterBufferPacket Image}

theorem rtake_subset (n : Nat) {p : JitterBufferPacket Image} (h : p ∈ l.rtake n) : p ∈ l :=
  List.mem_of_mem_drop h

theorem expected_eq (h : Aged packet.seq l) (hlength : l.length ≤ 100) :
    expected l packet =
      ((if packet.isKeyFrame then l.filter (·.isKeyFrame) else l) ++ [packet]).rtake 100 := by
  have hfilter : (l.filter fun p => p.isKeyFrame || !precedes p.seq packet.seq) =
      l.filter (·.isKeyFrame) := by
    refine List.filter_congr fun p hp => ?_
    rw [h.precedes hlength hp, Bool.not_true, Bool.or_false]
  rw [expected, hfilter]

/-- A frame that is not purged is not the one that is dropped, unless it is all there is. -/
theorem exists_notKey_kept (packet : JitterBufferPacket Image)
    (keep : JitterBufferPacket Image → Bool) (hfirst : KeysFirst l)
    (hlength : l.length ≤ 100) {p : JitterBufferPacket Image} (hp : p ∈ l)
    (hnotKey : p.isKeyFrame = false) (hkept : keep p = true) :
    ∃ q ∈ (l.filter keep ++ [packet]).rtake 100, q.isKeyFrame = false := by
  have hmem : p ∈ l.filter keep := List.mem_filter.mpr ⟨hp, hkept⟩
  by_cases hfits : (l.filter keep).length ≤ 99
  · refine ⟨p, ?_, hnotKey⟩
    rw [List.rtake, List.length_append, List.length_singleton,
      Nat.sub_eq_zero_of_le (by omega), List.drop_zero]
    exact List.mem_append_left _ hmem
  · -- nothing is purged, and the last frame stays
    have hall : l.filter keep = l := List.filter_sublist.eq_of_length_le (by omega)
    rw [hall]
    obtain ⟨front, last, hconcat⟩ :=
      (List.eq_nil_or_concat l).resolve_left (List.ne_nil_of_mem hp)
    rw [List.concat_eq_append] at hconcat
    subst hconcat
    refine ⟨last, ?_, ?_⟩
    · rw [List.rtake_concat_succ, List.rtake_concat_succ]
      simp
    · rcases List.mem_append.mp hp with hfront | hlast
      · have himp := (List.pairwise_append.mp hfirst).2.2 p hfront last List.mem_cons_self
        by_contra hkey
        rw [himp (by simpa using hkey)] at hnotKey
        cases hnotKey
      · rwa [← List.mem_singleton.mp hlast]

variable {b : JitterBuffer Image}

theorem addsExactly_iff (h : Aged packet.seq b.frames) (hlength : b.frames.length ≤ 100)
    (hfirst : KeysFirst b.frames) :
    AddsExactly b (.addFrame packet) ↔ NumbersBelow b (.addFrame packet) := by
  rw [AddsExactly, NumbersBelow, frames_addFrame, expected_eq h hlength]
  cases hkey : packet.isKeyFrame with
  | false => exact iff_of_true rfl nofun
  | true =>
      simp only [if_true, true_implies]
      constructor
      · intro hsame p hp hnotKey
        by_contra hnotBelow
        have hkept : (!isStale packet.seq p) = true := by simp [isStale, hnotBelow]
        obtain ⟨q, hq, hqNotKey⟩ := exists_notKey_kept packet
          (fun p => !isStale packet.seq p) hfirst hlength hp hnotKey hkept
        rw [hsame] at hq
        rcases List.mem_append.mp (rtake_subset 100 hq) with hold | hnew
        · rw [(List.mem_filter.mp hold).2] at hqNotKey
          cases hqNotKey
        · rw [List.mem_singleton.mp hnew, hkey] at hqNotKey
          cases hqNotKey
      · intro hbelow
        congr 2
        refine List.filter_congr fun p hp => ?_
        cases hp' : p.isKeyFrame with
        | true => simp [isStale, hp']
        | false => simp [isStale, hp', hbelow p hp hp']

theorem KeysFirst.add (hfirst : KeysFirst l) (n : Nat) :
    KeysFirst
      (((if packet.isKeyFrame then l.filter (·.isKeyFrame) else l) ++ [packet]).rtake n) := by
  refine List.Pairwise.sublist (List.drop_sublist _ _) ?_
  rw [List.pairwise_append]
  cases hkey : packet.isKeyFrame with
  | true =>
      rw [if_pos rfl]
      refine ⟨hfirst.sublist List.filter_sublist, List.pairwise_singleton _ _, ?_⟩
      intro p hp _ _ _
      exact (List.mem_filter.mp hp).2
  | false =>
      refine ⟨hfirst, List.pairwise_singleton _ _, ?_⟩
      intro p _ q hq hqKey
      rw [List.mem_singleton.mp hq, hkey] at hqKey
      cases hqKey

end Purging

structure Invariant (last : BitVec 16) (b : JitterBuffer Image) : Prop where
  aged : Aged (last + 1) b.frames
  bounded : b.frames.length ≤ 100
  keysFirst : KeysFirst b.frames

section Runs

variable {b : JitterBuffer Image} {last : BitVec 16}

theorem Invariant.popFrame (h : Invariant last b) : Invariant last b.popFrame := by
  constructor
  · rw [frames_popFrame]
    exact h.aged.tail
  · rw [frames_popFrame, List.length_tail]
    exact (Nat.sub_le _ _).trans h.bounded
  · rw [frames_popFrame]
    exact h.keysFirst.sublist (List.tail_sublist _)

theorem Invariant.addFrame (h : Invariant last b) {packet : JitterBufferPacket Image}
    (hseq : packet.seq = last + 1) (hexact : AddsExactly b (.addFrame packet)) :
    Invariant packet.seq (b.addFrame packet) := by
  have haged : Aged packet.seq b.frames := hseq ▸ h.aged
  constructor
  · rw [frames_addFrame]
    refine Aged.drop ?_ _
    split
    case isTrue hkey =>
      exact haged.add h.bounded rfl (fun p hp => by simp [isStale, hp]) (.inl hkey)
    case isFalse =>
      have hadded : Aged (packet.seq + 1) (b.frames.filter (fun _ => true) ++ [packet]) :=
        haged.add h.bounded rfl (fun _ _ => rfl) (.inr fun _ => rfl)
      rwa [List.filter_true] at hadded
  · rw [frames_addFrame]
    exact length_rtake_le 100 _
  · rw [AddsExactly] at hexact
    rw [hexact, expected_eq haged h.bounded]
    exact h.keysFirst.add 100

theorem admitted_addsExactly_iff {inputs : List (Input Image)} (h : Invariant last b)
    (hnumbers : (last :: inputs.filterMap Input.seq?).IsChain fun a b => b = a + 1) :
    Admitted step AddsExactly b inputs ↔ Admitted step NumbersBelow b inputs := by
  induction inputs generalizing b last with
  | nil => exact iff_of_true admitted_nil admitted_nil
  | cons input rest ih =>
      rw [admitted_cons, admitted_cons]
      cases input with
      | popFrame => exact and_congr Iff.rfl (ih h.popFrame hnumbers)
      | addFrame packet =>
          have hseq? : Input.seq? (.addFrame packet) = some packet.seq := rfl
          rw [List.filterMap_cons_some hseq?, List.isChain_cons_cons] at hnumbers
          obtain ⟨hseq, hrest⟩ := hnumbers
          have hiff : AddsExactly b (.addFrame packet) ↔ NumbersBelow b (.addFrame packet) :=
            addsExactly_iff (hseq ▸ h.aged) h.bounded h.keysFirst
          constructor
          · rintro ⟨hexact, hlater⟩
            exact ⟨hiff.mp hexact, (ih (h.addFrame hseq hexact) hrest).mp hlater⟩
          · rintro ⟨hbelow, hlater⟩
            have hexact := hiff.mpr hbelow
            exact ⟨hexact, (ih (h.addFrame hseq hexact) hrest).mpr hlater⟩

theorem exists_last {numbers : List (BitVec 16)} (h : numbers.IsChain fun a b => b = a + 1) :
    ∃ last, (last :: numbers).IsChain fun a b => b = a + 1 := by
  cases numbers with
  | nil => exact ⟨0, List.isChain_singleton 0⟩
  | cons first rest => exact ⟨first - 1, List.isChain_cons_cons.mpr ⟨by grind, h⟩⟩

end Runs

/-- The buffer stays within a hundred frames; and each `AddFrame` of a run leaves what it
should, exactly when no key frame has to purge a frame with a higher number. -/
theorem bounded_and_addsExactly_iff (inputs : List (Input Image)) (h : Consecutive inputs) :
    Throughout step (fun b => b.frames.length ≤ 100) {} inputs ∧
      (Admitted step AddsExactly {} inputs ↔ Admitted step NumbersBelow {} inputs) := by
  refine ⟨throughout_length_le inputs, ?_⟩
  obtain ⟨last, hnumbers⟩ := exists_last h
  exact admitted_addsExactly_iff ⟨trivial, Nat.zero_le _, .nil⟩ hnumbers

def frame (seq : BitVec 16) (isKeyFrame : Bool) : Input Unit :=
  .addFrame { frame := (), timestampMs := 0, rtpTimestamp := 0, seq, isKeyFrame }

/-- The key frame purges the two frames in front of it. -/
theorem bounded_and_addsExactly_group :
    Admitted step AddsExactly {} [frame 6 true, frame 7 false, frame 8 false, frame 9 true] :=
  (bounded_and_addsExactly_iff [frame 6 true, frame 7 false, frame 8 false, frame 9 true]
    (by decide)).2.mpr
    (admitted_cons.mpr ⟨by decide, admitted_cons.mpr ⟨by decide,
      admitted_cons.mpr ⟨by decide, admitted_cons.mpr ⟨by decide, admitted_nil⟩⟩⟩⟩)

example : (run step {} [frame 6 true, frame 7 false, frame 8 false, frame 9 true]).frames.map
    (·.seq) = [6, 9] := by
  decide

/-- A key frame with the number behind the wrap does not purge the frame in front of it. -/
theorem not_addsExactly_wrap :
    ¬ ∀ inputs : List (Input Unit), Consecutive inputs →
      Throughout step (fun b => b.frames.length ≤ 100) {} inputs ∧
        Admitted step AddsExactly {} inputs := by
  intro hall
  have hadds := (hall [frame 65535 false, frame 0 true]
    (by decide)).2 [frame 65535 false] (frame 0 true) [] rfl
  exact absurd hadds (by decide)

end JitterBuffer

end GBServer
