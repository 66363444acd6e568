import GBServer.NalStartCodes
import GBServer.RtcConsumer
import GBServer.RtcProducer

namespace GBServer.KeyFrames

open Foundation.Memory
open Foundation.Runs
open GBServer.NalRepackaging
open GBServer.NalStartCodes

/-- A unit behind a start code of four bytes or of three. -/
structure CodedUnit where
  fourByte : Bool
  unit : NalUnit
  deriving DecidableEq, Repr

namespace CodedUnit

def startCode (u : CodedUnit) : List UInt8 := if u.fourByte then [0, 0, 0, 1] else [0, 0, 1]

def bytes (u : CodedUnit) : List UInt8 := u.startCode ++ u.unit.payload

/-- What `AddVideoFrame` copies for the unit: four bytes more than the payload, which behind
a three-byte start code takes in the next byte of the frame. -/
def copy (u : CodedUnit) (next : UInt8) : List UInt8 :=
  if u.fourByte then u.bytes else u.bytes ++ [next]

/-- The fifth byte from the start code on. -/
def fifthByte (u : CodedUnit) (next : Option UInt8) : Option UInt8 :=
  if u.fourByte then some u.unit.header else u.unit.body.head?.or next

theorem length_bytes (u : CodedUnit) :
    u.bytes.length = u.startCode.length + u.unit.payload.length :=
  List.length_append

theorem length_copy (u : CodedUnit) (next : UInt8) :
    (u.copy next).length = u.unit.payload.length + 4 := by
  rw [copy]
  cases hcode : u.fourByte with
  | true =>
      rw [if_pos rfl, length_bytes, startCode, hcode, Nat.add_comm]
      rfl
  | false =>
      rw [if_neg Bool.false_ne_true, List.length_append, length_bytes, startCode, hcode,
        Nat.add_comm _ u.unit.payload.length]
      rfl

theorem five_le_length_copy (u : CodedUnit) (next : UInt8) : 5 ≤ (u.copy next).length := by
  rw [length_copy, NalUnit.payload, List.length_cons]
  omega

theorem getElem?_bytes (u : CodedUnit) (following : List UInt8) :
    (u.bytes ++ following)[4]? = u.fifthByte following.head? := by
  rw [bytes, startCode, fifthByte, NalUnit.payload]
  cases u.fourByte with
  | true => rfl
  | false =>
      rw [if_neg Bool.false_ne_true, ← List.head?_append, List.head?_eq_getElem?]
      rfl

theorem getElem?_copy (u : CodedUnit) (next : UInt8) :
    (u.copy next)[4]? = u.fifthByte (some next) := by
  rw [copy]
  cases hcode : u.fourByte with
  | true =>
      have h := u.getElem?_bytes []
      rw [List.append_nil, fifthByte, hcode] at h
      rw [if_pos rfl, h, fifthByte, hcode]
      rfl
  | false => exact u.getElem?_bytes [next]

end CodedUnit

def frameBytes (units : List CodedUnit) : List UInt8 := units.flatMap CodedUnit.bytes

/-- What `FindNaluIndices` gives for the units of a frame. -/
def codedIndices (offset : Nat) : List CodedUnit → List NaluIndex
  | [] => []
  | u :: rest =>
      ⟨offset, offset + u.startCode.length, u.unit.payload.length⟩ ::
        codedIndices (offset + u.bytes.length) rest

def HasIdr (units : List CodedUnit) : Prop := ∃ u ∈ units, u.unit.type = .idr

instance (units : List CodedUnit) : Decidable (HasIdr units) :=
  inferInstanceAs (Decidable (∃ u ∈ units, u.unit.type = .idr))

/-- The check of both statistics: the low five bits are the type of an IDR unit. -/
def ofIdr : Option UInt8 → Bool
  | some byte => byte &&& 0x1F == 5
  | none => false

/-- A frame from the source.  The byte that lies behind it in memory is copied along with a
last unit behind a three-byte start code. -/
structure SourceFrame where
  timestamp : UInt32
  units : List CodedUnit
  behind : UInt8

def SourceFrame.memory (frame : SourceFrame) : NalRepackaging.EncodedImage where
  timestamp := frame.timestamp
  data := frameBytes frame.units ++ [frame.behind]

section Sent

structure Viewer where
  consumer : NalRepackaging.Consumer
  rtc : RtcConsumer

inductive Input where
  | frame (frame : SourceFrame) (packets : List (Option (List UInt8)))
  /-- Any other call of the viewer. -/
  | event (input : RtcConsumer.Input)

namespace Viewer

def fresh (videoSsrc : UInt32) (rttMs : Int) : Viewer := ⟨{}, .fresh videoSsrc rttMs⟩

/-- `AddVideoFrame`, and `OnVideoFrame` with the frame it hands on. -/
def onFrame (v : Viewer) (frame : SourceFrame) (packets : List (Option (List UInt8))) :
    Viewer × List RtcConsumer.Effect :=
  match addVideoFrame (fun _ => codedIndices 0 frame.units) v.consumer frame.memory with
  | .error _ => (v, [])
  | .ok (consumer, none) => (⟨consumer, v.rtc⟩, [])
  | .ok (consumer, some image) =>
      let (rtc, effects) := v.rtc.onVideoFrame image packets
      (⟨consumer, rtc⟩, effects)

def handle (v : Viewer) : Input → Viewer × List RtcConsumer.Effect
  | .frame frame packets => v.onFrame frame packets
  | .event input =>
      let (rtc, effects) := v.rtc.handle input
      (⟨v.consumer, rtc⟩, effects)

def step (v : Viewer) (input : Input) : Viewer := (v.handle input).1

end Viewer

def SentFlagRight (v : Viewer) : Input → Prop
  | .frame frame packets => ∀ isKeyFrame,
      .frameSent isKeyFrame ∈ (v.onFrame frame packets).2 →
        (isKeyFrame = true ↔ HasIdr frame.units)
  | .event _ => True

/-- The parameter set of this type after some units, the copy of the last one. -/
def latest (type : NaluType) (units : List CodedUnit) (cached : List UInt8) : List UInt8 :=
  units.foldl (fun cached u => if u.unit.type = type then u.copy 0 else cached) cached

/-- The byte behind a unit: the next start code, or what lies behind the frame. -/
def nextByte (behind : UInt8) : List CodedUnit → UInt8
  | [] => behind
  | _ :: _ => 0

/-- The fifth byte of what is put in front: the first parameter set in front of an IDR unit,
if there is one, and otherwise the unit itself. -/
def leadByte (sps pps : List UInt8) (u : CodedUnit) (next : UInt8) : Option UInt8 :=
  if u.unit.type = .idr ∧ sps ≠ [] then sps[4]?
  else if u.unit.type = .idr ∧ pps ≠ [] then pps[4]?
  else u.fifthByte (some next)

/-- The first unit that is not a parameter set settles the flag: its lead byte has the type
of an IDR unit, and it is one or one follows, or neither. -/
def LeadFits (c : NalRepackaging.Consumer) (frame : SourceFrame) : Prop :=
  ∀ front u back, frame.units = front ++ u :: back → (∀ v ∈ front, v.unit.IsParameterSet) →
    ¬ u.unit.IsParameterSet →
      (ofIdr (leadByte (latest .sps front c.sps) (latest .pps front c.pps) u
        (nextByte frame.behind back)) = true ↔ HasIdr (u :: back))

def SentFlagFits (v : Viewer) : Input → Prop
  | .frame frame _ =>
      v.rtc.dtlsDone = true → v.rtc.srtpSendSession = true → LeadFits v.consumer frame
  | .event _ => True

def copiesOf (behind : UInt8) : List CodedUnit → List (NaluType × List UInt8)
  | [] => []
  | u :: rest => (u.unit.type, u.copy (nextByte behind rest)) :: copiesOf behind rest

theorem frameBytes_append_eq (behind : UInt8) (units : List CodedUnit) :
    ∃ rest, frameBytes units ++ [behind] = nextByte behind units :: rest := by
  cases units with
  | nil => exact ⟨[], rfl⟩
  | cons u rest =>
      rw [frameBytes, List.flatMap_cons, CodedUnit.bytes, CodedUnit.startCode]
      split
      · exact ⟨_, rfl⟩
      · exact ⟨_, rfl⟩

theorem copyUnit_eq (front : List UInt8) (u : CodedUnit) (next : UInt8) (back : List UInt8) :
    copyUnit (front ++ (u.bytes ++ next :: back))
        ⟨front.length, front.length + u.startCode.length, u.unit.payload.length⟩ =
      .ok (u.unit.type, u.copy next) := by
  have hheader : readByte (front ++ (u.bytes ++ next :: back))
      (front.length + u.startCode.length) = .ok u.unit.header := by
    have h := readByte_append (front ++ u.startCode) (u.unit.body ++ next :: back) u.unit.header
    rw [List.length_append, List.append_assoc] at h
    rw [CodedUnit.bytes, NalUnit.payload, List.append_assoc]
    exact h
  have hcopied : ∃ rest, u.bytes ++ next :: back = u.copy next ++ rest := by
    rw [CodedUnit.copy]
    split
    · exact ⟨next :: back, rfl⟩
    · exact ⟨back, by rw [List.append_assoc]; rfl⟩
  obtain ⟨rest, hrest⟩ := hcopied
  have hbytes : readRange (front ++ (u.bytes ++ next :: back)) front.length
      (u.unit.payload.length + 4) = .ok (u.copy next) := by
    rw [hrest, ← u.length_copy next]
    exact readRange_append front (u.copy next) rest
  rw [copyUnit, hheader, hbytes]
  rfl

theorem mapM_copyUnit_eq (front : List UInt8) (units : List CodedUnit) (behind : UInt8) :
    (codedIndices front.length units).mapM
        (copyUnit (front ++ (frameBytes units ++ [behind]))) =
      .ok (copiesOf behind units) := by
  induction units generalizing front with
  | nil => rfl
  | cons u rest ih =>
      obtain ⟨later, hlater⟩ := frameBytes_append_eq behind rest
      have hframe : frameBytes (u :: rest) ++ [behind] =
          u.bytes ++ (frameBytes rest ++ [behind]) := by
        rw [frameBytes, List.flatMap_cons, List.append_assoc]
        rfl
      have hfirst := copyUnit_eq front u (nextByte behind rest) later
      have hothers := ih (front ++ u.bytes)
      rw [List.length_append, List.append_assoc] at hothers
      rw [codedIndices, List.mapM_cons, hframe, hothers, hlater, hfirst]
      rfl

def repackaged (c : NalRepackaging.Consumer) (frame : SourceFrame) : NalRepackaging.Consumer :=
  addCopies { c with videoBufferFrame := [] } (copiesOf frame.behind frame.units)

theorem addVideoFrame_memory (c : NalRepackaging.Consumer) (frame : SourceFrame) :
    addVideoFrame (fun _ => codedIndices 0 frame.units) c frame.memory =
      .ok (if (repackaged c frame).videoBufferFrame.length ≤ 0 then (repackaged c frame, none)
        else ({ repackaged c frame with sendSpsPps := true },
          some ⟨frame.timestamp, (repackaged c frame).videoBufferFrame⟩)) := by
  have hcopies := mapM_copyUnit_eq [] frame.units frame.behind
  rw [List.nil_append] at hcopies
  rw [addVideoFrame_eq_copies, copies, SourceFrame.memory]
  dsimp only
  rw [List.length_nil] at hcopies
  rw [hcopies]
  rfl

structure Cached (c : NalRepackaging.Consumer) : Prop where
  sps : c.sps ≠ [] → 5 ≤ c.sps.length
  pps : c.pps ≠ [] → 5 ≤ c.pps.length

section Add

variable {c : NalRepackaging.Consumer} {type : NaluType} {bytes : List UInt8}

theorem Cached.addNalu (h : Cached c) (hbytes : 5 ≤ bytes.length) :
    Cached (addNalu c type bytes) := by
  cases type with
  | sps => exact ⟨fun _ => hbytes, h.pps⟩
  | pps => exact ⟨h.sps, fun _ => hbytes⟩
  | _ => exact ⟨h.sps, h.pps⟩

theorem Cached.addCopies {copied : List (NaluType × List UInt8)} (h : Cached c)
    (hcopied : ∀ copy ∈ copied, 5 ≤ copy.2.length) : Cached (addCopies c copied) :=
  addCopies_induction (fun copy hcopy _ h => h.addNalu (hcopied copy hcopy)) h

theorem addNalu_keeps (type : NaluType) (hbytes : 5 ≤ bytes.length)
    (hbuffer : 5 ≤ c.videoBufferFrame.length) :
    5 ≤ (addNalu c type bytes).videoBufferFrame.length ∧
      (addNalu c type bytes).videoBufferFrame[4]? = c.videoBufferFrame[4]? := by
  cases type with
  | sps => exact ⟨hbuffer, rfl⟩
  | pps => exact ⟨hbuffer, rfl⟩
  | idr =>
      rw [NalRepackaging.addNalu, setSize]
      refine ⟨?_, ?_⟩
      · simp only [List.length_take, List.length_append]
        omega
      · rw [List.getElem?_take_of_lt (by omega), List.append_assoc, List.append_assoc,
          List.getElem?_append_left hbuffer]
  | _ =>
      refine ⟨?_, List.getElem?_append_left hbuffer⟩
      simp only [NalRepackaging.addNalu, List.length_append]
      omega

theorem addCopies_keeps {copied : List (NaluType × List UInt8)}
    (hcopied : ∀ copy ∈ copied, 5 ≤ copy.2.length) (hbuffer : 5 ≤ c.videoBufferFrame.length) :
    5 ≤ (addCopies c copied).videoBufferFrame.length ∧
      (addCopies c copied).videoBufferFrame[4]? = c.videoBufferFrame[4]? := by
  refine addCopies_induction
    (P := fun c' => 5 ≤ c'.videoBufferFrame.length ∧
      c'.videoBufferFrame[4]? = c.videoBufferFrame[4]?) ?_ ⟨hbuffer, rfl⟩
  rintro copy hcopy c' ⟨hlength, hsame⟩
  obtain ⟨hlength', hsame'⟩ := addNalu_keeps copy.1 (hcopied copy hcopy) hlength
  exact ⟨hlength', hsame'.trans hsame⟩

theorem addCopies_buffer {copied : List (NaluType × List UInt8)}
    (h : ∀ copy ∈ copied, copy.1 = .sps ∨ copy.1 = .pps) :
    (addCopies c copied).videoBufferFrame = c.videoBufferFrame := by
  refine addCopies_induction (P := fun c' => c'.videoBufferFrame = c.videoBufferFrame) ?_ rfl
  intro copy hcopy c' hsame
  rcases h copy hcopy with htype | htype
  · rw [htype]
    exact hsame
  · rw [htype]
    exact hsame

theorem addNalu_lead {u : CodedUnit} (next : UInt8) (h : Cached c)
    (hempty : c.videoBufferFrame = []) (hunit : ¬ u.unit.IsParameterSet) :
    5 ≤ (addNalu c u.unit.type (u.copy next)).videoBufferFrame.length ∧
      (addNalu c u.unit.type (u.copy next)).videoBufferFrame[4]? =
        leadByte c.sps c.pps u next := by
  have hcopy := u.five_le_length_copy next
  have hfifth := u.getElem?_copy next
  rw [leadByte]
  rw [NalUnit.IsParameterSet] at hunit
  cases htype : u.unit.type with
  | sps => exact absurd (Or.inl htype) hunit
  | pps => exact absurd (Or.inr htype) hunit
  | idr =>
      have hbuffer : (addNalu c .idr (u.copy next)).videoBufferFrame =
          c.sps ++ (c.pps ++ u.copy next) := by
        rw [NalRepackaging.addNalu, hempty, setSize, List.nil_append, List.append_assoc]
        apply List.take_of_length_le
        simp only [List.length_append]
        omega
      rw [hbuffer]
      refine ⟨?_, ?_⟩
      · simp only [List.length_append]
        omega
      · by_cases hsps : c.sps = []
        · by_cases hpps : c.pps = []
          · rw [hsps, hpps, if_neg fun h => h.2 rfl, if_neg fun h => h.2 rfl]
            exact hfifth
          · rw [hsps, if_neg fun h => h.2 rfl, if_pos ⟨rfl, hpps⟩]
            exact List.getElem?_append_left (h.pps hpps)
        · rw [if_pos ⟨rfl, hsps⟩]
          exact List.getElem?_append_left (h.sps hsps)
  | _ =>
      have hbuffer : ([] : List UInt8) ++ u.copy next = u.copy next := List.nil_append _
      simp only [NalRepackaging.addNalu, hempty, hbuffer, reduceCtorEq, false_and, if_false]
      exact ⟨hcopy, hfifth⟩

end Add

theorem copiesOf_append (behind : UInt8) (front : List CodedUnit) (u : CodedUnit)
    (back : List CodedUnit) :
    copiesOf behind (front ++ u :: back) =
      (front.map fun v => (v.unit.type, v.copy 0)) ++ copiesOf behind (u :: back) := by
  induction front with
  | nil => rfl
  | cons v rest ih =>
      have hnext : nextByte behind (rest ++ u :: back) = 0 := by
        cases rest with
        | nil => rfl
        | cons _ _ => rfl
      rw [List.cons_append, copiesOf, ih, hnext]
      rfl

theorem five_le_copiesOf (behind : UInt8) (units : List CodedUnit) :
    ∀ copy ∈ copiesOf behind units, 5 ≤ copy.2.length := by
  induction units with
  | nil => exact List.forall_mem_nil _
  | cons u rest ih => exact List.forall_mem_cons.mpr ⟨u.five_le_length_copy _, ih⟩

theorem addCopies_parameterSets {front : List CodedUnit} (c : NalRepackaging.Consumer)
    (h : ∀ v ∈ front, v.unit.IsParameterSet) :
    addCopies c (front.map fun v => (v.unit.type, v.copy 0)) =
      { c with sps := latest .sps front c.sps, pps := latest .pps front c.pps } := by
  induction front generalizing c with
  | nil => rfl
  | cons v rest ih =>
      obtain ⟨hset, hrest⟩ := List.forall_mem_cons.mp h
      have hlater := ih (addNalu c v.unit.type (v.copy 0)) hrest
      rw [List.map_cons, addCopies, List.foldl_cons]
      apply hlater.trans
      rw [latest, latest, latest, latest, List.foldl_cons, List.foldl_cons]
      rcases hset with htype | htype
      · rw [htype]
        rfl
      · rw [htype]
        rfl

section Frame

variable {c : NalRepackaging.Consumer} {frame : SourceFrame}

/-- The first five bytes are those of the first unit that is not a parameter set, with the
parameter sets it gets. -/
theorem repackaged_lead (h : Cached c) {front : List CodedUnit} {u : CodedUnit}
    {back : List CodedUnit} (hunits : frame.units = front ++ u :: back)
    (hfront : ∀ v ∈ front, v.unit.IsParameterSet) (hunit : ¬ u.unit.IsParameterSet) :
    5 ≤ (repackaged c frame).videoBufferFrame.length ∧
      (repackaged c frame).videoBufferFrame[4]? =
        leadByte (latest .sps front c.sps) (latest .pps front c.pps) u
          (nextByte frame.behind back) := by
  have hleading := addCopies_parameterSets { c with videoBufferFrame := [] } hfront
  have hcached : Cached { c with
      videoBufferFrame := []
      sps := latest .sps front c.sps
      pps := latest .pps front c.pps } := by
    have hcopied : ∀ copy ∈ front.map fun v => (v.unit.type, v.copy 0), 5 ≤ copy.2.length := by
      rw [List.forall_mem_map]
      exact fun v _ => v.five_le_length_copy 0
    have hsets := Cached.addCopies (c := { c with videoBufferFrame := [] }) ⟨h.sps, h.pps⟩ hcopied
    rw [hleading] at hsets
    exact hsets
  obtain ⟨hlength, hlead⟩ := addNalu_lead (nextByte frame.behind back) hcached rfl hunit
  obtain ⟨hlength', hkept⟩ := addCopies_keeps (five_le_copiesOf frame.behind back) hlength
  have hrepackaged : repackaged c frame = addCopies (addNalu
      { c with
        videoBufferFrame := []
        sps := latest .sps front c.sps
        pps := latest .pps front c.pps }
      u.unit.type (u.copy (nextByte frame.behind back))) (copiesOf frame.behind back) := by
    rw [repackaged, hunits, copiesOf_append, addCopies, List.foldl_append]
    exact congrArg (addCopies · (copiesOf frame.behind (u :: back))) hleading
  rw [hrepackaged]
  exact ⟨hlength', hkept.trans hlead⟩

theorem fst_mem_copiesOf {behind : UInt8} {units : List CodedUnit} {copy : NaluType × List UInt8}
    (h : copy ∈ copiesOf behind units) : ∃ u ∈ units, copy.1 = u.unit.type := by
  induction units with
  | nil => exact absurd h List.not_mem_nil
  | cons u rest ih =>
      rcases List.mem_cons.mp h with rfl | hlater
      · exact ⟨u, List.mem_cons_self, rfl⟩
      · obtain ⟨v, hv, htype⟩ := ih hlater
        exact ⟨v, List.mem_cons_of_mem _ hv, htype⟩

theorem repackaged_of_parameterSets (h : ∀ v ∈ frame.units, v.unit.IsParameterSet) :
    (repackaged c frame).videoBufferFrame = [] := by
  apply addCopies_buffer
  intro copy hcopy
  obtain ⟨v, hv, htype⟩ := fst_mem_copiesOf hcopy
  rw [htype]
  exact h v hv

theorem exists_lead (units : List CodedUnit) :
    (∀ v ∈ units, v.unit.IsParameterSet) ∨
      ∃ front u back, units = front ++ u :: back ∧ (∀ v ∈ front, v.unit.IsParameterSet) ∧
        ¬ u.unit.IsParameterSet := by
  induction units with
  | nil => exact Or.inl (List.forall_mem_nil _)
  | cons v rest ih =>
      by_cases hset : v.unit.IsParameterSet
      · rcases ih with hall | ⟨front, u, back, rfl, hfront, hunit⟩
        · exact Or.inl (List.forall_mem_cons.mpr ⟨hset, hall⟩)
        · exact Or.inr ⟨v :: front, u, back, rfl, List.forall_mem_cons.mpr ⟨hset, hfront⟩, hunit⟩
      · exact Or.inr ⟨[], v, rest, rfl, List.forall_mem_nil _, hset⟩

theorem ne_idr {u : NalUnit} (h : u.IsParameterSet) : u.type ≠ .idr := by
  rcases h with htype | htype
  · rw [htype]
    nofun
  · rw [htype]
    nofun

theorem hasIdr_append {front back : List CodedUnit} (h : ∀ v ∈ front, v.unit.IsParameterSet) :
    HasIdr (front ++ back) ↔ HasIdr back := by
  constructor
  · rintro ⟨v, hv, hidr⟩
    rcases List.mem_append.mp hv with hfront | hback
    · exact absurd hidr (ne_idr (h v hfront))
    · exact ⟨v, hback, hidr⟩
  · rintro ⟨v, hv, hidr⟩
    exact ⟨v, List.mem_append_right _ hv, hidr⟩

theorem isKeyFrame_eq (data : List UInt8) : RtcConsumer.isKeyFrame data = ofIdr data[4]? := rfl

theorem onFrame_eq (v : Viewer) (frame : SourceFrame) (packets : List (Option (List UInt8))) :
    v.onFrame frame packets =
      if (repackaged v.consumer frame).videoBufferFrame.length ≤ 0 then
        (⟨repackaged v.consumer frame, v.rtc⟩, [])
      else
        (⟨{ repackaged v.consumer frame with sendSpsPps := true },
          (v.rtc.onVideoFrame
            ⟨frame.timestamp, (repackaged v.consumer frame).videoBufferFrame⟩ packets).1⟩,
          (v.rtc.onVideoFrame
            ⟨frame.timestamp, (repackaged v.consumer frame).videoBufferFrame⟩ packets).2) := by
  rw [Viewer.onFrame, addVideoFrame_memory]
  split_ifs
  · rfl
  · rfl

theorem sentFlagRight_iff {v : Viewer} (h : Cached v.consumer) (input : Input) :
    SentFlagRight v input ↔ SentFlagFits v input := by
  cases input with
  | event input => exact Iff.rfl
  | frame frame packets =>
      rw [SentFlagRight, SentFlagFits, onFrame_eq]
      rcases exists_lead frame.units with hall | ⟨front, u, back, hunits, hfront, hunit⟩
      · have hempty : (repackaged v.consumer frame).videoBufferFrame.length ≤ 0 := by
          rw [repackaged_of_parameterSets hall]
          exact Nat.le_refl 0
        rw [if_pos hempty]
        refine iff_of_true (fun _ hmem => absurd hmem List.not_mem_nil) fun _ _ => ?_
        intro front u back hunits _ hunit
        refine absurd (hall u ?_) hunit
        rw [hunits]
        exact List.mem_append_right _ List.mem_cons_self
      · obtain ⟨hlength, hlead⟩ := repackaged_lead h hunits hfront hunit
        rw [if_neg (by omega)]
        have htakes : v.rtc.takes
            ⟨frame.timestamp, (repackaged v.consumer frame).videoBufferFrame⟩ = true ↔
              v.rtc.dtlsDone = true ∧ v.rtc.srtpSendSession = true := by
          rw [RtcConsumer.takes, Bool.and_eq_true, Bool.and_eq_true, decide_eq_true_eq,
            and_iff_left hlength]
        simp only [RtcConsumer.frameSent_mem_onVideoFrame, htakes, isKeyFrame_eq]
        constructor
        · intro hright hdone hsession front' u' back' hunits' hfront' hunit'
          obtain ⟨_, hlead'⟩ := repackaged_lead h hunits' hfront' hunit'
          rw [← hlead', ← hasIdr_append hfront', ← hunits']
          exact hright _ ⟨⟨hdone, hsession⟩, rfl⟩
        · rintro hfits flag ⟨⟨hdone, hsession⟩, rfl⟩
          rw [hlead, hunits, hasIdr_append hfront]
          exact hfits hdone hsession front u back hunits hfront hunit

end Frame

theorem cached_step {v : Viewer} (h : Cached v.consumer) (input : Input) :
    Cached (v.step input).consumer := by
  cases input with
  | event input => exact h
  | frame frame packets =>
      have hcached : Cached (repackaged v.consumer frame) :=
        Cached.addCopies ⟨h.sps, h.pps⟩ (five_le_copiesOf frame.behind frame.units)
      rw [Viewer.step, Viewer.handle, onFrame_eq]
      split
      · exact hcached
      · exact ⟨hcached.sps, hcached.pps⟩

/-- In every run a viewer's flags are right exactly where the first unit of each frame that
is no parameter set settles it. -/
theorem sentFlags_iff (videoSsrc : UInt32) (rttMs : Int) (inputs : List Input) :
    Admitted Viewer.step SentFlagRight (.fresh videoSsrc rttMs) inputs ↔
      Admitted Viewer.step SentFlagFits (.fresh videoSsrc rttMs) inputs :=
  admitted_congr_of_step (P := fun v : Viewer => Cached v.consumer)
    ⟨fun h => absurd rfl h, fun h => absurd rfl h⟩ (fun _ input h => cached_step h input)
    (fun _ input h => sentFlagRight_iff h input)

section FourByte

theorem naluType_eq_idr_iff (header : UInt8) : naluType header = .idr ↔ header &&& 0x1F = 5 := by
  have hfive : header &&& 0x1F = 5 ↔ (header &&& 0x1F).toNat = 5 := by
    rw [← UInt8.toNat_inj]
    rfl
  rw [hfive, naluType]
  split
  all_goals simp_all

theorem ofIdr_some_iff (header : UInt8) : ofIdr (some header) = true ↔ naluType header = .idr := by
  rw [ofIdr, beq_iff_eq, naluType_eq_idr_iff]

/-- The cached parameter sets do not have the type of an IDR unit in their fifth byte. -/
structure Plain (c : NalRepackaging.Consumer) : Prop where
  sps : ofIdr c.sps[4]? = false
  pps : ofIdr c.pps[4]? = false

theorem Plain.addNalu {c : NalRepackaging.Consumer} {type : NaluType} {bytes : List UInt8}
    (h : Plain c) (hbytes : type ≠ .idr → ofIdr bytes[4]? = false) :
    Plain (addNalu c type bytes) := by
  cases type with
  | sps => exact ⟨hbytes nofun, h.pps⟩
  | pps => exact ⟨h.sps, hbytes nofun⟩
  | _ => exact ⟨h.sps, h.pps⟩

theorem Plain.addCopies {c : NalRepackaging.Consumer} {copied : List (NaluType × List UInt8)}
    (h : Plain c) (hcopied : ∀ copy ∈ copied, copy.1 ≠ .idr → ofIdr copy.2[4]? = false) :
    Plain (addCopies c copied) :=
  addCopies_induction (fun copy hcopy _ h => h.addNalu (hcopied copy hcopy)) h

theorem ofIdr_copy {u : CodedUnit} (hfour : u.fourByte = true) (hidr : u.unit.type ≠ .idr)
    (next : UInt8) : ofIdr (u.copy next)[4]? = false := by
  rw [CodedUnit.getElem?_copy, CodedUnit.fifthByte, if_pos hfour, Bool.eq_false_iff, Ne,
    ofIdr_some_iff]
  exact hidr

theorem ofIdr_copiesOf (behind : UInt8) {units : List CodedUnit}
    (hfour : ∀ u ∈ units, u.fourByte = true) :
    ∀ copy ∈ copiesOf behind units, copy.1 ≠ .idr → ofIdr copy.2[4]? = false := by
  induction units with
  | nil => exact List.forall_mem_nil _
  | cons u rest ih =>
      obtain ⟨hu, hrest⟩ := List.forall_mem_cons.mp hfour
      exact List.forall_mem_cons.mpr ⟨fun hidr => ofIdr_copy hu hidr _, ih hrest⟩

theorem Plain.latest {c : NalRepackaging.Consumer} {front : List CodedUnit} (h : Plain c)
    (hfront : ∀ v ∈ front, v.unit.IsParameterSet) (hfour : ∀ v ∈ front, v.fourByte = true) :
    Plain { c with sps := latest .sps front c.sps, pps := latest .pps front c.pps } := by
  rw [← addCopies_parameterSets c hfront]
  apply h.addCopies
  rw [List.forall_mem_map]
  exact fun v hv hidr => ofIdr_copy (hfour v hv) hidr 0

theorem latest_concat (type : NaluType) (units : List CodedUnit) (u : CodedUnit)
    (cached : List UInt8) :
    latest type (units ++ [u]) cached =
      if u.unit.type = type then u.copy 0 else latest type units cached := by
  rw [latest, List.foldl_append]
  rfl

theorem latest_eq_nil_iff (type : NaluType) (units : List CodedUnit) (cached : List UInt8) :
    latest type units cached = [] ↔ (∀ u ∈ units, u.unit.type ≠ type) ∧ cached = [] := by
  induction units using List.reverseRecOn with
  | nil => exact (and_iff_right (List.forall_mem_nil _)).symm
  | append_singleton units u ih =>
      rw [latest_concat, List.forall_mem_append, List.forall_mem_singleton]
      split
      · rename_i hsame
        refine iff_of_false ?_ fun h => h.1.2 hsame
        intro hnil
        have hlength := u.five_le_length_copy 0
        rw [hnil] at hlength
        exact absurd hlength (by decide)
      · rename_i hother
        rw [ih, and_iff_left hother]

/-- No parameter set goes in front of a leading unit, neither of the frame nor cached. -/
theorem latest_eq_nil_iff_of_parameterSets {c : NalRepackaging.Consumer} {front : List CodedUnit}
    (hfront : ∀ v ∈ front, v.unit.IsParameterSet) :
    (latest .sps front c.sps = [] ∧ latest .pps front c.pps = []) ↔
      front = [] ∧ c.sps = [] ∧ c.pps = [] := by
  rw [latest_eq_nil_iff, latest_eq_nil_iff]
  constructor
  · rintro ⟨⟨hsps, hcsps⟩, hpps, hcpps⟩
    refine ⟨?_, hcsps, hcpps⟩
    cases front with
    | nil => rfl
    | cons v rest =>
        rcases hfront v List.mem_cons_self with hset | hset
        · exact absurd hset (hsps v List.mem_cons_self)
        · exact absurd hset (hpps v List.mem_cons_self)
  · rintro ⟨rfl, hcsps, hcpps⟩
    exact ⟨⟨List.forall_mem_nil _, hcsps⟩, List.forall_mem_nil _, hcpps⟩

theorem ofIdr_leadByte_iff {sps pps : List UInt8} {u : CodedUnit} {next : UInt8}
    (hfour : u.fourByte = true) (hsps : ofIdr sps[4]? = false) (hpps : ofIdr pps[4]? = false) :
    ofIdr (leadByte sps pps u next) = true ↔ u.unit.type = .idr ∧ sps = [] ∧ pps = [] := by
  rw [leadByte, CodedUnit.fifthByte, if_pos hfour]
  split_ifs with hset hset'
  · exact iff_of_false (by rw [hsps]; exact Bool.false_ne_true) fun h => hset.2 h.2.1
  · exact iff_of_false (by rw [hpps]; exact Bool.false_ne_true) fun h => hset'.2 h.2.2
  · rw [ofIdr_some_iff]
    refine ⟨fun hidr => ⟨hidr, ?_, ?_⟩, And.left⟩
    · exact not_not.mp fun hne => hset ⟨hidr, hne⟩
    · exact not_not.mp fun hne => hset' ⟨hidr, hne⟩

/-- A frame with an IDR unit begins with one, and no parameter set has been seen. -/
def StartsWithIdr (c : NalRepackaging.Consumer) (frame : SourceFrame) : Prop :=
  HasIdr frame.units →
    (∃ u ∈ frame.units.head?, u.unit.type = .idr) ∧ c.sps = [] ∧ c.pps = []

theorem leadFits_iff_of_fourByte {c : NalRepackaging.Consumer} {frame : SourceFrame}
    (h : Plain c) (hfour : ∀ u ∈ frame.units, u.fourByte = true) :
    LeadFits c frame ↔ StartsWithIdr c frame := by
  have hlead : ∀ front u back, frame.units = front ++ u :: back →
      (∀ v ∈ front, v.unit.IsParameterSet) →
      (ofIdr (leadByte (latest .sps front c.sps) (latest .pps front c.pps) u
        (nextByte frame.behind back)) = true ↔
          u.unit.type = .idr ∧ front = [] ∧ c.sps = [] ∧ c.pps = []) := by
    intro front u back hunits hfront
    rw [hunits] at hfour
    obtain ⟨hfour', hback⟩ := List.forall_mem_append.mp hfour
    obtain ⟨hsps, hpps⟩ := h.latest hfront hfour'
    rw [ofIdr_leadByte_iff (hback u List.mem_cons_self) hsps hpps,
      latest_eq_nil_iff_of_parameterSets hfront]
  constructor
  · intro hfits hidr
    rcases exists_lead frame.units with hall | ⟨front, u, back, hunits, hfront, hunit⟩
    · obtain ⟨u, hu, htype⟩ := hidr
      exact absurd htype (ne_idr (hall u hu))
    · rw [hunits, hasIdr_append hfront] at hidr
      obtain ⟨htype, rfl, hcached⟩ := (hlead front u back hunits hfront).mp
        ((hfits front u back hunits hfront hunit).mpr hidr)
      exact ⟨⟨u, by rw [hunits]; rfl, htype⟩, hcached⟩
  · intro hfirst front u back hunits hfront hunit
    rw [hlead front u back hunits hfront]
    rw [StartsWithIdr, hunits, hasIdr_append hfront] at hfirst
    constructor
    · rintro ⟨htype, _⟩
      exact ⟨u, List.mem_cons_self, htype⟩
    · intro hidr
      obtain ⟨⟨v, hv, htype⟩, hcached⟩ := hfirst hidr
      cases front with
      | nil =>
          obtain rfl := Option.some.inj hv
          exact ⟨htype, rfl, hcached⟩
      | cons w rest =>
          obtain rfl := Option.some.inj hv
          exact absurd htype (ne_idr (hfront _ List.mem_cons_self))

def FourByteInput : Input → Prop
  | .frame frame _ => ∀ u ∈ frame.units, u.fourByte = true
  | .event _ => True

def SentFlagCounts (v : Viewer) : Input → Prop
  | .frame frame _ =>
      v.rtc.dtlsDone = true → v.rtc.srtpSendSession = true → StartsWithIdr v.consumer frame
  | .event _ => True

theorem plain_step {v : Viewer} (h : Plain v.consumer) {input : Input}
    (hfour : FourByteInput input) : Plain (v.step input).consumer := by
  cases input with
  | event input => exact h
  | frame frame packets =>
      have hplain : Plain (repackaged v.consumer frame) :=
        Plain.addCopies ⟨h.sps, h.pps⟩ (ofIdr_copiesOf frame.behind hfour)
      rw [Viewer.step, Viewer.handle, onFrame_eq]
      split
      · exact hplain
      · exact ⟨hplain.sps, hplain.pps⟩

/-- With four-byte start codes only, the flags are right as long as every frame with an IDR
unit begins with it and comes before the first parameter set. -/
theorem sentFlags_iff_of_fourByte (videoSsrc : UInt32) (rttMs : Int) {inputs : List Input}
    (hfour : ∀ input ∈ inputs, FourByteInput input) :
    Admitted Viewer.step SentFlagRight (.fresh videoSsrc rttMs) inputs ↔
      Admitted Viewer.step SentFlagCounts (.fresh videoSsrc rttMs) inputs := by
  rw [sentFlags_iff]
  refine admitted_congr (P := fun v : Viewer => Plain v.consumer) ⟨rfl, rfl⟩
    (fun _ input h (hinput : FourByteInput input) => plain_step h hinput) ?_
    (admitted_of_forall_mem hfour)
  intro v input h hinput
  cases input with
  | event input => exact Iff.rfl
  | frame frame packets => rw [SentFlagFits, SentFlagCounts, leadFits_iff_of_fourByte h hinput]

end FourByte

end Sent

section Received

def noteInput (_ : RtcProducer) (seen : List RtcProducer.Input) (input : RtcProducer.Input) :
    List RtcProducer.Input :=
  seen ++ [input]

abbrev receiving : RtcProducer × List RtcProducer.Input → RtcProducer.Input →
    RtcProducer × List RtcProducer.Input :=
  observe RtcProducer.step noteInput

/-- The flag for `OnFrameReceived` where a frame is closed; `buffer` is `buffer_stream_` up to
`buffer_index_`. -/
def frameReceived (buffer : List UInt8) : RtcProducer.Effect → Option Bool
  | .addVideoFrame _ => some (RtcConsumer.isKeyFrame buffer)
  | _ => none

/-- `OnFrameReceived` is told the truth; `nalUnits` gives the units in the buffer, by all that
the NAL parser has been given. -/
def ReceivedFlagRight (nalUnits : List RtcProducer.Input → List CodedUnit)
    (p : RtcProducer × List RtcProducer.Input) (input : RtcProducer.Input) : Prop :=
  ∀ isKeyFrame ∈ (p.1.handle input).2.filterMap
      (frameReceived (frameBytes (nalUnits (p.2 ++ [input])))),
    (isKeyFrame = true ↔ HasIdr (nalUnits (p.2 ++ [input])))

def Closes (s : RtcProducer) : RtcProducer.Input → Prop
  | .srtpRtp (some packet) _ => RtcProducer.isVideo s.sdp packet = true ∧ packet.marker = true
  | _ => False

def FirstFits : List CodedUnit → Prop
  | [] => True
  | u :: rest => ofIdr (u.fifthByte (frameBytes rest).head?) = true ↔ HasIdr (u :: rest)

def ReceivedFlagFits (nalUnits : List RtcProducer.Input → List CodedUnit)
    (p : RtcProducer × List RtcProducer.Input) (input : RtcProducer.Input) : Prop :=
  Closes p.1 input → FirstFits (nalUnits (p.2 ++ [input]))

theorem frameReceived_mem_handle {s : RtcProducer} {input : RtcProducer.Input}
    {buffer : List UInt8} {flag : Bool} :
    flag ∈ (s.handle input).2.filterMap (frameReceived buffer) ↔
      Closes s input ∧ flag = RtcConsumer.isKeyFrame buffer := by
  cases input with
  | dtls done => exact iff_of_false List.not_mem_nil fun h => h.1
  | worker =>
      refine iff_of_false ?_ fun h => h.1
      rw [RtcProducer.handle, RtcProducer.runTask]
      split
      · exact List.not_mem_nil
      · rw [RtcProducer.processIncomingSeqOnWorker]
        dsimp only
        split_ifs
        all_goals exact List.not_mem_nil
  | srtpRtp received nowMs =>
      cases received with
      | none => exact iff_of_false List.not_mem_nil fun h => h.1
      | some packet =>
          rw [RtcProducer.handle, RtcProducer.onSrtpRtp, RtcProducer.depacketize, Closes]
          dsimp only
          cases hvideo : RtcProducer.isVideo s.sdp packet with
          | false =>
              refine iff_of_false ?_ fun h => Bool.false_ne_true h.1.1
              rw [if_neg Bool.false_ne_true]
              split
              · exact List.not_mem_nil
              · exact List.not_mem_nil
          | true =>
              rw [if_pos rfl, and_iff_right rfl]
              cases packet.marker with
              | false => exact iff_of_false List.not_mem_nil fun h => Bool.false_ne_true h.1
              | true =>
                  rw [if_pos rfl, and_iff_right rfl]
                  exact List.mem_singleton

theorem isKeyFrame_frameBytes_iff (units : List CodedUnit) :
    (RtcConsumer.isKeyFrame (frameBytes units) = true ↔ HasIdr units) ↔ FirstFits units := by
  cases units with
  | nil =>
      refine iff_of_true (iff_of_false Bool.false_ne_true ?_) trivial
      rintro ⟨u, hu, _⟩
      exact absurd hu List.not_mem_nil
  | cons u rest =>
      have hframe : frameBytes (u :: rest) = u.bytes ++ frameBytes rest := List.flatMap_cons
      rw [isKeyFrame_eq, hframe, CodedUnit.getElem?_bytes, FirstFits]

theorem receivedFlagRight_iff (nalUnits : List RtcProducer.Input → List CodedUnit)
    (p : RtcProducer × List RtcProducer.Input) (input : RtcProducer.Input) :
    ReceivedFlagRight nalUnits p input ↔ ReceivedFlagFits nalUnits p input := by
  rw [ReceivedFlagRight, ReceivedFlagFits, ← isKeyFrame_frameBytes_iff]
  simp only [frameReceived_mem_handle]
  constructor
  · intro h hcloses
    exact h _ ⟨hcloses, rfl⟩
  · rintro h flag ⟨hcloses, rfl⟩
    exact h hcloses

theorem receivedFlags_iff (nalUnits : List RtcProducer.Input → List CodedUnit) (s : RtcProducer)
    (inputs : List RtcProducer.Input) :
    Admitted receiving (ReceivedFlagRight nalUnits) (s, []) inputs ↔
      Admitted receiving (ReceivedFlagFits nalUnits) (s, []) inputs :=
  admitted_congr_of_step (P := fun _ => True) trivial (fun _ _ _ => trivial)
    (fun p input _ => receivedFlagRight_iff nalUnits p input)

end Received

/-- The flags of both statistics are right exactly where the unit whose fifth byte is looked at
settles them. -/
theorem keyFlags_iff (videoSsrc : UInt32) (rttMs : Int) (inputs : List Input)
    (nalUnits : List RtcProducer.Input → List CodedUnit) (s : RtcProducer)
    (received : List RtcProducer.Input) :
    (Admitted Viewer.step SentFlagRight (.fresh videoSsrc rttMs) inputs ∧
        Admitted receiving (ReceivedFlagRight nalUnits) (s, []) received) ↔
      Admitted Viewer.step SentFlagFits (.fresh videoSsrc rttMs) inputs ∧
        Admitted receiving (ReceivedFlagFits nalUnits) (s, []) received :=
  and_congr (sentFlags_iff videoSsrc rttMs inputs) (receivedFlags_iff nalUnits s received)

def keyUnits : List CodedUnit :=
  [⟨true, ⟨0x67, [0x42]⟩⟩, ⟨true, ⟨0x68, [0xce]⟩⟩, ⟨true, ⟨0x65, [0x88, 0x84]⟩⟩]

theorem not_keyFlags_parameterSets :
    (¬ ∀ inputs, Admitted Viewer.step SentFlagRight (.fresh 7 0) inputs) ∧
      ¬ ∀ nalUnits received, Admitted receiving (ReceivedFlagRight nalUnits)
        ({ sdp := .h264Opus, taskSafety := true }, []) received := by
  constructor
  · intro h
    have hframe := h [.event (.dtlsConnected true 0 0), .frame ⟨90, keyUnits, 0⟩ [some [0x65]]]
      [.event (.dtlsConnected true 0 0)] (.frame ⟨90, keyUnits, 0⟩ [some [0x65]]) [] rfl
    exact absurd ((hframe false (by decide)).mpr (by decide)) (by decide)
  · intro h
    have hframe := h (fun _ => keyUnits) [.srtpRtp (some ⟨96, 1, 90, 1, true, [0x65]⟩) 0] []
      (.srtpRtp (some ⟨96, 1, 90, 1, true, [0x65]⟩) 0) [] rfl
    exact absurd ((hframe false (by decide)).mpr (by decide)) (by decide)

end GBServer.KeyFrames
