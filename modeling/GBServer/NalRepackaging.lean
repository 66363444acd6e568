import GBServer.Foundation.Memory
import Mathlib.Data.List.Induction

namespace GBServer.NalRepackaging

open Foundation.Memory

structure NaluIndex where
  startOffset : Nat
  payloadStartOffset : Nat
  payloadSize : Nat
  deriving DecidableEq, Repr

inductive NaluType where
  | slice
  | idr
  | sei
  | sps
  | pps
  | aud
  | endOfSequence
  | endOfStream
  | filler
  | stapA
  | fuA
  | other
  deriving DecidableEq, Repr

/-- The low five bits of a unit's first byte, by `webrtc::H264::NaluType`. -/
def naluType (header : UInt8) : NaluType :=
  match (header &&& 0x1F).toNat with
  | 1 => .slice
  | 5 => .idr
  | 6 => .sei
  | 7 => .sps
  | 8 => .pps
  | 9 => .aud
  | 10 => .endOfSequence
  | 11 => .endOfStream
  | 12 => .filler
  | 24 => .stapA
  | 28 => .fuA
  | _ => .other

structure EncodedImage where
  timestamp : UInt32
  data : List UInt8
  deriving DecidableEq, Repr

structure Consumer where
  sps : List UInt8 := []
  pps : List UInt8 := []
  videoBufferFrame : List UInt8 := []
  sendSpsPps : Bool := false
  deriving DecidableEq, Repr

/-- `rtc::Buffer::SetSize` to a size not above the current one. -/
def setSize (buffer : List UInt8) (size : Nat) : List UInt8 := buffer.take size

def addNalu (c : Consumer) (type : NaluType) (bytes : List UInt8) : Consumer :=
  match type with
  | .sps => { c with sps := bytes }
  | .pps => { c with pps := bytes }
  | .idr =>
      { c with
        videoBufferFrame := setSize (c.videoBufferFrame ++ c.sps ++ c.pps ++ bytes)
          (c.sps.length + c.pps.length + bytes.length) }
  | _ => { c with videoBufferFrame := c.videoBufferFrame ++ bytes }

def addIndexed (frame : List UInt8) (c : Consumer) (index : NaluIndex) :
    Except Fault Consumer := do
  let header ← readByte frame index.payloadStartOffset
  let bytes ← readRange frame index.startOffset (index.payloadSize + 4)
  return addNalu c (naluType header) bytes

/-- `AddVideoFrame`, with the image handed to `OnVideoFrame`, if any. -/
def addVideoFrame (findNaluIndices : List UInt8 → List NaluIndex) (c : Consumer)
    (frame : EncodedImage) : Except Fault (Consumer × Option EncodedImage) := do
  let nalus := findNaluIndices frame.data
  let c ← nalus.foldlM (addIndexed frame.data) { c with videoBufferFrame := [] }
  if c.videoBufferFrame.length ≤ 0 then return (c, none)
  else
    return ({ c with sendSpsPps := true },
      some { timestamp := frame.timestamp, data := c.videoBufferFrame })

structure NalUnit where
  header : UInt8
  body : List UInt8
  deriving DecidableEq, Repr

namespace NalUnit

def payload (u : NalUnit) : List UInt8 := u.header :: u.body

def type (u : NalUnit) : NaluType := naluType u.header

/-- The unit behind a four-byte start code. -/
def bytes (u : NalUnit) : List UInt8 := [0, 0, 0, 1] ++ u.payload

def IsParameterSet (u : NalUnit) : Prop := u.type = .sps ∨ u.type = .pps

theorem length_bytes (u : NalUnit) : u.bytes.length = u.payload.length + 4 := by
  simp [bytes]

end NalUnit

def annexB (units : List NalUnit) : List UInt8 := units.flatMap NalUnit.bytes

def indicesFrom (offset : Nat) : List NalUnit → List NaluIndex
  | [] => []
  | u :: rest =>
      ⟨offset, offset + 4, u.payload.length⟩ :: indicesFrom (offset + u.bytes.length) rest

/-- What a consumer is to be sent: all units but the parameter sets, and in front
of every IDR unit the parameter sets current there. -/
structure Repackaged where
  sps : List UInt8
  pps : List UInt8
  out : List UInt8

def Repackaged.add (r : Repackaged) (u : NalUnit) : Repackaged :=
  match u.type with
  | .sps => { r with sps := u.bytes }
  | .pps => { r with pps := u.bytes }
  | .idr => { r with out := r.out ++ r.sps ++ r.pps ++ u.bytes }
  | _ => { r with out := r.out ++ u.bytes }

def repackage (sps pps : List UInt8) (units : List NalUnit) : Repackaged :=
  units.foldl Repackaged.add ⟨sps, pps, []⟩

def handedOn (timestamp : UInt32) (buffer : List UInt8) : Option EncodedImage :=
  if buffer = [] then none else some ⟨timestamp, buffer⟩

/-- The frame reaches `OnVideoFrame` complete and in order. -/
def RepackagesAll (findNaluIndices : List UInt8 → List NaluIndex) (c : Consumer)
    (timestamp : UInt32) (units : List NalUnit) : Prop :=
  ∃ c', addVideoFrame findNaluIndices c ⟨timestamp, annexB units⟩ =
    .ok (c', handedOn timestamp (repackage c.sps c.pps units).out)

def IdrFirst (units : List NalUnit) : Prop :=
  ∀ front u back, units = front ++ u :: back → u.type = .idr →
    ∀ v ∈ front, v.IsParameterSet

def addUnits (c : Consumer) (units : List NalUnit) : Consumer :=
  units.foldl (fun c u => addNalu c u.type u.bytes) c

theorem foldlM_addIndexed (front : List UInt8) (units : List NalUnit) (c : Consumer) :
    (indicesFrom front.length units).foldlM (addIndexed (front ++ annexB units)) c =
      .ok (addUnits c units) := by
  induction units generalizing front c with
  | nil => rfl
  | cons u rest ih =>
      have hframe : front ++ annexB (u :: rest) = front ++ (u.bytes ++ annexB rest) := rfl
      have hheader : readByte (front ++ (u.bytes ++ annexB rest)) (front.length + 4) =
          .ok u.header := by
        have h := readByte_append (front ++ [0, 0, 0, 1]) (u.body ++ annexB rest) u.header
        simpa [NalUnit.bytes, NalUnit.payload] using h
      have hbytes : readRange (front ++ (u.bytes ++ annexB rest)) front.length
          (u.payload.length + 4) = .ok u.bytes := by
        rw [← u.length_bytes]
        exact readRange_append front u.bytes (annexB rest)
      have hnext : front.length + u.bytes.length = (front ++ u.bytes).length := by
        rw [List.length_append]
      rw [indicesFrom, List.foldlM_cons, hframe, addIndexed, hheader, hbytes, hnext]
      change List.foldlM (addIndexed (front ++ (u.bytes ++ annexB rest)))
        (addNalu c u.type u.bytes) _ = _
      rw [← List.append_assoc, ih]
      rfl

theorem addVideoFrame_eq {findNaluIndices : List UInt8 → List NaluIndex} (c : Consumer)
    (timestamp : UInt32) {units : List NalUnit}
    (hfind : findNaluIndices (annexB units) = indicesFrom 0 units) :
    ∃ c', addVideoFrame findNaluIndices c ⟨timestamp, annexB units⟩ =
      .ok (c', handedOn timestamp
        (addUnits { c with videoBufferFrame := [] } units).videoBufferFrame) := by
  have hloop := foldlM_addIndexed [] units { c with videoBufferFrame := [] }
  simp only [List.length_nil, List.nil_append] at hloop
  rw [addVideoFrame, hfind, hloop]
  simp only [Bind.bind, Except.bind, handedOn]
  cases hbuffer : (addUnits { c with videoBufferFrame := [] } units).videoBufferFrame with
  | nil => exact ⟨_, rfl⟩
  | cons byte rest => exact ⟨_, rfl⟩

theorem addUnits_concat (c : Consumer) (units : List NalUnit) (u : NalUnit) :
    addUnits c (units ++ [u]) = addNalu (addUnits c units) u.type u.bytes := by
  simp [addUnits]

theorem repackage_concat (sps pps : List UInt8) (units : List NalUnit) (u : NalUnit) :
    repackage sps pps (units ++ [u]) = (repackage sps pps units).add u := by
  simp [repackage]

theorem idrFirst_concat {units : List NalUnit} {u : NalUnit} :
    IdrFirst (units ++ [u]) ↔
      IdrFirst units ∧ (u.type = .idr → ∀ v ∈ units, v.IsParameterSet) := by
  constructor
  · intro h
    constructor
    · intro front v back heq
      exact h front v (back ++ [u]) (by rw [heq, List.append_assoc, List.cons_append])
    · exact h units u [] rfl
  · rintro ⟨hunits, hlast⟩ front v back heq hidr
    rcases List.append_eq_append_iff.mp heq with ⟨mid, hfront, hmid⟩ | ⟨mid, hfront, hmid⟩
    · have hlength := congrArg List.length hmid
      simp only [List.length_append, List.length_cons, List.length_nil] at hlength
      obtain rfl : mid = [] := List.eq_nil_of_length_eq_zero (by omega)
      rw [List.append_nil] at hfront
      obtain ⟨rfl, _⟩ := List.cons.inj hmid
      rw [hfront]
      exact hlast hidr
    · rcases List.cons_eq_append_iff.mp hmid with ⟨rfl, hback⟩ | ⟨rest, rfl, _⟩
      · obtain ⟨rfl, _⟩ := List.cons.inj hback
        rw [List.append_nil] at hfront
        rw [← hfront]
        exact hlast hidr
      · exact hunits front v rest hfront hidr

theorem repackage_out_eq_nil_iff (sps pps : List UInt8) (units : List NalUnit) :
    (repackage sps pps units).out = [] ↔ ∀ v ∈ units, v.IsParameterSet := by
  induction units using List.reverseRecOn with
  | nil => simp [repackage]
  | append_singleton units u ih =>
      rw [repackage_concat, List.forall_mem_append, List.forall_mem_singleton, ← ih,
        NalUnit.IsParameterSet, Repackaged.add]
      have hne : u.bytes ≠ [] := by simp [NalUnit.bytes]
      cases u.type <;> simp [hne]

/-- After some units the caches are right, and the buffer is complete or has already
become too short. -/
structure Tracks (units : List NalUnit) (c : Consumer) (r : Repackaged) : Prop where
  sps : c.sps = r.sps
  pps : c.pps = r.pps
  buffer : (IdrFirst units ∧ c.videoBufferFrame = r.out) ∨
    (¬ IdrFirst units ∧ c.videoBufferFrame.length < r.out.length)

theorem Tracks.start (c : Consumer) :
    Tracks [] { c with videoBufferFrame := [] } ⟨c.sps, c.pps, []⟩ := by
  refine ⟨rfl, rfl, Or.inl ⟨?_, rfl⟩⟩
  intro front u back heq
  simp at heq

section Add

variable {units : List NalUnit} {c : Consumer} {r : Repackaged} {u : NalUnit}

theorem Tracks.add_idr (h : Tracks units c r)
    (hout : r.out = [] ↔ ∀ v ∈ units, v.IsParameterSet) (hidr : u.type = .idr) :
    Tracks (units ++ [u]) (addNalu c u.type u.bytes) (r.add u) := by
  obtain ⟨hsps, hpps, hbuffer⟩ := h
  rw [Repackaged.add, hidr]
  refine ⟨hsps, hpps, ?_⟩
  simp only [addNalu, idrFirst_concat, hidr, hsps, hpps, setSize, true_implies, ← hout]
  rcases hbuffer with ⟨hfirst, heq⟩ | ⟨hlate, hshort⟩
  · rw [heq]
    rcases eq_or_ne r.out [] with hempty | hsome
    · left
      refine ⟨⟨hfirst, hempty⟩, ?_⟩
      rw [hempty, List.take_of_length_le]
      simp only [List.length_append, List.length_nil]
      omega
    · right
      -- `SetSize` counts the new parts only, and cuts off what was there before
      have hpos := List.length_pos_of_ne_nil hsome
      refine ⟨fun h => hsome h.2, ?_⟩
      simp only [List.length_take, List.length_append]
      omega
  · right
    refine ⟨fun h => hlate h.1, ?_⟩
    simp only [List.length_take, List.length_append]
    omega

theorem Tracks.add_of_ne_idr (h : Tracks units c r) (hidr : u.type ≠ .idr) :
    Tracks (units ++ [u]) (addNalu c u.type u.bytes) (r.add u) := by
  obtain ⟨hsps, hpps, hbuffer⟩ := h
  have hfirst : IdrFirst (units ++ [u]) ↔ IdrFirst units := by
    rw [idrFirst_concat]
    exact and_iff_left fun h => absurd h hidr
  rw [Repackaged.add]
  cases htype : u.type with
  | idr => exact absurd htype hidr
  | sps =>
      refine ⟨rfl, hpps, ?_⟩
      rw [hfirst]
      exact hbuffer
  | pps =>
      refine ⟨hsps, rfl, ?_⟩
      rw [hfirst]
      exact hbuffer
  | _ =>
      refine ⟨hsps, hpps, ?_⟩
      rw [hfirst]
      rcases hbuffer with ⟨hfirst, heq⟩ | ⟨hlate, hshort⟩
      · left
        exact ⟨hfirst, by simp [addNalu, heq]⟩
      · right
        refine ⟨hlate, ?_⟩
        simp only [addNalu, List.length_append]
        omega

end Add

theorem tracks_addUnits (c : Consumer) (units : List NalUnit) :
    Tracks units (addUnits { c with videoBufferFrame := [] } units)
      (repackage c.sps c.pps units) := by
  induction units using List.reverseRecOn with
  | nil => exact Tracks.start c
  | append_singleton units u ih =>
      rw [addUnits_concat, repackage_concat]
      rcases eq_or_ne u.type .idr with hidr | hidr
      · exact ih.add_idr (repackage_out_eq_nil_iff c.sps c.pps units) hidr
      · exact ih.add_of_ne_idr hidr

theorem handedOn_injective {timestamp : UInt32} {buffer buffer' : List UInt8}
    (h : handedOn timestamp buffer = handedOn timestamp buffer') : buffer = buffer' := by
  rw [handedOn, handedOn] at h
  split at h
  · split at h
    · rename_i hbuffer hbuffer'
      rw [hbuffer, hbuffer']
    · cases h
  · split at h
    · cases h
    · exact congrArg EncodedImage.data (Option.some.inj h)

/-- For every frame whose units the index search finds, the consumer is sent the
whole frame exactly when only parameter sets come before an IDR unit. -/
theorem repackagesAll_iff {findNaluIndices : List UInt8 → List NaluIndex} (c : Consumer)
    (timestamp : UInt32) {units : List NalUnit}
    (hfind : findNaluIndices (annexB units) = indicesFrom 0 units) :
    RepackagesAll findNaluIndices c timestamp units ↔ IdrFirst units := by
  obtain ⟨done, hdone⟩ := addVideoFrame_eq c timestamp hfind
  obtain ⟨_, _, hbuffer⟩ := tracks_addUnits c units
  rw [RepackagesAll, hdone]
  constructor
  · rintro ⟨c', hout⟩
    have heq := handedOn_injective (Prod.mk.inj (Except.ok.inj hout)).2
    rcases hbuffer with ⟨hfirst, _⟩ | ⟨_, hshort⟩
    · exact hfirst
    · rw [heq] at hshort
      exact absurd hshort (Nat.lt_irrefl _)
  · intro hfirst
    rcases hbuffer with ⟨_, heq⟩ | ⟨hlate, _⟩
    · exact ⟨done, by rw [heq]⟩
    · exact absurd hfirst hlate

section Scan

def startCodes (offset : Nat) : List UInt8 → List Nat
  | [] => []
  | byte :: rest =>
      if (byte :: rest).take 4 = [0, 0, 0, 1] then offset :: startCodes (offset + 1) rest
      else startCodes (offset + 1) rest

/-- An index search that knows four-byte start codes only. -/
def scanFourByte (data : List UInt8) : List NaluIndex :=
  let starts := startCodes 0 data
  (starts.zip (starts.tail ++ [data.length])).map fun (start, next) =>
    ⟨start, start + 4, next - (start + 4)⟩

end Scan

theorem repackagesAll_iff_of_key_frame :
    RepackagesAll scanFourByte {} 90
        [⟨0x67, [0x42]⟩, ⟨0x68, [0xce]⟩, ⟨0x65, [0x88, 0x84]⟩, ⟨0x41, [0x9a]⟩] ↔
      IdrFirst [⟨0x67, [0x42]⟩, ⟨0x68, [0xce]⟩, ⟨0x65, [0x88, 0x84]⟩, ⟨0x41, [0x9a]⟩] :=
  repackagesAll_iff {} 90 (by decide)

theorem not_repackagesAll_delimiter :
    ¬ ∀ (c : Consumer) (timestamp : UInt32) (units : List NalUnit),
      scanFourByte (annexB units) = indicesFrom 0 units →
        RepackagesAll scanFourByte c timestamp units := by
  intro hclaim
  obtain ⟨c', hout⟩ := hclaim {} 90 [⟨0x09, [0xf0]⟩, ⟨0x65, [0x88, 0x84]⟩] (by decide)
  have hcut : (addVideoFrame scanFourByte {}
      ⟨90, annexB [⟨0x09, [0xf0]⟩, ⟨0x65, [0x88, 0x84]⟩]⟩).map Prod.snd =
        .ok (some ⟨90, [0, 0, 0, 1, 0x09, 0xf0, 0]⟩) := by
    decide
  rw [hout] at hcut
  have himage : handedOn 90 (repackage [] [] [⟨0x09, [0xf0]⟩, ⟨0x65, [0x88, 0x84]⟩]).out =
      some ⟨90, [0, 0, 0, 1, 0x09, 0xf0, 0]⟩ := Except.ok.inj hcut
  exact absurd himage (by decide)

end GBServer.NalRepackaging
