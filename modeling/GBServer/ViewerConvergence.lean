import GBServer.MediaRelay
import GBServer.NalRepackaging

namespace GBServer.ViewerConvergence

open Foundation.CStrings
open Foundation.Memory
open Foundation.Runs
open GBServer.GbMediaService
open GBServer.MediaRelay
open GBServer.NalRepackaging

abbrev Image := NalRepackaging.EncodedImage

/-- The frames that a consumer hands to `OnVideoFrame`, of those it is given. -/
def repackageFrames (findNaluIndices : List UInt8 → List NaluIndex)
    (p : Consumer × List Image) (frame : Image) :
    Except Fault (Consumer × List Image) := do
  let (c, image) ← addVideoFrame findNaluIndices p.1 frame
  return (c, p.2 ++ image.toList)

/-- A consumer that has been given these frames since it was constructed. -/
def viewerAfter (findNaluIndices : List UInt8 → List NaluIndex) (frames : List Image) :
    Except Fault Consumer :=
  (frames.foldlM (repackageFrames findNaluIndices) ({}, [])).map Prod.fst

def sent (findNaluIndices : List UInt8 → List NaluIndex) (viewer : Consumer)
    (frames : List Image) : Except Fault (List Image) :=
  (frames.foldlM (repackageFrames findNaluIndices) (viewer, [])).map Prod.snd

def unitType (data : List UInt8) (index : NaluIndex) : List NaluType :=
  ((data[index.payloadStartOffset]?).map naluType).toList

def unitTypes (findNaluIndices : List UInt8 → List NaluIndex) (frame : Image) :
    List NaluType :=
  (findNaluIndices frame.data).flatMap (unitType frame.data)

/-- Both parameter sets come by. -/
def Renews (findNaluIndices : List UInt8 → List NaluIndex) (frames : List Image) : Prop :=
  .sps ∈ frames.flatMap (unitTypes findNaluIndices) ∧
    .pps ∈ frames.flatMap (unitTypes findNaluIndices)

/-- The video among what an endpoint is handed; the timestamps are passed on unread. -/
def videoOf (media : List Media) : List Image :=
  media.filterMap fun
    | .video image => some ⟨0, image⟩
    | .audio _ _ => none

section Matching

universe u

variable {α β : Type u}

/-- Two computations fault alike, or give related results. -/
inductive Matched (R : α → α → Prop) : Except Fault α → Except Fault α → Prop where
  | fault (fault : Fault) : Matched R (.error fault) (.error fault)
  | ok {a b : α} (h : R a b) : Matched R (.ok a) (.ok b)

theorem matched_self (x : Except Fault α) : Matched Eq x x := by
  cases x with
  | error fault => exact .fault fault
  | ok a => exact .ok rfl

theorem Matched.bind {R : α → α → Prop} {S : β → β → Prop} {x y : Except Fault α}
    {f g : α → Except Fault β} (h : Matched R x y) (hfg : ∀ a b, R a b → Matched S (f a) (g b)) :
    Matched S (x >>= f) (y >>= g) := by
  cases h with
  | fault fault => exact .fault fault
  | ok h => exact hfg _ _ h

theorem matched_foldlM {ι : Type u} {R : α → α → Prop} {f : α → ι → Except Fault α}
    (hstep : ∀ a b i, R a b → Matched R (f a i) (f b i)) (inputs : List ι) {a b : α}
    (h : R a b) : Matched R (inputs.foldlM f a) (inputs.foldlM f b) := by
  induction inputs generalizing a b with
  | nil => exact .ok h
  | cons i rest ih =>
      rw [List.foldlM_cons, List.foldlM_cons]
      exact (hstep a b i h).bind fun _ _ hnext => ih hnext

theorem Matched.map_eq {R : α → α → Prop} {x y : Except Fault α} (h : Matched R x y) {f : α → β}
    (hf : ∀ a b, R a b → f a = f b) : x.map f = y.map f := by
  cases h with
  | fault fault => rfl
  | ok h => exact congrArg Except.ok (hf _ _ h)

theorem rel_of_matched {R : α → α → Prop} {x y : Except Fault α} (h : Matched R x y) {a b : α}
    (hx : x = .ok a) (hy : y = .ok b) : R a b := by
  cases h with
  | fault fault => cases hx
  | ok h =>
      obtain rfl := Except.ok.inj hx
      obtain rfl := Except.ok.inj hy
      exact h

end Matching

/-- Two consumers have the same of those parameter sets that were renewed. -/
structure Alike (renewed : List NaluType) (c c' : Consumer) : Prop where
  sps : .sps ∈ renewed → c.sps = c'.sps
  pps : .pps ∈ renewed → c.pps = c'.pps

variable {findNaluIndices : List UInt8 → List NaluIndex} {renewed : List NaluType}
  {c c' : Consumer}

theorem Alike.addNalu (h : Alike renewed c c') (type : NaluType) (bytes : List UInt8) :
    Alike (renewed ++ [type]) (addNalu c type bytes) (addNalu c' type bytes) := by
  constructor
  · intro hmem
    cases type with
    | sps => rfl
    | _ => exact h.sps (by simpa using hmem)
  · intro hmem
    cases type with
    | pps => rfl
    | _ => exact h.pps (by simpa using hmem)

theorem matched_addIndexed (h : Alike renewed c c') (data : List UInt8) (index : NaluIndex) :
    Matched (Alike (renewed ++ unitType data index)) (addIndexed data c index)
      (addIndexed data c' index) := by
  rw [addIndexed, addIndexed, readByte, unitType]
  cases data[index.payloadStartOffset]? with
  | none => exact .fault _
  | some header =>
      refine (matched_self (readRange data index.startOffset (index.payloadSize + 4))).bind ?_
      rintro bytes _ rfl
      exact .ok (h.addNalu _ bytes)

theorem matched_indices (h : Alike renewed c c') (data : List UInt8) (indices : List NaluIndex) :
    Matched (Alike (renewed ++ indices.flatMap (unitType data)))
      (indices.foldlM (addIndexed data) c) (indices.foldlM (addIndexed data) c') := by
  induction indices generalizing renewed c c' with
  | nil =>
      rw [List.flatMap_nil, List.append_nil]
      exact .ok h
  | cons index rest ih =>
      rw [List.foldlM_cons, List.foldlM_cons, List.flatMap_cons, ← List.append_assoc]
      exact (matched_addIndexed h data index).bind fun d d' hd => ih hd

theorem matched_repackageFrames (h : Alike renewed c c') (images images' : List Image)
    (frame : Image) :
    Matched (fun p p' => Alike (renewed ++ unitTypes findNaluIndices frame) p.1 p'.1)
      (repackageFrames findNaluIndices (c, images) frame)
      (repackageFrames findNaluIndices (c', images') frame) := by
  have hstart : Alike renewed { c with videoBufferFrame := [] }
      { c' with videoBufferFrame := [] } := ⟨h.sps, h.pps⟩
  rw [repackageFrames, repackageFrames, addVideoFrame, addVideoFrame, bind_assoc, bind_assoc]
  refine (matched_indices hstart frame.data (findNaluIndices frame.data)).bind ?_
  intro d d' hd
  split
  · split
    · exact .ok hd
    · exact .ok ⟨hd.sps, hd.pps⟩
  · split
    · exact .ok ⟨hd.sps, hd.pps⟩
    · exact .ok ⟨hd.sps, hd.pps⟩

theorem matched_first (h : Alike renewed c c') (images images' : List Image)
    (frames : List Image) :
    Matched (fun p p' => Alike (renewed ++ frames.flatMap (unitTypes findNaluIndices)) p.1 p'.1)
      (frames.foldlM (repackageFrames findNaluIndices) (c, images))
      (frames.foldlM (repackageFrames findNaluIndices) (c', images')) := by
  induction frames generalizing renewed c c' images images' with
  | nil =>
      rw [List.flatMap_nil, List.append_nil]
      exact .ok h
  | cons frame rest ih =>
      rw [List.foldlM_cons, List.foldlM_cons, List.flatMap_cons, ← List.append_assoc]
      exact (matched_repackageFrames h images images' frame).bind fun p p' hp =>
        ih hp p.2 p'.2

/-- Consumers with the same parameter sets and the same buffer. -/
structure Equipped (c c' : Consumer) : Prop where
  sps : c.sps = c'.sps
  pps : c.pps = c'.pps
  buffer : c.videoBufferFrame = c'.videoBufferFrame

theorem Equipped.addNalu (h : Equipped c c') (type : NaluType) (bytes : List UInt8) :
    Equipped (addNalu c type bytes) (addNalu c' type bytes) := by
  obtain ⟨hsps, hpps, hbuffer⟩ := h
  cases type <;> constructor <;> simp [NalRepackaging.addNalu, hsps, hpps, hbuffer]

theorem matched_equipped (h : Equipped c c') (data : List UInt8) (indices : List NaluIndex) :
    Matched Equipped (indices.foldlM (addIndexed data) c)
      (indices.foldlM (addIndexed data) c') := by
  refine matched_foldlM (fun d d' index hd => ?_) indices h
  rw [addIndexed, addIndexed]
  refine (matched_self (readByte data index.payloadStartOffset)).bind ?_
  rintro header _ rfl
  refine (matched_self (readRange data index.startOffset (index.payloadSize + 4))).bind ?_
  rintro bytes _ rfl
  exact .ok (hd.addNalu _ bytes)

/-- The same parameter sets, and the same images handed on. -/
structure InStep (p p' : Consumer × List Image) : Prop where
  sps : p.1.sps = p'.1.sps
  pps : p.1.pps = p'.1.pps
  images : p.2 = p'.2

theorem inStep_repackageFrames {p p' : Consumer × List Image} (h : InStep p p')
    (frame : Image) :
    Matched InStep (repackageFrames findNaluIndices p frame)
      (repackageFrames findNaluIndices p' frame) := by
  obtain ⟨c, images⟩ := p
  obtain ⟨c', images'⟩ := p'
  obtain ⟨hsps, hpps, himages⟩ := h
  have hstart : Equipped { c with videoBufferFrame := [] } { c' with videoBufferFrame := [] } :=
    ⟨hsps, hpps, rfl⟩
  rw [repackageFrames, repackageFrames, addVideoFrame, addVideoFrame, bind_assoc, bind_assoc]
  refine (matched_equipped hstart frame.data (findNaluIndices frame.data)).bind ?_
  intro d d' hd
  rw [hd.buffer]
  split
  · exact .ok ⟨hd.sps, hd.pps, congrArg (· ++ _) himages⟩
  · exact .ok ⟨hd.sps, hd.pps, congrArg (· ++ _) himages⟩

theorem viewerAfter_append {frames first : List Image} {viewer : Consumer}
    (h : viewerAfter findNaluIndices (frames ++ first) = .ok viewer) :
    ∃ p images, first.foldlM (repackageFrames findNaluIndices) p = .ok (viewer, images) := by
  rw [viewerAfter, List.foldlM_append] at h
  rcases hframes : frames.foldlM (repackageFrames findNaluIndices) ({}, []) with fault | p
  · rw [hframes] at h
    cases h
  · rw [hframes] at h
    rcases hfirst : first.foldlM (repackageFrames findNaluIndices) p with fault | ⟨c, images⟩
    · change Except.map _ (first.foldlM _ p) = _ at h
      rw [hfirst] at h
      cases h
    · change Except.map _ (first.foldlM _ p) = _ at h
      rw [hfirst] at h
      obtain rfl := Except.ok.inj h
      exact ⟨p, images, hfirst⟩

/-- Once both parameter sets have come by, nothing of what a consumer was given before
matters. -/
theorem sent_eq_of_renews {frames frames' first : List Image}
    (hrenews : Renews findNaluIndices first) {viewer viewer' : Consumer}
    (h : viewerAfter findNaluIndices (frames ++ first) = .ok viewer)
    (h' : viewerAfter findNaluIndices (frames' ++ first) = .ok viewer')
    (second : List Image) :
    sent findNaluIndices viewer second = sent findNaluIndices viewer' second := by
  obtain ⟨p, images, hfirst⟩ := viewerAfter_append h
  obtain ⟨p', images', hfirst'⟩ := viewerAfter_append h'
  have hunknown : Alike [] p.1 p'.1 := ⟨nofun, nofun⟩
  have halike := rel_of_matched (matched_first hunknown p.2 p'.2 first) hfirst hfirst'
  have hstart : InStep (viewer, []) (viewer', []) :=
    ⟨halike.sps (List.mem_append_right _ hrenews.1),
      halike.pps (List.mem_append_right _ hrenews.2), rfl⟩
  exact (matched_foldlM (fun _ _ frame h => inStep_repackageFrames h frame) second
    hstart).map_eq fun q q' hq => hq.images

variable {Stun : Type*} (api : MediaApi Stun)

/-- Two consumers that stay with a session are handed the same frames from then on, and once
these have renewed both parameter sets, both send the same video, whatever each was handed
before. -/
theorem viewers_converge (config : ServerConfig) (before during : List GbMediaService.Input)
    (sid : SessionId) (c c' : ResourceId)
    (hstay : Stays api sid c
      (run (guarded (relaying api)) (.ok (startup config, {})) before) during)
    (hstay' : Stays api sid c'
      (run (guarded (relaying api)) (.ok (startup config, {})) before) during) :
    OnOk (fun p => OnOk (fun q => ∃ seen,
        viewed c q.2 = viewed c p.2 ++ seen ∧ viewed c' q.2 = viewed c' p.2 ++ seen ∧
          ∀ (findNaluIndices : List UInt8 → List NaluIndex) (first second : List Image)
            (viewer viewer' : Consumer), videoOf seen = first ++ second →
            Renews findNaluIndices first →
            viewerAfter findNaluIndices (videoOf (viewed c p.2) ++ first) = .ok viewer →
            viewerAfter findNaluIndices (videoOf (viewed c' p.2) ++ first) = .ok viewer' →
            sent findNaluIndices viewer second = sent findNaluIndices viewer' second)
        (run (guarded (relaying api)) (.ok p) during))
      (run (guarded (relaying api)) (.ok (startup config, {})) before) := by
  intro p hp q hq
  rw [hp] at hstay hstay'
  have hstretches := inStretches_run api config before p hp
  obtain ⟨seen, new, hviewed, hpublished, hpending⟩ := conserved_run api hstretches hstay hq
  obtain ⟨seen', new', hviewed', hpublished', hpending'⟩ := conserved_run api hstretches hstay' hq
  have hnew : new = new' := List.append_cancel_left (hpublished.symm.trans hpublished')
  have hseen : seen = seen' := by
    apply List.append_cancel_right (hpending.trans _)
    rw [hpending', hnew]
  refine ⟨seen, hviewed, hseen ▸ hviewed', ?_⟩
  intro findNaluIndices first second viewer viewer' _ hrenews hviewer hviewer'
  exact sent_eq_of_renews hrenews hviewer hviewer' second

section Sample

def earlierSets : List UInt8 := annexB [⟨0x67, [0x42]⟩, ⟨0x68, [0xce]⟩]

def renewedSets : List UInt8 := annexB [⟨0x67, [0x64]⟩, ⟨0x68, [0xee]⟩]

def picture : List UInt8 := annexB [⟨0x65, [0x88, 0x84]⟩]

/-- The second viewer joins behind two frames of the stream. -/
def joining : List GbMediaService.Input :=
  [.openRtpServer (.request 1 (ascii "cam")) true ⟨fun _ => "zz", "secret"⟩ 0,
    samplePlay "aa" 0, .tcp (ascii "live/cam") [earlierSets, picture], .worker, .worker,
    samplePlay "bb" 0]

/-- The parameter sets are renewed, and a picture follows. -/
def renewing : List GbMediaService.Input :=
  [.tcp (ascii "live/cam") [renewedSets, picture], .worker, .worker]

def equipped : Consumer where
  sps := [0, 0, 0, 1, 0x67, 0x64]
  pps := [0, 0, 0, 1, 0x68, 0xee]

theorem stays_renewing :
    Stays sampleApi 0 1 (run (guarded (relaying sampleApi)) (.ok (startup sampleConfig, {}))
        joining) renewing ∧
      Stays sampleApi 0 2 (run (guarded (relaying sampleApi)) (.ok (startup sampleConfig, {}))
        joining) renewing := by
  constructor
  all_goals
    refine admitted_cons.mpr ⟨?_, admitted_cons.mpr ⟨?_, admitted_cons.mpr ⟨?_, admitted_nil⟩⟩⟩
  all_goals
    intro p hp
    obtain rfl := Except.ok.inj hp
    decide

end Sample

/-- The first viewer has sent a picture before, the second one has been given nothing. -/
theorem viewers_converge_of_renewed :
    OnOk (fun p => OnOk (fun q => ∃ seen,
        viewed 1 q.2 = viewed 1 p.2 ++ seen ∧ viewed 2 q.2 = viewed 2 p.2 ++ seen ∧
          videoOf seen = [⟨0, renewedSets⟩, ⟨0, picture⟩] ∧
          sent scanFourByte { equipped with sendSpsPps := true } [⟨0, picture⟩] =
            sent scanFourByte equipped [⟨0, picture⟩])
        (run (guarded (relaying sampleApi)) (.ok p) renewing))
      (run (guarded (relaying sampleApi)) (.ok (startup sampleConfig, {})) joining) := by
  intro p hp q hq
  obtain ⟨seen, hfirst, hsecond, hsent⟩ := viewers_converge sampleApi sampleConfig joining renewing
    0 1 2 stays_renewing.1 stays_renewing.2 p hp q hq
  obtain rfl := Except.ok.inj hp
  obtain rfl := Except.ok.inj hq
  have hseen : seen = [.video renewedSets, .video picture] :=
    hsecond.symm.trans rfl
  refine ⟨seen, hfirst, hsecond, by rw [hseen]; rfl, ?_⟩
  refine hsent scanFourByte [⟨0, renewedSets⟩] [⟨0, picture⟩] _ _ ?_ ?_ ?_ ?_
  · rw [hseen]
    rfl
  · exact ⟨by decide, by decide⟩
  · rfl
  · rfl

end GBServer.ViewerConvergence
