import GBServer.Foundation.MarkedUnits
import GBServer.RtcProducer

namespace GBServer.RtcProducer

open Foundation.Runs
open Foundation.SerialNumber
open Foundation.MarkedUnits

/-- The video packets of a publisher, in the order of their sequence numbers. -/
structure Publication where
  packets : List RtpPacketReceived
  opening : Int
  numbered : ∀ (i : Nat) (p : RtpPacketReceived), packets[i]? = some p →
    p.sequenceNumber = serial 16 (opening + i)

def Publication.frame (publication : Publication) (timestamp : BitVec 32) :
    List RtpPacketReceived :=
  publication.packets.filter fun p => p.timestamp = timestamp

def Effect.image? : Effect → Option EncodedImage
  | .addVideoFrame image => some image
  | _ => none

/-- The images given to the stream, each with the packet whose arrival closed it. -/
def noteImages (s : RtcProducer) (added : List (EncodedImage × RtpPacketReceived)) :
    Input → List (EncodedImage × RtpPacketReceived)
  | .srtpRtp (some packet) nowMs =>
      added ++ ((s.onSrtpRtp (some packet) nowMs).2.filterMap Effect.image?).map (·, packet)
  | _ => added

abbrev assembling : RtcProducer × List (EncodedImage × RtpPacketReceived) → Input →
    RtcProducer × List (EncodedImage × RtpPacketReceived) :=
  observe step noteImages

def addedImages (s : RtcProducer) (inputs : List Input) :
    List (EncodedImage × RtpPacketReceived) :=
  (run assembling (s, []) inputs).2

def videoArrival? (sdp : Sdp) : Input → Option RtpPacketReceived
  | .srtpRtp (some packet) _ => if isVideo sdp packet then some packet else none
  | _ => none

def videoArrivals (sdp : Sdp) (inputs : List Input) : List RtpPacketReceived :=
  inputs.filterMap (videoArrival? sdp)

def FrameArrived (publication : Publication) (arrivals : List RtpPacketReceived)
    (timestamp : BitVec 32) : Prop :=
  ∀ p ∈ publication.frame timestamp, p ∈ arrivals

/-- An image holds packets of its marker's frame only, and the whole frame in order if
that arrived. -/
structure Intact (publication : Publication) (arrivals : List RtpPacketReceived)
    (image : EncodedImage) (marker : RtpPacketReceived) : Prop where
  ownPackets : ∀ p ∈ image.encodedData, p.timestamp = marker.timestamp
  complete : FrameArrived publication arrivals marker.timestamp →
    image.encodedData = publication.frame marker.timestamp

def FramesIntact (publication : Publication) (s : RtcProducer) (inputs : List Input) : Prop :=
  ∀ added ∈ addedImages s inputs,
    Intact publication (videoArrivals s.sdp inputs) added.1 added.2

/-- The frame is closed by its last packet and by no other. -/
def MarkedLast (frame : List RtpPacketReceived) : Prop :=
  ∃ unit, MarkedUnit RtpPacketReceived.marker unit ∧ frame = whole unit

/-- Up to the last marker, a packet without one is followed by a packet of the same frame,
and the packets of a frame that arrived as a whole arrive in order, once or as often as
the whole frame does. -/
structure InTurn (publication : Publication) (arrivals : List RtpPacketReceived) : Prop where
  sameFrame : (closed RtpPacketReceived.marker arrivals).IsChain fun p q =>
    p.marker = true ∨ p.timestamp = q.timestamp
  wholeFrames : ∀ marker ∈ arrivals, marker.marker = true →
    FrameArrived publication arrivals marker.timestamp →
      MarkedLast (publication.frame marker.timestamp) ∧
        ∃ copies, (closed RtpPacketReceived.marker arrivals).filter
            (fun p => p.timestamp = marker.timestamp) =
          (List.replicate copies (publication.frame marker.timestamp)).flatten

def imageOf (unit : List RtpPacketReceived × RtpPacketReceived) :
    EncodedImage × RtpPacketReceived :=
  ({ timestamp := unit.2.timestamp / 90, encodedData := whole unit }, unit.2)

theorem onSrtpRtp_of_not_video {s : RtcProducer} {packet : RtpPacketReceived}
    (h : isVideo s.sdp packet = false) (nowMs : Int) :
    (s.onSrtpRtp (some packet) nowMs).1.nalParse = s.nalParse ∧
      (s.onSrtpRtp (some packet) nowMs).2.filterMap Effect.image? = [] := by
  rw [onSrtpRtp, depacketize, if_neg (by simp [h])]
  split
  · exact ⟨rfl, rfl⟩
  · exact ⟨rfl, rfl⟩

theorem onSrtpRtp_of_marker {s : RtcProducer} {packet : RtpPacketReceived}
    (h : isVideo s.sdp packet = true) (hmarker : packet.marker = true) (nowMs : Int) :
    (s.onSrtpRtp (some packet) nowMs).1.nalParse = [] ∧
      ((s.onSrtpRtp (some packet) nowMs).2.filterMap Effect.image?).map (·, packet) =
        [imageOf (s.nalParse, packet)] := by
  rw [onSrtpRtp, depacketize, if_pos h, if_pos hmarker]
  exact ⟨rfl, rfl⟩

theorem onSrtpRtp_of_unmarked {s : RtcProducer} {packet : RtpPacketReceived}
    (h : isVideo s.sdp packet = true) (hmarker : packet.marker = false) (nowMs : Int) :
    (s.onSrtpRtp (some packet) nowMs).1.nalParse = s.nalParse ++ [packet] ∧
      (s.onSrtpRtp (some packet) nowMs).2.filterMap Effect.image? = [] := by
  rw [onSrtpRtp, depacketize, if_pos h, if_neg (by simp [hmarker])]
  exact ⟨rfl, rfl⟩

theorem step_of_no_arrival {s : RtcProducer} {input : Input}
    (h : videoArrival? s.sdp input = none)
    (added : List (EncodedImage × RtpPacketReceived)) :
    (s.step input).nalParse = s.nalParse ∧ noteImages s added input = added := by
  cases input with
  | dtls done => exact ⟨rfl, rfl⟩
  | worker => exact ⟨runTask_nalParse s, rfl⟩
  | srtpRtp received nowMs =>
      cases received with
      | none => exact ⟨rfl, rfl⟩
      | some packet =>
          have hvideo : isVideo s.sdp packet = false := by simpa [videoArrival?] using h
          obtain ⟨hparse, himages⟩ := onSrtpRtp_of_not_video hvideo nowMs
          exact ⟨hparse, by simp [noteImages, himages]⟩

theorem videoArrival?_eq_some {sdp : Sdp} {input : Input} {packet : RtpPacketReceived}
    (h : videoArrival? sdp input = some packet) :
    ∃ nowMs, input = .srtpRtp (some packet) nowMs ∧ isVideo sdp packet = true := by
  rw [videoArrival?.eq_def] at h
  split at h
  · rename_i nowMs
    split at h
    · rename_i hvideo
      obtain rfl := Option.some.inj h
      exact ⟨nowMs, rfl, hvideo⟩
    · contradiction
  · contradiction

/-- The images of a run are the units that the markers cut the arrivals into. -/
theorem run_assembling (s : RtcProducer) (added : List (EncodedImage × RtpPacketReceived))
    (inputs : List Input) :
    (run assembling (s, added) inputs).2 =
      added ++ (units RtpPacketReceived.marker s.nalParse
        (videoArrivals s.sdp inputs)).map imageOf := by
  induction inputs generalizing s added with
  | nil => simp [videoArrivals, units]
  | cons input rest ih =>
      have hnext : assembling (s, added) input = (s.step input, noteImages s added input) := rfl
      rw [run_cons, hnext, ih, step_sdp]
      cases harrival : videoArrival? s.sdp input with
      | none =>
          obtain ⟨hparse, hnote⟩ := step_of_no_arrival harrival added
          rw [hparse, hnote, videoArrivals, videoArrivals, List.filterMap_cons_none harrival]
      | some packet =>
          obtain ⟨nowMs, rfl, hvideo⟩ := videoArrival?_eq_some harrival
          have hstep : s.step (.srtpRtp (some packet) nowMs) =
              (s.onSrtpRtp (some packet) nowMs).1 := rfl
          rw [hstep, noteImages]
          have harrivals : videoArrivals s.sdp (.srtpRtp (some packet) nowMs :: rest) =
              packet :: videoArrivals s.sdp rest := List.filterMap_cons_some harrival
          rw [harrivals, units]
          cases hmarker : packet.marker with
          | true =>
              obtain ⟨hparse, himages⟩ := onSrtpRtp_of_marker hvideo hmarker nowMs
              rw [hparse, himages, if_pos rfl, List.map_cons, List.append_assoc,
                List.singleton_append]
          | false =>
              obtain ⟨hparse, himages⟩ := onSrtpRtp_of_unmarked hvideo hmarker nowMs
              rw [hparse, himages, List.map_nil, List.append_nil,
                if_neg Bool.false_ne_true]

section Units

variable {publication : Publication} {arrivals : List RtpPacketReceived}
  {unit : List RtpPacketReceived × RtpPacketReceived}

theorem ownPackets_iff :
    (∀ p ∈ whole unit, p.timestamp = unit.2.timestamp) ↔
      Uniform RtpPacketReceived.timestamp unit := by
  simp [whole, Uniform, or_imp, forall_and]

theorem whole_injective {unit' : List RtpPacketReceived × RtpPacketReceived}
    (h : whole unit = whole unit') : unit = unit' := by
  obtain ⟨hfront, hlast⟩ := List.append_inj' h rfl
  exact Prod.ext hfront (List.singleton_inj.mp hlast)

theorem intact_iff :
    Intact publication arrivals (imageOf unit).1 (imageOf unit).2 ↔
      Uniform RtpPacketReceived.timestamp unit ∧
        (FrameArrived publication arrivals unit.2.timestamp →
          whole unit = publication.frame unit.2.timestamp) := by
  constructor
  · intro h
    exact ⟨ownPackets_iff.mp h.ownPackets, h.complete⟩
  · rintro ⟨huniform, hcomplete⟩
    exact ⟨ownPackets_iff.mpr huniform, hcomplete⟩

end Units

/-- The units of the arrivals are intact exactly when the arrivals come in turn. -/
theorem units_intact_iff (publication : Publication) (arrivals : List RtpPacketReceived) :
    (∀ unit ∈ units RtpPacketReceived.marker [] arrivals,
      Intact publication arrivals (imageOf unit).1 (imageOf unit).2) ↔
      InTurn publication arrivals := by
  have hunits : ∀ unit ∈ units RtpPacketReceived.marker [] arrivals,
      MarkedUnit RtpPacketReceived.marker unit :=
    fun _ h => markedUnit_of_mem_units (fun _ h => absurd h List.not_mem_nil) h
  simp only [intact_iff]
  constructor
  · intro h
    have huniform : ∀ unit ∈ units RtpPacketReceived.marker [] arrivals,
        Uniform RtpPacketReceived.timestamp unit := fun unit hunit => (h unit hunit).1
    refine ⟨?_, ?_⟩
    · rw [← flatMap_units]
      exact (isChain_flatMap_whole_iff RtpPacketReceived.timestamp hunits).mpr huniform
    · intro marker hmem hmarker harrived
      obtain ⟨unit, hunit, rfl⟩ := mem_units_of_mem [] hmem hmarker
      have hframe : whole unit = publication.frame unit.2.timestamp :=
        (h unit hunit).2 harrived
      refine ⟨⟨unit, hunits unit hunit, hframe.symm⟩, ?_⟩
      rw [← flatMap_units, ← hframe]
      refine (forall_unit_eq_iff RtpPacketReceived.timestamp hunits huniform
        (hunits unit hunit)).mp ?_
      intro other hother hkey
      have hwhole : whole other = publication.frame other.2.timestamp :=
        (h other hother).2 (hkey ▸ harrived)
      exact whole_injective (hwhole.trans ((congrArg publication.frame hkey).trans hframe.symm))
  · rintro ⟨hchain, hwhole⟩
    rw [← flatMap_units] at hchain
    have huniform := (isChain_flatMap_whole_iff RtpPacketReceived.timestamp hunits).mp hchain
    intro unit hunit
    refine ⟨huniform unit hunit, fun harrived => ?_⟩
    obtain ⟨⟨frame, hframe, heq⟩, hcopies⟩ := hwhole unit.2 (last_mem_of_mem_units hunit)
      (hunits unit hunit).last harrived
    rw [← flatMap_units, heq] at hcopies
    have hsame := (forall_unit_eq_iff RtpPacketReceived.timestamp hunits huniform
      hframe).mpr hcopies unit hunit rfl
    exact (congrArg whole hsame).trans heq.symm

/-- A new producer adds intact frames only, exactly when the video packets arrive in
turn. -/
theorem framesIntact_iff (publication : Publication) (sdp : Sdp) (taskSafety : Bool)
    (inputs : List Input) :
    FramesIntact publication { sdp, taskSafety } inputs ↔
      InTurn publication (videoArrivals sdp inputs) := by
  rw [← units_intact_iff, FramesIntact, addedImages, run_assembling, List.nil_append,
    List.forall_mem_map]

section LostMarker

def numberedPacket (seq timestamp : Nat) (marker : Bool) : RtpPacketReceived :=
  { payloadType := 96, sequenceNumber := seq, timestamp, ssrc := 1, marker, payload := [1] }

def twoFrames : Publication where
  packets := [numberedPacket 10 9000 false, numberedPacket 11 9000 true,
    numberedPacket 12 18000 false, numberedPacket 13 18000 true]
  opening := 10
  numbered := by
    intro i p h
    rcases i with _ | _ | _ | _ | i
    · cases h
      rfl
    · cases h
      rfl
    · cases h
      rfl
    · cases h
      rfl
    · cases h

/-- The marker of the first frame is lost: its other packet ends up in the second frame. -/
theorem not_framesIntact_lost_marker :
    ¬ ∀ publication sdp taskSafety inputs,
      (∀ p ∈ videoArrivals sdp inputs, p ∈ publication.packets) →
        FramesIntact publication { sdp, taskSafety } inputs := by
  intro h
  have hframes := h twoFrames .h264Opus true
    [.srtpRtp (some (numberedPacket 10 9000 false)) 0,
      .srtpRtp (some (numberedPacket 12 18000 false)) 40,
      .srtpRtp (some (numberedPacket 13 18000 true)) 41] (by decide)
  have hintact := hframes _ (List.mem_singleton.mpr rfl)
  have hown := hintact.ownPackets (numberedPacket 10 9000 false) (by decide)
  exact absurd hown (by decide)

end LostMarker

end GBServer.RtcProducer
