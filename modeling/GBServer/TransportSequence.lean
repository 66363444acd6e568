import GBServer.Foundation.Tickets
import GBServer.VideoPacketCache

/-!
The transport-wide sequence numbers of one interface.  `OnVideoFrame` and `OnAudioFrame`
on the worker thread and `RequestNack` on the network thread each take a number in one
atomic step and send the packet that carries it in a later one.
-/

namespace GBServer

open Foundation.Runs
open Foundation.Tickets
open GBServer.VideoPacketCache

inductive OutboundMedia where
  | video
  | audio
  | videoRtx
  deriving DecidableEq, Repr

structure RtpPacketToSend where
  media : OutboundMedia
  sequenceNumber : UInt16
  transportSequenceNumber : UInt16
  deriving DecidableEq, Repr

/-- Where the worker thread stands in `OnVideoFrame` or `OnAudioFrame`; `left` counts the
turns that remain of the loop over the packets of the frame. -/
inductive WorkerPoint where
  | idle
  | packetizing (left : Nat)
  | sendingVideo (left : Nat) (packet : RtpPacketToSend)
  | caching (left : Nat) (packet : RtpPacketToSend)
  | sendingAudio (packet : RtpPacketToSend)
  deriving DecidableEq, Repr

/-- Where the network thread stands in `RequestNack`; `packetIds` are the requests that
remain. -/
inductive NetworkPoint where
  | idle
  | answering (packetIds : List UInt16)
  | numbering (packetIds : List UInt16) (original : RtpPacketToSend)
  | sendingRtx (packetIds : List UInt16) (packet : RtpPacketToSend)
  deriving DecidableEq, Repr

structure OutboundRtp where
  videoSsrc : UInt32
  dtlsDone : Bool := false
  srtpSendSession : Bool := false
  outboundTransportSeq : UInt16 := 1
  audioSeq : UInt32 := 100
  videoSeq : UInt32 := 100
  videoRtxSeq : UInt32 := 100
  rtpVideoPackets : PacketCache RtpPacketToSend := ∅
  worker : WorkerPoint := .idle
  network : NetworkPoint := .idle
  sent : List RtpPacketToSend := []

namespace OutboundRtp

/-- Whether `SendSrtpRtp` gets as far as the socket. -/
def goesOut (s : OutboundRtp) (encrypted : Bool) : Bool :=
  s.dtlsDone && s.srtpSendSession && encrypted

def sendSrtpRtp (s : OutboundRtp) (packet : RtpPacketToSend) (encrypted : Bool) : OutboundRtp :=
  if s.goesOut encrypted then { s with sent := s.sent ++ [packet] } else s

inductive Input where
  | onVideoFrame (size numPackets : Nat)
  | onAudioFrame
  | requestNack (nack : Nack)
  /-- The next step of the worker thread, and what `NextPacket` or `EncryptRtp` returns. -/
  | worker (succeeded : Bool)
  /-- The next step of the network thread, and whether `AllocatePayload` or `EncryptRtp`
  succeeds. -/
  | network (succeeded : Bool)
  | dtls (done srtpSendSession : Bool)

/-- The packet under the next numbers of its stream and of the transport. -/
def numbered (s : OutboundRtp) (media : OutboundMedia) (seq : UInt32) : RtpPacketToSend :=
  { media, sequenceNumber := seq.toUInt16, transportSequenceNumber := s.outboundTransportSeq }

def onVideoFrame (s : OutboundRtp) (size numPackets : Nat) : OutboundRtp :=
  if !s.dtlsDone then s
  else if size < 5 then s
  else if !s.srtpSendSession then s
  else { s with worker := .packetizing numPackets }

def onAudioFrame (s : OutboundRtp) : OutboundRtp :=
  { s with
    audioSeq := s.audioSeq + 1
    outboundTransportSeq := s.outboundTransportSeq + 1
    worker := .sendingAudio (s.numbered .audio s.audioSeq) }

def workerStep (s : OutboundRtp) (succeeded : Bool) : OutboundRtp :=
  match s.worker with
  | .idle => s
  | .packetizing 0 => { s with worker := .idle }
  | .packetizing (left + 1) =>
      if !succeeded then { s with worker := .idle }
      else
        { s with
          videoSeq := s.videoSeq + 1
          outboundTransportSeq := s.outboundTransportSeq + 1
          worker := .sendingVideo left (s.numbered .video s.videoSeq) }
  | .sendingVideo left packet =>
      { s.sendSrtpRtp packet succeeded with worker := .caching left packet }
  | .caching left packet =>
      { s with
        rtpVideoPackets :=
          addVideoPacket RtpPacketToSend.sequenceNumber s.rtpVideoPackets packet
        worker := .packetizing left }
  | .sendingAudio packet => { s.sendSrtpRtp packet succeeded with worker := .idle }

def requestNack (s : OutboundRtp) (nack : Nack) : OutboundRtp :=
  if nack.mediaSsrc ≠ s.videoSsrc then s
  else { s with network := .answering nack.packetIds }

def networkStep (s : OutboundRtp) (succeeded : Bool) : OutboundRtp :=
  match s.network with
  | .idle => s
  | .answering [] => { s with network := .idle }
  | .answering (packetId :: rest) =>
      match s.rtpVideoPackets[packetId.toUInt32]? with
      | none => { s with network := .answering rest }
      | some original => { s with network := .numbering rest original }
  | .numbering rest _ =>
      { s with
        outboundTransportSeq := s.outboundTransportSeq + 1
        videoRtxSeq := s.videoRtxSeq + 1
        network :=
          if succeeded then .sendingRtx rest (s.numbered .videoRtx s.videoRtxSeq)
          else .answering rest }
  | .sendingRtx rest packet =>
      { s.sendSrtpRtp packet succeeded with network := .answering rest }

/-- A thread takes up a frame or a request when it is done with the last one. -/
def step (s : OutboundRtp) : Input → OutboundRtp
  | .onVideoFrame size numPackets =>
      if s.worker = .idle then s.onVideoFrame size numPackets else s
  | .onAudioFrame => if s.worker = .idle then s.onAudioFrame else s
  | .requestNack nack => if s.network = .idle then s.requestNack nack else s
  | .worker succeeded => s.workerStep succeeded
  | .network succeeded => s.networkStep succeeded
  | .dtls done srtpSendSession => { s with dtlsDone := done, srtpSendSession }

def ConsecutiveOnWire (s : OutboundRtp) : Prop :=
  Consecutive RtpPacketToSend.transportSequenceNumber s.sent

/-- The number that the worker thread has taken and not yet handed to `SendSrtpRtp`. -/
def takenByWorker : WorkerPoint → Option UInt16
  | .sendingVideo _ packet => some packet.transportSequenceNumber
  | .sendingAudio packet => some packet.transportSequenceNumber
  | _ => none

def takenByNetwork : NetworkPoint → Option UInt16
  | .sendingRtx _ packet => some packet.transportSequenceNumber
  | _ => none

/-- A number is used before the one that the other thread took after it, and is lost only
as long as nothing has been sent. -/
structure UsedInTurn (s : OutboundRtp) (number : UInt16) (other : Option UInt16)
    (goesOut : Bool) : Prop where
  older : Older (· + 1) number other
  kept : goesOut = false → s.sent = []

instance (s : OutboundRtp) (number : UInt16) (other : Option UInt16) (goesOut : Bool) :
    Decidable (s.UsedInTurn number other goesOut) :=
  decidable_of_iff
    ((other = none ∨ other = some (number + 1)) ∧ (goesOut = false → s.sent = []))
    ⟨fun h => ⟨h.1, h.2⟩, fun h => ⟨h.older, h.kept⟩⟩

/-- The step that takes a number for an RTX packet and then allocates its payload. -/
def takesNumber : NetworkPoint → Bool
  | .numbering _ _ => true
  | _ => false

def NumbersInTurn (s : OutboundRtp) : Input → Prop
  | .worker succeeded =>
      ∀ number ∈ takenByWorker s.worker,
        s.UsedInTurn number (takenByNetwork s.network) (s.goesOut succeeded)
  | .network succeeded =>
      (∀ number ∈ takenByNetwork s.network,
        s.UsedInTurn number (takenByWorker s.worker) (s.goesOut succeeded)) ∧
        (takesNumber s.network = true → succeeded = false →
          takenByWorker s.worker = none ∧ s.sent = [])
  | _ => True

instance decidableNumbersInTurn (s : OutboundRtp) :
    (input : Input) → Decidable (NumbersInTurn s input)
  | .onVideoFrame _ _ => isTrue trivial
  | .onAudioFrame => isTrue trivial
  | .requestNack _ => isTrue trivial
  | .worker _ => Option.decidableForallMem (takenByWorker s.worker)
  | .network _ => @instDecidableAnd _ _ (Option.decidableForallMem (takenByNetwork s.network)) _
  | .dtls _ _ => isTrue trivial

def wire (s : OutboundRtp) : List UInt16 := s.sent.map RtpPacketToSend.transportSequenceNumber

/-- The numbers taken and not yet used are the last ones, and the wire is ready for the
older of them. -/
structure Ordered (s : OutboundRtp) : Prop where
  chain : s.wire.IsChain fun a b => b = a + 1
  held : Held (· + 1) s.wire s.outboundTransportSeq (takenByWorker s.worker)
    (takenByNetwork s.network)

theorem add_one_add_one_ne (a : UInt16) : a + 1 + 1 ≠ a := by
  intro h
  have hnat := congrArg UInt16.toNat h
  simp only [UInt16.toNat_add, UInt16.reduceToNat] at hnat
  have hlt := a.toNat_lt
  omega

theorem Ordered.consecutive {s : OutboundRtp} (h : Ordered s) : ConsecutiveOnWire s :=
  (List.isChain_map _).mp h.chain

section Steps

variable {s : OutboundRtp}

theorem sendSrtpRtp_outboundTransportSeq (packet : RtpPacketToSend) (encrypted : Bool) :
    (s.sendSrtpRtp packet encrypted).outboundTransportSeq = s.outboundTransportSeq := by
  rw [sendSrtpRtp]
  split
  · rfl
  · rfl

theorem sendSrtpRtp_worker (packet : RtpPacketToSend) (encrypted : Bool) :
    (s.sendSrtpRtp packet encrypted).worker = s.worker := by
  rw [sendSrtpRtp]
  split
  · rfl
  · rfl

theorem sendSrtpRtp_network (packet : RtpPacketToSend) (encrypted : Bool) :
    (s.sendSrtpRtp packet encrypted).network = s.network := by
  rw [sendSrtpRtp]
  split
  · rfl
  · rfl

/-- A number used in turn leaves the wire consecutive and ready for the next one. -/
theorem wire_sendSrtpRtp {packet : RtpPacketToSend} {other : Option UInt16} {encrypted : Bool}
    (hchain : s.wire.IsChain fun a b => b = a + 1)
    (hheld : Held (· + 1) s.wire s.outboundTransportSeq (some packet.transportSequenceNumber)
      other)
    (hturn : s.UsedInTurn packet.transportSequenceNumber other (s.goesOut encrypted)) :
    ((s.sendSrtpRtp packet encrypted).wire.IsChain fun a b => b = a + 1) ∧
      Held (· + 1) (s.sendSrtpRtp packet encrypted).wire s.outboundTransportSeq none other := by
  rw [sendSrtpRtp]
  split
  · have hwire : wire { s with sent := s.sent ++ [packet] } =
        s.wire ++ [packet.transportSequenceNumber] := List.map_append
    rw [hwire]
    have hcontinues := hheld.continues add_one_add_one_ne hturn.older
    exact ⟨hcontinues.isChain_concat hchain, hheld.use add_one_add_one_ne hturn.older⟩
  · rename_i hlost
    have hwire : s.wire = [] := by
      rw [wire, hturn.kept (by simpa using hlost), List.map_nil]
    rw [hwire] at hheld ⊢
    exact ⟨List.isChain_nil, hheld.giveUp add_one_add_one_ne hturn.older⟩

theorem Ordered.workerSends (h : Ordered s) {packet : RtpPacketToSend} {succeeded : Bool}
    (hheld : Held (· + 1) s.wire s.outboundTransportSeq (some packet.transportSequenceNumber)
      (takenByNetwork s.network))
    (hturn : s.UsedInTurn packet.transportSequenceNumber (takenByNetwork s.network)
      (s.goesOut succeeded))
    {point : WorkerPoint} (hpoint : takenByWorker point = none) :
    Ordered { s.sendSrtpRtp packet succeeded with worker := point } := by
  obtain ⟨hchain, hnext⟩ := wire_sendSrtpRtp h.chain hheld hturn
  refine ⟨hchain, ?_⟩
  dsimp only
  rw [hpoint, sendSrtpRtp_outboundTransportSeq, sendSrtpRtp_network]
  exact hnext

theorem ordered_workerStep (h : Ordered s) {succeeded : Bool}
    (hturn : NumbersInTurn s (.worker succeeded)) : Ordered (s.workerStep succeeded) := by
  rw [workerStep.eq_def]
  have hheld := h.held
  cases hworker : s.worker with
  | idle => exact h
  | packetizing left =>
      rw [hworker] at hheld
      cases left with
      | zero => exact ⟨h.chain, hheld⟩
      | succ left =>
          dsimp only
          split
          · exact ⟨h.chain, hheld⟩
          · exact ⟨h.chain, Held.draw hheld⟩
  | sendingVideo left packet =>
      rw [hworker] at hheld
      exact h.workerSends hheld (hturn _ (by rw [hworker]; rfl)) rfl
  | caching left packet =>
      rw [hworker] at hheld
      exact ⟨h.chain, hheld⟩
  | sendingAudio packet =>
      rw [hworker] at hheld
      exact h.workerSends hheld (hturn _ (by rw [hworker]; rfl)) rfl

theorem ordered_networkStep (h : Ordered s) {succeeded : Bool}
    (hturn : NumbersInTurn s (.network succeeded)) : Ordered (s.networkStep succeeded) := by
  rw [networkStep.eq_def]
  obtain ⟨hsends, hallocates⟩ := hturn
  have hheld := h.held.symm
  cases hnetwork : s.network with
  | idle => exact h
  | answering packetIds =>
      rw [hnetwork] at hheld
      cases packetIds with
      | nil => exact ⟨h.chain, hheld.symm⟩
      | cons packetId rest =>
          dsimp only
          split
          · exact ⟨h.chain, hheld.symm⟩
          · exact ⟨h.chain, hheld.symm⟩
  | numbering rest original =>
      rw [hnetwork] at hheld hallocates
      have hdrawn := hheld.draw
      cases succeeded with
      | true => exact ⟨h.chain, hdrawn.symm⟩
      | false =>
          obtain ⟨hworker, hnone⟩ := hallocates rfl rfl
          have hwire : s.wire = [] := by rw [wire, hnone, List.map_nil]
          rw [hwire, hworker] at hdrawn
          refine ⟨h.chain, ?_⟩
          have hgiven := hdrawn.giveUp add_one_add_one_ne (Or.inl rfl)
          change Held _ s.wire _ (takenByWorker s.worker) none
          rw [hwire, hworker]
          exact hgiven
  | sendingRtx rest packet =>
      rw [hnetwork] at hheld hsends
      obtain ⟨hchain, hnext⟩ := wire_sendSrtpRtp h.chain hheld (hsends _ rfl)
      refine ⟨hchain, ?_⟩
      dsimp only
      rw [sendSrtpRtp_outboundTransportSeq, sendSrtpRtp_worker]
      exact hnext.symm

theorem ordered_step {input : Input} (h : Ordered s) (hturn : NumbersInTurn s input) :
    Ordered (s.step input) := by
  cases input with
  | worker succeeded => exact ordered_workerStep h hturn
  | network succeeded => exact ordered_networkStep h hturn
  | dtls done srtpSendSession => exact ⟨h.chain, h.held⟩
  | onVideoFrame size numPackets =>
      rw [step]
      split
      · rename_i hidle
        have hheld := h.held
        rw [hidle] at hheld
        rw [onVideoFrame]
        split_ifs
        · exact h
        · exact h
        · exact h
        · exact ⟨h.chain, hheld⟩
      · exact h
  | onAudioFrame =>
      rw [step]
      split
      · rename_i hidle
        have hheld := h.held
        rw [hidle] at hheld
        exact ⟨h.chain, Held.draw hheld⟩
      · exact h
  | requestNack nack =>
      rw [step]
      split
      · rename_i hidle
        have hheld := h.held
        rw [hidle] at hheld
        rw [requestNack]
        split
        · exact h
        · exact ⟨h.chain, hheld⟩
      · exact h

end Steps

/-- In every run whose numbers are used in turn, the numbers on the wire are
consecutive. -/
theorem consecutive_of_numbersInTurn {videoSsrc : UInt32} {inputs : List Input}
    (hturn : Admitted step NumbersInTurn { videoSsrc } inputs) :
    Throughout step ConsecutiveOnWire { videoSsrc } inputs := by
  have hstart : Ordered { videoSsrc } := ⟨List.isChain_nil, continues_nil _⟩
  intro front back heq
  exact (throughout_of_admitted hstart (fun _ _ => ordered_step) hturn front back heq).consecutive

section Loss

/-- The number of an audio packet sent before the handshake is lost, the next two are
not. -/
theorem consecutive_of_numbersInTurn_from_handshake :
    Throughout step ConsecutiveOnWire { videoSsrc := 1 }
      [.onAudioFrame, .worker true, .dtls true true, .onVideoFrame 100 1, .worker true,
        .requestNack { mediaSsrc := 1, packetIds := [100] }, .network true, .worker true,
        .worker true, .worker true, .onAudioFrame, .worker true] :=
  consecutive_of_numbersInTurn (by
    refine admitted_cons.mpr ⟨trivial, ?_⟩
    refine admitted_cons.mpr ⟨by decide, ?_⟩
    refine admitted_cons.mpr ⟨trivial, ?_⟩
    refine admitted_cons.mpr ⟨trivial, ?_⟩
    refine admitted_cons.mpr ⟨by decide, ?_⟩
    refine admitted_cons.mpr ⟨trivial, ?_⟩
    refine admitted_cons.mpr ⟨by decide, ?_⟩
    refine admitted_cons.mpr ⟨by decide, ?_⟩
    refine admitted_cons.mpr ⟨by decide, ?_⟩
    refine admitted_cons.mpr ⟨by decide, ?_⟩
    refine admitted_cons.mpr ⟨trivial, ?_⟩
    exact admitted_cons.mpr ⟨by decide, admitted_nil⟩)

/-- `EncryptRtp` fails for the second packet: number 3 follows number 1. -/
theorem not_consecutive_encrypt_failed :
    ¬ ∀ videoSsrc inputs, Throughout step ConsecutiveOnWire { videoSsrc } inputs := by
  intro h
  have hwire := h 1 [.dtls true true, .onAudioFrame, .worker true, .onAudioFrame, .worker false,
    .onAudioFrame, .worker true] _ [] (List.append_nil _).symm
  have hchain := (List.isChain_map (R := fun a b : UInt16 => b = a + 1)
    RtpPacketToSend.transportSequenceNumber).mpr hwire
  exact absurd hchain (by decide)

end Loss

end OutboundRtp

end GBServer
