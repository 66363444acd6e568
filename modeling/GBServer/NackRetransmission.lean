import GBServer.VideoPacketCache

namespace GBServer.NackRetransmission

open Foundation.Runs
open GBServer.VideoPacketCache

/-- An element of a header extension; the one-byte form has no empty ones. -/
structure ExtensionData where
  bytes : List UInt8
  nonempty : bytes ≠ []

/-- A packet to send; extensions are looked up by their `RTPExtensionType`. -/
structure RtpPacketToSend where
  marker : Bool := false
  payloadType : UInt8 := 0
  sequenceNumber : UInt16 := 0
  timestamp : UInt32 := 0
  ssrc : UInt32 := 0
  csrcs : List UInt32 := []
  extensions : Nat → Option ExtensionData := fun _ => none
  payload : List UInt8 := []

namespace RtpPacketToSend

def hasExtension (packet : RtpPacketToSend) (ext : Nat) : Bool :=
  (packet.extensions ext).isSome

def findExtension (packet : RtpPacketToSend) (ext : Nat) : List UInt8 :=
  match packet.extensions ext with
  | none => []
  | some data => data.bytes

end RtpPacketToSend

/-- The constants of the enumeration `RTPExtensionType` that the code names. -/
structure ExtensionTypes where
  kRtpExtensionNone : Nat
  kRtpExtensionNumberOfExtensions : Nat
  kRtpExtensionMid : Nat
  kRtpExtensionRtpStreamId : Nat
  kRtpExtensionTransportSequenceNumber : Nat

def ExtensionTypes.Skipped (types : ExtensionTypes) (ext : Nat) : Prop :=
  ext = types.kRtpExtensionMid ∨ ext = types.kRtpExtensionRtpStreamId ∨
    ext = types.kRtpExtensionTransportSequenceNumber

instance (types : ExtensionTypes) (ext : Nat) : Decidable (types.Skipped ext) :=
  inferInstanceAs (Decidable (_ ∨ _))

/-- What `RequestNack` reads of the negotiated session description. -/
structure Sdp where
  videoSsrc : UInt32
  videoRtxSsrc : UInt32
  videoPayloadRtxType : UInt8

structure NackResponder where
  sdp : Sdp
  videoRtxSeq : UInt32 := 100
  outboundTransportSeq : UInt16 := 1
  rtpVideoPackets : PacketCache RtpPacketToSend := ∅

def bigEndian16 (value : UInt16) : List UInt8 :=
  [(value >>> 8).toUInt8, value.toUInt8]

section Code

variable (types : ExtensionTypes)
  -- whether a packet has room for a payload or an extension of some size
  (allocatesPayload : Nat → Bool) (allocatesExtension : Nat → Nat → Bool)

/-- One turn of the loop over the extension types. -/
def copyExtension (src : RtpPacketToSend) (extensions : Nat → Option ExtensionData) (ext : Nat) :
    Nat → Option ExtensionData :=
  if types.Skipped ext then extensions
  else if !src.hasExtension ext then extensions
  else if hempty : src.findExtension ext = [] then extensions
  else if !allocatesExtension ext (src.findExtension ext).length then extensions
  else Function.update extensions ext (some ⟨src.findExtension ext, hempty⟩)

def setTransportSequenceNumber (extensions : Nat → Option ExtensionData)
    (transportSequence : UInt16) : Nat → Option ExtensionData :=
  if allocatesExtension types.kRtpExtensionTransportSequenceNumber 2 then
    Function.update extensions types.kRtpExtensionTransportSequenceNumber
      (some ⟨bigEndian16 transportSequence, List.cons_ne_nil _ _⟩)
  else extensions

/-- The types from the one after `kRtpExtensionNone` up to `kRtpExtensionNumberOfExtensions`. -/
def ExtensionTypes.all : List Nat :=
  List.range' (types.kRtpExtensionNone + 1)
    (types.kRtpExtensionNumberOfExtensions - (types.kRtpExtensionNone + 1))

def copyHeaderAndExtensionsToRtxPacket (src dst : RtpPacketToSend)
    (transportSequence : UInt16) : RtpPacketToSend :=
  { dst with
    marker := src.marker
    timestamp := src.timestamp
    csrcs := src.csrcs
    extensions := setTransportSequenceNumber types allocatesExtension
      (types.all.foldl (copyExtension types allocatesExtension src) dst.extensions)
      transportSequence }

/-- One turn of the loop over the requested ids: what is left of the state, and the packet
for `SendSrtpRtp`, if there is one. -/
def answer (s : NackResponder) (packetId : UInt16) : NackResponder × List RtpPacketToSend :=
  match s.rtpVideoPackets[packetId.toUInt32]? with
  | none => (s, [])
  | some original =>
      let rtxPacket := copyHeaderAndExtensionsToRtxPacket types allocatesExtension original
        { payloadType := s.sdp.videoPayloadRtxType, ssrc := s.sdp.videoRtxSsrc }
        s.outboundTransportSeq
      let rtxPacket := { rtxPacket with sequenceNumber := s.videoRtxSeq.toUInt16 }
      let s := { s with
        videoRtxSeq := s.videoRtxSeq + 1
        outboundTransportSeq := s.outboundTransportSeq + 1 }
      if allocatesPayload (2 + original.payload.length) then
        (s, [{ rtxPacket with
          payload := bigEndian16 original.sequenceNumber ++ original.payload }])
      else (s, [])

def answerAll (s : NackResponder) : List UInt16 → NackResponder × List RtpPacketToSend
  | [] => (s, [])
  | packetId :: rest =>
      let (next, sent) := answer types allocatesPayload allocatesExtension s packetId
      let (last, sentLater) := answerAll next rest
      (last, sent ++ sentLater)

def requestNack (s : NackResponder) (nack : Nack) : NackResponder × List RtpPacketToSend :=
  if nack.mediaSsrc ≠ s.sdp.videoSsrc then (s, [])
  else answerAll types allocatesPayload allocatesExtension s nack.packetIds

/-- What happens to an interface between and in the answers to NACKs: the frames of the
stream take transport numbers, and video packets enter the cache. -/
inductive Input where
  | requestNack (nack : Nack)
  | addVideoPacket (packet : RtpPacketToSend)
  | nextOutboundTransportSequenceNumber

def step (s : NackResponder) : Input → NackResponder
  | .requestNack nack => (requestNack types allocatesPayload allocatesExtension s nack).1
  | .addVideoPacket packet =>
      { s with
        rtpVideoPackets :=
          addVideoPacket RtpPacketToSend.sequenceNumber s.rtpVideoPackets packet }
  | .nextOutboundTransportSequenceNumber =>
      { s with outboundTransportSeq := s.outboundTransportSeq + 1 }

def noteSent (s : NackResponder) (sent : List RtpPacketToSend) : Input → List RtpPacketToSend
  | .requestNack nack => sent ++ (requestNack types allocatesPayload allocatesExtension s nack).2
  | _ => sent

/-- The packets of the RTX stream in a run, in the order they are handed over. -/
def rtxStream (s : NackResponder) (inputs : List Input) : List RtpPacketToSend :=
  (run (observe (step types allocatesPayload allocatesExtension)
    (noteSent types allocatesPayload allocatesExtension)) (s, []) inputs).2

end Code

structure Retransmits (types : ExtensionTypes) (sdp : Sdp) (original rtx : RtpPacketToSend) :
    Prop where
  payloadType : rtx.payloadType = sdp.videoPayloadRtxType
  ssrc : rtx.ssrc = sdp.videoRtxSsrc
  marker : rtx.marker = original.marker
  timestamp : rtx.timestamp = original.timestamp
  csrcs : rtx.csrcs = original.csrcs
  payload : rtx.payload = bigEndian16 original.sequenceNumber ++ original.payload
  copied : ∀ ext, types.kRtpExtensionNone < ext → ext < types.kRtpExtensionNumberOfExtensions →
    ¬ types.Skipped ext → rtx.extensions ext = original.extensions ext
  dropped : ∀ ext, types.Skipped ext → ext ≠ types.kRtpExtensionTransportSequenceNumber →
    rtx.extensions ext = none

section Extensions

variable {types : ExtensionTypes} {allocatesExtension : Nat → Nat → Bool}
  {src : RtpPacketToSend} {extensions : Nat → Option ExtensionData} {ext other : Nat}

theorem ExtensionTypes.mem_all :
    ext ∈ types.all ↔
      types.kRtpExtensionNone < ext ∧ ext < types.kRtpExtensionNumberOfExtensions := by
  rw [ExtensionTypes.all, List.mem_range'_1]
  omega

theorem ExtensionTypes.nodup_all (types : ExtensionTypes) : types.all.Nodup :=
  List.nodup_range'

theorem copyExtension_self (hallocates : ∀ ext size, allocatesExtension ext size = true)
    (hskipped : ¬ types.Skipped ext) :
    copyExtension types allocatesExtension src extensions ext ext =
      (src.extensions ext).or (extensions ext) := by
  cases hext : src.extensions ext with
  | none => simp [copyExtension, RtpPacketToSend.hasExtension, hext]
  | some data =>
      have hfind : src.findExtension ext = data.bytes := by
        rw [RtpPacketToSend.findExtension, hext]
      simp [copyExtension, RtpPacketToSend.hasExtension, hext, hskipped, hallocates, hfind,
        data.nonempty]

theorem copyExtension_of_ne (hne : other ≠ ext) :
    copyExtension types allocatesExtension src extensions ext other = extensions other := by
  rw [copyExtension]
  split_ifs
  · rfl
  · rfl
  · rfl
  · rfl
  · exact Function.update_of_ne hne _ _

theorem copyExtension_of_skipped (hskipped : types.Skipped ext) :
    copyExtension types allocatesExtension src extensions ext = extensions := by
  rw [copyExtension, if_pos hskipped]

theorem foldl_copyExtension_of_skipped (hskipped : types.Skipped other) (exts : List Nat) :
    exts.foldl (copyExtension types allocatesExtension src) extensions other =
      extensions other := by
  induction exts generalizing extensions with
  | nil => rfl
  | cons ext rest ih =>
      rw [List.foldl_cons, ih]
      rcases eq_or_ne other ext with rfl | hne
      · rw [copyExtension_of_skipped hskipped]
      · exact copyExtension_of_ne hne

theorem foldl_copyExtension_of_notMem (exts : List Nat) (hmem : other ∉ exts) :
    exts.foldl (copyExtension types allocatesExtension src) extensions other =
      extensions other := by
  induction exts generalizing extensions with
  | nil => rfl
  | cons ext rest ih =>
      rw [List.mem_cons, not_or] at hmem
      rw [List.foldl_cons, ih hmem.2, copyExtension_of_ne hmem.1]

/-- The loop copies every extension of the original that it is not to skip. -/
theorem foldl_copyExtension (hallocates : ∀ ext size, allocatesExtension ext size = true)
    (hskipped : ¬ types.Skipped other) (exts : List Nat) (hnodup : exts.Nodup)
    (hmem : other ∈ exts) :
    exts.foldl (copyExtension types allocatesExtension src) extensions other =
      (src.extensions other).or (extensions other) := by
  induction exts generalizing extensions with
  | nil => exact absurd hmem List.not_mem_nil
  | cons ext rest ih =>
      obtain ⟨hfirst, hrest⟩ := List.nodup_cons.mp hnodup
      rw [List.foldl_cons]
      rcases eq_or_ne other ext with rfl | hne
      · rw [foldl_copyExtension_of_notMem rest hfirst, copyExtension_self hallocates hskipped]
      · rw [ih hrest (List.mem_of_ne_of_mem hne hmem), copyExtension_of_ne hne]

end Extensions

section Answers

variable {types : ExtensionTypes} {allocatesPayload : Nat → Bool}
  {allocatesExtension : Nat → Nat → Bool} {s : NackResponder}

theorem answer_fst (s : NackResponder) (packetId : UInt16) :
    (answer types allocatesPayload allocatesExtension s packetId).1.sdp = s.sdp ∧
      (answer types allocatesPayload allocatesExtension s packetId).1.rtpVideoPackets =
        s.rtpVideoPackets := by
  rw [answer]
  split
  · exact ⟨rfl, rfl⟩
  · dsimp only
    split
    · exact ⟨rfl, rfl⟩
    · exact ⟨rfl, rfl⟩

theorem answerAll_cons (s : NackResponder) (packetId : UInt16) (rest : List UInt16) :
    (answerAll types allocatesPayload allocatesExtension s (packetId :: rest)).2 =
      (answer types allocatesPayload allocatesExtension s packetId).2 ++
        (answerAll types allocatesPayload allocatesExtension
          (answer types allocatesPayload allocatesExtension s packetId).1 rest).2 := rfl

theorem answerAll_fst (s : NackResponder) (packetIds : List UInt16) :
    (answerAll types allocatesPayload allocatesExtension s packetIds).1.sdp = s.sdp ∧
      (answerAll types allocatesPayload allocatesExtension s packetIds).1.rtpVideoPackets =
        s.rtpVideoPackets := by
  induction packetIds generalizing s with
  | nil => exact ⟨rfl, rfl⟩
  | cons packetId rest ih =>
      obtain ⟨hsdp, hcache⟩ :=
        @answer_fst types allocatesPayload allocatesExtension s packetId
      obtain ⟨hsdpLater, hcacheLater⟩ := ih
        (answer types allocatesPayload allocatesExtension s packetId).1
      exact ⟨hsdpLater.trans hsdp, hcacheLater.trans hcache⟩

variable (hpayload : ∀ size, allocatesPayload size = true)
  (hextension : ∀ ext size, allocatesExtension ext size = true)

include hextension

theorem retransmits_copy (sdp : Sdp) (original : RtpPacketToSend)
    (transportSequence rtxSeq : UInt16) :
    Retransmits types sdp original
      { copyHeaderAndExtensionsToRtxPacket types allocatesExtension original
          { payloadType := sdp.videoPayloadRtxType, ssrc := sdp.videoRtxSsrc }
          transportSequence with
        sequenceNumber := rtxSeq
        payload := bigEndian16 original.sequenceNumber ++ original.payload } where
  payloadType := rfl
  ssrc := rfl
  marker := rfl
  timestamp := rfl
  csrcs := rfl
  payload := rfl
  copied := by
    intro ext hlow hhigh hskipped
    have hne : ext ≠ types.kRtpExtensionTransportSequenceNumber :=
      fun heq => hskipped (Or.inr (Or.inr heq))
    change setTransportSequenceNumber _ _ _ _ ext = _
    rw [setTransportSequenceNumber, if_pos (hextension _ _), Function.update_of_ne hne,
      foldl_copyExtension hextension hskipped _ types.nodup_all
        (ExtensionTypes.mem_all.mpr ⟨hlow, hhigh⟩), Option.or_none]
  dropped := by
    intro ext hskipped hne
    change setTransportSequenceNumber _ _ _ _ ext = _
    rw [setTransportSequenceNumber, if_pos (hextension _ _), Function.update_of_ne hne,
      foldl_copyExtension_of_skipped hskipped]

include hpayload

variable (types) in
theorem answer_of_cached {packetId : UInt16} {original : RtpPacketToSend}
    (hcached : s.rtpVideoPackets[packetId.toUInt32]? = some original) :
    ∃ rtx, (answer types allocatesPayload allocatesExtension s packetId).2 = [rtx] ∧
      Retransmits types s.sdp original rtx ∧ rtx.sequenceNumber = s.videoRtxSeq.toUInt16 ∧
        (answer types allocatesPayload allocatesExtension s packetId).1.videoRtxSeq =
          s.videoRtxSeq + 1 := by
  rw [answer, hcached]
  dsimp only
  rw [if_pos (hpayload _)]
  exact ⟨_, rfl, retransmits_copy hextension s.sdp original _ _, rfl, rfl⟩

theorem answerAll_retransmits (s : NackResponder) (packetIds : List UInt16) :
    List.Forall₂ (Retransmits types s.sdp)
      (packetIds.filterMap fun packetId => s.rtpVideoPackets[packetId.toUInt32]?)
      (answerAll types allocatesPayload allocatesExtension s packetIds).2 := by
  induction packetIds generalizing s with
  | nil => exact List.Forall₂.nil
  | cons packetId rest ih =>
      have hlater := ih (answer types allocatesPayload allocatesExtension s packetId).1
      rw [(answer_fst s packetId).1, (answer_fst s packetId).2] at hlater
      rw [answerAll_cons, List.filterMap_cons]
      cases hcached : s.rtpVideoPackets[packetId.toUInt32]? with
      | none =>
          have hnothing : (answer types allocatesPayload allocatesExtension s packetId).2 = [] := by
            rw [answer, hcached]
          rw [hnothing]
          exact hlater
      | some original =>
          obtain ⟨rtx, hsent, hfaithful, _⟩ :=
            answer_of_cached types hpayload hextension hcached
          rw [hsent]
          exact List.Forall₂.cons hfaithful hlater

end Answers

/-- The packets carry the numbers that follow `first`, and `next` is the one after. -/
structure Numbered (first : UInt32) (packets : List RtpPacketToSend) (next : UInt32) : Prop where
  numbers : ∀ i p, packets[i]? = some p →
    p.sequenceNumber = (first + UInt32.ofNat i).toUInt16
  next : next = first + UInt32.ofNat packets.length

theorem Numbered.nil (first : UInt32) : Numbered first [] first :=
  ⟨by simp, by simp⟩

theorem Numbered.singleton {first : UInt32} {packet : RtpPacketToSend}
    (h : packet.sequenceNumber = first.toUInt16) : Numbered first [packet] (first + 1) := by
  refine ⟨?_, rfl⟩
  intro i p hp
  rcases i with _ | i
  · obtain rfl := Option.some.inj hp
    simpa using h
  · simp at hp

theorem Numbered.append {first middle last : UInt32} {packets later : List RtpPacketToSend}
    (h : Numbered first packets middle) (hlater : Numbered middle later last) :
    Numbered first (packets ++ later) last := by
  constructor
  · intro i p hp
    rw [List.getElem?_append] at hp
    split at hp
    · exact h.numbers i p hp
    · rename_i hge
      have hindex : UInt32.ofNat i =
          UInt32.ofNat packets.length + UInt32.ofNat (i - packets.length) := by
        rw [← UInt32.ofNat_add]
        congr 1
        omega
      rw [hlater.numbers _ p hp, h.next, hindex, UInt32.add_assoc]
  · rw [hlater.next, h.next, List.length_append, UInt32.ofNat_add, UInt32.add_assoc]

theorem Numbered.consecutive {first next : UInt32} {packets : List RtpPacketToSend}
    (h : Numbered first packets next) :
    Consecutive RtpPacketToSend.sequenceNumber packets := by
  rw [Consecutive, List.isChain_iff_getElem]
  intro i hi
  rw [h.numbers i _ (List.getElem?_eq_getElem _), h.numbers (i + 1) _ (List.getElem?_eq_getElem hi),
    UInt32.ofNat_add, ← UInt32.add_assoc, UInt32.toUInt16_add]
  rfl

section Numbers

variable {types : ExtensionTypes} {allocatesPayload : Nat → Bool}
  {allocatesExtension : Nat → Nat → Bool}
  (hpayload : ∀ size, allocatesPayload size = true)
  (hextension : ∀ ext size, allocatesExtension ext size = true)

include hpayload hextension

theorem numbered_answerAll (s : NackResponder) (packetIds : List UInt16) :
    Numbered s.videoRtxSeq (answerAll types allocatesPayload allocatesExtension s packetIds).2
      (answerAll types allocatesPayload allocatesExtension s packetIds).1.videoRtxSeq := by
  induction packetIds generalizing s with
  | nil => exact Numbered.nil _
  | cons packetId rest ih =>
      have hfirst : Numbered s.videoRtxSeq
          (answer types allocatesPayload allocatesExtension s packetId).2
          (answer types allocatesPayload allocatesExtension s packetId).1.videoRtxSeq := by
        cases hcached : s.rtpVideoPackets[packetId.toUInt32]? with
        | none =>
            rw [answer, hcached]
            exact Numbered.nil _
        | some original =>
            obtain ⟨rtx, hsent, _, hnumber, hnext⟩ :=
              answer_of_cached types hpayload hextension hcached
            rw [hsent, hnext]
            exact Numbered.singleton hnumber
      exact hfirst.append (ih _)

variable (types) in
theorem numbered_requestNack (s : NackResponder) (nack : Nack) :
    Numbered s.videoRtxSeq (requestNack types allocatesPayload allocatesExtension s nack).2
      (requestNack types allocatesPayload allocatesExtension s nack).1.videoRtxSeq := by
  rw [requestNack]
  split
  · exact Numbered.nil _
  · exact numbered_answerAll hpayload hextension s nack.packetIds

theorem numbered_rtxStream (s : NackResponder) (inputs : List Input) :
    Numbered s.videoRtxSeq (rtxStream types allocatesPayload allocatesExtension s inputs)
      (run (step types allocatesPayload allocatesExtension) s inputs).videoRtxSeq := by
  induction inputs using List.reverseRecOn with
  | nil => exact Numbered.nil _
  | append_singleton inputs input ih =>
      rw [rtxStream, run_concat, run_concat]
      rw [rtxStream] at ih
      cases input with
      | requestNack nack =>
          have hanswer := numbered_requestNack types hpayload hextension
            (run (step types allocatesPayload allocatesExtension) s inputs) nack
          have happended := ih.append hanswer
          simpa only [observe, noteSent, run_observe_fst, step] using happended
      | addVideoPacket packet => exact ih
      | nextOutboundTransportSequenceNumber => exact ih

/-- A NACK is answered by one faithful retransmission for each requested packet that is
cached, in the order of the request; the cache stays as it is, a NACK for another stream
changes nothing, and the RTX stream is numbered through over all calls. -/
theorem requestNack_retransmits (s : NackResponder) (nack : Nack) (inputs : List Input) :
    List.Forall₂ (Retransmits types s.sdp)
        (requestNackOriginals s.sdp.videoSsrc s.rtpVideoPackets nack)
        (requestNack types allocatesPayload allocatesExtension s nack).2 ∧
      (requestNack types allocatesPayload allocatesExtension s nack).1.rtpVideoPackets =
        s.rtpVideoPackets ∧
      (nack.mediaSsrc ≠ s.sdp.videoSsrc →
        requestNack types allocatesPayload allocatesExtension s nack = (s, [])) ∧
      Consecutive RtpPacketToSend.sequenceNumber
        (rtxStream types allocatesPayload allocatesExtension s inputs) := by
  refine ⟨?_, ?_, ?_, (numbered_rtxStream hpayload hextension s inputs).consecutive⟩
  · rw [requestNackOriginals, requestNack]
    split
    · exact List.Forall₂.nil
    · exact answerAll_retransmits hpayload hextension s nack.packetIds
  · rw [requestNack]
    split
    · rfl
    · exact (answerAll_fst s nack.packetIds).2
  · intro hother
    rw [requestNack, if_pos hother]

end Numbers

/-- One packet is cached and requested twice, with an unknown one in between. -/
theorem requestNack_retransmits_twice :
    List.Forall₂ (Retransmits ⟨0, 20, 13, 14, 8⟩ ⟨7, 8, 97⟩)
      [{ sequenceNumber := 2000, payload := [1, 2] }, { sequenceNumber := 2000, payload := [1, 2] }]
      (requestNack ⟨0, 20, 13, 14, 8⟩ (fun _ => true) (fun _ _ => true)
        { sdp := ⟨7, 8, 97⟩
          rtpVideoPackets := addVideoPacket RtpPacketToSend.sequenceNumber ∅
            { sequenceNumber := 2000, payload := [1, 2] } }
        ⟨7, [2000, 7, 2000]⟩).2 := by
  have hfound : requestNackOriginals 7 (addVideoPacket RtpPacketToSend.sequenceNumber ∅
      { sequenceNumber := 2000, payload := [1, 2] }) ⟨7, [2000, 7, 2000]⟩ =
      [{ sequenceNumber := 2000, payload := [1, 2] },
        { sequenceNumber := 2000, payload := [1, 2] }] := by
    rfl
  have h := (@requestNack_retransmits ⟨0, 20, 13, 14, 8⟩ _ _ (fun _ => rfl) (fun _ _ => rfl)
    { sdp := ⟨7, 8, 97⟩
      rtpVideoPackets := addVideoPacket RtpPacketToSend.sequenceNumber ∅
        { sequenceNumber := 2000, payload := [1, 2] } }
    ⟨7, [2000, 7, 2000]⟩ []).1
  rw [hfound] at h
  exact h

end GBServer.NackRetransmission
