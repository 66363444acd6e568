import GBServer.Foundation.LengthPrefix
import GBServer.Foundation.Memory
import GBServer.Foundation.StreamParser

namespace GBServer.RtspInterleaved

open Foundation.LengthPrefix
open Foundation.Memory
open Foundation.Runs
open Foundation.StreamParser

def kRecvBufferSize : Nat := 1024 * 1024 * 8

/-- The RTP library, on the bytes of a packet.  A packet that can be parsed has an SSRC. -/
structure RtpLibrary where
  isRtpPacket : List UInt8 → Bool
  isRtcpPacket : List UInt8 → Bool
  parse : List UInt8 → Option UInt32

structure Packet where
  channel : UInt8
  data : List UInt8
  deriving DecidableEq, Repr

/-- The frame of a packet: `$`, the channel, the length and the packet. -/
def interleaved (packet : Packet) : List UInt8 :=
  0x24 :: packet.channel :: encode packet.data

/-- `RtspConsumer::SendRtpPacketInterleaved`, up to the frame that it would send. -/
def sendRtpPacketInterleaved (connected : Bool) (packet : Packet) : Option (List UInt8) :=
  if connected then some (interleaved packet) else none

/-- A call of `ProcessRtpPacket` or `ProcessRtcpPacket`. -/
inductive Handed where
  | rtp (data : List UInt8)
  | rtcp (data : List UInt8)
  deriving DecidableEq, Repr

structure RtspProducer where
  received : List UInt8 := []
  videoSsrc : UInt32 := 0
  deriving DecidableEq, Repr

inductive Turn where
  | leave
  | skip
  | frame (channel : UInt8) (length : Nat)
  deriving DecidableEq, Repr

def turn (buffer : List UInt8) (parseSize : Nat) : Turn :=
  match buffer.drop parseSize with
  | magic :: channel :: high :: low :: rest =>
      if magic ≠ 0x24 then .skip
      else if rest.length < prefixLength high low then .leave
      else .frame channel (prefixLength high low)
  -- less than a header
  | _ => .leave

variable (lib : RtpLibrary)

def handle (packet : Packet) : List Handed :=
  if packet.channel = 0 ∨ packet.channel = 1 then
    if lib.isRtpPacket packet.data then
      if (lib.parse packet.data).isSome then [.rtp packet.data] else []
    else if lib.isRtcpPacket packet.data then [.rtcp packet.data]
    else []
  else []

/-- `video_ssrc_` is that of the first RTP packet. -/
def noteSsrc (packet : Packet) (videoSsrc : UInt32) : UInt32 :=
  if (packet.channel = 0 ∨ packet.channel = 1) ∧ lib.isRtpPacket packet.data ∧ videoSsrc = 0 then
    (lib.parse packet.data).getD videoSsrc
  else videoSsrc

/-- The loop over the frames in the buffer, for at most so many turns. -/
def parseFrames (buffer : List UInt8) : Nat → Nat → UInt32 → Nat × UInt32 × List Handed
  | 0, parseSize, videoSsrc => (parseSize, videoSsrc, [])
  | turns + 1, parseSize, videoSsrc =>
      match turn buffer parseSize with
      | .leave => (parseSize, videoSsrc, [])
      | .skip => (buffer.length, videoSsrc, [])
      | .frame channel length =>
          let packet : Packet := ⟨channel, (buffer.drop (parseSize + 4)).take length⟩
          let (parseSize, videoSsrc, later) :=
            parseFrames buffer turns (parseSize + 4 + length) (noteSsrc lib packet videoSsrc)
          (parseSize, videoSsrc, handle lib packet ++ later)

/-- `RtspProducer::OnRecv`.  Every turn that goes on takes a header, so that the length of
the buffer bounds the turns. -/
def onRecv (s : RtspProducer) (chunk : List UInt8) : Except Fault (RtspProducer × List Handed) :=
  let kept := if kRecvBufferSize < s.received.length + chunk.length then [] else s.received
  if kRecvBufferSize < kept.length + chunk.length then .error .outOfBounds
  else
    let buffer := kept ++ chunk
    let (parseSize, videoSsrc, handed) := parseFrames lib buffer (buffer.length + 1) 0 s.videoSsrc
    .ok ({ received := if parseSize < buffer.length then buffer.drop parseSize else []
           videoSsrc := videoSsrc }, handed)

/-- `OnRecv`, with all that it has handed on. -/
def receive (p : RtspProducer × List Handed) (chunk : List UInt8) :
    Except Fault (RtspProducer × List Handed) :=
  (onRecv lib p.1 chunk).map fun r => (r.1, p.2 ++ r.2)

/-- The first frame of a stream, when it has arrived whole. -/
def nextFrame : List UInt8 → Option (Packet × List UInt8)
  | magic :: channel :: high :: low :: rest =>
      if magic = 0x24 ∧ prefixLength high low ≤ rest.length then
        some (⟨channel, rest.take (prefixLength high low)⟩, rest.drop (prefixLength high low))
      else none
  | _ => none

theorem exists_of_nextFrame {bytes rest : List UInt8} {packet : Packet}
    (h : nextFrame bytes = some (packet, rest)) :
    ∃ high low, bytes = 0x24 :: packet.channel :: high :: low :: (packet.data ++ rest) ∧
      packet.data.length = prefixLength high low := by
  match bytes with
  | magic :: channel :: high :: low :: body =>
      rw [nextFrame] at h
      split at h
      · rename_i hwhole
        obtain ⟨rfl, rfl⟩ := Prod.mk.inj (Option.some.inj h)
        refine ⟨high, low, ?_, List.length_take_of_le hwhole.2⟩
        rw [hwhole.1, List.take_append_drop]
      · cases h
  | [] | [_] | [_, _] | [_, _, _] => cases h

theorem nextFrame_frame (channel : UInt8) {high low : UInt8} {data : List UInt8}
    (hlength : data.length = prefixLength high low) (rest : List UInt8) :
    nextFrame (0x24 :: channel :: high :: low :: (data ++ rest)) =
      some (⟨channel, data⟩, rest) := by
  have hle : data.length ≤ (data ++ rest).length := by
    rw [List.length_append]
    exact Nat.le_add_right _ _
  rw [nextFrame, ← hlength, if_pos ⟨rfl, hle⟩, List.take_left, List.drop_left]

def Encodable (packet : Packet) : Prop := packet.data.length < 0x10000

theorem codec_interleaved : Codec nextFrame interleaved Encodable where
  nil := rfl
  shorter := by
    intro bytes rest packet h
    obtain ⟨high, low, rfl, _⟩ := exists_of_nextFrame h
    simp only [List.length_cons, List.length_append]
    omega
  stable := by
    intro bytes rest packet h more
    obtain ⟨high, low, rfl, hlength⟩ := exists_of_nextFrame h
    have hframe := nextFrame_frame packet.channel hlength (rest ++ more)
    simpa only [List.cons_append, List.append_assoc] using hframe
  read := by
    intro packet hpacket more
    exact nextFrame_frame packet.channel (prefixLength_ofNat hpacket).symm more

section Loop

def Leaves (rest : List UInt8) : Prop :=
  nextFrame rest = none ∧ ∀ magic channel high low body,
    rest = magic :: channel :: high :: low :: body → magic = 0x24

theorem turn_of_leaves {front rest : List UInt8} (h : Leaves rest) :
    turn (front ++ rest) front.length = .leave := by
  obtain ⟨hnext, hmagic⟩ := h
  rw [turn, List.drop_left]
  split
  · rename_i magic channel high low body
    obtain rfl := hmagic _ _ _ _ _ rfl
    rw [nextFrame] at hnext
    split at hnext
    · cases hnext
    · rename_i hshort
      rw [if_neg (by simp), if_pos (by simpa using hshort)]
  · rfl

theorem turn_frame {front data rest : List UInt8} {channel high low : UInt8}
    (hlength : data.length = prefixLength high low) :
    turn (front ++ 0x24 :: channel :: high :: low :: (data ++ rest)) front.length =
      .frame channel data.length := by
  simp only [turn, List.drop_left]
  rw [if_neg (by simp), if_neg, hlength]
  rw [← hlength, List.length_append]
  omega

/-- The loop takes the frames that have arrived whole and goes on in front of the rest. -/
theorem parseFrames_reads {bytes rest : List UInt8} {packets : List Packet}
    (h : Reads nextFrame bytes packets rest) (front : List UInt8) {turns : Nat}
    (hturns : packets.length < turns) (videoSsrc : UInt32) :
    ∃ front' left videoSsrc', front ++ bytes = front' ++ rest ∧
      parseFrames lib (front ++ bytes) turns front.length videoSsrc =
        ((parseFrames lib (front' ++ rest) (left + 1) front'.length videoSsrc').1,
          (parseFrames lib (front' ++ rest) (left + 1) front'.length videoSsrc').2.1,
          packets.flatMap (handle lib) ++
            (parseFrames lib (front' ++ rest) (left + 1) front'.length videoSsrc').2.2) := by
  induction h generalizing front turns videoSsrc with
  | stop hnext =>
      obtain ⟨turns, rfl⟩ := Nat.exists_eq_add_one_of_ne_zero (Nat.ne_zero_of_lt hturns)
      exact ⟨front, turns, videoSsrc, rfl, rfl⟩
  | @unit bytes rest left packet packets hnext _ ih =>
      obtain ⟨turns, rfl⟩ := Nat.exists_eq_add_one_of_ne_zero (Nat.ne_zero_of_lt hturns)
      obtain ⟨high, low, rfl, hlength⟩ := exists_of_nextFrame hnext
      have hbuffer : front ++ 0x24 :: packet.channel :: high :: low :: (packet.data ++ rest) =
          (front ++ 0x24 :: packet.channel :: high :: low :: packet.data) ++ rest := by simp
      have hposition : front.length + 4 + packet.data.length =
          (front ++ 0x24 :: packet.channel :: high :: low :: packet.data).length := by
        simp only [List.length_append, List.length_cons]
        omega
      have hdata : ((front ++ 0x24 :: packet.channel :: high :: low :: (packet.data ++ rest)).drop
          (front.length + 4)).take packet.data.length = packet.data := by
        rw [← List.drop_drop, List.drop_left]
        exact List.take_left
      obtain ⟨front', left, videoSsrc', hfront, hlater⟩ := ih
        (front ++ 0x24 :: packet.channel :: high :: low :: packet.data)
        (Nat.lt_of_succ_lt_succ hturns) (noteSsrc lib packet videoSsrc)
      rw [← hbuffer] at hfront hlater
      rw [← hposition] at hlater
      refine ⟨front', left, videoSsrc', hfront, ?_⟩
      rw [parseFrames]
      simp only [turn_frame hlength, hdata, hlater, List.flatMap_cons, List.append_assoc]

/-- Between chunks the buffer holds a part of a frame, which the loop leaves alone. -/
theorem leaves_of_awaits {later : List Packet} {rest more : List UInt8}
    (h : Awaits interleaved later rest more) (hnext : nextFrame rest = none) : Leaves rest := by
  refine ⟨hnext, ?_⟩
  rintro magic channel high low body rfl
  cases later with
  | nil =>
      have hstream := h.stream
      simp at hstream
  | cons packet later =>
      obtain ⟨back, hback⟩ := (h.begun packet rfl).1
      exact (List.cons.inj hback).1

/-- The chunk fits into the buffer behind what is kept there. -/
def Fits (s : RtspProducer) (chunk : List UInt8) : Prop :=
  s.received.length + chunk.length ≤ kRecvBufferSize

/-- A chunk is read up to where the loop stops: what is kept is up to the part of a frame there. -/
theorem receive_of_stop {s : RtspProducer} (given : List Handed) {chunk rest kept : List UInt8}
    {packets : List Packet} (hfits : Fits s chunk)
    (hreads : Reads nextFrame (s.received ++ chunk) packets rest)
    (hstop : ∀ front turns videoSsrc, ∃ position,
      parseFrames lib (front ++ rest) (turns + 1) front.length videoSsrc =
          (position, videoSsrc, []) ∧
        (if position < (front ++ rest).length then (front ++ rest).drop position else []) =
          kept) :
    ∃ s', receive lib (s, given) chunk = .ok (s', given ++ packets.flatMap (handle lib)) ∧
      s'.received = kept := by
  have hturns : packets.length < (s.received ++ chunk).length + 1 :=
    Nat.lt_succ_of_le (codec_interleaved.length_units_le hreads)
  obtain ⟨front, turns, videoSsrc, hfront, hloop⟩ :=
    parseFrames_reads lib hreads [] hturns s.videoSsrc
  obtain ⟨position, hstopped, hkept⟩ := hstop front turns videoSsrc
  rw [List.nil_append, List.length_nil, hstopped, List.append_nil] at hloop
  rw [List.nil_append] at hfront
  rw [← hfront] at hkept
  rw [Fits] at hfits
  refine ⟨⟨kept, videoSsrc⟩, ?_, rfl⟩
  rw [receive, onRecv, if_neg (Nat.not_lt.mpr hfits), if_neg (Nat.not_lt.mpr hfits)]
  simp only [hloop, hkept]
  rfl

theorem receive_of_leaves {s : RtspProducer} (given : List Handed) {chunk rest : List UInt8}
    {packets : List Packet} (hfits : Fits s chunk)
    (hreads : Reads nextFrame (s.received ++ chunk) packets rest) (hleaves : Leaves rest) :
    ∃ s', receive lib (s, given) chunk = .ok (s', given ++ packets.flatMap (handle lib)) ∧
      s'.received = rest := by
  refine receive_of_stop lib given hfits hreads ?_
  intro front turns videoSsrc
  refine ⟨front.length, ?_, ?_⟩
  · rw [parseFrames, turn_of_leaves hleaves]
  · rw [List.drop_left, List.length_append]
    split
    · rfl
    · exact (List.eq_nil_of_length_eq_zero (by omega)).symm

theorem receive_of_reads {s : RtspProducer} {given : List Handed} {chunk rest more : List UInt8}
    {packets later : List Packet} (hfits : Fits s chunk)
    (hreads : Reads nextFrame (s.received ++ chunk) packets rest)
    (hawaits : Awaits interleaved later rest more) :
    ∃ s', receive lib (s, given) chunk = .ok (s', given ++ packets.flatMap (handle lib)) ∧
      s'.received = rest :=
  receive_of_leaves lib given hfits hreads (leaves_of_awaits hawaits hreads.next_left)

theorem receive_of_skips {s : RtspProducer} (given : List Handed) {chunk body : List UInt8}
    {packets : List Packet} {magic channel high low : UInt8} (hfits : Fits s chunk)
    (hreads : Reads nextFrame (s.received ++ chunk) packets
      (magic :: channel :: high :: low :: body)) (hmagic : magic ≠ 0x24) :
    ∃ s', receive lib (s, given) chunk = .ok (s', given ++ packets.flatMap (handle lib)) ∧
      s'.received = [] := by
  refine receive_of_stop lib given hfits hreads ?_
  intro front turns videoSsrc
  have hskip : turn (front ++ magic :: channel :: high :: low :: body) front.length = .skip := by
    simp only [turn, List.drop_left]
    rw [if_pos hmagic]
  refine ⟨(front ++ magic :: channel :: high :: low :: body).length, ?_, ?_⟩
  · rw [parseFrames, hskip]
  · rw [if_neg (Nat.lt_irrefl _)]

end Loop

/-- The library takes the packet for an RTP packet that can be parsed, or for an RTCP packet. -/
def Accepted (packet : Packet) : Prop :=
  if lib.isRtpPacket packet.data then (lib.parse packet.data).isSome = true
  else lib.isRtcpPacket packet.data = true

instance (packet : Packet) : Decidable (Accepted lib packet) :=
  inferInstanceAs (Decidable (if lib.isRtpPacket packet.data then
    (lib.parse packet.data).isSome = true else lib.isRtcpPacket packet.data = true))

def handedOn (packet : Packet) : Handed :=
  if lib.isRtpPacket packet.data then .rtp packet.data else .rtcp packet.data

theorem handle_of_accepted {packet : Packet} (hchannel : packet.channel = 0 ∨ packet.channel = 1)
    (haccepted : Accepted lib packet) : handle lib packet = [handedOn lib packet] := by
  rw [Accepted] at haccepted
  rw [handle, if_pos hchannel, handedOn]
  split at haccepted
  · rename_i hrtp
    rw [if_pos hrtp, if_pos haccepted, if_pos hrtp]
  · rename_i hrtcp
    rw [if_neg hrtcp, if_pos haccepted, if_neg hrtcp]

section RoundTrip

variable {packets : List Packet} {frames chunks : List (List UInt8)}
  (hchannel : ∀ packet ∈ packets, packet.channel = 0 ∨ packet.channel = 1)
  (hlength : ∀ packet ∈ packets, packet.data.length ≤ 65535)
  (haccepted : ∀ packet ∈ packets, Accepted lib packet)
  (hframes : packets.map (sendRtpPacketInterleaved true) = frames.map some)
  (hchunks : chunks.flatten = frames.flatten)
  (hfits : Admitted (guarded (receive lib)) (fun p chunk => OnOk (fun p => Fits p.1 chunk) p)
    (.ok ({}, [])) chunks)

include hchannel haccepted in
theorem flatMap_handle : packets.flatMap (handle lib) = packets.map (handedOn lib) := by
  induction packets with
  | nil => rfl
  | cons packet packets ih =>
      obtain ⟨hpacket, hpackets⟩ := List.forall_mem_cons.mp hchannel
      obtain ⟨hpacket', hpackets'⟩ := List.forall_mem_cons.mp haccepted
      rw [List.flatMap_cons, handle_of_accepted lib hpacket hpacket', ih hpackets hpackets']
      rfl

include hframes in
theorem frames_eq : frames = packets.map interleaved := by
  have hsome : packets.map (some ∘ interleaved) = frames.map some := hframes
  rw [← List.map_map] at hsome
  exact (List.map_injective_iff.mpr (fun _ _ heq => Option.some.inj heq) hsome).symm

include hchannel hlength haccepted hframes hchunks hfits

/-- After some of the chunks the packets whose frames have arrived whole have been handed
on, in their order, and what is kept is the part of the next frame that has arrived. -/
theorem receive_front {front back : List (List UInt8)} (hsplit : chunks = front ++ back) :
    ∃ s arrived later,
      run (guarded (receive lib)) (.ok ({}, [])) front = .ok (s, arrived.map (handedOn lib)) ∧
        packets = arrived ++ later ∧ Awaits interleaved later s.received back.flatten := by
  have hvalid : ∀ packet ∈ packets, Encodable packet := fun packet hpacket =>
    Nat.lt_succ_of_le (hlength packet hpacket)
  have hstart : Awaits interleaved packets ({} : RtspProducer).received
      (front.flatten ++ back.flatten) := by
    constructor
    · rw [← List.flatten_append, ← hsplit, hchunks, frames_eq hframes]
      exact (List.flatMap_def ..).symm
    · intro packet _
      exact And.intro List.nil_prefix nofun
  rw [hsplit] at hfits
  obtain ⟨s, arrived, later, hrun, rfl, hlater⟩ :=
    @Codec.run_feed _ _ _ _ _ _ _ _ _ _ (receive lib) RtspProducer.received (handle lib) Fits
      codec_interleaved (receive_of_reads lib) front {} [] hvalid hstart
        (admitted_append.mp hfits).1
  refine ⟨s, arrived, later, ?_, rfl, hlater⟩
  have hchannel' := (List.forall_mem_append.mp hchannel).1
  have haccepted' := (List.forall_mem_append.mp haccepted).1
  rw [hrun, flatMap_handle lib hchannel' haccepted', List.nil_append]

/-- Whatever the chunks are, the packets are handed on as they were sent, each of them once;
between two chunks the buffer holds a proper part of one frame, and nothing in the end. -/
theorem receive_interleaved :
    (∃ s, run (guarded (receive lib)) (.ok ({}, [])) chunks =
        .ok (s, packets.map (handedOn lib)) ∧ s.received.length = 0) ∧
      ∀ front back, chunks = front ++ back → ∃ s arrived later,
        run (guarded (receive lib)) (.ok ({}, [])) front = .ok (s, arrived.map (handedOn lib)) ∧
          packets = arrived ++ later ∧
          s.received ++ back.flatten = later.flatMap interleaved ∧
          (s.received = [] ∨ ∃ packet ∈ packets,
            s.received <+: interleaved packet ∧ s.received ≠ interleaved packet) := by
  constructor
  · obtain ⟨s, arrived, later, hrun, rfl, hlater⟩ := receive_front lib hchannel hlength haccepted
      hframes hchunks hfits (List.append_nil chunks).symm
    obtain ⟨rfl, hempty⟩ := hlater.eq_nil
    refine ⟨s, ?_, congrArg List.length hempty⟩
    rw [hrun, List.append_nil]
  · intro front back hsplit
    obtain ⟨s, arrived, later, hrun, rfl, hlater⟩ := receive_front lib hchannel hlength haccepted
      hframes hchunks hfits hsplit
    refine ⟨s, arrived, later, hrun, rfl, hlater.stream, ?_⟩
    cases later with
    | nil => exact Or.inl (List.append_eq_nil_iff.mp hlater.stream).1
    | cons packet later =>
        right
        refine ⟨packet, ?_, hlater.begun packet rfl⟩
        exact List.mem_append_right _ List.mem_cons_self

end RoundTrip

theorem length_received_le {s : RtspProducer} {chunk : List UInt8}
    {r : RtspProducer × List Handed} (h : onRecv lib s chunk = .ok r) :
    r.1.received.length ≤ s.received.length + chunk.length := by
  have hkept : (if kRecvBufferSize < s.received.length + chunk.length then []
      else s.received).length ≤ s.received.length := by
    split
    · exact Nat.zero_le _
    · exact Nat.le_refl _
  rw [onRecv] at h
  generalize (if kRecvBufferSize < s.received.length + chunk.length then []
    else s.received) = kept at h hkept
  dsimp only at h
  split at h
  · cases h
  · obtain rfl := Except.ok.inj h
    dsimp only
    split
    · rw [List.length_drop, List.length_append]
      omega
    · exact Nat.zero_le _

theorem fits_of_length_le {chunks : List (List UInt8)} {s : RtspProducer} {given : List Handed}
    (h : s.received.length + chunks.flatten.length ≤ kRecvBufferSize) :
    Admitted (guarded (receive lib)) (fun p chunk => OnOk (fun p => Fits p.1 chunk) p)
      (.ok (s, given)) chunks := by
  induction chunks generalizing s given with
  | nil => exact admitted_nil
  | cons chunk chunks ih =>
      rw [List.flatten_cons, List.length_append] at h
      have hchunk : ¬ kRecvBufferSize < s.received.length + chunk.length := by omega
      refine admitted_cons.mpr ⟨onOk_ok.mpr (Nat.not_lt.mp hchunk), ?_⟩
      cases hrecv : onRecv lib s chunk with
      | error fault =>
          rw [onRecv, if_neg hchunk, if_neg hchunk] at hrecv
          cases hrecv
      | ok r =>
          rw [guarded_ok, receive, hrecv]
          have hle := length_received_le lib hrecv
          exact ih (by omega)

section Sample

/-- The type in the second byte of an RTP or RTCP packet of version two. -/
def headerType : List UInt8 → Option UInt8
  | first :: second :: _ => if first / 64 = 2 then some (second % 128) else none
  | _ => none

def plainRtp : RtpLibrary where
  isRtpPacket data := 12 ≤ data.length && (headerType data).any fun type => type < 64 || 96 ≤ type
  isRtcpPacket data := 4 ≤ data.length && (headerType data).any fun type => 64 ≤ type && type < 96
  parse data :=
    if 12 ≤ data.length then
      some (((data.drop 8).take 4).foldl (fun ssrc byte => ssrc * 256 + byte.toUInt32) 0)
    else none

def samplePackets : List Packet :=
  [⟨0, [0x80, 0x60, 0, 1, 0, 0, 0, 0, 0, 0, 0, 9, 0xBA]⟩, ⟨1, [0x80, 0xC9, 0, 1, 0, 0, 0, 9]⟩]

end Sample

theorem receive_split_header :
    ∃ s, run (guarded (receive plainRtp)) (.ok ({}, []))
        [[0x24, 0x00, 0x00], [0x0D, 0x80, 0x60, 0, 1, 0, 0, 0, 0, 0, 0, 0, 9, 0xBA, 0x24],
          [0x01, 0x00, 0x08, 0x80, 0xC9, 0, 1, 0, 0, 0, 9]] =
        .ok (s, samplePackets.map (handedOn plainRtp)) ∧ s.received.length = 0 :=
  (@receive_interleaved plainRtp samplePackets (samplePackets.map interleaved)
    [[0x24, 0x00, 0x00], [0x0D, 0x80, 0x60, 0, 1, 0, 0, 0, 0, 0, 0, 0, 9, 0xBA, 0x24],
      [0x01, 0x00, 0x08, 0x80, 0xC9, 0, 1, 0, 0, 0, 9]]
    (by decide) (by decide) (by decide) rfl (by decide)
    (fits_of_length_le plainRtp (by decide))).1

end GBServer.RtspInterleaved
