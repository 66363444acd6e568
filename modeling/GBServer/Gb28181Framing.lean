import GBServer.Gb28181Receive

namespace GBServer.Gb28181Framing

open Foundation.LengthPrefix
open Foundation.Memory
open Foundation.Runs
open GBServer.Gb28181Receive

/-- The bytes that a call of `mpeg_decoder_->parse` is given. -/
def mpegInput (buffer : List UInt8) (access : Access) : Option (List UInt8) :=
  if access.callee = .mpegParse then
    some ((buffer.drop access.pointer.toNat).take access.length.toNat)
  else none

def parsedFrom (lib : RtpLibrary) (buffer : List UInt8) : Nat → Loop → List (List UInt8)
  | 0, _ => []
  | turns + 1, l =>
      (calls lib buffer l).filterMap (mpegInput buffer) ++
        parsedFrom lib buffer turns (parseStep buffer l)

/-- What one call of `OnRecv` gives to the decoder. -/
def parsed (lib : RtpLibrary) (buffer : List UInt8) : List (List UInt8) :=
  parsedFrom lib buffer (buffer.length + 2) ⟨.running, 0⟩

def noteParsed (lib : RtpLibrary) (received : Option (List UInt8)) (given : List (List UInt8))
    (chunk : List UInt8) : List (List UInt8) :=
  match received with
  | none => given
  | some bytes => given ++ parsed lib (bytes ++ chunk)

/-- `OnRecv`, with all that has been given to the decoder. -/
abbrev decoding (lib : RtpLibrary) :
    Option (List UInt8) × List (List UInt8) → List UInt8 →
      Option (List UInt8) × List (List UInt8) :=
  observe onRecv (noteParsed lib)

/-- The library looks at the bytes of the packet only, and finds the payload in them. -/
structure OfBytes (lib : RtpLibrary) : Prop where
  isRtpPacket : ∀ memory size, size ≤ memory.length →
    lib.isRtpPacket memory size = lib.isRtpPacket (memory.take size) size
  isRtcpPacket : ∀ memory size, size ≤ memory.length →
    lib.isRtcpPacket memory size = lib.isRtcpPacket (memory.take size) size
  parse : ∀ memory size, size ≤ memory.length →
    lib.parse memory size = lib.parse (memory.take size) size
  payloadWithin : lib.PayloadWithin

/-- The payload of a frame that is an RTP packet of type 96. -/
def psPayload (lib : RtpLibrary) (frame : List UInt8) : Option (List UInt8) :=
  if lib.isRtpPacket frame frame.length then
    match lib.parse frame frame.length with
    | none => none
    | some packet =>
        if packet.payloadType = 96 then
          some ((frame.drop packet.payloadOffset).take packet.payloadSize)
        else none
  else none

/-- At most eight megabytes are buffered. -/
def Fits (received : Option (List UInt8)) (chunk : List UInt8) : Prop :=
  ∀ bytes, received = some bytes → (bytes ++ chunk).length ≤ recvBufferCapacity

/-- The lengths that are read are not negative as 16-bit numbers, and the stream does not
end with an empty frame. -/
structure Readable (frames : List (List UInt8)) (tail : List UInt8) : Prop where
  whole : ∀ frame ∈ frames, frame.length < lengthLimit
  begun : ∀ high low rest, tail = high :: low :: rest → rest ≠ [] →
    prefixLength high low < lengthLimit
  last : tail = [] → frames.getLast? ≠ some []

theorem framed_of_readable {tail : List UInt8} (hincomplete : Incomplete tail)
    (hreadable : ∀ high low rest, tail = high :: low :: rest → rest ≠ [] →
      prefixLength high low < lengthLimit) : Framed lengthLimit tail [] tail := by
  match tail with
  | [] => exact .short (Nat.zero_le _)
  | [byte] => exact .short (Nat.le_succ _)
  | high :: low :: rest =>
      by_cases hne : rest = []
      · subst hne
        exact .short (Nat.le_refl _)
      · exact .incomplete hne (hreadable high low rest rfl hne) hincomplete

theorem parsedFrom_of_stopped (lib : RtpLibrary) {buffer : List UInt8} {l : Loop}
    (hstopped : l.status ≠ .running) (turns : Nat) : parsedFrom lib buffer turns l = [] := by
  have hcalls : calls lib buffer l = [] := by
    rw [calls]
    split
    · contradiction
    · rfl
  induction turns with
  | zero => rfl
  | succ turns ih =>
      rw [parsedFrom, hcalls, parseStep_of_ne_running hstopped, ih]
      rfl

theorem parsedFrom_of_leave (lib : RtpLibrary) {buffer : List UInt8} {parseSize : Int}
    (hturn : turn buffer parseSize = .leave) (turns : Nat) :
    parsedFrom lib buffer turns ⟨.running, parseSize⟩ = [] := by
  cases turns with
  | zero => rfl
  | succ turns =>
      rw [parsedFrom, calls_of_leave lib hturn, parseStep_of_leave hturn,
        parsedFrom_of_stopped lib (by simp)]
      rfl

section Reading

variable {lib : RtpLibrary} (hlib : OfBytes lib)

include hlib

theorem filterMap_packetCalls (front payload bytes : List UInt8)
    (hlength : payload.length < 2 ^ 64) :
    (packetCalls lib (front ++ (payload ++ bytes)) front.length payload.length).filterMap
      (mpegInput (front ++ (payload ++ bytes))) = (psPayload lib payload).toList := by
  have hsize : payload.length ≤ (payload ++ bytes).length := by
    rw [List.length_append]
    exact Nat.le_add_right _ _
  have htake : (payload ++ bytes).take payload.length = payload := List.take_left
  rw [packetCalls, toSizeT_natCast hlength, Int.toNat_natCast, List.drop_left,
    hlib.isRtpPacket _ _ hsize, hlib.isRtcpPacket _ _ hsize, hlib.parse _ _ hsize, htake, psPayload]
  split
  · cases hparse : lib.parse payload payload.length with
    | none => rfl
    | some packet =>
        have hwithin := hlib.payloadWithin _ _ _ hparse
        dsimp only
        split
        · have hpayload : ((front ++ (payload ++ bytes)).drop
              (front.length + packet.payloadOffset)).take packet.payloadSize =
                (payload.drop packet.payloadOffset).take packet.payloadSize := by
            rw [← List.drop_drop, List.drop_left, List.drop_append_of_le_length (by omega),
              List.take_append_of_le_length]
            rw [List.length_drop]
            omega
          rw [← hpayload]
          rfl
        · rfl
  · split <;> rfl

theorem parsedFrom_of_framed {s rest : List UInt8} {packets : List (List UInt8)}
    (h : Framed lengthLimit s packets rest) (front : List UInt8) {turns : Nat}
    (hturns : packets.length < turns) :
    parsedFrom lib (front ++ s) turns ⟨.running, front.length⟩ =
      packets.filterMap (psPayload lib) := by
  induction h generalizing front turns with
  | short hlength =>
      exact parsedFrom_of_leave lib (turn_short front hlength) turns
  | incomplete hne hlimit hlength =>
      exact parsedFrom_of_leave lib (turn_incomplete front hne hlimit hlength) turns
  | @packet high low payload bytes rest packets hne hlimit hlength _ ih =>
      have hbuffer : front ++ high :: low :: (payload ++ bytes) =
          (front ++ [high, low]) ++ (payload ++ bytes) := by simp
      have hnext : front ++ high :: low :: (payload ++ bytes) =
          (front ++ high :: low :: payload) ++ bytes := by simp
      have hposition : (front.length : Int) + 2 = ((front ++ [high, low]).length : Nat) := by simp
      have hsmall : payload.length < 2 ^ 64 := by
        rw [hlength]
        exact Nat.lt_trans hlimit (by decide)
      obtain ⟨turns, rfl⟩ := Nat.exists_eq_add_one_of_ne_zero (Nat.ne_zero_of_lt hturns)
      rw [List.length_cons] at hturns
      rw [parsedFrom, calls_of_packet lib (turn_packet front hne hlimit hlength),
        parseStep_packet front hne hlimit hlength, hposition, hbuffer,
        filterMap_packetCalls hlib _ payload bytes hsmall, ← hbuffer, hnext,
        ih (front ++ high :: low :: payload) (Nat.lt_of_succ_lt_succ hturns), List.filterMap_cons]
      cases psPayload lib payload <;> rfl

theorem parsed_of_framed {buffer rest : List UInt8} {packets : List (List UInt8)}
    (h : Framed lengthLimit buffer packets rest) :
    parsed lib buffer = packets.filterMap (psPayload lib) := by
  have hturns : packets.length < buffer.length + 2 := by
    have := h.length_packets_le
    omega
  exact parsedFrom_of_framed hlib h [] hturns

/-- The chunks of a stream whose lengths are readable are decoded as the whole stream is. -/
theorem run_decoding {chunks : List (List UInt8)} {rest last : List UInt8}
    {packets : List (List UInt8)} (given : List (List UInt8))
    (hrest : Framed lengthLimit rest [] rest)
    (hstream : Framed lengthLimit (rest ++ chunks.flatten) packets last)
    (hfits : Admitted onRecv Fits (some rest) chunks) :
    run (decoding lib) (some rest, given) chunks =
      (some last, given ++ packets.filterMap (psPayload lib)) := by
  induction chunks generalizing rest given packets with
  | nil =>
      rw [List.flatten_nil, List.append_nil] at hstream
      obtain ⟨rfl, rfl⟩ := hrest.unique hstream
      simp
  | cons chunk chunks ih =>
      obtain ⟨hchunk, hchunks⟩ := admitted_cons.mp hfits
      rw [List.flatten_cons, ← List.append_assoc] at hstream
      obtain ⟨now, left, hnow⟩ := hstream.wellFramed.of_append
      obtain ⟨later, last', hlater⟩ := hnow.wellFramed_append_iff.mp hstream.wellFramed
      obtain ⟨rfl, rfl⟩ := hstream.unique (hnow.append hlater)
      have hleft : onRecv (some rest) chunk = some left :=
        onRecv_of_framed hnow (hchunk rest rfl)
      rw [hleft] at hchunks
      have hstep : decoding lib (some rest, given) chunk =
          (some left, given ++ now.filterMap (psPayload lib)) := by
        rw [← hleft, ← parsed_of_framed hlib hnow]
        rfl
      rw [run_cons, hstep, ih _ hnow.rest_framed hlater hchunks, List.filterMap_append,
        List.append_assoc]

end Reading

section Leftover

theorem turn_of_finished {buffer : List UInt8} {turns : Nat}
    (h : (loopAfter buffer turns).status = .finished) :
    turn buffer (loopAfter buffer turns).parseSize = .leave := by
  induction turns with
  | zero => cases h
  | succ turns ih =>
      rw [loopAfter, Function.iterate_succ_apply', ← loopAfter] at h ⊢
      generalize loopAfter buffer turns = l at h ih ⊢
      obtain ⟨status, parseSize⟩ := l
      cases status with
      | finished => exact ih rfl
      | outOfBounds => cases h
      | running =>
          rw [parseStep_running] at h ⊢
          cases hturn : turn buffer parseSize with
          | leave => exact hturn
          | outOfBounds => rw [hturn] at h; cases h
          | packet payloadSize => rw [hturn] at h; cases h

theorem framed_drop_of_leave {front rest : List UInt8}
    (h : turn (front ++ rest) front.length = .leave) : Framed lengthLimit rest [] rest := by
  match rest with
  | [] => exact .short (Nat.zero_le _)
  | [byte] => exact .short (Nat.le_succ _)
  | high :: low :: rest =>
      by_cases hne : rest = []
      · subst hne
        exact .short (Nat.le_refl _)
      · rw [turn_readable front hne] at h
        split at h
        · rename_i hshort
          have hlimit : prefixLength high low < lengthLimit := by
            by_contra hlimit
            have := readBigEndian_neg hlimit
            omega
          rw [readBigEndian_of_lt hlimit] at hshort
          exact .incomplete hne hlimit (Int.ofNat_lt.mp hshort)
        · cases h

theorem framed_leftover {buffer : List UInt8} {parseSize : Int}
    (h : turn buffer parseSize = .leave) :
    Framed lengthLimit (leftover buffer parseSize) [] (leftover buffer parseSize) := by
  rw [leftover]
  split
  · rename_i hpos
    by_cases hneg : parseSize < 0
    · have hshort : (buffer.length : Int) - parseSize ≤ 2 := by
        by_contra hlong
        rw [turn, if_pos (Int.not_le.mp hlong), payloadSizeAt, if_pos hneg] at h
        cases h
      apply Framed.short
      rw [List.length_drop]
      omega
    · obtain ⟨position, rfl⟩ := Int.eq_ofNat_of_zero_le (Int.not_lt.mp hneg)
      have hfront : (buffer.take position).length = position :=
        List.length_take_of_le (by omega)
      apply @framed_drop_of_leave (buffer.take position)
      rw [Int.toNat_natCast, List.take_append_drop, hfront]
      exact h
  · exact .short (Nat.zero_le _)

theorem length_le_of_onRecv {bytes chunk rest : List UInt8}
    (h : onRecv (some bytes) chunk = some rest) : rest.length ≤ (bytes ++ chunk).length := by
  simp only [onRecv] at h
  split at h
  · cases h
  · split at h
    · obtain rfl := Option.some.inj h
      rw [leftover]
      split
      · rw [List.length_drop]
        exact Nat.sub_le _ _
      · exact Nat.zero_le _
    · cases h

theorem run_onRecv_none (chunks : List (List UInt8)) : run onRecv none chunks = none := by
  induction chunks with
  | nil => rfl
  | cons chunk chunks ih => exact ih

theorem fits_of_length_le {chunks : List (List UInt8)} {rest : List UInt8}
    (h : rest.length + chunks.flatten.length ≤ recvBufferCapacity) :
    Admitted onRecv Fits (some rest) chunks := by
  induction chunks generalizing rest with
  | nil => exact admitted_nil
  | cons chunk chunks ih =>
      rw [List.flatten_cons, List.length_append] at h
      refine admitted_cons.mpr ⟨?_, ?_⟩
      · intro bytes hbytes
        obtain rfl := Option.some.inj hbytes
        rw [List.length_append]
        omega
      · cases hleft : onRecv (some rest) chunk with
        | none =>
            intro front chunk' back _ bytes hbytes
            rw [run_onRecv_none] at hbytes
            cases hbytes
        | some left =>
            apply ih
            have hle := length_le_of_onRecv hleft
            rw [List.length_append] at hle
            omega

/-- Whatever a call leaves in the buffer begins with a length that it could not use yet. -/
theorem framed_of_onRecv {received : Option (List UInt8)} {chunk rest : List UInt8}
    (h : onRecv received chunk = some rest) : Framed lengthLimit rest [] rest := by
  cases received with
  | none => cases h
  | some bytes =>
      simp only [onRecv] at h
      split at h
      · cases h
      · split at h
        · rename_i hfinished
          obtain rfl := Option.some.inj h
          exact framed_leftover (turn_of_finished hfinished)
        · cases h

end Leftover

theorem exists_of_payloadSizeAt {buffer : List UInt8} {parseSize payloadSize : Int}
    (h : payloadSizeAt buffer parseSize = .ok payloadSize) :
    ∃ high low, payloadSize = readBigEndian high low := by
  rw [payloadSizeAt] at h
  split at h
  · cases h
  · cases hhigh : readByte buffer parseSize.toNat with
    | error fault => rw [hhigh] at h; cases h
    | ok high =>
        cases hlow : readByte buffer (parseSize.toNat + 1) with
        | error fault => rw [hhigh, hlow] at h; cases h
        | ok low =>
            rw [hhigh, hlow] at h
            exact ⟨high, low, (Except.ok.inj h).symm⟩

theorem exists_of_turn_packet {buffer : List UInt8} {parseSize payloadSize : Int}
    (h : turn buffer parseSize = .packet payloadSize) :
    ∃ high low, payloadSize = readBigEndian high low := by
  rw [turn] at h
  split at h
  · cases hread : payloadSizeAt buffer parseSize with
    | error fault => rw [hread] at h; cases h
    | ok size =>
        simp only [hread] at h
        split at h
        · cases h
        · obtain rfl := Turn.packet.inj h
          exact exists_of_payloadSizeAt hread
  · cases h

section Sized

/-- A library for which the RTP packets are those of one size. -/
def sizedRtp (size : Nat) : RtpLibrary where
  isRtpPacket _ length := length = size
  isRtcpPacket _ _ := false
  parse _ _ := some ⟨96, 0, 0⟩

theorem ofBytes_sizedRtp (size : Nat) : OfBytes (sizedRtp size) where
  isRtpPacket _ _ _ := rfl
  isRtcpPacket _ _ _ := rfl
  parse _ _ _ := rfl
  payloadWithin := by
    intro memory length packet hparse
    obtain rfl := Option.some.inj hparse
    exact Nat.zero_le _

theorem psPayload_sizedRtp (frame : List UInt8) :
    psPayload (sizedRtp frame.length) frame = some [] := by
  simp [psPayload, sizedRtp]

variable {size : Nat} (hlarge : lengthLimit ≤ size) (hsize : size < 0x10000)

include hlarge hsize

theorem toSizeT_ne_of_turn {buffer : List UInt8} {parseSize payloadSize : Int}
    (hturn : turn buffer parseSize = .packet payloadSize) : toSizeT payloadSize ≠ size := by
  obtain ⟨high, low, rfl⟩ := exists_of_turn_packet hturn
  have hlower := BitVec.le_toInt (BitVec.ofNat 16 (prefixLength high low))
  have hupper := BitVec.toInt_lt (x := BitVec.ofNat 16 (prefixLength high low))
  rw [lengthLimit] at hlarge
  rw [toSizeT, readBigEndian]
  omega

theorem filterMap_calls_sizedRtp (buffer : List UInt8) (l : Loop) :
    (calls (sizedRtp size) buffer l).filterMap (mpegInput buffer) = [] := by
  rw [calls]
  split
  · rename_i payloadSize hstatus hturn
    have hother : (sizedRtp size).isRtpPacket (buffer.drop (l.parseSize + 2).toNat)
        (toSizeT payloadSize) ≠ true := by
      intro hsame
      exact toSizeT_ne_of_turn hlarge hsize hturn (of_decide_eq_true hsame)
    rw [packetCalls, if_neg hother]
    rfl
  · rfl

theorem parsedFrom_sizedRtp (buffer : List UInt8) (turns : Nat) (l : Loop) :
    parsedFrom (sizedRtp size) buffer turns l = [] := by
  induction turns generalizing l with
  | zero => rfl
  | succ turns ih => rw [parsedFrom, filterMap_calls_sizedRtp hlarge hsize, ih, List.append_nil]

theorem run_decoding_sizedRtp (chunks : List (List UInt8)) :
    (run (decoding (sizedRtp size)) (some [], []) chunks).2 = [] := by
  refine @invariant_run_of_step _ _ (decoding (sizedRtp size)) (fun p => p.2 = []) _ rfl ?_ chunks
  rintro ⟨received, given⟩ chunk hgiven
  change given = [] at hgiven
  change noteParsed (sizedRtp size) received given chunk = []
  subst hgiven
  cases received with
  | none => rfl
  | some bytes => exact parsedFrom_sizedRtp hlarge hsize _ _ _

end Sized

section Streams

variable {chunks frames : List (List UInt8)} {tail : List UInt8}
  (hframes : ∀ frame ∈ frames, frame.length < 0x10000) (hincomplete : Incomplete tail)
  (hchunks : chunks.flatten = frames.flatMap encode ++ tail)
  (hfits : Admitted onRecv Fits (some []) chunks)

/-- The frames of type 96 are given to the decoder, and the frame that is not complete is
left in the buffer. -/
def DecodesFrames (lib : RtpLibrary) (chunks frames : List (List UInt8)) (tail : List UInt8) :
    Prop :=
  run (decoding lib) (some [], []) chunks = (some tail, frames.filterMap (psPayload lib))

theorem framed_tail_of_run (hrun : run onRecv (some []) chunks = some tail) :
    Framed lengthLimit tail [] tail := by
  rcases List.eq_nil_or_concat chunks with rfl | ⟨init, chunk, rfl⟩
  · obtain rfl : [] = tail := Option.some.inj hrun
    exact .short (Nat.zero_le _)
  · rw [List.concat_eq_append, run_concat] at hrun
    exact framed_of_onRecv hrun

include hchunks hfits

theorem run_decoding_of_framed {lib : RtpLibrary} (hlib : OfBytes lib) {packets : List (List UInt8)}
    {last : List UInt8}
    (hstream : Framed lengthLimit (frames.flatMap encode ++ tail) packets last) :
    run (decoding lib) (some [], []) chunks = (some last, packets.filterMap (psPayload lib)) := by
  have hnil : Framed lengthLimit [] [] [] := .short (Nat.zero_le _)
  rw [← hchunks] at hstream
  exact run_decoding hlib [] hnil hstream hfits

include hframes

theorem readable_of_decodesFrames (h : ∀ lib, OfBytes lib → DecodesFrames lib chunks frames tail) :
    Readable frames tail := by
  have hleft : run onRecv (some []) chunks = some tail := by
    have hrun := congrArg Prod.fst (h (sizedRtp 0) (ofBytes_sizedRtp 0))
    rwa [run_observe_fst] at hrun
  have htail := framed_tail_of_run hleft
  have hwhole : ∀ frame ∈ frames, frame.length < lengthLimit := by
    intro frame hframe
    by_contra hlarge
    have hgiven := congrArg Prod.snd (h (sizedRtp frame.length) (ofBytes_sizedRtp _))
    rw [run_decoding_sizedRtp (Nat.le_of_not_lt hlarge) (hframes frame hframe)] at hgiven
    change [] = frames.filterMap (psPayload (sizedRtp frame.length)) at hgiven
    have hmissing : [] ∈ frames.filterMap (psPayload (sizedRtp frame.length)) :=
      List.mem_filterMap.mpr ⟨frame, hframe, psPayload_sizedRtp frame⟩
    rw [← hgiven] at hmissing
    cases hmissing
  refine ⟨hwhole, ?_, ?_⟩
  · rintro high low rest rfl hne
    exact htail.limit_of_readable hne
  · rintro rfl hlast
    obtain ⟨init, rfl⟩ := List.getLast?_eq_some_iff.mp hlast
    have hstream : Framed lengthLimit ((init ++ [[]]).flatMap encode ++ []) init [0, 0] := by
      have hinit := List.forall_mem_append.mp hwhole
      have hinit' := List.forall_mem_append.mp hframes
      have hframed := framed_flatMap_encode hinit.1 hinit'.1
        (.short (Nat.le_refl _) : Framed lengthLimit [0, 0] [] [0, 0]) nofun
      simpa [encode] using hframed
    have hrun := congrArg Prod.fst
      (run_decoding_of_framed hchunks hfits (ofBytes_sizedRtp 0) hstream)
    rw [run_observe_fst, hleft] at hrun
    cases hrun

include hincomplete

/-- Every library finds the frames of a stream, however it is cut into chunks, exactly when
no length that is read reaches `0x8000` and the last frame is not empty. -/
theorem decodesFrames_iff :
    (∀ lib, OfBytes lib → DecodesFrames lib chunks frames tail) ↔ Readable frames tail := by
  constructor
  · exact readable_of_decodesFrames hframes hchunks hfits
  · intro hreadable lib hlib
    have htail := framed_of_readable hincomplete hreadable.begun
    exact run_decoding_of_framed hchunks hfits hlib
      (framed_flatMap_encode hreadable.whole hframes htail hreadable.last)

end Streams

theorem headerType_take (memory : List UInt8) {size : Nat} (h : 2 ≤ size) :
    headerType (memory.take size) = headerType memory := by
  obtain ⟨n, rfl⟩ := Nat.exists_eq_add_of_le' h
  match memory with
  | [] => rfl
  | [byte] => rfl
  | first :: second :: rest => rfl

theorem ofBytes_plainRtp : OfBytes plainRtp where
  isRtpPacket memory size _ := by
    by_cases h : 12 ≤ size
    · simp only [plainRtp, headerType_take memory (by omega : 2 ≤ size)]
    · simp [plainRtp, h]
  isRtcpPacket memory size _ := by
    by_cases h : 4 ≤ size
    · simp only [plainRtp, headerType_take memory (by omega : 2 ≤ size)]
    · simp [plainRtp, h]
  parse memory size _ := by
    by_cases h : 12 ≤ size
    · simp only [plainRtp, plainParse, headerType_take memory (by omega : 2 ≤ size)]
    · have hnone : ∀ bytes, plainParse bytes size = none := by
        intro bytes
        rw [plainParse]
        split
        · exact if_neg h
        · rfl
      exact (hnone _).trans (hnone _).symm
  payloadWithin := plainRtp_payloadWithin

theorem decodesFrames_of_split_packet :
    DecodesFrames plainRtp
      [[0x00, 0x0D, 0x80], [0x60, 0, 1, 0, 0, 0, 0, 0, 0, 0, 9, 0xBA, 0x00, 0x0C, 0x80]]
      [[0x80, 0x60, 0, 1, 0, 0, 0, 0, 0, 0, 0, 9, 0xBA]] [0x00, 0x0C, 0x80] := by
  have hincomplete : Incomplete [0x00, 0x0C, 0x80] := show 1 < 12 by decide
  refine (decodesFrames_iff (by decide) hincomplete (by decide)
    (fits_of_length_le (by decide))).mpr ⟨by decide, ?_, nofun⟩ plainRtp ofBytes_plainRtp
  rintro high low rest ⟨⟩ _
  decide

/-- An empty frame at the end of the stream stays in the buffer. -/
theorem not_decodesFrames :
    ¬ ∀ (lib : RtpLibrary) (chunks frames : List (List UInt8)) (tail : List UInt8),
      OfBytes lib → (∀ frame ∈ frames, frame.length < 0x10000) → Incomplete tail →
        chunks.flatten = frames.flatMap encode ++ tail → Admitted onRecv Fits (some []) chunks →
          DecodesFrames lib chunks frames tail := by
  intro hclaim
  have hrun := hclaim plainRtp [[0x00, 0x00]] [[]] [] ofBytes_plainRtp (by decide) trivial
    (by decide) (fits_of_length_le (by decide))
  have hleft := congrArg Prod.fst hrun
  revert hleft
  decide

end GBServer.Gb28181Framing
