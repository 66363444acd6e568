import GBServer.RtspInterleaved
import Mathlib.Data.List.DropRight

namespace GBServer.RtspMessages

open Foundation.Memory
open Foundation.Runs
open Foundation.StreamParser
open GBServer.RtspInterleaved

/-- What a byte of the stream is part of. -/
inductive Origin where
  | frame
  | message
  deriving DecidableEq, Repr

abbrev TaggedByte := UInt8 × Origin

def bytes (stream : List TaggedByte) : List UInt8 := stream.map Prod.fst

def tag (origin : Origin) (data : List UInt8) : List TaggedByte := data.map fun b => (b, origin)

inductive StreamItem where
  | frame (packet : Packet)
  | message (text : List UInt8)
  deriving DecidableEq, Repr

namespace StreamItem

/-- A message begins with another byte than `$` and ends with an empty line. -/
def Valid : StreamItem → Prop
  | .frame packet => Encodable packet
  | .message text => text.head? ≠ some 0x24 ∧ [0x0D, 0x0A, 0x0D, 0x0A] <:+ text

def tagged : StreamItem → List TaggedByte
  | .frame packet => tag .frame (interleaved packet)
  | .message text => tag .message text

def packet? : StreamItem → Option Packet
  | .frame packet => some packet
  | .message _ => none

end StreamItem

/-- The first frame, when the stream goes on with a frame and it has arrived whole. -/
def nextTagged : List TaggedByte → Option (Packet × List TaggedByte)
  | (magic, .frame) :: rest =>
      (nextFrame (bytes ((magic, .frame) :: rest))).map fun (packet, left) =>
        (packet, ((magic, .frame) :: rest).rtake left.length)
  | _ => none

/-- If the stream goes on with a message, then only with messages, and not with a `$`; with
less than a header the loop does not look. -/
def Clear (rest : List TaggedByte) : Prop :=
  ∀ first, rest.head? = some first → first.2 = .message → 4 ≤ rest.length →
    first.1 ≠ 0x24 ∧ ∀ b ∈ rest, b.2 = .message

def waiting (s : RtspProducer) (delivered : List TaggedByte) : List TaggedByte :=
  delivered.rtake s.received.length

variable (lib : RtpLibrary)

/-- Every chunk fits into the buffer, and behind the frames that have arrived whole with it
there is no message together with a part of a frame. -/
def Undisturbed (chunks : List (List TaggedByte)) : Prop :=
  ∀ front chunk back s given, chunks = front ++ chunk :: back →
    run (guarded (receive lib)) (.ok ({}, [])) (front.map bytes) = .ok (s, given) →
      Fits s (bytes chunk) ∧ ∀ packets rest,
        Reads nextTagged (waiting s front.flatten ++ chunk) packets rest → Clear rest

inductive Carries : List TaggedByte → List Packet → Prop
  | nil : Carries [] []
  | message (b : UInt8) {stream : List TaggedByte} {packets : List Packet}
      (h : Carries stream packets) : Carries ((b, .message) :: stream) packets
  | frame {packet : Packet} {stream : List TaggedByte} {packets : List Packet}
      (hpacket : Encodable packet) (h : Carries stream packets) :
      Carries (tag .frame (interleaved packet) ++ stream) (packet :: packets)

section Tags

@[simp] theorem bytes_append (stream more : List TaggedByte) :
    bytes (stream ++ more) = bytes stream ++ bytes more :=
  List.map_append

@[simp] theorem length_bytes (stream : List TaggedByte) :
    (bytes stream).length = stream.length :=
  List.length_map _

@[simp] theorem bytes_tag (origin : Origin) (data : List UInt8) :
    bytes (tag origin data) = data := by
  rw [bytes, tag, List.map_map]
  exact List.map_id _

theorem eq_rtake {stream w : List TaggedByte} (h : w <:+ stream) : stream.rtake w.length = w := by
  obtain ⟨front, rfl⟩ := h
  rw [List.rtake, List.length_append, Nat.add_sub_cancel, List.drop_left]

theorem Carries.messages {stream : List TaggedByte} {packets : List Packet}
    (text : List UInt8) (h : Carries stream packets) :
    Carries (tag .message text ++ stream) packets := by
  induction text with
  | nil => exact h
  | cons b text ih => exact Carries.message b ih

theorem carries_items (items : List StreamItem) (hitems : ∀ item ∈ items, item.Valid) :
    Carries (items.flatMap StreamItem.tagged) (items.filterMap StreamItem.packet?) := by
  induction items with
  | nil => exact Carries.nil
  | cons item items ih =>
      obtain ⟨hitem, hrest⟩ := List.forall_mem_cons.mp hitems
      cases item with
      | frame packet => exact Carries.frame hitem (ih hrest)
      | message text => exact (ih hrest).messages text

theorem tag_interleaved_eq_cons (packet : Packet) :
    ∃ rest, tag .frame (interleaved packet) = (0x24, .frame) :: rest :=
  ⟨_, rfl⟩

theorem Carries.of_messages {text stream : List TaggedByte} {packets : List Packet}
    (h : Carries (text ++ stream) packets) (htext : ∀ b ∈ text, b.2 = .message) :
    Carries stream packets := by
  induction text with
  | nil => exact h
  | cons b text ih =>
      obtain ⟨hb, htail⟩ := List.forall_mem_cons.mp htext
      obtain ⟨byte, origin⟩ := b
      obtain rfl : origin = .message := hb
      generalize hstream : (byte, Origin.message) :: text ++ stream = whole at h
      cases h with
      | nil => cases hstream
      | message b h =>
          obtain ⟨_, rfl⟩ := List.cons.inj hstream
          exact ih h htail
      | @frame packet rest packets hpacket h =>
          obtain ⟨tail, hcons⟩ := tag_interleaved_eq_cons packet
          rw [hcons] at hstream
          cases hstream

theorem Carries.of_frame {magic : UInt8} {stream : List TaggedByte} {packets : List Packet}
    (h : Carries ((magic, .frame) :: stream) packets) :
    ∃ packet rest later, packets = packet :: later ∧ Encodable packet ∧
      (magic, .frame) :: stream = tag .frame (interleaved packet) ++ rest ∧
      Carries rest later := by
  generalize hstream : (magic, Origin.frame) :: stream = whole at h
  cases h with
  | nil => cases hstream
  | message b h => cases hstream
  | @frame packet rest later hpacket h => exact ⟨packet, rest, later, rfl, hpacket, rfl, h⟩

end Tags

section Reading

variable {stream rest more left : List TaggedByte} {packet : Packet} {packets later : List Packet}

theorem exists_of_nextTagged (h : nextTagged stream = some (packet, rest)) :
    ∃ magic tail, stream = (magic, .frame) :: tail ∧ rest <:+ stream ∧
      nextFrame (bytes stream) = some (packet, bytes rest) := by
  match stream, h with
  | (magic, .frame) :: tail, h =>
      rw [nextTagged] at h
      obtain ⟨⟨packet', left⟩, hnext, heq⟩ := Option.map_eq_some_iff.mp h
      obtain ⟨rfl, rfl⟩ := Prod.mk.inj heq
      have hleft : bytes (((magic, Origin.frame) :: tail).rtake left.length) = left := by
        obtain ⟨high, low, hbytes, _⟩ := exists_of_nextFrame hnext
        have hsuffix : left <:+ bytes ((magic, Origin.frame) :: tail) := by
          rw [hbytes]
          exact ⟨0x24 :: packet'.channel :: high :: low :: packet'.data, by simp⟩
        obtain ⟨front, hfront⟩ := hsuffix
        rw [List.rtake, bytes, List.map_drop, ← bytes, ← hfront, ← length_bytes, ← hfront,
          List.length_append, Nat.add_sub_cancel, List.drop_left]
      refine ⟨magic, tail, rfl, List.drop_suffix _ _, ?_⟩
      rw [hleft]
      exact hnext
  | (_, .message) :: _, h => cases h
  | [], h => cases h

theorem shorter_of_nextTagged (h : nextTagged stream = some (packet, rest)) :
    rest.length < stream.length := by
  obtain ⟨_, _, _, _, hnext⟩ := exists_of_nextTagged h
  have hshorter := codec_interleaved.shorter hnext
  rwa [length_bytes, length_bytes] at hshorter

/-- The frames that have arrived whole are the first ones of the stream. -/
theorem Carries.reads (hreads : Reads nextTagged stream packets left)
    (h : Carries (stream ++ more) later) :
    ∃ later', later = packets ++ later' ∧ Carries (left ++ more) later' ∧ left <:+ stream := by
  induction hreads generalizing later with
  | @stop stream hnext => exact ⟨later, rfl, h, List.suffix_rfl⟩
  | @unit stream rest left packet packets hnext _ ih =>
      obtain ⟨magic, tail, rfl, hsuffix, hframe⟩ := exists_of_nextTagged hnext
      obtain ⟨packet', rest', later, rfl, hpacket, hstream, hrest⟩ := h.of_frame
      change ((magic, Origin.frame) :: tail) ++ more = _ at hstream
      have hstable := codec_interleaved.stable hframe (bytes more)
      have hbytes : bytes ((magic, .frame) :: tail) ++ bytes more =
          interleaved packet' ++ bytes rest' := by
        rw [← bytes_append, hstream, bytes_append, bytes_tag]
      rw [hbytes, codec_interleaved.read hpacket] at hstable
      obtain ⟨rfl, heq⟩ := Prod.mk.inj (Option.some.inj hstable)
      have hsame : rest ++ more = rest' := by
        obtain ⟨front, hfront⟩ := hsuffix
        have hlength := congrArg List.length heq
        rw [List.length_append, length_bytes, length_bytes, length_bytes] at hlength
        rw [← hfront, List.append_assoc] at hstream
        exact List.append_inj_right' hstream (by rw [List.length_append, hlength])
      rw [← hsame] at hrest
      obtain ⟨later', rfl, hleft, hpart⟩ := ih hrest
      exact ⟨later', rfl, hleft, hpart.trans hsuffix⟩

/-- `OnRecv` reads the same frames, if it does not take what is left for one. -/
theorem reads_bytes (hreads : Reads nextTagged stream packets left)
    (hleft : nextFrame (bytes left) = none) :
    Reads nextFrame (bytes stream) packets (bytes left) := by
  induction hreads with
  | stop _ => exact Reads.stop hleft
  | unit hnext _ ih =>
      obtain ⟨_, _, _, _, hframe⟩ := exists_of_nextTagged hnext
      exact Reads.unit hframe (ih hleft)

end Reading

section Chunks

variable {s : RtspProducer} {given : List Handed} {w chunk rest more : List TaggedByte}
  {packets later : List Packet}

/-- What is kept between two chunks: no whole frame, and of a message less than a header. -/
structure Kept (s : RtspProducer) (w : List TaggedByte) : Prop where
  received : bytes w = s.received
  begun : nextTagged w = none
  short : ∀ first, w.head? = some first → first.2 = .message → w.length < 4

theorem nextFrame_eq_none_of_short {buffer : List UInt8} (h : buffer.length < 4) :
    nextFrame buffer = none := by
  cases hnext : nextFrame buffer with
  | none => rfl
  | some p =>
      obtain ⟨high, low, heq, _⟩ := exists_of_nextFrame hnext
      rw [heq] at h
      simp only [List.length_cons] at h
      omega

theorem leaves_of_short {buffer : List UInt8} (h : buffer.length < 4) : Leaves buffer := by
  refine ⟨nextFrame_eq_none_of_short h, ?_⟩
  rintro magic channel high low body rfl
  simp only [List.length_cons] at h
  omega

theorem leaves_of_frame {magic : UInt8} {tail : List TaggedByte}
    (h : Carries ((magic, .frame) :: tail ++ more) later)
    (hnext : nextTagged ((magic, .frame) :: tail) = none) :
    Leaves (bytes ((magic, .frame) :: tail)) := by
  obtain ⟨packet, rest, later, rfl, _, hstream, _⟩ := h.of_frame
  have hnone : nextFrame (bytes ((magic, .frame) :: tail)) = none :=
    Option.map_eq_none_iff.mp hnext
  refine ⟨hnone, ?_⟩
  intro magic' channel high low body hbytes
  obtain ⟨tail', hcons⟩ := tag_interleaved_eq_cons packet
  rw [hcons] at hstream
  obtain ⟨hmagic, _⟩ := List.cons.inj hstream
  obtain ⟨rfl, _⟩ := List.cons.inj hbytes
  exact congrArg Prod.fst hmagic

variable (given) in
/-- One chunk, behind which no message stands together with a part of a frame. -/
theorem receive_chunk (hkept : Kept s w) (hfits : Fits s (bytes chunk))
    (hreads : Reads nextTagged (w ++ chunk) packets rest) (hclear : Clear rest)
    (hcarries : Carries (rest ++ more) later) (hpart : rest <:+ w ++ chunk) :
    ∃ s' w', receive lib (s, given) (bytes chunk) =
        .ok (s', given ++ packets.flatMap (handle lib)) ∧
      Kept s' w' ∧ Carries (w' ++ more) later ∧ w' <:+ w ++ chunk := by
  have hnext := hreads.next_left
  have hstay : Leaves (bytes rest) → (∀ first, rest.head? = some first →
      first.2 = .message → rest.length < 4) → ∃ s' w', receive lib (s, given) (bytes chunk) =
        .ok (s', given ++ packets.flatMap (handle lib)) ∧
      Kept s' w' ∧ Carries (w' ++ more) later ∧ w' <:+ w ++ chunk := by
    intro hleaves hshort
    have hbytes := reads_bytes hreads hleaves.1
    rw [bytes_append, hkept.received] at hbytes
    obtain ⟨s', hs', hrest⟩ := receive_of_leaves lib given hfits hbytes hleaves
    exact ⟨s', rest, hs', ⟨hrest.symm, hnext, hshort⟩, hcarries, hpart⟩
  match rest with
  | [] => exact hstay (leaves_of_short (by simp)) (by simp)
  | (magic, .frame) :: tail =>
      apply hstay (leaves_of_frame hcarries hnext)
      intro first hfirst hmessage
      obtain rfl := Option.some.inj hfirst
      cases hmessage
  | (magic, .message) :: tail =>
      by_cases hshort : ((magic, Origin.message) :: tail).length < 4
      · refine hstay (leaves_of_short ?_) fun _ _ _ => hshort
        rwa [length_bytes]
      · -- the loop gives up the buffer, in which there are only messages
        obtain ⟨hmagic, honly⟩ := hclear (magic, .message) rfl rfl (Nat.not_lt.mp hshort)
        match tail, hshort with
        | (channel, _) :: (high, _) :: (low, _) :: body, _ =>
            have hnone : nextFrame (magic :: channel :: high :: low :: bytes body) = none := by
              rw [nextFrame, if_neg fun h => hmagic h.1]
            have hbytes := reads_bytes hreads hnone
            rw [bytes_append, hkept.received] at hbytes
            obtain ⟨s', hs', hrest⟩ :=
              receive_of_skips lib given hfits hbytes hmagic
            refine ⟨s', [], hs', ⟨hrest.symm, rfl, by simp⟩, ?_, List.nil_suffix⟩
            exact hcarries.of_messages honly
        | [], hlong => exact absurd (by simp) hlong
        | [_], hlong => exact absurd (by simp) hlong
        | [_, _], hlong => exact absurd (by simp) hlong

theorem Carries.eq_nil_of_short {stream : List TaggedByte} (h : Carries stream packets)
    (hshort : stream.length < 4) : packets = [] := by
  induction h with
  | nil => rfl
  | message b h ih =>
      rw [List.length_cons] at hshort
      exact ih (by omega)
  | @frame packet stream packets hpacket h ih =>
      rw [List.length_append, ← length_bytes, bytes_tag, interleaved] at hshort
      simp only [List.length_cons, Foundation.LengthPrefix.encode] at hshort
      omega

theorem Kept.eq_nil (hkept : Kept s w) (hcarries : Carries w later) : later = [] := by
  match w with
  | [] => exact hcarries.eq_nil_of_short (by simp)
  | (magic, .message) :: tail =>
      exact hcarries.eq_nil_of_short (hkept.short (magic, .message) rfl rfl)
  | (magic, .frame) :: tail =>
      obtain ⟨packet, rest, later, rfl, hpacket, hstream, _⟩ := hcarries.of_frame
      have hread := codec_interleaved.read hpacket (bytes rest)
      have hbytes : bytes ((magic, .frame) :: tail) = interleaved packet ++ bytes rest := by
        rw [hstream, bytes_append, bytes_tag]
      have hnone : nextFrame (bytes ((magic, .frame) :: tail)) = none :=
        Option.map_eq_none_iff.mp hkept.begun
      rw [hbytes, hread] at hnone
      cases hnone

end Chunks

section Runs

variable {items : List StreamItem} {chunks : List (List TaggedByte)}
  (hitems : ∀ item ∈ items, item.Valid)
  (hchunks : chunks.flatten = items.flatMap StreamItem.tagged)
  (hundisturbed : Undisturbed lib chunks)

include hitems hchunks hundisturbed

/-- After some of the chunks the first frames have been handed on, and what is kept and what
is still to come carries the others. -/
theorem receive_front {front back : List (List TaggedByte)} (hsplit : chunks = front ++ back) :
    ∃ s w arrived later,
      run (guarded (receive lib)) (.ok ({}, [])) (front.map bytes) =
        .ok (s, arrived.flatMap (handle lib)) ∧
      items.filterMap StreamItem.packet? = arrived ++ later ∧
      Kept s w ∧ Carries (w ++ back.flatten) later ∧ w <:+ front.flatten := by
  induction front using List.reverseRecOn generalizing back with
  | nil =>
      refine ⟨{}, [], [], _, rfl, rfl, ⟨rfl, rfl, by simp⟩, ?_, List.suffix_rfl⟩
      rw [List.nil_append] at hsplit
      rw [List.nil_append, ← hsplit, hchunks]
      exact carries_items items hitems
  | append_singleton front chunk ih =>
      have hsplit' : chunks = front ++ chunk :: back := by
        rw [hsplit, List.append_assoc, List.singleton_append]
      obtain ⟨s, w, arrived, later, hrun, hpackets, hkept, hcarries, hsuffix⟩ := ih hsplit'
      obtain ⟨hfits, hclear⟩ := hundisturbed front chunk back s _ hsplit' hrun
      have hwaiting : waiting s front.flatten = w := by
        rw [waiting, ← hkept.received, length_bytes, eq_rtake hsuffix]
      rw [hwaiting] at hclear
      obtain ⟨now, rest, hreads⟩ := exists_reads shorter_of_nextTagged (w ++ chunk)
      rw [List.flatten_cons, ← List.append_assoc] at hcarries
      obtain ⟨later, rfl, hrest, hpart⟩ := hcarries.reads hreads
      obtain ⟨s', w', hs', hkept', hcarries', hpart'⟩ :=
        receive_chunk lib (arrived.flatMap (handle lib)) hkept hfits hreads
          (hclear now rest hreads) hrest hpart
      refine ⟨s', w', arrived ++ now, later, ?_, ?_, hkept', hcarries', ?_⟩
      · rw [List.map_append, List.map_singleton, run_concat, hrun, guarded_ok, hs',
          List.flatMap_append]
      · rw [hpackets, List.append_assoc]
      · rw [List.flatten_append, List.flatten_singleton]
        obtain ⟨behind, hbehind⟩ := hsuffix
        rw [← hbehind, List.append_assoc]
        exact hpart'.trans (List.suffix_append _ _)

/-- In a run that no message disturbs, the packets of the frames are handed on in their
order, each of them once, whatever the chunks are. -/
theorem receive_undisturbed :
    (∃ s, run (guarded (receive lib)) (.ok ({}, [])) (chunks.map bytes) =
      .ok (s, (items.filterMap StreamItem.packet?).flatMap (handle lib))) ∧
    ∀ front back, chunks = front ++ back → ∃ s arrived later,
      run (guarded (receive lib)) (.ok ({}, [])) (front.map bytes) =
        .ok (s, arrived.flatMap (handle lib)) ∧
      items.filterMap StreamItem.packet? = arrived ++ later := by
  constructor
  · obtain ⟨s, w, arrived, later, hrun, hpackets, hkept, hcarries, _⟩ :=
      receive_front lib hitems hchunks hundisturbed (List.append_nil chunks).symm
    rw [List.flatten_nil, List.append_nil] at hcarries
    rw [hkept.eq_nil hcarries, List.append_nil] at hpackets
    exact ⟨s, by rw [hrun, hpackets]⟩
  · intro front back hsplit
    obtain ⟨s, _, arrived, later, hrun, hpackets, _⟩ :=
      receive_front lib hitems hchunks hundisturbed hsplit
    exact ⟨s, arrived, later, hrun, hpackets⟩

end Runs

/-- A short answer of a client, and a packet behind it. -/
def sampleItems : List StreamItem :=
  [.message [0x4F, 0x4B, 0x0D, 0x0A, 0x0D, 0x0A],
    .frame ⟨1, [0x80, 0xC9, 0, 1, 0, 0, 0, 9]⟩]

theorem valid_sampleItems : ∀ item ∈ sampleItems, item.Valid := by
  intro item hitem
  rcases List.mem_cons.mp hitem with rfl | hitem
  · exact ⟨by decide, by decide⟩
  · obtain rfl := List.mem_singleton.mp hitem
    change List.length _ < _
    decide

/-- The message and the frame arrive in a chunk each. -/
theorem receive_undisturbed_two_chunks :
    ∃ s, run (guarded (receive plainRtp)) (.ok ({}, []))
        ((sampleItems.map StreamItem.tagged).map bytes) =
      .ok (s, [.rtcp [0x80, 0xC9, 0, 1, 0, 0, 0, 9]]) := by
  refine (@receive_undisturbed plainRtp _ (sampleItems.map StreamItem.tagged)
    valid_sampleItems rfl ?_).1
  intro front chunk back s given hsplit hrun
  rcases front with _ | ⟨first, _ | ⟨second, front⟩⟩
  · obtain ⟨rfl, _⟩ := List.cons.inj hsplit
    obtain ⟨rfl, _⟩ := Prod.mk.inj (Except.ok.inj hrun)
    refine ⟨by unfold Fits; decide, ?_⟩
    intro packets rest hreads
    cases hreads with
    | stop _ =>
        intro first hfirst _ _
        obtain rfl := Option.some.inj hfirst
        exact ⟨by decide, by decide⟩
    | unit hnext _ => cases hnext
  · obtain ⟨rfl, htail⟩ := List.cons.inj hsplit
    obtain ⟨rfl, _⟩ := List.cons.inj htail
    have hfirst : run (guarded (receive plainRtp)) (.ok ({}, []))
        [[0x4F, 0x4B, 0x0D, 0x0A, 0x0D, 0x0A]] = .ok ({}, []) := by decide
    obtain ⟨rfl, _⟩ := Prod.mk.inj (Except.ok.inj (hfirst.symm.trans hrun))
    refine ⟨by unfold Fits; decide, ?_⟩
    intro packets rest hreads
    have hframe : nextTagged (tag .frame (interleaved ⟨1, [0x80, 0xC9, 0, 1, 0, 0, 0, 9]⟩)) =
        some (⟨1, [0x80, 0xC9, 0, 1, 0, 0, 0, 9]⟩, []) := by decide
    cases hreads with
    | stop hnext => cases hframe.symm.trans hnext
    | unit hnext hrest =>
        obtain ⟨_, rfl⟩ := Prod.mk.inj (Option.some.inj (hframe.symm.trans hnext))
        cases hrest with
        | stop _ =>
            intro first hfirst
            cases hfirst
        | unit hnext _ => cases hnext
  · obtain ⟨_, htail⟩ := List.cons.inj hsplit
    obtain ⟨_, htail⟩ := List.cons.inj htail
    cases front <;> cases htail

/-- In one chunk the frame goes with the message. -/
theorem not_handed_on_in_one_chunk :
    ¬ ∀ (items : List StreamItem) (chunks : List (List TaggedByte)),
      (∀ item ∈ items, item.Valid) → chunks.flatten = items.flatMap StreamItem.tagged →
        ∃ s, run (guarded (receive plainRtp)) (.ok ({}, [])) (chunks.map bytes) =
          .ok (s, (items.filterMap StreamItem.packet?).flatMap (handle plainRtp)) := by
  intro h
  obtain ⟨s, hs⟩ := h sampleItems [sampleItems.flatMap StreamItem.tagged] valid_sampleItems rfl
  have hlost : run (guarded (receive plainRtp)) (.ok ({}, []))
      ([sampleItems.flatMap StreamItem.tagged].map bytes) = .ok ({}, []) := by decide
  rw [hlost] at hs
  obtain ⟨_, hhanded⟩ := Prod.mk.inj (Except.ok.inj hs)
  exact absurd hhanded (by decide)

end GBServer.RtspMessages
