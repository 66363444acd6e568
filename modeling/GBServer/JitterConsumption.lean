import GBServer.JitterBuffer

namespace GBServer

open Foundation.Deques
open Foundation.Runs

/-- Each frame carries the count of the frames before it. -/
structure JitterConsumption (Image : Type*) where
  buffer : JitterBuffer (Image × Nat)
  added : Nat := 0
  outPacket : Option (JitterBufferPacket (Image × Nat) × Nat) := none
  returned : List Nat := []

namespace JitterConsumption

variable {Image : Type*}

/-- Each input is one critical section. -/
inductive Input (Image : Type*) where
  | addFrame (frame : Image) (rtpTimestamp : UInt32) (seq : BitVec 16) (isKeyFrame : Bool)
      (nowMs : Int)
  | consume (nowMs : Int)

/-- The consumer is at its `PopFrame` when it has a pointer, and at its `GetFrame` otherwise. -/
def step (s : JitterConsumption Image) : Input Image → JitterConsumption Image
  | .addFrame frame rtpTimestamp seq isKeyFrame nowMs =>
      { s with
        buffer := s.buffer.addFrame
          { frame := (frame, s.added), timestampMs := nowMs, rtpTimestamp, seq, isKeyFrame }
        added := s.added + 1 }
  | .consume nowMs =>
      match s.outPacket with
      | some _ => { s with buffer := s.buffer.popFrame, outPacket := none }
      | none =>
          match s.buffer.getFrame nowMs with
          | none => s
          | some out => { s with outPacket := some out, returned := out.1.frame.2 :: s.returned }

def start (targetDelayMs : Int) : JitterConsumption Image := { buffer := { targetDelayMs } }

def tickets (s : JitterConsumption Image) : List Nat := s.buffer.frames.map fun p => p.frame.2

/-- The pointer of the consumer is valid, and still points to what it was returned for. -/
def Valid (s : JitterConsumption Image) : Prop :=
  ∀ out ∈ s.outPacket, s.buffer.packetBuffer.Refers out.2 out.1

def ReturnedOnce (s : JitterConsumption Image) : Prop := s.returned.Nodup

/-- A `PopFrame` removes exactly the frame that was returned last. -/
def PopsReturned (s : JitterConsumption Image) (input : Input Image) : Prop :=
  match input with
  | .addFrame .. => True
  | .consume _ => ∀ out ∈ s.outPacket, s.tickets = out.1.frame.2 :: (s.step input).tickets

/-- A frame that no `AddFrame` removes has been returned. -/
def OnlyReturned (s : JitterConsumption Image) (input : Input Image) : Prop :=
  match input with
  | .addFrame .. => True
  | .consume _ => ∀ ticket ∈ s.tickets, ticket ∈ (s.step input).tickets ∨ ticket ∈ s.returned

/-- While the consumer has a pointer, an `AddFrame` has nothing to purge and nothing to drop. -/
def Undisturbed (s : JitterConsumption Image) : Input Image → Prop
  | .addFrame _ _ seq isKeyFrame _ =>
      s.outPacket.isSome →
        (isKeyFrame → ∀ p ∈ s.buffer.frames, JitterBuffer.isStale seq p = false) ∧
          s.buffer.frames.length < 100
  | .consume _ => True

section References

open JitterBuffer

variable {d : Deque (JitterBufferPacket Image)} {seq : BitVec 16} {reference : Nat}
  {a : JitterBufferPacket Image}

theorem purge_eq_self (h : ∀ p ∈ d.elements, isStale seq p = false) (rest it : Nat) :
    purge seq rest it d = d := by
  induction rest generalizing it with
  | zero => rfl
  | succ rest ih =>
      rw [purge]
      split
      case h_1 => rfl
      case h_2 p hp =>
        rw [h p (List.mem_of_getElem? hp), if_neg Bool.false_ne_true]
        exact ih (it + 1)

theorem lost_purge_of_lost (h : d.Lost reference) (rest it : Nat) :
    (purge seq rest it d).Lost reference := by
  induction rest generalizing it d with
  | zero => exact h
  | succ rest ih =>
      rw [purge]
      split
      case h_1 => exact h
      case h_2 =>
        split
        · exact ih (h.erase it) it
        · exact ih h (it + 1)

/-- The first frame that is purged takes the reference to the front with it, when the last frame
stays. -/
theorem lost_purge (hfront : d.front? = some (a, reference))
    (hlast : ∀ p ∈ d.elements.getLast?, isStale seq p = false) (rest it : Nat)
    (hrest : it + rest = d.size) (hstale : ∃ p ∈ d.elements.drop it, isStale seq p = true) :
    (purge seq rest it d).Lost reference := by
  induction rest generalizing it with
  | zero =>
      obtain ⟨p, hp, _⟩ := hstale
      have hlength : d.elements.length = it := d.length_elements.trans hrest.symm
      rw [List.drop_eq_nil_of_le hlength.le] at hp
      cases hp
  | succ rest ih =>
      have hlt : it < d.elements.length := by
        rw [d.length_elements]
        omega
      rw [purge, List.getElem?_eq_getElem hlt]
      dsimp only
      split
      case isTrue hit =>
        have herased : (d.erase it).Lost reference := by
          by_cases hzero : it = 0
          · subst hzero
            exact Deque.lost_erase_zero hfront
          · refine Deque.lost_erase_of_inside hzero ?_ (Deque.front_refers hfront).lt
            intro hend
            have hgetLast : d.elements.getLast? = some d.elements[it] := by
              rw [List.getLast?_eq_getElem?, d.length_elements, ← hend, Nat.add_sub_cancel,
                List.getElem?_eq_getElem hlt]
            rw [hlast _ hgetLast] at hit
            cases hit
        exact lost_purge_of_lost herased rest it
      case isFalse hit =>
        refine ih (it + 1) (by omega) ?_
        obtain ⟨p, hp, hpStale⟩ := hstale
        rw [List.drop_eq_getElem_cons hlt] at hp
        rcases List.mem_cons.mp hp with rfl | hlater
        · exact absurd hpStale hit
        · exact ⟨p, hlater, hpStale⟩

theorem trim_eq_self (h : d.size ≤ 100) (n : Nat) : trim n d = d := by
  cases n with
  | zero => rfl
  | succ n => rw [trim, if_neg (Nat.not_lt.mpr h)]

theorem lost_trim_of_lost (h : d.Lost reference) (n : Nat) : (trim n d).Lost reference := by
  induction n generalizing d with
  | zero => exact h
  | succ n ih =>
      rw [trim]
      split
      · exact ih h.popFront
      · exact h

theorem lost_trim (hfront : d.front? = some (a, reference)) (h : 100 < d.size) :
    (trim d.size d).Lost reference := by
  obtain ⟨n, hn⟩ := Nat.exists_eq_add_of_lt h
  rw [hn, trim, if_pos h]
  exact lost_trim_of_lost (Deque.lost_popFront hfront) _

variable {b : JitterBuffer Image} {packet : JitterBufferPacket Image}

theorem addFrame_of_kept
    (hkept : packet.isKeyFrame → ∀ p ∈ b.frames, isStale packet.seq p = false) :
    (b.addFrame packet).packetBuffer =
      trim (b.packetBuffer.pushBack packet).size (b.packetBuffer.pushBack packet) := by
  rw [addFrame]
  dsimp only
  split
  case isTrue hkey =>
    have hnone : ∀ p ∈ (b.packetBuffer.pushBack packet).elements,
        isStale packet.seq p = false := by
      intro p hp
      rw [Deque.elements_pushBack] at hp
      rcases List.mem_append.mp hp with hold | hnew
      · exact hkept hkey p hold
      · rw [List.mem_singleton.mp hnew, isStale, hkey]
        rfl
    rw [purge_eq_self hnone]
  case isFalse => rfl

theorem addFrame_of_undisturbed
    (hkept : packet.isKeyFrame → ∀ p ∈ b.frames, isStale packet.seq p = false)
    (hfits : b.frames.length < 100) :
    (b.addFrame packet).packetBuffer = b.packetBuffer.pushBack packet := by
  have hsize : (b.packetBuffer.pushBack packet).size ≤ 100 := by
    rw [← Deque.length_elements, Deque.elements_pushBack, List.length_append]
    exact hfits
  rw [addFrame_of_kept hkept, trim_eq_self hsize]

theorem lost_addFrame_of_purged (hfront : b.packetBuffer.front? = some (a, reference))
    (hkey : packet.isKeyFrame = true) (hstale : ∃ p ∈ b.frames, isStale packet.seq p = true) :
    (b.addFrame packet).packetBuffer.Lost reference := by
  have hlast : ∀ p ∈ (b.packetBuffer.pushBack packet).elements.getLast?,
      isStale packet.seq p = false := by
    intro p hp
    rw [Deque.elements_pushBack, List.getLast?_concat, Option.mem_some_iff] at hp
    rw [← hp, isStale, hkey]
    rfl
  obtain ⟨p, hp, hpStale⟩ := hstale
  have hmem : p ∈ (b.packetBuffer.pushBack packet).elements.drop 0 := by
    rw [List.drop_zero, Deque.elements_pushBack]
    exact List.mem_append_left _ hp
  rw [addFrame]
  dsimp only
  rw [if_pos hkey]
  refine lost_trim_of_lost ?_ _
  exact lost_purge (Deque.front?_pushBack hfront packet) hlast _ 0 (Nat.zero_add _)
    ⟨p, hmem, hpStale⟩

/-- What an `AddFrame` purges or drops takes the reference to the front with it. -/
theorem lost_addFrame (hfront : b.packetBuffer.front? = some (a, reference))
    (h : ¬ ((packet.isKeyFrame → ∀ p ∈ b.frames, isStale packet.seq p = false) ∧
      b.frames.length < 100)) :
    (b.addFrame packet).packetBuffer.Lost reference := by
  by_cases hkept : packet.isKeyFrame → ∀ p ∈ b.frames, isStale packet.seq p = false
  · have hfull : 100 < (b.packetBuffer.pushBack packet).size := by
      rw [← Deque.length_elements, Deque.elements_pushBack, List.length_append]
      exact Nat.lt_succ_of_le (Nat.not_lt.mp fun hfits => h ⟨hkept, hfits⟩)
    rw [addFrame_of_kept hkept]
    exact lost_trim (Deque.front?_pushBack hfront packet) hfull
  · push Not at hkept
    obtain ⟨hkey, p, hp, hstale⟩ := hkept
    exact lost_addFrame_of_purged hfront hkey ⟨p, hp, by simpa using hstale⟩

end References

/-- The frames in the order of their tickets, and none of them returned but the first. -/
structure Ordered (s : JitterConsumption Image) : Prop where
  increasing : s.tickets.Pairwise (· < ·)
  added : ∀ ticket ∈ s.tickets, ticket < s.added
  nodup : s.returned.Nodup
  returned : ∀ old ∈ s.returned, old < s.added
  remaining : ∀ old ∈ s.returned, ∀ ticket ∈ s.tickets, old ≤ ticket
  idle : s.outPacket = none → ∀ old ∈ s.returned, ∀ ticket ∈ s.tickets, old < ticket

structure Tracking (s : JitterConsumption Image) : Prop where
  ordered : s.Ordered
  front : ∀ out ∈ s.outPacket, s.buffer.packetBuffer.front? = some out
  known : ∀ out ∈ s.outPacket, out.1.frame.2 ∈ s.returned

section Steps

variable {s : JitterConsumption Image}

theorem consume_cases (s : JitterConsumption Image) (nowMs : Int) :
    (∃ out, s.outPacket = some out ∧
      s.step (.consume nowMs) = { s with buffer := s.buffer.popFrame, outPacket := none }) ∨
    (s.outPacket = none ∧ s.step (.consume nowMs) = s) ∨
    (∃ out, s.outPacket = none ∧ s.buffer.packetBuffer.front? = some out ∧
      s.step (.consume nowMs) =
        { s with outPacket := some out, returned := out.1.frame.2 :: s.returned }) := by
  rw [step]
  split
  case h_1 out hout => exact .inl ⟨out, hout, rfl⟩
  case h_2 hidle =>
    split
    case h_1 => exact .inr (.inl ⟨hidle, rfl⟩)
    case h_2 out hget =>
      have hfront := (JitterBuffer.getFrame_eq_some_iff.mp hget).1
      exact .inr (.inr ⟨out, hidle, hfront, rfl⟩)

theorem tickets_eq_cons {out : JitterBufferPacket (Image × Nat) × Nat}
    (h : s.buffer.packetBuffer.front? = some out) :
    s.tickets = out.1.frame.2 :: s.tickets.tail := by
  obtain ⟨rest, hcells⟩ := List.head?_eq_some_iff.mp h
  rw [tickets, JitterBuffer.frames, Deque.elements, hcells]
  rfl

theorem tickets_popFrame (s : JitterConsumption Image) :
    tickets { s with buffer := s.buffer.popFrame, outPacket := none } = s.tickets.tail := by
  rw [tickets, JitterBuffer.frames_popFrame, List.map_tail, tickets]

theorem tickets_addFrame_sublist (s : JitterConsumption Image) (frame : Image)
    (rtpTimestamp : UInt32) (seq : BitVec 16) (isKeyFrame : Bool) (nowMs : Int) :
    (s.step (.addFrame frame rtpTimestamp seq isKeyFrame nowMs)).tickets.Sublist
      (s.tickets ++ [s.added]) := by
  rw [tickets, step, JitterBuffer.frames_addFrame, tickets]
  refine ((List.drop_sublist _ _).map _).trans ?_
  rw [List.map_append, List.map_singleton]
  refine List.Sublist.append_right ?_ _
  split
  · exact List.filter_sublist.map _
  · exact List.Sublist.refl _

theorem Ordered.addFrame (h : s.Ordered) (frame : Image) (rtpTimestamp : UInt32)
    (seq : BitVec 16) (isKeyFrame : Bool) (nowMs : Int) :
    (s.step (.addFrame frame rtpTimestamp seq isKeyFrame nowMs)).Ordered := by
  have hsublist := s.tickets_addFrame_sublist frame rtpTimestamp seq isKeyFrame nowMs
  have hcases : ∀ ticket ∈ (s.step (.addFrame frame rtpTimestamp seq isKeyFrame nowMs)).tickets,
      ticket ∈ s.tickets ∨ ticket = s.added := by
    intro ticket hticket
    rcases List.mem_append.mp (hsublist.subset hticket) with hold | hnew
    · exact .inl hold
    · exact .inr (List.mem_singleton.mp hnew)
  constructor
  · refine List.Pairwise.sublist hsublist ?_
    refine List.pairwise_append.mpr ⟨h.increasing, List.pairwise_singleton _ _, ?_⟩
    intro ticket hticket last hlast
    rw [List.mem_singleton.mp hlast]
    exact h.added ticket hticket
  · intro ticket hticket
    rcases hcases ticket hticket with hold | rfl
    · exact Nat.lt_succ_of_lt (h.added ticket hold)
    · exact Nat.lt_succ_self _
  · exact h.nodup
  · intro old hreturned
    exact Nat.lt_succ_of_lt (h.returned old hreturned)
  · intro old hreturned ticket hticket
    rcases hcases ticket hticket with hold | rfl
    · exact h.remaining old hreturned ticket hold
    · exact (h.returned old hreturned).le
  · intro hidle old hreturned ticket hticket
    rcases hcases ticket hticket with hold | rfl
    · exact h.idle hidle old hreturned ticket hold
    · exact h.returned old hreturned

theorem Ordered.popFrame (h : s.Ordered) :
    Ordered { s with buffer := s.buffer.popFrame, outPacket := none } := by
  have hless : ∀ old ∈ s.returned, ∀ ticket ∈ s.tickets.tail, old < ticket := by
    intro old hreturned ticket hticket
    cases htickets : s.tickets with
    | nil =>
        rw [htickets] at hticket
        cases hticket
    | cons first rest =>
        have hincreasing := h.increasing
        rw [htickets, List.pairwise_cons] at hincreasing
        rw [htickets] at hticket
        have hfirst : old ≤ first := by
          refine h.remaining old hreturned first ?_
          rw [htickets]
          exact List.mem_cons_self
        exact hfirst.trans_lt (hincreasing.1 ticket hticket)
  constructor
  · rw [tickets_popFrame]
    exact h.increasing.sublist (List.tail_sublist _)
  · rw [tickets_popFrame]
    exact fun ticket hticket => h.added ticket (List.mem_of_mem_tail hticket)
  · exact h.nodup
  · exact h.returned
  · rw [tickets_popFrame]
    exact fun old hreturned ticket hticket => (hless old hreturned ticket hticket).le
  · rw [tickets_popFrame]
    exact fun _ => hless

theorem Ordered.getFrame (h : s.Ordered) (hidle : s.outPacket = none)
    {out : JitterBufferPacket (Image × Nat) × Nat}
    (hfront : s.buffer.packetBuffer.front? = some out) :
    Ordered { s with outPacket := some out, returned := out.1.frame.2 :: s.returned } := by
  have hmem : out.1.frame.2 ∈ s.tickets := by
    rw [tickets_eq_cons hfront]
    exact List.mem_cons_self
  constructor
  · exact h.increasing
  · exact h.added
  · rw [List.nodup_cons]
    refine ⟨?_, h.nodup⟩
    intro hagain
    exact absurd (h.idle hidle _ hagain _ hmem) (Nat.lt_irrefl _)
  · intro old hreturned
    rcases List.mem_cons.mp hreturned with rfl | hearlier
    · exact h.added _ hmem
    · exact h.returned old hearlier
  · intro old hreturned ticket hticket
    rcases List.mem_cons.mp hreturned with rfl | hearlier
    · have hincreasing := h.increasing
      rw [tickets_eq_cons hfront, List.pairwise_cons] at hincreasing
      change ticket ∈ s.tickets at hticket
      rw [tickets_eq_cons hfront] at hticket
      rcases List.mem_cons.mp hticket with rfl | hlater
      · exact Nat.le_refl _
      · exact (hincreasing.1 ticket hlater).le
    · exact h.remaining old hearlier ticket hticket
  · intro hnone
    cases hnone

theorem Ordered.step (h : s.Ordered) (input : Input Image) : (s.step input).Ordered := by
  cases input with
  | addFrame frame rtpTimestamp seq isKeyFrame nowMs =>
      exact h.addFrame frame rtpTimestamp seq isKeyFrame nowMs
  | consume nowMs =>
      obtain ⟨out, _, hstep⟩ | ⟨_, hstep⟩ | ⟨out, hidle, hfront, hstep⟩ := s.consume_cases nowMs
      · rw [hstep]
        exact h.popFrame
      · rw [hstep]
        exact h
      · rw [hstep]
        exact h.getFrame hidle hfront

theorem Tracking.valid (h : s.Tracking) : s.Valid :=
  fun out hout => Deque.front_refers (h.front out hout)

theorem Tracking.consume (h : s.Tracking) (nowMs : Int) : (s.step (.consume nowMs)).Tracking := by
  have hordered := h.ordered.step (.consume nowMs)
  obtain ⟨out, _, hstep⟩ | ⟨_, hstep⟩ | ⟨out, _, hfront, hstep⟩ := s.consume_cases nowMs
  · rw [hstep] at hordered ⊢
    exact ⟨hordered, fun _ hnone => absurd hnone (Option.not_mem_none _),
      fun _ hnone => absurd hnone (Option.not_mem_none _)⟩
  · rw [hstep]
    exact h
  · rw [hstep] at hordered ⊢
    refine ⟨hordered, ?_, ?_⟩
    · intro held hheld
      rw [← Option.mem_some_iff.mp hheld]
      exact hfront
    · intro held hheld
      rw [← Option.mem_some_iff.mp hheld]
      exact List.mem_cons_self

theorem Tracking.addFrame (h : s.Tracking) {frame : Image} {rtpTimestamp : UInt32}
    {seq : BitVec 16} {isKeyFrame : Bool} {nowMs : Int}
    (hundisturbed : s.Undisturbed (.addFrame frame rtpTimestamp seq isKeyFrame nowMs)) :
    (s.step (.addFrame frame rtpTimestamp seq isKeyFrame nowMs)).Tracking := by
  refine ⟨h.ordered.step _, ?_, h.known⟩
  intro out hout
  obtain ⟨hkept, hfits⟩ := hundisturbed (Option.isSome_of_mem hout)
  rw [JitterConsumption.step]
  dsimp only
  rw [addFrame_of_undisturbed hkept hfits]
  exact Deque.front?_pushBack (h.front out hout) _

theorem Tracking.valid_step_iff (h : s.Tracking) (input : Input Image) :
    (s.step input).Valid ↔ s.Undisturbed input := by
  cases input with
  | consume nowMs => exact iff_of_true (h.consume nowMs).valid trivial
  | addFrame frame rtpTimestamp seq isKeyFrame nowMs =>
      constructor
      · intro hvalid hheld
        obtain ⟨out, hout⟩ := Option.isSome_iff_exists.mp hheld
        by_contra hdisturbed
        have hlost : (s.step
            (.addFrame frame rtpTimestamp seq isKeyFrame nowMs)).buffer.packetBuffer.Lost out.2 :=
          lost_addFrame (h.front out hout) hdisturbed
        exact hlost.invalid out.1 (hvalid out hout)
      · intro hundisturbed
        exact (h.addFrame hundisturbed).valid

theorem Tracking.step (h : s.Tracking) {input : Input Image} (hundisturbed : s.Undisturbed input) :
    (s.step input).Tracking := by
  cases input with
  | consume nowMs => exact h.consume nowMs
  | addFrame => exact h.addFrame hundisturbed

theorem Tracking.popsReturned (h : s.Tracking) (input : Input Image) : s.PopsReturned input := by
  cases input with
  | addFrame => trivial
  | consume nowMs =>
      intro out hout
      obtain ⟨_, _, hstep⟩ | ⟨hidle, _⟩ | ⟨_, hidle, _, _⟩ := s.consume_cases nowMs
      · rw [hstep, tickets_popFrame]
        exact tickets_eq_cons (h.front out hout)
      · rw [hidle] at hout
        cases hout
      · rw [hidle] at hout
        cases hout

theorem Tracking.onlyReturned (h : s.Tracking) (input : Input Image) : s.OnlyReturned input := by
  cases input with
  | addFrame => trivial
  | consume nowMs =>
      intro ticket hticket
      obtain ⟨out, hout, hstep⟩ | ⟨_, hstep⟩ | ⟨_, _, _, hstep⟩ := s.consume_cases nowMs
      · rw [tickets_eq_cons (h.front out hout)] at hticket
        rw [hstep, tickets_popFrame]
        rcases List.mem_cons.mp hticket with rfl | hlater
        · exact .inr (h.known out hout)
        · exact .inl hlater
      · rw [hstep]
        exact .inl hticket
      · rw [hstep]
        exact .inl hticket

theorem ordered_start (targetDelayMs : Int) :
    (start targetDelayMs : JitterConsumption Image).Ordered := by
  constructor
  · exact .nil
  · exact fun _ hticket => absurd hticket List.not_mem_nil
  · exact .nil
  · exact fun _ hreturned => absurd hreturned List.not_mem_nil
  · exact fun _ hreturned => absurd hreturned List.not_mem_nil
  · exact fun _ _ hreturned => absurd hreturned List.not_mem_nil

theorem tracking_start (targetDelayMs : Int) :
    (start targetDelayMs : JitterConsumption Image).Tracking :=
  ⟨ordered_start targetDelayMs, fun _ hnone => absurd hnone (Option.not_mem_none _),
    fun _ hnone => absurd hnone (Option.not_mem_none _)⟩

end Steps

section Runs

theorem throughout_returnedOnce (targetDelayMs : Int) (inputs : List (Input Image)) :
    Throughout step ReturnedOnce (start targetDelayMs) inputs := by
  intro front _ _
  have hordered : (run step (start targetDelayMs) front).Ordered :=
    invariant_run_of_step (ordered_start targetDelayMs) (fun _ input h => h.step input) front
  exact hordered.nodup

theorem throughout_valid_iff (targetDelayMs : Int) (inputs : List (Input Image)) :
    Throughout step Valid (start targetDelayMs) inputs ↔
      Admitted step Undisturbed (start targetDelayMs) inputs := by
  refine throughout_iff_admitted (tracking_start targetDelayMs).valid
    (tracking_start targetDelayMs) ?_ ?_
  · intro s input h _
    exact h.valid_step_iff input
  · intro s input h _ hvalid
    exact h.step ((h.valid_step_iff input).mp hvalid)

/-- No frame is returned twice; and in a run the pointer stays valid, each `PopFrame` removes
what was returned and nothing else, exactly when no `AddFrame` purges or drops a frame between a
`GetFrame` and its `PopFrame`. -/
theorem returnedOnce_and_consumed_iff (targetDelayMs : Int) (inputs : List (Input Image)) :
    Throughout step ReturnedOnce (start targetDelayMs) inputs ∧
      (Throughout step Valid (start targetDelayMs) inputs ∧
          Admitted step PopsReturned (start targetDelayMs) inputs ∧
          Admitted step OnlyReturned (start targetDelayMs) inputs ↔
        Admitted step Undisturbed (start targetDelayMs) inputs) := by
  refine ⟨throughout_returnedOnce targetDelayMs inputs, ?_⟩
  constructor
  · rintro ⟨hvalid, _, _⟩
    exact (throughout_valid_iff targetDelayMs inputs).mp hvalid
  · intro hundisturbed
    have htracking : Throughout step Tracking (start targetDelayMs) inputs :=
      throughout_of_admitted (tracking_start targetDelayMs) (fun _ _ h hok => h.step hok)
        hundisturbed
    refine ⟨(throughout_valid_iff targetDelayMs inputs).mpr hundisturbed, ?_, ?_⟩
    · intro front input back heq
      exact (htracking front _ heq).popsReturned input
    · intro front input back heq
      exact (htracking front _ heq).onlyReturned input

end Runs

/-- A key frame purges the frame that the consumer has in its hands, and is popped for it. -/
theorem not_popsReturned_purged :
    ¬ ∀ inputs : List (Input Unit),
      Throughout step ReturnedOnce (start 100) inputs ∧
        Throughout step Valid (start 100) inputs ∧
        Admitted step PopsReturned (start 100) inputs ∧
        Admitted step OnlyReturned (start 100) inputs := by
  intro hall
  have hpops := (hall [.addFrame () 0 7 false 0, .consume 100, .addFrame () 0 8 true 110,
    .consume 110]).2.2.1 [.addFrame () 0 7 false 0, .consume 100, .addFrame () 0 8 true 110]
    (.consume 110) [] rfl
  have hfirst : [1] = 0 :: ([] : List Nat) := hpops (⟨((), 0), 0, 0, 7, false⟩, 0) rfl
  cases hfirst

end JitterConsumption

end GBServer
