import GBServer.Foundation.CStrings
import GBServer.Foundation.OrderedMap
import GBServer.Foundation.Runs

namespace GBServer.WebSocketStats

open Std (ExtTreeMap)
open Foundation.CStrings
open Foundation.OrderedMap
open Foundation.Runs

/-- `websocketpp::connection_hdl`; each connection has its own. -/
abbrev ConnectionHdl := Nat

inductive SubscriptionTarget where
  | system
  | sessions
  | session
  | producer
  | consumer
  deriving DecidableEq, Repr

structure Subscription where
  target : SubscriptionTarget
  id : CString
  interval : Int
  lastPushTime : Int := 0
  deriving DecidableEq, Repr

structure ConnectionInfo where
  subscriptions : List Subscription := []
  lastPingTime : Int
  deriving DecidableEq, Repr

/-- What `OnMessage` and `HandleSubscribe` find in a message. Everything they answer with an
error before they look at the connection is `rejected`. -/
inductive ClientMessage where
  | subscribe (target : SubscriptionTarget) (id : CString) (interval : Int)
  | unsubscribe
  | ping
  | rejected
  deriving DecidableEq, Repr

/-- `counter` is the static counter of `GenerateConnectionId`. -/
structure Tables where
  connections : ExtTreeMap CString ConnectionInfo := ∅
  hdlToId : ExtTreeMap ConnectionHdl CString := ∅
  idToHdl : ExtTreeMap CString ConnectionHdl := ∅
  counter : Nat := 0

def generateConnectionId (nowMs counter : Nat) : CString :=
  ascii "conn_" ++ (ascii nowMs.repr ++ 0x5F :: ascii counter.repr)

/-- The targets that `HandleSubscribe` refuses without an `id`. -/
def SubscriptionTarget.needsId : SubscriptionTarget → Bool
  | .system | .sessions => false
  | .session | .producer | .consumer => true

def Subscription.due (sub : Subscription) (now : Int) : Bool :=
  sub.interval ≤ now - sub.lastPushTime

namespace Tables

def addHandle (t : Tables) (hdl : ConnectionHdl) (id : CString) : Tables :=
  { t with hdlToId := t.hdlToId.insert hdl id, idToHdl := t.idToHdl.insert id hdl }

def removeHandle (t : Tables) (hdl : ConnectionHdl) (id : CString) : Tables :=
  { t with hdlToId := t.hdlToId.erase hdl, idToHdl := t.idToHdl.erase id }

def onOpen (t : Tables) (id : CString) (nowMs : Nat) : Tables :=
  { t with connections := t.connections.insert id { lastPingTime := nowMs } }

def removeConnection (t : Tables) (id : CString) : Tables :=
  { t with connections := t.connections.erase id }

/-- `GetConnectionInfo`, and what is done to the connection if it is found. -/
def modifyInfo (t : Tables) (id : CString) (f : ConnectionInfo → ConnectionInfo) : Tables :=
  { t with connections := t.connections.modify id f }

def handleSubscribe (t : Tables) (connectionId : CString) (sub : Subscription) : Tables :=
  t.modifyInfo connectionId fun info => { info with subscriptions := info.subscriptions ++ [sub] }

def handleUnsubscribe (t : Tables) (connectionId : CString) : Tables :=
  t.modifyInfo connectionId fun info => { info with subscriptions := [] }

def handlePing (t : Tables) (connectionId : CString) (now : Int) : Tables :=
  t.modifyInfo connectionId fun info => { info with lastPingTime := now }

def onMessage (t : Tables) (connectionId : CString) (now : Int) : ClientMessage → Tables
  | .subscribe target id interval =>
      if target.needsId && id.isEmpty then t
      else t.handleSubscribe connectionId { target, id, interval }
  | .unsubscribe => t.handleUnsubscribe connectionId
  | .ping => t.handlePing connectionId now
  | .rejected => t

/-- The subscriptions that `PushStatsTimer` serves now. -/
def pushTasks (t : Tables) (now : Int) : List (CString × Subscription) :=
  t.connections.toList.flatMap fun (id, info) =>
    (info.subscriptions.filter (·.due now)).map fun sub => (id, sub)

def markPushed (t : Tables) (now : Int) : Tables :=
  { t with
    connections := t.connections.map fun _ info =>
      { info with
        subscriptions := info.subscriptions.map fun sub =>
          if sub.due now then { sub with lastPushTime := now } else sub } }

/-- The connections that the ping thread closes. -/
def timedOut (t : Tables) (now pingTimeout : Int) : List CString :=
  (t.connections.toList.filter fun (_, info) => pingTimeout < now - info.lastPingTime).map
    Prod.fst

def clearConnections (t : Tables) : Tables := { t with connections := ∅ }

def clearHandles (t : Tables) : Tables := { t with hdlToId := ∅, idToHdl := ∅ }

end Tables

/-- How far `Stop` has come: it waits for the push and the ping thread, clears
`connections_`, clears the maps of the handles, and waits for the thread of the handlers. -/
inductive Phase where
  | stopped
  | running
  | joining
  | connectionsCleared
  | handlesCleared
  deriving DecidableEq, Repr

/-- `opened` are the connections opened since the service was started. `late` are those
opened, and not closed again, since `Stop` last cleared a table, and `stale` those among
them whose handles it has cleared. -/
structure Service where
  tables : Tables := {}
  phase : Phase := .stopped
  nextHdl : ConnectionHdl := 0
  opened : List CString := []
  late : List CString := []
  stale : List CString := []

inductive Input where
  | start
  | open (nowMs : Nat)
  | close (hdl : ConnectionHdl)
  | message (hdl : ConnectionHdl) (message : ClientMessage) (now : Int)
  | push (now : Int)
  | stop
  deriving DecidableEq, Repr

namespace Service

def Clearing (s : Service) : Prop := s.phase = .connectionsCleared ∨ s.phase = .handlesCleared

instance (s : Service) : Decidable s.Clearing := inferInstanceAs (Decidable (_ ∨ _))

def start (s : Service) : Service :=
  match s.phase with
  | .stopped => { s with phase := .running, opened := [] }
  | _ => s

def openHandler (s : Service) (nowMs : Nat) : Service :=
  let id := generateConnectionId nowMs s.tables.counter
  { s with
    tables :=
      ({ s.tables with counter := s.tables.counter + 1 }.addHandle s.nextHdl id).onOpen id nowMs
    nextHdl := s.nextHdl + 1
    opened := id :: s.opened
    late := if s.Clearing then id :: s.late else s.late }

def closeHandler (s : Service) (hdl : ConnectionHdl) : Service :=
  match s.tables.hdlToId[hdl]? with
  | none => s
  | some id =>
      { s with
        tables := (s.tables.removeHandle hdl id).removeConnection id
        late := s.late.filter (· ≠ id) }

def messageHandler (s : Service) (hdl : ConnectionHdl) (message : ClientMessage) (now : Int) :
    Service :=
  match s.tables.hdlToId[hdl]? with
  | none => s
  | some id => { s with tables := s.tables.onMessage id now message }

/-- The next section of `Stop`. -/
def stop (s : Service) : Service :=
  match s.phase with
  | .stopped => s
  | .running => { s with phase := .joining }
  | .joining => { s with tables := s.tables.clearConnections, phase := .connectionsCleared }
  | .connectionsCleared =>
      { s with
        tables := s.tables.clearHandles
        phase := .handlesCleared
        late := []
        stale := s.late }
  | .handlesCleared => { s with phase := .stopped }

/-- The handlers run until `Stop` has joined their thread, and `PushStatsTimer` until it has
joined the push thread. -/
def step (s : Service) : Input → Service
  | .start => s.start
  | .open nowMs => if s.phase = .stopped then s else s.openHandler nowMs
  | .close hdl => if s.phase = .stopped then s else s.closeHandler hdl
  | .message hdl message now => if s.phase = .stopped then s else s.messageHandler hdl message now
  | .push now =>
      if s.phase = .running ∨ s.phase = .joining then { s with tables := s.tables.markPushed now }
      else s
  | .stop => s.stop

/-- The maps of the handles are inverse to each other; but for the middle of `Stop`, they
have the keys of `connections_`, all of them opened since the last start; and after `Stop`
everything is empty. -/
structure Consistent (s : Service) : Prop where
  inverse : Inverse s.tables.hdlToId s.tables.idToHdl
  keys : ¬ s.Clearing → ∀ id, id ∈ s.tables.connections ↔ id ∈ s.tables.idToHdl
  current : ¬ s.Clearing → ∀ id ∈ s.tables.connections, id ∈ s.opened
  empty : s.phase = .stopped →
    s.tables.connections = ∅ ∧ s.tables.hdlToId = ∅ ∧ s.tables.idToHdl = ∅

/-- `Stop` returns only when each connection opened since it cleared `connections_` was
closed before the next table was cleared, or before the handlers' thread ended. -/
def ClosesLate (s : Service) : Input → Prop
  | .stop => s.phase = .handlesCleared → s.late = [] ∧ s.stale = []
  | _ => True

end Service

section Ids

theorem generateConnectionId_inj {nowMs nowMs' counter counter' : Nat}
    (h : generateConnectionId nowMs counter = generateConnectionId nowMs' counter') :
    nowMs = nowMs' ∧ counter = counter' := by
  have hdigits : ∀ n : Nat, (ascii n.repr).all isDigit = true := fun n =>
    List.all_eq_true.mpr fun _ hbyte => isDigit_of_mem_repr hbyte
  obtain ⟨hms, hcounter⟩ :=
    append_underscore_inj (hdigits nowMs) (hdigits nowMs') (List.append_cancel_left h)
  exact ⟨repr_injective hms, repr_injective hcounter⟩

def Generated (counter : Nat) (id : CString) : Prop :=
  ∃ nowMs c, c < counter ∧ id = generateConnectionId nowMs c

theorem Generated.mono {counter counter' : Nat} {id : CString} (h : Generated counter id)
    (hle : counter ≤ counter') : Generated counter' id := by
  obtain ⟨nowMs, c, hc, rfl⟩ := h
  exact ⟨nowMs, c, Nat.lt_of_lt_of_le hc hle, rfl⟩

theorem not_generated (nowMs counter : Nat) :
    ¬ Generated counter (generateConnectionId nowMs counter) := by
  rintro ⟨nowMs', c, hc, heq⟩
  have hsame := (generateConnectionId_inj heq).2
  omega

theorem generated_new (nowMs counter : Nat) :
    Generated (counter + 1) (generateConnectionId nowMs counter) :=
  ⟨nowMs, counter, Nat.lt_succ_self _, rfl⟩

theorem generated_insert {β : Type} {t : ExtTreeMap CString β} {counter nowMs : Nat} {value : β}
    (h : ∀ id ∈ t, Generated counter id) :
    ∀ id ∈ t.insert (generateConnectionId nowMs counter) value, Generated (counter + 1) id := by
  intro id hid
  rcases mem_insert_iff.mp hid with rfl | hid
  · exact generated_new nowMs counter
  · exact (h id hid).mono (Nat.le_succ _)

end Ids

/-- Only what the service knows about the connections has changed. -/
structure Tables.SameKeys (t t' : Tables) : Prop where
  connections : ∀ id, id ∈ t'.connections ↔ id ∈ t.connections
  hdlToId : t'.hdlToId = t.hdlToId
  idToHdl : t'.idToHdl = t.idToHdl
  counter : t'.counter = t.counter

theorem Tables.SameKeys.refl (t : Tables) : t.SameKeys t := ⟨fun _ => Iff.rfl, rfl, rfl, rfl⟩

theorem Tables.sameKeys_modifyInfo (t : Tables) (id : CString)
    (f : ConnectionInfo → ConnectionInfo) : t.SameKeys (t.modifyInfo id f) :=
  ⟨fun _ => ExtTreeMap.mem_modify, rfl, rfl, rfl⟩

theorem Tables.sameKeys_onMessage (t : Tables) (id : CString) (now : Int)
    (message : ClientMessage) : t.SameKeys (t.onMessage id now message) := by
  cases message with
  | subscribe target sub interval =>
      rw [onMessage]
      split
      · exact .refl t
      · exact t.sameKeys_modifyInfo id _
  | unsubscribe => exact t.sameKeys_modifyInfo id _
  | ping => exact t.sameKeys_modifyInfo id _
  | rejected => exact .refl t

theorem Tables.sameKeys_markPushed (t : Tables) (now : Int) : t.SameKeys (t.markPushed now) :=
  ⟨fun _ => ExtTreeMap.mem_map, rfl, rfl, rfl⟩

namespace Service

structure Invariant (s : Service) : Prop where
  inverse : Inverse s.tables.hdlToId s.tables.idToHdl
  connections : ∀ id ∈ s.tables.connections, Generated s.tables.counter id
  ids : ∀ id ∈ s.tables.idToHdl, Generated s.tables.counter id
  handles : ∀ hdl ∈ s.tables.hdlToId, hdl < s.nextHdl
  settled : ¬ s.Clearing → (∀ id, id ∈ s.tables.connections ↔ id ∈ s.tables.idToHdl) ∧
    (∀ id ∈ s.tables.connections, id ∈ s.opened) ∧ s.late = [] ∧ s.stale = []
  cleared : s.phase = .connectionsCleared →
    (∀ id, id ∈ s.tables.connections ↔ id ∈ s.late) ∧
      (∀ id ∈ s.late, id ∈ s.tables.idToHdl) ∧ s.stale = []
  handlesCleared : s.phase = .handlesCleared →
    (∀ id, id ∈ s.tables.connections ↔ id ∈ s.late ∨ id ∈ s.stale) ∧
      (∀ id, id ∈ s.tables.idToHdl ↔ id ∈ s.late) ∧ ∀ id ∈ s.stale, id ∉ s.late
  empty : s.phase = .stopped → s.tables.connections = ∅ ∧ s.tables.idToHdl = ∅

theorem invariant_start : Invariant {} where
  inverse := Inverse.empty
  connections _ h := absurd h ExtTreeMap.not_mem_empty
  ids _ h := absurd h ExtTreeMap.not_mem_empty
  handles _ h := absurd h ExtTreeMap.not_mem_empty
  settled _ := ⟨fun _ => Iff.rfl, fun _ h => absurd h ExtTreeMap.not_mem_empty, rfl, rfl⟩
  cleared h := by simp at h
  handlesCleared h := by simp at h
  empty _ := ⟨rfl, rfl⟩

theorem Invariant.sameKeys {s : Service} (h : s.Invariant) {t : Tables}
    (hsame : s.tables.SameKeys t) : Invariant { s with tables := t } := by
  obtain ⟨hconnections, hhdl, hid, hcounter⟩ := hsame
  have hnone : s.tables.connections = ∅ → t.connections = ∅ := by
    intro hempty
    rw [ExtTreeMap.eq_empty_iff_forall_not_mem] at hempty ⊢
    intro id hmem
    exact hempty id ((hconnections id).mp hmem)
  refine
    { inverse := ?_, connections := ?_, ids := ?_, handles := ?_
      settled := ?_, cleared := ?_, handlesCleared := ?_, empty := ?_ }
  · change Inverse t.hdlToId t.idToHdl
    rw [hhdl, hid]
    exact h.inverse
  · intro id hmem
    change Generated t.counter id
    rw [hcounter]
    exact h.connections id ((hconnections id).mp hmem)
  · intro id (hmem : id ∈ t.idToHdl)
    change Generated t.counter id
    rw [hid] at hmem
    rw [hcounter]
    exact h.ids id hmem
  · intro hdl (hmem : hdl ∈ t.hdlToId)
    rw [hhdl] at hmem
    exact h.handles hdl hmem
  · intro hsettled
    simp only [hconnections, hid]
    exact h.settled hsettled
  · intro hphase
    simp only [hconnections, hid]
    exact h.cleared hphase
  · intro hphase
    simp only [hconnections, hid]
    exact h.handlesCleared hphase
  · intro hstopped
    exact ⟨hnone (h.empty hstopped).1, hid.trans (h.empty hstopped).2⟩

theorem Invariant.openHandler {s : Service} (h : s.Invariant) (hphase : s.phase ≠ .stopped)
    (nowMs : Nat) : (s.openHandler nowMs).Invariant := by
  have hnew := not_generated nowMs s.tables.counter
  have hconnection : generateConnectionId nowMs s.tables.counter ∉ s.tables.connections :=
    fun hmem => hnew (h.connections _ hmem)
  have hunused : generateConnectionId nowMs s.tables.counter ∉ s.tables.idToHdl :=
    fun hmem => hnew (h.ids _ hmem)
  have hhdl : s.nextHdl ∉ s.tables.hdlToId := fun hmem => lt_irrefl _ (h.handles _ hmem)
  refine
    { inverse := h.inverse.insert hhdl hunused
      connections := generated_insert h.connections
      ids := generated_insert h.ids
      handles := ?_, settled := ?_, cleared := ?_, handlesCleared := ?_
      empty := fun hstopped => absurd hstopped hphase }
  · intro a ha
    rcases mem_insert_iff.mp ha with rfl | ha
    · exact Nat.lt_succ_self _
    · exact Nat.lt_succ_of_lt (h.handles a ha)
  · intro (hsettled : ¬ s.Clearing)
    obtain ⟨hkeys, hopened, hlate, hstale⟩ := h.settled hsettled
    refine ⟨?_, ?_, (if_neg hsettled).trans hlate, hstale⟩
    · intro a
      simp only [Service.openHandler, Tables.addHandle, Tables.onOpen, mem_insert_iff, hkeys a]
    · intro a ha
      exact List.mem_cons.mpr ((mem_insert_iff.mp ha).imp_right (hopened a))
  · intro hcleared
    obtain ⟨hkeys, hids, hstale⟩ := h.cleared hcleared
    have hlate : (s.openHandler nowMs).late =
        generateConnectionId nowMs s.tables.counter :: s.late := if_pos (.inl hcleared)
    rw [hlate]
    refine ⟨?_, ?_, hstale⟩
    · intro a
      simp only [Service.openHandler, Tables.addHandle, Tables.onOpen, mem_insert_iff, hkeys a,
        List.mem_cons]
    · intro a ha
      exact mem_insert_iff.mpr ((List.mem_cons.mp ha).imp_right (hids a))
  · intro hcleared
    obtain ⟨hkeys, hids, hstale⟩ := h.handlesCleared hcleared
    have hlate : (s.openHandler nowMs).late =
        generateConnectionId nowMs s.tables.counter :: s.late := if_pos (.inr hcleared)
    rw [hlate]
    refine ⟨?_, ?_, ?_⟩
    · intro a
      simp only [Service.openHandler, Tables.addHandle, Tables.onOpen, mem_insert_iff, hkeys a,
        List.mem_cons, or_assoc]
    · intro a
      simp only [Service.openHandler, Tables.addHandle, Tables.onOpen, mem_insert_iff, hids a,
        List.mem_cons]
    · intro a ha hmem
      rcases List.mem_cons.mp hmem with rfl | hmem
      · exact hconnection ((hkeys _).mpr (.inr ha))
      · exact hstale a ha hmem

theorem Invariant.closeHandler {s : Service} (h : s.Invariant) (hphase : s.phase ≠ .stopped)
    (hdl : ConnectionHdl) : (s.closeHandler hdl).Invariant := by
  unfold Service.closeHandler
  split
  case h_1 => exact h
  case h_2 id hid =>
    have hlate : ∀ a, a ∈ s.late.filter (· ≠ id) ↔ a ≠ id ∧ a ∈ s.late := by
      intro a
      rw [List.mem_filter, decide_eq_true_eq, and_comm]
    refine
      { inverse := h.inverse.erase hid
        connections := fun a ha => h.connections a (mem_erase_iff.mp ha).2
        ids := fun a ha => h.ids a (mem_erase_iff.mp ha).2
        handles := fun a ha => h.handles a (mem_erase_iff.mp ha).2
        settled := ?_, cleared := ?_, handlesCleared := ?_
        empty := fun hstopped => absurd hstopped hphase }
    · intro hsettled
      obtain ⟨hkeys, hopened, hnone, hstale⟩ := h.settled hsettled
      refine ⟨?_, ?_, ?_, hstale⟩
      · intro a
        simp only [Tables.removeHandle, Tables.removeConnection, mem_erase_iff, hkeys a]
      · intro a ha
        exact hopened a (mem_erase_iff.mp ha).2
      · rw [hnone, List.filter_nil]
    · intro hcleared
      obtain ⟨hkeys, hids, hstale⟩ := h.cleared hcleared
      refine ⟨?_, ?_, hstale⟩
      · intro a
        simp only [Tables.removeHandle, Tables.removeConnection, mem_erase_iff, hkeys a, hlate]
      · intro a ha
        rw [hlate] at ha
        exact mem_erase_iff.mpr ⟨ha.1, hids a ha.2⟩
    · intro hcleared
      obtain ⟨hkeys, hids, hstale⟩ := h.handlesCleared hcleared
      have hclosed : id ∈ s.late :=
        (hids id).mp (mem_of_getElem?_eq_some ((h.inverse hdl id).mp hid))
      refine ⟨?_, ?_, ?_⟩
      · intro a
        have hother : a ∈ s.stale → a ≠ id := by
          rintro ha rfl
          exact hstale a ha hclosed
        simp only [Tables.removeHandle, Tables.removeConnection, mem_erase_iff, hkeys a, hlate]
        tauto
      · intro a
        simp only [Tables.removeHandle, Tables.removeConnection, mem_erase_iff, hids a, hlate]
      · intro a ha hmem
        exact hstale a ha ((hlate a).mp hmem).2

section Stopping

variable {s : Service} (h : s.Invariant)

include h

theorem Invariant.joining (hphase : s.phase = .running) :
    Invariant { s with phase := .joining } := by
  have hsettled := h.settled (by simp [Clearing, hphase])
  exact
    { inverse := h.inverse, connections := h.connections, ids := h.ids, handles := h.handles
      settled := fun _ => hsettled
      cleared := fun hcleared => by simp at hcleared
      handlesCleared := fun hcleared => by simp at hcleared
      empty := fun hstopped => by simp at hstopped }

theorem Invariant.clearConnections (hphase : s.phase = .joining) :
    Invariant
      { s with tables := s.tables.clearConnections, phase := .connectionsCleared } := by
  obtain ⟨_, _, hnone, hstale⟩ := h.settled (by simp [Clearing, hphase])
  refine
    { inverse := h.inverse, ids := h.ids, handles := h.handles
      connections := fun _ hmem => absurd hmem ExtTreeMap.not_mem_empty
      settled := fun hsettled => absurd (.inl rfl) hsettled
      cleared := fun _ => ⟨?_, ?_, hstale⟩
      handlesCleared := fun hcleared => by simp at hcleared
      empty := fun hstopped => by simp at hstopped }
  · intro id
    simp [Tables.clearConnections, hnone]
  · intro id hid
    rw [hnone] at hid
    exact absurd hid List.not_mem_nil

theorem Invariant.clearHandles (hphase : s.phase = .connectionsCleared) :
    Invariant
      { s with
        tables := s.tables.clearHandles
        phase := .handlesCleared
        late := []
        stale := s.late } := by
  obtain ⟨hkeys, _, _⟩ := h.cleared hphase
  refine
    { inverse := Inverse.empty, connections := h.connections
      ids := fun _ hmem => absurd hmem ExtTreeMap.not_mem_empty
      handles := fun _ hmem => absurd hmem ExtTreeMap.not_mem_empty
      settled := fun hsettled => absurd (.inr rfl) hsettled
      cleared := fun hcleared => by simp at hcleared
      handlesCleared := fun _ => ⟨?_, ?_, fun _ _ => List.not_mem_nil⟩
      empty := fun hstopped => by simp at hstopped }
  · intro id
    exact (hkeys id).trans (by simp)
  · intro id
    simp [Tables.clearHandles]

theorem Invariant.stopped (hphase : s.phase = .handlesCleared) (hnone : s.late = [])
    (hstale : s.stale = []) : Invariant { s with phase := .stopped } := by
  obtain ⟨hkeys, hids, _⟩ := h.handlesCleared hphase
  have hconnections : ∀ id, id ∉ s.tables.connections := by
    intro id hid
    simp [hkeys, hnone, hstale] at hid
  have hunused : ∀ id, id ∉ s.tables.idToHdl := by
    intro id hid
    simp [hids, hnone] at hid
  exact
    { inverse := h.inverse, connections := h.connections, ids := h.ids, handles := h.handles
      settled := fun _ => ⟨fun id => iff_of_false (hconnections id) (hunused id),
        fun id hid => absurd hid (hconnections id), hnone, hstale⟩
      cleared := fun hcleared => by simp at hcleared
      handlesCleared := fun hcleared => by simp at hcleared
      empty := fun _ => ⟨ExtTreeMap.eq_empty_iff_forall_not_mem.mpr hconnections,
        ExtTreeMap.eq_empty_iff_forall_not_mem.mpr hunused⟩ }

theorem Invariant.stop (hlate : s.ClosesLate .stop) : s.stop.Invariant := by
  unfold Service.stop
  split
  case h_1 => exact h
  case h_2 hphase => exact h.joining hphase
  case h_3 hphase => exact h.clearConnections hphase
  case h_4 hphase => exact h.clearHandles hphase
  case h_5 hphase =>
    obtain ⟨hnone, hstale⟩ := hlate hphase
    exact h.stopped hphase hnone hstale

end Stopping

theorem Invariant.start {s : Service} (h : s.Invariant) : s.start.Invariant := by
  unfold Service.start
  split
  case h_1 hphase =>
    obtain ⟨hkeys, _, hnone, hstale⟩ := h.settled (by simp [Clearing, hphase])
    exact
      { inverse := h.inverse, connections := h.connections, ids := h.ids, handles := h.handles
        settled := fun _ => ⟨hkeys, fun id hid => by
          rw [(h.empty hphase).1] at hid
          exact absurd hid ExtTreeMap.not_mem_empty, hnone, hstale⟩
        cleared := fun hcleared => by simp at hcleared
        handlesCleared := fun hcleared => by simp at hcleared
        empty := fun hstopped => by simp at hstopped }
  case h_2 => exact h

theorem Invariant.messageHandler {s : Service} (h : s.Invariant) (hdl : ConnectionHdl)
    (message : ClientMessage) (now : Int) : (s.messageHandler hdl message now).Invariant := by
  unfold Service.messageHandler
  split
  case h_1 => exact h
  case h_2 id _ => exact h.sameKeys (s.tables.sameKeys_onMessage id now message)

theorem Invariant.step {s : Service} (h : s.Invariant) {input : Input}
    (hlate : s.ClosesLate input) : (s.step input).Invariant := by
  cases input with
  | start => exact h.start
  | «open» nowMs =>
      rw [Service.step]
      split
      · exact h
      · next hphase => exact h.openHandler hphase nowMs
  | close hdl =>
      rw [Service.step]
      split
      · exact h
      · next hphase => exact h.closeHandler hphase hdl
  | message hdl message now =>
      rw [Service.step]
      split
      · exact h
      · exact h.messageHandler hdl message now
  | push now =>
      rw [Service.step]
      split
      · exact h.sameKeys (s.tables.sameKeys_markPushed now)
      · exact h
  | stop => exact h.stop hlate

theorem Invariant.consistent {s : Service} (h : s.Invariant) : s.Consistent where
  inverse := h.inverse
  keys hsettled := (h.settled hsettled).1
  current hsettled := (h.settled hsettled).2.1
  empty hstopped := by
    obtain ⟨hconnections, hids⟩ := h.empty hstopped
    refine ⟨hconnections, ?_, hids⟩
    rw [ExtTreeMap.eq_empty_iff_forall_not_mem]
    intro hdl hmem
    obtain ⟨id, hid⟩ := mem_iff_exists.mp hmem
    have hnone := mem_of_getElem?_eq_some ((h.inverse hdl id).mp hid)
    rw [hids] at hnone
    exact ExtTreeMap.not_mem_empty hnone

theorem Invariant.closesLate {s : Service} (h : s.Invariant) {input : Input}
    (hconsistent : (s.step input).Consistent) : s.ClosesLate input := by
  cases input with
  | stop =>
      intro hphase
      have hstopped : s.step .stop = { s with phase := .stopped } := by
        rw [Service.step, Service.stop, hphase]
      rw [hstopped] at hconsistent
      obtain ⟨hkeys, _, _⟩ := h.handlesCleared hphase
      have hnone : ∀ id, id ∉ s.tables.connections :=
        ExtTreeMap.eq_empty_iff_forall_not_mem.mp (hconsistent.empty rfl).1
      constructor
      · exact List.eq_nil_iff_forall_not_mem.mpr fun id hid => hnone id ((hkeys id).mpr (.inl hid))
      · exact List.eq_nil_iff_forall_not_mem.mpr fun id hid => hnone id ((hkeys id).mpr (.inr hid))
  | start => trivial
  | «open» => trivial
  | close => trivial
  | message => trivial
  | push => trivial

end Service

open Service

/-- The tables stay consistent throughout a run exactly when `Stop` never returns while a
connection is left that was opened after it had cleared `connections_`. -/
theorem throughout_consistent_iff (inputs : List Input) :
    Throughout Service.step Consistent {} inputs ↔
      Admitted Service.step ClosesLate {} inputs :=
  throughout_iff_admitted invariant_start.consistent invariant_start
    (fun _ _ h _ => ⟨h.closesLate, fun hlate => (h.step hlate).consistent⟩)
    fun _ _ h _ hnext => h.step (h.closesLate hnext)

/-- A connection opens between the two sections in which `Stop` clears the tables. -/
theorem not_consistent_open :
    ¬ ∀ inputs : List Input, Throughout Service.step Consistent {} inputs := by
  intro hall
  have hlast := hall [.start, .stop, .stop, .open 0, .stop, .stop]
    [.start, .stop, .stop, .open 0, .stop, .stop] [] (List.append_nil _).symm
  have hnone := (hlast.empty rfl).1
  have hmem : generateConnectionId 0 0 ∈ (run Service.step {}
      [.start, .stop, .stop, .open 0, .stop, .stop]).tables.connections :=
    ExtTreeMap.mem_insert_self
  rw [hnone] at hmem
  exact ExtTreeMap.not_mem_empty hmem

end GBServer.WebSocketStats
