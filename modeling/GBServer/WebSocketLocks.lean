import GBServer.Foundation.Locks
import GBServer.WebSocketStats

/-!
The locks of the WebSocket statistics service: its threads as the places before a `lock`
or an `unlock`, with the code up to the next place done on the way.
-/

namespace GBServer.WebSocketLocks

open Foundation.CStrings
open Foundation.Locks
open Foundation.Runs
open GBServer.WebSocketStats

inductive Mutex where
  | hdlMap
  | connections
  deriving DecidableEq, Repr

/-- All handlers run on `ws_thread_`. -/
inductive Thread where
  | ws
  | push
  | ping
  | stop
  deriving DecidableEq, Repr

/-- The time, and whether `websocketpp` takes the message: the handle has not expired and
there is no error. -/
structure Surroundings where
  now : Int
  sent : Bool
  deriving DecidableEq, Repr

/-- `SendClientMessage`. -/
inductive SendPc where
  | lookUp
  | found (valid : Bool)
  | count
  | counted
  deriving DecidableEq, Repr

def SendPc.wants : SendPc → Option Mutex
  | .lookUp => some .hdlMap
  | .count => some .connections
  | .found _ | .counted => none

def SendPc.holds : SendPc → Mutex → Bool
  | .found _, .hdlMap => true
  | .counted, .connections => true
  | _, _ => false

def SendPc.next (t : Tables) (id : CString) (env : Surroundings) : SendPc → Option SendPc
  | .lookUp => some (.found (t.idToHdl.contains id))
  | .found valid => if valid && env.sent then some .count else none
  | .count => some .counted
  | .counted => none

inductive WsPc where
  | idle
  | openHandle (hdl : ConnectionHdl) (id : CString) (nowMs : Nat)
  | onOpen (id : CString) (nowMs : Nat)
  | closeHandle (hdl : ConnectionHdl)
  | onClose (id : CString)
  | closed (id : CString)
  | removeConnection (id : CString)
  /-- Both locks are released next. -/
  | leaving
  /-- `hdl_map_mutex_` is released next. -/
  | handled
  | messageHandle (hdl : ConnectionHdl) (message : ClientMessage)
  | messageFound (id : Option CString) (message : ClientMessage)
  | subscribe (id : CString) (sub : Subscription)
  | subscribed (id : CString)
  | unsubscribe (id : CString)
  | ping (id : CString)
  | pong (id : CString) (pc : SendPc)
  /-- `connections_mutex_` is released next. -/
  | answered
  | send (id : CString) (pc : SendPc)
  deriving DecidableEq, Repr

namespace WsPc

def wants : WsPc → Option Mutex
  | .openHandle .. | .closeHandle _ | .messageHandle .. => some .hdlMap
  | .onOpen .. | .onClose _ | .removeConnection _ => some .connections
  | .subscribe .. | .unsubscribe _ | .ping _ => some .connections
  | .pong _ pc | .send _ pc => pc.wants
  | .idle | .closed _ | .leaving | .handled | .messageFound .. | .subscribed _ | .answered => none

def holds : WsPc → Mutex → Bool
  | .onOpen .., .hdlMap | .onClose _, .hdlMap | .removeConnection _, .hdlMap => true
  | .closed _, _ | .leaving, _ => true
  | .handled, .hdlMap | .messageFound .., .hdlMap => true
  | .subscribed _, .connections | .answered, .connections => true
  | .pong _ pc, lock => lock == .connections || pc.holds lock
  | .send _ pc, lock => pc.holds lock
  | _, _ => false

def onMessage (id : CString) : ClientMessage → WsPc
  | .subscribe target sub interval =>
      if target.needsId && sub.isEmpty then .send id .lookUp
      else .subscribe id { target, id := sub, interval }
  | .unsubscribe => .unsubscribe id
  | .ping => .ping id
  | .rejected => .send id .lookUp

/-- The open and the close handler hold the one lock and wait for the other. -/
def nested : WsPc → Bool
  | .onOpen .. | .onClose _ | .removeConnection _ => true
  | _ => false

/-- `HandlePing` has sent the pong and wants the lock that it holds. -/
def waitsForItself : WsPc → Bool
  | .pong _ .count => true
  | _ => false

def next (t : Tables) (env : Surroundings) : WsPc → Tables × WsPc
  | .idle => (t, .idle)
  | .openHandle hdl id nowMs => (t.addHandle hdl id, .onOpen id nowMs)
  | .onOpen id nowMs => (t.onOpen id nowMs, .leaving)
  | .closeHandle hdl =>
      match t.hdlToId[hdl]? with
      | none => (t, .handled)
      | some id => (t.removeHandle hdl id, .onClose id)
  | .onClose id => (t, .closed id)
  | .closed id => (t, .removeConnection id)
  | .removeConnection id => (t.removeConnection id, .leaving)
  | .leaving => (t, .handled)
  | .handled => (t, .idle)
  | .messageHandle hdl message => (t, .messageFound t.hdlToId[hdl]? message)
  | .messageFound none _ => (t, .idle)
  | .messageFound (some id) message => (t, onMessage id message)
  | .subscribe id sub => (t.handleSubscribe id sub, .subscribed id)
  | .subscribed id => (t, .send id .lookUp)
  | .unsubscribe id => (t.handleUnsubscribe id, .answered)
  | .ping id =>
      if id ∈ t.connections then (t.handlePing id env.now, .pong id .lookUp) else (t, .answered)
  | .pong id pc =>
      match pc.next t id env with
      | some pc => (t, .pong id pc)
      | none => (t, .answered)
  | .answered => (t, .idle)
  | .send id pc =>
      match pc.next t id env with
      | some pc => (t, .send id pc)
      | none => (t, .idle)

section Atomic

def move (env : Surroundings) (p : Tables × WsPc) : Tables × WsPc := p.2.next p.1 env

/-- From its first lock to its last unlock the open handler is one step on the tables. -/
theorem openHandler_atomic (t : Tables) (env : Surroundings) (hdl : ConnectionHdl) (id : CString)
    (nowMs : Nat) :
    (move env)^[4] (t, .openHandle hdl id nowMs) =
      ((t.addHandle hdl id).onOpen id nowMs, .idle) := rfl

theorem closeHandler_atomic {t : Tables} (env : Surroundings) {hdl : ConnectionHdl} {id : CString}
    (h : t.hdlToId[hdl]? = some id) :
    (move env)^[6] (t, .closeHandle hdl) =
      ((t.removeHandle hdl id).removeConnection id, .idle) := by
  have hfound : move env (t, .closeHandle hdl) = (t.removeHandle hdl id, .onClose id) := by
    simp only [move, next, h]
  rw [Function.iterate_succ_apply, hfound]
  rfl

end Atomic

end WsPc

inductive PushPc where
  | idle
  | scan (now : Int)
  | scanned (tasks : List (CString × Subscription))
  | send (id : CString) (pc : SendPc) (rest : List (CString × Subscription))
  | summary
  | summarised
  deriving DecidableEq, Repr

namespace PushPc

def wants : PushPc → Option Mutex
  | .scan _ | .summary => some .connections
  | .send _ pc _ => pc.wants
  | .idle | .scanned _ | .summarised => none

def holds : PushPc → Mutex → Bool
  | .scanned _, .connections | .summarised, .connections => true
  | .send _ pc _, lock => pc.holds lock
  | _, _ => false

/-- Every task sends one message: the statistics, or that they are not found. -/
def nextTask : List (CString × Subscription) → PushPc
  | [] => .summary
  | (id, _) :: rest => .send id .lookUp rest

def next (t : Tables) (env : Surroundings) : PushPc → Tables × PushPc
  | .idle => (t, .scan env.now)
  | .scan now => (t.markPushed now, .scanned (t.pushTasks now))
  | .scanned [] => (t, .idle)
  | .scanned (task :: rest) => (t, nextTask (task :: rest))
  | .send id pc rest =>
      match pc.next t id env with
      | some pc => (t, .send id pc rest)
      | none => (t, nextTask rest)
  | .summary => (t, .summarised)
  | .summarised => (t, .idle)

end PushPc

inductive PingPc where
  | idle
  | scan
  | closeHandle (rest : List CString)
  | closing (rest : List CString)
  | scanned
  deriving DecidableEq, Repr

namespace PingPc

def wants : PingPc → Option Mutex
  | .scan => some .connections
  | .closeHandle _ => some .hdlMap
  | .idle | .closing _ | .scanned => none

def holds : PingPc → Mutex → Bool
  | .closeHandle _, .connections | .scanned, .connections => true
  | .closing _, _ => true
  | _, _ => false

/-- The next of the connections that have timed out. -/
def nextClose : List CString → PingPc
  | [] => .scanned
  | _ :: rest => .closeHandle rest

/-- The ping thread waits for `hdl_map_mutex_` to close a connection. -/
def closes : PingPc → Bool
  | .closeHandle _ => true
  | _ => false

def next (t : Tables) (pingTimeout : Int) (env : Surroundings) : PingPc → PingPc
  | .idle => .scan
  | .scan => nextClose (t.timedOut env.now pingTimeout)
  | .closeHandle rest => .closing rest
  | .closing rest => nextClose rest
  | .scanned => .idle

end PingPc

inductive StopPc where
  | idle
  | joinThreads
  | clearConnections
  | connectionsCleared
  | clearHandles
  | handlesCleared
  | joinWs
  deriving DecidableEq, Repr

namespace StopPc

def wants : StopPc → Option Mutex
  | .clearConnections => some .connections
  | .clearHandles => some .hdlMap
  | .idle | .joinThreads | .connectionsCleared | .handlesCleared | .joinWs => none

def holds : StopPc → Mutex → Bool
  | .connectionsCleared, .connections | .handlesCleared, .hdlMap => true
  | _, _ => false

end StopPc

/-- `serving` as long as `ws_thread_` runs. -/
structure Service where
  pingTimeout : Int
  tables : Tables := {}
  nextHdl : ConnectionHdl := 0
  running : Bool := false
  serving : Bool := false
  ws : WsPc := .idle
  push : PushPc := .idle
  ping : PingPc := .idle
  stop : StopPc := .idle

inductive Input where
  | start
  | stop
  | open (nowMs : Nat)
  | close (hdl : ConnectionHdl)
  | message (hdl : ConnectionHdl) (message : ClientMessage)
  | run (t : Thread) (env : Surroundings)
  deriving DecidableEq, Repr

namespace Service

def wants (s : Service) : Thread → Option Mutex
  | .ws => s.ws.wants
  | .push => s.push.wants
  | .ping => s.ping.wants
  | .stop => s.stop.wants

def holds (s : Service) : Thread → Mutex → Bool
  | .ws => s.ws.holds
  | .push => s.push.holds
  | .ping => s.ping.holds
  | .stop => s.stop.holds

def held (s : Service) (lock : Mutex) : Bool :=
  s.ws.holds lock || s.push.holds lock || s.ping.holds lock || s.stop.holds lock

def blocked (s : Service) (t : Thread) : Bool := (s.wants t).any s.held

def stopNext (s : Service) : Service :=
  match s.stop with
  | .idle => s
  | .joinThreads =>
      if s.push = .idle ∧ s.ping = .idle then { s with stop := .clearConnections } else s
  | .clearConnections =>
      { s with tables := s.tables.clearConnections, stop := .connectionsCleared }
  | .connectionsCleared => { s with stop := .clearHandles }
  | .clearHandles => { s with tables := s.tables.clearHandles, stop := .handlesCleared }
  | .handlesCleared => { s with stop := .joinWs }
  | .joinWs => if s.ws = .idle then { s with serving := false, stop := .idle } else s

def advance (s : Service) (env : Surroundings) : Thread → Service
  | .ws =>
      let next := s.ws.next s.tables env
      { s with tables := next.1, ws := next.2 }
  | .push =>
      if s.push = .idle ∧ s.running = false then s
      else
        let next := s.push.next s.tables env
        { s with tables := next.1, push := next.2 }
  | .ping =>
      if s.ping = .idle ∧ s.running = false then s
      else { s with ping := s.ping.next s.tables s.pingTimeout env }
  | .stop => s.stopNext

def handle (s : Service) (pc : WsPc) : Service :=
  if s.serving = true ∧ s.ws = .idle then { s with ws := pc } else s

def step (s : Service) : Input → Service
  | .start =>
      if s.running = false ∧ s.serving = false ∧ s.stop = .idle then
        { s with running := true, serving := true }
      else s
  | .stop => if s.running then { s with running := false, stop := .joinThreads } else s
  | .open nowMs =>
      { s with
        tables := { s.tables with counter := s.tables.counter + 1 }
        nextHdl := s.nextHdl + 1 }.handle
          (.openHandle s.nextHdl (generateConnectionId nowMs s.tables.counter) nowMs)
  | .close hdl => s.handle (.closeHandle hdl)
  | .message hdl message => s.handle (.messageHandle hdl message)
  | .run t env => if s.blocked t then s else s.advance env t

def DeadlockFree (s : Service) : Prop := NoDeadlock s.wants s.holds

/-- `HandlePing` sends no pong; and the ping thread does not set out to close a connection
while the open or the close handler is between its two locks, nor the other way round. -/
def KeepsOrder (s : Service) : Input → Prop
  | .run .ws env =>
      match s.ws with
      | .openHandle .. => s.held .hdlMap = false → s.ping.closes = false
      | .closeHandle hdl =>
          s.held .hdlMap = false → hdl ∈ s.tables.hdlToId → s.ping.closes = false
      | .pong _ (.found valid) => valid = true → env.sent = false
      | _ => True
  | .run .ping env =>
      s.ping = .scan → s.held .connections = false →
        s.tables.timedOut env.now s.pingTimeout ≠ [] → s.ws.nested = false
  | _ => True

end Service

section Places

theorem SendPc.not_holds_of_wants {pc : SendPc} {lock other : Mutex} (h : pc.wants = some lock) :
    pc.holds other = false := by
  cases pc with
  | lookUp => rfl
  | count => rfl
  | found => exact absurd h (by simp [wants])
  | counted => exact absurd h (by simp [wants])

theorem SendPc.holds_next {t : Tables} {id : CString} {env : Surroundings} {pc pc' : SendPc}
    (h : pc.next t id env = some pc') {lock : Mutex} (hheld : pc'.holds lock = true) :
    pc.holds lock = true ∨ pc.wants = some lock := by
  cases pc with
  | lookUp =>
      obtain rfl := Option.some.inj h
      cases lock with
      | hdlMap => exact .inr rfl
      | connections => exact absurd hheld (by simp [holds])
  | found valid =>
      rw [next, Option.ite_none_right_eq_some] at h
      obtain rfl := Option.some.inj h.2
      exact absurd hheld (by simp [holds])
  | count =>
      obtain rfl := Option.some.inj h
      cases lock with
      | hdlMap => exact absurd hheld (by simp [holds])
      | connections => exact .inr rfl
  | counted => exact absurd h (by simp [next])

theorem WsPc.holds_of_wants {pc : WsPc} {lock other : Mutex} (hwants : pc.wants = some lock)
    (hholds : pc.holds other = true) :
    pc.waitsForItself = true ∨
      pc.nested = true ∧ lock = .connections ∧ other = .hdlMap ∨
      pc.nested = false ∧ lock = .hdlMap ∧ other = .connections := by
  cases pc with
  | pong id pc =>
      cases pc with
      | lookUp =>
          obtain rfl := Option.some.inj hwants
          cases other with
          | hdlMap => exact absurd hholds (by simp [holds, SendPc.holds])
          | connections => exact .inr (.inr ⟨rfl, rfl, rfl⟩)
      | count => exact .inl rfl
      | found => exact absurd hwants (by simp [wants, SendPc.wants])
      | counted => exact absurd hwants (by simp [wants, SendPc.wants])
  | onOpen | onClose | removeConnection =>
      obtain rfl := Option.some.inj hwants
      cases other with
      | hdlMap => exact .inr (.inl ⟨rfl, rfl, rfl⟩)
      | connections => exact absurd hholds (by simp [holds])
  | send id pc =>
      have hnone : pc.holds other = false := SendPc.not_holds_of_wants hwants
      exact absurd (hnone.symm.trans hholds) Bool.false_ne_true
  | openHandle | closeHandle | messageHandle | subscribe | unsubscribe | ping =>
      exact absurd hholds (by cases other <;> simp [holds])
  | idle | closed | leaving | handled | messageFound | subscribed | answered =>
      exact absurd hwants (by simp [wants])

theorem WsPc.not_holds_onMessage (id : CString) (message : ClientMessage) (lock : Mutex) :
    (onMessage id message).holds lock = false := by
  cases message with
  | subscribe target sub interval =>
      rw [onMessage]
      split <;> cases lock <;> rfl
  | unsubscribe | ping | rejected => cases lock <;> rfl

theorem WsPc.holds_next {t : Tables} {env : Surroundings} {pc : WsPc} {lock : Mutex}
    (hheld : (pc.next t env).2.holds lock = true) :
    pc.holds lock = true ∨ pc.wants = some lock := by
  cases pc with
  | pong id pc =>
      rw [next] at hheld
      split at hheld
      · next pc' hnext =>
          rcases Bool.or_eq_true_iff.mp hheld with hconnections | hsend
          · exact .inl (Bool.or_eq_true_iff.mpr (.inl hconnections))
          · exact (SendPc.holds_next hnext hsend).imp_left fun hold =>
              Bool.or_eq_true_iff.mpr (.inr hold)
      · cases lock with
        | hdlMap => exact absurd hheld (by simp [holds])
        | connections => exact .inl rfl
  | send id pc =>
      rw [next] at hheld
      split at hheld
      · next pc' hnext => exact SendPc.holds_next hnext hheld
      · exact absurd hheld (by simp [holds])
  | messageFound found message =>
      cases found with
      | none => exact absurd hheld (by simp [next, holds])
      | some id =>
          exact absurd ((not_holds_onMessage id message lock).symm.trans hheld)
            Bool.false_ne_true
  | closeHandle hdl =>
      rw [next] at hheld
      cases lock with
      | hdlMap => exact .inr rfl
      | connections =>
          split at hheld
          · exact absurd hheld (by simp [holds])
          · exact absurd hheld (by simp [holds])
  | ping id =>
      rw [next] at hheld
      cases lock with
      | connections => exact .inr rfl
      | hdlMap =>
          split at hheld
          · exact absurd hheld (by simp [holds, SendPc.holds])
          · exact absurd hheld (by simp [holds])
  | openHandle | messageHandle =>
      cases lock with
      | hdlMap => exact .inr rfl
      | connections => exact absurd hheld (by simp [next, holds])
  | subscribe | unsubscribe =>
      cases lock with
      | connections => exact .inr rfl
      | hdlMap => exact absurd hheld (by simp [next, holds])
  | onOpen | onClose | removeConnection =>
      cases lock with
      | hdlMap => exact .inl rfl
      | connections => exact .inr rfl
  | closed | leaving => exact .inl rfl
  | idle | handled | answered => exact absurd hheld (by simp [next, holds])
  | subscribed => exact absurd hheld (by simp [next, holds, SendPc.holds])

theorem PushPc.not_holds_of_wants {pc : PushPc} {lock other : Mutex} (h : pc.wants = some lock) :
    pc.holds other = false := by
  cases pc with
  | send id pc rest => exact SendPc.not_holds_of_wants h
  | scan | summary => cases other <;> rfl
  | idle | scanned | summarised => exact absurd h (by simp [wants])

theorem PushPc.not_holds_nextTask (tasks : List (CString × Subscription)) (lock : Mutex) :
    (nextTask tasks).holds lock = false := by
  cases tasks with
  | nil => cases lock <;> rfl
  | cons task rest => cases lock <;> rfl

theorem PushPc.holds_next {t : Tables} {env : Surroundings} {pc : PushPc} {lock : Mutex}
    (hheld : (pc.next t env).2.holds lock = true) :
    pc.holds lock = true ∨ pc.wants = some lock := by
  cases pc with
  | send id pc rest =>
      rw [next] at hheld
      split at hheld
      · next pc' hnext => exact SendPc.holds_next hnext hheld
      · exact absurd ((not_holds_nextTask rest lock).symm.trans hheld) Bool.false_ne_true
  | scanned tasks =>
      cases tasks with
      | nil => exact absurd hheld (by simp [next, holds])
      | cons task rest =>
          exact absurd ((not_holds_nextTask (task :: rest) lock).symm.trans hheld)
            Bool.false_ne_true
  | scan | summary =>
      cases lock with
      | connections => exact .inr rfl
      | hdlMap => exact absurd hheld (by simp [next, holds])
  | idle | summarised => exact absurd hheld (by simp [next, holds])

/-- The ping thread holds a lock and wants another only to close a connection. -/
theorem PingPc.holds_of_wants {pc : PingPc} {lock other : Mutex} (hwants : pc.wants = some lock)
    (hholds : pc.holds other = true) :
    pc.closes = true ∧ lock = .hdlMap ∧ other = .connections := by
  cases pc with
  | closeHandle rest =>
      obtain rfl := Option.some.inj hwants
      cases other with
      | hdlMap => exact absurd hholds (by simp [holds])
      | connections => exact ⟨rfl, rfl, rfl⟩
  | scan => exact absurd hholds (by simp [holds])
  | idle | closing | scanned => exact absurd hwants (by simp [wants])

theorem PingPc.holds_nextClose {ids : List CString} {lock : Mutex}
    (hheld : (nextClose ids).holds lock = true) : lock = .connections := by
  cases ids with
  | nil =>
      cases lock with
      | hdlMap => exact absurd hheld (by simp [nextClose, holds])
      | connections => rfl
  | cons id rest =>
      cases lock with
      | hdlMap => exact absurd hheld (by simp [nextClose, holds])
      | connections => rfl

theorem PingPc.holds_next {t : Tables} {pingTimeout : Int} {env : Surroundings} {pc : PingPc}
    {lock : Mutex} (hheld : (pc.next t pingTimeout env).holds lock = true) :
    pc.holds lock = true ∨ pc.wants = some lock := by
  cases pc with
  | scan => exact .inr (congrArg some (holds_nextClose hheld).symm)
  | closing rest => exact .inl rfl
  | closeHandle rest =>
      cases lock with
      | hdlMap => exact .inr rfl
      | connections => exact .inl rfl
  | idle | scanned => exact absurd hheld (by simp [next, holds])

theorem StopPc.not_holds_of_wants {pc : StopPc} {lock other : Mutex} (h : pc.wants = some lock) :
    pc.holds other = false := by
  cases pc with
  | clearConnections | clearHandles => cases other <;> rfl
  | idle | joinThreads | connectionsCleared | handlesCleared | joinWs =>
      exact absurd h (by simp [wants])

end Places

theorem WsPc.of_waitsForItself {pc : WsPc} (h : pc.waitsForItself = true) :
    pc.wants = some .connections ∧ pc.holds .connections = true := by
  cases pc with
  | pong id pc =>
      cases pc with
      | count => exact ⟨rfl, rfl⟩
      | _ => exact absurd h (by simp [waitsForItself])
  | _ => exact absurd h (by simp [waitsForItself])

theorem WsPc.of_nested {pc : WsPc} (h : pc.nested = true) :
    pc.wants = some .connections ∧ pc.holds .hdlMap = true := by
  cases pc with
  | onOpen | onClose | removeConnection => exact ⟨rfl, rfl⟩
  | _ => exact absurd h (by simp [nested])

theorem PingPc.of_closes {pc : PingPc} (h : pc.closes = true) :
    pc.wants = some .hdlMap ∧ pc.holds .connections = true := by
  cases pc with
  | closeHandle => exact ⟨rfl, rfl⟩
  | _ => exact absurd h (by simp [closes])

/-- The order in which a lock is taken first. -/
def Mutex.rank (first lock : Mutex) : Nat := if lock = first then 0 else 1

namespace Service

/-- The two deadlocks there are: `HandlePing` with itself, and the ping thread with the open
or the close handler. -/
theorem deadlockFree_iff (s : Service) :
    s.DeadlockFree ↔
      s.ws.waitsForItself = false ∧ ¬ (s.ping.closes = true ∧ s.ws.nested = true) := by
  constructor
  · intro hfree
    refine ⟨?_, ?_⟩
    · cases hself : s.ws.waitsForItself with
      | false => rfl
      | true =>
          obtain ⟨hwants, hholds⟩ := WsPc.of_waitsForItself hself
          exact absurd hfree (@not_noDeadlock_of_self _ _ _ _ Thread.ws _ hwants hholds)
    · rintro ⟨hcloses, hnested⟩
      obtain ⟨hpingWants, hpingHolds⟩ := PingPc.of_closes hcloses
      obtain ⟨hwsWants, hwsHolds⟩ := WsPc.of_nested hnested
      exact absurd hfree (@not_noDeadlock_of_crossed _ _ _ _ Thread.ping Thread.ws _ _
        hpingWants hwsHolds hwsWants hpingHolds)
  · rintro ⟨hself, hcrossed⟩
    have hws : ∀ lock other, s.ws.wants = some lock → s.ws.holds other = true →
        s.ws.nested = true ∧ lock = .connections ∧ other = .hdlMap ∨
          s.ws.nested = false ∧ lock = .hdlMap ∧ other = .connections := by
      intro lock other hwants hholds
      rcases WsPc.holds_of_wants hwants hholds with hwaits | hother
      · rw [hself] at hwaits
        exact absurd hwaits Bool.false_ne_true
      · exact hother
    apply noDeadlock_of_rank (Mutex.rank (if s.ws.nested then .hdlMap else .connections))
    intro t lock other hwants hholds
    cases t with
    | ws =>
        rcases hws lock other hwants hholds with ⟨hnested, rfl, rfl⟩ | ⟨hnested, rfl, rfl⟩
        · rw [hnested]
          decide
        · rw [hnested]
          decide
    | ping =>
        obtain ⟨hcloses, rfl, rfl⟩ := PingPc.holds_of_wants hwants hholds
        have hnested : s.ws.nested = false := by
          simpa [hcloses] using hcrossed
        rw [hnested]
        decide
    | push =>
        have hnone : s.push.holds other = false := PushPc.not_holds_of_wants hwants
        exact absurd (hnone.symm.trans hholds) Bool.false_ne_true
    | stop =>
        have hnone : s.stop.holds other = false := StopPc.not_holds_of_wants hwants
        exact absurd (hnone.symm.trans hholds) Bool.false_ne_true

theorem held_eq_false {s : Service} {lock : Mutex} (h : s.held lock = false) (t : Thread) :
    s.holds t lock = false := by
  simp only [held, Bool.or_eq_false_iff] at h
  obtain ⟨⟨⟨hws, hpush⟩, hping⟩, hstop⟩ := h
  cases t with
  | ws => exact hws
  | push => exact hpush
  | ping => exact hping
  | stop => exact hstop

theorem exclusive_of_thread {s s' : Service} (h : Exclusive s.holds) {t : Thread}
    (hfree : s.blocked t = false) (hothers : ∀ u, u ≠ t → s'.holds u = s.holds u)
    (hself : ∀ lock, s'.holds t lock = true → s.holds t lock = true ∨ s.wants t = some lock) :
    Exclusive s'.holds := by
  apply h.step hothers
  intro lock hheld
  refine (hself lock hheld).imp_right fun hwants => ?_
  rw [blocked, hwants, Option.any_some] at hfree
  exact held_eq_false hfree

theorem exclusive_handle {s : Service} (h : Exclusive s.holds) {pc : WsPc}
    (hnone : ∀ lock, pc.holds lock = false) : Exclusive (s.handle pc).holds := by
  unfold handle
  split
  · refine @Exclusive.step _ _ _ h _ .ws ?_ ?_
    · intro u hu
      cases u with
      | ws => exact absurd rfl hu
      | push | ping | stop => rfl
    · intro lock hheld
      exact absurd ((hnone lock).symm.trans hheld) Bool.false_ne_true
  · exact h

theorem stopNext_others (s : Service) :
    s.stopNext.ws = s.ws ∧ s.stopNext.push = s.push ∧ s.stopNext.ping = s.ping := by
  unfold stopNext
  split
  case h_2 => split <;> exact ⟨rfl, rfl, rfl⟩
  case h_7 => split <;> exact ⟨rfl, rfl, rfl⟩
  all_goals exact ⟨rfl, rfl, rfl⟩

theorem exclusive_stopNext {s : Service} (h : Exclusive s.holds) (hfree : s.blocked .stop = false) :
    Exclusive s.stopNext.holds := by
  obtain ⟨hws, hpush, hping⟩ := stopNext_others s
  refine exclusive_of_thread h hfree ?_ ?_
  · intro u hu
    cases u with
    | stop => exact absurd rfl hu
    | ws => exact congrArg WsPc.holds hws
    | push => exact congrArg PushPc.holds hpush
    | ping => exact congrArg PingPc.holds hping
  · intro lock (hheld : s.stopNext.stop.holds lock = true)
    change s.stop.holds lock = true ∨ s.stop.wants = some lock
    cases hstop : s.stop with
    | clearConnections =>
        cases lock with
        | connections => exact .inr rfl
        | hdlMap => exact absurd hheld (by simp [stopNext, hstop, StopPc.holds])
    | clearHandles =>
        cases lock with
        | hdlMap => exact .inr rfl
        | connections => exact absurd hheld (by simp [stopNext, hstop, StopPc.holds])
    | joinThreads | joinWs =>
        apply absurd hheld
        rw [stopNext, hstop]
        dsimp only
        split
        · simp [StopPc.holds]
        · simp [hstop, StopPc.holds]
    | idle | connectionsCleared | handlesCleared =>
        exact absurd hheld (by simp [stopNext, hstop, StopPc.holds])

theorem exclusive_advance {s : Service} (h : Exclusive s.holds) {t : Thread}
    (hfree : s.blocked t = false) (env : Surroundings) : Exclusive (s.advance env t).holds := by
  cases t with
  | ws =>
      refine exclusive_of_thread h hfree ?_ fun lock hheld => WsPc.holds_next hheld
      intro u hu
      cases u with
      | ws => exact absurd rfl hu
      | push | ping | stop => rfl
  | push =>
      rw [advance]
      split
      · exact h
      · refine exclusive_of_thread h hfree ?_ fun lock hheld => PushPc.holds_next hheld
        intro u hu
        cases u with
        | push => exact absurd rfl hu
        | ws | ping | stop => rfl
  | ping =>
      rw [advance]
      split
      · exact h
      · refine exclusive_of_thread h hfree ?_ fun lock hheld => PingPc.holds_next hheld
        intro u hu
        cases u with
        | ping => exact absurd rfl hu
        | ws | push | stop => rfl
  | stop => exact exclusive_stopNext h hfree

theorem exclusive_step {s : Service} (h : Exclusive s.holds) (input : Input) :
    Exclusive (s.step input).holds := by
  cases input with
  | start =>
      rw [step]
      split
      · exact h
      · exact h
  | stop =>
      rw [step]
      split
      · refine @Exclusive.step _ _ _ h _ .stop ?_ ?_
        · intro u hu
          cases u with
          | stop => exact absurd rfl hu
          | ws | push | ping => rfl
        · intro lock hheld
          exact absurd hheld (by cases lock <;> simp [holds, StopPc.holds])
      · exact h
  | «open» nowMs =>
      exact exclusive_handle (s := { s with
        tables := { s.tables with counter := s.tables.counter + 1 }
        nextHdl := s.nextHdl + 1 }) h fun lock => by cases lock <;> rfl
  | close hdl => exact exclusive_handle h fun lock => by cases lock <;> rfl
  | message hdl message => exact exclusive_handle h fun lock => by cases lock <;> rfl
  | run t env =>
      rw [step]
      split
      · exact h
      · next hfree => exact exclusive_advance h (by simpa using hfree) env

theorem closes_eq_false {s : Service} (h : Exclusive s.holds)
    (hws : s.ws.holds .connections = true) : s.ping.closes = false := by
  cases hcloses : s.ping.closes with
  | false => rfl
  | true =>
      have hping : s.holds .ping .connections = true := (PingPc.of_closes hcloses).2
      exact absurd (h .ws .ping .connections hws hping) (by decide)

theorem calm_onMessage (id : CString) (message : ClientMessage) :
    (WsPc.onMessage id message).waitsForItself = false ∧
      (WsPc.onMessage id message).nested = false := by
  cases message with
  | subscribe target sub interval =>
      rw [WsPc.onMessage]
      split
      · exact ⟨rfl, rfl⟩
      · exact ⟨rfl, rfl⟩
  | unsubscribe | ping | rejected => exact ⟨rfl, rfl⟩

theorem ws_next {s : Service} (h : Exclusive s.holds)
    (hself : s.ws.waitsForItself = false) (hfree : s.blocked .ws = false) (env : Surroundings) :
    ((s.ws.next s.tables env).2.waitsForItself = false ∧
        ¬ (s.ping.closes = true ∧ (s.ws.next s.tables env).2.nested = true)) ↔
      s.KeepsOrder (.run .ws env) := by
  cases hws : s.ws with
  | openHandle hdl id nowMs =>
      have hheld : s.held .hdlMap = false := by
        simpa [blocked, wants, hws, WsPc.wants] using hfree
      simp [KeepsOrder, hws, hheld, WsPc.next, WsPc.waitsForItself, WsPc.nested]
  | closeHandle hdl =>
      have hheld : s.held .hdlMap = false := by
        simpa [blocked, wants, hws, WsPc.wants] using hfree
      cases hfound : s.tables.hdlToId[hdl]? with
      | none =>
          simp [KeepsOrder, hws, hfound, Std.ExtTreeMap.mem_iff_isSome_getElem?, WsPc.next,
            WsPc.waitsForItself, WsPc.nested]
      | some id =>
          simp [KeepsOrder, hws, hheld, hfound, Std.ExtTreeMap.mem_iff_isSome_getElem?, WsPc.next,
            WsPc.waitsForItself, WsPc.nested]
  | closed id =>
      have hcloses := closes_eq_false h (by rw [hws]; rfl)
      simp [KeepsOrder, hws, hcloses, WsPc.next, WsPc.waitsForItself]
  | pong id pc =>
      cases pc with
      | found valid =>
          cases valid <;> cases hsent : env.sent <;>
            simp [KeepsOrder, hws, hsent, WsPc.next, SendPc.next, WsPc.waitsForItself, WsPc.nested]
      | count =>
          rw [hws] at hself
          exact absurd hself (by simp [WsPc.waitsForItself])
      | lookUp | counted =>
          simp [KeepsOrder, hws, WsPc.next, SendPc.next, WsPc.waitsForItself, WsPc.nested]
  | messageFound found message =>
      cases found with
      | none => simp [KeepsOrder, hws, WsPc.next, WsPc.waitsForItself, WsPc.nested]
      | some id => simp [KeepsOrder, hws, WsPc.next, calm_onMessage]
  | ping id =>
      rw [WsPc.next]
      split
      · simp [KeepsOrder, hws, WsPc.waitsForItself, WsPc.nested]
      · simp [KeepsOrder, hws, WsPc.waitsForItself, WsPc.nested]
  | send id pc =>
      rw [WsPc.next]
      split
      · simp [KeepsOrder, hws, WsPc.waitsForItself, WsPc.nested]
      · simp [KeepsOrder, hws, WsPc.waitsForItself, WsPc.nested]
  | idle | onOpen | onClose | removeConnection | leaving | handled | messageHandle | subscribe
  | subscribed | unsubscribe | answered =>
      simp [KeepsOrder, hws, WsPc.next, WsPc.waitsForItself, WsPc.nested]

theorem ping_next {s : Service} (h : Exclusive s.holds)
    (hfree : s.blocked .ping = false) (env : Surroundings) :
    ¬ ((s.ping.next s.tables s.pingTimeout env).closes = true ∧ s.ws.nested = true) ↔
      s.KeepsOrder (.run .ping env) := by
  cases hping : s.ping with
  | scan =>
      have hheld : s.held .connections = false := by
        simpa [blocked, wants, hping, PingPc.wants] using hfree
      cases hids : s.tables.timedOut env.now s.pingTimeout with
      | nil => simp [KeepsOrder, hids, PingPc.next, PingPc.nextClose, PingPc.closes]
      | cons id rest =>
          simp [KeepsOrder, hping, hheld, hids, PingPc.next, PingPc.nextClose, PingPc.closes]
  | closing rest =>
      have hnested : s.ws.nested = false := by
        cases hnested : s.ws.nested with
        | false => rfl
        | true =>
            have hws : s.holds .ws .hdlMap = true := (WsPc.of_nested hnested).2
            have hheld : s.holds .ping .hdlMap = true := by
              rw [holds, hping]
              rfl
            exact absurd (h .ws .ping .hdlMap hws hheld) (by decide)
      simp [KeepsOrder, hping, hnested]
  | idle | closeHandle | scanned => simp [KeepsOrder, hping, PingPc.next, PingPc.closes]

theorem keepsOrder_of_blocked {s : Service} {t : Thread} (h : s.blocked t = true)
    (env : Surroundings) : s.KeepsOrder (.run t env) := by
  cases t with
  | push | stop => trivial
  | ping =>
      intro hping hfree
      simp [blocked, wants, hping, PingPc.wants, hfree] at h
  | ws =>
      cases hws : s.ws with
      | openHandle | closeHandle =>
          have hheld : s.held .hdlMap = true := by
            simpa [blocked, wants, hws, WsPc.wants] using h
          simp [KeepsOrder, hws, hheld]
      | pong id pc =>
          cases pc with
          | found => simp [blocked, wants, hws, WsPc.wants, SendPc.wants] at h
          | lookUp | count | counted => simp [KeepsOrder, hws]
      | _ => simp [KeepsOrder, hws]

theorem calm_handle {s : Service} (hself : s.ws.waitsForItself = false)
    (hcrossed : ¬ (s.ping.closes = true ∧ s.ws.nested = true)) {pc : WsPc}
    (hpc : pc.waitsForItself = false ∧ pc.nested = false) :
    (s.handle pc).ws.waitsForItself = false ∧
      ¬ ((s.handle pc).ping.closes = true ∧ (s.handle pc).ws.nested = true) := by
  unfold handle
  split
  · refine ⟨hpc.1, fun hboth => ?_⟩
    exact absurd (hpc.2.symm.trans hboth.2) Bool.false_ne_true
  · exact ⟨hself, hcrossed⟩

theorem deadlockFree_step {s : Service} (h : Exclusive s.holds) (hfree : s.DeadlockFree)
    (input : Input) : (s.step input).DeadlockFree ↔ s.KeepsOrder input := by
  have hsafe := (deadlockFree_iff s).mp hfree
  have ⟨hself, hcrossed⟩ := hsafe
  cases input with
  | start =>
      refine iff_of_true ?_ trivial
      rw [step]
      split
      · exact (deadlockFree_iff _).mpr hsafe
      · exact hfree
  | stop =>
      refine iff_of_true ?_ trivial
      rw [step]
      split
      · exact (deadlockFree_iff _).mpr hsafe
      · exact hfree
  | «open» nowMs =>
      refine iff_of_true ((deadlockFree_iff _).mpr ?_) trivial
      exact calm_handle (s := { s with
        tables := { s.tables with counter := s.tables.counter + 1 }
        nextHdl := s.nextHdl + 1 }) hself hcrossed ⟨rfl, rfl⟩
  | close hdl =>
      exact iff_of_true ((deadlockFree_iff _).mpr (calm_handle hself hcrossed ⟨rfl, rfl⟩)) trivial
  | message hdl message =>
      exact iff_of_true ((deadlockFree_iff _).mpr (calm_handle hself hcrossed ⟨rfl, rfl⟩)) trivial
  | run t env =>
      rw [step]
      split
      case isTrue hblocked => exact iff_of_true hfree (keepsOrder_of_blocked hblocked env)
      case isFalse hgoes =>
        have hgoes : s.blocked t = false := by simpa using hgoes
        rw [deadlockFree_iff]
        cases t with
        | ws => exact ws_next h hself hgoes env
        | push =>
            rw [advance]
            split
            · exact iff_of_true hsafe trivial
            · exact iff_of_true hsafe trivial
        | ping =>
            rw [advance]
            split
            case isTrue hidle =>
              refine iff_of_true hsafe fun hscan => ?_
              rw [hidle.1] at hscan
              exact absurd hscan (by simp)
            case isFalse =>
              rw [← ping_next h hgoes env]
              exact and_iff_right hself
        | stop =>
            refine iff_of_true ?_ trivial
            rw [advance, (stopNext_others s).1, (stopNext_others s).2.2]
            exact hsafe

end Service

open Service

/-- The service is free of deadlocks throughout a run exactly when its steps keep the order
of the two locks. -/
theorem throughout_deadlockFree_iff (pingTimeout : Int) (inputs : List Input) :
    Throughout Service.step DeadlockFree { pingTimeout } inputs ↔
      Admitted Service.step KeepsOrder { pingTimeout } inputs := by
  have hexclusive : Exclusive (Service.holds { pingTimeout }) := by
    intro t u lock ht
    apply absurd ht
    cases t <;> cases lock <;>
      simp [holds, WsPc.holds, PushPc.holds, PingPc.holds, StopPc.holds]
  refine throughout_iff_admitted ?_ hexclusive
    (fun s input h hfree => deadlockFree_step h hfree input)
    (fun s input h _ _ => exclusive_step h input)
  exact (deadlockFree_iff _).mpr ⟨rfl, fun h => absurd h.1 Bool.false_ne_true⟩

/-- A client connects and sends a ping: when the pong is on its way, the thread of the
handlers wants the lock that `HandlePing` still holds. -/
def pingMessage : List Input :=
  [.start, .open 0] ++ List.replicate 4 (.run .ws ⟨0, true⟩) ++ [.message 0 .ping] ++
    List.replicate 5 (.run .ws ⟨0, true⟩)

theorem not_deadlockFree_ping :
    ¬ ∀ (pingTimeout : Int) (inputs : List Input),
      Throughout Service.step DeadlockFree { pingTimeout } inputs := by
  intro hall
  have hlast := hall 10000 pingMessage pingMessage [] (List.append_nil _).symm
  have hself := ((deadlockFree_iff _).mp hlast).1
  exact absurd hself (by decide +kernel)

end GBServer.WebSocketLocks
