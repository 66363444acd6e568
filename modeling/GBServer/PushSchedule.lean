import GBServer.WebSocketStats
import Mathlib.Data.List.Sigma
import Mathlib.Logic.Function.Basic

namespace GBServer.PushSchedule

open Std (ExtTreeMap)
open Foundation.CStrings
open Foundation.OrderedMap
open Foundation.Runs
open GBServer.WebSocketStats

/-- A `PushTask`, with the subscription that it is for: the one at `index` of its connection
when the list had been dropped `cleared` times. -/
structure Push where
  connectionId : CString
  cleared : Nat
  index : Nat
  sub : Subscription
  time : Int
  deriving DecidableEq, Repr

def Push.name (push : Push) : CString × Nat × Nat :=
  (push.connectionId, push.cleared, push.index)

/-- `clock` is the time of the last call of `PushStatsTimer`, and `tasks` is what that call
has not sent yet. `collected` are the tasks of all calls, `handled` those it is done with,
and `cleared` is how often each connection has lost its subscriptions. -/
structure Schedule where
  service : Service := {}
  clock : Int := 0
  tasks : List Push := []
  collected : List Push := []
  handled : List Push := []
  cleared : CString → Nat := fun _ => 0

/-- `PushStatsTimer` collects `elapsed` after its last call, for the clock does not run
backwards. `accepted` is whether `websocketpp` takes the message. -/
inductive Input where
  | start
  | open (nowMs : Nat)
  | close (hdl : ConnectionHdl)
  | message (hdl : ConnectionHdl) (message : ClientMessage) (now : Int)
  | collect (elapsed : Nat)
  | send (accepted : Bool)
  | stop
  deriving DecidableEq, Repr

namespace Schedule

abbrev connections (s : Schedule) : ExtTreeMap CString ConnectionInfo :=
  s.service.tables.connections

def connectionOf (s : Schedule) (hdl : ConnectionHdl) : Option CString :=
  if s.service.phase = .stopped then none else s.service.tables.hdlToId[hdl]?

def serve (s : Schedule) (input : WebSocketStats.Input) : Schedule :=
  { s with service := s.service.step input }

/-- The connection of a handle, if there is one, loses its subscriptions. -/
def clear (s : Schedule) (hdl : ConnectionHdl) : Schedule :=
  match s.connectionOf hdl with
  | none => s
  | some id => { s with cleared := Function.update s.cleared id (s.cleared id + 1) }

/-- The tasks that `PushStatsTimer` collects. -/
def dueNow (s : Schedule) (now : Int) : List Push :=
  s.connections.toList.flatMap fun (id, info) =>
    (info.subscriptions.zipIdx.filter fun (sub, _) => sub.due now).map fun (sub, index) =>
      { connectionId := id, cleared := s.cleared id, index, sub, time := now }

/-- The push thread runs, and is done with its last call. -/
def Calls (s : Schedule) : Prop :=
  s.tasks = [] ∧ (s.service.phase = .running ∨ s.service.phase = .joining)

instance (s : Schedule) : Decidable s.Calls := inferInstanceAs (Decidable (_ ∧ _))

def collect (s : Schedule) (elapsed : Nat) : Schedule :=
  let now := s.clock + elapsed
  { s.serve (.push now) with
    clock := now
    tasks := s.dueNow now
    collected := s.collected ++ s.dueNow now }

def send (s : Schedule) : Schedule :=
  match s.tasks with
  | [] => s
  | push :: rest => { s with tasks := rest, handled := s.handled ++ [push] }

/-- `SendClientMessage` finds the connection, and `websocketpp` takes the message. -/
def Sends (s : Schedule) (push : Push) (accepted : Bool) : Prop :=
  accepted ∧ push.connectionId ∈ s.service.tables.idToHdl

/-- `Stop` waits for the push thread to finish its call. -/
def step (s : Schedule) : Input → Schedule
  | .start => s.serve .start
  | .open nowMs => s.serve (.open nowMs)
  | .close hdl => (s.clear hdl).serve (.close hdl)
  | .message hdl .unsubscribe now => (s.clear hdl).serve (.message hdl .unsubscribe now)
  | .message hdl message now => s.serve (.message hdl message now)
  | .collect elapsed => if s.Calls then s.collect elapsed else s
  | .send _ => s.send
  | .stop => if s.tasks = [] then s.serve .stop else s

/-- An unsubscribe or the close of the connection has been processed. -/
def Cancelled (s : Schedule) (push : Push) : Prop :=
  push.cleared < s.cleared push.connectionId

instance (s : Schedule) (push : Push) : Decidable (s.Cancelled push) := Nat.decLt _ _

/-- Two pushes of one subscription were collected at least its interval apart. -/
def Spaced (s : Schedule) : Prop :=
  s.collected.Pairwise fun p q => p.name = q.name → q.sub.interval ≤ q.time - p.time

/-- What is sent is sent for a subscription that the connection still has. -/
def NotAfterCancel (s : Schedule) : Input → Prop
  | .send accepted => ∀ push, s.tasks.head? = some push → s.Sends push accepted →
      ¬ s.Cancelled push
  | _ => True

/-- No unsubscribe is processed while the push thread has a task for its connection. -/
def UnsubscribesIdle (s : Schedule) : Input → Prop
  | .message hdl .unsubscribe _ => ∀ id, s.connectionOf hdl = some id →
      ∀ push ∈ s.tasks, push.connectionId ≠ id
  | _ => True

end Schedule

open Schedule

/-- The interval has passed since each push, and since the clock showed zero. -/
def Elapsed (collected : List Push) (name : CString × Nat × Nat) (interval now : Int) : Prop :=
  interval ≤ now ∧ ∀ push ∈ collected, push.name = name → interval ≤ now - push.time

def Input.isSend : Input → Bool
  | .send _ => true
  | _ => false

/-- Every call of `PushStatsTimer` pushes each subscription whose interval has elapsed, once
it has made a send step for each of its tasks. -/
def PushesElapsed (inputs : List Input) : Prop :=
  ∀ front (elapsed : Nat) back, inputs = front ++ .collect elapsed :: back →
    let s := run step {} front
    let now := s.clock + elapsed
    s.Calls → (s.dueNow now).length ≤ back.countP Input.isSend →
      ∀ (id : CString) (info : ConnectionInfo) (index : Nat) (sub : Subscription),
        s.connections[id]? = some info → info.subscriptions[index]? = some sub →
        Elapsed s.collected (id, s.cleared id, index) sub.interval now →
          (⟨id, s.cleared id, index, sub, now⟩ : Push) ∈ (run step {} inputs).handled

section Due

variable {s : Schedule} {now : Int}

theorem mem_dueNow {push : Push} :
    push ∈ s.dueNow now ↔
      push.cleared = s.cleared push.connectionId ∧ push.time = now ∧ push.sub.due now = true ∧
        ∃ info, s.connections[push.connectionId]? = some info ∧
          info.subscriptions[push.index]? = some push.sub := by
  simp only [dueNow, List.mem_flatMap, List.mem_map, List.mem_filter, Prod.exists,
    ExtTreeMap.mem_toList_iff_getElem?_eq_some, List.mk_mem_zipIdx_iff_getElem?]
  constructor
  · rintro ⟨id, info, hinfo, sub, index, ⟨hsub, hdue⟩, rfl⟩
    exact ⟨rfl, rfl, hdue, info, hinfo, hsub⟩
  · rintro ⟨hcleared, htime, hdue, info, hinfo, hsub⟩
    refine ⟨push.connectionId, info, hinfo, push.sub, push.index, ⟨hsub, hdue⟩, ?_⟩
    rw [← hcleared, ← htime]

theorem pairwise_dueNow (s : Schedule) (now : Int) :
    (s.dueNow now).Pairwise fun p q => p.name ≠ q.name := by
  rw [dueNow, List.pairwise_flatMap]
  constructor
  · rintro ⟨id, info⟩ _
    have hindex : info.subscriptions.zipIdx.Pairwise fun a b => a.2 ≠ b.2 :=
      List.pairwise_map.mp (List.nodup_zipIdx_map_snd info.subscriptions)
    refine List.pairwise_map.mpr ((hindex.filter _).imp ?_)
    rintro ⟨sub, index⟩ ⟨sub', index'⟩ hne hname
    exact hne (Prod.ext_iff.mp (Prod.ext_iff.mp hname).2).2
  · refine ExtTreeMap.distinct_keys_toList.imp ?_
    rintro ⟨id, info⟩ ⟨id', info'⟩ hne p hp q hq hname
    obtain ⟨_, _, rfl⟩ := List.mem_map.mp hp
    obtain ⟨_, _, rfl⟩ := List.mem_map.mp hq
    obtain rfl : id = id' := (Prod.ext_iff.mp hname).1
    exact hne Std.ReflCmp.compare_self

end Due

/-- What the handlers, `Start` and `Stop` do to the subscriptions: a connection that is left
is new, or has lost its list, or has kept it with new subscriptions behind it. -/
structure Serves (s s' : Schedule) : Prop where
  clock : s'.clock = s.clock
  tasks : s'.tasks = s.tasks
  collected : s'.collected = s.collected
  handled : s'.handled = s.handled
  cleared : ∀ id, s.cleared id ≤ s'.cleared id
  counter : s.service.tables.counter ≤ s'.service.tables.counter
  subscriptions : ∀ (id : CString) (info' : ConnectionInfo), s'.connections[id]? = some info' →
    (info'.subscriptions = [] ∧ ¬ Generated s.service.tables.counter id ∧
      Generated s'.service.tables.counter id) ∨
    (info'.subscriptions = [] ∧ id ∈ s.connections ∧ s.cleared id < s'.cleared id) ∨
    ∃ info fresh, s.connections[id]? = some info ∧ s'.cleared id = s.cleared id ∧
      info'.subscriptions = info.subscriptions ++ fresh ∧ ∀ sub ∈ fresh, sub.lastPushTime = 0

section Serving

/-- A connection with the list that it had. -/
theorem kept {s s' : Schedule} {id : CString} {info : ConnectionInfo}
    (hinfo : s.connections[id]? = some info) (hcleared : s'.cleared id = s.cleared id) :
    ∃ old fresh, s.connections[id]? = some old ∧ s'.cleared id = s.cleared id ∧
      info.subscriptions = old.subscriptions ++ fresh ∧ ∀ sub ∈ fresh, sub.lastPushTime = 0 :=
  ⟨info, [], hinfo, hcleared, (List.append_nil _).symm,
    fun _ hsub => absurd hsub List.not_mem_nil⟩

variable (s : Schedule)

theorem serves_of_subset {service : Service}
    (hconnections : ∀ (id : CString) (info : ConnectionInfo),
      service.tables.connections[id]? = some info → s.connections[id]? = some info)
    (hcounter : service.tables.counter = s.service.tables.counter) :
    Serves s { s with service := service } where
  clock := rfl
  tasks := rfl
  collected := rfl
  handled := rfl
  cleared _ := Nat.le_refl _
  counter := Nat.le_of_eq hcounter.symm
  subscriptions id info hinfo :=
    .inr (.inr (kept (hconnections id info hinfo) rfl))

theorem serves_refl : Serves s s := serves_of_subset s (fun _ _ h => h) rfl

theorem serves_start : Serves s (s.serve .start) := by
  have hstart : s.service.start.tables = s.service.tables := by
    unfold Service.start
    split <;> rfl
  refine serves_of_subset s ?_ (by rw [Service.step, hstart])
  intro id info hinfo
  rwa [Service.step, hstart] at hinfo

theorem serves_stop : Serves s (s.serve .stop) := by
  refine serves_of_subset s ?_ ?_
  · intro id info hinfo
    rw [Service.step, Service.stop] at hinfo
    split at hinfo
    case h_3 => simp [Tables.clearConnections] at hinfo
    all_goals exact hinfo
  · rw [Service.step, Service.stop]
    split <;> rfl

theorem serves_open (nowMs : Nat) : Serves s (s.serve (.open nowMs)) := by
  by_cases hphase : s.service.phase = .stopped
  · have hsame : s.serve (.open nowMs) = s := by
      rw [serve, Service.step, if_pos hphase]
    rw [hsame]
    exact serves_refl s
  · have hopen : s.serve (.open nowMs) = { s with service := s.service.openHandler nowMs } := by
      rw [serve, Service.step, if_neg hphase]
    rw [hopen]
    refine ⟨rfl, rfl, rfl, rfl, fun _ => Nat.le_refl _, Nat.le_succ _, ?_⟩
    intro id info hinfo
    simp only [connections, Service.openHandler, Tables.addHandle, Tables.onOpen,
      ExtTreeMap.getElem?_insert] at hinfo
    split at hinfo
    · next heq =>
        obtain rfl := Std.LawfulEqCmp.eq_of_compare heq
        obtain rfl := Option.some.inj hinfo
        exact .inl ⟨rfl, not_generated _ _, generated_new _ _⟩
    · exact .inr (.inr (kept hinfo rfl))

variable {s} {hdl : ConnectionHdl} {id : CString}

theorem connectionOf_eq_some (h : s.connectionOf hdl = some id) :
    s.service.phase ≠ .stopped ∧ s.service.tables.hdlToId[hdl]? = some id := by
  unfold connectionOf at h
  split at h
  · cases h
  · next hphase => exact ⟨hphase, h⟩

theorem serve_of_connectionOf_none (h : s.connectionOf hdl = none) :
    s.serve (.close hdl) = s ∧
      ∀ message now, s.serve (.message hdl message now) = s := by
  unfold connectionOf at h
  simp only [serve, Service.step]
  split at h
  · next hphase => simp only [if_pos hphase, and_self, implies_true]
  · next hphase =>
      simp only [if_neg hphase, Service.closeHandler, Service.messageHandler, h, and_self,
        implies_true]

theorem serve_close (h : s.connectionOf hdl = some id) :
    s.serve (.close hdl) =
      { s with
        service :=
          { s.service with
            tables := (s.service.tables.removeHandle hdl id).removeConnection id
            late := s.service.late.filter (· ≠ id) } } := by
  obtain ⟨hphase, hid⟩ := connectionOf_eq_some h
  simp only [serve, Service.step, if_neg hphase, Service.closeHandler, hid]

theorem serve_message (h : s.connectionOf hdl = some id) (message : ClientMessage) (now : Int) :
    s.serve (.message hdl message now) =
      { s with
        service := { s.service with tables := s.service.tables.onMessage id now message } } := by
  obtain ⟨hphase, hid⟩ := connectionOf_eq_some h
  simp only [serve, Service.step, if_neg hphase, Service.messageHandler, hid]

@[simp]
theorem clear_service (s : Schedule) (hdl : ConnectionHdl) :
    (s.clear hdl).service = s.service := by
  unfold clear
  split <;> rfl

@[simp]
theorem clear_tasks (s : Schedule) (hdl : ConnectionHdl) : (s.clear hdl).tasks = s.tasks := by
  unfold clear
  split <;> rfl

theorem connectionOf_clear (s : Schedule) (hdl : ConnectionHdl) :
    (s.clear hdl).connectionOf hdl = s.connectionOf hdl := by
  rw [connectionOf, clear_service, connectionOf]

theorem clear_of_connectionOf_none (h : s.connectionOf hdl = none) : s.clear hdl = s := by
  rw [clear, h]

theorem clear_eq (h : s.connectionOf hdl = some id) :
    s.clear hdl = { s with cleared := Function.update s.cleared id (s.cleared id + 1) } := by
  rw [clear, h]

theorem le_update_succ (f : CString → Nat) (id a : CString) :
    f a ≤ Function.update f id (f id + 1) a := by
  rcases eq_or_ne a id with rfl | hne
  · rw [Function.update_self]
    exact Nat.le_succ _
  · rw [Function.update_of_ne hne]

theorem lt_update_succ (f : CString → Nat) (id : CString) :
    f id < Function.update f id (f id + 1) id := by
  rw [Function.update_self]
  exact Nat.lt_succ_self _

theorem serves_close (s : Schedule) (hdl : ConnectionHdl) :
    Serves s ((s.clear hdl).serve (.close hdl)) := by
  cases h : s.connectionOf hdl with
  | none =>
      rw [clear_of_connectionOf_none h, (serve_of_connectionOf_none h).1]
      exact serves_refl s
  | some id =>
      rw [serve_close ((connectionOf_clear s hdl).trans h), clear_eq h]
      refine ⟨rfl, rfl, rfl, rfl, le_update_succ s.cleared id, Nat.le_refl _, ?_⟩
      intro a info hinfo
      simp only [connections, Tables.removeHandle, Tables.removeConnection,
        ExtTreeMap.getElem?_erase] at hinfo
      split at hinfo
      · cases hinfo
      · next hne =>
          have hother : a ≠ id := by
            rintro rfl
            exact hne Std.ReflCmp.compare_self
          exact .inr (.inr (kept hinfo (Function.update_of_ne hother _ _)))

theorem serves_modifyInfo (s : Schedule) (id : CString) {f : ConnectionInfo → ConnectionInfo}
    {fresh : List Subscription} (hf : ∀ info, (f info).subscriptions = info.subscriptions ++ fresh)
    (hfresh : ∀ sub ∈ fresh, sub.lastPushTime = 0) :
    Serves s { s with
      service := { s.service with tables := s.service.tables.modifyInfo id f } } where
  clock := rfl
  tasks := rfl
  collected := rfl
  handled := rfl
  cleared _ := Nat.le_refl _
  counter := Nat.le_refl _
  subscriptions a info' hinfo' := by
    simp only [connections, Tables.modifyInfo, ExtTreeMap.getElem?_modify] at hinfo'
    split at hinfo'
    · next heq =>
        obtain rfl := Std.LawfulEqCmp.eq_of_compare heq
        obtain ⟨info, hinfo, rfl⟩ := Option.map_eq_some_iff.mp hinfo'
        exact .inr (.inr ⟨info, fresh, hinfo, rfl, hf info, hfresh⟩)
    · exact .inr (.inr (kept hinfo' rfl))

theorem serves_unsubscribe (s : Schedule) (hdl : ConnectionHdl) (now : Int) :
    Serves s ((s.clear hdl).serve (.message hdl .unsubscribe now)) := by
  cases h : s.connectionOf hdl with
  | none =>
      rw [clear_of_connectionOf_none h, (serve_of_connectionOf_none h).2]
      exact serves_refl s
  | some id =>
      rw [serve_message ((connectionOf_clear s hdl).trans h), clear_eq h]
      refine ⟨rfl, rfl, rfl, rfl, le_update_succ s.cleared id, Nat.le_refl _, ?_⟩
      intro a info' hinfo'
      simp only [connections, Tables.onMessage, Tables.handleUnsubscribe, Tables.modifyInfo,
        ExtTreeMap.getElem?_modify] at hinfo'
      split at hinfo'
      · next heq =>
          obtain rfl := Std.LawfulEqCmp.eq_of_compare heq
          obtain ⟨info, hinfo, rfl⟩ := Option.map_eq_some_iff.mp hinfo'
          exact .inr (.inl ⟨rfl, mem_of_getElem?_eq_some hinfo, lt_update_succ s.cleared id⟩)
      · next hne =>
          have hother : a ≠ id := by
            rintro rfl
            exact hne Std.ReflCmp.compare_self
          exact .inr (.inr (kept hinfo' (Function.update_of_ne hother _ _)))

theorem serves_message (s : Schedule) (hdl : ConnectionHdl) (message : ClientMessage) (now : Int)
    (hmessage : message ≠ .unsubscribe) : Serves s (s.serve (.message hdl message now)) := by
  cases h : s.connectionOf hdl with
  | none =>
      rw [(serve_of_connectionOf_none h).2]
      exact serves_refl s
  | some id =>
      rw [serve_message h]
      cases message with
      | subscribe target sub interval =>
          rw [Tables.onMessage]
          split
          · exact serves_refl s
          · exact serves_modifyInfo s id (fun _ => rfl) (by simp)
      | unsubscribe => exact absurd rfl hmessage
      | ping => exact serves_modifyInfo s id (fun info => (List.append_nil _).symm) (by simp)
      | rejected => exact serves_refl s

end Serving

/-- The time of the last push of a subscription, zero before the first. -/
structure LastPush (collected : List Push) (name : CString × Nat × Nat) (time : Int) : Prop where
  nonneg : 0 ≤ time
  latest : ∀ push ∈ collected, push.name = name → push.time ≤ time
  reached : time = 0 ∨ ∃ push ∈ collected, push.name = name ∧ push.time = time

theorem LastPush.due_iff {collected : List Push} {name : CString × Nat × Nat} {sub : Subscription}
    (h : LastPush collected name sub.lastPushTime) (now : Int) :
    sub.due now = true ↔ Elapsed collected name sub.interval now := by
  rw [Subscription.due, decide_eq_true_eq]
  obtain ⟨hnonneg, hlatest, hreached⟩ := h
  constructor
  · intro hdue
    refine ⟨by omega, ?_⟩
    intro push hpush hname
    have hle := hlatest push hpush hname
    omega
  · rintro ⟨hnow, hpushes⟩
    rcases hreached with hzero | ⟨push, hpush, hname, htime⟩
    · omega
    · have hle := hpushes push hpush hname
      omega

namespace Schedule

structure Invariant (s : Schedule) : Prop where
  generated : ∀ id ∈ s.connections, Generated s.service.tables.counter id
  times : ∀ push ∈ s.collected, 0 ≤ push.time ∧ push.time ≤ s.clock
  clock : 0 ≤ s.clock
  queue : s.handled ++ s.tasks = s.collected
  ids : ∀ push ∈ s.collected, Generated s.service.tables.counter push.connectionId
  cleared : ∀ push ∈ s.collected, push.cleared ≤ s.cleared push.connectionId
  index : ∀ push ∈ s.collected, push.cleared = s.cleared push.connectionId →
    ∀ info, s.connections[push.connectionId]? = some info →
      push.index < info.subscriptions.length
  lastPush : ∀ (id : CString) (info : ConnectionInfo) (index : Nat) (sub : Subscription),
    s.connections[id]? = some info → info.subscriptions[index]? = some sub →
      LastPush s.collected (id, s.cleared id, index) sub.lastPushTime
  spaced : s.Spaced

theorem invariant_start : Invariant {} where
  generated _ h := absurd h ExtTreeMap.not_mem_empty
  times := nofun
  clock := le_refl _
  queue := rfl
  ids := nofun
  cleared := nofun
  index := nofun
  lastPush _ _ _ _ h := by simp [connections] at h
  spaced := .nil

theorem Invariant.serves {s s' : Schedule} (h : s.Invariant) (hserves : Serves s s') :
    s'.Invariant := by
  obtain ⟨hclock, htasks, hcollected, hhandled, hcleared, hcounter, hsubs⟩ := hserves
  refine
    { generated := ?_, times := ?_, clock := ?_, queue := ?_, ids := ?_, cleared := ?_
      index := ?_, lastPush := ?_, spaced := ?_ }
  · intro id hid
    obtain ⟨info', hinfo'⟩ := mem_iff_exists.mp hid
    rcases hsubs id info' hinfo' with ⟨_, _, hnew⟩ | ⟨_, hold, _⟩ | ⟨info, _, hinfo, _⟩
    · exact hnew
    · exact (h.generated id hold).mono hcounter
    · exact (h.generated id (mem_of_getElem?_eq_some hinfo)).mono hcounter
  · rw [hcollected, hclock]
    exact h.times
  · rw [hclock]
    exact h.clock
  · rw [hhandled, htasks, hcollected]
    exact h.queue
  · rw [hcollected]
    exact fun push hpush => (h.ids push hpush).mono hcounter
  · rw [hcollected]
    exact fun push hpush => (h.cleared push hpush).trans (hcleared _)
  · rw [hcollected]
    intro push hpush hsame info' hinfo'
    have hle := h.cleared push hpush
    have hmono := hcleared push.connectionId
    rcases hsubs _ info' hinfo' with
      ⟨_, hnew, _⟩ | ⟨_, _, hlt⟩ | ⟨info, fresh, hinfo, heq, happend, _⟩
    · exact absurd (h.ids push hpush) hnew
    · omega
    · have hindex := h.index push hpush (hsame.trans heq) info hinfo
      rw [happend, List.length_append]
      omega
  · rw [hcollected]
    intro id info' index sub hinfo' hsub
    rcases hsubs id info' hinfo' with
      ⟨hnil, _⟩ | ⟨hnil, _⟩ | ⟨info, fresh, hinfo, heq, happend, hfresh⟩
    · simp [hnil] at hsub
    · simp [hnil] at hsub
    · rw [happend, List.getElem?_append] at hsub
      rw [heq]
      split at hsub
      · exact h.lastPush id info index sub hinfo hsub
      · next hlength =>
          -- a subscription that is new has a place that no task was for
          rw [hfresh sub (List.mem_of_getElem? hsub)]
          refine ⟨le_refl _, ?_, .inl rfl⟩
          intro push hpush hname
          simp only [Push.name, Prod.mk.injEq] at hname
          obtain ⟨rfl, hsame, rfl⟩ := hname
          exact absurd (h.index push hpush hsame info hinfo) hlength
  · rw [Spaced, hcollected]
    exact h.spaced

theorem Calls.push {s : Schedule} (hcalls : s.Calls) (now : Int) :
    s.service.step (.push now) =
      { s.service with tables := s.service.tables.markPushed now } := by
  rw [Service.step, if_pos hcalls.2]

theorem getElem?_markPushed {t : Tables} {now : Int} {id : CString} {info' : ConnectionInfo}
    (h : (t.markPushed now).connections[id]? = some info') :
    ∃ info, t.connections[id]? = some info ∧ info'.subscriptions =
      info.subscriptions.map fun sub =>
        if sub.due now then { sub with lastPushTime := now } else sub := by
  rw [Tables.markPushed, ExtTreeMap.getElem?_map] at h
  obtain ⟨info, hinfo, rfl⟩ := Option.map_eq_some_iff.mp h
  exact ⟨info, hinfo, rfl⟩

/-- A subscription that is collected again was last pushed its interval ago. -/
theorem Invariant.elapsed {s : Schedule} (h : s.Invariant) {now : Int} {push : Push}
    (hpush : push ∈ s.dueNow now) : Elapsed s.collected push.name push.sub.interval now := by
  obtain ⟨hcleared, _, hdue, info, hinfo, hsub⟩ := mem_dueNow.mp hpush
  have hlast := h.lastPush push.connectionId info push.index push.sub hinfo hsub
  rw [Push.name, hcleared]
  exact (hlast.due_iff now).mp hdue

theorem Invariant.spaced_collect {s : Schedule} (h : s.Invariant) (elapsed : Nat) :
    (s.collect elapsed).Spaced := by
  refine List.pairwise_append.mpr ⟨h.spaced, ?_, ?_⟩
  · exact (pairwise_dueNow s _).imp fun hne heq => absurd heq hne
  · intro p hp q hq hname
    rw [(mem_dueNow.mp hq).2.1]
    exact (h.elapsed hq).2 p hp hname

theorem Invariant.lastPush_collect {s : Schedule} (h : s.Invariant) (elapsed : Nat) {id : CString}
    {info : ConnectionInfo} {index : Nat} {sub : Subscription}
    (hinfo : s.connections[id]? = some info) (hsub : info.subscriptions[index]? = some sub) :
    LastPush (s.collect elapsed).collected (id, s.cleared id, index)
      (if sub.due (s.clock + elapsed) then s.clock + elapsed else sub.lastPushTime) := by
  have hclock := h.clock
  obtain ⟨hnonneg, hlatest, hreached⟩ := h.lastPush id info index sub hinfo hsub
  split
  · next hdue =>
      refine ⟨by omega, ?_, .inr ?_⟩
      · intro push hpush _
        rcases List.mem_append.mp hpush with hold | hnew
        · have htime := (h.times push hold).2
          omega
        · exact le_of_eq (mem_dueNow.mp hnew).2.1
      · refine ⟨⟨id, s.cleared id, index, sub, s.clock + elapsed⟩, ?_, rfl, rfl⟩
        apply List.mem_append_right
        exact mem_dueNow.mpr ⟨rfl, rfl, hdue, info, hinfo, hsub⟩
  · next hdue =>
      refine ⟨hnonneg, ?_, ?_⟩
      · intro push hpush hname
        rcases List.mem_append.mp hpush with hold | hnew
        · exact hlatest push hold hname
        · -- only a due subscription is collected
          obtain ⟨_, _, hdue', info', hinfo', hsub'⟩ := mem_dueNow.mp hnew
          simp only [Push.name, Prod.mk.injEq] at hname
          obtain ⟨hid, _, hindex⟩ := hname
          rw [hid, hinfo] at hinfo'
          obtain rfl := Option.some.inj hinfo'
          rw [hindex, hsub] at hsub'
          obtain rfl := Option.some.inj hsub'
          exact absurd hdue' hdue
      · rcases hreached with hzero | ⟨push, hpush, hpushed⟩
        · exact .inl hzero
        · exact .inr ⟨push, List.mem_append_left _ hpush, hpushed⟩

section Collecting

variable {s : Schedule} (hcalls : s.Calls) (elapsed : Nat)

include hcalls

theorem Calls.counter_collect :
    (s.collect elapsed).service.tables.counter = s.service.tables.counter := by
  rw [Schedule.collect, serve, hcalls.push]
  rfl

theorem Calls.getElem?_collect {id : CString} {info' : ConnectionInfo}
    (h : (s.collect elapsed).connections[id]? = some info') :
    ∃ info, s.connections[id]? = some info ∧ info'.subscriptions =
      info.subscriptions.map fun sub =>
        if sub.due (s.clock + elapsed) then { sub with lastPushTime := s.clock + elapsed }
        else sub := by
  rw [connections, Schedule.collect, serve, hcalls.push] at h
  exact getElem?_markPushed h

theorem Calls.mem_collect {id : CString} (h : id ∈ (s.collect elapsed).connections) :
    id ∈ s.connections := by
  obtain ⟨info', hinfo'⟩ := mem_iff_exists.mp h
  obtain ⟨info, hinfo, _⟩ := hcalls.getElem?_collect elapsed hinfo'
  exact mem_of_getElem?_eq_some hinfo

theorem Invariant.index_collect (h : s.Invariant) {push : Push}
    (hpush : push ∈ s.collected ++ s.dueNow (s.clock + elapsed))
    (hsame : push.cleared = s.cleared push.connectionId) {info' : ConnectionInfo}
    (hinfo' : (s.collect elapsed).connections[push.connectionId]? = some info') :
    push.index < info'.subscriptions.length := by
  obtain ⟨info, hinfo, hsubs⟩ := hcalls.getElem?_collect elapsed hinfo'
  rw [hsubs, List.length_map]
  rcases List.mem_append.mp hpush with hold | hnew
  · exact h.index push hold hsame info hinfo
  · obtain ⟨_, _, _, info₀, hinfo₀, hsub⟩ := mem_dueNow.mp hnew
    rw [hinfo] at hinfo₀
    obtain rfl := Option.some.inj hinfo₀
    exact (List.getElem?_eq_some_iff.mp hsub).1

theorem Invariant.collect (h : s.Invariant) : (s.collect elapsed).Invariant := by
  have hclock := h.clock
  refine
    { generated := ?_, times := ?_, clock := ?_, queue := ?_, ids := ?_, cleared := ?_
      index := ?_, lastPush := ?_, spaced := h.spaced_collect elapsed }
  · intro id hid
    rw [hcalls.counter_collect]
    exact h.generated id (hcalls.mem_collect elapsed hid)
  · intro push hpush
    change 0 ≤ push.time ∧ push.time ≤ s.clock + elapsed
    rcases List.mem_append.mp hpush with hold | hnew
    · have htimes := h.times push hold
      omega
    · have htime := (mem_dueNow.mp hnew).2.1
      omega
  · change 0 ≤ s.clock + elapsed
    omega
  · have hqueue := h.queue
    rw [hcalls.1, List.append_nil] at hqueue
    change s.handled ++ s.dueNow _ = s.collected ++ s.dueNow _
    rw [hqueue]
  · intro push hpush
    rw [hcalls.counter_collect]
    rcases List.mem_append.mp hpush with hold | hnew
    · exact h.ids push hold
    · obtain ⟨_, _, _, info, hinfo, _⟩ := mem_dueNow.mp hnew
      exact h.generated _ (mem_of_getElem?_eq_some hinfo)
  · intro push hpush
    rcases List.mem_append.mp hpush with hold | hnew
    · exact h.cleared push hold
    · exact Nat.le_of_eq (mem_dueNow.mp hnew).1
  · intro push hpush hsame info' hinfo'
    exact h.index_collect hcalls elapsed hpush hsame hinfo'
  · intro id info' index sub' hinfo' hsub'
    obtain ⟨info, hinfo, hsubs⟩ := hcalls.getElem?_collect elapsed hinfo'
    rw [hsubs, List.getElem?_map] at hsub'
    obtain ⟨sub, hsub, rfl⟩ := Option.map_eq_some_iff.mp hsub'
    have hlast := h.lastPush_collect elapsed hinfo hsub
    split at hlast
    · next hdue =>
        rw [if_pos hdue]
        exact hlast
    · next hdue =>
        rw [if_neg hdue]
        exact hlast

end Collecting

theorem Invariant.send {s : Schedule} (h : s.Invariant) : s.send.Invariant := by
  unfold Schedule.send
  split
  case h_1 => exact h
  case h_2 push rest htasks =>
    have hqueue := h.queue
    rw [htasks, List.append_cons] at hqueue
    exact { h with queue := hqueue }

/-- Whatever is neither a collect nor a send step leaves the push thread alone. -/
theorem serves_step (s : Schedule) {input : Input} (hcollect : ∀ elapsed, input ≠ .collect elapsed)
    (hsend : input.isSend = false) : Serves s (s.step input) := by
  cases input with
  | start => exact serves_start s
  | «open» nowMs => exact serves_open s nowMs
  | close hdl => exact serves_close s hdl
  | message hdl message now =>
      cases message with
      | unsubscribe => exact serves_unsubscribe s hdl now
      | subscribe target id interval => exact serves_message s hdl _ now nofun
      | ping => exact serves_message s hdl _ now nofun
      | rejected => exact serves_message s hdl _ now nofun
  | collect elapsed => exact absurd rfl (hcollect elapsed)
  | send accepted => cases hsend
  | stop =>
      rw [step]
      split
      · exact serves_stop s
      · exact serves_refl s

theorem Invariant.step {s : Schedule} (h : s.Invariant) (input : Input) :
    (s.step input).Invariant := by
  by_cases hcollect : ∃ elapsed, input = .collect elapsed
  · obtain ⟨elapsed, rfl⟩ := hcollect
    rw [Schedule.step]
    split
    · next hcalls => exact Invariant.collect hcalls elapsed h
    · exact h
  · cases hsend : input.isSend with
    | false => exact h.serves (serves_step s (fun _ heq => hcollect ⟨_, heq⟩) hsend)
    | true =>
        cases input with
        | send accepted => exact h.send
        | start | «open» | close | message | collect | stop => cases hsend

theorem invariant_reached (inputs : List Input) : (run step {} inputs).Invariant :=
  invariant_run_of_step invariant_start (fun _ input h => h.step input) inputs

/-- What the push thread has a task for, it has not lost, or cannot be sent any more. -/
def Live (s : Schedule) : Prop :=
  ∀ push ∈ s.tasks, s.Cancelled push → push.connectionId ∉ s.service.tables.idToHdl

theorem Live.of_step {s s' : Schedule} (h : s.Invariant) (hlive : s.Live)
    (htasks : ∀ push ∈ s'.tasks, push ∈ s.tasks)
    (hcancelled : ∀ push ∈ s'.tasks, s'.Cancelled push →
      s.Cancelled push ∨ push.connectionId ∉ s'.service.tables.idToHdl)
    (hids : ∀ id ∈ s'.service.tables.idToHdl,
      id ∈ s.service.tables.idToHdl ∨ ¬ Generated s.service.tables.counter id) : s'.Live := by
  intro push hpush hcancel hid
  have hold := htasks push hpush
  have hcollected : push ∈ s.collected := h.queue ▸ List.mem_append_right _ hold
  rcases hcancelled push hpush hcancel with hbefore | hgone
  · rcases hids push.connectionId hid with hknown | hnew
    · exact hlive push hold hbefore hknown
    · exact hnew (h.ids push hcollected)
  · exact hgone hid

theorem Live.of_tables {s : Schedule} (h : s.Invariant) (hlive : s.Live)
    {service : Service} (hids : ∀ id ∈ service.tables.idToHdl,
      id ∈ s.service.tables.idToHdl ∨ ¬ Generated s.service.tables.counter id) :
    Live { s with service := service } :=
  Live.of_step h hlive (fun _ hpush => hpush) (fun _ _ hcancel => .inl hcancel) hids

theorem Live.serve {s : Schedule} (h : s.Invariant) (hlive : s.Live)
    {input : WebSocketStats.Input}
    (hinput : ∀ hdl, input ≠ .close hdl ∧ ∀ now, input ≠ .message hdl .unsubscribe now) :
    (s.serve input).Live := by
  apply Live.of_tables h hlive
  intro id hid
  cases input with
  | start =>
      left
      rw [Service.step, Service.start] at hid
      split at hid <;> exact hid
  | «open» nowMs =>
      rw [Service.step] at hid
      split at hid
      · exact .inl hid
      · rcases mem_insert_iff.mp hid with rfl | hid
        · exact .inr (not_generated _ _)
        · exact .inl hid
  | close hdl => exact absurd rfl (hinput hdl).1
  | message hdl message now =>
      left
      rw [Service.step] at hid
      split at hid
      · exact hid
      · rw [Service.messageHandler] at hid
        split at hid
        · exact hid
        · rwa [(Tables.sameKeys_onMessage _ _ _ _).idToHdl] at hid
  | push now =>
      left
      rw [Service.step] at hid
      split at hid <;> exact hid
  | stop =>
      left
      rw [Service.step, Service.stop] at hid
      split at hid
      case h_4 => exact absurd hid ExtTreeMap.not_mem_empty
      all_goals exact hid

theorem cancelled_clear {s : Schedule} {hdl : ConnectionHdl} {id : CString} {push : Push}
    (hid : s.connectionOf hdl = some id) (hcancel : (s.clear hdl).Cancelled push) :
    push.connectionId = id ∨ s.Cancelled push := by
  rcases eq_or_ne push.connectionId id with heq | hne
  · exact .inl heq
  · right
    simp only [clear_eq hid, Cancelled, Function.update_of_ne hne] at hcancel
    exact hcancel

theorem Live.close {s : Schedule} (h : s.Invariant) (hlive : s.Live) (hdl : ConnectionHdl) :
    ((s.clear hdl).serve (.close hdl)).Live := by
  cases hid : s.connectionOf hdl with
  | none =>
      rw [clear_of_connectionOf_none hid, (serve_of_connectionOf_none hid).1]
      exact hlive
  | some id =>
      rw [serve_close ((connectionOf_clear s hdl).trans hid)]
      refine Live.of_step h hlive ?_ ?_ ?_
      · intro push hpush
        rwa [← clear_tasks s hdl]
      · intro push _ hcancel
        rcases cancelled_clear hid hcancel with rfl | hbefore
        · right
          intro hmem
          exact (mem_erase_iff.mp hmem).1 rfl
        · exact .inl hbefore
      · intro a ha
        left
        have hmem := (mem_erase_iff.mp ha).2
        rwa [clear_service] at hmem

theorem Live.unsubscribe {s : Schedule} (h : s.Invariant) (hlive : s.Live) {hdl : ConnectionHdl}
    {now : Int} (hidle : s.UnsubscribesIdle (.message hdl .unsubscribe now)) :
    ((s.clear hdl).serve (.message hdl .unsubscribe now)).Live := by
  cases hid : s.connectionOf hdl with
  | none =>
      rw [clear_of_connectionOf_none hid, (serve_of_connectionOf_none hid).2]
      exact hlive
  | some id =>
      rw [serve_message ((connectionOf_clear s hdl).trans hid)]
      refine Live.of_step h hlive ?_ ?_ ?_
      · intro push hpush
        rwa [← clear_tasks s hdl]
      · intro push (hpush : push ∈ (s.clear hdl).tasks) hcancel
        rw [clear_tasks] at hpush
        rcases cancelled_clear hid hcancel with heq | hbefore
        · exact absurd heq (hidle id hid push hpush)
        · exact .inl hbefore
      · intro a (ha : a ∈ (s.clear hdl).service.tables.idToHdl)
        rw [clear_service] at ha
        exact .inl ha

theorem Live.collect (s : Schedule) (elapsed : Nat) : (s.collect elapsed).Live := by
  intro push hpush hcancel
  have hcurrent := (mem_dueNow.mp hpush).1
  exact absurd hcancel (Nat.not_lt.mpr (Nat.le_of_eq hcurrent.symm))

theorem Live.step {s : Schedule} (h : s.Invariant) (hlive : s.Live) {input : Input}
    (hidle : s.UnsubscribesIdle input) : (s.step input).Live := by
  cases input with
  | start => exact hlive.serve h (fun _ => ⟨nofun, fun _ => nofun⟩)
  | «open» nowMs => exact hlive.serve h (fun _ => ⟨nofun, fun _ => nofun⟩)
  | close hdl => exact hlive.close h hdl
  | message hdl message now =>
      cases message with
      | unsubscribe => exact hlive.unsubscribe h hidle
      | subscribe | ping | rejected => exact hlive.serve h (fun _ => ⟨nofun, fun _ => nofun⟩)
  | collect elapsed =>
      rw [Schedule.step]
      split
      · exact Live.collect s elapsed
      · exact hlive
  | send accepted =>
      rw [Schedule.step, Schedule.send]
      split
      · exact hlive
      · next push rest htasks =>
          intro other hother
          exact hlive other (htasks ▸ List.mem_cons_of_mem push hother)
  | stop =>
      rw [Schedule.step]
      split
      · exact hlive.serve h (fun _ => ⟨nofun, fun _ => nofun⟩)
      · exact hlive

theorem Live.notAfterCancel {s : Schedule} (hlive : s.Live) (input : Input) :
    s.NotAfterCancel input := by
  cases input with
  | send accepted =>
      intro push hhead hsends hcancel
      exact hlive push (List.mem_of_mem_head? hhead) hcancel hsends.2
  | start | «open» | close | message | collect | stop => trivial

end Schedule

/-- A task is sent after as many send steps as there are tasks, whatever else happens. -/
theorem mem_handled_run {push : Push} (rest : List Input) (s : Schedule)
    (h : push ∈ s.handled ∨ push ∈ s.tasks ∧ s.tasks.length ≤ rest.countP Input.isSend) :
    push ∈ (run step s rest).handled := by
  induction rest generalizing s with
  | nil =>
      rcases h with h | ⟨htask, hlength⟩
      · exact h
      · rw [List.countP_nil, Nat.le_zero, List.length_eq_zero_iff] at hlength
        rw [hlength] at htask
        cases htask
  | cons input rest ih =>
      apply ih
      cases hsend : input.isSend with
      | true =>
          have hinput : s.step input = s.send := by
            cases input with
            | send accepted => rfl
            | start | «open» | close | message | collect | stop => cases hsend
          rw [hinput, send]
          rw [List.countP_cons_of_pos hsend] at h
          split
          · next hnil => exact h.imp_right fun ⟨htask, _⟩ => by simp [hnil] at htask
          · next head tail htasks =>
              rw [htasks, List.length_cons] at h
              rcases h with h | ⟨htask, hlength⟩
              · exact .inl (List.mem_append_left _ h)
              · rcases List.mem_cons.mp htask with rfl | htail
                · exact .inl (List.mem_append_right _ List.mem_cons_self)
                · exact .inr ⟨htail, Nat.le_of_succ_le_succ hlength⟩
      | false =>
          rw [List.countP_cons_of_neg (by simp [hsend])] at h
          by_cases hcollect : ∃ elapsed, input = .collect elapsed
          · obtain ⟨elapsed, rfl⟩ := hcollect
            rw [step]
            split
            · next hcalls =>
                -- a call begins only when all is sent
                rcases h with h | ⟨htask, _⟩
                · exact .inl h
                · rw [hcalls.1] at htask
                  cases htask
            · exact h
          · have hserves := serves_step s (fun _ heq => hcollect ⟨_, heq⟩) hsend
            rwa [hserves.handled, hserves.tasks]

theorem throughout_spaced (inputs : List Input) : Throughout step Spaced {} inputs :=
  fun front _ _ => (invariant_reached front).spaced

theorem pushesElapsed (inputs : List Input) : PushesElapsed inputs := by
  rintro front elapsed back rfl s now hcalls hlength id info index sub hinfo hsub helapsed
  have hdue : sub.due now = true :=
    (((invariant_reached front).lastPush id info index sub hinfo hsub).due_iff now).mpr helapsed
  have htask : (⟨id, s.cleared id, index, sub, now⟩ : Push) ∈ s.dueNow now :=
    mem_dueNow.mpr ⟨rfl, rfl, hdue, info, hinfo, hsub⟩
  have hcollect : s.step (.collect elapsed) = s.collect elapsed := if_pos hcalls
  rw [run_append, run_cons, hcollect]
  exact mem_handled_run back _ (.inr ⟨htask, hlength⟩)

/-- The pushes of a subscription are its interval apart, and every call pushes what has
elapsed. Nothing is sent for a subscription that was cancelled, if no unsubscribe comes while
the push thread still has a task for the connection. -/
theorem spaced_and_pushed (inputs : List Input) :
    Throughout step Spaced {} inputs ∧ PushesElapsed inputs ∧
      (Admitted step UnsubscribesIdle {} inputs → Admitted step NotAfterCancel {} inputs) := by
  refine ⟨throughout_spaced inputs, pushesElapsed inputs, ?_⟩
  intro hidle front input back heq
  have hlive : (run step {} front).Invariant ∧ (run step {} front).Live := by
    rw [heq] at hidle
    refine invariant_run (P := fun s => s.Invariant ∧ s.Live) ⟨invariant_start, nofun⟩ ?_
      (admitted_append.mp hidle).1
    rintro s input ⟨hinvariant, hlive⟩ hidle
    exact ⟨hinvariant.step input, hlive.step hinvariant hidle⟩
  exact hlive.2.notAfterCancel input

/-- An unsubscribe is processed after the collect step of a call and before its send step. -/
theorem not_cancelled_unsubscribed :
    ¬ ∀ inputs : List Input, Throughout step Spaced {} inputs ∧ PushesElapsed inputs ∧
      Admitted step NotAfterCancel {} inputs := by
  intro hall
  have hsend := (hall [.start, .open 0, .message 0 (.subscribe .system [] 1000) 0,
    .collect 5000, .message 0 .unsubscribe 0, .send true]).2.2
    [.start, .open 0, .message 0 (.subscribe .system [] 1000) 0,
    .collect 5000, .message 0 .unsubscribe 0] (.send true) [] rfl
  exact hsend ⟨generateConnectionId 0 0, 0, 0, ⟨.system, [], 1000, 0⟩, 5000⟩
    (by decide +kernel) ⟨rfl, by decide +kernel⟩ (by decide +kernel)

end GBServer.PushSchedule
