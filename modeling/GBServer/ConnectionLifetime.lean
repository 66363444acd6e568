import GBServer.ConnectionUse
import GBServer.Foundation.PostedTasks
import GBServer.NalRepackaging

namespace GBServer.ConnectionLifetime

open Foundation.CStrings
open Foundation.Memory
open Foundation.Runs
open Foundation.PostedTasks
open Foundation.PostedTasks.TaskQueue
open GBServer.SessionName
open GBServer.JsonRequests
open GBServer.NalRepackaging (NaluIndex naluType)
open GBServer.WebService

/-- A connection is known by a number, which is given out once. -/
abbrev ConnectionId := Nat

/-- The HTTP server, or the TCP server of a stream. -/
inductive Server where
  | http
  | rtp (streamId : CString)
  deriving DecidableEq, Repr

structure Connection where
  server : Server := .http
  httpContext : Bool := false
  shareResource : Option ResourceId := none
  flv : Bool := false
  deriving DecidableEq, Repr

/-- The tasks that `OnRequest` and `OnRecv` post, with what they capture. -/
inductive WorkerTask where
  | request (conn : ConnectionId) (req : HttpRequest) (packet : Option CString)
  | recv (conn : ConnectionId) (images : List (List UInt8))
  deriving DecidableEq, Repr

/-- A task for the network thread, and the connection that it writes to. -/
structure ResponseTask where
  task : NetworkTask
  conn : Option ConnectionId
  deriving DecidableEq, Repr

/-- How far `WebService::OnDestroy` has come behind `RemoveConsumer`. -/
inductive DestroyStage where
  | clearShareResource
  | getFlv
  | clearFlv
  | returning
  deriving DecidableEq, Repr

/-- `viewerConnection` is the `connection_` of an FLV viewer; `touched` are the connections
that were dereferenced after they had been freed. -/
structure State where
  media : GbMediaService
  connections : ConnectionId → Connection := fun _ => {}
  nextConnection : ConnectionId := 0
  destroying : Option (ConnectionId × DestroyStage) := none
  freed : List ConnectionId := []
  viewerConnection : ResourceId → Option ConnectionId := fun _ => none
  worker : TaskQueue WorkerTask := {}
  network : TaskQueue ResponseTask := {}
  touched : List ConnectionId := []

/-- The switch `HTTP_API_STATS`, and whether `HttpContext::PostRequest` uses the connection. -/
structure HttpSide where
  apiStats : Bool
  postRequestUses : Bool

structure Libraries (Stun : Type*) where
  api : MediaApi Stun
  json : JsonCpp
  findNaluIndices : List UInt8 → List NaluIndex
  http : HttpSide

inductive Input where
  | connect (server : Server) (httpContext : Bool)
  | onRequest (conn : ConnectionId) (req : HttpRequest) (packet : Option CString)
  | onRecv (conn : ConnectionId) (images : List (List UInt8))
  | worker (ticket : Nat) (around : Surroundings)
  | network (ticket : Nat)
  /-- The worker thread takes one of the tasks of the media service. -/
  | mediaTask (position : Nat)
  /-- A packet or a timer of the media service. -/
  | media (input : GbMediaService.Input)
  /-- `WebService::OnDestroy`, up to the first wait for the worker thread. -/
  | onDestroy (conn : ConnectionId)
  | onDestroyGoesOn
  /-- `GbMediaService::OnDestory`. -/
  | onDestory (conn : ConnectionId)

/-- `AddVideoFrame` hands on a frame that has more than parameter sets. -/
def reachesViewers (findNaluIndices : List UInt8 → List NaluIndex) : Media → Bool
  | .video image =>
      (findNaluIndices image).any fun index =>
        match image[index.payloadStartOffset]? with
        | some header => naluType header ≠ .sps && naluType header ≠ .pps
        | none => false
  | .audio _ _ => true

def WorkerTask.Dereferences (http : HttpSide) (conn : ConnectionId) : WorkerTask → Prop
  | .request other req _ =>
      other = conn ∧ ∃ handler, route http.apiStats req.path = some handler ∧
        usesConnection http.postRequestUses req handler
  | .recv other _ => other = conn

def WorkerTask.AddsViewer (http : HttpSide) (conn : ConnectionId) : WorkerTask → Prop
  | .request other req _ =>
      other = conn ∧ route http.apiStats req.path = some .flvConsumer ∧
        2 ≤ (split (getSessionNameFromUrl (flvUrl req.path))).length
  | .recv _ _ => False

namespace State

def start (config : ServerConfig) : State where
  media := GbMediaService.startup config

/-- The connection is there, and its `OnDestroy` has not been called. -/
def IsOpen (s : State) (conn : ConnectionId) : Prop :=
  conn < s.nextConnection ∧ conn ∉ s.freed ∧ s.destroying.map Prod.fst ≠ some conn

instance (s : State) (conn : ConnectionId) : Decidable (s.IsOpen conn) :=
  inferInstanceAs (Decidable (_ ∧ _))

def dereference (s : State) (conn : ConnectionId) : State :=
  if conn ∈ s.freed then { s with touched := s.touched ++ [conn] } else s

def withConnection (s : State) (conn : ConnectionId) (f : Connection → Connection) : State :=
  { s with connections := Function.update s.connections conn (f (s.connections conn)) }

/-- The signals of one HTTP server come while `OnDestroy` is not waiting. -/
def onRequest (s : State) (conn : ConnectionId) (req : HttpRequest)
    (packet : Option CString) : State :=
  if s.destroying = none ∧ s.IsOpen conn ∧ (s.connections conn).server = .http then
    if (s.connections conn).httpContext && req.isRequest then
      if req.method = .options then s.dereference conn
      else { s with worker := s.worker.post 0 (.request conn req packet) }
    else s
  else s

def onRecv (s : State) (conn : ConnectionId) (images : List (List UInt8)) : State :=
  if s.IsOpen conn ∧ (s.connections conn).server ≠ .http then
    { s with worker := s.worker.post 0 (.recv conn images) }
  else s

/-- The end of `HandlerFlvConsumer`: the connection gets its contexts. -/
def attachViewer (s : State) (conn : ConnectionId) (viewer : ResourceId) : State :=
  { (s.dereference conn).withConnection conn fun x =>
      { x with shareResource := some viewer, flv := true } with
    viewerConnection := Function.update s.viewerConnection viewer (some conn) }

def answer (json : JsonCpp) (http : HttpSide) (s : State) (conn : ConnectionId)
    (packet : Option CString) (handler : Handler) (outcome : Outcome) : State :=
  if answersAtOnce json packet handler then s.dereference conn
  else
    let writes :=
      if writesConnection http.postRequestUses outcome handler then some conn else none
    let s := { s with network := s.network.postAll 0 (outcome.tasks.map (⟨·, writes⟩)) }
    match outcome.flv with
    | some viewer => s.attachViewer conn viewer
    | none => s

section Steps

variable {Stun : Type*} (lib : Libraries Stun)

def runWorkerTask (s : State) (around : Surroundings) : WorkerTask → Except Fault State
  | .request conn req packet =>
      match route lib.http.apiStats req.path with
      | none => return s
      | some handler => do
          let (media, outcome) ← handle lib.api lib.json around s.media req packet handler
          return { s with media := media }.answer lib.json lib.http conn packet handler outcome
  | .recv conn images =>
      let s := s.dereference conn
      match (s.connections conn).server with
      | .rtp streamId => return { s with media := s.media.onTcp streamId images }
      | .http => return s

def runResponseTask (s : State) (response : ResponseTask) : Except Fault State := do
  let _ ← runNetworkTask response.task
  return match response.conn with
    | some conn => s.dereference conn
    | none => s

/-- The connections that a task of the media service writes to. -/
def written (s : State) : Task → List ConnectionId
  | .addFrame sid _ media =>
      if reachesViewers lib.findNaluIndices media then
        ((s.media.sessionHeap sid).consumers.filter fun i =>
          (s.media.resources i).type = .consumerFlv).filterMap s.viewerConnection
      else []
  | .dtlsEnded _ => []

def mediaTask (s : State) (position : Nat) : State :=
  match s.media.tasks[position]? with
  | some task =>
      let s := (s.written lib task).foldl dereference s
      { s with
        media := { s.media with tasks := task :: s.media.tasks.eraseIdx position }.runTask }
  | none => s

/-- The viewer of the context is removed; the contexts stay. -/
def onDestroy (s : State) (conn : ConnectionId) : State :=
  if s.destroying = none ∧ s.IsOpen conn ∧ (s.connections conn).server = .http then
    match (s.connections conn).shareResource with
    | some i =>
        { s with
          media := s.media.onDestroy i
          destroying := some (conn, .clearShareResource) }
    | none => { s with destroying := some (conn, .getFlv) }
  else s

def onDestroyGoesOn (s : State) : State :=
  match s.destroying with
  | some (conn, .clearShareResource) =>
      { s.withConnection conn fun x => { x with shareResource := none } with
        destroying := some (conn, .getFlv) }
  | some (conn, .getFlv) =>
      { s with
        destroying := some (conn, if (s.connections conn).flv then .clearFlv else .returning) }
  | some (conn, .clearFlv) =>
      { s.withConnection conn fun x => { x with flv := false } with
        destroying := some (conn, .returning) }
  | some (conn, .returning) => { s with destroying := none, freed := conn :: s.freed }
  | none => s

def onDestory (s : State) (conn : ConnectionId) : State :=
  if s.IsOpen conn ∧ (s.connections conn).server ≠ .http then
    { s with freed := conn :: s.freed }
  else s

def step (s : State) : Input → Except Fault State
  | .connect server httpContext =>
      .ok
        { s with
          connections := Function.update s.connections s.nextConnection
            { server := server, httpContext := httpContext }
          nextConnection := s.nextConnection + 1 }
  | .onRequest conn req packet => .ok (s.onRequest conn req packet)
  | .onRecv conn images => .ok (s.onRecv conn images)
  | .worker ticket around =>
      match s.worker.due? 0 ticket with
      | some e => { s with worker := s.worker.remove 0 ticket }.runWorkerTask lib around e.task
      | none => .ok s
  | .network ticket =>
      if s.destroying = none then
        match s.network.due? 0 ticket with
        | some e => { s with network := s.network.remove 0 ticket }.runResponseTask e.task
        | none => .ok s
      else .ok s
  | .mediaTask position => .ok (s.mediaTask lib position)
  | .media input =>
      if GbMediaService.isConnectionless input then
        (s.media.step lib.api input).map fun media => { s with media := media }
      else .ok s
  | .onDestroy conn => .ok (s.onDestroy conn)
  | .onDestroyGoesOn => .ok s.onDestroyGoesOn
  | .onDestory conn => .ok (s.onDestory conn)

end Steps

/-- An FLV viewer in the `consumers_` of a session holds the connection. -/
def Watched (s : State) (conn : ConnectionId) : Prop :=
  ∃ i, s.media.IsFlvViewer i ∧ s.viewerConnection i = some conn

/-- A task that has not been executed will dereference the connection. -/
def Awaited (s : State) (http : HttpSide) (conn : ConnectionId) : Prop :=
  (∃ e ∈ s.worker.entries, e.task.Dereferences http conn) ∨
    ∃ e ∈ s.network.entries, e.task.conn = some conn

/-- No task has touched a connection that was freed, and no viewer holds one. -/
def Safe (s : State) : Prop := s.touched = [] ∧ ∀ conn ∈ s.freed, ¬ s.Watched conn

/-- The clean-up is complete: when it starts, the connection has no viewer but that of its
context; until it returns, none is added; when it returns, no task for it is left. -/
def CleansUp (http : HttpSide) (s : State) : Input → Prop
  | .onDestroy conn =>
      ∀ i, s.media.IsFlvViewer i → s.viewerConnection i = some conn →
        (s.connections conn).shareResource = some i
  | .worker ticket _ =>
      ∀ conn stage e, s.destroying = some (conn, stage) → s.worker.due? 0 ticket = some e →
        ¬ e.task.AddsViewer http conn
  | .onDestroyGoesOn =>
      ∀ conn, s.destroying = some (conn, .returning) → ¬ s.Awaited http conn
  | .onDestory conn =>
      (s.connections conn).server ≠ .http → ¬ s.Awaited http conn
  | _ => True

end State

namespace State

def IsHttp (s : State) (conn : ConnectionId) : Prop :=
  conn < s.nextConnection ∧ (s.connections conn).server = .http

/-- Nothing refers to a freed connection, and no viewer to one that is being destroyed. -/
structure Good (http : HttpSide) (s : State) : Prop where
  linked : s.media.Linked
  untouched : s.touched = []
  freed : ∀ conn ∈ s.freed, ¬ s.Awaited http conn ∧ ¬ s.Watched conn
  destroying : ∀ conn stage, s.destroying = some (conn, stage) → ¬ s.Watched conn
  requested : ∀ e ∈ s.worker.entries, ∀ conn req packet,
    e.task = .request conn req packet → s.IsHttp conn
  viewed : ∀ i conn, s.viewerConnection i = some conn → s.IsHttp conn

variable {http : HttpSide} {s : State}

theorem good_start (config : ServerConfig) : Good http (start config) where
  linked := GbMediaService.linked_startup config
  untouched := rfl
  freed _ h := absurd h List.not_mem_nil
  destroying _ _ h := by contradiction
  requested _ h := absurd h List.not_mem_nil
  viewed _ _ h := by contradiction

theorem Good.safe (h : Good http s) : s.Safe :=
  ⟨h.untouched, fun conn hconn => (h.freed conn hconn).2⟩

theorem dereference_of_notMem {conn : ConnectionId} (hconn : conn ∉ s.freed) :
    s.dereference conn = s :=
  if_neg hconn

theorem mem_touched_dereference {conn : ConnectionId} (hconn : conn ∈ s.freed) :
    conn ∈ (s.dereference conn).touched := by
  rw [dereference, if_pos hconn]
  exact List.mem_append_right _ List.mem_cons_self

theorem foldl_dereference {conns : List ConnectionId}
    (hconns : ∀ conn ∈ conns, conn ∉ s.freed) : conns.foldl dereference s = s := by
  induction conns with
  | nil => rfl
  | cons conn rest ih =>
      rw [List.foldl_cons, dereference_of_notMem (hconns conn List.mem_cons_self)]
      exact ih fun conn hmem => hconns conn (List.mem_cons_of_mem _ hmem)

theorem Watched.of_noNewViewer {media : GbMediaService} {conn : ConnectionId}
    (hmedia : GbMediaService.NoNewViewer s.media media)
    (hconn : { s with media := media }.Watched conn) : s.Watched conn := by
  obtain ⟨i, hi, hholds⟩ := hconn
  exact ⟨i, hmedia i hi, hholds⟩

theorem Good.withMedia (h : Good http s) {media : GbMediaService}
    (hlinked : media.Linked) (hmedia : GbMediaService.NoNewViewer s.media media) :
    Good http { s with media := media } where
  linked := hlinked
  untouched := h.untouched
  freed := by
    intro conn hconn
    obtain ⟨hawaited, hwatched⟩ := h.freed conn hconn
    exact ⟨hawaited, fun hnew => hwatched (.of_noNewViewer hmedia hnew)⟩
  destroying conn stage hstage hwatched :=
    h.destroying conn stage hstage (.of_noNewViewer hmedia hwatched)
  requested := h.requested
  viewed := h.viewed

theorem IsHttp.withConnection {conn other : ConnectionId} {f : Connection → Connection}
    (hf : ∀ x, (f x).server = x.server) (hother : s.IsHttp other) :
    (s.withConnection conn f).IsHttp other := by
  refine ⟨hother.1, ?_⟩
  change (Function.update s.connections conn _ other).server = _
  rcases eq_or_ne other conn with rfl | hne
  · rw [Function.update_self, hf]
    exact hother.2
  · rw [Function.update_of_ne hne]
    exact hother.2

theorem Good.withConnection (h : Good http s) (conn : ConnectionId)
    {f : Connection → Connection} (hf : ∀ x, (f x).server = x.server) :
    Good http (s.withConnection conn f) where
  linked := h.linked
  untouched := h.untouched
  freed := h.freed
  destroying := h.destroying
  requested e he other req packet htask :=
    (h.requested e he other req packet htask).withConnection hf
  viewed i other hi := (h.viewed i other hi).withConnection hf

theorem Good.connect (h : Good http s) (x : Connection) :
    Good http
      { s with
        connections := Function.update s.connections s.nextConnection x
        nextConnection := s.nextConnection + 1 } := by
  have hhttp : ∀ conn, s.IsHttp conn →
      { s with
        connections := Function.update s.connections s.nextConnection x
        nextConnection := s.nextConnection + 1 }.IsHttp conn := by
    intro conn hconn
    refine ⟨Nat.lt_succ_of_lt hconn.1, ?_⟩
    change (Function.update s.connections s.nextConnection x conn).server = _
    rw [Function.update_of_ne (Nat.ne_of_lt hconn.1)]
    exact hconn.2
  exact ⟨h.linked, h.untouched, h.freed, h.destroying,
    fun e he conn req packet htask => hhttp conn (h.requested e he conn req packet htask),
    fun i conn hi => hhttp conn (h.viewed i conn hi)⟩

theorem Good.withQueues (h : Good http s) {worker : TaskQueue WorkerTask}
    {network : TaskQueue ResponseTask}
    (hworker : ∀ e ∈ worker.entries, e ∈ s.worker.entries ∨
      (∀ conn ∈ s.freed, ¬ e.task.Dereferences http conn) ∧
        ∀ conn req packet, e.task = .request conn req packet → s.IsHttp conn)
    (hnetwork : ∀ e ∈ network.entries, e ∈ s.network.entries ∨
      ∀ conn ∈ s.freed, e.task.conn ≠ some conn) :
    Good http { s with worker := worker, network := network } where
  linked := h.linked
  untouched := h.untouched
  freed := by
    intro conn hconn
    obtain ⟨hawaited, hwatched⟩ := h.freed conn hconn
    refine ⟨?_, hwatched⟩
    rintro (⟨e, he, htask⟩ | ⟨e, he, htask⟩)
    · rcases hworker e he with he | hnew
      · exact hawaited (.inl ⟨e, he, htask⟩)
      · exact hnew.1 conn hconn htask
    · rcases hnetwork e he with he | hnew
      · exact hawaited (.inr ⟨e, he, htask⟩)
      · exact hnew conn hconn htask
  destroying := h.destroying
  requested := by
    intro e he
    rcases hworker e he with he | hnew
    · exact h.requested e he
    · exact hnew.2
  viewed := h.viewed

theorem Good.postWorker (h : Good http s) {task : WorkerTask}
    (hfreed : ∀ conn ∈ s.freed, ¬ task.Dereferences http conn)
    (hhttp : ∀ conn req packet, task = .request conn req packet → s.IsHttp conn) :
    Good http { s with worker := s.worker.post 0 task } := by
  refine h.withQueues ?_ fun e he => .inl he
  intro e he
  rcases mem_entries_post.mp he with he | rfl
  · exact .inl he
  · exact .inr ⟨hfreed, hhttp⟩

theorem Good.removeWorker (h : Good http s) (ticket : Nat) :
    Good http { s with worker := s.worker.remove 0 ticket } :=
  h.withQueues (fun _ he => .inl (mem_entries_of_remove he)) fun _ he => .inl he

theorem Good.removeNetwork (h : Good http s) (ticket : Nat) :
    Good http { s with network := s.network.remove 0 ticket } :=
  h.withQueues (fun _ he => .inl he) fun _ he => .inl (mem_entries_of_remove he)

theorem Good.postResponses (h : Good http s) {tasks : List NetworkTask}
    {writes : Option ConnectionId} (hwrites : ∀ conn ∈ s.freed, writes ≠ some conn) :
    Good http
      { s with network := s.network.postAll 0 (tasks.map (⟨·, writes⟩)) } := by
  refine h.withQueues (fun _ he => .inl he) ?_
  intro e he
  rcases mem_entries_of_postAll he with he | he
  · exact .inl he
  · obtain ⟨task, _, heq⟩ := List.mem_map.mp he
    exact .inr (heq ▸ hwrites)

theorem Good.onRequest (h : Good http s) (conn : ConnectionId) (req : HttpRequest)
    (packet : Option CString) : Good http (s.onRequest conn req packet) := by
  unfold State.onRequest
  split_ifs with hopen _ _
  · obtain ⟨_, hopen, _⟩ := hopen
    rw [dereference_of_notMem hopen.2.1]
    exact h
  · obtain ⟨_, hopen, hserver⟩ := hopen
    refine h.postWorker ?_ ?_
    · rintro _ hfreed ⟨rfl, _⟩
      exact hopen.2.1 hfreed
    · rintro _ _ _ ⟨⟩
      exact ⟨hopen.1, hserver⟩
  · exact h
  · exact h

theorem Good.onRecv (h : Good http s) (conn : ConnectionId)
    (images : List (List UInt8)) : Good http (s.onRecv conn images) := by
  unfold State.onRecv
  split_ifs with hopen
  · refine h.postWorker ?_ nofun
    rintro _ hfreed rfl
    exact hopen.1.2.1 hfreed
  · exact h

theorem Good.withViewer (h : Good http s) {media : GbMediaService}
    {conn : ConnectionId} {viewer : ResourceId} (hlinked : media.Linked)
    (hmedia : ∀ i, media.IsFlvViewer i → s.media.IsFlvViewer i ∨ i = viewer)
    (hhttp : s.IsHttp conn) (hfreed : conn ∉ s.freed)
    (hdestroying : ∀ stage, s.destroying ≠ some (conn, stage)) :
    Good http
      { s with
        media := media
        viewerConnection := Function.update s.viewerConnection viewer (some conn) } := by
  have hholds : ∀ i other,
      Function.update s.viewerConnection viewer (some conn) i = some other →
        i = viewer ∧ conn = other ∨ i ≠ viewer ∧ s.viewerConnection i = some other := by
    intro i other hi
    rcases eq_or_ne i viewer with rfl | hne
    · rw [Function.update_self] at hi
      exact .inl ⟨rfl, Option.some.inj hi⟩
    · rw [Function.update_of_ne hne] at hi
      exact .inr ⟨hne, hi⟩
  have hwatched : ∀ other, other ≠ conn →
      { s with
        media := media
        viewerConnection := Function.update s.viewerConnection viewer (some conn) }.Watched
          other → s.Watched other := by
    rintro other hother ⟨i, hi, hconn⟩
    rcases hholds i other hconn with ⟨_, heq⟩ | ⟨hne, hconn⟩
    · exact absurd heq.symm hother
    · exact ⟨i, (hmedia i hi).resolve_right hne, hconn⟩
  refine ⟨hlinked, h.untouched, ?_, ?_, h.requested, ?_⟩
  · intro other hother
    obtain ⟨hawaited, hunwatched⟩ := h.freed other hother
    refine ⟨hawaited, fun hnew => hunwatched (hwatched other ?_ hnew)⟩
    rintro rfl
    exact hfreed hother
  · intro other stage hstage hnew
    refine h.destroying other stage hstage (hwatched other ?_ hnew)
    rintro rfl
    exact hdestroying stage hstage
  · intro i other hi
    rcases hholds i other hi with ⟨_, rfl⟩ | ⟨_, hi⟩
    · exact hhttp
    · exact h.viewed i other hi

theorem flv_eq_none_of_answersAtOnce {json : JsonCpp} {packet : Option CString}
    {handler : Handler} {media : GbMediaService} {req : HttpRequest} {outcome : Outcome}
    (honce : answersAtOnce json packet handler = true)
    (hhandled : Handled s.media media req handler outcome) : outcome.flv = none := by
  by_contra hflv
  obtain ⟨rfl, _⟩ := hhandled.flv hflv
  contradiction

/-- What a handler has done, and then does with an open connection. -/
theorem Good.answer (h : Good http s) (json : JsonCpp) {conn : ConnectionId}
    {req : HttpRequest} (packet : Option CString) {handler : Handler} {media : GbMediaService}
    {outcome : Outcome} (hhandled : Handled s.media media req handler outcome)
    (hhttp : s.IsHttp conn)
    (hfreed : usesConnection http.postRequestUses req handler → conn ∉ s.freed)
    (hdestroying : outcome.flv ≠ none → ∀ stage, s.destroying ≠ some (conn, stage)) :
    Good http
      ({ s with media := media }.answer json http conn packet handler outcome) := by
  have hmedia : outcome.flv = none → Good http { s with media := media } := by
    intro hflv
    apply h.withMedia hhandled.linked
    intro i hi
    apply (hhandled.viewer i hi).resolve_right
    rw [hflv]
    exact nofun
  unfold State.answer
  split
  · rename_i honce
    have hopen : conn ∉ { s with media := media }.freed := by
      apply hfreed
      cases handler <;> trivial
    rw [dereference_of_notMem hopen]
    exact hmedia (flv_eq_none_of_answersAtOnce honce hhandled)
  · have hwrites : ∀ other ∈ s.freed,
        (if writesConnection http.postRequestUses outcome handler then some conn else none) ≠
          some other := by
      intro other hother heq
      split at heq
      · rename_i hwrites
        obtain rfl := Option.some.inj heq
        exact hfreed ((hhandled.writes _).mp hwrites) hother
      · contradiction
    dsimp only
    split
    · rename_i viewer hviewer
      have hflv : outcome.flv ≠ none := by
        rw [hviewer]
        exact nofun
      have hopen : conn ∉ s.freed := by
        apply hfreed
        rw [(hhandled.flv hflv).1]
        trivial
      have hnew : ∀ i, media.IsFlvViewer i → s.media.IsFlvViewer i ∨ i = viewer := by
        intro i hi
        apply (hhandled.viewer i hi).imp_right
        intro hi
        exact Option.some.inj (hi.symm.trans hviewer)
      have hadded := h.withViewer hhandled.linked hnew hhttp hopen (hdestroying hflv)
      rw [State.attachViewer, dereference_of_notMem (by exact hopen)]
      exact (hadded.postResponses hwrites).withConnection conn
        (f := fun x => { x with shareResource := some viewer, flv := true }) fun _ => rfl
    · rename_i hflv
      exact (hmedia hflv).postResponses hwrites

section Steps

variable {Stun : Type*} (lib : Libraries Stun)

theorem Good.runWorkerTask (h : Good lib.http s) (around : Surroundings)
    {task : WorkerTask} (hfreed : ∀ conn ∈ s.freed, ¬ task.Dereferences lib.http conn)
    (hdestroying : ∀ conn stage, s.destroying = some (conn, stage) →
      ¬ task.AddsViewer lib.http conn)
    (hhttp : ∀ conn req packet, task = .request conn req packet → s.IsHttp conn) :
    OnOk (Good lib.http) (s.runWorkerTask lib around task) := by
  cases task with
  | recv conn images =>
      have hopen : conn ∉ s.freed := fun hmem => hfreed conn hmem rfl
      simp only [State.runWorkerTask]
      rw [dereference_of_notMem hopen]
      split
      · refine onOk_ok.mpr (h.withMedia ?_ (GbMediaService.noNewViewer_onTcp _ _ images))
        exact GbMediaService.onTcp_rule h.linked _ images h.linked.addFrames
      · exact onOk_ok.mpr h
  | request conn req packet =>
      rw [State.runWorkerTask]
      split
      · exact onOk_ok.mpr h
      · rename_i handler hroute
        intro t ht
        obtain ⟨⟨media, outcome⟩, hhandle, ht⟩ := bind_eq_ok.mp ht
        obtain rfl := pure_eq_ok.mp ht
        have hhandled := handled_handle h.linked hhandle
        refine h.answer lib.json packet hhandled (hhttp conn req packet rfl) ?_ ?_
        · intro huses hmem
          exact hfreed conn hmem ⟨rfl, handler, hroute, huses⟩
        · intro hflv stage hstage
          obtain ⟨rfl, hfields⟩ := hhandled.flv hflv
          exact hdestroying conn stage hstage ⟨rfl, hroute, hfields⟩

theorem Good.runResponseTask (h : Good http s) {response : ResponseTask}
    (hfreed : ∀ conn, response.conn = some conn → conn ∉ s.freed) :
    OnOk (Good http) (s.runResponseTask response) := by
  intro t ht
  obtain ⟨_, _, ht⟩ := bind_eq_ok.mp ht
  obtain rfl := pure_eq_ok.mp ht
  split
  · rename_i conn hconn
    rw [dereference_of_notMem (hfreed conn hconn)]
    exact h
  · exact h

theorem watched_of_mem_written {task : Task} {conn : ConnectionId}
    (hconn : conn ∈ s.written lib task) : s.Watched conn := by
  cases task with
  | dtlsEnded i => exact absurd hconn List.not_mem_nil
  | addFrame sid origin media =>
      rw [written] at hconn
      split_ifs at hconn
      · obtain ⟨i, hi, hholds⟩ := List.mem_filterMap.mp hconn
        obtain ⟨hmem, htype⟩ := List.mem_filter.mp hi
        exact ⟨i, ⟨of_decide_eq_true htype, sid, hmem⟩, hholds⟩
      · exact absurd hconn List.not_mem_nil

theorem Good.mediaTask (h : Good http s) (position : Nat) :
    Good http (s.mediaTask lib position) := by
  unfold State.mediaTask
  split
  · rename_i task htask
    have hwritten : ∀ conn ∈ s.written lib task, conn ∉ s.freed :=
      fun conn hconn hmem => (h.freed conn hmem).2 (watched_of_mem_written lib hconn)
    rw [foldl_dereference hwritten]
    have hlinked : { s.media with tasks := task :: s.media.tasks.eraseIdx position }.Linked := by
      apply h.linked.withTasks
      intro i hi
      rcases List.mem_cons.mp hi with rfl | hi
      · exact h.linked.posted (List.mem_of_getElem? htask)
      · exact h.linked.posted (List.mem_of_mem_eraseIdx hi)
    exact h.withMedia hlinked.runTask (.trans (GbMediaService.noNewViewer_of_eq rfl rfl)
      (GbMediaService.noNewViewer_runTask _))
  · exact h

theorem Good.onDestroy (h : Good http s) {conn : ConnectionId}
    (hcleans : CleansUp http s (.onDestroy conn)) :
    Good http (s.onDestroy conn) := by
  unfold State.onDestroy
  split
  · split
    · rename_i i hi
      have hnew := GbMediaService.noNewViewer_onDestroy s.media i
      have hmedia := h.withMedia
        (GbMediaService.onDestroy_rule h.linked i (h.linked.removeConsumer i)) hnew
      refine ⟨hmedia.linked, hmedia.untouched, hmedia.freed, ?_, hmedia.requested,
        hmedia.viewed⟩
      rintro _ _ ⟨⟩ ⟨j, hj, hholds⟩
      have hcontext := hcleans j (hnew j hj) hholds
      obtain rfl := Option.some.inj (hi.symm.trans hcontext)
      exact h.linked.not_isFlvViewer_onDestroy i hj
    · rename_i hnone
      refine ⟨h.linked, h.untouched, h.freed, ?_, h.requested, h.viewed⟩
      rintro _ _ ⟨⟩ ⟨j, hj, hholds⟩
      have hcontext := hcleans j hj hholds
      rw [hnone] at hcontext
      contradiction
  · exact h

theorem Good.withStage (h : Good http s) {conn : ConnectionId} {stage : DestroyStage}
    (hstage : s.destroying = some (conn, stage)) (next : DestroyStage) :
    Good http { s with destroying := some (conn, next) } where
  linked := h.linked
  untouched := h.untouched
  freed := h.freed
  destroying := by
    rintro _ _ ⟨⟩
    exact h.destroying conn stage hstage
  requested := h.requested
  viewed := h.viewed

theorem Good.free (h : Good http s) {conn : ConnectionId}
    {destroying : Option (ConnectionId × DestroyStage)}
    (hdestroying : destroying = none ∨ destroying = s.destroying)
    (hawaited : ¬ s.Awaited http conn) (hwatched : ¬ s.Watched conn) :
    Good http { s with destroying := destroying, freed := conn :: s.freed } where
  linked := h.linked
  untouched := h.untouched
  freed := by
    intro other hother
    rcases List.mem_cons.mp hother with rfl | hother
    · exact ⟨hawaited, hwatched⟩
    · exact h.freed other hother
  destroying := by
    rcases hdestroying with rfl | rfl
    · exact nofun
    · exact h.destroying
  requested := h.requested
  viewed := h.viewed

theorem Good.onDestroyGoesOn (h : Good http s)
    (hcleans : CleansUp http s .onDestroyGoesOn) :
    Good http s.onDestroyGoesOn := by
  unfold State.onDestroyGoesOn
  split
  · rename_i conn hstage
    exact (h.withConnection conn (f := fun x => { x with shareResource := none })
      fun _ => rfl).withStage hstage .getFlv
  · rename_i conn hstage
    exact h.withStage hstage _
  · rename_i conn hstage
    exact (h.withConnection conn (f := fun x => { x with flv := false })
      fun _ => rfl).withStage hstage .returning
  · rename_i conn hstage
    exact h.free (.inl rfl) (hcleans conn hstage) (h.destroying conn _ hstage)
  · exact h

theorem Good.onDestory (h : Good http s) {conn : ConnectionId}
    (hcleans : CleansUp http s (.onDestory conn)) :
    Good http (s.onDestory conn) := by
  unfold State.onDestory
  split
  · rename_i hopen
    apply h.free (.inr rfl) (hcleans hopen.2)
    rintro ⟨i, _, hholds⟩
    exact hopen.2 (h.viewed i conn hholds).2
  · exact h

theorem Good.step (h : Good lib.http s) (input : Input)
    (hcleans : CleansUp lib.http s input) :
    OnOk (Good lib.http) (s.step lib input) := by
  cases input with
  | connect server httpContext => exact onOk_ok.mpr (h.connect _)
  | onRequest conn req packet => exact onOk_ok.mpr (h.onRequest conn req packet)
  | onRecv conn images => exact onOk_ok.mpr (h.onRecv conn images)
  | worker ticket around =>
      simp only [State.step]
      split
      · rename_i e hdue
        have he := mem_entries_of_due? hdue
        refine (h.removeWorker ticket).runWorkerTask lib around ?_ ?_ (h.requested e he)
        · intro conn hconn htask
          exact (h.freed conn hconn).1 (.inl ⟨e, he, htask⟩)
        · intro conn stage hstage
          exact hcleans conn stage e hstage hdue
      · exact onOk_ok.mpr h
  | network ticket =>
      simp only [State.step]
      split
      · split
        · rename_i e hdue
          apply (h.removeNetwork ticket).runResponseTask
          intro conn htask hconn
          exact (h.freed conn hconn).1 (.inr ⟨e, mem_entries_of_due? hdue, htask⟩)
        · exact onOk_ok.mpr h
      · exact onOk_ok.mpr h
  | mediaTask position => exact onOk_ok.mpr (h.mediaTask lib position)
  | media input =>
      simp only [State.step]
      split
      · rename_i hinput
        rw [onOk_map]
        intro media hmedia
        exact h.withMedia (h.linked.step lib.api input media hmedia)
          (GbMediaService.noNewViewer_step lib.api hinput media hmedia)
      · exact onOk_ok.mpr h
  | onDestroy conn => exact onOk_ok.mpr (h.onDestroy hcleans)
  | onDestroyGoesOn => exact onOk_ok.mpr (h.onDestroyGoesOn hcleans)
  | onDestory conn => exact onOk_ok.mpr (h.onDestory hcleans)

theorem touched_of_runResponseTask {response : ResponseTask} {conn : ConnectionId}
    {s t : State} (hconn : response.conn = some conn) (hfreed : conn ∈ s.freed)
    (ht : s.runResponseTask response = .ok t) : conn ∈ t.touched := by
  obtain ⟨_, _, ht⟩ := bind_eq_ok.mp ht
  obtain rfl := pure_eq_ok.mp ht
  rw [hconn]
  exact mem_touched_dereference hfreed

/-- What awaits a freed connection does dereference it, unless it ends the program: at once, or
when the network thread runs the response. -/
theorem touched_of_runWorkerTask (hlinked : s.media.Linked) {around : Surroundings}
    {task : WorkerTask} {conn : ConnectionId} {t : State}
    (htask : task.Dereferences lib.http conn) (hfreed : conn ∈ s.freed)
    (ht : s.runWorkerTask lib around task = .ok t) :
    conn ∈ t.touched ∨ ∃ e ∈ t.network.entries, ∀ s t' : State, conn ∈ s.freed →
      s.runResponseTask e.task = .ok t' → conn ∈ t'.touched := by
  cases task with
  | recv other images =>
      obtain rfl := htask
      left
      simp only [State.runWorkerTask] at ht
      split at ht
      all_goals
        obtain rfl := pure_eq_ok.mp ht
        exact mem_touched_dereference hfreed
  | request other req packet =>
      obtain ⟨rfl, handler, hroute, huses⟩ := htask
      rw [State.runWorkerTask, hroute] at ht
      obtain ⟨⟨media, outcome⟩, hhandle, ht⟩ := bind_eq_ok.mp ht
      obtain rfl := pure_eq_ok.mp ht
      have hhandled := handled_handle hlinked hhandle
      unfold State.answer
      split
      · exact .inl (mem_touched_dereference hfreed)
      · rw [if_pos ((hhandled.writes _).mpr huses)]
        dsimp only
        split
        · exact .inl (mem_touched_dereference hfreed)
        · rename_i hflv
          obtain ⟨response, hresponse⟩ := List.exists_mem_of_ne_nil _
            (hhandled.answers.resolve_right (not_not.mpr hflv))
          obtain ⟨e, he, htask⟩ := exists_mem_entries_postAll 0
            (List.mem_map_of_mem (f := (ResponseTask.mk · (some other))) hresponse)
          refine .inr ⟨e, he, fun _ _ => touched_of_runResponseTask ?_⟩
          rw [htask]

end Steps

end State

open State

/-- While every clean-up is complete, no freed connection is touched or held. -/
theorem throughout_safe {Stun : Type*} (lib : Libraries Stun) (config : ServerConfig)
    (inputs : List Input)
    (hcleans : Admitted (guarded (State.step lib))
      (fun p input => OnOk (fun s => CleansUp lib.http s input) p)
      (.ok (start config)) inputs) :
    Throughout (guarded (State.step lib)) (OnOk Safe) (.ok (start config)) inputs := by
  have hgood : Throughout (guarded (State.step lib)) (OnOk (Good lib.http))
      (.ok (start config)) inputs := by
    refine throughout_of_admitted (onOk_ok.mpr (good_start config)) ?_ hcleans
    intro p input hp hinput
    cases p with
    | error fault => exact onOk_error
    | ok s => exact (onOk_ok.mp hp).step lib input (hinput s rfl)
  intro front back heq s hs
  exact (hgood front back heq s hs).safe

section Sample

def sampleLibraries : Libraries (List UInt8) where
  api := GbMediaService.sampleApi
  json := sampleJson
  findNaluIndices := fun _ => []
  http := { apiStats := false, postRequestUses := true }

def flvRequest : HttpRequest where
  isRequest := true
  method := .get
  path := ascii "/live/cam.flv"

def viewerLeaves : List Input :=
  [.connect .http true, .onRequest 0 flvRequest none, .worker 0 sampleSurroundings,
    .onDestroy 0, .onDestroyGoesOn, .onDestroyGoesOn, .onDestroyGoesOn, .onDestroyGoesOn]

def viewerLeavesFirst : List Input :=
  [.connect .http true, .onRequest 0 flvRequest none, .onDestroy 0, .onDestroyGoesOn,
    .onDestroyGoesOn, .worker 0 sampleSurroundings]

end Sample

theorem of_map_eq_ok {α : Type} {f : State → α} {p : Except Fault State} {s : State} {x : α}
    (hs : p = .ok s) (hx : p.map f = .ok x) : f s = x := by
  subst hs
  exact Except.ok.inj hx

theorem throughout_safe_viewerLeaves :
    Throughout (guarded (State.step sampleLibraries)) (OnOk Safe)
      (.ok (start GbMediaService.sampleConfig)) viewerLeaves := by
  apply throughout_safe
  rw [viewerLeaves]
  iterate 8 rw [admitted_cons]
  refine ⟨?_, ?_, ?_, ?_, ?_, ?_, ?_, ?_, admitted_nil⟩
  · exact fun _ _ => trivial
  · exact fun _ _ => trivial
  · intro s hs conn stage e hstage
    have hnone : s.destroying = none := of_map_eq_ok hs rfl
    rw [hnone] at hstage
    contradiction
  · intro s hs i _ hi
    have hviewers : s.viewerConnection = Function.update (fun _ => none) 0 (some 0) :=
      of_map_eq_ok hs rfl
    have hcontext : (s.connections 0).shareResource = some 0 :=
      of_map_eq_ok (f := fun s => (s.connections 0).shareResource) hs rfl
    rw [hviewers, Function.update_apply] at hi
    split at hi
    · rename_i hzero
      rw [hzero, hcontext]
    · contradiction
  · intro s hs conn hstage
    have hcurrent : s.destroying = some (0, .clearShareResource) := of_map_eq_ok hs rfl
    rw [hcurrent] at hstage
    cases hstage
  · intro s hs conn hstage
    have hcurrent : s.destroying = some (0, .getFlv) := of_map_eq_ok hs rfl
    rw [hcurrent] at hstage
    cases hstage
  · intro s hs conn hstage
    have hcurrent : s.destroying = some (0, .clearFlv) := of_map_eq_ok hs rfl
    rw [hcurrent] at hstage
    cases hstage
  · intro s hs conn _
    have hworker : s.worker.entries = [] :=
      of_map_eq_ok (f := fun s => s.worker.entries) hs rfl
    have hnetwork : s.network.entries = [] :=
      of_map_eq_ok (f := fun s => s.network.entries) hs rfl
    rintro (⟨e, he, _⟩ | ⟨e, he, _⟩)
    · rw [hworker] at he
      exact absurd he List.not_mem_nil
    · rw [hnetwork] at he
      exact absurd he List.not_mem_nil

theorem not_safe_onRequest :
    ¬ ∀ (lib : Libraries (List UInt8)) (config : ServerConfig) (inputs : List Input),
      Throughout (guarded (State.step lib)) (OnOk Safe) (.ok (start config)) inputs := by
  intro hall
  have hlast := hall sampleLibraries GbMediaService.sampleConfig viewerLeavesFirst
    viewerLeavesFirst [] (List.append_nil _).symm
  have htouched : (run (guarded (State.step sampleLibraries))
      (.ok (start GbMediaService.sampleConfig)) viewerLeavesFirst).map State.touched = .ok [0] :=
    rfl
  cases hend : run (guarded (State.step sampleLibraries))
      (.ok (start GbMediaService.sampleConfig)) viewerLeavesFirst with
  | error fault =>
      rw [hend] at htouched
      contradiction
  | ok s =>
      have hone := of_map_eq_ok hend htouched
      rw [(hlast s hend).1] at hone
      contradiction

end GBServer.ConnectionLifetime
