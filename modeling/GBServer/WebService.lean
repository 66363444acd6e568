import GBServer.JsonRequests

namespace GBServer.WebService

open Foundation.CStrings
open Foundation.Memory
open GBServer.SessionName
open GBServer.JsonRequests

inductive HttpMethod where
  | options
  | get
  | post
  | other
  deriving DecidableEq, Repr

structure HttpRequest where
  isRequest : Bool
  method : HttpMethod
  path : CString
  deriving DecidableEq, Repr

/-- The entries of `http_event_callback_map_`. -/
inductive Handler where
  | rtcProducer
  | rtcConsumer
  | flvConsumer
  | m3u8Consumer
  | tsConsumer
  | openRtpServer
  | closeRtpServer
  | systemStats
  | producerStats
  | consumerStats
  | sessionStats
  | allSessionsStats
  deriving DecidableEq, Repr

def producerStatsPath : CString := ascii "/api/stats/producer/"

def consumerStatsPath : CString := ascii "/api/stats/consumer/"

def sessionStatsPath : CString := ascii "/api/stats/session/"

/-- `http_event_callback_map_`, with the entries under `HTTP_API_STATS` or without. -/
def callbackMap (httpApiStats : Bool) : List (CString × Handler) :=
  [(ascii "/rtc/push", .rtcProducer), (ascii "/rtc/play", .rtcConsumer),
    (ascii "flv", .flvConsumer), (ascii "m3u8", .m3u8Consumer), (ascii "ts", .tsConsumer),
    (ascii "/api/openRtpServer", .openRtpServer),
    (ascii "/api/closeRtpServer", .closeRtpServer)] ++
  if httpApiStats then
    [(ascii "/api/stats/system", .systemStats), (producerStatsPath, .producerStats),
      (consumerStatsPath, .consumerStats), (sessionStatsPath, .sessionStats),
      (ascii "/api/stats/sessions", .allSessionsStats)]
  else []

def backslash : UInt8 := 0x5C

/-- The rest of `s` behind the last byte that satisfies `p`, and whether there is one. -/
def afterLast (p : UInt8 → Bool) (s : CString) : Option CString :=
  if s.any p then some (s.reverse.takeWhile fun byte => !p byte).reverse else none

/-- A path that ends in a separator is returned whole. -/
def fileNameExt (path : CString) : CString :=
  match afterLast (fun byte => byte == slash || byte == backslash) path with
  | some [] => path
  | some filename => filename
  | none => path

/-- A name without a dot, or with its only dot in front, is returned whole. -/
def fileExt (path : CString) : CString :=
  let filename := fileNameExt path
  match afterLast (fun byte => byte == dot) filename with
  | some ext => if ext.length + 1 = filename.length then filename else ext
  | none => filename

def isPattern (pattern : CString) : Bool := pattern.getLast? == some slash

/-- The handler that the task of `OnRequest` picks. -/
def route (httpApiStats : Bool) (path : CString) : Option Handler :=
  let callbacks := callbackMap httpApiStats
  match callbacks.lookup path with
  | some handler => some handler
  | none =>
      match callbacks.find? fun pair => isPattern pair.1 && pair.1.isPrefixOf path with
      | some pair => some pair.2
      | none => callbacks.lookup (fileExt path)

inductive Content where
  | none
  | options
  | missingMember
  | answer (answer : Answer)
  | playList (text : CString)
  | stats (text : CString)
  deriving DecidableEq, Repr

structure HttpResponse where
  status : Nat
  content : Content
  deriving DecidableEq, Repr

/-- What a handler leaves for the network thread: to post a response, or to make the
header of a fragment. -/
inductive NetworkTask where
  | respond (response : HttpResponse)
  | fragment (frag : Option CString)
  deriving DecidableEq, Repr

/-- The network thread's part of a request, the session that the handler worked on, the
name of the fragment asked for, and the viewer of an accepted FLV stream. -/
structure Outcome where
  tasks : List NetworkTask := []
  session : Option SessionId := none
  asked : Option CString := none
  flv : Option ResourceId := none
  deriving DecidableEq, Repr

def respond (response : HttpResponse) : Outcome where
  tasks := [.respond response]

def notFound : HttpResponse := ⟨404, .none⟩

def badRequest : HttpResponse := ⟨400, .none⟩

/-- What a handler finds around it: random numbers, the clock, whether a TCP server
starts, the HLS muxers, and the statistics. -/
structure Surroundings where
  secrets : IceSecrets
  nowMs : Int
  started : Bool
  playList : SessionId → CString
  fragment : SessionId → CString → Option CString
  systemStats : CString
  producerStats : CString → Option CString
  consumerStats : CString → Option CString
  sessionStats : CString → CString
  allSessionsStats : CString

def answerResponse : Answer → Outcome
  | .notFound => respond notFound
  | .incomplete => respond ⟨200, .missingMember⟩
  | .flv viewer => { flv := some viewer }
  | answer => respond ⟨200, .answer answer⟩

section Handlers

variable {Stun : Type*} (api : MediaApi Stun) (json : JsonCpp) (around : Surroundings)
  (s : GbMediaService)

def handlerRtcProducer (packet : Option CString) : Except Fault (GbMediaService × Outcome) := do
  let body ← json.offerBody packet
  let (s, answer) := s.handlerRtcProducer api body around.secrets around.nowMs
  return (s, answerResponse answer)

def handlerRtcConsumer (packet : Option CString) : Except Fault (GbMediaService × Outcome) := do
  let body ← json.offerBody packet
  let (s, answer) := s.handlerRtcConsumer api body around.secrets around.nowMs
  return (s, answerResponse answer)

/-- `CreateSession` of the stream that a path names. -/
def sessionOfPath (path : CString) : GbMediaService × Option SessionId :=
  s.createSession (getSessionNameFromUrl (flvUrl path))

def handlerFlvConsumer (path : CString) : Except Fault (GbMediaService × Outcome) :=
  let (s', answer) := s.handlerFlvConsumer path around.secrets around.nowMs
  return (s', { answerResponse answer with session := (sessionOfPath s path).2 })

def handlerM3u8Consumer (path : CString) : Except Fault (GbMediaService × Outcome) :=
  match sessionOfPath s path with
  | (s, none) => return (s, respond notFound)
  | (s, some sid) =>
      if around.playList sid ≠ [] then
        return (s,
          { respond ⟨200, .playList (around.playList sid)⟩ with session := some sid })
      else return (s, { respond notFound with session := some sid })

/-- `filename` is never set. -/
def handlerTsConsumer (path : CString) : Except Fault (GbMediaService × Outcome) :=
  match sessionOfPath s path with
  | (s, none) => return (s, respond notFound)
  | (s, some sid) =>
      let filename : CString := []
      return (s,
        { tasks := [.fragment (around.fragment sid filename)]
          session := some sid
          asked := some filename })

def handlerOpenRtpServer (packet : Option CString) : Except Fault (GbMediaService × Outcome) := do
  let body ← json.openRtpServerBody packet
  let (s, answer) := s.handlerOpenRtpServer body around.started around.secrets around.nowMs
  return (s, answerResponse answer)

def handlerCloseRtpServer (packet : Option CString) :
    Except Fault (GbMediaService × Outcome) := do
  let body ← json.closeRtpServerBody packet
  let (s, answer) ← s.handlerCloseRtpServer body
  return (s, answerResponse answer)

/-- The name behind a prefix that need not be in front of the path. -/
def nameBehind (path mark : CString) : Option CString :=
  (strstr path mark).map fun found => found.drop mark.length

/-- A request for the statistics of the name behind a prefix of its path. -/
def namedStats (mark path : CString) (stats : CString → Option CString) : Outcome :=
  match nameBehind path mark with
  | none => respond badRequest
  | some name =>
      if name = [] then respond badRequest
      else
        match stats name with
        | none => respond notFound
        | some text => respond ⟨200, .stats text⟩

def handlerGetSystemStats : Outcome := respond ⟨200, .stats around.systemStats⟩

def handlerGetProducerStats (path : CString) : Outcome :=
  namedStats producerStatsPath path around.producerStats

def handlerGetConsumerStats (path : CString) : Outcome :=
  namedStats consumerStatsPath path around.consumerStats

def handlerGetSessionStats (path : CString) : Outcome :=
  namedStats sessionStatsPath path fun name => some (around.sessionStats name)

def handlerGetAllSessionsStats : Outcome := respond ⟨200, .stats around.allSessionsStats⟩

def handle (req : HttpRequest) (packet : Option CString) :
    Handler → Except Fault (GbMediaService × Outcome)
  | .rtcProducer => handlerRtcProducer api json around s packet
  | .rtcConsumer => handlerRtcConsumer api json around s packet
  | .flvConsumer => handlerFlvConsumer around s req.path
  | .m3u8Consumer => handlerM3u8Consumer around s req.path
  | .tsConsumer => handlerTsConsumer around s req.path
  | .openRtpServer => handlerOpenRtpServer json around s packet
  | .closeRtpServer => handlerCloseRtpServer json s packet
  | .systemStats => return (s, handlerGetSystemStats around)
  | .producerStats => return (s, handlerGetProducerStats around req.path)
  | .consumerStats => return (s, handlerGetConsumerStats around req.path)
  | .sessionStats => return (s, handlerGetSessionStats around req.path)
  | .allSessionsStats => return (s, handlerGetAllSessionsStats around)

/-- `OnRequest` and the task that it posts, on a connection with an HTTP context or
without. -/
def onRequest (httpApiStats hasContext : Bool) (req : HttpRequest) (packet : Option CString) :
    Except Fault (GbMediaService × Outcome) :=
  if hasContext && req.isRequest then
    if req.method = .options then return (s, respond ⟨200, .options⟩)
    else
      match route httpApiStats req.path with
      | some handler => handle api json around s req packet handler
      | none => return (s, {})
  else return (s, {})

end Handlers

/-- The responses that a task posts.  The one of a fragment posts none. -/
def runNetworkTask : NetworkTask → Except Fault (List HttpResponse)
  | .respond response => .ok [response]
  | .fragment frag => do
      let _ ← deref frag
      return []

def runNetworkTasks : List NetworkTask → Except Fault (List HttpResponse)
  | [] => .ok []
  | task :: rest => do
      let responses ← runNetworkTask task
      let later ← runNetworkTasks rest
      return responses ++ later

end GBServer.WebService
