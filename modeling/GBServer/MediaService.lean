import GBServer.RtcService
import GBServer.SessionName
import Mathlib.Logic.Function.Basic

/-!
The media service: the sessions of all streams, their producers and consumers, the
RTC services that route packets to them, the TCP servers of GB28181 devices, and the
tasks posted to the worker thread.

Sessions and endpoints are shared objects, so the tables hold identities and the
objects live in heaps of their own.
-/

namespace GBServer

open Std (ExtTreeMap)
open Foundation.CStrings
open Foundation.Memory
open GBServer.SessionName

/-- A session is known by its `rtc_service_index_`, which is given out once. -/
abbrev SessionId := Nat

abbrev ResourceId := InterfaceId

inductive ShareResourceType where
  | producerGB28181
  | producerRtc
  | producerRtmp
  | producerRtsp
  | consumerRtc
  | consumerFlv
  | consumerRtmp
  | consumerRtsp
  | unknowed
  deriving DecidableEq, Repr

structure ShareResource where
  type : ShareResourceType := .unknowed
  session : SessionId := 0
  startTimestamp : Int := 0
  deriving DecidableEq, Repr

structure Session where
  sessionName : CString := []
  rtcService : Nat := 0
  producer : Option ResourceId := none
  consumers : List ResourceId := []
  deriving DecidableEq, Repr

inductive Media where
  | video (image : List UInt8)
  | audio (buffer : List UInt8) (pts : Int)
  deriving DecidableEq, Repr

/-- A task posted to the worker thread: to hand a frame to the consumers of a session,
or to take down an endpoint whose DTLS association has closed or failed.  The code
does not keep the producer that a frame comes from. -/
inductive Task where
  | addFrame (session : SessionId) (origin : ResourceId) (media : Media)
  | dtlsEnded (i : ResourceId)
  deriving DecidableEq, Repr

structure TcpServer where
  serverId : Nat
  port : UInt16
  listening : Bool
  context : Option ResourceId := none
  deriving DecidableEq, Repr

inductive Severity where
  | verbose
  | info
  | warning
  | error
  | none
  deriving DecidableEq, Repr

structure ServerConfig where
  numWorkers : Nat
  timeoutMs : Int
  minSeverity : Severity
  deriving DecidableEq, Repr

/-- What the random generator gives one endpoint. -/
structure IceSecrets where
  ufragDraws : Nat → String
  passwd : String

inductive Answer where
  | notFound
  | incomplete
  | sdp (i : ResourceId)
  | flv (i : ResourceId)
  | opened (tcpMode : Nat) (streamId : CString) (port : UInt16)
  | closed (streamId : CString)
  deriving DecidableEq, Repr

inductive OfferBody where
  | malformed
  | incomplete
  | offer (streamurl sdp : CString)
  deriving DecidableEq, Repr

inductive RtpServerBody where
  | malformed
  | request (tcpMode : Nat) (streamId : CString)
  deriving DecidableEq, Repr

/-- The SDP parser, beside the STUN class. -/
structure MediaApi (Stun : Type*) extends StunApi Stun where
  decodeSdp : CString → Bool

structure GbMediaService where
  config : ServerConfig
  sessions : ExtTreeMap CString SessionId := ∅
  sessionHeap : SessionId → Session := fun _ => {}
  rtcServiceIndex : Nat := 0
  resources : ResourceId → ShareResource := fun _ => {}
  nextResource : ResourceId := 0
  rtcServices : Nat → RtcService := fun _ => RtcService.startup fun _ => ⟨.producer, "", ""⟩
  rtpServer : ExtTreeMap CString TcpServer := ∅
  nextServer : Nat := 0
  tcpPort : UInt16 := 20000
  tasks : List Task := []

def Severity.rank : Severity → Nat
  | .verbose => 0
  | .info => 1
  | .warning => 2
  | .error => 3
  | .none => 4

/-- A message of this severity is written, and its arguments are evaluated. -/
def ServerConfig.logs (config : ServerConfig) (severity : Severity) : Bool :=
  config.minSeverity.rank ≤ severity.rank

namespace GbMediaService

/-- `RtcServiceMgr::GetRtcService`, with the index cut to 32 bits. -/
def getRtcService (config : ServerConfig) (index : Nat) : Nat :=
  index % 0x100000000 % config.numWorkers

def withSession (s : GbMediaService) (sid : SessionId) (f : Session → Session) :
    GbMediaService :=
  { s with sessionHeap := Function.update s.sessionHeap sid (f (s.sessionHeap sid)) }

def withRtcService (s : GbMediaService) (sid : SessionId) (f : RtcService → RtcService) :
    GbMediaService :=
  let k := (s.sessionHeap sid).rtcService
  { s with rtcServices := Function.update s.rtcServices k (f (s.rtcServices k)) }

def serviceOf (s : GbMediaService) (i : ResourceId) : RtcService :=
  s.rtcServices (s.sessionHeap (s.resources i).session).rtcService

def rtcInterface (s : GbMediaService) (i : ResourceId) : RtcInterface :=
  (s.serviceOf i).interfaces i

def post (s : GbMediaService) (tasks : List Task) : GbMediaService :=
  { s with tasks := s.tasks ++ tasks }

def newSession (s : GbMediaService) (sessionName : CString) : GbMediaService :=
  let session : Session :=
    { sessionName := sessionName, rtcService := getRtcService s.config s.rtcServiceIndex }
  { s with
    sessions := s.sessions.insert sessionName s.rtcServiceIndex
    sessionHeap := Function.update s.sessionHeap s.rtcServiceIndex session
    rtcServiceIndex := s.rtcServiceIndex + 1 }

def createSession (s : GbMediaService) (sessionName : CString) :
    GbMediaService × Option SessionId :=
  match s.sessions[sessionName]? with
  | some sid => (s, some sid)
  | none =>
      if (split sessionName).length < 2 then (s, none)
      else (s.newSession sessionName, some s.rtcServiceIndex)

def newResource (s : GbMediaService) (sid : SessionId) (type : ShareResourceType)
    (nowMs : Int) : GbMediaService :=
  { s with
    resources := Function.update s.resources s.nextResource
      { type := type, session := sid, startTimestamp := nowMs }
    nextResource := s.nextResource + 1 }

/-- The constructor's choice of `local_ufrag_`: at most ten draws after the first. -/
def drawUFrag (service : RtcService) (draws : Nat → String) : Nat → Nat → String
  | 0, n => draws n
  | retries + 1, n =>
      if draws n ∈ service.nameRtcUfrag then drawUFrag service draws retries (n + 1)
      else draws n

def newRtcInterface (s : GbMediaService) (sid : SessionId) (i : ResourceId) (kind : RtcKind)
    (secrets : IceSecrets) : GbMediaService :=
  s.withRtcService sid fun service =>
    service.setInterface i
      { kind := kind
        localUFrag := drawUFrag service secrets.ufragDraws 10 0
        localPasswd := secrets.passwd }

def newRtcResource (s : GbMediaService) (sid : SessionId) (type : ShareResourceType)
    (kind : RtcKind) (secrets : IceSecrets) (nowMs : Int) : GbMediaService :=
  (s.newResource sid type nowMs).newRtcInterface sid s.nextResource kind secrets

def createProducer (s : GbMediaService) (sid : SessionId) (sessionName : CString)
    (type : ShareResourceType) (secrets : IceSecrets) (nowMs : Int) :
    GbMediaService × Option ResourceId :=
  if sessionName ≠ (s.sessionHeap sid).sessionName then (s, none)
  else
    match type with
    | .producerGB28181 | .producerRtsp => (s.newResource sid type nowMs, some s.nextResource)
    | .producerRtc =>
        (s.newRtcResource sid type .producer secrets nowMs, some s.nextResource)
    | _ => (s, none)

def createConsumer (s : GbMediaService) (sid : SessionId) (sessionName : CString)
    (type : ShareResourceType) (secrets : IceSecrets) (nowMs : Int) :
    GbMediaService × Option ResourceId :=
  if sessionName ≠ (s.sessionHeap sid).sessionName then (s, none)
  else if (split sessionName).length < 2 then (s, none)
  else
    match type with
    | .consumerRtc =>
        (s.newRtcResource sid type .consumer secrets nowMs, some s.nextResource)
    | .consumerFlv | .consumerRtsp => (s.newResource sid type nowMs, some s.nextResource)
    | _ => (s, none)

def setProducer (s : GbMediaService) (sid : SessionId) (producer : Option ResourceId) :
    GbMediaService :=
  s.withSession sid fun session => { session with producer := producer }

def addConsumer (s : GbMediaService) (sid : SessionId) (consumer : ResourceId) :
    GbMediaService :=
  s.withSession sid fun session =>
    { session with consumers := session.consumers.insert consumer }

def removeConsumer (s : GbMediaService) (sid : SessionId) (consumer : ResourceId) :
    GbMediaService :=
  s.withSession sid fun session =>
    { session with consumers := session.consumers.filter (· ≠ consumer) }

def registerRtcInterface (s : GbMediaService) (sid : SessionId) (i : ResourceId) :
    GbMediaService :=
  s.withRtcService sid fun service => service.registerRtcInterface i

def unregisterRtcInterface (s : GbMediaService) (sid : SessionId) (i : ResourceId) :
    GbMediaService :=
  s.withRtcService sid fun service => service.unregisterRtcInterface i

section Requests

variable {Stun : Type*} (api : MediaApi Stun)

def handlerRtcProducer (s : GbMediaService) (body : OfferBody) (secrets : IceSecrets)
    (nowMs : Int) : GbMediaService × Answer :=
  match body with
  | .malformed => (s, .notFound)
  | .incomplete => (s, .incomplete)
  | .offer streamurl sdp =>
      let sessionName := getSessionNameFromUrl streamurl
      match s.createSession sessionName with
      | (s, none) => (s, .notFound)
      | (s, some sid) =>
          match s.createProducer sid sessionName .producerRtc secrets nowMs with
          | (s, none) => (s, .notFound)
          | (s, some producer) =>
              let s := s.setProducer sid (some producer)
              if api.decodeSdp sdp then (s.registerRtcInterface sid producer, .sdp producer)
              else (s, .notFound)

def handlerRtcConsumer (s : GbMediaService) (body : OfferBody) (secrets : IceSecrets)
    (nowMs : Int) : GbMediaService × Answer :=
  match body with
  | .malformed => (s, .notFound)
  | .incomplete => (s, .incomplete)
  | .offer streamurl sdp =>
      let sessionName := getSessionNameFromUrl streamurl
      match s.createSession sessionName with
      | (s, none) => (s, .notFound)
      | (s, some sid) =>
          match s.createConsumer sid sessionName .consumerRtc secrets nowMs with
          | (s, none) => (s, .notFound)
          | (s, some consumer) =>
              let s := s.addConsumer sid consumer
              if api.decodeSdp sdp then (s.registerRtcInterface sid consumer, .sdp consumer)
              else (s, .notFound)

end Requests

def handlerFlvConsumer (s : GbMediaService) (path : CString) (secrets : IceSecrets)
    (nowMs : Int) : GbMediaService × Answer :=
  let sessionName := getSessionNameFromUrl (flvUrl path)
  match s.createSession sessionName with
  | (s, none) => (s, .notFound)
  | (s, some sid) =>
      match s.createConsumer sid sessionName .consumerFlv secrets nowMs with
      | (s, none) => (s, .notFound)
      | (s, some consumer) => (s.addConsumer sid consumer, .flv consumer)

/-- `WebService::OnDestroy` of a connection whose context is the endpoint. -/
def onDestroy (s : GbMediaService) (i : ResourceId) : GbMediaService :=
  match (s.resources i).type with
  | .consumerRtc | .consumerFlv | .consumerRtsp => s.removeConsumer (s.resources i).session i
  | _ => s

/-- `Startup` is told by `started`; its result is not looked at. -/
def openTcpServer (s : GbMediaService) (streamId : CString) (port : UInt16) (started : Bool) :
    GbMediaService × Option TcpServer :=
  match s.rtpServer[streamId]? with
  | some _ => (s, none)
  | none =>
      let server : TcpServer := { serverId := s.nextServer, port := port, listening := started }
      ({ s with
          rtpServer := s.rtpServer.insert streamId server
          nextServer := s.nextServer + 1 }, some server)

def setContext (s : GbMediaService) (streamId : CString) (server : TcpServer)
    (producer : ResourceId) : GbMediaService :=
  { s with rtpServer := s.rtpServer.insert streamId { server with context := some producer } }

def handlerOpenRtpServer (s : GbMediaService) (body : RtpServerBody) (started : Bool)
    (secrets : IceSecrets) (nowMs : Int) : GbMediaService × Answer :=
  match body with
  | .malformed => (s, .notFound)
  | .request tcpMode streamId =>
      let sessionName := getSessionNameFromUrl (gb28181Url streamId)
      match s.createSession sessionName with
      | (s, none) => (s, .notFound)
      | (s, some sid) =>
          match s.openTcpServer sessionName s.tcpPort started with
          | (s, none) => (s, .notFound)
          | (s, some rtp) =>
              match s.createProducer sid sessionName .producerGB28181 secrets nowMs with
              | (s, none) => (s, .notFound)
              | (s, some producer) =>
                  let s := (s.setProducer sid (some producer)).setContext sessionName rtp producer
                  ({ s with tcpPort := s.tcpPort + 1 }, .opened tcpMode streamId s.tcpPort)

/-- The loop of `Clear` over copies of the consumers: each copy is reset, and then the
names of its endpoint are logged. -/
def clearConsumers (config : ServerConfig) : List ResourceId → Except Fault Unit
  | [] => .ok ()
  | _ :: rest => do
      if config.logs .info then
        let _ ← deref (none : Option ResourceId)
      clearConsumers config rest

def clear (s : GbMediaService) (sid : SessionId) : Except Fault GbMediaService := do
  clearConsumers s.config (s.sessionHeap sid).consumers
  return s.withSession sid fun session => { session with producer := none, consumers := [] }

def closeSession (s : GbMediaService) (sessionName : CString) :
    Except Fault (GbMediaService × Bool) :=
  match s.sessions[sessionName]? with
  | none => .ok (s, true)
  | some sid => do
      let s ← clear { s with sessions := s.sessions.erase sessionName } sid
      return (s, true)

def handlerCloseRtpServer (s : GbMediaService) (body : RtpServerBody) :
    Except Fault (GbMediaService × Answer) :=
  match body with
  | .malformed => .ok (s, .notFound)
  | .request _ streamId => do
      let (s, ok) ← s.closeSession (getSessionNameFromUrl (gb28181Url streamId))
      return if ok then (s, .closed streamId) else (s, .notFound)

def checkStunTimeOut (s : GbMediaService) (i : ResourceId) (nowMs : Int) : Bool :=
  s.config.timeoutMs < nowMs - (s.rtcInterface i).rtcStunTimestamp

def producerTimedOut (s : GbMediaService) (sid : SessionId) (nowMs : Int) : Option ResourceId :=
  (s.sessionHeap sid).producer.filter fun p =>
    (s.resources p).type = .producerRtc && s.checkStunTimeOut p nowMs

def consumersTimedOut (s : GbMediaService) (sid : SessionId) (nowMs : Int) : List ResourceId :=
  (s.sessionHeap sid).consumers.filter fun c =>
    (s.resources c).type = .consumerRtc && s.checkStunTimeOut c nowMs

def dropProducer (s : GbMediaService) (sid : SessionId) (p : ResourceId) : GbMediaService :=
  (s.unregisterRtcInterface sid p).setProducer sid none

def dropConsumer (sid : SessionId) (s : GbMediaService) (c : ResourceId) : GbMediaService :=
  (s.unregisterRtcInterface sid c).removeConsumer sid c

def checkTimeOut (s : GbMediaService) (sid : SessionId) (nowMs : Int) : GbMediaService :=
  let s :=
    match s.producerTimedOut sid nowMs with
    | some p => s.dropProducer sid p
    | none => s
  (s.consumersTimedOut sid nowMs).foldl (dropConsumer sid) s

/-- The task that `OnDtlsClosed` and `OnDtlsFailed` post.  The one of a producer calls
`RegisterRtcInterface`. -/
def onDtlsEnded (s : GbMediaService) (i : ResourceId) : GbMediaService :=
  let sid := (s.resources i).session
  match (s.resources i).type with
  | .producerRtc => (s.registerRtcInterface sid i).setProducer sid none
  | .consumerRtc => dropConsumer sid s i
  | _ => s

def IsRtc (s : GbMediaService) (i : ResourceId) : Prop :=
  i < s.nextResource ∧
    ((s.resources i).type = .producerRtc ∨ (s.resources i).type = .consumerRtc)

instance (s : GbMediaService) (i : ResourceId) : Decidable (s.IsRtc i) :=
  inferInstanceAs (Decidable (_ ∧ _))

/-- A callback of the DTLS library, on a packet or on a timer of its own. -/
def onDtls (s : GbMediaService) (i : ResourceId) (callback : RtcInterface.DtlsCallback) :
    GbMediaService :=
  if s.IsRtc i then
    let s := s.withRtcService (s.resources i).session fun service =>
      service.setInterface i ((service.interfaces i).onDtls callback)
    match callback with
    | .closed | .failed => s.post [.dtlsEnded i]
    | _ => s
  else s

/-- `Session::AddVideoFrame` and `AddAudioFrame`, called by a producer. -/
def addFrames (s : GbMediaService) (i : ResourceId) (media : List Media) : GbMediaService :=
  s.post (media.map (.addFrame (s.resources i).session i))

/-- `media` is what the packet completes. -/
def onRtp (s : GbMediaService) (k : Nat) (addr : SocketAddress) (data : List UInt8)
    (media : List Media) : Except Fault GbMediaService :=
  match (s.rtcServices k).onRtp data addr with
  | none => .ok s
  | some (i, _) => do
      let x ← ((s.rtcServices k).interfaces i).onSrtpRtp
      match x.kind with
      | .producer => return s.addFrames i media
      | .consumer => return s

/-- Bytes on a connection of a GB28181 server, whose context is that of the server.
`images` are the video frames they complete; audio is dropped. -/
def onTcp (s : GbMediaService) (streamId : CString) (images : List (List UInt8)) :
    GbMediaService :=
  match s.rtpServer[streamId]? with
  | none => s
  | some server =>
      match server.context with
      | some producer => s.addFrames producer (images.map .video)
      | none => s

def runTask (s : GbMediaService) : GbMediaService :=
  match s.tasks with
  | [] => s
  | .addFrame _ _ _ :: rest => { s with tasks := rest }
  | .dtlsEnded i :: rest => onDtlsEnded { s with tasks := rest } i

inductive Input where
  | push (body : OfferBody) (secrets : IceSecrets) (nowMs : Int)
  | play (body : OfferBody) (secrets : IceSecrets) (nowMs : Int)
  | flv (path : CString) (secrets : IceSecrets) (nowMs : Int)
  | disconnect (i : ResourceId)
  | openRtpServer (body : RtpServerBody) (started : Bool) (secrets : IceSecrets) (nowMs : Int)
  | closeRtpServer (body : RtpServerBody)
  | stun (k : Nat) (transport : Transport) (data : List UInt8) (addr : SocketAddress)
      (nowMs : Int)
  | dtls (i : ResourceId) (callback : RtcInterface.DtlsCallback)
  | rtp (k : Nat) (addr : SocketAddress) (data : List UInt8) (media : List Media)
  | tcp (streamId : CString) (images : List (List UInt8))
  | tick (sid : SessionId) (nowMs : Int)
  | worker

def onStun {Stun : Type*} (api : MediaApi Stun) (s : GbMediaService) (k : Nat)
    (transport : Transport) (data : List UInt8) (addr : SocketAddress) (nowMs : Int) :
    GbMediaService :=
  { s with
    rtcServices := Function.update s.rtcServices k
      (RtcService.onStun api.toStunApi transport (s.rtcServices k) data addr nowMs).1 }

def step {Stun : Type*} (api : MediaApi Stun) (s : GbMediaService) :
    Input → Except Fault GbMediaService
  | .push body secrets nowMs => .ok (s.handlerRtcProducer api body secrets nowMs).1
  | .play body secrets nowMs => .ok (s.handlerRtcConsumer api body secrets nowMs).1
  | .flv path secrets nowMs => .ok (s.handlerFlvConsumer path secrets nowMs).1
  -- only `HandlerFlvConsumer` makes an endpoint the context of its connection
  | .disconnect i => .ok (if (s.resources i).type = .consumerFlv then s.onDestroy i else s)
  | .openRtpServer body started secrets nowMs =>
      .ok (s.handlerOpenRtpServer body started secrets nowMs).1
  | .closeRtpServer body => (s.handlerCloseRtpServer body).map Prod.fst
  | .stun k transport data addr nowMs => .ok (s.onStun api k transport data addr nowMs)
  | .dtls i callback => .ok (s.onDtls i callback)
  | .rtp k addr data media => s.onRtp k addr data media
  | .tcp streamId images => .ok (s.onTcp streamId images)
  | .tick sid nowMs => .ok (s.checkTimeOut sid nowMs)
  | .worker => .ok s.runTask

def startup (config : ServerConfig) : GbMediaService where
  config := config

section Sample

def sampleConfig : ServerConfig where
  numWorkers := 1
  timeoutMs := 30000
  minSeverity := .info

/-- An SDP parser that looks at the version line alone. -/
def sampleApi : MediaApi (List UInt8) where
  toStunApi := RtcService.usernameFirst
  decodeSdp sdp := sdp.take 4 = ascii "v=0\r"

def sampleUrl : CString := ascii "webrtc://example.org/live/cam"

def sampleSdp : CString := ascii "v=0\r\n"

def samplePush (ufrag : String) (nowMs : Int) : Input :=
  .push (.offer sampleUrl sampleSdp) ⟨fun _ => ufrag, "secret"⟩ nowMs

def samplePlay (ufrag : String) (nowMs : Int) : Input :=
  .play (.offer sampleUrl sampleSdp) ⟨fun _ => ufrag, "secret"⟩ nowMs

end Sample

end GbMediaService

end GBServer
