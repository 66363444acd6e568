import GBServer.SipRegistration

namespace GBServer.SipEvents

open Foundation.CStrings
open Foundation.Memory
open GBServer.HttpDigest
open GBServer.SipRegistration

/-- The keys of `sip_event_callback_map_`, and every other type. -/
inductive EventType where
  | callMessageNew
  | callClosed
  | callReleased
  | messageNew
  | messageAnswered
  | messageRequestFailure
  | callInvite
  | callProceeding
  | callAnswered
  | callServerFailure
  | inSubscriptionNew
  | other
  deriving DecidableEq, Repr

structure Header where
  hname : CString
  hvalue : Option CString
  deriving DecidableEq, Repr

structure SipMessage extends Request where
  statusCode : Nat
  headers : List Header
  bodies : List (Option CString)
  deriving DecidableEq, Repr

/-- The fields of `eXosip_event_t` that the handlers read. -/
structure SipEvent where
  type : EventType
  tid : Int
  did : Int
  request : Option SipMessage
  response : Option SipMessage
  deriving DecidableEq, Repr

/-- What a function did with a pointer that it was given to set. -/
inductive OutParameter where
  | untouched
  | set (p : Option CString)
  deriving DecidableEq, Repr

/-- `<<` to the log, which prints a null pointer as `(null)`. -/
def OutParameter.print : OutParameter → Except Fault Unit
  | .untouched => .error .uninitialised
  | .set _ => .ok ()

/-- The members of `SipServer` that answer a `MESSAGE` of ours. -/
inductive ResponseHandler where
  | deviceInfo
  | record
  | alarm
  deriving DecidableEq, Repr

/-- The log level, eXosip, and the code of `XmlHelper` and of the handlers. -/
structure Environment where
  logsInfo : Bool
  messageToStr : Option SipMessage → OutParameter
  buildAnswer : Int → Nat → Bool
  buildAck : Int → Bool
  /-- The text of `Response/CmdType`, if there is a document. -/
  responseCmdType : CString → Option CString
  /-- Whether `init` has made the handlers. -/
  handlersMade : Bool
  handleMessageResponse : ResponseHandler → SipEvent → Except Fault Unit
  handleAlarmNotify : SipEvent → Except Fault Unit

inductive Effect where
  | answer (tid : Int) (answer : SipRegistration.Answer)
  | ack (did : Int)
  deriving DecidableEq, Repr

def requestInfo (env : Environment) (event : SipEvent) : Except Fault Unit :=
  if env.logsInfo then (env.messageToStr event.request).print else .ok ()

def responseInfo (env : Environment) (event : SipEvent) : Except Fault Unit :=
  if env.logsInfo then (env.messageToStr event.response).print else .ok ()

def answerCode : SipRegistration.Answer → Nat
  | .message code => code
  | .unauthorized _ _ => 401

def sendAnswer (env : Environment) (event : SipEvent) (answer : SipRegistration.Answer) :
    List Effect :=
  if env.buildAnswer event.tid (answerCode answer) then [.answer event.tid answer] else []

/-- `strncpy` into a buffer of zeros.  A negative count is a huge one. -/
def strncpy (capacity : Nat) (source : CString) (count : Int) : Except Fault CString :=
  if 0 ≤ count ∧ count ≤ capacity then .ok (source.take count.toNat) else .error .outOfBounds

/-- `char CmdType[64]` and `char DeviceID[64]`. -/
def bufferSize : Nat := 64

/-- The return code, and the string in the destination. -/
def parseXml (data : Option CString) (sMark : CString) (withSMark : Bool) (eMark : CString)
    (withEMark : Bool) (dest : CString) : Except Fault (Int × CString) := do
  let data ← deref data
  match strstr data sMark with
  | none => return (-1, dest)
  | some start =>
      match strstr start eMark with
      | none => return (0, dest)
      | some stop =>
          let sPos := if withSMark then 0 else sMark.length
          let ePos := if withEMark then eMark.length else 0
          let count : Int := (start.length : Int) - stop.length + ePos - sPos
          let dest ← strncpy bufferSize (start.drop sPos) count
          return (0, dest)

/-- Reading the string in a buffer, which ends only if a byte of zero is left. -/
def readBuffer (text : CString) : Except Fault CString :=
  if text.length < bufferSize then .ok text else .error .outOfBounds

def messageTexts (request : SipMessage) : Except Fault (CString × CString) :=
  match request.bodies.head? with
  | none => return ([], [])
  | some body => do
      let cmdType ← parseXml body (ascii "<CmdType>") false (ascii "</CmdType>") false []
      let deviceID ← parseXml body (ascii "<DeviceID>") false (ascii "</DeviceID>") false []
      return (cmdType.2, deviceID.2)

def logCmdType (env : Environment) (cmdType : CString) : Except Fault CString :=
  if env.logsInfo then readBuffer cmdType else .ok cmdType

def responseMessage (env : Environment) (event : SipEvent) (request : SipMessage) :
    Except Fault (List Effect) := do
  let texts ← messageTexts request
  -- `client_map_.find` makes a string of the device, and only the log tells the outcome.
  let _ ← readBuffer texts.2
  let cmdType ← logCmdType env texts.1
  if cmdType = ascii "Catalog" then return sendAnswer env event (.message 200)
  else if cmdType = ascii "Keepalive" then return sendAnswer env event (.message 200)
  else return sendAnswer env event (.message 200)

def isRequest (message : SipMessage) : Bool := message.statusCode == 0

def isRegister (message : SipMessage) : Bool :=
  isRequest message && message.sipMethod == ascii "REGISTER"

def isMessage (message : SipMessage) : Bool :=
  isRequest message && message.sipMethod == ascii "MESSAGE"

/-- The two lines of the log with which most handlers begin. -/
def infos (env : Environment) (event : SipEvent) : Except Fault Unit := do
  requestInfo env event
  responseInfo env event

def logged (env : Environment) (s : SipServer) (event : SipEvent) :
    Except Fault (SipServer × List Effect) := do
  infos env event
  return (s, [])

def handlerSipcallMessageNew := logged

def handlerSipCallClosed := logged

def handlerSipCallReleased (env : Environment) (s : SipServer) (event : SipEvent) :
    Except Fault (SipServer × List Effect) := do
  infos env event
  return ({ s with clientMap := ∅ }, [])

def handlerSipCallInvite (s : SipServer) : Except Fault (SipServer × List Effect) :=
  return (s, [])

def handlerSipCallProceeding := logged

def handlerSipCallAnswered (env : Environment) (s : SipServer) (event : SipEvent) :
    Except Fault (SipServer × List Effect) := do
  infos env event
  return (s, if env.buildAck event.did then [.ack event.did] else [])

def handlerSipCallServerFailure (s : SipServer) : Except Fault (SipServer × List Effect) :=
  return (s, [])

def handlerSipMessageNew (md5 : Md5) (config : SipServerConfig) (env : Environment) (now : Int)
    (s : SipServer) (event : SipEvent) : Except Fault (SipServer × List Effect) := do
  let request ← deref event.request
  if isRegister request then
    let registered ← responseRegister md5 config now s request.toRequest
    return (registered.1, sendAnswer env event registered.2)
  else if isMessage request then
    let effects ← responseMessage env event request
    return (s, effects)
  else return (s, [])

/-- The handler that `HandlerSipMessageAnswerd` picks. -/
def responseHandler (cmdType : CString) : Option ResponseHandler :=
  if cmdType = ascii "DeviceInfo" then some .deviceInfo
  else if cmdType = ascii "DeviceStatus" then some .deviceInfo
  else if cmdType = ascii "RecordInfo" then some .record
  else if cmdType = ascii "Alarm" then some .alarm
  else none

/-- The handler and the text of the first body it is picked from. -/
def answeredHandler (env : Environment) (event : SipEvent) : Option ResponseHandler := do
  let response ← event.response
  let body ← response.bodies.head?
  let xml ← body
  let cmdType ← env.responseCmdType xml
  if env.handlersMade then responseHandler cmdType else none

def handlerSipMessageAnswerd (env : Environment) (s : SipServer) (event : SipEvent) :
    Except Fault (SipServer × List Effect) := do
  requestInfo env event
  match answeredHandler env event with
  | some handler =>
      env.handleMessageResponse handler event
      return (s, [])
  | none => return (s, [])

def handlerSipMessageRequestFailure := logged

def headerGetByname (message : SipMessage) (hname : CString) : Option Header :=
  message.headers.find? fun header => equalIgnoringCase header.hname hname

def notifiesAlarm (env : Environment) (event : SipEvent) : Bool :=
  match event.request with
  | none => false
  | some request =>
      match headerGetByname request (ascii "Event") with
      | none => false
      | some header => env.handlersMade && header.hvalue == some (ascii "Alarm")

def handlerSipInSubscriptionNew (env : Environment) (s : SipServer) (event : SipEvent) :
    Except Fault (SipServer × List Effect) := do
  if notifiesAlarm env event then
    env.handleAlarmNotify event
    return (s, [])
  else return (s, [])

/-- What `LoopSip` does with one event. -/
def loopSip (md5 : Md5) (config : SipServerConfig) (env : Environment) (now : Int)
    (s : SipServer) (event : SipEvent) : Except Fault (SipServer × List Effect) :=
  match event.type with
  | .callMessageNew => handlerSipcallMessageNew env s event
  | .callClosed => handlerSipCallClosed env s event
  | .callReleased => handlerSipCallReleased env s event
  | .messageNew => handlerSipMessageNew md5 config env now s event
  | .messageAnswered => handlerSipMessageAnswerd env s event
  | .messageRequestFailure => handlerSipMessageRequestFailure env s event
  | .callInvite => handlerSipCallInvite s
  | .callProceeding => handlerSipCallProceeding env s event
  | .callAnswered => handlerSipCallAnswered env s event
  | .callServerFailure => handlerSipCallServerFailure s
  | .inSubscriptionNew => handlerSipInSubscriptionNew env s event
  | .other => return (s, [])

structure Delivery where
  now : Int
  event : SipEvent
  deriving DecidableEq, Repr

def step (md5 : Md5) (config : SipServerConfig) (env : Environment) (s : SipServer)
    (delivery : Delivery) : Except Fault SipServer :=
  (loopSip md5 config env delivery.now s delivery.event).map Prod.fst

end GBServer.SipEvents
