import GBServer.Foundation.Memory

namespace GBServer

open Foundation.Memory

/-- A transport address; the IP is kept in the form `IPAddress::ToString` prints. -/
structure SocketAddress where
  ipaddr : String := ""
  port : UInt16 := 0
  deriving DecidableEq, Repr

inductive CryptoSuite where
  | aesCm128HmacSha1Tag80
  | aesCm128HmacSha1Tag32
  | aeadAes256Gcm
  | aeadAes128Gcm
  deriving DecidableEq, Repr

inductive Direction where
  | outbound
  | inbound
  deriving DecidableEq, Repr

structure SrtpSession where
  direction : Direction
  suite : CryptoSuite
  key : List UInt8
  deriving DecidableEq, Repr

inductive RtcKind where
  | producer
  | consumer
  deriving DecidableEq, Repr

/-- What the constructor and `ProcessOfferSdp` fix for the life of an endpoint. -/
structure RtcParameters where
  kind : RtcKind
  localUFrag : String
  localPasswd : String
  deriving DecidableEq, Repr

structure RtcInterface extends RtcParameters where
  rtcRemoteAddress : SocketAddress := {}
  rtcStunTimestamp : Int := 0
  dtlsDone : Bool := false
  srtpSendSession : Option SrtpSession := none
  srtpRecvSession : Option SrtpSession := none
  deriving DecidableEq, Repr

namespace RtcInterface

/-- The keys of a finished handshake, and whether each of the two `SrtpSession`
constructors returns or throws `std::runtime_error`. -/
structure DtlsKeys where
  suite : CryptoSuite
  localKey : List UInt8
  remoteKey : List UInt8
  sendConstructed : Bool
  recvConstructed : Bool
  deriving DecidableEq, Repr

inductive DtlsCallback where
  | connecting
  | connected (keys : DtlsKeys)
  | closed
  | failed
  | applicationData (data : List UInt8)
  deriving DecidableEq, Repr

/-- `OnDtlsConnected`, the same in both classes. -/
def onDtlsConnected (x : RtcInterface) (keys : DtlsKeys) : RtcInterface :=
  let srtpSendSession :=
    if keys.sendConstructed then some ⟨.outbound, keys.suite, keys.localKey⟩ else none
  if keys.recvConstructed then
    { x with
      srtpSendSession := srtpSendSession
      srtpRecvSession := some ⟨.inbound, keys.suite, keys.remoteKey⟩
      dtlsDone := true }
  else
    -- the handler of the second constructor deletes the send session as well
    { x with srtpSendSession := none, srtpRecvSession := none, dtlsDone := true }

def onDtls (x : RtcInterface) : DtlsCallback → RtcInterface
  | .connecting => x
  | .connected keys => x.onDtlsConnected keys
  | .closed => { x with dtlsDone := false }
  | .failed => { x with dtlsDone := false }
  | .applicationData _ => x

/-- The first statement of `RtcProducer::OnSrtpRtp` and of both `OnSrtpRtcp`: a
call through `srtp_recv_session_`, which is not checked. -/
def useRecvSession (x : RtcInterface) : Except Fault RtcInterface :=
  match x.srtpRecvSession with
  | none => .error .nullDereference
  | some _ => .ok x

def onSrtpRtp (x : RtcInterface) : Except Fault RtcInterface :=
  match x.kind with
  | .producer => x.useRecvSession
  | .consumer => .ok x

def onSrtpRtcp (x : RtcInterface) : Except Fault RtcInterface :=
  match x.kind with
  | .producer => x.useRecvSession
  | .consumer => x.useRecvSession

/-- Both sessions are there whenever the handshake counts as done. -/
def SessionsReady (x : RtcInterface) : Prop :=
  x.dtlsDone = true → x.srtpSendSession.isSome = true ∧ x.srtpRecvSession.isSome = true

def SessionsConstructed : DtlsCallback → Prop
  | .connected keys => keys.sendConstructed = true ∧ keys.recvConstructed = true
  | _ => True

theorem sessionsReady_onDtls_iff {x : RtcInterface} (h : x.SessionsReady)
    (callback : DtlsCallback) :
    (x.onDtls callback).SessionsReady ↔ SessionsConstructed callback := by
  cases callback with
  | connecting => exact iff_of_true h trivial
  | closed => exact iff_of_true (fun hdone => by simp [onDtls] at hdone) trivial
  | failed => exact iff_of_true (fun hdone => by simp [onDtls] at hdone) trivial
  | applicationData data => exact iff_of_true h trivial
  | connected keys =>
      simp only [onDtls, onDtlsConnected, SessionsReady, SessionsConstructed]
      cases keys.sendConstructed <;> cases keys.recvConstructed <;> simp

theorem srtpRecvSession_onDtls {x : RtcInterface} {callback : DtlsCallback}
    (h : SessionsConstructed callback) :
    (x.onDtls callback).srtpRecvSession.isSome = true ↔
      x.srtpRecvSession.isSome = true ∨ ∃ keys, callback = .connected keys := by
  cases callback with
  | connected keys =>
      have hrecv : keys.recvConstructed = true := h.2
      simp [onDtls, onDtlsConnected, hrecv]
  | connecting => simp [onDtls]
  | closed => simp [onDtls]
  | failed => simp [onDtls]
  | applicationData data => simp [onDtls]

@[simp] theorem onDtls_toRtcParameters (x : RtcInterface) (callback : DtlsCallback) :
    (x.onDtls callback).toRtcParameters = x.toRtcParameters := by
  cases callback with
  | connected keys =>
      simp only [onDtls, onDtlsConnected]
      split <;> rfl
  | _ => rfl

end RtcInterface

end GBServer
