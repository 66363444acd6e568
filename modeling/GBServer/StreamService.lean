import GBServer.Foundation.Runs
import GBServer.SipEvents

namespace GBServer.StreamService

open Foundation.CStrings
open Foundation.Memory
open Foundation.Runs
open GBServer.HttpDigest
open GBServer.SipRegistration
open GBServer.SipEvents

/-- The values of `sip_server_info_` that an `INVITE` is made of. -/
structure InviteConfig where
  sipServerId : CString
  ip : CString
  port : UInt16
  sipTimeout : Int
  deriving DecidableEq, Repr

structure Device where
  remoteIP : CString
  remotePort : UInt16
  deriving DecidableEq, Repr

/-- What `eXosip_call_send_initial_invite` is given. -/
structure Invite where
  device : CString
  toUri : CString
  fromUri : CString
  sdp : CString
  sessionExpires : CString
  deriving DecidableEq, Repr

structure Call where
  callId : Int
  device : CString
  deriving DecidableEq, Repr

/-- The SIP server, the RTP servers that the media server has opened for it by their
stream, the calls that are up, and the `INVITE`s sent. -/
structure World where
  sip : SipServer
  servers : List CString
  calls : List Call
  invites : List Invite
  failed : Option Fault

inductive Body where
  | notJson
  | withoutPort
  /-- A port that `get<uint16_t>` converts, or one it throws on. -/
  | port (value : Option UInt16)
  deriving DecidableEq, Repr

/-- What a request does at the media server, and the response that comes back with
status 200. -/
structure Reply where
  acted : Bool
  body : Option Body
  deriving DecidableEq, Repr

/-- The results of eXosip in `request_invite`, and the event it waits for. -/
structure InviteOutcome where
  built : Bool
  callId : Int
  event : Option Delivery
  deriving DecidableEq, Repr

/-- The rows found, if the query succeeds. -/
abbrev Rows := Option (List Device)

inductive Response where
  | stream (deviceID : Option CString)
  | status (code : Nat)
  deriving DecidableEq, Repr

inductive Input where
  | startStream (device : CString) (rows : Rows) (reply : Reply) (invite : InviteOutcome)
  | stopStream (device : CString) (rows : Rows) (reply : Reply)
  /-- A call that the device ends. -/
  | ended (callId : Int)
  deriving DecidableEq, Repr

def decimal (n : Int) : CString := ascii (toString n)

def uri (user ip : CString) (port : UInt16) : CString :=
  ascii "sip:" ++ user ++ ascii "@" ++ ip ++ ascii ":" ++ decimal port.toNat

/-- `char from[1024]`, `char contact[1024]` and `char to[1024]`, written by `sprintf`. -/
def sprintf (text : CString) : Except Fault CString :=
  if text.length < 1024 then .ok text else .error .outOfBounds

def sdp (config : InviteConfig) (rtpPort : UInt16) : CString :=
  ascii "v=0\r\n" ++
    ascii "o=" ++ config.sipServerId ++ ascii " 0 0 IN IP4 " ++ config.ip ++ ascii "\r\n" ++
    ascii "s=Play\r\n" ++
    ascii "c=IN IP4 " ++ config.ip ++ ascii "\r\n" ++
    ascii "t=0 0\r\n" ++
    ascii "m=video " ++ decimal rtpPort.toNat ++ ascii " TCP/RTP/AVP 96 98 97\r\n" ++
    ascii "a=recvonly\r\n" ++
    ascii "a=rtpmap:96 PS/90000\r\n" ++
    ascii "a=rtpmap:98 H264/90000\r\n" ++
    ascii "a=rtpmap:97 MPEG4/90000\r\n" ++
    ascii "a=setup:passive\r\n" ++
    ascii "a=connection:new\r\n" ++
    ascii "y=0100000001\r\n" ++
    ascii "f=\r\n"

def makeInvite (config : InviteConfig) (device : CString) (row : Device) (rtpPort : UInt16) :
    Except Fault Invite := do
  let fromUri ← sprintf (uri config.sipServerId config.ip config.port)
  let _ ← sprintf (uri config.sipServerId config.ip config.port)
  let toUri ← sprintf (uri device row.remoteIP row.remotePort)
  return {
    device := device, toUri := toUri, fromUri := fromUri
    sdp := (sdp config rtpPort).take 2047
    sessionExpires := (decimal config.sipTimeout ++ ascii ";refresher=uac").take 1022 }

namespace World

def fail (w : World) (fault : Fault) : World := { w with failed := some fault }

def send (w : World) (invite : Invite) (callId : Int) : World :=
  { w with
    calls := ⟨callId, invite.device⟩ :: w.calls
    invites := invite :: w.invites }

/-- The second half of `request_invite`: one event is waited for and handled. -/
def handle (md5 : Md5) (config : SipServerConfig) (env : Environment) (w : World) :
    Option Delivery → World
  | none => w
  | some delivery =>
      match SipEvents.step md5 config env w.sip delivery with
      | .ok sip => { w with sip := sip }
      | .error fault => w.fail fault

end World

section Steps

variable (md5 : Md5) (config : SipServerConfig) (env : Environment) (inviteConfig : InviteConfig)

/-- The return code is never read. -/
def requestInvite (w : World) (device : CString) (row : Device) (rtpPort : UInt16)
    (outcome : InviteOutcome) : World :=
  match makeInvite inviteConfig device row rtpPort with
  | .error fault => w.fail fault
  | .ok invite =>
      if outcome.built then
        let w := if 0 < outcome.callId then w.send invite outcome.callId else w
        w.handle md5 config env outcome.event
      else w

def World.openRtpServer (w : World) (device : CString) (reply : Reply) : World :=
  if reply.acted then { w with servers := device :: w.servers } else w

def World.closeRtpServer (w : World) (device : CString) (reply : Reply) : World :=
  if reply.acted then { w with servers := w.servers.filter (· ≠ device) } else w

/-- The row of the device that both requests look up first. -/
def lookup : Rows → Except Nat Device
  | none => .error 500
  | some [row] => .ok row
  | some _ => .error 404

def startStream (w : World) (device : CString) (rows : Rows) (reply : Reply)
    (outcome : InviteOutcome) : World × Option Response :=
  match lookup rows with
  | .error code => (w, some (.status code))
  | .ok row =>
      let w := w.openRtpServer device reply
      match reply.body with
      | some (.port (some rtpPort)) =>
          (requestInvite md5 config env inviteConfig w device row rtpPort outcome,
            some (.stream (some device)))
      | some (.port none) => (w.fail .uncaughtException, none)
      | some .withoutPort | some .notJson | none => (w, some (.stream (some device)))

def stopStream (w : World) (device : CString) (rows : Rows) (reply : Reply) :
    World × Option Response :=
  match lookup rows with
  | .error code => (w, some (.status code))
  | .ok _ =>
      let w := w.closeRtpServer device reply
      match reply.body with
      | some (.port none) => (w.fail .uncaughtException, none)
      | some (.port (some _)) | some .withoutPort => (w, some (.stream (some device)))
      | some .notJson | none => (w, some (.stream none))

/-- Nothing happens any more after a fault. -/
def step (w : World) (input : Input) : World :=
  if w.failed.isSome then w
  else
    match input with
    | .startStream device rows reply outcome =>
        (startStream md5 config env inviteConfig w device rows reply outcome).1
    | .stopStream device rows reply => (stopStream w device rows reply).1
    | .ended callId => { w with calls := w.calls.filter fun call => call.callId ≠ callId }

end Steps

namespace World

variable {md5 : Md5} {config : SipServerConfig} {env : Environment} {w : World}

@[simp] theorem fail_servers (fault : Fault) : (w.fail fault).servers = w.servers := rfl

@[simp] theorem fail_calls (fault : Fault) : (w.fail fault).calls = w.calls := rfl

@[simp] theorem fail_invites (fault : Fault) : (w.fail fault).invites = w.invites := rfl

@[simp] theorem send_invites (invite : Invite) (callId : Int) :
    (w.send invite callId).invites = invite :: w.invites := rfl

/-- The event handled in `request_invite` concerns neither servers nor calls. -/
theorem handle_cases (event : Option Delivery) :
    (∃ sip, w.handle md5 config env event = { w with sip := sip }) ∨
      ∃ fault, w.handle md5 config env event = w.fail fault := by
  cases event with
  | none => exact Or.inl ⟨w.sip, rfl⟩
  | some delivery =>
      rw [handle]
      split
      · exact Or.inl ⟨_, rfl⟩
      · exact Or.inr ⟨_, rfl⟩

@[simp] theorem handle_servers (event : Option Delivery) :
    (w.handle md5 config env event).servers = w.servers := by
  rcases handle_cases event with ⟨_, h⟩ | ⟨_, h⟩
  · rw [h]
  · rw [h, fail_servers]

@[simp] theorem handle_calls (event : Option Delivery) :
    (w.handle md5 config env event).calls = w.calls := by
  rcases handle_cases event with ⟨_, h⟩ | ⟨_, h⟩
  · rw [h]
  · rw [h, fail_calls]

@[simp] theorem handle_invites (event : Option Delivery) :
    (w.handle md5 config env event).invites = w.invites := by
  rcases handle_cases event with ⟨_, h⟩ | ⟨_, h⟩
  · rw [h]
  · rw [h, fail_invites]

@[simp] theorem openRtpServer_calls (device : CString) (reply : Reply) :
    (w.openRtpServer device reply).calls = w.calls := by
  rw [openRtpServer]
  split <;> rfl

@[simp] theorem openRtpServer_invites (device : CString) (reply : Reply) :
    (w.openRtpServer device reply).invites = w.invites := by
  rw [openRtpServer]
  split <;> rfl

theorem mem_openRtpServer {device : CString} {reply : Reply} (h : reply.acted) :
    device ∈ (w.openRtpServer device reply).servers := by
  rw [openRtpServer, if_pos h]
  exact List.mem_cons_self

@[simp] theorem closeRtpServer_calls (device : CString) (reply : Reply) :
    (w.closeRtpServer device reply).calls = w.calls := by
  rw [closeRtpServer]
  split <;> rfl

end World

def UrisFit (inviteConfig : InviteConfig) (device : CString) (row : Device) : Prop :=
  (uri inviteConfig.sipServerId inviteConfig.ip inviteConfig.port).length < 1024 ∧
    (uri device row.remoteIP row.remotePort).length < 1024

def Sendable (inviteConfig : InviteConfig) (device : CString) (row : Device)
    (outcome : InviteOutcome) : Prop :=
  UrisFit inviteConfig device row ∧ outcome.built ∧ 0 < outcome.callId

section Outcomes

variable {md5 : Md5} {config : SipServerConfig} {env : Environment} {inviteConfig : InviteConfig}
  {w : World} {device : CString} {rows : Rows} {row : Device} {rtpPort : UInt16} {reply : Reply}
  {outcome : InviteOutcome}

theorem sprintf_eq_ok {text written : CString} :
    sprintf text = .ok written ↔ text.length < 1024 ∧ written = text := by
  rw [sprintf]
  split
  · rename_i hfits
    exact ⟨fun h => ⟨hfits, (Except.ok.inj h).symm⟩, fun h => by rw [h.2]⟩
  · rename_i hlong
    exact iff_of_false nofun fun h => hlong h.1

theorem defined_makeInvite_iff :
    Defined (makeInvite inviteConfig device row rtpPort) ↔ UrisFit inviteConfig device row := by
  simp only [makeInvite, defined_bind, sprintf_eq_ok, defined_pure, and_true]
  constructor
  · rintro ⟨_, ⟨hfrom, _⟩, _, _, _, hto, _⟩
    exact ⟨hfrom, hto⟩
  · rintro ⟨hfrom, hto⟩
    exact ⟨_, ⟨hfrom, rfl⟩, _, ⟨hfrom, rfl⟩, _, hto, rfl⟩

theorem device_of_makeInvite {invite : Invite}
    (h : makeInvite inviteConfig device row rtpPort = .ok invite) : invite.device = device := by
  simp only [makeInvite, bind_eq_ok, pure_eq_ok] at h
  obtain ⟨_, _, _, _, _, _, rfl⟩ := h
  rfl

@[simp] theorem requestInvite_servers :
    (requestInvite md5 config env inviteConfig w device row rtpPort outcome).servers =
      w.servers := by
  rw [requestInvite]
  split
  · rfl
  · split
    · rw [World.handle_servers]
      split
      · rfl
      · rfl
    · rfl

theorem requestInvite_invites :
    (Sendable inviteConfig device row outcome ∧ ∃ invite, invite.device = device ∧
        (requestInvite md5 config env inviteConfig w device row rtpPort outcome).invites =
          invite :: w.invites) ∨
      (¬ Sendable inviteConfig device row outcome ∧
        (requestInvite md5 config env inviteConfig w device row rtpPort outcome).invites =
          w.invites) := by
  rw [requestInvite]
  cases hinvite : makeInvite inviteConfig device row rtpPort with
  | error fault =>
      refine Or.inr ⟨fun hsendable => ?_, rfl⟩
      obtain ⟨_, h⟩ := defined_makeInvite_iff.mpr hsendable.1
      rw [hinvite] at h
      contradiction
  | ok invite =>
      have hfits : UrisFit inviteConfig device row := defined_makeInvite_iff.mp ⟨invite, hinvite⟩
      dsimp only
      by_cases hbuilt : outcome.built
      · rw [if_pos hbuilt, World.handle_invites]
        by_cases hcallId : 0 < outcome.callId
        · rw [if_pos hcallId, World.send_invites]
          exact Or.inl ⟨⟨hfits, hbuilt, hcallId⟩, invite, device_of_makeInvite hinvite, rfl⟩
        · rw [if_neg hcallId]
          exact Or.inr ⟨fun h => hcallId h.2.2, rfl⟩
      · rw [if_neg hbuilt]
        exact Or.inr ⟨fun h => hbuilt h.2.1, rfl⟩

theorem lookup_eq_ok : lookup rows = .ok row ↔ rows = some [row] := by
  rw [lookup.eq_def]
  split
  · exact iff_of_false nofun nofun
  · rename_i found
    simp [eq_comm]
  · rename_i rows hrows
    refine iff_of_false nofun fun h => ?_
    obtain rfl := Option.some.inj h
    exact hrows row rfl

def Reply.port (reply : Reply) : Option UInt16 :=
  match reply.body with
  | some (.port value) => value
  | some .withoutPort | some .notJson | none => none

/-- A start that finds the device does what the media server did, and calls the device if
there is a port in the response. -/
theorem startStream_cases (hrow : rows = some [row]) :
    (∃ rtpPort, reply.port = some rtpPort ∧
        (startStream md5 config env inviteConfig w device rows reply outcome).1 =
          requestInvite md5 config env inviteConfig (w.openRtpServer device reply) device row
            rtpPort outcome) ∨
      (reply.port = none ∧
        (startStream md5 config env inviteConfig w device rows reply outcome).1.servers =
          (w.openRtpServer device reply).servers ∧
        (startStream md5 config env inviteConfig w device rows reply outcome).1.invites =
          w.invites) := by
  rw [startStream, lookup_eq_ok.mpr hrow, Reply.port]
  dsimp only
  cases reply.body with
  | none => exact Or.inr ⟨rfl, rfl, World.openRtpServer_invites device reply⟩
  | some body =>
      cases body with
      | notJson => exact Or.inr ⟨rfl, rfl, World.openRtpServer_invites device reply⟩
      | withoutPort => exact Or.inr ⟨rfl, rfl, World.openRtpServer_invites device reply⟩
      | port value =>
          cases value with
          | none => exact Or.inr ⟨rfl, rfl, World.openRtpServer_invites device reply⟩
          | some rtpPort => exact Or.inl ⟨rtpPort, rfl, rfl⟩

theorem stopStream_calls (w : World) (device : CString) (rows : Rows) (reply : Reply) :
    (stopStream w device rows reply).1.calls = w.calls := by
  rw [stopStream]
  split
  · rfl
  · split <;> simp

end Outcomes

section Sagas

variable (md5 : Md5) (config : SipServerConfig) (env : Environment) (inviteConfig : InviteConfig)

/-- An RTP server that a start has opened comes with an `INVITE` to the device or is
closed again; and a start for which everything goes well opens one and sends an
`INVITE`. -/
def StartAtomic (w : World) (device : CString) (rows : Rows) (reply : Reply)
    (outcome : InviteOutcome) : Prop :=
  ∀ row, rows = some [row] → reply.acted →
    let w' := (startStream md5 config env inviteConfig w device rows reply outcome).1
    (w'.invites ≠ w.invites ∨ device ∉ w'.servers) ∧
      (reply.port.isSome → Sendable inviteConfig device row outcome →
        device ∈ w'.servers ∧
          ∃ invite, invite.device = device ∧ w'.invites = invite :: w.invites)

/-- After a stop that the media server has answered with status 200 no call to the
device is up. -/
def StopAtomic (w : World) (device : CString) (rows : Rows) (reply : Reply) : Prop :=
  ∀ row, rows = some [row] → reply.body.isSome →
    ∀ call ∈ (stopStream w device rows reply).1.calls, call.device ≠ device

def Atomic (w : World) : Input → Prop
  | .startStream device rows reply outcome =>
      w.failed = none → StartAtomic md5 config env inviteConfig w device rows reply outcome
  | .stopStream device rows reply => w.failed = none → StopAtomic w device rows reply
  | .ended _ => True

/-- No outcome that has to be undone: an RTP server is opened only where the response
has a port and the `INVITE` can be sent, and a stop is answered only where no call to the
device is up. -/
def NothingToUndo (w : World) : Input → Prop
  | .startStream device rows reply outcome =>
      w.failed = none → ∀ row, rows = some [row] → reply.acted →
        reply.port.isSome ∧ Sendable inviteConfig device row outcome
  | .stopStream device rows reply =>
      w.failed = none → ∀ row, rows = some [row] → reply.body.isSome →
        ∀ call ∈ w.calls, call.device ≠ device
  | .ended _ => True

variable {md5 config env inviteConfig} {w : World} {device : CString} {rows : Rows} {row : Device}
  {reply : Reply} {outcome : InviteOutcome}

/-- What a start leaves behind at a media server that has opened an RTP server. -/
theorem startStream_opened (hrow : rows = some [row]) (hacted : reply.acted) :
    device ∈ (startStream md5 config env inviteConfig w device rows reply outcome).1.servers ∧
      ((reply.port.isSome ∧ Sendable inviteConfig device row outcome ∧
          ∃ invite, invite.device = device ∧
            (startStream md5 config env inviteConfig w device rows reply outcome).1.invites =
              invite :: w.invites) ∨
        (¬ (reply.port.isSome ∧ Sendable inviteConfig device row outcome) ∧
          (startStream md5 config env inviteConfig w device rows reply outcome).1.invites =
            w.invites)) := by
  have hopened : device ∈ (w.openRtpServer device reply).servers := World.mem_openRtpServer hacted
  rcases @startStream_cases md5 config env inviteConfig w device rows row reply outcome hrow with
    ⟨rtpPort, hport, hstart⟩ | ⟨hport, hservers, hinvites⟩
  · rw [hstart, requestInvite_servers, hport, Option.isSome_some,
      ← World.openRtpServer_invites (w := w) device reply]
    refine ⟨hopened, ?_⟩
    rcases @requestInvite_invites md5 config env inviteConfig (w.openRtpServer device reply) device
      row rtpPort outcome with ⟨hsendable, hinvites⟩ | ⟨hsendable, hinvites⟩
    · exact Or.inl ⟨rfl, hsendable, hinvites⟩
    · exact Or.inr ⟨fun h => hsendable h.2, hinvites⟩
  · rw [hservers, hinvites, hport]
    exact ⟨hopened, Or.inr ⟨fun h => absurd h.1 nofun, rfl⟩⟩

theorem startAtomic_iff :
    StartAtomic md5 config env inviteConfig w device rows reply outcome ↔
      ∀ row, rows = some [row] → reply.acted →
        reply.port.isSome ∧ Sendable inviteConfig device row outcome := by
  refine forall_congr' fun row => forall_congr' fun hrow => forall_congr' fun hacted => ?_
  obtain ⟨hopened, hinvites⟩ :=
    @startStream_opened md5 config env inviteConfig w device rows row reply outcome hrow hacted
  rcases hinvites with ⟨hport, hsendable, invite, hdevice, hinvites⟩ | ⟨hunsent, hinvites⟩
  · refine iff_of_true ⟨Or.inl ?_, fun _ _ => ⟨hopened, invite, hdevice, hinvites⟩⟩
      ⟨hport, hsendable⟩
    rw [hinvites]
    exact List.cons_ne_self invite w.invites
  · refine iff_of_false ?_ hunsent
    rintro ⟨hsent | hclosed, _⟩
    · exact hsent hinvites
    · exact hclosed hopened

theorem stopAtomic_iff :
    StopAtomic w device rows reply ↔
      ∀ row, rows = some [row] → reply.body.isSome → ∀ call ∈ w.calls, call.device ≠ device := by
  rw [StopAtomic, stopStream_calls]

theorem atomic_iff (input : Input) :
    Atomic md5 config env inviteConfig w input ↔ NothingToUndo inviteConfig w input := by
  cases input with
  | startStream device rows reply outcome => exact imp_congr_right fun _ => startAtomic_iff
  | stopStream device rows reply => exact imp_congr_right fun _ => stopAtomic_iff
  | ended callId => exact Iff.rfl

/-- In a run of starts and stops each is atomic exactly when each has nothing to undo. -/
theorem sagas_atomic_iff (md5 : Md5) (config : SipServerConfig) (env : Environment)
    (inviteConfig : InviteConfig) (w : World) (inputs : List Input) :
    Admitted (step md5 config env inviteConfig) (Atomic md5 config env inviteConfig) w inputs ↔
      Admitted (step md5 config env inviteConfig) (NothingToUndo inviteConfig) w inputs := by
  constructor
  · intro h
    exact h.mono fun _ input => (atomic_iff input).mp
  · intro h
    exact h.mono fun _ input => (atomic_iff input).mpr

end Sagas

def sampleInviteConfig : InviteConfig where
  sipServerId := ascii "41010500002000000001"
  ip := ascii "192.0.2.10"
  port := 15060
  sipTimeout := 1800

def sampleDevice : CString := ascii "41010500001320000001"

def sampleRow : Device where
  remoteIP := ascii "192.0.2.1"
  remotePort := 5060

/-- A stream is started, and stopped again, and every request and every call goes well. -/
def startedAndStopped : List Input :=
  [.startStream sampleDevice (some [sampleRow]) ⟨true, some (.port (some 20000))⟩
      ⟨true, 1, none⟩,
    .stopStream sampleDevice (some [sampleRow]) ⟨true, some .withoutPort⟩]

theorem not_sagas_atomic :
    ¬ ∃ md5 config env, ∀ inputs,
      Admitted (step md5 config env sampleInviteConfig)
        (Atomic md5 config env sampleInviteConfig) ⟨⟨∅, []⟩, [], [], [], none⟩ inputs := by
  rintro ⟨md5, config, env, hclaim⟩
  have hstop := hclaim startedAndStopped [_] _ [] rfl
  have hcall := hstop rfl sampleRow rfl rfl ⟨1, sampleDevice⟩ List.mem_cons_self
  exact hcall rfl

end GBServer.StreamService
