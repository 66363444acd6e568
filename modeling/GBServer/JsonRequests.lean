import GBServer.MediaService
import Mathlib.Data.Rat.Floor

namespace GBServer.JsonRequests

open Foundation.CStrings
open Foundation.Memory

inductive JsonValue where
  | null
  | bool (value : Bool)
  | int (value : Int)
  | real (value : Rat)
  | string (value : CString)
  | array (values : List JsonValue)
  | object (members : List (CString × JsonValue))

/-- `parse` is none where the text is not JSON.  It can throw, on a text that is nested
too deeply.  A null counts as an object without members, or not. -/
structure JsonCpp where
  parse : CString → Except Fault (Option JsonValue)
  nullIsObject : Bool
  realText : Rat → CString

namespace JsonCpp

variable (json : JsonCpp)

/-- What `isMember` and `operator[]` look up in. -/
def members : JsonValue → Except Fault (List (CString × JsonValue))
  | .object members => .ok members
  | .null => if json.nullIsObject then .ok [] else .error .uncaughtException
  | _ => .error .uncaughtException

def isMember (root : JsonValue) (key : CString) : Except Fault Bool := do
  let members ← json.members root
  return (members.lookup key).isSome

/-- `operator[]`: null for a key that is not there. -/
def member (root : JsonValue) (key : CString) : Except Fault JsonValue := do
  let members ← json.members root
  return (members.lookup key).getD .null

def maxUInt : Nat := 0xFFFFFFFF

def asUInt : JsonValue → Except Fault Nat
  | .null => .ok 0
  | .bool value => .ok value.toNat
  | .int value =>
      if 0 ≤ value ∧ value ≤ maxUInt then .ok value.toNat else .error .uncaughtException
  | .real value =>
      if 0 ≤ value ∧ value ≤ maxUInt then .ok ⌊value⌋.toNat else .error .uncaughtException
  | .string _ | .array _ | .object _ => .error .uncaughtException

def asString : JsonValue → Except Fault CString
  | .null => .ok []
  | .bool value => .ok (ascii (if value then "true" else "false"))
  | .int value => .ok (ascii (toString value))
  | .real value => .ok (json.realText value)
  | .string value => .ok value
  | .array _ | .object _ => .error .uncaughtException

/-- The part of a handler that takes the body apart.  A packet need not be there. -/
def readBody {Body : Type} (packet : Option CString) (malformed : Body)
    (read : JsonValue → Except Fault Body) : Except Fault Body := do
  let data ← deref packet
  match ← json.parse data with
  | none => return malformed
  | some root => read root

def readOffer (root : JsonValue) : Except Fault OfferBody := do
  if ← json.isMember root (ascii "streamurl") then
    if ← json.isMember root (ascii "sdp") then
      let streamurl ← json.member root (ascii "streamurl")
      let streamurl ← json.asString streamurl
      let sdp ← json.member root (ascii "sdp")
      let sdp ← json.asString sdp
      return .offer streamurl sdp
    else return .incomplete
  else return .incomplete

/-- The port is only logged. -/
def readOpenRtpServer (root : JsonValue) : Except Fault RtpServerBody := do
  let port ← json.member root (ascii "port")
  let _ ← asUInt port
  let tcpMode ← json.member root (ascii "tcpmode")
  let tcpMode ← asUInt tcpMode
  let streamId ← json.member root (ascii "streamid")
  let streamId ← json.asString streamId
  return .request tcpMode streamId

def readCloseRtpServer (root : JsonValue) : Except Fault RtpServerBody := do
  let streamId ← json.member root (ascii "streamid")
  let streamId ← json.asString streamId
  return .request 0 streamId

def offerBody (packet : Option CString) : Except Fault OfferBody :=
  json.readBody packet .malformed json.readOffer

def openRtpServerBody (packet : Option CString) : Except Fault RtpServerBody :=
  json.readBody packet .malformed json.readOpenRtpServer

def closeRtpServerBody (packet : Option CString) : Except Fault RtpServerBody :=
  json.readBody packet .malformed json.readCloseRtpServer

end JsonCpp

def ObjectLike (json : JsonCpp) : JsonValue → Prop
  | .object _ => True
  | .null => json.nullIsObject
  | _ => False

def fields : JsonValue → List (CString × JsonValue)
  | .object members => members
  | _ => []

def field (root : JsonValue) (key : CString) : JsonValue := ((fields root).lookup key).getD .null

def hasField (root : JsonValue) (key : CString) : Bool := ((fields root).lookup key).isSome

def IsUInt : JsonValue → Prop
  | .null | .bool _ => True
  | .int value => 0 ≤ value ∧ value ≤ JsonCpp.maxUInt
  | .real value => 0 ≤ value ∧ value ≤ JsonCpp.maxUInt
  | .string _ | .array _ | .object _ => False

def IsText : JsonValue → Prop
  | .array _ | .object _ => False
  | _ => True

/-- A body that is there and is not JSON, or whose root is as required. -/
def BodyReadable (json : JsonCpp) (packet : Option CString) (P : JsonValue → Prop) : Prop :=
  ∃ data, packet = some data ∧ ∃ parsed, json.parse data = .ok parsed ∧
    ∀ root, parsed = some root → P root

structure OfferReadable (json : JsonCpp) (root : JsonValue) : Prop where
  object : ObjectLike json root
  texts : hasField root (ascii "streamurl") → hasField root (ascii "sdp") →
    IsText (field root (ascii "streamurl")) ∧ IsText (field root (ascii "sdp"))

structure OpenReadable (json : JsonCpp) (root : JsonValue) : Prop where
  object : ObjectLike json root
  port : IsUInt (field root (ascii "port"))
  tcpMode : IsUInt (field root (ascii "tcpmode"))
  streamId : IsText (field root (ascii "streamid"))

variable {json : JsonCpp} {root value : JsonValue} {key : CString} {packet : Option CString}

theorem members_eq_ok {members : List (CString × JsonValue)} :
    json.members root = .ok members ↔ ObjectLike json root ∧ members = fields root := by
  cases root with
  | object found => simp [JsonCpp.members, ObjectLike, fields, eq_comm]
  | null =>
      cases hnull : json.nullIsObject with
      | true => simp [JsonCpp.members, ObjectLike, fields, hnull, eq_comm]
      | false => simp [JsonCpp.members, ObjectLike, hnull]
  | bool _ | int _ | real _ | string _ | array _ => simp [JsonCpp.members, ObjectLike]

theorem isMember_eq_ok {found : Bool} :
    json.isMember root key = .ok found ↔
      ObjectLike json root ∧ found = hasField root key := by
  simp only [JsonCpp.isMember, bind_eq_ok, members_eq_ok, pure_eq_ok]
  constructor
  · rintro ⟨_, ⟨hobject, rfl⟩, rfl⟩
    exact ⟨hobject, rfl⟩
  · rintro ⟨hobject, rfl⟩
    exact ⟨_, ⟨hobject, rfl⟩, rfl⟩

theorem member_eq_ok : json.member root key = .ok value ↔
    ObjectLike json root ∧ value = field root key := by
  simp only [JsonCpp.member, bind_eq_ok, members_eq_ok, pure_eq_ok]
  constructor
  · rintro ⟨_, ⟨hobject, rfl⟩, rfl⟩
    exact ⟨hobject, rfl⟩
  · rintro ⟨hobject, rfl⟩
    exact ⟨_, ⟨hobject, rfl⟩, rfl⟩

theorem defined_asUInt_iff : Defined (JsonCpp.asUInt value) ↔ IsUInt value := by
  cases value with
  | null | bool _ => exact iff_of_true (defined_ok _) trivial
  | string _ | array _ | object _ => exact iff_of_false (not_defined_error _) id
  | int n =>
      rw [JsonCpp.asUInt, IsUInt]
      split
      · rename_i hrange
        exact iff_of_true (defined_ok _) hrange
      · rename_i hrange
        exact iff_of_false (not_defined_error _) hrange
  | real n =>
      rw [JsonCpp.asUInt, IsUInt]
      split
      · rename_i hrange
        exact iff_of_true (defined_ok _) hrange
      · rename_i hrange
        exact iff_of_false (not_defined_error _) hrange

theorem defined_asString_iff : Defined (json.asString value) ↔ IsText value := by
  cases value with
  | null | bool _ | int _ | real _ | string _ => exact iff_of_true (defined_ok _) trivial
  | array _ | object _ => exact iff_of_false (not_defined_error _) id

/-- A body is read to something good exactly when it is not JSON or its root is. -/
theorem exists_readBody_iff {Body : Type} {malformed : Body}
    {read : JsonValue → Except Fault Body} {Good : Body → Prop} {P : JsonValue → Prop}
    (hmalformed : Good malformed)
    (hread : ∀ root, (∃ body, read root = .ok body ∧ Good body) ↔ P root) :
    (∃ body, json.readBody packet malformed read = .ok body ∧ Good body) ↔
      BodyReadable json packet P := by
  simp only [JsonCpp.readBody, bind_eq_ok, deref_eq_ok]
  constructor
  · rintro ⟨body, ⟨data, hdata, parsed, hparsed, hbody⟩, hgood⟩
    refine ⟨data, hdata, parsed, hparsed, ?_⟩
    rintro root rfl
    exact (hread root).mp ⟨body, hbody, hgood⟩
  · rintro ⟨data, hdata, parsed, hparsed, hroot⟩
    cases parsed with
    | none => exact ⟨malformed, ⟨data, hdata, none, hparsed, rfl⟩, hmalformed⟩
    | some root =>
        obtain ⟨body, hbody, hgood⟩ := (hread root).mpr (hroot root rfl)
        exact ⟨body, ⟨data, hdata, some root, hparsed, hbody⟩, hgood⟩

theorem defined_readBody_iff {Body : Type} {malformed : Body}
    {read : JsonValue → Except Fault Body} {P : JsonValue → Prop}
    (hread : ∀ root, Defined (read root) ↔ P root) :
    Defined (json.readBody packet malformed read) ↔ BodyReadable json packet P := by
  have hiff : (∃ body, json.readBody packet malformed read = .ok body ∧ True) ↔
      BodyReadable json packet P := by
    apply exists_readBody_iff trivial
    simpa only [and_true, Defined] using hread
  simpa only [and_true, Defined] using hiff

theorem defined_readOffer_iff : Defined (json.readOffer root) ↔ OfferReadable json root := by
  simp only [JsonCpp.readOffer, defined_bind, isMember_eq_ok]
  constructor
  · rintro ⟨_, ⟨hobject, rfl⟩, h⟩
    refine ⟨hobject, ?_⟩
    intro hstreamurl hsdp
    rw [if_pos hstreamurl] at h
    simp only [defined_bind, isMember_eq_ok] at h
    obtain ⟨_, ⟨_, rfl⟩, h⟩ := h
    rw [if_pos hsdp] at h
    simp only [defined_bind, member_eq_ok] at h
    obtain ⟨_, ⟨_, rfl⟩, _, hurl, _, ⟨_, rfl⟩, _, htext, _⟩ := h
    exact ⟨defined_asString_iff.mp ⟨_, hurl⟩, defined_asString_iff.mp ⟨_, htext⟩⟩
  · rintro ⟨hobject, htexts⟩
    refine ⟨_, ⟨hobject, rfl⟩, ?_⟩
    split
    · rename_i hstreamurl
      simp only [defined_bind, isMember_eq_ok]
      refine ⟨_, ⟨hobject, rfl⟩, ?_⟩
      split
      · rename_i hsdp
        obtain ⟨hurl, htext⟩ := htexts hstreamurl hsdp
        obtain ⟨_, hurl⟩ := defined_asString_iff.mpr hurl
        obtain ⟨_, htext⟩ := defined_asString_iff.mpr htext
        simp only [defined_bind, member_eq_ok]
        exact ⟨_, ⟨hobject, rfl⟩, _, hurl, _, ⟨hobject, rfl⟩, _, htext, defined_pure _⟩
      · exact defined_pure _
    · exact defined_pure _

theorem defined_readOpenRtpServer_iff :
    Defined (json.readOpenRtpServer root) ↔ OpenReadable json root := by
  simp only [JsonCpp.readOpenRtpServer, defined_bind, member_eq_ok]
  constructor
  · rintro ⟨_, ⟨hobject, rfl⟩, _, hport, _, ⟨_, rfl⟩, _, htcpMode, _, ⟨_, rfl⟩, _, hstreamId, _⟩
    exact ⟨hobject, defined_asUInt_iff.mp ⟨_, hport⟩, defined_asUInt_iff.mp ⟨_, htcpMode⟩,
      defined_asString_iff.mp ⟨_, hstreamId⟩⟩
  · rintro ⟨hobject, hport, htcpMode, hstreamId⟩
    obtain ⟨_, hport⟩ := defined_asUInt_iff.mpr hport
    obtain ⟨_, htcpMode⟩ := defined_asUInt_iff.mpr htcpMode
    obtain ⟨_, hstreamId⟩ := defined_asString_iff.mpr hstreamId
    exact ⟨_, ⟨hobject, rfl⟩, _, hport, _, ⟨hobject, rfl⟩, _, htcpMode, _, ⟨hobject, rfl⟩, _,
      hstreamId, defined_pure _⟩

theorem readCloseRtpServer_eq_ok {body : RtpServerBody} :
    json.readCloseRtpServer root = .ok body ↔ ∃ streamId, ObjectLike json root ∧
      json.asString (field root (ascii "streamid")) = .ok streamId ∧
      body = .request 0 streamId := by
  simp only [JsonCpp.readCloseRtpServer, bind_eq_ok, member_eq_ok, pure_eq_ok]
  constructor
  · rintro ⟨_, ⟨hobject, rfl⟩, streamId, hstreamId, rfl⟩
    exact ⟨streamId, hobject, hstreamId, rfl⟩
  · rintro ⟨streamId, hobject, hstreamId, rfl⟩
    exact ⟨_, ⟨hobject, rfl⟩, streamId, hstreamId, rfl⟩

theorem defined_offerBody_iff :
    Defined (json.offerBody packet) ↔ BodyReadable json packet (OfferReadable json) :=
  defined_readBody_iff fun _ => defined_readOffer_iff

theorem defined_openRtpServerBody_iff :
    Defined (json.openRtpServerBody packet) ↔ BodyReadable json packet (OpenReadable json) :=
  defined_readBody_iff fun _ => defined_readOpenRtpServer_iff

end GBServer.JsonRequests
