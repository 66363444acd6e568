import GBServer.HttpDigest
import Std.Data.ExtTreeMap
import Std.Data.ExtTreeMap.Lemmas

namespace GBServer.SipRegistration

open Foundation.CStrings
open Foundation.Memory
open GBServer.HttpDigest
open Std (ExtTreeMap)

def quote : UInt8 := 0x22

/-- `osip_strdup_without_quote`.  A string of one quote is written in front of. -/
def osipStrdupWithoutQuote (ch : CString) : Except Fault CString :=
  match ch with
  | [] => .ok []
  | byte :: rest =>
      if byte = quote then
        if rest = [] then .error .outOfBounds else .ok rest.dropLast
      else .ok (byte :: rest)

def osipEnquote (s : CString) : CString :=
  let escaped := s.flatMap fun byte : UInt8 =>
    if byte = quote ∨ byte = 0x5C ∨ byte = 0x7F then [0x5C, byte]
    else if byte = 0x0A ∨ byte = 0x0D then [0x20]
    else [byte]
  quote :: escaped ++ [quote]

/-- The fields of `osip_authorization` that matter to a digest. -/
structure Authorization where
  username : Option CString := none
  realm : Option CString := none
  nonce : Option CString := none
  uri : Option CString := none
  response : Option CString := none
  algorithm : Option CString := none
  cnonce : Option CString := none
  messageQop : Option CString := none
  nonceCount : Option CString := none
  deriving DecidableEq, Repr

structure Url where
  host : Option CString
  port : Option CString
  deriving DecidableEq, Repr

structure Contact where
  url : Option Url
  deriving DecidableEq, Repr

structure Request where
  sipMethod : CString
  authorizations : List Authorization
  contacts : List Contact
  deriving DecidableEq, Repr

structure SipServerConfig where
  nonce : CString
  sipServerRealm : CString
  sipSeverPass : CString
  deriving DecidableEq, Repr

structure SipClient where
  ip : CString
  port : UInt16
  device : CString
  deriving DecidableEq, Repr

structure DeviceDto where
  deviceID : CString
  updatedAt : Int
  createdAt : Int
  remoteIP : CString
  remotePort : UInt16
  online : Nat
  deriving DecidableEq, Repr

/-- The clients, and the rows handed to `device_db_`. -/
structure SipServer where
  clientMap : ExtTreeMap CString SipClient
  devices : List DeviceDto

inductive Answer where
  | message (code : Nat)
  | unauthorized (realm nonce : CString)
  deriving DecidableEq, Repr

def sipStrdup : Option CString → Except Fault (Option CString)
  | none => .ok none
  | some field => some <$> osipStrdupWithoutQuote field

/-- The fields that `response_register` copies, without their quotes. -/
def Authorization.strdup (auth : Authorization) : Except Fault Authorization := do
  let algorithm ← sipStrdup auth.algorithm
  let username ← sipStrdup auth.username
  let realm ← sipStrdup auth.realm
  let nonce ← sipStrdup auth.nonce
  let nonceCount ← sipStrdup auth.nonceCount
  let uri ← sipStrdup auth.uri
  return { auth with
    algorithm := algorithm, username := username, realm := realm, nonce := nonce,
    nonceCount := nonceCount, uri := uri }

/-- `HASHHEX HA2 = ""`. -/
def emptyHashHex : CString := List.replicate 32 0

def headerDigest (md5 : Md5) (config : SipServerConfig) (auth : Authorization)
    (method : CString) : Except Fault CString := do
  let ha1 ← digestCalcHA1 md5 auth.algorithm auth.username auth.realm
    (some config.sipSeverPass) auth.nonce auth.nonceCount
  digestCalcResponse md5 ha1 auth.nonce auth.nonceCount auth.cnonce auth.messageQop 0
    (some method) auth.uri (some emptyHashHex)

/-- The digest over the realm and the nonce of the server, without a quality of
protection.  `"REGISTER"` is passed for the algorithm. -/
def challengeDigest (md5 : Md5) (config : SipServerConfig) (auth : Authorization)
    (method : CString) : Except Fault CString := do
  let ha1 ← digestCalcHA1 md5 (some (ascii "REGISTER")) auth.username
    (some config.sipServerRealm) (some config.sipSeverPass) (some config.nonce) none
  digestCalcResponse md5 ha1 (some config.nonce) none none none 0 (some method) auth.uri none

def sipClient (request : Request) (auth : Authorization) : Except Fault SipClient := do
  let contact ← deref request.contacts.head?
  let url ← deref contact.url
  let host ← deref url.host
  let port ← deref url.port
  let username ← deref auth.username
  return { ip := host, port := UInt16.ofInt (atoi port), device := username }

def SipServer.register (s : SipServer) (now : Int) (client : SipClient) : SipServer where
  clientMap := s.clientMap.insertIfNew client.device client
  devices := s.devices ++
    [{ deviceID := client.device, updatedAt := now, createdAt := now, remoteIP := client.ip,
       remotePort := client.port, online := 1 }]

def answerAuthorization (md5 : Md5) (config : SipServerConfig) (now : Int) (s : SipServer)
    (request : Request) (auth : Authorization) : Except Fault (SipServer × Answer) := do
  let own ← auth.strdup
  let response ← headerDigest md5 config own request.sipMethod
  let calcResponse ← challengeDigest md5 config own request.sipMethod
  let client ← sipClient request own
  if calcResponse = response then return (s.register now client, .message 200)
  else return (s, .message 401)

def challenge (config : SipServerConfig) : Answer :=
  .unauthorized (osipEnquote config.sipServerRealm) (osipEnquote config.nonce)

def responseRegister (md5 : Md5) (config : SipServerConfig) (now : Int) (s : SipServer)
    (request : Request) : Except Fault (SipServer × Answer) :=
  match request.authorizations.head? with
  | some auth =>
      if auth.username.isSome then answerAuthorization md5 config now s request auth
      else return (s, challenge config)
  | none => return (s, challenge config)

def Accepted (md5 : Md5) (config : SipServerConfig) (now : Int) (s : SipServer)
    (request : Request) : Prop :=
  ∃ s' auth own device, responseRegister md5 config now s request = .ok (s', .message 200) ∧
    request.authorizations.head? = some auth ∧ auth.strdup = .ok own ∧
    own.username = some device ∧ device ∈ s'.clientMap

/-- The digest of the header's own parameters, with realm and nonce those of the
server. -/
def expectedResponse (md5 : Md5) (config : SipServerConfig) (auth : Authorization)
    (method : CString) : Except Fault CString := do
  let own ← { auth with realm := none, nonce := none }.strdup
  headerDigest md5 config
    { own with realm := some config.sipServerRealm, nonce := some config.nonce } method

/-- The client knows the digest that the password gives. -/
def ResponseCorrect (md5 : Md5) (config : SipServerConfig) (request : Request) : Prop :=
  ∃ auth field response, request.authorizations.head? = some auth ∧
    auth.response = some field ∧ osipStrdupWithoutQuote field = .ok response ∧
    expectedResponse md5 config auth request.sipMethod = .ok response

def registering (request : Request) (auth : Authorization) (username response : CString) :
    Request :=
  { request with
    authorizations :=
      { auth with username := some username, response := some response } ::
        request.authorizations.tail }

def unquote : CString → CString
  | [] => []
  | byte :: rest => if byte = quote then rest.dropLast else byte :: rest

theorem osipStrdupWithoutQuote_eq_ok {ch copy : CString} :
    osipStrdupWithoutQuote ch = .ok copy ↔ ch ≠ [quote] ∧ copy = unquote ch := by
  rw [osipStrdupWithoutQuote.eq_def, unquote.eq_def]
  split
  · simp [eq_comm]
  · split
    · rename_i byte rest hquote
      subst hquote
      split
      · rename_i hempty
        simp [hempty]
      · rename_i hrest
        simp [hrest, eq_comm]
    · rename_i hquote
      simp [hquote, eq_comm]

theorem sipStrdup_eq_ok {field copy : Option CString} :
    sipStrdup field = .ok copy ↔ field ≠ some [quote] ∧ copy = field.map unquote := by
  cases field with
  | none => simp [sipStrdup, eq_comm]
  | some ch =>
      have hmap : sipStrdup (some ch) = osipStrdupWithoutQuote ch >>= fun s => pure (some s) := by
        rw [sipStrdup, map_eq_pure_bind]
      rw [hmap, bind_eq_ok]
      simp only [osipStrdupWithoutQuote_eq_ok, pure_eq_ok, Option.map_some, ne_eq,
        Option.some.injEq]
      constructor
      · rintro ⟨_, ⟨hne, rfl⟩, rfl⟩
        exact ⟨hne, rfl⟩
      · rintro ⟨hne, rfl⟩
        exact ⟨_, ⟨hne, rfl⟩, rfl⟩

namespace Authorization

structure NoLoneQuote (auth : Authorization) : Prop where
  algorithm : auth.algorithm ≠ some [quote]
  username : auth.username ≠ some [quote]
  realm : auth.realm ≠ some [quote]
  nonce : auth.nonce ≠ some [quote]
  nonceCount : auth.nonceCount ≠ some [quote]
  uri : auth.uri ≠ some [quote]

def unquoted (auth : Authorization) : Authorization :=
  { auth with
    algorithm := auth.algorithm.map unquote
    username := auth.username.map unquote
    realm := auth.realm.map unquote
    nonce := auth.nonce.map unquote
    nonceCount := auth.nonceCount.map unquote
    uri := auth.uri.map unquote }

theorem strdup_eq_ok {auth own : Authorization} :
    auth.strdup = .ok own ↔ auth.NoLoneQuote ∧ own = auth.unquoted := by
  simp only [strdup, bind_eq_ok, sipStrdup_eq_ok, pure_eq_ok]
  constructor
  · rintro ⟨_, ⟨h₁, rfl⟩, _, ⟨h₂, rfl⟩, _, ⟨h₃, rfl⟩, _, ⟨h₄, rfl⟩, _, ⟨h₅, rfl⟩, _, ⟨h₆, rfl⟩,
      rfl⟩
    exact ⟨⟨h₁, h₂, h₃, h₄, h₅, h₆⟩, rfl⟩
  · rintro ⟨⟨h₁, h₂, h₃, h₄, h₅, h₆⟩, rfl⟩
    exact ⟨_, ⟨h₁, rfl⟩, _, ⟨h₂, rfl⟩, _, ⟨h₃, rfl⟩, _, ⟨h₄, rfl⟩, _, ⟨h₅, rfl⟩, _, ⟨h₆, rfl⟩, rfl⟩

end Authorization

/-- The parameters that the digest of a header needs besides realm and nonce. -/
structure HasDigestParameters (auth : Authorization) : Prop where
  algorithm : auth.algorithm ≠ some [quote]
  username : auth.username ≠ some [quote]
  nonceCount : auth.nonceCount ≠ some [quote]
  uri : auth.uri ≠ some [quote]
  uri_given : auth.uri.isSome
  session : isMd5Sess (auth.algorithm.map unquote) → auth.nonceCount.isSome
  protection : qopBranch auth.messageQop ≠ .withoutQop →
    auth.nonceCount.isSome ∧ auth.cnonce.isSome

theorem defined_headerDigest_iff {md5 : Md5} {config : SipServerConfig} {own : Authorization}
    {method : CString} :
    Defined (headerDigest md5 config own method) ↔
      own.username.isSome ∧ own.realm.isSome ∧ own.nonce.isSome ∧ own.uri.isSome ∧
        (isMd5Sess own.algorithm → own.nonceCount.isSome) ∧
        (qopBranch own.messageQop ≠ .withoutQop →
          own.nonceCount.isSome ∧ own.cnonce.isSome) := by
  rw [headerDigest, defined_bind_of_forall fun _ => defined_digestCalcResponse_iff rfl rfl,
    defined_digestCalcHA1_iff]
  simp only [Option.isSome_some, true_and]
  constructor
  · rintro ⟨⟨husername, hrealm, hsession⟩, huri, hnonce, hprotection⟩
    exact ⟨husername, hrealm, hnonce, huri, fun h => (hsession h).2, hprotection⟩
  · rintro ⟨husername, hrealm, hnonce, huri, hsession, hprotection⟩
    exact ⟨⟨husername, hrealm, fun h => ⟨hnonce, hsession h⟩⟩, huri, hnonce, hprotection⟩

theorem defined_expectedResponse_iff {md5 : Md5} {config : SipServerConfig}
    {auth : Authorization} {method : CString} (husername : auth.username.isSome) :
    Defined (expectedResponse md5 config auth method) ↔ HasDigestParameters auth := by
  simp only [expectedResponse, defined_bind, Authorization.strdup_eq_ok, defined_headerDigest_iff]
  constructor
  · rintro ⟨_, ⟨hquotes, rfl⟩, _, _, _, huri, hsession, hprotection⟩
    simp only [Authorization.unquoted, Option.isSome_map] at huri hsession hprotection
    exact ⟨hquotes.algorithm, hquotes.username, hquotes.nonceCount, hquotes.uri, huri, hsession,
      hprotection⟩
  · intro h
    refine ⟨_, ⟨⟨h.algorithm, h.username, nofun, nofun, h.nonceCount, h.uri⟩, rfl⟩, ?_⟩
    simp only [Authorization.unquoted, Option.isSome_map]
    exact ⟨husername, rfl, rfl, h.uri_given, h.session, h.protection⟩

theorem hasDigestParameters_of_headerDigest {md5 : Md5} {config : SipServerConfig}
    {auth own : Authorization} {method : CString} (hown : auth.strdup = .ok own)
    (h : Defined (headerDigest md5 config own method)) : HasDigestParameters auth := by
  obtain ⟨hquotes, rfl⟩ := Authorization.strdup_eq_ok.mp hown
  obtain ⟨_, _, _, huri, hsession, hprotection⟩ := defined_headerDigest_iff.mp h
  simp only [Authorization.unquoted, Option.isSome_map] at huri hsession hprotection
  exact ⟨hquotes.algorithm, hquotes.username, hquotes.nonceCount, hquotes.uri, huri, hsession,
    hprotection⟩

/-- The two digests that `response_register` compares agree: the header repeats the
challenge of the server. -/
def EchoesChallenge (md5 : Md5) (config : SipServerConfig) (request : Request) : Prop :=
  ∃ auth own digest, request.authorizations.head? = some auth ∧ auth.username.isSome ∧
    auth.strdup = .ok own ∧ headerDigest md5 config own request.sipMethod = .ok digest ∧
    challengeDigest md5 config own request.sipMethod = .ok digest ∧
    Defined (sipClient request own)

theorem sipClient_device {request : Request} {own : Authorization} {client : SipClient}
    (h : sipClient request own = .ok client) : own.username = some client.device := by
  simp only [sipClient, bind_eq_ok, deref_eq_ok, pure_eq_ok] at h
  obtain ⟨_, _, _, _, _, _, _, _, username, husername, rfl⟩ := h
  exact husername

theorem mem_clientMap_register (s : SipServer) (now : Int) (client : SipClient) :
    client.device ∈ (s.register now client).clientMap :=
  ExtTreeMap.mem_insertIfNew.mpr (Or.inl Std.ReflCmp.compare_self)

variable {md5 : Md5} {config : SipServerConfig} {now : Int} {s : SipServer} {request : Request}

theorem accepted_iff : Accepted md5 config now s request ↔ EchoesChallenge md5 config request := by
  constructor
  · rintro ⟨s', auth, own, device, hanswer, hauth, hown, _, _⟩
    rw [responseRegister, hauth] at hanswer
    dsimp only at hanswer
    split at hanswer
    · rename_i husername
      simp only [answerAuthorization, bind_eq_ok] at hanswer
      obtain ⟨own', hown', response, hresponse, temp, htemp, client, hclient,
        hanswer⟩ := hanswer
      obtain rfl : own' = own := Except.ok.inj (hown'.symm.trans hown)
      split at hanswer
      · rename_i hagree
        exact ⟨auth, own', response, hauth, husername, hown, hresponse, hagree ▸ htemp, client,
          hclient⟩
      · simp [pure_eq_ok] at hanswer
    · simp [pure_eq_ok, challenge] at hanswer
  · rintro ⟨auth, own, digest, hauth, husername, hown, hresponse, hcalc, client, hclient⟩
    refine ⟨s.register now client, auth, own, client.device, ?_, hauth, hown,
      sipClient_device hclient, mem_clientMap_register s now client⟩
    rw [responseRegister, hauth]
    dsimp only
    rw [if_pos husername]
    simp only [answerAuthorization, bind_eq_ok]
    exact ⟨own, hown, digest, hresponse, digest, hcalc, client, hclient, if_pos rfl⟩

theorem echoesChallenge_registering_congr {auth : Authorization} {username : CString}
    (response response' : CString)
    (h : EchoesChallenge md5 config (registering request auth username response)) :
    EchoesChallenge md5 config (registering request auth username response') := by
  obtain ⟨_, own, digest, hauth, _, hown, hheader, hchallenge, hclient⟩ := h
  obtain rfl := Option.some.inj hauth
  obtain ⟨hquotes, rfl⟩ := Authorization.strdup_eq_ok.mp hown
  exact ⟨_, _, digest, rfl, rfl,
    Authorization.strdup_eq_ok.mpr ⟨⟨hquotes.algorithm, hquotes.username, hquotes.realm,
      hquotes.nonce, hquotes.nonceCount, hquotes.uri⟩, rfl⟩, hheader, hchallenge, hclient⟩

theorem hasDigestParameters_of_echoesChallenge {auth : Authorization}
    {username response : CString}
    (h : EchoesChallenge md5 config (registering request auth username response)) :
    HasDigestParameters { auth with username := some username } := by
  obtain ⟨_, own, digest, hauth, _, hown, hheader, _⟩ := h
  obtain rfl := Option.some.inj hauth
  obtain ⟨h₁, h₂, h₃, h₄, h₅, h₆, h₇⟩ := hasDigestParameters_of_headerDigest hown ⟨digest, hheader⟩
  exact ⟨h₁, h₂, h₃, h₄, h₅, h₆, h₇⟩

theorem expectedResponse_of_response {auth : Authorization} {method digest : CString}
    (field : Option CString) (h : expectedResponse md5 config auth method = .ok digest) :
    expectedResponse md5 config { auth with response := field } method = .ok digest := by
  simp only [expectedResponse, bind_eq_ok, Authorization.strdup_eq_ok] at h ⊢
  obtain ⟨_, ⟨hquotes, rfl⟩, hdigest⟩ := h
  exact ⟨_, ⟨⟨hquotes.algorithm, hquotes.username, hquotes.realm, hquotes.nonce,
    hquotes.nonceCount, hquotes.uri⟩, rfl⟩, hdigest⟩

theorem responseCorrect_registering_iff {auth : Authorization} {username field : CString} :
    ResponseCorrect md5 config (registering request auth username field) ↔
      ∃ response, osipStrdupWithoutQuote field = .ok response ∧
        expectedResponse md5 config { auth with username := some username } request.sipMethod =
          .ok response := by
  constructor
  · rintro ⟨_, _, response, hauth, hfield, hresponse, hexpected⟩
    obtain rfl := Option.some.inj hauth
    obtain rfl := Option.some.inj hfield
    exact ⟨response, hresponse, expectedResponse_of_response auth.response hexpected⟩
  · rintro ⟨response, hresponse, hexpected⟩
    exact ⟨_, field, response, rfl, rfl, hresponse,
      expectedResponse_of_response (some field) hexpected⟩

theorem osipStrdupWithoutQuote_quoted (s : CString) :
    osipStrdupWithoutQuote (quote :: s ++ [quote]) = .ok s := by
  rw [osipStrdupWithoutQuote_eq_ok, List.cons_append, unquote, if_pos rfl, List.dropLast_concat]
  exact ⟨by simp, rfl⟩

theorem exists_responses (md5 : Md5) (config : SipServerConfig) (request : Request)
    {auth : Authorization} {username : CString}
    (h : HasDigestParameters { auth with username := some username }) :
    ∃ right wrong, ResponseCorrect md5 config (registering request auth username right) ∧
      ¬ ResponseCorrect md5 config (registering request auth username wrong) := by
  have hdefined : Defined (expectedResponse md5 config { auth with username := some username }
      request.sipMethod) := (defined_expectedResponse_iff rfl).mpr h
  obtain ⟨digest, hdigest⟩ := hdefined
  refine ⟨quote :: digest ++ [quote], quote :: (0x30 :: digest) ++ [quote], ?_, ?_⟩
  · rw [responseCorrect_registering_iff]
    exact ⟨digest, osipStrdupWithoutQuote_quoted digest, hdigest⟩
  · rw [responseCorrect_registering_iff, osipStrdupWithoutQuote_quoted]
    rintro ⟨response, hresponse, hexpected⟩
    obtain rfl := Except.ok.inj hresponse
    have heq := Except.ok.inj (hexpected.symm.trans hdigest)
    exact List.cons_ne_self _ _ heq

theorem not_responseCorrect_of_missing {auth : Authorization} {username response : CString}
    (h : ¬ HasDigestParameters { auth with username := some username }) :
    ¬ ResponseCorrect md5 config (registering request auth username response) := by
  rw [responseCorrect_registering_iff]
  rintro ⟨digest, _, hdigest⟩
  exact h ((defined_expectedResponse_iff rfl).mp ⟨digest, hdigest⟩)

/-- For one `REGISTER` the answer is right exactly when the header repeats the
challenge and the response is right, or neither.  For all responses to one header it
is right exactly when the header lacks a parameter, so that no response is right.
Two responses to one header are both accepted whenever the header repeats the
challenge. -/
theorem authenticates_iff (md5 : Md5) (config : SipServerConfig) (now : Int) (s : SipServer)
    (request : Request) (auth : Authorization) (username : CString) :
    (∀ response,
        (Accepted md5 config now s (registering request auth username response) ↔
            ResponseCorrect md5 config (registering request auth username response)) ↔
          (EchoesChallenge md5 config (registering request auth username response) ↔
            ResponseCorrect md5 config (registering request auth username response))) ∧
      ((∀ response,
          Accepted md5 config now s (registering request auth username response) ↔
            ResponseCorrect md5 config (registering request auth username response)) ↔
        ¬ HasDigestParameters { auth with username := some username }) ∧
      ((∀ response response', response ≠ response' →
          ¬ (Accepted md5 config now s (registering request auth username response) ∧
            Accepted md5 config now s (registering request auth username response'))) ↔
        ∀ response,
          ¬ EchoesChallenge md5 config (registering request auth username response)) := by
  refine ⟨?_, ?_, ?_⟩
  · intro response
    rw [accepted_iff]
  · simp only [accepted_iff]
    constructor
    · intro hclaim hparameters
      obtain ⟨right, wrong, hright, hwrong⟩ := exists_responses md5 config request hparameters
      have hechoes := (hclaim right).mpr hright
      exact hwrong ((hclaim wrong).mp (echoesChallenge_registering_congr right wrong hechoes))
    · intro hmissing response
      constructor
      · intro hechoes
        exact absurd (hasDigestParameters_of_echoesChallenge hechoes) hmissing
      · intro hcorrect
        exact absurd hcorrect (not_responseCorrect_of_missing hmissing)
  · simp only [accepted_iff]
    constructor
    · intro hdistinct response hechoes
      exact hdistinct response (quote :: response) (List.cons_ne_self _ _).symm
        ⟨hechoes, echoesChallenge_registering_congr response _ hechoes⟩
    · intro hnone response response' _ hboth
      exact hnone response hboth.1

theorem headerDigest_eq_challengeDigest {own : Authorization} {method : CString}
    (hrealm : own.realm = some config.sipServerRealm) (hnonce : own.nonce = some config.nonce)
    (hsession : isMd5Sess own.algorithm = false)
    (hprotection : qopBranch own.messageQop = .withoutQop) :
    headerDigest md5 config own method = challengeDigest md5 config own method := by
  have hregister : isMd5Sess (some (ascii "REGISTER")) = false := by decide
  rw [headerDigest, challengeDigest, hrealm, hnonce,
    digestCalcHA1_of_not_session hsession hregister]
  congr 1
  funext ha1
  exact digestCalcResponse_of_withoutQop hprotection rfl

def isPlain (byte : UInt8) : Bool :=
  byte != quote && byte != 0x5C && byte != 0x7F && byte != 0x0A && byte != 0x0D

def Plain (s : CString) : Prop := ∀ byte ∈ s, isPlain byte = true

theorem osipEnquote_of_plain {s : CString} (h : Plain s) :
    osipEnquote s = quote :: s ++ [quote] := by
  have hescaped : s.flatMap (fun byte : UInt8 =>
      if byte = quote ∨ byte = 0x5C ∨ byte = 0x7F then [0x5C, byte]
      else if byte = 0x0A ∨ byte = 0x0D then [0x20]
      else [byte]) = s := by
    induction s with
    | nil => rfl
    | cons byte rest ih =>
        obtain ⟨hbyte, hrest⟩ := List.forall_mem_cons.mp h
        simp only [isPlain, Bool.and_eq_true, bne_iff_ne, ne_eq] at hbyte
        rw [List.flatMap_cons, ih hrest]
        simp [hbyte]
  rw [osipEnquote, hescaped]

theorem unquote_osipEnquote {s : CString} (h : Plain s) : unquote (osipEnquote s) = s := by
  rw [osipEnquote_of_plain h, List.cons_append, unquote, if_pos rfl, List.dropLast_concat]

theorem osipEnquote_ne_quote (s : CString) : some (osipEnquote s) ≠ some [quote] := by
  simp [osipEnquote]

/-- A contact with the host and the port that `response_register` reads. -/
def ContactComplete (request : Request) : Prop :=
  ∃ contact url, request.contacts.head? = some contact ∧ contact.url = some url ∧
    url.host.isSome ∧ url.port.isSome

theorem defined_sipClient {own : Authorization} (h : ContactComplete request)
    (husername : own.username.isSome) : Defined (sipClient request own) := by
  obtain ⟨contact, url, hcontact, hurl, hhost, hport⟩ := h
  simp only [Option.isSome_iff_exists] at hhost hport husername
  obtain ⟨host, hhost⟩ := hhost
  obtain ⟨port, hport⟩ := hport
  obtain ⟨username, husername⟩ := husername
  simp only [sipClient, defined_deref_bind]
  exact ⟨contact, hcontact, url, hurl, host, hhost, port, hport, username, husername,
    defined_pure _⟩

/-- A client that copies the realm and the nonce of the challenge is registered,
whatever its user name and its response are. -/
theorem echoesChallenge_of_copied (auth : Authorization) (username response : CString)
    (hrealm : Plain config.sipServerRealm) (hnonce : Plain config.nonce)
    (hparameters : HasDigestParameters { auth with username := some username })
    (hsession : isMd5Sess (auth.algorithm.map unquote) = false)
    (hprotection : qopBranch auth.messageQop = .withoutQop)
    (hcontact : ContactComplete request) :
    EchoesChallenge md5 config
      (registering request
        { auth with
          realm := some (osipEnquote config.sipServerRealm)
          nonce := some (osipEnquote config.nonce) }
        username response) := by
  let copied : Authorization :=
    { auth with
      username := some username
      response := some response
      realm := some (osipEnquote config.sipServerRealm)
      nonce := some (osipEnquote config.nonce) }
  have hrealm' : copied.unquoted.realm = some config.sipServerRealm :=
    congrArg some (unquote_osipEnquote hrealm)
  have hnonce' : copied.unquoted.nonce = some config.nonce :=
    congrArg some (unquote_osipEnquote hnonce)
  have hdefined : Defined (headerDigest md5 config copied.unquoted request.sipMethod) := by
    refine defined_headerDigest_iff.mpr ⟨rfl, rfl, rfl, ?_, ?_, fun h => absurd hprotection h⟩
    · simpa [copied, Authorization.unquoted] using hparameters.uri_given
    · intro h
      exact absurd h (by simp [copied, Authorization.unquoted, hsession])
  obtain ⟨digest, hdigest⟩ := hdefined
  have hcopied : copied.NoLoneQuote :=
    ⟨hparameters.algorithm, hparameters.username, osipEnquote_ne_quote _,
      osipEnquote_ne_quote _, hparameters.nonceCount, hparameters.uri⟩
  refine ⟨copied, copied.unquoted, digest, rfl, rfl,
    Authorization.strdup_eq_ok.mpr ⟨hcopied, rfl⟩, hdigest, ?_, ?_⟩
  · exact (headerDigest_eq_challengeDigest hrealm' hnonce' hsession hprotection).symm.trans hdigest
  · exact defined_sipClient hcontact rfl

/-- The values of `SipServerConfig` without a configuration file. -/
def defaultConfig : SipServerConfig where
  nonce := ascii "4101050000"
  sipServerRealm := ascii "4101050000"
  sipSeverPass := ascii "12345678"

def uriOnly : Authorization where
  uri := some (ascii "\"sip:41010500002000000001@4101050000\"")

def copiedRegister : Request :=
  registering
    { sipMethod := ascii "REGISTER"
      authorizations := []
      contacts := [⟨some ⟨some (ascii "192.0.2.1"), some (ascii "5060")⟩⟩] }
    { uriOnly with
      realm := some (osipEnquote defaultConfig.sipServerRealm)
      nonce := some (osipEnquote defaultConfig.nonce) }
    (ascii "\"41010500001320000001\"") (ascii "\"0\"")

theorem not_authenticates :
    ¬ ∃ md5, Accepted md5 defaultConfig 0 ⟨∅, []⟩ copiedRegister ↔
      ResponseCorrect md5 defaultConfig copiedRegister := by
  rintro ⟨md5, hclaim⟩
  have hparameters : HasDigestParameters
      { uriOnly with username := some (ascii "\"41010500001320000001\"") } :=
    ⟨nofun, by decide, nofun, by decide, rfl, nofun, fun h => absurd rfl h⟩
  have hrealm : Plain defaultConfig.sipServerRealm := List.all_eq_true.mp rfl
  have hnonce : Plain defaultConfig.nonce := List.all_eq_true.mp rfl
  have hechoes : EchoesChallenge md5 defaultConfig copiedRegister :=
    echoesChallenge_of_copied uriOnly _ _ hrealm hnonce hparameters rfl rfl
      ⟨_, _, rfl, rfl, rfl, rfl⟩
  obtain ⟨response, hresponse, hexpected⟩ :=
    responseCorrect_registering_iff.mp (hclaim.mp (accepted_iff.mpr hechoes))
  have hzero : osipStrdupWithoutQuote (ascii "\"0\"") = .ok [0x30] := by decide
  obtain rfl : [0x30] = response := Except.ok.inj (hzero.symm.trans hresponse)
  simp only [expectedResponse, headerDigest, bind_eq_ok] at hexpected
  obtain ⟨_, _, _, _, hdigest⟩ := hexpected
  exact absurd (length_of_digestCalcResponse hdigest) (by decide)

end GBServer.SipRegistration
