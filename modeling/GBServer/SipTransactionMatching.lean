import GBServer.Foundation.CStrings

namespace GBServer.SipTransactionMatching

open Foundation.CStrings

structure Via where
  version : CString
  protocol : CString
  host : Option CString
  port : Option CString
  viaParams : List (CString × Option CString)
  comment : Option CString
  deriving DecidableEq, Repr

structure CallId where
  number : CString
  host : Option CString
  deriving DecidableEq, Repr

structure CSeq where
  number : CString
  method : CString
  deriving DecidableEq, Repr

/-- A request, with the parameters `tag` of `From` and `To`, and what it is about. -/
structure Request (μ : Type*) where
  sipMethod : CString
  topvia : Via
  fromTag : Option (Option CString)
  toTag : Option (Option CString)
  callId : CallId
  cseq : CSeq
  content : μ
  deriving DecidableEq, Repr

variable {μ : Type*}

def Via.paramGetByname (via : Via) (pname : CString) : Option (Option CString) :=
  (via.viaParams.find? fun param => equalIgnoringCase param.1 pname).map Prod.snd

def Via.branch (via : Via) : Option (Option CString) := via.paramGetByname (ascii "branch")

def colon : UInt8 := 0x3A

def paramToStr : CString × Option CString → CString
  | (gname, none) => ascii ";" ++ gname
  | (gname, some gvalue) => ascii ";" ++ gname ++ ascii "=" ++ gvalue

def Via.toStr (via : Via) : Option CString := do
  let host ← via.host
  let sentBy := if colon ∈ host then ascii "[" ++ host ++ ascii "]" else host
  let port := match via.port with
    | none => []
    | some port => ascii ":" ++ port
  let comment := match via.comment with
    | none => []
    | some comment => ascii " (" ++ comment ++ ascii ")"
  return ascii "SIP/" ++ via.version ++ ascii "/" ++ via.protocol ++ ascii " " ++ sentBy ++ port ++
    via.viaParams.flatMap paramToStr ++ comment

def viaMatch (via1 via2 : Via) : Bool := via1.toStr.isSome && via1.toStr == via2.toStr

def callIdMatch (callid1 callid2 : CallId) : Bool :=
  callid1.number == callid2.number && callid1.host == callid2.host

def fromTagMatch : Option (Option CString) → Option (Option CString) → Bool
  | none, none => true
  | some (some tag1), some (some tag2) => tag1 == tag2
  | _, _ => false

def cseqMatch (cseq1 cseq2 : CSeq) : Bool :=
  cseq1.number == cseq2.number &&
    if cseq2.method = ascii "INVITE" ∨ cseq2.method = ascii "ACK" then
      cseq1.method == ascii "INVITE" || cseq1.method == ascii "ACK"
    else cseq1.method == cseq2.method

def magicCookie : CString := ascii "z9hG4bK"

def portMatch : Option CString → Option CString → Bool
  | some port, none => port == ascii "5060"
  | none, some origport => origport == ascii "5060"
  | some port, some origport => origport == port
  | none, none => true

/-- The comparison of two requests of compliant user agents. -/
def compliantMatch (orig request : Request μ) (origBranch branch : CString) : Bool :=
  origBranch == branch &&
    (match request.topvia.host, orig.topvia.host with
      | some host, some orighost => orighost == host
      | _, _ => false) &&
    portMatch request.topvia.port orig.topvia.port &&
    ((orig.cseq.method == ascii "INVITE" && request.cseq.method == ascii "ACK") ||
      orig.cseq.method == request.cseq.method)

/-- The mechanism for user agents that send no magic cookie.  `executed` is the request that
the transaction has executed. -/
def legacyMatch (orig : Request μ) (executed : Option (Request μ)) (request : Request μ) : Bool :=
  callIdMatch orig.callId request.callId &&
    (if request.sipMethod = ascii "ACK" then
      (orig.toTag.isNone && request.toTag.isSome) || fromTagMatch orig.toTag request.toTag
    else
      match executed with
      | none => false
      | some first => fromTagMatch first.toTag request.toTag) &&
    fromTagMatch orig.fromTag request.fromTag && cseqMatch orig.cseq request.cseq &&
    viaMatch orig.topvia request.topvia

/-- `__osip_transaction_matching_request_osip_to_xist_17_2_3`: the transaction was made for
`orig`. -/
def matchingRequest (orig : Request μ) (executed : Option (Request μ)) (request : Request μ) :
    Bool :=
  match orig.topvia.branch, request.topvia.branch with
  | none, none => legacyMatch orig executed request
  | some (some origBranch), some (some branch) =>
      if origBranch.length ≠ branch.length then false
      else if magicCookie <+: origBranch ∧ magicCookie <+: branch then
        compliantMatch orig request origBranch branch
      else legacyMatch orig executed request
  | _, _ => false

/-- What identifies the transaction of a compliant request. -/
structure Key where
  branch : CString
  host : CString
  port : CString
  method : CString
  deriving DecidableEq, Repr

/-- The key of a request with the magic cookie, unless it is for an `INVITE`. -/
def Request.key (request : Request μ) : Option Key := do
  let branch ← (← request.topvia.branch)
  let host ← request.topvia.host
  if magicCookie <+: branch ∧ request.cseq.method ≠ ascii "INVITE" ∧
      request.cseq.method ≠ ascii "ACK" then
    return ⟨branch, host, request.topvia.port.getD (ascii "5060"), request.cseq.method⟩
  else none

theorem key_eq_some_iff {request : Request μ} {key : Key} :
    request.key = some key ↔
      request.topvia.branch = some (some key.branch) ∧ request.topvia.host = some key.host ∧
        magicCookie <+: key.branch ∧ request.topvia.port.getD (ascii "5060") = key.port ∧
        request.cseq.method = key.method ∧ key.method ≠ ascii "INVITE" ∧
        key.method ≠ ascii "ACK" := by
  rw [Request.key]
  rcases request.topvia.branch with _ | _ | branch
  · simp
  · simp
  · rcases request.topvia.host with _ | host
    · simp
    · obtain ⟨keyBranch, keyHost, keyPort, keyMethod⟩ := key
      simp only [Option.bind_eq_bind, Option.bind_some, Option.some.injEq]
      constructor
      · intro h
        split at h
        · rename_i hcookie
          obtain ⟨rfl, rfl, rfl, rfl⟩ := Key.mk.injEq .. ▸ Option.some.inj h
          exact ⟨rfl, rfl, hcookie.1, rfl, rfl, hcookie.2⟩
        · cases h
      · rintro ⟨rfl, rfl, hcookie, rfl, rfl, hmethod⟩
        rw [if_pos ⟨hcookie, hmethod⟩]
        rfl

theorem portMatch_iff {port origport : Option CString} :
    portMatch port origport = true ↔ origport.getD (ascii "5060") = port.getD (ascii "5060") := by
  cases port with
  | none => cases origport <;> simp [portMatch]
  | some port =>
      cases origport with
      | none =>
          rw [portMatch, beq_iff_eq]
          exact eq_comm
      | some origport => simp [portMatch]

/-- Among compliant requests a request belongs to the transactions with its key, whether they
have been executed or not. -/
theorem matchingRequest_iff {orig request : Request μ} {origKey key : Key}
    (horig : orig.key = some origKey) (hrequest : request.key = some key)
    (executed : Option (Request μ)) :
    matchingRequest orig executed request = true ↔ origKey = key := by
  obtain ⟨horigBranch, horigHost, horigCookie, horigPort, horigMethod, -, -⟩ :=
    key_eq_some_iff.mp horig
  obtain ⟨hbranch, hhost, hcookie, hport, hmethod, -, hack⟩ := key_eq_some_iff.mp hrequest
  obtain ⟨origBranch, origHost, origPort, origMethod⟩ := origKey
  obtain ⟨branch, host, port, method⟩ := key
  simp only at horigBranch horigHost horigCookie horigPort horigMethod hbranch hhost hcookie
  simp only at hport hmethod hack
  have hboth : magicCookie <+: origBranch ∧ magicCookie <+: branch := ⟨horigCookie, hcookie⟩
  have hmatch : compliantMatch orig request origBranch branch = true ↔
      origBranch = branch ∧ origHost = host ∧ origPort = port ∧ origMethod = method := by
    rw [compliantMatch, hhost, horigHost, horigMethod, hmethod]
    simp only [Bool.and_eq_true, Bool.or_eq_true, beq_iff_eq, portMatch_iff, horigPort, hport,
      hack, and_false, false_or]
    tauto
  rw [matchingRequest, horigBranch, hbranch]
  simp only [if_pos hboth, Key.mk.injEq]
  split
  · rename_i hlength
    refine ⟨nofun, ?_⟩
    rintro ⟨rfl, -⟩
    exact absurd rfl hlength
  · exact hmatch

end GBServer.SipTransactionMatching
