import GBServer.Foundation.CStrings
import GBServer.Foundation.Memory

namespace GBServer.HttpDigest

open Foundation.CStrings
open Foundation.Memory

abbrev Md5 := List UInt8 → Vector UInt8 16

def colon : CString := ascii ":"

def hexDigit (j : UInt8) : UInt8 := if j ≤ 9 then j + 0x30 else j + 0x61 - 10

/-- `my_CvtHex`. -/
def cvtHex (bin : List UInt8) : CString :=
  bin.flatMap fun byte : UInt8 => [hexDigit ((byte >>> 4) &&& 0xf), hexDigit (byte &&& 0xf)]

def isMd5Sess (pszAlg : Option CString) : Bool :=
  pszAlg.any fun alg => equalIgnoringCase alg (ascii "md5-sess")

def digestCalcHA1 (md5 : Md5)
    (pszAlg pszUserName pszRealm pszPassword pszNonce pszCNonce : Option CString) :
    Except Fault CString := do
  let userName ← deref pszUserName
  let realm ← deref pszRealm
  let password ← deref pszPassword
  let ha1 := (md5 (userName ++ colon ++ realm ++ colon ++ password)).toList
  if isMd5Sess pszAlg then
    let nonce ← deref pszNonce
    let cnonce ← deref pszCNonce
    return cvtHex (md5 (ha1 ++ colon ++ nonce ++ colon ++ cnonce)).toList
  else return cvtHex ha1

inductive QopBranch where
  | withoutQop
  | withAuthInt
  | withAuth
  deriving DecidableEq, Repr

def qopBranch : Option CString → QopBranch
  | none => .withoutQop
  | some qop =>
      if equalIgnoringCase qop (ascii "auth-int") then .withAuthInt
      else if equalIgnoringCase qop (ascii "auth") then .withAuth
      else .withoutQop

/-- The hash of everything up to the last colon, and of A2. -/
def respHash (md5 : Md5) (front a2 : CString) : CString :=
  cvtHex (md5 (front ++ cvtHex (md5 a2).toList)).toList

/-- From `auth_withauth` on. -/
def calcWithAuth (md5 : Md5) (ha1 : CString)
    (pszNonce pszNonceCount pszCNonce pszQop : Option CString) (aka : Int) (a2 : CString) :
    Except Fault CString := do
  let nonce ← deref pszNonce
  let front := ha1 ++ colon ++ nonce ++ colon
  if aka = 0 then
    let nonceCount ← deref pszNonceCount
    let cnonce ← deref pszCNonce
    let qop ← deref pszQop
    return respHash md5
      (front ++ nonceCount ++ colon ++ cnonce ++ colon ++ qop ++ colon) a2
  else return respHash md5 front a2

/-- `DigestCalcResponse`.  `hEntity` points to 32 bytes. -/
def digestCalcResponse (md5 : Md5) (ha1 : CString)
    (pszNonce pszNonceCount pszCNonce pszQop : Option CString) (aka : Int)
    (pszMethod pszDigestUri hEntity : Option CString) : Except Fault CString := do
  let method ← deref pszMethod
  let digestUri ← deref pszDigestUri
  let a2 := method ++ colon ++ digestUri
  match qopBranch pszQop with
  | .withoutQop =>
      let nonce ← deref pszNonce
      return respHash md5 (ha1 ++ colon ++ nonce ++ colon) a2
  | .withAuthInt =>
      let entity ← deref hEntity
      calcWithAuth md5 ha1 pszNonce pszNonceCount pszCNonce pszQop aka (a2 ++ colon ++ entity)
  | .withAuth => calcWithAuth md5 ha1 pszNonce pszNonceCount pszCNonce pszQop aka a2

variable {md5 : Md5} {ha1 : CString}
  {pszAlg pszUserName pszRealm pszPassword pszNonce pszCNonce pszNonceCount pszQop pszMethod
    pszDigestUri hEntity : Option CString}

theorem isSome_of_qopBranch_ne (h : qopBranch pszQop ≠ .withoutQop) : pszQop.isSome := by
  cases pszQop with
  | none => exact absurd rfl h
  | some qop => rfl

theorem defined_digestCalcHA1_iff :
    Defined (digestCalcHA1 md5 pszAlg pszUserName pszRealm pszPassword pszNonce pszCNonce) ↔
      pszUserName.isSome ∧ pszRealm.isSome ∧ pszPassword.isSome ∧
        (isMd5Sess pszAlg → pszNonce.isSome ∧ pszCNonce.isSome) := by
  rw [digestCalcHA1]
  cases isMd5Sess pszAlg with
  | true =>
      simp only [if_true, defined_deref_bind, defined_pure, Option.isSome_iff_exists,
        true_implies, and_true, exists_and_right]
  | false =>
      simp only [Bool.false_eq_true, if_false, defined_deref_bind, defined_pure,
        Option.isSome_iff_exists, false_implies, and_true, exists_and_right]

theorem defined_calcWithAuth_iff {a2 : CString} :
    Defined (calcWithAuth md5 ha1 pszNonce pszNonceCount pszCNonce pszQop 0 a2) ↔
      pszNonce.isSome ∧ pszNonceCount.isSome ∧ pszCNonce.isSome ∧ pszQop.isSome := by
  simp only [calcWithAuth, if_true, defined_deref_bind, defined_pure, Option.isSome_iff_exists,
    and_true, exists_and_right]

/-- `DigestCalcResponse` reads nonce count and client nonce only under a quality of
protection. -/
theorem defined_digestCalcResponse_iff (hmethod : pszMethod.isSome) (hentity : hEntity.isSome) :
    Defined (digestCalcResponse md5 ha1 pszNonce pszNonceCount pszCNonce pszQop 0 pszMethod
        pszDigestUri hEntity) ↔
      pszDigestUri.isSome ∧ pszNonce.isSome ∧
        (qopBranch pszQop ≠ .withoutQop → pszNonceCount.isSome ∧ pszCNonce.isSome) := by
  obtain ⟨method, rfl⟩ := Option.isSome_iff_exists.mp hmethod
  obtain ⟨entity, rfl⟩ := Option.isSome_iff_exists.mp hentity
  rw [digestCalcResponse]
  simp only [defined_deref_bind, Option.some.injEq, exists_eq_left']
  cases hbranch : qopBranch pszQop with
  | withoutQop =>
      simp only [defined_deref_bind, defined_pure, Option.isSome_iff_exists, and_true,
        exists_and_right, ne_eq, not_true_eq_false, false_implies]
  | withAuthInt =>
      have hqop := isSome_of_qopBranch_ne (by rw [hbranch]; decide : qopBranch pszQop ≠ _)
      simp [defined_deref_bind, defined_calcWithAuth_iff, Option.isSome_iff_exists, hqop]
  | withAuth =>
      have hqop := isSome_of_qopBranch_ne (by rw [hbranch]; decide : qopBranch pszQop ≠ _)
      simp [defined_calcWithAuth_iff, Option.isSome_iff_exists, hqop]

/-- Outside of `md5-sess` neither the nonce nor the algorithm matters to HA1. -/
theorem digestCalcHA1_of_not_session {pszAlg' pszNonce' pszCNonce' : Option CString}
    (h : isMd5Sess pszAlg = false) (h' : isMd5Sess pszAlg' = false) :
    digestCalcHA1 md5 pszAlg pszUserName pszRealm pszPassword pszNonce pszCNonce =
      digestCalcHA1 md5 pszAlg' pszUserName pszRealm pszPassword pszNonce' pszCNonce' := by
  rw [digestCalcHA1, digestCalcHA1, h, h']
  rfl

theorem digestCalcResponse_of_withoutQop
    {pszNonceCount' pszCNonce' pszQop' hEntity' : Option CString} {aka : Int}
    (h : qopBranch pszQop = .withoutQop) (h' : qopBranch pszQop' = .withoutQop) :
    digestCalcResponse md5 ha1 pszNonce pszNonceCount pszCNonce pszQop aka pszMethod
        pszDigestUri hEntity =
      digestCalcResponse md5 ha1 pszNonce pszNonceCount' pszCNonce' pszQop' aka pszMethod
        pszDigestUri hEntity' := by
  rw [digestCalcResponse, digestCalcResponse, h, h']

theorem length_cvtHex (bin : List UInt8) : (cvtHex bin).length = 2 * bin.length := by
  induction bin with
  | nil => rfl
  | cons byte rest ih =>
      have hcons : cvtHex (byte :: rest) =
          [hexDigit ((byte >>> 4) &&& 0xf), hexDigit (byte &&& 0xf)] ++ cvtHex rest := rfl
      rw [hcons, List.length_append, ih, List.length_cons, List.length_cons, List.length_cons,
        List.length_nil]
      omega

theorem length_respHash (front a2 : CString) : (respHash md5 front a2).length = 32 := by
  rw [respHash, length_cvtHex, Vector.length_toList]

theorem length_of_calcWithAuth {aka : Int} {a2 digest : CString}
    (h : calcWithAuth md5 ha1 pszNonce pszNonceCount pszCNonce pszQop aka a2 = .ok digest) :
    digest.length = 32 := by
  simp only [calcWithAuth, bind_eq_ok] at h
  obtain ⟨_, _, h⟩ := h
  split at h
  · simp only [bind_eq_ok, pure_eq_ok] at h
    obtain ⟨_, _, _, _, _, _, rfl⟩ := h
    exact length_respHash _ _
  · obtain rfl := pure_eq_ok.mp h
    exact length_respHash _ _

theorem length_of_digestCalcResponse {aka : Int} {digest : CString}
    (h : digestCalcResponse md5 ha1 pszNonce pszNonceCount pszCNonce pszQop aka pszMethod
      pszDigestUri hEntity = .ok digest) : digest.length = 32 := by
  simp only [digestCalcResponse, bind_eq_ok] at h
  obtain ⟨_, _, _, _, h⟩ := h
  split at h
  · simp only [bind_eq_ok, pure_eq_ok] at h
    obtain ⟨_, _, rfl⟩ := h
    exact length_respHash _ _
  · obtain ⟨_, _, h⟩ := bind_eq_ok.mp h
    exact length_of_calcWithAuth h
  · exact length_of_calcWithAuth h

end GBServer.HttpDigest
