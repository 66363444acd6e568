import GBServer.Md5
import GBServer.SipRegistration

namespace GBServer.DigestContexts

open Foundation.CStrings
open Foundation.Memory
open GBServer.Md5

variable {w : ℕ}

/-- `MD5Update(&Md5Ctx, psz, strlen(psz))`. -/
def updateString (md5Ctx : Context w) (psz : Option CString) : Except Fault (Context w) := do
  let string ← deref psz
  return md5Update md5Ctx string

/-- The buffer that `MD5Final` leaves. -/
def zeroized : Vector UInt8 64 := Vector.replicate 64 0

/-- `DigestCalcHA1`, on a context at `Md5Ctx` whose buffer is not initialised. -/
def digestCalcHA1 (w : ℕ) (stack : Vector UInt8 64)
    (pszAlg pszUserName pszRealm pszPassword pszNonce pszCNonce : Option CString) :
    Except Fault CString := do
  let md5Ctx ← updateString (md5Init stack : Context w) pszUserName
  let md5Ctx := md5Update md5Ctx HttpDigest.colon
  let md5Ctx ← updateString md5Ctx pszRealm
  let md5Ctx := md5Update md5Ctx HttpDigest.colon
  let md5Ctx ← updateString md5Ctx pszPassword
  let ha1 := md5Final md5Ctx
  if HttpDigest.isMd5Sess pszAlg then
    let md5Ctx := md5Update (md5Init zeroized : Context w) ha1
    let md5Ctx := md5Update md5Ctx HttpDigest.colon
    let md5Ctx ← updateString md5Ctx pszNonce
    let md5Ctx := md5Update md5Ctx HttpDigest.colon
    let md5Ctx ← updateString md5Ctx pszCNonce
    return HttpDigest.cvtHex (md5Final md5Ctx)
  else return HttpDigest.cvtHex ha1

/-- `DigestCalcResponse` from `end` on, after the context has been begun anew. -/
def responseEnd (md5Ctx : Context w) (ha2Hex : CString) : CString :=
  HttpDigest.cvtHex (md5Final (md5Update md5Ctx ha2Hex))

/-- `HA1:nonce:`, with which either branch begins its response. -/
def beginResponse (w : ℕ) (ha1 : CString) (pszNonce : Option CString) :
    Except Fault (Context w) := do
  let md5Ctx := md5Update (md5Init zeroized : Context w) ha1
  let md5Ctx := md5Update md5Ctx HttpDigest.colon
  let md5Ctx ← updateString md5Ctx pszNonce
  return md5Update md5Ctx HttpDigest.colon

/-- From `auth_withauth` on. -/
def withAuth (md5Ctx : Context w) (ha1 : CString)
    (pszNonce pszNonceCount pszCNonce pszQop : Option CString) (aka : Int) :
    Except Fault CString := do
  let ha2Hex := HttpDigest.cvtHex (md5Final md5Ctx)
  let md5Ctx ← beginResponse w ha1 pszNonce
  if aka = 0 then
    let md5Ctx ← updateString md5Ctx pszNonceCount
    let md5Ctx := md5Update md5Ctx HttpDigest.colon
    let md5Ctx ← updateString md5Ctx pszCNonce
    let md5Ctx := md5Update md5Ctx HttpDigest.colon
    let md5Ctx ← updateString md5Ctx pszQop
    return responseEnd (md5Update md5Ctx HttpDigest.colon) ha2Hex
  else return responseEnd md5Ctx ha2Hex

/-- `DigestCalcResponse`.  `ha1` and `hEntity` point to 32 bytes. -/
def digestCalcResponse (w : ℕ) (stack : Vector UInt8 64) (ha1 : CString)
    (pszNonce pszNonceCount pszCNonce pszQop : Option CString) (aka : Int)
    (pszMethod pszDigestUri hEntity : Option CString) : Except Fault CString := do
  let md5Ctx ← updateString (md5Init stack : Context w) pszMethod
  let md5Ctx := md5Update md5Ctx HttpDigest.colon
  let md5Ctx ← updateString md5Ctx pszDigestUri
  match HttpDigest.qopBranch pszQop with
  | .withoutQop =>
      let ha2Hex := HttpDigest.cvtHex (md5Final md5Ctx)
      let md5Ctx ← beginResponse w ha1 pszNonce
      return responseEnd md5Ctx ha2Hex
  | .withAuthInt =>
      let md5Ctx := md5Update md5Ctx HttpDigest.colon
      let md5Ctx ← updateString md5Ctx hEntity
      withAuth md5Ctx ha1 pszNonce pszNonceCount pszCNonce pszQop aka
  | .withAuth => withAuth md5Ctx ha1 pszNonce pszNonceCount pszCNonce pszQop aka

/-- `MD5.c` on a message in one piece. -/
def hash (w : ℕ) : HttpDigest.Md5 := fun message => ⟨(md5 w message).toArray, by
  rw [List.size_toArray, length_md5]⟩

@[simp] theorem toList_hash (w : ℕ) (message : List UInt8) :
    (hash w message).toList = md5 w message := rfl

/-- A pointer to less than 32 MiB, if it is not null. -/
def Short (psz : Option CString) : Prop := ∀ string ∈ psz, string.length < 2 ^ 25

@[simp] theorem updateString_some (md5Ctx : Context w) (string : CString) :
    updateString md5Ctx (some string) = pure (md5Update md5Ctx string) := rfl

@[simp] theorem deref_some (string : CString) : deref (some string) = pure string := rfl

theorem length_flatten_le {pieces : List CString} {bound : ℕ}
    (h : ∀ piece ∈ pieces, piece.length ≤ bound) :
    pieces.flatten.length ≤ pieces.length * bound := by
  induction pieces with
  | nil => exact Nat.zero_le _
  | cons piece pieces ih =>
      have hpiece := h piece List.mem_cons_self
      have hpieces := ih fun other hother => h other (List.mem_cons_of_mem _ hother)
      rw [List.flatten_cons, List.length_append, List.length_cons, Nat.succ_mul]
      omega

theorem md5Final_pieces (hw : 32 ≤ w) (stack : Vector UInt8 64) (pieces : List CString)
    (hcount : pieces.length ≤ 11) (hpieces : ∀ piece ∈ pieces, Short (some piece)) :
    md5Final (pieces.foldl md5Update (md5Init stack : Context w)) = md5 w pieces.flatten := by
  have hlength : ∀ piece ∈ pieces, piece.length < 2 ^ 25 := fun piece hpiece =>
    hpieces piece hpiece piece rfl
  have hsum := length_flatten_le fun piece hpiece => (hlength piece hpiece).le
  refine md5Final_chunks stack (Or.inr ⟨hw, ?_⟩) fun piece hpiece => ?_
  · omega
  · have := hlength piece hpiece
    omega

theorem short_of_length {string : CString} (h : string.length ≤ 32) : Short (some string) := by
  rintro _ ⟨⟩
  omega

theorem short_colon : Short (some HttpDigest.colon) := short_of_length (by decide)

theorem short_md5 (message : List UInt8) : Short (some (md5 w message)) :=
  short_of_length (by rw [length_md5]; decide)

theorem short_cvtHex_md5 (message : List UInt8) :
    Short (some (HttpDigest.cvtHex (md5 w message))) :=
  short_of_length (by rw [HttpDigest.length_cvtHex, length_md5])

variable {ha1 : CString}
  {pszAlg pszUserName pszRealm pszPassword pszNonce pszCNonce pszNonceCount pszQop pszMethod
    pszDigestUri hEntity : Option CString}

theorem digestCalcHA1_eq (hw : 32 ≤ w) (stack : Vector UInt8 64) (huser : Short pszUserName)
    (hrealm : Short pszRealm) (hpassword : Short pszPassword) (hnonce : Short pszNonce)
    (hcnonce : Short pszCNonce) :
    digestCalcHA1 w stack pszAlg pszUserName pszRealm pszPassword pszNonce pszCNonce =
      HttpDigest.digestCalcHA1 (hash w) pszAlg pszUserName pszRealm pszPassword pszNonce
        pszCNonce := by
  rcases pszUserName with _ | user
  · rfl
  rcases pszRealm with _ | realm
  · rfl
  rcases pszPassword with _ | password
  · rfl
  have hha1 : md5Final ([user, HttpDigest.colon, realm, HttpDigest.colon, password].foldl
      md5Update (md5Init stack : Context w)) =
        md5 w (user ++ HttpDigest.colon ++ realm ++ HttpDigest.colon ++ password) := by
    rw [md5Final_pieces hw stack _ (by simp) (by simp [huser, hrealm, hpassword, short_colon])]
    simp
  simp only [List.foldl_cons, List.foldl_nil] at hha1
  simp only [digestCalcHA1, HttpDigest.digestCalcHA1, updateString_some, deref_some,
    pure_bind, hha1,
    toList_hash]
  cases HttpDigest.isMd5Sess pszAlg with
  | false => rfl
  | true =>
      rcases pszNonce with _ | nonce
      · rfl
      rcases pszCNonce with _ | cnonce
      · rfl
      have hsession : md5Final ([md5 w (user ++ HttpDigest.colon ++ realm ++ HttpDigest.colon ++
          password), HttpDigest.colon, nonce, HttpDigest.colon, cnonce].foldl md5Update
            (md5Init zeroized : Context w)) =
          md5 w (md5 w (user ++ HttpDigest.colon ++ realm ++ HttpDigest.colon ++ password) ++
            HttpDigest.colon ++ nonce ++ HttpDigest.colon ++ cnonce) := by
        rw [md5Final_pieces hw zeroized _ (by simp)
          (by simp [hnonce, hcnonce, short_colon, short_md5])]
        simp
      simp only [List.foldl_cons, List.foldl_nil] at hsession
      simp only [if_true, updateString_some, deref_some, pure_bind, hsession]

/-- `DigestCalcResponse` from `end` on hashes what came before together with the hash
of A2. -/
theorem responseEnd_eq (hw : 32 ≤ w) (stack : Vector UInt8 64) (pieces : List CString)
    (hcount : pieces.length ≤ 10) (hpieces : ∀ piece ∈ pieces, Short (some piece))
    (a2 : CString) :
    responseEnd (pieces.foldl md5Update (md5Init stack : Context w))
        (HttpDigest.cvtHex (md5 w a2)) =
      HttpDigest.respHash (hash w) pieces.flatten a2 := by
  have hall : ∀ piece ∈ pieces ++ [HttpDigest.cvtHex (md5 w a2)], Short (some piece) := by
    intro piece hpiece
    rcases List.mem_append.mp hpiece with hpiece | hpiece
    · exact hpieces piece hpiece
    · rw [List.mem_singleton.mp hpiece]
      exact short_cvtHex_md5 a2
  have hdigest := md5Final_pieces hw stack (pieces ++ [HttpDigest.cvtHex (md5 w a2)])
    (by rw [List.length_append, List.length_singleton]; omega) hall
  rw [List.foldl_append, List.foldl_cons, List.foldl_nil, List.flatten_append,
    List.flatten_singleton] at hdigest
  rw [responseEnd, hdigest, HttpDigest.respHash, toList_hash, toList_hash]

theorem withAuth_eq (hw : 32 ≤ w) {md5Ctx : Context w} {a2 : CString} {aka : Int}
    (ha2 : md5Final md5Ctx = md5 w a2) (hha1 : Short (some ha1)) (hnonce : Short pszNonce)
    (hcount : Short pszNonceCount) (hcnonce : Short pszCNonce) (hqop : Short pszQop) :
    withAuth md5Ctx ha1 pszNonce pszNonceCount pszCNonce pszQop aka =
      HttpDigest.calcWithAuth (hash w) ha1 pszNonce pszNonceCount pszCNonce pszQop aka a2 := by
  rw [withAuth, HttpDigest.calcWithAuth, ha2]
  rcases pszNonce with _ | nonce
  · rfl
  simp only [beginResponse, updateString_some, deref_some, pure_bind]
  split
  · rcases pszNonceCount with _ | nonceCount
    · rfl
    rcases pszCNonce with _ | cnonce
    · rfl
    rcases pszQop with _ | qop
    · rfl
    have hend := responseEnd_eq hw zeroized [ha1, HttpDigest.colon, nonce,
      HttpDigest.colon, nonceCount, HttpDigest.colon, cnonce, HttpDigest.colon, qop,
      HttpDigest.colon] (by simp)
      (by simp [hha1, hnonce, hcount, hcnonce, hqop, short_colon]) a2
    simp only [List.foldl_cons, List.foldl_nil] at hend
    simp only [updateString_some, deref_some, pure_bind, hend]
    simp
  · have hend := responseEnd_eq hw zeroized [ha1, HttpDigest.colon, nonce,
      HttpDigest.colon] (by simp) (by simp [hha1, hnonce, short_colon]) a2
    simp only [List.foldl_cons, List.foldl_nil] at hend
    rw [hend]
    simp

theorem digestCalcResponse_eq (hw : 32 ≤ w) (stack : Vector UInt8 64) {aka : Int}
    (hha1 : Short (some ha1)) (hnonce : Short pszNonce) (hcount : Short pszNonceCount)
    (hcnonce : Short pszCNonce) (hqop : Short pszQop) (hmethod : Short pszMethod)
    (huri : Short pszDigestUri) (hentity : Short hEntity) :
    digestCalcResponse w stack ha1 pszNonce pszNonceCount pszCNonce pszQop aka pszMethod
        pszDigestUri hEntity =
      HttpDigest.digestCalcResponse (hash w) ha1 pszNonce pszNonceCount pszCNonce pszQop aka
        pszMethod pszDigestUri hEntity := by
  rw [digestCalcResponse, HttpDigest.digestCalcResponse]
  rcases pszMethod with _ | method
  · rfl
  rcases pszDigestUri with _ | digestUri
  · rfl
  simp only [updateString_some, deref_some, pure_bind]
  have ha2 := md5Final_pieces hw stack [method, HttpDigest.colon, digestUri] (by simp)
    (by simp [hmethod, huri, short_colon])
  have hflat : [method, HttpDigest.colon, digestUri].flatten =
      method ++ HttpDigest.colon ++ digestUri := by simp
  simp only [List.foldl_cons, List.foldl_nil, hflat] at ha2
  cases HttpDigest.qopBranch pszQop with
  | withoutQop =>
      rcases pszNonce with _ | nonce
      · rfl
      have hend := responseEnd_eq hw zeroized [ha1, HttpDigest.colon, nonce,
        HttpDigest.colon] (by simp) (by simp [hha1, hnonce, short_colon])
        (method ++ HttpDigest.colon ++ digestUri)
      simp only [List.foldl_cons, List.foldl_nil] at hend
      simp only [beginResponse, updateString_some, deref_some, pure_bind, ha2, hend]
      simp
  | withAuthInt =>
      rcases hEntity with _ | entity
      · rfl
      have hentity' := md5Final_pieces hw stack [method, HttpDigest.colon, digestUri,
        HttpDigest.colon, entity] (by simp) (by simp [hmethod, huri, hentity, short_colon])
      simp only [List.foldl_cons, List.foldl_nil] at hentity'
      simp only [updateString_some, deref_some, pure_bind]
      refine withAuth_eq hw ?_ hha1 hnonce hcount hcnonce hqop
      rw [hentity']
      simp
  | withAuth => exact withAuth_eq hw ha2 hha1 hnonce hcount hcnonce hqop

theorem short_of_digestCalcHA1 {digest : CString}
    (h : HttpDigest.digestCalcHA1 (hash w) pszAlg pszUserName pszRealm pszPassword pszNonce
      pszCNonce = .ok digest) : Short (some digest) := by
  simp only [HttpDigest.digestCalcHA1, bind_eq_ok] at h
  obtain ⟨_, _, _, _, _, _, h⟩ := h
  split at h
  · simp only [bind_eq_ok, pure_eq_ok] at h
    obtain ⟨_, _, _, _, rfl⟩ := h
    exact short_cvtHex_md5 _
  · obtain rfl := pure_eq_ok.mp h
    exact short_cvtHex_md5 _

/-- The response the server computes to compare with an `Authorization` header. -/
def headerDigest (w : ℕ) (stack stack' : Vector UInt8 64)
    (config : SipRegistration.SipServerConfig) (auth : SipRegistration.Authorization)
    (method : CString) : Except Fault CString := do
  let ha1 ← digestCalcHA1 w stack auth.algorithm auth.username auth.realm
    (some config.sipSeverPass) auth.nonce auth.nonceCount
  digestCalcResponse w stack' ha1 auth.nonce auth.nonceCount auth.cnonce auth.messageQop 0
    (some method) auth.uri (some SipRegistration.emptyHashHex)

/-- Whatever its contexts lie on, the server compares the digest of the joined fields. -/
theorem headerDigest_eq (hw : 32 ≤ w) (stack stack' : Vector UInt8 64)
    {config : SipRegistration.SipServerConfig} {auth : SipRegistration.Authorization}
    {method : CString} (hpass : Short (some config.sipSeverPass)) (hmethod : Short (some method))
    (hauth : ∀ psz ∈ [auth.username, auth.realm, auth.nonce, auth.nonceCount, auth.cnonce,
      auth.messageQop, auth.uri], Short psz) :
    headerDigest w stack stack' config auth method =
      SipRegistration.headerDigest (hash w) config auth method := by
  simp only [List.mem_cons, List.not_mem_nil, or_false, forall_eq_or_imp, forall_eq] at hauth
  obtain ⟨huser, hrealm, hnonce, hcount, hcnonce, hqop, huri⟩ := hauth
  rw [headerDigest, SipRegistration.headerDigest,
    digestCalcHA1_eq hw stack huser hrealm hpass hnonce hcount]
  rcases hha1 : HttpDigest.digestCalcHA1 (hash w) auth.algorithm auth.username auth.realm
    (some config.sipSeverPass) auth.nonce auth.nonceCount with fault | ha1
  · rfl
  · have hbind : ∀ f : CString → Except Fault CString, (Except.ok ha1 >>= f) = f ha1 :=
      fun _ => rfl
    rw [hbind, hbind, digestCalcResponse_eq hw stack' (short_of_digestCalcHA1 hha1) hnonce hcount
      hcnonce hqop hmethod huri (short_of_length (by decide))]

def sampleConfig : SipRegistration.SipServerConfig where
  nonce := ascii "6fe9ba44a76be22a"
  sipServerRealm := ascii "4405010000"
  sipSeverPass := ascii "12345678"

def sampleAuthorization : SipRegistration.Authorization where
  username := some (ascii "34020000001320000001")
  realm := some (ascii "4405010000")
  nonce := some (ascii "6fe9ba44a76be22a")
  uri := some (ascii "sip:44050100002000000002@4405010000")
  cnonce := some (ascii "0a4f113b")
  messageQop := some (ascii "auth")
  nonceCount := some (ascii "00000001")

theorem headerDigest_eq_of_sample :
    headerDigest 64 zeroized zeroized sampleConfig sampleAuthorization (ascii "REGISTER") =
      SipRegistration.headerDigest (hash 64) sampleConfig sampleAuthorization
        (ascii "REGISTER") := by
  have hshort : ∀ psz ∈ [sampleAuthorization.username, sampleAuthorization.realm,
      sampleAuthorization.nonce, sampleAuthorization.nonceCount, sampleAuthorization.cnonce,
      sampleAuthorization.messageQop, sampleAuthorization.uri],
      ∀ string ∈ psz, string.length ≤ 35 := by decide
  refine headerDigest_eq (by decide) _ _ (short_of_length (by decide))
    (short_of_length (by decide)) fun psz hpsz string hstring => ?_
  have hlength := hshort psz hpsz string hstring
  omega

end GBServer.DigestContexts
