import GBServer.Foundation.Runs
import GBServer.SipEvents

namespace GBServer.SipEvents

open Foundation.CStrings
open Foundation.Memory
open Foundation.Runs
open GBServer.HttpDigest
open GBServer.SipRegistration

theorem strstr_eq_some {s mark found : CString} (h : strstr s mark = some found) :
    mark <+: found ∧ found <:+ s := by
  induction s with
  | nil =>
      rw [strstr] at h
      split at h
      · rename_i hmark
        obtain rfl := Option.some.inj h
        exact ⟨hmark, List.suffix_refl _⟩
      · contradiction
  | cons byte rest ih =>
      rw [strstr] at h
      split at h
      · rename_i hmark
        obtain rfl := Option.some.inj h
        exact ⟨hmark, List.suffix_refl _⟩
      · obtain ⟨hmark, hsuffix⟩ := ih h
        exact ⟨hmark, hsuffix.trans (List.suffix_cons byte rest)⟩

theorem strstr_cons_of_ne {s mark : CString} {byte first : UInt8} (h : byte ≠ first) :
    strstr (byte :: s) (first :: mark) = strstr s (first :: mark) := by
  rw [strstr, if_neg]
  intro hmark
  exact h (List.cons_prefix_cons.mp hmark).1.symm

theorem strstr_append_of_notMem {front s mark : CString} {first : UInt8} (h : first ∉ front) :
    strstr (front ++ s) (first :: mark) = strstr s (first :: mark) := by
  induction front with
  | nil => rfl
  | cons byte rest ih =>
      have hbyte : byte ≠ first := fun heq => h (heq ▸ List.mem_cons_self)
      have hrest : first ∉ rest := fun hmem => h (List.mem_cons_of_mem byte hmem)
      rw [List.cons_append, strstr_cons_of_ne hbyte, ih hrest]

def lessThan : UInt8 := 0x3C

def slash : UInt8 := 0x2F

/-- `<name>` -/
def openMark (name : CString) : CString := lessThan :: (name ++ ascii ">")

/-- `</name>` -/
def closeMark (name : CString) : CString := lessThan :: slash :: (name ++ ascii ">")

def PlainName (name : CString) : Prop := lessThan ∉ name ∧ name.head? ≠ some slash ∧ name ≠ []

/-- The text of the first element of a name, up to the next closing mark. -/
def elementText (text name : CString) : CString :=
  match strstr text (openMark name) with
  | none => []
  | some start =>
      let content := start.drop (openMark name).length
      match strstr content (closeMark name) with
      | none => []
      | some stop => content.take (content.length - stop.length)

theorem strstr_closeMark {name content : CString} (hname : PlainName name) :
    strstr (openMark name ++ content) (closeMark name) = strstr content (closeMark name) := by
  obtain ⟨hless, hslash, hne⟩ := hname
  have hbegin : ¬ closeMark name <+: openMark name ++ content := by
    intro hmark
    cases name with
    | nil => contradiction
    | cons byte rest =>
        have hsecond := (List.cons_prefix_cons.mp hmark).2
        exact hslash (congrArg some (List.cons_prefix_cons.mp hsecond).1.symm)
  have hbody : lessThan ∉ name ++ ascii ">" := by
    simp only [List.mem_append, not_or]
    exact ⟨hless, by decide⟩
  have hskip : strstr (openMark name ++ content) (closeMark name) =
      strstr (name ++ ascii ">" ++ content) (closeMark name) := by
    rw [openMark, List.cons_append] at hbegin ⊢
    rw [strstr, if_neg hbegin]
  rw [hskip, closeMark, strstr_append_of_notMem hbody]

theorem parseXml_eq (text : CString) {name : CString} (hname : PlainName name) :
    ∃ code, parseXml (some text) (openMark name) false (closeMark name) false [] =
      if (elementText text name).length ≤ bufferSize then .ok (code, elementText text name)
      else .error .outOfBounds := by
  rw [elementText, parseXml]
  simp only [deref, bind, Except.bind, Bool.false_eq_true, if_false]
  cases hstart : strstr text (openMark name) with
  | none => exact ⟨-1, rfl⟩
  | some start =>
      obtain ⟨content, rfl⟩ := (strstr_eq_some hstart).1
      refine ⟨0, ?_⟩
      simp only [List.drop_left, strstr_closeMark hname]
      cases hstop : strstr content (closeMark name) with
      | none => rfl
      | some stop =>
          have hshorter : stop.length ≤ content.length :=
            (strstr_eq_some hstop).2.length_le
          have hcount : ((openMark name ++ content).length : Int) - stop.length + (0 : Nat) -
              (openMark name).length = (content.length - stop.length : Nat) := by
            rw [List.length_append]
            omega
          simp only [hcount, strncpy, List.length_take, Int.toNat_natCast, Int.natCast_nonneg,
            true_and, Int.ofNat_le, Nat.min_eq_left (Nat.sub_le _ _)]
          by_cases hlength : content.length - stop.length ≤ bufferSize
          · rw [if_pos hlength, if_pos hlength]
            rfl
          · rw [if_neg hlength, if_neg hlength]

/-- The texts of a body that fit the buffers: the device with its terminator, the
command without it where it is not logged. -/
structure TextsFit (logsInfo : Bool) (text : CString) : Prop where
  device : (elementText text (ascii "DeviceID")).length < bufferSize
  command : (elementText text (ascii "CmdType")).length ≤ bufferSize
  logged : logsInfo → (elementText text (ascii "CmdType")).length < bufferSize

theorem defined_readBuffer_iff {text : CString} :
    Defined (readBuffer text) ↔ text.length < bufferSize := by
  rw [readBuffer]
  split
  · rename_i hlength
    exact iff_of_true (defined_ok _) hlength
  · rename_i hlength
    exact iff_of_false (not_defined_error _) hlength

theorem defined_logCmdType_iff {env : Environment} {cmdType : CString} :
    Defined (logCmdType env cmdType) ↔ (env.logsInfo → cmdType.length < bufferSize) := by
  rw [logCmdType]
  split
  · rename_i hlogs
    rw [defined_readBuffer_iff]
    exact ⟨fun h _ => h, fun h => h hlogs⟩
  · rename_i hlogs
    exact iff_of_true (defined_ok _) fun h => absurd h hlogs

theorem cmdType_marks : PlainName (ascii "CmdType") ∧
    ascii "<CmdType>" = openMark (ascii "CmdType") ∧
      ascii "</CmdType>" = closeMark (ascii "CmdType") := by
  refine ⟨⟨?_, ?_, ?_⟩, ?_, ?_⟩ <;> decide

theorem deviceID_marks : PlainName (ascii "DeviceID") ∧
    ascii "<DeviceID>" = openMark (ascii "DeviceID") ∧
      ascii "</DeviceID>" = closeMark (ascii "DeviceID") := by
  refine ⟨⟨?_, ?_, ?_⟩, ?_, ?_⟩ <;> decide

variable {env : Environment} {event : SipEvent}

theorem messageTexts_eq_ok_iff {request : SipMessage} {body : Option CString}
    (hbody : request.bodies.head? = some body) {texts : CString × CString} :
    messageTexts request = .ok texts ↔ ∃ text, body = some text ∧
      texts = (elementText text (ascii "CmdType"), elementText text (ascii "DeviceID")) ∧
      texts.1.length ≤ bufferSize ∧ texts.2.length ≤ bufferSize := by
  obtain ⟨hcmdType, hcmdOpen, hcmdClose⟩ := cmdType_marks
  obtain ⟨hdeviceID, hdeviceOpen, hdeviceClose⟩ := deviceID_marks
  rw [messageTexts, hbody, hcmdOpen, hcmdClose, hdeviceOpen, hdeviceClose]
  simp only [bind_eq_ok, pure_eq_ok]
  cases body with
  | none =>
      refine iff_of_false ?_ (by simp)
      rintro ⟨_, h, _⟩
      contradiction
  | some text =>
      obtain ⟨_, hcommand⟩ := parseXml_eq text hcmdType
      obtain ⟨_, hdevice⟩ := parseXml_eq text hdeviceID
      rw [hcommand, hdevice]
      constructor
      · rintro ⟨_, hcommand, _, hdevice, rfl⟩
        split at hcommand
        · split at hdevice
          · obtain rfl := Except.ok.inj hcommand
            obtain rfl := Except.ok.inj hdevice
            exact ⟨text, rfl, rfl, by assumption, by assumption⟩
          · contradiction
        · contradiction
      · rintro ⟨_, heq, rfl, hcommand, hdevice⟩
        obtain rfl := Option.some.inj heq
        exact ⟨_, if_pos hcommand, _, if_pos hdevice, rfl⟩

theorem defined_responseMessage_iff_texts {request : SipMessage} :
    Defined (responseMessage env event request) ↔ ∃ texts, messageTexts request = .ok texts ∧
      texts.2.length < bufferSize ∧ (env.logsInfo → texts.1.length < bufferSize) := by
  have hanswer : ∀ cmdType : CString, Defined
      (if cmdType = ascii "Catalog" then pure (sendAnswer env event (.message 200))
        else if cmdType = ascii "Keepalive" then pure (sendAnswer env event (.message 200))
        else pure (sendAnswer env event (.message 200)) : Except Fault (List Effect)) := by
    intro cmdType
    simp only [ite_self]
    exact defined_pure _
  rw [responseMessage, defined_bind]
  refine exists_congr fun texts => and_congr_right fun _ => ?_
  rw [defined_bind_of_forall fun _ => defined_bind_of_forall fun cmdType =>
    iff_true_intro (hanswer cmdType), defined_readBuffer_iff, defined_logCmdType_iff, and_true]

theorem defined_responseMessage_iff {request : SipMessage} :
    Defined (responseMessage env event request) ↔
      ∀ body, request.bodies.head? = some body → ∃ text, body = some text ∧
        TextsFit env.logsInfo text := by
  rw [defined_responseMessage_iff_texts]
  cases hbody : request.bodies.head? with
  | none =>
      refine iff_of_true ⟨([], []), ?_, by decide, fun _ => by decide⟩ nofun
      rw [messageTexts, hbody]
      rfl
  | some body =>
      simp only [messageTexts_eq_ok_iff hbody, Option.some.injEq, forall_eq']
      constructor
      · rintro ⟨_, ⟨text, rfl, rfl, hcommand, _⟩, hdevice, hlogged⟩
        exact ⟨text, rfl, hdevice, hcommand, hlogged⟩
      · rintro ⟨text, rfl, hdevice, hcommand, hlogged⟩
        exact ⟨_, ⟨text, rfl, rfl, hcommand, Nat.le_of_lt hdevice⟩, hdevice, hlogged⟩

/-- What the digests and the contact of a `REGISTER` must give for `response_register`
to read it. -/
structure RegisterReadable (request : Request) (auth : Authorization) : Prop where
  quotes : auth.NoLoneQuote
  realm : auth.realm.isSome
  nonce : auth.nonce.isSome
  uri : auth.uri.isSome
  session : isMd5Sess (auth.algorithm.map unquote) → auth.nonceCount.isSome
  protection : qopBranch auth.messageQop ≠ .withoutQop →
    auth.nonceCount.isSome ∧ auth.cnonce.isSome
  contact : ContactComplete request

variable {md5 : Md5} {config : SipServerConfig} {now : Int} {s : SipServer}

theorem defined_challengeDigest_iff {own : Authorization} {method : CString} :
    Defined (challengeDigest md5 config own method) ↔
      own.username.isSome ∧ own.uri.isSome := by
  have hregister : ¬ isMd5Sess (some (ascii "REGISTER")) := by decide
  have hresponse : ∀ ha1, Defined (digestCalcResponse md5 ha1 (some config.nonce) none none none 0
      (some method) own.uri none) ↔ own.uri.isSome := by
    intro ha1
    have hentity : digestCalcResponse md5 ha1 (some config.nonce) none none none 0 (some method)
        own.uri none = digestCalcResponse md5 ha1 (some config.nonce) none none none 0
          (some method) own.uri (some []) := digestCalcResponse_of_withoutQop rfl rfl
    rw [hentity, defined_digestCalcResponse_iff rfl rfl]
    simp [qopBranch]
  rw [challengeDigest, defined_bind_of_forall hresponse, defined_digestCalcHA1_iff]
  simp [hregister]

theorem defined_sipClient_iff {request : Request} {own : Authorization} :
    Defined (sipClient request own) ↔ ContactComplete request ∧ own.username.isSome := by
  constructor
  · simp only [sipClient, defined_deref_bind]
    rintro ⟨contact, hcontact, url, hurl, host, hhost, port, hport, username, husername, _⟩
    exact ⟨⟨contact, url, hcontact, hurl, hhost ▸ rfl, hport ▸ rfl⟩, husername ▸ rfl⟩
  · rintro ⟨hcontact, husername⟩
    exact defined_sipClient hcontact husername

theorem defined_answerAuthorization_iff {request : Request} {auth : Authorization}
    (husername : auth.username.isSome) :
    Defined (answerAuthorization md5 config now s request auth) ↔
      RegisterReadable request auth := by
  have hcompare : ∀ (client : SipClient) (response calcResponse : CString),
      Defined (if calcResponse = response then
          pure (s.register now client, SipRegistration.Answer.message 200)
        else pure (s, SipRegistration.Answer.message 401) :
          Except Fault (SipServer × SipRegistration.Answer)) ↔ True := by
    intro client response calcResponse
    apply iff_true_intro
    split
    · exact defined_pure _
    · exact defined_pure _
  simp only [answerAuthorization, defined_bind, Authorization.strdup_eq_ok]
  constructor
  · rintro ⟨_, ⟨hquotes, rfl⟩, _, hheader, _, _, _, hclient, _⟩
    obtain ⟨_, hrealm, hnonce, huri, hsession, hprotection⟩ :=
      defined_headerDigest_iff.mp ⟨_, hheader⟩
    simp only [Authorization.unquoted, Option.isSome_map] at hrealm hnonce huri hsession hprotection
    exact ⟨hquotes, hrealm, hnonce, huri, hsession, hprotection,
      (defined_sipClient_iff.mp ⟨_, hclient⟩).1⟩
  · intro h
    have hname : auth.unquoted.username.isSome := by
      rw [Authorization.unquoted, Option.isSome_map]
      exact husername
    have huri : auth.unquoted.uri.isSome := by
      rw [Authorization.unquoted, Option.isSome_map]
      exact h.uri
    obtain ⟨response, hresponse⟩ : Defined
        (headerDigest md5 config auth.unquoted request.sipMethod) := by
      refine defined_headerDigest_iff.mpr ⟨hname, ?_, ?_, huri, ?_⟩
      · simpa only [Authorization.unquoted, Option.isSome_map] using h.realm
      · simpa only [Authorization.unquoted, Option.isSome_map] using h.nonce
      · simpa only [Authorization.unquoted, Option.isSome_map] using ⟨h.session, h.protection⟩
    obtain ⟨calcResponse, hcalc⟩ : Defined
        (challengeDigest md5 config auth.unquoted request.sipMethod) :=
      defined_challengeDigest_iff.mpr ⟨hname, huri⟩
    obtain ⟨client, hclient⟩ : Defined (sipClient request auth.unquoted) :=
      defined_sipClient_iff.mpr ⟨h.contact, hname⟩
    exact ⟨_, ⟨h.quotes, rfl⟩, response, hresponse, calcResponse, hcalc, client, hclient,
      (hcompare client response calcResponse).mpr trivial⟩

theorem defined_responseRegister_iff {request : Request} :
    Defined (responseRegister md5 config now s request) ↔
      ∀ auth, request.authorizations.head? = some auth → auth.username.isSome →
        RegisterReadable request auth := by
  rw [responseRegister]
  cases hauth : request.authorizations.head? with
  | none => exact iff_of_true (defined_pure _) fun _ h => absurd h (by simp)
  | some auth =>
      simp only [Option.some.injEq, forall_eq']
      split
      · rename_i husername
        rw [defined_answerAuthorization_iff husername]
        exact ⟨fun h _ => h, fun h => h husername⟩
      · rename_i husername
        exact iff_of_true (defined_pure _) fun h => absurd h husername

/-- The log line of a message is printed from a pointer that has been set. -/
def Printable (env : Environment) (message : Option SipMessage) : Prop :=
  env.logsInfo → env.messageToStr message ≠ .untouched

def Completed (env : Environment) (event : SipEvent) : Prop :=
  match event.type with
  | .callMessageNew | .callClosed | .callReleased | .messageRequestFailure | .callProceeding
  | .callAnswered => Printable env event.request ∧ Printable env event.response
  | .messageNew =>
      ∃ request, event.request = some request ∧
        (isRegister request → ∀ auth, request.authorizations.head? = some auth →
          auth.username.isSome → RegisterReadable request.toRequest auth) ∧
        (isMessage request → ∀ body, request.bodies.head? = some body →
          ∃ text, body = some text ∧ TextsFit env.logsInfo text)
  | .messageAnswered =>
      Printable env event.request ∧ ∀ handler, answeredHandler env event = some handler →
        Defined (env.handleMessageResponse handler event)
  | .inSubscriptionNew => notifiesAlarm env event → Defined (env.handleAlarmNotify event)
  | .callInvite | .callServerFailure | .other => True

theorem defined_print_iff {p : OutParameter} : Defined p.print ↔ p ≠ .untouched := by
  cases p with
  | untouched => exact iff_of_false (not_defined_error _) (fun h => h rfl)
  | set p => exact iff_of_true (defined_ok _) nofun

theorem defined_printed_iff {message : Option SipMessage} :
    Defined (if env.logsInfo then (env.messageToStr message).print else .ok ()) ↔
      Printable env message := by
  rw [Printable]
  split
  · rename_i hlogs
    rw [defined_print_iff]
    exact ⟨fun h _ => h, fun h => h hlogs⟩
  · rename_i hlogs
    exact iff_of_true (defined_ok _) fun h => absurd h hlogs

theorem defined_requestInfo_iff :
    Defined (requestInfo env event) ↔ Printable env event.request := defined_printed_iff

theorem defined_responseInfo_iff :
    Defined (responseInfo env event) ↔ Printable env event.response := defined_printed_iff

theorem defined_infos_iff :
    Defined (infos env event) ↔ Printable env event.request ∧ Printable env event.response := by
  rw [infos, defined_bind_of_forall fun _ => defined_responseInfo_iff, defined_requestInfo_iff]

/-- A handler that begins with the two lines of the log and has nothing else to go wrong. -/
theorem defined_infos_bind_iff {result : SipServer × List Effect} :
    Defined (infos env event >>= fun _ => (pure result : Except Fault (SipServer × List Effect))) ↔
      Printable env event.request ∧ Printable env event.response := by
  rw [defined_bind_of_forall fun _ => iff_true_intro (defined_pure result), and_true,
    defined_infos_iff]

theorem defined_handlerSipMessageNew_iff :
    Defined (handlerSipMessageNew md5 config env now s event) ↔
      ∃ request, event.request = some request ∧
        (isRegister request → ∀ auth, request.authorizations.head? = some auth →
          auth.username.isSome → RegisterReadable request.toRequest auth) ∧
        (isMessage request → ∀ body, request.bodies.head? = some body →
          ∃ text, body = some text ∧ TextsFit env.logsInfo text) := by
  rw [handlerSipMessageNew, defined_deref_bind]
  refine exists_congr fun request => and_congr_right fun _ => ?_
  split
  · rename_i hregister
    have hmessage : ¬ isMessage request := by
      simp only [isRegister, isMessage, Bool.and_eq_true, beq_iff_eq] at hregister ⊢
      rintro ⟨_, hmethod⟩
      exact absurd (hregister.2.symm.trans hmethod) (by decide)
    rw [defined_bind_of_forall fun _ => iff_true_intro (defined_pure _), and_true,
      defined_responseRegister_iff]
    exact ⟨fun h => ⟨fun _ => h, fun h' => absurd h' hmessage⟩, fun h => h.1 hregister⟩
  · rename_i hregister
    split
    · rename_i hmessage
      rw [defined_bind_of_forall fun _ => iff_true_intro (defined_pure _), and_true,
        defined_responseMessage_iff]
      exact ⟨fun h => ⟨fun h' => absurd h' hregister, fun _ => h⟩, fun h => h.2 hmessage⟩
    · rename_i hmessage
      exact iff_of_true (defined_pure _)
        ⟨fun h => absurd h hregister, fun h => absurd h hmessage⟩

theorem defined_handlerSipMessageAnswerd_iff :
    Defined (handlerSipMessageAnswerd env s event) ↔
      Printable env event.request ∧ ∀ handler, answeredHandler env event = some handler →
        Defined (env.handleMessageResponse handler event) := by
  rw [handlerSipMessageAnswerd]
  cases answeredHandler env event with
  | none =>
      rw [defined_bind_of_forall fun _ => iff_true_intro (defined_pure _), defined_requestInfo_iff]
      simp
  | some handler =>
      rw [defined_bind_of_forall fun _ =>
        defined_bind_of_forall fun _ => iff_true_intro (defined_pure _), defined_requestInfo_iff]
      simp

theorem defined_handlerSipInSubscriptionNew_iff :
    Defined (handlerSipInSubscriptionNew env s event) ↔
      (notifiesAlarm env event → Defined (env.handleAlarmNotify event)) := by
  rw [handlerSipInSubscriptionNew]
  split
  · rename_i hnotifies
    rw [defined_bind_of_forall fun _ => iff_true_intro (defined_pure _), and_true]
    exact ⟨fun h _ => h, fun h => h hnotifies⟩
  · rename_i hnotifies
    exact iff_of_true (defined_pure _) fun h => absurd h hnotifies

/-- The handler of an event runs to its end exactly when what it reads is there. -/
theorem defined_loopSip_iff (md5 : Md5) (config : SipServerConfig) (env : Environment)
    (now : Int) (s : SipServer) (event : SipEvent) :
    Defined (loopSip md5 config env now s event) ↔ Completed env event := by
  rw [loopSip, Completed]
  cases event.type with
  | callMessageNew => exact defined_infos_bind_iff
  | callClosed => exact defined_infos_bind_iff
  | callReleased => exact defined_infos_bind_iff
  | messageNew => exact defined_handlerSipMessageNew_iff
  | messageAnswered => exact defined_handlerSipMessageAnswerd_iff
  | messageRequestFailure => exact defined_infos_bind_iff
  | callInvite => exact iff_true_intro (defined_pure _)
  | callProceeding => exact defined_infos_bind_iff
  | callAnswered => exact defined_infos_bind_iff
  | callServerFailure => exact iff_true_intro (defined_pure _)
  | inSubscriptionNew => exact defined_handlerSipInSubscriptionNew_iff
  | other => exact iff_true_intro (defined_pure _)

theorem defined_step_iff (md5 : Md5) (config : SipServerConfig) (env : Environment)
    (s : SipServer) (delivery : Delivery) :
    Defined (step md5 config env s delivery) ↔ Completed env delivery.event := by
  rw [← defined_loopSip_iff md5 config env delivery.now s, step]
  cases loopSip md5 config env delivery.now s delivery.event with
  | error fault => simp [Except.map]
  | ok result => simp [Except.map]

/-- A sequence of events is handled to its end exactly when each of them has what its
handler reads. -/
theorem defined_run_iff (md5 : Md5) (config : SipServerConfig) (env : Environment)
    (s : SipServer) (deliveries : List Delivery) :
    Defined (run (guarded (step md5 config env)) (.ok s) deliveries) ↔
      ∀ delivery ∈ deliveries, Completed env delivery.event := by
  induction deliveries generalizing s with
  | nil => exact iff_of_true (defined_ok s) nofun
  | cons delivery rest ih =>
      rw [run_cons, guarded_ok, List.forall_mem_cons, ← defined_step_iff md5 config env s delivery]
      cases hstep : step md5 config env s delivery with
      | error fault =>
          have hfault : run (guarded (step md5 config env)) (.error fault) rest = .error fault :=
            run_guarded_error fault rest
          rw [hfault]
          exact iff_of_false (not_defined_error fault) fun h => not_defined_error fault h.1
      | ok s' =>
          rw [ih s']
          exact ⟨fun h => ⟨defined_ok s', h⟩, fun h => h.2⟩

/-- The library and the handlers as they are built, with messages printed by their
method alone. -/
def builtEnvironment : Environment where
  logsInfo := true
  messageToStr := fun message => .set (message.map fun m => m.sipMethod)
  buildAnswer := fun _ _ => true
  buildAck := fun _ => true
  responseCmdType := fun _ => none
  handlersMade := true
  handleMessageResponse := fun _ _ => .ok ()
  handleAlarmNotify := fun _ => .ok ()

def registerEvent (request : Request) : SipEvent where
  type := .messageNew
  tid := 1
  did := 0
  request := some { request with statusCode := 0, headers := [], bodies := [] }
  response := none

/-- A `REGISTER` with `Contact: *`, as a device sends it to be removed. -/
def wildcardRegister : Request := { copiedRegister with contacts := [⟨none⟩] }

theorem not_loopSip_total :
    ¬ ∃ md5, ∀ now s event, Defined (loopSip md5 defaultConfig builtEnvironment now s event) := by
  rintro ⟨md5, hclaim⟩
  have hdefined := hclaim 0 ⟨∅, []⟩ (registerEvent wildcardRegister)
  change Defined (handlerSipMessageNew md5 defaultConfig builtEnvironment 0 ⟨∅, []⟩
    (registerEvent wildcardRegister)) at hdefined
  obtain ⟨_, hrequest, hregister, _⟩ := defined_handlerSipMessageNew_iff.mp hdefined
  obtain rfl := Option.some.inj hrequest
  have hreadable := hregister rfl _ rfl rfl
  obtain ⟨_, _, hcontact, hurl, _⟩ := hreadable.contact
  obtain rfl := Option.some.inj hcontact
  contradiction

end GBServer.SipEvents
