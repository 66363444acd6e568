import GBServer.Foundation.Runs
import GBServer.SipTransactionMatching

/-!
The server transactions of osip for all requests but `INVITE`, driven by eXosip: what comes
from the network, what the application answers, and the timer that ends a transaction.
-/

namespace GBServer.SipServerTransactions

open Foundation.CStrings
open Foundation.Runs
open GBServer.SipTransactionMatching

/-- Microseconds of the monotonic clock. -/
abbrev Time := Nat

/-- `tv_sec`. -/
def seconds (t : Time) : Nat := t / 1000000

def addMs (t : Time) (ms : Nat) : Time := t + ms * 1000

/-- `DEFAULT_T1`, in milliseconds. -/
def defaultT1 : Nat := 500

structure Response (ρ : Type*) where
  statusCode : Nat
  content : ρ
  deriving DecidableEq, Repr

inductive NistState where
  | preTrying
  | trying
  | proceeding
  | completed
  | terminated
  deriving DecidableEq, Repr

inductive EventType where
  | timeoutJ
  | rcvReqinvite
  | rcvReqack
  | rcvRequest
  | sndStatus1xx
  | sndStatus2xx
  | sndStatus3456xx
  deriving DecidableEq, Repr

inductive Event (μ ρ : Type*) where
  | timeoutJ
  | request (sip : Request μ)
  | status (sip : Response ρ)
  deriving DecidableEq, Repr

variable {μ ρ σ : Type*}

def Response.isStatus1xx (sip : Response ρ) : Bool := 100 ≤ sip.statusCode ∧ sip.statusCode < 200

/-- `evt_set_type_outgoing_sipmessage`, and the types of the other events. -/
def Event.type : Event μ ρ → EventType
  | .timeoutJ => .timeoutJ
  | .request sip =>
      if sip.sipMethod = ascii "INVITE" then .rcvReqinvite
      else if sip.sipMethod = ascii "ACK" then .rcvReqack
      else .rcvRequest
  | .status sip =>
      if sip.isStatus1xx then .sndStatus1xx
      else if 200 ≤ sip.statusCode ∧ sip.statusCode < 300 then .sndStatus2xx
      else .sndStatus3456xx

inductive Method where
  | nistRcvRequest
  | nistSnd1xx
  | nistSnd23456xx
  | osipNistTimeoutJEvent
  deriving DecidableEq, Repr

structure Transition where
  state : NistState
  type : EventType
  method : Method

def nistTransition : List Transition :=
  [⟨.preTrying, .rcvRequest, .nistRcvRequest⟩, ⟨.trying, .sndStatus1xx, .nistSnd1xx⟩,
    ⟨.trying, .sndStatus2xx, .nistSnd23456xx⟩, ⟨.trying, .sndStatus3456xx, .nistSnd23456xx⟩,
    ⟨.proceeding, .sndStatus1xx, .nistSnd1xx⟩, ⟨.proceeding, .sndStatus2xx, .nistSnd23456xx⟩,
    ⟨.proceeding, .sndStatus3456xx, .nistSnd23456xx⟩, ⟨.proceeding, .rcvRequest, .nistRcvRequest⟩,
    ⟨.completed, .timeoutJ, .osipNistTimeoutJEvent⟩, ⟨.completed, .rcvRequest, .nistRcvRequest⟩]

def fsmFindmethod (type : EventType) (state : NistState) : Option Method :=
  (nistTransition.find? fun transition => transition.type = type ∧ transition.state = state).map
    Transition.method

/-- `listed` is whether it is in `osip_nist_transactions`. -/
structure Transaction (μ ρ : Type*) where
  transactionid : Nat
  request : Request μ
  createdTime : Time
  state : NistState := .preTrying
  origRequest : Option (Request μ) := none
  lastResponse : Option (Response ρ) := none
  transactionff : List (Event μ ρ) := []
  timerJLength : Nat
  timerJStart : Option Time := none
  listed : Bool := true

/-- What executing an event comes to.  Where something is sent, `sent` is whether
`__osip_transaction_snd_xxx` succeeds. -/
inductive Outcome (μ ρ : Type*) where
  | received (request : Request μ)
  | receivedAgain (answer : Option (Response ρ)) (sent : Bool)
  | answered (answer : Response ρ) (sent : Bool)
  | timedOut

namespace Transaction

/-- `nist_handle_transport_error`; the callback for it takes the transaction off the list. -/
def terminate (tr : Transaction μ ρ) : Transaction μ ρ :=
  { tr with state := .terminated, listed := false }

def nistRcvRequest (sent : Bool) (tr : Transaction μ ρ) (sip : Request μ) :
    Transaction μ ρ × Outcome μ ρ :=
  if tr.state = .preTrying then
    ({ tr with origRequest := some sip, state := .trying }, .received sip)
  else
    match tr.lastResponse with
    | none => (tr, .receivedAgain none true)
    | some answer =>
        (if sent then tr else tr.terminate, .receivedAgain (some answer) sent)

def nistSnd1xx (sent : Bool) (tr : Transaction μ ρ) (sip : Response ρ) :
    Transaction μ ρ × Outcome μ ρ :=
  let answering := { tr with lastResponse := some sip }
  (if sent then { answering with state := .proceeding } else answering.terminate,
    .answered sip sent)

def nistSnd23456xx (now : Time) (sent : Bool) (tr : Transaction μ ρ) (sip : Response ρ) :
    Transaction μ ρ × Outcome μ ρ :=
  let answering := { tr with lastResponse := some sip }
  (if sent then
    { answering with
      timerJStart := if tr.state ≠ .completed then some (addMs now tr.timerJLength)
        else tr.timerJStart
      state := .completed }
  else answering.terminate, .answered sip sent)

def osipNistTimeoutJEvent (tr : Transaction μ ρ) : Transaction μ ρ × Outcome μ ρ :=
  ({ tr.terminate with timerJStart := none }, .timedOut)

def call (now : Time) (sent : Bool) (tr : Transaction μ ρ) :
    Method → Event μ ρ → Transaction μ ρ × Option (Outcome μ ρ)
  | .nistRcvRequest, .request sip => (tr.nistRcvRequest sent sip).map id some
  | .nistSnd1xx, .status sip => (tr.nistSnd1xx sent sip).map id some
  | .nistSnd23456xx, .status sip => (tr.nistSnd23456xx now sent sip).map id some
  | .osipNistTimeoutJEvent, .timeoutJ => tr.osipNistTimeoutJEvent.map id some
  | _, _ => (tr, none)

/-- `osip_transaction_execute`: an event without a transition is useless. -/
def execute (now : Time) (sent : Bool) (tr : Transaction μ ρ) (evt : Event μ ρ) :
    Transaction μ ρ × Option (Outcome μ ρ) :=
  match fsmFindmethod evt.type tr.state with
  | none => (tr, none)
  | some method => tr.call now sent method evt

def needTimerJ (now : Time) (tr : Transaction μ ρ) : Bool :=
  tr.state = .completed ∧ ∃ start ∈ tr.timerJStart, start ≤ now

def addEvent (tr : Transaction μ ρ) (evt : Event μ ρ) : Transaction μ ρ :=
  { tr with transactionff := tr.transactionff ++ [evt] }

def timer (now : Time) (tr : Transaction μ ρ) : Transaction μ ρ :=
  if tr.listed ∧ tr.needTimerJ now then tr.addEvent .timeoutJ else tr

def released (now : Time) (tr : Transaction μ ρ) : Bool :=
  tr.state = .terminated ∨ seconds tr.createdTime + 180 < seconds now

end Transaction

/-- The transports whose `Via` makes a transaction end at once. -/
def isReliable (protocol : CString) : Bool :=
  equalIgnoringCase protocol (ascii "TCP") || equalIgnoringCase protocol (ascii "TLS") ||
    equalIgnoringCase protocol (ascii "SCTP")

def timerJLength (request : Request μ) : Nat :=
  if isReliable request.topvia.protocol then 0 else 64 * defaultT1

def standsAlone (request : Request μ) : Bool :=
  request.sipMethod ∉ [ascii "INVITE", ascii "ACK", ascii "SUBSCRIBE", ascii "REFER"]

/-- The status with which eXosip answers a request that names a call it does not have. -/
def defaultStatus (request : Request μ) : Option Nat :=
  if request.sipMethod ∈ [ascii "CANCEL", ascii "INFO", ascii "BYE"] then some 481 else none

structure Application (μ ρ σ : Type*) where
  handle : σ → Nat → Request μ → σ × Option (Response ρ)
  buildResponseDefault : Nat → Request μ → Option (Response ρ)

inductive Turn (ρ : Type*) where
  | waiting
  | building (tid : Nat) (answer : Response ρ)
  | sending (tid : Nat) (answer : Response ρ)

structure Told (μ ρ : Type*) where
  tid : Nat
  time : Time
  outcome : Outcome μ ρ

structure Opened (μ : Type*) where
  tid : Nat
  request : Request μ
  time : Time

/-- The transactions that are not freed, oldest first, and the events of eXosip that wait for
the application.  The last three fields record what has happened. -/
structure World (μ ρ σ : Type*) where
  nextTransactionid : Nat := 1
  transactions : List (Transaction μ ρ) := []
  events : List (Nat × Request μ) := []
  user : σ
  turn : Turn ρ := .waiting
  opened : List (Opened μ) := []
  told : List (Told μ ρ) := []
  handled : List (Nat × Request μ) := []

inductive Input (μ : Type*) where
  -- a request that no call and no subscription matches, after its `Via` is fixed
  | datagram (now : Time) (request : Request μ)
  -- a transaction that is not in the world takes a number
  | otherTransaction
  -- `sent` is the success of what the `n`-th event of a transaction sends
  | execute (now : Time) (sent : Nat → Nat → Bool)
  | eventWait
  | buildAnswer
  | sendAnswer

namespace World

/-- `osip_transaction_find` among `osip_nist_transactions`. -/
def findMatching (w : World μ ρ σ) (request : Request μ) : Option (Transaction μ ρ) :=
  if request.cseq.method = ascii "INVITE" ∨ request.cseq.method = ascii "ACK" then none
  else w.transactions.find? fun tr =>
    tr.listed && matchingRequest tr.request tr.origRequest request

def modify (w : World μ ρ σ) (tid : Nat) (f : Transaction μ ρ → Transaction μ ρ) :
    World μ ρ σ :=
  { w with
    transactions := w.transactions.map fun tr => if tr.transactionid = tid then f tr else tr }

/-- `osip_transaction_init` and what `_eXosip_process_newrequest` adds. -/
def transactionInit (app : Application μ ρ σ) (w : World μ ρ σ) (now : Time) (request : Request μ) :
    World μ ρ σ :=
  { w with
    nextTransactionid := w.nextTransactionid + 1
    transactions := w.transactions ++
      [{ transactionid := w.nextTransactionid
         request := request
         createdTime := now
         timerJLength := timerJLength request
         transactionff := .request request ::
          ((defaultStatus request).bind (app.buildResponseDefault · request)).toList.map .status }]
    opened := w.opened ++ [⟨w.nextTransactionid, request, now⟩] }

/-- `_eXosip_handle_incoming_message`.  A request that does not stand alone starts a call or a
subscription, whose transaction is not in the world, or is dropped. -/
def datagram (app : Application μ ρ σ) (w : World μ ρ σ) (now : Time) (request : Request μ) :
    World μ ρ σ :=
  match w.findMatching request with
  | some tr => w.modify tr.transactionid fun tr => tr.addEvent (.request request)
  | none => if standsAlone request then w.transactionInit app now request else w

/-- The event of eXosip for an outcome: `cb_rcvcancel` reports to the call only. -/
def announcement (told : Told μ ρ) : Option (Nat × Request μ) :=
  match told.outcome with
  | .received request =>
      if request.sipMethod = ascii "CANCEL" then none else some (told.tid, request)
  | _ => none

def tell (w : World μ ρ σ) (told : Told μ ρ) : World μ ρ σ :=
  { w with
    told := w.told ++ [told]
    events := w.events ++ (announcement told).toList }

def find (w : World μ ρ σ) (tid : Nat) : Option (Transaction μ ρ) :=
  w.transactions.find? (·.transactionid = tid)

def executeNext (now : Time) (sent : Bool) (tid : Nat) (w : World μ ρ σ) : World μ ρ σ :=
  match w.find tid with
  | none => w
  | some tr =>
      match tr.transactionff with
      | [] => w
      | evt :: rest =>
          let executed := { tr with transactionff := rest }.execute now sent evt
          let w := w.modify tid fun _ => executed.1
          match executed.2 with
          | none => w
          | some outcome => w.tell ⟨tid, now, outcome⟩

def executeEvents (now : Time) (sent : Nat → Bool) (w : World μ ρ σ) (tid : Nat) :
    World μ ρ σ :=
  match w.find tid with
  | none => w
  | some tr =>
      (List.range tr.transactionff.length).foldl (fun w n => w.executeNext now (sent n) tid) w

/-- `osip_nist_execute`, over a copy of the list. -/
def nistExecute (now : Time) (sent : Nat → Nat → Bool) (w : World μ ρ σ) : World μ ρ σ :=
  ((w.transactions.filter Transaction.listed).map Transaction.transactionid).foldl
    (fun w tid => w.executeEvents now (sent tid) tid) w

/-- `eXosip_execute` after the socket is read. -/
def execute (now : Time) (sent : Nat → Nat → Bool) (w : World μ ρ σ) : World μ ρ σ :=
  let timed := { w with transactions := w.transactions.map (Transaction.timer now) }
  let executed := timed.nistExecute now sent
  { executed with
    transactions := executed.transactions.filter fun tr => !tr.released now }

/-- `eXosip_event_wait` and the handler up to its answer. -/
def eventWait (app : Application μ ρ σ) (w : World μ ρ σ) : World μ ρ σ :=
  match w.turn, w.events with
  | .waiting, (tid, request) :: events =>
      let handled := app.handle w.user tid request
      { w with
        events := events
        user := handled.1
        turn := match handled.2 with
          | none => .waiting
          | some answer => .building tid answer
        handled := w.handled ++ [(tid, request)] }
  | _, _ => w

def buildAnswer (w : World μ ρ σ) : World μ ρ σ :=
  match w.turn with
  | .building tid answer =>
      if 200 ≤ answer.statusCode ∧ answer.statusCode ≤ 699 ∧ answer.statusCode ≠ 300 ∧
          (w.find tid).isSome then
        { w with turn := .sending tid answer }
      else { w with turn := .waiting }
  | _ => w

def sendAnswer (w : World μ ρ σ) : World μ ρ σ :=
  match w.turn with
  | .sending tid answer =>
      let w := { w with turn := .waiting }
      match w.find tid with
      | none => w
      | some tr =>
          if tr.state = .completed ∨ tr.state = .terminated then w
          else w.modify tid fun tr => tr.addEvent (.status answer)
  | _ => w

def step (app : Application μ ρ σ) (w : World μ ρ σ) : Input μ → World μ ρ σ
  | .datagram now request => w.datagram app now request
  | .otherTransaction => { w with nextTransactionid := w.nextTransactionid + 1 }
  | .execute now sent => w.execute now sent
  | .eventWait => w.eventWait app
  | .buildAnswer => w.buildAnswer
  | .sendAnswer => w.sendAnswer

end World

theorem eventWait_of_answer {app : Application μ ρ σ} {w : World μ ρ σ} {tid : Nat}
    {request : Request μ} {events : List (Nat × Request μ)} {user : σ} {answer : Response ρ}
    (hturn : w.turn = .waiting) (hevents : w.events = (tid, request) :: events)
    (hhandle : app.handle w.user tid request = (user, some answer)) :
    w.eventWait app =
      { w with
        events := events
        user := user
        turn := .building tid answer
        handled := w.handled ++ [(tid, request)] } := by
  rw [World.eventWait, hturn, hevents]
  simp only [hhandle]

variable {tr : Transaction μ ρ} {now : Time} {sent : Bool}

theorem execute_timeoutJ :
    tr.execute now sent .timeoutJ =
      if tr.state = .completed then tr.osipNistTimeoutJEvent.map id some else (tr, none) := by
  cases hstate : tr.state <;>
    simp [Transaction.execute, fsmFindmethod, nistTransition, Event.type, hstate, Transaction.call]

/-- A request that no other kind of transaction is for. -/
def IsRequest (sip : Request μ) : Prop :=
  sip.sipMethod ≠ ascii "INVITE" ∧ sip.sipMethod ≠ ascii "ACK"

theorem isRequest_of_standsAlone {sip : Request μ} (h : standsAlone sip = true) :
    IsRequest sip := by
  have hmethod := of_decide_eq_true h
  simp only [List.mem_cons, not_or] at hmethod
  exact ⟨hmethod.1, hmethod.2.1⟩

theorem execute_request {sip : Request μ} (h : IsRequest sip) :
    tr.execute now sent (.request sip) =
      if tr.state = .trying ∨ tr.state = .terminated then (tr, none)
      else (tr.nistRcvRequest sent sip).map id some := by
  have htype : (Event.request sip : Event μ ρ).type = .rcvRequest := by
    rw [Event.type, if_neg h.1, if_neg h.2]
  cases hstate : tr.state <;>
    simp [Transaction.execute, fsmFindmethod, nistTransition, htype, hstate, Transaction.call]

theorem execute_of_not_isRequest {sip : Request μ} (h : ¬ IsRequest sip) :
    tr.execute now sent (.request sip) = (tr, none) := by
  have htype : (Event.request sip : Event μ ρ).type = .rcvReqinvite ∨
      (Event.request sip : Event μ ρ).type = .rcvReqack := by
    rw [Event.type]
    split
    · exact Or.inl rfl
    · rename_i hinvite
      rw [if_pos (not_not.mp fun hack => h ⟨hinvite, hack⟩)]
      exact Or.inr rfl
  rcases htype with htype | htype <;>
    simp [Transaction.execute, fsmFindmethod, nistTransition, htype]

theorem execute_status (sip : Response ρ) :
    tr.execute now sent (.status sip) =
      if tr.state = .trying ∨ tr.state = .proceeding then
        if sip.isStatus1xx then (tr.nistSnd1xx sent sip).map id some
        else (tr.nistSnd23456xx now sent sip).map id some
      else (tr, none) := by
  have htype : (Event.status sip : Event μ ρ).type = .sndStatus1xx ∧ sip.isStatus1xx = true ∨
      (Event.status sip : Event μ ρ).type = .sndStatus2xx ∧ sip.isStatus1xx = false ∨
        (Event.status sip : Event μ ρ).type = .sndStatus3456xx ∧ sip.isStatus1xx = false := by
    rw [Event.type]
    cases hstatus : sip.isStatus1xx with
    | true => exact Or.inl ⟨rfl, rfl⟩
    | false =>
        rw [if_neg (by simp)]
        split
        · exact Or.inr (Or.inl ⟨rfl, rfl⟩)
        · exact Or.inr (Or.inr ⟨rfl, rfl⟩)
  rcases htype with ⟨htype, hstatus⟩ | ⟨htype, hstatus⟩ | ⟨htype, hstatus⟩ <;>
    cases hstate : tr.state <;>
      simp [Transaction.execute, fsmFindmethod, nistTransition, htype, hstatus, hstate,
        Transaction.call]

theorem execute_of_terminated (tr : Transaction μ ρ) (now : Time) (sent : Bool)
    (h : tr.state = .terminated) (evt : Event μ ρ) : tr.execute now sent evt = (tr, none) := by
  cases evt with
  | timeoutJ => rw [execute_timeoutJ, if_neg (by simp [h])]
  | request sip =>
      by_cases hsip : IsRequest sip
      · rw [execute_request hsip, if_pos (Or.inr h)]
      · exact execute_of_not_isRequest hsip
  | status sip => rw [execute_status, if_neg (by simp [h])]

theorem execute_of_completed (tr : Transaction μ ρ) (now : Time) (sent : Bool)
    (h : tr.state = .completed) (evt : Event μ ρ) :
    (tr.execute now sent evt).1.state = .terminated ∨
      (tr.execute now sent evt).1 = tr ∧ evt ≠ .timeoutJ := by
  cases evt with
  | timeoutJ =>
      rw [execute_timeoutJ, if_pos h]
      exact Or.inl rfl
  | request sip =>
      by_cases hsip : IsRequest sip
      · rw [execute_request hsip, if_neg (by simp [h])]
        have hfresh : tr.state ≠ .preTrying := by simp [h]
        rw [Transaction.nistRcvRequest, if_neg hfresh]
        split
        · exact Or.inr ⟨rfl, nofun⟩
        · cases sent
          · exact Or.inl rfl
          · exact Or.inr ⟨rfl, nofun⟩
      · rw [execute_of_not_isRequest hsip]
        exact Or.inr ⟨rfl, nofun⟩
  | status sip =>
      rw [execute_status, if_neg (by simp [h])]
      exact Or.inr ⟨rfl, nofun⟩

theorem execute_transactionff (evt : Event μ ρ) :
    (tr.execute now sent evt).1.transactionff = tr.transactionff ∧
      (tr.execute now sent evt).1.transactionid = tr.transactionid := by
  cases evt with
  | timeoutJ =>
      rw [execute_timeoutJ]
      split <;> exact ⟨rfl, rfl⟩
  | request sip =>
      by_cases hsip : IsRequest sip
      · rw [execute_request hsip, Transaction.nistRcvRequest]
        split
        · exact ⟨rfl, rfl⟩
        · split
          · exact ⟨rfl, rfl⟩
          · split
            · exact ⟨rfl, rfl⟩
            · cases sent <;> exact ⟨rfl, rfl⟩
      · rw [execute_of_not_isRequest hsip]
        exact ⟨rfl, rfl⟩
  | status sip =>
      rw [execute_status, Transaction.nistSnd1xx, Transaction.nistSnd23456xx]
      split
      · split
        · cases sent <;> exact ⟨rfl, rfl⟩
        · cases sent <;> exact ⟨rfl, rfl⟩
      · exact ⟨rfl, rfl⟩

end GBServer.SipServerTransactions
