import GBServer.Foundation.PostedTasks
import GBServer.MediaService

namespace GBServer.SessionTasks

open Std (ExtTreeMap)
open Foundation.CStrings
open Foundation.Runs
open Foundation.PostedTasks
open Foundation.PostedTasks.TaskQueue
open GBServer.SessionName

inductive SessionTask where
  | checkTimeOut
  | addVideoFrame
  | addAudioFrame
  | addDataChannel
  | consumerRequestKeyFrame
  deriving DecidableEq, Repr

structure PostedTask where
  session : SessionId
  task : SessionTask
  deriving DecidableEq, Repr

/-- Beside the table, `references` are the shared pointers to sessions that handlers and
endpoints hold, one entry for each; `outlived` are the tasks that were executed with a
pointer to a destroyed session. -/
structure State where
  sessions : ExtTreeMap CString SessionId := ∅
  references : List SessionId := []
  next : SessionId := 0
  rtcTaskSafety : SessionId → SafetyFlag := fun _ => .createDetachedInactive
  producer : SessionId → Bool := fun _ => false
  nowMs : Int := 0
  queue : TaskQueue PostedTask := {}
  outlived : List PostedTask := []

inductive Input where
  | createSession (sessionName : CString) (split : Bool)
  | findSession (sessionName : CString)
  | closeSession (sessionName : CString)
  | share (sid : SessionId)
  | release (sid : SessionId)
  | setProducer (sid : SessionId) (producer : Bool)
  | addVideoFrame (sid : SessionId)
  | addAudioFrame (sid : SessionId)
  | addDataChannel (sid : SessionId)
  | consumerRequestKeyFrame (sid : SessionId)
  | elapse (ms : Nat)
  | worker (ticket : Nat)
  deriving DecidableEq, Repr

/-- The worker thread goes on, and nothing else happens. -/
def Input.IsIdle : Input → Prop
  | .elapse _ | .worker _ => True
  | _ => False

namespace State

def stored (sessions : ExtTreeMap CString SessionId) : List SessionId :=
  sessions.toList.map Prod.snd

/-- A session is destroyed when the last shared pointer to it is gone. -/
def Referenced (s : State) (sid : SessionId) : Prop :=
  sid ∈ s.references ∨ sid ∈ stored s.sessions

instance (s : State) (sid : SessionId) : Decidable (s.Referenced sid) :=
  inferInstanceAs (Decidable (_ ∨ _))

def addReference (s : State) (sid : SessionId) : State :=
  { s with references := sid :: s.references }

def checkTimeOut (s : State) (sid : SessionId) : State :=
  { s with queue := s.queue.post (s.nowMs + 5000) ⟨sid, .checkTimeOut⟩ }

/-- The constructor of the session, and its place in the table. -/
def newSession (s : State) (sessionName : CString) : State :=
  { s with
    sessions := s.sessions.insert sessionName s.next
    references := s.next :: s.references
    next := s.next + 1
    rtcTaskSafety := Function.update s.rtcTaskSafety s.next .create }.checkTimeOut s.next

def createSession (s : State) (sessionName : CString) (isSplit : Bool) : State :=
  match s.sessions[sessionName]? with
  | some sid => s.addReference sid
  | none =>
      if isSplit ∧ (split sessionName).length < 2 then s else s.newSession sessionName

def findSession (s : State) (sessionName : CString) : State :=
  match s.sessions[sessionName]? with
  | some sid => s.addReference sid
  | none => s

/-- `Clear` is called through a local pointer that is gone at the end. -/
def closeSession (s : State) (sessionName : CString) : State :=
  match s.sessions[sessionName]? with
  | some sid =>
      { s with
        sessions := s.sessions.erase sessionName
        producer := Function.update s.producer sid false }
  | none => s

/-- A plain `PostTask` from a session that is alive. -/
def postTask (s : State) (sid : SessionId) (task : SessionTask) : State :=
  if s.Referenced sid then { s with queue := s.queue.post s.nowMs ⟨sid, task⟩ } else s

def consumerRequestKeyFrame (s : State) (sid : SessionId) : State :=
  if s.producer sid then s.postTask sid .consumerRequestKeyFrame else s

/-- Only `CheckTimeOut` is under the safety flag, and it posts itself again. -/
def execute (s : State) (p : PostedTask) : State :=
  if p.task = .checkTimeOut ∧ (s.rtcTaskSafety p.session).alive = false then s
  else if s.Referenced p.session then
    if p.task = .checkTimeOut then s.checkTimeOut p.session else s
  else { s with outlived := s.outlived ++ [p] }

def step (s : State) : Input → State
  | .createSession sessionName split => s.createSession sessionName split
  | .findSession sessionName => s.findSession sessionName
  | .closeSession sessionName => s.closeSession sessionName
  | .share sid => if s.Referenced sid then s.addReference sid else s
  | .release sid => { s with references := s.references.erase sid }
  | .setProducer sid producer =>
      if s.Referenced sid then { s with producer := Function.update s.producer sid producer }
      else s
  | .addVideoFrame sid => s.postTask sid .addVideoFrame
  | .addAudioFrame sid => s.postTask sid .addAudioFrame
  | .addDataChannel sid => s.postTask sid .addDataChannel
  | .consumerRequestKeyFrame sid => s.consumerRequestKeyFrame sid
  | .elapse ms => { s with nowMs := s.nowMs + ms }
  | .worker ticket =>
      match s.queue.due? s.nowMs ticket with
      | some e => { s with queue := s.queue.remove s.nowMs ticket }.execute e.task
      | none => s

/-- No task has been executed after its session was destroyed. -/
def NoneOutlived (s : State) : Prop := s.outlived = []

/-- The step does not take the last shared pointer to a session. -/
def KeepsSessions (s : State) : Input → Prop
  | .closeSession sessionName =>
      ∀ sid, s.sessions[sessionName]? = some sid →
        sid ∈ s.references ∨ sid ∈ stored (s.sessions.erase sessionName)
  | .release sid =>
      sid ∈ s.references → sid ∈ s.references.erase sid ∨ sid ∈ stored s.sessions
  | _ => True

theorem mem_stored {sessions : ExtTreeMap CString SessionId} {sid : SessionId} :
    sid ∈ stored sessions ↔ ∃ sessionName : CString, sessions[sessionName]? = some sid := by
  simp only [stored, List.mem_map, Prod.exists, ExtTreeMap.mem_toList_iff_getElem?_eq_some,
    exists_eq_right]

theorem mem_stored_insert {sessions : ExtTreeMap CString SessionId} {sessionName : CString}
    {sid new : SessionId} (h : sid ∈ stored (sessions.insert sessionName new)) :
    sid = new ∨ sid ∈ stored sessions := by
  obtain ⟨name, hname⟩ := mem_stored.mp h
  rw [ExtTreeMap.getElem?_insert] at hname
  split_ifs at hname
  · exact .inl (Option.some.inj hname).symm
  · exact .inr (mem_stored.mpr ⟨name, hname⟩)

theorem mem_stored_erase {sessions : ExtTreeMap CString SessionId} {sessionName : CString}
    {sid : SessionId} (h : sid ∈ stored (sessions.erase sessionName)) :
    sid ∈ stored sessions := by
  obtain ⟨name, hname⟩ := mem_stored.mp h
  rw [ExtTreeMap.getElem?_erase] at hname
  split_ifs at hname
  exact mem_stored.mpr ⟨name, hname⟩

/-- Sessions are known, their flags are alive, and each has its `CheckTimeOut` posted. -/
structure Good (s : State) : Prop where
  numbered : s.queue.Numbered
  known : ∀ sid, s.Referenced sid → sid < s.next
  posted : ∀ e ∈ s.queue.entries, e.task.session < s.next
  safety : ∀ sid < s.next, s.rtcTaskSafety sid = .create
  pending : ∀ sid < s.next, ∃ e ∈ s.queue.entries, e.task = ⟨sid, .checkTimeOut⟩

theorem good_start : Good {} where
  numbered := numbered_empty
  known := by
    rintro sid (h | h)
    · exact absurd h List.not_mem_nil
    · obtain ⟨name, hname⟩ := mem_stored.mp h
      simp at hname
  posted _ h := absurd h List.not_mem_nil
  safety _ h := absurd h (Nat.not_lt_zero _)
  pending _ h := absurd h (Nat.not_lt_zero _)

theorem Good.post {s : State} (h : s.Good) (due : Int) {p : PostedTask}
    (hp : p.session < s.next) : Good { s with queue := s.queue.post due p } where
  numbered := h.numbered.post due p
  known := h.known
  posted := by
    intro e he
    rcases mem_entries_post.mp he with he | rfl
    · exact h.posted e he
    · exact hp
  safety := h.safety
  pending := by
    intro sid hsid
    obtain ⟨e, he, htask⟩ := h.pending sid hsid
    exact ⟨e, mem_entries_post.mpr (.inl he), htask⟩

theorem Good.addReference {s : State} (h : s.Good) {sid : SessionId}
    (hsid : s.Referenced sid) : (s.addReference sid).Good where
  numbered := h.numbered
  known := by
    rintro other (hother | hother)
    · rcases List.mem_cons.mp hother with rfl | hother
      · exact h.known other hsid
      · exact h.known other (.inl hother)
    · exact h.known other (.inr hother)
  posted := h.posted
  safety := h.safety
  pending := h.pending

theorem Good.newSession {s : State} (h : s.Good) (sessionName : CString) :
    (s.newSession sessionName).Good where
  numbered := h.numbered.post _ _
  known := by
    rintro sid (hsid | hsid)
    · rcases List.mem_cons.mp hsid with rfl | hsid
      · exact Nat.lt_succ_self _
      · exact Nat.lt_succ_of_lt (h.known sid (.inl hsid))
    · rcases mem_stored_insert hsid with rfl | hsid
      · exact Nat.lt_succ_self _
      · exact Nat.lt_succ_of_lt (h.known sid (.inr hsid))
  posted := by
    intro e he
    rcases mem_entries_post.mp he with he | rfl
    · exact Nat.lt_succ_of_lt (h.posted e he)
    · exact Nat.lt_succ_self _
  safety := by
    intro sid hsid
    change Function.update s.rtcTaskSafety s.next .create sid = _
    rcases Nat.lt_succ_iff_lt_or_eq.mp hsid with hsid | rfl
    · rw [Function.update_of_ne (Nat.ne_of_lt hsid)]
      exact h.safety sid hsid
    · exact Function.update_self _ _ _
  pending := by
    intro sid hsid
    rcases Nat.lt_succ_iff_lt_or_eq.mp hsid with hsid | rfl
    · obtain ⟨e, he, htask⟩ := h.pending sid hsid
      exact ⟨e, mem_entries_post.mpr (.inl he), htask⟩
    · exact ⟨_, mem_entries_post.mpr (.inr rfl), rfl⟩

theorem Good.postTask {s : State} (h : s.Good) (sid : SessionId) (task : SessionTask) :
    (s.postTask sid task).Good := by
  unfold State.postTask
  split
  case isTrue hsid => exact h.post s.nowMs (h.known sid hsid)
  case isFalse => exact h

/-- What has been taken is executed; if it is the `CheckTimeOut` of a session that is
alive, the next one is posted. -/
theorem Good.worker {s : State} (h : s.Good) {ticket : Nat} {e : Entry PostedTask}
    (hdue : s.queue.due? s.nowMs ticket = some e)
    (hnone : NoneOutlived ({ s with queue := s.queue.remove s.nowMs ticket }.execute e.task)) :
    Good ({ s with queue := s.queue.remove s.nowMs ticket }.execute e.task) := by
  have hknown := h.posted e (mem_entries_of_due? hdue)
  have halive : ¬ (e.task.task = .checkTimeOut ∧
      (s.rtcTaskSafety e.task.session).alive = false) := by
    rw [h.safety _ hknown]
    rintro ⟨_, hflag⟩
    exact absurd hflag (by decide)
  have hnumbered := h.numbered.remove s.nowMs ticket
  have hposted : ∀ a ∈ (s.queue.remove s.nowMs ticket).entries, a.task.session < s.next :=
    fun a ha => h.posted a (mem_entries_of_remove ha)
  unfold execute at hnone ⊢
  rw [if_neg halive] at hnone ⊢
  split_ifs at hnone ⊢ with hreferenced htask
  · refine ⟨hnumbered.post _ _, h.known, ?_, h.safety, ?_⟩
    · intro a ha
      rcases mem_entries_post.mp ha with ha | rfl
      · exact hposted a ha
      · exact hknown
    · intro sid hsid
      obtain ⟨a, ha, hpending⟩ := h.pending sid hsid
      by_cases hae : a = e
      · refine ⟨_, mem_entries_post.mpr (.inr rfl), ?_⟩
        rw [← hae, hpending]
      · exact ⟨a, mem_entries_post.mpr (.inl (mem_entries_remove hdue ha hae)), hpending⟩
  · refine ⟨hnumbered, h.known, hposted, h.safety, ?_⟩
    intro sid hsid
    obtain ⟨a, ha, hpending⟩ := h.pending sid hsid
    refine ⟨a, mem_entries_remove hdue ha ?_, hpending⟩
    rintro rfl
    exact htask (by rw [hpending])
  · exact absurd hnone (by simp [NoneOutlived])

/-- What one input can do. -/
theorem step_rule {P : State → Prop} {s : State} (input : Input)
    (hframe : ∀ producer nowMs, P { s with producer := producer, nowMs := nowMs })
    (hreference : ∀ sid, s.Referenced sid → P (s.addReference sid))
    (hnew : ∀ sessionName : CString, s.sessions[sessionName]? = none →
      P (s.newSession sessionName))
    (hclose : ∀ (sessionName : CString) sid producer, input = .closeSession sessionName →
      s.sessions[sessionName]? = some sid →
        P { s with sessions := s.sessions.erase sessionName, producer := producer })
    (hrelease : ∀ sid, input = .release sid →
      P { s with references := s.references.erase sid })
    (hpost : ∀ sid task, P (s.postTask sid task))
    (hworker : ∀ ticket e, s.queue.due? s.nowMs ticket = some e →
      P ({ s with queue := s.queue.remove s.nowMs ticket }.execute e.task)) :
    P (s.step input) := by
  have hsame : P s := hframe s.producer s.nowMs
  have hstored : ∀ (sessionName : CString) sid, s.sessions[sessionName]? = some sid →
      P (s.addReference sid) :=
    fun sessionName sid hsid => hreference sid (.inr (mem_stored.mpr ⟨sessionName, hsid⟩))
  cases input with
  | createSession sessionName isSplit =>
      simp only [State.step, createSession]
      split
      case h_1 sid hsid => exact hstored sessionName sid hsid
      case h_2 hnone =>
        split
        · exact hsame
        · exact hnew sessionName hnone
  | findSession sessionName =>
      simp only [State.step, findSession]
      split
      case h_1 sid hsid => exact hstored sessionName sid hsid
      case h_2 => exact hsame
  | closeSession sessionName =>
      simp only [State.step, closeSession]
      split
      case h_1 sid hsid => exact hclose sessionName sid _ rfl hsid
      case h_2 => exact hsame
  | share sid =>
      simp only [State.step]
      split
      case isTrue hsid => exact hreference sid hsid
      case isFalse => exact hsame
  | release sid => exact hrelease sid rfl
  | setProducer sid producer =>
      simp only [State.step]
      split
      · exact hframe _ s.nowMs
      · exact hsame
  | addVideoFrame sid => exact hpost sid .addVideoFrame
  | addAudioFrame sid => exact hpost sid .addAudioFrame
  | addDataChannel sid => exact hpost sid .addDataChannel
  | consumerRequestKeyFrame sid =>
      simp only [State.step, State.consumerRequestKeyFrame]
      split
      · exact hpost sid .consumerRequestKeyFrame
      · exact hsame
  | elapse ms => exact hframe s.producer (s.nowMs + ms)
  | worker ticket =>
      simp only [State.step]
      split
      case h_1 e hdue => exact hworker ticket e hdue
      case h_2 => exact hsame

theorem Good.frame {s : State} (h : s.Good) (producer : SessionId → Bool) (nowMs : Int) :
    Good { s with producer := producer, nowMs := nowMs } :=
  ⟨h.numbered, h.known, h.posted, h.safety, h.pending⟩

theorem Good.eraseSession {s : State} (h : s.Good) (sessionName : CString)
    (producer : SessionId → Bool) :
    Good { s with sessions := s.sessions.erase sessionName, producer := producer } := by
  refine ⟨h.numbered, ?_, h.posted, h.safety, h.pending⟩
  rintro sid (hsid | hsid)
  · exact h.known sid (.inl hsid)
  · exact h.known sid (.inr (mem_stored_erase hsid))

theorem Good.eraseReference {s : State} (h : s.Good) (sid : SessionId) :
    Good { s with references := s.references.erase sid } := by
  refine ⟨h.numbered, ?_, h.posted, h.safety, h.pending⟩
  rintro other (hother | hother)
  · exact h.known other (.inl (List.mem_of_mem_erase hother))
  · exact h.known other (.inr hother)

theorem Good.step {s : State} (h : s.Good) (input : Input)
    (hnone : (s.step input).NoneOutlived) : (s.step input).Good := by
  revert hnone
  refine step_rule (P := fun t => t.NoneOutlived → t.Good) input ?_ ?_ ?_ ?_ ?_ ?_ ?_
  · exact fun producer nowMs _ => h.frame producer nowMs
  · exact fun sid hsid _ => h.addReference hsid
  · exact fun sessionName _ _ => h.newSession sessionName
  · exact fun sessionName _ producer _ _ _ => h.eraseSession sessionName producer
  · exact fun sid _ _ => h.eraseReference sid
  · exact fun sid task _ => h.postTask sid task
  · exact fun ticket e hdue hnone => h.worker hdue hnone

/-- Every known session is still alive, and no task has met a destroyed one. -/
def AllAlive (s : State) : Prop :=
  s.Good ∧ s.NoneOutlived ∧ ∀ sid < s.next, s.Referenced sid

theorem AllAlive.of_referenced {s t : State} (h : s.AllAlive) (hgood : t.NoneOutlived → t.Good)
    (hnone : t.outlived = s.outlived) (hnext : t.next = s.next)
    (hreferenced : ∀ sid, s.Referenced sid → t.Referenced sid) : t.AllAlive := by
  have hnone' : t.NoneOutlived := hnone.trans h.2.1
  refine ⟨hgood hnone', hnone', ?_⟩
  intro sid hsid
  rw [hnext] at hsid
  exact hreferenced sid (h.2.2 sid hsid)

theorem AllAlive.worker {s : State} (h : s.AllAlive) {ticket : Nat} {e : Entry PostedTask}
    (hdue : s.queue.due? s.nowMs ticket = some e) :
    ({ s with queue := s.queue.remove s.nowMs ticket }.execute e.task).AllAlive := by
  have hreferenced := h.2.2 _ (h.1.posted e (mem_entries_of_due? hdue))
  refine h.of_referenced (h.1.worker hdue) ?_ ?_ ?_
  all_goals
    simp only [execute]
    split_ifs
  all_goals first | rfl | exact fun _ hsid => hsid | exact absurd hreferenced ‹_›

theorem mem_stored_of_erase {sessions : ExtTreeMap CString SessionId} {sessionName : CString}
    {sid : SessionId} (h : sid ∈ stored sessions) :
    sessions[sessionName]? = some sid ∨ sid ∈ stored (sessions.erase sessionName) := by
  obtain ⟨name, hname⟩ := mem_stored.mp h
  by_cases hsame : sessionName = name
  · exact .inl (hsame ▸ hname)
  · refine .inr (mem_stored.mpr ⟨name, ?_⟩)
    rw [ExtTreeMap.getElem?_erase, if_neg]
    · exact hname
    · exact fun heq => hsame (Std.LawfulEqCmp.eq_of_compare heq)

theorem AllAlive.newSession {s : State} (h : s.AllAlive) (sessionName : CString)
    (hnew : s.sessions[sessionName]? = none) : (s.newSession sessionName).AllAlive := by
  refine ⟨h.1.newSession sessionName, h.2.1, ?_⟩
  intro sid hsid
  rcases Nat.lt_succ_iff_lt_or_eq.mp hsid with hsid | rfl
  · rcases h.2.2 sid hsid with hreferenced | hreferenced
    · exact .inl (List.mem_cons_of_mem _ hreferenced)
    · obtain ⟨name, hname⟩ := mem_stored.mp hreferenced
      refine .inr (mem_stored.mpr ⟨name, ?_⟩)
      change (s.sessions.insert sessionName s.next)[name]? = _
      rw [ExtTreeMap.getElem?_insert, if_neg]
      · exact hname
      · intro heq
        obtain rfl := Std.LawfulEqCmp.eq_of_compare heq
        exact absurd (hnew.symm.trans hname) (by simp)
  · exact .inl List.mem_cons_self

theorem AllAlive.postTask {s : State} (h : s.AllAlive) (sid : SessionId)
    (task : SessionTask) : (s.postTask sid task).AllAlive := by
  refine h.of_referenced (fun _ => h.1.postTask sid task) ?_ ?_ ?_
  all_goals
    unfold State.postTask
    split
  all_goals first | rfl | exact fun _ hsid => hsid

/-- A step that takes no last pointer keeps all sessions alive. -/
theorem AllAlive.step {s : State} (h : s.AllAlive) (input : Input)
    (hkeeps : s.KeepsSessions input) : (s.step input).AllAlive := by
  refine step_rule input ?_ ?_ ?_ ?_ ?_ ?_ ?_
  · intro producer nowMs
    exact h.of_referenced (fun _ => h.1.frame producer nowMs) rfl rfl fun _ hsid => hsid
  · intro sid hsid
    exact h.of_referenced (fun _ => h.1.addReference hsid) rfl rfl
      fun _ hother => hother.imp (List.mem_cons_of_mem _) id
  · exact h.newSession
  · rintro sessionName closed producer rfl _
    refine h.of_referenced (fun _ => h.1.eraseSession sessionName producer) rfl rfl ?_
    rintro sid (hsid | hsid)
    · exact .inl hsid
    · rcases @mem_stored_of_erase _ sessionName _ hsid with hclosed | hsid
      · exact hkeeps sid hclosed
      · exact .inr hsid
  · rintro released rfl
    refine h.of_referenced (fun _ => h.1.eraseReference released) rfl rfl ?_
    rintro other (hother | hother)
    · by_cases hsame : other = released
      · subst hsame
        exact hkeeps hother
      · exact .inl ((List.mem_erase_of_ne hsame).mpr hother)
    · exact .inr hother
  · exact h.postTask
  · exact fun ticket e hdue => h.worker hdue

/-- The last shared pointer to a session that was there is gone. -/
def Destroyed (s : State) (sid : SessionId) : Prop := sid < s.next ∧ ¬ s.Referenced sid

theorem exists_destroyed {s : State} (h : s.Good) {input : Input}
    (hkeeps : ¬ s.KeepsSessions input) : ∃ sid, (s.step input).Destroyed sid := by
  cases input with
  | closeSession sessionName =>
      simp only [KeepsSessions, not_forall, not_or] at hkeeps
      obtain ⟨sid, hentry, hheld, hstored⟩ := hkeeps
      have hstep : (s.step (.closeSession sessionName)).references = s.references ∧
          (s.step (.closeSession sessionName)).sessions = s.sessions.erase sessionName ∧
            (s.step (.closeSession sessionName)).next = s.next := by
        simp [State.step, closeSession, hentry]
      refine ⟨sid, ?_, ?_⟩
      · rw [hstep.2.2]
        exact h.known sid (.inr (mem_stored.mpr ⟨sessionName, hentry⟩))
      · rw [Referenced, hstep.1, hstep.2.1]
        exact not_or.mpr ⟨hheld, hstored⟩
  | release sid =>
      simp only [KeepsSessions, Classical.not_imp, not_or] at hkeeps
      exact ⟨sid, h.known sid (.inl hkeeps.1), not_or.mpr hkeeps.2⟩
  | _ => exact absurd trivial hkeeps

theorem Destroyed.addReference {s : State} {sid other : SessionId} (h : s.Destroyed sid)
    (hother : s.Referenced other) : (s.addReference other).Destroyed sid := by
  refine ⟨h.1, ?_⟩
  rintro (hsid | hsid)
  · rcases List.mem_cons.mp hsid with rfl | hsid
    · exact h.2 hother
    · exact h.2 (.inl hsid)
  · exact h.2 (.inr hsid)

theorem Destroyed.postTask {s : State} {sid : SessionId} (h : s.Destroyed sid)
    (other : SessionId) (task : SessionTask) : (s.postTask other task).Destroyed sid := by
  unfold State.postTask
  split
  · exact h
  · exact h

theorem Destroyed.newSession {s : State} {sid : SessionId} (h : s.Destroyed sid)
    (sessionName : CString) : (s.newSession sessionName).Destroyed sid := by
  refine ⟨Nat.lt_succ_of_lt h.1, ?_⟩
  rintro (hsid | hsid)
  · rcases List.mem_cons.mp hsid with rfl | hsid
    · exact Nat.lt_irrefl _ h.1
    · exact h.2 (.inl hsid)
  · rcases mem_stored_insert hsid with rfl | hsid
    · exact Nat.lt_irrefl _ h.1
    · exact h.2 (.inr hsid)

/-- No step brings a destroyed session back. -/
theorem Destroyed.step {s : State} {sid : SessionId} (h : s.Destroyed sid) (input : Input) :
    (s.step input).Destroyed sid := by
  refine step_rule (P := fun t => t.Destroyed sid) input ?_ ?_ ?_ ?_ ?_ ?_ ?_
  · exact fun _ _ => h
  · exact fun other hother => h.addReference hother
  · exact fun sessionName _ => h.newSession sessionName
  · intro sessionName closed producer _ _
    refine ⟨h.1, ?_⟩
    rintro (hsid | hsid)
    · exact h.2 (.inl hsid)
    · exact h.2 (.inr (mem_stored_erase hsid))
  · intro released _
    refine ⟨h.1, ?_⟩
    rintro (hsid | hsid)
    · exact h.2 (.inl (List.mem_of_mem_erase hsid))
    · exact h.2 (.inr hsid)
  · exact fun other task => h.postTask other task
  · intro ticket e _
    unfold execute
    split_ifs <;> exact h

theorem outlived_execute {s : State} {p : PostedTask}
    (hflag : (s.rtcTaskSafety p.session).alive = true) (hgone : ¬ s.Referenced p.session) :
    (s.execute p).outlived = s.outlived ++ [p] := by
  simp [execute, hflag, hgone]

theorem Destroyed.outlived {s : State} {sid : SessionId} (h : s.Destroyed sid)
    (hgood : s.Good) :
    ∃ more, (∀ input ∈ more, input.IsIdle) ∧ ¬ (run State.step s more).NoneOutlived := by
  obtain ⟨e, he, htask⟩ := hgood.pending sid h.1
  refine ⟨[.elapse (e.due - s.nowMs).toNat, .worker e.ticket], ?_, ?_⟩
  · intro input hinput
    simp only [List.mem_cons, List.not_mem_nil, or_false] at hinput
    rcases hinput with rfl | rfl <;> trivial
  · have hsession : e.task.session = sid := by rw [htask]
    have hlate : e.due ≤ s.nowMs + (e.due - s.nowMs).toNat := by omega
    have hdue := hgood.numbered.due?_eq_some he hlate
    have hflag : (s.rtcTaskSafety e.task.session).alive = true := by
      rw [hsession, hgood.safety sid h.1]
      rfl
    have hgone : ¬ s.Referenced e.task.session := by
      rw [hsession]
      exact h.2
    have hexecuted := @outlived_execute
      { s with
        nowMs := s.nowMs + (e.due - s.nowMs).toNat
        queue := s.queue.remove (s.nowMs + (e.due - s.nowMs).toNat) e.ticket }
      e.task hflag hgone
    intro hnone
    simp only [run_cons, run_nil, State.step, hdue, NoneOutlived] at hnone
    rw [hexecuted] at hnone
    simp at hnone

end State

open State

theorem allAlive_start : AllAlive {} :=
  ⟨good_start, rfl, fun _ h => absurd h (Nat.not_lt_zero _)⟩

/-- A run is safe, with all that the worker thread still does after it, exactly when it
never takes the last shared pointer to a session. -/
theorem noneOutlived_iff (inputs : List Input) :
    (∀ more, (∀ input ∈ more, input.IsIdle) →
        Throughout State.step NoneOutlived {} (inputs ++ more)) ↔
      Admitted State.step KeepsSessions {} inputs := by
  constructor
  · intro hsafe front input back heq
    by_contra hkeeps
    have hnone := hsafe [] (fun _ h => absurd h List.not_mem_nil)
    rw [List.append_nil] at hnone
    have hgood : ∀ front back, inputs = front ++ back → (run State.step {} front).Good := by
      intro front
      induction front using List.reverseRecOn with
      | nil => exact fun _ _ => good_start
      | append_singleton front last ih =>
          intro back heq
          rw [List.append_assoc] at heq
          have hlast := hnone (front ++ [last]) back (by rw [heq, List.append_assoc])
          rw [run_concat] at hlast ⊢
          exact (ih _ heq).step last hlast
    obtain ⟨sid, hsid⟩ := exists_destroyed (hgood front _ heq) hkeeps
    have hend : (run State.step {} inputs).Destroyed sid := by
      rw [heq, run_append, run_cons]
      exact invariant_run_of_step (P := fun t : State => t.Destroyed sid) hsid
        (fun _ next h => h.step next) back
    obtain ⟨more, hidle, houtlived⟩ := hend.outlived (hgood inputs [] (List.append_nil _).symm)
    apply houtlived
    rw [← run_append]
    exact hsafe more hidle (inputs ++ more) [] (List.append_nil _).symm
  · intro hkeeps more hidle
    have hmore : Admitted State.step KeepsSessions {} (inputs ++ more) := by
      rw [admitted_append]
      refine ⟨hkeeps, ?_⟩
      rintro front input back rfl
      have hinput := hidle input (by simp)
      cases input <;> trivial
    have hall := throughout_of_admitted allAlive_start
      (fun _ input h hkeep => AllAlive.step h input hkeep) hmore
    intro front back heq
    exact (hall front back heq).2.1

/-- A session is created and closed, and five seconds later its `CheckTimeOut` runs. -/
def createAndClose : List Input :=
  [.createSession (ascii "live/1") true, .release 0, .closeSession (ascii "live/1"),
    .elapse 5000, .worker 0]

theorem not_noneOutlived_closeSession :
    ¬ ∀ inputs : List Input, Throughout State.step NoneOutlived {} inputs := by
  intro hall
  have hlast : (run State.step {} createAndClose).outlived = [] :=
    hall createAndClose createAndClose [] (List.append_nil _).symm
  exact absurd hlast (by decide)

end GBServer.SessionTasks
