import GBServer.HttpAnswers
import GBServer.MediaRuns

namespace GBServer.WebService

open Foundation.CStrings
open Foundation.Memory
open Foundation.Runs
open GBServer.GbMediaService
open GBServer.SessionName
open GBServer.JsonRequests
open Std (ExtTreeMap)

section Paths

/-- A name that stands between the slashes of a path, without an extension. -/
structure PathName where
  name : CString
  nonempty : name ≠ []
  slash_notMem : slash ∉ name
  dot_notMem : dot ∉ name

/-- `/app/stream` -/
def streamPath (app stream : PathName) : CString := slash :: (app.name ++ slash :: stream.name)

def flvPath (app stream : PathName) : CString := streamPath app stream ++ dot :: ascii "flv"

def m3u8Path (app stream : PathName) : CString := streamPath app stream ++ dot :: ascii "m3u8"

def tsPath (app stream fragment : PathName) : CString :=
  streamPath app stream ++ slash :: fragment.name ++ dot :: ascii "ts"

def streamName (app stream : PathName) : CString := app.name ++ slash :: stream.name

theorem flvUrl_of_ext (base : CString) {ext : CString} (hext : dot ∉ ext) :
    flvUrl (base ++ dot :: ext) = ascii "http://chensong.com" ++ base := by
  have hskipped : ((base ++ dot :: ext).reverse.dropWhile (· ≠ dot)) = dot :: base.reverse := by
    rw [List.reverse_append, List.reverse_cons, List.append_assoc, List.dropWhile_append_of_pos]
    · simp
    · intro byte hbyte
      have hne : byte ≠ dot := fun heq => hext (heq ▸ List.mem_reverse.mp hbyte)
      simpa using hne
  rw [flvUrl, if_pos (List.mem_append_right base List.mem_cons_self), hskipped, List.drop_one,
    List.tail_cons, List.reverse_reverse]

theorem split_cons_of_notMem {name rest : CString} (h : slash ∉ name) :
    split (name ++ slash :: rest) = name :: split rest :=
  List.splitOn_append_cons_self_of_not_mem h rest

theorem split_of_notMem {name : CString} (h : slash ∉ name) : split name = [name] :=
  List.splitOn_eq_singleton h

theorem getSessionNameFromUrl_streamPath (app stream : PathName) :
    getSessionNameFromUrl (ascii "http://chensong.com" ++ streamPath app stream) =
      streamName app stream := by
  have hsplit : split (ascii "http://chensong.com" ++ streamPath app stream) =
      [ascii "http:", [], ascii "chensong.com", app.name, stream.name] := by
    have hurl : ascii "http://chensong.com" ++ streamPath app stream =
        ascii "http:" ++ slash :: (ascii "" ++ slash :: (ascii "chensong.com" ++
          slash :: (app.name ++ slash :: stream.name))) := rfl
    rw [hurl, split_cons_of_notMem (by decide), split_cons_of_notMem (by decide),
      split_cons_of_notMem (by decide), split_cons_of_notMem app.slash_notMem,
      split_of_notMem stream.slash_notMem]
    rfl
  rw [getSessionNameFromUrl, hsplit]
  rfl

theorem getSessionNameFromUrl_fragmentPath (app stream fragment : PathName) :
    getSessionNameFromUrl
        (ascii "http://chensong.com" ++ (streamPath app stream ++ slash :: fragment.name)) =
      streamName stream fragment := by
  have hsplit : split
      (ascii "http://chensong.com" ++ (streamPath app stream ++ slash :: fragment.name)) =
      [ascii "http:", [], ascii "chensong.com", app.name, stream.name, fragment.name] := by
    have hurl : ascii "http://chensong.com" ++ (streamPath app stream ++ slash :: fragment.name) =
        ascii "http:" ++ slash :: (ascii "" ++ slash :: (ascii "chensong.com" ++
          slash :: (app.name ++ slash :: (stream.name ++ slash :: fragment.name)))) := by
      rw [streamPath, List.cons_append, List.append_assoc]
      rfl
    rw [hurl, split_cons_of_notMem (by decide), split_cons_of_notMem (by decide),
      split_cons_of_notMem (by decide), split_cons_of_notMem app.slash_notMem,
      split_cons_of_notMem stream.slash_notMem, split_of_notMem fragment.slash_notMem]
    rfl
  rw [getSessionNameFromUrl, hsplit]
  rfl

end Paths

section Fragments

variable {Stun : Type*} (api : MediaApi Stun) (json : JsonCpp) (around : Surroundings)
  (s : GbMediaService) (httpApiStats : Bool)

def get (path : CString) : Except Fault (GbMediaService × Outcome) :=
  onRequest api json around s httpApiStats true ⟨true, .get, path⟩ (some [])

/-- The request for a fragment works on the session that the playlist and the FLV stream
work on, asks it for that fragment, and is answered with 200 or, if there is no such
fragment, with 404. -/
structure FragmentServed (app stream fragment : PathName) : Prop where
  sameSession : ∃ s₁ playList s₂ viewer s₃ served,
    get api json around s httpApiStats (m3u8Path app stream) = .ok (s₁, playList) ∧
    get api json around s httpApiStats (flvPath app stream) = .ok (s₂, viewer) ∧
    get api json around s httpApiStats (tsPath app stream fragment) = .ok (s₃, served) ∧
    served.session = playList.session ∧ served.session = viewer.session
  asked : ∃ s₃ served,
    get api json around s httpApiStats (tsPath app stream fragment) = .ok (s₃, served) ∧
    served.asked = some fragment.name
  answered : ∃ s₃ served sid responses,
    get api json around s httpApiStats (tsPath app stream fragment) = .ok (s₃, served) ∧
    served.session = some sid ∧ runNetworkTasks served.tasks = .ok responses ∧
    responses.map HttpResponse.status =
      [if (around.fragment sid fragment.name).isSome then 200 else 404]

variable {api json around s httpApiStats}

theorem asked_answerResponse (answer : Answer) : (answerResponse answer).asked = none := by
  cases answer <;> rfl

theorem asked_namedStats (mark path : CString) (stats : CString → Option CString) :
    (namedStats mark path stats).asked = none := by
  rw [namedStats]
  split
  · rfl
  · split
    · rfl
    · split <;> rfl

theorem asked_of_pure {s' t : GbMediaService} {given outcome : Outcome}
    (h : (pure (t, given) : Except Fault (GbMediaService × Outcome)) = .ok (s', outcome)) :
    outcome.asked = given.asked :=
  congrArg Outcome.asked (pure_pair_eq_ok.mp h).2.symm

theorem asked_handle {s' : GbMediaService} {req : HttpRequest} {packet : Option CString}
    {handler : Handler} {outcome : Outcome}
    (h : handle api json around s req packet handler = .ok (s', outcome)) :
    outcome.asked = none ∨ outcome.asked = some [] := by
  cases handler with
  | rtcProducer | rtcConsumer | openRtpServer =>
      obtain ⟨_, _, h⟩ := bind_eq_ok.mp h
      exact Or.inl ((asked_of_pure h).trans (asked_answerResponse _))
  | closeRtpServer =>
      obtain ⟨_, _, h⟩ := bind_eq_ok.mp h
      obtain ⟨_, _, h⟩ := bind_eq_ok.mp h
      exact Or.inl ((asked_of_pure h).trans (asked_answerResponse _))
  | flvConsumer => exact Or.inl ((asked_of_pure h).trans (asked_answerResponse _))
  | m3u8Consumer =>
      rw [handle, handlerM3u8Consumer] at h
      split at h
      · exact Or.inl (asked_of_pure h)
      · split at h
        · exact Or.inl (asked_of_pure h)
        · exact Or.inl (asked_of_pure h)
  | tsConsumer =>
      rw [handle, handlerTsConsumer] at h
      split at h
      · exact Or.inl (asked_of_pure h)
      · exact Or.inr (asked_of_pure h)
  | systemStats | allSessionsStats => exact Or.inl (asked_of_pure h)
  | producerStats | consumerStats | sessionStats =>
      exact Or.inl ((asked_of_pure h).trans (asked_namedStats _ _ _))

theorem asked_get {path : CString} {s' : GbMediaService} {outcome : Outcome}
    (h : get api json around s httpApiStats path = .ok (s', outcome)) :
    outcome.asked = none ∨ outcome.asked = some [] := by
  simp only [get, onRequest, Bool.and_self, if_true, reduceCtorEq, if_false] at h
  split at h
  · exact asked_handle h
  · exact Or.inl (asked_of_pure h)

theorem not_fragmentServed (app stream fragment : PathName) :
    ¬ FragmentServed api json around s httpApiStats app stream fragment := by
  rintro ⟨_, ⟨_, _, hget, hasked⟩, _⟩
  rcases asked_get hget with hnone | hempty
  · rw [hasked] at hnone
    contradiction
  · rw [hasked] at hempty
    exact fragment.nonempty (Option.some.inj hempty)

end Fragments

/-- The name of a fragment's path is not the one of its stream, and the fragment is
never served. -/
theorem fragments_never_served {Stun : Type*} (api : MediaApi Stun) (json : JsonCpp)
    (around : Surroundings) (s : GbMediaService) (httpApiStats : Bool)
    (app stream fragment : PathName) :
    getSessionNameFromUrl (flvUrl (flvPath app stream)) = streamName app stream ∧
      getSessionNameFromUrl (flvUrl (m3u8Path app stream)) = streamName app stream ∧
      getSessionNameFromUrl (flvUrl (tsPath app stream fragment)) = streamName stream fragment ∧
      ¬ FragmentServed api json around s httpApiStats app stream fragment := by
  refine ⟨?_, ?_, ?_, not_fragmentServed app stream fragment⟩
  · rw [flvPath, flvUrl_of_ext _ (by decide), getSessionNameFromUrl_streamPath]
  · rw [m3u8Path, flvUrl_of_ext _ (by decide), getSessionNameFromUrl_streamPath]
  · rw [tsPath, flvUrl_of_ext _ (by decide), getSessionNameFromUrl_fragmentPath]

def samplePathName : PathName where
  name := ascii "live"
  nonempty := by decide
  slash_notMem := by decide
  dot_notMem := by decide

theorem not_fragments_served :
    ¬ ∀ app stream fragment, FragmentServed sampleApi sampleJson sampleSurroundings
      (startup sampleConfig) false app stream fragment := by
  intro hclaim
  exact not_fragmentServed _ _ _ (hclaim samplePathName samplePathName samplePathName)

section Reads

/-- What reaches the media service, with the requests for playlists and fragments. -/
inductive ServerInput where
  | media (input : GbMediaService.Input)
  | playList (path : CString) (around : Surroundings)
  | fragment (path : CString) (around : Surroundings)

def serverStep {Stun : Type*} (api : MediaApi Stun) (s : GbMediaService) :
    ServerInput → Except Fault GbMediaService
  | .media input => s.step api input
  | .playList path around => (handlerM3u8Consumer around s path).map Prod.fst
  | .fragment path around => (handlerTsConsumer around s path).map Prod.fst

def streamOfPath (path : CString) : CString := getSessionNameFromUrl (flvUrl path)

/-- The sessions that have begun their `CheckTimeOut`: all that were ever made. -/
def timers (s : GbMediaService) : Set SessionId := {sid | sid < s.rtcServiceIndex}

def Unused (s : GbMediaService) (sessionName : CString) : Prop :=
  ∀ sid, s.sessions[sessionName]? = some sid →
    (s.sessionHeap sid).producer = none ∧ (s.sessionHeap sid).consumers = []

def SameSessions (s s' : GbMediaService) : Prop :=
  s'.sessions = s.sessions ∧ timers s' = timers s

/-- The request for a playlist or a fragment of an unused stream leaves no trace. -/
def ReadKeeps {Stun : Type*} (api : MediaApi Stun) (s : GbMediaService) : ServerInput → Prop
  | .media _ => True
  | .playList path around =>
      Unused s (streamOfPath path) →
        OnOk (SameSessions s) (serverStep api s (.playList path around))
  | .fragment path around =>
      Unused s (streamOfPath path) →
        OnOk (SameSessions s) (serverStep api s (.fragment path around))

/-- A path is read only if its stream has a session, or has too few fields for one. -/
def ReadKnown (s : GbMediaService) : ServerInput → Prop
  | .media _ => True
  | .playList path _ | .fragment path _ =>
      streamOfPath path ∈ s.sessions ∨ (split (streamOfPath path)).length < 2

variable {Stun : Type*} {api : MediaApi Stun} {s : GbMediaService} {path : CString}
  {around : Surroundings}

theorem handlerM3u8Consumer_fst :
    (handlerM3u8Consumer around s path).map Prod.fst = .ok (sessionOfPath s path).1 := by
  rw [handlerM3u8Consumer]
  rcases sessionOfPath s path with ⟨s', _ | sid⟩
  · rfl
  · dsimp only
    split <;> rfl

theorem handlerTsConsumer_fst :
    (handlerTsConsumer around s path).map Prod.fst = .ok (sessionOfPath s path).1 := by
  rw [handlerTsConsumer]
  rcases sessionOfPath s path with ⟨s', _ | sid⟩
  · rfl
  · rfl

theorem sameSessions_createSession_iff {sessionName : CString} :
    SameSessions s (s.createSession sessionName).1 ↔
      sessionName ∈ s.sessions ∨ (split sessionName).length < 2 := by
  rcases hcreate : s.createSession sessionName with ⟨s', _ | sid⟩
  · obtain ⟨_, hshort, rfl⟩ := createSession_of_none hcreate
    exact iff_of_true ⟨rfl, rfl⟩ (Or.inr hshort)
  · rcases createSession_of_some hcreate with ⟨hfound, rfl⟩ | ⟨hfree, hfields, rfl, _⟩
    · refine iff_of_true ⟨rfl, rfl⟩ (Or.inl ?_)
      rw [ExtTreeMap.mem_iff_isSome_getElem?, hfound]
      rfl
    · have hnew : sessionName ∉ s.sessions := by
        rw [ExtTreeMap.mem_iff_isSome_getElem?, hfree]
        nofun
      refine iff_of_false ?_ ?_
      · rintro ⟨hsessions, _⟩
        have hmem : sessionName ∈ (s.newSession sessionName).sessions :=
          ExtTreeMap.mem_insert_self
        rw [hsessions] at hmem
        exact hnew hmem
      · rintro (hmem | hshort)
        · exact hnew hmem
        · omega

/-- Reading an unused stream leaves no trace exactly when its session is there or
cannot be made; that of a used one is there. -/
theorem sameSessions_sessionOfPath_iff :
    (Unused s (streamOfPath path) → SameSessions s (sessionOfPath s path).1) ↔
      streamOfPath path ∈ s.sessions ∨ (split (streamOfPath path)).length < 2 := by
  rw [sessionOfPath, sameSessions_createSession_iff]
  constructor
  · intro h
    by_cases hmem : streamOfPath path ∈ s.sessions
    · exact Or.inl hmem
    · apply h
      intro sid hlisted
      exact absurd (ExtTreeMap.mem_iff_isSome_getElem?.mpr (by rw [hlisted]; rfl)) hmem
  · intro h _
    exact h

theorem readKeeps_iff (input : ServerInput) : ReadKeeps api s input ↔ ReadKnown s input := by
  cases input with
  | media input => exact Iff.rfl
  | playList path around =>
      rw [ReadKeeps, serverStep, handlerM3u8Consumer_fst, onOk_ok]
      exact sameSessions_sessionOfPath_iff
  | fragment path around =>
      rw [ReadKeeps, serverStep, handlerTsConsumer_fst, onOk_ok]
      exact sameSessions_sessionOfPath_iff

/-- The stream that an input publishes, plays or opens a server for. -/
def requestedStream : ServerInput → Option CString
  | .media (.push (.offer streamurl _) _ _) | .media (.play (.offer streamurl _) _ _) =>
      some (getSessionNameFromUrl streamurl)
  | .media (.flv path _ _) => some (streamOfPath path)
  | .media (.openRtpServer (.request _ streamId) _ _ _) =>
      some (getSessionNameFromUrl (gb28181Url streamId))
  | _ => none

/-- No sessions but those of before and the one asked for. -/
def Adds (s : GbMediaService) (requested : Option CString) (s' : GbMediaService) : Prop :=
  ∀ name, name ∈ s'.sessions → name ∈ s.sessions ∨ requested = some name

theorem adds_of_sessions_eq {s' : GbMediaService} {requested : Option CString}
    (h : s'.sessions = s.sessions) : Adds s requested s' := by
  intro name hname
  exact Or.inl (h ▸ hname)

theorem adds_createSession {s' t : GbMediaService} {sessionName : CString}
    {found : Option SessionId} (hcreate : s.createSession sessionName = (s', found))
    (ht : t.sessions = s'.sessions) : Adds s (some sessionName) t := by
  intro name hname
  rw [ht] at hname
  revert name
  change Adds s (some sessionName) s'
  cases found with
  | none =>
      obtain ⟨_, _, rfl⟩ := createSession_of_none hcreate
      exact adds_of_sessions_eq rfl
  | some sid =>
      rcases createSession_of_some hcreate with ⟨_, rfl⟩ | ⟨_, _, rfl, _⟩
      · exact adds_of_sessions_eq rfl
      · intro name hname
        rcases ExtTreeMap.mem_insert.mp hname with heq | hname
        · exact Or.inr (congrArg some (Std.LawfulEqCmp.compare_eq_iff_eq.mp heq))
        · exact Or.inl hname

section Requests

variable (h : s.Linked)

include h

theorem adds_handlerRtcProducer (streamurl sdp : CString) (secrets : IceSecrets) (nowMs : Int) :
    Adds s (some (getSessionNameFromUrl streamurl))
      (s.handlerRtcProducer api (.offer streamurl sdp) secrets nowMs).1 := by
  rcases hcreate : s.createSession (getSessionNameFromUrl streamurl) with ⟨s', _ | sid⟩
  · rw [handlerRtcProducer_rejected api secrets nowMs hcreate]
    exact adds_of_sessions_eq rfl
  · rw [handlerRtcProducer_offer api secrets nowMs h hcreate]
    split
    · exact adds_createSession hcreate rfl
    · exact adds_createSession hcreate rfl

theorem adds_handlerRtcConsumer (streamurl sdp : CString) (secrets : IceSecrets) (nowMs : Int) :
    Adds s (some (getSessionNameFromUrl streamurl))
      (s.handlerRtcConsumer api (.offer streamurl sdp) secrets nowMs).1 := by
  rcases hcreate : s.createSession (getSessionNameFromUrl streamurl) with ⟨s', _ | sid⟩
  · rw [handlerRtcConsumer_rejected api secrets nowMs hcreate]
    exact adds_of_sessions_eq rfl
  · rw [handlerRtcConsumer_offer api secrets nowMs h hcreate]
    split
    · exact adds_createSession hcreate rfl
    · exact adds_createSession hcreate rfl

theorem adds_handlerFlvConsumer (path : CString) (secrets : IceSecrets) (nowMs : Int) :
    Adds s (some (streamOfPath path)) (s.handlerFlvConsumer path secrets nowMs).1 := by
  rcases hcreate : s.createSession (getSessionNameFromUrl (flvUrl path)) with ⟨s', _ | sid⟩
  · rw [handlerFlvConsumer_rejected secrets nowMs hcreate]
    exact adds_of_sessions_eq rfl
  · rw [handlerFlvConsumer_path secrets nowMs h hcreate]
    exact adds_createSession hcreate rfl

theorem adds_handlerOpenRtpServer (tcpMode : Nat) (streamId : CString) (started : Bool)
    (secrets : IceSecrets) (nowMs : Int) :
    Adds s (some (getSessionNameFromUrl (gb28181Url streamId)))
      (s.handlerOpenRtpServer (.request tcpMode streamId) started secrets nowMs).1 := by
  obtain ⟨s', sid, hcreate⟩ := @createSession_gb28181Url s streamId
  cases hfree : s'.rtpServer[getSessionNameFromUrl (gb28181Url streamId)]? with
  | some server =>
      rw [handlerOpenRtpServer_again started secrets nowMs tcpMode hcreate hfree]
      exact adds_createSession hcreate rfl
  | none =>
      rw [handlerOpenRtpServer_request started secrets nowMs tcpMode hcreate h hfree]
      exact adds_createSession hcreate rfl

theorem adds_step (input : GbMediaService.Input) :
    OnOk (Adds s (requestedStream (.media input))) (s.step api input) := by
  have hself : ∀ {requested : Option CString}, Adds s requested s := adds_of_sessions_eq rfl
  cases input with
  | push body secrets nowMs =>
      cases body with
      | malformed => exact onOk_ok.mpr hself
      | incomplete => exact onOk_ok.mpr hself
      | offer streamurl sdp =>
          exact onOk_ok.mpr (adds_handlerRtcProducer h streamurl sdp secrets nowMs)
  | play body secrets nowMs =>
      cases body with
      | malformed => exact onOk_ok.mpr hself
      | incomplete => exact onOk_ok.mpr hself
      | offer streamurl sdp =>
          exact onOk_ok.mpr (adds_handlerRtcConsumer h streamurl sdp secrets nowMs)
  | flv path secrets nowMs => exact onOk_ok.mpr (adds_handlerFlvConsumer h path secrets nowMs)
  | disconnect i => exact onOk_ok.mpr (disconnect_rule hself i (adds_of_sessions_eq rfl))
  | openRtpServer body started secrets nowMs =>
      cases body with
      | malformed => exact onOk_ok.mpr hself
      | request tcpMode streamId =>
          exact onOk_ok.mpr (adds_handlerOpenRtpServer h tcpMode streamId started secrets nowMs)
  | closeRtpServer body =>
      refine onOk_map.mpr (onOk_handlerCloseRtpServer hself body ?_)
      intro sessionName sid _ name hname
      exact Or.inl (ExtTreeMap.mem_of_mem_erase hname)
  | stun k transport data addr nowMs => exact onOk_ok.mpr (adds_of_sessions_eq rfl)
  | dtls i callback =>
      exact onOk_ok.mpr (onDtls_rule hself i callback fun _ =>
        ⟨adds_of_sessions_eq rfl, adds_of_sessions_eq rfl⟩)
  | rtp k addr data media =>
      exact onOk_onRtp data media hself fun _ _ => adds_of_sessions_eq rfl
  | tcp streamId images =>
      exact onOk_ok.mpr (onTcp_rule hself streamId images fun _ _ => adds_of_sessions_eq rfl)
  | tick sid nowMs =>
      refine onOk_ok.mpr ?_
      rw [checkTimeOut_eq h]
      exact adds_of_sessions_eq rfl
  | worker =>
      exact onOk_ok.mpr (runTask_rule hself (fun _ _ _ => adds_of_sessions_eq rfl)
        fun _ _ _ => ⟨adds_of_sessions_eq rfl, adds_of_sessions_eq rfl⟩)

theorem linked_sessionOfPath : (sessionOfPath s path).1.Linked := by
  rw [sessionOfPath]
  rcases hcreate : s.createSession (getSessionNameFromUrl (flvUrl path)) with ⟨s', _ | sid⟩
  · obtain ⟨_, _, rfl⟩ := createSession_of_none hcreate
    exact h
  · exact (h.createSession hcreate).1

theorem linked_serverStep (input : ServerInput) : OnOk Linked (serverStep api s input) := by
  cases input with
  | media input => exact h.step api input
  | playList path around =>
      rw [serverStep, handlerM3u8Consumer_fst, onOk_ok]
      exact linked_sessionOfPath h
  | fragment path around =>
      rw [serverStep, handlerTsConsumer_fst, onOk_ok]
      exact linked_sessionOfPath h

theorem adds_serverStep {input : ServerInput} (hknown : ReadKnown s input) :
    OnOk (Adds s (requestedStream input)) (serverStep api s input) := by
  cases input with
  | media input => exact adds_step h input
  | playList path around =>
      rw [serverStep, handlerM3u8Consumer_fst, onOk_ok]
      exact adds_of_sessions_eq (sameSessions_createSession_iff.mpr hknown).1
  | fragment path around =>
      rw [serverStep, handlerTsConsumer_fst, onOk_ok]
      exact adds_of_sessions_eq (sameSessions_createSession_iff.mpr hknown).1

/-- After a run in which only known streams are read there are sessions for requested
streams alone. -/
theorem sessions_run {inputs : List ServerInput}
    (hknown : Admitted (guarded (serverStep api))
      (fun p input => OnOk (fun s => ReadKnown s input) p) (.ok s) inputs) :
    OnOk (fun s' => ∀ name, name ∈ s'.sessions →
        name ∈ s.sessions ∨ name ∈ inputs.filterMap requestedStream)
      (run (guarded (serverStep api)) (.ok s) inputs) := by
  induction inputs generalizing s with
  | nil => exact onOk_ok.mpr fun _ hname => Or.inl hname
  | cons input rest ih =>
      obtain ⟨hinput, hrest⟩ := admitted_cons.mp hknown
      rw [run_cons]
      rw [guarded_ok] at hrest ⊢
      cases hstep : serverStep api s input with
      | error fault =>
          rw [run_guarded_error]
          exact onOk_error
      | ok s' =>
          rw [hstep] at hrest
          have hlinked : s'.Linked := linked_serverStep h input s' hstep
          have hadds := adds_serverStep h (hinput s rfl) s' hstep
          intro t ht name hname
          rcases ih hlinked hrest t ht name hname with hmem | hmem
          · rcases hadds name hmem with hmem | hrequested
            · exact Or.inl hmem
            · exact Or.inr (List.mem_filterMap.mpr ⟨input, List.mem_cons_self, hrequested⟩)
          · refine Or.inr ?_
            obtain ⟨earlier, hearlier, hrequested⟩ := List.mem_filterMap.mp hmem
            exact List.mem_filterMap.mpr ⟨earlier, List.mem_cons_of_mem _ hearlier, hrequested⟩

end Requests

theorem size_le_of_named {names : List CString} {sessions : ExtTreeMap CString SessionId}
    (h : ∀ name, name ∈ sessions → name ∈ names) : sessions.size ≤ names.dedup.length := by
  rw [← ExtTreeMap.length_keys]
  refine ((ExtTreeMap.nodup_keys).subperm ?_).length_le
  intro name hname
  exact List.mem_dedup.mpr (h name (ExtTreeMap.mem_keys.mp hname))

end Reads

/-- In a run every read of an unused stream leaves the sessions and their timers alone
exactly when only streams are read that have a session or can have none; and then there
are at most as many sessions as streams published, played or opened. -/
theorem reads_keep_iff {Stun : Type*} (api : MediaApi Stun) (config : ServerConfig)
    (inputs : List ServerInput) :
    (Admitted (guarded (serverStep api)) (fun p input => OnOk (fun s => ReadKeeps api s input) p)
        (.ok (startup config)) inputs ↔
      Admitted (guarded (serverStep api)) (fun p input => OnOk (fun s => ReadKnown s input) p)
        (.ok (startup config)) inputs) ∧
      (Admitted (guarded (serverStep api)) (fun p input => OnOk (fun s => ReadKnown s input) p)
          (.ok (startup config)) inputs →
        OnOk (fun s => s.sessions.size ≤ (inputs.filterMap requestedStream).dedup.length)
          (run (guarded (serverStep api)) (.ok (startup config)) inputs)) := by
  constructor
  · have hany : ∀ (s : GbMediaService) (input : ServerInput), True →
        OnOk (fun _ => True) (serverStep api s input) := fun _ _ _ _ _ => trivial
    exact admitted_onOk_congr trivial hany fun _ input _ => readKeeps_iff input
  · intro hknown s hs
    apply size_le_of_named
    intro name hname
    rcases sessions_run (linked_startup config) hknown s hs name hname with hmem | hmem
    · exact absurd hmem ExtTreeMap.not_mem_empty
    · exact hmem

/-- `GET /live/cam.m3u8` before anything is published. -/
theorem not_reads_keep :
    ¬ ∀ inputs, Admitted (guarded (serverStep sampleApi))
      (fun p input => OnOk (fun s => ReadKeeps sampleApi s input) p)
      (.ok (startup sampleConfig)) inputs := by
  intro hclaim
  have hkeeps := hclaim [.playList (ascii "/live/cam.m3u8") sampleSurroundings] [] _ [] rfl
    (startup sampleConfig) rfl
  rcases (readKeeps_iff _).mp hkeeps with hmem | hshort
  · exact absurd hmem ExtTreeMap.not_mem_empty
  · exact absurd hshort (by decide)

end GBServer.WebService
