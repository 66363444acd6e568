import GBServer.RtpServers
import GBServer.SessionUrls

namespace GBServer.StreamIds

open Std (ExtTreeMap)
open Foundation.CStrings
open Foundation.Runs
open GBServer.GbMediaService
open GBServer.RtpServers
open GBServer.SessionName
open GBServer.SessionUrls

def live : CString := ascii "live/"

/-- `HandlerOpenRtpServer` gets a session for the id. -/
def Accepted (s : GbMediaService) (streamId : CString) : Prop :=
  (s.createSession (rtpSessionName streamId)).2 ≠ none

/-- A session name leads to the same session, with the same endpoints and the same server. -/
structure SessionKept (s : GbMediaService) (sessionName : CString) (t : GbMediaService) :
    Prop where
  listed : t.sessions[sessionName]? = s.sessions[sessionName]?
  contents : ∀ sid, s.sessions[sessionName]? = some sid → t.sessionHeap sid = s.sessionHeap sid
  server : t.rtpServer[sessionName]? = s.rtpServer[sessionName]?

/-- What two stream ids should have to do with each other. -/
structure Separated (x y : CString) : Prop where
  distinct : x ≠ y → rtpSessionName x ≠ rtpSessionName y
  prefixed : live <+: rtpSessionName x ∧ live <+: rtpSessionName y
  closing : x ≠ y → ∀ s : GbMediaService, s.Linked → ∀ tcpMode,
    OnOk (fun p => SessionKept s (rtpSessionName x) p.1)
      (s.handlerCloseRtpServer (.request tcpMode y))

/-- An id without a slash, with or without `live/` in front of it. -/
def Plain (streamId : CString) : Prop :=
  slash ∉ streamId ∨ ∃ name, slash ∉ name ∧ streamId = live ++ name

/-- Neither id is the other one with `live/` in front of it. -/
structure Apart (x y : CString) : Prop where
  plain : Plain x ∧ Plain y
  ne : y ≠ live ++ x ∧ x ≠ live ++ y

theorem split_gb28181Url (streamId : CString) :
    split (gb28181Url streamId) =
      [ascii "gb28181:", [], ascii "chensong.com", ascii "live"] ++ split streamId := by
  have hurl : gb28181Url streamId =
      ascii "gb28181:" ++ slash :: (ascii "" ++ slash :: (ascii "chensong.com" ++
        slash :: (ascii "live" ++ slash :: streamId))) := rfl
  simp only [hurl, split]
  rw [List.splitOn_append_cons_self_of_not_mem (by decide),
    List.splitOn_append_cons_self_of_not_mem (by decide),
    List.splitOn_append_cons_self_of_not_mem (by decide),
    List.splitOn_append_cons_self_of_not_mem (by decide)]
  rfl

theorem rtpSessionName_of_slash_notMem {streamId : CString} (h : slash ∉ streamId) :
    rtpSessionName streamId = live ++ streamId := by
  have hsplit : split streamId = [streamId] := List.splitOn_eq_singleton h
  rw [rtpSessionName, getSessionNameFromUrl, split_gb28181Url, hsplit]
  rfl

theorem rtpSessionName_of_one_slash {app stream : CString} (happ : slash ∉ app)
    (hstream : slash ∉ stream) :
    rtpSessionName (app ++ slash :: stream) = app ++ slash :: stream := by
  have hsplit : split (app ++ slash :: stream) = [app, stream] := by
    rw [split, List.splitOn_append_cons_self_of_not_mem happ, List.splitOn_eq_singleton hstream]
  rw [rtpSessionName, getSessionNameFromUrl, split_gb28181Url, hsplit]
  rfl

theorem rtpSessionName_of_more {streamId first second third : CString} {more : List CString}
    (hsplit : split streamId = first :: second :: third :: more) :
    rtpSessionName streamId = [slash] := by
  rw [rtpSessionName, getSessionNameFromUrl, split_gb28181Url, hsplit, if_neg (by simp)]
  rfl

theorem slashes_cases (streamId : CString) :
    slash ∉ streamId ∨
      (∃ app stream, slash ∉ app ∧ slash ∉ stream ∧ streamId = app ++ slash :: stream) ∨
      ∃ first second third more, split streamId = first :: second :: third :: more := by
  have hjoined := joined_split streamId
  have hfields : ∀ field ∈ split streamId, slash ∉ field := fun field hfield =>
    slash_notMem_of_mem_split hfield
  match hsplit : split streamId with
  | [] => exact absurd hsplit (List.splitOn_ne_nil slash streamId)
  | [name] =>
      refine .inl ?_
      rw [hsplit] at hjoined hfields
      have hname : name = streamId := by simpa [joined] using hjoined
      exact hname ▸ hfields name List.mem_cons_self
  | [app, stream] =>
      refine .inr (.inl ⟨app, stream, ?_⟩)
      rw [hsplit] at hjoined hfields
      refine ⟨hfields app (by simp), hfields stream (by simp), ?_⟩
      rw [← hjoined]
      simp [joined]
  | first :: second :: third :: more => exact .inr (.inr ⟨first, second, third, more, rfl⟩)

theorem live_append (name : CString) : live ++ name = ascii "live" ++ slash :: name := rfl

theorem slash_mem_live_append (name : CString) : slash ∈ live ++ name :=
  List.mem_append_left name (by decide)

theorem rtpSessionName_live_append {name : CString} (h : slash ∉ name) :
    rtpSessionName (live ++ name) = live ++ name := by
  rw [live_append]
  exact rtpSessionName_of_one_slash (by decide) h

theorem prefix_rtpSessionName_iff (streamId : CString) :
    live <+: rtpSessionName streamId ↔ Plain streamId := by
  rcases slashes_cases streamId with hnone | ⟨app, stream, happ, hstream, rfl⟩ |
    ⟨first, second, third, more, hsplit⟩
  · rw [rtpSessionName_of_slash_notMem hnone]
    exact iff_of_true (List.prefix_append _ _) (.inl hnone)
  · rw [rtpSessionName_of_one_slash happ hstream]
    constructor
    · rintro ⟨rest, hrest⟩
      have hsplit : split (live ++ rest) = split (app ++ slash :: stream) := by rw [hrest]
      rw [live_append, split, split, List.splitOn_append_cons_self_of_not_mem (by decide),
        List.splitOn_append_cons_self_of_not_mem happ] at hsplit
      obtain ⟨rfl, _⟩ := List.cons.inj hsplit
      exact .inr ⟨stream, hstream, rfl⟩
    · rintro (hnone | ⟨name, _, hname⟩)
      · exact absurd (List.mem_append_right app List.mem_cons_self) hnone
      · exact ⟨name, hname.symm⟩
  · rw [rtpSessionName_of_more hsplit]
    refine iff_of_false (by decide) ?_
    rintro (hnone | ⟨name, hname, rfl⟩)
    · rw [split, List.splitOn_eq_singleton hnone] at hsplit
      simp at hsplit
    · rw [live_append, split, List.splitOn_append_cons_self_of_not_mem (by decide),
        List.splitOn_eq_singleton hname] at hsplit
      simp at hsplit

theorem Plain.rtpSessionName_cases {streamId : CString} (h : Plain streamId) :
    (slash ∉ streamId ∧ rtpSessionName streamId = live ++ streamId) ∨
      (slash ∈ streamId ∧ rtpSessionName streamId = streamId) := by
  rcases h with hnone | ⟨name, hname, rfl⟩
  · exact .inl ⟨hnone, rtpSessionName_of_slash_notMem hnone⟩
  · exact .inr ⟨slash_mem_live_append name, rtpSessionName_live_append hname⟩

theorem Apart.rtpSessionName_ne {x y : CString} (h : Apart x y) (hne : x ≠ y) :
    rtpSessionName x ≠ rtpSessionName y := by
  rcases h.plain.1.rtpSessionName_cases with ⟨_, hx⟩ | ⟨_, hx⟩ <;>
    rcases h.plain.2.rtpSessionName_cases with ⟨_, hy⟩ | ⟨_, hy⟩ <;> rw [hx, hy]
  · exact fun heq => hne (List.append_cancel_left heq)
  · exact fun heq => h.ne.1 heq.symm
  · exact h.ne.2
  · exact hne

/-- Of two ids with different names, closing one leaves the session of the other alone. -/
theorem sessionKept_handlerCloseRtpServer {s : GbMediaService} (h : s.Linked) {x y : CString}
    (hne : rtpSessionName x ≠ rtpSessionName y) (tcpMode : Nat) :
    OnOk (fun p => SessionKept s (rtpSessionName x) p.1)
      (s.handlerCloseRtpServer (.request tcpMode y)) := by
  cases hlisted : s.sessions[getSessionNameFromUrl (gb28181Url y)]? with
  | none =>
      rw [handlerCloseRtpServer_of_none hlisted]
      exact onOk_ok.mpr ⟨rfl, fun _ _ => rfl, rfl⟩
  | some sid =>
      rw [handlerCloseRtpServer_of_some hlisted]
      split
      case isTrue => exact onOk_error
      case isFalse =>
        refine onOk_ok.mpr ⟨?_, fun sid' hsid' => ?_, rfl⟩
        · change (s.sessions.erase (rtpSessionName y))[rtpSessionName x]? = _
          rw [ExtTreeMap.getElem?_erase, if_neg]
          rw [Std.LawfulEqCmp.compare_eq_iff_eq]
          exact Ne.symm hne
        · have hother : sid' ≠ sid := by
            rintro rfl
            exact hne ((h.session hsid').2.1.symm.trans (h.session hlisted).2.1)
          exact Function.update_of_ne hother _ _

/-- The handler gets a session for every id. -/
theorem accepted (s : GbMediaService) (streamId : CString) : Accepted s streamId := by
  obtain ⟨s', sid, hcreate⟩ := @createSession_gb28181Url s streamId
  rw [Accepted, rtpSessionName, hcreate]
  exact Option.some_ne_none sid

theorem self_ne_live_append (name : CString) : name ≠ live ++ name := by
  intro heq
  have hlength := congrArg List.length heq
  rw [List.length_append] at hlength
  exact absurd hlength (by simp [live, ascii])

theorem rtpSessionName_behind_live {name : CString} (h : Plain (live ++ name)) :
    rtpSessionName (live ++ name) = rtpSessionName name := by
  rcases h with hnone | ⟨name', hname', heq⟩
  · exact absurd (slash_mem_live_append name) hnone
  · obtain rfl := List.append_cancel_left heq
    rw [rtpSessionName_live_append hname', rtpSessionName_of_slash_notMem hname']

/-- Two ids are separated exactly when both are plain and neither is the other one with
`live/` in front of it. -/
theorem separated_iff (s : GbMediaService) (x y : CString) :
    (Accepted s x → Accepted s y → Separated x y) ↔ Apart x y := by
  constructor
  · intro hall
    have h := hall (accepted s x) (accepted s y)
    have hx := (prefix_rtpSessionName_iff x).mp h.prefixed.1
    have hy := (prefix_rtpSessionName_iff y).mp h.prefixed.2
    refine ⟨⟨hx, hy⟩, ?_, ?_⟩
    · rintro rfl
      exact h.distinct (self_ne_live_append x) (rtpSessionName_behind_live hy).symm
    · rintro rfl
      exact h.distinct (self_ne_live_append y).symm (rtpSessionName_behind_live hx)
  · intro h _ _
    refine ⟨h.rtpSessionName_ne, ?_, ?_⟩
    · exact ⟨(prefix_rtpSessionName_iff x).mpr h.plain.1,
        (prefix_rtpSessionName_iff y).mpr h.plain.2⟩
    · intro hne s hlinked tcpMode
      exact sessionKept_handlerCloseRtpServer hlinked (h.rtpSessionName_ne hne) tcpMode

/-- `cam` and `live/cam` are one stream. -/
theorem not_separated_cam :
    ¬ ∀ (s : GbMediaService) (x y : CString), Accepted s x → Accepted s y → Separated x y := by
  intro hall
  have h := hall (startup sampleConfig) (ascii "cam") (ascii "live/cam") (accepted _ _)
    (accepted _ _)
  exact h.distinct (by decide) (by decide)

end GBServer.StreamIds
