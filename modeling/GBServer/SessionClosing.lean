import GBServer.MediaRequests

namespace GBServer.SessionClosing

open Std (ExtTreeMap)
open Foundation.CStrings
open GBServer.GbMediaService

/-- The session of this name, if there is one, is empty and no longer listed, and every
other session is as before. -/
structure SessionClosed (s t : GbMediaService) (sessionName : CString) : Prop where
  absent : sessionName ∉ t.sessions
  emptied : ∀ sid, s.sessions[sessionName]? = some sid →
    (t.sessionHeap sid).producer = none ∧ (t.sessionHeap sid).consumers = []
  listed : ∀ name, name ≠ sessionName → t.sessions[name]? = s.sessions[name]?
  others : ∀ sid, s.sessions[sessionName]? ≠ some sid → t.sessionHeap sid = s.sessionHeap sid

/-- `CloseSession` completes without a fault and closes the session. -/
def ClosesSafely (s : GbMediaService) (sessionName : CString) : Prop :=
  ∃ t, s.closeSession sessionName = .ok (t, true) ∧ SessionClosed s t sessionName

def withSeverity (s : GbMediaService) (severity : Severity) : GbMediaService :=
  { s with config := { s.config with minSeverity := severity } }

theorem sessionClosed_closed {s : GbMediaService} {sessionName : CString} {sid : SessionId}
    (hlisted : s.sessions[sessionName]? = some sid) :
    SessionClosed s (s.closed sessionName sid) sessionName := by
  constructor
  · intro hmem
    exact (ExtTreeMap.mem_erase.mp hmem).1 Std.ReflCmp.compare_self
  · intro sid' hsid'
    obtain rfl : sid = sid' := Option.some.inj (hlisted.symm.trans hsid')
    simp [closed, withSession]
  · intro name hne
    change (s.sessions.erase sessionName)[name]? = _
    rw [ExtTreeMap.getElem?_erase, if_neg]
    rw [Std.LawfulEqCmp.compare_eq_iff_eq]
    exact hne.symm
  · intro sid' hsid'
    have hne : sid' ≠ sid := by
      rintro rfl
      exact hsid' hlisted
    exact Function.update_of_ne hne _ _

/-- At one log level, a session is closed safely exactly when it has no viewers or the
lines about them are not written. -/
theorem closesSafely_iff_logs (s : GbMediaService) (sessionName : CString) :
    ClosesSafely s sessionName ↔
      ∀ sid, s.sessions[sessionName]? = some sid →
        (s.sessionHeap sid).consumers = [] ∨ s.config.logs .info = false := by
  cases hlisted : s.sessions[sessionName]? with
  | none =>
      refine iff_of_true ⟨s, closeSession_of_none hlisted, ?_⟩ nofun
      refine ⟨?_, ?_, fun _ _ => rfl, fun _ _ => rfl⟩
      · rw [ExtTreeMap.mem_iff_isSome_getElem?, hlisted]
        simp
      · intro sid hsid
        rw [hlisted] at hsid
        cases hsid
  | some sid =>
      rw [ClosesSafely, closeSession_of_some hlisted]
      simp only [Option.some.injEq, forall_eq']
      constructor
      · rintro ⟨t, hclose, _⟩
        split at hclose
        · cases hclose
        · rename_i hcompletes
          simpa [imp_iff_not_or, or_comm] using hcompletes
      · intro hquiet
        refine ⟨s.closed sessionName sid, ?_, sessionClosed_closed hlisted⟩
        rw [if_neg]
        rintro ⟨hviewers, hlogs⟩
        rcases hquiet with hnone | hsilent
        · exact hviewers hnone
        · rw [hlogs] at hsilent
          cases hsilent

/-- A session is closed safely at every log level exactly when it has no viewers. -/
theorem forall_closesSafely_iff (s : GbMediaService) (sessionName : CString) :
    (∀ severity, ClosesSafely (withSeverity s severity) sessionName) ↔
      ∀ sid, s.sessions[sessionName]? = some sid → (s.sessionHeap sid).consumers = [] := by
  simp only [closesSafely_iff_logs]
  constructor
  · intro hall sid hlisted
    rcases hall .info sid hlisted with hnone | hsilent
    · exact hnone
    · cases hsilent
  · intro hnone severity sid hlisted
    exact Or.inl (hnone sid hlisted)

def watched : GbMediaService :=
  ((startup sampleConfig).handlerRtcConsumer sampleApi (.offer sampleUrl sampleSdp)
    ⟨fun _ => "bb", "secret"⟩ 0).1

theorem not_closesSafely_watched :
    ¬ ∀ (s : GbMediaService) (sessionName : CString) (severity : Severity),
      ClosesSafely (withSeverity s severity) sessionName := by
  intro hclaim
  obtain ⟨t, hclose, _⟩ := hclaim watched (ascii "live/cam") .info
  have hcrash : (withSeverity watched .info).closeSession (ascii "live/cam") =
      .error .nullDereference := by
    rw [closeSession_of_some (show _ = some 0 by decide), if_pos (by decide)]
  rw [hcrash] at hclose
  cases hclose

end GBServer.SessionClosing
