import GBServer.SipServerTransactions
import Mathlib.Data.List.Induction
import Mathlib.Data.List.Nodup
import Mathlib.Data.List.Pairwise
import Mathlib.Data.List.Perm.Subperm

namespace GBServer.SipServerTransactions

open Foundation.CStrings
open Foundation.Runs
open GBServer.SipTransactionMatching

variable {μ ρ σ : Type*}

def Response.isFinal (r : Response ρ) : Bool := !r.isStatus1xx

namespace Told

def response (e : Told μ ρ) : Option (Response ρ) :=
  match e.outcome with
  | .receivedAgain (some answer) true => some answer
  | .answered answer true => some answer
  | _ => none

def failed (e : Told μ ρ) : Bool :=
  match e.outcome with
  | .receivedAgain _ false => true
  | .answered _ false => true
  | _ => false

end Told

def FinalSent (told : List (Told μ ρ)) (tid : Nat) (time : Time) (r : Response ρ) : Prop :=
  ∃ e ∈ told, e.tid = tid ∧ e.time = time ∧ e.response = some r ∧ r.isFinal = true

/-- How long a transaction stays after its final response. -/
def linger (request : Request μ) (answered : Time) : Time :=
  addMs answered (timerJLength request)

/-- A transaction has ended: something could not be sent, or its final response was sent long
enough ago. -/
def Ended (told : List (Told μ ρ)) (now : Time) (tid : Nat) (request : Request μ) : Prop :=
  (∃ e ∈ told, e.tid = tid ∧ e.failed = true) ∨
    ∃ time r, FinalSent told tid time r ∧ linger request time ≤ now

/-- A request has no transaction any more: it has ended, or was never answered. -/
def Gone (told : List (Told μ ρ)) (now : Time) (o : Opened μ) : Prop :=
  Ended told now o.tid o.request ∨ seconds o.time + 180 < seconds now

def Transaction.opened (tr : Transaction μ ρ) : Opened μ where
  tid := tr.transactionid
  request := tr.request
  time := tr.createdTime

/-- What can be told in a transaction after what has been. -/
structure Fits (told : List (Told μ ρ)) (e : Told μ ρ) : Prop where
  once : ∀ sip, e.outcome = .received sip → ∀ e' ∈ told, e'.tid ≠ e.tid
  agree : ∀ r, e.response = some r → r.isFinal = true →
    ∀ time r', FinalSent told e.tid time r' → r' = r
  again : ∀ answer sent, e.outcome = .receivedAgain answer sent →
    ∀ time r, FinalSent told e.tid time r → answer = some r

def Orderly (told : List (Told μ ρ)) : Prop :=
  ∀ before e after, told = before ++ e :: after → Fits before e

/-- A transaction against what was told in it. -/
structure Sound (told : List (Told μ ρ)) (now : Time) (tr : Transaction μ ρ) : Prop where
  listed : tr.listed = true ↔ tr.state ≠ .terminated
  length : tr.timerJLength = timerJLength tr.request
  method : IsRequest tr.request
  fresh : tr.state = .preTrying → (∃ rest, tr.transactionff = .request tr.request :: rest) ∧
    ∀ e ∈ told, e.tid ≠ tr.transactionid
  announced : tr.state ≠ .preTrying →
    ∃ e ∈ told, e.tid = tr.transactionid ∧ e.outcome = .received tr.request
  unanswered : tr.state = .trying ∨ tr.state = .proceeding →
    ∀ time r, ¬ FinalSent told tr.transactionid time r
  provisional : tr.state = .proceeding → ∀ r, tr.lastResponse = some r → r.isFinal = false
  completed : tr.state = .completed → ∃ r time, tr.lastResponse = some r ∧
    FinalSent told tr.transactionid time r ∧ tr.timerJStart = some (linger tr.request time) ∧
      ∀ time' r', FinalSent told tr.transactionid time' r' → r' = r ∧ time ≤ time'
  terminated : tr.state = .terminated → Ended told now tr.transactionid tr.request
  timedOut : Event.timeoutJ ∈ tr.transactionff →
    ∃ time r, FinalSent told tr.transactionid time r ∧ linger tr.request time ≤ now

variable {told : List (Told μ ρ)} {e : Told μ ρ} {tid : Nat} {time now later : Time}
  {r : Response ρ} {request : Request μ} {tr : Transaction μ ρ} {sent : Bool}

theorem finalSent_append {more : List (Told μ ρ)} :
    FinalSent (told ++ more) tid time r ↔
      FinalSent told tid time r ∨ FinalSent more tid time r := by
  constructor
  · rintro ⟨e, he, hfinal⟩
    rcases List.mem_append.mp he with he | he
    · exact Or.inl ⟨e, he, hfinal⟩
    · exact Or.inr ⟨e, he, hfinal⟩
  · rintro (⟨e, he, hfinal⟩ | ⟨e, he, hfinal⟩)
    · exact ⟨e, List.mem_append_left _ he, hfinal⟩
    · exact ⟨e, List.mem_append_right _ he, hfinal⟩

theorem finalSent_singleton :
    FinalSent [e] tid time r ↔
      e.tid = tid ∧ e.time = time ∧ e.response = some r ∧ r.isFinal = true := by
  constructor
  · rintro ⟨e', he, hfinal⟩
    rwa [List.mem_singleton.mp he] at hfinal
  · exact fun hfinal => ⟨e, List.mem_cons_self, hfinal⟩

theorem FinalSent.append (h : FinalSent told tid time r) (more : List (Told μ ρ)) :
    FinalSent (told ++ more) tid time r :=
  finalSent_append.mpr (Or.inl h)

theorem finalSent_concat_of_ne (h : e.tid ≠ tid) :
    FinalSent (told ++ [e]) tid time r ↔ FinalSent told tid time r := by
  rw [finalSent_append, finalSent_singleton]
  constructor
  · rintro (hfinal | ⟨htid, _⟩)
    · exact hfinal
    · exact absurd htid h
  · exact Or.inl

theorem Ended.mono (h : Ended told now tid request) (hle : now ≤ later)
    (more : List (Told μ ρ)) : Ended (told ++ more) later tid request := by
  rcases h with ⟨e, he, htid, hfailed⟩ | ⟨time, r, hfinal, hlinger⟩
  · exact Or.inl ⟨e, List.mem_append_left _ he, htid, hfailed⟩
  · exact Or.inr ⟨time, r, hfinal.append more, Nat.le_trans hlinger hle⟩

theorem seconds_mono (h : now ≤ later) : seconds now ≤ seconds later := Nat.div_le_div_right h

theorem Gone.mono {o : Opened μ} (h : Gone told now o) (hle : now ≤ later)
    (more : List (Told μ ρ)) : Gone (told ++ more) later o := by
  rcases h with hended | hold
  · exact Or.inl (hended.mono hle more)
  · exact Or.inr (Nat.lt_of_lt_of_le hold (seconds_mono hle))

theorem orderly_concat : Orderly (told ++ [e]) ↔ Orderly told ∧ Fits told e := by
  constructor
  · intro h
    refine ⟨fun before e' after heq => ?_, h told e [] rfl⟩
    exact h before e' (after ++ [e]) (by rw [heq, List.append_assoc, List.cons_append])
  · rintro ⟨htold, hfits⟩ before e' after heq
    rcases List.eq_nil_or_concat after with rfl | ⟨after', last, rfl⟩
    · obtain ⟨rfl, rfl⟩ := List.concat_inj.mp (by simpa using heq)
      exact hfits
    · rw [List.concat_eq_append, ← List.cons_append, ← List.append_assoc] at heq
      obtain ⟨heq, _⟩ := List.append_inj' heq rfl
      exact htold before e' after' heq

/-- The final responses that were sent in a transaction are all the same. -/
theorem Orderly.agree (h : Orderly told) {time' : Time} {r' : Response ρ}
    (hfinal : FinalSent told tid time r) (hfinal' : FinalSent told tid time' r') : r = r' := by
  induction told using List.reverseRecOn with
  | nil => exact absurd hfinal.choose_spec.1 List.not_mem_nil
  | append_singleton told e ih =>
      obtain ⟨htold, hfits⟩ := orderly_concat.mp h
      rcases finalSent_append.mp hfinal with hold | hnew
      · rcases finalSent_append.mp hfinal' with hold' | hnew'
        · exact ih htold hold hold'
        · obtain ⟨rfl, _, hresponse, hr⟩ := finalSent_singleton.mp hnew'
          exact hfits.agree r' hresponse hr time r hold
      · obtain ⟨rfl, _, hresponse, hr⟩ := finalSent_singleton.mp hnew
        rcases finalSent_append.mp hfinal' with hold' | hnew'
        · exact (hfits.agree r hresponse hr time' r' hold').symm
        · obtain ⟨_, _, hresponse', _⟩ := finalSent_singleton.mp hnew'
          exact Option.some.inj (hresponse.symm.trans hresponse')

theorem announcement_eq_some {sip : Request μ} (h : World.announcement e = some (tid, sip)) :
    e.tid = tid ∧ e.outcome = .received sip := by
  rw [World.announcement] at h
  split at h
  · rename_i heq
    split at h
    · cases h
    · obtain ⟨rfl, rfl⟩ := Prod.mk.inj (Option.some.inj h)
      exact ⟨rfl, heq⟩
  · cases h

theorem Orderly.nodup (h : Orderly told) :
    ((told.filterMap World.announcement).map Prod.fst).Nodup := by
  induction told using List.reverseRecOn with
  | nil => exact List.nodup_nil
  | append_singleton told e ih =>
      obtain ⟨htold, hfits⟩ := orderly_concat.mp h
      rw [List.filterMap_append, List.map_append, List.nodup_append]
      refine ⟨ih htold, ?_, ?_⟩
      · cases hannounced : World.announcement e <;> simp [hannounced]
      · intro first hfirst second hsecond heq
        obtain ⟨⟨_, sip'⟩, hmem', rfl⟩ := List.mem_map.mp hsecond
        obtain ⟨e', he', hannounced'⟩ := List.mem_filterMap.mp hmem'
        rw [List.mem_singleton.mp he'] at hannounced'
        obtain ⟨htid', houtcome⟩ := announcement_eq_some hannounced'
        obtain ⟨⟨_, sip⟩, hmem, rfl⟩ := List.mem_map.mp hfirst
        obtain ⟨old, hold, hannounced⟩ := List.mem_filterMap.mp hmem
        obtain ⟨htid, _⟩ := announcement_eq_some hannounced
        exact hfits.once sip' houtcome old hold ((htid.trans heq).trans htid'.symm)

namespace Sound

theorem mono (h : Sound told now tr) (hle : now ≤ later) : Sound told later tr where
  listed := h.listed
  length := h.length
  method := h.method
  fresh := h.fresh
  announced := h.announced
  unanswered := h.unanswered
  provisional := h.provisional
  completed := h.completed
  terminated hstate := by simpa using (h.terminated hstate).mono hle []
  timedOut hff := by
    obtain ⟨time, r, hfinal, hlinger⟩ := h.timedOut hff
    exact ⟨time, r, hfinal, Nat.le_trans hlinger hle⟩

theorem other (h : Sound told now tr) (hne : e.tid ≠ tr.transactionid) :
    Sound (told ++ [e]) now tr where
  listed := h.listed
  length := h.length
  method := h.method
  fresh hstate := by
    refine ⟨(h.fresh hstate).1, fun e' he => ?_⟩
    rcases List.mem_append.mp he with he | he
    · exact (h.fresh hstate).2 e' he
    · rwa [List.mem_singleton.mp he]
  announced hstate := by
    obtain ⟨e', he, htid, houtcome⟩ := h.announced hstate
    exact ⟨e', List.mem_append_left _ he, htid, houtcome⟩
  unanswered hstate time r hfinal :=
    h.unanswered hstate time r ((finalSent_concat_of_ne hne).mp hfinal)
  provisional := h.provisional
  completed hstate := by
    obtain ⟨r, time, hlast, hfinal, hstart, hfirst⟩ := h.completed hstate
    exact ⟨r, time, hlast, hfinal.append [e], hstart,
      fun time' r' hfinal' => hfirst time' r' ((finalSent_concat_of_ne hne).mp hfinal')⟩
  terminated hstate := (h.terminated hstate).mono (Nat.le_refl now) [e]
  timedOut hff := by
    obtain ⟨time, r, hfinal, hlinger⟩ := h.timedOut hff
    exact ⟨time, r, hfinal.append [e], hlinger⟩

theorem addEvent (h : Sound told now tr) {evt : Event μ ρ}
    (hevt : evt = .timeoutJ →
      ∃ time r, FinalSent told tr.transactionid time r ∧ linger tr.request time ≤ now) :
    Sound told now (tr.addEvent evt) where
  listed := h.listed
  length := h.length
  method := h.method
  fresh hstate := by
    obtain ⟨⟨rest, hff⟩, hnone⟩ := h.fresh hstate
    refine ⟨⟨rest ++ [evt], ?_⟩, hnone⟩
    rw [Transaction.addEvent, hff, List.cons_append]
  announced := h.announced
  unanswered := h.unanswered
  provisional := h.provisional
  completed := h.completed
  terminated := h.terminated
  timedOut hff := by
    rcases List.mem_append.mp hff with hff | hff
    · exact h.timedOut hff
    · exact hevt (List.mem_singleton.mp hff).symm

theorem timer (h : Sound told now tr) : Sound told now (tr.timer now) := by
  rw [Transaction.timer]
  split
  · rename_i hneed
    refine h.addEvent fun _ => ?_
    obtain ⟨hstate, start, hstart, hle⟩ := of_decide_eq_true hneed.2
    obtain ⟨r, time, _, hfinal, heq, _⟩ := h.completed hstate
    rw [heq] at hstart
    exact ⟨time, r, hfinal, (Option.some.inj hstart).symm ▸ hle⟩
  · exact h

variable {evt : Event μ ρ} {rest : List (Event μ ρ)}

/-- A useless event. -/
theorem pop (h : Sound told now tr) (hff : tr.transactionff = evt :: rest)
    (hstate : tr.state ≠ .preTrying) : Sound told now { tr with transactionff := rest } where
  listed := h.listed
  length := h.length
  method := h.method
  fresh hfresh := absurd hfresh hstate
  announced := h.announced
  unanswered := h.unanswered
  provisional := h.provisional
  completed := h.completed
  terminated := h.terminated
  timedOut hmem := h.timedOut (hff ▸ List.mem_cons_of_mem evt hmem)

theorem terminate (h : Sound told now tr) (hstate : tr.state ≠ .preTrying)
    {more : List (Told μ ρ)} (hended : Ended (told ++ more) now tr.transactionid tr.request)
    {tr' : Transaction μ ρ} (htid : tr'.transactionid = tr.transactionid)
    (hrequest : tr'.request = tr.request) (hlength : tr'.timerJLength = tr.timerJLength)
    (hstate' : tr'.state = .terminated) (hlisted : tr'.listed = false)
    (hff : ∀ evt ∈ tr'.transactionff, evt ∈ tr.transactionff) :
    Sound (told ++ more) now tr' where
  listed := by simp [hlisted, hstate']
  length := by rw [hlength, h.length, hrequest]
  method := hrequest ▸ h.method
  fresh hfresh := by simp [hstate'] at hfresh
  announced _ := by
    obtain ⟨e, he, htold, houtcome⟩ := h.announced hstate
    exact ⟨e, List.mem_append_left _ he, by rw [htold, htid], by rw [houtcome, hrequest]⟩
  unanswered hopen := by simp [hstate'] at hopen
  provisional hproceeding := by simp [hstate'] at hproceeding
  completed hcompleted := by simp [hstate'] at hcompleted
  terminated _ := by rwa [htid, hrequest]
  timedOut hmem := by
    obtain ⟨time, r, hfinal, hlinger⟩ := h.timedOut (hff _ hmem)
    rw [htid, hrequest]
    exact ⟨time, r, hfinal.append more, hlinger⟩

end Sound

structure Executes (told : List (Told μ ρ)) (now : Time) (tr : Transaction μ ρ)
    (executed : Transaction μ ρ × Option (Outcome μ ρ)) : Prop where
  sound : Sound (told ++ executed.2.toList.map fun outcome => ⟨tr.transactionid, now, outcome⟩)
    now executed.1
  fits : ∀ outcome ∈ executed.2, Fits told ⟨tr.transactionid, now, outcome⟩
  received : ∀ sip, executed.2 = some (.received sip) → sip = tr.request
  opened : executed.1.opened = tr.opened
  woken : executed.1.state ≠ .preTrying

section Execute

variable {evt : Event μ ρ} {rest : List (Event μ ρ)}

theorem executes_useless (h : Sound told now tr) (hff : tr.transactionff = evt :: rest)
    (hstate : tr.state ≠ .preTrying) :
    Executes told now tr ({ tr with transactionff := rest }, none) where
  sound := by
    rw [Option.toList_none, List.map_nil, List.append_nil]
    exact h.pop hff hstate
  fits _ hnone := by cases hnone
  received _ hnone := by cases hnone
  opened := rfl
  woken := hstate

theorem executes_timeoutJ (h : Sound told now tr) (hff : tr.transactionff = .timeoutJ :: rest) :
    Executes told now tr ({ tr with transactionff := rest }.execute now sent .timeoutJ) := by
  have hstate : tr.state ≠ .preTrying := by
    intro hfresh
    obtain ⟨⟨rest', hff'⟩, _⟩ := h.fresh hfresh
    cases hff.symm.trans hff'
  rw [execute_timeoutJ]
  split
  · refine ⟨?_, ?_, nofun, rfl, nofun⟩
    · obtain ⟨time, r, hfinal, hlinger⟩ := h.timedOut (hff ▸ List.mem_cons_self)
      refine h.terminate hstate (Or.inr ⟨time, r, hfinal.append _, hlinger⟩) rfl rfl rfl rfl rfl ?_
      exact fun evt hevt => hff ▸ List.mem_cons_of_mem _ hevt
    · rintro outcome ⟨⟩
      exact ⟨nofun, nofun, nofun⟩
  · exact executes_useless h hff hstate

theorem executes_received (h : Sound told now tr)
    (hff : tr.transactionff = .request tr.request :: rest) (hstate : tr.state = .preTrying) :
    Executes told now tr
      ({ tr with
          transactionff := rest
          origRequest := some tr.request
          state := .trying }, some (.received tr.request)) := by
  have hnone := (h.fresh hstate).2
  have hsilent : ∀ time r, ¬ FinalSent (told ++ [⟨tr.transactionid, now, .received tr.request⟩])
      tr.transactionid time r := by
    intro time r hfinal
    rcases finalSent_append.mp hfinal with ⟨e, he, htid, _⟩ | hnew
    · exact hnone e he htid
    · cases (finalSent_singleton.mp hnew).2.2.1
  refine ⟨⟨?_, h.length, h.method, nofun, ?_, fun _ => hsilent, nofun, nofun, nofun, ?_⟩, ?_, ?_,
    rfl, nofun⟩
  · exact iff_of_true (h.listed.mpr (by simp [hstate])) nofun
  · intro _
    exact ⟨_, List.mem_append_right told List.mem_cons_self, rfl, rfl⟩
  · intro hmem
    obtain ⟨time, r, ⟨e, he, htid, _⟩, _⟩ := h.timedOut (hff ▸ List.mem_cons_of_mem _ hmem)
    exact absurd htid (hnone e he)
  · rintro outcome ⟨⟩
    refine ⟨fun _ _ e he => hnone e he, nofun, nofun⟩
  · rintro sip ⟨⟩
    rfl

theorem Sound.repeated (h : Sound told now tr) (hpast : ∀ e ∈ told, e.time ≤ now)
    (hff : tr.transactionff = evt :: rest) (hstate : tr.state = .proceeding ∨ tr.state = .completed)
    {outcome : Outcome μ ρ} (hresponse : ∀ r, (⟨tr.transactionid, now, outcome⟩ :
      Told μ ρ).response = some r → tr.lastResponse = some r) :
    Sound (told ++ [⟨tr.transactionid, now, outcome⟩]) now { tr with transactionff := rest } := by
  have hnew : ∀ time r, FinalSent [(⟨tr.transactionid, now, outcome⟩ : Told μ ρ)]
      tr.transactionid time r → time = now ∧ tr.lastResponse = some r ∧ r.isFinal = true := by
    intro time r hfinal
    obtain ⟨_, htime, hsent, hr⟩ := finalSent_singleton.mp hfinal
    exact ⟨htime.symm, hresponse r hsent, hr⟩
  have hopen : tr.state ≠ .preTrying ∧ tr.state ≠ .trying ∧ tr.state ≠ .terminated := by
    rcases hstate with hstate | hstate <;> simp [hstate]
  refine ⟨h.listed, h.length, h.method, fun hfresh => absurd hfresh hopen.1, fun _ => ?_, ?_,
    h.provisional, ?_, fun hended => absurd hended hopen.2.2, ?_⟩
  · obtain ⟨e, he, htold⟩ := h.announced hopen.1
    exact ⟨e, List.mem_append_left _ he, htold⟩
  · rintro (htrying | hproceeding) time r hfinal
    · exact hopen.2.1 htrying
    · rcases finalSent_append.mp hfinal with hold | hfresh
      · exact h.unanswered (Or.inr hproceeding) time r hold
      · obtain ⟨_, hlast, hr⟩ := hnew time r hfresh
        rw [h.provisional hproceeding r hlast] at hr
        cases hr
  · intro hcompleted
    obtain ⟨r, time, hr, hfinal, hstart, hfirst⟩ := h.completed hcompleted
    refine ⟨r, time, hr, hfinal.append _, hstart, fun time' r' hfinal' => ?_⟩
    rcases finalSent_append.mp hfinal' with hold | hfresh
    · exact hfirst time' r' hold
    · obtain ⟨rfl, hlast, _⟩ := hnew time' r' hfresh
      obtain ⟨e, he, _, rfl, _⟩ := hfinal
      exact ⟨Option.some.inj (hlast.symm.trans hr), hpast e he⟩
  · intro hmem
    obtain ⟨time, r, hfinal, hlinger⟩ := h.timedOut (hff ▸ List.mem_cons_of_mem _ hmem)
    exact ⟨time, r, hfinal.append _, hlinger⟩

theorem nistRcvRequest_of_none {sip : Request μ} (hfresh : tr.state ≠ .preTrying)
    (hlast : tr.lastResponse = none) :
    tr.nistRcvRequest sent sip = (tr, .receivedAgain none true) := by
  rw [Transaction.nistRcvRequest, if_neg hfresh, hlast]

theorem nistRcvRequest_of_some {sip : Request μ} {answer : Response ρ}
    (hfresh : tr.state ≠ .preTrying) (hlast : tr.lastResponse = some answer) :
    tr.nistRcvRequest sent sip =
      (if sent then tr else tr.terminate, .receivedAgain (some answer) sent) := by
  rw [Transaction.nistRcvRequest, if_neg hfresh, hlast]

theorem executes_receivedAgain (h : Sound told now tr) (hpast : ∀ e ∈ told, e.time ≤ now)
    (hff : tr.transactionff = evt :: rest) (hstate : tr.state = .proceeding ∨ tr.state = .completed)
    (sip : Request μ) :
    Executes told now tr
      (({ tr with transactionff := rest }.nistRcvRequest sent sip).map id some) := by
  have hfresh : tr.state ≠ .preTrying := by
    rcases hstate with hstate | hstate <;> simp [hstate]
  have hlast : ∀ time r, FinalSent told tr.transactionid time r → tr.lastResponse = some r := by
    intro time r hfinal
    rcases hstate with hproceeding | hcompleted
    · exact absurd hfinal (h.unanswered (Or.inr hproceeding) time r)
    · obtain ⟨r', _, hr', _, _, hfirst⟩ := h.completed hcompleted
      rw [hr', (hfirst time r hfinal).1]
  obtain ⟨last, hresponse⟩ : ∃ last, tr.lastResponse = last := ⟨_, rfl⟩
  cases last with
  | none =>
      have heq : ({ tr with transactionff := rest } : Transaction μ ρ).nistRcvRequest sent sip =
          _ := nistRcvRequest_of_none hfresh hresponse
      rw [heq]
      refine ⟨h.repeated hpast hff hstate (fun _ hsilent => by cases hsilent), ?_, nofun, rfl,
        hfresh⟩
      rintro outcome ⟨⟩
      refine ⟨nofun, nofun, ?_⟩
      rintro _ _ ⟨⟩ time r hfinal
      exact hresponse.symm.trans (hlast time r hfinal)
  | some answer =>
      have heq : ({ tr with transactionff := rest } : Transaction μ ρ).nistRcvRequest sent sip =
          _ := nistRcvRequest_of_some hfresh hresponse
      rw [heq]
      cases sent with
      | true =>
          refine ⟨h.repeated hpast hff hstate ?_, ?_, nofun, rfl, hfresh⟩
          · rintro r ⟨⟩
            exact hresponse
          · rintro outcome ⟨⟩
            refine ⟨nofun, ?_, ?_⟩
            · rintro r ⟨⟩ _ time r' hfinal
              exact Option.some.inj ((hlast time r' hfinal).symm.trans hresponse)
            · rintro _ _ ⟨⟩ time r hfinal
              exact hresponse.symm.trans (hlast time r hfinal)
      | false =>
          refine ⟨?_, ?_, nofun, rfl, nofun⟩
          · refine h.terminate hfresh ?_ rfl rfl rfl rfl rfl ?_
            · exact Or.inl ⟨_, List.mem_append_right told List.mem_cons_self, rfl, rfl⟩
            · exact fun evt hevt => hff ▸ List.mem_cons_of_mem _ hevt
          · rintro outcome ⟨⟩
            refine ⟨nofun, nofun, ?_⟩
            rintro _ _ ⟨⟩ time r hfinal
            exact hresponse.symm.trans (hlast time r hfinal)

/-- The first final response of a transaction, or one more provisional one. -/
theorem Sound.answered (h : Sound told now tr) (hff : tr.transactionff = evt :: rest)
    (hstate : tr.state = .trying ∨ tr.state = .proceeding) (sip : Response ρ) :
    Sound (told ++ [⟨tr.transactionid, now, .answered sip true⟩]) now
      (if sip.isStatus1xx then
        { tr with transactionff := rest, lastResponse := some sip, state := .proceeding }
      else
        { tr with
          transactionff := rest
          lastResponse := some sip
          timerJStart := some (addMs now tr.timerJLength)
          state := .completed }) := by
  have hopen : tr.state ≠ .preTrying ∧ tr.listed = true := by
    rw [h.listed]
    rcases hstate with hstate | hstate <;> simp [hstate]
  have hannounced : ∃ e ∈ told ++ [⟨tr.transactionid, now, .answered sip true⟩],
      e.tid = tr.transactionid ∧ e.outcome = .received tr.request := by
    obtain ⟨e, he, htold⟩ := h.announced hopen.1
    exact ⟨e, List.mem_append_left _ he, htold⟩
  have hnew : ∀ time r, FinalSent (told ++ [⟨tr.transactionid, now, .answered sip true⟩])
      tr.transactionid time r → time = now ∧ r = sip ∧ sip.isFinal = true := by
    intro time r hfinal
    rcases finalSent_append.mp hfinal with hold | hfresh
    · exact absurd hold (h.unanswered hstate time r)
    · obtain ⟨_, htime, hsent, hr⟩ := finalSent_singleton.mp hfresh
      obtain rfl := Option.some.inj hsent
      exact ⟨htime.symm, rfl, hr⟩
  have htimedOut : Event.timeoutJ ∈ rest → ∃ time r,
      FinalSent (told ++ [⟨tr.transactionid, now, .answered sip true⟩]) tr.transactionid time r ∧
        linger tr.request time ≤ now := by
    intro hmem
    obtain ⟨time, r, hfinal, hlinger⟩ := h.timedOut (hff ▸ List.mem_cons_of_mem _ hmem)
    exact ⟨time, r, hfinal.append _, hlinger⟩
  split
  · rename_i hstatus
    refine ⟨iff_of_true hopen.2 nofun, h.length, h.method, nofun, fun _ => hannounced, ?_, ?_,
      nofun, nofun, htimedOut⟩
    · intro _ time r hfinal
      have hr := (hnew time r hfinal).2.2
      rw [Response.isFinal, hstatus] at hr
      cases hr
    · rintro _ r ⟨⟩
      rw [Response.isFinal, hstatus]
      rfl
  · rename_i hstatus
    refine ⟨iff_of_true hopen.2 nofun, h.length, h.method, nofun, fun _ => hannounced, ?_, nofun,
      ?_, nofun, htimedOut⟩
    · rintro (hcontra | hcontra) <;> cases hcontra
    · refine fun _ => ⟨sip, now, rfl, ?_, ?_, ?_⟩
      · refine finalSent_append.mpr (Or.inr (finalSent_singleton.mpr ⟨rfl, rfl, rfl, ?_⟩))
        rw [Response.isFinal, Bool.eq_false_iff.mpr hstatus]
        rfl
      · rw [linger, ← h.length]
      · intro time' r' hfinal
        obtain ⟨rfl, rfl, _⟩ := hnew time' r' hfinal
        exact ⟨rfl, Nat.le_refl _⟩

theorem executes_answered (h : Sound told now tr) (hstate : tr.state = .trying ∨
      tr.state = .proceeding) {sip : Response ρ} {after : Transaction μ ρ}
    (hsound : Sound (told ++ [⟨tr.transactionid, now, .answered sip sent⟩]) now after)
    (hopened : after.opened = tr.opened) (hwoken : after.state ≠ .preTrying) :
    Executes told now tr (after, some (.answered sip sent)) where
  sound := hsound
  fits outcome houtcome := by
    obtain rfl := Option.some.inj houtcome
    constructor
    · intro _ hreceived
      cases hreceived
    · exact fun _ _ _ time r hfinal => absurd hfinal (h.unanswered hstate time r)
    · intro _ _ hagain
      cases hagain
  received _ hreceived := by cases hreceived
  opened := hopened
  woken := hwoken

theorem executes_status (h : Sound told now tr) {sip : Response ρ}
    (hff : tr.transactionff = .status sip :: rest) :
    Executes told now tr ({ tr with transactionff := rest }.execute now sent (.status sip)) := by
  have hfresh : tr.state ≠ .preTrying := by
    intro hfresh
    obtain ⟨⟨rest', hff'⟩, _⟩ := h.fresh hfresh
    cases hff.symm.trans hff'
  rw [execute_status]
  split
  · rename_i hstate
    change tr.state = .trying ∨ tr.state = .proceeding at hstate
    have hended : Ended (told ++ [⟨tr.transactionid, now, .answered sip false⟩]) now
        tr.transactionid tr.request :=
      Or.inl ⟨_, List.mem_append_right told List.mem_cons_self, rfl, rfl⟩
    have hsub : ∀ evt ∈ rest, evt ∈ tr.transactionff := fun evt hevt =>
      hff ▸ List.mem_cons_of_mem _ hevt
    have hcompleted : tr.state ≠ .completed := by
      rcases hstate with hstate | hstate <;> simp [hstate]
    have hanswered := h.answered hff hstate sip
    split
    · rename_i hstatus
      rw [if_pos hstatus] at hanswered
      cases sent with
      | true => exact executes_answered h hstate hanswered rfl NistState.noConfusion
      | false =>
          refine executes_answered h hstate ?_ rfl NistState.noConfusion
          exact h.terminate hfresh hended rfl rfl rfl rfl rfl hsub
    · rename_i hstatus
      rw [if_neg hstatus] at hanswered
      rw [Transaction.nistSnd23456xx]
      simp only [ne_eq, hcompleted, not_false_eq_true, if_true]
      cases sent with
      | true => exact executes_answered h hstate hanswered rfl NistState.noConfusion
      | false =>
          refine executes_answered h hstate ?_ rfl NistState.noConfusion
          exact h.terminate hfresh hended rfl rfl rfl rfl rfl hsub
  · exact executes_useless h hff hfresh

/-- What `osip_transaction_execute` does with the next event of a transaction. -/
theorem executes (h : Sound told now tr) (hpast : ∀ e ∈ told, e.time ≤ now)
    (hff : tr.transactionff = evt :: rest) :
    Executes told now tr ({ tr with transactionff := rest }.execute now sent evt) := by
  cases evt with
  | timeoutJ => exact executes_timeoutJ h hff
  | status sip => exact executes_status h hff
  | request sip =>
      obtain ⟨state, hstate⟩ : ∃ state, tr.state = state := ⟨_, rfl⟩
      by_cases hnew : state = .preTrying
      · obtain rfl := hnew
        obtain ⟨⟨rest', hff'⟩, _⟩ := h.fresh hstate
        obtain ⟨hsip, rfl⟩ := List.cons.inj (hff.symm.trans hff')
        obtain rfl := Event.request.inj hsip
        have hnew : ¬ (tr.state = .trying ∨ tr.state = .terminated) := by simp [hstate]
        have hfirst : ({ tr with transactionff := rest } : Transaction μ ρ).nistRcvRequest sent
            tr.request = _ := if_pos hstate
        rw [execute_request h.method, if_neg hnew, hfirst]
        exact executes_received h hff hstate
      by_cases hsip : IsRequest sip
      swap
      · rw [execute_of_not_isRequest hsip]
        exact executes_useless h hff (hstate ▸ hnew)
      rw [execute_request hsip]
      cases state with
      | preTrying => exact absurd rfl hnew
      | trying =>
          rw [if_pos (Or.inl hstate)]
          exact executes_useless h hff (by simp [hstate])
      | terminated =>
          rw [if_pos (Or.inr hstate)]
          exact executes_useless h hff (by simp [hstate])
      | proceeding =>
          have hopen : ¬ (tr.state = .trying ∨ tr.state = .terminated) := by simp [hstate]
          rw [if_neg hopen]
          exact executes_receivedAgain h hpast hff (Or.inl hstate) sip
      | completed =>
          have hopen : ¬ (tr.state = .trying ∨ tr.state = .terminated) := by simp [hstate]
          rw [if_neg hopen]
          exact executes_receivedAgain h hpast hff (Or.inr hstate) sip

end Execute

end GBServer.SipServerTransactions
