import GBServer.SipServerOutcomes

namespace GBServer.SipServerTransactions

open Foundation.CStrings
open Foundation.Runs
open GBServer.SipTransactionMatching

variable {μ ρ σ : Type*} {told : List (Told μ ρ)} {e : Told μ ρ} {tid : Nat}
  {time now later : Time} {r : Response ρ} {request : Request μ} {tr : Transaction μ ρ}
  {sent : Bool}

/-- All transactions stand as what was told of them says, and a compliant request that made a
transaction found no other with its key. -/
structure Inv (w : World μ ρ σ) (now : Time) : Prop where
  ids : (w.transactions.map Transaction.transactionid).Nodup
  below : ∀ o ∈ w.opened, o.tid < w.nextTransactionid
  ordered : (w.opened.map Opened.tid).Nodup
  times : ∀ o ∈ w.opened, o.time ≤ now
  sound : ∀ tr ∈ w.transactions, Sound w.told now tr
  origin : ∀ tr ∈ w.transactions, tr.opened ∈ w.opened
  source : ∀ e ∈ w.told, ∃ o ∈ w.opened, o.tid = e.tid ∧
    ∀ sip, e.outcome = .received sip → o.request = sip
  past : ∀ e ∈ w.told, e.time ≤ now
  orderly : Orderly w.told
  queue : w.told.filterMap World.announcement = w.handled ++ w.events
  gone : ∀ o ∈ w.opened, o ∈ w.transactions.map Transaction.opened ∨ Gone w.told now o
  heard : ∀ o ∈ w.opened, (∃ tr ∈ w.transactions, tr.opened = o ∧ tr.state = .preTrying) ∨
    ∃ e ∈ w.told, e.tid = o.tid ∧ e.outcome = .received o.request
  apart : w.opened.Pairwise fun o o' => ∀ key, o.request.key = some key →
    o'.request.key = some key → Gone w.told o'.time o

variable {w w' : World μ ρ σ} {app : Application μ ρ σ}

theorem timer_opened (now : Time) (tr : Transaction μ ρ) : (tr.timer now).opened = tr.opened := by
  rw [Transaction.timer]
  split <;> rfl

namespace Inv

theorem mono (h : Inv w now) (hle : now ≤ later) : Inv w later where
  ids := h.ids
  below := h.below
  ordered := h.ordered
  times o ho := Nat.le_trans (h.times o ho) hle
  sound tr htr := (h.sound tr htr).mono hle
  origin := h.origin
  source := h.source
  past e he := Nat.le_trans (h.past e he) hle
  orderly := h.orderly
  queue := h.queue
  gone o ho := by
    rcases h.gone o ho with hkept | hgone
    · exact Or.inl hkept
    · exact Or.inr (by simpa using hgone.mono hle [])
  heard := h.heard
  apart := h.apart

/-- A step that changes transactions in place. -/
theorem map (h : Inv w now) (f : Transaction μ ρ → Transaction μ ρ) (more : List (Told μ ρ))
    (htransactions : w'.transactions = w.transactions.map f) (htold : w'.told = w.told ++ more)
    (hevents : w'.events = w.events ++ more.filterMap World.announcement)
    (hopened : w'.opened = w.opened) (hnext : w'.nextTransactionid = w.nextTransactionid)
    (hhandled : w'.handled = w.handled)
    (hsame : ∀ tr ∈ w.transactions, (f tr).opened = tr.opened)
    (hsound : ∀ tr ∈ w.transactions, Sound w'.told now (f tr))
    (hpast : ∀ e ∈ more, e.time ≤ now)
    (hsource : ∀ e ∈ more, ∃ o ∈ w.opened, o.tid = e.tid ∧
      ∀ sip, e.outcome = .received sip → o.request = sip)
    (horderly : Orderly w'.told) : Inv w' now where
  ids := by
    have hids : w'.transactions.map Transaction.transactionid =
        w.transactions.map Transaction.transactionid := by
      rw [htransactions, List.map_map]
      exact List.map_congr_left fun tr htr => congrArg Opened.tid (hsame tr htr)
    rw [hids]
    exact h.ids
  below := by
    rw [hopened, hnext]
    exact h.below
  ordered := by
    rw [hopened]
    exact h.ordered
  times := by
    rw [hopened]
    exact h.times
  sound tr' htr' := by
    rw [htransactions] at htr'
    obtain ⟨tr, htr, rfl⟩ := List.mem_map.mp htr'
    exact hsound tr htr
  origin tr' htr' := by
    rw [htransactions] at htr'
    obtain ⟨tr, htr, rfl⟩ := List.mem_map.mp htr'
    rw [hsame tr htr, hopened]
    exact h.origin tr htr
  source e he := by
    rw [htold] at he
    rw [hopened]
    rcases List.mem_append.mp he with he | he
    · exact h.source e he
    · exact hsource e he
  past e he := by
    rw [htold] at he
    rcases List.mem_append.mp he with he | he
    · exact h.past e he
    · exact hpast e he
  orderly := horderly
  queue := by
    rw [htold, List.filterMap_append, h.queue, hhandled, hevents, List.append_assoc]
  gone o ho := by
    rw [hopened] at ho
    rcases h.gone o ho with hkept | hgone
    · obtain ⟨tr, htr, rfl⟩ := List.mem_map.mp hkept
      rw [htransactions, List.map_map]
      exact Or.inl (List.mem_map.mpr ⟨tr, htr, hsame tr htr⟩)
    · rw [htold]
      exact Or.inr (hgone.mono (Nat.le_refl now) more)
  heard o ho := by
    rw [hopened] at ho
    rcases h.heard o ho with ⟨tr, htr, rfl, -⟩ | ⟨e, he, hreceived⟩
    · by_cases hstate : (f tr).state = .preTrying
      · exact Or.inl ⟨f tr, htransactions ▸ List.mem_map_of_mem htr, hsame tr htr, hstate⟩
      · rw [← hsame tr htr]
        exact Or.inr ((hsound tr htr).announced hstate)
    · rw [htold]
      exact Or.inr ⟨e, List.mem_append_left _ he, hreceived⟩
  apart := by
    rw [hopened, htold]
    exact h.apart.imp fun hgone key hkey hkey' => (hgone key hkey hkey').mono (Nat.le_refl _) more

theorem quiet (h : Inv w now) {f : Transaction μ ρ → Transaction μ ρ}
    (hsame : ∀ tr ∈ w.transactions, (f tr).opened = tr.opened)
    (hsound : ∀ tr ∈ w.transactions, Sound w.told now (f tr)) :
    Inv { w with transactions := w.transactions.map f } now := by
  refine h.map f [] rfl (List.append_nil _).symm (List.append_nil _).symm rfl rfl
    rfl hsame hsound ?_ ?_ h.orderly
  · exact fun e he => absurd he List.not_mem_nil
  · exact fun e he => absurd he List.not_mem_nil

theorem addEvent (h : Inv w now) (tid : Nat) {evt : Event μ ρ} (hevt : evt ≠ .timeoutJ) :
    Inv (w.modify tid fun tr => tr.addEvent evt) now := by
  refine h.quiet (fun tr _ => ?_) (fun tr htr => ?_)
  · split <;> rfl
  · split
    · exact (h.sound tr htr).addEvent fun heq => absurd heq hevt
    · exact h.sound tr htr

theorem timers (h : Inv w now) :
    Inv { w with transactions := w.transactions.map (Transaction.timer now) } now := by
  exact h.quiet (fun tr _ => timer_opened now tr) (fun tr htr => (h.sound tr htr).timer)

theorem release (h : Inv w now) (hwoken : ∀ tr ∈ w.transactions, tr.state ≠ .preTrying) :
    Inv { w with transactions := w.transactions.filter fun tr => !tr.released now } now where
  ids := h.ids.sublist (List.filter_sublist.map _)
  below := h.below
  ordered := h.ordered
  times := h.times
  sound tr htr := h.sound tr (List.mem_of_mem_filter htr)
  origin tr htr := h.origin tr (List.mem_of_mem_filter htr)
  source := h.source
  past := h.past
  orderly := h.orderly
  queue := h.queue
  gone o ho := by
    rcases h.gone o ho with hkept | hgone
    · obtain ⟨tr, htr, rfl⟩ := List.mem_map.mp hkept
      cases hreleased : tr.released now with
      | false =>
          refine Or.inl (List.mem_map_of_mem (List.mem_filter.mpr ⟨htr, ?_⟩))
          rw [hreleased]
          rfl
      | true =>
          rcases of_decide_eq_true hreleased with hstate | hold
          · exact Or.inr (Or.inl ((h.sound tr htr).terminated hstate))
          · exact Or.inr (Or.inr hold)
    · exact Or.inr hgone
  heard o ho := by
    rcases h.heard o ho with ⟨tr, htr, _, hstate⟩ | hreceived
    · exact absurd hstate (hwoken tr htr)
    · exact Or.inr hreceived
  apart := h.apart

theorem transactionInit (h : Inv w now) (app : Application μ ρ σ)
    (hfind : w.findMatching request = none) (halone : standsAlone request = true) :
    Inv (w.transactionInit app now request) now where
  ids := by
    rw [World.transactionInit, List.map_append, List.nodup_append]
    refine ⟨h.ids, List.nodup_singleton _, ?_⟩
    intro tid htid new hnew
    obtain ⟨tr, htr, rfl⟩ := List.mem_map.mp htid
    rw [List.map_singleton, List.mem_singleton] at hnew
    exact hnew ▸ Nat.ne_of_lt (h.below tr.opened (h.origin tr htr))
  below o ho := by
    rcases List.mem_append.mp ho with ho | ho
    · exact Nat.lt_succ_of_lt (h.below o ho)
    · rw [List.mem_singleton.mp ho]
      exact Nat.lt_succ_self _
  ordered := by
    rw [World.transactionInit, List.map_append, List.nodup_append]
    refine ⟨h.ordered, List.nodup_singleton _, ?_⟩
    intro tid htid new hnew
    obtain ⟨o, ho, rfl⟩ := List.mem_map.mp htid
    rw [List.map_singleton, List.mem_singleton] at hnew
    exact hnew ▸ Nat.ne_of_lt (h.below o ho)
  times o ho := by
    rcases List.mem_append.mp ho with ho | ho
    · exact h.times o ho
    · exact Nat.le_of_eq (congrArg Opened.time (List.mem_singleton.mp ho))
  sound tr htr := by
    rcases List.mem_append.mp htr with htr | htr
    · exact h.sound tr htr
    · rw [List.mem_singleton.mp htr]
      refine ⟨iff_of_true rfl nofun, rfl, isRequest_of_standsAlone halone,
        fun _ => ⟨⟨_, rfl⟩, fun e he => ?_⟩, fun hne => ?_, ?_, nofun, nofun, nofun, ?_⟩
      · obtain ⟨o, ho, htid, _⟩ := h.source e he
        exact htid ▸ Nat.ne_of_lt (h.below o ho)
      · exact absurd rfl hne
      · rintro (hcontra | hcontra) <;> cases hcontra
      · intro hmem
        rcases List.mem_cons.mp hmem with hcontra | hmem
        · cases hcontra
        · obtain ⟨_, _, hcontra⟩ := List.mem_map.mp hmem
          cases hcontra
  origin tr htr := by
    rcases List.mem_append.mp htr with htr | htr
    · exact List.mem_append_left _ (h.origin tr htr)
    · rw [List.mem_singleton.mp htr]
      exact List.mem_append_right _ List.mem_cons_self
  source e he := by
    obtain ⟨o, ho, htold⟩ := h.source e he
    exact ⟨o, List.mem_append_left _ ho, htold⟩
  past := h.past
  orderly := h.orderly
  queue := h.queue
  gone o ho := by
    rw [World.transactionInit, List.map_append]
    rcases List.mem_append.mp ho with ho | ho
    · rcases h.gone o ho with hkept | hgone
      · exact Or.inl (List.mem_append_left _ hkept)
      · exact Or.inr hgone
    · refine Or.inl (List.mem_append_right _ ?_)
      rw [List.mem_singleton.mp ho]
      exact List.mem_cons_self
  heard o ho := by
    rcases List.mem_append.mp ho with ho | ho
    · rcases h.heard o ho with ⟨tr, htr, hkept⟩ | hreceived
      · exact Or.inl ⟨tr, List.mem_append_left _ htr, hkept⟩
      · exact Or.inr hreceived
    · refine Or.inl ⟨_, List.mem_append_right _ List.mem_cons_self, ?_, rfl⟩
      rw [List.mem_singleton.mp ho]
      rfl
  apart := by
    rw [World.transactionInit, List.pairwise_append]
    refine ⟨h.apart, List.pairwise_singleton _ _, ?_⟩
    intro o ho new hnew key hkey hkey'
    rw [List.mem_singleton.mp hnew] at hkey' ⊢
    rcases h.gone o ho with hkept | hgone
    · obtain ⟨tr, htr, rfl⟩ := List.mem_map.mp hkept
      obtain ⟨-, -, -, -, hmethod, hinvite, hack⟩ := key_eq_some_iff.mp hkey'
      change request.cseq.method = key.method at hmethod
      rw [World.findMatching, hmethod, if_neg (not_or.mpr ⟨hinvite, hack⟩),
        List.find?_eq_none] at hfind
      have hlisted : ¬ (tr.listed &&
          matchingRequest tr.request tr.origRequest request) = true := hfind tr htr
      have hmatching : matchingRequest tr.request tr.origRequest request = true :=
        (matchingRequest_iff hkey hkey' tr.origRequest).mpr rfl
      rw [hmatching, Bool.and_true, (h.sound tr htr).listed, not_not] at hlisted
      exact Or.inl ((h.sound tr htr).terminated hlisted)
    · exact hgone

theorem datagram (h : Inv w now) (app : Application μ ρ σ) (request : Request μ) :
    Inv (w.datagram app now request) now := by
  rw [World.datagram]
  split
  · exact h.addEvent _ nofun
  · rename_i hfind
    split
    · rename_i halone
      exact h.transactionInit app hfind halone
    · exact h

theorem find_eq_some {tid : Nat} (hfind : w.find tid = some tr) :
    tr ∈ w.transactions ∧ tr.transactionid = tid :=
  ⟨List.mem_of_find?_eq_some hfind, by simpa using List.find?_some hfind⟩

theorem eq_of_transactionid (h : Inv w now) {tr' : Transaction μ ρ} (htr : tr ∈ w.transactions)
    (htr' : tr' ∈ w.transactions) (htid : tr.transactionid = tr'.transactionid) : tr = tr' :=
  List.inj_on_of_nodup_map h.ids htr htr' htid

theorem executeNext (h : Inv w now) (sent : Bool) (tid : Nat) :
    Inv (w.executeNext now sent tid) now := by
  rw [World.executeNext]
  split
  · exact h
  · rename_i tr hfind
    obtain ⟨htr, rfl⟩ := find_eq_some hfind
    split
    · exact h
    · rename_i evt rest hff
      have hexecutes : Executes w.told now tr
          ({ tr with transactionff := rest }.execute now sent evt) :=
        executes (h.sound tr htr) h.past hff
      have hsame : ∀ tr' ∈ w.transactions, (if tr'.transactionid = tr.transactionid then
          ({ tr with transactionff := rest }.execute now sent evt).1 else tr').opened =
            tr'.opened := by
        intro tr' htr'
        split
        · rename_i htid
          rw [h.eq_of_transactionid htr' htr htid]
          exact hexecutes.opened
        · rfl
      obtain ⟨hsound, hfits, hreceived, hopened⟩ := hexecutes
      obtain ⟨⟨tr₁, outcome⟩, hexecuted⟩ :
          ∃ executed, ({ tr with transactionff := rest }.execute now sent evt) = executed :=
        ⟨_, rfl⟩
      simp only [hexecuted] at hsound hfits hreceived hopened hsame ⊢
      cases outcome with
      | none =>
          change Inv (w.modify tr.transactionid fun _ => tr₁) now
          refine h.quiet hsame fun tr' htr' => ?_
          split
          · simpa using hsound
          · exact h.sound tr' htr'
      | some outcome =>
          change Inv ((w.modify tr.transactionid fun _ => tr₁).tell
            ⟨tr.transactionid, now, outcome⟩) now
          refine h.map _ [⟨tr.transactionid, now, outcome⟩] rfl rfl ?_ rfl rfl rfl hsame ?_ ?_ ?_ ?_
          · rw [List.filterMap_cons]
            cases hannounced : World.announcement (⟨tr.transactionid, now, outcome⟩ : Told μ ρ) <;>
              simp [World.tell, World.modify, hannounced]
          · intro tr' htr'
            split
            · exact hsound
            · rename_i hne
              exact (h.sound tr' htr').other (Ne.symm hne)
          · intro e he
            exact Nat.le_of_eq (congrArg Told.time (List.mem_singleton.mp he))
          · intro e he
            rw [List.mem_singleton.mp he]
            refine ⟨tr.opened, h.origin tr htr, rfl, ?_⟩
            rintro sip rfl
            exact (hreceived sip rfl).symm
          · exact orderly_concat.mpr ⟨h.orderly, hfits outcome rfl⟩

end Inv

def Of (P : Transaction μ ρ → Prop) (w : World μ ρ σ) (tid : Nat) : Prop :=
  ∀ tr ∈ w.transactions, tr.transactionid = tid → P tr

/-- The next event of a transaction, and what it does to a property of one. -/
theorem of_executeNext {P Q : Transaction μ ρ → Prop} {w : World μ ρ σ} {tid : Nat}
    (h : Inv w now) (hP : Of P w tid) (sent : Bool) (tid' : Nat)
    (hidle : ∀ tr, P tr → (tid = tid' → tr.transactionff = []) → Q tr)
    (hstep : ∀ tr evt rest, P tr → tid = tid' → tr.transactionff = evt :: rest →
      Q ({ tr with transactionff := rest }.execute now sent evt).1) :
    Of Q (w.executeNext now sent tid') tid := by
  rw [World.executeNext]
  cases hfind : w.find tid' with
  | none =>
      intro tr htr htid
      refine hidle tr (hP tr htr htid) fun heq => ?_
      rw [World.find, List.find?_eq_none] at hfind
      exact absurd (decide_eq_true (htid.trans heq)) (hfind tr htr)
  | some found =>
      obtain ⟨hfound, rfl⟩ := Inv.find_eq_some hfind
      cases hff : found.transactionff with
      | nil =>
          simp only [hff]
          intro tr htr htid
          refine hidle tr (hP tr htr htid) fun heq => ?_
          rw [h.eq_of_transactionid htr hfound (htid.trans heq), hff]
      | cons evt rest =>
          have hmodified : Of Q (w.modify found.transactionid fun _ =>
              ({ found with transactionff := rest }.execute now sent evt).1) tid := by
            intro tr htr htid
            obtain ⟨old, hold, rfl⟩ := List.mem_map.mp htr
            split at htid
            · rename_i hold'
              rw [if_pos hold']
              rw [(execute_transactionff evt).2] at htid
              exact hstep found evt rest (hP found hfound htid) htid.symm hff
            · rename_i hne
              rw [if_neg hne]
              exact hidle old (hP old hold htid) fun heq => absurd (htid.trans heq) hne
          simp only [hff]
          cases ({ found with transactionff := rest }.execute now sent evt).2 with
          | none => exact hmodified
          | some outcome => exact hmodified

def Drained (tr : Transaction μ ρ) : Prop := tr.state = .terminated ∨ tr.transactionff = []

def Due (tr : Transaction μ ρ) : Prop :=
  tr.state = .terminated ∨ tr.state = .completed ∧ .timeoutJ ∈ tr.transactionff

/-- The timers make the transactions due whose final response was sent long enough ago. -/
theorem Sound.due (h : Sound told now tr) (hfinal : FinalSent told tr.transactionid time r)
    (hlate : linger tr.request time ≤ now) : Due (tr.timer now) := by
  obtain ⟨state, hstate⟩ : ∃ state, tr.state = state := ⟨_, rfl⟩
  cases state with
  | preTrying =>
      obtain ⟨e, he, htid, -⟩ := hfinal
      exact absurd htid ((h.fresh hstate).2 e he)
  | trying => exact absurd hfinal (h.unanswered (Or.inl hstate) time r)
  | proceeding => exact absurd hfinal (h.unanswered (Or.inr hstate) time r)
  | terminated =>
      have hunlisted : ¬ (tr.listed = true ∧ tr.needTimerJ now = true) := by
        rw [h.listed]
        exact fun hlisted => hlisted.1 hstate
      rw [Transaction.timer, if_neg hunlisted]
      exact Or.inl hstate
  | completed =>
      obtain ⟨_, first, -, -, hstart, hfirst⟩ := h.completed hstate
      have hle : linger tr.request first ≤ now :=
        Nat.le_trans (Nat.add_le_add_right (hfirst time r hfinal).2 _) hlate
      have hlisted : tr.listed = true ∧ tr.needTimerJ now = true := by
        refine ⟨h.listed.mpr (by simp [hstate]), decide_eq_true ⟨hstate, _, hstart, hle⟩⟩
      rw [Transaction.timer, if_pos hlisted]
      exact Or.inr ⟨hstate, List.mem_append_right _ List.mem_cons_self⟩

/-- What a part of a pass over the transactions keeps. -/
structure Passed (now : Time) (w w' : World μ ρ σ) : Prop where
  inv : Inv w' now
  told : ∃ more, w'.told = w.told ++ more ∧ ∀ e ∈ more, e.time = now
  kept : w'.opened = w.opened ∧ w'.user = w.user ∧ w'.handled = w.handled
  drained : ∀ tid, Of Drained w tid → Of Drained w' tid
  due : ∀ tid, Of Due w tid → Of Due w' tid

theorem passed_refl (h : Inv w now) : Passed now w w :=
  ⟨h, ⟨[], (List.append_nil _).symm, fun _ he => absurd he List.not_mem_nil⟩, ⟨rfl, rfl, rfl⟩,
    fun _ hw => hw, fun _ hw => hw⟩

theorem Passed.trans {w'' : World μ ρ σ} (h : Passed now w w') (h' : Passed now w' w'') :
    Passed now w w'' := by
  obtain ⟨more, htold, hmore⟩ := h.told
  obtain ⟨more', htold', hmore'⟩ := h'.told
  obtain ⟨hopened, huser, hhandled⟩ := h.kept
  obtain ⟨hopened', huser', hhandled'⟩ := h'.kept
  constructor
  · exact h'.inv
  · refine ⟨more ++ more', by rw [htold', htold, List.append_assoc], fun e he => ?_⟩
    rcases List.mem_append.mp he with he | he
    · exact hmore e he
    · exact hmore' e he
  · exact ⟨hopened'.trans hopened, huser'.trans huser, hhandled'.trans hhandled⟩
  · exact fun tid hw => h'.drained tid (h.drained tid hw)
  · exact fun tid hw => h'.due tid (h.due tid hw)

theorem told_executeNext (w : World μ ρ σ) (now : Time) (sent : Bool) (tid : Nat) :
    (∃ more, (w.executeNext now sent tid).told = w.told ++ more ∧ ∀ e ∈ more, e.time = now) ∧
      (w.executeNext now sent tid).opened = w.opened ∧
      (w.executeNext now sent tid).user = w.user ∧
      (w.executeNext now sent tid).handled = w.handled := by
  have hsilent : ∃ more, w.told = w.told ++ more ∧ ∀ e ∈ more, e.time = now :=
    ⟨[], (List.append_nil _).symm, fun _ he => absurd he List.not_mem_nil⟩
  rw [World.executeNext]
  split
  · exact ⟨hsilent, rfl, rfl, rfl⟩
  · split
    · exact ⟨hsilent, rfl, rfl, rfl⟩
    · dsimp only
      split
      · exact ⟨hsilent, rfl, rfl, rfl⟩
      · refine ⟨⟨_, rfl, fun e he => ?_⟩, rfl, rfl, rfl⟩
        rw [List.mem_singleton.mp he]

theorem passed_executeNext (h : Inv w now) (sent : Bool) (tid : Nat) :
    Passed now w (w.executeNext now sent tid) where
  inv := h.executeNext sent tid
  told := (told_executeNext w now sent tid).1
  kept := (told_executeNext w now sent tid).2
  drained tid' hw := by
    refine of_executeNext h hw sent tid (fun _ htr _ => htr) ?_
    rintro tr evt rest (hstate | hnil) _ hff
    · rw [execute_of_terminated { tr with transactionff := rest } now sent hstate]
      exact Or.inl hstate
    · cases hnil.symm.trans hff
  due tid' hw := by
    refine of_executeNext h hw sent tid (fun _ htr _ => htr) ?_
    rintro tr evt rest (hstate | ⟨hstate, hmem⟩) _ hff
    · rw [execute_of_terminated { tr with transactionff := rest } now sent hstate]
      exact Or.inl hstate
    · rcases execute_of_completed { tr with transactionff := rest } now sent hstate evt with
        hended | ⟨hsame, hne⟩
      · exact Or.inl hended
      · rw [hsame]
        rw [hff] at hmem
        exact Or.inr ⟨hstate, (List.mem_cons.mp hmem).resolve_left (Ne.symm hne)⟩

theorem passed_foldl {ι : Type*} {step : World μ ρ σ → ι → World μ ρ σ}
    (hstep : ∀ w i, Inv w now → Passed now w (step w i)) (h : Inv w now) (is : List ι) :
    Passed now w (is.foldl step w) := by
  refine invariant_run_of_step (P := fun w' => Passed now w w') (passed_refl h) ?_ is
  exact fun w' i hw' => hw'.trans (hstep w' i hw'.inv)

theorem drained_foldl (h : Inv w now) (sent : Nat → Bool) {tid : Nat} (ns : List Nat)
    (hleft : Of (fun tr => tr.transactionff.length ≤ ns.length) w tid) :
    Of Drained (ns.foldl (fun w n => w.executeNext now (sent n) tid) w) tid := by
  induction ns generalizing w with
  | nil =>
      intro tr htr htid
      exact Or.inr (List.length_eq_zero_iff.mp (Nat.le_zero.mp (hleft tr htr htid)))
  | cons n ns ih =>
      refine ih (h.executeNext (sent n) tid) (of_executeNext h hleft (sent n) tid ?_ ?_)
      · intro tr _ hnil
        rw [hnil rfl]
        exact Nat.zero_le _
      · intro tr evt rest hlength _ hff
        rw [(execute_transactionff evt).1]
        rw [hff] at hlength
        exact Nat.le_of_succ_le_succ hlength

theorem passed_executeEvents (h : Inv w now) (sent : Nat → Bool) (tid : Nat) :
    Passed now w (w.executeEvents now sent tid) ∧
      Of Drained (w.executeEvents now sent tid) tid := by
  rw [World.executeEvents]
  cases hfind : w.find tid with
  | none =>
      refine ⟨passed_refl h, fun tr htr htid => ?_⟩
      rw [World.find, List.find?_eq_none] at hfind
      exact absurd (decide_eq_true htid) (hfind tr htr)
  | some found =>
      obtain ⟨hfound, rfl⟩ := Inv.find_eq_some hfind
      refine ⟨passed_foldl (fun w n hw => passed_executeNext hw (sent n) _) h _, ?_⟩
      refine drained_foldl h sent _ fun tr htr htid => ?_
      exact Nat.le_of_eq (by rw [h.eq_of_transactionid htr hfound htid, List.length_range])

theorem drained_nistExecute (h : Inv w now) (sent : Nat → Nat → Bool) (tids : List Nat)
    {tid : Nat} (htid : tid ∈ tids) :
    Of Drained (tids.foldl (fun w tid => w.executeEvents now (sent tid) tid) w) tid := by
  induction tids generalizing w with
  | nil => exact absurd htid List.not_mem_nil
  | cons first rest ih =>
      obtain ⟨hpassed, hdrained⟩ := passed_executeEvents h (sent first) first
      rcases List.mem_cons.mp htid with rfl | hrest
      · exact (passed_foldl (fun w tid hw => (passed_executeEvents hw (sent tid) tid).1)
          hpassed.inv rest).drained tid hdrained
      · exact ih hpassed.inv hrest

theorem passed_nistExecute (h : Inv w now) (sent : Nat → Nat → Bool) :
    Passed now w (w.nistExecute now sent) ∧
      ∀ tid, Of Drained (w.nistExecute now sent) tid := by
  have hpassed : Passed now w (w.nistExecute now sent) :=
    passed_foldl (fun w tid hw => (passed_executeEvents hw (sent tid) tid).1) h _
  refine ⟨hpassed, fun tid => ?_⟩
  by_cases hlisted : tid ∈
      (w.transactions.filter Transaction.listed).map Transaction.transactionid
  · exact drained_nistExecute h sent _ hlisted
  · refine hpassed.drained tid fun tr htr htid => Or.inl ?_
    by_contra hstate
    refine hlisted (htid ▸ List.mem_map_of_mem (List.mem_filter.mpr ⟨htr, ?_⟩))
    exact (h.sound tr htr).listed.mpr hstate

theorem woken_of_drained (h : Inv w now) (hdrained : ∀ tid, Of Drained w tid) :
    ∀ tr ∈ w.transactions, tr.state ≠ .preTrying := by
  intro tr htr hstate
  rcases hdrained _ tr htr rfl with hended | hnil
  · cases hstate.symm.trans hended
  · obtain ⟨⟨rest, hff⟩, _⟩ := (h.sound tr htr).fresh hstate
    cases hnil.symm.trans hff

theorem Inv.execute (h : Inv w now) (sent : Nat → Nat → Bool) : Inv (w.execute now sent) now := by
  obtain ⟨hpassed, hdrained⟩ := passed_nistExecute h.timers sent
  exact hpassed.inv.release (woken_of_drained hpassed.inv hdrained)

namespace Inv

theorem eventWait (h : Inv w now) (app : Application μ ρ σ) : Inv (w.eventWait app) now := by
  rw [World.eventWait]
  split
  · rename_i tid request events _ hevents
    refine ⟨h.ids, h.below, h.ordered, h.times, h.sound, h.origin, h.source, h.past, h.orderly,
      ?_, h.gone, h.heard, h.apart⟩
    change w.told.filterMap World.announcement = w.handled ++ [(tid, request)] ++ events
    rw [h.queue, hevents, List.append_assoc]
    rfl
  · exact h

theorem turn (h : Inv w now) (turn : Turn ρ) : Inv { w with turn := turn } now :=
  ⟨h.ids, h.below, h.ordered, h.times, h.sound, h.origin, h.source, h.past, h.orderly, h.queue,
    h.gone, h.heard, h.apart⟩

theorem buildAnswer (h : Inv w now) : Inv w.buildAnswer now := by
  rw [World.buildAnswer]
  split
  · split
    · exact h.turn _
    · exact h.turn _
  · exact h

theorem sendAnswer (h : Inv w now) : Inv w.sendAnswer now := by
  rw [World.sendAnswer]
  split
  · dsimp only
    split
    · exact h.turn _
    · split
      · exact h.turn _
      · exact (h.turn _).addEvent _ nofun
  · exact h

end Inv

def Input.reading : Input μ → Option Time
  | .datagram now _ => some now
  | .execute now _ => some now
  | _ => none

/-- The readings of the clock, in the order of the inputs. -/
def readings (inputs : List (Input μ)) : List Time := inputs.filterMap Input.reading

/-- The monotonic clock does not run back. -/
def Ticking (inputs : List (Input μ)) : Prop := (readings inputs).Pairwise (· ≤ ·)

def start (user : σ) : World μ ρ σ := { user := user }

theorem inv_start (user : σ) : Inv (start user : World μ ρ σ) 0 where
  ids := List.nodup_nil
  below _ ho := absurd ho List.not_mem_nil
  ordered := List.nodup_nil
  times _ ho := absurd ho List.not_mem_nil
  sound _ htr := absurd htr List.not_mem_nil
  origin _ htr := absurd htr List.not_mem_nil
  source _ he := absurd he List.not_mem_nil
  past _ he := absurd he List.not_mem_nil
  orderly before e after heq := absurd heq.symm (by simp [start])
  queue := rfl
  gone _ ho := absurd ho List.not_mem_nil
  heard _ ho := absurd ho List.not_mem_nil
  apart := List.Pairwise.nil

theorem Inv.step (h : Inv w now) (app : Application μ ρ σ) (input : Input μ)
    (hclock : ∀ t ∈ input.reading, now ≤ t) :
    Inv (w.step app input) (input.reading.getD now) := by
  cases input with
  | datagram now' request => exact (h.mono (hclock now' rfl)).datagram app request
  | otherTransaction =>
      exact ⟨h.ids, fun o ho => Nat.lt_succ_of_lt (h.below o ho), h.ordered, h.times, h.sound,
        h.origin, h.source, h.past, h.orderly, h.queue, h.gone, h.heard, h.apart⟩
  | execute now' sent => exact (h.mono (hclock now' rfl)).execute sent
  | eventWait => exact h.eventWait app
  | buildAnswer => exact h.buildAnswer
  | sendAnswer => exact h.sendAnswer

def latest (inputs : List (Input μ)) : Time := (readings inputs).getLastD 0

theorem readings_concat (inputs : List (Input μ)) (input : Input μ) :
    readings (inputs ++ [input]) = readings inputs ++ input.reading.toList := by
  rw [readings, List.filterMap_append]
  cases hreading : input.reading <;> simp [readings, hreading]

theorem latest_concat (inputs : List (Input μ)) (input : Input μ) :
    latest (inputs ++ [input]) = input.reading.getD (latest inputs) := by
  rw [latest, readings_concat]
  cases input.reading with
  | none => simp [latest]
  | some t => simp

theorem ticking_concat {inputs : List (Input μ)} {input : Input μ}
    (hclock : Ticking (inputs ++ [input])) :
    Ticking inputs ∧ ∀ t ∈ input.reading, latest inputs ≤ t := by
  rw [Ticking, readings_concat, List.pairwise_append] at hclock
  obtain ⟨hbefore, -, hnext⟩ := hclock
  refine ⟨hbefore, fun t ht => ?_⟩
  rcases List.eq_nil_or_concat (readings inputs) with hnil | ⟨earlier, last, heq⟩
  · rw [latest, hnil]
    exact Nat.zero_le t
  · rw [latest, heq, List.concat_eq_append, List.getLastD_concat]
    refine hnext last ?_ t (Option.mem_toList.mpr ht)
    rw [heq, List.concat_eq_append]
    exact List.mem_append_right _ List.mem_cons_self

theorem inv_run (app : Application μ ρ σ) (user : σ) {inputs : List (Input μ)}
    (hclock : Ticking inputs) :
    Inv (run (World.step app) (start user) inputs) (latest inputs) := by
  induction inputs using List.reverseRecOn with
  | nil => exact inv_start user
  | append_singleton inputs input ih =>
      obtain ⟨hbefore, hnext⟩ := ticking_concat hclock
      rw [run_concat, latest_concat]
      exact (ih hbefore).step app input hnext

/-- An application that counts what it handles and answers everything with 200. -/
def counting : Application Unit Unit Nat where
  handle handled _ _ := (handled + 1, some { statusCode := 200, content := () })
  buildResponseDefault status _ := some { statusCode := status, content := () }

def keepalive : Request Unit where
  sipMethod := ascii "MESSAGE"
  topvia :=
    { version := ascii "2.0", protocol := ascii "UDP", host := some (ascii "192.0.2.1"),
      port := none, viaParams := [(ascii "branch", some (ascii "z9hG4bK74b4"))], comment := none }
  fromTag := some (some (ascii "1928"))
  toTag := none
  callId := { number := ascii "a84b4c76e667", host := none }
  cseq := { number := ascii "20", method := ascii "MESSAGE" }
  content := ()

/-- The request comes twice and is handled; it comes once more after the response. -/
def retransmitted : List (Input Unit) :=
  [.datagram 0 keepalive, .datagram 500000 keepalive, .execute 500000 fun _ _ => true, .eventWait,
    .buildAnswer, .sendAnswer, .execute 600000 fun _ _ => true, .datagram 1500000 keepalive]

theorem ticking_retransmitted : Ticking (retransmitted ++ [.execute 1500000 fun _ _ => true]) := by
  change List.Pairwise (· ≤ ·) [0, 500000, 500000, 600000, 1500000, 1500000]
  decide

/-- The application has handled each of the requests that were handed to it, in their order. -/
theorem user_run (app : Application μ ρ σ) (user : σ) {inputs : List (Input μ)}
    (hclock : Ticking inputs) :
    (run (World.step app) (start user) inputs).user =
      (run (World.step app) (start user) inputs).handled.foldl
        (fun user handled => (app.handle user handled.1 handled.2).1) user := by
  induction inputs using List.reverseRecOn with
  | nil => rfl
  | append_singleton inputs input ih =>
      obtain ⟨hbefore, hnext⟩ := ticking_concat hclock
      have hsame := ih hbefore
      have hinv := inv_run app user hbefore
      rw [run_concat]
      generalize run (World.step app) (start user) inputs = w at hsame hinv ⊢
      cases input with
      | datagram now request =>
          rw [World.step, World.datagram]
          split
          · exact hsame
          · split
            · exact hsame
            · exact hsame
      | otherTransaction => exact hsame
      | execute now sent =>
          obtain ⟨⟨-, -, ⟨-, huser, hhandled⟩, -, -⟩, -⟩ :=
            passed_nistExecute (hinv.mono (hnext now rfl)).timers sent
          rw [World.step, World.execute]
          dsimp only
          rw [huser, hhandled]
          exact hsame
      | eventWait =>
          rw [World.step, World.eventWait]
          split
          · rw [List.foldl_append, ← hsame]
            rfl
          · exact hsame
      | buildAnswer =>
          rw [World.step, World.buildAnswer]
          split
          · split
            · exact hsame
            · exact hsame
          · exact hsame
      | sendAnswer =>
          rw [World.step, World.sendAnswer]
          split
          · dsimp only
            split
            · exact hsame
            · split
              · exact hsame
              · exact hsame
          · exact hsame

/-- A request that was handled is the request of its transaction, and was handled once. -/
theorem Inv.handled (h : Inv w now) : (w.handled.map Prod.fst).Nodup ∧
    ∀ handled ∈ w.handled, ∃ o ∈ w.opened, o.tid = handled.1 ∧ o.request = handled.2 := by
  constructor
  · have hnodup := h.orderly.nodup
    rw [h.queue, List.map_append] at hnodup
    exact (List.nodup_append.mp hnodup).1
  · intro handled hhandled
    have hmem : handled ∈ w.told.filterMap World.announcement := by
      rw [h.queue]
      exact List.mem_append_left _ hhandled
    obtain ⟨e, he, hannounced⟩ := List.mem_filterMap.mp hmem
    obtain ⟨tid, sip⟩ := handled
    obtain ⟨htid, houtcome⟩ := announcement_eq_some hannounced
    obtain ⟨o, ho, hsame, hrequest⟩ := h.source e he
    exact ⟨o, ho, hsame.trans htid, hrequest _ houtcome⟩

/-- Whatever comes from the network and whenever the threads run: the final responses sent in a
transaction are all the same, and a retransmission that a transaction executes after its final
response is answered with that response again. -/
theorem one_response (app : Application μ ρ σ) (user : σ) {inputs : List (Input μ)}
    (hclock : Ticking inputs) :
    let w := run (World.step app) (start user) inputs
    (∀ e ∈ w.told, ∀ e' ∈ w.told, e.tid = e'.tid → ∀ r r', e.response = some r →
      e'.response = some r' → r.isFinal = true → r'.isFinal = true → r = r') ∧
      ∀ before e after, w.told = before ++ e :: after →
        ∀ answer sent, e.outcome = .receivedAgain answer sent →
          ∀ e' ∈ before, e'.tid = e.tid → ∀ r, e'.response = some r → r.isFinal = true →
            answer = some r := by
  intro w
  have hinv : Inv w (latest inputs) := inv_run app user hclock
  constructor
  · intro e he e' he' htid r r' hr hr' hfinal hfinal'
    exact hinv.orderly.agree ⟨e, he, htid, rfl, hr, hfinal⟩ ⟨e', he', rfl, rfl, hr', hfinal'⟩
  · intro before e after heq answer sent houtcome e' he' htid r hr hfinal
    exact (hinv.orderly before e after heq).again answer sent houtcome e'.time r
      ⟨e', he', htid, rfl, hr, hfinal⟩

theorem one_response_of_retransmitted :
    let w := run (World.step counting) (start 0)
      (retransmitted ++ [.execute 1500000 fun _ _ => true])
    (∀ e ∈ w.told, ∀ e' ∈ w.told, e.tid = e'.tid → ∀ r r', e.response = some r →
      e'.response = some r' → r.isFinal = true → r'.isFinal = true → r = r') ∧
      ∀ before e after, w.told = before ++ e :: after →
        ∀ answer sent, e.outcome = .receivedAgain answer sent →
          ∀ e' ∈ before, e'.tid = e.tid → ∀ r, e'.response = some r → r.isFinal = true →
            answer = some r :=
  one_response counting 0 ticking_retransmitted

/-- The three datagrams are one transaction, handled once and answered twice. -/
example :
    let w := run (World.step counting) (start 0)
      (retransmitted ++ [.execute 1500000 fun _ _ => true])
    w.user = 1 ∧ w.opened.length = 1 ∧ (w.told.filterMap Told.response).length = 2 := by
  decide

/-- A `CANCEL` without a call is answered and not announced. -/
example :
    let w := run (World.step counting) (start 0)
      [.datagram 0 { keepalive with
          sipMethod := ascii "CANCEL", cseq := { keepalive.cseq with method := ascii "CANCEL" } },
        .execute 0 fun _ _ => true, .eventWait]
    w.user = 0 ∧ w.told.filterMap Told.response = [{ statusCode := 481, content := () }] := by
  decide

end GBServer.SipServerTransactions
