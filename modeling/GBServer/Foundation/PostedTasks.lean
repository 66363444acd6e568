import Mathlib.Data.List.Basic
import Mathlib.Data.List.Nodup
import Mathlib.Data.List.Perm.Basic

/-!
The tasks posted to a thread.

A task is posted with the time from which it may be taken, and is known by the number of
its posting.  A safety flag, where a task has one, decides when the task is taken whether
it runs.
-/

namespace Foundation.PostedTasks

open scoped List

/-- The flag that an object shares with the tasks it posts. -/
structure SafetyFlag where
  alive : Bool
  deriving DecidableEq, Repr

namespace SafetyFlag

def create : SafetyFlag := ⟨true⟩

def createDetachedInactive : SafetyFlag := ⟨false⟩

end SafetyFlag

structure Entry (τ : Type*) where
  ticket : Nat
  due : Int
  task : τ

structure TaskQueue (τ : Type*) where
  entries : List (Entry τ) := []
  next : Nat := 0

variable {τ : Type*}

namespace TaskQueue

def post (q : TaskQueue τ) (due : Int) (task : τ) : TaskQueue τ :=
  { entries := q.entries ++ [⟨q.next, due, task⟩], next := q.next + 1 }

def postAll (q : TaskQueue τ) (due : Int) (tasks : List τ) : TaskQueue τ :=
  tasks.foldl (fun q task => q.post due task) q

def isDue (now : Int) (ticket : Nat) (e : Entry τ) : Bool :=
  decide (e.ticket = ticket) && decide (e.due ≤ now)

/-- The thread may take any task whose time has come. -/
def due? (q : TaskQueue τ) (now : Int) (ticket : Nat) : Option (Entry τ) :=
  q.entries.find? (isDue now ticket)

def remove (q : TaskQueue τ) (now : Int) (ticket : Nat) : TaskQueue τ :=
  { q with entries := q.entries.eraseP (isDue now ticket) }

def tickets (q : TaskQueue τ) : List Nat := q.entries.map Entry.ticket

/-- Every task posted is waiting or done, and only once. -/
def Accounted (q : TaskQueue τ) (done : List Nat) : Prop :=
  (q.tickets ++ done).Perm (List.range q.next)

/-- The waiting tasks have numbers of their own, below the next one. -/
structure Numbered (q : TaskQueue τ) : Prop where
  nodup : q.tickets.Nodup
  lt_next : ∀ ticket ∈ q.tickets, ticket < q.next

variable {q : TaskQueue τ} {now : Int} {ticket : Nat} {e : Entry τ} {done : List Nat}

theorem exists_of_due? (h : q.due? now ticket = some e) :
    ∃ front back, q.entries = front ++ e :: back ∧
      (q.remove now ticket).entries = front ++ back ∧ e.ticket = ticket ∧ e.due ≤ now := by
  have hdue : isDue now ticket e = true := List.find?_some h
  obtain ⟨_, front, back, heq, hnone⟩ := List.find?_eq_some_iff_append.mp h
  refine ⟨front, back, heq, ?_, by simpa [isDue] using hdue⟩
  have hfront : ∀ a ∈ front, ¬ isDue now ticket a = true := by
    intro a ha
    simpa using hnone a ha
  rw [remove, heq, List.eraseP_append_right _ hfront, List.eraseP_cons_of_pos hdue]

theorem mem_entries_post {due : Int} {task : τ} :
    e ∈ (q.post due task).entries ↔ e ∈ q.entries ∨ e = ⟨q.next, due, task⟩ := by
  simp [post]

theorem mem_entries_of_postAll {due : Int} {tasks : List τ}
    (h : e ∈ (q.postAll due tasks).entries) : e ∈ q.entries ∨ e.task ∈ tasks := by
  induction tasks generalizing q with
  | nil => exact .inl h
  | cons task rest ih =>
      rcases ih h with h | h
      · rcases mem_entries_post.mp h with h | rfl
        · exact .inl h
        · exact .inr List.mem_cons_self
      · exact .inr (List.mem_cons_of_mem _ h)

theorem exists_mem_entries_postAll {task : τ} (due : Int) {tasks : List τ} (h : task ∈ tasks) :
    ∃ e ∈ (q.postAll due tasks).entries, e.task = task := by
  have hkept : ∀ (rest : List τ) {q : TaskQueue τ} {e : Entry τ}, e ∈ q.entries →
      e ∈ (q.postAll due rest).entries := by
    intro rest
    induction rest with
    | nil => exact fun he => he
    | cons task rest ih => exact fun he => ih (mem_entries_post.mpr (.inl he))
  induction tasks generalizing q with
  | nil => exact absurd h List.not_mem_nil
  | cons first rest ih =>
      rcases List.mem_cons.mp h with rfl | h
      · exact ⟨_, hkept rest (mem_entries_post.mpr (.inr rfl)), rfl⟩
      · exact ih h

theorem mem_entries_of_due? (h : q.due? now ticket = some e) : e ∈ q.entries :=
  List.mem_of_find?_eq_some h

theorem mem_entries_of_remove {a : Entry τ} (h : a ∈ (q.remove now ticket).entries) :
    a ∈ q.entries :=
  List.mem_of_mem_eraseP h

theorem mem_entries_remove {a : Entry τ} (h : q.due? now ticket = some e) (ha : a ∈ q.entries)
    (hne : a ≠ e) : a ∈ (q.remove now ticket).entries := by
  obtain ⟨front, back, hentries, hremove, _, _⟩ := exists_of_due? h
  rw [hentries, List.mem_append, List.mem_cons] at ha
  rw [hremove, List.mem_append]
  rcases ha with ha | ha | ha
  · exact .inl ha
  · exact absurd ha hne
  · exact .inr ha

theorem tickets_post (due : Int) (task : τ) :
    (q.post due task).tickets = q.tickets ++ [q.next] := by
  simp [tickets, post]

theorem numbered_empty : ({} : TaskQueue τ).Numbered :=
  ⟨List.nodup_nil, fun _ h => absurd h List.not_mem_nil⟩

theorem Numbered.post (h : q.Numbered) (due : Int) (task : τ) :
    (q.post due task).Numbered := by
  constructor
  · rw [tickets_post, List.nodup_append_comm, List.singleton_append, List.nodup_cons]
    exact ⟨fun hmem => Nat.lt_irrefl _ (h.lt_next _ hmem), h.nodup⟩
  · intro ticket hticket
    rw [tickets_post, List.mem_append, List.mem_singleton] at hticket
    rcases hticket with hticket | rfl
    · exact Nat.lt_succ_of_lt (h.lt_next ticket hticket)
    · exact Nat.lt_succ_self _

theorem Numbered.remove (h : q.Numbered) (now : Int) (ticket : Nat) :
    (q.remove now ticket).Numbered := by
  have hsublist : (q.remove now ticket).tickets.Sublist q.tickets :=
    List.eraseP_sublist.map Entry.ticket
  exact ⟨h.nodup.sublist hsublist, fun t ht => h.lt_next t (hsublist.subset ht)⟩

theorem Numbered.due?_eq_some (h : q.Numbered) (he : e ∈ q.entries) (hdue : e.due ≤ now) :
    q.due? now e.ticket = some e := by
  have hfound : (q.due? now e.ticket).isSome = true := by
    rw [due?, List.find?_isSome]
    exact ⟨e, he, by simp [isDue, hdue]⟩
  obtain ⟨a, ha⟩ := Option.isSome_iff_exists.mp hfound
  obtain ⟨_, _, _, _, hticket, _⟩ := exists_of_due? ha
  rw [ha, List.inj_on_of_nodup_map h.nodup (mem_entries_of_due? ha) he hticket]

theorem accounted_empty : ({} : TaskQueue τ).Accounted [] := List.Perm.refl []

theorem Accounted.post (h : q.Accounted done) (due : Int) (task : τ) :
    (q.post due task).Accounted done := by
  rw [Accounted, tickets_post]
  change (q.tickets ++ [q.next] ++ done) ~ List.range (q.next + 1)
  rw [List.range_succ, List.append_assoc]
  calc q.tickets ++ ([q.next] ++ done)
      ~ q.tickets ++ (done ++ [q.next]) := List.perm_append_comm.append_left _
    _ = (q.tickets ++ done) ++ [q.next] := (List.append_assoc _ _ _).symm
    _ ~ List.range q.next ++ [q.next] := h.append_right _

theorem tickets_perm_of_due? (h : q.due? now ticket = some e) :
    q.tickets.Perm (ticket :: (q.remove now ticket).tickets) := by
  obtain ⟨front, back, hentries, hremove, rfl, _⟩ := exists_of_due? h
  rw [tickets, tickets, hentries, hremove, List.map_append, List.map_append, List.map_cons]
  exact List.perm_middle

/-- A task that is taken and executed is accounted for. -/
theorem Accounted.take (h : q.Accounted done) (hdue : q.due? now ticket = some e) :
    (q.remove now ticket).Accounted (done ++ [ticket]) := by
  have hperm := tickets_perm_of_due? hdue
  calc (q.remove now ticket).tickets ++ (done ++ [ticket])
      = ((q.remove now ticket).tickets ++ done) ++ [ticket] := (List.append_assoc _ _ _).symm
    _ ~ ticket :: ((q.remove now ticket).tickets ++ done) := List.perm_append_comm
    _ ~ q.tickets ++ done := (hperm.append_right done).symm
    _ ~ List.range q.next := h

theorem Accounted.not_remove (h : q.Accounted done) (hdue : q.due? now ticket = some e) :
    ¬ (q.remove now ticket).Accounted done := by
  intro hlost
  have hperm := (tickets_perm_of_due? hdue).length_eq
  have hbefore := h.length_eq
  have hafter := hlost.length_eq
  have hnext : (q.remove now ticket).next = q.next := rfl
  rw [List.length_append, List.length_range] at hbefore hafter
  rw [List.length_cons] at hperm
  omega

end TaskQueue

end Foundation.PostedTasks
