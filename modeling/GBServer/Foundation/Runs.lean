import Mathlib.Data.List.Basic

/-!
Runs of deterministic transition systems.

A system is a step function on states and inputs.  This module collects the
induction rules used to carry a one-step fact along a whole run, and the rule
that turns a step characterisation of an invariant into a characterisation of
the runs on which the invariant never breaks.
-/

namespace Foundation.Runs

variable {σ ι γ : Type*}

/-- The state reached from `s` on a list of inputs. -/
def run (step : σ → ι → σ) (s : σ) (inputs : List ι) : σ :=
  inputs.foldl step s

@[simp] theorem run_nil (step : σ → ι → σ) (s : σ) : run step s [] = s := rfl

@[simp] theorem run_cons (step : σ → ι → σ) (s : σ) (input : ι) (rest : List ι) :
    run step s (input :: rest) = run step (step s input) rest := rfl

theorem run_append (step : σ → ι → σ) (s : σ) (front back : List ι) :
    run step s (front ++ back) = run step (run step s front) back := by
  simp [run]

theorem run_concat (step : σ → ι → σ) (s : σ) (front : List ι) (input : ι) :
    run step s (front ++ [input]) = step (run step s front) input := by
  simp [run]

/-- `P` holds before the first input and after every input. -/
def Throughout (step : σ → ι → σ) (P : σ → Prop) (s : σ) (inputs : List ι) : Prop :=
  ∀ front back, inputs = front ++ back → P (run step s front)

/-- Every input satisfies `ok` in the state it arrives in. -/
def Admitted (step : σ → ι → σ) (ok : σ → ι → Prop) (s : σ) (inputs : List ι) : Prop :=
  ∀ front input back, inputs = front ++ input :: back → ok (run step s front) input

theorem throughout_nil {step : σ → ι → σ} {P : σ → Prop} {s : σ} :
    Throughout step P s [] ↔ P s := by
  constructor
  · intro h
    exact h [] [] rfl
  · intro h front back heq
    obtain ⟨rfl, rfl⟩ := List.nil_eq_append_iff.mp heq
    exact h

theorem throughout_cons {step : σ → ι → σ} {P : σ → Prop} {s : σ} {input : ι}
    {rest : List ι} :
    Throughout step P s (input :: rest) ↔
      P s ∧ Throughout step P (step s input) rest := by
  constructor
  · intro h
    refine ⟨h [] (input :: rest) rfl, ?_⟩
    intro front back heq
    exact h (input :: front) back (by rw [heq, List.cons_append])
  · rintro ⟨hs, hrest⟩ front back heq
    rcases List.cons_eq_append_iff.mp heq with ⟨rfl, _⟩ | ⟨tail, rfl, hrestEq⟩
    · exact hs
    · exact hrest tail back hrestEq

theorem admitted_nil {step : σ → ι → σ} {ok : σ → ι → Prop} {s : σ} :
    Admitted step ok s [] := by
  intro front input back heq
  simp at heq

theorem admitted_cons {step : σ → ι → σ} {ok : σ → ι → Prop} {s : σ} {input : ι}
    {rest : List ι} :
    Admitted step ok s (input :: rest) ↔
      ok s input ∧ Admitted step ok (step s input) rest := by
  constructor
  · intro h
    refine ⟨h [] input rest rfl, ?_⟩
    intro front next back heq
    exact h (input :: front) next back (by rw [heq, List.cons_append])
  · rintro ⟨hinput, hrest⟩ front next back heq
    rcases List.cons_eq_append_iff.mp heq with ⟨rfl, htail⟩ | ⟨tail, rfl, hrestEq⟩
    · obtain ⟨rfl, rfl⟩ := List.cons.inj htail
      exact hinput
    · exact hrest tail next back hrestEq

theorem admitted_append {step : σ → ι → σ} {ok : σ → ι → Prop} {s : σ}
    {front back : List ι} :
    Admitted step ok s (front ++ back) ↔
      Admitted step ok s front ∧ Admitted step ok (run step s front) back := by
  induction front generalizing s with
  | nil => simp [admitted_nil]
  | cons input rest ih =>
      rw [List.cons_append, admitted_cons, admitted_cons, ih, run_cons, and_assoc]

theorem Admitted.mono {step : σ → ι → σ} {ok ok' : σ → ι → Prop} {s : σ}
    {inputs : List ι} (h : Admitted step ok s inputs)
    (himp : ∀ s input, ok s input → ok' s input) : Admitted step ok' s inputs :=
  fun front input back heq => himp _ _ (h front input back heq)

/-- A condition on the inputs alone. -/
theorem admitted_of_forall_mem {step : σ → ι → σ} {ok : ι → Prop} {s : σ} {inputs : List ι}
    (h : ∀ input ∈ inputs, ok input) : Admitted step (fun _ input => ok input) s inputs := by
  rintro front input back rfl
  exact h input (List.mem_append_right front List.mem_cons_self)

/-- An invariant kept by every admitted input holds in the final state. -/
theorem invariant_run {step : σ → ι → σ} {ok : σ → ι → Prop} {P : σ → Prop} {s : σ}
    {inputs : List ι} (hs : P s)
    (hstep : ∀ s input, P s → ok s input → P (step s input))
    (hinputs : Admitted step ok s inputs) : P (run step s inputs) := by
  induction inputs generalizing s with
  | nil => exact hs
  | cons input rest ih =>
      rw [admitted_cons] at hinputs
      exact ih (hstep s input hs hinputs.1) hinputs.2

/-- An invariant kept by every admitted input holds all the way. -/
theorem throughout_of_admitted {step : σ → ι → σ} {ok : σ → ι → Prop} {P : σ → Prop} {s : σ}
    {inputs : List ι} (hs : P s)
    (hstep : ∀ s input, P s → ok s input → P (step s input))
    (hinputs : Admitted step ok s inputs) : Throughout step P s inputs := by
  rintro front back rfl
  exact invariant_run hs hstep (admitted_append.mp hinputs).1

/-- An invariant kept by every input whatever the input is. -/
theorem invariant_run_of_step {step : σ → ι → σ} {P : σ → Prop} {s : σ} (hs : P s)
    (hstep : ∀ s input, P s → P (step s input)) (inputs : List ι) :
    P (run step s inputs) :=
  invariant_run hs (fun s input h _ => hstep s input h)
    (show Admitted step (fun _ _ => True) s inputs from fun _ _ _ _ => trivial)

theorem throughout_iff_admitted {step : σ → ι → σ} {ok : σ → ι → Prop}
    {P aux : σ → Prop} {s : σ} {inputs : List ι} (hs : P s) (haux : aux s)
    (hstep : ∀ s input, aux s → P s → (P (step s input) ↔ ok s input))
    (hkeep : ∀ s input, aux s → P s → P (step s input) → aux (step s input)) :
    Throughout step P s inputs ↔ Admitted step ok s inputs := by
  induction inputs generalizing s with
  | nil => simp [throughout_nil, admitted_nil, hs]
  | cons input rest ih =>
      rw [throughout_cons, admitted_cons]
      constructor
      · rintro ⟨_, hrest⟩
        have hnext : P (step s input) := hrest [] rest rfl
        have hkept := hkeep s input haux hs hnext
        exact ⟨(hstep s input haux hs).mp hnext, (ih hnext hkept).mp hrest⟩
      · rintro ⟨hinput, hrest⟩
        have hnext : P (step s input) := (hstep s input haux hs).mpr hinput
        have hkept := hkeep s input haux hs hnext
        exact ⟨hs, (ih hnext hkept).mpr hrest⟩

theorem throughout_iff_admitted_of_step {step : σ → ι → σ} {ok : σ → ι → Prop}
    {P : σ → Prop} {s : σ} {inputs : List ι} (hs : P s)
    (hstep : ∀ s input, P s → (P (step s input) ↔ ok s input)) :
    Throughout step P s inputs ↔ Admitted step ok s inputs :=
  throughout_iff_admitted hs hs (fun s input _ h => hstep s input h) (fun _ _ _ _ h => h)

/-- Two conditions that agree on the admissible inputs of reachable states agree on the
whole run. -/
theorem admitted_congr {step : σ → ι → σ} {assumed ok ok' : σ → ι → Prop} {P : σ → Prop}
    {s : σ} {inputs : List ι} (hs : P s)
    (hkeep : ∀ s input, P s → assumed s input → P (step s input))
    (hiff : ∀ s input, P s → assumed s input → (ok s input ↔ ok' s input))
    (hassumed : Admitted step assumed s inputs) :
    Admitted step ok s inputs ↔ Admitted step ok' s inputs := by
  have hreached : Throughout step P s inputs := throughout_of_admitted hs hkeep hassumed
  constructor
  · intro h front input back heq
    exact (hiff _ input (hreached front _ heq) (hassumed front input back heq)).mp
      (h front input back heq)
  · intro h front input back heq
    exact (hiff _ input (hreached front _ heq) (hassumed front input back heq)).mpr
      (h front input back heq)

theorem admitted_congr_of_step {step : σ → ι → σ} {ok ok' : σ → ι → Prop} {P : σ → Prop}
    {s : σ} {inputs : List ι} (hs : P s) (hkeep : ∀ s input, P s → P (step s input))
    (hiff : ∀ s input, P s → (ok s input ↔ ok' s input)) :
    Admitted step ok s inputs ↔ Admitted step ok' s inputs :=
  admitted_congr hs (fun s input h _ => hkeep s input h) (fun s input h _ => hiff s input h)
    (show Admitted step (fun _ _ => True) s inputs from fun _ _ _ _ => trivial)

/-- Two systems reach the same states on the whole run exactly when they agree on each
step of it. -/
theorem runs_agree_iff {f g : σ → ι → σ} {s : σ} {inputs : List ι} :
    (∀ front back, inputs = front ++ back → run f s front = run g s front) ↔
      Admitted g (fun s input => f s input = g s input) s inputs := by
  induction inputs generalizing s with
  | nil =>
      refine iff_of_true ?_ admitted_nil
      intro front back heq
      obtain ⟨rfl, _⟩ := List.nil_eq_append_iff.mp heq
      rfl
  | cons input rest ih =>
      rw [admitted_cons, ← ih]
      constructor
      · intro hagree
        have hinput : f s input = g s input := hagree [input] rest rfl
        refine ⟨hinput, ?_⟩
        intro front back heq
        have hlonger := hagree (input :: front) back (by rw [heq, List.cons_append])
        rwa [run_cons, run_cons, hinput] at hlonger
      · rintro ⟨hinput, hrest⟩ front back heq
        rcases List.cons_eq_append_iff.mp heq with ⟨rfl, _⟩ | ⟨tail, rfl, hrestEq⟩
        · rfl
        · rw [run_cons, run_cons, hinput]
          exact hrest tail back hrestEq

/-- Run a system together with an observer that sees the state before each
step. -/
def observe (step : σ → ι → σ) (note : σ → γ → ι → γ) : σ × γ → ι → σ × γ :=
  fun p input => (step p.1 input, note p.1 p.2 input)

@[simp] theorem observe_fst (step : σ → ι → σ) (note : σ → γ → ι → γ) (p : σ × γ)
    (input : ι) : (observe step note p input).1 = step p.1 input := rfl

@[simp] theorem run_observe_fst (step : σ → ι → σ) (note : σ → γ → ι → γ)
    (p : σ × γ) (inputs : List ι) :
    (run (observe step note) p inputs).1 = run step p.1 inputs := by
  induction inputs generalizing p with
  | nil => rfl
  | cons input rest ih => exact ih _

section Faulting

variable {ε : Type*}

/-- A step that can fail, continued over the results of earlier steps: a failure ends
the run. -/
def guarded (step : σ → ι → Except ε σ) (p : Except ε σ) (input : ι) : Except ε σ :=
  p.bind fun s => step s input

/-- `P` holds of the result, if there is one. -/
def OnOk (P : σ → Prop) (p : Except ε σ) : Prop := ∀ s, p = .ok s → P s

@[simp] theorem onOk_ok {P : σ → Prop} {s : σ} : OnOk P (.ok s : Except ε σ) ↔ P s :=
  ⟨fun h => h s rfl, fun h _ heq => Except.ok.inj heq ▸ h⟩

@[simp] theorem onOk_error {P : σ → Prop} {e : ε} : OnOk P (.error e) := nofun

@[simp] theorem guarded_ok (step : σ → ι → Except ε σ) (s : σ) (input : ι) :
    guarded step (.ok s) input = step s input := rfl

@[simp] theorem guarded_error (step : σ → ι → Except ε σ) (e : ε) (input : ι) :
    guarded step (.error e) input = .error e := rfl

theorem run_guarded_error {step : σ → ι → Except ε σ} (e : ε) (inputs : List ι) :
    run (guarded step) (.error e) inputs = .error e := by
  induction inputs with
  | nil => rfl
  | cons input rest ih => exact ih

theorem onOk_map {τ : Type*} {P : τ → Prop} {f : σ → τ} {p : Except ε σ} :
    OnOk P (p.map f) ↔ OnOk (fun s => P (f s)) p := by
  cases p with
  | error e => simp [Except.map]
  | ok s => simp [Except.map]

theorem onOk_run {step : σ → ι → Except ε σ} {P : σ → Prop} {s : σ} (hs : P s)
    (hstep : ∀ s input, P s → OnOk P (step s input)) (inputs : List ι) :
    OnOk P (run (guarded step) (.ok s) inputs) := by
  refine invariant_run_of_step (onOk_ok.mpr hs) ?_ inputs
  intro p input hp
  cases p with
  | error e => exact onOk_error
  | ok s => exact hstep s input (onOk_ok.mp hp)

/-- A step characterisation of a property characterises the runs that keep it. -/
theorem throughout_onOk_iff {step : σ → ι → Except ε σ} {ok : σ → ι → Prop}
    {P aux : σ → Prop} {s : σ} {inputs : List ι} (hs : P s) (haux : aux s)
    (hstep : ∀ s input, aux s → P s → (OnOk P (step s input) ↔ ok s input))
    (hkeep : ∀ s input, aux s → OnOk aux (step s input)) :
    Throughout (guarded step) (OnOk P) (.ok s) inputs ↔
      Admitted (guarded step) (fun p input => OnOk (fun s => ok s input) p) (.ok s) inputs := by
  refine @throughout_iff_admitted _ _ _ _ _ (OnOk aux) _ _ (onOk_ok.mpr hs) (onOk_ok.mpr haux)
    ?_ ?_
  · intro p input haux hp
    cases p with
    | error e => simp
    | ok s => simpa using hstep s input (onOk_ok.mp haux) (onOk_ok.mp hp)
  · intro p input haux _ _
    cases p with
    | error e => exact onOk_error
    | ok s => exact hkeep s input (onOk_ok.mp haux)

theorem admitted_onOk_congr {step : σ → ι → Except ε σ} {ok ok' : σ → ι → Prop}
    {aux : σ → Prop} {s : σ} {inputs : List ι} (haux : aux s)
    (hkeep : ∀ s input, aux s → OnOk aux (step s input))
    (hiff : ∀ s input, aux s → (ok s input ↔ ok' s input)) :
    Admitted (guarded step) (fun p input => OnOk (fun s => ok s input) p) (.ok s) inputs ↔
      Admitted (guarded step) (fun p input => OnOk (fun s => ok' s input) p) (.ok s) inputs := by
  have hreached := onOk_run haux hkeep
  constructor
  · intro h front input back heq s' hs'
    exact (hiff s' input (hreached front s' hs')).mp (h front input back heq s' hs')
  · intro h front input back heq s' hs'
    exact (hiff s' input (hreached front s' hs')).mpr (h front input back heq s' hs')

/-- A failing step together with an observer that sees the state before it. -/
def observeGuarded (step : σ → ι → Except ε σ) (note : σ → γ → ι → γ) (p : σ × γ)
    (input : ι) : Except ε (σ × γ) :=
  (step p.1 input).map fun s => (s, note p.1 p.2 input)

theorem onOk_observeGuarded {step : σ → ι → Except ε σ} {note : σ → γ → ι → γ}
    {P : σ × γ → Prop} {p : σ × γ} {input : ι} :
    OnOk P (observeGuarded step note p input) ↔
      OnOk (fun s => P (s, note p.1 p.2 input)) (step p.1 input) := by
  rw [observeGuarded, onOk_map]

end Faulting

end Foundation.Runs
