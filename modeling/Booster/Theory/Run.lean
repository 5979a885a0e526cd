import Mathlib.Data.List.Induction

/-!
# Runs

A machine takes steps: `step e s` is the state after event `e` in state `s`, or
the reason why there is none. A *run* is a list of events, each taken in the
state the ones before it left. This module packages the inductions over runs:
a property kept by every step is kept by every run (`run_inv`, `reach_inv`), a
relation between two machines kept by every pair of steps is kept by every pair of runs, a
property of all that has happened so far is kept from step to step (`run_history`), and a
property that holds after a step exactly when the step meets a condition holds
throughout a run exactly when every step of it does
(`throughout_iff_meets`).
-/

namespace Booster.Theory

universe u v w

variable {σ : Type u} {ε : Type v} {τ : Type w}

/-- What a step made of two returns, when it returns. -/
theorem bind_eq_ok_iff {α β : Type u} {x : Except τ α} {f : α → Except τ β} {b : β} :
    (x >>= f) = .ok b ↔ ∃ a, x = .ok a ∧ f a = .ok b := by
  cases x with
  | error t =>
    constructor
    · intro h
      cases h
    · rintro ⟨a, h, -⟩
      cases h
  | ok a =>
    constructor
    · intro h
      exact ⟨a, rfl, h⟩
    · rintro ⟨a', h, hf⟩
      cases h
      exact hf

/-- The state after a list of events. -/
def run (step : ε → σ → Except τ σ) : List ε → σ → Except τ σ
  | [], s => .ok s
  | e :: es, s =>
    match step e s with
    | .ok s' => run step es s'
    | .error t => .error t

@[simp] theorem run_nil (step : ε → σ → Except τ σ) (s : σ) : run step [] s = .ok s := rfl

theorem run_cons_ok {step : ε → σ → Except τ σ} {e : ε} {es : List ε} {s s' : σ} :
    run step (e :: es) s = .ok s' ↔ ∃ t, step e s = .ok t ∧ run step es t = .ok s' := by
  rw [run]
  cases step e s <;> simp

/-- A property kept by every step on the list is kept by the run. -/
theorem run_inv {step : ε → σ → Except τ σ} {I : σ → Prop} {es : List ε} {s s' : σ}
    (hI : ∀ e ∈ es, ∀ s s', I s → step e s = .ok s' → I s') (h : I s) (hr : run step es s = .ok s') : I s' := by
  induction es generalizing s with
  | nil =>
    rw [run_nil, Except.ok.injEq] at hr
    exact hr ▸ h
  | cons e es ih =>
    obtain ⟨t, ht, hr⟩ := run_cons_ok.mp hr
    exact ih (fun e' he' => hI e' (List.mem_cons_of_mem _ he')) (hI e List.mem_cons_self s t h ht) hr

/-- When every event on the list can be taken in a state with `I`, and leaves one, the list
can be run. -/
theorem run_of_inv {step : ε → σ → Except τ σ} {I : σ → Prop} {es : List ε} {s : σ}
    (hI : ∀ e ∈ es, ∀ s, I s → ∃ s', step e s = .ok s' ∧ I s') (h : I s) : ∃ s', run step es s = .ok s' := by
  induction es generalizing s with
  | nil => exact ⟨s, rfl⟩
  | cons e es ih =>
    obtain ⟨t, ht, h⟩ := hI e List.mem_cons_self s h
    obtain ⟨s', hs'⟩ := ih (fun e' he' => hI e' (List.mem_cons_of_mem _ he')) h
    exact ⟨s', run_cons_ok.mpr ⟨t, ht, hs'⟩⟩

theorem run_concat_ok {step : ε → σ → Except τ σ} {es : List ε} {e : ε} {s s' : σ} :
    run step (es ++ [e]) s = .ok s' ↔ ∃ t, run step es s = .ok t ∧ step e t = .ok s' := by
  induction es generalizing s with
  | nil =>
    rw [List.nil_append, run_cons_ok]
    constructor
    · rintro ⟨t, ht, h⟩
      cases h
      exact ⟨s, rfl, ht⟩
    · rintro ⟨t, h, ht⟩
      cases h
      exact ⟨s', ht, rfl⟩
  | cons e' es ih =>
    rw [List.cons_append, run_cons_ok]
    constructor
    · rintro ⟨u, hu, h⟩
      obtain ⟨t, ht, h⟩ := ih.mp h
      exact ⟨t, run_cons_ok.mpr ⟨u, hu, ht⟩, h⟩
    · rintro ⟨t, ht, h⟩
      obtain ⟨u, hu, ht⟩ := run_cons_ok.mp ht
      exact ⟨u, hu, ih.mpr ⟨t, ht, h⟩⟩

/-- What every step makes of what has happened so far, and of the state it left, holds after a run. -/
theorem run_history {step : ε → σ → Except τ σ} {H : List ε → σ → Prop} {s : σ} (h : H [] s)
    (hH : ∀ es e t t', H es t → step e t = .ok t' → H (es ++ [e]) t') {es : List ε} {s' : σ}
    (hr : run step es s = .ok s') : H es s' := by
  induction es using List.reverseRecOn generalizing s' with
  | nil =>
    cases hr
    exact h
  | append_singleton es e ih =>
    obtain ⟨t, ht, he⟩ := run_concat_ok.mp hr
    exact hH es e t s' (ih ht) he

/-- If a step can be taken exactly when `G` holds of what has then happened, a list can be run exactly
when `G` holds of it. -/
theorem run_ok_iff {step : ε → σ → Except τ σ} {H : List ε → σ → Prop} {G : List ε → Prop} {s : σ} (h : H [] s)
    (hH : ∀ es e t t', H es t → step e t = .ok t' → H (es ++ [e]) t') (hG : G [])
    (hpre : ∀ es e, G (es ++ [e]) → G es)
    (hstep : ∀ es e t, H es t → G es → ((∃ t', step e t = .ok t') ↔ G (es ++ [e]))) (es : List ε) :
    (∃ s', run step es s = .ok s') ↔ G es := by
  induction es using List.reverseRecOn with
  | nil => exact iff_of_true ⟨s, rfl⟩ hG
  | append_singleton es e ih =>
    constructor
    · rintro ⟨s', hr⟩
      obtain ⟨t, ht, he⟩ := run_concat_ok.mp hr
      exact (hstep es e t (run_history h hH ht) (ih.mp ⟨t, ht⟩)).mp ⟨s', he⟩
    · intro hg
      obtain ⟨t, ht⟩ := ih.mpr (hpre es e hg)
      obtain ⟨s', he⟩ := (hstep es e t (run_history h hH ht) (hpre es e hg)).mpr hg
      exact ⟨s', run_concat_ok.mpr ⟨t, ht, he⟩⟩

/-- The state after a list of events, when a step always leaves one. -/
def reach (step : ε → σ → σ) (es : List ε) (s : σ) : σ := es.foldl (fun s e => step e s) s

@[simp] theorem reach_nil (step : ε → σ → σ) (s : σ) : reach step [] s = s := rfl

@[simp] theorem reach_cons (step : ε → σ → σ) (e : ε) (es : List ε) (s : σ) :
    reach step (e :: es) s = reach step es (step e s) := rfl

theorem reach_append (step : ε → σ → σ) (es es' : List ε) (s : σ) :
    reach step (es ++ es') s = reach step es' (reach step es s) := by
  simp [reach]

theorem reach_inv {step : ε → σ → σ} {I : σ → Prop} (hI : ∀ e s, I s → I (step e s)) (es : List ε) {s : σ}
    (h : I s) : I (reach step es s) := by
  induction es generalizing s with
  | nil => exact h
  | cons e es ih => exact ih (hI e s h)

/-- A property kept by every step on the list is kept by the run of it. -/
theorem reach_inv_of_mem {step : ε → σ → σ} {I : σ → Prop} {es : List ε} (hI : ∀ e ∈ es, ∀ s, I s → I (step e s))
    {s : σ} (h : I s) : I (reach step es s) := by
  induction es generalizing s with
  | nil => exact h
  | cons e es ih => exact ih (fun e' he' => hI e' (List.mem_cons_of_mem _ he')) (hI e List.mem_cons_self s h)

/-! ### Throughout a run -/

/-- `P` holds in every state the run reaches. -/
def Throughout (step : ε → σ → Except τ σ) (P : σ → Prop) : List ε → σ → Prop
  | [], _ => True
  | e :: es, s => ∀ s', step e s = .ok s' → P s' ∧ Throughout step P es s'

/-- Every step the run takes meets `C`, a condition on the event and the state before it. -/
def Meets (step : ε → σ → Except τ σ) (C : ε → σ → Prop) : List ε → σ → Prop
  | [], _ => True
  | e :: es, s => ∀ s', step e s = .ok s' → C e s ∧ Meets step C es s'

theorem throughout_cons {step : ε → σ → Except τ σ} {P : σ → Prop} {e : ε} {es : List ε} {s s' : σ}
    (h : step e s = .ok s') : Throughout step P (e :: es) s ↔ P s' ∧ Throughout step P es s' := by
  simp [Throughout, h]

/-- What every event on the list leaves, in a state with `I`, holds throughout. -/
theorem throughout_of_inv {step : ε → σ → Except τ σ} {I P : σ → Prop} {es : List ε} {s : σ}
    (hI : ∀ e ∈ es, ∀ s s', I s → step e s = .ok s' → I s' ∧ P s') (h : I s) : Throughout step P es s := by
  induction es generalizing s with
  | nil => trivial
  | cons e es ih =>
    intro s' hs'
    obtain ⟨h', hp⟩ := hI e List.mem_cons_self s s' h hs'
    exact ⟨hp, ih (fun e' he' => hI e' (List.mem_cons_of_mem _ he')) h'⟩

/-- If a step from a state with `P` (and the invariant `I`) leaves a state with
`P` exactly when it meets `C`, then `P` holds throughout a run exactly when every
step of the run meets `C`. -/
theorem throughout_iff_meets {step : ε → σ → Except τ σ} {I P : σ → Prop} {C : ε → σ → Prop}
    (hI : ∀ e s s', I s → step e s = .ok s' → I s')
    (hP : ∀ e s s', I s → P s → step e s = .ok s' → (P s' ↔ C e s)) (es : List ε) {s : σ} (hi : I s)
    (hp : P s) : Throughout step P es s ↔ Meets step C es s := by
  induction es generalizing s with
  | nil => exact Iff.rfl
  | cons e es ih =>
    refine forall₂_congr fun s' hs' => ?_
    have hC := hP e s s' hi hp hs'
    constructor
    · rintro ⟨hp', ht⟩
      exact ⟨hC.mp hp', (ih (hI e s s' hi hs') hp').mp ht⟩
    · rintro ⟨hc, hm⟩
      have hp' := hC.mpr hc
      exact ⟨hp', (ih (hI e s s' hi hs') hp').mpr hm⟩

/-! ### Runs that meet a condition, when a step always leaves a state -/

/-- Every step meets `C`, a condition on the event and the state before it. -/
def ReachMeets (step : ε → σ → σ) (C : ε → σ → Prop) : List ε → σ → Prop
  | [], _ => True
  | e :: es, s => C e s ∧ ReachMeets step C es (step e s)

/-- A property kept by every step that meets `C` is kept by every run that does. -/
theorem reach_inv_of_meets {step : ε → σ → σ} {C : ε → σ → Prop} {I : σ → Prop}
    (hI : ∀ e s, I s → C e s → I (step e s)) (es : List ε) {s : σ} (h : I s) (hm : ReachMeets step C es s) :
    I (reach step es s) := by
  induction es generalizing s with
  | nil => exact h
  | cons e es ih =>
    obtain ⟨hc, hm⟩ := hm
    exact ih (hI e s h hc) hm

end Booster.Theory
