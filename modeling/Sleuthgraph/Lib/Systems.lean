import Mathlib.Tactic.Common

/-!
# Systems that take steps

A system is a state and a `step` that says what an action does, or that it does not apply.
`Reaches` are the states of the runs whose actions are all allowed in the state they meet, and
`Reaches.invariant` is the induction over such a run.

A machine answers each input, and `answers` is what it says to a list of them. Two machines whose
states stay related give the same answers as long as each step does.
-/

namespace Systems

variable {σ α : Type}

/-- The states that allowed actions lead to. -/
inductive Reaches (step : σ → α → Option σ) (allowed : σ → α → Prop) (start : σ) : σ → Prop
  | start : Reaches step allowed start start
  | step {s s' : σ} (a : α) :
      Reaches step allowed start s → allowed s a → step s a = some s' →
        Reaches step allowed start s'

/-- The state after a list of actions, if all of them apply. -/
def runAll (step : σ → α → Option σ) (s : σ) (actions : List α) : Option σ :=
  actions.foldlM step s

variable {step : σ → α → Option σ} {allowed allowed' : σ → α → Prop} {start : σ}

/-- What holds at the start and is kept by every allowed action holds of every state reached. -/
theorem Reaches.invariant {I : σ → Prop} (hstart : I start)
    (hstep : ∀ s a s', I s → allowed s a → step s a = some s' → I s') {s : σ}
    (h : Reaches step allowed start s) : I s := by
  induction h with
  | start => exact hstart
  | step a _ ha hs ih => exact hstep _ a _ ih ha hs

@[simp] theorem runAll_nil (s : σ) : runAll step s [] = some s := rfl

@[simp] theorem runAll_cons (s : σ) (a : α) (actions : List α) :
    runAll step s (a :: actions) = (step s a).bind fun s' => runAll step s' actions := rfl

/-- A run from a state reached reaches its last state. -/
theorem Reaches.runAll {s s' : σ} (h : Reaches step (fun _ _ => True) start s) {actions : List α}
    (hrun : runAll step s actions = some s') : Reaches step (fun _ _ => True) start s' := by
  induction actions generalizing s with
  | nil =>
    cases hrun
    exact h
  | cons a actions ih =>
    rw [runAll_cons] at hrun
    cases hs : step s a with
    | none =>
      rw [hs] at hrun
      cases hrun
    | some s₁ =>
      rw [hs] at hrun
      exact ih (h.step a trivial hs) hrun

/-! ## Machines that answer -/

section Machines

variable {τ ι ω : Type}

/-- The answers to a list of inputs, and the state left. -/
def answers (step : σ → ι → ω × σ) (s : σ) : List ι → List ω × σ
  | [] => ([], s)
  | i :: inputs =>
    let (answer, s₁) := step s i
    let (rest, s₂) := answers step s₁ inputs
    (answer :: rest, s₂)

/-- Machines that answer alike from related states, and leave related states, answer every list
of inputs alike. -/
theorem answers_eq {stepL : σ → ι → ω × σ} {stepR : τ → ι → ω × τ} {R : σ → τ → Prop}
    (hstep : ∀ s t i, R s t → (stepL s i).1 = (stepR t i).1 ∧ R (stepL s i).2 (stepR t i).2)
    {s : σ} {t : τ} (h : R s t) (inputs : List ι) :
    (answers stepL s inputs).1 = (answers stepR t inputs).1 ∧
      R (answers stepL s inputs).2 (answers stepR t inputs).2 := by
  induction inputs generalizing s t with
  | nil => exact ⟨rfl, h⟩
  | cons i inputs ih =>
    obtain ⟨hanswer, hleft⟩ := hstep s t i h
    obtain ⟨hrest, hlast⟩ := ih hleft
    refine ⟨?_, hlast⟩
    show (stepL s i).1 :: _ = (stepR t i).1 :: _
    rw [hanswer, hrest]

/-- Inputs that the others do not disturb are answered as if the others were not there. `R` relates
the states before the inputs that are left. -/
theorem answers_filter {step : σ → ι → ω × σ} (mine : ι → Bool) {R : List ι → σ → σ → Prop}
    (hmine : ∀ i rest s t, R (i :: rest) s t → mine i = true →
      (step s i).1 = (step t i).1 ∧ R rest (step s i).2 (step t i).2)
    (hother : ∀ i rest s t, R (i :: rest) s t → mine i = false → R rest (step s i).2 t)
    (inputs : List ι) {s t : σ} (h : R inputs s t) :
    ((inputs.zip (answers step s inputs).1).filter fun p => mine p.1).map Prod.snd
      = (answers step t (inputs.filter mine)).1 := by
  induction inputs generalizing s t with
  | nil => rfl
  | cons i inputs ih =>
    show (((i, (step s i).1) :: inputs.zip (answers step (step s i).2 inputs).1).filter
      fun p => mine p.1).map Prod.snd = _
    cases hi : mine i with
    | true =>
      obtain ⟨hanswer, hleft⟩ := hmine i inputs s t h hi
      simp only [List.filter_cons, hi, if_true, List.map_cons, ih hleft, hanswer]
      rfl
    | false =>
      simp only [List.filter_cons, hi, Bool.false_eq_true, if_false]
      exact ih (hother i inputs s t h hi)

end Machines

end Systems
