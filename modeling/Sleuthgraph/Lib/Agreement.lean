import Sleuthgraph.Lib.Programs

/-!
# Two programs side by side

`Alike R E r r'` relates two outcomes: both are values in `R`, or both are raised and in `E`.
`Agree R E m m'` says that two programs, from one state, have such outcomes and leave one state.
The rules follow the syntax of programs, with a program on each side.
-/

namespace Programs

section Outcomes

variable {ε α β γ δ : Type}

/-- Both are values in `R`, or both are raised and in `E`. -/
inductive Alike (R : α → β → Prop) (E : ε → ε → Prop) : Except ε α → Except ε β → Prop where
  | ok {a : α} {b : β} : R a b → Alike R E (.ok a) (.ok b)
  | error {e f : ε} : E e f → Alike R E (.error e) (.error f)

namespace Alike

variable {R : α → β → Prop} {Q : γ → δ → Prop} {E : ε → ε → Prop}

theorem refl (hE : ∀ e, E e e) (r : Except ε α) : Alike Eq E r r := by
  cases r with
  | ok a => exact .ok rfl
  | error e => exact .error (hE e)

theorem bind {r : Except ε α} {r' : Except ε β} {f : α → Except ε γ} {g : β → Except ε δ}
    (h : Alike R E r r') (hfg : ∀ a b, R a b → Alike Q E (f a) (g b)) :
    Alike Q E (r >>= f) (r' >>= g) := by
  cases h with
  | ok h => exact hfg _ _ h
  | error h => exact .error h

/-- One continuation on both sides. -/
theorem bind_eq {r r' : Except ε α} (hE : ∀ e, E e e) (h : Alike Eq E r r')
    (f : α → Except ε γ) : Alike Eq E (r >>= f) (r' >>= f) :=
  h.bind fun a _ hab => hab ▸ refl hE (f a)

end Alike

end Outcomes

namespace Prog

variable {σ ε α β γ δ : Type}

/-- From one state, outcomes that are alike, and one state left. -/
def Agree (R : α → β → Prop) (E : ε → ε → Prop) (m : Prog σ ε α) (m' : Prog σ ε β) : Prop :=
  ∀ s, Alike R E (m s).1 (m' s).1 ∧ (m s).2 = (m' s).2

variable {R : α → β → Prop} {Q : γ → δ → Prop} {E E' : ε → ε → Prop}
variable {m : Prog σ ε α} {m' : Prog σ ε β}

theorem Agree.refl (hE : ∀ e, E e e) (m : Prog σ ε α) : Agree Eq E m m :=
  fun s => ⟨Alike.refl hE (m s).1, rfl⟩

theorem Agree.pure {a : α} {b : β} (h : R a b) :
    Agree R E (Pure.pure a : Prog σ ε α) (Pure.pure b) :=
  fun _ => ⟨.ok h, rfl⟩

theorem Agree.throw {e f : ε} (h : E e f) :
    Agree R E (MonadExcept.throw e : Prog σ ε α) (MonadExcept.throw f : Prog σ ε β) :=
  fun _ => ⟨.error h, rfl⟩

theorem Agree.ofExcept {r : Except ε α} {r' : Except ε β} (h : Alike R E r r') :
    Agree R E (Prog.ofExcept r : Prog σ ε α) (Prog.ofExcept r') := by
  cases h with
  | ok h => exact Agree.pure h
  | error h => exact Agree.throw h

/-- Sequencing: values that are related lead to programs that agree. -/
theorem Agree.bind {f : α → Prog σ ε γ} {g : β → Prog σ ε δ} (hm : Agree R E m m')
    (hfg : ∀ a b, R a b → Agree Q E (f a) (g b)) : Agree Q E (m >>= f) (m' >>= g) := by
  intro s
  obtain ⟨hres, hstate⟩ := hm s
  rw [bind_apply, bind_apply]
  cases hms : m s with
  | mk r t =>
    cases hms' : m' s with
    | mk r' t' =>
      rw [hms, hms'] at hres hstate
      dsimp only at hres hstate
      subst hstate
      cases hres with
      | ok h => exact hfg _ _ h t
      -- neither continuation runs
      | error h => exact ⟨.error h, rfl⟩

/-- One continuation on both sides. -/
theorem Agree.bind_eq {m m' : Prog σ ε α} (hE : ∀ e, E e e) (hm : Agree Eq E m m')
    (f : α → Prog σ ε γ) : Agree Eq E (m >>= f) (m' >>= f) :=
  hm.bind fun a _ hab => hab ▸ Agree.refl hE (f a)

/-- Handlers that agree on exceptions that are related. -/
theorem Agree.tryCatch {h : ε → Prog σ ε α} {h' : ε → Prog σ ε β} (hm : Agree R E' m m')
    (hh : ∀ e f, E' e f → Agree R E (h e) (h' f)) :
    Agree R E (MonadExcept.tryCatch m h) (MonadExcept.tryCatch m' h') := by
  intro s
  obtain ⟨hres, hstate⟩ := hm s
  show Alike R E (tryCatchThe ε m h s).1 (tryCatchThe ε m' h' s).1
    ∧ (tryCatchThe ε m h s).2 = (tryCatchThe ε m' h' s).2
  cases hms : m s with
  | mk r t =>
    cases hms' : m' s with
    | mk r' t' =>
      rw [hms, hms'] at hres hstate
      dsimp only at hres hstate
      subst hstate
      cases hres with
      | ok hab =>
        rw [show tryCatchThe ε m h s = (.ok _, t) from tryCatch_apply_ok hms,
          show tryCatchThe ε m' h' s = (.ok _, t) from tryCatch_apply_ok hms']
        exact ⟨.ok hab, rfl⟩
      | error hef =>
        rw [show tryCatchThe ε m h s = h _ t from tryCatch_apply_error hms,
          show tryCatchThe ε m' h' s = h' _ t from tryCatch_apply_error hms']
        exact hh _ _ hef t

/-- Programs that agree on everything are one program. -/
theorem Agree.eq {m m' : Prog σ ε α} (h : Agree Eq Eq m m') : m = m' := by
  funext s
  obtain ⟨hres, hstate⟩ := h s
  refine Prod.ext ?_ hstate
  cases hres' : (m s).1 with
  | ok a =>
    rw [hres'] at hres
    generalize (m' s).1 = r at hres
    cases hres with
    | ok hab => rw [hab]
  | error e =>
    rw [hres'] at hres
    generalize (m' s).1 = r at hres
    cases hres with
    | error hef => rw [hef]

/-- From one state: continuations that do the same after what `m` returns there. -/
theorem bind_congr_apply {m : Prog σ ε α} {f g : α → Prog σ ε γ} {s : σ}
    (h : ∀ a t, m s = (.ok a, t) → f a t = g a t) : (m >>= f) s = (m >>= g) s := by
  rw [bind_apply, bind_apply]
  cases hms : m s with
  | mk r t =>
    cases r with
    | ok a => exact h a t hms
    | error e => rfl

end Prog

end Programs
