import Mathlib.Tactic.Common

/-!
# Programs that change a state and may raise

`Prog σ ε α` is a computation over a state `σ` that returns an `α` or raises an `ε`. What it
did to the state before raising stays done, so a handler sees the state as the raise left it.

`Triple P m Q E` is the usual partial statement about such a program: from a state in `P` it
either returns with `Q` or raises with `E`. The rules below follow the syntax of programs.
-/

namespace Programs

/-- A computation over `σ` that returns an `α` or raises an `ε`. -/
def Prog (σ ε α : Type) : Type := σ → Except ε α × σ

namespace Prog

variable {σ ε α β : Type}

instance : Monad (Prog σ ε) where
  pure a := fun s => (.ok a, s)
  bind m f := fun s =>
    match m s with
    | (.ok a, s') => f a s'
    | (.error e, s') => (.error e, s')

instance : MonadExceptOf ε (Prog σ ε) where
  throw e := fun s => (.error e, s)
  tryCatch m h := fun s =>
    match m s with
    | (.ok a, s') => (.ok a, s')
    | (.error e, s') => h e s'

/-- Return what `r` returns, raise what it raises. -/
def ofExcept : Except ε α → Prog σ ε α
  | .ok a => pure a
  | .error e => throw e

@[simp] theorem pure_apply (a : α) (s : σ) : (pure a : Prog σ ε α) s = (.ok a, s) := rfl

@[simp] theorem throw_apply (e : ε) (s : σ) : (throw e : Prog σ ε α) s = (.error e, s) := rfl

theorem bind_apply (m : Prog σ ε α) (f : α → Prog σ ε β) (s : σ) :
    (m >>= f) s = match m s with
      | (.ok a, s') => f a s'
      | (.error e, s') => (.error e, s') := rfl

theorem tryCatch_apply (m : Prog σ ε α) (h : ε → Prog σ ε α) (s : σ) :
    (tryCatch m h) s = match m s with
      | (.ok a, s') => (.ok a, s')
      | (.error e, s') => h e s' := rfl

theorem bind_apply_ok {m : Prog σ ε α} {f : α → Prog σ ε β} {s s' : σ} {a : α}
    (h : m s = (.ok a, s')) : (m >>= f) s = f a s' := by
  rw [bind_apply, h]

theorem bind_apply_error {m : Prog σ ε α} {f : α → Prog σ ε β} {s s' : σ} {e : ε}
    (h : m s = (.error e, s')) : (m >>= f) s = (.error e, s') := by
  rw [bind_apply, h]

/-- A sequence returns what its second part returns after its first. -/
theorem bind_eq_ok_iff {m : Prog σ ε α} {f : α → Prog σ ε β} {s s' : σ} {b : β} :
    (m >>= f) s = (.ok b, s') ↔ ∃ a s₁, m s = (.ok a, s₁) ∧ f a s₁ = (.ok b, s') := by
  rw [bind_apply]
  cases m s with
  | mk r s₁ =>
    cases r with
    | ok a => simp
    | error e => simp

/-- What `m` returned or raised, from the state it left. -/
theorem ofExcept_apply (m : Prog σ ε α) (s : σ) :
    (ofExcept (m s).1 : Prog σ ε α) (m s).2 = m s := by
  cases m s with
  | mk r s' => cases r <;> rfl

/-- An outcome that is passed on. -/
theorem ofExcept_fst (r : Except ε α) (s : σ) : (ofExcept r s).1 = r := by
  cases r <;> rfl

@[simp] theorem pure_bind_apply (a : α) (f : α → Prog σ ε β) (s : σ) :
    ((pure a : Prog σ ε α) >>= f) s = f a s := rfl

@[simp] theorem throw_bind_apply (e : ε) (f : α → Prog σ ε β) (s : σ) :
    ((throw e : Prog σ ε α) >>= f) s = (.error e, s) := rfl

instance : LawfulMonad (Prog σ ε) := LawfulMonad.mk' (Prog σ ε)
  (fun m => by
    funext s
    show (m >>= fun a => pure a) s = m s
    rw [bind_apply]
    cases m s with
    | mk r s' => cases r <;> rfl)
  (fun _ _ => rfl)
  (fun m f g => by
    funext s
    rw [bind_apply, bind_apply, bind_apply]
    cases m s with
    | mk r s' => cases r <;> rfl)

theorem tryCatch_apply_ok {m : Prog σ ε α} {h : ε → Prog σ ε α} {s s' : σ} {a : α}
    (hm : m s = (.ok a, s')) : (tryCatch m h) s = (.ok a, s') := by
  rw [tryCatch_apply, hm]

theorem tryCatch_apply_error {m : Prog σ ε α} {h : ε → Prog σ ε α} {s s' : σ} {e : ε}
    (hm : m s = (.error e, s')) : (tryCatch m h) s = h e s' := by
  rw [tryCatch_apply, hm]

/-! ## Triples -/

/-- From a state in `P`, `m` returns with `Q` or raises with `E`. -/
def Triple (P : σ → Prop) (m : Prog σ ε α) (Q : α → σ → Prop) (E : ε → σ → Prop) : Prop :=
  ∀ s, P s → match m s with
    | (.ok a, s') => Q a s'
    | (.error e, s') => E e s'

variable {P P' : σ → Prop} {m : Prog σ ε α} {f : α → Prog σ ε β}
variable {Q Q' : α → σ → Prop} {R : β → σ → Prop} {E E' : ε → σ → Prop}

theorem Triple.intro (hok : ∀ s a s', P s → m s = (.ok a, s') → Q a s')
    (herr : ∀ s e s', P s → m s = (.error e, s') → E e s') : Triple P m Q E := by
  intro s hs
  cases hms : m s with
  | mk r s' =>
    cases r with
    | ok a => exact hok s a s' hs hms
    | error e => exact herr s e s' hs hms

theorem Triple.ok (hm : Triple P m Q E) {s s' : σ} {a : α} (hs : P s) (h : m s = (.ok a, s')) :
    Q a s' := by
  have := hm s hs
  rwa [h] at this

theorem Triple.error (hm : Triple P m Q E) {s s' : σ} {e : ε} (hs : P s)
    (h : m s = (.error e, s')) : E e s' := by
  have := hm s hs
  rwa [h] at this

theorem Triple.pure {a : α} (h : ∀ s, P s → Q a s) : Triple P (Pure.pure a) Q E :=
  fun s hs => h s hs

theorem Triple.throw {e : ε} (h : ∀ s, P s → E e s) :
    Triple P (MonadExcept.throw e : Prog σ ε α) Q E :=
  fun s hs => h s hs

/-- Sequencing: what `m` returns with is what `f` starts from. -/
theorem Triple.bind (hm : Triple P m Q E) (hf : ∀ a, Triple (Q a) (f a) R E) :
    Triple P (m >>= f) R E := by
  intro s hs
  have h := hm s hs
  rw [bind_apply]
  cases hms : m s with
  | mk r s' =>
    rw [hms] at h
    cases r with
    | ok a => exact hf a s' h
    -- `f` does not run
    | error e => exact h

/-- A handler starts from what the body raises with. -/
theorem Triple.tryCatch {F : ε → σ → Prop} {h : ε → Prog σ ε α} (hm : Triple P m Q F)
    (hh : ∀ e, Triple (F e) (h e) Q E) : Triple P (MonadExcept.tryCatch m h) Q E := by
  intro s hs
  have hres := hm s hs
  show match tryCatchThe ε m h s with
    | (.ok a, s') => Q a s'
    | (.error e, s') => E e s'
  cases hms : m s with
  | mk r s' =>
    rw [hms] at hres
    cases r with
    | ok a =>
      rw [show tryCatchThe ε m h s = (.ok a, s') from tryCatch_apply_ok hms]
      exact hres
    | error e =>
      -- the handler runs on the state that the raise left
      rw [show tryCatchThe ε m h s = h e s' from tryCatch_apply_error hms]
      exact hh e s' hres

theorem Triple.weaken (hm : Triple P m Q E) (hP : ∀ s, P' s → P s)
    (hQ : ∀ a s, Q a s → Q' a s) (hE : ∀ e s, E e s → E' e s) : Triple P' m Q' E' :=
  Triple.intro (fun s _ _ hs h => hQ _ _ (hm.ok (hP s hs) h))
    fun s _ _ hs h => hE _ _ (hm.error (hP s hs) h)

theorem Triple.pre (hm : Triple P m Q E) (hP : ∀ s, P' s → P s) : Triple P' m Q E :=
  hm.weaken hP (fun _ _ h => h) fun _ _ h => h

theorem Triple.post (hm : Triple P m Q E) (hQ : ∀ a s, Q a s → Q' a s)
    (hE : ∀ e s, E e s → E' e s) : Triple P m Q' E' :=
  hm.weaken (fun _ h => h) hQ hE

/-- A fact that does not depend on the state. -/
theorem Triple.assume {c : Prop} (h : c → Triple P m Q E) : Triple (fun s => c ∧ P s) m Q E :=
  fun s hs => h hs.1 s hs.2

/-- Nothing comes after what does not return. -/
theorem Triple.never (hm : Triple P m (fun _ _ => False) E) : Triple P (m >>= f) R E :=
  hm.bind fun _ _ h => h.elim

/-- A call whose answer is dropped. -/
theorem Triple.drop {Q : σ → Prop} (hm : Triple P m (fun _ => Q) E) :
    Triple P (m >>= fun _ => Pure.pure ()) (fun _ => Q) E :=
  hm.bind fun _ => Triple.pure fun _ h => h

theorem Triple.ite {c : Prop} [Decidable c] {m₁ m₂ : Prog σ ε α}
    (h₁ : c → Triple P m₁ Q E) (h₂ : ¬c → Triple P m₂ Q E) :
    Triple P (if c then m₁ else m₂) Q E := by
  split
  · exact h₁ ‹c›
  · exact h₂ ‹¬c›

end Prog

end Programs
