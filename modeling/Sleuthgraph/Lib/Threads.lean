import Sleuthgraph.Lib.Systems
import Mathlib.Logic.Function.Basic

/-!
# Threads that share a state and a lock

A thread is a program of atomic steps on a state that all threads share, with one lock.
`Config.step` runs one step of one thread, so a run of the system is any interleaving.

`Thread.Safe` is said of one thread: it keeps to the protocol as long as the others do. Threads that
are safe one by one are safe together (`Config.Good.of_reaches`), and they never wait for each other
in a circle (`Config.Good.progress`).
-/

namespace Threads

variable {σ ι ε α β : Type}

/-- A program of a thread. Each `act` gets an input from the world. -/
inductive Thread (σ ι ε α : Type) where
  | done (r : Except ε α)
  | act (run : ι → σ → σ) (next : ι → σ → Thread σ ι ε α)
  | acquire (next : Thread σ ι ε α)
  | release (next : Thread σ ι ε α)

namespace Thread

/-- Run `t`, and go on with what came of it. -/
def andThen : Thread σ ι ε α → (Except ε α → Thread σ ι ε β) → Thread σ ι ε β
  | done r, f => f r
  | act run next, f => act run fun i s => (next i s).andThen f
  | acquire next, f => acquire (next.andThen f)
  | release next, f => release (next.andThen f)

/-- What a `do` block goes on with: an error ends it. -/
def onOk (f : α → Thread σ ι ε β) : Except ε α → Thread σ ι ε β
  | .ok a => f a
  | .error e => done (.error e)

/-- What `try` goes on with. -/
def onError (handler : ε → Thread σ ι ε α) : Except ε α → Thread σ ι ε α
  | .ok a => done (.ok a)
  | .error e => handler e

instance : Monad (Thread σ ι ε) where
  pure a := done (.ok a)
  bind t f := t.andThen (onOk f)

instance : MonadExceptOf ε (Thread σ ι ε) where
  throw e := done (.error e)
  tryCatch t handler := t.andThen (onError handler)

/-- One atomic step. -/
def atomic (f : ι → σ → Except ε α × σ) : Thread σ ι ε α :=
  act (fun i s => (f i s).2) fun i s => done (f i s).1

/-- `with lock: body` -/
def locked (body : Thread σ ι ε α) : Thread σ ι ε α :=
  acquire (body.andThen fun r => release (done r))

/-- Nothing is left to do. -/
def isDone : Thread σ ι ε α → Bool
  | done _ => true
  | _ => false

end Thread

/-! ## Interleavings -/

/-- The state, who holds the lock, and what is left of each thread. -/
structure Config (σ ι ε α : Type) where
  holder : Option ℕ
  data : σ
  threads : ℕ → Thread σ ι ε α

namespace Config

/-- Threads that have not begun. -/
def start (data : σ) (threads : ℕ → Thread σ ι ε α) : Config σ ι ε α := ⟨none, data, threads⟩

/-- One step of thread `a.1`, with input `a.2`. -/
def step (c : Config σ ι ε α) (a : ℕ × ι) : Option (Config σ ι ε α) :=
  match c.threads a.1 with
  | .done _ => none
  | .act run next => some
    { c with
      data := run a.2 c.data
      threads := Function.update c.threads a.1 (next a.2 c.data) }
  | .acquire next =>
    if c.holder = none then
      some { c with holder := some a.1, threads := Function.update c.threads a.1 next }
    else none
  | .release next =>
    if c.holder = some a.1 then
      some { c with holder := none, threads := Function.update c.threads a.1 next }
    else none

/-- The configurations of all interleavings. -/
abbrev Reaches (start c : Config σ ι ε α) : Prop := Systems.Reaches step (fun _ _ => True) start c

end Config

/-! ## Protocols -/

/-- What threads agree on. `inv` holds at all times and `res` while the lock is free; a thread
without the lock only does `free` steps, and the one that holds it `locked` ones. -/
structure Protocol (σ : Type) where
  inv : σ → Prop
  res : σ → Prop
  free : σ → σ → Prop
  locked : σ → σ → Prop
  free_refl : ∀ s, free s s
  locked_refl : ∀ s, locked s s
  free_trans : ∀ s₁ s₂ s₃, free s₁ s₂ → free s₂ s₃ → free s₁ s₃
  locked_trans : ∀ s₁ s₂ s₃, locked s₁ s₂ → locked s₂ s₃ → locked s₁ s₃
  locked_of_free : ∀ s s', free s s' → locked s s'
  res_free : ∀ s s', free s s' → res s → res s'

namespace Protocol

variable (P : Protocol σ)

/-- What a thread may do. -/
def mine : Bool → σ → σ → Prop
  | true => P.locked
  | false => P.free

/-- What the others may do meanwhile. -/
def others : Bool → σ → σ → Prop
  | true => P.free
  | false => P.locked

variable {P}

theorem mine_refl (held : Bool) (s : σ) : P.mine held s s := by
  cases held
  · exact P.free_refl s
  · exact P.locked_refl s

theorem others_refl (held : Bool) (s : σ) : P.others held s s := by
  cases held
  · exact P.locked_refl s
  · exact P.free_refl s

theorem others_trans {held : Bool} {s₁ s₂ s₃ : σ} (h : P.others held s₁ s₂)
    (h' : P.others held s₂ s₃) : P.others held s₁ s₃ := by
  cases held
  · exact P.locked_trans _ _ _ h h'
  · exact P.free_trans _ _ _ h h'

theorem others_of_free {held : Bool} {s s' : σ} (h : P.free s s') : P.others held s s' := by
  cases held
  · exact P.locked_of_free _ _ h
  · exact h

end Protocol

/-! ## Safe threads -/

namespace Thread

variable {P : Protocol σ} {Q Q' : Bool → Except ε α → σ → Prop} {held : Bool} {s s' : σ}

/-- From `s`, with the lock `held` or not, the thread keeps to the protocol and ends in `Q`. -/
def Safe (P : Protocol σ) (Q : Bool → Except ε α → σ → Prop) :
    Thread σ ι ε α → Bool → σ → Prop
  | done r, held, s => ∀ s', P.others held s s' → P.inv s' → Q held r s'
  | act run next, held, s => ∀ s', P.others held s s' → P.inv s' → ∀ i,
      P.inv (run i s') ∧ P.mine held s' (run i s') ∧ Safe P Q (next i s') held (run i s')
  | acquire next, held, s => held = false ∧
      ∀ s', P.others false s s' → P.inv s' → P.res s' → Safe P Q next true s'
  | release next, held, s => held = true ∧
      ∀ s', P.others true s s' → P.inv s' → P.res s' ∧ Safe P Q next false s'

/-- The others do not make a thread unsafe. -/
theorem Safe.others {t : Thread σ ι ε α} (h : t.Safe P Q held s) (hs : P.others held s s') :
    t.Safe P Q held s' := by
  cases t with
  | done r => exact fun s'' hs' => h s'' (Protocol.others_trans hs hs')
  | act run next => exact fun s'' hs' => h s'' (Protocol.others_trans hs hs')
  | acquire next =>
    obtain ⟨rfl, hnext⟩ := h
    exact ⟨rfl, fun s'' hs' => hnext s'' (Protocol.others_trans hs hs')⟩
  | release next =>
    obtain ⟨rfl, hnext⟩ := h
    exact ⟨rfl, fun s'' hs' => hnext s'' (Protocol.others_trans hs hs')⟩

theorem Safe.mono {t : Thread σ ι ε α} (h : t.Safe P Q held s)
    (hQ : ∀ held r s, P.inv s → Q held r s → Q' held r s) : t.Safe P Q' held s := by
  induction t generalizing held s with
  | done r => exact fun s' hs hinv => hQ _ _ _ hinv (h s' hs hinv)
  | act run next ih =>
    intro s' hs hinv i
    obtain ⟨hinv', hmine, hnext⟩ := h s' hs hinv i
    exact ⟨hinv', hmine, ih i s' hnext⟩
  | acquire next ih => exact ⟨h.1, fun s' hs hinv hres => ih (h.2 s' hs hinv hres)⟩
  | release next ih =>
    exact ⟨h.1, fun s' hs hinv => ⟨(h.2 s' hs hinv).1, ih (h.2 s' hs hinv).2⟩⟩

/-- One thread after the other. -/
theorem Safe.andThen {t : Thread σ ι ε α} {f : Except ε α → Thread σ ι ε β}
    {Q : Bool → Except ε β → σ → Prop} (hinv : P.inv s)
    (h : t.Safe P (fun held r s => (f r).Safe P Q held s) held s) :
    (t.andThen f).Safe P Q held s := by
  induction t generalizing held s with
  | done r => exact h s (Protocol.others_refl held s) hinv
  | act run next ih =>
    intro s' hs hinv i
    obtain ⟨hinv', hmine, hnext⟩ := h s' hs hinv i
    exact ⟨hinv', hmine, ih i s' hinv' hnext⟩
  | acquire next ih => exact ⟨h.1, fun s' hs hinv hres => ih hinv (h.2 s' hs hinv hres)⟩
  | release next ih =>
    exact ⟨h.1, fun s' hs hinv => ⟨(h.2 s' hs hinv).1, ih hinv (h.2 s' hs hinv).2⟩⟩

theorem Safe.bind {t : Thread σ ι ε α} {f : α → Thread σ ι ε β}
    {Q : Bool → Except ε β → σ → Prop} (hinv : P.inv s)
    (h : t.Safe P (fun held r s => (onOk f r).Safe P Q held s) held s) :
    (t >>= f).Safe P Q held s := Safe.andThen hinv h

/-- An atomic step, and what is done with its result. -/
theorem Safe.atomic_andThen {f : ι → σ → Except ε α × σ} {g : Except ε α → Thread σ ι ε β}
    {Q : Bool → Except ε β → σ → Prop}
    (h : ∀ s', P.others held s s' → P.inv s' → ∀ i, P.inv (f i s').2 ∧
      P.mine held s' (f i s').2 ∧ (g (f i s').1).Safe P Q held (f i s').2) :
    ((Thread.atomic f).andThen g).Safe P Q held s := h

theorem Safe.atomic_bind {f : ι → σ → Except ε α × σ} {g : α → Thread σ ι ε β}
    {Q : Bool → Except ε β → σ → Prop}
    (h : ∀ s', P.others held s s' → P.inv s' → ∀ i, P.inv (f i s').2 ∧
      P.mine held s' (f i s').2 ∧ (onOk g (f i s').1).Safe P Q held (f i s').2) :
    (Thread.atomic f >>= g).Safe P Q held s := h

theorem Safe.atomic {f : ι → σ → Except ε α × σ}
    (h : ∀ s', P.others held s s' → P.inv s' → ∀ i, P.inv (f i s').2 ∧
      P.mine held s' (f i s').2 ∧
      ∀ s'', P.others held (f i s').2 s'' → P.inv s'' → Q held (f i s').1 s'') :
    (Thread.atomic f).Safe P Q held s := h

/-- The body of a `with lock` finds `res`, and leaves it, whether it raises or not. -/
theorem Safe.locked {body : Thread σ ι ε α}
    (h : ∀ s', P.others false s s' → P.inv s' → P.res s' →
      body.Safe P (fun held r s => held = true ∧ P.res s ∧
        ∀ s', P.others false s s' → P.inv s' → Q false r s') true s') :
    (Thread.locked body).Safe P Q false s := by
  refine ⟨rfl, fun s' hs hinv hres => Safe.andThen hinv ?_⟩
  refine (h s' hs hinv hres).mono fun held r s hinv hQ => ?_
  obtain ⟨rfl, hres, hend⟩ := hQ
  refine ⟨rfl, fun s' hs hinv' => ⟨P.res_free s s' hs hres, fun s'' hs' => ?_⟩⟩
  exact hend s'' (P.locked_trans _ _ _ (P.locked_of_free _ _ hs) hs')

end Thread

/-! ## Safe systems -/

namespace Config

open Thread

variable {P : Protocol σ} {Q : ℕ → Except ε α → σ → Prop} {c : Config σ ι ε α}

/-- Every thread is safe in the state, and ends without the lock. -/
structure Good (P : Protocol σ) (Q : ℕ → Except ε α → σ → Prop) (c : Config σ ι ε α) : Prop where
  inv : P.inv c.data
  res : c.holder = none → P.res c.data
  safe : ∀ k, (c.threads k).Safe P (fun held r s => held = false ∧ Q k r s)
    (decide (c.holder = some k)) c.data

theorem Good.step (h : c.Good P Q) {a : ℕ × ι} {c' : Config σ ι ε α} (hstep : c.step a = some c') :
    c'.Good P Q := by
  obtain ⟨k, i⟩ := a
  have hk := h.safe k
  -- the thread that steps gets its own continuation, the others see what the protocol allows
  have hupdate : ∀ (holder : Option ℕ) (s : σ) (next : Thread σ ι ε α),
      next.Safe P (fun held r s => held = false ∧ Q k r s) (decide (holder = some k)) s →
      (∀ j, j ≠ k → decide (holder = some j) = decide (c.holder = some j) ∧
        P.others (decide (c.holder = some j)) c.data s) →
      ∀ j, (Function.update c.threads k next j).Safe P (fun held r s => held = false ∧ Q j r s)
        (decide (holder = some j)) s := by
    intro holder s next hnext hothers j
    by_cases hj : j = k
    · subst hj
      rw [Function.update_self]
      exact hnext
    · rw [Function.update_of_ne hj, (hothers j hj).1]
      exact (h.safe j).others (hothers j hj).2
  unfold Config.step at hstep
  cases ht : c.threads k with
  | done r =>
    rw [ht] at hstep
    cases hstep
  | act run next =>
    rw [ht] at hstep hk
    cases hstep
    obtain ⟨hinv, hmine, hnext⟩ := hk c.data (Protocol.others_refl _ _) h.inv i
    refine ⟨hinv, fun hfree => ?_, hupdate c.holder _ _ hnext fun j hj => ⟨rfl, ?_⟩⟩
    · have hholder : c.holder = none := hfree
      rw [hholder] at hmine
      exact P.res_free _ _ hmine (h.res hfree)
    · by_cases hheld : c.holder = some j
      · -- the lock is with thread `j`, so thread `k` is without it
        have hnot : ¬ c.holder = some k := fun heq =>
          hj (Option.some.inj (hheld.symm.trans heq))
        rw [decide_eq_false hnot] at hmine
        exact Protocol.others_of_free hmine
      · rw [decide_eq_false hheld]
        cases hdec : decide (c.holder = some k) with
        | true =>
          rw [hdec] at hmine
          exact hmine
        | false =>
          rw [hdec] at hmine
          exact P.locked_of_free _ _ hmine
  | acquire next =>
    rw [ht] at hstep hk
    dsimp only at hstep
    split at hstep
    · rename_i hfree
      cases hstep
      obtain ⟨-, hnext⟩ := hk
      have hsafe := hnext c.data (Protocol.others_refl _ _) h.inv (h.res hfree)
      refine ⟨h.inv, fun hnone => ?_, hupdate (some k) c.data next ?_ fun j hj => ?_⟩
      · cases hnone
      · rw [decide_eq_true rfl]
        exact hsafe
      · have hne : ¬ some k = some j := fun heq => hj (Option.some.inj heq).symm
        have hnone : ¬ c.holder = some j := by rw [hfree]; exact fun heq => by cases heq
        rw [decide_eq_false hne, decide_eq_false hnone]
        exact ⟨rfl, Protocol.others_refl _ _⟩
    · cases hstep
  | release next =>
    rw [ht] at hstep hk
    dsimp only at hstep
    split at hstep
    · rename_i hheld
      cases hstep
      obtain ⟨-, hnext⟩ := hk
      obtain ⟨hres, hsafe⟩ := hnext c.data (Protocol.others_refl _ _) h.inv
      refine ⟨h.inv, fun _ => hres, hupdate none c.data next ?_ fun j hj => ?_⟩
      · have hnone : ¬ (none : Option ℕ) = some k := fun heq => by cases heq
        rw [decide_eq_false hnone]
        exact hsafe
      · have hnone : ¬ (none : Option ℕ) = some j := fun heq => by cases heq
        have hother : ¬ c.holder = some j := by
          rw [hheld]
          exact fun heq => hj (Option.some.inj heq).symm
        rw [decide_eq_false hnone, decide_eq_false hother]
        exact ⟨rfl, Protocol.others_refl _ _⟩
    · cases hstep

/-- Threads that are safe one by one are safe in every interleaving. -/
theorem Good.of_reaches {data : σ} {threads : ℕ → Thread σ ι ε α} (hinv : P.inv data)
    (hres : P.res data)
    (hsafe : ∀ k, (threads k).Safe P (fun held r s => held = false ∧ Q k r s) false data)
    (h : Reaches (start data threads) c) : c.Good P Q :=
  h.invariant ⟨hinv, fun _ => hres, hsafe⟩ fun _ _ _ hgood _ hstep => hgood.step hstep

/-- What a thread has ended with. -/
theorem Good.result (h : c.Good P Q) {k : ℕ} {r : Except ε α} (hk : c.threads k = .done r) :
    Q k r c.data := by
  have hsafe := h.safe k
  rw [hk] at hsafe
  exact (hsafe c.data (Protocol.others_refl _ _) h.inv).2

/-- While a thread is not done, some thread can go on. -/
theorem Good.progress [Nonempty ι] (h : c.Good P Q) {k : ℕ} (hk : (c.threads k).isDone = false) :
    ∃ a, (c.step a).isSome = true := by
  have hinput : Nonempty ι := inferInstance
  obtain ⟨i⟩ := hinput
  -- the thread that holds the lock can go on, and every thread can while nobody holds it
  have hgo : ∀ j, (c.threads j).isDone = false → (c.holder = none ∨ c.holder = some j) →
      (c.step (j, i)).isSome = true := by
    intro j hj hholder
    have hsafe := h.safe j
    unfold Config.step
    cases ht : c.threads j with
    | done r => rw [ht] at hj; cases hj
    | act run next => rfl
    | acquire next =>
      rw [ht] at hsafe
      have hnot : ¬ c.holder = some j := of_decide_eq_false hsafe.1
      dsimp only
      rw [if_pos (hholder.resolve_right hnot)]
      rfl
    | release next =>
      rw [ht] at hsafe
      dsimp only
      rw [if_pos (of_decide_eq_true hsafe.1)]
      rfl
  cases hholder : c.holder with
  | none => exact ⟨(k, i), hgo k hk (Or.inl hholder)⟩
  | some j =>
    refine ⟨(j, i), hgo j ?_ (Or.inr hholder)⟩
    cases hdone : (c.threads j).isDone with
    | false => rfl
    | true =>
      -- a thread that is done does not hold the lock
      have hsafe := h.safe j
      cases ht : c.threads j with
      | done r =>
        rw [ht] at hsafe
        have hend := (hsafe c.data (Protocol.others_refl _ _) h.inv).1
        exact absurd hholder (of_decide_eq_false hend)
      | act run next => rw [ht] at hdone; cases hdone
      | acquire next => rw [ht] at hdone; cases hdone
      | release next => rw [ht] at hdone; cases hdone

end Config

end Threads
