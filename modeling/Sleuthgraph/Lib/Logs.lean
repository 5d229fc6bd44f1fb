import Sleuthgraph.Lib.Programs

/-!
# Programs that keep a log

A program with a log is one over a state and the records so far. `Emits m s r s' new` says what
it does from `s`: its outcome, the state it leaves and the records it adds. `Erases g m m'` says
that `m` is `m'` when the log is not looked at and exceptions are seen through `g`.
-/

namespace Logs

open Programs

variable {L σ δ ε α β : Type}

/-- Programs over `σ` with a log of records `L`. -/
abbrev Logged (L σ ε α : Type) := Prog (σ × List L) ε α

/-- A program that logs nothing; `f` says what its exceptions are here. -/
def silent (f : ε → δ) (m : Prog σ ε α) : Logged L σ δ α := fun (s, log) =>
  match m s with
  | (.ok a, s') => (.ok a, (s', log))
  | (.error e, s') => (.error (f e), (s', log))

/-- Log a record. -/
def emit (record : L) : Logged L σ ε Unit := fun (s, log) => (.ok (), (s, log ++ [record]))

/-- The records of a program from a state. -/
def records (m : Logged L σ ε α) (s : σ) : List L := (m (s, [])).2.2

/-! ## What a program emits -/

/-- From `s`, whatever is in the log. -/
def Emits (m : Logged L σ ε α) (s : σ) (r : Except ε α) (s' : σ) (new : List L) : Prop :=
  ∀ log, m (s, log) = (r, (s', log ++ new))

section Emits

variable {m : Logged L σ ε α} {f : α → Logged L σ ε β} {h : ε → Logged L σ ε α}
variable {s s' s'' : σ} {new new' : List L} {r : Except ε β}

theorem Emits.records_eq {r : Except ε α} (hm : Emits m s r s' new) : records m s = new := by
  unfold records
  rw [hm []]
  rfl

theorem Emits.pure (a : α) : Emits (Pure.pure a : Logged L σ ε α) s (.ok a) s [] := by
  intro log
  rw [List.append_nil]
  rfl

theorem Emits.throw (e : ε) :
    Emits (MonadExcept.throw e : Logged L σ ε α) s (.error e) s [] := by
  intro log
  rw [List.append_nil]
  rfl

theorem Emits.emit (record : L) : Emits (emit record : Logged L σ ε Unit) s (.ok ()) s [record] :=
  fun _ => rfl

theorem Emits.silent_ok {g : δ → ε} {p : Prog σ δ α} {a : α} (hp : p s = (.ok a, s')) :
    Emits (silent g p : Logged L σ ε α) s (.ok a) s' [] := by
  intro log
  rw [List.append_nil]
  simp only [silent, hp]

theorem Emits.silent_error {g : δ → ε} {p : Prog σ δ α} {e : δ} (hp : p s = (.error e, s')) :
    Emits (silent g p : Logged L σ ε α) s (.error (g e)) s' [] := by
  intro log
  rw [List.append_nil]
  simp only [silent, hp]

/-- The records of a sequence are those of its parts. -/
theorem Emits.bind {a : α} (hm : Emits m s (.ok a) s' new) (hf : Emits (f a) s' r s'' new') :
    Emits (m >>= f) s r s'' (new ++ new') := by
  intro log
  rw [Prog.bind_apply_ok (hm log), hf, List.append_assoc]

theorem Emits.bind_error {e : ε} (hm : Emits m s (.error e) s' new) :
    Emits (m >>= f) s (.error e) s' new :=
  fun log => Prog.bind_apply_error (hm log)

theorem Emits.tryCatch_ok {a : α} (hm : Emits m s (.ok a) s' new) :
    Emits (tryCatch m h) s (.ok a) s' new :=
  fun log => Prog.tryCatch_apply_ok (hm log)

/-- A handler adds its records to those of the body. -/
theorem Emits.tryCatch_error {e : ε} {r : Except ε α} (hm : Emits m s (.error e) s' new)
    (hh : Emits (h e) s' r s'' new') : Emits (tryCatch m h) s r s'' (new ++ new') := by
  intro log
  rw [Prog.tryCatch_apply_error (hm log), hh, List.append_assoc]

end Emits

section Silent

variable {g : δ → ε} {p : Prog σ δ α} {f : α → Logged L σ ε β} {s s' : σ}

/-- After a silent part that returns, the records are those of what follows. -/
theorem records_silent_ok {a : α} (hp : p s = (.ok a, s')) :
    records (silent g p >>= f : Logged L σ ε β) s = records (f a) s' := by
  have hsilent : (silent g p : Logged L σ ε α) (s, []) = (.ok a, (s', [])) := by
    simp only [silent, hp]
  unfold records
  rw [Prog.bind_apply_ok hsilent]

/-- A silent part that raises ends the records. -/
theorem records_silent_error {e : δ} (hp : p s = (.error e, s')) :
    records (silent g p >>= f : Logged L σ ε β) s = [] :=
  (Emits.silent_error hp).bind_error.records_eq

end Silent

/-! ## What is in a log -/

/-- The records that `m` adds, from wherever it starts, satisfy `Q`. -/
def Extends (Q : List L → Prop) (m : Logged L σ ε α) : Prop :=
  ∀ s log, ∃ new, (m (s, log)).2.2 = log ++ new ∧ Q new

/-- Each record that `m` adds satisfies `P`. -/
def Adds (P : L → Prop) (m : Logged L σ ε α) : Prop := Extends (fun new => ∀ r ∈ new, P r) m

/-- The first record that `m` adds. -/
def Begins (record : L) (m : Logged L σ ε α) : Prop := Extends (fun new => new.head? = record) m

section Extends

variable {P : L → Prop} {Q Q₁ Q₂ : List L → Prop} {record : L}
variable {m : Logged L σ ε α} {f : α → Logged L σ ε β} {h : ε → Logged L σ ε α}

theorem Extends.records (hm : Extends Q m) (s : σ) : Q (records m s) := by
  obtain ⟨new, hnew, hQ⟩ := hm s []
  rwa [Logs.records, hnew, List.nil_append]

theorem Extends.bind (hm : Extends Q₁ m) (hf : ∀ a, Extends Q₂ (f a))
    (hstop : ∀ new, Q₁ new → Q new) (happend : ∀ new new', Q₁ new → Q₂ new' → Q (new ++ new')) :
    Extends Q (m >>= f) := by
  intro s log
  obtain ⟨new, hnew, hQ⟩ := hm s log
  rw [Prog.bind_apply]
  cases hms : m (s, log) with
  | mk r t =>
    rw [hms] at hnew
    have hlog : t.2 = log ++ new := hnew
    cases r with
    | error e => exact ⟨new, hlog, hstop new hQ⟩
    | ok a =>
      obtain ⟨new', hnew', hQ'⟩ := hf a t.1 t.2
      refine ⟨new ++ new', ?_, happend new new' hQ hQ'⟩
      rw [← List.append_assoc, ← hlog]
      exact hnew'

theorem Extends.tryCatch (hm : Extends Q₁ m) (hh : ∀ e, Extends Q₂ (h e))
    (hstop : ∀ new, Q₁ new → Q new) (happend : ∀ new new', Q₁ new → Q₂ new' → Q (new ++ new')) :
    Extends Q (MonadExcept.tryCatch m h) := by
  intro s log
  obtain ⟨new, hnew, hQ⟩ := hm s log
  cases hms : m (s, log) with
  | mk r t =>
    rw [hms] at hnew
    have hlog : t.2 = log ++ new := hnew
    cases r with
    | ok a =>
      rw [show MonadExcept.tryCatch m h (s, log) = (.ok a, t) from Prog.tryCatch_apply_ok hms]
      exact ⟨new, hlog, hstop new hQ⟩
    | error e =>
      rw [show MonadExcept.tryCatch m h (s, log) = h e t from Prog.tryCatch_apply_error hms]
      obtain ⟨new', hnew', hQ'⟩ := hh e t.1 t.2
      refine ⟨new ++ new', ?_, happend new new' hQ hQ'⟩
      rw [← List.append_assoc, ← hlog]
      exact hnew'

theorem Adds.silent {g : δ → ε} (p : Prog σ δ α) : Adds P (silent g p : Logged L σ ε α) := by
  intro s log
  refine ⟨[], ?_, by simp⟩
  show (match p s with
    | (.ok a, s') => ((.ok a : Except ε α), (s', log))
    | (.error e, s') => (.error (g e), (s', log))).2.2 = log ++ []
  rw [List.append_nil]
  cases p s with
  | mk r s' => cases r <;> rfl

theorem Adds.pure (a : α) : Adds P (Pure.pure a : Logged L σ ε α) :=
  fun _ log => ⟨[], (List.append_nil log).symm, by simp⟩

theorem Adds.throw (e : ε) : Adds P (MonadExcept.throw e : Logged L σ ε α) :=
  fun _ log => ⟨[], (List.append_nil log).symm, by simp⟩

theorem Adds.emit (hrecord : P record) : Adds P (Logs.emit record : Logged L σ ε Unit) :=
  fun _ _ => ⟨[record], rfl, by simpa using hrecord⟩

theorem Adds.bind (hm : Adds P m) (hf : ∀ a, Adds P (f a)) : Adds P (m >>= f) :=
  Extends.bind hm hf (fun _ h => h) fun _ _ h h' => List.forall_mem_append.mpr ⟨h, h'⟩

theorem Adds.tryCatch (hm : Adds P m) (hh : ∀ e, Adds P (h e)) :
    Adds P (MonadExcept.tryCatch m h) :=
  Extends.tryCatch hm hh (fun _ h => h) fun _ _ h h' => List.forall_mem_append.mpr ⟨h, h'⟩

theorem Begins.emit : Begins record (Logs.emit record : Logged L σ ε Unit) :=
  fun _ _ => ⟨[record], rfl, rfl⟩

/-- What comes later only adds. -/
theorem Begins.bind (hm : Begins record m) (hf : ∀ a, Adds (fun _ => True) (f a)) :
    Begins record (m >>= f) :=
  Extends.bind hm hf (fun _ h => h) fun _ _ h _ => by rw [List.head?_append, h, Option.some_or]

theorem Begins.tryCatch (hm : Begins record m) (hh : ∀ e, Adds (fun _ => True) (h e)) :
    Begins record (MonadExcept.tryCatch m h) :=
  Extends.tryCatch hm hh (fun _ h => h) fun _ _ h _ => by rw [List.head?_append, h, Option.some_or]

end Extends

/-! ## Programs without their log -/

/-- The outcome, its exception seen through `g`. -/
def seenThrough (g : δ → ε) : Except δ α → Except ε α
  | .ok a => .ok a
  | .error e => .error (g e)

/-- Without its log, `m` is `m'`. -/
def Erases (g : δ → ε) (m : Logged L σ δ α) (m' : Prog σ ε α) : Prop :=
  ∀ s log, (seenThrough g (m (s, log)).1, (m (s, log)).2.1) = m' s

section Erases

variable {g : δ → ε} {m : Logged L σ δ α} {m' : Prog σ ε α}

theorem Erases.silent {f : ε → δ} (hgf : ∀ e, g (f e) = e) (p : Prog σ ε α) :
    Erases g (silent f p : Logged L σ δ α) p := by
  intro s log
  unfold Logs.silent
  dsimp only
  cases p s with
  | mk r s' =>
    cases r with
    | ok a => rfl
    | error e => rw [seenThrough, hgf]

theorem Erases.pure (a : α) :
    Erases g (Pure.pure a : Logged L σ δ α) (Pure.pure a : Prog σ ε α) := fun _ _ => rfl

theorem Erases.throw (e : δ) :
    Erases g (MonadExcept.throw e : Logged L σ δ α) (MonadExcept.throw (g e) : Prog σ ε α) :=
  fun _ _ => rfl

/-- A record changes nothing. -/
theorem Erases.emit (record : L) (hm : Erases g m m') :
    Erases g (Logs.emit record >>= fun _ => m) m' := fun s log => hm s (log ++ [record])

theorem Erases.bind {f : α → Logged L σ δ β} {f' : α → Prog σ ε β} (hm : Erases g m m')
    (hf : ∀ a, Erases g (f a) (f' a)) : Erases g (m >>= f) (m' >>= f') := by
  intro s log
  have hs := hm s log
  rw [Prog.bind_apply, Prog.bind_apply, ← hs]
  cases hms : m (s, log) with
  | mk r t =>
    cases r with
    | ok a => exact hf a t.1 t.2
    | error e => rfl

theorem Erases.tryCatch {h : δ → Logged L σ δ α} {h' : ε → Prog σ ε α} (hm : Erases g m m')
    (hh : ∀ e, Erases g (h e) (h' (g e))) :
    Erases g (MonadExcept.tryCatch m h) (MonadExcept.tryCatch m' h') := by
  intro s log
  have hs := hm s log
  show (seenThrough g (tryCatchThe δ m h (s, log)).1, (tryCatchThe δ m h (s, log)).2.1)
    = tryCatchThe ε m' h' s
  cases hms : m (s, log) with
  | mk r t =>
    rw [hms] at hs
    cases r with
    | ok a =>
      rw [show tryCatchThe δ m h (s, log) = (.ok a, t) from Prog.tryCatch_apply_ok hms,
        show tryCatchThe ε m' h' s = (.ok a, t.1) from Prog.tryCatch_apply_ok hs.symm]
      rfl
    | error e =>
      rw [show tryCatchThe δ m h (s, log) = h e t from Prog.tryCatch_apply_error hms,
        show tryCatchThe ε m' h' s = h' (g e) t.1 from Prog.tryCatch_apply_error hs.symm]
      exact hh e t.1 t.2

end Erases

end Logs
