import Mathlib.Data.List.Basic
import Mathlib.Tactic.Common

/-!
# Comma-separated values

A writer that quotes a field only if it has to, and the reader of RFC 4180: records end in CRLF,
fields are separated by commas, and a field that holds a comma, a quote or a line break stands
between quotes, with its own quotes doubled. `read_write` is the round trip.
-/

namespace Csv

/-! ## Writing -/

/-- The characters a field is quoted for. -/
def special (c : Char) : Bool := c = ',' || c = '"' || c = '\r' || c = '\n'

/-- Every quote twice. -/
def doubled : List Char → List Char
  | [] => []
  | c :: s => if c = '"' then '"' :: '"' :: doubled s else c :: doubled s

def writeField (s : List Char) : List Char :=
  if s.any special then '"' :: (doubled s ++ ['"']) else s

def writeFields : List (List Char) → List Char
  | [] => []
  | [field] => writeField field
  | field :: fields => writeField field ++ ',' :: writeFields fields

/-- A record. One empty field alone is quoted, since it would be an empty line. -/
def writeRow : List (List Char) → List Char
  | [[]] => ['"', '"', '\r', '\n']
  | fields => writeFields fields ++ ['\r', '\n']

def write (rows : List (List (List Char))) : List Char := rows.flatMap writeRow

/-! ## Reading -/

/-- Where the reader is: before a field, in a plain one, between quotes, behind a quote between
quotes, or between CR and LF. -/
inductive Mode where
  | start | plain | quoted | closing | cr
deriving DecidableEq

/-- The records that are read, the fields of the current one, and the text of the current field. -/
structure Reader where
  rows : List (List (List Char))
  row : List (List Char)
  field : List Char
  mode : Mode

namespace Reader

def push (r : Reader) (c : Char) (mode : Mode) : Reader :=
  { r with field := r.field ++ [c], mode }

def endField (r : Reader) : Reader :=
  { r with row := r.row ++ [r.field], field := [], mode := .start }

def endRow (r : Reader) : Reader := ⟨r.rows ++ [r.row ++ [r.field]], [], [], .start⟩

/-- What may follow a field. -/
def separator (r : Reader) (c : Char) : Option Reader :=
  if c = ',' then some r.endField else if c = '\r' then some { r with mode := .cr } else none

def step (r : Reader) (c : Char) : Option Reader :=
  match r.mode with
  | .start =>
    if c = '"' then some { r with mode := .quoted }
    else if special c then r.separator c
    else some (r.push c .plain)
  | .plain => if special c then r.separator c else some (r.push c .plain)
  | .quoted => if c = '"' then some { r with mode := .closing } else some (r.push c .quoted)
  | .closing => if c = '"' then some (r.push c .quoted) else r.separator c
  | .cr => if c = '\n' then some r.endRow else none

def run (r : Reader) (text : List Char) : Option Reader := text.foldlM step r

/-- The end of the text: the last record may lack its line break. -/
def finish (r : Reader) : Option (List (List (List Char))) :=
  match r.mode with
  | .start => if r.row = [] then some r.rows else some r.endRow.rows
  | .plain | .closing => some r.endRow.rows
  | .quoted | .cr => none

end Reader

/-- The records of a text. -/
def read (text : List Char) : Option (List (List (List Char))) :=
  (Reader.run ⟨[], [], [], .start⟩ text).bind Reader.finish

/-! ## The round trip -/

namespace Reader

@[simp] lemma run_nil (r : Reader) : r.run [] = some r := rfl

lemma run_cons (r : Reader) (c : Char) (text : List Char) :
    r.run (c :: text) = (r.step c).bind fun r => r.run text := rfl

lemma run_append (r : Reader) (text text' : List Char) :
    r.run (text ++ text') = (r.run text).bind fun r => r.run text' := List.foldlM_append

variable {rows : List (List (List Char))} {row : List (List Char)} {field s : List Char}

/-- Text without special characters goes to a plain field. -/
lemma run_plain (h : s.any special = false) :
    run ⟨rows, row, field, .plain⟩ s = some ⟨rows, row, field ++ s, .plain⟩ := by
  induction s generalizing field with
  | nil => rw [run_nil, List.append_nil]
  | cons c s ih =>
    rw [List.any_cons, Bool.or_eq_false_iff] at h
    have hstep : step ⟨rows, row, field, .plain⟩ c = some ⟨rows, row, field ++ [c], .plain⟩ :=
      if_neg (Bool.eq_false_iff.mp h.1)
    rw [run_cons, hstep, Option.bind_some, ih h.2, List.append_assoc, List.singleton_append]

/-- Between quotes, doubled quotes stand for quotes. -/
lemma run_doubled :
    run ⟨rows, row, field, .quoted⟩ (doubled s) = some ⟨rows, row, field ++ s, .quoted⟩ := by
  induction s generalizing field with
  | nil => rw [doubled, run_nil, List.append_nil]
  | cons c s ih =>
    rw [doubled]
    by_cases hc : c = '"'
    · have hquote : step ⟨rows, row, field, .quoted⟩ '"' = some ⟨rows, row, field, .closing⟩ := rfl
      have hagain : step ⟨rows, row, field, .closing⟩ '"'
          = some ⟨rows, row, field ++ ['"'], .quoted⟩ := rfl
      rw [if_pos hc, run_cons, hquote, Option.bind_some, run_cons, hagain, Option.bind_some, ih,
        hc, List.append_assoc, List.singleton_append]
    · have hstep : step ⟨rows, row, field, .quoted⟩ c
          = some ⟨rows, row, field ++ [c], .quoted⟩ := if_neg hc
      rw [if_neg hc, run_cons, hstep, Option.bind_some, ih, List.append_assoc,
        List.singleton_append]

/-- The field is read, and what may come next ends it. -/
structure Complete (rows : List (List (List Char))) (row : List (List Char)) (field : List Char)
    (r : Reader) : Prop where
  comma : r.step ',' = some ⟨rows, row ++ [field], [], .start⟩
  crlf : r.run ['\r', '\n'] = some ⟨rows ++ [row ++ [field]], [], [], .start⟩

/-- A field that is written is read. -/
lemma run_writeField :
    ∃ r, run ⟨rows, row, [], .start⟩ (writeField s) = some r ∧ Complete rows row s r := by
  unfold writeField
  split
  · have hopen : step ⟨rows, row, [], .start⟩ '"' = some ⟨rows, row, [], .quoted⟩ := rfl
    refine ⟨⟨rows, row, s, .closing⟩, ?_, rfl, rfl⟩
    rw [run_cons, hopen, Option.bind_some, run_append, run_doubled, Option.bind_some]
    rfl
  · rename_i h
    cases s with
    | nil => exact ⟨⟨rows, row, [], .start⟩, rfl, rfl, rfl⟩
    | cons c s =>
      rw [Bool.not_eq_true, List.any_cons, Bool.or_eq_false_iff] at h
      have hne : c ≠ '"' := by
        rintro rfl
        exact absurd h.1 (by decide)
      have hstep : step ⟨rows, row, [], .start⟩ c = some ⟨rows, row, [c], .plain⟩ := by
        show (if c = '"' then _ else if special c then _ else _) = _
        rw [if_neg hne, if_neg (Bool.eq_false_iff.mp h.1)]
        rfl
      refine ⟨⟨rows, row, c :: s, .plain⟩, ?_, rfl, rfl⟩
      rw [run_cons, hstep, Option.bind_some, run_plain h.2, List.singleton_append]

/-- The fields of a record and the line break are read as the record. -/
lemma run_writeFields {fields : List (List Char)} (hne : fields ≠ []) :
    run ⟨rows, row, [], .start⟩ (writeFields fields ++ ['\r', '\n'])
      = some ⟨rows ++ [row ++ fields], [], [], .start⟩ := by
  induction fields generalizing row with
  | nil => exact absurd rfl hne
  | cons field fields ih =>
    obtain ⟨r, hrun, hcomplete⟩ : ∃ r, run ⟨rows, row, [], .start⟩ (writeField field) = some r ∧
        Complete rows row field r := run_writeField
    cases fields with
    | nil => rw [writeFields, run_append, hrun, Option.bind_some, hcomplete.crlf]
    | cons next fields =>
      rw [writeFields, List.append_assoc, run_append, hrun, Option.bind_some, List.cons_append,
        run_cons, hcomplete.comma, Option.bind_some, ih (List.cons_ne_nil _ _), List.append_assoc,
        List.singleton_append]
      exact List.cons_ne_nil _ _

/-- A record that is written is read. -/
lemma run_writeRow {fields : List (List Char)} (hne : fields ≠ []) :
    run ⟨rows, [], [], .start⟩ (writeRow fields)
      = some ⟨rows ++ [fields], [], [], .start⟩ := by
  unfold writeRow
  split
  · rfl
  · exact run_writeFields hne

end Reader

/-- **What is written is read back.** -/
theorem read_write {rows : List (List (List Char))} (hne : ∀ row ∈ rows, row ≠ []) :
    read (write rows) = some rows := by
  have hrun : ∀ before, Reader.run ⟨before, [], [], .start⟩ (write rows)
      = some ⟨before ++ rows, [], [], .start⟩ := by
    induction rows with
    | nil =>
      intro before
      rw [List.append_nil]
      rfl
    | cons row rows ih =>
      intro before
      rw [write, List.flatMap_cons, Reader.run_append,
        Reader.run_writeRow (hne row List.mem_cons_self), Option.bind_some]
      rw [← write, ih (fun row hrow => hne row (List.mem_cons_of_mem _ hrow)), List.append_assoc,
        List.singleton_append]
  rw [read, hrun [], Option.bind_some, List.nil_append]
  rfl

/-- Different records are written differently. -/
theorem write_injOn {rows rows' : List (List (List Char))} (hne : ∀ row ∈ rows, row ≠ [])
    (hne' : ∀ row ∈ rows', row ≠ []) (h : write rows = write rows') : rows = rows' := by
  have hread := read_write hne'
  rw [← h, read_write hne] at hread
  exact Option.some.inj hread

end Csv
