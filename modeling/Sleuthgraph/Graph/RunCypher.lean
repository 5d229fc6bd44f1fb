import Sleuthgraph.Lib.DollarQuotes
import Sleuthgraph.Lib.Programs
import Sleuthgraph.Python
import Mathlib.Data.List.Infix

/-!
# Sending Cypher to the database (`graph/age.py`)

`run_cypher` puts a Cypher text into a dollar-quoted constant of a `SELECT`. The tag of the
delimiter is drawn, up to four times, until the text does not have the delimiter. A program here
has the statements sent so far as its state.
-/

namespace Sleuthgraph

open Programs DollarQuotes

/-! ## The delimiter -/

/-- A character of `token_hex`. -/
def isHexChar (c : Char) : Bool := c.isDigit || ('a' ≤ c && c ≤ 'f')

/-- `secrets.token_hex(12)` -/
structure TokenHex where
  text : List Char
  length_text : text.length = 24
  hex_text : text.all isHexChar = true

/-- `tag` -/
def dollarTag (token : TokenHex) : List Char := "sg_".toList ++ token.text

/-- The loop over the draws: the first delimiter that the text does not have, if there is one. -/
def safeDelimiter (cypher : List Char) : List TokenHex → Option (List Char)
  | [] => none
  | token :: draws =>
    let delim := delimiter (dollarTag token)
    if delim <:+: cypher then safeDelimiter cypher draws else some delim

/-! ## Statements -/

/-- `GRAPH_NAME` -/
def graphName : List Char := "sleuthgraph".toList

/-- The statement of `set_search_path`. -/
def searchPathSql : List Char := "SET search_path = ag_catalog, \"$user\", public;".toList

/-- The text before the constant. -/
def sqlHead : List Char := "SELECT * FROM cypher('".toList ++ graphName ++ "', ".toList

/-- The text after the constant. -/
def sqlTail (returnCol : List Char) : List Char :=
  ") AS (".toList ++ returnCol ++ " agtype);".toList

/-- `sql` -/
def cypherSql (delim cypher returnCol : List Char) : List Char :=
  sqlHead ++ delim ++ ' ' :: cypher ++ ' ' :: delim ++ sqlTail returnCol

/-- What the connection does with the two statements: whether the first gets through, and the rows
of the second. -/
structure Connection (Row : Type) where
  searchPath : Bool := false
  rows : List Char → Option (List Row)

/-- What the code raises itself. -/
def Exc.noSafeTag : Exc :=
  { mro := ["RuntimeError", "Exception"], text := "could not find a safe dollar-quote tag" }

/-- Send a statement. -/
def send {α : Type} (sql : List Char) (answer : Option α) : Prog (List (List Char)) Exc α :=
  fun sent => (match answer with
    | some a => .ok a
    | none => .error Exc.dbApiError, sent ++ [sql])

/-- `set_search_path` -/
def setSearchPath {Row : Type} (x : Connection Row) : Prog (List (List Char)) Exc Unit :=
  send searchPathSql (if x.searchPath then none else some ())

/-- `run_cypher` -/
def runCypher {Row : Type} (x : Connection Row) (draws : Fin 4 → TokenHex)
    (cypher returnCol : List Char) : Prog (List (List Char)) Exc (List Row) := do
  setSearchPath x
  match safeDelimiter cypher (List.ofFn draws) with
  | none => throw Exc.noSafeTag
  | some delim =>
    let sql := cypherSql delim cypher returnCol
    send sql (x.rows sql)

/-! ## Reading a statement -/

/-- The text of a statement up to its first dollar, the constant that opens there, and the rest. -/
def readStatement (sql : List Char) : Option (List Char × List Char × List Char) :=
  let (head, rest) := Readers.readRun (· ≠ '$') sql
  (readConstant rest).map fun (constant, tail) => (head, constant, tail)

section Reading

variable {cypher returnCol : List Char}

lemma isAlpha_of_le {c : Char} (ha : 'a' ≤ c) (hf : c ≤ 'f') : c.isAlpha = true := by
  have hlower : c.isLower = true :=
    Bool.and_eq_true_iff.mpr
      ⟨decide_eq_true ha, decide_eq_true (UInt32.le_trans hf (by decide))⟩
  show (c.isUpper || c.isLower) = true
  rw [hlower, Bool.or_true]

lemma isTag_dollarTag (token : TokenHex) : isTag (dollarTag token) = true := by
  show isTag ('s' :: 'g' :: '_' :: token.text) = true
  rw [isTag, Bool.and_eq_true]
  refine ⟨by decide, ?_⟩
  have hall := List.all_eq_true.mp token.hex_text
  rw [List.all_cons, List.all_cons, Bool.and_eq_true, Bool.and_eq_true, List.all_eq_true]
  refine ⟨by decide, by decide, fun c hc => ?_⟩
  have hhex := hall c hc
  rw [isHexChar, Bool.or_eq_true] at hhex
  rw [isTagRest, Bool.or_eq_true]
  rcases hhex with hdigit | hletter
  · exact Or.inr hdigit
  · refine Or.inl ?_
    rw [Bool.and_eq_true, decide_eq_true_eq, decide_eq_true_eq] at hletter
    have halpha : c.isAlpha = true := isAlpha_of_le hletter.1 hletter.2
    rw [isTagStart, halpha, Bool.true_or, Bool.true_or]

/-- A space is no character of a delimiter. -/
lemma space_not_mem_delimiter (token : TokenHex) : ' ' ∉ delimiter (dollarTag token) := by
  intro hmem
  have htag := isTagRest_of_isTag (isTag_dollarTag token)
  rw [delimiter, List.mem_append, List.mem_cons] at hmem
  rcases hmem with (hdollar | hmem) | hdollar
  · exact absurd hdollar (by decide)
  · exact absurd (htag _ hmem) (by decide)
  · exact absurd (List.mem_singleton.mp hdollar) (by decide)

/-- A delimiter that the loop leaves with is one of those drawn, and the text does not have it. -/
lemma safeDelimiter_eq_some {draws : List TokenHex} {delim : List Char}
    (h : safeDelimiter cypher draws = some delim) :
    ∃ token ∈ draws, delim = delimiter (dollarTag token) ∧ ¬ delim <:+: cypher := by
  induction draws with
  | nil => cases h
  | cons token draws ih =>
    rw [safeDelimiter] at h
    by_cases hoccurs : delimiter (dollarTag token) <:+: cypher
    · rw [if_pos hoccurs] at h
      obtain ⟨found, hmem, hdelim⟩ := ih h
      exact ⟨found, List.mem_cons_of_mem token hmem, hdelim⟩
    · rw [if_neg hoccurs, Option.some.injEq] at h
      exact ⟨token, List.mem_cons_self, h.symm, h ▸ hoccurs⟩

/-- The loop runs out when the text has every delimiter drawn. -/
lemma safeDelimiter_eq_none_iff {draws : List TokenHex} :
    safeDelimiter cypher draws = none ↔
      ∀ token ∈ draws, delimiter (dollarTag token) <:+: cypher := by
  induction draws with
  | nil => exact iff_of_true rfl fun _ h => nomatch h
  | cons token draws ih =>
    rw [safeDelimiter, List.forall_mem_cons]
    by_cases hoccurs : delimiter (dollarTag token) <:+: cypher
    · rw [if_pos hoccurs, ih]
      exact ⟨fun h => ⟨hoccurs, h⟩, fun h => h.2⟩
    · rw [if_neg hoccurs]
      exact iff_of_false (fun h => nomatch h) fun h => hoccurs h.1

/-- The statement reads as the Cypher text between its pads. -/
lemma readStatement_cypherSql {token : TokenHex}
    (h : ¬ delimiter (dollarTag token) <:+: cypher) :
    readStatement (cypherSql (delimiter (dollarTag token)) cypher returnCol)
      = some (sqlHead, ' ' :: cypher ++ [' '], sqlTail returnCol) := by
  have hhead : sqlHead.all (fun c => decide (c ≠ '$')) = true := by decide
  have hread : readConstant (delimiter (dollarTag token) ++
      ((' ' :: cypher ++ [' ']) ++ (delimiter (dollarTag token) ++ sqlTail returnCol)))
      = some (' ' :: cypher ++ [' '], sqlTail returnCol) :=
    readConstant_padded (isTag_dollarTag token) h (space_not_mem_delimiter token)
  have hsql : cypherSql (delimiter (dollarTag token)) cypher returnCol = sqlHead ++
      (delimiter (dollarTag token) ++
        ((' ' :: cypher ++ [' ']) ++ (delimiter (dollarTag token) ++ sqlTail returnCol))) := by
    simp only [cypherSql, List.append_assoc, List.cons_append, List.nil_append]
  have hstops : Readers.Stops (fun c => decide (c ≠ '$')) (delimiter (dollarTag token) ++
      ((' ' :: cypher ++ [' ']) ++ (delimiter (dollarTag token) ++ sqlTail returnCol))) :=
    Readers.stops_cons (by decide)
  rw [readStatement, hsql, Readers.readRun_append (List.all_eq_true.mp hhead) hstops]
  dsimp only
  rw [hread]
  rfl

end Reading

/-! ## What is sent -/

/-- **Dollar quoting cannot be escaped.** A statement that is sent after the search path reads as
the constant of the padded Cypher text and the fixed tail. When no delimiter is safe, the text has
all four of them, and no Cypher is sent. -/
theorem dollar_quoting_inescapable {Row : Type} (x : Connection Row) (draws : Fin 4 → TokenHex)
    (cypher returnCol : List Char) :
    (∀ sql ∈ (runCypher x draws cypher returnCol []).2, sql = searchPathSql ∨
      readStatement sql = some (sqlHead, ' ' :: cypher ++ [' '], sqlTail returnCol)) ∧
    ((runCypher x draws cypher returnCol []).1 = .error Exc.noSafeTag →
      (∀ i, delimiter (dollarTag (draws i)) <:+: cypher) ∧
        (runCypher x draws cypher returnCol []).2 = [searchPathSql]) := by
  unfold runCypher
  cases hpath : x.searchPath with
  | true =>
    -- the first statement does not get through
    have hset : setSearchPath x [] = (.error Exc.dbApiError, [searchPathSql]) := by
      rw [setSearchPath, hpath]
      rfl
    rw [Prog.bind_apply_error hset]
    refine ⟨fun sql hsql => Or.inl (List.mem_singleton.mp hsql), fun h => ?_⟩
    exact absurd (Except.error.inj h) (by decide)
  | false =>
    have hset : setSearchPath x [] = (.ok (), [searchPathSql]) := by
      rw [setSearchPath, hpath]
      rfl
    rw [Prog.bind_apply_ok hset]
    cases hdelim : safeDelimiter cypher (List.ofFn draws) with
    | none =>
      refine ⟨fun sql hsql => Or.inl (List.mem_singleton.mp hsql), fun _ => ⟨fun i => ?_, rfl⟩⟩
      exact safeDelimiter_eq_none_iff.mp hdelim _ (List.mem_ofFn.mpr ⟨i, rfl⟩)
    | some delim =>
      obtain ⟨token, -, rfl, hfree⟩ := safeDelimiter_eq_some hdelim
      refine ⟨fun sql hsql => ?_, fun h => ?_⟩
      · rcases List.mem_append.mp hsql with hsql | hsql
        · exact Or.inl (List.mem_singleton.mp hsql)
        · rw [List.mem_singleton.mp hsql]
          exact Or.inr (readStatement_cypherSql hfree)
      · -- what the connection raises is not the code's own error
        dsimp only [send] at h
        cases hrows : x.rows (cypherSql (delimiter (dollarTag token)) cypher returnCol) with
        | none =>
          rw [hrows] at h
          exact absurd (Except.error.inj h) (by decide)
        | some rows =>
          rw [hrows] at h
          cases h

end Sleuthgraph
