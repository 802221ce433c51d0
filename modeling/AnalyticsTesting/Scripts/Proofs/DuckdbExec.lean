import Mathlib.Tactic.Tauto
import Mathlib.Data.List.Induction
import Mathlib.Algebra.Group.Nat.Even
import AnalyticsTesting.Lib.Scanner
import AnalyticsTesting.Scripts.RunSql

set_option autoImplicit false

/-! # Where SQL scripts are split

`split_statements` is a scanner whose only state is whether the number of apostrophes so far is odd
(`splitStatements_eq`). The lexer of the scripts knows comments as well. They cut at the same
semicolons exactly if the apostrophes in the comments are in step with them: an odd number of them
stands before a semicolon if and only if that is in a comment itself (`splits_iff`). -/

namespace AnalyticsTesting.Scripts

open PyNumber (isSpace)

/-! ## The lexer -/

/-- Where a character of a script stands. -/
inductive Region
  | plain
  /-- After a minus sign that may begin a comment. -/
  | dash
  | literal
  | comment
  deriving DecidableEq

/-- The region after a character. A doubled apostrophe in a literal ends it and begins it again. -/
def Region.next : Region → Char → Region
  | .plain, c => if c = '\'' then .literal else if c = '-' then .dash else .plain
  | .dash, c => if c = '\'' then .literal else if c = '-' then .comment else .plain
  | .literal, c => if c = '\'' then .plain else .literal
  | .comment, c => if c = '\n' ∨ c = '\r' then .plain else .comment

/-- Statements end at the semicolons that are neither in a literal nor in a comment. -/
def lexer : Scanner Region Char where
  next := Region.next
  cuts r c := c = ';' && (r = .plain || r = .dash)

/-- The region of what comes after a text. -/
def regionAfter (text : List Char) : Region := lexer.run .plain text

/-- A text without its comments. -/
def uncomment : Region → List Char → List Char
  | .dash, [] => ['-']
  | _, [] => []
  | .plain, c :: rest => (if c = '-' then [] else [c]) ++ uncomment (Region.next .plain c) rest
  | .dash, c :: rest => (if c = '-' then [] else ['-', c]) ++ uncomment (Region.next .dash c) rest
  | .literal, c :: rest => c :: uncomment (Region.next .literal c) rest
  | .comment, c :: rest =>
      (if c = '\n' ∨ c = '\r' then [c] else []) ++ uncomment (Region.next .comment c) rest

/-- What stands between the ends of statements. -/
def texts (sql : String) : List String :=
  (lexer.entries isSpace .plain [] sql.toList).map String.ofList

/-- A comment is no statement. -/
def isStatement (text : String) : Bool :=
  PyNumber.strip (uncomment .plain text.toList) ≠ []

/-- The statements of a script. -/
def statements (sql : String) : List String := (texts sql).filter isStatement

/-! ## The loop as a scanner -/

/-- The scanner of `split_statements`: whether the number of apostrophes is odd. -/
def quoteBit : Scanner Bool Char where
  next inQuote c := if c = '\'' then !inQuote else inQuote
  cuts inQuote c := c = ';' && !inQuote

/-- What the loop has in its variables and what it makes of the rest. -/
def Splitter.result (x : Splitter) (rest : List Char) : List String :=
  x.out ++ (quoteBit.entries isSpace x.inQuote x.buf rest).map String.ofList

theorem flush_eq (x : Splitter) : x.flush = x.result [] := by
  unfold Splitter.flush Splitter.result
  rw [Scanner.entries_nil, Scanner.entry]
  change (if Scanner.trim isSpace x.buf = [] then _ else _) = _
  split
  · simp
  · simp [PyNumber.strip, Scanner.trim]

theorem quoteBit_cuts_iff {inQuote : Bool} {c : Char} :
    quoteBit.cuts inQuote c = true ↔ c = ';' ∧ inQuote = false := by
  simp [quoteBit]

theorem quoteBit_next (inQuote : Bool) (c : Char) :
    quoteBit.next inQuote c = if c = '\'' then !inQuote else inQuote := rfl

/-- One turn of the loop is one step of the scanner. -/
theorem result_of_read (x : Splitter) (ch : Char) (rest : List Char) :
    (x.read ch).result rest = x.result (ch :: rest) := by
  by_cases hcut : quoteBit.cuts x.inQuote ch = true
  · have hsemi := quoteBit_cuts_iff.1 hcut
    have hquote : ch ≠ '\'' := by
      rw [hsemi.1]
      decide
    have hflush := flush_eq x
    unfold Splitter.result at hflush ⊢
    rw [Scanner.entries_of_cuts hcut, List.map_append, ← List.append_assoc, Splitter.read,
      if_neg hquote, if_pos hsemi, hflush, quoteBit_next, if_neg hquote]
    simp
  · have hsemi := mt quoteBit_cuts_iff.2 hcut
    unfold Splitter.result
    rw [Scanner.entries_of_not_cuts (Bool.eq_false_of_not_eq_true hcut), Splitter.read,
      quoteBit_next, if_neg hsemi]
    by_cases hquote : ch = '\''
    · rw [if_pos hquote, if_pos hquote]
    · rw [if_neg hquote, if_neg hquote]

/-- An escaped quote leaves the number of apostrophes odd. -/
theorem result_of_escape (x : Splitter) (h : x.inQuote = true) (rest : List Char) :
    Splitter.result { x with buf := x.buf ++ ['\'', '\''] } rest
      = x.result ('\'' :: '\'' :: rest) := by
  rw [← result_of_read, ← result_of_read]
  simp [Splitter.read, Splitter.result, h]

theorem splitLoop_eq (x : Splitter) (text : List Char) :
    (splitLoop x text).flush = x.result text := by
  induction x, text using splitLoop.induct with
  | case1 x => exact flush_eq x
  | case2 x ch => exact (flush_eq _).trans (result_of_read x ch [])
  | case3 x ch next rest h ih =>
      obtain ⟨rfl, hquote, rfl⟩ := h
      rw [splitLoop, if_pos ⟨rfl, hquote, rfl⟩, ih, result_of_escape x hquote]
  | case4 x ch next rest h ih => rw [splitLoop, if_neg h, ih, result_of_read]

/-- **`split_statements` cuts at the semicolons before which the apostrophes are even.** -/
theorem splitStatements_eq (sql : String) :
    splitStatements sql
      = (quoteBit.entries isSpace false [] sql.toList).map String.ofList :=
  splitLoop_eq ⟨[], [], false⟩ sql.toList

/-! ## Where the scanners agree -/

theorem lexer_cuts_iff {r : Region} {c : Char} :
    lexer.cuts r c = true ↔ c = ';' ∧ (r = .plain ∨ r = .dash) := by
  simp [lexer]

/-- A literal and a comment have begun in the piece they are in, and so has an odd number of
    apostrophes. -/
def Begun (inQuote : Bool) (r : Region) (buf : List Char) : Prop :=
  inQuote = true ∨ r = .literal ∨ r = .comment → Scanner.marks isSpace buf ≠ []

theorem begun_concat {inQuote : Bool} {r : Region} {buf : List Char} {c : Char}
    (h : Begun inQuote r buf) : Begun (quoteBit.next inQuote c) (lexer.next r c) (buf ++ [c]) := by
  intro hnext
  rw [Scanner.marks_append]
  by_cases hquote : c = '\''
  · simp [hquote, Scanner.marks, isSpace]
  by_cases hdash : c = '-'
  · simp [hdash, Scanner.marks, isSpace]
  -- any other character begins neither
  have hbefore : inQuote = true ∨ r = .literal ∨ r = .comment := by
    rw [quoteBit_next, if_neg hquote] at hnext
    cases r with
    | plain => simpa [lexer, Region.next, hquote, hdash] using hnext
    | dash => simpa [lexer, Region.next, hquote, hdash] using hnext
    | literal => exact Or.inr (Or.inl rfl)
    | comment => exact Or.inr (Or.inr rfl)
  simp [h hbefore]

theorem discerned : Scanner.Discerned quoteBit lexer isSpace Begun where
  read _ _ _ _ h _ _ := begun_concat h
  cut inQuote r buf c _ hquote hlexer := by
    obtain ⟨rfl, heven⟩ := quoteBit_cuts_iff.1 hquote
    rcases (lexer_cuts_iff.1 hlexer).2 with rfl | rfl
    · simp [Begun, quoteBit_next, lexer, Region.next, heven]
    · simp [Begun, quoteBit_next, lexer, Region.next, heven]
  differ inQuote r buf c h hne := by
    rw [Ne, Bool.eq_iff_iff, quoteBit_cuts_iff, lexer_cuts_iff, and_congr_right_iff] at hne
    push Not at hne
    obtain ⟨rfl, hne⟩ := hne
    refine ⟨h ?_, by decide⟩
    cases inQuote with
    | true => exact Or.inl rfl
    | false =>
        cases r with
        | plain => simp at hne
        | dash => simp at hne
        | literal => exact Or.inr (Or.inl rfl)
        | comment => exact Or.inr (Or.inr rfl)

/-- The apostrophes in the comments of a text. -/
def commentQuotes (text : List Char) : Nat :=
  go .plain text
where
  go : Region → List Char → Nat
    | _, [] => 0
    | r, c :: rest => (if r = .comment ∧ c = '\'' then 1 else 0) + go (Region.next r c) rest

theorem commentQuotes_concat (text : List Char) (c : Char) :
    commentQuotes (text ++ [c])
      = commentQuotes text + if regionAfter text = .comment ∧ c = '\'' then 1 else 0 := by
  have hgo : ∀ r, commentQuotes.go r (text ++ [c])
      = commentQuotes.go r text + if lexer.run r text = .comment ∧ c = '\'' then 1 else 0 := by
    induction text with
    | nil => exact fun r => Nat.add_comm ..
    | cons d text ih =>
        intro r
        rw [List.cons_append, commentQuotes.go, commentQuotes.go, ih, Nat.add_assoc]
        rfl
  exact hgo .plain

theorem regionAfter_concat (text : List Char) (c : Char) :
    regionAfter (text ++ [c]) = Region.next (regionAfter text) c := Scanner.run_concat ..

/-- The number of apostrophes is odd in a literal, unless the comments before it make it even. -/
theorem run_quoteBit (text : List Char) :
    quoteBit.run false text = true ↔ (Odd (commentQuotes text) ↔ regionAfter text ≠ .literal) := by
  induction text using List.reverseRecOn with
  | nil => simp [commentQuotes, commentQuotes.go, regionAfter]
  | append_singleton text c ih =>
      rw [Scanner.run_concat, commentQuotes_concat, regionAfter_concat, quoteBit_next]
      generalize regionAfter text = r at ih ⊢
      by_cases hc : c = '\''
      · rw [if_pos hc, Bool.not_eq_true', ← Bool.not_eq_true, ih]
        cases r with
        | plain => simp [Region.next, hc]
        | dash => simp [Region.next, hc]
        | literal => simp [Region.next, hc]
        | comment => simp [Region.next, hc, Nat.odd_add_one]
      · rw [if_neg hc, ih]
        cases r with
        | plain => by_cases hdash : c = '-' <;> simp [Region.next, hc, hdash]
        | dash => by_cases hdash : c = '-' <;> simp [Region.next, hc, hdash]
        | literal => simp [Region.next, hc]
        | comment => by_cases hline : c = '\n' ∨ c = '\r' <;> simp [Region.next, hc, hline]

/-! ## Scripts that are split right -/

/-- An odd number of apostrophes in comments stands before the semicolons in comments, and before no
    other one. -/
def InStep (sql : String) : Prop :=
  ∀ before after, sql.toList = before ++ ';' :: after →
    (Odd (commentQuotes before) ↔ regionAfter before = .comment)

theorem cuts_eq_iff (text : List Char) (c : Char) :
    quoteBit.cuts (quoteBit.run false text) c = lexer.cuts (lexer.run .plain text) c ↔
      (c = ';' → (Odd (commentQuotes text) ↔ regionAfter text = .comment)) := by
  have hquote := run_quoteBit text
  rw [Bool.eq_iff_iff, quoteBit_cuts_iff, lexer_cuts_iff, and_congr_right_iff,
    ← Bool.not_eq_true, hquote]
  refine imp_congr_right fun _ => ?_
  change (¬ (_ ↔ regionAfter text ≠ .literal) ↔
    regionAfter text = .plain ∨ regionAfter text = .dash) ↔ _
  cases regionAfter text with
  | plain => simp
  | dash => simp
  | literal => simp
  | comment => simp

theorem agree_iff (sql : String) :
    Scanner.Agree quoteBit lexer false .plain sql.toList ↔ InStep sql := by
  constructor
  · intro h before after heq
    exact (cuts_eq_iff before ';').1 (h before ';' after heq) rfl
  · intro h before c after heq
    refine (cuts_eq_iff before c).2 fun hc => ?_
    subst hc
    exact h before after heq

/-- The script is cut exactly at the semicolons outside literals and comments. -/
def CutsAtBoundaries (sql : String) : Prop := splitStatements sql = texts sql

/-- There is one entry a statement, in order. -/
def OnePerStatement (sql : String) : Prop := splitStatements sql = statements sql

/-- Comments stand with a statement. -/
def NoLoneComment (sql : String) : Prop := ∀ text ∈ texts sql, isStatement text = true

theorem cutsAtBoundaries_iff (sql : String) : CutsAtBoundaries sql ↔ InStep sql := by
  rw [← agree_iff]
  unfold CutsAtBoundaries texts
  rw [splitStatements_eq, (List.map_injective_iff.2 fun _ _ h => String.ofList_injective h).eq_iff]
  constructor
  · exact Scanner.agree_of_entries_eq discerned sql.toList false .plain [] (by simp [Begun])
  · exact fun h => Scanner.entries_eq_of_agree h []

/-- **When scripts are cut at statement boundaries.** -/
theorem splits_iff (sql : String) :
    (CutsAtBoundaries sql ↔ InStep sql) ∧
      (CutsAtBoundaries sql ∧ OnePerStatement sql ↔ InStep sql ∧ NoLoneComment sql) := by
  refine ⟨cutsAtBoundaries_iff sql, ?_⟩
  rw [← cutsAtBoundaries_iff]
  refine and_congr_right fun hcuts => ?_
  unfold OnePerStatement statements NoLoneComment
  rw [hcuts, eq_comm, List.filter_eq_self]

/-- An apostrophe in a comment, and the two statements after it are one entry. -/
theorem not_cutsAtBoundaries_apostrophe :
    ¬ ∀ sql : String, CutsAtBoundaries sql ∧ OnePerStatement sql := by
  intro hall
  have hcuts := (hall "-- it's\nSELECT 1; SELECT 2;").1
  have hone : splitStatements "-- it's\nSELECT 1; SELECT 2;"
      = ["-- it's\nSELECT 1; SELECT 2;"] := by
    decide +kernel
  have htwo : texts "-- it's\nSELECT 1; SELECT 2;" = ["-- it's\nSELECT 1", "SELECT 2"] := by
    decide +kernel
  rw [CutsAtBoundaries, hone, htwo] at hcuts
  exact absurd hcuts (by decide)

/-- A semicolon in a comment, and a word of the comment is put in front of the statement. -/
example : splitStatements "-- exactly; drop\nSELECT 1;" = ["-- exactly", "drop\nSELECT 1"] := by
  decide +kernel

end AnalyticsTesting.Scripts
