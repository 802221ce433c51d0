import AnalyticsTesting.Scripts.Proofs.DuckdbExec

set_option autoImplicit false

/-! # What the statements of a script are made of

`split_statements` cuts at the semicolons that are not quoted and takes away blanks next to them
(`splitStatements_preserves`). Joined by semicolons, the statements are split as they were. -/

namespace AnalyticsTesting.Scripts

open PyNumber (isSpace)

/-! ## The statement -/

/-- What comes after this text is in single quotes. A doubled apostrophe counts twice. -/
def Quoted (before : List Char) : Prop := Odd (before.count '\'')

instance (before : List Char) : Decidable (Quoted before) :=
  inferInstanceAs (Decidable (Odd _))

/-- The rest of a text, without the semicolons that are not quoted. -/
def dropSemicolons : List Char → List Char → List Char
  | _, [] => []
  | before, c :: rest =>
      (if c = ';' ∧ ¬ Quoted before then [] else [c]) ++ dropSemicolons (before ++ [c]) rest

/-- A text and blanks around it. -/
structure Padded where
  before : List Char
  body : List Char
  after : List Char
  before_blank : ∀ c ∈ before, isSpace c = true
  after_blank : ∀ c ∈ after, isSpace c = true

def Padded.text (x : Padded) : List Char := x.before ++ (x.body ++ x.after)

/-- A statement without blanks at its ends, and without a semicolon that is not quoted. -/
structure IsTrimmedStatement (stmt : String) : Prop where
  ne_empty : stmt ≠ ""
  bare : Scanner.Bare isSpace stmt.toList
  quoted : ∀ before after, stmt.toList = before ++ ';' :: after → Quoted before

/-- The statements hold everything of a script but cuts and blanks next to them. -/
structure PreservesInput (sql : String) (stmts : List String) : Prop where
  trimmed : ∀ stmt ∈ stmts, IsTrimmedStatement stmt
  resplit : splitStatements (";".intercalate stmts) = stmts
  /-- The pieces between the cuts are the script, and without the blanks around them they are the
      statements. -/
  concat : ∃ pieces : List Padded,
    sql.toList = [';'].intercalate (pieces.map Padded.text) ∧
    dropSemicolons [] sql.toList = (pieces.map Padded.text).flatten ∧
    (stmts.map String.toList).flatten = (pieces.map Padded.body).flatten

/-! ## The scanner -/

theorem run_quoteBit_iff (text : List Char) : quoteBit.run false text = true ↔ Quoted text := by
  induction text using List.reverseRecOn with
  | nil => simp [Quoted]
  | append_singleton text c ih =>
      unfold Quoted at ih ⊢
      rw [Scanner.run_concat, quoteBit_next, List.count_append]
      by_cases hc : c = '\''
      · subst hc
        rw [if_pos rfl, Bool.not_eq_true', ← Bool.not_eq_true, ih, List.count_singleton_self,
          Nat.odd_add_one]
      · rw [if_neg hc, ih, List.count_singleton, if_neg (by simpa using hc), Nat.add_zero]

theorem splits_quoteBit : Scanner.Splits quoteBit isSpace false ';' where
  cut inQuote c h := by
    obtain ⟨rfl, rfl⟩ := quoteBit_cuts_iff.1 h
    exact ⟨rfl, rfl⟩
  blank inQuote c h := by
    have hsemi : c ≠ ';' := by
      rintro rfl
      exact absurd h (by decide)
    have hquote : c ≠ '\'' := by
      rintro rfl
      exact absurd h (by decide)
    exact ⟨Bool.eq_false_of_not_eq_true fun hcut => hsemi (quoteBit_cuts_iff.1 hcut).1,
      if_neg hquote⟩

theorem kept_eq (rest : List Char) : ∀ before,
    quoteBit.kept (quoteBit.run false before) rest = dropSemicolons before rest := by
  induction rest with
  | nil => exact fun _ => rfl
  | cons c rest ih =>
      intro before
      have hcut : quoteBit.cuts (quoteBit.run false before) c = true ↔
          c = ';' ∧ ¬ Quoted before := by
        rw [quoteBit_cuts_iff, ← Bool.not_eq_true, run_quoteBit_iff]
      rw [Scanner.kept, dropSemicolons, ← ih, Scanner.run_concat]
      simp only [hcut]

theorem quoted_of_uncut {text : List Char} (h : quoteBit.Uncut false text) :
    ∀ before after, text = before ++ ';' :: after → Quoted before := by
  intro before after heq
  have hcut := Scanner.uncut_iff.1 h before ';' after heq
  rw [← run_quoteBit_iff]
  cases hrun : quoteBit.run false before with
  | true => rfl
  | false =>
      rw [hrun] at hcut
      simp [quoteBit] at hcut

/-- The pieces of a text, with their blanks told apart. -/
theorem exists_padded (ps : List (List Char)) : ∃ pieces : List Padded,
    pieces.map Padded.text = ps ∧ pieces.map Padded.body = ps.map (Scanner.trim isSpace) := by
  induction ps with
  | nil => exact ⟨[], rfl, rfl⟩
  | cons p ps ih =>
      obtain ⟨pieces, htext, hbody⟩ := ih
      obtain ⟨before, after, heq, hbefore, hafter⟩ := Scanner.exists_trim_eq isSpace p
      refine ⟨⟨before, Scanner.trim isSpace p, after, hbefore, hafter⟩ :: pieces, ?_, ?_⟩
      · rw [List.map_cons, htext, Padded.text, ← heq]
      · rw [List.map_cons, hbody, List.map_cons]

theorem splitStatements_toList (sql : String) :
    (splitStatements sql).map String.toList = quoteBit.entries isSpace false [] sql.toList := by
  rw [splitStatements_eq, List.map_map]
  exact (List.map_congr_left fun _ _ => String.toList_ofList).trans (List.map_id _)

/-- **What `split_statements` keeps of its input.** -/
theorem splitStatements_preserves (sql : String) :
    PreservesInput sql (splitStatements sql) where
  trimmed := by
    intro stmt hstmt
    have hmem : stmt.toList ∈ quoteBit.entries isSpace false [] sql.toList := by
      rw [← splitStatements_toList]
      exact List.mem_map_of_mem hstmt
    obtain ⟨hne, hbare⟩ := Scanner.entry_of_mem_entries hmem
    exact ⟨fun h => hne (String.toList_eq_nil_iff.2 h), hbare,
      quoted_of_uncut (Scanner.uncut_of_mem_entries splits_quoteBit hmem)⟩
  resplit := by
    have hsemi : ";".toList = [';'] := rfl
    have hsame := Scanner.entries_intercalate_entries splits_quoteBit sql.toList
    rw [splitStatements_eq (String.intercalate _ _), String.toList_intercalate,
      splitStatements_toList, hsemi, hsame, ← splitStatements_eq]
  concat := by
    obtain ⟨pieces, htext, hbody⟩ := exists_padded (quoteBit.pieces false [] sql.toList)
    refine ⟨pieces, ?_, ?_, ?_⟩
    · rw [htext, Scanner.intercalate_pieces splits_quoteBit]
      rfl
    · rw [htext, Scanner.flatten_pieces, ← kept_eq]
      rfl
    · rw [splitStatements_toList, hbody]
      exact Scanner.flatten_filterMap_entry _

end AnalyticsTesting.Scripts
