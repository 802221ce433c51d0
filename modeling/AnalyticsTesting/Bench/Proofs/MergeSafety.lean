import AnalyticsTesting.Bench.ValidateCorrectness

set_option autoImplicit false

/-! # What unchanged checksums mean

A compaction is checked by comparing the column sums of the rows before it with those after it.
Where the sums stand for the columns (`CollisionFree`) and at least one of the two queries
succeeded, the check passes exactly if both did and every column has the same values as before
(`checksumsStable_pass_iff`). Values that have moved between rows are not seen, because each
column is summed on its own. -/

namespace AnalyticsTesting.Bench

/-- On the columns of these rows the sum of the hashes stands for the multiset of the values. -/
structure CollisionFree (db : Duckdb) (before after : List ViewRow) : Prop where
  genId : (before.map fun row => db.hashText row.genId).sum
      = (after.map fun row => db.hashText row.genId).sum →
    (before.map ViewRow.genId).Perm (after.map ViewRow.genId)
  seq : (before.map fun row => db.hashBigint row.seq).sum
      = (after.map fun row => db.hashBigint row.seq).sum →
    (before.map ViewRow.seq).Perm (after.map ViewRow.seq)
  body : (before.map fun row => db.hashText row.body).sum
      = (after.map fun row => db.hashText row.body).sum →
    (before.map ViewRow.body).Perm (after.map ViewRow.body)
  severityText : (before.map fun row => db.hashText row.severityText).sum
      = (after.map fun row => db.hashText row.severityText).sum →
    (before.map ViewRow.severityText).Perm (after.map ViewRow.severityText)

/-- Every column has the same values, each as often. -/
structure SameColumns (before after : List ViewRow) : Prop where
  genId : (before.map ViewRow.genId).Perm (after.map ViewRow.genId)
  seq : (before.map ViewRow.seq).Perm (after.map ViewRow.seq)
  body : (before.map ViewRow.body).Perm (after.map ViewRow.body)
  severityText : (before.map ViewRow.severityText).Perm (after.map ViewRow.severityText)

theorem SameColumns.length_eq {before after : List ViewRow} (h : SameColumns before after) :
    before.length = after.length := by
  simpa using h.genId.length_eq

/-- A column's sum does not depend on the order of the rows. -/
theorem sum_hash_eq {α : Type} {hash : α → Nat} {column : ViewRow → α}
    {before after : List ViewRow} (h : (before.map column).Perm (after.map column)) :
    (before.map fun row => hash (column row)).sum
      = (after.map fun row => hash (column row)).sum := by
  have hsum := (h.map hash).sum_eq
  rwa [List.map_map, List.map_map] at hsum

/-! ## The comparison -/

theorem checksumsStable_pass_eq (base result : Option (Except String Checksums)) :
    (checksumsStableCheck base result).pass = true ↔
      ∀ k ∈ comparedColumns, ((base.map checksumItems).getD []).lookup k
        = ((result.map checksumItems).getD []).lookup k := by
  simp [checksumsStableCheck, List.filter_eq_nil_iff]

/-- Two computed sets of sums compare equal exactly if they agree in every column. -/
theorem checksumsStable_ok_iff (base result : Checksums) :
    (checksumsStableCheck (some (.ok base)) (some (.ok result))).pass = true ↔
      base.rows = result.rows ∧ base.genId = result.genId ∧ base.seq = result.seq ∧
        base.body = result.body ∧ base.severityText = result.severityText := by
  rw [checksumsStable_pass_eq]
  simp [comparedColumns, checksumItems, List.lookup_cons]

/-- Sums that were computed never compare equal to sums that were not. -/
theorem checksumsStable_one_failed (c : Checksums) (e : String) :
    (checksumsStableCheck (some (.ok c)) (some (.error e))).pass = false ∧
      (checksumsStableCheck (some (.error e)) (some (.ok c))).pass = false := by
  constructor <;>
    simp [checksumsStableCheck, comparedColumns, checksumItems, List.lookup_cons]

/-- **What an unchanged checksum means.** Unless the query failed on both sides, the check passes
exactly if the sums were computed on both and every column has the same values, each as often. -/
theorem checksumsStable_pass_iff {db : Duckdb} {base result : Lake} {before after : List ViewRow}
    (hfree : CollisionFree db before after)
    (hone : base.checksumQuery = .ok () ∨ result.checksumQuery = .ok ()) :
    (checksumsStableCheck (some (checksums db base before))
        (some (checksums db result after))).pass = true ↔
      (base.checksumQuery = .ok () ∧ result.checksumQuery = .ok ()) ∧
        SameColumns before after := by
  cases hbase : base.checksumQuery with
  | ok u =>
      cases hresult : result.checksumQuery with
      | ok u' =>
          simp only [checksums, hbase, hresult, checksumsStable_ok_iff]
          constructor
          -- the check compares sums of hashes; without collisions they determine the columns
          · rintro ⟨-, hgenId, hseq, hbody, hseverity⟩
            exact ⟨⟨trivial, trivial⟩, hfree.genId hgenId, hfree.seq hseq, hfree.body hbody,
              hfree.severityText hseverity⟩
          · rintro ⟨-, hsame⟩
            exact ⟨hsame.length_eq, sum_hash_eq hsame.genId, sum_hash_eq hsame.seq,
              sum_hash_eq hsame.body, sum_hash_eq hsame.severityText⟩
      | error e =>
          simp only [checksums, hbase, hresult, (checksumsStable_one_failed _ _).1]
          simp
  | error e =>
      cases hresult : result.checksumQuery with
      | ok u =>
          simp only [checksums, hbase, hresult, (checksumsStable_one_failed _ _).2]
          simp
      | error e' => simp [hbase, hresult] at hone

/-- The comparison can fail a run, and cannot save one. -/
theorem compareBaseline_pass_iff (base : Option (Except String Checksums)) (result : Result) :
    (compareBaseline base result).1.verdict = .pass ↔
      result.verdict = .pass ∧ (checksumsStableCheck base (some result.checksums)).pass = true := by
  have hpass : (checksumsStableCheck base (some result.checksums)).pass = true ↔
      (checksumsStableCheck base (some result.checksums)).differingColumns = [] := by
    simp [checksumsStableCheck]
  unfold compareBaseline
  dsimp only
  rw [hpass]
  split_ifs with hsame <;> simp [hsame]

/-! ## Rows that exchange a value -/

/-- Where the columns are the same, no hash has a collision between them. -/
theorem SameColumns.collisionFree {before after : List ViewRow} (h : SameColumns before after)
    (db : Duckdb) : CollisionFree db before after :=
  ⟨fun _ => h.genId, fun _ => h.seq, fun _ => h.body, fun _ => h.severityText⟩

/-- The row with number `seq` and text `body` of one generator. -/
def rowWith (seq : Int) (body : String) : ViewRow where
  genId := some "gen-1"
  seq := some seq
  timestamp := 0
  severityText := some "INFO"
  body := some body

def rowsBefore : List ViewRow := [rowWith 0 "a", rowWith 1 "b"]

/-- The same rows with their bodies exchanged. -/
def rowsExchanged : List ViewRow := [rowWith 0 "b", rowWith 1 "a"]

theorem sameColumns_exchanged : SameColumns rowsBefore rowsExchanged := by
  constructor <;> decide

/-- A lake whose checksum query succeeds. -/
def quietLake : Lake where
  logs := []
  watermark := .ok []
  checksumQuery := .ok ()

/-- A database with a hash that is the text's length or the number itself. -/
def lengthDuckdb : Duckdb where
  tryCast _ := none
  hashText text := (text.getD "").length
  hashBigint n := (n.getD 0).toNat

theorem checksumsStable_pass_iff_exchanged :
    (checksumsStableCheck (some (checksums lengthDuckdb quietLake rowsBefore))
        (some (checksums lengthDuckdb quietLake rowsExchanged))).pass = true ↔
      (quietLake.checksumQuery = .ok () ∧ quietLake.checksumQuery = .ok ()) ∧
        SameColumns rowsBefore rowsExchanged :=
  checksumsStable_pass_iff (sameColumns_exchanged.collisionFree lengthDuckdb) (Or.inl rfl)

/-- The columns of a row that the checksums are taken of. -/
def ViewRow.content (row : ViewRow) : Option String × Option Int × Option String × Option String :=
  (row.genId, row.seq, row.body, row.severityText)

/-- **Columns that are unchanged do not make rows that are**: with the bodies of two rows exchanged
the check passes. -/
theorem not_merge_safe_exchanged :
    ¬ ∀ (db : Duckdb) (base result : Lake) (before after : List ViewRow),
        CollisionFree db before after →
        (checksumsStableCheck (some (checksums db base before))
          (some (checksums db result after))).pass = true →
        (base.checksumQuery = .ok () ∧ result.checksumQuery = .ok ()) ∧
          (before.map ViewRow.content).Perm (after.map ViewRow.content) := by
  intro h
  have hperm := (h lengthDuckdb quietLake quietLake rowsBefore rowsExchanged
    (sameColumns_exchanged.collisionFree lengthDuckdb) (by decide)).2
  revert hperm
  decide

end AnalyticsTesting.Bench
