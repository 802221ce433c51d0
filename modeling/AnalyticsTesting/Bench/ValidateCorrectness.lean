import AnalyticsTesting.Lib.Bag

set_option autoImplicit false

/-! # The correctness gate

`bench/validate_correctness.py`: the rows of a run, selected from the lake by the time window and
the generators of the manifest, are reconciled with what the manifest says was sent. The database
is what the queries read: the two tables, and the SQL functions whose meaning is DuckDB's
(`Duckdb`). Connecting to it and printing the result are left out. -/

namespace AnalyticsTesting.Bench

/-! ## The database -/

/-- The SQL functions of the queries. -/
structure Duckdb where
  /-- `TRY_CAST(text AS BIGINT)`. -/
  tryCast : String → Option Int
  /-- `hash` of a text column. -/
  hashText : Option String → Nat
  /-- `hash` of an integer column. -/
  hashBigint : Option Int → Nat

/-- A row of the logs table. Timestamps are in microseconds. -/
structure LogRow where
  attributes : List (String × Option String)
  timestamp : Option Int
  severityText : Option String
  body : Option String

/-- A row of the watermark table. -/
structure WatermarkRow where
  rowCount : Option Int
  maxTimestamp : Option Int

/-- A query that fails: the first line of the exception's text. -/
structure SqlError where
  firstLine : String

/-- What is in the lake, and which of the queries that may fail do. -/
structure Lake where
  logs : List LogRow
  watermark : Except SqlError (List WatermarkRow)
  checksumQuery : Except SqlError Unit

/-- `run_start` and `run_end`. -/
structure Window where
  runStart : Int
  runEnd : Int

/-- `timestamp >= run_start AND timestamp <= run_end`. -/
def Window.contains (window : Window) (timestamp : Int) : Bool :=
  window.runStart ≤ timestamp && timestamp ≤ window.runEnd

/-! ## Views -/

/-- A row of `window_rows` and `run_rows`. -/
structure ViewRow where
  genId : Option String
  seq : Option Int
  timestamp : Int
  severityText : Option String
  body : Option String
  deriving DecidableEq

/-- The two views. -/
structure Views where
  windowRows : List ViewRow
  runRows : List ViewRow

/-- `element_at(attributes, key)[1]`. -/
def elementAt (attributes : List (String × Option String)) (key : String) : Option String :=
  (attributes.find? fun entry => entry.1 = key).bind (·.2)

/-- A row of the table as the views show it. -/
def viewRow (db : Duckdb) (row : LogRow) (timestamp : Int) : ViewRow where
  genId := elementAt row.attributes "bench.gen_id"
  seq := (elementAt row.attributes "bench.seq").bind db.tryCast
  timestamp
  severityText := row.severityText
  body := row.body

/-- `gen_id IN (…)`, or `TRUE` where there is no generator to look for. -/
def inRun (genIds : List String) (row : ViewRow) : Bool :=
  genIds.isEmpty || match row.genId with
    | some genId => genIds.contains genId
    | none => false

/-- `build_view`. -/
def buildView (db : Duckdb) (lake : Lake) (window : Window) (genIds : List String) : Views :=
  let windowRows := lake.logs.filterMap fun row =>
    match row.timestamp with
    | some timestamp =>
        if window.contains timestamp then some (viewRow db row timestamp) else none
    | none => none
  { windowRows, runRows := windowRows.filter (inRun genIds) }

/-! ## Manifest -/

/-- An entry of `generators`; `none` is a missing key. -/
structure ManifestGenerator where
  genId : Option String
  seqMin : Option Int
  seqMax : Option Int

/-- What the gate reads of `manifest.json`; `none` is a missing key. -/
structure Manifest where
  testId : Option String
  generators : List ManifestGenerator
  totalOffered : Option Int
  totalAccepted : Option Int
  totalRejected : Option Int

namespace Manifest

def accepted (m : Manifest) : Int := m.totalAccepted.getD 0

def offered (m : Manifest) : Int := m.totalOffered.getD 0

def rejected (m : Manifest) : Int := m.totalRejected.getD 0

/-- `gen_ids` of `main`: the ones that are not empty. -/
def genIds (m : Manifest) : List String :=
  m.generators.filterMap fun gen => gen.genId.filter (· ≠ "")

end Manifest

namespace ManifestGenerator

def expectMin (gen : ManifestGenerator) : Int := gen.seqMin.getD 0

def expectMax (gen : ManifestGenerator) : Int := gen.seqMax.getD (-1)

/-- `expected_span`. -/
def expectedSpan (gen : ManifestGenerator) : Int := max 0 (gen.expectMax - gen.expectMin + 1)

end ManifestGenerator

/-! ## Result -/

/-- `checks["row_count"]`. -/
structure RowCountCheck where
  pass : Bool
  landed : Nat
  accepted : Int
  delta : Int
  detail : String

/-- `checks["duplicates"]`. -/
structure DuplicatesCheck where
  pass : Bool
  duplicateKeys : Nat
  excessRows : Nat
  detail : String

/-- `checks["contiguity"]`. -/
structure ContiguityCheck where
  pass : Bool
  detail : String

/-- `checks["watermark"]`; `none` where it was not evaluated. -/
structure WatermarkCheck where
  pass : Option Bool
  /-- The watermark's rows, the rows in the window and the rows of this run. -/
  counts : Option (Int × Nat × Nat)
  detail : String

/-- An entry of `per_generator`. -/
structure GeneratorResult where
  genId : Option String
  expectedSeqMin : Int
  expectedSeqMax : Int
  expectedSpan : Int
  landedRows : Nat
  distinctSeq : Nat
  observedSeqMin : Option Int
  observedSeqMax : Option Int
  missingSeqUnaccountedFor : Int

/-- `checksums`. -/
structure Checksums where
  rows : Nat
  genId : Nat
  seq : Nat
  body : Nat
  severityText : Nat
  timestampMin : Option Int
  timestampMax : Option Int

/-- `checks["checksums_stable"]`. -/
structure ChecksumsStableCheck where
  pass : Bool
  differingColumns : List String
  detail : String

/-- `"PASS"` and `"FAIL"`. -/
inductive Verdict
  | pass
  | fail
  deriving DecidableEq

/-- What `validate` returns. -/
structure Result where
  testId : Option String
  offered : Int
  accepted : Int
  rejected : Int
  landed : Nat
  rowsInWindow : Nat
  foreignRowsInWindow : Int
  rowsMissingIdentity : Nat
  rowCount : RowCountCheck
  duplicates : DuplicatesCheck
  contiguity : ContiguityCheck
  watermark : WatermarkCheck
  perGenerator : List GeneratorResult
  checksums : Except String Checksums
  verdict : Verdict
  failedChecks : List String

/-! ## Checks -/

/-- The key of a row that has both parts of it. -/
def ViewRow.key (row : ViewRow) : Option (String × Int) :=
  row.genId.bind fun genId => row.seq.map fun seq => (genId, seq)

/-- Loss and duplication in aggregate. -/
def rowCountCheck (runRows : List ViewRow) (accepted : Int) : RowCountCheck :=
  let landed := runRows.length
  let delta : Int := landed - accepted
  { pass := delta = 0
    landed
    accepted
    delta
    detail :=
      if delta = 0 then "exact match"
      else if delta < 0 then toString (-delta) ++ " acked rows never landed — DATA LOSS"
      else toString delta ++ " more rows landed than were acked for this run's generator(s) " ++
        "— DUPLICATION" }

/-- Keys that are there twice. -/
def duplicatesCheck (runRows : List ViewRow) : DuplicatesCheck :=
  let keys := runRows.filterMap ViewRow.key
  let duplicateKeys := (Bag.repeated keys).length
  let excessRows := Bag.excess keys
  { pass := duplicateKeys = 0
    duplicateKeys
    excessRows
    detail :=
      if duplicateKeys = 0 then "no (gen_id, seq) appears twice"
      else toString duplicateKeys ++ " keys duplicated, " ++ toString excessRows ++
        " excess rows" }

/-- The rows `WHERE gen_id = ?` selects. -/
def rowsOf (runRows : List ViewRow) (genId : Option String) : List ViewRow :=
  match genId with
  | some genId => runRows.filter fun row => row.genId = some genId
  | none => []

/-- One turn of the contiguity check. -/
def generatorResult (runRows : List ViewRow) (m : Manifest) (gen : ManifestGenerator) :
    GeneratorResult :=
  let rows := rowsOf runRows gen.genId
  let distinct := Bag.countDistinct (rows.map (·.seq))
  let seqs := (rows.map (·.seq)).reduceOption
  let unackedBudget := max 0 (m.offered - m.accepted)
  { genId := gen.genId
    expectedSeqMin := gen.expectMin
    expectedSeqMax := gen.expectMax
    expectedSpan := gen.expectedSpan
    landedRows := rows.length
    distinctSeq := distinct
    observedSeqMin := seqs.min?
    observedSeqMax := seqs.max?
    missingSeqUnaccountedFor := max 0 (gen.expectedSpan - distinct - unackedBudget) }

/-- Per-generator contiguity. -/
def contiguityCheck (perGenerator : List GeneratorResult) : ContiguityCheck :=
  let allContiguous := perGenerator.all fun entry => ¬ 0 < entry.missingSeqUnaccountedFor
  { pass := allContiguous
    detail :=
      if allContiguous then
        "every seq accounted for as landed, rejected or failed " ++
          "(unacked budget = offered - accepted)"
      else "sequence numbers missing that rejections do not explain" }

/-- `str(exc).splitlines()[0][:150]`. -/
def SqlError.text (e : SqlError) : String := String.ofList (e.firstLine.toList.take 150)

/-- Watermark agreement. -/
def watermarkCheck (lake : Lake) (window : Window) (inWindow landed : Nat) : WatermarkCheck :=
  match lake.watermark with
  | .ok rows =>
      let wm : Int := ((rows.filter fun row => row.maxTimestamp.any window.contains).map
        fun row => row.rowCount.getD 0).sum
      { pass := some (wm = inWindow)
        counts := some (wm, inWindow, landed)
        detail :=
          if wm = inWindow then "watermark agrees with the table"
          else "watermark says " ++ toString wm ++ ", the window holds " ++ toString inWindow }
  | .error e => { pass := none, counts := none, detail := "not evaluated: " ++ e.text }

/-- The column sums, for a comparison across a merge. -/
def checksums (db : Duckdb) (lake : Lake) (runRows : List ViewRow) : Except String Checksums :=
  match lake.checksumQuery with
  | .ok () => .ok
      { rows := runRows.length
        genId := (runRows.map fun row => db.hashText row.genId).sum
        seq := (runRows.map fun row => db.hashBigint row.seq).sum
        body := (runRows.map fun row => db.hashText row.body).sum
        severityText := (runRows.map fun row => db.hashText row.severityText).sum
        timestampMin := (runRows.map (·.timestamp)).min?
        timestampMax := (runRows.map (·.timestamp)).max? }
  | .error e => .error e.text

/-- The names of the hard checks that failed. -/
def hardFailures (rowCount : RowCountCheck) (duplicates : DuplicatesCheck)
    (contiguity : ContiguityCheck) : List String :=
  ([("row_count", rowCount.pass), ("duplicates", duplicates.pass),
    ("contiguity", contiguity.pass)].filter fun check => check.2 = false).map (·.1)

/-- `validate`. -/
def validate (db : Duckdb) (lake : Lake) (window : Window) (views : Views) (m : Manifest) :
    Result :=
  let landed := views.runRows.length
  let inWindow := views.windowRows.length
  let rowCount := rowCountCheck views.runRows m.accepted
  let duplicates := duplicatesCheck views.runRows
  let perGenerator := m.generators.map (generatorResult views.runRows m)
  let contiguity := contiguityCheck perGenerator
  let hard := hardFailures rowCount duplicates contiguity
  { testId := m.testId
    offered := m.offered
    accepted := m.accepted
    rejected := m.rejected
    landed
    rowsInWindow := inWindow
    foreignRowsInWindow := inWindow - landed
    rowsMissingIdentity := views.runRows.countP fun row => row.seq.isNone || row.genId.isNone
    rowCount
    duplicates
    contiguity
    watermark := watermarkCheck lake window inWindow landed
    perGenerator
    checksums := checksums db lake views.runRows
    verdict := if hard = [] then .pass else .fail
    failedChecks := hard }

/-- The views of `main`. -/
def runViews (db : Duckdb) (lake : Lake) (window : Window) (m : Manifest) : Views :=
  buildView db lake window m.genIds

/-- `main` up to the comparison with a baseline. -/
def validateRun (db : Duckdb) (lake : Lake) (window : Window) (m : Manifest) : Result :=
  validate db lake window (runViews db lake window m) m

/-! ## Comparison with a baseline -/

/-- The object under `checksums`; where the query failed it has no key but `error`. -/
def checksumItems : Except String Checksums → List (String × Nat)
  | .ok c => [("rows", c.rows), ("gen_id", c.genId), ("seq", c.seq), ("body", c.body),
      ("severity_text", c.severityText)]
  | .error _ => []

/-- The columns that are compared. -/
def comparedColumns : List String := ["rows", "gen_id", "seq", "body", "severity_text"]

/-- The check that a merge changed nothing. A result without `checksums` counts as an empty
    object. -/
def checksumsStableCheck (base result : Option (Except String Checksums)) :
    ChecksumsStableCheck :=
  let before := (base.map checksumItems).getD []
  let after := (result.map checksumItems).getD []
  let differing := comparedColumns.filter fun k => before.lookup k ≠ after.lookup k
  { pass := differing = []
    differingColumns := differing
    detail :=
      if differing = [] then "all column checksums unchanged"
      else "changed across the merge: " ++ ", ".intercalate differing }

/-- The comparison of `main` with the `checksums` of a previous result. -/
def compareBaseline (base : Option (Except String Checksums)) (result : Result) :
    Result × ChecksumsStableCheck :=
  let check := checksumsStableCheck base (some result.checksums)
  if check.differingColumns = [] then (result, check)
  else ({ result with verdict := .fail,
                      failedChecks := result.failedChecks ++ ["checksums_stable"] }, check)

end AnalyticsTesting.Bench
