import AnalyticsTesting.Lib.Selection
import AnalyticsTesting.Bench.Report
import AnalyticsTesting.Config.Value

set_option autoImplicit false

/-! # The customer report

`bench/customer_report.py`: what `build` selects from the run directories (the strongest run, the
staircase, the recovery run) and the lines with figures of ingestion, loss, duplication, delivery
and recovery. The sections on compaction, operations and configuration and the fixed prose are left
out. A field that may be missing or null is an option; the numbers of the files are exact rationals,
and what is computed from them is rounded as floats are. -/

namespace AnalyticsTesting.Bench

variable (fl : FloatFormat)

/-! ## Run directories -/

/-- What the report reads of `manifest.json`. -/
structure ManifestFile where
  totalOffered : Option Int
  totalAccepted : Option Int
  requestsFailed : Option Int

/-- What the report reads of `totals` in `generator.json`. -/
structure TotalsFile where
  acceptedRpsMean : Option ℚ
  latencyP50Ms : Option ℚ
  latencyP99Ms : Option ℚ

/-- What the report reads of `correctness.json`; `delta` is that of the check `row_count`,
`excessRows` that of the check `duplicates`. -/
structure CorrectnessFile where
  verdict : Option String
  landed : Option Int
  accepted : Option Int
  delta : Option Int
  excessRows : Option Int

/-- A line of `fault.jsonl`. -/
structure FaultEvent where
  event : Option String
  time : Option ℚ
  signal : Option String
  selfHealed : Option Bool

/-- An entry of what `collect` returns. A file that is missing or empty is `none` or `[]`. -/
structure RunDir where
  id : String
  manifest : ManifestFile
  totals : Option TotalsFile
  steps : List StepRecord
  correctness : Option CorrectnessFile
  fault : List FaultEvent

namespace RunDir

/-- `r["correctness"].get("verdict")`. -/
def verdict (r : RunDir) : Option String := r.correctness.bind (·.verdict)

/-- `r["correctness"].get("landed", 0)`. -/
def landed (r : RunDir) : Int := (r.correctness.bind (·.landed)).getD 0

/-- The excess rows of the duplicates check. -/
def excessRows (r : RunDir) : Int := (r.correctness.bind (·.excessRows)).getD 0

/-- The rows that are missing by the row count check. -/
def lossRows (r : RunDir) : Int := max 0 (-(r.correctness.bind (·.delta)).getD 0)

def passed (r : RunDir) : Bool := r.verdict = some "PASS"

/-- `"recovery" in r["id"] and r["fault"]`. -/
def isRecovery (r : RunDir) : Bool :=
  Config.Value.hasSubstring "recovery".toList r.id.toList && !r.fault.isEmpty

/-- `len(r["steps"]) > 1 and r["correctness"]`. -/
def isStaircase (r : RunDir) : Bool := 1 < r.steps.length && r.correctness.isSome

/-! ## The strongest run -/

/-- A run with totals of a single rate. -/
def singleRate (r : RunDir) : Bool := r.totals.isSome && !(1 < r.steps.length)

/-- `t.get("accepted_rps_mean", 0)`. -/
def rate (r : RunDir) : ℚ := (r.totals.bind (·.acceptedRpsMean)).getD 0

/-- `ratio`; `none` where `total_accepted` is missing and needed. -/
def ratio (r : RunDir) : Option Double :=
  match r.manifest.totalOffered with
  | none | some 0 => some (.fin 0)
  | some offered => r.manifest.totalAccepted.map fun accepted => fl.round (accepted / offered)

/-- A run that may be quoted: it passed, has a single rate, and `ratio >= 0.99`. -/
def quotable (r : RunDir) : Bool :=
  r.passed && r.singleRate && (r.ratio fl).any fun x => Double.le (fl.round (99 / 100)) x

end RunDir

/-- `best`. -/
def bestRun (runs : List RunDir) : Option RunDir :=
  Selection.firstMax (RunDir.quotable fl) RunDir.rate runs

/-- `stair`. -/
def staircase (runs : List RunDir) : Option RunDir := Selection.last RunDir.isStaircase runs

/-- The loop over the runs that passed raises where a ratio cannot be computed. -/
def ratiosComputable (runs : List RunDir) : Bool :=
  runs.all fun r => !(r.passed && r.singleRate) || (r.ratio fl).isSome

/-! ## The recovery run -/

/-- `ev[name]`, of the last event with this name. -/
def eventNamed (r : RunDir) (name : String) : Option FaultEvent :=
  Selection.last (fun e => e.event = some name) r.fault

/-- `later - earlier if earlier and later else None`. -/
def secondsBetween (earlier later : Option ℚ) : Option Double :=
  match earlier, later with
  | some a, some b => if a ≠ 0 ∧ b ≠ 0 then some (fl.round (b - a)) else none
  | _, _ => none

/-- `recovery`. -/
structure Recovery where
  run : RunDir
  signal : String
  detectSeconds : Option Double
  outageSeconds : Option Double
  selfHealed : Option Bool
  failedRpcs : Int
  verdict : Option String
  landed : Int

/-- What is known of the recovery run `r`. -/
def Recovery.of (r : RunDir) : Recovery :=
  let injected := eventNamed r "fault_injected"
  let detected := eventNamed r "down_detected"
  let recovered := eventNamed r "recovered"
  { run := r
    signal := (injected.bind (·.signal)).getD "SIGKILL"
    detectSeconds := secondsBetween fl (injected.bind (·.time)) (detected.bind (·.time))
    outageSeconds := secondsBetween fl (injected.bind (·.time)) (recovered.bind (·.time))
    selfHealed := recovered.bind (·.selfHealed)
    failedRpcs := r.manifest.requestsFailed.getD 0
    verdict := r.verdict
    landed := r.landed }

/-- `recovery`, of the last recovery run. -/
def recoveryRun (runs : List RunDir) : Option Recovery :=
  (Selection.last RunDir.isRecovery runs).map (Recovery.of fl)

/-- The loop over the recovery runs raises where an event has no name. -/
def eventsNamed (runs : List RunDir) : Bool :=
  runs.all fun r => !r.isRecovery || r.fault.all fun e => e.event.isSome

/-! ## The report -/

/-- `fmt(n)` of a count. -/
def fmt (n : Int) : String := formatInt n

/-- `fmt(x)` of a rate. -/
def fmtRate (x : ℚ) : String := formatInt (roundHalfEven x)

/-- What `build` has collected when it writes the report. -/
structure CustomerReport where
  runs : Nat
  totalOffered : Int
  totalAccepted : Int
  totalLanded : Int
  dupRows : Int
  lossRows : Int
  best : Option RunDir
  stair : Option RunDir
  recovery : Option Recovery

/-- The lines that quote `best` with its delivery. -/
def deliveryLines (best : RunDir) : List String :=
  let rate := fmtRate best.rate
  let records := fmt (best.manifest.totalAccepted.getD 0)
  ["- **Sustained ingestion verified at " ++ rate ++ " records/second with 100% delivery** (" ++
      records ++ " records in one run, every one verified in the lake).",
    "| Sustained load | fixed-rate ingestion with full reconciliation | **pass** — " ++ rate ++
      " rec/s, 100% delivered, 0 lost |",
    "- Verified sustained rate: **" ++ rate ++ " records/second** with 100% delivery over " ++
      records ++ " records."]

/-- The line with the latency of `best`, where it has one; `none` where the p99 is missing. -/
def latencyLine (best : RunDir) : Option (List String) :=
  match best.totals.bind (·.latencyP50Ms) with
  | none | some 0 => some []
  | some p50 => (best.totals.bind (·.latencyP99Ms)).map fun p99 =>
      ["- End-to-end latency at that rate: p50 **" ++
        PyNumber.formatPlain (fl.round (p50 / 1000)) 1 ++ " s**, p99 **" ++
        PyNumber.formatPlain (fl.round (p99 / 1000)) 1 ++ " s**."]

/-- The quotient is a float before it is printed: 5550 ms is 5.5 s. -/
example : PyNumber.formatPlain (FloatFormat.binary64.round (5550 / 1000)) 1 = "5.5" := by
  decide +kernel

/-- The headline of a recovery run that passed; `none` where there is no outage to print. -/
def recoveryHeadline (rec : Recovery) : Option (List String) :=
  if rec.verdict = some "PASS" then
    rec.outageSeconds.map fun outage =>
      ["- **Zero data loss through a hard process kill.** The collector was terminated with " ++
        rec.signal ++ " mid-write under load; the outage lasted " ++
        PyNumber.formatPlain outage 0 ++ " seconds end to end, the service restarted " ++
        "automatically, and not a single acknowledged record was lost or duplicated."]
  else some []

/-- The row of the recovery run in the table of tests. -/
def recoveryTestRow (rec : Recovery) : String :=
  "| Fault recovery (" ++ rec.signal ++ ") | kill the collector mid-write under load | **" ++
    (if rec.verdict = some "PASS" then "pass — no loss, no duplicates"
      else rec.verdict.getD "None") ++ "** |"

/-- The fault-recovery table. -/
def Recovery.table (rec : Recovery) : List (String × String) :=
  (match rec.detectSeconds with
    | some s => [("Failure detected after", PyNumber.formatPlain s 1 ++ " s")]
    | none => []) ++
  (match rec.outageSeconds with
    | some s => [("Total outage (kill → serving again)", PyNumber.formatPlain s 1 ++ " s")]
    | none => []) ++
  [("Restarted by", if rec.selfHealed = some true then "supervisor, automatically" else "operator"),
    ("Requests failed during the outage", fmt rec.failedRpcs ++ " (all visibly, to the client)"),
    ("Acknowledged records lost", "**0**"),
    ("Records duplicated on recovery", "**0**")]

/-- A row of the staircase; `none` where the delivered rate is too large to be rounded. -/
def staircaseRow (s : StepRecord) : Option String :=
  let nano := fl.round (1 / 10 ^ 9)
  let d := if Double.lt nano (.fin s.durationSeconds) then .fin s.durationSeconds else nano
  let ratio := if s.offered ≠ 0 then fl.round (s.accepted / s.offered) else .fin 0
  match fl.div (.fin s.accepted) d with
  | some (.fin delivered) =>
      some ("| " ++ fmtRate s.targetRps ++ " | " ++ fmtRate delivered ++ " | " ++
        PyNumber.formatPlain ratio 3 ++ " | " ++ fmt s.rejected ++ " |")
  | _ => none

/-- The table of data integrity. -/
def CustomerReport.integrity (report : CustomerReport) : List (String × String) :=
  [("Records offered (all runs)", fmt report.totalOffered),
    ("Records acknowledged", fmt report.totalAccepted),
    ("Records verified in the lake", fmt report.totalLanded),
    ("**Acknowledged but lost**", "**" ++ fmt report.lossRows ++ "**"),
    ("**Duplicated**", "**" ++ fmt report.dupRows ++ "**")]

/-- A row of a table with two columns. -/
def tableRow (row : String × String) : String := "| " ++ row.1 ++ " | " ++ row.2 ++ " |"

/-- The lines with figures, in the order of the report; `none` where a figure cannot be printed. -/
def CustomerReport.lines (report : CustomerReport) : Option (List String) := do
  let headline := "- **" ++ fmt report.totalLanded ++ " records ingested across " ++
    toString report.runs ++ " test runs — with " ++ fmt report.lossRows ++ " records lost and " ++
    fmt report.dupRows ++ " duplicated.** Every record the pipeline acknowledged was " ++
    "independently verified present in the data lake, by unique per-record identity, after " ++
    "every run."
  let killed ← (report.recovery.map recoveryHeadline).getD (some [])
  let delivery := (report.best.map deliveryLines).getD []
  let staircaseRows ← ((report.stair.map (·.steps)).getD []).mapM (staircaseRow fl)
  let latency ← (report.best.map (latencyLine fl)).getD (some [])
  return [headline] ++ killed ++ delivery.take 1 ++
    (delivery.drop 1).take 1 ++ (report.recovery.map recoveryTestRow).toList ++
    report.integrity.map tableRow ++
    ((report.recovery.map Recovery.table).getD []).map tableRow ++
    delivery.drop 2 ++ latency ++ staircaseRows

/-- `build`, up to the writing of its lines; `none` where it raises. -/
def build (runs : List RunDir) : Option CustomerReport :=
  if ratiosComputable fl runs && eventsNamed runs then
    let report : CustomerReport :=
      { runs := runs.length
        totalOffered := (runs.map fun r => r.manifest.totalOffered.getD 0).sum
        totalAccepted := (runs.map fun r => r.manifest.totalAccepted.getD 0).sum
        totalLanded := (runs.map RunDir.landed).sum
        dupRows := (runs.map RunDir.excessRows).sum
        lossRows := (runs.map RunDir.lossRows).sum
        best := bestRun fl runs
        stair := staircase runs
        recovery := recoveryRun fl runs }
    (report.lines fl).map fun _ => report
  else none

end AnalyticsTesting.Bench
