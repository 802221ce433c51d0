import AnalyticsTesting.Lib.LeastSquares
import Mathlib.Data.Rat.Defs
import Mathlib.Algebra.Order.Field.Rat

set_option autoImplicit false

/-! # The drift analysis of a soak

`tests/soak/run.sh`, the program at its end, which compares the first hour of every metric with the
last one. A row of a sample file is what the metrics read of it, where it is a number, and numbers
are exact rationals. The counts of restarts and of processes killed, and the verdict on correctness,
which the program copies, are left out. -/

namespace AnalyticsTesting.Tests

/-- A line of `generator.jsonl`. -/
structure GeneratorRow where
  ts : Option ℚ
  acceptedRps : Option ℚ
  latencyP99Ms : Option ℚ

/-- A line of `raw/pipeline.jsonl`. -/
structure PipelineRow where
  ts : Option ℚ
  /-- `backlog_files`, `small_files` and `pg_database_size_bytes` of `catalog`. -/
  backlogFiles : Option ℚ
  smallFiles : Option ℚ
  pgDatabaseSizeBytes : Option ℚ
  /-- `lag_seconds` of `watermark`. -/
  lagSeconds : Option ℚ

/-- A line of `raw/host-{role}.jsonl`. -/
structure HostRow where
  ts : Option ℚ
  /-- `rss_bytes` of `process`. -/
  rssBytes : Option ℚ
  cpuPercent : Option ℚ

/-! ## Windows -/

section Windows

variable {R : Type*} (ts : R → Option ℚ) (rows : List R)

/-- The rows that have a time. -/
def timed : List R := rows.filter fun r => (ts r).isSome

/-- `window(rows, first)`. -/
def window (first : Bool) (seconds : ℚ := 3600) : List R :=
  if first then
    match (timed ts rows).head?.bind ts with
    | none => []
    | some t0 => (timed ts rows).filter fun r => (ts r).any (· ≤ t0 + seconds)
  else
    match (timed ts rows).getLast?.bind ts with
    | none => []
    | some t1 => (timed ts rows).filter fun r => (ts r).any (t1 - seconds ≤ ·)

end Windows

/-- `mean_of`. -/
def meanOf {R : Type*} (rows : List R) (fn : R → Option ℚ) : Option ℚ :=
  let vals := rows.filterMap fn
  if vals = [] then none else some (LeastSquares.mean vals)

/-! ## The lines -/

/-- What a line says of a metric. -/
inductive Flag
  | notMeasured
  | grewFromZero
  | stable
  | drift (d : ℚ)
  | improved (d : ℚ)
  deriving DecidableEq

/-- `line(label, a, b)`; the drift from zero is infinite. -/
def line (a b : Option ℚ) (betterLower : Bool := true) (tol : ℚ := 5 / 100) : Flag :=
  match a, b with
  | some a, some b =>
      let drift := if a = 0 then if b = 0 then some 0 else none else some ((b - a) / |a|)
      match drift with
      | none => .grewFromZero
      | some d =>
          if |d| ≤ tol then .stable
          else if decide (0 < d) = betterLower then .drift d
          else .improved d
  | _, _ => .notMeasured

/-- A metric: what a row says of it, and how it is printed. -/
structure Metric (R : Type*) where
  label : String
  fn : R → Option ℚ
  /-- `(mean_of(...) or 0) / 1048576`. -/
  inMiB : Bool := false
  betterLower : Bool := true

/-- A mean as the metric prints it. -/
def Metric.scale {R : Type*} (m : Metric R) (mean : Option ℚ) : Option ℚ :=
  if m.inMiB then some (mean.getD 0 / 1048576) else mean

/-- The line of a metric. -/
def soakLine {R : Type*} (ts : R → Option ℚ) (rows : List R) (m : Metric R) : Flag :=
  line (m.scale (meanOf (window ts rows true) m.fn))
    (m.scale (meanOf (window ts rows false) m.fn)) m.betterLower

def generatorMetrics : List (Metric GeneratorRow) :=
  [⟨"accepted rec/s", (·.acceptedRps), false, false⟩,
   ⟨"latency p99 (ms)", (·.latencyP99Ms), false, true⟩]

def pipelineMetrics : List (Metric PipelineRow) :=
  [⟨"backlog files (B2)", (·.backlogFiles), false, true⟩,
   ⟨"small files", (·.smallFiles), false, true⟩,
   ⟨"visibility lag (s)", (·.lagSeconds), false, true⟩,
   ⟨"catalog db (MiB)", (·.pgDatabaseSizeBytes), true, true⟩]

def hostMetrics (role : String) : List (Metric HostRow) :=
  [⟨role ++ " RSS (MiB)", (·.rssBytes), true, true⟩,
   ⟨role ++ " CPU %", (·.cpuPercent), false, true⟩]

/-- The lines of the analysis. -/
def soakLines (gen : List GeneratorRow) (pipe : List PipelineRow)
    (hosts : List (String × List HostRow)) : List (String × Flag) :=
  (generatorMetrics.map fun m => (m.label, soakLine (·.ts) gen m)) ++
  (pipelineMetrics.map fun m => (m.label, soakLine (·.ts) pipe m)) ++
  hosts.flatMap fun (role, rows) =>
    if rows = [] then []
    else (hostMetrics role).map fun m => (m.label, soakLine (·.ts) rows m)

end AnalyticsTesting.Tests
