import Mathlib.Algebra.Order.Ring.Rat
import AnalyticsTesting.Lib.PyNumber

set_option autoImplicit false

/-! # Reports of a run

The parts of the reports that say which rate a system sustains: `bench/report.py` (the backlog
analysis and the section on the maximum sustainable rate), `bench/publish_report.py` (the scaling
guidance) and the verdict per level that `tests/throughput/run.sh` prints. They read the run's
files, of which `RunFiles` has what these parts use; numbers are exact rationals. -/

namespace AnalyticsTesting.Bench

/-! ## Files -/

/-- An entry of `steps` in `generator.json`. -/
structure StepRecord where
  index : Int
  targetRps : ℚ
  durationSeconds : ℚ
  startedAt : ℚ
  endedAt : ℚ
  offered : Int
  accepted : Int
  rejected : Int
  deriving DecidableEq

/-- A line of `raw/pipeline.jsonl`; `none` is a missing or null value, or a `ts` that is not a
    number. -/
structure PipelineSample where
  ts : Option ℚ
  backlogFiles : Option ℚ
  backlogBytes : Option ℚ

/-- What the reports read of a run directory. -/
structure RunFiles where
  steps : List StepRecord
  pipeline : List PipelineSample
  /-- `verdict` of `correctness.json`. -/
  verdict : Option String

/-- `accepted / offered`, and 0 where nothing was offered. -/
def StepRecord.ratio (s : StepRecord) : ℚ := if s.offered ≠ 0 then s.accepted / s.offered else 0

/-- The accepted rate, `accepted / max(1e-9, duration_seconds)`. -/
def StepRecord.acceptedPerSecond (s : StepRecord) : ℚ :=
  s.accepted / max (1 / 10 ^ 9) s.durationSeconds

/-- The loop over a staircase: the last level before the first one that does not pass. -/
def lastPassing {α : Type} (passes : α → Bool) (best : Option α) : List α → Option α
  | [] => best
  | s :: rest => if passes s then lastPassing passes (some s) rest else best

/-! ## Trends -/

/-- `statistics.fmean`. -/
def fmean (xs : List ℚ) : ℚ := xs.sum / xs.length

/-- `linear_slope`. -/
def linearSlope (xs ys : List ℚ) : Option ℚ :=
  if xs.length < 3 then none
  else
    let mx := fmean xs
    let my := fmean ys
    let denom := (xs.map fun x => (x - mx) ^ 2).sum
    if denom = 0 then none
    else some ((List.zipWith (fun x y => (x - mx) * (y - my)) xs ys).sum / denom)

/-- `steady_window`. -/
def steadyWindow {α : Type} (rows : List α) (discardFraction : ℚ) : List α :=
  if rows.length < 8 then rows
  else rows.drop (rows.length * discardFraction).floor.toNat

/-- A pipeline sample with a time and a number of backlog files. -/
structure BacklogPoint where
  ts : ℚ
  files : ℚ
  bytes : ℚ

/-- `pl` of `analyse_backlog`. -/
def backlogPoints (pipeline : List PipelineSample) : List BacklogPoint :=
  pipeline.filterMap fun r =>
    match r.ts, r.backlogFiles with
    | some ts, some files => some { ts, files, bytes := r.backlogBytes.getD 0 }
    | _, _ => none

/-- The trend of the backlog, where there is one. -/
structure BacklogTrend where
  samples : Nat
  discardedWarmup : Nat
  filesFirst : Option ℚ
  filesLast : Option ℚ
  filesSlopePerMin : ℚ
  bytesSlopeMibPerMin : ℚ
  filesMax : Option ℚ
  deriving DecidableEq

/-- What `analyse_backlog` returns. -/
inductive BacklogAnalysis
  | unavailable (reason : String)
  | available (trend : BacklogTrend)
  deriving DecidableEq

/-- `analyse_backlog`. -/
def analyseBacklog (run : RunFiles) : BacklogAnalysis :=
  let pl := backlogPoints run.pipeline
  if pl.length < 4 then .unavailable "fewer than 4 pipeline samples with catalog data"
  else
    let window := steadyWindow pl (1 / 4)
    let start := (window.head?.map (·.ts)).getD 0
    let xs := window.map fun r => r.ts - start
    let files := window.map (·.files)
    let bytes := window.map (·.bytes)
    .available
      { samples := window.length
        discardedWarmup := pl.length - window.length
        filesFirst := files.head?
        filesLast := files.getLast?
        filesSlopePerMin := (linearSlope xs files).getD 0 * 60
        bytesSlopeMibPerMin := (linearSlope xs bytes).getD 0 * 60 / 1048576
        filesMax := files.max? }

/-- The slope is measured from four samples on. -/
theorem analyseBacklog_available_iff {run : RunFiles} :
    (∃ trend, analyseBacklog run = .available trend) ↔ 4 ≤ (backlogPoints run.pipeline).length := by
  unfold analyseBacklog
  by_cases hfew : (backlogPoints run.pipeline).length < 4
  · rw [if_pos hfew]
    simpa using hfew
  · rw [if_neg hfew]
    exact iff_of_true ⟨_, rfl⟩ (not_lt.1 hfew)

/-- `vals` of `analyse_lag`, from the `watermark.lag_seconds` of the samples. -/
def lagValues (lags : List (Option Double)) : List Double :=
  lags.filterMap fun v => v.filter fun x => Double.le (.fin 0) x

/-! ## The report -/

/-- The criterion of `render`: accepted/offered is at least 0.99 and nothing is rejected. -/
def StepRecord.meetsCriterion (s : StepRecord) : Bool := 99 / 100 ≤ s.ratio && s.rejected = 0

/-- What the section "Maximum sustainable rate" says. -/
structure MaximumSustainable where
  step : Option StepRecord
  /-- The note that the backlog was not available is there. -/
  provisional : Bool
  peak : ℚ
  deriving DecidableEq

/-- The section, which is there for a staircase only. -/
def maximumSustainable (run : RunFiles) : Option MaximumSustainable :=
  if 1 < run.steps.length then
    some
      { step := lastPassing StepRecord.meetsCriterion none run.steps
        provisional := match analyseBacklog run with
          | .unavailable _ => true
          | .available _ => false
        peak := ((run.steps.map (·.acceptedPerSecond)).max?).getD 0 }
  else none

/-- The text of the section. -/
def MaximumSustainable.lines (m : MaximumSustainable) : List String :=
  let fmt (x : ℚ) : String := PyNumber.formatFloat (.fin x) 0
  let named := match m.step with
    | some s =>
        ("Highest level meeting accepted/offered >= 0.99 with zero rejections: **" ++
          fmt s.targetRps ++ " records/s** (step " ++ toString s.index ++ ", accepted " ++
          fmt s.acceptedPerSecond ++ "/s).") ::
        if m.provisional then
          ["", "> This is **provisional**: the backlog series was not available, so the " ++
            "flat-backlog half of the sustainability criterion could not be evaluated. " ++
            "It is the highest level that passed the accept-rate test only."]
        else []
    | none => ["No level met the sustainability criteria."]
  ["### Maximum sustainable rate", ""] ++ named ++
    ["", "Highest instantaneous accepted rate at any level: **" ++ fmt m.peak ++
      " records/s**. Reported separately from the sustainable figure on purpose — they are " ++
      "different claims and only the sustainable one describes what the system can be run at.",
     ""]

/-! ## The published summary -/

/-- `max_step` of `main`. -/
def maxStep (run : RunFiles) : ℚ := ((run.steps.map (·.targetRps)).max?).getD 0

/-- What `scaling_guidance` derives from the run. -/
structure ScalingGuidance where
  /-- The rate it calls proven clean in this run. -/
  safeRate : ℚ
  /-- Per aggregate rate, the generator hosts needed. -/
  hosts : List (Nat × Int)
  deriving DecidableEq

/-- `scaling_guidance`. -/
def scalingGuidance (maxStep : ℚ) : ScalingGuidance :=
  let safeRate := if maxStep ≠ 0 then maxStep else 25000
  { safeRate
    hosts := [30000, 50000, 75000, 100000, 150000, 200000].map fun t : Nat =>
      (t, max 1 (-(-(t : ℚ) / safeRate).floor)) }

/-! ## The throughput test -/

/-- `backlog_slope`: files a minute over the second half of `[t0, t1]`. -/
def backlogSlope (run : RunFiles) (t0 t1 : ℚ) : Option ℚ :=
  let pts := run.pipeline.filterMap fun r =>
    match r.ts, r.backlogFiles with
    | some ts, some files => if t0 ≤ ts ∧ ts ≤ t1 then some (ts, files) else none
    | _, _ => none
  if pts.length < 4 then none
  else
    let pts := pts.drop (pts.length / 2)
    if pts.length < 3 then none
    else
      let start := (pts.head?.map (·.1)).getD 0
      let xs := pts.map fun p => p.1 - start
      let ys := pts.map (·.2)
      let mx := fmean xs
      let my := fmean ys
      let den := (xs.map fun x => (x - mx) ^ 2).sum
      if den = 0 then none
      else some ((List.zipWith (fun x y => (x - mx) * (y - my)) xs ys).sum / den * 60)

/-- Why a level is not sustained. -/
inductive Reason
  | lowRatio (ratio : ℚ)
  | rejected (records : Int)
  | unknownSlope
  | growing (slope : ℚ)
  deriving DecidableEq

/-- `reasons`. -/
def levelReasons (run : RunFiles) (s : StepRecord) : List Reason :=
  (if s.ratio < 99 / 100 then [.lowRatio s.ratio] else []) ++
  (if 0 < s.rejected then [.rejected s.rejected] else []) ++
  match backlogSlope run s.startedAt s.endedAt with
  | none => [.unknownSlope]
  | some slope => if 1 / 2 < slope then [.growing slope] else []

/-- The level the test prints as the maximum sustainable rate. -/
def throughputMaximum (run : RunFiles) : Option StepRecord :=
  match run.verdict with
  | none | some "" | some "PASS" =>
      lastPassing (fun s => (levelReasons run s).isEmpty) none run.steps
  | some _ => none

end AnalyticsTesting.Bench
