import AnalyticsTesting.Generator.StopRule
import AnalyticsTesting.Lib.Selection

set_option autoImplicit false

/-! # The stress test

`tests/stress/run.sh`: the levels of load up to the one at which something gives.
What the generator's `generator.json` says after each level, the processor time of its host and the
answers of `/health` are the input. The numbers that `awk` and the programs between the lines
compute are exact rationals, as everywhere in `Metrics`. Of the summary only the peak is here. -/

namespace AnalyticsTesting.Tests

/-- The services that are asked for their health. -/
inductive Role
  | collector
  | compactor
  deriving DecidableEq

def Role.text : Role → String
  | .collector => "collector"
  | .compactor => "compactor"

/-- What a level leaves behind. -/
structure Outcome where
  /-- The totals of `generator.json`, if it is there. -/
  result : Option Generator.Snapshot
  generatorCpu : ℚ
  answers : Role → Bool

/-- A line of `levels.jsonl`. -/
structure Level where
  rate : Int
  offered : Int
  accepted : Int
  rejected : Nat
  p99Ms : Int
  errorPct : ℚ
  stalledPct : ℚ
  generatorCpu : ℚ
  deriving DecidableEq

/-- The options `--start`, `--step` and `--max`. -/
structure StressArgs where
  start : Int := 10000
  step : Int := 10000
  maxr : Int := 60000

/-- `stop_reason`. -/
inductive StopReason
  | maximum
  | noResult (rate : Int)
  | rejecting (rate : Int)
  | errorRate (errPct : ℚ) (rate : Int)
  | latency (p99 : Int) (rate : Int)
  | plateau (prevAccepted accepted step : Int)
  | stoppedResponding (role : Role) (rate : Int)
  deriving DecidableEq

/-- Its text. -/
def StopReason.text : StopReason → String
  | .maximum => "reached the configured maximum"
  | .noResult rate => s!"the generator produced no result at {rate} rec/s"
  | .rejecting rate => s!"the collector started rejecting (RESOURCE_EXHAUSTED) at {rate} rec/s"
  | .errorRate errPct rate => s!"error rate reached {formatFixed errPct 2}% at {rate} rec/s"
  | .latency p99 rate => s!"p99 latency reached {p99}ms at {rate} rec/s"
  | .plateau prevAccepted accepted step =>
      s!"throughput plateaued: accepted rose from {prevAccepted} to {accepted} " ++
        s!"while offered rose by {step}"
  | .stoppedResponding role rate => s!"{role.text} stopped responding at {rate} rec/s"

/-- How the script leaves the loop. -/
inductive Ending
  | stopped (reason : StopReason)
  /-- `awk` divides by a duration of zero milliseconds, and `set -e` ends the script. -/
  | aborted
  deriving DecidableEq

/-! ## One level -/

/-- `max(1e-9, t["duration_seconds"])`. -/
def levelDuration (t : Generator.Snapshot) : ℚ := max (1 / 10 ^ 9) t.durationSeconds

/-- The line of a level; `none` where `stall_pct` is a division by zero. -/
def readLevel (rate : Int) (t : Generator.Snapshot) (generatorCpu : ℚ) : Option Level :=
  let dur := levelDuration t
  let sent := max 1 t.totals.requestsSent
  let durMs := roundHalfEven (dur * 1000)
  if durMs = 0 then none
  else some
    { rate := rate,
      offered := roundHalfEven (t.totals.recordsOffered / dur),
      accepted := roundHalfEven (t.totals.recordsAccepted / dur),
      rejected := t.totals.recordsRejected,
      p99Ms := roundHalfEven t.latencyP99Ms,
      errorPct := roundDigits (100 * t.totals.requestsFailed / sent) 2,
      stalledPct := roundDigits (100 * roundHalfEven t.totals.stalledMs / durMs) 1,
      generatorCpu := generatorCpu }

/-- The stop conditions, in their order. -/
def stopCheck (step prevAccepted : Int) (level : Level) (answers : Role → Bool) :
    Option StopReason :=
  if 0 < level.rejected then some (.rejecting level.rate)
  else if 5 < level.errorPct then some (.errorRate level.errorPct level.rate)
  else if 60000 < level.p99Ms then some (.latency level.p99Ms level.rate)
  else if 0 < prevAccepted ∧ (level.accepted : ℚ) < prevAccepted * (105 / 100) then
    some (.plateau prevAccepted level.accepted step)
  else if answers .collector = false then some (.stoppedResponding .collector level.rate)
  else if answers .compactor = false then some (.stoppedResponding .compactor level.rate)
  else none

/-! ## The loop -/

section Stress

variable (args : StressArgs) (outcomes : Nat → Outcome)

/-- The loop from its `k`-th level on, with `rate` and `prev_accepted`; `none` where it is still
    going after `fuel` turns. -/
def stressLoop : (fuel k : Nat) → (rate prevAccepted : Int) → Option (List Level × Ending)
  | 0, _, _, _ => none
  | fuel + 1, k, rate, prevAccepted =>
      if rate ≤ args.maxr then
        match (outcomes k).result with
        | none => some ([], .stopped (.noResult rate))
        | some t =>
            match readLevel rate t (outcomes k).generatorCpu with
            | none => some ([], .aborted)
            | some level =>
                match stopCheck args.step prevAccepted level (outcomes k).answers with
                | some reason => some ([level], .stopped reason)
                | none =>
                    (stressLoop fuel (k + 1) (rate + args.step) level.accepted).map
                      fun (levels, ending) => (level :: levels, ending)
      else some ([], .stopped .maximum)

/-- `levels.jsonl` and `stop_reason`. -/
def stress (fuel : Nat) : Option (List Level × Ending) :=
  stressLoop args outcomes fuel 0 args.start 0

end Stress

/-- `peak`, in the summary. -/
def peakLevel (levels : List Level) : Option Level :=
  Selection.firstMax (fun _ => true) (·.accepted) levels

end AnalyticsTesting.Tests
