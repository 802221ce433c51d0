import AnalyticsTesting.Config.Value
import AnalyticsTesting.Generator.LoadGen

set_option autoImplicit false

/-! # The stop rule

`_should_stop` of `generator/src/main.py`, which `main` asks after every `run_step`, with the
`Metrics.snapshot` it reads. The rules are the profile's `stop_when` as the configuration leaves it,
an arbitrary document, so a rule may raise: its threshold is converted when it is needed, and only
then. The counters are integers, so their quotients are rounded once; the latencies are exact
rationals, as everywhere in `Metrics`. -/

namespace AnalyticsTesting.Generator

open Config (Value Py)

/-! ## The snapshot -/

/-- What `Metrics.snapshot` returns: the totals and what it derives from them. -/
structure Snapshot where
  totals : Totals
  durationSeconds : ℚ
  offeredRpsMean : ℚ
  acceptedRpsMean : ℚ
  rejectedRpsMean : ℚ
  latencyP50Ms : ℚ
  latencyP95Ms : ℚ
  latencyP99Ms : ℚ
  latencyMinMs : ℚ
  latencyMaxMs : ℚ
  successRate : ℚ
  deriving DecidableEq

/-- `snapshot`, `elapsed` seconds after `started_at`. -/
def Metrics.snapshot (m : Metrics) (elapsed : ℚ) : Snapshot :=
  let latencies := sortedLatencies m.allLatencies
  let duration := max (1 / 10 ^ 9) elapsed
  { totals := m.totals,
    durationSeconds := roundDigits duration 3,
    offeredRpsMean := m.totals.recordsOffered / duration,
    acceptedRpsMean := m.totals.recordsAccepted / duration,
    rejectedRpsMean := m.totals.recordsRejected / duration,
    latencyP50Ms := roundDigits (percentile latencies (1 / 2)) 3,
    latencyP95Ms := roundDigits (percentile latencies (95 / 100)) 3,
    latencyP99Ms := roundDigits (percentile latencies (99 / 100)) 3,
    latencyMinMs := roundDigits (latencies.headD 0) 3,
    latencyMaxMs := roundDigits (latencies.getLastD 0) 3,
    successRate := if m.totals.requestsSent = 0 then 0
                   else m.totals.requestsSuccess / m.totals.requestsSent }

/-! ## The rules -/

section StopRule

variable (fl : FloatFormat)

/-- `StepResult.accepted_ratio`. -/
def StepResult.acceptedRatio (r : StepResult) : Double :=
  if r.offered = 0 then .fin 0 else fl.round (r.accepted / r.offered)

/-- `float(rules[name])`. -/
def limitOf (rules : Value) (name : String) : Py Double := do
  (← rules.getItem name).toFloat fl

/-- One rule: `name in rules and applies`, and then `test(float(rules[name]))`. -/
def ruleFires (rules : Value) (name : String) (applies : Bool) (test : Double → Bool) :
    Py Bool := do
  if (← rules.contains name) && applies then return test (← limitOf fl rules name)
  else return false

/-- The `accepted_ratio_below` rule. -/
def acceptedRatioBelow (rules : Value) (result : StepResult) : Py Bool :=
  ruleFires fl rules "accepted_ratio_below" (result.offered ≠ 0)
    fun limit => (result.acceptedRatio fl).lt limit

/-- The `error_rate_above` rule. -/
def errorRateAbove (rules : Value) (result : StepResult) : Py Bool :=
  ruleFires fl rules "error_rate_above" (result.requests ≠ 0)
    fun limit => limit.lt (fl.round (result.failures / result.requests))

/-- The `latency_p99_ms_above` rule. -/
def latencyP99Above (rules : Value) (metrics : Metrics) (elapsed : ℚ) : Py Bool :=
  ruleFires fl rules "latency_p99_ms_above" true
    fun limit => limit.lt (.fin (metrics.snapshot elapsed).latencyP99Ms)

/-- `_should_stop`. -/
def shouldStop (stopWhen : Value) (result : StepResult) (metrics : Metrics) (elapsed : ℚ) :
    Py Bool := do
  let rules := stopWhen.orElse (.dict [])
  if !rules.truthy then return false
  else if ← acceptedRatioBelow fl rules result then return true
  else if ← errorRateAbove fl rules result then return true
  else latencyP99Above fl rules metrics elapsed

end StopRule

end AnalyticsTesting.Generator
