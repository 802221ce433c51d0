import AnalyticsTesting.Lib.Rounding

set_option autoImplicit false

/-! # Generator metrics

`generator/src/metrics.py`: the cumulative counters, the window of the 1 Hz sampler and the
in-flight gauge. Every method body that the source runs under `Metrics._lock` is one function
here. Times are exact rationals; the two sums of `record_stall` can be taken in floats too. The
Prometheus mirror of the counters is in `PromMetrics`. -/

namespace AnalyticsTesting.Generator

/-- `percentile`: nearest rank. Empty input is 0, not an exception. -/
def percentile (sortedValues : List ℚ) (q : ℚ) : ℚ :=
  match sortedValues with
  | [] => 0
  | [v] => v
  | vs =>
      let rank := max 1 (min (vs.length : Int) (roundHalfEven (q * vs.length + 1 / 2)))
      vs.getD (rank - 1).toNat 0

/-- `sorted(latencies)`. -/
def sortedLatencies (latencies : List ℚ) : List ℚ := latencies.mergeSort (fun a b => decide (a ≤ b))

/-- `counts[code] = counts.get(code, 0) + 1`. -/
def countCode (code : String) : List (String × Nat) → List (String × Nat)
  | [] => [(code, 1)]
  | (c, n) :: rest => if c = code then (c, n + 1) :: rest else (c, n) :: countCode code rest

/-- `Totals`: the counters, cumulative or of one window. -/
structure Totals where
  requestsSent : Nat := 0
  requestsSuccess : Nat := 0
  requestsFailed : Nat := 0
  recordsOffered : Nat := 0
  recordsAccepted : Nat := 0
  recordsRejected : Nat := 0
  failedResourceExhausted : Nat := 0
  failedDeadline : Nat := 0
  failedUnavailable : Nat := 0
  failedUnauthenticated : Nat := 0
  failedOther : Nat := 0
  bytesSent : Nat := 0
  stalledMs : ℚ := 0
  errorsByCode : List (String × Nat) := []
  deriving DecidableEq

/-- One line of `generator.jsonl`. -/
structure Sample where
  ts : ℚ
  iso : String
  testId : String
  stepIndex : Nat
  stepTargetRps : ℚ
  offeredRps : ℚ
  acceptedRps : ℚ
  rejectedRps : ℚ
  requestsSent : Nat
  requestsSuccess : Nat
  requestsFailed : Nat
  failedResourceExhausted : Nat
  bytesSent : Nat
  inflight : Int
  stalledMs : ℚ
  latencyP50Ms : ℚ
  latencyP95Ms : ℚ
  latencyP99Ms : ℚ
  latencyMaxMs : ℚ
  cumRecordsOffered : Nat
  cumRecordsAccepted : Nat
  cumRecordsRejected : Nat
  deriving DecidableEq

/-- `Metrics`. `samples` are the lines `_flush_sample` has written. -/
structure Metrics where
  testId : String
  sampleInterval : ℚ
  totals : Totals := {}
  windowLatencies : List ℚ := []
  window : Totals := {}
  allLatencies : List ℚ := []
  inflight : Int := 0
  stepIndex : Nat := 0
  stepRps : ℚ := 0
  samples : List Sample := []
  deriving DecidableEq

/-- The code the collector's backpressure is reported with. -/
def resourceExhausted : String := "RESOURCE_EXHAUSTED"

namespace Totals

/-- Both `totals` and `_window` count an offered batch the same way. -/
def offer (t : Totals) (records nbytes : Nat) : Totals :=
  { t with recordsOffered := t.recordsOffered + records, bytesSent := t.bytesSent + nbytes }

def succeed (t : Totals) (records : Nat) : Totals :=
  { t with requestsSent := t.requestsSent + 1, requestsSuccess := t.requestsSuccess + 1,
           recordsAccepted := t.recordsAccepted + records }

/-- What a failed request adds to the cumulative counters: the failure, its code, and the counter
    of the branch its code takes. -/
def fail (t : Totals) (records : Nat) (code : String) : Totals :=
  let t := { t with requestsSent := t.requestsSent + 1, requestsFailed := t.requestsFailed + 1,
                    errorsByCode := countCode code t.errorsByCode }
  if code = resourceExhausted then
    { t with recordsRejected := t.recordsRejected + records,
             failedResourceExhausted := t.failedResourceExhausted + 1 }
  else if code = "DEADLINE_EXCEEDED" then { t with failedDeadline := t.failedDeadline + 1 }
  else if code = "UNAVAILABLE" then { t with failedUnavailable := t.failedUnavailable + 1 }
  else if code = "UNAUTHENTICATED" then
    { t with failedUnauthenticated := t.failedUnauthenticated + 1 }
  else { t with failedOther := t.failedOther + 1 }

/-- The window counts the failure and its rejection only. -/
def failWindow (t : Totals) (records : Nat) (code : String) : Totals :=
  let t := { t with requestsSent := t.requestsSent + 1, requestsFailed := t.requestsFailed + 1 }
  if code = resourceExhausted then
    { t with recordsRejected := t.recordsRejected + records,
             failedResourceExhausted := t.failedResourceExhausted + 1 }
  else t

end Totals

namespace Metrics

/-- `Metrics.__init__`. -/
def init (testId : String) (sampleInterval : ℚ) : Metrics :=
  { testId, sampleInterval := max (1 / 10) sampleInterval }

/-- `set_step`. -/
def setStep (m : Metrics) (index : Nat) (rps : ℚ) : Metrics :=
  { m with stepIndex := index, stepRps := rps }

/-- `record_offered`. -/
def recordOffered (m : Metrics) (records nbytes : Nat) : Metrics :=
  { m with totals := m.totals.offer records nbytes, window := m.window.offer records nbytes }

/-- `record_inflight`. -/
def recordInflight (m : Metrics) (delta : Int) : Metrics :=
  { m with inflight := m.inflight + delta }

/-- `record_stall`; `rnd` rounds what is stored. -/
def recordStallIn (rnd : ℚ → ℚ) (m : Metrics) (seconds : ℚ) : Metrics :=
  let ms := rnd (seconds * 1000)
  { m with
    totals := { m.totals with stalledMs := rnd (m.totals.stalledMs + ms) },
    window := { m.window with stalledMs := rnd (m.window.stalledMs + ms) } }

/-- `record_stall` in exact arithmetic. -/
def recordStall (m : Metrics) (seconds : ℚ) : Metrics := m.recordStallIn id seconds

/-- `record_success`. -/
def recordSuccess (m : Metrics) (records : Nat) (latencyS : ℚ) : Metrics :=
  { m with totals := m.totals.succeed records, window := m.window.succeed records,
           windowLatencies := m.windowLatencies ++ [latencyS * 1000],
           allLatencies := m.allLatencies ++ [latencyS * 1000] }

/-- `record_failure`. -/
def recordFailure (m : Metrics) (records : Nat) (latencyS : ℚ) (code : String) : Metrics :=
  { m with totals := m.totals.fail records code, window := m.window.failWindow records code,
           windowLatencies := m.windowLatencies ++ [latencyS * 1000],
           allLatencies := m.allLatencies ++ [latencyS * 1000] }

/-- `_flush_sample`, at wall-clock time `ts`, which the source also renders as `iso`. -/
def flushSample (m : Metrics) (ts : ℚ) (iso : String) : Metrics :=
  let latencies := sortedLatencies m.windowLatencies
  let sample : Sample :=
    { ts, iso, testId := m.testId, stepIndex := m.stepIndex, stepTargetRps := m.stepRps,
      offeredRps := m.window.recordsOffered / m.sampleInterval,
      acceptedRps := m.window.recordsAccepted / m.sampleInterval,
      rejectedRps := m.window.recordsRejected / m.sampleInterval,
      requestsSent := m.window.requestsSent,
      requestsSuccess := m.window.requestsSuccess,
      requestsFailed := m.window.requestsFailed,
      failedResourceExhausted := m.window.failedResourceExhausted,
      bytesSent := m.window.bytesSent,
      inflight := m.inflight,
      stalledMs := roundDigits m.window.stalledMs 3,
      latencyP50Ms := roundDigits (percentile latencies (1 / 2)) 3,
      latencyP95Ms := roundDigits (percentile latencies (95 / 100)) 3,
      latencyP99Ms := roundDigits (percentile latencies (99 / 100)) 3,
      latencyMaxMs := roundDigits (latencies.getLastD 0) 3,
      cumRecordsOffered := m.totals.recordsOffered,
      cumRecordsAccepted := m.totals.recordsAccepted,
      cumRecordsRejected := m.totals.recordsRejected }
  { m with window := {}, windowLatencies := [], samples := m.samples ++ [sample] }

end Metrics

/-! ## What the operations leave alone, and what the counters add up to -/

namespace Totals

@[simp] theorem fail_requestsSent (t : Totals) (records : Nat) (code : String) :
    (t.fail records code).requestsSent = t.requestsSent + 1 := by
  unfold fail; repeat' split
  all_goals rfl

@[simp] theorem fail_requestsSuccess (t : Totals) (records : Nat) (code : String) :
    (t.fail records code).requestsSuccess = t.requestsSuccess := by
  unfold fail; repeat' split
  all_goals rfl

@[simp] theorem fail_requestsFailed (t : Totals) (records : Nat) (code : String) :
    (t.fail records code).requestsFailed = t.requestsFailed + 1 := by
  unfold fail; repeat' split
  all_goals rfl

@[simp] theorem fail_recordsOffered (t : Totals) (records : Nat) (code : String) :
    (t.fail records code).recordsOffered = t.recordsOffered := by
  unfold fail; repeat' split
  all_goals rfl

@[simp] theorem fail_recordsAccepted (t : Totals) (records : Nat) (code : String) :
    (t.fail records code).recordsAccepted = t.recordsAccepted := by
  unfold fail; repeat' split
  all_goals rfl

/-- Rejection is `RESOURCE_EXHAUSTED` and nothing else. -/
@[simp] theorem fail_recordsRejected (t : Totals) (records : Nat) (code : String) :
    (t.fail records code).recordsRejected
      = t.recordsRejected + if code = resourceExhausted then records else 0 := by
  unfold fail; repeat' split
  all_goals rfl

/-- Requests that failed for another reason than rejection. -/
def failedNotRejected (t : Totals) : Nat :=
  t.failedDeadline + t.failedUnavailable + t.failedUnauthenticated + t.failedOther

/-- Each failed request is counted by exactly one of the failure counters. -/
@[simp] theorem fail_failedNotRejected (t : Totals) (records : Nat) (code : String) :
    (t.fail records code).failedNotRejected
      = t.failedNotRejected + if code = resourceExhausted then 0 else 1 := by
  unfold fail failedNotRejected; repeat' split
  all_goals simp_all
  all_goals omega

end Totals

end AnalyticsTesting.Generator
