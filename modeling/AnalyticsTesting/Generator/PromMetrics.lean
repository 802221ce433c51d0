import AnalyticsTesting.Lib.Deferred
import AnalyticsTesting.Lib.Histogram
import AnalyticsTesting.Generator.LoadGen
import AnalyticsTesting.Generator.Proofs.SampleStream

set_option autoImplicit false

/-! # The Prometheus mirror

`generator/src/metrics.py`: `_PromMetrics`, and what each method of `Metrics` tells it. The source
does that after it has released `Metrics._lock`, one `inc`, `set` or `observe` after the other, so
other threads may move in between; `promEngine` is the engine of `LoadGen` with these calls
deferred. Each of them is atomic by itself.

This is a run with a `metrics_port` and the client library. Without one of them there is no mirror,
and the engine is as before. -/

namespace AnalyticsTesting.Generator

open Transition

variable {η : Type} [SeqHandle η]

/-- The buckets of `bench_generator_export_latency_seconds`. -/
def latencyBuckets : List ℚ :=
  [1 / 100, 25 / 1000, 5 / 100, 1 / 10, 25 / 100, 5 / 10, 1, 5 / 2, 5, 10, 30, 60, 120]

/-- `_PromMetrics`. -/
structure PromMetrics where
  offered : Nat := 0
  accepted : Nat := 0
  /-- By the label `result`. -/
  requests : String → Nat := fun _ => 0
  /-- By the label `code`. -/
  errors : String → Nat := fun _ => 0
  bytesSent : Nat := 0
  stalledMs : ℚ := 0
  inflight : Int := 0
  offeredRps : ℚ := 0
  acceptedRps : ℚ := 0
  rejectedRps : ℚ := 0
  latency : Histogram latencyBuckets := .empty latencyBuckets

/-- A call on one of its members. -/
inductive PromOp
  | offered (records : Nat)
  | accepted (records : Nat)
  | requests (result : String)
  | errors (code : String)
  | bytesSent (nbytes : Nat)
  | stalledMs (ms : ℚ)
  | inflight (delta : Int)
  | offeredRps (rps : ℚ)
  | acceptedRps (rps : ℚ)
  | rejectedRps (rps : ℚ)
  | latency (seconds : ℚ)
  deriving DecidableEq

/-- `.labels(…).inc()`. -/
def bump (label : String) (child : String → Nat) : String → Nat :=
  fun l => if l = label then child l + 1 else child l

def PromMetrics.apply (r : PromMetrics) : PromOp → PromMetrics
  | .offered records => { r with offered := r.offered + records }
  | .accepted records => { r with accepted := r.accepted + records }
  | .requests result => { r with requests := bump result r.requests }
  | .errors code => { r with errors := bump code r.errors }
  | .bytesSent nbytes => { r with bytesSent := r.bytesSent + nbytes }
  | .stalledMs ms => { r with stalledMs := r.stalledMs + ms }
  | .inflight delta => { r with inflight := r.inflight + delta }
  | .offeredRps rps => { r with offeredRps := rps }
  | .acceptedRps rps => { r with acceptedRps := rps }
  | .rejectedRps rps => { r with rejectedRps := rps }
  | .latency seconds => { r with latency := r.latency.observe seconds }

/-- The gauges of the last sample. -/
def PromOp.isRate : PromOp → Bool
  | .offeredRps _ | .acceptedRps _ | .rejectedRps _ => true
  | _ => false

/-- What a method of `Metrics` tells the mirror, in the order of its statements. `m` is the state in
    which the method had the lock. -/
def Metrics.promOps (m : Metrics) : MetricsCall → List PromOp
  | .setStep _ _ => []
  | .recordOffered records nbytes => [.offered records, .bytesSent nbytes]
  | .recordInflight delta => [.inflight delta]
  | .recordStall seconds => [.stalledMs (seconds * 1000)]
  | .recordSuccess records latencyS => [.requests "success", .accepted records, .latency latencyS]
  | .recordFailure _ latencyS code => [.requests "failure", .errors code, .latency latencyS]
  | .flushSample _ _ =>
      [.offeredRps (m.window.recordsOffered / m.sampleInterval),
        .acceptedRps (m.window.recordsAccepted / m.sampleInterval),
        .rejectedRps (m.window.recordsRejected / m.sampleInterval)]

/-- The call of `Metrics` that the statement is. -/
def metricsCall (s : State η) : Action → Option MetricsCall
  | .main _ _ =>
      match s.main with
      | .announce f => some (.setStep f.step.index f.step.rps)
      | .recordStall _ _ _ stalled => some (.recordStall stalled)
      | .recordOffered _ item => some (.recordOffered item.recordCount item.nbytes)
      | _ => none
  | .sample ts iso => some (.flushSample ts iso)
  | .worker w =>
      match s.workers[w]? with
      | some (.stamped _) => some (.recordInflight 1)
      | some (.returned _ _) => some (.recordInflight (-1))
      | some (.released item r) =>
          if r.ok then some (.recordSuccess item.recordCount r.latencyS)
          else some (.recordFailure item.recordCount r.latencyS r.code)
      | _ => none
  | _ => none

/-- The threads that call `Metrics`. -/
inductive Thread
  | main
  | worker (w : Nat)
  | sampler
  deriving DecidableEq

/-- Whose statement it is. The signal handler runs between any two statements of the main thread,
    also between those that talk to the mirror. -/
def Action.thread : Action → Option Thread
  | .main _ _ | .leave => some .main
  | .signal => none
  | .sample _ _ => some .sampler
  | .worker w | .workerNow w _ | .serialize w | .exportReturns w _ => some (.worker w)

/-- The engine and what its threads have to tell the mirror. -/
def promEngine (g : LoadGenerator η) (plan : List Step) :
    Deferring (State η) Action Thread PromOp PromMetrics where
  sys := engine g plan
  owner := Action.thread
  effects s a := ((metricsCall s a).map s.metrics.promOps).getD []
  apply := PromMetrics.apply
  store := {}

end AnalyticsTesting.Generator
