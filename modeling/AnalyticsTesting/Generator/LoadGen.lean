import AnalyticsTesting.Lib.Transition
import AnalyticsTesting.Generator.Payload
import AnalyticsTesting.Generator.Metrics

set_option autoImplicit false

/-! # The open-loop load engine

`generator/src/loadgen.py` together with the step loop of `generator/src/main.py` that drives it:
the main thread (the step loop, `run_step` with its pacer, `_drain_inflight`, `stop`), the worker
threads, the signal handler and the sampler, interleaved one atomic statement at a time.

An atomic statement is what the source does under one lock, one call on a thread-safe object
(`queue.get`, `put`, `empty`, `Event.set`), one read or write of a shared attribute, or one record
of `stamp`. `MainPc` and `WorkerPc` are the program counters between these statements, with the
local variables that are live there. Whatever the program does not decide itself is in the
`Action`: which thread moves, what a clock shows, what the exporter answers and when the request is
serialized. Monotonic readings never decrease, and `Event.wait(d)` returns before `d` only if the
event is set. Times and rates are exact rationals.

The `log…` fields of `State` are history: no statement reads them. -/

namespace AnalyticsTesting.Generator

variable {η : Type} [SeqHandle η]

/-! ## Data -/

/-- `config.Step`: hold `rps` for `durationSeconds`. -/
structure Step where
  index : Nat
  rps : ℚ
  durationSeconds : ℚ
  deriving DecidableEq

/-- `StepResult`. -/
structure StepResult where
  index : Nat
  targetRps : ℚ
  durationSeconds : ℚ
  startedAt : ℚ
  endedAt : ℚ
  offered : Nat := 0
  accepted : Nat := 0
  rejected : Nat := 0
  requests : Nat := 0
  failures : Nat := 0
  stalledMs : ℚ := 0
  seqStart : Nat := 0
  seqEnd : Int := 0
  errorsByCode : List (String × Nat) := []
  deriving DecidableEq

/-- `_WorkItem`. -/
structure WorkItem where
  seqStart : Nat
  recordCount : Nat
  nbytes : Nat
  /-- Which of the owning worker's private templates to use. -/
  variant : Nat
  deriving DecidableEq

/-- `otlp_client.ExportResult`. -/
structure ExportResult where
  ok : Bool
  latencyS : ℚ
  code : String := "OK"
  detail : String := ""
  retryAfterS : ℚ := 0
  deriving DecidableEq

/-- How `exporter.export` ends: with a result (an ack or any gRPC error), or with an exception that
    is not an `RpcError`. -/
inductive Outcome
  | result (r : ExportResult)
  | raised
  deriving DecidableEq

/-- A `LoadGenerator` whose constructor returned: the settings it reads, its factory, and the
    pool-size check. -/
structure LoadGenerator (η : Type) [SeqHandle η] where
  batchSize : Nat
  workers : Nat
  maxInflight : Nat
  retryMode : String
  abortOnConsecutiveFailures : Int
  rpcTimeoutSeconds : ℚ
  factory : PayloadFactory η
  metrics : Metrics
  pool_ok : workers * factory.variantsPerWorker ≤ factory.templates.length

namespace LoadGenerator

/-- `LoadGenerator.__init__`; `none` where it raises `ValueError`. -/
def init (batchSize workers maxInflight : Nat) (retryMode : String)
    (abortOnConsecutiveFailures : Int) (rpcTimeoutSeconds : ℚ) (factory : PayloadFactory η)
    (metrics : Metrics) : Option (LoadGenerator η) :=
  if h : workers * factory.variantsPerWorker ≤ factory.templates.length then
    some { batchSize, workers, maxInflight, retryMode, abortOnConsecutiveFailures,
           rpcTimeoutSeconds, factory, metrics, pool_ok := h }
  else none

/-- `queue.Queue(maxsize=max(1, cfg.workload.max_inflight))`. -/
def queueCapacity (g : LoadGenerator η) : Nat := max 1 g.maxInflight

/-- What the constructor's check is for: there are no more workers than the pool was built for. -/
theorem workers_le (g : LoadGenerator η) : g.workers ≤ g.factory.workers := by
  have h := g.pool_ok
  rw [g.factory.length_templates] at h
  exact Nat.le_of_mul_le_mul_right h g.factory.variants_pos

end LoadGenerator

/-- The local variables of `run_step`. `result` is the position of its `StepResult` in
    `State.results`; the probe is the template whose counts size every item. -/
structure Frame where
  step : Step
  result : Nat
  interval : ℚ
  deadline : ℚ := 0
  nextSubmit : ℚ := 0
  variant : Nat := 0
  now : ℚ := 0
  probeRecordCount : Nat := 0
  probeBytes : Nat := 0
  deriving DecidableEq

/-- Where the main thread is. -/
inductive MainPc
  /-- In the step loop of `main`, between two `run_step` calls. -/
  | idle
  /-- `self._step = result`. -/
  | publish (f : Frame)
  /-- `self.metrics.set_step(step.index, step.rps)`. -/
  | announce (f : Frame)
  /-- `started = time.monotonic()` and the probe. -/
  | start (f : Frame)
  /-- `while not self._stop.is_set()`. -/
  | loop (f : Frame)
  /-- `self._stop.wait(min(sleep_for, 0.25))`. -/
  | sleep (f : Frame) (sleepFor : ℚ)
  /-- Take a sequence range under `_seq_lock`. -/
  | allocate (f : Frame)
  /-- `stall_started = time.monotonic()`. -/
  | stallStart (f : Frame) (item : WorkItem)
  /-- `while not self._stop.is_set() and time.monotonic() < deadline`. -/
  | mayPut (f : Frame) (item : WorkItem) (stallStarted : ℚ)
  /-- `self._queue.put(item, timeout=0.1)`. -/
  | put (f : Frame) (item : WorkItem) (stallStarted : ℚ)
  /-- `stalled = time.monotonic() - stall_started`. -/
  | measure (f : Frame) (item : WorkItem) (stallStarted : ℚ) (enqueued : Bool)
  /-- `self.metrics.record_stall(stalled)`. -/
  | recordStall (f : Frame) (item : WorkItem) (enqueued : Bool) (stalled : ℚ)
  /-- `result.stalled_ms += stalled * 1000.0`. -/
  | creditStall (f : Frame) (item : WorkItem) (enqueued : Bool) (stalled : ℚ)
  /-- Give the sequence range back. -/
  | giveBack (f : Frame) (item : WorkItem)
  /-- `self.metrics.record_offered(item.record_count, item.nbytes)`. -/
  | recordOffered (f : Frame) (item : WorkItem)
  /-- `result.offered += item.record_count`. -/
  | creditOffered (f : Frame) (item : WorkItem)
  /-- Advance the schedule and look at `_abort_reason`. -/
  | advance (f : Frame)
  /-- `end = time.monotonic() + deadline_s`. -/
  | drain (f : Frame)
  /-- `while time.monotonic() < end`. -/
  | drainHead (f : Frame) (until_ : ℚ)
  /-- `self._queue.empty()`. -/
  | drainQueue (f : Frame) (until_ : ℚ)
  /-- `self.metrics.inflight() == 0`. -/
  | drainInflight (f : Frame) (until_ : ℚ)
  /-- `_drain_inflight` has returned, because its condition held or by timing out. -/
  | finish (f : Frame) (drained : Bool)
  /-- `stop()`: `self._stop.set()`. `failed`: `run_step` has raised. -/
  | stopSet (failed : Bool)
  /-- `stop()`: `self._queue.put_nowait(None)` for the `k`-th worker. -/
  | stopPut (k : Nat) (failed : Bool)
  /-- `stop()`: `t.join(timeout)` for the `k`-th worker. -/
  | stopJoin (k : Nat) (failed : Bool)
  /-- The `finally` block of `main` is over. -/
  | closed (failed : Bool)
  deriving DecidableEq

/-- Where a worker is. -/
inductive WorkerPc
  /-- Blocked in `self._queue.get()`. -/
  | waiting
  /-- Dequeued; `template_for`, and `now_ns = time.time_ns()` in `stamp`. -/
  | got (item : WorkItem)
  /-- In the loop of `stamp`, `k` records done. -/
  | stamping (item : WorkItem) (nowNs k : Nat)
  /-- `self.metrics.record_inflight(1)`. -/
  | stamped (item : WorkItem)
  /-- About to call `self.exporter.export(worker_id, template.request)`. -/
  | calling (item : WorkItem)
  /-- Inside `export`; `sent` once the request is serialized. -/
  | exporting (item : WorkItem) (sent : Bool)
  /-- `self.metrics.record_inflight(-1)`. -/
  | returned (item : WorkItem) (outcome : Outcome)
  /-- `record_success` or `record_failure`. -/
  | released (item : WorkItem) (r : ExportResult)
  /-- `self._consecutive_failures = 0`. -/
  | resetFailures (item : WorkItem) (r : ExportResult)
  /-- Book the outcome in `self._step`, if there is one. -/
  | credit (item : WorkItem) (r : ExportResult)
  /-- `self._stop.wait(min(result.retry_after_s, 5.0))`. -/
  | backoff
  /-- The read of `self._consecutive_failures += 1`. -/
  | bumpRead (r : ExportResult)
  /-- The write of `self._consecutive_failures += 1`. -/
  | bumpWrite (r : ExportResult) (v : Nat)
  /-- The abort condition. -/
  | checkLimit (r : ExportResult)
  /-- `self._abort_reason = …`. -/
  | setAbort (r : ExportResult)
  /-- `self._stop.set()`. -/
  | setStop
  /-- `self._queue.task_done()`. -/
  | taskDone
  /-- The worker has taken a sentinel and returned. -/
  | exited
  deriving DecidableEq

/-- A request in the hands of the exporter. -/
structure Export where
  worker : Nat
  item : WorkItem
  request : ExportLogsServiceRequest
  deriving DecidableEq

/-- The state shared by the threads, and where each of them is. -/
structure State (η : Type) where
  /-- `_stop`. -/
  stop : Bool := false
  /-- `_queue`; `none` is the sentinel. -/
  queue : List (Option WorkItem) := []
  /-- `_next_seq`. -/
  nextSeq : Nat := 0
  /-- `_consecutive_failures`. -/
  consecutiveFailures : Nat := 0
  /-- `_abort_reason`. -/
  abortReason : Option String := none
  /-- `_step`: which of `results` it refers to. -/
  step : Option Nat := none
  /-- Every `StepResult` made, in the order of the `run_step` calls. -/
  results : List StepResult := []
  metrics : Metrics
  /-- The template pool, stamped in place. -/
  templates : List (RequestTemplate η)
  main : MainPc := .idle
  workers : List WorkerPc
  /-- The steps `main` has not run yet. -/
  plan : List Step
  /-- `interrupted["value"]`. -/
  interrupted : Bool := false
  /-- The latest monotonic reading. -/
  clock : ℚ := 0
  /-- Items put into the queue, each with the step it was put by. -/
  logEnqueued : List (WorkItem × Nat) := []
  /-- Requests handed to `exporter.export`, as they were at the call. -/
  logExports : List Export := []
  /-- Requests serialized, as they were at that moment. -/
  logWire : List Export := []
  /-- Outcomes booked in `metrics`. -/
  logRecorded : List (WorkItem × ExportResult) := []
  /-- Outcomes that reached the step accounting, with the step they were booked in. -/
  logCredited : List (WorkItem × ExportResult × Option Nat) := []
  /-- Items dropped because `stamp` raised. -/
  logUnstamped : List WorkItem := []
  /-- Items dropped because `export` raised. -/
  logRaised : List WorkItem := []

/-- What moves, and what the environment answers. -/
inductive Action
  /-- The main thread takes its next statement; `t` and `wall` are what `time.monotonic()` and
      `time.time()` show if it reads them. -/
  | main (t wall : ℚ)
  /-- `main` leaves its step loop: interrupted, a stop rule, or no step left. -/
  | leave
  /-- SIGINT or SIGTERM. -/
  | signal
  /-- The sampler, or the final flush of `stop_sampler`. -/
  | sample (ts : ℚ) (iso : String)
  /-- Worker `w` takes its next statement. -/
  | worker (w : Nat)
  /-- Worker `w` reads the wall clock in `stamp`. -/
  | workerNow (w nowNs : Nat)
  /-- gRPC serializes the request worker `w` has handed over. -/
  | serialize (w : Nat)
  /-- The export call of worker `w` ends. -/
  | exportReturns (w : Nat) (outcome : Outcome)
  deriving DecidableEq

/-! ## The statements of the main thread -/

/-- `batches_per_second` and `interval` at the head of `run_step`; `none` where it raises. -/
def stepInterval (rps : ℚ) (batch : Nat) : Option ℚ :=
  if batch = 0 then none
  else if rps / batch ≤ 0 then none
  else some (1 / (rps / batch))

/-- After the stall is booked: give back what was not enqueued, count what was. -/
def afterStall (f : Frame) (item : WorkItem) (enqueued : Bool) : MainPc :=
  if enqueued then .recordOffered f item else .giveBack f item

/-- Update one of the `StepResult` objects. -/
def State.modifyResult (s : State η) (i : Nat) (upd : StepResult → StepResult) : State η :=
  { s with results := s.results.modify i upd }

/-- `_next_seq` moves on by one batch, and the range becomes a work item. -/
def State.allocate (g : LoadGenerator η) (s : State η) (f : Frame) : State η :=
  let item : WorkItem := ⟨s.nextSeq, f.probeRecordCount, f.probeBytes, f.variant⟩
  let f := { f with variant := (f.variant + 1) % g.factory.variantsPerWorker }
  { s with nextSeq := s.nextSeq + g.batchSize, main := .stallStart f item }

/-- The schedule advances by exactly one interval; more than a second behind, it is re-anchored. -/
def Frame.advance (f : Frame) : Frame :=
  let next := f.nextSubmit + f.interval
  { f with nextSubmit := if next < f.now - 1 then f.now else next }

/-- The end of `run_step`, under `_step_lock` and `_seq_lock`. -/
def StepResult.close (r : StepResult) (endedAt : ℚ) (nextSeq : Nat) : StepResult :=
  { r with endedAt, seqEnd := max (r.seqStart : Int) ((nextSeq : Int) - 1) }

/-- The next statement of the main thread. -/
def mainStep (g : LoadGenerator η) (s : State η) (t wall : ℚ) : Option (State η) :=
  -- monotonic readings never decrease
  if t < s.clock then none else
  match s.main with
  | .idle =>
      if s.interrupted then none else
      match s.plan with
      | [] => none
      | step :: rest =>
          match stepInterval step.rps g.batchSize with
          | none => some { s with plan := rest, main := .stopSet true }
          | some interval =>
              let result : StepResult :=
                { index := step.index, targetRps := step.rps,
                  durationSeconds := step.durationSeconds, startedAt := wall, endedAt := 0,
                  seqStart := s.nextSeq }
              some { s with plan := rest, results := s.results ++ [result],
                            main := .publish { step, result := s.results.length, interval } }
  | .publish f => some { s with step := some f.result, main := .announce f }
  | .announce f => some { s with metrics := s.metrics.setStep f.step.index f.step.rps,
                                 main := .start f }
  | .start f =>
      (g.factory.templateFor 0 0).map fun probe =>
        { s with clock := t,
                 main := .loop { f with deadline := t + f.step.durationSeconds, nextSubmit := t,
                                        variant := 0, probeRecordCount := probe.recordCount,
                                        probeBytes := probe.approxBytes } }
  | .loop f =>
      if s.stop then some { s with main := .drain f }
      else if f.deadline ≤ t then some { s with clock := t, main := .drain { f with now := t } }
      else if 0 < f.nextSubmit - t then
        some { s with clock := t, main := .sleep { f with now := t } (f.nextSubmit - t) }
      else some { s with clock := t, main := .allocate { f with now := t } }
  | .sleep f sleepFor =>
      if s.stop then some { s with main := .drain f }
      -- `wait` does not return before its time
      else if t < s.clock + min sleepFor (1 / 4) then none
      else if 1 / 4 < sleepFor then some { s with clock := t, main := .loop f }
      else some { s with clock := t, main := .allocate f }
  | .allocate f => some (s.allocate g f)
  | .stallStart f item => some { s with clock := t, main := .mayPut f item t }
  | .mayPut f item stallStarted =>
      if s.stop then some { s with main := .measure f item stallStarted false }
      else if t < f.deadline then some { s with clock := t, main := .put f item stallStarted }
      else some { s with clock := t, main := .measure f item stallStarted false }
  | .put f item stallStarted =>
      if s.queue.length < g.queueCapacity then
        some { s with queue := s.queue ++ [some item],
                      logEnqueued := s.logEnqueued ++ [(item, f.result)],
                      main := .measure f item stallStarted true }
      else some { s with clock := t, main := .mayPut f item stallStarted }
  | .measure f item stallStarted enqueued =>
      if 1 / 1000 < t - stallStarted then
        some { s with clock := t, main := .recordStall f item enqueued (t - stallStarted) }
      else some { s with clock := t, main := afterStall f item enqueued }
  | .recordStall f item enqueued stalled =>
      some { s with metrics := s.metrics.recordStall stalled,
                    main := .creditStall f item enqueued stalled }
  | .creditStall f item enqueued stalled =>
      some { s.modifyResult f.result
               (fun r => { r with stalledMs := r.stalledMs + stalled * 1000 }) with
             main := afterStall f item enqueued }
  | .giveBack f item =>
      some { s with nextSeq := if s.nextSeq = item.seqStart + g.batchSize then item.seqStart
                               else s.nextSeq,
                    main := .drain f }
  | .recordOffered f item =>
      some { s with metrics := s.metrics.recordOffered item.recordCount item.nbytes,
                    main := .creditOffered f item }
  | .creditOffered f item =>
      some { s.modifyResult f.result (fun r => { r with offered := r.offered + item.recordCount })
             with main := .advance f }
  | .advance f =>
      if s.abortReason.isSome then some { s with main := .drain f.advance }
      else some { s with main := .loop f.advance }
  | .drain f => some { s with clock := t, main := .drainHead f (t + (g.rpcTimeoutSeconds + 10)) }
  | .drainHead f until_ =>
      if t < until_ then some { s with clock := t, main := .drainQueue f until_ }
      else some { s with clock := t, main := .finish f false }
  | .drainQueue f until_ =>
      if s.queue.isEmpty then some { s with main := .drainInflight f until_ }
      else some { s with main := .drainHead f until_ }
  | .drainInflight f until_ =>
      if s.metrics.inflight = 0 then some { s with main := .finish f true }
      else some { s with main := .drainHead f until_ }
  | .finish f _ =>
      some { s.modifyResult f.result (fun r => r.close wall s.nextSeq) with
             step := none, main := .idle }
  | .stopSet failed => some { s with stop := true, main := .stopPut 0 failed }
  | .stopPut k failed =>
      if k < s.workers.length then
        some { s with queue := if s.queue.length < g.queueCapacity then s.queue ++ [none]
                               else s.queue,
                      main := .stopPut (k + 1) failed }
      else some { s with main := .stopJoin 0 failed }
  | .stopJoin k failed =>
      if k < s.workers.length then some { s with main := .stopJoin (k + 1) failed }
      else some { s with main := .closed failed }
  | .closed _ => none

/-! ## The statements of a worker -/

/-- Book an outcome in a `StepResult`: `_send` on success, `_record_failure` otherwise. -/
def StepResult.credit (r : StepResult) (item : WorkItem) (e : ExportResult) : StepResult :=
  if e.ok then { r with accepted := r.accepted + item.recordCount, requests := r.requests + 1 }
  else { r with requests := r.requests + 1, failures := r.failures + 1,
                errorsByCode := countCode e.code r.errorsByCode,
                rejected := if e.code = resourceExhausted then r.rejected + item.recordCount
                            else r.rejected }

/-- `with self._step_lock: if self._step: …`: without a current step the outcome is dropped. -/
def State.credit (s : State η) (item : WorkItem) (e : ExportResult) : State η :=
  { s with
    results := match s.step with
      | none => s.results
      | some i => s.results.modify i fun r => r.credit item e,
    logCredited := s.logCredited ++ [(item, e, s.step)] }

/-- Where a worker goes once the outcome is booked. -/
def afterCredit (g : LoadGenerator η) (e : ExportResult) : WorkerPc :=
  if e.ok then .taskDone
  else if e.code = resourceExhausted then
    if g.retryMode = "polite" ∧ 0 < e.retryAfterS then .backoff else .taskDone
  else .bumpRead e

/-- `limit and self._consecutive_failures >= limit and not self._abort_reason`. -/
def State.shouldAbort (g : LoadGenerator η) (s : State η) : Bool :=
  g.abortOnConsecutiveFailures ≠ 0 ∧ g.abortOnConsecutiveFailures ≤ s.consecutiveFailures ∧
    s.abortReason.isNone

/-- The text of `_abort_reason`. -/
def abortMessage (failures : Nat) (r : ExportResult) : String :=
  toString failures ++ " consecutive failures, last=" ++ r.code ++ ": " ++ r.detail

/-- The next statement of worker `w`, which is at `pc`: the new shared state and where the worker
    is then. Calls that the environment ends have their own functions below. -/
def workerStep (g : LoadGenerator η) (s : State η) (w : Nat) :
    WorkerPc → Option (State η × WorkerPc)
  | .waiting =>
      match s.queue with
      | [] => none
      | none :: queue => some ({ s with queue }, .exited)
      | some item :: queue => some ({ s with queue }, .got item)
  | .stamping item nowNs k =>
      let i := g.factory.templateIndex w item.variant
      match s.templates[i]? with
      | none => none
      | some template =>
          if k < min template.seqValues.length template.request.logRecords.length then
            match template.stampRecord k (item.seqStart + k) nowNs with
            | some template => some ({ s with templates := s.templates.set i template },
                .stamping item nowNs (k + 1))
            -- protobuf refuses the number: the exception ends `_send`
            | none => some ({ s with logUnstamped := s.logUnstamped ++ [item] }, .taskDone)
          else some (s, .stamped item)
  | .stamped item => some ({ s with metrics := s.metrics.recordInflight 1 }, .calling item)
  | .calling item =>
      (s.templates[g.factory.templateIndex w item.variant]?).map fun template =>
        ({ s with logExports := s.logExports ++ [⟨w, item, template.request⟩] },
          .exporting item false)
  | .returned item outcome =>
      let s := { s with metrics := s.metrics.recordInflight (-1) }
      match outcome with
      | .raised => some ({ s with logRaised := s.logRaised ++ [item] }, .taskDone)
      | .result r => some (s, .released item r)
  | .released item r =>
      let s := { s with logRecorded := s.logRecorded ++ [(item, r)] }
      if r.ok then
        some ({ s with metrics := s.metrics.recordSuccess item.recordCount r.latencyS },
          .resetFailures item r)
      else
        some ({ s with metrics := s.metrics.recordFailure item.recordCount r.latencyS r.code },
          .credit item r)
  | .resetFailures item r => some ({ s with consecutiveFailures := 0 }, .credit item r)
  | .credit item r => some (s.credit item r, afterCredit g r)
  | .backoff => some (s, .taskDone)
  | .bumpRead r => some (s, .bumpWrite r s.consecutiveFailures)
  | .bumpWrite r v => some ({ s with consecutiveFailures := v + 1 }, .checkLimit r)
  | .checkLimit r => some (s, if s.shouldAbort g then .setAbort r else .taskDone)
  | .setAbort r => some ({ s with abortReason := some (abortMessage s.consecutiveFailures r) },
      .setStop)
  | .setStop => some ({ s with stop := true }, .taskDone)
  | .taskDone => some (s, .waiting)
  | .got _ | .exporting _ _ | .exited => none

/-- Where the wall clock is read in `stamp`. -/
def workerReadsClock (nowNs : Nat) : WorkerPc → Option WorkerPc
  | .got item => some (.stamping item nowNs 0)
  | _ => none

/-- The exporter serializes the request as the template then is; it does so before it returns. -/
def exporterSerializes (g : LoadGenerator η) (s : State η) (w : Nat) :
    WorkerPc → Option (State η × WorkerPc)
  | .exporting item false =>
      (s.templates[g.factory.templateIndex w item.variant]?).map fun template =>
        ({ s with logWire := s.logWire ++ [⟨w, item, template.request⟩] }, .exporting item true)
  | _ => none

/-- The export call ends. -/
def exporterReturns (outcome : Outcome) : WorkerPc → Option WorkerPc
  | .exporting item _ => some (.returned item outcome)
  | _ => none

/-! ## The system -/

/-- One step of the whole engine. -/
def engineStep (g : LoadGenerator η) (s : State η) : Action → Option (State η)
  | .main t wall => mainStep g s t wall
  | .leave =>
      match s.main with
      | .idle => some { s with main := .stopSet false }
      | _ => none
  | .signal => some { s with interrupted := true, stop := true }
  | .sample ts iso => some { s with metrics := s.metrics.flushSample ts iso }
  | .worker w => do
      let pc ← s.workers[w]?
      let (s', pc') ← workerStep g s w pc
      return { s' with workers := s.workers.set w pc' }
  | .workerNow w nowNs => do
      let pc ← s.workers[w]?
      let pc' ← workerReadsClock nowNs pc
      return { s with workers := s.workers.set w pc' }
  | .serialize w => do
      let pc ← s.workers[w]?
      let (s', pc') ← exporterSerializes g s w pc
      return { s' with workers := s.workers.set w pc' }
  | .exportReturns w outcome => do
      let pc ← s.workers[w]?
      let pc' ← exporterReturns outcome pc
      return { s with workers := s.workers.set w pc' }

/-- The engine after `start()`, with a plan to run. -/
def engineInit (g : LoadGenerator η) (plan : List Step) : State η :=
  { metrics := g.metrics, templates := g.factory.templates,
    workers := List.replicate g.workers .waiting, plan }

/-- The engine as a transition system. -/
def engine (g : LoadGenerator η) (plan : List Step) :
    Transition.System (State η) Action where
  init := engineInit g plan
  step := engineStep g

end AnalyticsTesting.Generator
