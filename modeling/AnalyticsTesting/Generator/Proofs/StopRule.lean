import AnalyticsTesting.Generator.Main
import AnalyticsTesting.Generator.StopRule
import Mathlib.Tactic.NormNum

set_option autoImplicit false

/-! # What the stop rule judges

`stop_when` is meant to be evaluated per step. Two of its rules read the step's own counters; the
third reads the 99th percentile of every latency since the process started. `judgesStepOnly_iff`
says which rule sets judge the latest step only: exactly those without a latency limit that a
percentile can be on either side of. For the others, two runs whose second steps are the same and
whose first steps differ in one latency are told apart. -/

namespace AnalyticsTesting.Generator

open Config (Value Py PyExc)
open Transition

/-! ## Decisions after a step -/

/-- What `config.load` checks of the settings and the steps that a run is launched with. -/
structure RunConfig.Accepted {ρ : Type} (cfg : RunConfig ρ) (plan : List Step) : Prop where
  rpcTimeout_pos : 0 < cfg.rpcTimeoutSeconds
  workers_le : cfg.workers ≤ cfg.maxInflight
  retryMode_mem : cfg.retryMode ∈ ["none", "polite"]
  plan_ne_nil : plan ≠ []
  index_eq : plan.map Step.index = List.range plan.length
  step_pos : ∀ step ∈ plan, 0 < step.rps ∧ 0 < step.durationSeconds

/-- gRPC acknowledges no call after its deadline. -/
def Action.ackedWithin (timeout : ℚ) : Action → Bool
  | .exportReturns _ (.result r) => !r.ok || r.latencyS ≤ timeout
  | _ => true

/-- In `s`, which a run of `g` reaches, the main thread is about to ask the stop rule about `r`, the
    result of the latest step; `latencies` are the ones booked since that step began. Latencies are
    differences of a monotonic clock. -/
def StepReturned {η : Type} [SeqHandle η] (g : LoadGenerator η) (plan : List Step) (r : StepResult)
    (latencies : List ℚ) (s : State η) : Prop :=
  ∃ before s₀ since,
    (engine g plan).run (engineInit g plan) before = some s₀ ∧ s₀.main = .idle ∧
    (engine g plan).run s₀ since = some s ∧ s.main = .idle ∧
    s.results.length = s₀.results.length + 1 ∧ s.results.getLast? = some r ∧
    s.metrics.allLatencies = s₀.metrics.allLatencies ++ latencies ∧
    (∀ x ∈ s.metrics.allLatencies, 0 ≤ x) ∧
    (before ++ since).all (Action.ackedWithin g.rpcTimeoutSeconds) = true

/-- The decision depends on the latest step alone: two runs, of whatever engines and plans that
    `config.load` accepts, that agree on its result and on its latencies get the same answer. -/
def JudgesStepOnly (fl : FloatFormat) (stopWhen : Value) : Prop :=
  ∀ ⦃ρ ρ' : Type⦄ ⦃cfg : RunConfig ρ⦄ ⦃cfg' : RunConfig ρ'⦄ ⦃g g' : LoadGenerator BenchSeq⦄
    ⦃plan plan' : List Step⦄ ⦃s s' : State BenchSeq⦄ ⦃r : StepResult⦄ ⦃latencies : List ℚ⦄,
    cfg.Accepted plan → cfg'.Accepted plan' →
    launch BenchSeq cfg = some g → launch BenchSeq cfg' = some g' →
    StepReturned g plan r latencies s → StepReturned g' plan' r latencies s' →
    ∀ elapsed elapsed' : ℚ,
      shouldStop fl stopWhen r s.metrics elapsed = shouldStop fl stopWhen r s'.metrics elapsed'

/-! ## The percentile -/

theorem percentile_nonneg {vs : List ℚ} (h : ∀ v ∈ vs, 0 ≤ v) (q : ℚ) : 0 ≤ percentile vs q := by
  unfold percentile
  split
  · exact le_rfl
  · next v => exact h v (by simp)
  · rw [List.getD_eq_getElem?_getD]
    cases hget : vs[(max 1 (min (vs.length : Int)
        (roundHalfEven (q * vs.length + 1 / 2))) - 1).toNat]? with
    | none => simp
    | some v => exact h v (List.mem_of_getElem? hget)

theorem latencyP99Ms_nonneg {m : Metrics} (h : ∀ x ∈ m.allLatencies, 0 ≤ x) (elapsed : ℚ) :
    0 ≤ (m.snapshot elapsed).latencyP99Ms := by
  refine roundDigits_nonneg 3 (percentile_nonneg (fun v hv => h v ?_) _)
  exact List.mem_mergeSort.1 hv

/-! ## Rules that no percentile decides -/

section Rules

variable {fl : FloatFormat} {rules : Value}

/-- A rule depends on its test at the limit alone. -/
theorem ruleFires_congr {name : String} {applies : Bool} {test test' : Double → Bool}
    (h : ∀ x, limitOf fl rules name = .ok x → test x = test' x) :
    ruleFires fl rules name applies test = ruleFires fl rules name applies test' := by
  unfold ruleFires
  cases hlimit : limitOf fl rules name with
  | error e => rfl
  | ok limit =>
      have heq := h limit hlimit
      simp only [bind, Except.bind, heq]

/-- A rule set without a limit that a percentile can be on either side of answers the same for all
    percentiles. -/
theorem latencyP99Above_congr
    (h : ∀ q, limitOf fl rules "latency_p99_ms_above" = .ok (.fin q) → q < 0) {m m' : Metrics}
    (hm : ∀ x ∈ m.allLatencies, 0 ≤ x) (hm' : ∀ x ∈ m'.allLatencies, 0 ≤ x)
    (elapsed elapsed' : ℚ) :
    latencyP99Above fl rules m elapsed = latencyP99Above fl rules m' elapsed' := by
  refine ruleFires_congr fun limit hlimit => ?_
  cases limit with
  | nan => rfl
  | inf negative => rfl
  | fin q =>
      have hq := h q hlimit
      have hlt : q < (m.snapshot elapsed).latencyP99Ms := hq.trans_le (latencyP99Ms_nonneg hm _)
      have hlt' : q < (m'.snapshot elapsed').latencyP99Ms :=
        hq.trans_le (latencyP99Ms_nonneg hm' _)
      simp [hlt, hlt']

/-- Only a dict has an item. -/
theorem exists_dict_of_limitOf {name : String} {x : Double} (h : limitOf fl rules name = .ok x) :
    ∃ items v, rules = .dict items ∧ Config.Entries.lookup items (.str name) = some v := by
  obtain ⟨v, hv, -⟩ := Config.bind_eq_ok.1 h
  cases rules with
  | dict items => exact ⟨items, v, rfl, Config.orRaise_eq_ok.1 hv⟩
  | _ => simp [Value.getItem, Config.raise] at hv

/-- Where the step's own counters pass, the latency limit decides. -/
theorem shouldStop_of_pass {q : ℚ} (h : limitOf fl rules "latency_p99_ms_above" = .ok (.fin q))
    {r : StepResult} (haccepted : acceptedRatioBelow fl rules r = .ok false)
    (herrors : errorRateAbove fl rules r = .ok false) (m : Metrics) (elapsed : ℚ) :
    shouldStop fl rules r m elapsed = .ok (decide (q < (m.snapshot elapsed).latencyP99Ms)) := by
  obtain ⟨items, v, rfl, hv⟩ := exists_dict_of_limitOf h
  have hitems : items.isEmpty = false := by
    cases items with
    | nil => simp at hv
    | cons p rest => rfl
  have htruthy : (Value.dict items).truthy = true := by simp [Value.truthy, hitems]
  have hcontains : (Value.dict items).contains "latency_p99_ms_above" = .ok true := by
    simp [Value.contains, hv]
  have hlatency : latencyP99Above fl (.dict items) m elapsed
      = .ok (decide (q < (m.snapshot elapsed).latencyP99Ms)) := by
    unfold latencyP99Above ruleFires
    rw [hcontains, h]
    rfl
  unfold shouldStop
  simp only [Value.orElse, htruthy, haccepted, herrors, if_true]
  simpa [bind, Except.bind, pure, Except.pure] using hlatency

/-- After a step in which nothing was offered, the latency limit alone decides. -/
theorem shouldStop_of_idleStep {q : ℚ} (h : limitOf fl rules "latency_p99_ms_above" = .ok (.fin q))
    {r : StepResult} (hoffered : r.offered = 0) (hrequests : r.requests = 0) (m : Metrics)
    (elapsed : ℚ) :
    shouldStop fl rules r m elapsed = .ok (decide (q < (m.snapshot elapsed).latencyP99Ms)) := by
  obtain ⟨items, -, rfl, -⟩ := exists_dict_of_limitOf h
  have hskip : ∀ name test, ruleFires fl (.dict items) name false test = .ok false := by
    intro name test
    unfold ruleFires
    simp [Value.contains, bind, Except.bind, pure, Except.pure]
  refine shouldStop_of_pass h ?_ ?_ m elapsed
  · unfold acceptedRatioBelow
    simpa [hoffered] using hskip _ _
  · unfold errorRateAbove
    simpa [hrequests] using hskip _ _

/-- **A decision never depends on earlier steps if the rule set has no limit on latencies that a
percentile can be on either side of.** -/
theorem shouldStop_congr {stopWhen : Value}
    (h : ∀ q, limitOf fl stopWhen "latency_p99_ms_above" = .ok (.fin q) → q < 0)
    (r : StepResult) {m m' : Metrics} (hm : ∀ x ∈ m.allLatencies, 0 ≤ x)
    (hm' : ∀ x ∈ m'.allLatencies, 0 ≤ x) (elapsed elapsed' : ℚ) :
    shouldStop fl stopWhen r m elapsed = shouldStop fl stopWhen r m' elapsed' := by
  unfold shouldStop
  by_cases htruthy : stopWhen.truthy = true
  · have hrules : stopWhen.orElse (.dict []) = stopWhen := by simp [Value.orElse, htruthy]
    simp only [hrules, latencyP99Above_congr h hm hm' elapsed elapsed']
  · have hrules : stopWhen.orElse (.dict []) = .dict [] := by simp [Value.orElse, htruthy]
    simp [hrules, Value.truthy]

end Rules

/-! ## Two runs that differ in one early latency -/

section Runs

variable {η : Type} [SeqHandle η] {g : LoadGenerator η} (plan : List Step)

/-- Worker 0 is told that its export succeeded after `x` seconds, and books it. -/
def ackedAfter (x : ℚ) : List Action :=
  .exportReturns 0 (.result { ok := true, latencyS := x }) :: List.replicate 5 (.worker 0)

/-- A success adds its latency to the list that every decision reads. -/
theorem run_ackedAfter {s : State η} {item : WorkItem} {sent : Bool}
    (hworkers : s.workers = [.exporting item sent]) (x : ℚ) :
    ∃ s', (engine g plan).run s (ackedAfter x) = some s' ∧ s'.main = s.main ∧ s'.plan = s.plan ∧
      s'.results.length = s.results.length ∧ s'.nextSeq = s.nextSeq ∧ s'.stop = s.stop ∧
      s'.interrupted = s.interrupted ∧ s'.clock = s.clock ∧ s'.queue = s.queue ∧
      s'.metrics.inflight = s.metrics.inflight - 1 ∧
      s'.metrics.allLatencies = s.metrics.allLatencies ++ [x * 1000] := by
  let r : ExportResult := { ok := true, latencyS := x }
  let s₁ : State η := { s with workers := [.returned item (.result r)] }
  let s₂ : State η :=
    { s₁ with metrics := s₁.metrics.recordInflight (-1), workers := [.released item r] }
  let s₃ : State η :=
    { s₂ with logRecorded := s₂.logRecorded ++ [(item, r)],
              metrics := s₂.metrics.recordSuccess item.recordCount r.latencyS,
              workers := [.resetFailures item r] }
  let s₄ : State η := { s₃ with consecutiveFailures := 0, workers := [.credit item r] }
  let s₅ : State η := { s₄.credit item r with workers := [.taskDone] }
  have h₁ : engineStep g s (.exportReturns 0 (.result r)) = some s₁ := by
    simp [engineStep, hworkers, exporterReturns, s₁]
  refine ⟨{ s₅ with workers := [.waiting] }, System.run_cons_eq_some.2 ⟨s₁, h₁, ?_⟩,
    rfl, rfl, ?_, rfl, rfl, rfl, rfl, rfl, rfl, rfl⟩
  · refine System.run_cons_eq_some.2 ⟨s₂, rfl, System.run_cons_eq_some.2 ⟨s₃, rfl, ?_⟩⟩
    exact System.run_cons_eq_some.2 ⟨s₄, rfl, System.run_cons_eq_some.2 ⟨s₅, rfl, rfl⟩⟩
  · show (s₄.credit item r).results.length = s.results.length
    unfold State.credit
    cases s₄.step with
    | none => rfl
    | some i => simp [s₁, s₂, s₃, s₄]

theorem run_mainRuns_succ {plan : List Step} {s s' u : State η} {n : Nat} {t : ℚ}
    (hstep : mainStep g s t 0 = some s')
    (hrun : (engine g plan).run s' (mainRuns n t) = some u) :
    (engine g plan).run s (mainRuns (n + 1) t) = some u :=
  System.run_cons_eq_some.2 ⟨s', hstep, hrun⟩

/-- Nothing is outstanding any more, and the step is closed. -/
theorem run_drained {s : State η} {f : Frame} {until_ t : ℚ} (hmain : s.main = .drainHead f until_)
    (hclock : s.clock ≤ t) (huntil : t < until_) (hqueue : s.queue = [])
    (hinflight : s.metrics.inflight = 0) :
    (engine g plan).run s (mainRuns 4 t) = some
      { s.modifyResult f.result (fun r => r.close 0 s.nextSeq) with
        clock := t, step := none, main := .idle } := by
  let s₁ : State η := { s with clock := t, main := .drainQueue f until_ }
  let s₂ : State η := { s₁ with main := .drainInflight f until_ }
  let s₃ : State η := { s₂ with main := .finish f true }
  have h₁ : mainStep g s t 0 = some s₁ := by
    simp [mainStep, not_lt.2 hclock, hmain, huntil, s₁]
  have h₂ : mainStep g s₁ t 0 = some s₂ := by
    simp [mainStep, hqueue, s₁, s₂]
  have h₃ : mainStep g s₂ t 0 = some s₃ := by
    simp [mainStep, hinflight, s₁, s₂, s₃]
  have h₄ : mainStep g s₃ t 0 = some
      { s₃.modifyResult f.result (fun r => r.close 0 s.nextSeq) with
        step := none, main := .idle } := if_neg (lt_irrefl t)
  exact run_mainRuns_succ h₁ (run_mainRuns_succ h₂ (run_mainRuns_succ h₃
    (run_mainRuns_succ h₄ rfl)))

/-- The result of a step that takes nothing and offers nothing. -/
def idleResult (step : Step) (nextSeq : Nat) : StepResult :=
  StepResult.close
    { index := step.index, targetRps := step.rps, durationSeconds := step.durationSeconds,
      startedAt := 0, endedAt := 0, seqStart := nextSeq } 0 nextSeq

/-- Between two steps, with nothing outstanding at time `t`. -/
structure Quiet (s : State η) (rest : List Step) (t : ℚ) : Prop where
  main_eq : s.main = .idle
  plan_eq : s.plan = rest
  interrupted_eq : s.interrupted = false
  stop_eq : s.stop = false
  clock_le : s.clock ≤ t
  queue_eq : s.queue = []
  inflight_eq : s.metrics.inflight = 0

/-- A step on an engine that has nothing to do, whose process is held up until it is over. -/
theorem run_idleStep {s : State η} {step : Step} {rest : List Step} {interval t u : ℚ}
    {probe : RequestTemplate η} (hquiet : Quiet s (step :: rest) t)
    (hinterval : stepInterval step.rps g.batchSize = some interval)
    (hprobe : g.factory.templateFor 0 0 = some probe) (ht : t ≤ u)
    (hend : t + step.durationSeconds ≤ u) (htimeout : 0 ≤ g.rpcTimeoutSeconds) :
    ∃ s', (engine g plan).run s (mainRuns 4 t ++ mainRuns 6 u) = some s' ∧ s'.main = .idle ∧
      s'.results = s.results ++ [idleResult step s.nextSeq] ∧
      s'.metrics.allLatencies = s.metrics.allLatencies := by
  obtain ⟨hmain, hplan, hinterrupted, hstop, hclock, hqueue, hinflight⟩ := hquiet
  have hle : ¬ t < s.clock := not_lt.2 hclock
  let until_ := u + (g.rpcTimeoutSeconds + 10)
  let r : StepResult :=
    { index := step.index, targetRps := step.rps, durationSeconds := step.durationSeconds,
      startedAt := 0, endedAt := 0, seqStart := s.nextSeq }
  let f : Frame := { step, result := s.results.length, interval }
  let f' : Frame :=
    { f with deadline := t + step.durationSeconds, nextSubmit := t, variant := 0,
             probeRecordCount := probe.recordCount, probeBytes := probe.approxBytes, now := u }
  let s₁ : State η := { s with plan := rest, results := s.results ++ [r], main := .publish f }
  let s₂ : State η := { s₁ with step := some s.results.length, main := .announce f }
  let s₃ : State η :=
    { s₂ with metrics := s₂.metrics.setStep step.index step.rps, main := .start f }
  let s₄ : State η := { s₃ with clock := t, main := .loop { f' with now := 0 } }
  let s₅ : State η := { s₄ with clock := u, main := .drain f' }
  let s₆ : State η := { s₅ with main := .drainHead f' until_ }
  have h₁ : mainStep g s t 0 = some s₁ := by
    simp [mainStep, hle, hmain, hinterrupted, hplan, hinterval, s₁, r, f]
  have h₂ : mainStep g s₁ t 0 = some s₂ := if_neg hle
  have h₃ : mainStep g s₂ t 0 = some s₃ := if_neg hle
  have h₄ : mainStep g s₃ t 0 = some s₄ := by
    simp [mainStep, hle, hprobe, s₁, s₂, s₃, s₄, f, f']
  have h₅ : mainStep g s₄ u 0 = some s₅ := by
    simp [mainStep, hstop, hend, not_lt.2 ht, s₁, s₂, s₃, s₄, s₅, f, f']
  have h₆ : mainStep g s₅ u 0 = some s₆ := if_neg (lt_irrefl u)
  have huntil : u < until_ := by
    show u < u + (g.rpcTimeoutSeconds + 10)
    linarith
  have hdrained := run_drained (g := g) (s := s₆) (f := f') (t := u) plan rfl le_rfl huntil hqueue
    hinflight
  have hstarted : (engine g plan).run s (mainRuns 4 t) = some s₄ :=
    run_mainRuns_succ h₁ (run_mainRuns_succ h₂ (run_mainRuns_succ h₃ (run_mainRuns_succ h₄ rfl)))
  refine ⟨_, System.run_append hstarted (run_mainRuns_succ h₅ (run_mainRuns_succ h₆ hdrained)),
    rfl, ?_, rfl⟩
  · show (s.results ++ [r]).modify s.results.length (fun r => r.close 0 s.nextSeq) = _
    rw [List.modify_eq_take_cons_drop (by simp)]
    simp [idleResult, r]

/-! ## The deadline of a call -/

def MainPc.isDrain : MainPc → Bool
  | .drain _ => true
  | _ => false

/-- Only a drain reads the deadline. -/
theorem engineStep_withTimeout {s : State η} (h : s.main.isDrain = false) (timeout : ℚ)
    (a : Action) :
    engineStep { g with rpcTimeoutSeconds := timeout } s a = engineStep g s a := by
  cases a with
  | main t wall =>
      unfold engineStep mainStep
      cases hmain : s.main <;> simp_all [MainPc.isDrain] <;> rfl
  | _ => rfl

theorem run_withTimeout (timeout : ℚ) {as : List Action} :
    ∀ {s s' : State η}, (engine g plan).run s as = some s' →
      (engine g plan).Meets (fun s _ => s.main.isDrain = false) s as →
      (engine { g with rpcTimeoutSeconds := timeout } plan).run s as = some s' := by
  induction as with
  | nil => exact fun hrun _ => hrun
  | cons a as ih =>
      intro s s'' hrun hmeets
      obtain ⟨s', hs', hrest⟩ := System.run_cons_eq_some.1 hrun
      exact System.run_cons_eq_some.2
        ⟨s', (engineStep_withTimeout hmeets.1 timeout a).trans hs', ih hrest (hmeets.2 s' hs')⟩

end Runs

/-! ## Which rule sets judge the latest step only -/

/-- One worker, batches of one record, and calls that may take `timeout` seconds. -/
def patientConfig (timeout : ℚ) : RunConfig Unit :=
  { plainConfig 1 1 1 with rpcTimeoutSeconds := timeout }

/-- Two steps of a second, at one batch a second. -/
def twoSteps : List Step := [⟨0, 1, 1⟩, ⟨1, 1, 1⟩]

theorem patientConfig_accepted {timeout : ℚ} (h : 0 < timeout) :
    (patientConfig timeout).Accepted twoSteps where
  rpcTimeout_pos := h
  workers_le := le_rfl
  retryMode_mem := by simp [patientConfig, plainConfig]
  plan_ne_nil := by simp [twoSteps]
  index_eq := by decide
  step_pos := by decide +kernel

theorem launch_patientConfig {timeout : ℚ} {g : LoadGenerator BenchSeq}
    (h : launch BenchSeq (plainConfig 1 1 1) = some g) :
    launch BenchSeq (patientConfig timeout) = some { g with rpcTimeoutSeconds := timeout } := by
  obtain ⟨factory, hfactory, hpool, rfl⟩ := launch_eq_some h
  refine Option.bind_eq_some_iff.2 ⟨factory, hfactory, ?_⟩
  unfold LoadGenerator.init
  exact dif_pos hpool

/-- The request of the first step is out when its time is up. -/
def outstandingRun : List Action := mainRuns 14 0 ++ workerExports 0 1 ++ mainRuns 2 1

/-- The answer comes after `x` seconds, within the deadline, and the drain sees it. -/
def answeredRun (x timeout : ℚ) : List Action :=
  outstandingRun ++ (mainRuns 1 1 ++ (ackedAfter x ++ mainRuns 4 (1 + timeout)))

/-- The first step, whatever the latency of its request. -/
theorem exists_answeredRun {x timeout : ℚ} (htimeout : 0 ≤ timeout) :
    ∃ (g : LoadGenerator BenchSeq) (s : State BenchSeq) (probe : RequestTemplate BenchSeq),
      launch BenchSeq (patientConfig timeout) = some g ∧
      g.factory.templateFor 0 0 = some probe ∧
      (engine g twoSteps).run (engineInit g twoSteps) (answeredRun x timeout) = some s ∧
      Quiet s [⟨1, 1, 1⟩] (1 + timeout) ∧ s.nextSeq = 1 ∧
      s.metrics.allLatencies = [x * 1000] := by
  obtain ⟨g, s₀, hg, hrun₀, hP⟩ := exists_of_runFrom
    (launch BenchSeq (plainConfig 1 1 1)) twoSteps outstandingRun
    (P := fun s => s.workers = [.exporting ⟨0, 1, 1, 0⟩ true] ∧
      s.main = .drain ⟨⟨0, 1, 1⟩, 0, 1, 1, 1, 1, 1, 1, 1⟩ ∧ s.plan = [⟨1, 1, 1⟩] ∧
      s.interrupted = false ∧ s.stop = false ∧ s.clock = 1 ∧ s.queue = [] ∧
      s.metrics.inflight = 1 ∧ s.nextSeq = 1 ∧ s.metrics.allLatencies = [])
    (by decide +kernel)
  obtain ⟨hworkers, hmain, hplan, hinterrupted, hstop, hclock, hqueue, hinflight, hseq,
    hlatencies⟩ := of_decide_eq_true hP
  have hprobe : (launch BenchSeq (plainConfig 1 1 1)).all (fun g =>
      (g.factory.templateFor 0 0).isSome ∧ (engine g twoSteps).Meets
        (fun s _ => s.main.isDrain = false) (engineInit g twoSteps) outstandingRun) = true := by
    decide +kernel
  rw [hg, Option.all_some] at hprobe
  obtain ⟨hsome, hmeets⟩ := of_decide_eq_true hprobe
  obtain ⟨probe, hprobe⟩ := Option.isSome_iff_exists.1 hsome
  -- up to the drain the longer deadline makes no difference
  let g' : LoadGenerator BenchSeq := { g with rpcTimeoutSeconds := timeout }
  have hrun : (engine g' twoSteps).run (engineInit g' twoSteps) outstandingRun = some s₀ :=
    run_withTimeout twoSteps timeout hrun₀ hmeets
  let s₁ : State BenchSeq :=
    { s₀ with clock := 1,
              main := .drainHead ⟨⟨0, 1, 1⟩, 0, 1, 1, 1, 1, 1, 1, 1⟩ (1 + (timeout + 10)) }
  have h₁ : mainStep g' s₀ 1 0 = some s₁ := by
    simp [mainStep, hmain, hclock, s₁, g']
  have hdrain : (engine g' twoSteps).run s₀ (mainRuns 1 1) = some s₁ := run_mainRuns_succ h₁ rfl
  obtain ⟨s₂, hrun₂, hmain₂, hplan₂, -, hseq₂, hstop₂, hinterrupted₂, hclock₂, hqueue₂,
    hinflight₂, hlatencies₂⟩ := run_ackedAfter (g := g') (s := s₁) twoSteps hworkers x
  have hzero : s₂.metrics.inflight = 0 := by
    rw [hinflight₂]
    show s₀.metrics.inflight - 1 = 0
    rw [hinflight]
    rfl
  have hle : s₂.clock ≤ 1 + timeout := by
    rw [hclock₂]
    show 1 ≤ 1 + timeout
    linarith
  have hrun₃ := run_drained (g := g') twoSteps hmain₂ hle (by linarith) (hqueue₂.trans hqueue)
    hzero
  refine ⟨g', _, probe, launch_patientConfig hg, hprobe,
    System.run_append hrun (System.run_append hdrain (System.run_append hrun₂ hrun₃)),
    ⟨rfl, hplan₂.trans hplan, hinterrupted₂.trans hinterrupted, hstop₂.trans hstop, le_rfl,
      hqueue₂.trans hqueue, hzero⟩, hseq₂.trans hseq, ?_⟩
  show s₂.metrics.allLatencies = [x * 1000]
  rw [hlatencies₂]
  show s₀.metrics.allLatencies ++ [x * 1000] = _
  rw [hlatencies]
  rfl

/-- The second step is the same whatever the latency of the first one's request. -/
theorem stepReturned_answeredRun {x timeout : ℚ} (hx : 0 ≤ x) (hle : x ≤ timeout) :
    ∃ (g : LoadGenerator BenchSeq) (s : State BenchSeq),
      launch BenchSeq (patientConfig timeout) = some g ∧
      StepReturned g twoSteps (idleResult ⟨1, 1, 1⟩ 1) [] s ∧
      s.metrics.allLatencies = [x * 1000] := by
  obtain ⟨g, s₀, probe, hg, hprobe, hrun₀, hquiet, hseq, hlatencies⟩ :=
    exists_answeredRun (x := x) (hx.trans hle)
  have htimeout : g.rpcTimeoutSeconds = timeout := by
    obtain ⟨factory, -, -, rfl⟩ := launch_eq_some hg
    rfl
  have hinterval : stepInterval 1 g.batchSize = some 1 := by
    rw [show g.batchSize = 1 from launch_batchSize hg]
    decide +kernel
  obtain ⟨s, hrun, hmain, hresults, hsame⟩ := run_idleStep (u := 2 + timeout) twoSteps hquiet
    hinterval hprobe (by linarith) (by show 1 + timeout + 1 ≤ 2 + timeout; linarith)
    (by rw [htimeout]; linarith)
  have hall : s.metrics.allLatencies = [x * 1000] := hsame.trans hlatencies
  refine ⟨g, s, hg, ⟨answeredRun x timeout, s₀, _, hrun₀, hquiet.main_eq, hrun, hmain, ?_, ?_, ?_,
    ?_, ?_⟩, hall⟩
  · simp [hresults]
  · simp [hresults, hseq]
  · simp [hsame]
  · intro y hy
    rw [hall, List.mem_singleton] at hy
    subst hy
    positivity
  · simp [answeredRun, outstandingRun, mainRuns, workerExports, ackedAfter, Action.ackedWithin,
      htimeout, hle]

theorem latencyP99Ms_singleton {m : Metrics} {v : ℚ} (h : m.allLatencies = [v]) (elapsed : ℚ) :
    (m.snapshot elapsed).latencyP99Ms = roundDigits v 3 := by
  simp [Metrics.snapshot, sortedLatencies, h, percentile]

theorem sortedLatencies_pair {a b : ℚ} (h : a ≤ b) : sortedLatencies [b, a] = [a, b] := by
  unfold sortedLatencies
  rw [List.mergeSort]
  suffices h' : b ≤ a → b = a ∧ a = b by simpa [List.merge] using h'
  intro hba
  exact ⟨le_antisymm hba h, le_antisymm h hba⟩

/-- Of two latencies the larger one is the 99th percentile. -/
theorem latencyP99Ms_pair {m : Metrics} {a b : ℚ} (h : m.allLatencies = [b, a]) (hab : a ≤ b)
    (elapsed : ℚ) : (m.snapshot elapsed).latencyP99Ms = roundDigits b 3 := by
  have hrank : roundHalfEven (99 / 100 * 2 + 2⁻¹) = 2 := by decide +kernel
  simp [Metrics.snapshot, h, sortedLatencies_pair hab, percentile, hrank]

/-- A limit that a percentile can reach is a limit on the whole run. -/
theorem not_judgesStepOnly {fl : FloatFormat} {stopWhen : Value} {q : ℚ} (hq : 0 ≤ q)
    (h : limitOf fl stopWhen "latency_p99_ms_above" = .ok (.fin q)) :
    ¬ JudgesStepOnly fl stopWhen := by
  intro hlocal
  have hpos : 0 < (q + 1) / 1000 := by positivity
  obtain ⟨g, s, hg, hreturned, hlatencies⟩ := stepReturned_answeredRun le_rfl hpos.le
  obtain ⟨g', s', hg', hreturned', hlatencies'⟩ := stepReturned_answeredRun hpos.le le_rfl
  have haccepted := patientConfig_accepted hpos
  have heq := hlocal haccepted haccepted hg hg' hreturned hreturned' 0 0
  rw [shouldStop_of_idleStep h rfl rfl, shouldStop_of_idleStep h rfl rfl,
    latencyP99Ms_singleton hlatencies, latencyP99Ms_singleton hlatencies'] at heq
  have hfast : ¬ q < roundDigits (0 * 1000) 3 := by
    rw [zero_mul, show roundDigits 0 3 = 0 by decide +kernel]
    exact not_lt.2 hq
  have hslow : q < roundDigits ((q + 1) / 1000 * 1000) 3 := by
    have habs := abs_le.1 (abs_roundDigits_sub_le ((q + 1) / 1000 * 1000) 3)
    linarith [habs.1]
  rw [decide_eq_false hfast, decide_eq_true hslow] at heq
  simp at heq

/-- The rules of the stress profile. -/
def stressStopWhen : Value :=
  .dict [(.str "accepted_ratio_below", .float (Binary64.round (9 / 10))),
    (.str "error_rate_above", .float (Binary64.round (5 / 100))),
    (.str "latency_p99_ms_above", .int 60000)]

/-- A first step whose request takes `x` seconds. -/
def firstStep (x : ℚ) : List Action :=
  outstandingRun ++ mainRuns 1 1 ++ ackedAfter x ++ mainRuns 4 62

/-- A second step whose request takes ten milliseconds. -/
def secondStep : List Action :=
  mainRuns 14 62 ++ workerExports 0 1 ++ ackedAfter (1 / 100) ++ mainRuns 3 63 ++ mainRuns 4 63

/-- What is returned for the second step. -/
def secondResult : StepResult :=
  { index := 1, targetRps := 1, durationSeconds := 1, startedAt := 0, endedAt := 0, seqStart := 1,
    seqEnd := 1, offered := 1, accepted := 1, requests := 1 }

/-- In one second step the request takes ten milliseconds, in the step before it `x` seconds. -/
theorem stepReturned_secondStep {x : ℚ}
    (h : (launch BenchSeq (patientConfig 120)).any (fun g =>
      ((engine g twoSteps).run (engineInit g twoSteps) (firstStep x)).any fun s₀ =>
        s₀.main = .idle ∧ ((engine g twoSteps).run s₀ secondStep).any fun s =>
          s.main = .idle ∧ s.results.length = s₀.results.length + 1 ∧
          s.results.getLast? = some secondResult ∧
          s.metrics.allLatencies = s₀.metrics.allLatencies ++ [10] ∧
          s.metrics.allLatencies = [x * 1000, 10] ∧ (∀ y ∈ s.metrics.allLatencies, 0 ≤ y) ∧
          (firstStep x ++ secondStep).all (Action.ackedWithin g.rpcTimeoutSeconds)) = true) :
    ∃ (g : LoadGenerator BenchSeq) (s : State BenchSeq),
      launch BenchSeq (patientConfig 120) = some g ∧
      StepReturned g twoSteps secondResult [10] s ∧ s.metrics.allLatencies = [x * 1000, 10] := by
  obtain ⟨g, hg, h₀⟩ := (Option.any_eq_true _ _).1 h
  obtain ⟨s₀, hrun₀, h₁⟩ := (Option.any_eq_true _ _).1 h₀
  obtain ⟨hmain₀, h₂⟩ := of_decide_eq_true h₁
  obtain ⟨s, hrun, h₃⟩ := (Option.any_eq_true _ _).1 h₂
  obtain ⟨hmain, hlength, hlast, hsince, hall, hnonneg, hacked⟩ := of_decide_eq_true h₃
  exact ⟨g, s, hg, ⟨firstStep x, s₀, secondStep, hrun₀, hmain₀, hrun, hmain, hlength, hlast,
    hsince, hnonneg, hacked⟩, hall⟩

end AnalyticsTesting.Generator
