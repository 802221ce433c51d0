import AnalyticsTesting.Generator.LoadGen

set_option autoImplicit false

/-! # The generator process

`generator/src/main.py` around the engine: how the payload factory, the metrics and the engine are
built from one configuration (`launch`), and what the run leaves behind in the manifest. The
environment of `main` (directories, the gRPC channel, metadata) is left out; the step loop itself
is part of the engine's main thread. -/

namespace AnalyticsTesting.Generator

variable {η ρ : Type} [SeqHandle η]

/-- What `main` hands to the factory, the metrics and the engine. -/
structure RunConfig (ρ : Type) where
  content : Content ρ
  genId : String
  seed : Int
  /-- The customer of each template; the generic payload has none. -/
  customerOf : Nat → Option Nat
  batchSize : Nat
  workers : Nat
  maxInflight : Nat
  retryMode : String
  abortOnConsecutiveFailures : Int
  rpcTimeoutSeconds : ℚ
  testId : String
  sampleIntervalSeconds : ℚ

/-- The default of `variants_per_worker`, which `build_factory` does not override. -/
def defaultVariants : Int := 4

/-- `main` up to `engine.start()`: the factory and the engine get the same batch size and number of
    workers. `none` where building the factory or the engine raises. -/
def launch (η : Type) [SeqHandle η] (cfg : RunConfig ρ) : Option (LoadGenerator η) :=
  (PayloadFactory.init η cfg.content cfg.genId cfg.seed cfg.batchSize cfg.workers defaultVariants
    cfg.customerOf).bind fun factory =>
    LoadGenerator.init cfg.batchSize cfg.workers cfg.maxInflight cfg.retryMode
      cfg.abortOnConsecutiveFailures cfg.rpcTimeoutSeconds factory
      (Metrics.init cfg.testId cfg.sampleIntervalSeconds)

/-- What `launch` guarantees beyond the engine's own check. -/
structure Launched (g : LoadGenerator η) : Prop where
  batchSize_eq : g.factory.batchSize = g.batchSize
  totals_eq : g.metrics.totals = {}
  inflight_eq : g.metrics.inflight = 0

theorem PayloadFactory.init_batchSize {content : Content ρ} {genId : String} {seed : Int}
    {batchSize : Nat} {workers variants : Int} {customerOf : Nat → Option Nat}
    {f : PayloadFactory η}
    (h : PayloadFactory.init η content genId seed batchSize workers variants customerOf = some f) :
    f.batchSize = batchSize := by
  simp only [PayloadFactory.init] at h
  split at h
  · simp at h
  · obtain rfl := Option.some.inj h
    rfl

/-- An engine that is launched has the factory and the settings of the configuration. -/
theorem launch_eq_some {cfg : RunConfig ρ} {g : LoadGenerator η} (h : launch η cfg = some g) :
    ∃ factory,
      PayloadFactory.init η cfg.content cfg.genId cfg.seed cfg.batchSize cfg.workers
        defaultVariants cfg.customerOf = some factory ∧
      ∃ hpool : cfg.workers * factory.variantsPerWorker ≤ factory.templates.length,
        g = { batchSize := cfg.batchSize, workers := cfg.workers, maxInflight := cfg.maxInflight,
              retryMode := cfg.retryMode,
              abortOnConsecutiveFailures := cfg.abortOnConsecutiveFailures,
              rpcTimeoutSeconds := cfg.rpcTimeoutSeconds, factory,
              metrics := Metrics.init cfg.testId cfg.sampleIntervalSeconds, pool_ok := hpool } := by
  obtain ⟨factory, hfactory, hg⟩ := Option.bind_eq_some_iff.1 h
  unfold LoadGenerator.init at hg
  split at hg
  · next hpool => exact ⟨factory, hfactory, hpool, (Option.some.inj hg).symm⟩
  · simp at hg

theorem launch_launched {cfg : RunConfig ρ} {g : LoadGenerator η} (h : launch η cfg = some g) :
    Launched g := by
  obtain ⟨factory, hfactory, -, rfl⟩ := launch_eq_some h
  exact ⟨PayloadFactory.init_batchSize hfactory, rfl, rfl⟩

theorem launch_batchSize {cfg : RunConfig ρ} {g : LoadGenerator η} (h : launch η cfg = some g) :
    g.batchSize = cfg.batchSize := by
  obtain ⟨factory, -, -, rfl⟩ := launch_eq_some h
  rfl

theorem launch_metrics {cfg : RunConfig ρ} {g : LoadGenerator η} (h : launch η cfg = some g) :
    g.metrics = Metrics.init cfg.testId cfg.sampleIntervalSeconds := by
  obtain ⟨factory, -, -, rfl⟩ := launch_eq_some h
  rfl

/-- The templates of a launched engine are the pool its configuration describes. -/
theorem buildPool_of_launch {cfg : RunConfig ρ} {g : LoadGenerator η}
    (h : launch η cfg = some g) :
    buildPool η cfg.content cfg.batchSize cfg.seed cfg.customerOf
      (List.range (max 1 (cfg.workers : Int).toNat * max 1 defaultVariants.toNat))
        = some g.factory.templates := by
  obtain ⟨factory, hfactory, -, rfl⟩ := launch_eq_some h
  exact PayloadFactory.buildPool_of_init hfactory

/-! ## The manifest -/

/-- An entry of `manifest["generators"]`. -/
structure GeneratorEntry where
  genId : String
  seqMin : Int
  seqMax : Int
  deriving DecidableEq

/-- The part of `manifest.json` that states what the run did. -/
structure RunManifest where
  generators : List GeneratorEntry
  totalOffered : Nat
  totalAccepted : Nat
  totalRejected : Nat
  requestsSent : Nat
  requestsFailed : Nat
  errorsByCode : List (String × Nat)
  deriving DecidableEq

/-- `step_results[0].seq_start if step_results else 0`. -/
def seqMin (results : List StepResult) : Int :=
  match results.head? with
  | some first => first.seqStart
  | none => 0

/-- `step_results[-1].seq_end if step_results else -1`. -/
def seqMax (results : List StepResult) : Int :=
  match results.getLast? with
  | some last => last.seqEnd
  | none => -1

/-- The manifest `main` writes once its `finally` block is over; `none` before that, and where
    `run_step` raised, so that `main` never gets there. -/
def manifest (g : LoadGenerator η) (s : State η) : Option RunManifest :=
  match s.main with
  | .closed false =>
      let totals := s.metrics.totals
      some
        { generators :=
            [{ genId := g.factory.genId
               seqMin := seqMin s.results
               seqMax := seqMax s.results }]
          totalOffered := totals.recordsOffered
          totalAccepted := totals.recordsAccepted
          totalRejected := totals.recordsRejected
          requestsSent := totals.requestsSent
          requestsFailed := totals.requestsFailed
          errorsByCode := totals.errorsByCode }
  | _ => none

/-! ## A plain configuration

The smallest payload there is: every record carries `bench.seq` and nothing else. -/

/-- Records with a sequence number only. -/
def plainContent : Content Unit where
  newRng _ := ()
  resource _ _ := (([], "svc"), ())
  record _ _ _ :=
    (⟨0, 0, 9, "INFO", "", [], [], 0, [⟨"bench.seq", .intValue 0⟩]⟩, ())
  scopeName := "bench"
  scopeVersion := "1"
  byteSize request := request.logRecords.length

/-- A run with plain records. -/
def plainConfig (batchSize workers maxInflight : Nat) : RunConfig Unit where
  content := plainContent
  genId := "gen-1"
  seed := 0
  customerOf _ := none
  batchSize
  workers
  maxInflight
  retryMode := "none"
  abortOnConsecutiveFailures := 0
  rpcTimeoutSeconds := 1
  testId := "t"
  sampleIntervalSeconds := 1

/-- Where a list of actions leads an engine, if its constructor returned. -/
def runFrom (engine? : Option (LoadGenerator η)) (plan : List Step) (as : List Action) :
    Option (State η) :=
  engine?.bind fun g => (engine g plan).run (engineInit g plan) as

theorem exists_of_runFrom (engine? : Option (LoadGenerator η)) (plan : List Step)
    (as : List Action) {P : State η → Bool} (h : (runFrom engine? plan as).any P = true) :
    ∃ g s, engine? = some g ∧ (engine g plan).run (engineInit g plan) as = some s ∧
      P s = true := by
  obtain ⟨s, hs, hP⟩ := (Option.any_eq_true _ _).1 h
  obtain ⟨g, hg, hrun⟩ := Option.bind_eq_some_iff.1 hs
  exact ⟨g, s, hg, hrun, hP⟩

/-- The next `n` statements of the main thread, at time `t`. -/
def mainRuns (n : Nat) (t : ℚ) : List Action := List.replicate n (.main t 0)

/-- Worker `w` takes an item of `records` records and hands it to the exporter, which sends it. -/
def workerExports (w records : Nat) : List Action :=
  [.worker w, .workerNow w 0] ++ List.replicate (records + 3) (.worker w) ++ [.serialize w]

/-- The export call of worker `w` is acknowledged, and the worker books it. -/
def workerAcked (w : Nat) : List Action :=
  .exportReturns w (.result { ok := true, latencyS := 0 }) :: List.replicate 5 (.worker w)

end AnalyticsTesting.Generator
