import AnalyticsTesting.Config.Proofs.Loaded
import AnalyticsTesting.Generator.LoadGen

set_option autoImplicit false

/-! # Which accepted configurations can be run

The integer settings are checked as floats and truncated afterwards, so a value between 0 and 1
passes the check and becomes 0; and a NaN passes every comparison of the check. `runnable_iff` says
that these, and rates whose batch rate leaves the positive finite numbers, are all that can go
wrong in an accepted configuration. -/

namespace AnalyticsTesting.Config

/-- What a run needs of a configuration. -/
structure Runnable (fl : FloatFormat) (cfg : GeneratorConfig) : Prop where
  workers : 1 ≤ cfg.workload.workers
  channels : 1 ≤ cfg.workload.channels
  batchSize : 1 ≤ cfg.workload.batchSize
  maxInflight : 1 ≤ cfg.workload.maxInflight
  workers_le : cfg.workload.workers ≤ cfg.workload.maxInflight
  steps_ne : cfg.steps ≠ []
  positive : ∀ step ∈ cfg.steps, step.rps.Pos ∧ step.durationSeconds.Pos
  interval : ∀ step ∈ cfg.steps, ∃ i,
    batchInterval fl step.rps cfg.workload.batchSize = .ok i ∧ i.Pos

/-- The profile's steps and the merged workload. -/
def effectiveInput (environ : String → Option String) (path : String)
    (doc : Value) (profile : String) (overrides : Items) : Py (Value × Items) := do
  let raw ← document environ doc
  let gen ← generatorSection path raw
  let prof ← profileSection raw profile
  let merged ← mergedWorkload gen prof overrides
  return (← prof.get "steps" .none, merged)

/-- A setting that is a finite number and at least 1 before it is truncated. -/
def AtLeastOne (fl : FloatFormat) (merged : Items) (key : String) (default : Int) : Prop :=
  ∃ q : ℚ, (workloadValue merged key default).toFloat fl = .ok (.fin q) ∧ 1 ≤ q

/-- The number of batches a second is finite and positive: the rate is, and its quotient by the
batch size does not vanish. -/
def PositiveRate (fl : FloatFormat) (merged : Items) (rate : Value) : Prop :=
  ∃ x n y b, rate.toFloat fl = .ok x ∧ workloadInt fl merged "batch_size" 100 = .ok n ∧
    fl.ofInt n = some y ∧ fl.div x y = some (.fin b) ∧ 0 < b

/-- The input of a configuration that can be run. -/
structure SoundInput (fl : FloatFormat) (rawSteps : Value) (merged : Items) : Prop where
  workers : AtLeastOne fl merged "workers" 8
  channels : AtLeastOne fl merged "channels" 1
  batchSize : AtLeastOne fl merged "batch_size" 100
  maxInflight : AtLeastOne fl merged "max_inflight" 64
  rate : ∀ raw ∈ rawPlan rawSteps merged, PositiveRate fl merged raw.1
  duration : ∀ raw ∈ rawPlan rawSteps merged, raw.2.toFloat fl ≠ .ok .nan

variable {fl : FloatFormat}

/-- Truncation keeps exactly the settings from 1 on. -/
theorem one_le_workloadInt_iff {merged : Items} {key : String} {default n : Int}
    (h : workloadInt fl merged key default = .ok n) : 1 ≤ n ↔ AtLeastOne fl merged key default := by
  obtain ⟨q, hfloat, hpos, rfl⟩ := workloadInt_eq_ok.1 h
  rw [one_le_tdiv_iff hpos]
  constructor
  · exact fun hq => ⟨q, hfloat, hq⟩
  · rintro ⟨p, hp, hle⟩
    rw [hfloat] at hp
    obtain rfl : q = p := Double.fin.inj (Except.ok.inj hp)
    exact hle

theorem divide_eq_ok {x y z : Double} : divide fl x y = .ok z ↔ fl.div x y = some z := orRaise_eq_ok

/-- **The interval of a step is positive exactly if its batch rate is finite and positive.** -/
theorem batchInterval_pos_iff {rps : Double} {batchSize : Int} :
    (∃ i, batchInterval fl rps batchSize = .ok i ∧ i.Pos) ↔
      ∃ y b, fl.ofInt batchSize = some y ∧ fl.div rps y = some (.fin b) ∧ 0 < b := by
  constructor
  · rintro ⟨i, hi, hpos⟩
    simp only [batchInterval, bind_eq_ok] at hi
    obtain ⟨y, hy, bps, hbps, hi⟩ := hi
    split at hi
    case isTrue => simp [raise] at hi
    case isFalse hle =>
      rw [divide_eq_ok] at hbps hi
      refine ⟨y, ?_⟩
      cases bps with
      | nan =>
          obtain rfl : Double.nan = i := by simpa [FloatFormat.div] using hi
          exact hpos.elim
      | inf negative =>
          -- an infinite batch rate leaves an interval of zero
          obtain rfl : Double.fin 0 = i := by simpa [FloatFormat.div] using hi
          exact absurd hpos (lt_irrefl 0)
      | fin b =>
          have hb : 0 < b := by simpa using hle
          exact ⟨b, orRaise_eq_ok.1 hy, hbps, hb⟩
  · rintro ⟨y, b, hy, hdiv, hb⟩
    obtain ⟨i, hi, hpos⟩ := fl.div_one_pos hdiv hb
    refine ⟨i, ?_, hpos⟩
    simp only [batchInterval, bind_eq_ok]
    refine ⟨y, orRaise_eq_ok.2 hy, .fin b, divide_eq_ok.2 hdiv, ?_⟩
    have hle : (Double.fin b).le (.fin 0) = false := by simpa using hb
    rw [hle]
    exact divide_eq_ok.2 hi


/-- A step of the plan can be run exactly if its raw rate and duration are sound. -/
theorem step_runnable_iff {merged : Items} {n : Int} {raw : Value × Value} {step : Step}
    (hn : workloadInt fl merged "batch_size" 100 = .ok n) (h : StepFrom fl raw step) :
    (step.rps.Pos ∧ step.durationSeconds.Pos ∧ ∃ i, batchInterval fl step.rps n = .ok i ∧ i.Pos) ↔
      PositiveRate fl merged raw.1 ∧ raw.2.toFloat fl ≠ .ok .nan := by
  have hduration : step.durationSeconds.Pos ↔ raw.2.toFloat fl ≠ .ok .nan := by
    rw [h.duration]
    constructor
    · intro hpos heq
      rw [Except.ok.inj heq] at hpos
      exact hpos
    · intro hne
      exact h.duration_pos.resolve_left fun heq => hne (by rw [heq])
  rw [batchInterval_pos_iff, hduration]
  constructor
  · rintro ⟨-, hdur, y, b, hy, hdiv, hb⟩
    exact ⟨⟨step.rps, n, y, b, h.rps, hn, hy, hdiv, hb⟩, hdur⟩
  · rintro ⟨⟨x, m, y, b, hx, hm, hy, hdiv, hb⟩, hdur⟩
    obtain rfl : step.rps = x := Except.ok.inj (h.rps.symm.trans hx)
    obtain rfl : n = m := Except.ok.inj (hn.symm.trans hm)
    refine ⟨h.rps_pos.resolve_left fun hnan => ?_, hdur, y, b, hy, hdiv, hb⟩
    -- dividing a NaN never gives a number
    rw [hnan] at hdiv
    exact fl.div_nan_ne_fin y b hdiv

/-- **Which accepted configurations can be run**: those whose worker, channel, batch and in-flight
settings are at least 1 before truncation, whose batch rates are finite and positive, and whose
durations are not NaN. -/
theorem runnable_iff {environ : String → Option String} {path : String} {doc : Value}
    {profile : String} {overrides : Items} {cfg : GeneratorConfig}
    (h : load fl environ path doc profile overrides = .ok cfg) :
    Runnable fl cfg ↔ ∃ rawSteps merged,
      effectiveInput environ path doc profile overrides = .ok (rawSteps, merged) ∧
      SoundInput fl rawSteps merged := by
  obtain ⟨raw, gen, prof, merged, rawSteps, hloaded⟩ := load_loaded h
  have hinput : effectiveInput environ path doc profile overrides = .ok (rawSteps, merged) := by
    simp only [effectiveInput, bind_eq_ok]
    exact ⟨raw, hloaded.raw_eq, gen, hloaded.gen_eq, prof, hloaded.prof_eq, merged,
      hloaded.merged_eq, rawSteps, hloaded.rawSteps_eq, rfl⟩
  have hwl := loadWorkload_from hloaded.workload_eq
  obtain ⟨hplan, hne⟩ := buildSteps_eq_ok hwl hloaded.steps_eq
  have hworkers := one_le_workloadInt_iff hwl.workers
  have hchannels := one_le_workloadInt_iff hwl.channels
  have hbatch := one_le_workloadInt_iff hwl.batchSize
  have hmax := one_le_workloadInt_iff hwl.maxInflight
  constructor
  · intro hrun
    refine ⟨rawSteps, merged, hinput, hworkers.1 hrun.workers, hchannels.1 hrun.channels,
      hbatch.1 hrun.batchSize, hmax.1 hrun.maxInflight, ?_, ?_⟩
    · intro raw hraw
      obtain ⟨step, hstep, hfrom⟩ := exists_of_mem_left hplan raw hraw
      obtain ⟨hrps, hdur⟩ := hrun.positive step hstep
      exact ((step_runnable_iff hwl.batchSize hfrom).1 ⟨hrps, hdur, hrun.interval step hstep⟩).1
    · intro raw hraw
      obtain ⟨step, hstep, hfrom⟩ := exists_of_mem_left hplan raw hraw
      obtain ⟨hrps, hdur⟩ := hrun.positive step hstep
      exact ((step_runnable_iff hwl.batchSize hfrom).1 ⟨hrps, hdur, hrun.interval step hstep⟩).2
  · rintro ⟨rawSteps', merged', hinput', hsound⟩
    obtain ⟨rfl, rfl⟩ : rawSteps = rawSteps' ∧ merged = merged' := by
      simpa using hinput.symm.trans hinput'
    have hstep : ∀ step ∈ cfg.steps, step.rps.Pos ∧ step.durationSeconds.Pos ∧
        ∃ i, batchInterval fl step.rps cfg.workload.batchSize = .ok i ∧ i.Pos := by
      intro step hstep
      obtain ⟨raw, hraw, hfrom⟩ := exists_of_mem_right hplan step hstep
      exact (step_runnable_iff hwl.batchSize hfrom).2
        ⟨hsound.rate raw hraw, hsound.duration raw hraw⟩
    exact
      { workers := hworkers.2 hsound.workers
        channels := hchannels.2 hsound.channels
        batchSize := hbatch.2 hsound.batchSize
        maxInflight := hmax.2 hsound.maxInflight
        workers_le := hwl.workers_le
        steps_ne := hne
        positive := fun step hmem => ⟨(hstep step hmem).1, (hstep step hmem).2.1⟩
        interval := fun step hmem => (hstep step hmem).2.2 }

/-- Four workers and the defaults. -/
def plainWorkload : Items := [entry "target_rps" (.int 100), entry "workers" (.int 4)]

theorem runnable_plainWorkload :
    ∃ cfg, loadSmall plainWorkload [] [] = .ok cfg ∧ Runnable .binary64 cfg := by
  obtain ⟨cfg, hload, -⟩ := exists_of_loadSmall plainWorkload [] [] (P := fun _ => true)
    (by decide +kernel)
  refine ⟨cfg, hload, (runnable_iff hload).2 ⟨.none, plainWorkload, rfl, ?_⟩⟩
  have hrate : PositiveRate .binary64 plainWorkload (.int 100) :=
    ⟨.fin 100, 100, .fin 100, 1, by decide +kernel⟩
  exact
    { workers := ⟨4, by decide +kernel⟩
      channels := ⟨1, by decide +kernel⟩
      batchSize := ⟨100, by decide +kernel⟩
      maxInflight := ⟨64, by decide +kernel⟩
      rate := by
        intro raw hraw
        obtain rfl := List.mem_singleton.1 hraw
        exact hrate
      duration := by
        intro raw hraw
        obtain rfl := List.mem_singleton.1 hraw
        decide +kernel }

/-- Half a worker is accepted, and makes no worker. -/
theorem not_runnable_halfWorker :
    ¬ ∀ (environ : String → Option String) (path : String) (doc : Value) (profile : String)
        (overrides : Items) (cfg : GeneratorConfig),
      load .binary64 environ path doc profile overrides = .ok cfg → Runnable .binary64 cfg := by
  intro hall
  obtain ⟨cfg, hload, hworkers⟩ := exists_of_loadSmall
    [entry "target_rps" (.int 100), entry "workers" (.float (.fin (1 / 2)))] [] []
    (P := fun cfg => cfg.workload.workers = 0) (by decide +kernel)
  have hrun := (hall _ _ _ _ _ cfg hload).workers
  simp only [decide_eq_true_eq] at hworkers
  omega

end AnalyticsTesting.Config
