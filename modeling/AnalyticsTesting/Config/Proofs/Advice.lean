import AnalyticsTesting.Config.Proofs.Precedence

set_option autoImplicit false

/-! # Whether the advice on an unreachable rate works

A step whose rate is above the reachable ceiling by more than a fiftieth gets a warning that says
how many workers it takes. Without rounding the ceiling is proportional to the workers
(`maxReachableRps_linear`), so the number advised is the least one that reaches the rate
(`Advice.Works`), and the configuration with as many workers is accepted
(`advice_works`). -/

namespace AnalyticsTesting.Config

/-- The numbers in a reachability warning. -/
structure Advice where
  ceiling : Double
  flush : Double
  need : Int
  deriving DecidableEq

namespace Advice

/-- The warning with these numbers. -/
def text (a : Advice) (step : Step) (wl : Workload) : String :=
  unreachableText step wl a.ceiling a.flush a.need

end Advice

section Turns

variable (fl : FloatFormat)

/-- One turn of the reachability check, up to the text. -/
def stepAdvice (pipeline : Pipeline) (wl : Workload) (step : Step) : Py (Option Advice) := do
  let ceiling ← pipeline.maxReachableRps fl wl.workers wl.batchSize step.rps
  if (fl.mul ceiling (fl.round (102 / 100))).lt step.rps then
    let flush ← pipeline.flushSeconds fl step.rps
    let batches ← divide fl (fl.mul step.rps flush) (← intOperand fl wl.batchSize)
    let need ← ceil batches
    return some { ceiling, flush, need }
  else return none

/-- The advice for a step, where the check gets that far. -/
def adviceFor (pipeline : Pipeline) (wl : Workload) (step : Step) : Option Advice :=
  match stepAdvice fl pipeline wl step with
  | .ok advice => advice
  | .error _ => none

variable {fl}

theorem stepWarning_eq (pipeline : Pipeline) (wl : Workload) (step : Step) :
    stepWarning fl pipeline wl step
      = (stepAdvice fl pipeline wl step).map (Option.map fun a => a.text step wl) := by
  unfold stepWarning stepAdvice
  cases pipeline.maxReachableRps fl wl.workers wl.batchSize step.rps with
  | error e => rfl
  | ok ceiling =>
      show (if _ then _ else _) = Except.map _ (if _ then _ else _)
      split
      case isFalse => rfl
      case isTrue =>
        cases pipeline.flushSeconds fl step.rps with
        | error e => rfl
        | ok flush =>
            cases intOperand fl wl.batchSize with
            | error e => rfl
            | ok size =>
                show (divide fl (fl.mul step.rps flush) size >>= _)
                  = Except.map _ (divide fl (fl.mul step.rps flush) size >>= _)
                cases divide fl (fl.mul step.rps flush) size with
                | error e => rfl
                | ok batches =>
                    show (ceil batches >>= _) = Except.map _ (ceil batches >>= _)
                    cases ceil batches <;> rfl

/-- **The warnings of a check that gets through**: one text for each step there is advice for. -/
theorem loadWarnings_eq_ok {pipeline : Pipeline} {wl : Workload} (hle : wl.workers ≤ wl.maxInflight)
    {steps : List Step} :
    ∀ {warnings : List String}, loadWarnings fl pipeline wl steps = .ok warnings ↔
      (∀ step ∈ steps, stepAdvice fl pipeline wl step = .ok (adviceFor fl pipeline wl step)) ∧
        warnings = steps.filterMap fun step =>
          (adviceFor fl pipeline wl step).map fun a => a.text step wl := by
  induction steps with
  | nil =>
      intro warnings
      simp [loadWarnings, eq_comm]
  | cons step rest ih =>
      intro warnings
      simp only [loadWarnings, if_neg (not_lt.2 hle), bind_eq_ok, pure_eq_ok, stepWarning_eq]
      rw [List.forall_mem_cons]
      cases hadvice : stepAdvice fl pipeline wl step with
      | error e => simp [Except.map]
      | ok advice =>
          have hfor : adviceFor fl pipeline wl step = advice := by simp [adviceFor, hadvice]
          rw [hfor]
          constructor
          · rintro ⟨warning, hwarning, others, hothers, rfl⟩
            obtain rfl := Except.ok.inj hwarning
            obtain ⟨hall, rfl⟩ := ih.1 hothers
            refine ⟨⟨rfl, hall⟩, ?_⟩
            cases advice <;> simp [hfor]
          · rintro ⟨⟨-, hall⟩, rfl⟩
            refine ⟨_, rfl, _, ih.2 ⟨hall, rfl⟩, ?_⟩
            cases advice <;> simp [hfor]

end Turns

/-! ## Without rounding -/

/-- What one record in flight adds to the ceiling: the reciprocal of the flush time, from the clamp
    on. -/
def perRecord (flush : Double) : ℚ :=
  match pyMax (.fin (1 / 10 ^ 9)) flush with
  | .fin f => 1 / f
  | _ => 0

/-- The clamp keeps the flush time away from zero. -/
theorem clamp_cases (flush : Double) :
    (∃ f : ℚ, 0 < f ∧ pyMax (.fin (1 / 10 ^ 9)) flush = .fin f) ∨
      pyMax (.fin (1 / 10 ^ 9)) flush = .inf false := by
  have hclamp : (0 : ℚ) < 1 / 10 ^ 9 := by norm_num
  unfold pyMax
  cases flush with
  | nan => exact Or.inl ⟨_, hclamp, rfl⟩
  | inf negative =>
      cases negative with
      | true => exact Or.inl ⟨_, hclamp, rfl⟩
      | false => exact Or.inr rfl
  | fin f =>
      rw [Double.fin_lt_fin]
      by_cases h : (1 : ℚ) / 10 ^ 9 < f
      · rw [if_pos (decide_eq_true h)]
        exact Or.inl ⟨f, hclamp.trans h, rfl⟩
      · rw [if_neg (by simpa using h)]
        exact Or.inl ⟨_, hclamp, rfl⟩

theorem perRecord_nonneg (flush : Double) : 0 ≤ perRecord flush := by
  unfold perRecord
  rcases clamp_cases flush with ⟨f, hpos, hf⟩ | hinf
  · rw [hf]
    exact one_div_nonneg.2 hpos.le
  · rw [hinf]

theorem perRecord_of_le {f : ℚ} (h : 1 / 10 ^ 9 ≤ f) : perRecord (.fin f) = 1 / f := by
  have hclamp : pyMax (.fin (1 / 10 ^ 9)) (.fin f) = .fin f := by
    unfold pyMax
    rw [Double.fin_lt_fin]
    rcases h.lt_or_eq with hlt | rfl
    · rw [if_pos (decide_eq_true hlt)]
    · rw [if_neg (by simp)]
  rw [perRecord, hclamp]

/-- **The ceiling is proportional to the records in flight.** -/
theorem maxReachableRps_linear {p : Pipeline} {rps flush : Double}
    (hflush : p.flushSeconds .exact rps = .ok flush) (workers batchSize : Int) :
    p.maxReachableRps .exact workers batchSize rps
      = .ok (.fin ((workers * batchSize : Int) * perRecord flush)) := by
  have hvalue : p.maxReachableRps .exact workers batchSize rps
      = divide .exact (.fin (workers * batchSize : Int)) (pyMax (.fin (1 / 10 ^ 9)) flush) := by
    unfold Pipeline.maxReachableRps
    rw [hflush]
    rfl
  rw [hvalue, perRecord, divide]
  rcases clamp_cases flush with ⟨f, hpos, hf⟩ | hinf
  · rw [hf, FloatFormat.div_fin _ hpos.ne', div_eq_mul_one_div]
    rfl
  · rw [hinf]
    simp [FloatFormat.div, orRaise]

theorem ceil_eq_ok {z : Double} {n : Int} (h : ceil z = .ok n) :
    ∃ q : ℚ, z = .fin q ∧ q.ceil = n := by
  cases z with
  | fin q => exact ⟨q, rfl, Except.ok.inj h⟩
  | _ => simp [ceil, raise] at h

/-- A quotient that has a ceiling is one of rationals. -/
theorem mul_div_finite {x y z : Double} {b n : Int}
    (hz : divide .exact (FloatFormat.exact.mul x y) (.fin b) = .ok z) (hn : ceil z = .ok n) :
    b ≠ 0 ∧ ∃ p q : ℚ, x = .fin p ∧ y = .fin q ∧ n = (p * q / b).ceil := by
  obtain ⟨c, rfl, rfl⟩ := ceil_eq_ok hn
  have hdiv := orRaise_eq_ok.1 hz
  obtain ⟨hb, r, hr⟩ := FloatFormat.exact.div_eq_fin hdiv
  obtain ⟨p, q, rfl, rfl⟩ := FloatFormat.exact.mul_eq_fin hr
  refine ⟨by exact_mod_cast hb, p, q, rfl, rfl, ?_⟩
  have hmul : FloatFormat.exact.mul (.fin p) (.fin q) = .fin (p * q) := rfl
  rw [hmul, FloatFormat.div_fin _ hb] at hdiv
  obtain rfl : p * q / b = c := Double.fin.inj (Option.some.inj hdiv)
  rfl

/-- What an exact piece of advice comes from: finite numbers. -/
theorem stepAdvice_eq_some {pipeline : Pipeline} {wl : Workload} {step : Step} {a : Advice}
    (h : stepAdvice .exact pipeline wl step = .ok (some a)) :
    ∃ rps flush : ℚ, step.rps = .fin rps ∧ a.flush = .fin flush ∧
      pipeline.flushSeconds .exact step.rps = .ok (.fin flush) ∧ wl.batchSize ≠ 0 ∧
      (wl.workers * wl.batchSize : Int) * perRecord (.fin flush) * (102 / 100) < rps ∧
      a.need = (rps * flush / wl.batchSize).ceil := by
  simp only [stepAdvice, bind_eq_ok] at h
  obtain ⟨ceiling, hceiling, h⟩ := h
  split at h
  case isFalse => simp [pure_eq_ok] at h
  case isTrue hlt =>
    simp only [bind_eq_ok] at h
    obtain ⟨flush, hflush, size, hsize, batches, hbatches, need, hneed, h⟩ := h
    obtain rfl := Option.some.inj (pure_eq_ok.1 h)
    obtain rfl : Double.fin wl.batchSize = size := Except.ok.inj hsize
    obtain ⟨hne, rps, f, hrps, rfl, rfl⟩ := mul_div_finite hbatches hneed
    refine ⟨rps, f, hrps, rfl, hflush, hne, ?_, rfl⟩
    rw [maxReachableRps_linear hflush] at hceiling
    obtain rfl := Except.ok.inj hceiling
    rw [hrps] at hlt
    exact of_decide_eq_true hlt

/-! ## The same configuration with more workers -/

/-- The flags that are given are the flags less the `None`s. -/
theorem lookup_givenFlags {overrides : Items} (h : overrides.keys.Nodup) (k : KeyId) :
    (givenFlags overrides).lookup k = match overrides.lookup k with
      | some .none => none
      | v => v := by
  induction overrides with
  | nil => rfl
  | cons p rest ih =>
      obtain ⟨k', v⟩ := p
      simp only [Entries.keys_cons, List.nodup_cons] at h
      have hrest := ih h.2
      rw [Entries.lookup_cons]
      by_cases hk : k'.id = k
      · subst hk
        rw [lookup_eq_none h.1] at hrest
        rw [if_pos rfl]
        cases v with
        | none => exact hrest
        | _ => exact if_pos rfl
      · rw [if_neg hk]
        cases v with
        | none => exact hrest
        | _ => exact (if_neg hk).trans hrest

/-- The workload with other workers and another bound on what is in flight. -/
def Workload.withWorkers (wl : Workload) (workers maxInflight : Int) : Workload :=
  { wl with workers, maxInflight }

@[simp] theorem Workload.withWorkers_workers (wl : Workload) (workers maxInflight : Int) :
    (wl.withWorkers workers maxInflight).workers = workers := rfl

@[simp] theorem Workload.withWorkers_batchSize (wl : Workload) (workers maxInflight : Int) :
    (wl.withWorkers workers maxInflight).batchSize = wl.batchSize := rfl

/-- Flags that set the workers and the bound on what is in flight. -/
def withWorkers (overrides : Items) (workers maxInflight : Int) : Items :=
  (overrides.set (.str "workers") (.int workers)).set (.str "max_inflight") (.int maxInflight)

theorem nodup_withWorkers {overrides : Items} (h : overrides.keys.Nodup)
    (workers maxInflight : Int) :
    (withWorkers overrides workers maxInflight).keys.Nodup :=
  nodup_set (nodup_set h _ _) _ _

/-- What an overlay with these flags holds. -/
theorem lookup_withWorkers {overrides : Items} (h : overrides.keys.Nodup)
    (workers maxInflight : Int) (base : Items) (key : String) :
    (merge base (givenFlags (withWorkers overrides workers maxInflight))).lookup (.str key)
      = if key = "max_inflight" then some (.int maxInflight)
        else if key = "workers" then some (.int workers)
        else (merge base (givenFlags overrides)).lookup (.str key) := by
  have hnodup := nodup_withWorkers h workers maxInflight
  rw [lookup_merge (nodup_givenFlags hnodup), lookup_merge (nodup_givenFlags h),
    lookup_givenFlags hnodup, lookup_givenFlags h, withWorkers]
  rw [Entries.lookup_set_str, Entries.lookup_set_str]
  by_cases hmax : key = "max_inflight"
  · rw [if_pos hmax, if_pos hmax]
    rfl
  · rw [if_neg hmax, if_neg hmax]
    by_cases hworkers : key = "workers"
    · rw [if_pos hworkers, if_pos hworkers]
      rfl
    · rw [if_neg hworkers, if_neg hworkers]

theorem loadWorkload_of_from {fl : FloatFormat} {merged : Items} {wl : Workload}
    (h : WorkloadFrom fl merged wl) : loadWorkload fl merged = .ok wl := by
  have habort := h.abortOnConsecutiveFailures
  unfold workloadValue at habort
  simp only [loadWorkload, bind_eq_ok]
  refine ⟨_, h.retryMode, _, h.targetRps, _, h.durationSeconds, _, h.rampUpSeconds, _,
    h.rampDownSeconds, _, h.workers, _, h.channels, _, h.batchSize, _, h.maxInflight, _, habort, ?_⟩
  rw [if_neg (not_lt.2 h.workers_le)]
  rfl

/-- A positive integer setting is itself. -/
theorem workloadInt_of_lookup {workload : Items} {key : String} {default n : Int} (hn : 0 < n)
    (h : workload.lookup (.str key) = some (.int n)) :
    workloadInt .exact workload key default = .ok n := by
  refine workloadInt_eq_ok.2 ⟨n, ?_, by exact_mod_cast hn, ?_⟩
  · simp only [workloadValue, h, Option.getD_some]
    rfl
  · simp

/-- The workload with other workers, from flags that set them. -/
theorem WorkloadFrom.withWorkers {overrides base : Items} {wl : Workload} {workers m : Int}
    (hoverrides : overrides.keys.Nodup)
    (h : WorkloadFrom .exact (merge base (givenFlags overrides)) wl)
    (hworkers : 0 < workers) (hle : workers ≤ m) :
    WorkloadFrom .exact (merge base (givenFlags (withWorkers overrides workers m)))
      (wl.withWorkers workers m) := by
  have hlookup := lookup_withWorkers hoverrides workers m base
  have hsame : ∀ key, key ≠ "max_inflight" → key ≠ "workers" →
      (merge base (givenFlags (Config.withWorkers overrides workers m))).lookup (.str key)
        = (merge base (givenFlags overrides)).lookup (.str key) := by
    intro key hmax hne
    rw [hlookup, if_neg hmax, if_neg hne]
  have hnumber : ∀ key default allowZero, key ≠ "max_inflight" → key ≠ "workers" →
      workloadNumber .exact (merge base (givenFlags (Config.withWorkers overrides workers m))) key
          default allowZero
        = workloadNumber .exact (merge base (givenFlags overrides)) key default allowZero := by
    intro key default allowZero hmax hne
    unfold workloadNumber
    rw [hsame key hmax hne]
  have hint : ∀ key default, key ≠ "max_inflight" → key ≠ "workers" →
      workloadInt .exact (merge base (givenFlags (Config.withWorkers overrides workers m))) key
          default
        = workloadInt .exact (merge base (givenFlags overrides)) key default := by
    intro key default hmax hne
    unfold workloadInt
    rw [hnumber key default false hmax hne]
  exact
    { retryMode := by
        unfold loadRetryMode
        rw [hsame "retry_mode" (by decide) (by decide)]
        exact h.retryMode
      targetRps := (hnumber _ _ _ (by decide) (by decide)).trans h.targetRps
      durationSeconds := (hnumber _ _ _ (by decide) (by decide)).trans h.durationSeconds
      rampUpSeconds := (hnumber _ _ _ (by decide) (by decide)).trans h.rampUpSeconds
      rampDownSeconds := (hnumber _ _ _ (by decide) (by decide)).trans h.rampDownSeconds
      workers := workloadInt_of_lookup hworkers (by rw [hlookup]; rfl)
      channels := (hint _ _ (by decide) (by decide)).trans h.channels
      batchSize := (hint _ _ (by decide) (by decide)).trans h.batchSize
      maxInflight := workloadInt_of_lookup (hworkers.trans_le hle) (by rw [hlookup]; rfl)
      abortOnConsecutiveFailures := by
        unfold workloadValue
        rw [hsame "abort_on_consecutive_failures" (by decide) (by decide)]
        exact h.abortOnConsecutiveFailures
      workers_le := hle }

/-! ## More workers, fewer warnings -/

theorem lt_of_fin_le {p q : ℚ} {x : Double} (hle : p ≤ q) (h : (Double.fin q).lt x = true) :
    (Double.fin p).lt x = true := by
  cases x with
  | nan => simp [Double.lt] at h
  | inf negative => exact h
  | fin r => exact decide_eq_true (hle.trans_lt (of_decide_eq_true h))

/-- The check without rounding, where the flush time is defined. -/
theorem stepAdvice_exact {pipeline : Pipeline} {wl : Workload} {step : Step} {flush : Double}
    (hflush : pipeline.flushSeconds .exact step.rps = .ok flush) :
    stepAdvice .exact pipeline wl step
      = if (Double.fin ((wl.workers * wl.batchSize : Int) * perRecord flush * (102 / 100))).lt
            step.rps then do
          let batches ← divide .exact (FloatFormat.exact.mul step.rps flush) (.fin wl.batchSize)
          let need ← ceil batches
          return some
            { ceiling := .fin ((wl.workers * wl.batchSize : Int) * perRecord flush), flush, need }
        else .ok none := by
  simp only [stepAdvice, maxReachableRps_linear hflush, hflush]
  rfl

/-- **With more workers a step's check gets through as before.** The ceiling grows, and the number
advised does not depend on the workers. -/
theorem stepAdvice_of_le {pipeline : Pipeline} {wl : Workload} {step : Step}
    {advice : Option Advice} {workers m : Int} (hsize : 0 ≤ wl.batchSize)
    (hle : wl.workers ≤ workers)
    (h : stepAdvice .exact pipeline wl step = .ok advice) :
    ∃ advice', stepAdvice .exact pipeline (wl.withWorkers workers m) step
      = .ok advice' := by
  obtain ⟨flush, hflush⟩ : ∃ flush, pipeline.flushSeconds .exact step.rps = .ok flush := by
    simp only [stepAdvice, Pipeline.maxReachableRps, bind_eq_ok] at h
    obtain ⟨_, ⟨flush, hflush, -⟩, -⟩ := h
    exact ⟨flush, hflush⟩
  have hmono : ((wl.workers * wl.batchSize : Int) : ℚ) * perRecord flush * (102 / 100)
      ≤ ((workers * wl.batchSize : Int) : ℚ) * perRecord flush * (102 / 100) := by
    have hrecords : ((wl.workers * wl.batchSize : Int) : ℚ) ≤ (workers * wl.batchSize : Int) := by
      exact_mod_cast mul_le_mul_of_nonneg_right hle hsize
    have := mul_le_mul_of_nonneg_right hrecords (perRecord_nonneg flush)
    linarith
  rw [stepAdvice_exact hflush] at h ⊢
  split
  case isFalse => exact ⟨none, rfl⟩
  case isTrue hlt =>
    -- the step was warned about before
    rw [if_pos (lt_of_fin_le hmono hlt)] at h
    simp only [bind_eq_ok] at h ⊢
    obtain ⟨batches, hbatches, need, hneed, -⟩ := h
    exact ⟨_, batches, hbatches, need, hneed, rfl⟩

/-- **The arithmetic of the advice.** -/
theorem need_bounds {rps flush : ℚ} {workers batchSize : Int} (hsize : 0 < batchSize)
    (hworkers : 0 ≤ workers) (hflush : 1 / 10 ^ 9 ≤ flush)
    (hlt : (workers * batchSize : Int) * perRecord (.fin flush) * (102 / 100) < rps) :
    workers < (rps * flush / batchSize).ceil ∧
      rps ≤ ((rps * flush / batchSize).ceil * batchSize : Int) * perRecord (.fin flush) ∧
      (((rps * flush / batchSize).ceil - 1) * batchSize : Int) * perRecord (.fin flush) < rps := by
  have hf : 0 < flush := lt_of_lt_of_le (by norm_num) hflush
  have hb : (0 : ℚ) < batchSize := by exact_mod_cast hsize
  have hw : (0 : ℚ) ≤ workers := by exact_mod_cast hworkers
  rw [perRecord_of_le hflush] at *
  -- in batches: what one flush time of the rate is
  have hceiling : ∀ n : Int, ((n * batchSize : Int) : ℚ) * (1 / flush) = n * (batchSize / flush) :=
    fun n => by push_cast; ring
  have hrate : rps = rps * flush / batchSize * (batchSize / flush) := by field_simp
  have hunit : 0 < (batchSize : ℚ) / flush := div_pos hb hf
  have hup : rps * flush / batchSize ≤ (rps * flush / batchSize).ceil := Rat.le_ceil
  have hdown : ((rps * flush / batchSize).ceil : ℚ) < rps * flush / batchSize + 1 := Rat.ceil_lt
  rw [hceiling] at hlt
  refine ⟨?_, ?_, ?_⟩
  · -- the warning leaves room for the tolerance
    have hbelow : (workers : ℚ) * (batchSize / flush) < rps := by
      have := mul_nonneg hw hunit.le
      linarith
    rw [hrate] at hbelow
    have := lt_of_mul_lt_mul_right hbelow hunit.le
    exact_mod_cast this.trans_le hup
  · rw [hceiling]
    calc rps = rps * flush / batchSize * (batchSize / flush) := hrate
      _ ≤ _ := mul_le_mul_of_nonneg_right hup hunit.le
  · rw [hceiling]
    calc (((rps * flush / batchSize).ceil - 1 : Int) : ℚ) * (batchSize / flush)
        < rps * flush / batchSize * (batchSize / flush) := by
          refine mul_lt_mul_of_pos_right ?_ hunit
          push_cast
          linarith
      _ = rps := hrate.symm

/-! ## Loading with other flags -/

theorem buildSteps_congr {fl : FloatFormat} {rawSteps : Value} {wl wl' : Workload}
    (hrps : wl'.targetRps = wl.targetRps) (hduration : wl'.durationSeconds = wl.durationSeconds) :
    buildSteps fl rawSteps wl' = buildSteps fl rawSteps wl := by
  unfold buildSteps
  rw [hrps, hduration]

/-- **Other flags, other workload, the rest as it was.** -/
theorem load_withFlags {fl : FloatFormat} {environ : String → Option String} {path : String}
    {doc : Value} {profile : String} {overrides : Items} {cfg : GeneratorConfig}
    (h : load fl environ path doc profile overrides = .ok cfg) :
    ∃ base, WorkloadFrom fl (merge base (givenFlags overrides)) cfg.workload ∧
      loadWarnings fl cfg.pipeline cfg.workload cfg.steps = .ok cfg.warnings ∧
      ∀ overrides' wl' warnings',
        WorkloadFrom fl (merge base (givenFlags overrides')) wl' →
        wl'.targetRps = cfg.workload.targetRps →
        wl'.durationSeconds = cfg.workload.durationSeconds →
        loadWarnings fl cfg.pipeline wl' cfg.steps = .ok warnings' →
        load fl environ path doc profile overrides'
          = .ok { cfg with workload := wl', warnings := warnings' } := by
  simp only [load, mergedWorkload, bind_eq_ok, pure_eq_ok] at h
  obtain ⟨raw, hraw, gen, hgen, prof, hprof, merged,
    ⟨lower, hlower, upper, hupper, base, hbase, rfl⟩, target, htarget, auth, hauth, wl, hwl,
    rawSteps, hrawSteps, steps, hsteps, pipeline, hpipeline, warnings, hwarnings, rest⟩ := h
  obtain ⟨description, hdescription, text, htext, interval, hinterval, checkpoint, hcheckpoint,
    data, hdata, output, houtput, stopWhen, hstopWhen, fault, hfault, rfl⟩ := rest
  refine ⟨base, loadWorkload_from hwl, hwarnings, ?_⟩
  intro overrides' wl' warnings' hfrom hrps hduration hwarnings'
  simp only [load, mergedWorkload, bind_eq_ok, pure_eq_ok]
  refine ⟨raw, hraw, gen, hgen, prof, hprof, _, ⟨lower, hlower, upper, hupper, base, hbase, rfl⟩,
    target, htarget, auth, hauth, wl', loadWorkload_of_from hfrom, rawSteps, hrawSteps, steps, ?_,
    pipeline, hpipeline, warnings', hwarnings', description, hdescription, text, htext, interval,
    hinterval, checkpoint, hcheckpoint, data, hdata, output, houtput, stopWhen, hstopWhen, fault,
    hfault, rfl⟩
  rw [buildSteps_congr hrps hduration]
  exact hsteps

/-! ## The advice works -/

namespace GeneratorConfig

/-- The advice on a step of a configuration. -/
def advice (fl : FloatFormat) (cfg : GeneratorConfig) (step : Step) : Option Advice :=
  adviceFor fl cfg.pipeline cfg.workload step

/-- The warnings of a configuration are the advice on its steps. -/
def WarnsAsAdvised (fl : FloatFormat) (cfg : GeneratorConfig) : Prop :=
  cfg.warnings = cfg.steps.filterMap fun step =>
    (cfg.advice fl step).map fun a => a.text step cfg.workload

end GeneratorConfig

/-- What following a piece of advice on a step is good for. `reload` loads the same input with as
many workers and such a bound on what is in flight. -/
structure Advice.Works (a : Advice) (cfg : GeneratorConfig) (step : Step)
    (reload : Int → Int → Py GeneratorConfig) : Prop where
  /-- It asks for more. -/
  more : cfg.workload.workers < a.need
  /-- It silences the warning. -/
  enough : ∀ maxInflight, a.need ≤ maxInflight → ∃ cfg', reload a.need maxInflight = .ok cfg' ∧
    cfg' = { cfg with
      workload := cfg.workload.withWorkers a.need maxInflight, warnings := cfg'.warnings } ∧
    cfg'.WarnsAsAdvised .exact ∧ cfg'.advice .exact step = none
  /-- One worker less does not reach the rate. -/
  least : ∃ ceiling, cfg.pipeline.maxReachableRps .exact (a.need - 1) cfg.workload.batchSize
    step.rps = .ok ceiling ∧ ceiling.lt step.rps = true

/-- **Following the advice on an unreachable rate works**, and less does not. -/
theorem advice_works {environ : String → Option String} {path : String} {doc : Value}
    {profile : String} {overrides : Items} {cfg : GeneratorConfig}
    (hoverrides : overrides.keys.Nodup)
    (h : load .exact environ path doc profile overrides = .ok cfg) :
    cfg.WarnsAsAdvised .exact ∧ ∀ step ∈ cfg.steps, ∀ flush,
      cfg.pipeline.flushSeconds .exact step.rps = .ok flush →
      (Double.fin (1 / 10 ^ 9)).le flush = true →
      ∀ a, cfg.advice .exact step = some a →
        a.Works cfg step fun workers maxInflight =>
          load .exact environ path doc profile (withWorkers overrides workers maxInflight) := by
  obtain ⟨base, hfrom, hwarnings, hreload⟩ := load_withFlags h
  obtain ⟨hchecked, hwarns⟩ := (loadWarnings_eq_ok hfrom.workers_le).1 hwarnings
  refine ⟨hwarns, ?_⟩
  intro step hstep flush hflush hclamp a ha
  have hadvice : stepAdvice .exact cfg.pipeline cfg.workload step = .ok (some a) :=
    (hchecked step hstep).trans (congrArg Except.ok ha)
  obtain ⟨rps, f, hrps, -, hflush', hne, hlt, hneed⟩ := stepAdvice_eq_some hadvice
  obtain rfl : flush = .fin f := Except.ok.inj (hflush.symm.trans hflush')
  have hsize : 0 < cfg.workload.batchSize := by
    obtain ⟨q, -, hpos, heq⟩ := workloadInt_eq_ok.1 hfrom.batchSize
    exact lt_of_le_of_ne (heq ▸ tdiv_nonneg hpos) hne.symm
  have hworkers : 0 ≤ cfg.workload.workers := by
    obtain ⟨q, -, hpos, heq⟩ := workloadInt_eq_ok.1 hfrom.workers
    exact heq ▸ tdiv_nonneg hpos
  obtain ⟨hmore, hreach, hless⟩ := need_bounds hsize hworkers (of_decide_eq_true
    ((Double.fin_le_fin _ _).symm.trans hclamp)) hlt
  rw [← hneed] at hmore hreach hless
  refine ⟨hmore, ?_, ?_⟩
  · intro m hm
    have hfrom' := hfrom.withWorkers hoverrides (hworkers.trans_lt hmore) hm
    have hchecked' : ∀ step ∈ cfg.steps,
        stepAdvice .exact cfg.pipeline (cfg.workload.withWorkers a.need m) step
          = .ok (adviceFor .exact cfg.pipeline (cfg.workload.withWorkers a.need m) step) := by
      intro step hstep
      obtain ⟨advice', hadvice'⟩ :=
        stepAdvice_of_le (m := m) hsize.le hmore.le (hchecked step hstep)
      simp [adviceFor, hadvice']
    have hload := hreload _ _ _ hfrom' rfl rfl
      ((loadWarnings_eq_ok hfrom'.workers_le).2 ⟨hchecked', rfl⟩)
    refine ⟨_, hload, rfl, rfl, ?_⟩
    -- the ceiling is at least the rate now
    have hquiet : stepAdvice .exact cfg.pipeline (cfg.workload.withWorkers a.need m) step
        = .ok none := by
      rw [stepAdvice_exact hflush', if_neg]
      rw [hrps, Double.fin_lt_fin, decide_eq_true_eq, not_lt, Workload.withWorkers_workers,
        Workload.withWorkers_batchSize]
      have hnonneg : 0 ≤ ((a.need * cfg.workload.batchSize : Int) : ℚ) * perRecord (.fin f) := by
        refine mul_nonneg ?_ (perRecord_nonneg _)
        exact_mod_cast mul_nonneg (hworkers.trans hmore.le) hsize.le
      linarith
    simp [GeneratorConfig.advice, adviceFor, hquiet]
  · exact ⟨_, maxReachableRps_linear hflush' _ _, by rw [hrps]; exact decide_eq_true hless⟩

/-- Four workers with two hundred records each, for a thousand records a second. -/
def unreachableWorkload : Items :=
  [entry "target_rps" (.int 1000), entry "workers" (.int 4), entry "batch_size" (.int 200)]

/-- A flush takes the five seconds of the timer, so 25 workers it takes. -/
theorem advice_works_unreachableWorkload :
    ∃ cfg step a, load .exact (fun _ => none) "generator.yaml"
        (smallDocument unreachableWorkload []) "smoke" [] = .ok cfg ∧ step ∈ cfg.steps ∧
      cfg.advice .exact step = some a ∧ a.need = 25 ∧
      a.Works cfg step fun workers maxInflight =>
        load .exact (fun _ => none) "generator.yaml" (smallDocument unreachableWorkload []) "smoke"
          (withWorkers [] workers maxInflight) := by
  obtain ⟨cfg, hload, hcfg⟩ := exists_ok_of_any
    (x := load .exact (fun _ => none) "generator.yaml" (smallDocument unreachableWorkload [])
      "smoke" [])
    (P := fun cfg => cfg.steps = [⟨0, .fin 1000, .fin 60⟩] ∧
      cfg.advice .exact ⟨0, .fin 1000, .fin 60⟩ = some ⟨.fin 160, .fin 5, 25⟩ ∧
      cfg.pipeline.flushSeconds .exact (.fin 1000) = .ok (.fin 5))
    (by decide +kernel)
  obtain ⟨hsteps, hadvice, hflush⟩ := of_decide_eq_true hcfg
  have hstep : ⟨0, .fin 1000, .fin 60⟩ ∈ cfg.steps := by simp [hsteps]
  exact ⟨cfg, _, _, hload, hstep, hadvice, rfl,
    (advice_works (by decide) hload).2 _ hstep _ hflush (by decide +kernel) _ hadvice⟩

end AnalyticsTesting.Config
