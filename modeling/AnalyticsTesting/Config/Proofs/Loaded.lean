import AnalyticsTesting.Config.Load

set_option autoImplicit false

/-! # What an accepted configuration is made of

`load_loaded` takes a successful `load` apart: the generator section, the profile, the merged
workload, and how the fields of the configuration come from them. `positive_eq_ok`,
`workloadInt_eq_ok` and `buildSteps_eq_ok` say the same of the checks and of the plan. -/

namespace AnalyticsTesting.Config

variable {fl : FloatFormat}

/-- How an accepted configuration comes from the document: `raw` is the expanded one, `gen` and
`prof` are its sections, `merged` the overlaid workload, `rawSteps` the profile's steps. -/
structure Loaded (fl : FloatFormat) (environ : String → Option String) (path : String)
    (doc : Value) (profile : String) (overrides : Items) (cfg : GeneratorConfig)
    (raw gen prof : Value) (merged : Items) (rawSteps : Value) : Prop where
  raw_eq : document environ doc = .ok raw
  gen_eq : generatorSection path raw = .ok gen
  prof_eq : profileSection raw profile = .ok prof
  merged_eq : mergedWorkload gen prof overrides = .ok merged
  target_eq : loadTarget fl gen = .ok cfg.target
  auth_eq : loadAuth fl gen = .ok cfg.auth
  workload_eq : loadWorkload fl merged = .ok cfg.workload
  rawSteps_eq : prof.get "steps" .none = .ok rawSteps
  steps_eq : buildSteps fl rawSteps cfg.workload = .ok cfg.steps
  pipeline_eq : loadPipeline fl gen = .ok cfg.pipeline
  warnings_eq : loadWarnings fl cfg.pipeline cfg.workload cfg.steps = .ok cfg.warnings

theorem load_loaded {environ : String → Option String} {path : String} {doc : Value}
    {profile : String} {overrides : Items} {cfg : GeneratorConfig}
    (h : load fl environ path doc profile overrides = .ok cfg) :
    ∃ raw gen prof merged rawSteps,
      Loaded fl environ path doc profile overrides cfg raw gen prof merged rawSteps := by
  simp only [load, bind_eq_ok, pure_eq_ok] at h
  obtain ⟨raw, hraw, gen, hgen, prof, hprof, merged, hmerged, target, htarget, auth, hauth, wl, hwl,
    rawSteps, hrawSteps, steps, hsteps, pipeline, hpipeline, warnings, hwarnings, -, -, -, -, -, -,
    -, -, -, -, -, -, -, -, -, -, rfl⟩ := h
  exact ⟨raw, gen, prof, merged, rawSteps, hraw, hgen, hprof, hmerged, htarget, hauth, hwl,
    hrawSteps, hsteps, hpipeline, hwarnings⟩

/-! ## The checks -/

/-- `_positive` lets this number through. -/
def passesPositive (num : Double) (allowZero : Bool) : Bool :=
  !(num.lt (.fin 0) || (num = .fin 0 && !allowZero))

/-- A positive number passes, a zero where that is allowed, and a NaN, which every comparison with
it lets pass. -/
theorem passesPositive_iff {num : Double} {allowZero : Bool} :
    passesPositive num allowZero = true ↔
      num = .nan ∨ num.Pos ∨ (num = .fin 0 ∧ allowZero = true) := by
  cases num with
  | nan => simp [passesPositive, Double.lt]
  | inf negative => cases negative <;> simp [passesPositive, Double.lt, Double.Pos]
  | fin q =>
      have hpasses : passesPositive (.fin q) allowZero = true ↔
          0 ≤ q ∧ (q = 0 → allowZero = true) := by
        simp [passesPositive, imp_iff_not_or]
      rw [hpasses]
      constructor
      · rintro ⟨hle, hzero⟩
        rcases hle.lt_or_eq with hpos | rfl
        · exact Or.inr (Or.inl hpos)
        · exact Or.inr (Or.inr ⟨rfl, hzero rfl⟩)
      · rintro (hnan | hpos | ⟨hzero, hallow⟩)
        · simp at hnan
        · exact ⟨le_of_lt hpos, fun hzero => absurd hzero (ne_of_gt hpos)⟩
        · exact ⟨(Double.fin.inj hzero).ge, fun _ => hallow⟩

/-- What `_positive` makes of a number. -/
theorem positive_of_float {value : Value} {num : Double} (h : value.toFloat fl = .ok num)
    (path : String) (allowZero : Bool) :
    positive fl value path allowZero =
      if passesPositive num allowZero then .ok num
      else .error (.configError (path ++ " must be > 0, got " ++ numberText fl value num)) := by
  simp only [positive, h, passesPositive, raise]
  split
  case isTrue hc => simp [hc]
  case isFalse hc => simp [hc]

/-- `_positive` lets through what `float` makes of the value, if it passes. -/
theorem positive_eq_ok {value : Value} {path : String} {allowZero : Bool} {x : Double} :
    positive fl value path allowZero = .ok x ↔
      value.toFloat fl = .ok x ∧ (x = .nan ∨ x.Pos ∨ (x = .fin 0 ∧ allowZero = true)) := by
  rw [← passesPositive_iff]
  cases hv : value.toFloat fl with
  | error e =>
      have hraise : ∀ e', positive fl value path allowZero ≠ .ok e' := by
        intro e'
        unfold positive
        rw [hv]
        dsimp only
        split
        · simp [raise, bind_eq_ok]
        · simp [raise]
      simp [hraise]
  | ok num =>
      rw [positive_of_float hv]
      constructor
      · intro h
        split at h
        case isTrue hpasses =>
          obtain rfl := Except.ok.inj h
          exact ⟨rfl, hpasses⟩
        case isFalse => simp at h
      · rintro ⟨h, hpasses⟩
        obtain rfl := Except.ok.inj h
        exact if_pos hpasses

/-- The value of a workload key, with its default. -/
def workloadValue (workload : Items) (key : String) (default : Int) : Value :=
  (workload.lookup (.str key)).getD (.int default)

theorem workloadNumber_eq_ok {workload : Items} {key : String} {default : Int} {x : Double} :
    workloadNumber fl workload key default false = .ok x ↔
      (workloadValue workload key default).toFloat fl = .ok x ∧ (x = .nan ∨ x.Pos) := by
  unfold workloadNumber
  rw [positive_eq_ok]
  simp [workloadValue]

/-- Truncating a positive rational. -/
theorem one_le_tdiv_iff {q : ℚ} (hq : 0 < q) : 1 ≤ q.num.tdiv q.den ↔ 1 ≤ q := by
  rw [Int.tdiv_eq_ediv_of_nonneg (Rat.num_pos.2 hq).le, ← Rat.floor_def, Rat.le_floor_iff]
  norm_num

theorem tdiv_nonneg {q : ℚ} (hq : 0 < q) : 0 ≤ q.num.tdiv q.den :=
  Int.tdiv_nonneg (Rat.num_pos.2 hq).le (Int.natCast_nonneg _)

/-- An integer key is the truncation of a positive finite number. -/
theorem workloadInt_eq_ok {workload : Items} {key : String} {default n : Int} :
    workloadInt fl workload key default = .ok n ↔
      ∃ q : ℚ, (workloadValue workload key default).toFloat fl = .ok (.fin q) ∧ 0 < q ∧
        n = q.num.tdiv q.den := by
  unfold workloadInt
  rw [bind_eq_ok]
  constructor
  · rintro ⟨x, hx, hn⟩
    obtain ⟨hfloat, hpos⟩ := workloadNumber_eq_ok.1 hx
    cases x with
    | nan => simp [Value.floatToInt, raise] at hn
    | inf negative => simp [Value.floatToInt, raise] at hn
    | fin q =>
        rcases hpos with hnan | hpos
        · simp at hnan
        · exact ⟨q, hfloat, hpos, (Except.ok.inj hn).symm⟩
  · rintro ⟨q, hfloat, hpos, rfl⟩
    exact ⟨.fin q, workloadNumber_eq_ok.2 ⟨hfloat, Or.inr hpos⟩, rfl⟩

/-- How the checked fields of the workload come from the merged one. -/
structure WorkloadFrom (fl : FloatFormat) (merged : Items) (wl : Workload) : Prop where
  retryMode : loadRetryMode fl merged = .ok wl.retryMode
  targetRps : workloadNumber fl merged "target_rps" 0 false = .ok wl.targetRps
  durationSeconds : workloadNumber fl merged "duration_seconds" 60 false = .ok wl.durationSeconds
  rampUpSeconds : workloadNumber fl merged "ramp_up_seconds" 0 true = .ok wl.rampUpSeconds
  rampDownSeconds : workloadNumber fl merged "ramp_down_seconds" 0 true = .ok wl.rampDownSeconds
  workers : workloadInt fl merged "workers" 8 = .ok wl.workers
  channels : workloadInt fl merged "channels" 1 = .ok wl.channels
  batchSize : workloadInt fl merged "batch_size" 100 = .ok wl.batchSize
  maxInflight : workloadInt fl merged "max_inflight" 64 = .ok wl.maxInflight
  abortOnConsecutiveFailures :
    ((workloadValue merged "abort_on_consecutive_failures" 0).orElse (.int 0)).toInt
      = .ok wl.abortOnConsecutiveFailures
  workers_le : wl.workers ≤ wl.maxInflight

theorem loadWorkload_from {merged : Items} {wl : Workload}
    (h : loadWorkload fl merged = .ok wl) : WorkloadFrom fl merged wl := by
  simp only [loadWorkload, bind_eq_ok] at h
  obtain ⟨retryMode, h₁, targetRps, h₂, durationSeconds, h₃, rampUp, h₄, rampDown, h₅, workers, h₆,
    channels, h₇, batchSize, h₈, maxInflight, h₉, abort, h₁₀, h⟩ := h
  split at h
  case isTrue => simp [raise] at h
  case isFalse hle =>
    obtain rfl := pure_eq_ok.1 h
    exact ⟨h₁, h₂, h₃, h₄, h₅, h₆, h₇, h₈, h₉, h₁₀, not_lt.1 hle⟩

/-! ## The plan -/

/-- Each entry of one of two matching lists has a partner in the other. -/
theorem exists_of_mem_left {α β : Type} {R : α → β → Prop} {l : List α} {l' : List β}
    (h : List.Forall₂ R l l') : ∀ a ∈ l, ∃ b ∈ l', R a b := by
  induction h with
  | nil => simp
  | cons hab _ ih =>
      intro a ha
      rcases List.mem_cons.1 ha with rfl | hmem
      · exact ⟨_, List.mem_cons_self .., hab⟩
      · obtain ⟨b, hb, hR⟩ := ih a hmem
        exact ⟨b, List.mem_cons_of_mem _ hb, hR⟩

theorem exists_of_mem_right {α β : Type} {R : α → β → Prop} {l : List α} {l' : List β}
    (h : List.Forall₂ R l l') : ∀ b ∈ l', ∃ a ∈ l, R a b := by
  intro b hb
  obtain ⟨a, ha, hR⟩ := exists_of_mem_left h.flip b hb
  exact ⟨a, ha, hR⟩

/-- The rate and the duration of one entry of a staircase, as the document has them. -/
def rawStep (s : Value) : Value × Value :=
  match s with
  | .dict items => ((Entries.lookup items (.str "rps")).getD .none,
      (Entries.lookup items (.str "duration_seconds")).getD .none)
  | _ => (.none, .none)

/-- The entries of a staircase. -/
def listed : Value → List Value
  | .list xs => xs
  | .pair v v' => [v, v']
  | _ => []

/-- The rates and durations a profile lists. -/
def listedSteps (rawSteps : Value) : List (Value × Value) := (listed rawSteps).map rawStep

/-- The rates and durations of the plan, as the document and the flags have them. -/
def rawPlan (rawSteps : Value) (merged : Items) : List (Value × Value) :=
  if rawSteps.truthy then listedSteps rawSteps
  else [(workloadValue merged "target_rps" 0, workloadValue merged "duration_seconds" 60)]

/-- A step of the plan is what `float` makes of its raw rate and duration, and neither is zero or
negative. -/
structure StepFrom (fl : FloatFormat) (raw : Value × Value) (step : Step) : Prop where
  rps : raw.1.toFloat fl = .ok step.rps
  rps_pos : step.rps = .nan ∨ step.rps.Pos
  duration : raw.2.toFloat fl = .ok step.durationSeconds
  duration_pos : step.durationSeconds = .nan ∨ step.durationSeconds.Pos

theorem buildStep_from {i : Nat} {s : Value} {step : Step} (h : buildStep fl i s = .ok step) :
    (∃ items, s = .dict items) ∧ StepFrom fl (rawStep s) step := by
  simp only [buildStep, bind_eq_ok] at h
  obtain ⟨r, hr, rps, hrps, d, hd, duration, hduration, h⟩ := h
  obtain rfl := pure_eq_ok.1 h
  cases s with
  | dict items =>
      obtain rfl := Except.ok.inj hr
      obtain rfl := Except.ok.inj hd
      obtain ⟨hfloat, hpos⟩ := positive_eq_ok.1 hrps
      obtain ⟨hfloat', hpos'⟩ := positive_eq_ok.1 hduration
      exact ⟨⟨items, rfl⟩, hfloat, by simpa using hpos, hfloat', by simpa using hpos'⟩
  | _ => simp [Value.get, raise] at hr

theorem buildStepsFrom_from {xs : List Value} :
    ∀ {i : Nat} {steps : List Step}, buildStepsFrom fl i xs = .ok steps →
      List.Forall₂ (StepFrom fl) (xs.map rawStep) steps ∧ ∀ s ∈ xs, ∃ items, s = .dict items := by
  induction xs with
  | nil =>
      intro i steps h
      obtain rfl := Except.ok.inj h
      exact ⟨.nil, by simp⟩
  | cons s xs ih =>
      intro i steps h
      simp only [buildStepsFrom, bind_eq_ok] at h
      obtain ⟨step, hstep, rest, hrest, h⟩ := h
      obtain rfl := pure_eq_ok.1 h
      obtain ⟨hdict, hfrom⟩ := buildStep_from hstep
      obtain ⟨hall, hdicts⟩ := ih hrest
      refine ⟨.cons hfrom hall, ?_⟩
      intro s' hs'
      rcases List.mem_cons.1 hs' with rfl | hmem
      · exact hdict
      · exact hdicts s' hmem

theorem ofKey_ne_dict (k : Key) (items : Items) : Value.ofKey k ≠ .dict items := by
  cases k <;> simp [Value.ofKey]

/-- What has something to go through is not empty. -/
theorem ne_nil_of_iterate {v : Value} {xs : List Value} (h : v.iterate = .ok xs)
    (htruthy : v.truthy = true) : xs ≠ [] := by
  cases v
  case list ys | dict ys | set ys | str ys | bytes ys =>
    obtain rfl := Except.ok.inj h
    simpa [Value.truthy] using htruthy
  case pair v v' =>
    obtain rfl := Except.ok.inj h
    simp
  all_goals simp [Value.iterate, raise] at h

theorem map_eq_nil_of_ne_dict {α : Type} {f : α → Value} (hf : ∀ a items, f a ≠ .dict items)
    {l : List α} (h : ∀ s ∈ l.map f, ∃ items, s = .dict items) : l.map f = [] := by
  cases l with
  | nil => rfl
  | cons a l =>
      obtain ⟨items, hitems⟩ := h (f a) List.mem_cons_self
      exact absurd hitems (hf a items)

/-- Keys, characters and bytes are not mappings, so only a list or a tuple holds mappings. -/
theorem eq_listed_of_iterate {v : Value} {xs : List Value} (h : v.iterate = .ok xs)
    (hdicts : ∀ s ∈ xs, ∃ items, s = .dict items) : xs = listed v := by
  cases v
  case list ys | pair v v' => exact (Except.ok.inj h).symm
  case dict items =>
    obtain rfl := Except.ok.inj h
    exact map_eq_nil_of_ne_dict (fun _ _ => ofKey_ne_dict _ _) hdicts
  case set elements =>
    obtain rfl := Except.ok.inj h
    exact map_eq_nil_of_ne_dict ofKey_ne_dict hdicts
  case str s =>
    obtain rfl := Except.ok.inj h
    exact map_eq_nil_of_ne_dict (by simp) hdicts
  case bytes b =>
    obtain rfl := Except.ok.inj h
    exact map_eq_nil_of_ne_dict (by simp [Value.ofByte]) hdicts
  all_goals simp [Value.iterate, raise] at h

/-- **The plan is the document's**: one step per raw entry, and at least one. -/
theorem buildSteps_eq_ok {rawSteps : Value} {merged : Items} {wl : Workload} {steps : List Step}
    (hwl : WorkloadFrom fl merged wl) (h : buildSteps fl rawSteps wl = .ok steps) :
    List.Forall₂ (StepFrom fl) (rawPlan rawSteps merged) steps ∧ steps ≠ [] := by
  unfold buildSteps at h
  unfold rawPlan
  cases htruthy : rawSteps.truthy with
  | false =>
      simp only [htruthy, Bool.not_false, if_true] at h
      obtain rfl := pure_eq_ok.1 h
      obtain ⟨hrps, hrpsPos⟩ := workloadNumber_eq_ok.1 hwl.targetRps
      obtain ⟨hdur, hdurPos⟩ := workloadNumber_eq_ok.1 hwl.durationSeconds
      exact ⟨.cons ⟨hrps, hrpsPos, hdur, hdurPos⟩ .nil, by simp⟩
  | true =>
      simp only [htruthy, Bool.not_true, Bool.false_eq_true, if_false, bind_eq_ok] at h
      obtain ⟨xs, hxs, hsteps⟩ := h
      obtain ⟨hall, hdicts⟩ := buildStepsFrom_from hsteps
      have hne := ne_nil_of_iterate hxs htruthy
      rw [eq_listed_of_iterate hxs hdicts] at hall hne
      refine ⟨hall, ?_⟩
      rintro rfl
      have hlen := hall.length_eq
      simp at hlen
      exact hne hlen

end AnalyticsTesting.Config
