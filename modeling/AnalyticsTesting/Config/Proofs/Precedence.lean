import AnalyticsTesting.Config.Proofs.Loaded
import AnalyticsTesting.Config.Proofs.Overlay

set_option autoImplicit false

/-! # Flags over profile over defaults

The merged workload has the precedence that is promised (`Layered.effectiveWorkload`). The plan is
built from the profile's own steps, so a rate or a duration given on the command line reaches it
only where there is no staircase, or one whose steps have that rate or duration already
(`commandLineWins_iff`). -/

namespace AnalyticsTesting.Config

/-- The layers a configuration is made of. -/
structure Layers where
  /-- The flags that are given. -/
  given : Items
  /-- The profile's workload. -/
  profile : Items
  /-- The generator's workload. -/
  generator : Items
  /-- The profile's steps. -/
  rawSteps : Value

/-- The flags that are not `None`. -/
def givenFlags (overrides : Items) : Items :=
  overrides.filter fun entry => match entry.2 with
    | .none => false
    | _ => true

/-- The layers of an input. -/
def readLayers (environ : String → Option String) (path : String)
    (doc : Value) (profile : String) (overrides : Items) : Py Layers := do
  let raw ← document environ doc
  let gen ← generatorSection path raw
  let prof ← profileSection raw profile
  let generator ← ((← gen.get "workload" .none).orElse (.dict [])).toDict
  let profile ← ((← prof.get "workload" .none).orElse (.dict [])).items
  return { given := givenFlags overrides, profile, generator, rawSteps := ← prof.get "steps" .none }

namespace Layers

/-- The value of the uppermost layer that has the key. -/
def effective (l : Layers) (key : String) (default : Value) : Value :=
  ([l.given, l.profile, l.generator].findSome? fun items => items.lookup (.str key)).getD default

/-- A listed staircase has the rate and the duration that are given as flags. -/
structure StepsAgree (fl : FloatFormat) (l : Layers) : Prop where
  rate : ∀ v, l.given.lookup (.str "target_rps") = some v →
    ∀ raw ∈ listedSteps l.rawSteps, raw.1.toFloat fl = v.toFloat fl
  duration : ∀ v, l.given.lookup (.str "duration_seconds") = some v →
    ∀ raw ∈ listedSteps l.rawSteps, raw.2.toFloat fl = v.toFloat fl

end Layers

/-- A workload whose fields are made of these values. -/
structure EffectiveWorkload (fl : FloatFormat) (effective : String → Value → Value)
    (wl : Workload) : Prop where
  targetRps : (effective "target_rps" (.int 0)).toFloat fl = .ok wl.targetRps
  durationSeconds : (effective "duration_seconds" (.int 60)).toFloat fl = .ok wl.durationSeconds
  rampUpSeconds : (effective "ramp_up_seconds" (.int 0)).toFloat fl = .ok wl.rampUpSeconds
  rampDownSeconds : (effective "ramp_down_seconds" (.int 0)).toFloat fl = .ok wl.rampDownSeconds
  workers : ((effective "workers" (.int 8)).toFloat fl >>= Value.floatToInt) = .ok wl.workers
  channels : ((effective "channels" (.int 1)).toFloat fl >>= Value.floatToInt) = .ok wl.channels
  batchSize : ((effective "batch_size" (.int 100)).toFloat fl >>= Value.floatToInt)
    = .ok wl.batchSize
  maxInflight : ((effective "max_inflight" (.int 64)).toFloat fl >>= Value.floatToInt)
    = .ok wl.maxInflight
  retryMode : ((effective "retry_mode" (.str "none")).toStr fl).map lower = .ok wl.retryMode
  abortOnConsecutiveFailures :
    ((effective "abort_on_consecutive_failures" (.int 0)).orElse (.int 0)).toInt
      = .ok wl.abortOnConsecutiveFailures

/-- The workload has the values of the uppermost layers, and the plan reflects it: without a
staircase it is one step with the workload's rate and duration, and a rate or a duration that is
given as a flag is that of every step. -/
structure CommandLineWins (fl : FloatFormat) (l : Layers) (cfg : GeneratorConfig) : Prop where
  workload : EffectiveWorkload fl l.effective cfg.workload
  single : l.rawSteps.truthy = false →
    cfg.steps = [⟨0, cfg.workload.targetRps, cfg.workload.durationSeconds⟩]
  rate : ∀ v, l.given.lookup (.str "target_rps") = some v →
    ∀ step ∈ cfg.steps, v.toFloat fl = .ok step.rps
  duration : ∀ v, l.given.lookup (.str "duration_seconds") = some v →
    ∀ step ∈ cfg.steps, v.toFloat fl = .ok step.durationSeconds

variable {fl : FloatFormat}

/-! ## The merged workload -/

theorem nodup_givenFlags {overrides : Items} (h : overrides.keys.Nodup) :
    (givenFlags overrides).keys.Nodup :=
  (List.filter_sublist.map _).nodup h

/-- How the merged workload comes from the layers. -/
structure Layered (l : Layers) (merged : Items) : Prop where
  nodup_given : l.given.keys.Nodup
  nodup_profile : l.profile.keys.Nodup
  merged_eq : merged = merge (merge l.generator l.profile) l.given

/-- An accepted input has layers. -/
theorem Loaded.layered {environ : String → Option String} {path : String} {doc : Value}
    {profile : String} {overrides : Items} {cfg : GeneratorConfig}
    {raw gen prof : Value} {merged : Items} {rawSteps : Value}
    (h : Loaded fl environ path doc profile overrides cfg raw gen prof merged rawSteps)
    (hdoc : doc.wf = true) (hoverrides : overrides.keys.Nodup) :
    ∃ l, readLayers environ path doc profile overrides = .ok l ∧ Layered l merged ∧
      l.rawSteps = rawSteps := by
  have hprof := wf_profileSection (wf_document hdoc h.raw_eq) h.prof_eq
  have hmerged := h.merged_eq
  simp only [mergedWorkload, mergeObjects, bind_eq_ok] at hmerged
  obtain ⟨base, hbase, upper, hover, workload, ⟨generator, hgenerator, items, hitems, hworkload⟩,
    hmerged⟩ := hmerged
  obtain rfl := pure_eq_ok.1 hworkload
  obtain rfl := pure_eq_ok.1 hmerged
  refine ⟨⟨givenFlags overrides, items, generator, rawSteps⟩, ?_, ⟨nodup_givenFlags hoverrides,
    nodup_items (wf_orElse (wf_get hprof rfl hover) rfl) hitems, rfl⟩, rfl⟩
  simp only [readLayers, bind_eq_ok]
  exact ⟨raw, h.raw_eq, gen, h.gen_eq, prof, h.prof_eq, base, hbase, generator, hgenerator, upper,
    hover, items, hitems, rawSteps, h.rawSteps_eq, rfl⟩

/-- **A flat value of the merged workload is that of the uppermost layer.** -/
theorem Layered.effective_eq {l : Layers} {merged : Items} (h : Layered l merged) {key : String}
    {default : Value} (hflat : ((merged.lookup (.str key)).getD default).Flat) :
    l.effective key default = (merged.lookup (.str key)).getD default := by
  have hlookup : ∀ v, merged.lookup (.str key) = some v → v.Flat := by
    intro v hv
    rwa [hv] at hflat
  rw [h.merged_eq] at hlookup ⊢
  have hupper := lookup_merge_of_flat h.nodup_given hlookup
  rw [hupper] at hlookup ⊢
  unfold Layers.effective
  cases hgiven : l.given.lookup (.str key) with
  | some v => simp [hgiven]
  | none =>
      simp only [hgiven, Option.none_or] at hlookup ⊢
      rw [lookup_merge_of_flat h.nodup_profile hlookup]
      cases hprofile : l.profile.lookup (.str key) with
      | some v => simp [hgiven, hprofile]
      | none =>
          cases hgenerator : l.generator.lookup (.str key) <;>
            simp [hgiven, hprofile, hgenerator]

theorem flat_of_toFloat {v : Value} {x : Double} (h : v.toFloat fl = .ok x) : v.Flat := by
  rintro entry rest rfl
  simp [Value.toFloat, raise] at h

theorem flat_of_toInt {v : Value} {n : Int} (h : (v.orElse (.int 0)).toInt = .ok n) : v.Flat := by
  rintro entry rest rfl
  simp [Value.orElse, Value.truthy, Value.toInt, raise] at h

/-- The text of a dict is not a retry mode. -/
theorem flat_of_retryMode {v : Value} {mode : String} (h : (v.toStr fl).map lower = .ok mode)
    (hmode : mode = "none" ∨ mode = "polite") : v.Flat := by
  rintro entry rest rfl
  obtain ⟨text, htext, rfl⟩ := map_eq_ok.1 h
  obtain ⟨texts, -, htexts⟩ := bind_eq_ok.1 htext
  obtain rfl := pure_eq_ok.1 htexts
  have hhead : (lower (braced texts)).toList.head? = some '\x7b' := by
    simp [lower, braced]
  rcases hmode with hmode | hmode
  · rw [hmode] at hhead
    exact absurd hhead (by decide)
  · rw [hmode] at hhead
    exact absurd hhead (by decide)

theorem loadRetryMode_eq_ok {merged : Items} {mode : String} :
    loadRetryMode fl merged = .ok mode ↔
      (((merged.lookup (.str "retry_mode")).getD (.str "none")).toStr fl).map lower = .ok mode ∧
        (mode = "none" ∨ mode = "polite") := by
  unfold loadRetryMode
  rw [bind_eq_ok, map_eq_ok]
  constructor
  · rintro ⟨text, htext, h⟩
    dsimp only at h
    split at h
    case isTrue hmode =>
      obtain rfl := pure_eq_ok.1 h
      exact ⟨⟨text, htext, rfl⟩, hmode⟩
    case isFalse => simp [raise] at h
  · rintro ⟨⟨text, htext, rfl⟩, hmode⟩
    exact ⟨text, htext, if_pos hmode⟩

/-- A number of the workload is made of the effective value. -/
theorem Layered.number {l : Layers} {merged : Items} (h : Layered l merged) {key : String}
    {default : Int} {allowZero : Bool} {x : Double}
    (hx : workloadNumber fl merged key default allowZero = .ok x) :
    (l.effective key (.int default)).toFloat fl = .ok x := by
  have hfloat := (positive_eq_ok.1 hx).1
  rw [h.effective_eq (flat_of_toFloat hfloat)]
  exact hfloat

theorem Layered.int {l : Layers} {merged : Items} (h : Layered l merged) {key : String}
    {default n : Int} (hn : workloadInt fl merged key default = .ok n) :
    ((l.effective key (.int default)).toFloat fl >>= Value.floatToInt) = .ok n := by
  simp only [workloadInt, bind_eq_ok] at hn
  obtain ⟨x, hx, hn⟩ := hn
  exact bind_eq_ok.2 ⟨x, h.number hx, hn⟩

/-- **The workload of an accepted configuration is made of the effective values.** -/
theorem Layered.effectiveWorkload {l : Layers} {merged : Items} (h : Layered l merged)
    {wl : Workload} (hwl : WorkloadFrom fl merged wl) :
    EffectiveWorkload fl l.effective wl where
  targetRps := h.number hwl.targetRps
  durationSeconds := h.number hwl.durationSeconds
  rampUpSeconds := h.number hwl.rampUpSeconds
  rampDownSeconds := h.number hwl.rampDownSeconds
  workers := h.int hwl.workers
  channels := h.int hwl.channels
  batchSize := h.int hwl.batchSize
  maxInflight := h.int hwl.maxInflight
  retryMode := by
    obtain ⟨hlower, hmode⟩ := loadRetryMode_eq_ok.1 hwl.retryMode
    rw [h.effective_eq (flat_of_retryMode hlower hmode)]
    exact hlower
  abortOnConsecutiveFailures := by
    have hint := hwl.abortOnConsecutiveFailures
    unfold workloadValue at hint
    rw [h.effective_eq (flat_of_toInt hint)]
    exact hint

/-! ## The plan -/

theorem Layers.effective_of_given {l : Layers} {key : String} {default v : Value}
    (h : l.given.lookup (.str key) = some v) : l.effective key default = v := by
  simp [Layers.effective, h]

theorem listedSteps_of_not_truthy {rawSteps : Value} (h : rawSteps.truthy = false) :
    listedSteps rawSteps = [] := by
  cases rawSteps with
  | list xs =>
      have hnil : xs = [] := by simpa [Value.truthy] using h
      rw [hnil]
      rfl
  | pair v v' => simp [Value.truthy] at h
  | _ => rfl

/-- **When flags reach the plan.** An accepted configuration honours the precedence of flags,
profile and defaults if and only if no flag contradicts a staircase of the profile. -/
theorem commandLineWins_iff {environ : String → Option String} {path : String} {doc : Value}
    {profile : String} {overrides : Items} {cfg : GeneratorConfig} (hdoc : doc.wf = true)
    (hoverrides : overrides.keys.Nodup)
    (h : load fl environ path doc profile overrides = .ok cfg) :
    ∃ l, readLayers environ path doc profile overrides = .ok l ∧
      (CommandLineWins fl l cfg ↔ l.StepsAgree fl) := by
  obtain ⟨raw, gen, prof, merged, rawSteps, hloaded⟩ := load_loaded h
  obtain ⟨l, hread, hlayered, rfl⟩ := hloaded.layered hdoc hoverrides
  have hwl := loadWorkload_from hloaded.workload_eq
  obtain ⟨hplan, -⟩ := buildSteps_eq_ok hwl hloaded.steps_eq
  have heffective := hlayered.effectiveWorkload hwl
  refine ⟨l, hread, ?_⟩
  cases htruthy : l.rawSteps.truthy with
  | false =>
      -- no staircase: the plan is the one step of the workload, which the flags reach
      have hsteps : cfg.steps = [⟨0, cfg.workload.targetRps, cfg.workload.durationSeconds⟩] := by
        have hbuild := hloaded.steps_eq
        simp only [buildSteps, htruthy, Bool.not_false, if_true] at hbuild
        exact (pure_eq_ok.1 hbuild).symm
      have hagree : l.StepsAgree fl := by
        constructor <;> simp [listedSteps_of_not_truthy htruthy]
      refine iff_of_true ⟨heffective, fun _ => hsteps, ?_, ?_⟩ hagree
      · intro v hv step hstep
        rw [hsteps, List.mem_singleton] at hstep
        rw [hstep, ← Layers.effective_of_given hv]
        exact heffective.targetRps
      · intro v hv step hstep
        rw [hsteps, List.mem_singleton] at hstep
        rw [hstep, ← Layers.effective_of_given hv]
        exact heffective.durationSeconds
  | true =>
      -- a staircase: each step is read from its own entry, and no flag is looked at
      rw [rawPlan, if_pos htruthy] at hplan
      constructor
      · intro hwins
        constructor
        · intro v hv raw hraw
          obtain ⟨step, hstep, hfrom⟩ := exists_of_mem_left hplan raw hraw
          exact hfrom.rps.trans (hwins.rate v hv step hstep).symm
        · intro v hv raw hraw
          obtain ⟨step, hstep, hfrom⟩ := exists_of_mem_left hplan raw hraw
          exact hfrom.duration.trans (hwins.duration v hv step hstep).symm
      · intro hagree
        refine ⟨heffective, by simp [htruthy], ?_, ?_⟩
        · intro v hv step hstep
          obtain ⟨raw, hraw, hfrom⟩ := exists_of_mem_right hplan step hstep
          exact (hagree.rate v hv raw hraw).symm.trans hfrom.rps
        · intro v hv step hstep
          obtain ⟨raw, hraw, hfrom⟩ := exists_of_mem_right hplan step hstep
          exact (hagree.duration v hv raw hraw).symm.trans hfrom.duration

/-- The rate of the defaults. -/
def slowWorkload : Items := [entry "target_rps" (.int 10)]

/-- `--rps 999`, and `--workers` not given. -/
def rateFlag : Items := [entry "target_rps" (.int 999), entry "workers" .none]

theorem commandLineWins_rateFlag :
    ∃ cfg l, loadSmall slowWorkload [] rateFlag = .ok cfg ∧
      l.given = [entry "target_rps" (.int 999)] ∧ CommandLineWins .binary64 l cfg := by
  obtain ⟨cfg, hload, -⟩ := exists_of_loadSmall slowWorkload [] rateFlag (P := fun _ => true)
    (by decide +kernel)
  obtain ⟨l, hread, hiff⟩ := commandLineWins_iff (by decide) (by decide) hload
  obtain rfl : ⟨[entry "target_rps" (.int 999)], [], slowWorkload, .none⟩ = l :=
    Except.ok.inj (Eq.trans (by rfl) hread)
  exact ⟨cfg, _, hload, rfl,
    hiff.2 ⟨by simp [listedSteps, listed], by simp [listedSteps, listed]⟩⟩

/-- A staircase of one step. -/
def staircase : Items :=
  [entry "steps" (.list [.dict [entry "rps" (.int 100), entry "duration_seconds" (.int 60)]])]

/-- The rate of a flag does not reach a staircase. -/
theorem not_commandLineWins_staircase :
    ¬ ∀ (environ : String → Option String) (path : String) (doc : Value) (profile : String)
        (overrides : Items) (cfg : GeneratorConfig), doc.wf = true →
      overrides.keys.Nodup →
      load .binary64 environ path doc profile overrides = .ok cfg →
      ∃ l, readLayers environ path doc profile overrides = .ok l ∧
        CommandLineWins .binary64 l cfg := by
  intro hall
  obtain ⟨cfg, hload, hsteps⟩ := exists_of_loadSmall slowWorkload staircase rateFlag
    (P := fun cfg => cfg.steps = [⟨0, .fin 100, .fin 60⟩]) (by decide +kernel)
  obtain ⟨l, hread, hwins⟩ := hall _ _ _ _ _ cfg (by decide) (by decide) hload
  have hgiven : l.given = [entry "target_rps" (.int 999)] := by
    simp only [readLayers, bind_eq_ok] at hread
    obtain ⟨_, -, _, -, _, -, _, -, _, -, _, -, _, -, _, -, h⟩ := hread
    rw [← pure_eq_ok.1 h]
    rfl
  have hrate := hwins.rate (.int 999) (by rw [hgiven]; rfl) ⟨0, .fin 100, .fin 60⟩
    (by simp [of_decide_eq_true hsteps])
  exact absurd hrate (by decide +kernel)

end AnalyticsTesting.Config
