import AnalyticsTesting.Bench.Report

set_option autoImplicit false

/-! # Which rates are presented as sustainable

A rate is sustained by a level that accepts what is offered while the backlog stays flat and the
verdict is not FAIL. The throughput test names such levels only (`throughputMaximum_sustained`).
The report looks at the accept rate alone once the backlog is available, and the published summary
at nothing but the targets; `provenRates_iff` says for which run files they get away with it. -/

namespace AnalyticsTesting.Bench

/-! ## The loop over a staircase -/

section LastPassing

variable {α : Type} {passes : α → Bool}

/-- **The level a staircase loop ends with**, and all the levels before it, pass. -/
theorem lastPassing_cases {best : Option α} {steps : List α} {s : α} :
    lastPassing passes best steps = some s → best = some s ∨
      ∃ pre post, steps = pre ++ s :: post ∧ ∀ t ∈ pre ++ [s], passes t = true := by
  induction steps generalizing best with
  | nil => exact fun h => Or.inl h
  | cons t rest ih =>
      intro h
      rw [lastPassing] at h
      by_cases hpass : passes t = true
      · rw [if_pos hpass] at h
        refine Or.inr ?_
        rcases ih h with heq | ⟨pre, post, rfl, hall⟩
        · obtain rfl := Option.some.inj heq
          exact ⟨[], rest, rfl, by simpa using hpass⟩
        · refine ⟨t :: pre, post, rfl, ?_⟩
          intro u hu
          rcases List.mem_cons.1 hu with rfl | hu
          · exact hpass
          · exact hall u hu
      · rw [if_neg hpass] at h
        exact Or.inl h

theorem lastPassing_isSome {best : Option α} {steps : List α} (h : best.isSome = true) :
    (lastPassing passes best steps).isSome = true := by
  induction steps generalizing best with
  | nil => exact h
  | cons t rest ih =>
      rw [lastPassing]
      split
      · exact ih rfl
      · exact h

/-- A level is named exactly if the first one passes. -/
theorem lastPassing_isSome_iff {steps : List α} :
    (lastPassing passes none steps).isSome = true ↔
      ∃ s, steps.head? = some s ∧ passes s = true := by
  cases steps with
  | nil => simp [lastPassing]
  | cons t rest =>
      rw [lastPassing]
      by_cases hpass : passes t = true
      · simp [hpass, lastPassing_isSome]
      · simp [hpass]

end LastPassing

/-! ## What is claimed of a rate -/

/-- A level that accepts what it is offered, up to a hundredth, and rejects nothing. -/
structure StepRecord.Accepts (s : StepRecord) : Prop where
  offered : s.offered ≠ 0
  ratio : (99 : ℚ) / 100 ≤ s.accepted / s.offered
  rejected : s.rejected = 0

/-- A level of which nothing was lost on the way in. -/
structure StepRecord.Clean (s : StepRecord) : Prop where
  rejected : s.rejected = 0
  accepted : s.accepted = s.offered
  offered : 0 < s.offered

instance (s : StepRecord) : Decidable s.Clean :=
  decidable_of_iff (s.rejected = 0 ∧ s.accepted = s.offered ∧ 0 < s.offered)
    ⟨fun h => ⟨h.1, h.2.1, h.2.2⟩, fun h => ⟨h.rejected, h.accepted, h.offered⟩⟩

/-- The measured backlog does not grow, and the data is not known to be wrong. -/
structure FlatAndCorrect (run : RunFiles) : Prop where
  backlog : ∀ trend, analyseBacklog run = .available trend → trend.filesSlopePerMin ≤ 1 / 2
  verdict : run.verdict ≠ some "FAIL"

/-- A level that the report names without the provisional note is sustained. -/
def NamesSustained (run : RunFiles) : Prop :=
  ∀ m s, maximumSustainable run = some m → m.step = some s → m.provisional = false →
    (∃ pre post, run.steps = pre ++ s :: post ∧ ∀ t ∈ pre ++ [s], t.Accepts) ∧ FlatAndCorrect run

/-- The rate that the guidance calls proven clean is the target of a clean level. -/
def GuidanceClean (run : RunFiles) : Prop :=
  ∃ s ∈ run.steps, s.targetRps = (scalingGuidance (maxStep run)).safeRate ∧ s.Clean

/-! ## The report -/

theorem meetsCriterion_iff {s : StepRecord} : s.meetsCriterion = true ↔ s.Accepts := by
  unfold StepRecord.meetsCriterion StepRecord.ratio
  simp only [Bool.and_eq_true, decide_eq_true_eq]
  constructor
  · rintro ⟨hratio, hrejected⟩
    by_cases hoffered : s.offered = 0
    · rw [if_neg (not_not.2 hoffered)] at hratio
      norm_num at hratio
    · rw [if_pos hoffered] at hratio
      exact ⟨hoffered, hratio, hrejected⟩
  · rintro ⟨hoffered, hratio, hrejected⟩
    rw [if_pos hoffered]
    exact ⟨hratio, hrejected⟩

/-- The run files on which the report names a level, and without the provisional note. -/
structure NamesLevel (run : RunFiles) : Prop where
  staircase : 1 < run.steps.length
  first : ∃ s, run.steps.head? = some s ∧ s.Accepts
  available : 4 ≤ (backlogPoints run.pipeline).length

theorem namesLevel_iff {run : RunFiles} :
    (∃ m s, maximumSustainable run = some m ∧ m.step = some s ∧ m.provisional = false) ↔
      NamesLevel run := by
  unfold maximumSustainable
  constructor
  · rintro ⟨m, s, hm, hs, hprovisional⟩
    split at hm
    case isFalse => simp at hm
    case isTrue hlen =>
      obtain rfl := Option.some.inj hm
      obtain ⟨t, ht, hpass⟩ := lastPassing_isSome_iff.1 (Option.isSome_iff_exists.2 ⟨s, hs⟩)
      refine ⟨hlen, ⟨t, ht, meetsCriterion_iff.1 hpass⟩, analyseBacklog_available_iff.1 ?_⟩
      cases hbacklog : analyseBacklog run with
      | unavailable reason => simp [hbacklog] at hprovisional
      | available trend => exact ⟨trend, rfl⟩
  · rintro ⟨hlen, ⟨t, ht, haccepts⟩, havailable⟩
    obtain ⟨trend, hbacklog⟩ := analyseBacklog_available_iff.2 havailable
    obtain ⟨s, hs⟩ := Option.isSome_iff_exists.1
      (lastPassing_isSome_iff.2 ⟨t, ht, meetsCriterion_iff.2 haccepts⟩)
    rw [if_pos hlen]
    exact ⟨_, s, rfl, hs, by simp [hbacklog]⟩

/-- The levels up to a named one pass the accept-rate test. -/
theorem accepts_of_named {run : RunFiles} {m : MaximumSustainable} {s : StepRecord}
    (hm : maximumSustainable run = some m) (hs : m.step = some s) :
    ∃ pre post, run.steps = pre ++ s :: post ∧ ∀ t ∈ pre ++ [s], t.Accepts := by
  unfold maximumSustainable at hm
  split at hm
  case isFalse => simp at hm
  case isTrue =>
    obtain rfl := Option.some.inj hm
    rcases lastPassing_cases hs with hnone | ⟨pre, post, heq, hall⟩
    · simp at hnone
    · exact ⟨pre, post, heq, fun t ht => meetsCriterion_iff.1 (hall t ht)⟩

/-- What the report does not look at decides. -/
theorem namesSustained_iff {run : RunFiles} :
    NamesSustained run ↔ (NamesLevel run → FlatAndCorrect run) := by
  rw [← namesLevel_iff]
  constructor
  · rintro hsustained ⟨m, s, hm, hs, hprovisional⟩
    exact (hsustained m s hm hs hprovisional).2
  · intro hflat m s hm hs hprovisional
    exact ⟨accepts_of_named hm hs, hflat ⟨m, s, hm, hs, hprovisional⟩⟩

/-! ## The published summary -/

/-- A level whose target is not zero and is the highest. -/
structure Highest (run : RunFiles) (s : StepRecord) : Prop where
  mem : s ∈ run.steps
  ne_zero : s.targetRps ≠ 0
  le : ∀ t ∈ run.steps, t.targetRps ≤ s.targetRps

theorem targetRps_le_maxStep {run : RunFiles} {s : StepRecord} (h : s ∈ run.steps) :
    s.targetRps ≤ maxStep run := by
  have hmem : s.targetRps ∈ run.steps.map (·.targetRps) := List.mem_map_of_mem h
  unfold maxStep
  cases hmax : (run.steps.map (·.targetRps)).max? with
  | none =>
      rw [List.max?_eq_none_iff] at hmax
      simp [hmax] at hmem
  | some q => exact (List.max?_eq_some_iff.1 hmax).2 _ hmem

/-- A step whose target is the safe rate is a highest one: the fallback is no step's target. -/
theorem targetRps_eq_safeRate_iff {run : RunFiles} {s : StepRecord} (h : s ∈ run.steps) :
    s.targetRps = (scalingGuidance (maxStep run)).safeRate ↔ Highest run s := by
  have hle := targetRps_le_maxStep h
  simp only [scalingGuidance]
  constructor
  · intro heq
    by_cases hzero : maxStep run = 0
    · rw [hzero] at hle
      rw [if_neg (not_not.2 hzero)] at heq
      rw [heq] at hle
      norm_num at hle
    · rw [if_pos hzero] at heq
      exact ⟨h, by rw [heq]; exact hzero, fun t ht => heq ▸ targetRps_le_maxStep ht⟩
  · rintro ⟨-, hne, hmax⟩
    have hmaxStep : maxStep run = s.targetRps := by
      have hsome : (run.steps.map (·.targetRps)).max? = some s.targetRps := by
        rw [List.max?_eq_some_iff]
        refine ⟨List.mem_map_of_mem h, ?_⟩
        intro q hq
        obtain ⟨t, ht, rfl⟩ := List.mem_map.1 hq
        exact hmax t ht
      simp [maxStep, hsome]
    rw [hmaxStep, if_pos hne]

theorem guidanceClean_iff {run : RunFiles} :
    GuidanceClean run ↔ ∃ s, Highest run s ∧ s.Clean := by
  constructor
  · rintro ⟨s, hs, heq, hclean⟩
    exact ⟨s, (targetRps_eq_safeRate_iff hs).1 heq, hclean⟩
  · rintro ⟨s, hhighest, hclean⟩
    exact ⟨s, hhighest.mem, (targetRps_eq_safeRate_iff hhighest.mem).2 hhighest, hclean⟩

/-- **When the reports present proven rates only.** The level that the report names without the
provisional note is sustained, and the rate that the summary calls proven clean is a clean level's,
if and only if the backlog was flat and the verdict not FAIL wherever the report names a level, and
a level with the highest target was clean. -/
theorem provenRates_iff (run : RunFiles) :
    (NamesSustained run ∧ GuidanceClean run) ↔
      (NamesLevel run → FlatAndCorrect run) ∧ ∃ s, Highest run s ∧ s.Clean := by
  rw [namesSustained_iff, guidanceClean_iff]

/-- Two levels that accept everything while the backlog grows by a file a second. -/
def growingRun : RunFiles where
  steps := [⟨0, 100, 60, 0, 60, 6000, 6000, 0⟩, ⟨1, 200, 60, 60, 120, 12000, 12000, 0⟩]
  pipeline := [⟨some 0, some 0, some 0⟩, ⟨some 1, some 1, some 10⟩, ⟨some 2, some 2, some 20⟩,
    ⟨some 3, some 3, some 30⟩]
  verdict := some "PASS"

/-- The report names the second level. -/
theorem not_provenRates_growingRun :
    ¬ ∀ run : RunFiles, NamesSustained run ∧ GuidanceClean run := by
  intro hall
  have hnames : NamesLevel growingRun :=
    ⟨by decide, ⟨_, rfl, by norm_num, by norm_num, rfl⟩, by decide⟩
  have hflat := namesSustained_iff.1 (hall growingRun).1 hnames
  have hslope : ∃ trend, analyseBacklog growingRun = .available trend ∧
      1 / 2 < trend.filesSlopePerMin := by
    refine ⟨⟨4, 0, some 0, some 3, 60, 600 / 1048576, some 3⟩, by decide +kernel, by norm_num⟩
  obtain ⟨trend, hbacklog, hlt⟩ := hslope
  exact absurd (hflat.backlog trend hbacklog) (not_le.2 hlt)

/-! ## The throughput test -/

/-- **The throughput test names sustained levels only**: up to the named level the accept rate
holds, nothing is rejected and the backlog is known to be flat, and the verdict is not FAIL. -/
theorem throughputMaximum_sustained {run : RunFiles} {s : StepRecord}
    (h : throughputMaximum run = some s) :
    (∃ pre post, run.steps = pre ++ s :: post ∧ ∀ t ∈ pre ++ [s],
      99 / 100 ≤ t.ratio ∧ t.rejected ≤ 0 ∧
        ∃ slope, backlogSlope run t.startedAt t.endedAt = some slope ∧ slope ≤ 1 / 2) ∧
    run.verdict ≠ some "FAIL" := by
  have hlast : lastPassing (fun s => (levelReasons run s).isEmpty) none run.steps = some s ∧
      run.verdict ≠ some "FAIL" := by
    unfold throughputMaximum at h
    split at h
    case h_4 => simp at h
    all_goals
      rename_i hverdict
      exact ⟨h, by rw [hverdict]; simp⟩
  refine ⟨?_, hlast.2⟩
  rcases lastPassing_cases hlast.1 with hnone | ⟨pre, post, heq, hall⟩
  · simp at hnone
  · refine ⟨pre, post, heq, fun t ht => ?_⟩
    have hreasons := List.isEmpty_iff.1 (hall t ht)
    simp only [levelReasons, List.append_eq_nil_iff, ite_eq_right_iff, List.cons_ne_nil,
      imp_false, not_lt] at hreasons
    obtain ⟨⟨hratio, hrejected⟩, hslope⟩ := hreasons
    refine ⟨hratio, hrejected, ?_⟩
    cases hbacklog : backlogSlope run t.startedAt t.endedAt with
    | none => simp [hbacklog] at hslope
    | some slope =>
        refine ⟨slope, rfl, ?_⟩
        simpa [hbacklog] using hslope

end AnalyticsTesting.Bench
