import AnalyticsTesting.Bench.Bottleneck

set_option autoImplicit false

/-! # When the named bottleneck rests on measurements

Every conclusion asserts some quantities in its text (`Conclusion.asserts`). The branches up to the
in-flight bound are only entered on values that were measured. What falls through them all ends at
the CPU branch or at "not reached", whose texts assert a flat backlog and, the last one, an idle
CPU on every host, whether these were measured or not. -/

namespace AnalyticsTesting.Bench

/-- What a conclusion can be about. -/
inductive Quantity
  | acceptRatio
  | rejections
  | backlog
  | stallShare
  | cpu (role : HostRole)

/-- The quantities a conclusion's text asserts; a refusal asserts none. -/
def Conclusion.asserts : Conclusion → List Quantity
  | overTransport _ | nothingOffered => []
  | ingestionQueue _ => [.rejections]
  | acceptPath _ => [.acceptRatio, .rejections]
  | compaction _ => [.acceptRatio, .backlog]
  | loadGenerator _ _ => [.stallShare, .cpu .generator]
  | inflightBound _ => [.stallShare]
  | cpu saturated => .rejections :: .backlog :: saturated.map .cpu
  | notReached => .acceptRatio :: .rejections :: .backlog :: HostRole.all.map .cpu

namespace DiagnosedRun

/-- There are files with the quantity in them. -/
def Measured (run : DiagnosedRun) : Quantity → Prop
  | .acceptRatio | .rejections | .stallShare => run.totals ≠ none
  | .backlog => 4 ≤ (backlogPoints run.pipeline).length
  | .cpu role => run.cpuSamples role ≠ []

/-- The conclusion rests on measurements. -/
structure RestsOnMeasurements (run : DiagnosedRun) : Prop where
  /-- "Not reached" is said of a flat backlog and of three hosts that are not busy. -/
  not_reached : run.bottleneck = .notReached →
    (∃ trend, analyseBacklog run.toRunFiles = .available trend ∧ trend.filesSlopePerMin ≤ 1 / 2) ∧
      ∀ role, run.cpuSamples role ≠ [] ∧ fmean (run.cpuSamples role) ≤ 85
  /-- Without a quantity that its text would assert, nothing is concluded. -/
  measured : ∀ q ∈ run.bottleneck.asserts, run.Measured q

/-- No branch before the CPU branch is taken: everything was sent directly, offered records were
    accepted and none rejected, no growth of the backlog is known and the pacer was not blocked. -/
structure ReachesCpu (run : DiagnosedRun) : Prop where
  direct : run.transport.getD "direct" = "direct"
  offered : run.total (·.recordsOffered) ≠ 0
  rejected : run.total (·.recordsRejected) ≤ 0
  ratio : 99 / 100 ≤ run.ratio
  backlog : run.growingBacklog = none
  stallShare : run.stallShare ≤ 1 / 10

/-- A host was busy. -/
def Busy (run : DiagnosedRun) (role : HostRole) : Prop :=
  run.cpuSamples role ≠ [] ∧ 85 < fmean (run.cpuSamples role)

variable {run : DiagnosedRun}

/-! ## The quantities -/

theorem mem_hostCpu_iff {role : HostRole} {load : ℚ} :
    (role, load) ∈ run.hostCpu ↔
      run.cpuSamples role ≠ [] ∧ load = fmean (run.cpuSamples role) := by
  have hall : role ∈ HostRole.all := by cases role <;> decide
  simp only [hostCpu, List.mem_filterMap]
  constructor
  · rintro ⟨r, -, hr⟩
    split at hr
    case isTrue => simp at hr
    case isFalse hne =>
      obtain ⟨rfl, rfl⟩ := Prod.mk.inj (Option.some.inj hr)
      exact ⟨by simpa using hne, rfl⟩
  · rintro ⟨hne, rfl⟩
    exact ⟨role, hall, by rw [if_neg (by simpa using hne)]⟩

/-- Where nothing is known to grow, an available backlog is flat. -/
theorem slope_le_of_growingBacklog (h : run.growingBacklog = none) {trend : BacklogTrend}
    (htrend : analyseBacklog run.toRunFiles = .available trend) :
    trend.filesSlopePerMin ≤ 1 / 2 := by
  simp only [growingBacklog, htrend] at h
  split at h
  case isTrue => simp at h
  case isFalse hle => exact not_lt.1 hle

theorem available_of_growingBacklog {slope : ℚ} (h : run.growingBacklog = some slope) :
    4 ≤ (backlogPoints run.pipeline).length := by
  refine analyseBacklog_available_iff.1 ?_
  unfold growingBacklog at h
  cases htrend : analyseBacklog run.toRunFiles with
  | unavailable reason => simp [htrend] at h
  | available trend => exact ⟨trend, rfl⟩

theorem totals_of_offered (h : run.total (·.recordsOffered) ≠ 0) : run.totals ≠ none := by
  intro hnone
  simp [total, hnone] at h

/-! ## The cascade -/

/-- The hosts the CPU branch names. -/
def saturated (run : DiagnosedRun) : List HostRole :=
  (run.hostCpu.filter fun h => decide (85 < h.2)).map Prod.fst

theorem mem_saturated_iff {role : HostRole} : role ∈ run.saturated ↔ run.Busy role := by
  simp only [saturated, List.mem_map, List.mem_filter, decide_eq_true_eq, Busy]
  constructor
  · rintro ⟨⟨r, load⟩, ⟨hmem, hload⟩, rfl⟩
    obtain ⟨hne, rfl⟩ := mem_hostCpu_iff.1 hmem
    exact ⟨hne, hload⟩
  · rintro ⟨hne, hload⟩
    exact ⟨(role, fmean (run.cpuSamples role)), ⟨mem_hostCpu_iff.2 ⟨hne, rfl⟩, hload⟩, rfl⟩

/-- What falls through all the other branches. -/
theorem bottleneck_of_reachesCpu (h : run.ReachesCpu) :
    run.bottleneck = if run.saturated = [] then .notReached else .cpu run.saturated := by
  unfold bottleneck
  simp only [h.direct, ne_eq, not_true_eq_false, if_false, h.offered, not_lt.2 h.rejected,
    not_lt.2 h.ratio, h.backlog, not_lt.2 h.stallShare, List.isEmpty_iff]
  rfl

/-- The branches before are only entered on what was measured. -/
theorem measured_of_not_reachesCpu (h : ¬ run.ReachesCpu) :
    run.bottleneck ≠ .notReached ∧ ∀ q ∈ run.bottleneck.asserts, run.Measured q := by
  unfold bottleneck
  dsimp only
  split
  case isTrue => exact ⟨by simp, by simp [Conclusion.asserts]⟩
  case isFalse hdirect =>
  split
  case isTrue => exact ⟨by simp, by simp [Conclusion.asserts]⟩
  case isFalse hoffered =>
  have htotals := totals_of_offered hoffered
  split
  case isTrue => exact ⟨by simp, by simpa [Conclusion.asserts, Measured] using htotals⟩
  case isFalse hrejected =>
  split
  case isTrue => exact ⟨by simp, by simpa [Conclusion.asserts, Measured] using htotals⟩
  case isFalse hratio =>
  split
  case h_1 slope hgrowing =>
    have havailable := available_of_growingBacklog hgrowing
    exact ⟨by simp, by simpa [Conclusion.asserts, Measured] using ⟨htotals, havailable⟩⟩
  case h_2 hflat =>
  split
  case isFalse hstall =>
    exact absurd ⟨not_not.1 hdirect, hoffered, not_lt.1 hrejected, not_lt.1 hratio, hflat,
      not_lt.1 hstall⟩ h
  case isTrue hstall =>
  split
  case h_2 => exact ⟨by simp, by simpa [Conclusion.asserts, Measured] using htotals⟩
  case h_1 load htop =>
  split
  case isFalse => exact ⟨by simp, by simpa [Conclusion.asserts, Measured] using htotals⟩
  case isTrue hload =>
    -- the greatest of the means is one of them
    have hsampled : run.cpuSamples .generator ≠ [] := by
      obtain ⟨before, after, hsplit, -⟩ := Selection.firstMax_eq_some_iff.1 htop
      have hmem : (HostRole.generator, load) ∈ run.hostCpu := by simp [hsplit]
      exact (mem_hostCpu_iff.1 hmem).1
    exact ⟨by simp, by simpa [Conclusion.asserts, Measured] using ⟨htotals, hsampled⟩⟩

/-- No host is busy: "not reached" asserts everything. -/
theorem rests_iff_of_idle (hreach : run.ReachesCpu) (hidle : run.saturated = []) :
    run.RestsOnMeasurements ↔ 4 ≤ (backlogPoints run.pipeline).length ∧
      ∀ role, run.cpuSamples role ≠ [] := by
  have hbottleneck : run.bottleneck = .notReached := by
    rw [bottleneck_of_reachesCpu hreach, if_pos hidle]
  have hmean : ∀ role, run.cpuSamples role ≠ [] → fmean (run.cpuSamples role) ≤ 85 := by
    intro role hne
    by_contra hgt
    have hmem : role ∈ run.saturated := mem_saturated_iff.2 ⟨hne, not_le.1 hgt⟩
    simp [hidle] at hmem
  constructor
  · intro h
    refine ⟨h.measured .backlog (by simp [hbottleneck, Conclusion.asserts]), fun role => ?_⟩
    refine h.measured (.cpu role) ?_
    rw [hbottleneck]
    cases role <;> simp [Conclusion.asserts, HostRole.all]
  · rintro ⟨havailable, hsampled⟩
    refine ⟨fun _ => ⟨?_, fun role => ⟨hsampled role, hmean role (hsampled role)⟩⟩, ?_⟩
    · obtain ⟨trend, htrend⟩ := analyseBacklog_available_iff.2 havailable
      exact ⟨trend, htrend, slope_le_of_growingBacklog hreach.backlog htrend⟩
    · have htotals := totals_of_offered hreach.offered
      intro q _
      cases q with
      | backlog => exact havailable
      | cpu role => exact hsampled role
      | _ => exact htotals

/-- A busy host is named, and the backlog called flat. -/
theorem rests_iff_of_busy (hreach : run.ReachesCpu) (hbusy : run.saturated ≠ []) :
    run.RestsOnMeasurements ↔ 4 ≤ (backlogPoints run.pipeline).length := by
  have hbottleneck : run.bottleneck = .cpu run.saturated := by
    rw [bottleneck_of_reachesCpu hreach, if_neg hbusy]
  constructor
  · exact fun h => h.measured .backlog (by simp [hbottleneck, Conclusion.asserts])
  · intro havailable
    refine ⟨fun h => by simp [hbottleneck] at h, ?_⟩
    rw [hbottleneck]
    simp only [Conclusion.asserts, List.forall_mem_cons, List.forall_mem_map]
    exact ⟨totals_of_offered hreach.offered, havailable,
      fun role hrole => (mem_saturated_iff.1 hrole).1⟩

/-- **When the conclusion rests on measurements**: a run that reaches the CPU branch has at least
    four pipeline samples with catalog data, and either a busy host or samples of all hosts. -/
theorem restsOnMeasurements_iff :
    run.RestsOnMeasurements ↔ (run.ReachesCpu → 4 ≤ (backlogPoints run.pipeline).length ∧
      ((∃ role, run.Busy role) ∨ ∀ role, run.cpuSamples role ≠ [])) := by
  by_cases hreach : run.ReachesCpu
  · rw [imp_iff_right hreach]
    by_cases hidle : run.saturated = []
    · rw [rests_iff_of_idle hreach hidle]
      have hnone : ¬ ∃ role, run.Busy role := by
        rintro ⟨role, hrole⟩
        have hmem := mem_saturated_iff.2 hrole
        simp [hidle] at hmem
      rw [or_iff_right hnone]
    · rw [rests_iff_of_busy hreach hidle]
      obtain ⟨role, hrole⟩ := List.exists_mem_of_ne_nil _ hidle
      rw [and_iff_left (Or.inl ⟨role, mem_saturated_iff.1 hrole⟩)]
  · obtain ⟨hne, hmeasured⟩ := measured_of_not_reachesCpu hreach
    exact iff_of_true ⟨fun h => absurd h hne, hmeasured⟩ fun h => absurd h hreach

/-- All that a generator without the monitoring beside it leaves behind. -/
def generatorOnly : DiagnosedRun where
  steps := []
  pipeline := []
  verdict := none
  transport := some "direct"
  totals := some
    { recordsOffered := 6000, recordsAccepted := 6000, recordsRejected := 0, stalledMs := 0
      durationSeconds := 60 }
  cpuPercent := fun _ => []

/-- Without a pipeline sample and without a host sample the backlog is called flat and the CPU
    idle. -/
theorem not_restsOnMeasurements_generatorOnly :
    ¬ ∀ run : DiagnosedRun, run.RestsOnMeasurements := by
  intro hall
  have hbottleneck : generatorOnly.bottleneck = .notReached := by decide +kernel
  obtain ⟨-, hcpu⟩ := (hall generatorOnly).not_reached hbottleneck
  exact (hcpu .generator).1 rfl

end DiagnosedRun

end AnalyticsTesting.Bench
