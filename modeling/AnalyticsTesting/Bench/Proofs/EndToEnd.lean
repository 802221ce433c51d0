import AnalyticsTesting.Generator.Proofs.Conservation
import AnalyticsTesting.Generator.Proofs.Ranges
import AnalyticsTesting.Bench.Proofs.ValidateCorrectness

set_option autoImplicit false

/-! # From a run to its verdict

The gate reads the manifest that the generator wrote. `manifest_truthful`: after a run in which no
step ended empty, the manifest states the totals and the range of that run, where a record is acked
if its request was recorded as a success. `validateRun_engine` puts this in front of the gate: the
verdict on whatever landed is PASS if and only if as many rows as the run recorded as acked are
there, each with a number of its own. -/

namespace AnalyticsTesting.Bench

open Generator

variable {η ρ : Type}

/-- The manifest as the gate reads it. -/
def readManifest (testId : String) (m : RunManifest) : Manifest where
  testId := some testId
  generators := m.generators.map fun e => ⟨some e.genId, some e.seqMin, some e.seqMax⟩
  totalOffered := some m.totalOffered
  totalAccepted := some m.totalAccepted
  totalRejected := some m.totalRejected

/-- The items whose request is recorded as a success. -/
def ackedItems (s : State η) : List WorkItem := (s.logRecorded.filter (·.2.ok)).map Prod.fst

/-- Their numbers. -/
def ackedNumbers (s : State η) : Finset Int :=
  ((ackedItems s).flatMap WorkItem.numbers).toFinset.map Nat.castEmbedding

theorem mem_ackedNumbers {s : State η} {n : Nat} :
    (n : Int) ∈ ackedNumbers s ↔ ∃ x ∈ s.logRecorded, x.2.ok = true ∧ n ∈ x.1.numbers := by
  simp only [ackedNumbers, ackedItems, Finset.mem_map, List.mem_toFinset, List.mem_flatMap,
    List.mem_map, List.mem_filter, Nat.castEmbedding_apply, Nat.cast_inj, exists_eq_right]
  constructor
  · rintro ⟨_, ⟨x, ⟨hx, hok⟩, rfl⟩, hn⟩
    exact ⟨x, hx, hok, hn⟩
  · rintro ⟨x, hx, hok, hn⟩
    exact ⟨_, ⟨x, ⟨hx, hok⟩, rfl⟩, hn⟩

theorem exists_of_mem_ackedNumbers {s : State η} {n : Int} (h : n ∈ ackedNumbers s) :
    ∃ k : Nat, n = k ∧ ∃ x ∈ s.logRecorded, k ∈ x.1.numbers := by
  obtain ⟨k, -, rfl⟩ := Finset.mem_map.1 h
  obtain ⟨x, hx, -, hk⟩ := mem_ackedNumbers.1 h
  exact ⟨k, rfl, x, hx, hk⟩

variable [SeqHandle η]

section Engine

variable {cfg : RunConfig ρ} {g : LoadGenerator η} {plan : List Step} {s : State η}

/-- The accepted records are the acked numbers: no number was sent twice. -/
theorem card_ackedNumbers (hg : Launched g) (h : (engine g plan).Reachable s) :
    (ackedNumbers s).card = s.metrics.totals.recordsAccepted := by
  have hnodup : ((ackedItems s).flatMap WorkItem.numbers).Nodup := by
    have hall := numbers_nodup_of_past hg.batchSize_eq.le h .recorded
    have hsub : (ackedItems s).Sublist (s.past .recorded) := List.filter_sublist.map Prod.fst
    exact (hsub.flatMap WorkItem.numbers).nodup hall
  have hlen : ((ackedItems s).flatMap WorkItem.numbers).length
      = recordsOf (·.ok) s.logRecorded := by
    simp [ackedItems, recordsOf, List.length_flatMap, WorkItem.numbers, Function.comp_def]
  have hcounted := (counted_of_reachable h).recordsAccepted
  have hbase : g.metrics.totals.recordsAccepted = 0 := by rw [hg.totals_eq]
  rw [ackedNumbers, Finset.card_map, List.toFinset_card_of_nodup hnodup, hlen, hcounted, hbase,
    Nat.zero_add]

/-- The run that a state at rest has behind it. -/
def runOf (hg : Launched g) (h : (engine g plan).Reachable s) (hrest : s.main.frame = none)
    (hid : g.factory.genId ≠ "") : Run where
  genId := g.factory.genId
  genId_ne := hid
  seqMin := 0
  offered := s.metrics.totals.recordsOffered
  acked := ackedNumbers s
  acked_mem := by
    intro n hn
    obtain ⟨k, rfl, x, hx, hk⟩ := exists_of_mem_ackedNumbers hn
    have hpast : x.1 ∈ s.past .recorded := List.mem_map_of_mem hx
    obtain ⟨y, hy, heq⟩ := List.mem_map.1 (enqueued_of_past h hpast)
    have hlt := ((hg.pacing h).mem_numbers_iff k).1 ⟨y, hy, heq ▸ hk⟩
    have hoffered : s.metrics.totals.recordsOffered = g.batchSize * s.logEnqueued.length :=
      recordsOffered_eq (hg.pacing h) hrest
    have hlt' : k < g.batchSize * s.logEnqueued.length := hlt
    omega

theorem frame_of_manifest {m : RunManifest} (hm : manifest g s = some m) :
    s.main.frame = none := by
  unfold manifest at hm
  split at hm
  case h_1 hclosed => rw [hclosed]; rfl
  case h_2 => simp at hm

/-- **The manifest of a run in which no step ended empty is truthful.** -/
theorem manifest_truthful (hlaunch : launch η cfg = some g) {as : List Action}
    (hrun : (engine g plan).run (engineInit g plan) as = some s)
    (hmeets : (engine g plan).Meets ClosesNoEmptyStep (engineInit g plan) as)
    (hid : g.factory.genId ≠ "") {m : RunManifest} (hm : manifest g s = some m) (testId : String) :
    Truthful (runOf (launch_launched hlaunch) ⟨as, hrun⟩ (frame_of_manifest hm) hid)
      (readManifest testId m) := by
  have hg := launch_launched hlaunch
  have hreach : (engine g plan).Reachable s := ⟨as, hrun⟩
  have hrest := frame_of_manifest hm
  have hno := (noEmptyStep_iff_meets hrun).2 hmeets
  have hmin := seqMin_eq (hg.pacing hreach)
  have hmax := seqMax_eq (hg.pacing hreach) hrest hno
  have hoffered := recordsOffered_eq (hg.pacing hreach) hrest
  have hmaxEq : seqMax s.results = 0 + (s.metrics.totals.recordsOffered : Int) - 1 := by
    rw [hoffered]
    omega
  unfold manifest at hm
  split at hm
  case h_2 => simp at hm
  case h_1 =>
    obtain rfl := Option.some.inj hm
    refine ⟨?_, rfl, ?_⟩
    · simp only [readManifest, List.map_cons, List.map_nil, runOf, hmin, hmaxEq]
    · simp only [readManifest, runOf, card_ackedNumbers hg hreach]

/-- **The verdict on a run.** Whatever landed, the gate passes a run in which no step ended empty if
and only if as many rows of it landed as it recorded as acked, each with a number of its own. -/
theorem validateRun_engine (hlaunch : launch η cfg = some g) {as : List Action}
    (hrun : (engine g plan).run (engineInit g plan) as = some s)
    (hmeets : (engine g plan).Meets ClosesNoEmptyStep (engineInit g plan) as)
    (hid : g.factory.genId ≠ "") {m : RunManifest} (hm : manifest g s = some m) (testId : String)
    (db : Duckdb) (lake : Lake) (window : Window) :
    (validateRun db lake window (readManifest testId m)).verdict = .pass ↔
      Exact (runViews db lake window (readManifest testId m)).runRows
        s.metrics.totals.recordsAccepted := by
  have htruthful := manifest_truthful hlaunch hrun hmeets hid hm testId
  rw [validateRun_pass_iff db lake window htruthful]
  simp only [runOf, card_ackedNumbers (launch_launched hlaunch) ⟨as, hrun⟩]

end Engine

end AnalyticsTesting.Bench
