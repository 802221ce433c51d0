import AnalyticsTesting.Generator.Proofs.Conservation
import AnalyticsTesting.Generator.Proofs.SampleStream

set_option autoImplicit false

/-! # The samples of a run

The engine changes its metrics by calls of their methods only (`engineStep_metrics`), so the sample
stream of every run is exact (`streamExact_of_reachable`). In such a stream the records a run has
offered may lag behind those it has resolved: the pacer counts a batch as offered after it has put
it, and a worker may have booked its outcome by then. `resolved_le_offered` says that this is all:
the totals are never ahead by more than that one batch, and neither is any sample. -/

namespace AnalyticsTesting.Generator

open Transition

variable {η ρ : Type} [SeqHandle η]

/-! ## The calls of the engine -/

theorem WorkerMove.metrics {g : LoadGenerator η} {s t : State η} {w : Nat} {pc pc' : WorkerPc}
    (h : WorkerMove g s w pc t pc') :
    t.metrics = s.metrics ∨ ∃ c : MetricsCall, t.metrics = s.metrics.call c := by
  cases h with
  | enter item => exact Or.inr ⟨.recordInflight 1, rfl⟩
  | raised item => exact Or.inr ⟨.recordInflight (-1), rfl⟩
  | release item r => exact Or.inr ⟨.recordInflight (-1), rfl⟩
  | success item r hok => exact Or.inr ⟨.recordSuccess item.recordCount r.latencyS, rfl⟩
  | failure item r hok => exact Or.inr ⟨.recordFailure item.recordCount r.latencyS r.code, rfl⟩
  | _ => exact Or.inl rfl

theorem mainStep_metrics {g : LoadGenerator η} {s s' : State η} {t wall : ℚ}
    (hstep : mainStep g s t wall = some s') :
    s'.metrics = s.metrics ∨ ∃ c : MetricsCall, s'.metrics = s.metrics.call c := by
  have hmove := (mainStep_move hstep).2
  generalize s.main = pc at hmove
  cases hmove with
  | announce f => exact Or.inr ⟨.setStep f.step.index f.step.rps, rfl⟩
  | recordStall f item enqueued stalled => exact Or.inr ⟨.recordStall stalled, rfl⟩
  | recordOffered f item => exact Or.inr ⟨.recordOffered item.recordCount item.nbytes, rfl⟩
  | _ => exact Or.inl rfl

/-- A step of the engine leaves the metrics alone, or is one call of theirs. -/
theorem engineStep_metrics {g : LoadGenerator η} {s s' : State η} {a : Action}
    (hstep : engineStep g s a = some s') :
    s'.metrics = s.metrics ∨ ∃ c : MetricsCall, s'.metrics = s.metrics.call c := by
  rcases engineStep_cases hstep with ⟨t, wall, -, hmain⟩ | ⟨-, hidle, rfl⟩ | ⟨-, rfl⟩ |
    ⟨ts, iso, -, rfl⟩ | ⟨w, pc, u, pc', -, -, hmove, rfl⟩
  · exact mainStep_metrics hmain
  · exact Or.inl rfl
  · exact Or.inl rfl
  · exact Or.inr ⟨.flushSample ts iso, rfl⟩
  · exact hmove.metrics

theorem calls_concat (m : Metrics) (cs : List MetricsCall) (c : MetricsCall) :
    m.calls id (cs ++ [c]) = (m.calls id cs).call id c := by
  simp [Metrics.calls]

theorem metrics_of_reachable {g : LoadGenerator η} {plan : List Step} {s : State η}
    (h : (engine g plan).Reachable s) :
    ∃ cs : List MetricsCall, s.metrics = (g.metrics.calls id cs).metrics := by
  refine System.reachable_of_preserves
    (I := fun s : State η => ∃ cs : List MetricsCall, s.metrics = (g.metrics.calls id cs).metrics)
    ⟨[], rfl⟩ ?_ h
  rintro s a s' ⟨cs, hcs⟩ hstep
  rcases engineStep_metrics hstep with heq | ⟨c, heq⟩
  · exact ⟨cs, heq.trans hcs⟩
  · exact ⟨cs ++ [c], by rw [calls_concat, heq, hcs, ← Metrics.callIn_id]; rfl⟩

/-- **The sample stream of every run is exact**, in exact arithmetic. -/
theorem streamExact_of_reachable {cfg : RunConfig ρ} {g : LoadGenerator η}
    (hlaunch : launch η cfg = some g) {plan : List Step} {s : State η}
    (h : (engine g plan).Reachable s) :
    ∃ cs x, x.metrics = s.metrics ∧ StreamExact id cs x := by
  obtain ⟨cs, hcs⟩ := metrics_of_reachable h
  rw [launch_metrics hlaunch] at hcs
  exact ⟨cs, _, hcs.symm, (sound_calls id _ _ cs).streamExact⟩

/-! ## Resolved and offered -/

/-- The records whose fate is known. -/
def Totals.resolved (t : Totals) : Nat := t.recordsAccepted + t.recordsRejected

/-- What is resolved was put. -/
theorem resolved_le_put {cfg : RunConfig ρ} {g : LoadGenerator η}
    (hlaunch : launch η cfg = some g) {plan : List Step} {s : State η}
    (h : (engine g plan).Reachable s) :
    s.metrics.totals.resolved ≤ g.batchSize * s.logEnqueued.length := by
  have hg := launch_launched hlaunch
  have hcounted := counted_of_reachable h
  rw [hg.totals_eq] at hcounted
  have hcount := recorded_recordCount h
  rw [hg.batchSize_eq] at hcount
  have haccepted := hcounted.recordsAccepted
  have hrejected := hcounted.recordsRejected
  rw [recordsOf_eq_mul hcount] at haccepted hrejected
  obtain ⟨hsplit, -⟩ := outcomesOf_split s.logRecorded
  have hlength : s.logRecorded.length ≤ s.logEnqueued.length := by
    have hle := Multiset.card_le_card (ledger_balanced h .recorded).settled_le
    simpa [State.ledger, State.past] using hle
  calc s.metrics.totals.resolved
      = g.batchSize * (outcomesOf (·.ok) s.logRecorded
          + outcomesOf ExportResult.rejected s.logRecorded) := by
        rw [Totals.resolved, haccepted, hrejected]
        ring
    _ ≤ g.batchSize * s.logRecorded.length := Nat.mul_le_mul_left _ (by omega)
    _ ≤ g.batchSize * s.logEnqueued.length := Nat.mul_le_mul_left _ hlength

/-- **Resolved records run ahead of offered ones by the batch that the pacer has put and not counted
yet**, and by nothing else. -/
theorem totals_resolved_le {cfg : RunConfig ρ} {g : LoadGenerator η}
    (hlaunch : launch η cfg = some g) {plan : List Step} {s : State η}
    (h : (engine g plan).Reachable s) :
    s.metrics.totals.resolved
      ≤ s.metrics.totals.recordsOffered + if s.main.unrecorded then g.batchSize else 0 := by
  have hput := resolved_le_put hlaunch h
  have hoffered := ((launch_launched hlaunch).pacing h).offered_total
  rw [Nat.zero_add] at hoffered
  exact hput.trans hoffered.ge

/-- A sample is at most one batch ahead. -/
def Sample.WithinBatch (batch : Nat) (y : Sample) : Prop :=
  y.cumRecordsAccepted + y.cumRecordsRejected ≤ y.cumRecordsOffered + batch

theorem samples_call (m : Metrics) (c : MetricsCall) :
    (m.call c).samples = m.samples ∨ ∃ y : Sample, (m.call c).samples = m.samples ++ [y] ∧
      y.cumRecordsOffered = m.totals.recordsOffered ∧
      y.cumRecordsAccepted + y.cumRecordsRejected = m.totals.resolved := by
  cases c with
  | flushSample ts iso => exact Or.inr ⟨_, rfl, rfl, rfl⟩
  | _ => exact Or.inl rfl

theorem samples_withinBatch {cfg : RunConfig ρ} {g : LoadGenerator η}
    (hlaunch : launch η cfg = some g) {plan : List Step} {s : State η}
    (h : (engine g plan).Reachable s) : ∀ y ∈ s.metrics.samples, y.WithinBatch g.batchSize := by
  have hinit : g.metrics.samples = [] := by
    rw [launch_metrics hlaunch]
    rfl
  refine System.reachable_of_preserves_within (I := (engine g plan).Reachable)
    (J := fun s => ∀ y ∈ s.metrics.samples, y.WithinBatch g.batchSize) (fun _ hs => hs) ?_ ?_ h
  · intro y hy
    rw [show ((engine g plan).init).metrics = g.metrics from rfl, hinit] at hy
    simp at hy
  · intro s a s' hreach hall hstep y hy
    rcases engineStep_metrics hstep with heq | ⟨c, heq⟩
    · rw [heq] at hy
      exact hall y hy
    · rw [heq] at hy
      rcases samples_call s.metrics c with hsame | ⟨z, hnew, hoffered, hresolved⟩
      · rw [hsame] at hy
        exact hall y hy
      · rw [hnew] at hy
        rcases List.mem_append.1 hy with hold | hlast
        · exact hall y hold
        -- the new sample copies the totals, which are ahead by the uncounted batch at most
        · obtain rfl : y = z := by simpa using hlast
          have hle := totals_resolved_le hlaunch hreach
          unfold Sample.WithinBatch
          rw [hoffered, hresolved]
          split at hle
          · exact hle
          · omega

/-- **The sample stream never shows more than one batch too much**: the totals are ahead only while
the pacer has put a batch and not counted it yet, by that batch, and so is every sample. -/
theorem resolved_le_offered {cfg : RunConfig ρ} {g : LoadGenerator η}
    (hlaunch : launch η cfg = some g) {plan : List Step} {s : State η}
    (h : (engine g plan).Reachable s) :
    (s.metrics.totals.recordsAccepted + s.metrics.totals.recordsRejected
      ≤ s.metrics.totals.recordsOffered + if s.main.unrecorded then g.batchSize else 0) ∧
    ∀ y ∈ s.metrics.samples,
      y.cumRecordsAccepted + y.cumRecordsRejected ≤ y.cumRecordsOffered + g.batchSize :=
  ⟨totals_resolved_le hlaunch h, samples_withinBatch hlaunch h⟩

/-- A worker exports the first batch and books the ack before the pacer counts the batch, and a
    sample is taken there. -/
def earlyAckRun : List Action :=
  mainRuns 9 0 ++ workerExports 0 1 ++ workerAcked 0 ++ [.sample 0 ""]

/-- The bound in a run whose first ack is early. -/
theorem resolved_le_offered_earlyAckRun : ∃ (g : LoadGenerator BenchSeq) (s : State BenchSeq),
    s.main.unrecorded = true ∧ s.metrics.totals.recordsAccepted = 1 ∧
    (s.metrics.totals.recordsAccepted + s.metrics.totals.recordsRejected
      ≤ s.metrics.totals.recordsOffered + if s.main.unrecorded then g.batchSize else 0) ∧
    ∀ y ∈ s.metrics.samples,
      y.cumRecordsAccepted + y.cumRecordsRejected ≤ y.cumRecordsOffered + g.batchSize := by
  obtain ⟨g, s, hg, hrun, hP⟩ := exists_of_runFrom
    (launch BenchSeq (plainConfig 1 1 1)) [⟨0, 1, 1⟩] earlyAckRun
    (P := fun s => s.main.unrecorded = true ∧ s.metrics.totals.recordsAccepted = 1)
    (by decide +kernel)
  obtain ⟨hmain, haccepted⟩ := of_decide_eq_true hP
  exact ⟨g, s, hmain, haccepted, resolved_le_offered hg ⟨earlyAckRun, hrun⟩⟩

/-- **An ack can be counted before its batch is**: the sample shows one accepted record and none
offered. -/
theorem not_resolved_le_offered_earlyAckRun :
    ¬ ∀ (cfg : RunConfig Unit) (g : LoadGenerator BenchSeq) (plan : List Step) (s : State BenchSeq),
        launch BenchSeq cfg = some g → (engine g plan).Reachable s →
        s.metrics.totals.recordsAccepted + s.metrics.totals.recordsRejected
            ≤ s.metrics.totals.recordsOffered ∧
          ∀ y ∈ s.metrics.samples,
            y.cumRecordsAccepted + y.cumRecordsRejected ≤ y.cumRecordsOffered := by
  intro h
  obtain ⟨g, s, hg, hrun, hP⟩ := exists_of_runFrom
    (launch BenchSeq (plainConfig 1 1 1)) [⟨0, 1, 1⟩] earlyAckRun
    (P := fun s => s.metrics.totals.recordsAccepted = 1 ∧ s.metrics.totals.recordsOffered = 0)
    (by decide +kernel)
  obtain ⟨haccepted, hoffered⟩ := of_decide_eq_true hP
  have hle := (h _ g _ s hg ⟨earlyAckRun, hrun⟩).1
  rw [haccepted, hoffered] at hle
  omega

end AnalyticsTesting.Generator
