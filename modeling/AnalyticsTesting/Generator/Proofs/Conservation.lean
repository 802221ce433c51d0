import AnalyticsTesting.Generator.Proofs.Accounting

set_option autoImplicit false

/-! # Conservation of offered records

The counters of `Metrics` are the outcomes recorded so far, added up (`Counted`). Where the pacer is
between iterations and no item is queued or held, the ledger of the `recorded` stage says that
every item put is recorded or lost, so the counters account for all offered records exactly when
nothing was lost. Items are lost in one way only: something raises inside `_send`, and
`_worker_loop` logs it and goes on. -/

namespace AnalyticsTesting.Generator

open Transition

variable {η ρ : Type}

/-! ## The counters -/

/-- The records of the outcomes that meet a condition. -/
def recordsOf (p : ExportResult → Bool) (log : List (WorkItem × ExportResult)) : Nat :=
  ((log.filter fun x => p x.2).map fun x => x.1.recordCount).sum

/-- How many outcomes meet a condition. -/
def outcomesOf (p : ExportResult → Bool) (log : List (WorkItem × ExportResult)) : Nat :=
  log.countP fun x => p x.2

/-- A rejection: a failure with the code of the collector's backpressure. -/
def ExportResult.rejected (r : ExportResult) : Bool := !r.ok && r.code == resourceExhausted

/-- A failure with any other code. -/
def ExportResult.otherFailure (r : ExportResult) : Bool := !r.ok && r.code != resourceExhausted

theorem recordsOf_concat (p : ExportResult → Bool) (log : List (WorkItem × ExportResult))
    (item : WorkItem) (r : ExportResult) :
    recordsOf p (log ++ [(item, r)])
      = recordsOf p log + if p r then item.recordCount else 0 := by
  unfold recordsOf
  cases h : p r <;> simp [List.filter_append, h]

theorem outcomesOf_concat (p : ExportResult → Bool) (log : List (WorkItem × ExportResult))
    (item : WorkItem) (r : ExportResult) :
    outcomesOf p (log ++ [(item, r)]) = outcomesOf p log + if p r then 1 else 0 := by
  unfold outcomesOf
  cases h : p r <;> simp [List.countP_append, h]

/-- Where all items have `count` records, the outcomes' records are that many times the
outcomes. -/
theorem recordsOf_eq_mul {p : ExportResult → Bool} {log : List (WorkItem × ExportResult)}
    {count : Nat} (h : ∀ x ∈ log, x.1.recordCount = count) :
    recordsOf p log = count * outcomesOf p log := by
  induction log with
  | nil => rfl
  | cons x log ih =>
      have hrest := ih fun y hy => h y (List.mem_cons_of_mem _ hy)
      unfold recordsOf outcomesOf at *
      cases hp : p x.2 with
      | true =>
          rw [List.filter_cons_of_pos (by simpa using hp), List.map_cons, List.sum_cons, hrest,
            List.countP_cons_of_pos (by simpa using hp), h x (List.mem_cons_self ..)]
          ring
      | false =>
          rw [List.filter_cons_of_neg (by simpa using hp), hrest,
            List.countP_cons_of_neg (by simpa using hp)]

/-- Each outcome is a success, a rejection or another failure. -/
theorem outcomesOf_split (log : List (WorkItem × ExportResult)) :
    outcomesOf (·.ok) log + outcomesOf ExportResult.rejected log
        + outcomesOf ExportResult.otherFailure log = log.length ∧
      outcomesOf (·.ok) log + outcomesOf (!·.ok) log = log.length := by
  induction log with
  | nil => exact ⟨rfl, rfl⟩
  | cons x log ih =>
      obtain ⟨ih₁, ih₂⟩ := ih
      unfold outcomesOf at *
      simp only [List.countP_cons, List.length_cons, ExportResult.rejected,
        ExportResult.otherFailure] at *
      cases hok : x.2.ok with
      | true =>
          simp only [Bool.not_true, Bool.false_and, if_true, Bool.false_eq_true, if_false]
          omega
      | false =>
          by_cases hcode : x.2.code = resourceExhausted
          · simp only [hcode, Bool.not_false, Bool.true_and, bne_self_eq_false, beq_self_eq_true,
              if_true, Bool.false_eq_true, if_false]
            omega
          · simp only [Bool.not_false, Bool.true_and, beq_eq_false_iff_ne.2 hcode,
              bne_iff_ne.2 hcode, if_true, Bool.false_eq_true, if_false]
            omega

/-- The counters are the recorded outcomes added up, over what they were before. -/
structure Counted (base : Totals) (s : State η) : Prop where
  requestsSent : s.metrics.totals.requestsSent = base.requestsSent + s.logRecorded.length
  requestsSuccess :
    s.metrics.totals.requestsSuccess = base.requestsSuccess + outcomesOf (·.ok) s.logRecorded
  requestsFailed :
    s.metrics.totals.requestsFailed = base.requestsFailed + outcomesOf (!·.ok) s.logRecorded
  recordsAccepted :
    s.metrics.totals.recordsAccepted = base.recordsAccepted + recordsOf (·.ok) s.logRecorded
  recordsRejected : s.metrics.totals.recordsRejected
    = base.recordsRejected + recordsOf ExportResult.rejected s.logRecorded
  failed : s.metrics.totals.failedNotRejected
    = base.failedNotRejected + outcomesOf ExportResult.otherFailure s.logRecorded

theorem Counted.success {base : Totals} {s : State η} (h : Counted base s) (item : WorkItem)
    {r : ExportResult} (hok : r.ok = true) :
    Counted base { s with metrics := s.metrics.recordSuccess item.recordCount r.latencyS,
                          logRecorded := s.logRecorded ++ [(item, r)] } := by
  have hrejected : r.rejected = false := by simp [ExportResult.rejected, hok]
  have hother : r.otherFailure = false := by simp [ExportResult.otherFailure, hok]
  constructor
  · simp [Metrics.recordSuccess, Totals.succeed, h.requestsSent, Nat.add_assoc]
  · simp [Metrics.recordSuccess, Totals.succeed, h.requestsSuccess, outcomesOf_concat, hok,
      Nat.add_assoc]
  · simp [Metrics.recordSuccess, Totals.succeed, h.requestsFailed, outcomesOf_concat, hok]
  · simp [Metrics.recordSuccess, Totals.succeed, h.recordsAccepted, recordsOf_concat, hok,
      Nat.add_assoc]
  · simp [Metrics.recordSuccess, Totals.succeed, h.recordsRejected, recordsOf_concat, hrejected]
  · have hfailed := h.failed
    simp only [Totals.failedNotRejected] at hfailed
    simp [Metrics.recordSuccess, Totals.succeed, Totals.failedNotRejected, hfailed,
      outcomesOf_concat, hother]

theorem Counted.failure {base : Totals} {s : State η} (h : Counted base s) (item : WorkItem)
    {r : ExportResult} (hok : r.ok = false) :
    Counted base { s with metrics := s.metrics.recordFailure item.recordCount r.latencyS r.code,
                          logRecorded := s.logRecorded ++ [(item, r)] } := by
  have hrejected : r.rejected = true ↔ r.code = resourceExhausted := by
    simp [ExportResult.rejected, hok]
  have hother : r.otherFailure = true ↔ ¬ r.code = resourceExhausted := by
    simp [ExportResult.otherFailure, hok]
  constructor
  · simp [Metrics.recordFailure, h.requestsSent, Nat.add_assoc]
  · simp [Metrics.recordFailure, h.requestsSuccess, outcomesOf_concat, hok]
  · simp [Metrics.recordFailure, h.requestsFailed, outcomesOf_concat, hok, Nat.add_assoc]
  · simp [Metrics.recordFailure, h.recordsAccepted, recordsOf_concat, hok]
  · simp only [Metrics.recordFailure, Totals.fail_recordsRejected, h.recordsRejected,
      recordsOf_concat, hrejected, Nat.add_assoc]
  · simp only [Metrics.recordFailure, Totals.fail_failedNotRejected, h.failed, outcomesOf_concat,
      hother, Nat.add_assoc]
    by_cases hcode : r.code = resourceExhausted <;> simp [hcode]

variable [SeqHandle η]

theorem engineStep_counted {g : LoadGenerator η} {base : Totals} {s s' : State η} {a : Action}
    (h : Counted base s) (hstep : engineStep g s a = some s') : Counted base s' := by
  rcases engineStep_cases hstep with ⟨t, wall, -, hmain⟩ | ⟨-, hidle, rfl⟩ | ⟨-, rfl⟩ |
    ⟨ts, iso, -, rfl⟩ | ⟨w, pc, u, pc', -, -, hmove, rfl⟩
  · have hkeeps := mainStep_keeps hmain
    constructor
    · rw [hkeeps.requestsSent, hkeeps.logRecorded, h.requestsSent]
    · rw [hkeeps.requestsSuccess, hkeeps.logRecorded, h.requestsSuccess]
    · rw [hkeeps.requestsFailed, hkeeps.logRecorded, h.requestsFailed]
    · rw [hkeeps.recordsAccepted, hkeeps.logRecorded, h.recordsAccepted]
    · rw [hkeeps.recordsRejected, hkeeps.logRecorded, h.recordsRejected]
    · rw [hkeeps.failed, hkeeps.logRecorded, h.failed]
  · exact ⟨h.1, h.2, h.3, h.4, h.5, h.6⟩
  · exact ⟨h.1, h.2, h.3, h.4, h.5, h.6⟩
  · exact ⟨h.1, h.2, h.3, h.4, h.5, h.6⟩
  · cases hmove with
    | success item r hok =>
        have hsucc := h.success item hok
        exact ⟨hsucc.1, hsucc.2, hsucc.3, hsucc.4, hsucc.5, hsucc.6⟩
    | failure item r hok =>
        have hfail := h.failure item hok
        exact ⟨hfail.1, hfail.2, hfail.3, hfail.4, hfail.5, hfail.6⟩
    | _ => exact ⟨h.1, h.2, h.3, h.4, h.5, h.6⟩

theorem counted_of_reachable {g : LoadGenerator η} {plan : List Step} {s : State η}
    (h : (engine g plan).Reachable s) : Counted g.metrics.totals s :=
  System.reachable_of_preserves (I := Counted g.metrics.totals)
    ⟨rfl, rfl, rfl, rfl, rfl, rfl⟩ (fun _ _ _ hI hstep => engineStep_counted hI hstep) h

/-! ## Exceptions -/

/-- The next statement of the worker raises inside `_send`. -/
def WorkerPc.raises (g : LoadGenerator η) (s : State η) (w : Nat) : WorkerPc → Bool
  | .returned _ .raised => true
  | .stamping item nowNs k =>
      (s.templates[g.factory.templateIndex w item.variant]?).any fun t =>
        k < min t.seqValues.length t.request.logRecords.length &&
          (t.stampRecord k (item.seqStart + k) nowNs).isNone
  | _ => false

/-- The action is a worker's and raises. -/
def raises (g : LoadGenerator η) (s : State η) (a : Action) : Bool :=
  match a.worker? with
  | none => false
  | some w => (s.workers[w]?).any fun pc => pc.raises g s w

/-- Nothing was lost to an exception so far. -/
def State.NothingLost (s : State η) : Prop := s.logUnstamped = [] ∧ s.logRaised = []

/-- A move of a worker loses its item exactly if it raises. -/
theorem WorkerMove.nothingLost_iff {g : LoadGenerator η} {s t : State η} {w : Nat}
    {pc pc' : WorkerPc} (h : WorkerMove g s w pc t pc') :
    t.NothingLost ↔ s.NothingLost ∧ pc.raises g s w = false := by
  cases h with
  | raised item => simp [State.NothingLost, WorkerPc.raises]
  | stampRaises item nowNs k u hget hk hstamp =>
      have hraises : WorkerPc.raises g s w (.stamping item nowNs k) = true := by
        simp only [WorkerPc.raises, hget, Option.any_some, hstamp, Option.isNone_none,
          Bool.and_true, decide_eq_true_eq]
        exact hk
      simp [State.NothingLost, hraises]
  | stamp item nowNs k u u' hget hstamp =>
      refine (and_iff_left ?_).symm
      simp [WorkerPc.raises, hget, hstamp]
  | stampDone item nowNs k u hget hk =>
      refine (and_iff_left ?_).symm
      simp only [WorkerPc.raises, hget, Option.any_some, decide_eq_false (not_lt.2 hk),
        Bool.false_and]
  | bookkeep pc pc' failures abortReason stop hitem hitem' hne hstopped =>
      refine (and_iff_left ?_).symm
      cases pc <;> first | rfl | simp [WorkerPc.item] at hitem
  | _ => exact (and_iff_left rfl).symm

theorem engineStep_nothingLost_iff {g : LoadGenerator η} {s s' : State η} {a : Action}
    (hstep : engineStep g s a = some s') :
    s'.NothingLost ↔ s.NothingLost ∧ raises g s a = false := by
  rcases engineStep_cases hstep with ⟨t, wall, rfl, hmain⟩ | ⟨rfl, hidle, rfl⟩ | ⟨rfl, rfl⟩ |
    ⟨ts, iso, rfl, rfl⟩ | ⟨w, pc, u, pc', ha, hpc, hmove, rfl⟩
  · have hkeeps := mainStep_keeps hmain
    rw [show raises g s (.main t wall) = false from rfl, and_iff_left rfl]
    simp only [State.NothingLost, hkeeps.logUnstamped, hkeeps.logRaised]
  · exact (and_iff_left rfl).symm
  · exact (and_iff_left rfl).symm
  · exact (and_iff_left rfl).symm
  · have hraises : raises g s a = pc.raises g s w := by simp [raises, ha, hpc]
    rw [hraises]
    exact hmove.nothingLost_iff

/-- A run loses nothing exactly if none of its steps raises. -/
theorem nothingLost_iff_meets {g : LoadGenerator η} {plan : List Step} {as : List Action}
    {s : State η} (hrun : (engine g plan).run (engineInit g plan) as = some s) :
    s.NothingLost ↔
      (engine g plan).Meets (fun s a => raises g s a = false) (engineInit g plan) as := by
  have hflag := System.meets_iff_of_flag (M := engine g plan)
    (P := fun s a => raises g s a = false) (F := State.NothingLost) (I := fun _ => True)
    (fun _ _ _ _ _ => trivial) (fun _ _ _ _ hstep => engineStep_nothingLost_iff hstep) trivial hrun
  rw [hflag]
  exact and_iff_right ⟨rfl, rfl⟩

/-! ## Conservation -/

/-- The pacer is between iterations, no item is queued, and every worker is idle. -/
structure Quiescent (s : State η) : Prop where
  pacer : s.main.item = none
  queue : ∀ x ∈ s.queue, x = none
  workers : ∀ pc ∈ s.workers, pc.item = none

/-- Every offered record is accounted for. -/
structure Conserved (batchSize : Nat) (t : Totals) : Prop where
  records : t.recordsOffered
    = t.recordsAccepted + t.recordsRejected + batchSize * t.failedNotRejected
  requests : batchSize * t.requestsSent = t.recordsOffered
  outcomes : t.requestsSent = t.requestsSuccess + t.requestsFailed

theorem reduceOption_eq_nil {queue : List (Option WorkItem)} (h : ∀ x ∈ queue, x = none) :
    queue.reduceOption = [] := by
  refine List.eq_nil_iff_forall_not_mem.2 fun item hitem => ?_
  have hnone := h _ (List.reduceOption_mem_iff.1 hitem)
  simp at hnone

/-- What is queued and held at a stage. -/
def State.outstanding (s : State η) (st : Stage) : Multiset WorkItem :=
  (State.ledger st s).waiting + (State.ledger st s).held

omit [SeqHandle η] in
theorem outstanding_eq_zero {s : State η} (hqueue : ∀ x ∈ s.queue, x = none)
    (hworkers : ∀ pc ∈ s.workers, pc.item = none) (st : Stage) : s.outstanding st = 0 := by
  have hwaiting : (State.ledger st s).waiting = 0 := by
    show (s.queue.reduceOption : Multiset WorkItem) = 0
    rw [reduceOption_eq_nil hqueue]
    rfl
  have hheld : (State.ledger st s).held = 0 := tally_eq_zero fun pc hpc =>
    WorkerPc.share_of_toDo_none (WorkerPc.toDo_of_item_none st (hworkers pc hpc))
  rw [State.outstanding, hwaiting, hheld, zero_add]

theorem Quiescent.length_eq {g : LoadGenerator η} {plan : List Step} {s : State η}
    (hq : Quiescent s) (h : (engine g plan).Reachable s) :
    s.logEnqueued.length
      = s.logRecorded.length + (s.logUnstamped.length + s.logRaised.length) := by
  have hzero := outstanding_eq_zero hq.queue hq.workers .recorded
  have hbalanced : (State.ledger .recorded s).issued = s.outstanding .recorded
      + (State.ledger .recorded s).settled + (State.ledger .recorded s).lost :=
    ledger_balanced h .recorded
  rw [hzero, zero_add] at hbalanced
  have hcard := congrArg Multiset.card hbalanced
  simpa [State.ledger, State.past, State.lostBefore] using hcard

theorem recorded_recordCount {g : LoadGenerator η} {plan : List Step} {s : State η}
    (h : (engine g plan).Reachable s) :
    ∀ x ∈ s.logRecorded, x.1.recordCount = g.factory.batchSize := by
  intro x hx
  have hpast : x.1 ∈ s.past .recorded := List.mem_map_of_mem hx
  exact recordCount_of_past h hpast

/-- **When offered records are conserved.** In a quiescent state of a launched engine the counters
account for every offered record if and only if nothing raised inside a `_send` on the way. -/
theorem conserved_iff {cfg : RunConfig ρ} {g : LoadGenerator η} (hlaunch : launch η cfg = some g)
    {plan : List Step} {as : List Action} {s : State η}
    (hrun : (engine g plan).run (engineInit g plan) as = some s) (hq : Quiescent s) :
    Conserved g.batchSize s.metrics.totals ↔
      (engine g plan).Meets (fun s a => raises g s a = false) (engineInit g plan) as := by
  have hreach : (engine g plan).Reachable s := ⟨as, hrun⟩
  have hg := launch_launched hlaunch
  have hcounted := counted_of_reachable hreach
  rw [hg.totals_eq] at hcounted
  have hcount := recorded_recordCount hreach
  rw [hg.batchSize_eq] at hcount
  have hpacing := hg.pacing hreach
  have hoffered : s.metrics.totals.recordsOffered = g.batchSize * s.logEnqueued.length :=
    (hpacing.recordsOffered_eq hq.pacer).trans (Nat.zero_add _)
  have hlength := hq.length_eq hreach
  obtain ⟨hsplit, hsplit'⟩ := outcomesOf_split s.logRecorded
  have hsent : s.metrics.totals.requestsSent = s.logRecorded.length := by
    simpa using hcounted.requestsSent
  have houtcomes : s.metrics.totals.requestsSent
      = s.metrics.totals.requestsSuccess + s.metrics.totals.requestsFailed := by
    rw [hsent, hcounted.requestsSuccess, hcounted.requestsFailed]
    simpa using hsplit'.symm
  -- accepted, rejected and otherwise failed records are the records of all recorded outcomes
  have hrecords : s.metrics.totals.recordsAccepted + s.metrics.totals.recordsRejected
      + g.batchSize * s.metrics.totals.failedNotRejected
      = g.batchSize * s.logRecorded.length := by
    rw [hcounted.recordsAccepted, hcounted.recordsRejected, hcounted.failed,
      recordsOf_eq_mul hcount, recordsOf_eq_mul hcount, ← hsplit]
    simp only [Totals.failedNotRejected]
    ring
  rw [← nothingLost_iff_meets hrun]
  constructor
  · intro hcons
    have heq : g.batchSize * s.logRecorded.length = g.batchSize * s.logEnqueued.length := by
      rw [← hsent, ← hoffered]
      exact hcons.requests
    have hzero : s.logUnstamped.length + s.logRaised.length = 0 := by
      by_contra hpos
      -- something was put, so a batch is not empty
      have hput : s.logEnqueued ≠ [] := by
        intro hnil
        rw [hnil, List.length_nil] at hlength
        omega
      obtain ⟨x, hx⟩ := List.exists_mem_of_ne_nil _ hput
      have hbatch : 0 < g.batchSize := hpacing.batch_pos fun hnil => by
        have := hpacing.step_lt x hx
        simp [hnil] at this
      have := Nat.eq_of_mul_eq_mul_left hbatch heq
      omega
    exact ⟨List.eq_nil_of_length_eq_zero (by omega), List.eq_nil_of_length_eq_zero (by omega)⟩
  · rintro ⟨hunstamped, hraised⟩
    rw [hunstamped, hraised] at hlength
    have hlen : s.logEnqueued.length = s.logRecorded.length := by simpa using hlength
    refine ⟨?_, ?_, houtcomes⟩
    · rw [hrecords, hoffered, hlen]
    · rw [hsent, hoffered, hlen]

/-- An export call of worker `w` that raises. -/
def workerRaised (w : Nat) : List Action :=
  .exportReturns w .raised :: List.replicate 2 (.worker w)

/-- Conservation after one acknowledged item. -/
theorem conserved_iff_acked : ∃ (g : LoadGenerator BenchSeq) (s : State BenchSeq),
    s.logEnqueued.length = 1 ∧ (Conserved g.batchSize s.metrics.totals ↔
      (engine g [⟨0, 1, 1⟩]).Meets (fun s a => raises g s a = false) (engineInit g [⟨0, 1, 1⟩])
        (mainRuns 13 0 ++ workerExports 0 1 ++ workerAcked 0)) := by
  obtain ⟨g, s, hg, hrun, hP⟩ := exists_of_runFrom
    (launch BenchSeq (plainConfig 1 1 1)) [⟨0, 1, 1⟩]
    (mainRuns 13 0 ++ workerExports 0 1 ++ workerAcked 0)
    (P := fun s => s.logEnqueued.length = 1 ∧ s.main.item = none ∧ s.queue = [] ∧
      s.workers = [.waiting])
    (by decide +kernel)
  obtain ⟨hput, hitem, hqueue, hworkers⟩ : s.logEnqueued.length = 1 ∧ s.main.item = none ∧
      s.queue = [] ∧ s.workers = [.waiting] := of_decide_eq_true hP
  refine ⟨g, s, hput, conserved_iff hg hrun ⟨hitem, ?_, ?_⟩⟩
  · simp [hqueue]
  · simp [hworkers, WorkerPc.item]

/-- **An exception leaves its item unaccounted for**: one item is put, its export raises, and with
every worker idle again one record is offered and no request is counted. -/
theorem not_conserved_raised :
    ¬ ∀ (cfg : RunConfig Unit) (g : LoadGenerator BenchSeq) (plan : List Step) (s : State BenchSeq),
        launch BenchSeq cfg = some g → (engine g plan).Reachable s → Quiescent s →
        Conserved g.batchSize s.metrics.totals := by
  intro h
  obtain ⟨g, s, hg, hrun, hP⟩ := exists_of_runFrom
    (launch BenchSeq (plainConfig 1 1 1)) [⟨0, 1, 1⟩]
    (mainRuns 13 0 ++ workerExports 0 1 ++ workerRaised 0)
    (P := fun s => s.main.item = none ∧ s.queue = [] ∧ s.workers = [.waiting] ∧
      s.metrics.totals.recordsOffered = 1 ∧ s.metrics.totals.requestsSent = 0)
    (by decide +kernel)
  obtain ⟨hitem, hqueue, hworkers, hoffered, hsent⟩ : s.main.item = none ∧ s.queue = [] ∧
      s.workers = [.waiting] ∧ s.metrics.totals.recordsOffered = 1 ∧
      s.metrics.totals.requestsSent = 0 := of_decide_eq_true hP
  have hquiet : Quiescent s := ⟨hitem, by simp [hqueue], by simp [hworkers, WorkerPc.item]⟩
  have hcons := (h _ g _ s hg ⟨_, hrun⟩ hquiet).requests
  rw [hoffered, hsent] at hcons
  omega

end AnalyticsTesting.Generator
