import AnalyticsTesting.Generator.Proofs.Pacing
import AnalyticsTesting.Generator.Proofs.Timeline
import Mathlib.Data.Rat.Floor

set_option autoImplicit false

/-! # The schedule of the pacer

The engine follows the timeline model: `State.timeline` reads off where the pacer is, and every step
of the engine leaves it alone or is a step of the model with its `toll` (`engineStep_timeline`).
What the model says of a step therefore holds of `run_step`:

* `onSchedule_of_reachable`: in every reachable state, no batch has been put before its time on the
  ideal timeline, and a step never offers more than its rate allows;
* `shortfallAdmitted_of_timely`: where a step ran to its deadline, recorded stalls admit the
  schedule time it failed to offer, if its iterations lost little beyond an interval each. -/

namespace AnalyticsTesting.Generator

variable {η : Type} [SeqHandle η]

/-! ## The timeline of the engine -/

/-- The schedule of the current call of `run_step`. -/
def Frame.timing (f : Frame) : Timing :=
  ⟨f.result, f.interval, f.step.durationSeconds, f.deadline, f.nextSubmit, f.now⟩

/-- Where the pacer is, by the program counter of the main thread. -/
def MainPc.phase : MainPc → Phase
  | .publish f | .announce f | .start f => .opening f.timing
  | .loop f => .waiting f.timing
  | .sleep f d => .sleeping f.timing d
  | .allocate f | .stallStart f _ => .due f.timing
  | .mayPut f _ since => .blocked f.timing since
  | .put f _ since => .putting f.timing since
  | .measure f _ since enqueued => .measuring f.timing since enqueued
  | .recordStall f _ enqueued d | .creditStall f _ enqueued d => .stalled f.timing enqueued d
  | .giveBack f _ => .refused f.timing
  | .recordOffered f _ | .creditOffered f _ | .advance f => .sent f.timing
  | .drain f | .drainHead f _ | .drainQueue f _ | .drainInflight f _ | .finish f _ =>
      .draining f.timing
  | .idle | .stopSet _ | .stopPut _ _ | .stopJoin _ _ | .closed _ => .outside

/-- The interval of a step's schedule, `1 / (rps / batch)`. -/
def StepResult.interval (batch : Nat) (r : StepResult) : ℚ := 1 / (r.targetRps / batch)

def StepResult.quota (batch : Nat) (r : StepResult) : Quota :=
  ⟨r.interval batch, r.durationSeconds, r.stalledMs / 1000⟩

def State.timeline (g : LoadGenerator η) (s : State η) : Timeline where
  phase := s.main.phase
  clock := s.clock
  stopped := s.stopped
  put := s.logEnqueued.map Prod.snd
  quotas := s.results.map (StepResult.quota g.batchSize)

/-- The toll of a step of the engine. A reading of the clock shows the time that was lost: what
    passed since the reading before it, less the sleep that was asked for. The time a put takes is
    lost if it is too short to be recorded. -/
def toll (s : State η) : Action → Toll
  | .main t _ =>
      match s.main with
      | .loop _ => .lost (if s.stop then 0 else t - s.clock)
      | .sleep _ d => .lost (if s.stop then 0 else t - s.clock - min d (1 / 4))
      | .stallStart _ _ => .lost (t - s.clock)
      | .measure _ _ since _ => .lost (if 1 / 1000 < t - since then 0 else t - since)
      | .advance f =>
          .advanced f.interval (f.advance.nextSubmit - (f.nextSubmit + f.interval))
      | _ => .lost 0
  | _ => .lost 0

/-- What the `i`-th step of the plan has spent after a step of the engine: only the current one
    pays. -/
def pays (i : Nat) (s : State η) (a : Action) (x : Spent) : Spent :=
  if s.main.frame.map Frame.result = some i then x.pay (toll s a) else x

/-- What the `i`-th step of the plan spends in a run of the engine. -/
def spentIn (g : LoadGenerator η) (plan : List Step) (i : Nat) (as : List Action) : Spent :=
  (engine g plan).tally (pays i) .nothing (engineInit g plan) as

/-! ## The engine follows the model -/

/-- Nothing happens in the model, or one of its steps. -/
def Timeline.Follows (v : Timeline) (toll : Toll) (v' : Timeline) : Prop :=
  (v' = v ∧ toll = .lost 0) ∨ TimelineStep v toll v'

theorem Frame.advance_timing (f : Frame) : f.advance.timing = f.timing.advance := rfl

theorem Frame.dropped_timing (f : Frame) :
    f.advance.nextSubmit - (f.nextSubmit + f.interval) = f.timing.dropped := by
  have hnext := f.timing.advance_nextSubmit
  rw [← Frame.advance_timing] at hnext
  have hnext' : f.advance.nextSubmit = f.nextSubmit + f.interval + f.timing.dropped := hnext
  rw [hnext']
  ring

theorem MainPc.timing_phase (pc : MainPc) : pc.phase.timing = pc.frame.map Frame.timing := by
  cases pc <;> rfl

omit [SeqHandle η] in
theorem stopped_of_stop {s : State η} (h : s.stop = true) : s.stopped = true := by
  simp [State.stopped, h]

omit [SeqHandle η] in
theorem stopped_of_abort {s : State η} (h : s.abortReason.isSome = true) : s.stopped = true := by
  simp [State.stopped, h]

theorem afterStall_phase (f : Frame) (item : WorkItem) (enqueued : Bool) :
    (afterStall f item enqueued).phase = Phase.afterStall f.timing enqueued := by
  cases enqueued <;> rfl

theorem stepInterval_eq {rps : ℚ} {batch : Nat} {interval : ℚ}
    (h : stepInterval rps batch = some interval) :
    interval = 1 / (rps / batch) ∧ 0 < interval := by
  unfold stepInterval at h
  split at h
  · simp at h
  · split at h
    · simp at h
    · rename_i hrate
      obtain rfl := Option.some.inj h
      exact ⟨rfl, one_div_pos.2 (not_le.1 hrate)⟩

theorem credit_stall_quota (batch : Nat) (r : StepResult) (d : ℚ) :
    StepResult.quota batch { r with stalledMs := r.stalledMs + d * 1000 }
      = { r.quota batch with stalled := (r.quota batch).stalled + d } := by
  simp only [StepResult.quota, StepResult.interval, Quota.mk.injEq, true_and]
  ring

/-- **One statement of the main thread follows the model.** -/
theorem mainStep_timeline {g : LoadGenerator η} {s s' : State η} {t wall : ℚ}
    (hstep : mainStep g s t wall = some s') :
    (s.timeline g).Follows (toll s (.main t wall)) (s'.timeline g) := by
  obtain ⟨ht, hmove⟩ := mainStep_move hstep
  have hphase : (s.timeline g).phase = s.main.phase := rfl
  generalize hmain : s.main = pc at hmove
  rw [hmain] at hphase
  simp only [toll, hmain]
  cases hmove with
  | openRaises step rest hplan hinterval =>
      exact Or.inl ⟨by simp [State.timeline, State.stopped, hmain, MainPc.phase], rfl⟩
  | openStep step rest interval hplan hinterval =>
      obtain ⟨heq, hpos⟩ := stepInterval_eq hinterval
      have hopen := TimelineStep.openStep (v := s.timeline g)
        ⟨s.results.length, interval, step.durationSeconds, 0, 0, 0⟩ hphase
        (by simp [State.timeline]) hpos
      simp only [State.timeline, StepResult.quota, StepResult.interval, List.map_append,
        List.map_cons, List.map_nil, zero_div, ← heq]
      exact Or.inr hopen
  | start f probe hprobe => exact Or.inr (.start f.timing t hphase ht)
  | loopStops f hstop =>
      dsimp only
      rw [if_pos hstop]
      exact Or.inr (.cut f.timing (Or.inl hphase) (stopped_of_stop hstop))
  | loopEnds f hgo hend =>
      dsimp only
      rw [if_neg (ne_true_of_eq_false hgo)]
      exact Or.inr (.expire f.timing t hphase ht hend)
  | loopEarly f hgo hearly =>
      dsimp only
      rw [if_neg (ne_true_of_eq_false hgo)]
      exact Or.inr (.sleep f.timing t hphase ht (sub_pos.1 hearly))
  | loopDue f hgo hdue =>
      dsimp only
      rw [if_neg (ne_true_of_eq_false hgo)]
      exact Or.inr (.take f.timing t hphase ht (sub_nonpos.1 hdue))
  | sleepStops f d hstop =>
      dsimp only
      rw [if_pos hstop]
      exact Or.inr (.cut f.timing (Or.inr ⟨d, hphase⟩) (stopped_of_stop hstop))
  | sleepAgain f d hgo hwait hlong =>
      -- the source sleeps for at most a quarter of a second at a time
      dsimp only
      rw [if_neg (ne_true_of_eq_false hgo)]
      rw [min_eq_right hlong.le] at hwait ⊢
      exact Or.inr (.nap f.timing d t hphase hlong hwait)
  | sleepEnds f d hgo hwait hshort =>
      dsimp only
      rw [if_neg (ne_true_of_eq_false hgo)]
      rw [min_eq_left hshort] at hwait ⊢
      exact Or.inr (.wake f.timing d t hphase ht hwait)
  | stallStart f item => exact Or.inr (.block f.timing t hphase ht)
  | mayPutStops f item since hstop =>
      exact Or.inr (.refuse f.timing since s.clock hphase le_rfl (Or.inl (stopped_of_stop hstop)))
  | mayPut f item since hin => exact Or.inr (.attempt f.timing since t hphase ht hin)
  | mayPutEnds f item since hend =>
      exact Or.inr (.refuse f.timing since t hphase ht (Or.inr hend))
  | put f item since =>
      simp only [State.timeline, List.map_append, List.map_cons, List.map_nil]
      exact Or.inr (.put f.timing since hphase)
  | putFull f item since => exact Or.inr (.full f.timing since t hphase ht)
  | measureStall f item since enqueued hlong =>
      dsimp only
      rw [if_pos hlong]
      exact Or.inr (.stall f.timing since t enqueued hphase ht)
  | measure f item since enqueued hshort =>
      -- a put of at most a millisecond is no stall to the source
      dsimp only
      rw [if_neg hshort]
      simp only [State.timeline, afterStall_phase]
      exact Or.inr (.pass f.timing since t enqueued hphase ht)
  | creditStall f item enqueued d =>
      have hquotas := map_modify_comm (StepResult.quota g.batchSize) s.results f.result
        (fun q => { q with stalled := q.stalled + d })
        (fun r => (credit_stall_quota g.batchSize r d))
      simp only [State.timeline, State.modifyResult, afterStall_phase, hquotas]
      exact Or.inr (.record f.timing enqueued d hphase)
  | giveBack f item => exact Or.inr (.quit f.timing hphase)
  | advanceAborts f habort =>
      dsimp only
      rw [Frame.dropped_timing]
      exact Or.inr (.abort f.timing hphase (stopped_of_abort habort))
  | advance f =>
      dsimp only
      rw [Frame.dropped_timing]
      exact Or.inr (.advance f.timing hphase)
  | drain f => exact Or.inr (.tick f.timing t hphase ht)
  | drainHead f until_ => exact Or.inr (.tick f.timing t hphase ht)
  | drainTimeout f until_ htimeout => exact Or.inr (.tick f.timing t hphase ht)
  | finish f drained =>
      -- closing a `StepResult` leaves the fields of its quota alone
      have hquota : ∀ r : StepResult,
          StepResult.quota g.batchSize (r.close wall s.nextSeq) = r.quota g.batchSize :=
        fun _ => rfl
      simp only [State.timeline, State.modifyResult,
        map_modify_of_eq (StepResult.quota g.batchSize) _ _ hquota]
      exact Or.inr (.close f.timing hphase)
  | creditOffered f item =>
      have hquota : ∀ r : StepResult,
          StepResult.quota g.batchSize { r with offered := r.offered + item.recordCount }
            = r.quota g.batchSize := fun _ => rfl
      simp only [State.timeline, State.modifyResult,
        map_modify_of_eq (StepResult.quota g.batchSize) _ _ hquota, hmain]
      exact Or.inl ⟨rfl, rfl⟩
  | stopSet failed =>
      have hhalt := TimelineStep.halt (v := s.timeline g)
      simp only [State.timeline, State.stopped, hmain, Bool.true_or] at hhalt ⊢
      exact Or.inr hhalt
  | _ =>
      -- the model does not see these statements
      refine Or.inl ⟨?_, rfl⟩
      simp only [State.timeline, State.stopped, State.allocate, hmain]
      rfl

theorem credit_quota (batch : Nat) (r : StepResult) (item : WorkItem) (e : ExportResult) :
    (r.credit item e).quota batch = r.quota batch := by
  unfold StepResult.credit
  split <;> rfl

/-- A worker can stop the engine, and does nothing else to its timeline. -/
theorem WorkerMove.timeline_eq {g : LoadGenerator η} {s t : State η} {w : Nat}
    {pc pc' : WorkerPc} (h : WorkerMove g s w pc t pc') :
    t.timeline g = { s.timeline g with stopped := t.stopped } ∧
      (s.stopped = true → t.stopped = true) := by
  cases h with
  | credit item r =>
      refine ⟨?_, id⟩
      simp only [State.timeline, State.credit]
      cases s.step with
      | none => rfl
      | some i =>
          rw [map_modify_of_eq (StepResult.quota g.batchSize) _ _
            fun r' => credit_quota g.batchSize r' item r]
  | bookkeep _ _ failures abortReason stop hitem hitem' hne hstopped => exact ⟨rfl, hstopped⟩
  | _ => exact ⟨rfl, id⟩

/-- **The engine follows the model**, its step at the same toll. -/
theorem engineStep_timeline {g : LoadGenerator η} {s s' : State η} {a : Action}
    (hstep : engineStep g s a = some s') :
    (s.timeline g).Follows (toll s a) (s'.timeline g) := by
  have hhalt := TimelineStep.halt (v := s.timeline g)
  rcases engineStep_cases hstep with ⟨t, wall, rfl, hmain⟩ | ⟨rfl, hidle, rfl⟩ | ⟨rfl, rfl⟩ |
    ⟨ts, iso, rfl, rfl⟩ | ⟨w, pc, u, pc', ha, -, hmove, rfl⟩
  · exact mainStep_timeline hmain
  · refine Or.inl ⟨?_, rfl⟩
    simp only [State.timeline, hidle]
    rfl
  · exact Or.inr hhalt
  · exact Or.inl ⟨rfl, rfl⟩
  · obtain ⟨heq, hmono⟩ := hmove.timeline_eq
    have hfree : toll s a = .lost 0 := by
      cases a <;> first | rfl | simp [Action.worker?] at ha
    have heq' : State.timeline g { u with workers := s.workers.set w pc' } = u.timeline g := rfl
    rw [hfree, heq', heq]
    cases hs : s.stopped with
    | true =>
        rw [hmono hs]
        exact Or.inl ⟨by simp [State.timeline, hs], rfl⟩
    | false =>
        cases hu : u.stopped with
        | true => exact Or.inr hhalt
        | false => exact Or.inl ⟨by simp [State.timeline, hs], rfl⟩

/-! ## The account of every run -/

theorem pay_timeline (g : LoadGenerator η) (s : State η) (i : Nat) (a : Action) (x : Spent) :
    (s.timeline g).pay i (toll s a) x = pays i s a x := by
  have htiming : (s.timeline g).phase.timing = s.main.frame.map Frame.timing := s.main.timing_phase
  unfold Timeline.pay pays
  rw [htiming, Option.map_map]
  rfl

/-- **One step of the engine keeps the account** of every step of the plan. -/
theorem engineStep_accounts {g : LoadGenerator η} {s s' : State η} {a : Action} {i : Nat}
    {x : Spent} (h : (s.timeline g).Accounts i x) (hstep : engineStep g s a = some s') :
    (s'.timeline g).Accounts i (pays i s a x) := by
  rw [← pay_timeline g]
  rcases engineStep_timeline hstep with ⟨heq, hfree⟩ | hmodel
  · rw [heq, hfree, Timeline.pay_lost_zero]
    exact h
  · exact hmodel.accounts h

theorem engineInit_accounts (g : LoadGenerator η) (plan : List Step) (i : Nat) :
    ((engineInit g plan).timeline g).Accounts i .nothing := by
  constructor <;>
    simp [State.timeline, engineInit, MainPc.phase, Phase.timing, Timeline.puts, Spent.nothing]

/-- The account at the end of a run: what the run spent in the `i`-th step. -/
theorem accounts_of_run {g : LoadGenerator η} {plan : List Step} {as : List Action} {s : State η}
    (hrun : (engine g plan).run (engineInit g plan) as = some s) (i : Nat) :
    (s.timeline g).Accounts i (spentIn g plan i as) :=
  Transition.System.run_of_preserves_tally (M := engine g plan)
    (I := fun s x => (s.timeline g).Accounts i x)
    (fun _ _ _ _ hI hstep => engineStep_accounts hI hstep) (engineInit_accounts g plan i) hrun

/-! ## The pacer is never early -/

variable {ρ : Type}

/-- `started` of `run_step`. -/
def Frame.started (f : Frame) : ℚ := f.deadline - f.step.durationSeconds

/-- The batches the `i`-th step has put into the queue. -/
def enqueuedBy (s : State η) (i : Nat) : Nat := s.logEnqueued.countP fun x => x.2 = i

theorem puts_timeline (g : LoadGenerator η) (s : State η) (i : Nat) :
    (s.timeline g).puts i = enqueuedBy s i := by
  show (s.logEnqueued.map Prod.snd).count i = _
  rw [enqueuedBy, List.count, List.countP_map]
  exact List.countP_congr fun x _ => by simp

theorem phase_ne_opening {pc : MainPc} (h : pc.probed = true) (τ : Timing) :
    pc.phase ≠ .opening τ := by
  cases pc <;> simp [MainPc.probed] at h <;> simp [MainPc.phase]

theorem getElem?_quotas (g : LoadGenerator η) {s : State η} {i : Nat} {r : StepResult}
    (hr : s.results[i]? = some r) : (s.timeline g).quotas[i]? = some (r.quota g.batchSize) := by
  show (s.results.map (StepResult.quota g.batchSize))[i]? = _
  rw [List.getElem?_map, hr]
  rfl

/-- What a step has offered is at most what it has put. -/
theorem offered_le_enqueuedBy {g : LoadGenerator η} {s : State η}
    (h : Pacing g.batchSize g.batchSize 0 s.paceView) {i : Nat} {r : StepResult}
    (hr : s.results[i]? = some r) : r.offered ≤ g.batchSize * enqueuedBy s i := by
  have hspan : s.paceView.spans[i]? = some r.span := by
    show (s.results.map StepResult.span)[i]? = _
    rw [List.getElem?_map, hr]
    rfl
  have hoffered := h.offered_eq i r.span hspan
  have hput : (s.paceView.enqueued.countP fun x => x.2 = i) = enqueuedBy s i := rfl
  have hcredit : r.span.offered = r.offered := rfl
  rw [putBefore_succ, Nat.mul_add, hput, hcredit] at hoffered
  omega

/-- The pacer keeps to the ideal timeline: at no time from the latest reading of the clock on has
    the current step put more batches than slots have come, and over a whole step it puts fewer than
    its duration has intervals, plus one, and offers at most what its rate allows, in whole
    batches. -/
structure OnSchedule (g : LoadGenerator η) (s : State η) : Prop where
  never_early : ∀ (f : Frame) (r : StepResult) (t : ℚ), s.main.frame = some f →
    s.main.probed = true → s.results[f.result]? = some r → s.clock ≤ t →
    (enqueuedBy s f.result : ℤ) ≤ ⌊(t - f.started) / r.interval g.batchSize⌋ + 1
  put_lt : ∀ (i : Nat) (r : StepResult), s.results[i]? = some r → 0 ≤ r.durationSeconds →
    (enqueuedBy s i : ℚ) < r.durationSeconds / r.interval g.batchSize + 1
  offered_le : ∀ (i : Nat) (r : StepResult), s.results[i]? = some r → 0 ≤ r.durationSeconds →
    (r.offered : ℤ) ≤ (g.batchSize : ℤ) * ⌈r.durationSeconds * r.targetRps / (g.batchSize : ℚ)⌉

theorem put_lt_of_run {g : LoadGenerator η} {plan : List Step} {as : List Action} {s : State η}
    (hrun : (engine g plan).run (engineInit g plan) as = some s) {i : Nat} {r : StepResult}
    (hr : s.results[i]? = some r) (hduration : 0 ≤ r.durationSeconds) :
    (enqueuedBy s i : ℚ) < r.durationSeconds / r.interval g.batchSize + 1 := by
  rw [← puts_timeline g]
  exact (accounts_of_run hrun i).puts_lt (getElem?_quotas g hr) hduration

/-- **The pacer never offers ahead of schedule**, in any reachable state of a launched engine. -/
theorem onSchedule_of_reachable {cfg : RunConfig ρ} {g : LoadGenerator η}
    (hlaunch : launch η cfg = some g) {plan : List Step} {s : State η}
    (hreach : (engine g plan).Reachable s) : OnSchedule g s := by
  obtain ⟨as, hrun⟩ := hreach
  refine ⟨?_, fun i r hr hduration => put_lt_of_run hrun hr hduration, ?_⟩
  · intro f r t hframe hprobed hr ht
    have hacc := accounts_of_run hrun f.result
    have hτ : (s.timeline g).phase.timing = some f.timing := by
      show s.main.phase.timing = _
      rw [MainPc.timing_phase, hframe]
      rfl
    have hquota := getElem?_quotas g hr
    have hinterval : r.interval g.batchSize = f.interval :=
      (hacc.quota_eq f.timing _ hτ rfl hquota).1
    have hpos : 0 < r.interval g.batchSize := hacc.interval_pos _ hquota
    rw [hinterval] at hpos ⊢
    rw [← puts_timeline g]
    exact hacc.puts_le_floor hτ rfl (phase_ne_opening hprobed) hpos ht
  · intro i r hr hduration
    have hputs := put_lt_of_run hrun hr hduration
    have hoffered := offered_le_enqueuedBy ((launch_launched hlaunch).pacing ⟨as, hrun⟩) hr
    have hrate : r.durationSeconds / r.interval g.batchSize
        = r.durationSeconds * r.targetRps / g.batchSize := by
      rw [StepResult.interval, div_div_eq_mul_div, div_one, mul_div_assoc]
    have hceil : (enqueuedBy s i : ℤ) ≤
        ⌈r.durationSeconds * r.targetRps / (g.batchSize : ℚ)⌉ := by
      rw [hrate] at hputs
      rw [← Int.sub_one_lt_iff, Int.lt_ceil, Int.cast_sub, Int.cast_natCast, Int.cast_one]
      linarith
    calc (r.offered : ℤ) ≤ ((g.batchSize * enqueuedBy s i : Nat) : ℤ) := by exact_mod_cast hoffered
      _ = g.batchSize * (enqueuedBy s i : ℤ) := Nat.cast_mul _ _
      _ ≤ _ := mul_le_mul_of_nonneg_left hceil (Int.natCast_nonneg _)

/-- A run whose only step has just put its first batch is on schedule. -/
theorem onSchedule_firstBatch : ∃ (g : LoadGenerator BenchSeq) (s : State BenchSeq),
    enqueuedBy s 0 = 1 ∧ OnSchedule g s := by
  obtain ⟨g, s, hg, hrun, hput⟩ := exists_of_runFrom
    (launch BenchSeq (plainConfig 1 1 1)) [⟨0, 1, 1⟩] (mainRuns 9 0)
    (P := fun s => enqueuedBy s 0 = 1) (by decide +kernel)
  exact ⟨g, s, of_decide_eq_true hput, onSchedule_of_reachable hg ⟨mainRuns 9 0, hrun⟩⟩

/-! ## What a shortfall is made of -/

/-- The schedule time a step failed to offer is within its recorded stall, the second of lag the
    pacer carries forward, and two intervals. -/
def ShortfallAdmitted (g : LoadGenerator η) (s : State η) (i : Nat) (r : StepResult) : Prop :=
  r.durationSeconds - enqueuedBy s i * r.interval g.batchSize
    ≤ r.stalledMs / 1000 + 1 + 2 * r.interval g.batchSize

/-- **Where the missing batches went.** The schedule time that a step failed to offer is the lag
that re-anchoring gave up and the lag at the end; recorded stalls and the time that its iterations
lost make up for both. -/
theorem shortfall_of_run {g : LoadGenerator η} {plan : List Step} {as : List Action}
    {s : State η} (hrun : (engine g plan).run (engineInit g plan) as = some s) {f : Frame}
    (hmain : s.main = .drain f) (hstop : s.stop = false) (habort : s.abortReason = none)
    {r : StepResult} (hr : s.results[f.result]? = some r) :
    r.durationSeconds - enqueuedBy s f.result * r.interval g.batchSize
        = (spentIn g plan f.result as).dropped + (f.deadline - f.nextSubmit) ∧
      r.durationSeconds - enqueuedBy s f.result * r.interval g.batchSize
        ≤ r.stalledMs / 1000
          + ((spentIn g plan f.result as).overrun + (spentIn g plan f.result as).lost) := by
  have hphase : (s.timeline g).phase = .draining f.timing := by
    show s.main.phase = _
    rw [hmain]
    rfl
  have hrunning : (s.timeline g).stopped = false := by
    simp [State.timeline, State.stopped, hstop, habort]
  have haccount := (accounts_of_run hrun f.result).shortfall hphase rfl
    (getElem?_quotas g hr) hrunning
  rw [puts_timeline g] at haccount
  exact haccount

/-- **When a shortfall is admitted.** In a run whose readings of the clock show the iterations of a
step to lose at most a second and two intervals, beyond an interval each and other than in recorded
stalls. -/
theorem shortfallAdmitted_of_timely {g : LoadGenerator η} {plan : List Step} {as : List Action}
    {s : State η} (hrun : (engine g plan).run (engineInit g plan) as = some s) {f : Frame}
    (hmain : s.main = .drain f) (hstop : s.stop = false) (habort : s.abortReason = none)
    {r : StepResult} (hr : s.results[f.result]? = some r)
    (htimely : (spentIn g plan f.result as).overrun + (spentIn g plan f.result as).lost
      ≤ 1 + 2 * r.interval g.batchSize) : ShortfallAdmitted g s f.result r := by
  have hle := (shortfall_of_run hrun hmain hstop habort hr).2
  unfold ShortfallAdmitted
  linarith

/-- A step of three seconds at one batch a second, whose first sleep ends after 1.6 seconds. -/
def lateRun : List Action := mainRuns 14 0 ++ mainRuns 11 (8 / 5) ++ mainRuns 11 2 ++ mainRuns 2 3

/-- A run that is late, and puts each batch within its second. -/
theorem shortfallAdmitted_lateRun : ∃ (g : LoadGenerator BenchSeq) (s : State BenchSeq)
    (f : Frame) (r : StepResult),
    (engine g [⟨0, 1, 3⟩]).run (engineInit g [⟨0, 1, 3⟩]) lateRun = some s ∧
    s.main = .drain f ∧ s.results[f.result]? = some r ∧
    (spentIn g [⟨0, 1, 3⟩] f.result lateRun).overrun = 7 / 20 ∧
    ShortfallAdmitted g s f.result r := by
  obtain ⟨g, s, hg, hrun, hP⟩ := exists_of_runFrom
    (launch BenchSeq (plainConfig 1 1 3)) [⟨0, 1, 3⟩] lateRun
    (P := fun s => s.main = .drain ⟨⟨0, 1, 3⟩, 0, 1, 3, 3, 3, 3, 1, 1⟩ ∧ s.stop = false ∧
      s.abortReason = none ∧ s.results.map (fun r => r.targetRps) = [1]) (by decide +kernel)
  obtain ⟨hmain, hstop, habort, hresults⟩ := of_decide_eq_true hP
  obtain ⟨r, hr, hrate⟩ := List.map_eq_singleton_iff.1 hresults
  have hget : s.results[0]? = some r := by simp [hr]
  have hspent : spentIn g [⟨0, 1, 3⟩] 0 lateRun = ⟨0, 7 / 20, 3 / 4⟩ := by
    have hall : (launch BenchSeq (plainConfig 1 1 3)).all
        (fun g => spentIn g [⟨0, 1, 3⟩] 0 lateRun = ⟨0, 7 / 20, 3 / 4⟩) = true := by decide +kernel
    rw [hg] at hall
    exact of_decide_eq_true hall
  have hinterval : r.interval g.batchSize = 1 := by
    have hbatch : g.batchSize = 1 := launch_batchSize hg
    simp [StepResult.interval, hrate, hbatch]
  refine ⟨g, s, _, r, hrun, hmain, hget, by rw [hspent], ?_⟩
  exact shortfallAdmitted_of_timely hrun hmain hstop habort hget
    (by rw [hspent, hinterval]; norm_num)

/-- A step of ten seconds at one batch a second, whose first sleep ends after 9.9 seconds. -/
def oversleptRun : List Action :=
  mainRuns 14 0 ++ mainRuns 1 (99 / 10) ++ mainRuns 9 (99 / 10) ++ mainRuns 9 (99 / 10) ++
    mainRuns 1 10

/-- **Re-anchoring drops a deficit that nothing recorded**: after the sleep the pacer gives up
almost eight seconds of its schedule, and the step shows no stall at all. -/
theorem not_shortfallAdmitted_oversleptRun :
    ¬ ∀ (cfg : RunConfig Unit) (g : LoadGenerator BenchSeq) (plan : List Step)
        (as : List Action) (s : State BenchSeq) (f : Frame) (r : StepResult),
        launch BenchSeq cfg = some g → (engine g plan).run (engineInit g plan) as = some s →
        s.main = .drain f → s.stop = false → s.abortReason = none →
        s.results[f.result]? = some r → ShortfallAdmitted g s f.result r := by
  intro h
  obtain ⟨g, s, hg, hrun, hP⟩ := exists_of_runFrom
    (launch BenchSeq (plainConfig 1 1 10)) [⟨0, 1, 10⟩] oversleptRun
    (P := fun s => s.main = .drain ⟨⟨0, 1, 10⟩, 0, 1, 10, 109 / 10, 3, 10, 1, 1⟩ ∧
      s.stop = false ∧ s.abortReason = none ∧ enqueuedBy s 0 = 3 ∧
      s.results.map (fun r => (r.targetRps, r.durationSeconds, r.stalledMs)) = [(1, 10, 0)])
    (by decide +kernel)
  obtain ⟨hmain, hstop, habort, hput, hresults⟩ := of_decide_eq_true hP
  obtain ⟨r, hr, heq⟩ := List.map_eq_singleton_iff.1 hresults
  obtain ⟨hrate, hduration, hstalled⟩ : r.targetRps = 1 ∧ r.durationSeconds = 10 ∧
      r.stalledMs = 0 := by simpa using heq
  have hget : s.results[0]? = some r := by simp [hr]
  have hadmitted := h _ g _ _ s _ r hg hrun hmain hstop habort hget
  have hbatch : g.batchSize = 1 := launch_batchSize hg
  unfold ShortfallAdmitted at hadmitted
  simp only [StepResult.interval, hrate, hduration, hstalled, hbatch, hput] at hadmitted
  norm_num at hadmitted

end AnalyticsTesting.Generator
