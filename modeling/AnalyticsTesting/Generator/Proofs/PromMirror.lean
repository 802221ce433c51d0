import AnalyticsTesting.Generator.PromMetrics
import AnalyticsTesting.Generator.Proofs.InflightBound
import AnalyticsTesting.Generator.Proofs.SampledRun

set_option autoImplicit false

/-! # What the mirror shows

`Metrics` and its mirror are told about an event one after the other, so a scrape may catch a thread
between the two. With what the threads still have to tell, the mirror shows exactly the totals
(`mirrors_settled`): calls of different threads commute, and the mirror that is told at once follows
every call (`Mirrors.call`). A scrape itself is never ahead of the totals, and behind by one batch a
thread at most (`mirror_lag`). -/

namespace AnalyticsTesting.Generator

open Transition

variable {η ρ : Type} [SeqHandle η]

/-! ## The mirror that is told at once -/

/-- The mirror and the totals say the same. -/
structure MirrorsTotals (m : Metrics) (r : PromMetrics) : Prop where
  offered : r.offered = m.totals.recordsOffered
  accepted : r.accepted = m.totals.recordsAccepted
  success : r.requests "success" = m.totals.requestsSuccess
  failure : r.requests "failure" = m.totals.requestsFailed
  errors : ∀ code, r.errors code = codeCount code m.totals.errorsByCode
  bytesSent : r.bytesSent = m.totals.bytesSent
  stalledMs : r.stalledMs = m.totals.stalledMs
  inflight : r.inflight = m.inflight
  latency : ∃ xs : List ℚ, m.allLatencies = xs.map (· * 1000) ∧
    r.latency = Histogram.observeAll xs

/-- The mirror and the metrics say the same. The gauges are those of the last sample. -/
structure Mirrors (m : Metrics) (r : PromMetrics) : Prop extends MirrorsTotals m r where
  offeredRps : r.offeredRps = (m.samples.getLast?.map Sample.offeredRps).getD 0
  acceptedRps : r.acceptedRps = (m.samples.getLast?.map Sample.acceptedRps).getD 0
  rejectedRps : r.rejectedRps = (m.samples.getLast?.map Sample.rejectedRps).getD 0

@[simp] theorem Totals.fail_errorsByCode (t : Totals) (records : Nat) (code : String) :
    (t.fail records code).errorsByCode = countCode code t.errorsByCode := by
  unfold Totals.fail
  dsimp only
  split_ifs <;> rfl

@[simp] theorem Totals.fail_bytesSent (t : Totals) (records : Nat) (code : String) :
    (t.fail records code).bytesSent = t.bytesSent := by
  unfold Totals.fail
  dsimp only
  split_ifs <;> rfl

@[simp] theorem Totals.fail_stalledMs (t : Totals) (records : Nat) (code : String) :
    (t.fail records code).stalledMs = t.stalledMs := by
  unfold Totals.fail
  dsimp only
  split_ifs <;> rfl

theorem Mirrors.init (testId : String) (sampleInterval : ℚ) :
    Mirrors (Metrics.init testId sampleInterval) {} where
  offered := rfl
  accepted := rfl
  success := rfl
  failure := rfl
  errors _ := rfl
  bytesSent := rfl
  stalledMs := rfl
  inflight := rfl
  offeredRps := rfl
  acceptedRps := rfl
  rejectedRps := rfl
  latency := ⟨[], rfl, rfl⟩

/-- **The mirror follows every call.** -/
theorem Mirrors.call {m : Metrics} {r : PromMetrics} (h : Mirrors m r) (c : MetricsCall) :
    Mirrors (m.call c) ((m.promOps c).foldl PromMetrics.apply r) := by
  obtain ⟨xs, hall, hlatency⟩ := h.latency
  cases c with
  | setStep index rps => exact { h with }
  | recordOffered records nbytes =>
      exact { h with
        offered := congrArg (· + records) h.offered
        bytesSent := congrArg (· + nbytes) h.bytesSent }
  | recordInflight delta => exact { h with inflight := congrArg (· + delta) h.inflight }
  | recordStall seconds =>
      exact { h with stalledMs := congrArg (· + seconds * 1000) h.stalledMs }
  | recordSuccess records latencyS =>
      exact { h with
        accepted := congrArg (· + records) h.accepted
        success := congrArg (· + 1) h.success
        failure := h.failure
        latency := ⟨xs ++ [latencyS], by simp [Metrics.call, Metrics.recordSuccess, hall],
          by simp [Metrics.promOps, PromMetrics.apply, hlatency]⟩ }
  | recordFailure records latencyS code =>
      refine
        { h with
          offered := h.offered.trans (Totals.fail_recordsOffered _ _ _).symm
          accepted := h.accepted.trans (Totals.fail_recordsAccepted _ _ _).symm
          success := h.success.trans (Totals.fail_requestsSuccess _ _ _).symm
          failure := (congrArg (· + 1) h.failure).trans (Totals.fail_requestsFailed _ _ _).symm
          errors := fun c => ?_
          bytesSent := h.bytesSent.trans (Totals.fail_bytesSent _ _ _).symm
          stalledMs := h.stalledMs.trans (Totals.fail_stalledMs _ _ _).symm
          latency := ⟨xs ++ [latencyS], by simp [Metrics.call, Metrics.recordFailure, hall],
            by simp [Metrics.promOps, PromMetrics.apply, hlatency]⟩ }
      simp only [Metrics.call, Metrics.recordFailure, Totals.fail_errorsByCode,
        codeCount_countCode, ← h.errors]
      rfl
  | flushSample ts iso =>
      exact { h with
        offeredRps := by simp [Metrics.call, Metrics.flushSample, Metrics.promOps,
          PromMetrics.apply]
        acceptedRps := by simp [Metrics.call, Metrics.flushSample, Metrics.promOps,
          PromMetrics.apply]
        rejectedRps := by simp [Metrics.call, Metrics.flushSample, Metrics.promOps,
          PromMetrics.apply] }

/-! ## The calls of the engine -/

/-- A step changes the metrics by the call that its statement is, and by nothing else. -/
theorem engineStep_metricsCall {g : LoadGenerator η} {s s' : State η} {a : Action}
    (h : engineStep g s a = some s') :
    s'.metrics = ((metricsCall s a).map s.metrics.call).getD s.metrics := by
  cases ha : a.worker? with
  | none =>
      rcases engineStep_other ha h with ⟨t, wall, rfl, hmain⟩ | ⟨rfl, -, rfl⟩ | ⟨rfl, rfl⟩ |
        ⟨ts, iso, rfl, rfl⟩
      · have hmove := (mainStep_move hmain).2
        simp only [metricsCall]
        generalize s.main = pc at hmove
        cases hmove <;> rfl
      · rfl
      · rfl
      · rfl
  | some w =>
      obtain ⟨pc, t, pc', hpc, hstatement, rfl⟩ := engineStep_statement ha h
      cases hstatement with
      | own pc pc' t hstep =>
          have hmove := workerStep_move hstep
          simp only [metricsCall, hpc]
          cases hmove with
          | success item r hok => simp [hok, Metrics.call]
          | failure item r hok => simp [hok, Metrics.call]
          | bookkeep pc pc' failures abortReason stop hitem =>
              cases pc <;> simp [WorkerPc.item] at hitem ⊢
          | _ => rfl
      | _ => rfl

/-- With all calls of the mirror made at once it shows what the metrics say. -/
theorem mirrors_immediate {cfg : RunConfig ρ} {g : LoadGenerator η}
    (hlaunch : launch η cfg = some g) {plan : List Step} {y : State η × PromMetrics}
    (h : (promEngine g plan).immediate.Reachable y) : Mirrors y.1.metrics y.2 := by
  refine System.reachable_of_preserves (I := fun y : State η × PromMetrics =>
    Mirrors y.1.metrics y.2) ?_ ?_ h
  · show Mirrors g.metrics {}
    rw [launch_metrics hlaunch]
    exact Mirrors.init _ _
  · rintro ⟨s, r⟩ a y' hy hstep
    obtain ⟨s', hs', rfl⟩ := Option.map_eq_some_iff.1 hstep
    have hmetrics := engineStep_metricsCall hs'
    have hwrite : (promEngine g plan).write r s a
        = (((metricsCall s a).map s.metrics.promOps).getD []).foldl PromMetrics.apply r := by
      unfold Deferring.write Deferring.issued
      cases a with
      | signal => rfl
      | _ => simp [promEngine, Action.thread, Function.comp_def]
    simp only [hwrite, hmetrics]
    cases metricsCall s a with
    | none => exact hy
    | some c => exact hy.call c

/-! ## Who owes what -/

/-- What a worker that has just made a call may still have to tell the mirror. -/
def WorkerPc.Told : WorkerPc → PromOp → Prop
  | .calling _, i => i = .inflight 1
  | .released _ _, i => i = .inflight (-1)
  | .taskDone, i => i = .inflight (-1)
  | .resetFailures item r, i =>
      i = .requests "success" ∨ i = .accepted item.recordCount ∨ i = .latency r.latencyS
  | .credit _ r, i => i = .requests "failure" ∨ i = .errors r.code ∨ i = .latency r.latencyS
  | _, _ => False

/-- What the main thread may still have to tell it. -/
def MainPc.Told : MainPc → PromOp → Prop
  | .creditStall _ _ _ stalled, i => i = .stalledMs (stalled * 1000)
  | .creditOffered _ item, i => i = .offered item.recordCount ∨ i = .bytesSent item.nbytes
  | _, _ => False

/-- The thread is right behind the call that it tells the mirror of. -/
def State.Told (s : State η) : Thread → PromOp → Prop
  | .main, i => s.main.Told i
  | .worker w, i => ∃ pc, s.workers[w]? = some pc ∧ pc.Told i
  | .sampler, i => i.isRate = true

theorem engineStep_told {g : LoadGenerator η} {s s' : State η} {a : Action} {t : Thread}
    {i : PromOp} (h : engineStep g s a = some s') (ht : a.thread = some t)
    (hi : i ∈ ((metricsCall s a).map s.metrics.promOps).getD []) : s'.Told t i := by
  cases ha : a.worker? with
  | none =>
      rcases engineStep_other ha h with ⟨time, wall, rfl, hmain⟩ | ⟨rfl, -, rfl⟩ | ⟨rfl, rfl⟩ |
        ⟨ts, iso, rfl, rfl⟩
      · obtain rfl : Thread.main = t := by simpa [Action.thread] using ht
        have hmove := (mainStep_move hmain).2
        simp only [metricsCall] at hi
        generalize s.main = pc at hmove hi
        cases hmove with
        | recordStall f item enqueued stalled =>
            simpa [Metrics.promOps, State.Told, MainPc.Told] using hi
        | recordOffered f item => simpa [Metrics.promOps, State.Told, MainPc.Told] using hi
        | _ => simp [Metrics.promOps] at hi
      · simp [metricsCall] at hi
      · simp [metricsCall] at hi
      · obtain rfl : Thread.sampler = t := by simpa [Action.thread] using ht
        simp only [metricsCall, Metrics.promOps, Option.map_some, Option.getD_some,
          List.mem_cons, List.not_mem_nil, or_false] at hi
        rcases hi with rfl | rfl | rfl <;> rfl
  | some w =>
      obtain ⟨pc, u, pc', hpc, hstatement, rfl⟩ := engineStep_statement ha h
      have hw : w < s.workers.length := (List.getElem?_eq_some_iff.1 hpc).1
      cases hstatement with
      | own pc pc' u hstep =>
          obtain rfl : Thread.worker w = t := by simpa [Action.thread] using ht
          have hmove := workerStep_move hstep
          refine ⟨pc', by simp [hw], ?_⟩
          simp only [metricsCall, hpc] at hi
          cases hmove with
          | enter item => simpa [Metrics.promOps, WorkerPc.Told] using hi
          | raised item => simpa [Metrics.promOps, WorkerPc.Told] using hi
          | release item r => simpa [Metrics.promOps, WorkerPc.Told] using hi
          | success item r hok => simpa [hok, Metrics.promOps, WorkerPc.Told] using hi
          | failure item r hok => simpa [hok, Metrics.promOps, WorkerPc.Told] using hi
          | bookkeep pc pc' failures abortReason stop hitem =>
              cases pc <;> simp [WorkerPc.item] at hitem hi
          | _ => simp at hi
      | _ => simp [metricsCall] at hi

/-- A step of anybody else leaves a thread where it is. -/
theorem engineStep_told_other {g : LoadGenerator η} {s s' : State η} {a : Action} {t : Thread}
    {i : PromOp} (h : engineStep g s a = some s') (ht : a.thread ≠ some t) (hi : s.Told t i) :
    s'.Told t i := by
  cases ha : a.worker? with
  | none =>
      rcases engineStep_other ha h with ⟨time, wall, rfl, hmain⟩ | ⟨rfl, -, rfl⟩ | ⟨rfl, rfl⟩ |
        ⟨ts, iso, rfl, rfl⟩
      · cases t with
        | main => simp [Action.thread] at ht
        | worker w =>
            obtain ⟨pc, hpc, htold⟩ := hi
            exact ⟨pc, by rw [(mainStep_keeps hmain).workers]; exact hpc, htold⟩
        | sampler => exact hi
      · cases t with
        | main => simp [Action.thread] at ht
        | _ => exact hi
      · cases t <;> exact hi
      · cases t <;> exact hi
  | some w =>
      obtain ⟨pc, u, pc', hpc, hmove, rfl⟩ : ∃ pc u pc', s.workers[w]? = some pc ∧
          WorkerMove g s w pc u pc' ∧ s' = { u with workers := s.workers.set w pc' } := by
        obtain ⟨pc, u, pc', hpc, hstatement, rfl⟩ := engineStep_statement ha h
        exact ⟨pc, u, pc', hpc, hstatement.move, rfl⟩
      cases t with
      | main =>
          have hmain : u.main = s.main := by cases hmove <;> rfl
          show u.main.Told i
          rw [hmain]
          exact hi
      | worker w' =>
          obtain ⟨pc₀, hpc₀, htold⟩ := hi
          have hne : w ≠ w' := by
            rintro rfl
            cases a <;> simp_all [Action.worker?, Action.thread]
          exact ⟨pc₀, by simpa [hne] using hpc₀, htold⟩
      | sampler => exact hi

/-- **What a thread owes, it has just recorded**, and it is at the statement after that. -/
theorem owed_told {g : LoadGenerator η} {plan : List Step}
    {x : Deferred (State η) Thread PromOp PromMetrics}
    (h : (promEngine g plan).deferred.Reachable x) : ∀ e ∈ x.owed, x.base.Told e.1 e.2 :=
  Deferring.owed_holds (Q := State.Told) (fun _ _ _ _ _ hstep ht hi => engineStep_told hstep ht hi)
    (fun _ _ _ _ _ hstep ht hi => engineStep_told_other hstep ht hi) h

/-- What only workers tell. -/
def PromOp.byWorker : PromOp → Bool
  | .accepted _ | .requests _ | .errors _ | .inflight _ | .latency _ => true
  | _ => false

omit [SeqHandle η] in
theorem State.Told.worker {s : State η} {t : Thread} {i : PromOp} (h : s.Told t i)
    (hi : i.byWorker = true) :
    ∃ w pc, t = .worker w ∧ s.workers[w]? = some pc ∧ pc.Told i := by
  cases t with
  | worker w =>
      obtain ⟨pc, hpc, htold⟩ := h
      exact ⟨w, pc, rfl, hpc, htold⟩
  | main =>
      have h : s.main.Told i := h
      generalize s.main = pc at h
      cases pc with
      | creditStall f item enqueued stalled =>
          obtain rfl := by simpa [MainPc.Told] using h
          simp [PromOp.byWorker] at hi
      | creditOffered f item =>
          obtain rfl | rfl := by simpa [MainPc.Told] using h
          · simp [PromOp.byWorker] at hi
          · simp [PromOp.byWorker] at hi
      | _ => simp [MainPc.Told] at h
  | sampler => cases i <;> simp [State.Told, PromOp.isRate, PromOp.byWorker] at h hi

/-! ## Settling -/

/-- The gauges of the sample are the sampler's, everything else is not. -/
def Thread.emits (t : Thread) (i : PromOp) : Prop := i.isRate = true ↔ t = .sampler

theorem isRate_of_promOps {m : Metrics} {c : MetricsCall} {i : PromOp} (hi : i ∈ m.promOps c) :
    i.isRate = c.flushes := by
  cases c with
  | setStep index rps => simp [Metrics.promOps] at hi
  | recordOffered records nbytes =>
      obtain rfl | rfl := by simpa [Metrics.promOps] using hi
      · rfl
      · rfl
  | recordInflight delta =>
      obtain rfl := by simpa [Metrics.promOps] using hi
      rfl
  | recordStall seconds =>
      obtain rfl := by simpa [Metrics.promOps] using hi
      rfl
  | recordSuccess records latencyS | recordFailure records latencyS code =>
      obtain rfl | rfl | rfl := by simpa [Metrics.promOps] using hi
      · rfl
      · rfl
      · rfl
  | flushSample ts iso =>
      obtain rfl | rfl | rfl := by simpa [Metrics.promOps] using hi
      · rfl
      · rfl
      · rfl

omit [SeqHandle η] in
/-- Only the sampler flushes. -/
theorem flushes_of_metricsCall {s : State η} {a : Action} {c : MetricsCall}
    (hc : metricsCall s a = some c) : c.flushes = true ↔ a.thread = some .sampler := by
  cases a with
  | main time wall =>
      simp only [metricsCall] at hc
      generalize s.main = pc at hc
      cases pc <;> simp at hc <;> subst hc <;> simp [MetricsCall.flushes, Action.thread]
  | sample ts iso =>
      obtain rfl := Option.some.inj hc
      simp [MetricsCall.flushes, Action.thread]
  | worker w =>
      simp only [metricsCall] at hc
      generalize s.workers[w]? = pc at hc
      rcases pc with _ | pc
      · simp at hc
      · cases pc with
        | released item r =>
            simp only at hc
            split at hc <;> obtain rfl := Option.some.inj hc <;>
              simp [MetricsCall.flushes, Action.thread]
        | stamped item | returned item outcome =>
            obtain rfl := Option.some.inj hc
            simp [MetricsCall.flushes, Action.thread]
        | _ => simp at hc
  | _ => simp [metricsCall] at hc

theorem promEngine_emits (g : LoadGenerator η) (plan : List Step) :
    (promEngine g plan).Emits Thread.emits := by
  intro s a t i ht hi
  simp only [promEngine] at ht hi
  cases hc : metricsCall s a with
  | none => simp [hc] at hi
  | some c =>
      have hi : i ∈ s.metrics.promOps c := by simpa [hc] using hi
      unfold Thread.emits
      rw [isRate_of_promOps hi, flushes_of_metricsCall hc, ht, Option.some.injEq]

theorem bump_comm (l l' : String) (child : String → Nat) :
    bump l (bump l' child) = bump l' (bump l child) := by
  funext x
  unfold bump
  split_ifs <;> rfl

/-- Two calls that are not both of a sample can be made in either order. -/
theorem apply_comm (r : PromMetrics) {i j : PromOp} (h : i.isRate = false ∨ j.isRate = false) :
    (r.apply i).apply j = (r.apply j).apply i := by
  cases i <;> cases j <;> first
    | rfl
    -- two calls on one member
    | (simp only [PromMetrics.apply]; rw [add_right_comm])
    | (simp only [PromMetrics.apply]; rw [bump_comm])
    | (simp only [PromMetrics.apply]; rw [Histogram.observe_comm])
    | exact absurd h (by simp [PromOp.isRate])

theorem promEngine_commutes (g : LoadGenerator η) (plan : List Step) :
    (promEngine g plan).Commutes Thread.emits := by
  intro t t' i j r hne hi hj
  refine apply_comm r ?_
  by_contra hboth
  have hrates : i.isRate = true ∧ j.isRate = true := by
    cases hi' : i.isRate <;> cases hj' : j.isRate <;> simp_all
  exact hne ((hi.1 hrates.1).trans (hj.1 hrates.2).symm)

/-- **With what is owed, the mirror is exact.** -/
theorem mirrors_settled {cfg : RunConfig ρ} {g : LoadGenerator η}
    (hlaunch : launch η cfg = some g) {plan : List Step}
    {x : Deferred (State η) Thread PromOp PromMetrics}
    (h : (promEngine g plan).deferred.Reachable x) :
    Mirrors x.base.metrics ((promEngine g plan).settled x) :=
  mirrors_immediate hlaunch (Deferring.settled_reachable (promEngine_emits g plan)
    (promEngine_commutes g plan) h)

/-! ## The lag -/

/-- What a call adds to each of the counters, and to the gauge. -/
def PromOp.addsOffered : PromOp → Nat
  | .offered records => records
  | _ => 0

def PromOp.addsAccepted : PromOp → Nat
  | .accepted records => records
  | _ => 0

def PromOp.addsRequests (result : String) : PromOp → Nat
  | .requests r => if result = r then 1 else 0
  | _ => 0

def PromOp.addsInflight : PromOp → Int
  | .inflight delta => delta
  | _ => 0

theorem length_filter_effects {g : LoadGenerator η} {plan : List Step} {p : PromOp → Bool}
    (hone : ∀ (m : Metrics) (c : MetricsCall), ((m.promOps c).filter p).length ≤ 1) (s : State η)
    (a : Action) : (((promEngine g plan).effects s a).filter p).length ≤ 1 := by
  simp only [promEngine]
  cases metricsCall s a with
  | none => simp
  | some c => exact hone s.metrics c

/-- The threads of the workers. -/
def State.workerThreads (s : State η) : List Thread :=
  s.workers.zipIdx.map fun e => Thread.worker e.2

omit [SeqHandle η] in
theorem mem_workerThreads {s : State η} {w : Nat} {pc : WorkerPc} (h : s.workers[w]? = some pc) :
    Thread.worker w ∈ s.workerThreads :=
  List.mem_map.2 ⟨(pc, w), List.mem_zipIdx_iff_getElem?.2 h, rfl⟩

theorem length_workerThreads {g : LoadGenerator η} {plan : List Step} {s : State η}
    (h : (engine g plan).Reachable s) : s.workerThreads.length = g.workers := by
  obtain ⟨as, hrun⟩ := h
  simpa [State.workerThreads] using (unfinished_of_run hrun).length_workers

/-- Every item in a worker's hands is a batch. -/
theorem recordCount_of_worker {g : LoadGenerator η} (hg : Launched g) {plan : List Step}
    {s : State η} (h : (engine g plan).Reachable s) {w : Nat} {item : WorkItem}
    {r : ExportResult} (hpc : s.workers[w]? = some (.resetFailures item r)) :
    item.recordCount = g.batchSize := by
  have hbalanced := ledger_balanced h .credited
  have hshare : ({item} : Multiset WorkItem) ≤ tally (WorkerPc.share .credited) s.workers := by
    have hmem : WorkerPc.share .credited (.resetFailures item r)
        ∈ s.workers.map (WorkerPc.share .credited) :=
      List.mem_map_of_mem (List.mem_of_getElem? hpc)
    exact List.single_le_sum (fun _ _ => Multiset.zero_le _) _ hmem
  have hitem : item ∈ (State.ledger .credited s).issued := by
    rw [show (State.ledger .credited s).issued = _ from hbalanced]
    have hheld := Multiset.mem_of_le hshare (Multiset.mem_singleton_self item)
    exact Multiset.mem_add.2 (Or.inl (Multiset.mem_add.2 (Or.inl (Multiset.mem_add.2
      (Or.inr hheld)))))
  obtain ⟨x, hx, rfl⟩ := List.mem_map.1 (Multiset.mem_coe.1 hitem)
  exact (hg.pacing h).recordCount_eq x hx

/-- Where the mirror is behind: records by a batch a thread, requests by one. -/
structure MirrorLag (g : LoadGenerator η) (t : Totals) (r : PromMetrics) : Prop where
  offered : r.offered ≤ t.recordsOffered ∧ t.recordsOffered ≤ r.offered + g.batchSize
  accepted : r.accepted ≤ t.recordsAccepted ∧
    t.recordsAccepted ≤ r.accepted + g.workers * g.batchSize
  success : r.requests "success" ≤ t.requestsSuccess ∧
    t.requestsSuccess ≤ r.requests "success" + g.workers
  failure : r.requests "failure" ≤ t.requestsFailed ∧
    t.requestsFailed ≤ r.requests "failure" + g.workers

section Lag

variable {cfg : RunConfig ρ} {g : LoadGenerator η} {plan : List Step}
  {x : Deferred (State η) Thread PromOp PromMetrics}

/-- **The lag of a counter of the workers** whose calls add `most` at most. -/
theorem worker_lag (read : PromMetrics → Nat) (adds : PromOp → Nat) (most : Nat)
    (hadds : ∀ r i, read (r.apply i) = read r + adds i)
    (hone : ∀ (m : Metrics) (c : MetricsCall),
      ((m.promOps c).filter fun i => adds i ≠ 0).length ≤ 1)
    (hworker : ∀ i, adds i ≠ 0 → i.byWorker = true)
    (hmost : ∀ (w : Nat) (pc : WorkerPc) (i : PromOp), x.base.workers[w]? = some pc →
      pc.Told i → adds i ≤ most)
    (h : (promEngine g plan).deferred.Reachable x) :
    read x.store ≤ read ((promEngine g plan).settled x) ∧
      read ((promEngine g plan).settled x) ≤ read x.store + g.workers * most := by
  have hlag := Deferring.read_lag (D := promEngine g plan) read adds x.base.workerThreads most hadds
    (length_filter_effects hone) h fun e he hne => ?_
  · rwa [length_workerThreads (Deferring.base_reachable h)] at hlag
  · obtain ⟨w, pc, ht, hpc, htold⟩ := (owed_told h e he).worker (hworker e.2 hne)
    exact ⟨ht ▸ mem_workerThreads hpc, hmost w pc e.2 hpc htold⟩

theorem requests_lag (h : (promEngine g plan).deferred.Reachable x) (result : String) :
    x.store.requests result ≤ ((promEngine g plan).settled x).requests result ∧
      ((promEngine g plan).settled x).requests result ≤ x.store.requests result + g.workers := by
  have hlag := worker_lag (fun r => r.requests result) (PromOp.addsRequests result) 1
    (fun r i => ?_) (fun m c => ?_) (fun i hi => ?_) (fun w pc i _ _ => ?_) h
  · rwa [Nat.mul_one] at hlag
  · cases i with
    | requests r' =>
        simp only [PromMetrics.apply, bump, PromOp.addsRequests]
        split_ifs <;> rfl
    | _ => rfl
  · cases c <;> simp [Metrics.promOps, PromOp.addsRequests, List.filter_cons] <;>
      split_ifs <;> simp
  · cases i <;> first | rfl | simp [PromOp.addsRequests] at hi
  · cases i <;> simp [PromOp.addsRequests]
    split_ifs <;> omega

theorem accepted_lag (hg : Launched g) (h : (promEngine g plan).deferred.Reachable x) :
    x.store.accepted ≤ ((promEngine g plan).settled x).accepted ∧
      ((promEngine g plan).settled x).accepted ≤ x.store.accepted + g.workers * g.batchSize := by
  refine worker_lag PromMetrics.accepted PromOp.addsAccepted g.batchSize (fun r i => ?_)
    (fun m c => ?_) (fun i hi => ?_) (fun w pc i hpc htold => ?_) h
  · cases i <;> rfl
  · cases c <;> simp [Metrics.promOps, PromOp.addsAccepted, List.filter_cons]
    split_ifs <;> simp
  · cases i <;> first | rfl | simp [PromOp.addsAccepted] at hi
  · -- an acceptance is owed for the batch that was acknowledged
    cases i with
    | accepted records =>
        cases pc with
        | resetFailures item r =>
            obtain rfl : records = item.recordCount := by simpa [WorkerPc.Told] using htold
            exact (recordCount_of_worker hg (Deferring.base_reachable h) hpc).le
        | _ => simp [WorkerPc.Told] at htold
    | _ => exact Nat.zero_le _

/-- The main thread owes the batch it has just counted. -/
theorem offered_lag (hg : Launched g) (h : (promEngine g plan).deferred.Reachable x) :
    x.store.offered ≤ ((promEngine g plan).settled x).offered ∧
      ((promEngine g plan).settled x).offered ≤ x.store.offered + g.batchSize := by
  have hbase := Deferring.base_reachable h
  have hlag := Deferring.read_lag (D := promEngine g plan) PromMetrics.offered PromOp.addsOffered
    [.main] g.batchSize (fun r i => ?_) (length_filter_effects fun m c => ?_) h fun e he hne => ?_
  · simpa using hlag
  · cases i <;> rfl
  · cases c <;> simp [Metrics.promOps, PromOp.addsOffered, List.filter_cons]
    split_ifs <;> simp
  · obtain ⟨t, i⟩ := e
    have htold := owed_told h _ he
    cases i with
    | offered records =>
        cases t with
        | main =>
            refine ⟨List.mem_singleton_self _, ?_⟩
            simp only [State.Told] at htold
            cases hmain : x.base.main with
            | creditOffered f item =>
                rw [hmain] at htold
                obtain rfl : records = item.recordCount := by simpa [MainPc.Told] using htold
                have hcount := (hg.pacing hbase).item_count item
                exact (hcount (by simp [State.paceView, hmain, MainPc.item])).le
            | _ => simp [hmain, MainPc.Told] at htold
        | worker w =>
            obtain ⟨pc, -, htold⟩ := htold
            cases pc <;> simp [WorkerPc.Told] at htold
        | sampler => simp [State.Told, PromOp.isRate] at htold
    | _ => simp [PromOp.addsOffered] at hne

/-- The threads of the workers between the two calls of `record_inflight`. -/
def State.insideThreads (s : State η) : List Thread :=
  (s.workers.zipIdx.filter fun e => e.1.inflight).map fun e => Thread.worker e.2

omit [SeqHandle η] in
theorem length_insideThreads (s : State η) :
    s.insideThreads.length = tally WorkerPc.inflightCount s.workers := by
  have hcount : ∀ pool : List WorkerPc,
      tally WorkerPc.inflightCount pool = (pool.filter WorkerPc.inflight).length := by
    intro pool
    induction pool with
    | nil => rfl
    | cons pc pool ih =>
        rw [tally_cons, ih, List.filter_cons, WorkerPc.inflightCount]
        split_ifs
        · rw [List.length_cons, Nat.add_comm]
        · rw [Nat.zero_add]
  have hfst : s.workers.zipIdx.map Prod.fst = s.workers := List.zipIdx_map_fst 0 s.workers
  rw [State.insideThreads, List.length_map, hcount, ← List.length_map (f := Prod.fst)]
  conv_rhs => rw [← hfst]
  rw [List.filter_map]
  rfl

omit [SeqHandle η] in
theorem nodup_workerThreads (s : State η) : s.workerThreads.Nodup := by
  have hsnd : s.workerThreads = (List.range' 0 s.workers.length).map Thread.worker := by
    rw [← List.zipIdx_map_snd 0 s.workers, List.map_map]
    rfl
  rw [hsnd]
  exact (List.nodup_range' 1).map fun _ _ heq => by simpa using heq

omit [SeqHandle η] in
theorem mem_insideThreads {s : State η} {w : Nat} :
    Thread.worker w ∈ s.insideThreads ↔ ∃ pc, s.workers[w]? = some pc ∧ pc.inflight = true := by
  simp [State.insideThreads, List.mem_zipIdx_iff_getElem?]

/-- The threads that owe the gauge this change. -/
def owing (delta : Int) (owed : List (Thread × PromOp)) : List Thread :=
  (owed.filter fun e => e.2 = .inflight delta).map Prod.fst

/-- What the gauge is owed. -/
theorem sum_addsInflight {owed : List (Thread × PromOp)}
    (h : ∀ e ∈ owed, ∀ delta, e.2 = .inflight delta → delta = 1 ∨ delta = -1) :
    (owed.map fun e => e.2.addsInflight).sum
      = (owing 1 owed).length - (owing (-1) owed).length := by
  induction owed with
  | nil => rfl
  | cons e owed ih =>
      have hrest := ih fun e' he' => h e' (List.mem_cons_of_mem _ he')
      obtain ⟨t, i⟩ := e
      have hfirst := h _ List.mem_cons_self
      simp only [owing, List.map_cons, List.sum_cons, List.filter_cons] at hrest hfirst ⊢
      rw [hrest]
      cases i with
      | inflight delta =>
          rcases hfirst delta rfl with rfl | rfl
          · simp [PromOp.addsInflight]
            omega
          · simp [PromOp.addsInflight]
            omega
      | _ => simp [PromOp.addsInflight]

/-- Only workers owe the gauge anything, and one up or one down. -/
theorem mem_owing {delta : Int} {t : Thread} (h : (promEngine g plan).deferred.Reachable x)
    (ht : t ∈ owing delta x.owed) : ∃ w pc, t = Thread.worker w ∧ x.base.workers[w]? = some pc ∧
      pc.Told (.inflight delta) := by
  obtain ⟨⟨t', i⟩, he, rfl⟩ := List.mem_map.1 ht
  obtain ⟨hmem, hi⟩ := List.mem_filter.1 he
  obtain rfl : i = .inflight delta := by simpa using hi
  exact (owed_told h _ hmem).worker rfl

theorem nodup_owing (delta : Int) (h : (promEngine g plan).deferred.Reachable x) :
    (owing delta x.owed).Nodup :=
  Deferring.owners_nodup (D := promEngine g plan) (p := fun i => i = .inflight delta)
    (length_filter_effects fun m c => by
      cases c <;> simp [Metrics.promOps, List.filter_cons]
      split_ifs <;> simp) h

/-- Who owes one up is inside. -/
theorem length_owing_up (h : (promEngine g plan).deferred.Reachable x) :
    (owing 1 x.owed).length ≤ x.base.insideThreads.length := by
  refine (List.subperm_of_subset (nodup_owing 1 h) fun t ht => ?_).length_le
  obtain ⟨w, pc, rfl, hpc, htold⟩ := mem_owing h ht
  refine mem_insideThreads.2 ⟨pc, hpc, ?_⟩
  cases pc <;> simp [WorkerPc.Told] at htold
  rfl

/-- Who owes one down is not. -/
theorem length_owing_down (h : (promEngine g plan).deferred.Reachable x) :
    (owing (-1) x.owed).length + x.base.insideThreads.length ≤ x.base.workerThreads.length := by
  have hinside : x.base.insideThreads.Nodup :=
    (nodup_workerThreads x.base).sublist (List.Sublist.map _ List.filter_sublist)
  rw [← List.length_append]
  refine (List.subperm_of_subset ((nodup_owing (-1) h).append hinside fun t ht hin => ?_)
    fun t ht => ?_).length_le
  · obtain ⟨w, pc, rfl, hpc, htold⟩ := mem_owing h ht
    obtain ⟨pc', hpc', hinflight⟩ := mem_insideThreads.1 hin
    obtain rfl : pc = pc' := Option.some.inj (hpc.symm.trans hpc')
    cases pc <;> simp [WorkerPc.Told, WorkerPc.inflight] at htold hinflight
  · rcases List.mem_append.1 ht with ht | ht
    · obtain ⟨w, pc, rfl, hpc, -⟩ := mem_owing h ht
      exact mem_workerThreads hpc
    · obtain ⟨e, he, rfl⟩ := List.mem_map.1 ht
      exact List.mem_map_of_mem (List.mem_filter.1 he).1

/-- **The gauge of the mirror stays within the pool.** -/
theorem mirror_inflight (hlaunch : launch η cfg = some g)
    (h : (promEngine g plan).deferred.Reachable x) :
    0 ≤ x.store.inflight ∧ x.store.inflight ≤ g.workers := by
  have hbase := Deferring.base_reachable h
  have hworkers := length_workerThreads hbase
  have hups := length_owing_up h
  have hdowns := length_owing_down h
  have hgauge := inflight_eq hbase
  rw [(launch_launched hlaunch).inflight_eq, zero_add, ← length_insideThreads] at hgauge
  have hunit : ∀ e ∈ x.owed, ∀ delta, e.2 = .inflight delta → delta = 1 ∨ delta = -1 := by
    intro e he delta hi
    obtain ⟨w, pc, -, -, htold⟩ := (owed_told h e he).worker (by rw [hi]; rfl)
    rw [hi] at htold
    cases pc <;> simp [WorkerPc.Told] at htold <;> simp [htold]
  have hread := Deferring.read_settled (D := promEngine g plan) PromMetrics.inflight
    PromOp.addsInflight (fun r i => by cases i <;> simp [promEngine, PromMetrics.apply,
      PromOp.addsInflight]) x
  rw [(mirrors_settled hlaunch h).inflight, hgauge, sum_addsInflight hunit] at hread
  omega

theorem mirror_lag (hlaunch : launch η cfg = some g)
    (h : (promEngine g plan).deferred.Reachable x) :
    MirrorLag g x.base.metrics.totals x.store := by
  have hg := launch_launched hlaunch
  have hsettled := mirrors_settled hlaunch h
  exact ⟨hsettled.offered ▸ offered_lag hg h, hsettled.accepted ▸ accepted_lag hg h,
    hsettled.success ▸ requests_lag h _, hsettled.failure ▸ requests_lag h _⟩

/-- Nobody is between a call of `Metrics` and its end: the main thread is between two steps or has
    left the `finally` block, and the workers wait for work or are gone. -/
structure ThreadsIdle (s : State η) : Prop where
  main : s.main = .idle ∨ ∃ failed, s.main = .closed failed
  workers : ∀ pc ∈ s.workers, pc = .waiting ∨ pc = .exited

/-- At rest only the gauges of a sample are owed. -/
theorem owed_isRate (h : (promEngine g plan).deferred.Reachable x) (hrest : ThreadsIdle x.base) :
    ∀ e ∈ x.owed, e.2.isRate = true := by
  rintro ⟨t, i⟩ he
  have htold := owed_told h _ he
  cases t with
  | main =>
      have htold : x.base.main.Told i := htold
      rcases hrest.main with hmain | ⟨failed, hmain⟩
      · simp [hmain, MainPc.Told] at htold
      · simp [hmain, MainPc.Told] at htold
  | worker w =>
      obtain ⟨pc, hpc, htold⟩ := htold
      rcases hrest.workers pc (List.mem_of_getElem? hpc) with rfl | rfl
      · simp [WorkerPc.Told] at htold
      · simp [WorkerPc.Told] at htold
  | sampler => exact htold

theorem MirrorsTotals.of_rates {m : Metrics} {is : List PromOp} :
    ∀ {r : PromMetrics}, (∀ i ∈ is, i.isRate = true) →
      MirrorsTotals m (is.foldl PromMetrics.apply r) → MirrorsTotals m r := by
  induction is with
  | nil => intro r _ h; exact h
  | cons i is ih =>
      intro r hrates h
      have hnext := ih (fun j hj => hrates j (List.mem_cons_of_mem _ hj)) h
      have hi := hrates i List.mem_cons_self
      cases i with
      | offeredRps rps | acceptedRps rps | rejectedRps rps => exact { hnext with }
      | _ => simp [PromOp.isRate] at hi

theorem latencyBuckets_sorted : latencyBuckets.Pairwise (· < ·) := by
  unfold latencyBuckets
  norm_num

/-- What the buckets say: how many of the recorded latencies, in milliseconds, lie below each
    bound, in seconds. -/
theorem MirrorsTotals.cumulative {m : Metrics} {r : PromMetrics} (h : MirrorsTotals m r) {k : Nat}
    (hk : k ≤ latencyBuckets.length) :
    r.latency.cumulative k
      = m.allLatencies.countP fun ms => Histogram.Below latencyBuckets k (ms / 1000) := by
  obtain ⟨xs, hall, hlatency⟩ := h.latency
  rw [hlatency, Histogram.cumulative_observeAll latencyBuckets_sorted xs hk, hall, List.countP_map]
  refine List.countP_congr fun y _ => ?_
  simp

/-- What a scrape shows, at any time. -/
structure ScrapeTruth (g : LoadGenerator η) (plan : List Step)
    (x : Deferred (State η) Thread PromOp PromMetrics) : Prop where
  /-- The engine does what it does without a mirror. -/
  reachable : (engine g plan).Reachable x.base
  /-- Telling the mirror everything is always possible. -/
  told : ∃ r, (promEngine g plan).deferred.Reachable ⟨x.base, r, []⟩ ∧ Mirrors x.base.metrics r
  settled : Mirrors x.base.metrics ((promEngine g plan).settled x)
  lag : MirrorLag g x.base.metrics.totals x.store
  inflight : 0 ≤ x.store.inflight ∧ x.store.inflight ≤ g.workers
  atRest : ThreadsIdle x.base → MirrorsTotals x.base.metrics x.store ∧
    ∀ k ≤ latencyBuckets.length, x.store.latency.cumulative k
      = x.base.metrics.allLatencies.countP
          fun ms => Histogram.Below latencyBuckets k (ms / 1000)

/-- **A scrape of the mirror** is never ahead of the totals, and behind by one batch a thread at
most, whatever the threads do; between two steps and after the last one it is exact. -/
theorem scrape_truth (hlaunch : launch η cfg = some g)
    (h : (promEngine g plan).deferred.Reachable x) : ScrapeTruth g plan x where
  reachable := Deferring.base_reachable h
  told := by
    obtain ⟨r, hr⟩ := Deferring.exists_deferred (Deferring.base_reachable h)
    exact ⟨r, hr, mirrors_settled hlaunch hr⟩
  settled := mirrors_settled hlaunch h
  lag := mirror_lag hlaunch h
  inflight := mirror_inflight hlaunch h
  atRest hrest := by
    have hrates : ∀ i ∈ x.owed.map Prod.snd, i.isRate = true := by
      intro i hi
      obtain ⟨e, he, rfl⟩ := List.mem_map.1 hi
      exact owed_isRate h hrest e he
    have htotals := MirrorsTotals.of_rates hrates (mirrors_settled hlaunch h).toMirrorsTotals
    exact ⟨htotals, fun k hk => htotals.cumulative hk⟩

end Lag

/-- The first ack is booked, and the worker has told the mirror of the request and not yet of its
    records. -/
def tornScrape : List (DeferredAction Action Thread) :=
  List.map .base (mainRuns 9 0 ++ [.worker 0, .workerNow 0 0, .worker 0, .worker 0, .worker 0])
    ++ [.pay (.worker 0)]
    ++ List.map .base [.worker 0, .serialize 0,
        .exportReturns 0 (.result { ok := true, latencyS := 2 }), .worker 0]
    ++ [.pay (.worker 0), .base (.worker 0), .pay (.worker 0)]

/-- A scrape between the two: the request is there, its record is not. -/
theorem scrape_truth_torn : ∃ (g : LoadGenerator BenchSeq)
    (x : Deferred (State BenchSeq) Thread PromOp PromMetrics),
    x.base.metrics.totals.recordsAccepted = 1 ∧ x.store.requests "success" = 1 ∧
      x.store.accepted = 0 ∧ ScrapeTruth g [⟨0, 1, 1⟩] x := by
  have hrun : ((launch BenchSeq (plainConfig 1 1 1)).bind fun g =>
      (promEngine g [⟨0, 1, 1⟩]).deferred.run (promEngine g [⟨0, 1, 1⟩]).deferred.init
        tornScrape).any (fun x => x.base.metrics.totals.recordsAccepted = 1 ∧
          x.store.requests "success" = 1 ∧ x.store.accepted = 0) = true := by
    decide +kernel
  obtain ⟨x, hx, hP⟩ := (Option.any_eq_true _ _).1 hrun
  obtain ⟨g, hg, hreach⟩ := Option.bind_eq_some_iff.1 hx
  obtain ⟨htotals, hrequests, haccepted⟩ := of_decide_eq_true hP
  exact ⟨g, x, htotals, hrequests, haccepted, scrape_truth hg ⟨tornScrape, hreach⟩⟩

end AnalyticsTesting.Generator
