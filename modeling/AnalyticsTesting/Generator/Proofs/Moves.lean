import AnalyticsTesting.Generator.LoadGen

set_option autoImplicit false

/-! # What the threads can do

`WorkerMove` lists the moves of a worker with their exact effect on the shared state, whoever ends
the statement (the worker itself, the wall clock, gRPC). `engineStep_cases` says that there are no
others; every invariant about the workers is a case analysis over it. Where the order of the
statements after the export matters, the case analysis is over `WorkerStatement`. `MainMove` lists
the moves of the main thread in the same way (`mainStep_move`).

`MainKeeps` is what the main thread leaves to the workers, and `mainStep_queue` how it fills the
queue. -/

namespace AnalyticsTesting.Generator

variable {η : Type} [SeqHandle η]

/-- The work item a worker has in its hands until its outcome is booked or lost. -/
def WorkerPc.item : WorkerPc → Option WorkItem
  | .got item | .stamping item _ _ | .stamped item | .calling item | .exporting item _
  | .returned item _ | .released item _ | .resetFailures item _ | .credit item _ => some item
  | .waiting | .backoff | .bumpRead _ | .bumpWrite _ _ | .checkLimit _ | .setAbort _ | .setStop
  | .taskDone | .exited => none

/-- The engine has been told to stop, or has decided to. -/
def State.stopped (s : State η) : Bool := s.stop || s.abortReason.isSome

/-- The moves of worker `w` from one program counter to the next. -/
inductive WorkerMove (g : LoadGenerator η) (s : State η) (w : Nat) :
    WorkerPc → State η → WorkerPc → Prop
  | sentinel (queue : List (Option WorkItem)) (h : s.queue = none :: queue) :
      WorkerMove g s w .waiting { s with queue } .exited
  | take (item : WorkItem) (queue : List (Option WorkItem)) (h : s.queue = some item :: queue) :
      WorkerMove g s w .waiting { s with queue } (.got item)
  | readClock (item : WorkItem) (nowNs : Nat) :
      WorkerMove g s w (.got item) s (.stamping item nowNs 0)
  | stamp (item : WorkItem) (nowNs k : Nat) (t t' : RequestTemplate η)
      (hget : s.templates[g.factory.templateIndex w item.variant]? = some t)
      (hstamp : t.stampRecord k (item.seqStart + k) nowNs = some t') :
      WorkerMove g s w (.stamping item nowNs k)
        { s with templates := s.templates.set (g.factory.templateIndex w item.variant) t' }
        (.stamping item nowNs (k + 1))
  | stampRaises (item : WorkItem) (nowNs k : Nat) (t : RequestTemplate η)
      (hget : s.templates[g.factory.templateIndex w item.variant]? = some t)
      (hk : k < min t.seqValues.length t.request.logRecords.length)
      (hstamp : t.stampRecord k (item.seqStart + k) nowNs = none) :
      WorkerMove g s w (.stamping item nowNs k)
        { s with logUnstamped := s.logUnstamped ++ [item] } .taskDone
  | stampDone (item : WorkItem) (nowNs k : Nat) (t : RequestTemplate η)
      (hget : s.templates[g.factory.templateIndex w item.variant]? = some t)
      (hk : min t.seqValues.length t.request.logRecords.length ≤ k) :
      WorkerMove g s w (.stamping item nowNs k) s (.stamped item)
  | enter (item : WorkItem) :
      WorkerMove g s w (.stamped item) { s with metrics := s.metrics.recordInflight 1 }
        (.calling item)
  | call (item : WorkItem) (t : RequestTemplate η)
      (hget : s.templates[g.factory.templateIndex w item.variant]? = some t) :
      WorkerMove g s w (.calling item)
        { s with logExports := s.logExports ++ [⟨w, item, t.request⟩] } (.exporting item false)
  | serialize (item : WorkItem) (t : RequestTemplate η)
      (hget : s.templates[g.factory.templateIndex w item.variant]? = some t) :
      WorkerMove g s w (.exporting item false)
        { s with logWire := s.logWire ++ [⟨w, item, t.request⟩] } (.exporting item true)
  | exportReturns (item : WorkItem) (sent : Bool) (outcome : Outcome) :
      WorkerMove g s w (.exporting item sent) s (.returned item outcome)
  | raised (item : WorkItem) :
      WorkerMove g s w (.returned item .raised)
        { s with metrics := s.metrics.recordInflight (-1), logRaised := s.logRaised ++ [item] }
        .taskDone
  | release (item : WorkItem) (r : ExportResult) :
      WorkerMove g s w (.returned item (.result r))
        { s with metrics := s.metrics.recordInflight (-1) } (.released item r)
  | success (item : WorkItem) (r : ExportResult) (hok : r.ok = true) :
      WorkerMove g s w (.released item r)
        { s with metrics := s.metrics.recordSuccess item.recordCount r.latencyS,
                 logRecorded := s.logRecorded ++ [(item, r)] } (.resetFailures item r)
  | failure (item : WorkItem) (r : ExportResult) (hok : r.ok = false) :
      WorkerMove g s w (.released item r)
        { s with metrics := s.metrics.recordFailure item.recordCount r.latencyS r.code,
                 logRecorded := s.logRecorded ++ [(item, r)] } (.credit item r)
  | resetFailures (item : WorkItem) (r : ExportResult) :
      WorkerMove g s w (.resetFailures item r) { s with consecutiveFailures := 0 } (.credit item r)
  | credit (item : WorkItem) (r : ExportResult) :
      WorkerMove g s w (.credit item r) (s.credit item r) (afterCredit g r)
  | bookkeep (pc pc' : WorkerPc) (failures : Nat) (abortReason : Option String) (stop : Bool)
      (hpc : pc.item = none) (hpc' : pc'.item = none) (hne : pc ≠ .waiting)
      (hstopped : s.stopped = true → (stop || abortReason.isSome) = true) :
      WorkerMove g s w pc { s with consecutiveFailures := failures, abortReason, stop } pc'

theorem afterCredit_item (g : LoadGenerator η) (r : ExportResult) :
    (afterCredit g r).item = none := by
  unfold afterCredit
  repeat' split
  all_goals rfl

theorem workerStep_move {g : LoadGenerator η} {s s' : State η} {w : Nat} {pc pc' : WorkerPc}
    (h : workerStep g s w pc = some (s', pc')) : WorkerMove g s w pc s' pc' := by
  cases pc with
  | waiting =>
      simp only [workerStep] at h
      split at h
      case h_1 => simp at h
      case h_2 queue hq =>
        obtain ⟨rfl, rfl⟩ := by simpa using h
        exact .sentinel queue hq
      case h_3 item queue hq =>
        obtain ⟨rfl, rfl⟩ := by simpa using h
        exact .take item queue hq
  | stamping item nowNs k =>
      simp only [workerStep] at h
      split at h
      case h_1 => simp at h
      case h_2 t hget =>
        split at h
        case isTrue hk =>
          split at h
          case h_1 t' hstamp =>
            obtain ⟨rfl, rfl⟩ := by simpa using h
            exact .stamp item nowNs k t t' hget hstamp
          case h_2 hstamp =>
            obtain ⟨rfl, rfl⟩ := by simpa using h
            exact .stampRaises item nowNs k t hget hk hstamp
        case isFalse hk =>
          obtain ⟨rfl, rfl⟩ := by simpa using h
          exact .stampDone item nowNs k t hget (not_lt.1 hk)
  | stamped item =>
      obtain ⟨rfl, rfl⟩ := by simpa [workerStep] using h
      exact .enter item
  | calling item =>
      obtain ⟨t, hget, heq⟩ := Option.map_eq_some_iff.1 h
      obtain ⟨rfl, rfl⟩ := Prod.mk.inj heq
      exact .call item t hget
  | returned item outcome =>
      cases outcome with
      | raised =>
          obtain ⟨rfl, rfl⟩ := by simpa [workerStep] using h
          exact .raised item
      | result r =>
          obtain ⟨rfl, rfl⟩ := by simpa [workerStep] using h
          exact .release item r
  | released item r =>
      cases hok : r.ok with
      | true =>
          obtain ⟨rfl, rfl⟩ := by simpa [workerStep, hok] using h
          exact .success item r hok
      | false =>
          obtain ⟨rfl, rfl⟩ := by simpa [workerStep, hok] using h
          exact .failure item r hok
  | resetFailures item r =>
      obtain ⟨rfl, rfl⟩ := by simpa [workerStep] using h
      exact .resetFailures item r
  | credit item r =>
      obtain ⟨rfl, rfl⟩ := by simpa [workerStep] using h
      exact .credit item r
  | backoff =>
      obtain ⟨rfl, rfl⟩ := by simpa [workerStep] using h
      exact .bookkeep _ _ s.consecutiveFailures s.abortReason s.stop rfl rfl (by simp) id
  | bumpRead r =>
      obtain ⟨rfl, rfl⟩ := by simpa [workerStep] using h
      exact .bookkeep _ _ s.consecutiveFailures s.abortReason s.stop rfl rfl (by simp) id
  | bumpWrite r v =>
      obtain ⟨rfl, rfl⟩ := by simpa [workerStep] using h
      exact .bookkeep _ _ (v + 1) s.abortReason s.stop rfl rfl (by simp) id
  | checkLimit r =>
      obtain ⟨rfl, rfl⟩ := by simpa [workerStep] using h
      refine .bookkeep _ _ s.consecutiveFailures s.abortReason s.stop rfl ?_ (by simp) id
      split <;> rfl
  | setAbort r =>
      obtain ⟨rfl, rfl⟩ := by simpa [workerStep] using h
      exact .bookkeep _ _ s.consecutiveFailures _ s.stop rfl rfl (by simp) fun _ => by simp
  | setStop =>
      obtain ⟨rfl, rfl⟩ := by simpa [workerStep] using h
      exact .bookkeep _ _ s.consecutiveFailures s.abortReason true rfl rfl (by simp) fun _ => rfl
  | taskDone =>
      obtain ⟨rfl, rfl⟩ := by simpa [workerStep] using h
      exact .bookkeep _ _ s.consecutiveFailures s.abortReason s.stop rfl rfl (by simp) id
  | got item => simp [workerStep] at h
  | exporting item sent => simp [workerStep] at h
  | exited => simp [workerStep] at h

/-! ## Busy workers -/

/-- The worker has taken an item and has not called `task_done` for it yet. -/
def WorkerPc.busy : WorkerPc → Bool
  | .waiting | .exited => false
  | _ => true

def WorkerPc.busyCount (pc : WorkerPc) : Nat := if pc.busy then 1 else 0

theorem busyCount_of_busy {pc : WorkerPc} (h : pc.busy = true) : pc.busyCount = 1 := if_pos h

theorem afterCredit_busy (g : LoadGenerator η) (r : ExportResult) :
    (afterCredit g r).busy = true := by
  unfold afterCredit
  repeat' split
  all_goals rfl

/-- After `task_done` a worker waits; after any other statement past its item it is still busy. -/
theorem workerStep_busy {g : LoadGenerator η} {s t : State η} {w : Nat} {pc pc' : WorkerPc}
    (h : workerStep g s w pc = some (t, pc')) (hitem : pc.item = none) (hne : pc ≠ .waiting) :
    pc.busy = true ∧
      ((pc = .taskDone ∧ pc' = .waiting) ∨ (pc ≠ .taskDone ∧ pc'.busy = true)) := by
  cases pc with
  | checkLimit r =>
      obtain ⟨-, rfl⟩ := by simpa [workerStep] using h
      split <;> simp [WorkerPc.busy]
  | waiting => exact absurd rfl hne
  | backoff | bumpRead r | bumpWrite r v | setAbort r | setStop | taskDone =>
      obtain ⟨-, rfl⟩ := by simpa [workerStep] using h
      simp [WorkerPc.busy]
  | exited => simp [workerStep] at h
  | _ => simp [WorkerPc.item] at hitem

/-! ## The moves of the engine -/

/-- The worker whose statement the action ends. -/
def Action.worker? : Action → Option Nat
  | .worker w | .workerNow w _ | .serialize w | .exportReturns w _ => some w
  | _ => none

/-- The statement of worker `w` that action `a` ends. -/
inductive WorkerStatement (g : LoadGenerator η) (s : State η) (w : Nat) :
    Action → WorkerPc → State η → WorkerPc → Prop
  | own (pc pc' : WorkerPc) (t : State η) (h : workerStep g s w pc = some (t, pc')) :
      WorkerStatement g s w (.worker w) pc t pc'
  | readClock (item : WorkItem) (nowNs : Nat) :
      WorkerStatement g s w (.workerNow w nowNs) (.got item) s (.stamping item nowNs 0)
  | serialize (item : WorkItem) (t : RequestTemplate η)
      (hget : s.templates[g.factory.templateIndex w item.variant]? = some t) :
      WorkerStatement g s w (.serialize w) (.exporting item false)
        { s with logWire := s.logWire ++ [⟨w, item, t.request⟩] } (.exporting item true)
  | exportReturns (item : WorkItem) (sent : Bool) (outcome : Outcome) :
      WorkerStatement g s w (.exportReturns w outcome) (.exporting item sent) s
        (.returned item outcome)

theorem engineStep_statement {g : LoadGenerator η} {s s' : State η} {a : Action} {w : Nat}
    (ha : a.worker? = some w) (h : engineStep g s a = some s') :
    ∃ pc t pc', s.workers[w]? = some pc ∧ WorkerStatement g s w a pc t pc' ∧
      s' = { t with workers := s.workers.set w pc' } := by
  cases a with
  | worker w' =>
      obtain rfl : w' = w := Option.some.inj ha
      simp only [engineStep, Option.bind_eq_bind, Option.bind_eq_some_iff] at h
      obtain ⟨pc, hpc, ⟨t, pc'⟩, hstep, heq⟩ := h
      obtain rfl := by simpa using heq
      exact ⟨pc, t, pc', hpc, .own pc pc' t hstep, rfl⟩
  | workerNow w' nowNs =>
      obtain rfl : w' = w := Option.some.inj ha
      simp only [engineStep, Option.bind_eq_bind, Option.bind_eq_some_iff] at h
      obtain ⟨pc, hpc, pc', hstep, heq⟩ := h
      obtain rfl := by simpa using heq
      cases pc with
      | got item =>
          obtain rfl := by simpa [workerReadsClock] using hstep
          exact ⟨_, s, _, hpc, .readClock item nowNs, rfl⟩
      | _ => simp [workerReadsClock] at hstep
  | serialize w' =>
      obtain rfl : w' = w := Option.some.inj ha
      simp only [engineStep, Option.bind_eq_bind, Option.bind_eq_some_iff] at h
      obtain ⟨pc, hpc, ⟨t, pc'⟩, hstep, heq⟩ := h
      obtain rfl := by simpa using heq
      cases pc with
      | exporting item sent =>
          cases sent with
          | false =>
              obtain ⟨u, hget, heq⟩ := Option.map_eq_some_iff.1 hstep
              obtain ⟨rfl, rfl⟩ := Prod.mk.inj heq
              exact ⟨_, _, _, hpc, .serialize item u hget, rfl⟩
          | true => simp [exporterSerializes] at hstep
      | _ => simp [exporterSerializes] at hstep
  | exportReturns w' outcome =>
      obtain rfl : w' = w := Option.some.inj ha
      simp only [engineStep, Option.bind_eq_bind, Option.bind_eq_some_iff] at h
      obtain ⟨pc, hpc, pc', hstep, heq⟩ := h
      obtain rfl := by simpa using heq
      cases pc with
      | exporting item sent =>
          obtain rfl := by simpa [exporterReturns] using hstep
          exact ⟨_, s, _, hpc, .exportReturns item sent outcome, rfl⟩
      | _ => simp [exporterReturns] at hstep
  | _ => simp [Action.worker?] at ha

theorem WorkerStatement.move {g : LoadGenerator η} {s t : State η} {w : Nat} {a : Action}
    {pc pc' : WorkerPc} (h : WorkerStatement g s w a pc t pc') : WorkerMove g s w pc t pc' := by
  cases h with
  | own pc pc' t hstep => exact workerStep_move hstep
  | readClock item nowNs => exact .readClock item nowNs
  | serialize item u hget => exact .serialize item u hget
  | exportReturns item sent outcome => exact .exportReturns item sent outcome

/-- **The moves of the engine that are not the main thread's.** A step is the main thread's, the
handler's, the sampler's, or one `WorkerMove`. -/
theorem engineStep_cases {g : LoadGenerator η} {s s' : State η} {a : Action}
    (h : engineStep g s a = some s') :
    (∃ t wall, a = .main t wall ∧ mainStep g s t wall = some s') ∨
    (a = .leave ∧ s.main = .idle ∧ s' = { s with main := .stopSet false }) ∨
    (a = .signal ∧ s' = { s with interrupted := true, stop := true }) ∨
    (∃ ts iso, a = .sample ts iso ∧ s' = { s with metrics := s.metrics.flushSample ts iso }) ∨
    (∃ w pc t pc', a.worker? = some w ∧ s.workers[w]? = some pc ∧ WorkerMove g s w pc t pc' ∧
      s' = { t with workers := s.workers.set w pc' }) := by
  have hworker : ∀ w, a.worker? = some w →
      ∃ w pc t pc', a.worker? = some w ∧ s.workers[w]? = some pc ∧ WorkerMove g s w pc t pc' ∧
        s' = { t with workers := s.workers.set w pc' } := by
    intro w hw
    obtain ⟨pc, t, pc', hpc, hstatement, rfl⟩ := engineStep_statement hw h
    exact ⟨w, pc, t, pc', hw, hpc, hstatement.move, rfl⟩
  cases a with
  | main t wall => exact Or.inl ⟨t, wall, rfl, h⟩
  | leave =>
      simp only [engineStep] at h
      split at h
      case h_1 hidle =>
        obtain rfl := by simpa using h
        exact Or.inr (Or.inl ⟨rfl, hidle, rfl⟩)
      case h_2 => simp at h
  | signal =>
      obtain rfl := by simpa [engineStep] using h
      exact Or.inr (Or.inr (Or.inl ⟨rfl, rfl⟩))
  | sample ts iso =>
      obtain rfl := by simpa [engineStep] using h
      exact Or.inr (Or.inr (Or.inr (Or.inl ⟨ts, iso, rfl, rfl⟩)))
  | worker w => exact Or.inr (Or.inr (Or.inr (Or.inr (hworker w rfl))))
  | workerNow w nowNs => exact Or.inr (Or.inr (Or.inr (Or.inr (hworker w rfl))))
  | serialize w => exact Or.inr (Or.inr (Or.inr (Or.inr (hworker w rfl))))
  | exportReturns w outcome => exact Or.inr (Or.inr (Or.inr (Or.inr (hworker w rfl))))

/-- The steps that are no worker's: the main thread's, the handler's and the sampler's. -/
theorem engineStep_other {g : LoadGenerator η} {s s' : State η} {a : Action}
    (ha : a.worker? = none) (h : engineStep g s a = some s') :
    (∃ t wall, a = .main t wall ∧ mainStep g s t wall = some s') ∨
    (a = .leave ∧ s.main = .idle ∧ s' = { s with main := .stopSet false }) ∨
    (a = .signal ∧ s' = { s with interrupted := true, stop := true }) ∨
    (∃ ts iso, a = .sample ts iso ∧ s' = { s with metrics := s.metrics.flushSample ts iso }) := by
  rcases engineStep_cases h with h | h | h | h | ⟨w, pc, t, pc', hw, -⟩
  · exact Or.inl h
  · exact Or.inr (Or.inl h)
  · exact Or.inr (Or.inr (Or.inl h))
  · exact Or.inr (Or.inr (Or.inr h))
  · simp [ha] at hw

/-! ## The moves of the main thread -/

/-- The moves of the main thread, by where it is, with the clock readings `t` and `wall`. -/
inductive MainMove (g : LoadGenerator η) (s : State η) (t wall : ℚ) : MainPc → State η → Prop
  | openRaises (step : Step) (rest : List Step) (hplan : s.plan = step :: rest)
      (hinterval : stepInterval step.rps g.batchSize = none) :
      MainMove g s t wall .idle { s with plan := rest, main := .stopSet true }
  | openStep (step : Step) (rest : List Step) (interval : ℚ) (hplan : s.plan = step :: rest)
      (hinterval : stepInterval step.rps g.batchSize = some interval) :
      MainMove g s t wall .idle
        { s with plan := rest,
                 results := s.results ++
                   [{ index := step.index, targetRps := step.rps,
                      durationSeconds := step.durationSeconds, startedAt := wall, endedAt := 0,
                      seqStart := s.nextSeq }],
                 main := .publish { step, result := s.results.length, interval } }
  | publish (f : Frame) :
      MainMove g s t wall (.publish f) { s with step := some f.result, main := .announce f }
  | announce (f : Frame) :
      MainMove g s t wall (.announce f)
        { s with metrics := s.metrics.setStep f.step.index f.step.rps, main := .start f }
  | start (f : Frame) (probe : RequestTemplate η)
      (hprobe : g.factory.templateFor 0 0 = some probe) :
      MainMove g s t wall (.start f)
        { s with clock := t,
                 main := .loop { f with deadline := t + f.step.durationSeconds, nextSubmit := t,
                                        variant := 0, probeRecordCount := probe.recordCount,
                                        probeBytes := probe.approxBytes } }
  | loopStops (f : Frame) (hstop : s.stop = true) :
      MainMove g s t wall (.loop f) { s with main := .drain f }
  | loopEnds (f : Frame) (hgo : s.stop = false) (hend : f.deadline ≤ t) :
      MainMove g s t wall (.loop f) { s with clock := t, main := .drain { f with now := t } }
  | loopEarly (f : Frame) (hgo : s.stop = false) (hearly : 0 < f.nextSubmit - t) :
      MainMove g s t wall (.loop f)
        { s with clock := t, main := .sleep { f with now := t } (f.nextSubmit - t) }
  | loopDue (f : Frame) (hgo : s.stop = false) (hdue : f.nextSubmit - t ≤ 0) :
      MainMove g s t wall (.loop f) { s with clock := t, main := .allocate { f with now := t } }
  | sleepStops (f : Frame) (d : ℚ) (hstop : s.stop = true) :
      MainMove g s t wall (.sleep f d) { s with main := .drain f }
  | sleepAgain (f : Frame) (d : ℚ) (hgo : s.stop = false) (hwait : s.clock + min d (1 / 4) ≤ t)
      (hlong : 1 / 4 < d) :
      MainMove g s t wall (.sleep f d) { s with clock := t, main := .loop f }
  | sleepEnds (f : Frame) (d : ℚ) (hgo : s.stop = false) (hwait : s.clock + min d (1 / 4) ≤ t)
      (hshort : d ≤ 1 / 4) :
      MainMove g s t wall (.sleep f d) { s with clock := t, main := .allocate f }
  | allocate (f : Frame) : MainMove g s t wall (.allocate f) (s.allocate g f)
  | stallStart (f : Frame) (item : WorkItem) :
      MainMove g s t wall (.stallStart f item) { s with clock := t, main := .mayPut f item t }
  | mayPutStops (f : Frame) (item : WorkItem) (since : ℚ) (hstop : s.stop = true) :
      MainMove g s t wall (.mayPut f item since) { s with main := .measure f item since false }
  | mayPut (f : Frame) (item : WorkItem) (since : ℚ) (hin : t < f.deadline) :
      MainMove g s t wall (.mayPut f item since) { s with clock := t, main := .put f item since }
  | mayPutEnds (f : Frame) (item : WorkItem) (since : ℚ) (hend : f.deadline ≤ t) :
      MainMove g s t wall (.mayPut f item since)
        { s with clock := t, main := .measure f item since false }
  | put (f : Frame) (item : WorkItem) (since : ℚ) :
      MainMove g s t wall (.put f item since)
        { s with queue := s.queue ++ [some item],
                 logEnqueued := s.logEnqueued ++ [(item, f.result)],
                 main := .measure f item since true }
  | putFull (f : Frame) (item : WorkItem) (since : ℚ) :
      MainMove g s t wall (.put f item since) { s with clock := t, main := .mayPut f item since }
  | measureStall (f : Frame) (item : WorkItem) (since : ℚ) (enqueued : Bool)
      (hlong : 1 / 1000 < t - since) :
      MainMove g s t wall (.measure f item since enqueued)
        { s with clock := t, main := .recordStall f item enqueued (t - since) }
  | measure (f : Frame) (item : WorkItem) (since : ℚ) (enqueued : Bool)
      (hshort : ¬1 / 1000 < t - since) :
      MainMove g s t wall (.measure f item since enqueued)
        { s with clock := t, main := afterStall f item enqueued }
  | recordStall (f : Frame) (item : WorkItem) (enqueued : Bool) (stalled : ℚ) :
      MainMove g s t wall (.recordStall f item enqueued stalled)
        { s with metrics := s.metrics.recordStall stalled,
                 main := .creditStall f item enqueued stalled }
  | creditStall (f : Frame) (item : WorkItem) (enqueued : Bool) (stalled : ℚ) :
      MainMove g s t wall (.creditStall f item enqueued stalled)
        { s.modifyResult f.result (fun r => { r with stalledMs := r.stalledMs + stalled * 1000 })
          with main := afterStall f item enqueued }
  | giveBack (f : Frame) (item : WorkItem) :
      MainMove g s t wall (.giveBack f item)
        { s with nextSeq := if s.nextSeq = item.seqStart + g.batchSize then item.seqStart
                            else s.nextSeq,
                 main := .drain f }
  | recordOffered (f : Frame) (item : WorkItem) :
      MainMove g s t wall (.recordOffered f item)
        { s with metrics := s.metrics.recordOffered item.recordCount item.nbytes,
                 main := .creditOffered f item }
  | creditOffered (f : Frame) (item : WorkItem) :
      MainMove g s t wall (.creditOffered f item)
        { s.modifyResult f.result (fun r => { r with offered := r.offered + item.recordCount })
          with main := .advance f }
  | advanceAborts (f : Frame) (habort : s.abortReason.isSome = true) :
      MainMove g s t wall (.advance f) { s with main := .drain f.advance }
  | advance (f : Frame) : MainMove g s t wall (.advance f) { s with main := .loop f.advance }
  | drain (f : Frame) :
      MainMove g s t wall (.drain f)
        { s with clock := t, main := .drainHead f (t + (g.rpcTimeoutSeconds + 10)) }
  | drainHead (f : Frame) (until_ : ℚ) :
      MainMove g s t wall (.drainHead f until_)
        { s with clock := t, main := .drainQueue f until_ }
  | drainTimeout (f : Frame) (until_ : ℚ) (htimeout : until_ ≤ t) :
      MainMove g s t wall (.drainHead f until_) { s with clock := t, main := .finish f false }
  | queueEmpty (f : Frame) (until_ : ℚ) (hempty : s.queue = []) :
      MainMove g s t wall (.drainQueue f until_) { s with main := .drainInflight f until_ }
  | queueBusy (f : Frame) (until_ : ℚ) :
      MainMove g s t wall (.drainQueue f until_) { s with main := .drainHead f until_ }
  | inflightZero (f : Frame) (until_ : ℚ) (hzero : s.metrics.inflight = 0) :
      MainMove g s t wall (.drainInflight f until_) { s with main := .finish f true }
  | inflightBusy (f : Frame) (until_ : ℚ) :
      MainMove g s t wall (.drainInflight f until_) { s with main := .drainHead f until_ }
  | finish (f : Frame) (drained : Bool) :
      MainMove g s t wall (.finish f drained)
        { s.modifyResult f.result (fun r => r.close wall s.nextSeq) with
          step := none, main := .idle }
  | stopSet (failed : Bool) :
      MainMove g s t wall (.stopSet failed) { s with stop := true, main := .stopPut 0 failed }
  | stopPut (k : Nat) (failed : Bool) (hroom : s.queue.length < g.queueCapacity) :
      MainMove g s t wall (.stopPut k failed)
        { s with queue := s.queue ++ [none], main := .stopPut (k + 1) failed }
  | stopPutFull (k : Nat) (failed : Bool) :
      MainMove g s t wall (.stopPut k failed) { s with main := .stopPut (k + 1) failed }
  | stopPutDone (k : Nat) (failed : Bool) :
      MainMove g s t wall (.stopPut k failed) { s with main := .stopJoin 0 failed }
  | stopJoin (k : Nat) (failed : Bool) :
      MainMove g s t wall (.stopJoin k failed) { s with main := .stopJoin (k + 1) failed }
  | stopJoinDone (k : Nat) (failed : Bool) :
      MainMove g s t wall (.stopJoin k failed) { s with main := .closed failed }

theorem clock_le_of_mainStep {g : LoadGenerator η} {s s' : State η} {t wall : ℚ}
    (h : mainStep g s t wall = some s') : s.clock ≤ t := by
  unfold mainStep at h
  split at h
  case isTrue => simp at h
  case isFalse hclock => exact not_lt.1 hclock

section Statements

variable {g : LoadGenerator η} {s s' : State η} {t wall : ℚ}

/-- Between two steps: the next one is opened, or `run_step` raises. -/
theorem mainMove_of_idle (hmain : s.main = .idle) (h : mainStep g s t wall = some s') :
    MainMove g s t wall .idle s' := by
  rw [mainStep, if_neg (not_lt.2 (clock_le_of_mainStep h)), hmain] at h
  dsimp only at h
  split at h
  · simp at h
  split at h
  · simp at h
  next step rest hplan =>
    split at h
    · next hinterval =>
        obtain rfl := Option.some.inj h
        exact .openRaises step rest hplan hinterval
    · next interval hinterval =>
        obtain rfl := Option.some.inj h
        exact .openStep step rest interval hplan hinterval

/-- The head of the pacing loop. -/
theorem mainMove_of_loop {f : Frame} (hmain : s.main = .loop f)
    (h : mainStep g s t wall = some s') : MainMove g s t wall (.loop f) s' := by
  rw [mainStep, if_neg (not_lt.2 (clock_le_of_mainStep h)), hmain] at h
  dsimp only at h
  split at h
  case isTrue hstop =>
    obtain rfl := Option.some.inj h
    exact .loopStops f hstop
  case isFalse hgo =>
    have hgo : s.stop = false := eq_false_of_ne_true hgo
    split at h
    case isTrue hend =>
      obtain rfl := Option.some.inj h
      exact .loopEnds f hgo hend
    case isFalse =>
      split at h
      case isTrue hearly =>
        obtain rfl := Option.some.inj h
        exact .loopEarly f hgo hearly
      case isFalse hdue =>
        obtain rfl := Option.some.inj h
        exact .loopDue f hgo (not_lt.1 hdue)

/-- The wait before a submission. -/
theorem mainMove_of_sleep {f : Frame} {d : ℚ} (hmain : s.main = .sleep f d)
    (h : mainStep g s t wall = some s') : MainMove g s t wall (.sleep f d) s' := by
  rw [mainStep, if_neg (not_lt.2 (clock_le_of_mainStep h)), hmain] at h
  dsimp only at h
  split at h
  case isTrue hstop =>
    obtain rfl := Option.some.inj h
    exact .sleepStops f d hstop
  case isFalse hgo =>
    have hgo : s.stop = false := eq_false_of_ne_true hgo
    split at h
    case isTrue => simp at h
    case isFalse hwait =>
      split at h
      case isTrue hlong =>
        obtain rfl := Option.some.inj h
        exact .sleepAgain f d hgo (not_lt.1 hwait) hlong
      case isFalse hshort =>
        obtain rfl := Option.some.inj h
        exact .sleepEnds f d hgo (not_lt.1 hwait) (not_lt.1 hshort)

/-- The loop around `put`. -/
theorem mainMove_of_mayPut {f : Frame} {item : WorkItem} {since : ℚ}
    (hmain : s.main = .mayPut f item since) (h : mainStep g s t wall = some s') :
    MainMove g s t wall (.mayPut f item since) s' := by
  rw [mainStep, if_neg (not_lt.2 (clock_le_of_mainStep h)), hmain] at h
  dsimp only at h
  split at h
  case isTrue hstop =>
    obtain rfl := Option.some.inj h
    exact .mayPutStops f item since hstop
  case isFalse =>
    split at h
    case isTrue hin =>
      obtain rfl := Option.some.inj h
      exact .mayPut f item since hin
    case isFalse hend =>
      obtain rfl := Option.some.inj h
      exact .mayPutEnds f item since (not_lt.1 hend)

theorem mainMove_of_put {f : Frame} {item : WorkItem} {since : ℚ}
    (hmain : s.main = .put f item since) (h : mainStep g s t wall = some s') :
    MainMove g s t wall (.put f item since) s' := by
  rw [mainStep, if_neg (not_lt.2 (clock_le_of_mainStep h)), hmain] at h
  dsimp only at h
  split at h
  · obtain rfl := Option.some.inj h
    exact .put f item since
  · obtain rfl := Option.some.inj h
    exact .putFull f item since

/-- The time that `put` took. -/
theorem mainMove_of_measure {f : Frame} {item : WorkItem} {since : ℚ} {enqueued : Bool}
    (hmain : s.main = .measure f item since enqueued) (h : mainStep g s t wall = some s') :
    MainMove g s t wall (.measure f item since enqueued) s' := by
  rw [mainStep, if_neg (not_lt.2 (clock_le_of_mainStep h)), hmain] at h
  dsimp only at h
  split at h
  case isTrue hlong =>
    obtain rfl := Option.some.inj h
    exact .measureStall f item since enqueued hlong
  case isFalse hshort =>
    obtain rfl := Option.some.inj h
    exact .measure f item since enqueued hshort

theorem mainMove_of_advance {f : Frame} (hmain : s.main = .advance f)
    (h : mainStep g s t wall = some s') : MainMove g s t wall (.advance f) s' := by
  rw [mainStep, if_neg (not_lt.2 (clock_le_of_mainStep h)), hmain] at h
  dsimp only at h
  split at h
  case isTrue habort =>
    obtain rfl := Option.some.inj h
    exact .advanceAborts f habort
  case isFalse =>
    obtain rfl := Option.some.inj h
    exact .advance f

/-- The loop of `_drain_inflight`: its time, the queue, and the requests in flight. -/
theorem mainMove_of_drain {f : Frame} {until_ : ℚ} (h : mainStep g s t wall = some s') :
    (s.main = .drainHead f until_ → MainMove g s t wall (.drainHead f until_) s') ∧
    (s.main = .drainQueue f until_ → MainMove g s t wall (.drainQueue f until_) s') ∧
    (s.main = .drainInflight f until_ → MainMove g s t wall (.drainInflight f until_) s') := by
  rw [mainStep, if_neg (not_lt.2 (clock_le_of_mainStep h))] at h
  refine ⟨fun hmain => ?_, fun hmain => ?_, fun hmain => ?_⟩ <;> rw [hmain] at h <;>
    dsimp only at h <;> split at h
  case refine_1.isTrue =>
    obtain rfl := Option.some.inj h
    exact .drainHead f until_
  case refine_1.isFalse htimeout =>
    obtain rfl := Option.some.inj h
    exact .drainTimeout f until_ (not_lt.1 htimeout)
  case refine_2.isTrue hempty =>
    obtain rfl := Option.some.inj h
    exact .queueEmpty f until_ (List.isEmpty_iff.1 hempty)
  case refine_2.isFalse =>
    obtain rfl := Option.some.inj h
    exact .queueBusy f until_
  case refine_3.isTrue hzero =>
    obtain rfl := Option.some.inj h
    exact .inflightZero f until_ hzero
  case refine_3.isFalse =>
    obtain rfl := Option.some.inj h
    exact .inflightBusy f until_

/-- `stop()`: a sentinel for each worker, where a full queue is passed over. -/
theorem mainMove_of_stopPut {k : Nat} {failed : Bool} (hmain : s.main = .stopPut k failed)
    (h : mainStep g s t wall = some s') : MainMove g s t wall (.stopPut k failed) s' := by
  rw [mainStep, if_neg (not_lt.2 (clock_le_of_mainStep h)), hmain] at h
  dsimp only at h
  split at h
  · obtain rfl := Option.some.inj h
    split
    case isTrue hroom => exact .stopPut k failed hroom
    case isFalse => exact .stopPutFull k failed
  · obtain rfl := Option.some.inj h
    exact .stopPutDone k failed

/-- `stop()`: the workers are joined. -/
theorem mainMove_of_stopJoin {k : Nat} {failed : Bool} (hmain : s.main = .stopJoin k failed)
    (h : mainStep g s t wall = some s') : MainMove g s t wall (.stopJoin k failed) s' := by
  rw [mainStep, if_neg (not_lt.2 (clock_le_of_mainStep h)), hmain] at h
  dsimp only at h
  split at h
  · obtain rfl := Option.some.inj h
    exact .stopJoin k failed
  · obtain rfl := Option.some.inj h
    exact .stopJoinDone k failed

/-- **The moves of the main thread** are these, and no clock goes back. -/
theorem mainStep_move (h : mainStep g s t wall = some s') :
    s.clock ≤ t ∧ MainMove g s t wall s.main s' := by
  have hclock := clock_le_of_mainStep h
  refine ⟨hclock, ?_⟩
  cases hmain : s.main with
  | idle => exact mainMove_of_idle hmain h
  | loop f => exact mainMove_of_loop hmain h
  | sleep f d => exact mainMove_of_sleep hmain h
  | mayPut f item since => exact mainMove_of_mayPut hmain h
  | put f item since => exact mainMove_of_put hmain h
  | measure f item since enqueued => exact mainMove_of_measure hmain h
  | advance f => exact mainMove_of_advance hmain h
  | drainHead f until_ => exact (mainMove_of_drain h).1 hmain
  | drainQueue f until_ => exact (mainMove_of_drain h).2.1 hmain
  | drainInflight f until_ => exact (mainMove_of_drain h).2.2 hmain
  | stopPut k failed => exact mainMove_of_stopPut hmain h
  | stopJoin k failed => exact mainMove_of_stopJoin hmain h
  | start f =>
      rw [mainStep, if_neg (not_lt.2 hclock), hmain] at h
      obtain ⟨probe, hprobe, rfl⟩ := Option.map_eq_some_iff.1 h
      exact .start f probe hprobe
  | closed failed =>
      rw [mainStep, if_neg (not_lt.2 hclock), hmain] at h
      cases h
  | _ =>
      -- a single statement
      rw [mainStep, if_neg (not_lt.2 hclock), hmain] at h
      obtain rfl := Option.some.inj h
      constructor

end Statements

/-! ## The main thread, seen by the workers -/

/-- What no statement of the main thread changes. -/
structure MainKeeps (s s' : State η) : Prop where
  workers : s'.workers = s.workers
  templates : s'.templates = s.templates
  inflight : s'.metrics.inflight = s.metrics.inflight
  requestsSent : s'.metrics.totals.requestsSent = s.metrics.totals.requestsSent
  requestsSuccess : s'.metrics.totals.requestsSuccess = s.metrics.totals.requestsSuccess
  requestsFailed : s'.metrics.totals.requestsFailed = s.metrics.totals.requestsFailed
  recordsAccepted : s'.metrics.totals.recordsAccepted = s.metrics.totals.recordsAccepted
  recordsRejected : s'.metrics.totals.recordsRejected = s.metrics.totals.recordsRejected
  failed : s'.metrics.totals.failedNotRejected = s.metrics.totals.failedNotRejected
  logExports : s'.logExports = s.logExports
  logWire : s'.logWire = s.logWire
  logRecorded : s'.logRecorded = s.logRecorded
  logCredited : s'.logCredited = s.logCredited
  logUnstamped : s'.logUnstamped = s.logUnstamped
  logRaised : s'.logRaised = s.logRaised

theorem mainStep_keeps {g : LoadGenerator η} {s s' : State η} {t wall : ℚ}
    (h : mainStep g s t wall = some s') : MainKeeps s s' := by
  have hmove := (mainStep_move h).2
  generalize s.main = pc at hmove
  cases hmove <;> constructor <;> rfl

/-- The queue as the main thread leaves it: as it was, with one item more that is the current one,
    or with one sentinel more. -/
theorem mainStep_queue {g : LoadGenerator η} {s s' : State η} {t wall : ℚ}
    (h : mainStep g s t wall = some s') :
    (s'.queue = s.queue ∧ s'.logEnqueued = s.logEnqueued) ∨
    (s'.queue = s.queue ++ [none] ∧ s'.logEnqueued = s.logEnqueued) ∨
    (∃ f item t₀, s.main = .put f item t₀ ∧ s'.main = .measure f item t₀ true ∧
      s'.queue = s.queue ++ [some item] ∧
      s'.logEnqueued = s.logEnqueued ++ [(item, f.result)]) := by
  have hmove := (mainStep_move h).2
  generalize s.main = pc at hmove ⊢
  cases hmove with
  | put f item since => exact Or.inr (Or.inr ⟨f, item, since, rfl, rfl, rfl, rfl⟩)
  | stopPut k failed hroom => exact Or.inr (Or.inl ⟨rfl, rfl⟩)
  | _ => exact Or.inl ⟨rfl, rfl⟩

/-- Whatever the main thread puts into the queue, there was room for it. -/
theorem mainStep_room {g : LoadGenerator η} {s s' : State η} {t wall : ℚ}
    (h : mainStep g s t wall = some s') :
    s'.queue = s.queue ∨
      (s.queue.length < g.queueCapacity ∧ ∃ x, s'.queue = s.queue ++ [x]) := by
  by_cases hput : ∃ f item since, s.main = .put f item since
  · obtain ⟨f, item, since, hmain⟩ := hput
    simp only [mainStep, hmain] at h
    split at h
    · simp at h
    · split at h
      · next hroom =>
          obtain rfl := Option.some.inj h
          exact Or.inr ⟨hroom, some item, rfl⟩
      · obtain rfl := Option.some.inj h
        exact Or.inl rfl
  · have hmove := (mainStep_move h).2
    generalize hmain : s.main = pc at hmove
    cases hmove with
    | put f item since => exact absurd ⟨f, item, since, hmain⟩ hput
    | stopPut k failed hroom => exact Or.inr ⟨hroom, none, rfl⟩
    | _ => exact Or.inl rfl

end AnalyticsTesting.Generator
