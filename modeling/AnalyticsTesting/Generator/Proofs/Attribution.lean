import AnalyticsTesting.Generator.Proofs.Conservation

set_option autoImplicit false

/-! # Attribution of outcomes to steps

`_drain_inflight` returns when it has seen the queue empty and `Metrics.inflight() == 0`. A worker
that has dequeued an item and not yet entered `record_inflight(1)`, or that has left
`record_inflight(-1)` and not yet booked the outcome, is seen by neither test
(`WorkerPc.unseen`). `attributed_of_cleanRun` says that in runs in which no drain ends with such a
worker, nor times out with anything outstanding, every outcome is booked in the step that put its
item. -/

namespace AnalyticsTesting.Generator

open Transition

variable {η ρ : Type}

/-! ## What a `StepResult` has booked -/

/-- An entry of `logCredited`: the item, its outcome, and the step it was booked in. -/
abbrev Booking := WorkItem × ExportResult × Option Nat

/-- The outcomes booked in a step that meet a condition. -/
def bookedIn (i : Nat) (p : ExportResult → Bool) (log : List Booking) : List WorkItem :=
  (log.filter fun c => c.2.2 = some i && p c.2.1).map Prod.fst

/-- The records of some items. -/
def records (items : List WorkItem) : Nat := (items.map WorkItem.recordCount).sum

theorem bookedIn_concat (i : Nat) (p : ExportResult → Bool) (log : List Booking) (item : WorkItem)
    (r : ExportResult) (step : Option Nat) :
    bookedIn i p (log ++ [(item, r, step)])
      = bookedIn i p log ++ if step = some i ∧ p r = true then [item] else [] := by
  unfold bookedIn
  rw [List.filter_append, List.map_append]
  by_cases h : step = some i ∧ p r = true
  · rw [if_pos h]
    simp [h.1, h.2]
  · rw [if_neg h]
    have hfalse : (decide (step = some i) && p r) = false := by
      simpa using h
    simp [hfalse]

/-- Successes and failures are all there is. -/
theorem records_bookedIn_split (i : Nat) (log : List Booking) :
    records (bookedIn i (·.ok) log) + records (bookedIn i (!·.ok) log)
        = records (bookedIn i (fun _ => true) log) ∧
      (bookedIn i (!·.ok) log).length + (bookedIn i (·.ok) log).length
        = (bookedIn i (fun _ => true) log).length := by
  induction log with
  | nil => exact ⟨rfl, rfl⟩
  | cons c log ih =>
      obtain ⟨ih₁, ih₂⟩ := ih
      unfold bookedIn at *
      by_cases hstep : c.2.2 = some i
      · cases hok : c.2.1.ok <;> simp [records, hstep, hok] at ih₁ ih₂ ⊢ <;> omega
      · simpa [hstep] using And.intro ih₁ ih₂

theorem records_eq_mul {items : List WorkItem} {count : Nat}
    (h : ∀ item ∈ items, item.recordCount = count) : records items = count * items.length := by
  induction items with
  | nil => rfl
  | cons item items ih =>
      have hrest := ih fun x hx => h x (List.mem_cons_of_mem _ hx)
      unfold records at *
      rw [List.map_cons, List.sum_cons, hrest, h item (List.mem_cons_self ..), List.length_cons]
      ring

/-- The part of a `StepResult` the workers write. -/
structure Tab where
  requests : Nat
  failures : Nat
  accepted : Nat
  deriving DecidableEq

def StepResult.tab (r : StepResult) : Tab := ⟨r.requests, r.failures, r.accepted⟩

/-- What the bookings of a step add up to. -/
def bookedTab (i : Nat) (log : List Booking) : Tab where
  requests := (bookedIn i (fun _ => true) log).length
  failures := (bookedIn i (!·.ok) log).length
  accepted := records (bookedIn i (·.ok) log)

theorem tab_credit (r : StepResult) (item : WorkItem) (e : ExportResult) (i : Nat)
    {log : List Booking} (h : r.tab = bookedTab i log) :
    (r.credit item e).tab = bookedTab i (log ++ [(item, e, some i)]) := by
  simp only [StepResult.tab, bookedTab, Tab.mk.injEq] at h
  obtain ⟨hrequests, hfailures, haccepted⟩ := h
  unfold bookedTab
  rw [bookedIn_concat, bookedIn_concat, bookedIn_concat]
  unfold StepResult.credit
  cases hok : e.ok with
  | true => simp [StepResult.tab, hrequests, hfailures, haccepted, records]
  | false => simp [StepResult.tab, hrequests, hfailures, haccepted]

theorem bookedTab_other {i : Nat} (log : List Booking) (item : WorkItem) (e : ExportResult)
    {step : Option Nat} (h : step ≠ some i) :
    bookedTab i (log ++ [(item, e, step)]) = bookedTab i log := by
  unfold bookedTab
  rw [bookedIn_concat, bookedIn_concat, bookedIn_concat]
  simp [h]

theorem bookedTab_fresh {i : Nat} {log : List Booking} (h : ∀ c ∈ log, c.2.2 ≠ some i) :
    bookedTab i log = ⟨0, 0, 0⟩ := by
  have hnil : ∀ p, bookedIn i p log = [] := by
    intro p
    unfold bookedIn
    rw [List.map_eq_nil_iff, List.filter_eq_nil_iff]
    intro c hc
    simp [h c hc]
  unfold bookedTab
  rw [hnil, hnil, hnil]
  rfl

/-- Every `StepResult` is what was booked in it. -/
structure Booked (s : State η) : Prop where
  booked_lt : ∀ c ∈ s.logCredited, ∀ i, c.2.2 = some i → i < s.results.length
  tab_eq : ∀ i r, s.results[i]? = some r → r.tab = bookedTab i s.logCredited

/-- The results stay, grow by a fresh one, or one of them is updated in a field the workers do not
write. -/
inductive ResultsMove (results : List StepResult) : List StepResult → Prop
  | keep : ResultsMove results results
  | new (r : StepResult) (h : r.tab = ⟨0, 0, 0⟩) : ResultsMove results (results ++ [r])
  | update (i : Nat) (upd : StepResult → StepResult) (h : ∀ r, (upd r).tab = r.tab) :
      ResultsMove results (results.modify i upd)

theorem Booked.move {s t : State η} (h : Booked s) (hmove : ResultsMove s.results t.results)
    (hlog : t.logCredited = s.logCredited) : Booked t := by
  refine ⟨?_, ?_⟩
  · intro c hc i hi
    rw [hlog] at hc
    have hlt := h.booked_lt c hc i hi
    generalize t.results = results at hmove
    cases hmove with
    | keep => exact hlt
    | new r hr =>
        rw [List.length_append]
        exact hlt.trans_le (Nat.le_add_right _ _)
    | update j upd hupd => simpa using hlt
  · rw [hlog]
    intro i r hi
    generalize t.results = results at hmove hi
    cases hmove with
    | keep => exact h.tab_eq i r hi
    | new r₀ hr₀ =>
        rcases getElem?_concat_eq_some hi with hold | ⟨hlen, rfl⟩
        · exact h.tab_eq i r hold
        · have hfresh : ∀ c ∈ s.logCredited, c.2.2 ≠ some i := by
            intro c hc heq
            have := h.booked_lt c hc i heq
            omega
          rw [hr₀, bookedTab_fresh hfresh]
    | update j upd hupd =>
        obtain ⟨r₀, hr₀, rfl⟩ := getElem?_modify_eq_some hi
        have hold := h.tab_eq i r₀ hr₀
        by_cases hji : j = i
        · rw [if_pos hji, hupd, hold]
        · rw [if_neg hji, hold]

theorem Booked.credit {s : State η} (h : Booked s)
    (hlt : ∀ i, s.step = some i → i < s.results.length) (item : WorkItem) (e : ExportResult) :
    Booked (s.credit item e) := by
  cases hstep : s.step with
  | none =>
      refine ⟨?_, ?_⟩
      · intro c hc i hi
        simp only [State.credit, hstep] at hc ⊢
        rcases List.mem_append.1 hc with hold | hnew
        · exact h.booked_lt c hold i hi
        · obtain rfl := List.mem_singleton.1 hnew
          simp at hi
      · intro i r hi
        simp only [State.credit, hstep] at hi ⊢
        rw [bookedTab_other _ _ _ (by simp)]
        exact h.tab_eq i r hi
  | some j =>
      refine ⟨?_, ?_⟩
      · intro c hc i hi
        simp only [State.credit, hstep, List.length_modify] at hc ⊢
        rcases List.mem_append.1 hc with hold | hnew
        · exact h.booked_lt c hold i hi
        · obtain rfl := List.mem_singleton.1 hnew
          obtain rfl : j = i := by simpa using hi
          exact hlt j hstep
      · intro i r hi
        simp only [State.credit, hstep] at hi ⊢
        obtain ⟨r₀, hr₀, rfl⟩ := getElem?_modify_eq_some hi
        have hold := h.tab_eq i r₀ hr₀
        by_cases hji : j = i
        · subst hji
          rw [if_pos rfl]
          exact tab_credit r₀ item e j hold
        · rw [if_neg hji, bookedTab_other _ _ _ (by simpa using hji)]
          exact hold

/-! ## The main thread around a drain -/

/-- The step whose `StepResult` is published as `self._step`. -/
def MainPc.published : MainPc → Option Nat
  | .publish _ => none
  | pc => pc.frame.map Frame.result

/-- What the main thread does to `self._step` and to the results, and how it leaves a drain. -/
structure MainDrains (s s' : State η) (t : ℚ) : Prop where
  results : ResultsMove s.results s'.results
  step_published : s.step = s.main.published → s'.step = s'.main.published
  step_eq : s'.step = s.step ∨ (∃ f, s.main = .publish f) ∨ ∃ f drained, s.main = .finish f drained
  published : s'.main.published = none →
    s.main.published = none ∨ ∃ f drained, s.main = .finish f drained
  finish : ∀ f drained, s'.main = .finish f drained →
    (∃ until_, s.main = .drainHead f until_ ∧ until_ ≤ t) ∨
    ∃ until_, s.main = .drainInflight f until_ ∧ s.metrics.inflight = 0
  drained : ∀ f until_, s'.main = .drainInflight f until_ → s.queue = [] ∧ s'.queue = []

/-- A statement that does not publish a result. -/
theorem MainDrains.unpublished {s s' : State η} {t : ℚ}
    (hresults : ResultsMove s.results s'.results) (hstep : s'.step = s.step)
    (hpublished : s'.main.published = s.main.published)
    (hfinish : ∀ f drained, s'.main = .finish f drained →
      (∃ until_, s.main = .drainHead f until_ ∧ until_ ≤ t) ∨
      ∃ until_, s.main = .drainInflight f until_ ∧ s.metrics.inflight = 0)
    (hdrained : ∀ f until_, s'.main = .drainInflight f until_ → s.queue = [] ∧ s'.queue = []) :
    MainDrains s s' t where
  results := hresults
  step_published h := by rw [hstep, hpublished, h]
  step_eq := Or.inl hstep
  published h := Or.inl (by rwa [← hpublished])
  finish := hfinish
  drained := hdrained

/-- A statement that neither publishes a result nor is part of a drain. -/
theorem MainDrains.within {s s' : State η} {t : ℚ} (hresults : ResultsMove s.results s'.results)
    (hstep : s'.step = s.step) (hpublished : s'.main.published = s.main.published)
    (hfinish : ∀ f drained, s'.main ≠ .finish f drained)
    (hdrain : ∀ f until_, s'.main ≠ .drainInflight f until_) : MainDrains s s' t :=
  .unpublished hresults hstep hpublished (fun f drained h => absurd h (hfinish f drained))
    fun f until_ h => absurd h (hdrain f until_)

theorem afterStall_published (f : Frame) (item : WorkItem) (enqueued : Bool) :
    (afterStall f item enqueued).published = some f.result := by
  cases enqueued <;> rfl

theorem afterStall_ne_finish (f f' : Frame) (item : WorkItem) (enqueued drained : Bool) :
    afterStall f item enqueued ≠ .finish f' drained := by
  cases enqueued <;> simp [afterStall]

theorem afterStall_ne_drainInflight (f f' : Frame) (item : WorkItem) (enqueued : Bool)
    (until_ : ℚ) : afterStall f item enqueued ≠ .drainInflight f' until_ := by
  cases enqueued <;> simp [afterStall]

variable [SeqHandle η]

theorem mainStep_drains {g : LoadGenerator η} {s s' : State η} {t wall : ℚ}
    (h : mainStep g s t wall = some s') : MainDrains s s' t := by
  have hmove := (mainStep_move h).2
  generalize hmain : s.main = pc at hmove
  cases hmove with
  | openStep step rest interval hplan hinterval =>
      exact .within (.new _ rfl) rfl (by rw [hmain]; rfl) (by simp) (by simp)
  | publish f =>
      exact
        { results := .keep
          step_published := fun _ => rfl
          step_eq := Or.inr (Or.inl ⟨f, hmain⟩)
          published := fun _ => Or.inl (by rw [hmain]; rfl)
          finish := by simp
          drained := by simp }
  | finish f drained =>
      exact
        { results := .update f.result _ fun r => rfl
          step_published := fun _ => rfl
          step_eq := Or.inr (Or.inr ⟨f, drained, hmain⟩)
          published := fun _ => Or.inr ⟨f, drained, hmain⟩
          finish := by simp
          drained := by simp }
  | measure f item since enqueued hshort =>
      exact .within .keep rfl (by rw [hmain]; exact afterStall_published ..)
        (fun _ _ => afterStall_ne_finish _ _ _ _ _)
        (fun _ _ => afterStall_ne_drainInflight _ _ _ _ _)
  | creditStall f item enqueued stalled =>
      exact .within (.update f.result _ fun r => rfl) rfl
        (by rw [hmain]; exact afterStall_published ..)
        (fun _ _ => afterStall_ne_finish _ _ _ _ _)
        (fun _ _ => afterStall_ne_drainInflight _ _ _ _ _)
  | allocate f =>
      exact .within .keep rfl (by rw [hmain]; rfl) (by simp [State.allocate])
        (by simp [State.allocate])
  | creditOffered f item =>
      exact .within (.update f.result _ fun r => rfl) rfl (by rw [hmain]; rfl) (by simp) (by simp)
  | drainTimeout f until_ htimeout =>
      refine .unpublished .keep rfl (by rw [hmain]; rfl) (fun f' drained heq => ?_) (by simp)
      obtain ⟨rfl, -⟩ : f = f' ∧ false = drained := by simpa using heq
      exact Or.inl ⟨until_, hmain, htimeout⟩
  | queueEmpty f until_ hempty =>
      exact .unpublished .keep rfl (by rw [hmain]; rfl) (by simp) fun _ _ _ => ⟨hempty, hempty⟩
  | inflightZero f until_ hzero =>
      refine .unpublished .keep rfl (by rw [hmain]; rfl) (fun f' drained heq => ?_) (by simp)
      obtain ⟨rfl, -⟩ : f = f' ∧ true = drained := by simpa using heq
      exact Or.inr ⟨until_, hmain, hzero⟩
  | _ => exact .within .keep rfl (by rw [hmain]; rfl) (by simp) (by simp)

/-! ## What is true of every run -/

/-- What a worker's move leaves to the step accounting. -/
theorem WorkerMove.bookings {g : LoadGenerator η} {s t : State η} {w : Nat} {pc pc' : WorkerPc}
    (h : WorkerMove g s w pc t pc') :
    (t.logEnqueued = s.logEnqueued ∧ t.step = s.step ∧ t.main = s.main) ∧
    (t.queue = s.queue ∨ ∃ x, s.queue = x :: t.queue) ∧
    ((t.logCredited = s.logCredited ∧ t.results = s.results) ∨
      ∃ item r, t = s.credit item r) := by
  cases h with
  | sentinel queue hq => exact ⟨⟨rfl, rfl, rfl⟩, Or.inr ⟨_, hq⟩, Or.inl ⟨rfl, rfl⟩⟩
  | take item queue hq => exact ⟨⟨rfl, rfl, rfl⟩, Or.inr ⟨_, hq⟩, Or.inl ⟨rfl, rfl⟩⟩
  | credit item r => exact ⟨⟨rfl, rfl, rfl⟩, Or.inl rfl, Or.inr ⟨item, r, rfl⟩⟩
  | _ => exact ⟨⟨rfl, rfl, rfl⟩, Or.inl rfl, Or.inl ⟨rfl, rfl⟩⟩

/-- `self._step` is the result `run_step` has published. -/
theorem step_eq_published {g : LoadGenerator η} {plan : List Step} {s : State η}
    (h : (engine g plan).Reachable s) : s.step = s.main.published := by
  refine System.reachable_of_preserves (I := fun s : State η => s.step = s.main.published) rfl
    (fun s a s' hI hstep => ?_) h
  rcases engineStep_cases hstep with ⟨t, wall, -, hmain⟩ | ⟨-, hidle, rfl⟩ | ⟨-, rfl⟩ |
    ⟨ts, iso, -, rfl⟩ | ⟨w, pc, u, pc', -, -, hmove, rfl⟩
  · exact (mainStep_drains hmain).step_published hI
  · rw [hI, hidle]
    rfl
  · exact hI
  · exact hI
  · obtain ⟨⟨-, hstep', hmain'⟩, -, -⟩ := hmove.bookings
    show u.step = u.main.published
    rw [hstep', hmain', hI]

theorem step_lt_results {g : LoadGenerator η} {plan : List Step} {s : State η}
    (h : (engine g plan).Reachable s) : ∀ i, s.step = some i → i < s.results.length := by
  intro i hi
  rw [step_eq_published h] at hi
  have hframe : ∃ f, s.main.frame = some f ∧ f.result = i := by
    cases hmain : s.main <;> simp [hmain, MainPc.published, MainPc.frame] at hi ⊢ <;> exact hi
  obtain ⟨f, hf, rfl⟩ := hframe
  have hlen := (paced_of_reachable h).frame_result f hf
  simp only [State.paceView, List.length_map] at hlen
  omega

/-- **Every `StepResult` is what was booked in it**, in every reachable state. -/
theorem booked_of_reachable {g : LoadGenerator η} {plan : List Step} {s : State η}
    (h : (engine g plan).Reachable s) : Booked s := by
  refine System.reachable_of_preserves_within (I := fun s => (engine g plan).Reachable s)
    (J := Booked) (fun _ hs => hs) ⟨?_, ?_⟩ (fun s a s' hs hI hstep => ?_) h
  · simp [engine, engineInit]
  · simp [engine, engineInit]
  · rcases engineStep_cases hstep with ⟨t, wall, -, hmain⟩ | ⟨-, hidle, rfl⟩ | ⟨-, rfl⟩ |
      ⟨ts, iso, -, rfl⟩ | ⟨w, pc, u, pc', -, -, hmove, rfl⟩
    · exact hI.move (mainStep_drains hmain).results (mainStep_keeps hmain).logCredited
    · exact ⟨hI.1, hI.2⟩
    · exact ⟨hI.1, hI.2⟩
    · exact ⟨hI.1, hI.2⟩
    · obtain ⟨-, -, ⟨hlog, hresults⟩ | ⟨item, r, rfl⟩⟩ := hmove.bookings
      · have hsame : Booked u := hI.move (hresults ▸ .keep) hlog
        exact ⟨hsame.1, hsame.2⟩
      · have hcredit := hI.credit (step_lt_results hs) item r
        exact ⟨hcredit.1, hcredit.2⟩

/-- A worker between `record_inflight(1)` and `record_inflight(-1)`. -/
def WorkerPc.inflight : WorkerPc → Bool
  | .calling _ | .exporting _ _ | .returned _ _ => true
  | _ => false

def WorkerPc.inflightCount (pc : WorkerPc) : Nat := if pc.inflight then 1 else 0

/-- **The gauge counts the workers between the two calls of `record_inflight`.** -/
theorem inflight_eq {g : LoadGenerator η} {plan : List Step} {s : State η}
    (h : (engine g plan).Reachable s) :
    s.metrics.inflight = g.metrics.inflight + (tally WorkerPc.inflightCount s.workers : Nat) := by
  refine System.reachable_of_preserves (I := fun s : State η => s.metrics.inflight
    = g.metrics.inflight + (tally WorkerPc.inflightCount s.workers : Nat)) ?_
    (fun s a s' hI hstep => ?_) h
  · show g.metrics.inflight = _
    rw [show (engine g plan).init.workers = List.replicate g.workers .waiting from rfl,
      tally_replicate_zero (f := WorkerPc.inflightCount) rfl]
    simp
  · rcases engineStep_cases hstep with ⟨t, wall, -, hmain⟩ | ⟨-, hidle, rfl⟩ | ⟨-, rfl⟩ |
      ⟨ts, iso, -, rfl⟩ | ⟨w, pc, u, pc', -, hpc, hmove, rfl⟩
    · have hkeeps := mainStep_keeps hmain
      rw [hkeeps.inflight, hkeeps.workers, hI]
    · exact hI
    · exact hI
    · exact hI
    · have hset := tally_set (f := WorkerPc.inflightCount) pc' hpc
      show u.metrics.inflight
        = g.metrics.inflight + (tally WorkerPc.inflightCount (s.workers.set w pc') : Nat)
      -- only `enter`, `release` and `raised` touch the gauge, and each with its own worker
      have hmoved : u.metrics.inflight + (pc.inflightCount : Int)
          = s.metrics.inflight + (pc'.inflightCount : Int) := by
        cases hmove with
        | bookkeep pc pc' failures abortReason stop hitem hitem' hne hstopped =>
            have hzero : ∀ q : WorkerPc, q.item = none → q.inflightCount = 0 := by
              intro q hq
              cases q <;> simp [WorkerPc.item] at hq <;> rfl
            rw [hzero _ hitem, hzero _ hitem']
        | credit item r =>
            have hzero : (afterCredit g r).inflightCount = 0 := by
              have hitem := afterCredit_item g r
              cases hq : afterCredit g r <;> simp [hq, WorkerPc.item] at hitem <;> rfl
            rw [hzero]
            rfl
        | enter item => simp [Metrics.recordInflight, WorkerPc.inflightCount, WorkerPc.inflight]
        | release item r =>
            simp [Metrics.recordInflight, WorkerPc.inflightCount, WorkerPc.inflight]
        | raised item => simp [Metrics.recordInflight, WorkerPc.inflightCount, WorkerPc.inflight]
        | _ => rfl
      omega

/-! ## Runs whose drains are clean -/

/-- The worker holds an item, and neither the queue nor the gauge shows it: it is dequeued and not
counted in flight yet, or counted out and not booked yet. -/
def WorkerPc.unseen (pc : WorkerPc) : Bool := pc.item.isSome && !pc.inflight

/-- A drain that ends in this step leaves nothing behind: if it ends because its condition held, no
worker holds an item unseen, and if it times out, nothing is queued or held. -/
def drainsClean (s : State η) : Action → Bool
  | .main t _ =>
      match s.main with
      | .drainInflight _ _ => s.metrics.inflight ≠ 0 || s.workers.all (!·.unseen)
      | .drainHead _ until_ =>
          t < until_ || (s.queue.all (·.isNone) && s.workers.all (·.item.isNone))
      | _ => true
  | _ => true

omit [SeqHandle η] in
theorem unseen_of_drainsClean {s : State η} {t wall : ℚ} {f : Frame} {until_ : ℚ}
    (h : drainsClean s (.main t wall) = true) (hmain : s.main = .drainInflight f until_)
    (hinflight : s.metrics.inflight = 0) : ∀ pc ∈ s.workers, pc.unseen = false := by
  simpa [drainsClean, hmain, hinflight] using h

omit [SeqHandle η] in
theorem empty_of_drainsClean {s : State η} {t wall : ℚ} {f : Frame} {until_ : ℚ}
    (h : drainsClean s (.main t wall) = true) (hmain : s.main = .drainHead f until_)
    (hle : until_ ≤ t) : (∀ x ∈ s.queue, x = none) ∧ ∀ pc ∈ s.workers, pc.item = none := by
  simpa [drainsClean, hmain, not_lt.2 hle] using h

/-- **The attribution invariant**: an item put by step `i` is booked in step `i`, or it is
outstanding and `i` is the current step; nothing is outstanding outside a step. -/
structure Attributed (s : State η) : Prop where
  lost : s.NothingLost
  balance : ((s.logEnqueued.map fun x => (x.1, some x.2) : List (WorkItem × Option Nat)) :
      Multiset (WorkItem × Option Nat))
    = (s.outstanding .credited).map (fun item => (item, s.step))
      + ((s.logCredited.map fun c => (c.1, c.2.2) : List (WorkItem × Option Nat)) :
        Multiset (WorkItem × Option Nat))
  outside : s.main.published = none → s.outstanding .credited = 0
  finished : ∀ f drained, s.main = .finish f drained → s.outstanding .credited = 0
  drained : ∀ f until_, s.main = .drainInflight f until_ → s.queue = []

/-- Without losses, what was put is outstanding or booked. -/
theorem issued_eq {g : LoadGenerator η} {plan : List Step} {s : State η}
    (h : (engine g plan).Reachable s) (hlost : s.NothingLost) :
    ((s.logEnqueued.map Prod.fst : List WorkItem) : Multiset WorkItem)
      = s.outstanding .credited + ((s.logCredited.map Prod.fst : List WorkItem) :
        Multiset WorkItem) := by
  have hbalanced : (State.ledger .credited s).issued = s.outstanding .credited
      + (State.ledger .credited s).settled + (State.ledger .credited s).lost :=
    ledger_balanced h .credited
  have hnone : (State.ledger .credited s).lost = 0 := by
    show ((s.logUnstamped ++ s.logRaised : List WorkItem) : Multiset WorkItem) = 0
    rw [hlost.1, hlost.2]
    rfl
  rw [hnone, add_zero] at hbalanced
  exact hbalanced

/-- A step that neither puts nor books leaves what is outstanding as it was. -/
theorem outstanding_eq_of_logs {g : LoadGenerator η} {plan : List Step} {s s' : State η}
    (h : (engine g plan).Reachable s) (h' : (engine g plan).Reachable s') (hlost : s.NothingLost)
    (hlost' : s'.NothingLost) (henq : s'.logEnqueued = s.logEnqueued)
    (hcredited : s'.logCredited = s.logCredited) :
    s'.outstanding .credited = s.outstanding .credited := by
  have hissued := issued_eq h hlost
  have hissued' := issued_eq h' hlost'
  rw [henq, hcredited, hissued] at hissued'
  exact (add_right_cancel hissued').symm

namespace Attributed

variable {g : LoadGenerator η} {plan : List Step} {s s' : State η}

/-- A step that neither puts nor books, inside a step or outside. -/
theorem keep (h : Attributed s) (hreach : (engine g plan).Reachable s)
    (hreach' : (engine g plan).Reachable s') (hlost' : s'.NothingLost)
    (henq : s'.logEnqueued = s.logEnqueued) (hcredited : s'.logCredited = s.logCredited)
    (hstep : s'.step = s.step ∨ s.outstanding .credited = 0)
    (houtside : s'.main.published = none → s.outstanding .credited = 0)
    (hfinished : ∀ f drained, s'.main = .finish f drained → s.outstanding .credited = 0)
    (hdrained : ∀ f until_, s'.main = .drainInflight f until_ → s'.queue = []) :
    Attributed s' := by
  have hsame := outstanding_eq_of_logs hreach hreach' h.lost hlost' henq hcredited
  refine ⟨hlost', ?_, ?_, ?_, hdrained⟩
  · rw [henq, hcredited, hsame, h.balance]
    rcases hstep with heq | hzero
    · rw [heq]
    · rw [hzero, Multiset.map_zero, Multiset.map_zero]
  · intro hnone
    rw [hsame, houtside hnone]
  · intro f drained hf
    rw [hsame, hfinished f drained hf]

/-- The pacer puts an item. -/
theorem put (h : Attributed s) (hreach : (engine g plan).Reachable s)
    (hreach' : (engine g plan).Reachable s') (hlost' : s'.NothingLost) {f : Frame}
    {item : WorkItem} {t₀ : ℚ} (hmain : s.main = .put f item t₀)
    (hmain' : s'.main = .measure f item t₀ true)
    (henq : s'.logEnqueued = s.logEnqueued ++ [(item, f.result)])
    (hcredited : s'.logCredited = s.logCredited) : Attributed s' := by
  have hstep : s.step = some f.result := by rw [step_eq_published hreach, hmain]; rfl
  have hstep' : s'.step = some f.result := by rw [step_eq_published hreach', hmain']; rfl
  have hissued := issued_eq hreach h.lost
  have hissued' := issued_eq hreach' hlost'
  have hmore : s'.outstanding .credited = item ::ₘ s.outstanding .credited := by
    rw [henq, List.map_append, hcredited] at hissued'
    have hconcat := coe_concat (s.logEnqueued.map Prod.fst) item
    rw [show [(item, f.result)].map Prod.fst = [item] from rfl, hconcat, hissued,
      ← Multiset.cons_add] at hissued'
    exact (add_right_cancel hissued').symm
  refine ⟨hlost', ?_, ?_, ?_, ?_⟩
  · rw [henq, List.map_append, hcredited, hmore, Multiset.map_cons, hstep', Multiset.cons_add]
    have hbalance := h.balance
    rw [hstep] at hbalance
    rw [← hbalance]
    exact coe_concat _ _
  · intro hnone
    rw [hmain'] at hnone
    simp [MainPc.published, MainPc.frame] at hnone
  · intro f' drained hf
    rw [hmain'] at hf
    simp at hf
  · intro f' until_ hf
    rw [hmain'] at hf
    simp at hf

/-- A worker books an outcome. -/
theorem book (h : Attributed s) (hreach : (engine g plan).Reachable s)
    (hreach' : (engine g plan).Reachable s') (hlost' : s'.NothingLost) {item : WorkItem}
    {r : ExportResult} (henq : s'.logEnqueued = s.logEnqueued)
    (hcredited : s'.logCredited = s.logCredited ++ [(item, r, s.step)])
    (hstep : s'.step = s.step) (hmain : s'.main = s.main) (hqueue : s'.queue = s.queue) :
    Attributed s' := by
  have hissued := issued_eq hreach h.lost
  have hissued' := issued_eq hreach' hlost'
  -- what is issued does not change, so the item booked was outstanding before
  have hless : s.outstanding .credited = item ::ₘ s'.outstanding .credited := by
    rw [henq, hcredited, List.map_append] at hissued'
    have hconcat := coe_concat (s.logCredited.map Prod.fst) item
    rw [show [(item, r, s.step)].map Prod.fst = [item] from rfl, hconcat, hissued,
      Multiset.add_cons, ← Multiset.cons_add] at hissued'
    exact add_right_cancel hissued'
  have hne : s.outstanding .credited ≠ 0 := by
    rw [hless]
    exact Multiset.cons_ne_zero
  refine ⟨hlost', ?_, ?_, ?_, ?_⟩
  · rw [henq, hcredited, List.map_append, hstep, h.balance, hless, Multiset.map_cons,
      Multiset.cons_add]
    have hconcat := coe_concat (s.logCredited.map fun c => (c.1, c.2.2)) (item, s.step)
    rw [show [(item, r, s.step)].map (fun c : Booking => (c.1, c.2.2)) = [(item, s.step)] from rfl,
      hconcat, Multiset.add_cons]
  · intro hnone
    rw [hmain] at hnone
    exact absurd (h.outside hnone) hne
  · intro f drained hf
    rw [hmain] at hf
    exact absurd (h.finished f drained hf) hne
  · intro f until_ hf
    rw [hqueue]
    exact h.drained f until_ (hmain ▸ hf)

end Attributed

/-- **A clean drain leaves nothing outstanding**: the queue was empty, nothing is in flight, and no
worker holds an item unseen. -/
theorem outstanding_eq_zero_of_drained {g : LoadGenerator η} {plan : List Step} {s : State η}
    (hreach : (engine g plan).Reachable s) (hg : g.metrics.inflight = 0) (hqueue : s.queue = [])
    (hinflight : s.metrics.inflight = 0) (hunseen : ∀ pc ∈ s.workers, pc.unseen = false) :
    s.outstanding .credited = 0 := by
  refine outstanding_eq_zero (by simp [hqueue]) (fun pc hpc => ?_) .credited
  have hgauge := inflight_eq hreach
  rw [hg, hinflight, zero_add] at hgauge
  have hzero : tally WorkerPc.inflightCount s.workers = 0 := by omega
  have hnot : pc.inflight = false := by
    have hcount := eq_zero_of_tally_eq_zero hzero hpc
    simpa [WorkerPc.inflightCount] using hcount
  have hseen := hunseen pc hpc
  simpa [WorkerPc.unseen, hnot] using hseen

/-- **One step of a run with clean drains keeps the attribution.** -/
theorem engineStep_attributed {g : LoadGenerator η} {plan : List Step} {s s' : State η}
    {a : Action} (hg : g.metrics.inflight = 0) (hreach : (engine g plan).Reachable s)
    (h : Attributed s) (hclean : drainsClean s a = true) (hraises : raises g s a = false)
    (hstep : engineStep g s a = some s') : Attributed s' := by
  have hreach' : (engine g plan).Reachable s' := hreach.step hstep
  have hlost' : s'.NothingLost := (engineStep_nothingLost_iff hstep).2 ⟨h.lost, hraises⟩
  rcases engineStep_cases hstep with ⟨t, wall, rfl, hmain⟩ | ⟨-, hidle, rfl⟩ | ⟨-, rfl⟩ |
    ⟨ts, iso, -, rfl⟩ | ⟨w, pc, u, pc', -, -, hmove, rfl⟩
  · have hdrains := mainStep_drains hmain
    have hcredited := (mainStep_keeps hmain).logCredited
    -- the main thread books nothing: if it puts nothing either, only a change of step matters, and
    -- a step is announced or closed with nothing outstanding
    have hkeep : s'.logEnqueued = s.logEnqueued → Attributed s' := by
      intro henq
      refine h.keep hreach hreach' hlost' henq hcredited ?_ ?_ ?_ ?_
      · rcases hdrains.step_eq with heq | ⟨f, hf⟩ | ⟨f, drained, hf⟩
        · exact Or.inl heq
        · exact Or.inr (h.outside (by rw [hf]; rfl))
        · exact Or.inr (h.finished f drained hf)
      · intro hnone
        rcases hdrains.published hnone with hold | ⟨f, drained, hf⟩
        · exact h.outside hold
        · exact h.finished f drained hf
      · intro f drained hf
        -- the drain ended at its deadline, or because its two readings were zero
        rcases hdrains.finish f drained hf with ⟨until_, hf', hle⟩ | ⟨until_, hf', hzero⟩
        · obtain ⟨hqueue, hworkers⟩ := empty_of_drainsClean hclean hf' hle
          exact outstanding_eq_zero hqueue hworkers .credited
        · exact outstanding_eq_zero_of_drained hreach hg (h.drained f until_ hf') hzero
            (unseen_of_drainsClean hclean hf' hzero)
      · exact fun f until_ hf => (hdrains.drained f until_ hf).2
    rcases mainStep_queue hmain with ⟨-, henq⟩ | ⟨-, henq⟩ | ⟨f, item, t₀, hf, hf', -, henq⟩
    · exact hkeep henq
    · exact hkeep henq
    · exact h.put hreach hreach' hlost' hf hf' henq hcredited
  · refine h.keep hreach hreach' hlost' rfl rfl (Or.inl rfl) (fun _ => h.outside ?_) (by simp)
      (by simp)
    rw [hidle]
    rfl
  · exact h.keep hreach hreach' hlost' rfl rfl (Or.inl rfl) h.outside h.finished h.drained
  · exact h.keep hreach hreach' hlost' rfl rfl (Or.inl rfl) h.outside h.finished h.drained
  · obtain ⟨⟨henq, hstep', hmain⟩, hqueue, ⟨hcredited, -⟩ | ⟨item, r, rfl⟩⟩ := hmove.bookings
    · refine h.keep hreach hreach' hlost' henq hcredited (Or.inl hstep') ?_ ?_ ?_
      · exact fun hnone => h.outside (hmain ▸ hnone)
      · exact fun f drained hf => h.finished f drained (hmain ▸ hf)
      · intro f until_ hf
        have hempty := h.drained f until_ (hmain ▸ hf)
        show u.queue = []
        rcases hqueue with heq | ⟨x, hx⟩
        · rw [heq, hempty]
        · simp [hempty] at hx
    · exact h.book hreach hreach' hlost' rfl rfl rfl rfl rfl

/-- Runs in which every drain is clean and nothing raises. -/
def CleanRun (g : LoadGenerator η) (plan : List Step) (as : List Action) : Prop :=
  (engine g plan).Meets (fun s a => drainsClean s a = true ∧ raises g s a = false)
    (engineInit g plan) as

instance decidableCleanRun (g : LoadGenerator η) (plan : List Step) (as : List Action) :
    Decidable (CleanRun g plan as) :=
  inferInstanceAs (Decidable ((engine g plan).Meets _ _ _))

theorem attributed_of_cleanRun {g : LoadGenerator η} {plan : List Step} {as : List Action}
    {s : State η} (hg : g.metrics.inflight = 0) (hclean : CleanRun g plan as)
    (hrun : (engine g plan).run (engineInit g plan) as = some s) : Attributed s := by
  refine System.run_of_preserves_within (I := fun s => (engine g plan).Reachable s)
    (fun _ hs => hs) ?_ (fun s a s' hs hI hP hstep => ?_) hclean hrun
  · have hzero : (engineInit g plan).outstanding .credited = 0 :=
      outstanding_eq_zero (by simp [engineInit]) (by simp [engineInit, WorkerPc.item]) _
    exact ⟨⟨rfl, rfl⟩, by rw [show (engine g plan).init = engineInit g plan from rfl, hzero]; rfl,
      fun _ => hzero, fun _ _ h => by simp [engine, engineInit] at h, fun _ _ _ => rfl⟩
  · exact engineStep_attributed hg hs hI hP.1 hP.2 hstep

/-! ## The step accounting at the end of a drain -/

theorem length_bookedIn (i : Nat) (log : List Booking) :
    (bookedIn i (fun _ => true) log).length = log.countP fun c => c.2.2 = some i := by
  simp [bookedIn, List.countP_eq_length_filter]

theorem credited_recordCount {g : LoadGenerator η} {plan : List Step} {s : State η}
    (h : (engine g plan).Reachable s) {i : Nat} {p : ExportResult → Bool} :
    ∀ item ∈ bookedIn i p s.logCredited, item.recordCount = g.factory.batchSize := by
  intro item hitem
  obtain ⟨c, hc, rfl⟩ := List.mem_map.1 hitem
  have hpast : c.1 ∈ s.past .credited := List.mem_map_of_mem (List.mem_of_mem_filter hc)
  exact recordCount_of_past h hpast

omit [SeqHandle η] in
/-- Every item put in step `i` is booked in step `i`, as many as were put. -/
theorem countP_booked_eq {s : State η} (h : Attributed s) (hzero : s.outstanding .credited = 0)
    (i : Nat) :
    (s.logCredited.countP fun c => c.2.2 = some i) = s.logEnqueued.countP fun x => x.2 = i := by
  have hbalance := h.balance
  rw [hzero, Multiset.map_zero, zero_add] at hbalance
  have hcount := congrArg (Multiset.countP fun y => y.2 = some i) hbalance
  rw [Multiset.coe_countP, Multiset.coe_countP, List.countP_map, List.countP_map] at hcount
  simpa [Function.comp_def] using hcount.symm

/-- **Step attribution.** In every run of a launched engine in which nothing raises and every drain
is clean, whenever `_drain_inflight` has returned because its condition held: the `StepResult` has
one request for each item put in the step, its accepted and failed records are what the step
offered, and every outcome there is was booked in the step that put its item. -/
theorem step_attribution {cfg : RunConfig ρ} {g : LoadGenerator η}
    (hlaunch : launch η cfg = some g) {plan : List Step} {as : List Action} {s : State η}
    (hclean : CleanRun g plan as) (hrun : (engine g plan).run (engineInit g plan) as = some s)
    {f : Frame} (hmain : s.main = .finish f true) :
    ∃ r, s.results[f.result]? = some r ∧
      r.requests = (s.logEnqueued.countP fun x => x.2 = f.result) ∧
      r.accepted + records (bookedIn f.result (!·.ok) s.logCredited) = r.offered ∧
      ((s.logEnqueued.map fun x => (x.1, some x.2) : List (WorkItem × Option Nat)) :
          Multiset (WorkItem × Option Nat))
        = ((s.logCredited.map fun c => (c.1, c.2.2) : List (WorkItem × Option Nat)) :
          Multiset (WorkItem × Option Nat)) := by
  have hg := launch_launched hlaunch
  have hreach : (engine g plan).Reachable s := ⟨as, hrun⟩
  have hattr := attributed_of_cleanRun hg.inflight_eq hclean hrun
  have hzero := hattr.finished f true hmain
  have hpacing := hg.pacing hreach
  have hview : s.paceView.main = .finish f true := hmain
  obtain ⟨r, hr⟩ : ∃ r, s.results[f.result]? = some r := by
    have hlen := hpacing.frame_result f (by rw [hview]; rfl)
    simp only [State.paceView, List.length_map] at hlen
    exact ⟨_, List.getElem?_eq_getElem (by omega)⟩
  have htab := (booked_of_reachable hreach).tab_eq f.result r hr
  simp only [StepResult.tab, bookedTab, Tab.mk.injEq] at htab
  obtain ⟨hrequests, -, haccepted⟩ := htab
  have hcount := countP_booked_eq hattr hzero f.result
  have hoffered : r.offered = g.batchSize * s.logEnqueued.countP fun x => x.2 = f.result := by
    have hspan : s.paceView.spans[f.result]? = some r.span := by
      rw [State.paceView, List.getElem?_map, hr]
      rfl
    have hoffered := hpacing.offered_eq f.result r.span hspan
    rw [hview, putBefore_succ, Nat.mul_add] at hoffered
    simp only [MainPc.uncredited, MainPc.unrecorded, Bool.false_eq_true, false_and, if_false,
      Nat.add_zero] at hoffered
    have hsum : r.offered + g.batchSize * putBefore s.logEnqueued f.result
        = g.batchSize * putBefore s.logEnqueued f.result
          + g.batchSize * s.logEnqueued.countP fun x => x.2 = f.result := hoffered
    omega
  refine ⟨r, hr, ?_, ?_, ?_⟩
  · rw [hrequests, length_bookedIn, hcount]
  · have hsplit := (records_bookedIn_split f.result s.logCredited).1
    rw [haccepted, hsplit, records_eq_mul (credited_recordCount hreach), hg.batchSize_eq,
      length_bookedIn, hcount, hoffered]
  · have hbalance := hattr.balance
    rwa [hzero, Multiset.map_zero, zero_add] at hbalance

/-- Which step's drain has just ended because its condition held. -/
def MainPc.drained : MainPc → Option Nat
  | .finish f true => some f.result
  | _ => none

theorem MainPc.drained_eq_some {pc : MainPc} {i : Nat} (h : pc.drained = some i) :
    ∃ f, pc = .finish f true ∧ f.result = i := by
  unfold drained at h
  split at h
  case h_1 f => exact ⟨f, rfl, Option.some.inj h⟩
  case h_2 => simp at h

/-- One item, acknowledged and booked before the drain. -/
def bookedRun : List Action :=
  mainRuns 13 0 ++ workerExports 0 1 ++ workerAcked 0 ++ mainRuns 5 1

/-- The attribution in a run with one item. -/
theorem step_attribution_bookedRun : ∃ (s : State BenchSeq) (f : Frame) (r : StepResult),
    s.logEnqueued.length = 1 ∧ s.results[f.result]? = some r ∧
      r.requests = (s.logEnqueued.countP fun x => x.2 = f.result) ∧
      r.accepted + records (bookedIn f.result (!·.ok) s.logCredited) = r.offered ∧
      ((s.logEnqueued.map fun x => (x.1, some x.2) : List (WorkItem × Option Nat)) :
          Multiset (WorkItem × Option Nat))
        = ((s.logCredited.map fun c => (c.1, c.2.2) : List (WorkItem × Option Nat)) :
          Multiset (WorkItem × Option Nat)) := by
  have hclean : (launch BenchSeq (plainConfig 1 1 1)).all (fun g =>
      decide (CleanRun g [⟨0, 1, 1⟩] bookedRun)) = true := by decide +kernel
  obtain ⟨g, s, hg, hrun, hP⟩ := exists_of_runFrom
    (launch BenchSeq (plainConfig 1 1 1)) [⟨0, 1, 1⟩] bookedRun
    (P := fun s => s.logEnqueued.length = 1 ∧ s.main.drained = some 0)
    (by decide +kernel)
  obtain ⟨hput, hdrained⟩ : s.logEnqueued.length = 1 ∧ s.main.drained = some 0 :=
    of_decide_eq_true hP
  obtain ⟨f, hf, -⟩ := MainPc.drained_eq_some hdrained
  rw [hg] at hclean
  obtain ⟨r, hr, hrest⟩ := step_attribution hg (of_decide_eq_true hclean) hrun hf
  exact ⟨s, f, r, hput, hr, hrest⟩

/-- One item, dequeued just before the drain looks. -/
def unseenRun : List Action := mainRuns 13 0 ++ [.worker 0] ++ mainRuns 5 1

/-- **The drain does not see a dequeued item**: the queue is empty and nothing is in flight, so the
step ends with one item put and no request booked. -/
theorem not_step_attribution_unseenRun :
    ¬ ∀ (cfg : RunConfig Unit) (g : LoadGenerator BenchSeq) (plan : List Step)
        (as : List Action) (s : State BenchSeq) (f : Frame), launch BenchSeq cfg = some g →
        (engine g plan).Meets (fun s a => raises g s a = false) (engineInit g plan) as →
        (engine g plan).run (engineInit g plan) as = some s → s.main = .finish f true →
        ∀ r, s.results[f.result]? = some r →
          r.requests = s.logEnqueued.countP fun x => x.2 = f.result := by
  intro h
  have hraises : (launch BenchSeq (plainConfig 1 1 1)).all (fun g =>
      decide ((engine g [⟨0, 1, 1⟩]).Meets (fun s a => raises g s a = false)
        (engineInit g [⟨0, 1, 1⟩]) unseenRun)) = true := by decide +kernel
  obtain ⟨g, s, hg, hrun, hP⟩ := exists_of_runFrom
    (launch BenchSeq (plainConfig 1 1 1)) [⟨0, 1, 1⟩] unseenRun
    (P := fun s => s.logEnqueued.map Prod.snd = [0] ∧ s.results.map (·.requests) = [0] ∧
      s.main.drained = some 0)
    (by decide +kernel)
  obtain ⟨hput, hrequests, hdrained⟩ : s.logEnqueued.map Prod.snd = [0] ∧
      s.results.map (·.requests) = [0] ∧ s.main.drained = some 0 := of_decide_eq_true hP
  obtain ⟨f, hf, hresult⟩ := MainPc.drained_eq_some hdrained
  rw [hg] at hraises
  obtain ⟨r, hr, hzero⟩ := List.map_eq_singleton_iff.1 hrequests
  obtain ⟨x, hx, hstep⟩ := List.map_eq_singleton_iff.1 hput
  have hcount := h _ g _ _ s f hg (of_decide_eq_true hraises) hrun hf r
    (by rw [hresult, hr]; rfl)
  rw [hx, hzero, hresult] at hcount
  simp [hstep] at hcount

end AnalyticsTesting.Generator
