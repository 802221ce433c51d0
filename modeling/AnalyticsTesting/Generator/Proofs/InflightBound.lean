import AnalyticsTesting.Generator.Proofs.Attribution
import AnalyticsTesting.Config.Proofs.Loaded

set_option autoImplicit false

/-! # How much work can be in the engine

Two bounds that hold in every reachable state, whatever the exporter answers. The gauge counts the
workers inside an export (`inflight_eq`), so it lies between zero and their number. And an item that
was enqueued and is not finished is in the queue or in the hands of a worker (`unfinished_of_run`),
so there are at most as many of them as the queue has places and the engine has workers. The queue
has `max_inflight` places, but never less than one: a configuration whose `max_inflight` is
truncated to zero is accepted. -/

namespace AnalyticsTesting.Generator

open Transition

variable {η ρ : Type} [SeqHandle η]

/-! ## Unfinished items -/

/-- The items in the queue; the sentinels are none. -/
def State.queuedItems (s : State η) : Nat := s.queue.countP Option.isSome

/-- The action is the `task_done` of a worker: it has finished its item. -/
def finishes (s : State η) : Action → Nat
  | .worker w => if s.workers[w]? = some .taskDone then 1 else 0
  | _ => 0

/-- Where the items are that were enqueued, when `finished` of them are done. -/
structure Unfinished (g : LoadGenerator η) (s : State η) (finished : Nat) : Prop where
  length_queue : s.queue.length ≤ g.queueCapacity
  length_workers : s.workers.length = g.workers
  enqueued : s.logEnqueued.length
    = finished + s.queuedItems + tally WorkerPc.busyCount s.workers

/-- A statement of a worker takes one item from the queue and is busy with it, or finishes the one
    it has, or changes nothing in this respect. -/
theorem WorkerStatement.unfinished {g : LoadGenerator η} {s t : State η} {w : Nat} {a : Action}
    {pc pc' : WorkerPc} (h : WorkerStatement g s w a pc t pc') (hpc : s.workers[w]? = some pc) :
    t.logEnqueued = s.logEnqueued ∧ t.queue.length ≤ s.queue.length ∧
      t.queuedItems + pc'.busyCount + finishes s a = s.queuedItems + pc.busyCount := by
  cases h with
  | readClock item nowNs => exact ⟨rfl, le_rfl, rfl⟩
  | serialize item u hget => exact ⟨rfl, le_rfl, rfl⟩
  | exportReturns item sent outcome => exact ⟨rfl, le_rfl, rfl⟩
  | own pc pc' t h =>
      have hfinishes : finishes s (.worker w) = if pc = .taskDone then 1 else 0 := by
        simp [finishes, hpc]
      rw [hfinishes]
      cases workerStep_move h with
      | sentinel queue hqueue =>
          exact ⟨rfl, by simp [hqueue], by simp [State.queuedItems, hqueue, WorkerPc.busyCount,
            WorkerPc.busy]⟩
      | take item queue hqueue =>
          exact ⟨rfl, by simp [hqueue], by simp [State.queuedItems, hqueue, WorkerPc.busyCount,
            WorkerPc.busy]⟩
      | credit item r =>
          refine ⟨rfl, le_rfl, ?_⟩
          rw [busyCount_of_busy (afterCredit_busy g r)]
          rfl
      | bookkeep pc pc' failures abortReason stop hitem hitem' hne hstopped =>
          obtain ⟨hbusy, hafter⟩ := workerStep_busy h hitem hne
          refine ⟨rfl, le_rfl, ?_⟩
          rw [busyCount_of_busy hbusy]
          rcases hafter with ⟨rfl, rfl⟩ | ⟨hdone, hbusy'⟩
          · rfl
          · rw [if_neg hdone, busyCount_of_busy hbusy']
            rfl
      | _ => exact ⟨rfl, le_rfl, rfl⟩

theorem unfinished_init {g : LoadGenerator η} (plan : List Step) :
    Unfinished g (engineInit g plan) 0 where
  length_queue := Nat.zero_le _
  length_workers := List.length_replicate
  enqueued := by
    show 0 = 0 + 0 + tally WorkerPc.busyCount (List.replicate g.workers .waiting)
    rw [tally_replicate_zero (f := WorkerPc.busyCount) rfl]
    rfl

/-- An item that is put is in the queue; a sentinel is no item. -/
theorem mainStep_queuedItems {g : LoadGenerator η} {s s' : State η} {t wall : ℚ}
    (h : mainStep g s t wall = some s') :
    s'.logEnqueued.length + s.queuedItems = s.logEnqueued.length + s'.queuedItems := by
  rcases mainStep_queue h with ⟨hqueue, hlog⟩ | ⟨hqueue, hlog⟩ |
    ⟨f, item, since, -, -, hqueue, hlog⟩
  · simp [State.queuedItems, hqueue, hlog]
  · simp [State.queuedItems, hqueue, hlog]
  · simp [State.queuedItems, hqueue, hlog]
    omega

theorem unfinished_step {g : LoadGenerator η} {s s' : State η} {a : Action} {finished : Nat}
    (h : Unfinished g s finished) (hstep : engineStep g s a = some s') :
    Unfinished g s' (finished + finishes s a) := by
  cases ha : a.worker? with
  | some w =>
      obtain ⟨pc, t, pc', hpc, hstatement, rfl⟩ := engineStep_statement ha hstep
      obtain ⟨hlog, hlength, hitems⟩ := hstatement.unfinished hpc
      have hset := tally_set (f := WorkerPc.busyCount) pc' hpc
      refine ⟨hlength.trans h.length_queue, ?_, ?_⟩
      · rw [List.length_set]
        exact h.length_workers
      · show t.logEnqueued.length = _ + t.queuedItems
          + tally WorkerPc.busyCount (s.workers.set w pc')
        have henqueued := h.enqueued
        rw [hlog]
        omega
  | none =>
      have hzero : finishes s a = 0 := by
        cases a <;> simp [Action.worker?] at ha <;> rfl
      rw [hzero, Nat.add_zero]
      rcases engineStep_other ha hstep with ⟨t, wall, -, hmain⟩ | ⟨-, -, rfl⟩ | ⟨-, rfl⟩ |
        ⟨ts, iso, -, rfl⟩
      · have hitems := mainStep_queuedItems hmain
        have henqueued := h.enqueued
        refine ⟨?_, ?_, ?_⟩
        · rcases mainStep_room hmain with hsame | ⟨hroom, x, hput⟩
          · rw [hsame]
            exact h.length_queue
          · rw [hput, List.length_append, List.length_singleton]
            exact hroom
        · rw [(mainStep_keeps hmain).workers]
          exact h.length_workers
        · rw [(mainStep_keeps hmain).workers]
          omega
      · exact ⟨h.length_queue, h.length_workers, h.enqueued⟩
      · exact ⟨h.length_queue, h.length_workers, h.enqueued⟩
      · exact ⟨h.length_queue, h.length_workers, h.enqueued⟩

/-- **An item that was enqueued and is not finished is in the queue or with a worker.** -/
theorem unfinished_of_run {g : LoadGenerator η} {plan : List Step} {as : List Action} {s : State η}
    (hrun : (engine g plan).run (engineInit g plan) as = some s) :
    Unfinished g s ((engine g plan).cost finishes (engineInit g plan) as) := by
  have h := System.run_of_preserves_cost (M := engine g plan) (c := finishes)
    (I := fun s finished => Unfinished g s finished)
    (fun s b a s' hI hstep => unfinished_step hI hstep) (unfinished_init plan) hrun
  rwa [Nat.zero_add] at h

theorem tally_le_length {f : WorkerPc → Nat} (hf : ∀ pc, f pc ≤ 1) (pool : List WorkerPc) :
    tally f pool ≤ pool.length := by
  induction pool with
  | nil => exact le_rfl
  | cons pc pool ih =>
      rw [tally_cons, List.length_cons]
      have := hf pc
      omega

/-! ## The bounds -/

/-- How much work is in the engine in state `s`, when `finished` items are done. -/
structure InflightBound (g : LoadGenerator η) (s : State η) (finished places : Nat) : Prop where
  inflight_eq : s.metrics.inflight = (tally WorkerPc.inflightCount s.workers : Nat)
  inflight_nonneg : 0 ≤ s.metrics.inflight
  inflight_le : s.metrics.inflight ≤ g.workers
  workers_le : g.workers ≤ g.maxInflight
  unfinished_le : s.logEnqueued.length ≤ finished + (places + g.workers)

/-- The engine has the workers and the bound of the loaded configuration. -/
structure Configured (cfg : Config.GeneratorConfig) (run : RunConfig ρ) : Prop where
  workers : (run.workers : Int) = cfg.workload.workers
  maxInflight : (run.maxInflight : Int) = cfg.workload.maxInflight

/-- **The in-flight bound.** The gauge counts the workers inside an export, and the items that are
enqueued and not finished fit into the queue and the hands of the workers. -/
theorem inflight_bound {fl : FloatFormat} {environ : String → Option String} {path : String}
    {doc : Config.Value} {profile : String} {overrides : Config.Items}
    {cfg : Config.GeneratorConfig}
    (hload : Config.load fl environ path doc profile overrides = .ok cfg) {run : RunConfig ρ}
    (hcfg : Configured cfg run) {g : LoadGenerator η} (hlaunch : launch η run = some g)
    {plan : List Step} {as : List Action} {s : State η}
    (hrun : (engine g plan).run (engineInit g plan) as = some s) :
    InflightBound g s ((engine g plan).cost finishes (engineInit g plan) as)
      (max 1 run.maxInflight) := by
  obtain ⟨factory, -, hpool, hg⟩ := launch_eq_some hlaunch
  obtain ⟨raw, gen, prof, merged, rawSteps, hloaded⟩ := Config.load_loaded hload
  have hle : cfg.workload.workers ≤ cfg.workload.maxInflight :=
    (Config.loadWorkload_from hloaded.workload_eq).workers_le
  have hworkers : g.workers = run.workers := by rw [hg]
  have hmax : g.maxInflight = run.maxInflight := by rw [hg]
  have hun := unfinished_of_run hrun
  have hreach : (engine g plan).Reachable s := ⟨as, hrun⟩
  have hgauge := inflight_eq hreach
  rw [(launch_launched hlaunch).inflight_eq, zero_add] at hgauge
  have hcalls : tally WorkerPc.inflightCount s.workers ≤ s.workers.length :=
    tally_le_length (fun pc => by unfold WorkerPc.inflightCount; split <;> omega) _
  have hbusy : tally WorkerPc.busyCount s.workers ≤ s.workers.length :=
    tally_le_length (fun pc => by unfold WorkerPc.busyCount; split <;> omega) _
  have hitems : s.queuedItems ≤ s.queue.length := List.countP_le_length
  have hqueue := hun.length_queue
  have henqueued := hun.enqueued
  rw [hun.length_workers] at hcalls hbusy
  have hcapacity : g.queueCapacity = max 1 run.maxInflight := by
    rw [LoadGenerator.queueCapacity, hmax]
  refine ⟨hgauge, by omega, by omega, ?_, by omega⟩
  have hw := hcfg.workers
  have hm := hcfg.maxInflight
  omega

/-- A workload with this number of workers and this bound. -/
def boundedWorkload (workers maxInflight : Config.Value) : Config.Items :=
  [Config.entry "target_rps" (.int 100), Config.entry "workers" workers,
    Config.entry "max_inflight" maxInflight]

/-- Three batches of two records: both workers are exporting, and one of them has booked a batch
    before. -/
def twoExporting : List Action :=
  mainRuns 13 0 ++ mainRuns 9 1 ++ mainRuns 9 2 ++ workerExports 0 2 ++ workerExports 1 2 ++
    workerAcked 0 ++ workerExports 0 2

/-- The bound with two workers, both exporting. -/
theorem inflight_bound_twoWorkers :
    ∃ (cfg : Config.GeneratorConfig) (g : LoadGenerator BenchSeq) (s : State BenchSeq),
      Config.loadSmall (boundedWorkload (.int 2) (.int 3)) [] [] = .ok cfg ∧
      Configured cfg (plainConfig 2 2 3) ∧ s.metrics.inflight = 2 ∧
      InflightBound g s ((engine g [⟨0, 2, 10⟩]).cost finishes (engineInit g [⟨0, 2, 10⟩])
        twoExporting) 3 := by
  obtain ⟨cfg, hload, hP⟩ := Config.exists_of_loadSmall (boundedWorkload (.int 2) (.int 3)) [] []
    (P := fun cfg => cfg.workload.workers = 2 ∧ cfg.workload.maxInflight = 3) (by decide +kernel)
  obtain ⟨hworkers, hmax⟩ := of_decide_eq_true hP
  obtain ⟨g, s, hg, hrun, hinflight⟩ := exists_of_runFrom
    (launch BenchSeq (plainConfig 2 2 3)) [⟨0, 2, 10⟩] twoExporting
    (P := fun s => s.metrics.inflight = 2) (by decide +kernel)
  have hcfg : Configured cfg (plainConfig 2 2 3) := ⟨hworkers.symm, hmax.symm⟩
  exact ⟨cfg, g, s, hload, hcfg, of_decide_eq_true hinflight, inflight_bound hload hcfg hg hrun⟩

/-- A bound below one is accepted and truncated to zero, and yet the queue has a place. -/
theorem not_inflight_bound_half :
    ¬ ∀ (environ : String → Option String) (path : String) (doc : Config.Value) (profile : String)
        (overrides : Config.Items) (cfg : Config.GeneratorConfig) (run : RunConfig Unit)
        (g : LoadGenerator BenchSeq) (plan : List Step) (as : List Action) (s : State BenchSeq),
      Config.load .binary64 environ path doc profile overrides = .ok cfg → Configured cfg run →
      launch BenchSeq run = some g → (engine g plan).run (engineInit g plan) as = some s →
      InflightBound g s ((engine g plan).cost finishes (engineInit g plan) as)
        run.maxInflight := by
  intro h
  obtain ⟨cfg, hload, hP⟩ := Config.exists_of_loadSmall
    (boundedWorkload (.float (.fin (1 / 2))) (.float (.fin (1 / 2)))) [] []
    (P := fun cfg => cfg.workload.workers = 0 ∧ cfg.workload.maxInflight = 0) (by decide +kernel)
  obtain ⟨hworkers, hmax⟩ := of_decide_eq_true hP
  obtain ⟨g, s, hg, hrun, hP⟩ := exists_of_runFrom
    (launch BenchSeq (plainConfig 1 0 0)) [⟨0, 1, 1⟩] (mainRuns 9 0)
    (P := fun s => s.logEnqueued.length = 1 ∧ s.queuedItems = 1) (by decide +kernel)
  obtain ⟨henqueued, hqueued⟩ := of_decide_eq_true hP
  have hbound := (h _ _ _ _ _ cfg (plainConfig 1 0 0) g _ _ s hload ⟨hworkers.symm, hmax.symm⟩
    hg hrun).unfinished_le
  have hun := (unfinished_of_run hrun).enqueued
  obtain ⟨factory, -, hpool, hg⟩ := launch_eq_some hg
  have hnone : g.workers = 0 := by
    rw [hg]
    rfl
  have hplaces : (plainConfig 1 0 0).maxInflight = 0 := rfl
  omega

end AnalyticsTesting.Generator
