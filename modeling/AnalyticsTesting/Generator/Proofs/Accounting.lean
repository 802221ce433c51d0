import AnalyticsTesting.Lib.Ledger
import AnalyticsTesting.Generator.Proofs.Pacing
import Mathlib.Data.List.ReduceOption
import Mathlib.Data.Multiset.Bind

set_option autoImplicit false

/-! # Where the work items are

Every item the pacer puts goes through the same stages: it is handed to the exporter, its outcome
is counted by `Metrics`, and then by the step's `StepResult`. For each stage the items issued so
far are in the queue, in the hands of a worker that has not reached the stage, past the stage, or
lost to an exception. `State.ledger` reads these off a state, and `engine_simulates_ledger` says
that the engine moves them as `Ledger.Step` allows; the balance of the ledger follows for every
reachable state. -/

namespace AnalyticsTesting.Generator

open Transition

variable {η : Type}

/-! ## Stages -/

/-- How far an item has come. -/
inductive Stage
  | handed
  | recorded
  | credited
  deriving DecidableEq

/-- The item a worker holds and has not brought to the stage yet. -/
def WorkerPc.toDo : Stage → WorkerPc → Option WorkItem
  | .handed, .exporting _ _ | .handed, .returned _ _ | .handed, .released _ _
  | .handed, .resetFailures _ _ | .handed, .credit _ _ => none
  | .recorded, .resetFailures _ _ | .recorded, .credit _ _ => none
  | _, pc => pc.item

/-- What a worker holds, as a share of the ledger. -/
def WorkerPc.share (st : Stage) (pc : WorkerPc) : Multiset WorkItem :=
  match pc.toDo st with
  | none => 0
  | some item => {item}

/-- The items past the stage. -/
def State.past (s : State η) : Stage → List WorkItem
  | .handed => s.logExports.map Export.item
  | .recorded => s.logRecorded.map Prod.fst
  | .credited => s.logCredited.map Prod.fst

/-- The items an exception kept from reaching the stage. -/
def State.lostBefore (s : State η) : Stage → List WorkItem
  | .handed => s.logUnstamped
  | .recorded | .credited => s.logUnstamped ++ s.logRaised

/-- The ledger of a state for one stage. -/
def State.ledger (st : Stage) (s : State η) : Ledger WorkItem where
  issued := ↑(s.logEnqueued.map Prod.fst)
  waiting := ↑s.queue.reduceOption
  held := tally (WorkerPc.share st) s.workers
  settled := ↑(s.past st)
  lost := ↑(s.lostBefore st)

theorem WorkerPc.share_of_toDo {st : Stage} {pc : WorkerPc} {item : WorkItem}
    (h : pc.toDo st = some item) : pc.share st = {item} := by
  simp [share, h]

theorem WorkerPc.share_of_toDo_none {st : Stage} {pc : WorkerPc} (h : pc.toDo st = none) :
    pc.share st = 0 := by
  simp [share, h]

theorem WorkerPc.toDo_of_item_none {pc : WorkerPc} (st : Stage) (h : pc.item = none) :
    pc.toDo st = none := by
  cases pc <;> first | (cases st <;> rfl) | simp [item] at h

/-- The shares of a pool after one of its workers has moved. -/
theorem tally_share_set {st : Stage} {pool : List WorkerPc} {w : Nat} {pc pc' : WorkerPc}
    (h : pool[w]? = some pc) (heq : pc'.toDo st = pc.toDo st) :
    tally (WorkerPc.share st) (pool.set w pc') = tally (WorkerPc.share st) pool := by
  have hset := tally_set (f := WorkerPc.share st) pc' h
  rw [show pc'.share st = pc.share st by simp only [WorkerPc.share, heq]] at hset
  exact add_right_cancel hset

theorem tally_share_take {st : Stage} {pool : List WorkerPc} {w : Nat} {pc pc' : WorkerPc}
    {item : WorkItem} (h : pool[w]? = some pc) (hpc : pc.toDo st = none)
    (hpc' : pc'.toDo st = some item) :
    tally (WorkerPc.share st) (pool.set w pc') = item ::ₘ tally (WorkerPc.share st) pool := by
  have hset := tally_set (f := WorkerPc.share st) pc' h
  rw [WorkerPc.share_of_toDo_none hpc, WorkerPc.share_of_toDo hpc', add_zero] at hset
  rw [hset, ← Multiset.singleton_add, add_comm]

theorem tally_share_leave {st : Stage} {pool : List WorkerPc} {w : Nat} {pc pc' : WorkerPc}
    {item : WorkItem} (h : pool[w]? = some pc) (hpc : pc.toDo st = some item)
    (hpc' : pc'.toDo st = none) :
    tally (WorkerPc.share st) pool = item ::ₘ tally (WorkerPc.share st) (pool.set w pc') := by
  have hset := tally_set (f := WorkerPc.share st) pc' h
  rw [WorkerPc.share_of_toDo hpc, WorkerPc.share_of_toDo_none hpc', add_zero] at hset
  rw [← hset, ← Multiset.singleton_add, add_comm]

/-! ## The engine moves items as a ledger allows -/

/-- A list that got one entry more, as a multiset. -/
theorem coe_concat {α : Type} (l : List α) (a : α) :
    ((l ++ [a] : List α) : Multiset α) = a ::ₘ (l : Multiset α) := by
  rw [← Multiset.coe_add, Multiset.coe_singleton, add_comm, Multiset.singleton_add]

/-- A worker's move that brings its item neither to the stage nor away from it. -/
theorem ledger_eq_of_move {st : Stage} {s t : State η} {w : Nat} {pc pc' : WorkerPc}
    (hpc : s.workers[w]? = some pc) (htoDo : pc'.toDo st = pc.toDo st)
    (hqueue : t.queue = s.queue) (henq : t.logEnqueued = s.logEnqueued)
    (hpast : t.past st = s.past st) (hlost : t.lostBefore st = s.lostBefore st) :
    State.ledger st { t with workers := s.workers.set w pc' } = State.ledger st s := by
  ext1
  · show ((t.logEnqueued.map Prod.fst : List WorkItem) : Multiset WorkItem) = _
    rw [henq]; rfl
  · show ((t.queue.reduceOption : List WorkItem) : Multiset WorkItem) = _
    rw [hqueue]; rfl
  · exact tally_share_set hpc htoDo
  · show ((t.past st : List WorkItem) : Multiset WorkItem) = _
    rw [hpast]; rfl
  · show ((t.lostBefore st : List WorkItem) : Multiset WorkItem) = _
    rw [hlost]; rfl

/-- A worker's move that brings its item to the stage. -/
theorem ledger_settle {st : Stage} {s t : State η} {w : Nat} {pc pc' : WorkerPc} {item : WorkItem}
    (hpc : s.workers[w]? = some pc) (htoDo : pc.toDo st = some item) (htoDo' : pc'.toDo st = none)
    (hqueue : t.queue = s.queue) (henq : t.logEnqueued = s.logEnqueued)
    (hpast : t.past st = s.past st ++ [item]) (hlost : t.lostBefore st = s.lostBefore st) :
    Ledger.Step (State.ledger st s)
      (State.ledger st { t with workers := s.workers.set w pc' }) := by
  have hheld := tally_share_leave hpc htoDo htoDo'
  have heq : State.ledger st { t with workers := s.workers.set w pc' }
      = { State.ledger st s with
          held := tally (WorkerPc.share st) (s.workers.set w pc'),
          settled := item ::ₘ (State.ledger st s).settled } := by
    ext1
    · show ((t.logEnqueued.map Prod.fst : List WorkItem) : Multiset WorkItem) = _
      rw [henq]; rfl
    · show ((t.queue.reduceOption : List WorkItem) : Multiset WorkItem) = _
      rw [hqueue]; rfl
    · rfl
    · show ((t.past st : List WorkItem) : Multiset WorkItem) = _
      rw [hpast, coe_concat]; rfl
    · show ((t.lostBefore st : List WorkItem) : Multiset WorkItem) = _
      rw [hlost]; rfl
  rw [heq]
  exact .settle _ item _ hheld

/-- A worker's move that loses its item. -/
theorem ledger_lose {st : Stage} {s t : State η} {w : Nat} {pc pc' : WorkerPc} (item : WorkItem)
    (hpc : s.workers[w]? = some pc) (htoDo : pc.toDo st = some item) (htoDo' : pc'.toDo st = none)
    (hqueue : t.queue = s.queue) (henq : t.logEnqueued = s.logEnqueued)
    (hpast : t.past st = s.past st)
    (hlost : (t.lostBefore st : Multiset WorkItem)
      = item ::ₘ (s.lostBefore st : Multiset WorkItem)) :
    Ledger.Step (State.ledger st s)
      (State.ledger st { t with workers := s.workers.set w pc' }) := by
  have hheld := tally_share_leave hpc htoDo htoDo'
  have heq : State.ledger st { t with workers := s.workers.set w pc' }
      = { State.ledger st s with
          held := tally (WorkerPc.share st) (s.workers.set w pc'),
          lost := item ::ₘ (State.ledger st s).lost } := by
    ext1
    · show ((t.logEnqueued.map Prod.fst : List WorkItem) : Multiset WorkItem) = _
      rw [henq]; rfl
    · show ((t.queue.reduceOption : List WorkItem) : Multiset WorkItem) = _
      rw [hqueue]; rfl
    · rfl
    · show ((t.past st : List WorkItem) : Multiset WorkItem) = _
      rw [hpast]; rfl
    · exact hlost
  rw [heq]
  exact .lose _ item _ hheld

theorem past_eq_of_keeps {s s' : State η} (h : MainKeeps s s') (st : Stage) :
    s'.past st = s.past st := by
  cases st with
  | handed => simp only [State.past, h.logExports]
  | recorded => simp only [State.past, h.logRecorded]
  | credited => simp only [State.past, h.logCredited]

theorem lostBefore_eq_of_keeps {s s' : State η} (h : MainKeeps s s') (st : Stage) :
    s'.lostBefore st = s.lostBefore st := by
  cases st <;> simp only [State.lostBefore, h.logUnstamped, h.logRaised]

variable [SeqHandle η]

/-- **One move of a worker**, as the ledger of any stage sees it. -/
theorem WorkerMove.ledger {g : LoadGenerator η} {s t : State η} {w : Nat} {pc pc' : WorkerPc}
    (h : WorkerMove g s w pc t pc') (hpc : s.workers[w]? = some pc) (st : Stage) :
    State.ledger st { t with workers := s.workers.set w pc' } = State.ledger st s ∨
      Ledger.Step (State.ledger st s)
        (State.ledger st { t with workers := s.workers.set w pc' }) := by
  cases h with
  | sentinel queue hq =>
      -- a sentinel is no item, so nothing moves between the stages
      refine Or.inl ?_
      ext1
      · rfl
      · show ((queue.reduceOption : List WorkItem) : Multiset WorkItem)
          = (s.queue.reduceOption : Multiset WorkItem)
        rw [hq, List.reduceOption_cons_of_none]
      · exact tally_share_set hpc (by cases st <;> rfl)
      · cases st <;> rfl
      · cases st <;> rfl
  | take item queue hq =>
      have hwaiting : (State.ledger st s).waiting
          = item ::ₘ (queue.reduceOption : Multiset WorkItem) := by
        show (s.queue.reduceOption : Multiset WorkItem) = _
        rw [hq, List.reduceOption_cons_of_some]
        rfl
      have hheld : tally (WorkerPc.share st) (s.workers.set w (.got item))
          = item ::ₘ tally (WorkerPc.share st) s.workers :=
        tally_share_take hpc (by cases st <;> rfl) (by cases st <;> rfl)
      refine Or.inr ?_
      have heq : State.ledger st { s with queue, workers := s.workers.set w (.got item) }
          = { State.ledger st s with
              waiting := queue.reduceOption,
              held := item ::ₘ (State.ledger st s).held } := by
        ext1
        · rfl
        · rfl
        · exact hheld
        · cases st <;> rfl
        · cases st <;> rfl
      rw [heq]
      exact .take _ item _ hwaiting
  | stampRaises item nowNs k u hget hk hstamp =>
      refine Or.inr (ledger_lose item hpc (by cases st <;> rfl) (by cases st <;> rfl)
        rfl rfl (by cases st <;> rfl) ?_)
      cases st with
      | handed => exact coe_concat _ _
      | recorded | credited =>
          show ((s.logUnstamped ++ [item] ++ s.logRaised : List WorkItem) : Multiset WorkItem)
            = ((item :: (s.logUnstamped ++ s.logRaised) : List WorkItem) : Multiset WorkItem)
          rw [List.append_assoc, Multiset.coe_eq_coe]
          exact List.perm_middle
  | call item u hget =>
      -- each settling move settles one stage and is only bookkeeping to the other two
      cases st with
      | handed =>
          exact Or.inr (ledger_settle hpc rfl rfl rfl rfl (by simp [State.past]) rfl)
      | recorded | credited => exact Or.inl (ledger_eq_of_move hpc rfl rfl rfl rfl rfl)
  | raised item =>
      cases st with
      | handed => exact Or.inl (ledger_eq_of_move hpc rfl rfl rfl rfl rfl)
      | recorded | credited =>
          refine Or.inr (ledger_lose item hpc rfl rfl rfl rfl rfl ?_)
          show ((s.logUnstamped ++ (s.logRaised ++ [item]) : List WorkItem) : Multiset WorkItem)
            = item ::ₘ ((s.logUnstamped ++ s.logRaised : List WorkItem) : Multiset WorkItem)
          rw [← List.append_assoc, coe_concat]
  | success item r hok =>
      cases st with
      | recorded => exact Or.inr (ledger_settle hpc rfl rfl rfl rfl (by simp [State.past]) rfl)
      | handed | credited => exact Or.inl (ledger_eq_of_move hpc rfl rfl rfl rfl rfl)
  | failure item r hok =>
      cases st with
      | recorded => exact Or.inr (ledger_settle hpc rfl rfl rfl rfl (by simp [State.past]) rfl)
      | handed | credited => exact Or.inl (ledger_eq_of_move hpc rfl rfl rfl rfl rfl)
  | credit item r =>
      have hafter := WorkerPc.toDo_of_item_none st (afterCredit_item g r)
      cases st with
      | credited =>
          exact Or.inr (ledger_settle hpc rfl hafter rfl rfl (by simp [State.past, State.credit])
            rfl)
      | handed | recorded => exact Or.inl (ledger_eq_of_move hpc hafter rfl rfl rfl rfl)
  | bookkeep pc pc' failures abortReason stop hitem hitem' hne hstopped =>
      refine Or.inl (ledger_eq_of_move hpc ?_ rfl rfl (by cases st <;> rfl) (by cases st <;> rfl))
      rw [WorkerPc.toDo_of_item_none st hitem, WorkerPc.toDo_of_item_none st hitem']
  | _ =>
      exact Or.inl (ledger_eq_of_move hpc (by cases st <;> rfl) rfl rfl (by cases st <;> rfl)
        (by cases st <;> rfl))

/-- The main thread issues items, one `put` at a time. -/
theorem mainStep_ledger {g : LoadGenerator η} {s s' : State η} {t wall : ℚ}
    (h : mainStep g s t wall = some s') (st : Stage) :
    State.ledger st s' = State.ledger st s ∨
      Ledger.Step (State.ledger st s) (State.ledger st s') := by
  have hkeeps := mainStep_keeps h
  have hheld : (State.ledger st s').held = (State.ledger st s).held := by
    show tally _ s'.workers = tally _ s.workers
    rw [hkeeps.workers]
  have hsettled : (State.ledger st s').settled = (State.ledger st s).settled := by
    show (s'.past st : Multiset WorkItem) = (s.past st : Multiset WorkItem)
    rw [past_eq_of_keeps hkeeps]
  have hlost : (State.ledger st s').lost = (State.ledger st s).lost := by
    show (s'.lostBefore st : Multiset WorkItem) = (s.lostBefore st : Multiset WorkItem)
    rw [lostBefore_eq_of_keeps hkeeps]
  rcases mainStep_queue h with ⟨hq, henq⟩ | ⟨hq, henq⟩ | ⟨f, item, t₀, -, -, hq, henq⟩
  · refine Or.inl (Ledger.ext ?_ ?_ hheld hsettled hlost)
    · show ((s'.logEnqueued.map Prod.fst : List WorkItem) : Multiset WorkItem) = _
      rw [henq]; rfl
    · show (s'.queue.reduceOption : Multiset WorkItem) = _
      rw [hq]; rfl
  · refine Or.inl (Ledger.ext ?_ ?_ hheld hsettled hlost)
    · show ((s'.logEnqueued.map Prod.fst : List WorkItem) : Multiset WorkItem) = _
      rw [henq]; rfl
    · show (s'.queue.reduceOption : Multiset WorkItem) = (s.queue.reduceOption : Multiset WorkItem)
      rw [hq, List.reduceOption_append]
      simp
  · refine Or.inr ?_
    have heq : State.ledger st s'
        = { State.ledger st s with
            issued := item ::ₘ (State.ledger st s).issued,
            waiting := item ::ₘ (State.ledger st s).waiting } := by
      refine Ledger.ext ?_ ?_ hheld hsettled hlost
      · show ((s'.logEnqueued.map Prod.fst : List WorkItem) : Multiset WorkItem) = _
        rw [henq, List.map_append]
        exact coe_concat _ _
      · show (s'.queue.reduceOption : Multiset WorkItem) = _
        rw [hq, List.reduceOption_append]
        exact coe_concat _ _
    rw [heq]
    exact .issue _ item

/-- **The engine moves its items as a ledger allows**, at every stage. -/
theorem engine_simulates_ledger (g : LoadGenerator η) (plan : List Step) (st : Stage) :
    (engine g plan).Simulates (State.ledger st) Ledger.Step := by
  intro s a s' hstep
  rcases engineStep_cases hstep with ⟨t, wall, -, hmain⟩ | ⟨-, hidle, rfl⟩ | ⟨-, rfl⟩ |
    ⟨ts, iso, -, rfl⟩ | ⟨w, pc, u, pc', -, hpc, hmove, rfl⟩
  · exact mainStep_ledger hmain st
  · exact Or.inl (by cases st <;> rfl)
  · exact Or.inl (by cases st <;> rfl)
  · exact Or.inl (by cases st <;> rfl)
  · exact hmove.ledger hpc st

theorem engineInit_balanced (g : LoadGenerator η) (plan : List Step) (st : Stage) :
    (State.ledger st (engineInit g plan)).Balanced := by
  have hheld : tally (WorkerPc.share st) (List.replicate g.workers .waiting) = 0 :=
    tally_replicate_zero (by cases st <;> rfl) _
  cases st <;>
    simp [Ledger.Balanced, State.ledger, engineInit, State.past, State.lostBefore, hheld]

/-- **Nothing the pacer put disappears**: in every reachable state an item is queued, held, past
the stage or lost to an exception. -/
theorem ledger_balanced {g : LoadGenerator η} {plan : List Step} {s : State η}
    (h : (engine g plan).Reachable s) (st : Stage) : (State.ledger st s).Balanced :=
  (engine_simulates_ledger g plan st).reachable (engineInit_balanced g plan st)
    (fun _ _ hI hstep => hstep.balanced hI) h

/-! ## Items past a stage -/

section Past

variable {g : LoadGenerator η} {plan : List Step} {s : State η}

/-- What is past a stage was put by the pacer. -/
theorem enqueued_of_past (h : (engine g plan).Reachable s) {st : Stage} {item : WorkItem}
    (hitem : item ∈ s.past st) : item ∈ s.logEnqueued.map Prod.fst := by
  have hle := (ledger_balanced h st).settled_le
  exact Multiset.mem_coe.1 (Multiset.mem_of_le hle (Multiset.mem_coe.2 hitem))

theorem recordCount_of_past (h : (engine g plan).Reachable s) {st : Stage} {item : WorkItem}
    (hitem : item ∈ s.past st) : item.recordCount = g.factory.batchSize := by
  obtain ⟨x, hx, rfl⟩ := List.mem_map.1 (enqueued_of_past h hitem)
  exact (paced_of_reachable h).recordCount_eq x hx

/-- **No number is past a stage twice**: an item put once is past it once at most. -/
theorem numbers_nodup_of_past (hbatch : g.factory.batchSize ≤ g.batchSize)
    (h : (engine g plan).Reachable s) (st : Stage) :
    ((s.past st).flatMap WorkItem.numbers).Nodup := by
  have hle : (s.past st : Multiset WorkItem) ≤ (s.logEnqueued.map Prod.fst : List WorkItem) :=
    (ledger_balanced h st).settled_le
  obtain ⟨rest, hrest⟩ := Multiset.le_iff_exists_add.1 hle
  have hnodup := (paced_of_reachable h).numbers_nodup hbatch
  rw [← Multiset.coe_nodup, ← Multiset.coe_bind] at hnodup
  have hsplit : ((s.logEnqueued.map Prod.fst : List WorkItem) : Multiset WorkItem).bind
        (fun item => (item.numbers : Multiset Nat))
      = ((s.past st).flatMap WorkItem.numbers : List Nat)
        + rest.bind fun item => (item.numbers : Multiset Nat) := by
    rw [hrest, Multiset.add_bind, Multiset.coe_bind]
  exact Multiset.coe_nodup.1
    (Multiset.nodup_of_le (Multiset.le_add_right _ _) (hsplit ▸ hnodup))

end Past

end AnalyticsTesting.Generator
