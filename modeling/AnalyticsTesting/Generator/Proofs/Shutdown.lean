import AnalyticsTesting.Lib.Ledger
import AnalyticsTesting.Generator.Main
import AnalyticsTesting.Generator.Proofs.Moves

set_option autoImplicit false

/-! # What `stop` leaves behind

`stop` puts one sentinel for each worker behind whatever is still in the queue, without waiting, and
passes over a full queue. Every sentinel that went in ends exactly one worker, after the items in
front of it (`inOrder_of_reachable`), so a shutdown leaves no worker waiting exactly if none of the
puts found the queue full (`shutsDown_iff`). -/

namespace AnalyticsTesting.Generator

open Transition

variable {η : Type} [SeqHandle η] {g : LoadGenerator η}

/-! ## Sentinels -/

def WorkerPc.exitedCount (pc : WorkerPc) : Nat := if pc = .exited then 1 else 0

/-- The workers that have taken a sentinel. -/
def State.exited (s : State η) : Nat := tally WorkerPc.exitedCount s.workers

/-- The sentinels that went into the queue: they are still there, or a worker has taken them. -/
def State.sentinels (s : State η) : Nat := s.queue.countP Option.isNone + s.exited

/-- How many of the puts of `stop` the main thread has behind it. -/
def MainPc.putsDone (workers : Nat) : MainPc → Nat
  | .stopPut k _ => k
  | .stopJoin _ _ | .closed _ => workers
  | _ => 0

/-- The main thread is putting sentinels, or has put them. -/
def MainPc.stopping : MainPc → Bool
  | .stopPut _ _ | .stopJoin _ _ | .closed _ => true
  | _ => false

/-- All puts of `stop` are over. -/
def MainPc.pastPuts : MainPc → Bool
  | .stopJoin _ _ | .closed _ => true
  | _ => false

/-- If the step is a put of `stop`, the queue has room. -/
def RoomForSentinel (g : LoadGenerator η) (s : State η) (a : Action) : Prop :=
  ∀ t wall k failed, a = .main t wall → s.main = .stopPut k failed → k < s.workers.length →
    s.queue.length < g.queueCapacity

/-! ## The steps of a shutdown -/

/-- A put of `stop`, and the last look at the list of workers. -/
theorem mainStep_stopPut {s s' : State η} {t wall : ℚ} {k : Nat} {failed : Bool}
    (hmain : s.main = .stopPut k failed) (h : mainStep g s t wall = some s') :
    (k < s.workers.length ∧ s.queue.length < g.queueCapacity ∧
      s' = { s with queue := s.queue ++ [none], main := .stopPut (k + 1) failed }) ∨
    (k < s.workers.length ∧ ¬ s.queue.length < g.queueCapacity ∧
      s' = { s with main := .stopPut (k + 1) failed }) ∨
    (¬ k < s.workers.length ∧ s' = { s with main := .stopJoin 0 failed }) := by
  simp only [mainStep, hmain] at h
  split at h
  · simp at h
  · split at h
    · next hk =>
        obtain rfl := Option.some.inj h
        by_cases hroom : s.queue.length < g.queueCapacity
        · exact Or.inl ⟨hk, hroom, by simp [hroom]⟩
        · exact Or.inr (Or.inl ⟨hk, hroom, by simp [hroom]⟩)
    · next hk => exact Or.inr (Or.inr ⟨hk, (Option.some.inj h).symm⟩)

/-- The other statements put no sentinel, and put items only as long as the engine runs. -/
theorem mainStep_of_not_stopPut {s s' : State η} {t wall : ℚ}
    (hmain : ∀ k failed, s.main ≠ .stopPut k failed) (h : mainStep g s t wall = some s') (n : Nat) :
    s'.main.putsDone n = s.main.putsDone n ∧
      (s.main.stopping = true → s'.main.stopping = true) ∧
      (s'.queue = s.queue ∨
        (s.main.stopping = false ∧ s'.main.stopping = false ∧
          ∃ item, s'.queue = s.queue ++ [some item])) := by
  have hmove := (mainStep_move h).2
  generalize s.main = pc at hmove hmain
  cases hmove with
  | put f item since => exact ⟨rfl, by simp [MainPc.stopping], Or.inr ⟨rfl, rfl, item, rfl⟩⟩
  | stopPut k failed hroom => exact absurd rfl (hmain k failed)
  | stopPutFull k failed => exact absurd rfl (hmain k failed)
  | stopPutDone k failed => exact absurd rfl (hmain k failed)
  | measure f item since enqueued hshort =>
      cases enqueued <;> exact ⟨rfl, by simp [MainPc.stopping], Or.inl rfl⟩
  | creditStall f item enqueued stalled =>
      cases enqueued <;> exact ⟨rfl, by simp [MainPc.stopping], Or.inl rfl⟩
  | _ => exact ⟨rfl, by simp [MainPc.stopping], Or.inl rfl⟩

/-- A worker takes a sentinel and exits, or it takes the item at the head, or it leaves the queue
    alone; in the last two cases it has not exited. -/
theorem WorkerStatement.sentinels {s t : State η} {w : Nat} {a : Action} {pc pc' : WorkerPc}
    (h : WorkerStatement g s w a pc t pc') :
    t.main = s.main ∧
      ((s.queue = none :: t.queue ∧ pc.exitedCount = 0 ∧ pc'.exitedCount = 1) ∨
        (pc.exitedCount = 0 ∧ pc'.exitedCount = 0 ∧
          (t.queue = s.queue ∨ ∃ item, s.queue = some item :: t.queue))) := by
  cases h with
  | readClock item nowNs => exact ⟨rfl, Or.inr ⟨rfl, rfl, Or.inl rfl⟩⟩
  | serialize item u hget => exact ⟨rfl, Or.inr ⟨rfl, rfl, Or.inl rfl⟩⟩
  | exportReturns item sent outcome => exact ⟨rfl, Or.inr ⟨rfl, rfl, Or.inl rfl⟩⟩
  | own pc pc' t h =>
      have hbusy : ∀ q : WorkerPc, q.busy = true → q.exitedCount = 0 := by
        intro q hq
        refine if_neg ?_
        rintro rfl
        simp [WorkerPc.busy] at hq
      cases workerStep_move h with
      | sentinel queue hqueue => exact ⟨rfl, Or.inl ⟨hqueue, rfl, rfl⟩⟩
      | take item queue hqueue => exact ⟨rfl, Or.inr ⟨rfl, rfl, Or.inr ⟨item, hqueue⟩⟩⟩
      | credit item r =>
          exact ⟨rfl, Or.inr ⟨rfl, hbusy _ (afterCredit_busy g r), Or.inl rfl⟩⟩
      | bookkeep pc pc' failures abortReason stop hitem hitem' hne hstopped =>
          obtain ⟨hpc, ⟨-, rfl⟩ | ⟨-, hpc'⟩⟩ := workerStep_busy h hitem hne
          · exact ⟨rfl, Or.inr ⟨hbusy _ hpc, rfl, Or.inl rfl⟩⟩
          · exact ⟨rfl, Or.inr ⟨hbusy _ hpc, hbusy _ hpc', Or.inl rfl⟩⟩
      | _ => exact ⟨rfl, Or.inr ⟨rfl, rfl, Or.inl rfl⟩⟩

/-- What a step of a worker does to the queue and to the number of workers that have exited. -/
theorem worker_sentinels {s s' : State η} {a : Action} {w : Nat} (ha : a.worker? = some w)
    (hstep : engineStep g s a = some s') :
    s'.main = s.main ∧ s'.workers.length = s.workers.length ∧
      ((s.queue = none :: s'.queue ∧ s'.exited = s.exited + 1) ∨
        (s'.exited = s.exited ∧
          (s'.queue = s.queue ∨ ∃ item, s.queue = some item :: s'.queue))) := by
  obtain ⟨pc, t, pc', hpc, hstatement, rfl⟩ := engineStep_statement ha hstep
  have hset : tally WorkerPc.exitedCount (s.workers.set w pc') + pc.exitedCount
      = tally WorkerPc.exitedCount s.workers + pc'.exitedCount := tally_set pc' hpc
  obtain ⟨hmain, ⟨hhead, hcount, hcount'⟩ | ⟨hcount, hcount', hqueue⟩⟩ := hstatement.sentinels
  · exact ⟨hmain, List.length_set, Or.inl ⟨hhead, by rw [hcount, hcount'] at hset; exact hset⟩⟩
  · exact ⟨hmain, List.length_set, Or.inr ⟨by rw [hcount, hcount'] at hset; exact hset, hqueue⟩⟩

/-! ## Items before sentinels -/

/-- The sentinels stand behind the items, there are none as long as the engine runs, and where a
    worker has taken one no item is left. -/
def InOrder (s : State η) : Prop :=
  ∃ (items : List WorkItem) (k : Nat), s.queue = items.map some ++ List.replicate k none ∧
    (s.main.stopping = false → k = 0 ∧ s.exited = 0) ∧ (s.exited ≠ 0 → items = [])

theorem inOrder_worker {s s' : State η} {a : Action} {w : Nat} (h : InOrder s)
    (ha : a.worker? = some w) (hstep : engineStep g s a = some s') : InOrder s' := by
  obtain ⟨items, k, hqueue, hrunning, hlast⟩ := h
  obtain ⟨hmain, -, ⟨hhead, hexited⟩ | ⟨hexited, hsame | ⟨item, hhead⟩⟩⟩ :=
    worker_sentinels ha hstep
  · cases items with
    | cons item items => simp [hqueue] at hhead
    | nil =>
        cases k with
        | zero => simp [hqueue] at hhead
        | succ k =>
            rw [hqueue, List.map_nil, List.nil_append, List.replicate_succ] at hhead
            refine ⟨[], k, (List.cons.inj hhead).2.symm, fun hs => ?_, fun _ => rfl⟩
            -- a sentinel is there, so the engine is stopping
            rw [hmain] at hs
            have := (hrunning hs).1
            omega
  · refine ⟨items, k, hsame.trans hqueue, ?_, ?_⟩
    · rw [hmain, hexited]
      exact hrunning
    · rw [hexited]
      exact hlast
  · cases items with
    | nil => cases k <;> simp [hqueue, List.replicate_succ] at hhead
    | cons first items =>
        rw [hqueue, List.map_cons, List.cons_append] at hhead
        refine ⟨items, k, (List.cons.inj hhead).2.symm, ?_, ?_⟩
        · rw [hmain, hexited]
          exact hrunning
        · rw [hexited]
          exact fun hne => absurd (hlast hne) (by simp)

theorem inOrder_main {s s' : State η} {t wall : ℚ} (h : InOrder s)
    (hstep : mainStep g s t wall = some s') : InOrder s' := by
  obtain ⟨items, k, hqueue, hrunning, hlast⟩ := h
  have hexited : s'.exited = s.exited := by
    unfold State.exited
    rw [(mainStep_keeps hstep).workers]
  by_cases hput : ∃ j failed, s.main = .stopPut j failed
  · obtain ⟨j, failed, hmain⟩ := hput
    rcases mainStep_stopPut hmain hstep with ⟨-, -, rfl⟩ | ⟨-, -, rfl⟩ | ⟨-, rfl⟩
    · refine ⟨items, k + 1, ?_, by simp [MainPc.stopping], hlast⟩
      show s.queue ++ [none] = _
      rw [hqueue, List.append_assoc, ← List.replicate_succ']
    · exact ⟨items, k, hqueue, by simp [MainPc.stopping], hlast⟩
    · exact ⟨items, k, hqueue, by simp [MainPc.stopping], hlast⟩
  · obtain ⟨-, hstopping, hsame | ⟨hrun, -, item, hitem⟩⟩ :=
      mainStep_of_not_stopPut (fun j failed hmain => hput ⟨j, failed, hmain⟩) hstep 0
    · refine ⟨items, k, hsame.trans hqueue, fun hs => ?_, by rwa [hexited]⟩
      rw [hexited]
      refine hrunning ?_
      cases hs' : s.main.stopping with
      | false => rfl
      | true => simp [hstopping hs'] at hs
    · obtain ⟨rfl, hzero⟩ := hrunning hrun
      refine ⟨items ++ [item], 0, ?_, fun _ => ⟨rfl, by rw [hexited, hzero]⟩, ?_⟩
      · rw [hitem, hqueue]
        simp
      · rw [hexited]
        exact fun hne => absurd hzero hne

theorem inOrder_of_reachable {plan : List Step} {s : State η} (h : (engine g plan).Reachable s) :
    InOrder s := by
  refine System.reachable_of_preserves (I := InOrder) ?_ (fun s a s' hI hstep => ?_) h
  · have hzero : (engine g plan).init.exited = 0 :=
      tally_replicate_zero (f := WorkerPc.exitedCount) rfl _
    exact ⟨[], 0, rfl, fun _ => ⟨rfl, hzero⟩, fun _ => rfl⟩
  · cases ha : a.worker? with
    | some w => exact inOrder_worker hI ha hstep
    | none =>
        rcases engineStep_other ha hstep with ⟨t, wall, -, hmain⟩ | ⟨-, hidle, rfl⟩ | ⟨-, rfl⟩ |
          ⟨ts, iso, -, rfl⟩
        · exact inOrder_main hI hmain
        · obtain ⟨items, k, hqueue, hrunning, hlast⟩ := hI
          exact ⟨items, k, hqueue, fun _ => hrunning (by rw [hidle]; rfl), hlast⟩
        · exact hI
        · exact hI

/-! ## The puts of `stop` -/

/-- The puts of `stop` that are over. -/
def State.puts (s : State η) : Nat := s.main.putsDone s.workers.length

variable (g) in
/-- What a step does to the sentinels: every put adds one, unless the queue is full, and nothing
    else adds or removes one. -/
structure PutsBalance (s : State η) (a : Action) (s' : State η) : Prop where
  workers : s'.workers.length = s.workers.length
  puts_le : s'.puts ≤ s.workers.length
  sentinels : (RoomForSentinel g s a ∧ s'.sentinels + s.puts = s.sentinels + s'.puts) ∨
    (¬ RoomForSentinel g s a ∧ s'.sentinels = s.sentinels ∧ s'.puts = s.puts + 1)

/-- Only the main thread puts sentinels. -/
theorem roomForSentinel_of_not_main {s : State η} {a : Action} (h : ∀ t wall, a ≠ .main t wall) :
    RoomForSentinel g s a := fun t wall _ _ ha => absurd ha (h t wall)

theorem putsBalance_worker {s s' : State η} {a : Action} {w : Nat} (ha : a.worker? = some w)
    (hle : s.puts ≤ s.workers.length) (hstep : engineStep g s a = some s') :
    PutsBalance g s a s' := by
  obtain ⟨hmain, hworkers, hqueue⟩ := worker_sentinels ha hstep
  have hroom : RoomForSentinel g s a := roomForSentinel_of_not_main fun t wall heq => by
    simp [heq, Action.worker?] at ha
  have hputs : s'.puts = s.puts := by rw [State.puts, hmain, hworkers, State.puts]
  have hsentinels : s'.sentinels = s.sentinels := by
    unfold State.sentinels
    rcases hqueue with ⟨hhead, hexited⟩ | ⟨hexited, hsame | ⟨item, hhead⟩⟩
    · simp [hhead, hexited]
      omega
    · rw [hexited, hsame]
    · simp [hhead, hexited]
  exact ⟨hworkers, by rwa [hputs], Or.inl ⟨hroom, by rw [hsentinels, hputs]⟩⟩

/-- A statement of the main thread in the loop of the puts. -/
theorem putsBalance_stopPut {s s' : State η} {t wall : ℚ} {j : Nat} {failed : Bool}
    (hpc : s.main = .stopPut j failed) (hle : s.puts ≤ s.workers.length)
    (hmain : mainStep g s t wall = some s') : PutsBalance g s (.main t wall) s' := by
  have hworkers : s'.workers = s.workers := (mainStep_keeps hmain).workers
  have hexited : s'.exited = s.exited := by rw [State.exited, hworkers, State.exited]
  have hputs : s.puts = j := by rw [State.puts, hpc]; rfl
  rw [hputs] at hle
  rcases mainStep_stopPut hpc hmain with ⟨hj, hroom, rfl⟩ | ⟨hj, hfull, rfl⟩ | ⟨hj, rfl⟩
  · refine ⟨rfl, hj, Or.inl ⟨fun _ _ _ _ _ _ _ => hroom, ?_⟩⟩
    rw [hputs, State.sentinels, hexited, State.sentinels]
    simp [State.puts, MainPc.putsDone]
    omega
  · refine ⟨rfl, hj, Or.inr ⟨fun hroom => hfull (hroom t wall j failed rfl hpc hj), ?_⟩⟩
    rw [hputs]
    exact ⟨rfl, rfl⟩
  · refine ⟨rfl, le_rfl, Or.inl ⟨?_, ?_⟩⟩
    · rintro t wall k failed' - hpc' hk
      obtain ⟨rfl, rfl⟩ := MainPc.stopPut.inj (hpc.symm.trans hpc')
      exact absurd hk hj
    · rw [hputs]
      show s.sentinels + j = s.sentinels + s.workers.length
      omega

/-- Another statement of the main thread. -/
theorem putsBalance_main {s s' : State η} {t wall : ℚ}
    (hpc : ∀ j failed, s.main ≠ .stopPut j failed) (hle : s.puts ≤ s.workers.length)
    (hmain : mainStep g s t wall = some s') : PutsBalance g s (.main t wall) s' := by
  have hworkers : s'.workers = s.workers := (mainStep_keeps hmain).workers
  have hexited : s'.exited = s.exited := by rw [State.exited, hworkers, State.exited]
  obtain ⟨hputs, -, hqueue⟩ := mainStep_of_not_stopPut hpc hmain s.workers.length
  have hputs' : s'.puts = s.puts := by rw [State.puts, hworkers, hputs, State.puts]
  refine ⟨by rw [hworkers], by rwa [hputs'], Or.inl ⟨?_, ?_⟩⟩
  · rintro t wall k failed - hk
    exact absurd hk (hpc k failed)
  · rw [hputs', State.sentinels, hexited, State.sentinels]
    rcases hqueue with hsame | ⟨-, -, item, hitem⟩
    · rw [hsame]
    · simp [hitem]

theorem putsBalance_step {s s' : State η} {a : Action} (hle : s.puts ≤ s.workers.length)
    (hstep : engineStep g s a = some s') : PutsBalance g s a s' := by
  cases ha : a.worker? with
  | some w => exact putsBalance_worker ha hle hstep
  | none =>
      rcases engineStep_other ha hstep with ⟨t, wall, rfl, hmain⟩ | ⟨rfl, hidle, rfl⟩ | ⟨rfl, rfl⟩ |
        ⟨ts, iso, rfl, rfl⟩
      · by_cases hput : ∃ j failed, s.main = .stopPut j failed
        · obtain ⟨j, failed, hpc⟩ := hput
          exact putsBalance_stopPut hpc hle hmain
        · exact putsBalance_main (fun j failed hpc => hput ⟨j, failed, hpc⟩) hle hmain
      · have hroom : RoomForSentinel g s .leave := roomForSentinel_of_not_main fun _ _ => by simp
        have hputs : s.puts = 0 := by rw [State.puts, hidle]; rfl
        exact ⟨rfl, Nat.zero_le _, Or.inl ⟨hroom, by rw [hputs]; rfl⟩⟩
      · have hroom : RoomForSentinel g s .signal := roomForSentinel_of_not_main fun _ _ => by simp
        exact ⟨rfl, hle, Or.inl ⟨hroom, rfl⟩⟩
      · have hroom : RoomForSentinel g s (.sample ts iso) :=
          roomForSentinel_of_not_main fun _ _ => by simp
        exact ⟨rfl, hle, Or.inl ⟨hroom, rfl⟩⟩

/-- **All puts went through exactly if the queue had room at each of them.** -/
theorem sentinels_eq_puts_iff {plan : List Step} {as : List Action} {s : State η}
    (hrun : (engine g plan).run (engineInit g plan) as = some s) :
    s.sentinels = s.puts ↔ (engine g plan).Meets (RoomForSentinel g) (engineInit g plan) as := by
  have hinit : (engineInit g plan).exited = 0 :=
    tally_replicate_zero (f := WorkerPc.exitedCount) rfl _
  have hflag := System.meets_iff_of_flag (M := engine g plan) (P := RoomForSentinel g)
    (F := fun s => s.sentinels = s.puts)
    (I := fun s => s.sentinels ≤ s.puts ∧ s.puts ≤ s.workers.length) ?_ ?_
    (s := engineInit g plan)
    ⟨by rw [State.sentinels, hinit]; exact Nat.zero_le _, Nat.zero_le _⟩ hrun
  · rw [hflag, and_iff_right]
    rw [State.sentinels, hinit]
    rfl
  · rintro s a s' ⟨hle, hworkers⟩ hstep
    obtain ⟨hlength, hputs, ⟨-, heq⟩ | ⟨-, hsame, hnext⟩⟩ := putsBalance_step hworkers hstep
    · exact ⟨by omega, by omega⟩
    · exact ⟨by omega, by omega⟩
  · rintro s a s' ⟨hle, hworkers⟩ hstep
    obtain ⟨-, -, ⟨hroom, heq⟩ | ⟨hfull, hsame, hnext⟩⟩ := putsBalance_step hworkers hstep
    · rw [and_iff_left hroom]
      omega
    · rw [iff_false_right (fun h => hfull h.2)]
      omega

/-! ## Shutdown -/

/-- What a shutdown should come to, in any state after the puts of `stop`. -/
structure ShutsDown (s : State η) : Prop where
  /-- Each worker gets exactly one sentinel: it has taken it, or will find it in the queue. -/
  sentinels : s.queue.countP Option.isNone + s.exited = s.workers.length
  /-- No worker waits for an empty queue. -/
  not_waiting : s.queue = [] → .waiting ∉ s.workers
  /-- Every item was taken before the last worker exited. -/
  drained : s.workers ≠ [] → (∀ pc ∈ s.workers, pc = .exited) → s.queue = []

/-- Nothing is left to do, and no worker is doing anything. -/
def AtRest (s : State η) : Prop :=
  s.queue = [] ∧ ∀ pc ∈ s.workers, pc = .waiting ∨ pc = .exited

theorem tally_exitedCount (pool : List WorkerPc) :
    tally WorkerPc.exitedCount pool = pool.countP (· = .exited) := by
  induction pool with
  | nil => rfl
  | cons pc pool ih =>
      rw [tally_cons, ih, List.countP_cons, Nat.add_comm]
      simp [WorkerPc.exitedCount]

omit [SeqHandle η] in
theorem exited_eq_length_iff {s : State η} :
    s.exited = s.workers.length ↔ ∀ pc ∈ s.workers, pc = .exited := by
  rw [State.exited, tally_exitedCount, List.countP_eq_length]
  simp

omit [SeqHandle η] in
theorem puts_of_pastPuts {s : State η} (h : s.main.pastPuts = true) :
    s.puts = s.workers.length := by
  unfold State.puts
  cases hmain : s.main <;> simp [hmain, MainPc.pastPuts] at h <;> rfl

omit [SeqHandle η] in
/-- Where the puts went through, a shutdown is complete. -/
theorem shutsDown_of_sentinels {s : State η} (horder : InOrder s)
    (h : s.sentinels = s.workers.length) : ShutsDown s := by
  refine ⟨h, fun hqueue hwaiting => ?_, fun hne hall => ?_⟩
  · have hexited : s.exited = s.workers.length := by
      simpa [State.sentinels, hqueue] using h
    have := exited_eq_length_iff.1 hexited _ hwaiting
    simp at this
  · obtain ⟨items, k, hqueue, -, hlast⟩ := horder
    have hexited := exited_eq_length_iff.2 hall
    have hpos : 0 < s.workers.length := List.length_pos_iff.2 hne
    obtain rfl := hlast (by omega)
    have hcount : s.queue.countP Option.isNone = k := by
      simp [hqueue, List.countP_replicate]
    obtain rfl : k = 0 := by
      rw [State.sentinels, hcount] at h
      omega
    simpa using hqueue

/-- **A shutdown is complete exactly if the queue had room at each put of `stop`.** Once nothing is
left to do, that is also exactly the case in which no worker is left waiting. -/
theorem shutsDown_iff {plan : List Step} {as : List Action} {s : State η}
    (hrun : (engine g plan).run (engineInit g plan) as = some s) (hpast : s.main.pastPuts = true) :
    (ShutsDown s ↔ (engine g plan).Meets (RoomForSentinel g) (engineInit g plan) as) ∧
      (AtRest s → (.waiting ∉ s.workers ↔
        (engine g plan).Meets (RoomForSentinel g) (engineInit g plan) as)) := by
  rw [← sentinels_eq_puts_iff hrun, puts_of_pastPuts hpast]
  have hreach : (engine g plan).Reachable s := ⟨as, hrun⟩
  have horder := inOrder_of_reachable hreach
  refine ⟨⟨fun h => h.sentinels, shutsDown_of_sentinels horder⟩, ?_⟩
  rintro ⟨hqueue, hidle⟩
  have hsentinels : s.sentinels = s.exited := by simp [State.sentinels, hqueue]
  rw [hsentinels, exited_eq_length_iff]
  constructor
  · intro hwaiting pc hpc
    rcases hidle pc hpc with rfl | hexited
    · exact absurd hpc hwaiting
    · exact hexited
  · intro hall hwaiting
    have := hall _ hwaiting
    simp at this

/-- One batch is put, and the run is interrupted; the drain times out after eleven seconds and
    `main` stops the engine. -/
def stopRun (taken : List Action) : List Action :=
  mainRuns 9 0 ++ mainRuns 4 0 ++ taken ++ .signal :: mainRuns 2 0 ++ mainRuns 2 11 ++
    .leave :: mainRuns 5 11

/-- The worker exports the batch before the engine is stopped, and then takes its sentinel. -/
def cleanStop : List Action := stopRun (workerExports 0 1 ++ workerAcked 0) ++ [.worker 0]

/-- A shutdown with room in the queue is complete. -/
theorem shutsDown_cleanStop : ∃ (g : LoadGenerator BenchSeq) (s : State BenchSeq),
    s.main = .closed false ∧ s.workers = [.exited] ∧
      (ShutsDown s ↔ (engine g [⟨0, 1, 1⟩]).Meets (RoomForSentinel g)
        (engineInit g [⟨0, 1, 1⟩]) cleanStop) ∧
      (AtRest s → (.waiting ∉ s.workers ↔ (engine g [⟨0, 1, 1⟩]).Meets (RoomForSentinel g)
        (engineInit g [⟨0, 1, 1⟩]) cleanStop)) := by
  obtain ⟨g, s, -, hrun, hP⟩ := exists_of_runFrom (launch BenchSeq (plainConfig 1 1 1))
    [⟨0, 1, 1⟩] cleanStop (P := fun s => s.main = .closed false ∧ s.workers = [.exited])
    (by decide +kernel)
  obtain ⟨hmain, hworkers⟩ := of_decide_eq_true hP
  exact ⟨g, s, hmain, hworkers, shutsDown_iff hrun (by rw [hmain]; rfl)⟩

/-- The worker takes the batch only after `stop` has passed over the full queue. -/
def fullStop : List Action := stopRun [] ++ workerExports 0 1 ++ workerAcked 0

/-- A sentinel that finds the queue full is lost: the queue is empty and the worker waits. -/
theorem not_shutsDown_fullStop :
    ¬ ∀ (g : LoadGenerator BenchSeq) (plan : List Step) (as : List Action) (s : State BenchSeq),
        (engine g plan).run (engineInit g plan) as = some s → s.main.pastPuts = true →
        ShutsDown s := by
  intro h
  obtain ⟨g, s, -, hrun, hP⟩ := exists_of_runFrom (launch BenchSeq (plainConfig 1 1 1))
    [⟨0, 1, 1⟩] fullStop
    (P := fun s => s.main = .closed false ∧ s.queue = [] ∧ s.workers = [.waiting])
    (by decide +kernel)
  obtain ⟨hmain, hqueue, hworkers⟩ := of_decide_eq_true hP
  have hshut := h g _ _ s hrun (by rw [hmain]; rfl)
  exact hshut.not_waiting hqueue (by simp [hworkers])

end AnalyticsTesting.Generator
