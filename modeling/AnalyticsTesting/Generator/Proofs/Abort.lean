import AnalyticsTesting.Lib.Streak
import AnalyticsTesting.Generator.Main
import AnalyticsTesting.Generator.Proofs.Moves

set_option autoImplicit false

/-! # When a run is aborted

`_consecutive_failures` is read and written by all workers without a lock. A worker adds its failure
in two statements, a read and a write, and both an addition and a reset may come long after the
result they are about has been returned. `inOrder` says what has to hold of each write for the
counter to be right: no value is overwritten that was not read, and no write overtakes an earlier
result of the other kind. Where that is so, the counter is the streak of failures the results end
with (`CounterExact`), and an abort means what its name says (`abortsOnStreak_of_inOrder`).

The note that the invariant needs (`Note`) is the order in which the results came back. -/

namespace AnalyticsTesting.Generator

open Transition Streak

variable {η : Type} [SeqHandle η] {g : LoadGenerator η}

/-! ## Results and their bookkeeping -/

/-- What a result means for the counter: a success resets it, and a failure adds to it unless it is
    a rejection. -/
def ExportResult.counts (r : ExportResult) : Option Bool :=
  if r.ok then some true else if r.code = resourceExhausted then none else some false

/-- What the worker has been told and the counter does not show yet. -/
def WorkerPc.unwritten : WorkerPc → Option Bool
  | .returned _ (.result r) | .released _ r => r.counts
  | .resetFailures _ _ => some true
  | .credit _ r => if r.ok then none else r.counts
  | .bumpRead _ | .bumpWrite _ _ => some false
  | _ => none

/-- The next statement of the worker writes the counter. -/
def WorkerPc.writesCounter : WorkerPc → Bool
  | .resetFailures _ _ | .bumpWrite _ _ => true
  | _ => false

/-- The worker has written the counter and has not acted on it yet. -/
def WorkerPc.deciding : WorkerPc → Bool
  | .checkLimit _ | .setAbort _ => true
  | _ => false

/-- The result that an action returns, if it counts. -/
def Action.returns : Action → Option (Nat × Bool)
  | .exportReturns w (.result r) => r.counts.map fun b => (w, b)
  | _ => none

/-- The results of a run that count, in the order in which they were returned. -/
def resultsOf (as : List Action) : List Bool := (as.filterMap Action.returns).map Prod.snd

/-! ## The order of the results -/

/-- What is known of the past: the results that count, and those the counter does not show yet,
    each with its worker. Both are in the order in which they were returned. -/
structure Note where
  results : List Bool := []
  unwritten : List (Nat × Bool) := []

namespace Note

/-- The results of other workers that were returned before the one worker `w` is about to write. -/
def ahead (x : Note) (w : Nat) : List (Nat × Bool) := x.unwritten.takeWhile fun y => y.1 ≠ w

/-- Note a step. -/
def write (x : Note) (s : State η) (a : Action) : Note :=
  match a.returns with
  | some (w, b) => { results := x.results ++ [b], unwritten := x.unwritten ++ [(w, b)] }
  | none =>
      match a with
      | .worker w =>
          if (s.workers[w]?).any WorkerPc.writesCounter then
            { x with unwritten := x.unwritten.eraseP fun y => y.1 = w }
          else x
      | _ => x

end Note

/-- The engine with its note. -/
def noted (g : LoadGenerator η) (plan : List Step) : System (State η × Note) Action :=
  (engine g plan).instrument {} Note.write

/-- If the step writes the counter, it does so in order: every result that is ahead is of the same
    kind, and an addition starts from the value the counter still has. -/
def inOrder (p : State η × Note) (a : Action) : Bool :=
  match a with
  | .worker w =>
      match p.1.workers[w]? with
      | some (.resetFailures _ _) => (p.2.ahead w).all fun y => y.2
      | some (.bumpWrite _ v) =>
          ((p.2.ahead w).all fun y => !y.2) && decide (v = p.1.consecutiveFailures)
      | _ => true
  | _ => true

/-! ## The invariant -/

/-- The limit as a number of failures. -/
def LoadGenerator.limit (g : LoadGenerator η) : Nat := g.abortOnConsecutiveFailures.toNat

/-- The counter and the note agree, and nobody aborts without a streak. -/
structure CounterExact (g : LoadGenerator η) (s : State η) (x : Note) : Prop where
  nodup : (x.unwritten.map Prod.fst).Nodup
  mem_unwritten : ∀ w b, (w, b) ∈ x.unwritten ↔ (s.workers[w]?).bind WorkerPc.unwritten = some b
  count_eq : count s.consecutiveFailures (x.unwritten.map Prod.snd) = count 0 x.results
  peak_le : List.replicate (peak s.consecutiveFailures (x.unwritten.map Prod.snd)) false
    <:+: x.results
  setting : ∀ r, WorkerPc.setAbort r ∈ s.workers → List.replicate g.limit false <:+: x.results
  aborted : s.abortReason.isSome → List.replicate g.limit false <:+: x.results
  noticed : g.limit ≤ s.consecutiveFailures →
    s.abortReason.isSome ∨ ∃ pc ∈ s.workers, pc.deciding = true

/-- Replacing one worker. -/
theorem bind_set {β : Type} {pool : List WorkerPc} {w : Nat} {pc : WorkerPc} (pc' : WorkerPc)
    (f : WorkerPc → Option β) (hpc : pool[w]? = some pc) (v : Nat) :
    ((pool.set w pc')[v]?).bind f = if v = w then f pc' else (pool[v]?).bind f := by
  have hlt : w < pool.length := (List.getElem?_eq_some_iff.1 hpc).1
  by_cases h : v = w
  · subst h
    simp [hlt]
  · simp [h, Ne.symm h]

theorem deciding_set {pool : List WorkerPc} {w : Nat} {pc pc' : WorkerPc} (hpc : pool[w]? = some pc)
    (hquiet : pc.deciding = false) (h : ∃ q ∈ pool, q.deciding = true) :
    ∃ q ∈ pool.set w pc', q.deciding = true := by
  obtain ⟨q, hq, hdeciding⟩ := h
  obtain ⟨v, hv⟩ := List.getElem?_of_mem hq
  have hne : w ≠ v := by
    rintro rfl
    obtain rfl := Option.some.inj (hpc.symm.trans hv)
    simp [hdeciding] at hquiet
  exact ⟨q, List.mem_of_getElem? (i := v) (by rw [List.getElem?_set_ne hne, hv]), hdeciding⟩

section Steps

variable {s t : State η} {x : Note} {w : Nat} {pc pc' : WorkerPc}

/-- A statement that neither returns a result nor writes the counter. -/
theorem CounterExact.move (h : CounterExact g s x) (hpc : s.workers[w]? = some pc)
    (hcount : t.consecutiveFailures = s.consecutiveFailures)
    (hsame : pc'.unwritten = pc.unwritten)
    (hset : ∀ r, pc' = .setAbort r → List.replicate g.limit false <:+: x.results)
    (habort : t.abortReason.isSome → List.replicate g.limit false <:+: x.results)
    (hnoticed : g.limit ≤ s.consecutiveFailures →
      t.abortReason.isSome ∨ ∃ q ∈ s.workers.set w pc', q.deciding = true) :
    CounterExact g { t with workers := s.workers.set w pc' } x where
  nodup := h.nodup
  mem_unwritten v b := by
    rw [h.mem_unwritten]
    show _ ↔ ((s.workers.set w pc')[v]?).bind WorkerPc.unwritten = some b
    rw [bind_set pc' _ hpc]
    split
    · next heq => rw [heq, hpc, Option.bind_some, hsame]
    · rfl
  count_eq := by
    show count t.consecutiveFailures _ = _
    rw [hcount, h.count_eq]
  peak_le := by
    show List.replicate (peak t.consecutiveFailures _) false <:+: _
    rw [hcount]
    exact h.peak_le
  setting r hr := by
    rcases List.mem_or_eq_of_mem_set hr with hmem | heq
    · exact h.setting r hmem
    · exact hset r heq.symm
  aborted := habort
  noticed := by
    show g.limit ≤ t.consecutiveFailures → _
    rw [hcount]
    exact hnoticed

/-- A statement that has nothing to do with the counter. -/
theorem CounterExact.quiet (h : CounterExact g s x) (hpc : s.workers[w]? = some pc)
    (hcount : t.consecutiveFailures = s.consecutiveFailures)
    (habort : t.abortReason = s.abortReason) (hsame : pc'.unwritten = pc.unwritten)
    (hquiet : pc.deciding = false) (hquiet' : pc'.deciding = false) :
    CounterExact g { t with workers := s.workers.set w pc' } x := by
  refine h.move hpc hcount hsame ?_ (by rw [habort]; exact h.aborted) ?_
  · rintro r rfl
    simp [WorkerPc.deciding] at hquiet'
  · intro hlimit
    rw [habort]
    rcases h.noticed hlimit with hsome | hdeciding
    · exact Or.inl hsome
    · exact Or.inr (deciding_set hpc hquiet hdeciding)

/-- A result comes back. -/
theorem CounterExact.returned {b : Bool} (h : CounterExact g s x) (hpc : s.workers[w]? = some pc)
    (hnone : pc.unwritten = none) (hsome : pc'.unwritten = some b) (hquiet : pc.deciding = false)
    (hquiet' : pc'.deciding = false) :
    CounterExact g { s with workers := s.workers.set w pc' }
      { results := x.results ++ [b], unwritten := x.unwritten ++ [(w, b)] } := by
  have hcount : count s.consecutiveFailures ((x.unwritten ++ [(w, b)]).map Prod.snd)
      = count 0 (x.results ++ [b]) := by
    rw [List.map_append, List.map_singleton, count_concat, h.count_eq, count_concat]
  have hsub : x.results <:+: x.results ++ [b] := (List.prefix_append _ _).isInfix
  constructor
  case nodup =>
    rw [List.map_append, List.nodup_append]
    refine ⟨h.nodup, by simp, ?_⟩
    rintro v hv _ hw rfl
    obtain rfl := List.mem_singleton.1 hw
    obtain ⟨⟨w', c⟩, hmem, rfl⟩ := List.mem_map.1 hv
    have := (h.mem_unwritten w' c).1 hmem
    rw [hpc, Option.bind_some, hnone] at this
    simp at this
  case mem_unwritten =>
    intro v c
    show _ ↔ ((s.workers.set w pc')[v]?).bind WorkerPc.unwritten = some c
    rw [bind_set pc' _ hpc, List.mem_append, h.mem_unwritten, List.mem_singleton, Prod.mk.injEq]
    split
    · next heq =>
        rw [heq, hpc, Option.bind_some, hnone, hsome]
        simp [eq_comm]
    · next hne => simp [hne]
  case count_eq => exact hcount
  case peak_le =>
    show List.replicate (peak s.consecutiveFailures _) false <:+: _
    rw [List.map_append, List.map_singleton, peak_concat]
    rcases max_choice (peak s.consecutiveFailures (x.unwritten.map Prod.snd))
      (count s.consecutiveFailures (x.unwritten.map Prod.snd ++ [b])) with hmax | hmax
    · rw [hmax]
      exact h.peak_le.trans hsub
    · rw [List.map_append, List.map_singleton] at hcount
      rw [hmax, hcount]
      exact (replicate_suffix _).isInfix
  case setting =>
    intro r hr
    rcases List.mem_or_eq_of_mem_set hr with hmem | rfl
    · exact (h.setting r hmem).trans hsub
    · simp [WorkerPc.deciding] at hquiet'
  case aborted => exact fun hsome => (h.aborted hsome).trans hsub
  case noticed =>
    intro hlimit
    rcases h.noticed hlimit with hsome | hdeciding
    · exact Or.inl hsome
    · exact Or.inr (deciding_set hpc hquiet hdeciding)

/-- The unwritten results around the one that worker `w` writes. -/
theorem CounterExact.split {b : Bool} (h : CounterExact g s x) (hpc : s.workers[w]? = some pc)
    (hsome : pc.unwritten = some b) :
    ∃ rest, x.unwritten = x.ahead w ++ (w, b) :: rest ∧
      (x.unwritten.eraseP fun y => y.1 = w) = x.ahead w ++ rest := by
  have hmem : (w, b) ∈ x.unwritten := (h.mem_unwritten w b).2 (by rw [hpc, Option.bind_some, hsome])
  obtain ⟨⟨w', c⟩, earlier, rest, hearlier, hw, hsplit, herase⟩ :=
    List.exists_of_eraseP (p := fun y : Nat × Bool => decide (y.1 = w)) hmem (by simp)
  obtain rfl : w' = w := by simpa using hw
  obtain rfl : c = b := by
    have hc := (h.mem_unwritten w' c).1 (by rw [hsplit]; simp)
    rw [hpc, Option.bind_some, hsome] at hc
    exact (Option.some.inj hc).symm
  have hahead : x.ahead w' = earlier := by
    rw [Note.ahead, hsplit, List.takeWhile_append_of_pos]
    · simp
    · intro y hy
      simpa using hearlier y hy
  exact ⟨rest, by rw [hahead, hsplit], by rw [hahead, herase]⟩

/-- **A write that is in order.** -/
theorem CounterExact.written {b : Bool} (h : CounterExact g s x) (hpos : 0 < g.limit)
    (hpc : s.workers[w]? = some pc) (hsome : pc.unwritten = some b) (hnone : pc'.unwritten = none)
    (horder : ∀ y ∈ x.ahead w, y.2 = b)
    (hcount : t.consecutiveFailures = tick s.consecutiveFailures b)
    (habort : t.abortReason = s.abortReason) (hset : ∀ r, pc' ≠ .setAbort r)
    (hcheck : b = false → pc'.deciding = true) :
    CounterExact g { t with workers := s.workers.set w pc' }
      { x with unwritten := x.unwritten.eraseP fun y => y.1 = w } := by
  obtain ⟨rest, hsplit, herase⟩ := h.split hpc hsome
  have hkind : ∀ y ∈ (x.ahead w).map Prod.snd, y = b := by
    intro y hy
    obtain ⟨z, hz, rfl⟩ := List.mem_map.1 hy
    exact horder z hz
  have hunwritten : x.unwritten.map Prod.snd
      = (x.ahead w).map Prod.snd ++ b :: rest.map Prod.snd := by
    rw [hsplit, List.map_append, List.map_cons]
  have herased : (x.unwritten.eraseP fun y => y.1 = w).map Prod.snd
      = (x.ahead w).map Prod.snd ++ rest.map Prod.snd := by
    rw [herase, List.map_append]
  have hlt : w < s.workers.length := (List.getElem?_eq_some_iff.1 hpc).1
  have hnodup := h.nodup
  rw [hsplit, List.map_append, List.map_cons] at hnodup
  constructor
  case nodup =>
    show ((x.unwritten.eraseP fun y => y.1 = w).map Prod.fst).Nodup
    rw [herase, List.map_append]
    exact (List.nodup_middle.1 hnodup).of_cons
  case mem_unwritten =>
    intro v c
    show (v, c) ∈ x.unwritten.eraseP _ ↔
      ((s.workers.set w pc')[v]?).bind WorkerPc.unwritten = some c
    rw [bind_set pc' _ hpc, herase]
    have hnotin : w ∉ (x.ahead w ++ rest).map Prod.fst := by
      rw [List.map_append]
      exact (List.nodup_cons.1 (List.nodup_middle.1 hnodup)).1
    split
    · next heq =>
        subst heq
        rw [hnone]
        refine iff_of_false (fun hmem => hnotin (List.mem_map.2 ⟨(v, c), hmem, rfl⟩)) (by simp)
    · next hne =>
        rw [← h.mem_unwritten, hsplit]
        simp [hne]
  case count_eq =>
    show count t.consecutiveFailures _ = _
    rw [hcount, herased, count_advance _ hkind, ← hunwritten, h.count_eq]
  case peak_le =>
    show List.replicate (peak t.consecutiveFailures _) false <:+: _
    rw [hcount, herased]
    refine replicate_infix_of_le ?_ h.peak_le
    rw [hunwritten]
    exact peak_advance _ hkind _
  case setting =>
    intro r hr
    rcases List.mem_or_eq_of_mem_set hr with hmem | heq
    · exact h.setting r hmem
    · exact absurd heq.symm (hset r)
  case aborted =>
    show t.abortReason.isSome → _
    rw [habort]
    exact h.aborted
  case noticed =>
    show g.limit ≤ t.consecutiveFailures → _
    rw [hcount]
    intro hlimit
    cases b with
    | true => exact absurd hlimit (not_le.2 hpos)
    | false => exact Or.inr ⟨pc', List.mem_set hlt _, hcheck rfl⟩

/-- The worker compares the counter with the limit. -/
theorem CounterExact.checked {r : ExportResult} (h : CounterExact g s x)
    (hpc : s.workers[w]? = some (.checkLimit r)) (hpos : 0 < g.limit) :
    CounterExact g
      { s with workers := s.workers.set w (if s.shouldAbort g then .setAbort r else .taskDone) }
      x := by
  have hlt : w < s.workers.length := (List.getElem?_eq_some_iff.1 hpc).1
  have hshould : s.shouldAbort g = true ↔
      g.limit ≤ s.consecutiveFailures ∧ s.abortReason.isNone = true := by
    unfold State.shouldAbort LoadGenerator.limit at *
    rw [decide_eq_true_iff]
    refine ⟨fun h => ⟨by omega, h.2.2⟩, fun h => ⟨by omega, by omega, h.2⟩⟩
  refine h.move hpc rfl ?_ ?_ h.aborted ?_
  · split <;> rfl
  · intro r' hset
    split at hset
    · next habort =>
        refine replicate_infix_of_le ?_ h.peak_le
        exact (hshould.1 habort).1.trans (le_peak _ _)
    · simp at hset
  · intro hlimit
    by_cases habort : s.shouldAbort g = true
    · rw [if_pos habort]
      exact Or.inr ⟨.setAbort r, List.mem_set hlt _, rfl⟩
    · left
      have hsome : ¬ s.abortReason.isNone = true := fun hnone => habort (hshould.2 ⟨hlimit, hnone⟩)
      simpa [Option.isNone_iff_eq_none, Option.isSome_iff_ne_none] using hsome

end Steps

theorem unwritten_afterCredit (item : WorkItem) (r : ExportResult) :
    (afterCredit g r).unwritten = (WorkerPc.credit item r).unwritten ∧
      (afterCredit g r).deciding = false := by
  unfold afterCredit
  by_cases hok : r.ok = true
  · simp [hok, WorkerPc.unwritten, WorkerPc.deciding]
  · by_cases hcode : r.code = resourceExhausted
    · rw [if_neg hok, if_pos hcode]
      split <;> simp [WorkerPc.unwritten, WorkerPc.deciding, ExportResult.counts, hok, hcode]
    · simp [hok, hcode, WorkerPc.unwritten, WorkerPc.deciding, ExportResult.counts]

/-- A statement of a worker that has nothing to do with the counter. -/
theorem workerStep_quiet {s t : State η} {w : Nat} {pc pc' : WorkerPc}
    (h : workerStep g s w pc = some (t, pc')) (hwrites : pc.writesCounter = false)
    (hdeciding : pc.deciding = false) :
    t.consecutiveFailures = s.consecutiveFailures ∧ t.abortReason = s.abortReason ∧
      pc'.unwritten = pc.unwritten ∧ pc'.deciding = false := by
  by_cases hbook : pc.item = none ∧ pc ≠ .waiting
  · obtain ⟨hitem, hne⟩ := hbook
    cases pc with
    | backoff | bumpRead r | setStop | taskDone =>
        obtain ⟨rfl, rfl⟩ := by simpa [workerStep] using h
        exact ⟨rfl, rfl, rfl, rfl⟩
    | bumpWrite r v => simp [WorkerPc.writesCounter] at hwrites
    | checkLimit r | setAbort r => simp [WorkerPc.deciding] at hdeciding
    | waiting => exact absurd rfl hne
    | exited => simp [workerStep] at h
    | _ => simp [WorkerPc.item] at hitem
  · cases workerStep_move h with
    | success item r hok =>
        exact ⟨rfl, rfl, by simp [WorkerPc.unwritten, ExportResult.counts, hok], rfl⟩
    | failure item r hok => exact ⟨rfl, rfl, by simp [WorkerPc.unwritten, hok], rfl⟩
    | resetFailures item r => simp [WorkerPc.writesCounter] at hwrites
    | credit item r => exact ⟨rfl, rfl, unwritten_afterCredit item r⟩
    | exportReturns item sent outcome => simp [workerStep] at h
    | bookkeep pc pc' failures abortReason stop hitem hitem' hne hstopped =>
        exact absurd ⟨hitem, hne⟩ hbook
    | _ => exact ⟨rfl, rfl, rfl, rfl⟩

theorem mainStep_counter {s s' : State η} {t wall : ℚ} (h : mainStep g s t wall = some s') :
    s'.consecutiveFailures = s.consecutiveFailures ∧ s'.abortReason = s.abortReason := by
  have hmove := (mainStep_move h).2
  generalize s.main = pc at hmove
  cases hmove <;> exact ⟨rfl, rfl⟩

/-- A step that is no worker's does not touch the counter, nor the note. -/
theorem CounterExact.other {s s' : State η} {x : Note} {a : Action} (h : CounterExact g s x)
    (ha : a.worker? = none) (hstep : engineStep g s a = some s') :
    CounterExact g s' (x.write s a) := by
  have hnote : x.write s a = x := by
    cases a <;> simp [Action.worker?] at ha <;> rfl
  have hkeep : s'.workers = s.workers ∧ s'.consecutiveFailures = s.consecutiveFailures ∧
      s'.abortReason = s.abortReason := by
    rcases engineStep_other ha hstep with ⟨t, wall, -, hmain⟩ | ⟨-, -, rfl⟩ | ⟨-, rfl⟩ |
      ⟨ts, iso, -, rfl⟩
    · exact ⟨(mainStep_keeps hmain).workers, mainStep_counter hmain⟩
    · exact ⟨rfl, rfl, rfl⟩
    · exact ⟨rfl, rfl, rfl⟩
    · exact ⟨rfl, rfl, rfl⟩
  obtain ⟨hworkers, hcount, habort⟩ := hkeep
  rw [hnote]
  refine ⟨h.nodup, ?_, ?_, ?_, ?_, ?_, ?_⟩
  · rw [hworkers]
    exact h.mem_unwritten
  · rw [hcount]
    exact h.count_eq
  · rw [hcount]
    exact h.peak_le
  · rw [hworkers]
    exact h.setting
  · rw [habort]
    exact h.aborted
  · rw [hcount, habort, hworkers]
    exact h.noticed

/-- Only successes reset the counter. -/
def ResetsAreSuccesses (s : State η) : Prop :=
  ∀ item r, WorkerPc.resetFailures item r ∈ s.workers → r.ok = true

theorem resetsAreSuccesses_step {s s' : State η} {a : Action} (h : ResetsAreSuccesses s)
    (hstep : engineStep g s a = some s') : ResetsAreSuccesses s' := by
  rcases engineStep_cases hstep with ⟨t, wall, -, hmain⟩ | ⟨-, -, rfl⟩ | ⟨-, rfl⟩ |
    ⟨ts, iso, -, rfl⟩ | ⟨w, pc, t, pc', -, -, hmove, rfl⟩
  · unfold ResetsAreSuccesses
    rw [(mainStep_keeps hmain).workers]
    exact h
  · exact h
  · exact h
  · exact h
  · intro item r hmem
    rcases List.mem_or_eq_of_mem_set hmem with hmem | heq
    · exact h item r hmem
    · generalize hq : WorkerPc.resetFailures item r = q at heq
      cases hmove with
      | success item' r' hok =>
          obtain ⟨-, rfl⟩ := WorkerPc.resetFailures.inj (hq.trans heq)
          exact hok
      | credit item' r' =>
          have hitem := afterCredit_item g r'
          rw [← heq, ← hq] at hitem
          simp [WorkerPc.item] at hitem
      | bookkeep pc pc' failures abortReason stop hitem hitem' hne hstopped =>
          rw [← heq, ← hq] at hitem'
          simp [WorkerPc.item] at hitem'
      | _ => simp [← hq] at heq

/-- **One step in order keeps the counter right.** -/
theorem CounterExact.step {s s' : State η} {x : Note} {a : Action} (h : CounterExact g s x)
    (hpos : 0 < g.limit) (hresets : ResetsAreSuccesses s) (horder : inOrder (s, x) a = true)
    (hstep : engineStep g s a = some s') : CounterExact g s' (x.write s a) := by
  cases ha : a.worker? with
  | none => exact h.other ha hstep
  | some w =>
      obtain ⟨pc, t, pc', hpc, hstatement, rfl⟩ := engineStep_statement ha hstep
      cases hstatement with
      | readClock item nowNs => exact h.quiet hpc rfl rfl rfl rfl rfl
      | serialize item u hget => exact h.quiet hpc rfl rfl rfl rfl rfl
      | exportReturns item sent outcome =>
          cases outcome with
          | raised => exact h.quiet hpc rfl rfl rfl rfl rfl
          | result r =>
              cases hcounts : r.counts with
              | none =>
                  have hnote : x.write s (.exportReturns w (.result r)) = x := by
                    simp [Note.write, Action.returns, hcounts]
                  rw [hnote]
                  exact h.quiet hpc rfl rfl hcounts rfl rfl
              | some b =>
                  have hnote : x.write s (.exportReturns w (.result r))
                      = { results := x.results ++ [b], unwritten := x.unwritten ++ [(w, b)] } := by
                    simp [Note.write, Action.returns, hcounts]
                  rw [hnote]
                  exact h.returned hpc rfl hcounts rfl rfl
      | own pc pc' t hown =>
          have hnote : x.write s (.worker w)
              = if pc.writesCounter then
                  { x with unwritten := x.unwritten.eraseP fun y => y.1 = w } else x := by
            simp [Note.write, Action.returns, hpc]
          rw [hnote]
          cases pc with
          | resetFailures item r =>
              obtain ⟨rfl, rfl⟩ := by simpa [workerStep] using hown
              have hok : r.ok = true := hresets item r (List.mem_of_getElem? hpc)
              have hahead : ∀ y ∈ x.ahead w, y.2 = true := by
                simpa [inOrder, hpc] using horder
              exact h.written hpos hpc rfl (by simp [WorkerPc.unwritten, hok]) hahead rfl rfl
                (by simp) (by simp)
          | bumpWrite r v =>
              obtain ⟨rfl, rfl⟩ := by simpa [workerStep] using hown
              have hboth : (∀ y ∈ x.ahead w, y.2 = false) ∧ v = s.consecutiveFailures := by
                simpa [inOrder, hpc] using horder
              obtain ⟨hahead, rfl⟩ := hboth
              exact h.written hpos hpc rfl rfl hahead rfl rfl (by simp) fun _ => rfl
          | checkLimit r =>
              obtain ⟨rfl, rfl⟩ := by simpa [workerStep] using hown
              exact h.checked hpc hpos
          | setAbort r =>
              obtain ⟨rfl, rfl⟩ := by simpa [workerStep] using hown
              have hblock := h.setting r (List.mem_of_getElem? hpc)
              exact h.move hpc rfl rfl (by simp) (fun _ => hblock) fun _ => Or.inl rfl
          | _ =>
              obtain ⟨hcount, habort, hsame, hquiet⟩ := workerStep_quiet hown rfl rfl
              exact h.quiet hpc hcount habort hsame rfl hquiet

/-! ## What an abort means -/

/-- An abort means a streak: in any state of a run with these results. -/
structure AbortsOnStreak (g : LoadGenerator η) (s : State η) (results : List Bool) : Prop where
  /-- A run is aborted only if as many failures as the limit came back without a success between
      them. -/
  streak : s.abortReason.isSome → List.replicate g.limit false <:+: results
  /-- If the results end with such a streak and nothing about them is left to be booked, the run is
      aborted. -/
  aborts : (∀ pc ∈ s.workers, pc.unwritten = none ∧ pc.deciding = false) →
    List.replicate g.limit false <:+ results → s.abortReason.isSome

theorem counterExact_init {plan : List Step} (hpos : 0 < g.limit) :
    CounterExact g (engineInit g plan) {} where
  nodup := List.nodup_nil
  mem_unwritten w b := by
    show (w, b) ∈ [] ↔ ((List.replicate g.workers WorkerPc.waiting)[w]?).bind _ = some b
    rw [List.getElem?_replicate]
    split <;> simp [WorkerPc.unwritten]
  count_eq := rfl
  peak_le := List.nil_infix
  setting r hr := by
    have := List.eq_of_mem_replicate hr
    simp at this
  aborted h := by simp [engineInit] at h
  noticed hlimit := absurd hlimit (not_le.2 hpos)

omit [SeqHandle η] in
theorem write_results (x : Note) (s : State η) (a : Action) :
    (x.write s a).results = x.results ++ resultsOf [a] := by
  unfold Note.write resultsOf
  cases h : a.returns with
  | some y => simp [h]
  | none =>
      cases a with
      | worker w => simp only [List.filterMap_cons, h]; split <;> simp
      | _ => simp [h]

theorem abortsOnStreak_of_counterExact {s : State η} {x : Note} (h : CounterExact g s x) :
    AbortsOnStreak g s x.results := by
  refine ⟨h.aborted, fun hidle hstreak => ?_⟩
  have hnone : x.unwritten = [] := by
    refine List.eq_nil_iff_forall_not_mem.2 fun ⟨w, b⟩ hmem => ?_
    obtain ⟨pc, hpc, hsome⟩ := Option.bind_eq_some_iff.1 ((h.mem_unwritten w b).1 hmem)
    rw [(hidle pc (List.mem_of_getElem? hpc)).1] at hsome
    simp at hsome
  have hcount : s.consecutiveFailures = count 0 x.results := by
    simpa [hnone] using h.count_eq
  rcases h.noticed (by rw [hcount]; exact replicate_suffix_iff.1 hstreak) with hsome |
    ⟨pc, hpc, hdeciding⟩
  · exact hsome
  · rw [(hidle pc hpc).2] at hdeciding
    simp at hdeciding

/-- **Abort means consecutive failures**, in every run in which no write of the counter overtakes an
earlier result of the other kind or overwrites a value that was not read. -/
theorem abortsOnStreak_of_inOrder (hlimit : 0 < g.abortOnConsecutiveFailures) {plan : List Step}
    {as : List Action} {s : State η} (hrun : (engine g plan).run (engineInit g plan) as = some s)
    (horder : (noted g plan).Meets (fun p a => inOrder p a = true) (engineInit g plan, {}) as) :
    AbortsOnStreak g s (resultsOf as) := by
  have hpos : 0 < g.limit := by
    unfold LoadGenerator.limit
    omega
  obtain ⟨x, hnoted⟩ := System.exists_run_instrument ({} : Note) Note.write {} hrun
  have hinv := System.run_of_preserves_history (M := noted g plan)
    (I := fun as p => p.2.results = resultsOf as ∧ ResetsAreSuccesses p.1 ∧ CounterExact g p.1 p.2)
    ⟨rfl, fun item r hmem => ?_, counterExact_init hpos⟩ ?_ horder hnoted
  · rw [← hinv.1]
    exact abortsOnStreak_of_counterExact hinv.2.2
  · have := List.eq_of_mem_replicate hmem
    simp at this
  · rintro as ⟨s, x⟩ a ⟨s', x'⟩ ⟨hresults, hresets, hexact⟩ hmeets hstep
    obtain ⟨t, ht, heq⟩ := Option.map_eq_some_iff.1 hstep
    obtain ⟨rfl, rfl⟩ := Prod.mk.inj heq
    refine ⟨?_, resetsAreSuccesses_step hresets ht, hexact.step hpos hresets hmeets ht⟩
    show (x.write s a).results = _
    rw [write_results, hresults]
    simp [resultsOf]

/-! ## Two workers and a limit of two -/

/-- Two workers, and an abort after two failures. -/
def pairConfig : RunConfig Unit := { plainConfig 1 2 3 with abortOnConsecutiveFailures := 2 }

/-- Three batches a second apart. -/
def pairPlan : List Step := [⟨0, 1, 10⟩]

/-- The main thread has put the three batches. -/
def putThree : List Action := mainRuns 13 0 ++ mainRuns 9 1 ++ mainRuns 9 2

/-- The export of worker `w` fails, and the worker takes `n` statements. -/
def workerFails (w n : Nat) : List Action :=
  .exportReturns w (.result { ok := false, latencyS := 0, code := "UNAVAILABLE" }) ::
    List.replicate n (.worker w)

/-- Two failures, one booked after the other. -/
def failTwice : List Action :=
  putThree ++ workerExports 0 1 ++ workerFails 0 7 ++ workerExports 0 1 ++ workerFails 0 9

/-- Two failures in a row abort the run. -/
theorem abortsOnStreak_failTwice : ∃ (g : LoadGenerator BenchSeq) (s : State BenchSeq),
    s.abortReason = some "2 consecutive failures, last=UNAVAILABLE: " ∧
      AbortsOnStreak g s (resultsOf failTwice) := by
  obtain ⟨g, s, hg, hrun, hP⟩ := exists_of_runFrom (launch BenchSeq pairConfig) pairPlan failTwice
    (P := fun s => s.abortReason = some "2 consecutive failures, last=UNAVAILABLE: ")
    (by decide +kernel)
  have horder : (launch BenchSeq pairConfig).all (fun g =>
      (noted g pairPlan).Meets (fun p a => inOrder p a = true) (engineInit g pairPlan, {})
        failTwice) = true := by
    decide +kernel
  have hlimit : (launch BenchSeq pairConfig).all (fun g => 0 < g.abortOnConsecutiveFailures)
      = true := by
    decide +kernel
  rw [hg, Option.all_some] at horder hlimit
  exact ⟨g, s, of_decide_eq_true hP, abortsOnStreak_of_inOrder (of_decide_eq_true hlimit) hrun
    (of_decide_eq_true horder)⟩

/-- The success of worker 1 comes back before the second failure of worker 0, and its reset is
    overwritten: worker 0 has read the counter before, and adds to what it has read. -/
def lostReset : List Action :=
  putThree ++ workerExports 0 1 ++ workerExports 1 1 ++ workerFails 0 7 ++ workerExports 0 1 ++
    .exportReturns 1 (.result { ok := true, latencyS := 0 }) :: workerFails 0 4 ++
    List.replicate 3 (.worker 1) ++ List.replicate 3 (.worker 0)

/-- A run can be aborted without two failures in a row. -/
theorem not_abortsOnStreak_lostReset :
    ¬ ∀ (g : LoadGenerator BenchSeq) (plan : List Step) (as : List Action) (s : State BenchSeq),
        0 < g.abortOnConsecutiveFailures → (engine g plan).run (engineInit g plan) as = some s →
        AbortsOnStreak g s (resultsOf as) := by
  intro h
  obtain ⟨g, s, hg, hrun, hP⟩ := exists_of_runFrom (launch BenchSeq pairConfig) pairPlan lostReset
    (P := fun s => s.abortReason.isSome) (by decide +kernel)
  have hlimit : (launch BenchSeq pairConfig).all
      (fun g => 0 < g.abortOnConsecutiveFailures ∧ g.limit = 2) = true := by
    decide +kernel
  rw [hg, Option.all_some] at hlimit
  obtain ⟨hpos, htwo⟩ := of_decide_eq_true hlimit
  have hstreak := (h g pairPlan lostReset s hpos hrun).streak hP
  rw [htwo] at hstreak
  have hresults : resultsOf lostReset = [false, true, false] := by decide +kernel
  rw [hresults] at hstreak
  revert hstreak
  decide

end AnalyticsTesting.Generator
