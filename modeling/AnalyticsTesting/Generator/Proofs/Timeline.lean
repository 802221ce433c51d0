import AnalyticsTesting.Generator.Proofs.PaceMoves
import Mathlib.Data.Rat.Floor
import Mathlib.Tactic.Linarith
import Mathlib.Tactic.Ring

set_option autoImplicit false

/-! # The timeline of a paced step

An abstract model of an open-loop pacer: when a batch is due, when it is put, and where the time
goes in between. A batch is due `interval` after the one before it; a pacer that is early sleeps, in
naps of at most a quarter of a second, and one that is more than a second late gives the lag up and
starts afresh from the reading at the head of the iteration (`Timing.advance`). Time passes in
sleeping, in a put that blocks, which is measured and recorded if it took more than a millisecond,
and between the two. Each step of the model has its `Toll`: the time it loses, that is, neither
sleeps on purpose nor records as a stall, or, where the schedule moves on, the lag it drops.

An iteration may lose an interval: the next batch is not due before. `Spent` keeps what the
iterations lost beyond that. `Phase.Agrees` says what the schedule has to do with the account of the
step: the next batch is due one interval later for each batch put, plus the lag dropped, and the lag
is made of recorded stalls and of what `Spent` keeps. `TimelineStep.accounts` is the step lemma. -/

namespace AnalyticsTesting.Generator

/-! ## The model -/

/-- The schedule of one step: its interval and end, when the next batch is due, and the reading at
    the head of the current iteration. `result` says which step it is. -/
structure Timing where
  result : Nat
  interval : ℚ
  duration : ℚ
  deadline : ℚ
  nextSubmit : ℚ
  now : ℚ

namespace Timing

/-- When the step started. -/
def started (τ : Timing) : ℚ := τ.deadline - τ.duration

/-- The lag that the next advance of the schedule gives up. -/
def dropped (τ : Timing) : ℚ :=
  let next := τ.nextSubmit + τ.interval
  if next < τ.now - 1 then τ.now - next else 0

/-- The schedule moves on by one interval, and to the present if it is more than a second late. -/
def advance (τ : Timing) : Timing :=
  let next := τ.nextSubmit + τ.interval
  { τ with nextSubmit := if next < τ.now - 1 then τ.now else next }

theorem advance_nextSubmit (τ : Timing) :
    τ.advance.nextSubmit = τ.nextSubmit + τ.interval + τ.dropped := by
  unfold advance dropped
  dsimp only
  split <;> ring

theorem dropped_nonneg (τ : Timing) : 0 ≤ τ.dropped := by
  unfold dropped
  dsimp only
  split <;> linarith

/-- What is given up is the lag behind the reading at the head of the iteration. -/
theorem dropped_eq (τ : Timing) :
    τ.dropped = 0 ∨ τ.dropped = τ.now - (τ.nextSubmit + τ.interval) := by
  unfold dropped
  dsimp only
  split
  · exact Or.inr rfl
  · exact Or.inl rfl

end Timing

/-- Where the pacer is. -/
inductive Phase
  /-- Between steps. -/
  | outside
  /-- The step has been announced, and its clock has not started. -/
  | opening (τ : Timing)
  /-- At the head of an iteration. -/
  | waiting (τ : Timing)
  /-- Asleep until the next batch is due. -/
  | sleeping (τ : Timing) (sleepFor : ℚ)
  /-- The next batch is due. -/
  | due (τ : Timing)
  /-- About to put it, since `since`. -/
  | blocked (τ : Timing) (since : ℚ)
  /-- Putting it. -/
  | putting (τ : Timing) (since : ℚ)
  /-- The batch is put, or the step has ended first. -/
  | measuring (τ : Timing) (since : ℚ) (sent : Bool)
  /-- The stall is being recorded. -/
  | stalled (τ : Timing) (sent : Bool) (seconds : ℚ)
  /-- The step has ended before the batch was put. -/
  | refused (τ : Timing)
  /-- The batch is put, and the schedule has not moved on. -/
  | sent (τ : Timing)
  /-- Past the last iteration. -/
  | draining (τ : Timing)

/-- The schedule of the current step. -/
def Phase.timing : Phase → Option Timing
  | .outside => none
  | .opening τ | .waiting τ | .sleeping τ _ | .due τ | .blocked τ _ | .putting τ _
  | .measuring τ _ _ | .stalled τ _ _ | .refused τ | .sent τ | .draining τ => some τ

/-- Where the pacer goes after measuring the put. -/
def Phase.afterStall (τ : Timing) (sent : Bool) : Phase := if sent then .sent τ else .refused τ

/-- What is known of a step afterwards: its interval and duration, and its recorded stalls in
    seconds. -/
structure Quota where
  interval : ℚ
  duration : ℚ
  stalled : ℚ

/-- The state: `put` has the step of each batch put so far, `stopped` is set by a stop or an
    abort. -/
structure Timeline where
  phase : Phase
  clock : ℚ
  stopped : Bool
  put : List Nat
  quotas : List Quota

/-- What a step of the model costs. -/
inductive Toll
  | lost (seconds : ℚ)
  /-- The schedule moves on by `interval`, and gives up a lag. -/
  | advanced (interval dropped : ℚ)

/-- The steps of the model, with their toll. -/
inductive TimelineStep (v : Timeline) : Toll → Timeline → Prop
  | halt : TimelineStep v (.lost 0) { v with stopped := true }
  | tick (τ : Timing) (t : ℚ) (hphase : v.phase = .draining τ) (ht : v.clock ≤ t) :
      TimelineStep v (.lost 0) { v with phase := .draining τ, clock := t }
  | openStep (τ : Timing) (hphase : v.phase = .outside) (hresult : τ.result = v.quotas.length)
      (hinterval : 0 < τ.interval) :
      TimelineStep v (.lost 0)
        { v with phase := .opening τ, quotas := v.quotas ++ [⟨τ.interval, τ.duration, 0⟩] }
  | start (τ : Timing) (t : ℚ) (hphase : v.phase = .opening τ) (ht : v.clock ≤ t) :
      TimelineStep v (.lost 0)
        { v with phase := .waiting { τ with deadline := t + τ.duration, nextSubmit := t },
                 clock := t }
  | cut (τ : Timing) (hphase : v.phase = .waiting τ ∨ ∃ d, v.phase = .sleeping τ d)
      (hstop : v.stopped = true) : TimelineStep v (.lost 0) { v with phase := .draining τ }
  | expire (τ : Timing) (t : ℚ) (hphase : v.phase = .waiting τ) (ht : v.clock ≤ t)
      (hend : τ.deadline ≤ t) :
      TimelineStep v (.lost (t - v.clock))
        { v with phase := .draining { τ with now := t }, clock := t }
  | sleep (τ : Timing) (t : ℚ) (hphase : v.phase = .waiting τ) (ht : v.clock ≤ t)
      (hearly : t < τ.nextSubmit) :
      TimelineStep v (.lost (t - v.clock))
        { v with phase := .sleeping { τ with now := t } (τ.nextSubmit - t), clock := t }
  | take (τ : Timing) (t : ℚ) (hphase : v.phase = .waiting τ) (ht : v.clock ≤ t)
      (hdue : τ.nextSubmit ≤ t) :
      TimelineStep v (.lost (t - v.clock)) { v with phase := .due { τ with now := t }, clock := t }
  | nap (τ : Timing) (d t : ℚ) (hphase : v.phase = .sleeping τ d) (hlong : 1 / 4 < d)
      (ht : v.clock + 1 / 4 ≤ t) :
      TimelineStep v (.lost (t - v.clock - 1 / 4)) { v with phase := .waiting τ, clock := t }
  | wake (τ : Timing) (d t : ℚ) (hphase : v.phase = .sleeping τ d) (ht : v.clock ≤ t)
      (hlate : v.clock + d ≤ t) :
      TimelineStep v (.lost (t - v.clock - d)) { v with phase := .due τ, clock := t }
  | block (τ : Timing) (t : ℚ) (hphase : v.phase = .due τ) (ht : v.clock ≤ t) :
      TimelineStep v (.lost (t - v.clock)) { v with phase := .blocked τ t, clock := t }
  | refuse (τ : Timing) (since t : ℚ) (hphase : v.phase = .blocked τ since) (ht : v.clock ≤ t)
      (hend : v.stopped = true ∨ τ.deadline ≤ t) :
      TimelineStep v (.lost 0) { v with phase := .measuring τ since false, clock := t }
  | attempt (τ : Timing) (since t : ℚ) (hphase : v.phase = .blocked τ since) (ht : v.clock ≤ t)
      (hin : t < τ.deadline) :
      TimelineStep v (.lost 0) { v with phase := .putting τ since, clock := t }
  | full (τ : Timing) (since t : ℚ) (hphase : v.phase = .putting τ since) (ht : v.clock ≤ t) :
      TimelineStep v (.lost 0) { v with phase := .blocked τ since, clock := t }
  | put (τ : Timing) (since : ℚ) (hphase : v.phase = .putting τ since) :
      TimelineStep v (.lost 0)
        { v with phase := .measuring τ since true, put := v.put ++ [τ.result] }
  | stall (τ : Timing) (since t : ℚ) (sent : Bool) (hphase : v.phase = .measuring τ since sent)
      (ht : v.clock ≤ t) :
      TimelineStep v (.lost 0) { v with phase := .stalled τ sent (t - since), clock := t }
  /-- A short put is not recorded. -/
  | pass (τ : Timing) (since t : ℚ) (sent : Bool) (hphase : v.phase = .measuring τ since sent)
      (ht : v.clock ≤ t) :
      TimelineStep v (.lost (t - since)) { v with phase := .afterStall τ sent, clock := t }
  | record (τ : Timing) (sent : Bool) (d : ℚ) (hphase : v.phase = .stalled τ sent d) :
      TimelineStep v (.lost 0)
        { v with phase := .afterStall τ sent,
                 quotas := v.quotas.modify τ.result
                   fun q => { q with stalled := q.stalled + d } }
  | quit (τ : Timing) (hphase : v.phase = .refused τ) :
      TimelineStep v (.lost 0) { v with phase := .draining τ }
  | advance (τ : Timing) (hphase : v.phase = .sent τ) :
      TimelineStep v (.advanced τ.interval τ.dropped) { v with phase := .waiting τ.advance }
  | abort (τ : Timing) (hphase : v.phase = .sent τ) (hstop : v.stopped = true) :
      TimelineStep v (.advanced τ.interval τ.dropped) { v with phase := .draining τ.advance }
  | close (τ : Timing) (hphase : v.phase = .draining τ) :
      TimelineStep v (.lost 0) { v with phase := .outside }

/-! ## The account of a step -/

/-- What a step has spent so far: the lag dropped, the time its iterations lost beyond an interval
    each, and the time lost in the current iteration. -/
structure Spent where
  dropped : ℚ
  overrun : ℚ
  lost : ℚ
  deriving DecidableEq

namespace Spent

def nothing : Spent := ⟨0, 0, 0⟩

/-- The toll of a step is paid. -/
def pay (x : Spent) : Toll → Spent
  | .lost l => { x with lost := x.lost + l }
  | .advanced interval d => ⟨x.dropped + d, x.overrun + max 0 (x.lost - interval), 0⟩

@[simp] theorem pay_lost_zero (x : Spent) : x.pay (.lost 0) = x := by
  simp [pay]

end Spent

/-- What a step has done so far: the batches put, the stalls recorded and what was spent. -/
structure Account where
  put : ℚ
  stalled : ℚ
  spent : Spent

/-- The account after the toll of a step. -/
def Account.pay (a : Account) (toll : Toll) : Account := { a with spent := a.spent.pay toll }

@[simp] theorem Account.pay_lost_zero (a : Account) : a.pay (.lost 0) = a := by
  simp [pay]

/-- The account before the current batch was put. -/
def Account.before (a : Account) (wasPut : Bool) : Account :=
  if wasPut then { a with put := a.put - 1 } else a

/-- The schedule has moved on with the batches put and the lag dropped, and at time `t` the lag is
    within what the account admits. -/
structure Timing.Agrees (τ : Timing) (a : Account) (t : ℚ) : Prop where
  nextSubmit_eq : τ.nextSubmit = τ.started + a.put * τ.interval + a.spent.dropped
  lost_nonneg : 0 ≤ a.spent.lost
  lag_le : t - τ.nextSubmit + a.spent.dropped ≤ a.stalled + a.spent.overrun + a.spent.lost
  dropped_le : a.spent.dropped ≤ a.stalled + a.spent.overrun

/-- What holds where the pacer is. While a put is measured the lag counts up to its start, because
    what comes after is either recorded or lost. -/
def Phase.Agrees (clock : ℚ) (stopped : Bool) (a : Account) : Phase → Prop
  | .outside => True
  | .opening _ => a = ⟨0, 0, .nothing⟩
  | .waiting τ => τ.Agrees a clock
  | .sleeping τ d => τ.Agrees a clock ∧ τ.nextSubmit = clock + d ∧ τ.now ≤ clock
  | .due τ => τ.Agrees a clock ∧ τ.nextSubmit ≤ clock ∧ τ.now ≤ clock
  | .blocked τ since =>
      τ.Agrees a since ∧ τ.nextSubmit ≤ since ∧ τ.now ≤ since ∧ since ≤ clock
  | .putting τ since =>
      τ.Agrees a since ∧ τ.nextSubmit ≤ since ∧ τ.now ≤ since ∧ since ≤ clock ∧
        clock < τ.deadline
  | .measuring τ since wasPut =>
      τ.Agrees (a.before wasPut) since ∧ τ.nextSubmit ≤ since ∧ τ.now ≤ since ∧ since ≤ clock ∧
        (wasPut = false → stopped = true ∨ τ.deadline ≤ clock)
  | .stalled τ wasPut d =>
      τ.Agrees (a.before wasPut) (clock - d) ∧ τ.nextSubmit ≤ clock - d ∧ τ.now ≤ clock - d ∧
        0 ≤ d ∧ (wasPut = false → stopped = true ∨ τ.deadline ≤ clock)
  | .refused τ => τ.Agrees a clock ∧ (stopped = true ∨ τ.deadline ≤ clock)
  | .sent τ => τ.Agrees (a.before true) clock ∧ τ.nextSubmit ≤ clock ∧ τ.now ≤ clock
  | .draining τ => stopped = true ∨ τ.Agrees a τ.deadline ∧ τ.deadline ≤ clock

/-- What holds keeps holding when a stop comes in. -/
theorem Phase.Agrees.stop {phase : Phase} {clock : ℚ} {stopped : Bool} {a : Account}
    (h : phase.Agrees clock stopped a) : phase.Agrees clock true a := by
  cases phase with
  | measuring τ since wasPut =>
      obtain ⟨hag, hnext, hnow, hsince, -⟩ := h
      exact ⟨hag, hnext, hnow, hsince, fun _ => Or.inl rfl⟩
  | stalled τ wasPut d =>
      obtain ⟨hag, hnext, hnow, hd, -⟩ := h
      exact ⟨hag, hnext, hnow, hd, fun _ => Or.inl rfl⟩
  | refused τ => exact ⟨h.1, Or.inl rfl⟩
  | draining τ => exact Or.inl rfl
  | _ => exact h

/-- Once the stall is recorded, the account admits the time the put took. -/
theorem Phase.Agrees.record {τ : Timing} {wasPut : Bool} {d clock : ℚ} {stopped : Bool}
    {a : Account} (h : (Phase.stalled τ wasPut d).Agrees clock stopped a) :
    (Phase.afterStall τ wasPut).Agrees clock stopped { a with stalled := a.stalled + d } := by
  obtain ⟨⟨hnext, hlost, hlag, hdropped⟩, hdue, hnow, hd, hend⟩ := h
  cases wasPut with
  | true =>
      simp only [Account.before, if_true] at hnext hlost hlag hdropped
      refine ⟨⟨hnext, hlost, ?_, ?_⟩, by linarith, by linarith⟩
      · show clock - τ.nextSubmit + a.spent.dropped ≤ a.stalled + d + a.spent.overrun + a.spent.lost
        linarith
      · show a.spent.dropped ≤ a.stalled + d + a.spent.overrun
        linarith
  | false =>
      simp only [Account.before, Bool.false_eq_true, if_false] at hnext hlost hlag hdropped
      refine ⟨⟨hnext, hlost, ?_, ?_⟩, hend rfl⟩
      · show clock - τ.nextSubmit + a.spent.dropped ≤ a.stalled + d + a.spent.overrun + a.spent.lost
        linarith
      · show a.spent.dropped ≤ a.stalled + d + a.spent.overrun
        linarith

namespace Timeline

/-- How many batches the `i`-th step has put. -/
def puts (v : Timeline) (i : Nat) : Nat := v.put.count i

/-- What the `i`-th step has spent after a step of the model: only the current one pays. -/
def pay (v : Timeline) (i : Nat) (toll : Toll) (x : Spent) : Spent :=
  if v.phase.timing.map Timing.result = some i then x.pay toll else x

/-- The account of the `i`-th step, with quota `q`. -/
def account (v : Timeline) (i : Nat) (q : Quota) (x : Spent) : Account := ⟨v.puts i, q.stalled, x⟩

/-- The invariant, for the `i`-th step and what it has spent so far. -/
structure Accounts (v : Timeline) (i : Nat) (x : Spent) : Prop where
  put_lt : ∀ j ∈ v.put, j < v.quotas.length
  fresh : v.quotas.length ≤ i → x = .nothing
  dropped_nonneg : 0 ≤ x.dropped
  result_eq : ∀ τ, v.phase.timing = some τ → τ.result + 1 = v.quotas.length
  interval_pos : ∀ q, v.quotas[i]? = some q → 0 < q.interval
  within : ∀ q, v.quotas[i]? = some q →
    v.puts i = 0 ∨ ((v.puts i : ℚ) - 1) * q.interval < q.duration
  quota_eq : ∀ τ q, v.phase.timing = some τ → τ.result = i → v.quotas[i]? = some q →
    q.interval = τ.interval ∧ q.duration = τ.duration
  started_le : ∀ τ, v.phase.timing = some τ → (∀ τ₀, v.phase ≠ .opening τ₀) → τ.started ≤ v.clock
  /-- Already when it was put, a batch was not early. -/
  due : ∀ τ, v.phase.timing = some τ → τ.result = i →
    v.puts i = 0 ∨ τ.started + ((v.puts i : ℚ) - 1) * τ.interval ≤ v.clock
  agrees : ∀ τ q, v.phase.timing = some τ → τ.result = i → v.quotas[i]? = some q →
    v.phase.Agrees v.clock v.stopped (v.account i q x)

/-! ## One step preserves it -/

variable {v : Timeline} {i : Nat} {x : Spent}

theorem Accounts.puts_eq_zero (h : v.Accounts i x) (hi : v.quotas.length ≤ i) :
    v.puts i = 0 := by
  refine List.count_eq_zero.2 fun hmem => ?_
  have := h.put_lt i hmem
  omega

theorem Accounts.exists_quota (h : v.Accounts i x) {τ : Timing}
    (hτ : v.phase.timing = some τ) (hi : τ.result = i) : ∃ q, v.quotas[i]? = some q := by
  have hlt : i < v.quotas.length := by
    have := h.result_eq τ hτ
    omega
  exact ⟨_, List.getElem?_eq_getElem hlt⟩

theorem pay_of_timing {τ : Timing} (hτ : v.phase.timing = some τ) (i : Nat) (toll : Toll)
    (x : Spent) : v.pay i toll x = if τ.result = i then x.pay toll else x := by
  simp [pay, hτ]

@[simp] theorem pay_lost_zero (v : Timeline) (i : Nat) (x : Spent) : v.pay i (.lost 0) x = x := by
  simp [pay]

/-- A step that stays within one step of the plan and puts nothing: it is enough that the account,
    once the toll is paid, still agrees with where the pacer is. -/
theorem Accounts.move (h : v.Accounts i x) {τ τ' : Timing} {phase' : Phase}
    {clock' : ℚ} {toll : Toll} (hτ : v.phase.timing = some τ) (hτ' : phase'.timing = some τ')
    (hresult : τ'.result = τ.result) (hinterval : τ'.interval = τ.interval)
    (hduration : τ'.duration = τ.duration) (hclock : v.clock ≤ clock')
    (hdropped : x.dropped ≤ (x.pay toll).dropped)
    (hstarted : (τ'.started = τ.started ∧ ∀ τ₀, v.phase ≠ .opening τ₀) ∨
      (τ'.started = clock' ∧ ∀ a, v.phase.Agrees v.clock v.stopped a → a.put = 0))
    (hagrees : ∀ a, v.phase.Agrees v.clock v.stopped a →
      phase'.Agrees clock' v.stopped (a.pay toll)) :
    Accounts { v with phase := phase', clock := clock' } i (v.pay i toll x) where
  put_lt := h.put_lt
  fresh hle := by
    have hne : τ.result ≠ i := by
      have := h.result_eq τ hτ
      have hle' : v.quotas.length ≤ i := hle
      omega
    rw [pay_of_timing hτ, if_neg hne]
    exact h.fresh hle
  dropped_nonneg := by
    rw [pay_of_timing hτ]
    split
    · exact h.dropped_nonneg.trans hdropped
    · exact h.dropped_nonneg
  result_eq := by
    intro τ₁ hτ₁
    obtain rfl : τ' = τ₁ := by simpa [hτ'] using hτ₁
    rw [hresult]
    exact h.result_eq τ hτ
  interval_pos := h.interval_pos
  within := h.within
  quota_eq := by
    intro τ₁ q hτ₁ hi hq
    obtain rfl : τ' = τ₁ := by simpa [hτ'] using hτ₁
    rw [hinterval, hduration]
    exact h.quota_eq τ q hτ (hresult.symm.trans hi) hq
  started_le := by
    intro τ₁ hτ₁ _
    obtain rfl : τ' = τ₁ := by simpa [hτ'] using hτ₁
    rcases hstarted with ⟨hsame, hne⟩ | ⟨hnow, -⟩
    · rw [hsame]
      exact (h.started_le τ hτ hne).trans hclock
    · exact hnow.le
  due := by
    intro τ₁ hτ₁ hi
    obtain rfl : τ' = τ₁ := by simpa [hτ'] using hτ₁
    have hi' : τ.result = i := hresult.symm.trans hi
    rcases hstarted with ⟨hsame, -⟩ | ⟨-, hzero⟩
    · rw [hsame, hinterval]
      exact (h.due τ hτ hi').imp_right fun hle => hle.trans hclock
    -- the schedule can start anew because the step has put nothing yet
    · obtain ⟨q, hq⟩ := h.exists_quota hτ hi'
      have hputs : v.puts i = 0 := by simpa [account] using hzero _ (h.agrees τ q hτ hi' hq)
      exact Or.inl hputs
  agrees := by
    intro τ₁ q hτ₁ hi hq
    obtain rfl : τ' = τ₁ := by simpa [hτ'] using hτ₁
    have hi' : τ.result = i := hresult.symm.trans hi
    rw [pay_of_timing hτ, if_pos hi']
    exact hagrees _ (h.agrees τ q hτ hi' hq)

/-- A step that keeps the schedule's start, from a phase after it was set. -/
theorem Accounts.paid (h : v.Accounts i x) {phase phase' : Phase} {τ τ' : Timing}
    {clock' : ℚ} {toll : Toll} (hphase : v.phase = phase) (hτ : phase.timing = some τ)
    (hτ' : phase'.timing = some τ')
    (hsame : τ'.result = τ.result ∧ τ'.interval = τ.interval ∧ τ'.duration = τ.duration ∧
      τ'.started = τ.started)
    (hopen : ∀ τ₀, phase ≠ .opening τ₀) (hclock : v.clock ≤ clock')
    (hdropped : x.dropped ≤ (x.pay toll).dropped)
    (hagrees : ∀ a, phase.Agrees v.clock v.stopped a →
      phase'.Agrees clock' v.stopped (a.pay toll)) :
    Accounts { v with phase := phase', clock := clock' } i (v.pay i toll x) := by
  obtain ⟨hresult, hinterval, hduration, hstarted⟩ := hsame
  subst hphase
  exact h.move hτ hτ' hresult hinterval hduration hclock hdropped
    (Or.inl ⟨hstarted, hopen⟩) hagrees

/-- The same for a step that costs nothing. -/
theorem Accounts.free (h : v.Accounts i x) {phase phase' : Phase} {τ τ' : Timing}
    {clock' : ℚ} (hphase : v.phase = phase) (hτ : phase.timing = some τ)
    (hτ' : phase'.timing = some τ')
    (hsame : τ'.result = τ.result ∧ τ'.interval = τ.interval ∧ τ'.duration = τ.duration ∧
      τ'.started = τ.started)
    (hopen : ∀ τ₀, phase ≠ .opening τ₀) (hclock : v.clock ≤ clock')
    (hagrees : ∀ a, phase.Agrees v.clock v.stopped a → phase'.Agrees clock' v.stopped a) :
    Accounts { v with phase := phase', clock := clock' } i (v.pay i (.lost 0) x) := by
  refine h.paid hphase hτ hτ' hsame hopen hclock le_rfl fun a hag => ?_
  rw [Account.pay_lost_zero]
  exact hagrees a hag

/-- A stop or an abort leaves the account alone. -/
theorem Accounts.halt (h : v.Accounts i x) :
    Accounts { v with stopped := true } i x where
  put_lt := h.put_lt
  fresh := h.fresh
  dropped_nonneg := h.dropped_nonneg
  result_eq := h.result_eq
  interval_pos := h.interval_pos
  within := h.within
  quota_eq := h.quota_eq
  started_le := h.started_le
  due := h.due
  agrees τ q hτ hi hq := (h.agrees τ q hτ hi hq).stop

/-- The next step of the plan is announced. -/
theorem Accounts.openStep (h : v.Accounts i x) {τ : Timing}
    (hresult : τ.result = v.quotas.length) (hinterval : 0 < τ.interval) :
    Accounts { v with phase := .opening τ, quotas := v.quotas ++ [⟨τ.interval, τ.duration, 0⟩] } i
      x where
  put_lt j hj := by
    have := h.put_lt j hj
    simp only [List.length_append, List.length_singleton]
    omega
  fresh hle := by
    simp only [List.length_append, List.length_singleton] at hle
    exact h.fresh (by omega)
  dropped_nonneg := h.dropped_nonneg
  result_eq := by
    intro τ₁ hτ₁
    obtain rfl : τ = τ₁ := by simpa [Phase.timing] using hτ₁
    simp [hresult]
  interval_pos := by
    intro q hq
    rcases getElem?_concat_eq_some hq with hold | ⟨-, rfl⟩
    · exact h.interval_pos q hold
    · exact hinterval
  within := by
    intro q hq
    rcases getElem?_concat_eq_some hq with hold | ⟨hi, -⟩
    · exact h.within q hold
    · exact Or.inl (h.puts_eq_zero hi.ge)
  quota_eq := by
    intro τ₁ q hτ₁ hi hq
    obtain rfl : τ = τ₁ := by simpa [Phase.timing] using hτ₁
    have hlast : i = v.quotas.length := hi.symm.trans hresult
    obtain rfl : (⟨τ.interval, τ.duration, 0⟩ : Quota) = q := by simpa [hlast] using hq
    exact ⟨rfl, rfl⟩
  started_le τ₁ hτ₁ hne := absurd rfl (hne τ)
  due := by
    intro τ₁ hτ₁ hi
    obtain rfl : τ = τ₁ := by simpa [Phase.timing] using hτ₁
    exact Or.inl (h.puts_eq_zero (hresult.symm.trans hi).le)
  agrees := by
    intro τ₁ q hτ₁ hi hq
    obtain rfl : τ = τ₁ := by simpa [Phase.timing] using hτ₁
    have hlast : i = v.quotas.length := hi.symm.trans hresult
    obtain rfl : (⟨τ.interval, τ.duration, 0⟩ : Quota) = q := by simpa [hlast] using hq
    have hputs : v.puts i = 0 := h.puts_eq_zero hlast.ge
    show (⟨(v.puts i : ℚ), 0, x⟩ : Account) = ⟨0, 0, .nothing⟩
    rw [hputs, h.fresh hlast.ge, Nat.cast_zero]

/-- The step is closed. -/
theorem Accounts.close (h : v.Accounts i x) :
    Accounts { v with phase := .outside } i x where
  put_lt := h.put_lt
  fresh := h.fresh
  dropped_nonneg := h.dropped_nonneg
  result_eq := by simp [Phase.timing]
  interval_pos := h.interval_pos
  within := h.within
  quota_eq := by simp [Phase.timing]
  started_le := by simp [Phase.timing]
  due := by simp [Phase.timing]
  agrees := by simp [Phase.timing]

/-- The batch is put: it was due, and the deadline had not passed. -/
theorem Accounts.put (h : v.Accounts i x) {τ : Timing} {since : ℚ}
    (hphase : v.phase = .putting τ since) :
    Accounts { v with phase := .measuring τ since true, put := v.put ++ [τ.result] } i
      x := by
  have hτ : v.phase.timing = some τ := by rw [hphase]; rfl
  have hresult := h.result_eq τ hτ
  have hother : τ.result ≠ i → (v.put ++ [τ.result]).count i = v.puts i := by
    intro hne
    simp [puts, List.count_append, hne]
  have hown : τ.result = i → (v.put ++ [τ.result]).count i = v.puts i + 1 := by
    rintro rfl
    simp [puts, List.count_append]
  have hagrees : τ.result = i → ∀ q, v.quotas[i]? = some q →
      τ.Agrees (v.account i q x) since ∧ τ.nextSubmit ≤ since ∧ τ.now ≤ since ∧
        since ≤ v.clock ∧ v.clock < τ.deadline := by
    intro hi q hq
    have hold := h.agrees τ q hτ hi hq
    rw [hphase] at hold
    exact hold
  -- the batch just put was due at `started + puts * interval`, and that is in the past
  have hdue : τ.result = i → τ.started + (v.puts i : ℚ) * τ.interval ≤ v.clock := by
    intro hi
    obtain ⟨q, hq⟩ := h.exists_quota hτ hi
    obtain ⟨hag, hnext, -, hsince, -⟩ := hagrees hi q hq
    have heq : τ.nextSubmit = τ.started + (v.puts i : ℚ) * τ.interval + x.dropped :=
      hag.nextSubmit_eq
    have hnonneg := h.dropped_nonneg
    linarith
  refine
    { put_lt := ?_
      fresh := h.fresh
      dropped_nonneg := h.dropped_nonneg
      result_eq := ?_
      interval_pos := h.interval_pos
      within := ?_
      quota_eq := ?_
      started_le := ?_
      due := ?_
      agrees := ?_ }
  · intro j hj
    rcases List.mem_append.1 hj with hold | hnew
    · exact h.put_lt j hold
    · obtain rfl : j = τ.result := by simpa using hnew
      show τ.result < v.quotas.length
      omega
  · intro τ₁ hτ₁
    obtain rfl : τ = τ₁ := by simpa [Phase.timing] using hτ₁
    exact hresult
  · intro q hq
    by_cases hi : τ.result = i
    · obtain ⟨-, -, -, -, hin⟩ := hagrees hi q hq
      obtain ⟨hint, hdur⟩ := h.quota_eq τ q hτ hi hq
      have hle := hdue hi
      unfold Timing.started at hle
      refine Or.inr ?_
      show (((v.put ++ [τ.result]).count i : ℚ) - 1) * q.interval < q.duration
      rw [hown hi, hint, hdur, Nat.cast_add, Nat.cast_one, add_sub_cancel_right]
      linarith
    · show (v.put ++ [τ.result]).count i = 0 ∨
        (((v.put ++ [τ.result]).count i : ℚ) - 1) * q.interval < q.duration
      rw [hother hi]
      exact h.within q hq
  · intro τ₁ q hτ₁ hi hq
    obtain rfl : τ = τ₁ := by simpa [Phase.timing] using hτ₁
    exact h.quota_eq τ q hτ hi hq
  · intro τ₁ hτ₁ _
    obtain rfl : τ = τ₁ := by simpa [Phase.timing] using hτ₁
    exact h.started_le τ hτ (by simp [hphase])
  · intro τ₁ hτ₁ hi
    obtain rfl : τ = τ₁ := by simpa [Phase.timing] using hτ₁
    refine Or.inr ?_
    show τ.started + (((v.put ++ [τ.result]).count i : ℚ) - 1) * τ.interval ≤ v.clock
    rw [hown hi, Nat.cast_add, Nat.cast_one, add_sub_cancel_right]
    exact hdue hi
  · intro τ₁ q hτ₁ hi hq
    obtain rfl : τ = τ₁ := by simpa [Phase.timing] using hτ₁
    obtain ⟨hag, hnext, hnow, hsince, -⟩ := hagrees hi q hq
    refine ⟨?_, hnext, hnow, hsince, by simp⟩
    have hbefore : Account.before
        (account { v with phase := .measuring τ since true, put := v.put ++ [τ.result] } i q
          x) true = v.account i q x := by
      simp only [Account.before, account, if_true]
      show (⟨((v.put ++ [τ.result]).count i : ℚ) - 1, q.stalled, x⟩ : Account) = _
      rw [hown hi, Nat.cast_add, Nat.cast_one, add_sub_cancel_right]
    rw [hbefore]
    exact hag

/-- The stall is recorded in the quota of the step. -/
theorem Accounts.record (h : v.Accounts i x) {τ : Timing} {wasPut : Bool} {d : ℚ}
    (hphase : v.phase = .stalled τ wasPut d) :
    Accounts
      { v with phase := .afterStall τ wasPut,
               quotas := v.quotas.modify τ.result fun q => { q with stalled := q.stalled + d } }
      i x := by
  have hτ : v.phase.timing = some τ := by rw [hphase]; rfl
  have htiming : (Phase.afterStall τ wasPut).timing = some τ := by cases wasPut <;> rfl
  -- a quota keeps its interval and duration
  have hkeep : ∀ q, (v.quotas.modify τ.result fun q => { q with stalled := q.stalled + d })[i]?
      = some q → ∃ q₀, v.quotas[i]? = some q₀ ∧ q.interval = q₀.interval ∧
        q.duration = q₀.duration ∧ (τ.result = i → q.stalled = q₀.stalled + d) := by
    intro q hq
    obtain ⟨q₀, hq₀, rfl⟩ := getElem?_modify_eq_some hq
    by_cases hi : τ.result = i
    · exact ⟨q₀, hq₀, by simp [hi], by simp [hi], fun _ => by simp [hi]⟩
    · exact ⟨q₀, hq₀, by simp [hi], by simp [hi], fun hi' => absurd hi' hi⟩
  refine
    { put_lt := by simpa using h.put_lt
      fresh := by simpa using h.fresh
      dropped_nonneg := h.dropped_nonneg
      result_eq := ?_
      interval_pos := ?_
      within := ?_
      quota_eq := ?_
      started_le := ?_
      due := ?_
      agrees := ?_ }
  · intro τ₁ hτ₁
    obtain rfl : τ = τ₁ := by simpa [htiming] using hτ₁
    simpa using h.result_eq τ hτ
  · intro q hq
    obtain ⟨q₀, hq₀, hint, -, -⟩ := hkeep q hq
    rw [hint]
    exact h.interval_pos q₀ hq₀
  · intro q hq
    obtain ⟨q₀, hq₀, hint, hdur, -⟩ := hkeep q hq
    rw [hint, hdur]
    exact h.within q₀ hq₀
  · intro τ₁ q hτ₁ hi hq
    obtain rfl : τ = τ₁ := by simpa [htiming] using hτ₁
    obtain ⟨q₀, hq₀, hint, hdur, -⟩ := hkeep q hq
    rw [hint, hdur]
    exact h.quota_eq τ q₀ hτ hi hq₀
  · intro τ₁ hτ₁ _
    obtain rfl : τ = τ₁ := by simpa [htiming] using hτ₁
    exact h.started_le τ hτ (by simp [hphase])
  · intro τ₁ hτ₁ hi
    obtain rfl : τ = τ₁ := by simpa [htiming] using hτ₁
    exact h.due τ hτ hi
  · intro τ₁ q hτ₁ hi hq
    obtain rfl : τ = τ₁ := by simpa [htiming] using hτ₁
    obtain ⟨q₀, hq₀, -, -, hstalled⟩ := hkeep q hq
    have hold := h.agrees τ q₀ hτ hi hq₀
    rw [hphase] at hold
    have haccount : account
        { v with phase := .afterStall τ wasPut,
                 quotas := v.quotas.modify τ.result fun q => { q with stalled := q.stalled + d } }
        i q x = { v.account i q₀ x with stalled := q₀.stalled + d } := by
      simp only [account, hstalled hi]
      rfl
    rw [haccount]
    exact Phase.Agrees.record hold

end Timeline

theorem Timing.advance_started (τ : Timing) : τ.advance.started = τ.started := rfl

/-- The schedule moves on, and what it drops was admitted before. -/
theorem Timing.Agrees.advance {τ : Timing} {a : Account} {clock : ℚ}
    (h : τ.Agrees (a.before true) clock) (hnow : τ.now ≤ clock) :
    τ.advance.Agrees (a.pay (.advanced τ.interval τ.dropped)) clock := by
  obtain ⟨hnext, -, hlag, hdropped⟩ := h
  simp only [Account.before, if_true] at hnext hlag hdropped
  have hover : a.spent.lost - τ.interval ≤ max 0 (a.spent.lost - τ.interval) := le_max_right _ _
  have hkept : 0 ≤ max 0 (a.spent.lost - τ.interval) := le_max_left _ _
  unfold Account.pay Spent.pay
  refine ⟨?_, le_refl (0 : ℚ), ?_, ?_⟩
  · rw [advance_nextSubmit, advance_started]
    show _ = τ.started + a.put * τ.interval + (a.spent.dropped + τ.dropped)
    linarith
  · rw [advance_nextSubmit]
    show clock - _ + (a.spent.dropped + τ.dropped)
      ≤ a.stalled + (a.spent.overrun + max 0 (a.spent.lost - τ.interval)) + 0
    linarith
  · show a.spent.dropped + τ.dropped
      ≤ a.stalled + (a.spent.overrun + max 0 (a.spent.lost - τ.interval))
    rcases τ.dropped_eq with hzero | hlate
    · linarith
    · linarith

/-- Time that is lost is paid for, so the account still agrees at the later reading. -/
theorem Timing.Agrees.lose {τ τ' : Timing} {a : Account} {t t' l : ℚ} (h : τ.Agrees a t)
    (hnext : τ'.nextSubmit = τ.nextSubmit) (hstarted : τ'.started = τ.started)
    (hinterval : τ'.interval = τ.interval) (hl : 0 ≤ l) (hlag : t' - t ≤ l) :
    τ'.Agrees (a.pay (.lost l)) t' := by
  obtain ⟨hnext₀, hlost, hlag₀, hdropped⟩ := h
  unfold Account.pay Spent.pay
  refine ⟨?_, add_nonneg hlost hl, ?_, hdropped⟩
  · rw [hnext, hstarted, hinterval, hnext₀]
  · rw [hnext]
    show _ + a.spent.dropped ≤ a.stalled + a.spent.overrun + (a.spent.lost + l)
    linarith

/-- After a sleep that lasted until the batch was due, or less, only oversleeping counts. -/
theorem Timing.Agrees.sleep {τ : Timing} {a : Account} {t t' l : ℚ} (h : τ.Agrees a t)
    (hl : 0 ≤ l) (hdue : t' - l ≤ τ.nextSubmit) : τ.Agrees (a.pay (.lost l)) t' := by
  obtain ⟨hnext, hlost, -, hdropped⟩ := h
  unfold Account.pay Spent.pay
  refine ⟨hnext, add_nonneg hlost hl, ?_, hdropped⟩
  show _ + a.spent.dropped ≤ a.stalled + a.spent.overrun + (a.spent.lost + l)
  linarith

theorem Account.pay_before (a : Account) (wasPut : Bool) (toll : Toll) :
    (a.pay toll).before wasPut = (a.before wasPut).pay toll := by
  cases wasPut <;> rfl

/-- A put of at most a millisecond is not recorded: the time it took is lost. -/
theorem Phase.Agrees.pass {τ : Timing} {since t clock : ℚ} {wasPut stopped : Bool} {a : Account}
    (h : (Phase.measuring τ since wasPut).Agrees clock stopped a) (ht : clock ≤ t) :
    (Phase.afterStall τ wasPut).Agrees t stopped (a.pay (.lost (t - since))) := by
  obtain ⟨hag, hdue, hnow, hsince, hend⟩ := h
  have hlost : τ.Agrees ((a.before wasPut).pay (.lost (t - since))) t :=
    hag.lose rfl rfl rfl (by linarith) le_rfl
  rw [← Account.pay_before] at hlost
  cases wasPut with
  | true => exact ⟨hlost, by linarith, by linarith⟩
  | false => exact ⟨hlost, (hend rfl).imp_right fun hle => hle.trans ht⟩

/-- **One step of the model keeps the account**, once its toll is paid. -/
theorem TimelineStep.accounts {v v' : Timeline} {toll : Toll} (hstep : TimelineStep v toll v')
    {i : Nat} {x : Spent} (h : v.Accounts i x) : v'.Accounts i (v.pay i toll x) := by
  have htiming : ∀ {phase : Phase} {τ : Timing}, v.phase = phase → phase.timing = some τ →
      v.phase.timing = some τ := fun hphase hτ => hphase ▸ hτ
  cases hstep with
  | halt => simpa using h.halt
  | openStep τ hphase hresult hinterval =>
      simpa using h.openStep hresult hinterval
  | close τ hphase => simpa using h.close
  | put τ since hphase => simpa using h.put hphase
  | record τ wasPut d hphase => simpa using h.record hphase
  | tick τ t hphase ht =>
      refine h.free hphase rfl rfl ⟨rfl, rfl, rfl, rfl⟩ (by simp) ht
        fun a hag => ?_
      exact hag.imp_right fun hover => ⟨hover.1, hover.2.trans ht⟩
  | start τ t hphase ht =>
      -- the one step that moves the start of the schedule: the account is still empty
      refine h.move (htiming hphase rfl) rfl rfl rfl rfl ht le_rfl
        (Or.inr ⟨by simp [Timing.started], fun a hag => ?_⟩) fun a hag => ?_
      · rw [hphase] at hag
        obtain rfl := hag
        rfl
      · rw [hphase] at hag
        obtain rfl := hag
        rw [Account.pay_lost_zero]
        constructor <;> simp [Timing.started, Spent.nothing]
  | cut τ hphase hstop =>
      -- of a stopped pacer the account says nothing more
      rcases hphase with hphase | ⟨d, hphase⟩
      · exact h.free hphase rfl rfl ⟨rfl, rfl, rfl, rfl⟩ (by simp) le_rfl
          fun _ _ => Or.inl hstop
      · exact h.free hphase rfl rfl ⟨rfl, rfl, rfl, rfl⟩ (by simp) le_rfl
          fun _ _ => Or.inl hstop
  | expire τ t hphase ht hend =>
      refine h.paid hphase rfl rfl ⟨rfl, rfl, rfl, rfl⟩ (by simp) ht le_rfl
        fun a hag => Or.inr ⟨?_, hend⟩
      exact hag.lose rfl rfl rfl (sub_nonneg.2 ht) (sub_le_sub_right hend _)
  | sleep τ t hphase ht hearly =>
      refine h.paid hphase rfl rfl ⟨rfl, rfl, rfl, rfl⟩ (by simp) ht le_rfl
        fun a hag => ⟨?_, by simp, le_rfl⟩
      exact hag.lose rfl rfl rfl (sub_nonneg.2 ht) le_rfl
  | take τ t hphase ht hdue =>
      refine h.paid hphase rfl rfl ⟨rfl, rfl, rfl, rfl⟩ (by simp) ht le_rfl
        fun a hag => ⟨?_, hdue, le_rfl⟩
      exact hag.lose rfl rfl rfl (sub_nonneg.2 ht) le_rfl
  | nap τ d t hphase hlong ht =>
      -- the sleep itself was asked for: only what it overslept is lost
      refine h.paid hphase rfl rfl ⟨rfl, rfl, rfl, rfl⟩ (by simp) (by linarith) le_rfl
        fun a hag => ?_
      obtain ⟨hag, hwake, -⟩ := hag
      exact hag.sleep (by linarith) (by linarith)
  | wake τ d t hphase ht hlate =>
      refine h.paid hphase rfl rfl ⟨rfl, rfl, rfl, rfl⟩ (by simp) ht le_rfl
        fun a hag => ?_
      obtain ⟨hag, hwake, hnow⟩ := hag
      exact ⟨hag.sleep (by linarith) (by linarith), by linarith, by linarith⟩
  | block τ t hphase ht =>
      refine h.paid hphase rfl rfl ⟨rfl, rfl, rfl, rfl⟩ (by simp) ht le_rfl
        fun a hag => ?_
      obtain ⟨hag, hdue, hnow⟩ := hag
      exact ⟨hag.lose rfl rfl rfl (sub_nonneg.2 ht) le_rfl, hdue.trans ht, hnow.trans ht, le_rfl⟩
  | refuse τ since t hphase ht hend =>
      refine h.free hphase rfl rfl ⟨rfl, rfl, rfl, rfl⟩ (by simp) ht
        fun a hag => ?_
      obtain ⟨hag, hdue, hnow, hsince⟩ := hag
      exact ⟨hag, hdue, hnow, hsince.trans ht, fun _ => hend⟩
  | attempt τ since t hphase ht hin =>
      refine h.free hphase rfl rfl ⟨rfl, rfl, rfl, rfl⟩ (by simp) ht
        fun a hag => ?_
      obtain ⟨hag, hdue, hnow, hsince⟩ := hag
      exact ⟨hag, hdue, hnow, hsince.trans ht, hin⟩
  | full τ since t hphase ht =>
      refine h.free hphase rfl rfl ⟨rfl, rfl, rfl, rfl⟩ (by simp) ht
        fun a hag => ?_
      obtain ⟨hag, hdue, hnow, hsince, -⟩ := hag
      exact ⟨hag, hdue, hnow, hsince.trans ht⟩
  | stall τ since t wasPut hphase ht =>
      refine h.free hphase rfl rfl ⟨rfl, rfl, rfl, rfl⟩ (by simp) ht
        fun a hag => ?_
      obtain ⟨hag, hdue, hnow, hsince, hend⟩ := hag
      -- the stall counts only once it is recorded, so the account stays at the start of the put
      have hstart : t - (t - since) = since := sub_sub_cancel t since
      refine ⟨by rwa [hstart], by rwa [hstart], by rwa [hstart], by linarith, fun hput => ?_⟩
      exact (hend hput).imp_right fun hle => hle.trans ht
  | pass τ since t wasPut hphase ht =>
      have hnext : (Phase.afterStall τ wasPut).timing = some τ := by cases wasPut <;> rfl
      exact h.paid hphase rfl hnext ⟨rfl, rfl, rfl, rfl⟩ (by simp) ht le_rfl
        fun a hag => hag.pass ht
  | quit τ hphase =>
      refine h.free hphase rfl rfl ⟨rfl, rfl, rfl, rfl⟩ (by simp) le_rfl
        fun a hag => ?_
      obtain ⟨hag, hend⟩ := hag
      -- the deadline has passed, and the lag there is at most the lag now
      refine hend.imp_right fun hle => ⟨?_, hle⟩
      exact ⟨hag.nextSubmit_eq, hag.lost_nonneg, by linarith [hag.lag_le], hag.dropped_le⟩
  | advance τ hphase =>
      refine h.paid hphase rfl rfl ⟨rfl, rfl, rfl, rfl⟩ (by simp) le_rfl
        (le_add_of_nonneg_right τ.dropped_nonneg) fun a hag => ?_
      obtain ⟨hag, -, hnow⟩ := hag
      exact hag.advance hnow
  | abort τ hphase hstop =>
      exact h.paid hphase rfl rfl ⟨rfl, rfl, rfl, rfl⟩ (by simp) le_rfl
        (le_add_of_nonneg_right τ.dropped_nonneg) fun _ _ => Or.inl hstop

/-! ## What the account says -/

namespace Timeline

variable {v : Timeline} {i : Nat} {x : Spent}

/-- **No batch is early**: at any time there are at most as many as the schedule has slots. -/
theorem Accounts.puts_le_floor (h : v.Accounts i x) {τ : Timing}
    (hτ : v.phase.timing = some τ) (hi : τ.result = i) (hne : ∀ τ₀, v.phase ≠ .opening τ₀)
    (hinterval : 0 < τ.interval) {t : ℚ} (ht : v.clock ≤ t) :
    (v.puts i : ℤ) ≤ ⌊(t - τ.started) / τ.interval⌋ + 1 := by
  rw [← sub_le_iff_le_add, Int.le_floor, Int.cast_sub, Int.cast_natCast, Int.cast_one,
    le_div_iff₀ hinterval]
  have hbegun : τ.started ≤ v.clock := h.started_le τ hτ hne
  rcases h.due τ hτ hi with hzero | hdue
  · rw [hzero, Nat.cast_zero]
    linarith
  · linarith

/-- **A step puts fewer batches than its duration has intervals**, plus one. -/
theorem Accounts.puts_lt (h : v.Accounts i x) {q : Quota} (hq : v.quotas[i]? = some q)
    (hduration : 0 ≤ q.duration) : (v.puts i : ℚ) < q.duration / q.interval + 1 := by
  have hpos := h.interval_pos q hq
  rcases h.within q hq with hzero | hlt
  · rw [hzero, Nat.cast_zero]
    have := div_nonneg hduration hpos.le
    linarith
  · rw [← sub_lt_iff_lt_add, lt_div_iff₀ hpos]
    exact hlt

/-- **Where the missing batches went**: the step ran to its end, so the schedule time it did not put
is the lag it dropped and the lag it ended with, and recorded stalls and what it spent make up for
both. -/
theorem Accounts.shortfall (h : v.Accounts i x) {τ : Timing} {q : Quota}
    (hphase : v.phase = .draining τ) (hi : τ.result = i) (hq : v.quotas[i]? = some q)
    (hrunning : v.stopped = false) :
    q.duration - v.puts i * q.interval = x.dropped + (τ.deadline - τ.nextSubmit) ∧
      q.duration - v.puts i * q.interval ≤ q.stalled + (x.overrun + x.lost) := by
  have hτ : v.phase.timing = some τ := by rw [hphase]; rfl
  obtain ⟨hinterval, hduration⟩ := h.quota_eq τ q hτ hi hq
  have hagrees := h.agrees τ q hτ hi hq
  rw [hphase] at hagrees
  rcases hagrees with hstopped | ⟨⟨hnext, -, hlag, -⟩, -⟩
  · rw [hrunning] at hstopped
    simp at hstopped
  · have hnext' : τ.nextSubmit = τ.deadline - τ.duration + v.puts i * τ.interval + x.dropped :=
      hnext
    have hlag' : τ.deadline - τ.nextSubmit + x.dropped ≤ q.stalled + x.overrun + x.lost := hlag
    rw [hinterval, hduration]
    constructor
    · linarith
    · linarith

end Timeline

end AnalyticsTesting.Generator
