import AnalyticsTesting.Generator.Proofs.Pacing
import AnalyticsTesting.Lib.Intervals
import Mathlib.Data.Int.Interval
import Mathlib.Data.Int.ConditionallyCompleteOrder

set_option autoImplicit false

/-! # The sequence ranges of the steps and of the manifest

The end of a step's range is clamped: `max(result.seq_start, self._next_seq - 1)`. A step that put
no item therefore claims one number, and the next step starts on that same number. `ExactRanges` is
what the validator relies on; `exactRanges_iff` says that it holds after exactly those runs in which
no step ends without having put an item.

The validator asks `seq_ranges_overlap` whether any two of the manifest's ranges have a number in
common. It compares neighbours after sorting; `seqRangesOverlap_iff` says that this is exact. -/

namespace AnalyticsTesting.Generator

open Transition

variable {η ρ : Type} [SeqHandle η]

/-! ## Steps that are over -/

/-- How many `StepResult`s are final. -/
def PaceView.closedSteps (v : PaceView) : Nat :=
  if v.main.frame = none then v.spans.length else v.spans.length - 1

/-- Every step that is over has put an item. -/
def PaceView.NoEmptyStep (v : PaceView) : Prop :=
  ∀ i < v.closedSteps, ∃ x ∈ v.enqueued, x.2 = i

theorem closedSteps_of_frame {v : PaceView} {f : Frame} (h : v.main.frame = some f) :
    v.closedSteps = v.spans.length - 1 := by
  simp [PaceView.closedSteps, h]

theorem closedSteps_of_frame_none {v : PaceView} (h : v.main.frame = none) :
    v.closedSteps = v.spans.length := by
  simp [PaceView.closedSteps, h]

theorem MainPc.Quiet.frame_none_iff {pc pc' : MainPc} (h : pc.Quiet pc') :
    pc'.frame = none ↔ pc.frame = none := by
  refine ⟨h.noFrame, fun hnone => ?_⟩
  cases hf : pc'.frame with
  | none => rfl
  | some f' =>
      obtain ⟨f, hf', -⟩ := h.frame f' hf
      simp [hnone] at hf'

/-- A move other than the end of a step finishes no step and puts items of the current step only. -/
theorem PaceMove.noEmptyStep_iff {batch count base : Nat} {v v' : PaceView}
    (hmove : PaceMove batch count v v') (h : Pacing batch count base v)
    (hopen : ∀ f drained, v.main ≠ .finish f drained) : v'.NoEmptyStep ↔ v.NoEmptyStep := by
  have hsame : ∀ u : PaceView, u.closedSteps = v.closedSteps → u.enqueued = v.enqueued →
      (u.NoEmptyStep ↔ v.NoEmptyStep) := by
    intro u hclosed henq
    simp only [PaceView.NoEmptyStep, hclosed, henq]
  cases hmove with
  | move pc hq =>
      refine hsame _ ?_ rfl
      simp only [PaceView.closedSteps, hq.frame_none_iff]
  | openStep f hidle hbatch hf =>
      refine hsame _ ?_ rfl
      simp [PaceView.closedSteps, hidle, MainPc.frame]
  | start f f' hmain hresult hprobe =>
      refine hsame _ ?_ rfl
      simp [PaceView.closedSteps, hmain, MainPc.frame]
  | allocate f f' item hmain hresult hprobe hseq hcount =>
      refine hsame _ ?_ rfl
      simp [PaceView.closedSteps, hmain, MainPc.frame]
  | giveBack f item hmain =>
      refine hsame _ ?_ rfl
      simp [PaceView.closedSteps, hmain, MainPc.frame]
  | recordOffered f item hmain =>
      refine hsame _ ?_ rfl
      simp [PaceView.closedSteps, hmain, MainPc.frame]
  | creditOffered f item hmain =>
      refine hsame _ ?_ rfl
      simp [PaceView.closedSteps, hmain, MainPc.frame]
  | close f drained hmain => exact absurd hmain (hopen f drained)
  | put f item t₀ hmain =>
      -- the item is put in the current step, and only earlier steps are closed
      have hframe : f.result + 1 = v.spans.length := h.frame_result f (by rw [hmain]; rfl)
      have hclosed : v.closedSteps = f.result := by
        rw [closedSteps_of_frame (f := f) (by rw [hmain]; rfl), ← hframe, Nat.add_sub_cancel]
      constructor
      · intro hno i hi
        have hi' : i < f.result := hclosed ▸ hi
        obtain ⟨x, hx, hxi⟩ := hno i (by
          rw [closedSteps_of_frame (f := f) rfl, ← hframe, Nat.add_sub_cancel]
          exact hi')
        rcases List.mem_append.1 hx with hold | hnew
        · exact ⟨x, hold, hxi⟩
        · obtain rfl := List.mem_singleton.1 hnew
          exact absurd hxi (show f.result ≠ i by omega)
      · intro hno i hi
        rw [closedSteps_of_frame (f := f) rfl, ← hframe, Nat.add_sub_cancel] at hi
        obtain ⟨x, hx, hxi⟩ := hno i (by rwa [hclosed])
        exact ⟨x, List.mem_append_left _ hx, hxi⟩

/-- The end of a step adds that step to the steps that are over. -/
theorem noEmptyStep_close_iff {batch count base : Nat} {v : PaceView}
    (h : Pacing batch count base v) {f : Frame} {drained : Bool}
    (hmain : v.main = .finish f drained) (updSpan : Span → Span) :
    PaceView.NoEmptyStep { v with main := .idle, spans := v.spans.modify f.result updSpan } ↔
      v.NoEmptyStep ∧ ∃ x ∈ v.enqueued, x.2 = f.result := by
  have hframe : f.result + 1 = v.spans.length := h.frame_result f (by rw [hmain]; rfl)
  have hclosed : v.closedSteps = f.result := by
    rw [closedSteps_of_frame (f := f) (by rw [hmain]; rfl), ← hframe, Nat.add_sub_cancel]
  have hclosed' : PaceView.closedSteps
      { v with main := .idle, spans := v.spans.modify f.result updSpan } = f.result + 1 := by
    rw [closedSteps_of_frame_none rfl, List.length_modify, hframe]
  constructor
  · intro hno
    refine ⟨fun i hi => hno i ?_, hno f.result ?_⟩
    · rw [hclosed'] ; omega
    · rw [hclosed'] ; omega
  · rintro ⟨hno, hlast⟩ i hi
    rw [hclosed'] at hi
    rcases Nat.lt_succ_iff_lt_or_eq.1 hi with hlt | rfl
    · exact hno i (by rwa [hclosed])
    · exact hlast

/-! ## One step, one run -/

/-- When the main thread closes a step, that step has put an item. -/
def ClosesNoEmptyStep (s : State η) (a : Action) : Prop :=
  ∀ t wall f drained, a = .main t wall → s.main = .finish f drained →
    ∃ x ∈ s.logEnqueued, x.2 = f.result

theorem engineStep_noEmptyStep_iff {g : LoadGenerator η} {s s' : State η} {a : Action}
    (h : Paced g s) (hstep : engineStep g s a = some s') :
    s'.paceView.NoEmptyStep ↔ s.paceView.NoEmptyStep ∧ ClosesNoEmptyStep s a := by
  by_cases hfinish : ∃ t wall f drained, a = .main t wall ∧ s.main = .finish f drained
  · obtain ⟨t, wall, f, drained, rfl, hmain⟩ := hfinish
    have hview : ∃ updSpan, s'.paceView
        = { s.paceView with main := .idle, spans := s.paceView.spans.modify f.result updSpan } := by
      have hmove := (mainStep_move hstep).2
      rw [hmain] at hmove
      cases hmove with
      | finish =>
          refine ⟨fun sp => { sp with seqEnd := max (sp.seqStart : Int) ((s.nextSeq : Int) - 1) },
            ?_⟩
          unfold State.paceView State.modifyResult
          rw [map_modify_comm StepResult.span _ _
            (fun sp => { sp with seqEnd := max (sp.seqStart : Int) ((s.nextSeq : Int) - 1) })
            fun r => rfl]
    obtain ⟨updSpan, hview⟩ := hview
    rw [hview, noEmptyStep_close_iff h (show s.paceView.main = _ from hmain) updSpan]
    refine and_congr_right fun _ => ⟨fun hx t' wall' f' drained' _ hmain' => ?_, fun hP => ?_⟩
    · obtain ⟨rfl, -⟩ : f = f' ∧ drained = drained' := by simpa [hmain] using hmain'
      exact hx
    · exact hP t wall f drained rfl hmain
  · have hP : ClosesNoEmptyStep s a := by
      intro t wall f drained ha hmain
      exact absurd ⟨t, wall, f, drained, ha, hmain⟩ hfinish
    rcases engineStep_cases hstep with ⟨t, wall, rfl, hmain⟩ | ⟨-, hidle, rfl⟩ | ⟨-, rfl⟩ |
      ⟨ts, iso, -, rfl⟩ | ⟨w, pc, u, pc', -, -, hmove, rfl⟩
    · have hnot : ∀ f drained, s.paceView.main ≠ .finish f drained := fun f drained hf =>
        hfinish ⟨t, wall, f, drained, rfl, hf⟩
      rw [(mainStep_paceMove hmain).noEmptyStep_iff h hnot]
      exact (and_iff_left hP).symm
    · have hclosed : PaceView.closedSteps { s.paceView with main := .stopSet false }
          = s.paceView.closedSteps := by
        simp [PaceView.closedSteps, State.paceView, hidle, MainPc.frame]
      have hsame : PaceView.NoEmptyStep { s.paceView with main := .stopSet false }
          ↔ s.paceView.NoEmptyStep := by
        simp only [PaceView.NoEmptyStep, hclosed]
      exact hsame.trans (and_iff_left hP).symm
    · exact (and_iff_left hP).symm
    · exact (and_iff_left hP).symm
    · rw [show State.paceView { u with workers := s.workers.set w pc' } = s.paceView from
        hmove.paceView_eq]
      exact (and_iff_left hP).symm

/-- The steps of a run have all put an item if no end of a step met an empty one. -/
theorem noEmptyStep_iff_meets {g : LoadGenerator η} {plan : List Step} {as : List Action}
    {s : State η} (hrun : (engine g plan).run (engineInit g plan) as = some s) :
    s.paceView.NoEmptyStep ↔
      (engine g plan).Meets ClosesNoEmptyStep (engineInit g plan) as := by
  have hinit : (engineInit g plan).paceView.NoEmptyStep := by
    intro i hi
    simp [PaceView.closedSteps, State.paceView, engineInit] at hi
  have hflag := System.meets_iff_of_flag (M := engine g plan) (P := ClosesNoEmptyStep)
    (F := fun s => s.paceView.NoEmptyStep) (I := Paced g)
    (fun s a s' hI hstep => engineStep_paced hI hstep)
    (fun s a s' hI hstep => engineStep_noEmptyStep_iff hI hstep) (engineInit_paced g plan) hrun
  rw [hflag]
  exact and_iff_right hinit

/-! ## Exact ranges -/

/-- The ranges say what was offered: the interval of each `StepResult` has as many integers as the
step offered records, consecutive intervals adjoin without overlapping, and the manifest's
interval is made of the numbers of the items put. -/
structure ExactRanges (g : LoadGenerator η) (s : State η) : Prop where
  offered : ∀ r ∈ s.results, (Finset.Icc (r.seqStart : Int) r.seqEnd).card = r.offered
  adjacent : ∀ (i : Nat) (r r' : StepResult), s.results[i]? = some r →
    s.results[i + 1]? = some r' → (r'.seqStart : Int) = r.seqEnd + 1
  disjoint : ∀ (i j : Nat) (r r' : StepResult), i < j → s.results[i]? = some r →
    s.results[j]? = some r' → r.seqEnd < r'.seqStart
  manifest : ∀ m, manifest g s = some m → ∃ e, m.generators = [e] ∧
    (Finset.Icc e.seqMin e.seqMax).card = m.totalOffered ∧
    ∀ n : Nat, (e.seqMin ≤ n ∧ (n : Int) ≤ e.seqMax) ↔ ∃ x ∈ s.logEnqueued, n ∈ x.1.numbers

/-! ### The spans of an engine at rest -/

/-- Where no step is running, the range of each step follows from what the steps put. -/
structure SpanAtRest (batch : Nat) (enqueued : List (WorkItem × Nat)) (i : Nat) (sp : Span) :
    Prop where
  seqStart : sp.seqStart = batch * putBefore enqueued i
  offered : sp.offered + batch * putBefore enqueued i = batch * putBefore enqueued (i + 1)
  seqEnd : sp.seqEnd = max (sp.seqStart : Int) ((batch * putBefore enqueued (i + 1) : Nat) - 1)

theorem Pacing.spanAtRest {batch base : Nat} {v : PaceView} (h : Pacing batch batch base v)
    (hrest : v.main.frame = none) {i : Nat} {sp : Span} (hi : v.spans[i]? = some sp) :
    SpanAtRest batch v.enqueued i sp := by
  refine ⟨h.start_eq i sp hi, ?_, h.end_eq i sp hi (Or.inl hrest)⟩
  have huncredited : v.main.uncredited = false := by
    cases hmain : v.main <;> simp [hmain, MainPc.frame] at hrest <;> rfl
  simpa [huncredited] using h.offered_eq i sp hi

namespace SpanAtRest

variable {batch : Nat} {enqueued : List (WorkItem × Nat)} {i : Nat} {sp : Span}

/-- A step that put an item ends on the last number of its last item. -/
theorem seqEnd_of_put (h : SpanAtRest batch enqueued i sp) (hbatch : 0 < batch)
    (hput : ∃ x ∈ enqueued, x.2 = i) :
    sp.seqEnd + 1 = (batch * putBefore enqueued (i + 1) : Nat) := by
  have hlt := (putBefore_lt_succ_iff enqueued i).2 hput
  have hmul : batch * putBefore enqueued i < batch * putBefore enqueued (i + 1) :=
    (Nat.mul_lt_mul_left hbatch).2 hlt
  rw [h.seqEnd, h.seqStart]
  omega

/-- A step that put nothing claims the number it starts on. -/
theorem seqEnd_of_empty (h : SpanAtRest batch enqueued i sp) (hput : ¬ ∃ x ∈ enqueued, x.2 = i) :
    sp.seqEnd = sp.seqStart ∧ sp.offered = 0 := by
  have hmono := putBefore_mono enqueued (show i ≤ i + 1 by omega)
  have heq : putBefore enqueued (i + 1) = putBefore enqueued i := by
    have hnlt := mt (putBefore_lt_succ_iff enqueued i).1 hput
    omega
  have hoffered := h.offered
  have hend := h.seqEnd
  rw [heq, h.seqStart] at hend
  rw [heq] at hoffered
  rw [h.seqStart]
  omega

/-- **The interval of a step is exact if and only if the step put an item.** -/
theorem card_eq_offered_iff (h : SpanAtRest batch enqueued i sp) (hbatch : 0 < batch) :
    (Finset.Icc (sp.seqStart : Int) sp.seqEnd).card = sp.offered ↔ ∃ x ∈ enqueued, x.2 = i := by
  rw [Int.card_Icc]
  by_cases hput : ∃ x ∈ enqueued, x.2 = i
  · have hend := h.seqEnd_of_put hbatch hput
    have hstart := h.seqStart
    have hoffered := h.offered
    refine iff_of_true ?_ hput
    omega
  · obtain ⟨hend, hoffered⟩ := h.seqEnd_of_empty hput
    refine iff_of_false ?_ hput
    omega

end SpanAtRest

section Rest

/-! An engine at rest whose steps have all put an item. -/

variable {g : LoadGenerator η} {s : State η} {i : Nat} {r : StepResult}

omit [SeqHandle η] in
theorem span_of_result (hi : s.results[i]? = some r) : s.paceView.spans[i]? = some r.span := by
  rw [State.paceView, List.getElem?_map, hi]
  rfl

theorem seqStart_eq_put (h : Pacing g.batchSize g.batchSize 0 s.paceView)
    (hi : s.results[i]? = some r) : r.seqStart = g.batchSize * putBefore s.logEnqueued i :=
  h.start_eq _ _ (span_of_result hi)

theorem batchSize_pos (h : Pacing g.batchSize g.batchSize 0 s.paceView)
    (hi : s.results[i]? = some r) : 0 < g.batchSize := by
  refine h.batch_pos fun hnil => ?_
  simpa [hnil] using span_of_result hi

omit [SeqHandle η] in
theorem exists_put (hrest : s.main.frame = none) (hno : s.paceView.NoEmptyStep)
    (hi : s.results[i]? = some r) : ∃ x ∈ s.logEnqueued, x.2 = i := by
  refine hno i ?_
  rw [closedSteps_of_frame_none hrest]
  exact (List.getElem?_eq_some_iff.1 (span_of_result hi)).1

theorem seqEnd_eq_put (h : Pacing g.batchSize g.batchSize 0 s.paceView)
    (hrest : s.main.frame = none) (hno : s.paceView.NoEmptyStep) (hi : s.results[i]? = some r) :
    r.seqEnd + 1 = (g.batchSize * putBefore s.logEnqueued (i + 1) : Nat) :=
  (h.spanAtRest hrest (span_of_result hi)).seqEnd_of_put (batchSize_pos h hi)
    (exists_put hrest hno hi)

theorem seqMin_eq (h : Pacing g.batchSize g.batchSize 0 s.paceView) : seqMin s.results = 0 := by
  unfold seqMin
  cases hres : s.results with
  | nil => rfl
  | cons first rest =>
      have hstart := seqStart_eq_put h (i := 0) (r := first) (by rw [hres]; rfl)
      simp [hstart, putBefore_zero]

theorem seqMax_eq (h : Pacing g.batchSize g.batchSize 0 s.paceView) (hrest : s.main.frame = none)
    (hno : s.paceView.NoEmptyStep) :
    seqMax s.results + 1 = (g.batchSize * s.logEnqueued.length : Nat) := by
  have hlt : ∀ x ∈ s.logEnqueued, x.2 < s.results.length := by
    intro x hx
    simpa [State.paceView] using h.step_lt x hx
  unfold seqMax
  cases hlast : s.results.getLast? with
  | none =>
      have hnil : s.results = [] := List.getLast?_eq_none_iff.1 hlast
      have hempty : s.logEnqueued = [] := by
        refine List.eq_nil_iff_forall_not_mem.2 fun x hx => ?_
        simpa [hnil] using hlt x hx
      simp [hempty]
  | some last =>
      have hi : s.results[s.results.length - 1]? = some last := by
        rwa [← List.getLast?_eq_getElem?]
      have hpos := (List.getElem?_eq_some_iff.1 hi).1
      have hall : putBefore s.logEnqueued (s.results.length - 1 + 1) = s.logEnqueued.length := by
        refine putBefore_eq_length fun x hx => ?_
        have := hlt x hx
        omega
      show last.seqEnd + 1 = _
      rw [seqEnd_eq_put h hrest hno hi, hall]

theorem recordsOffered_eq (h : Pacing g.batchSize g.batchSize 0 s.paceView)
    (hrest : s.main.frame = none) :
    s.metrics.totals.recordsOffered = g.batchSize * s.logEnqueued.length := by
  have hitem : s.paceView.main.item = none := by
    show s.main.item = none
    cases hmain : s.main <;> simp [hmain, MainPc.frame] at hrest <;> rfl
  exact (h.recordsOffered_eq hitem).trans (Nat.zero_add _)

theorem exactRanges_of_noEmptyStep (h : Pacing g.batchSize g.batchSize 0 s.paceView)
    (hrest : s.main.frame = none) (hno : s.paceView.NoEmptyStep) : ExactRanges g s := by
  refine ⟨?_, ?_, ?_, ?_⟩
  -- a range is as long as what its step offered, because the step put an item
  · intro r hr
    obtain ⟨i, hi⟩ := List.mem_iff_getElem?.1 hr
    exact ((h.spanAtRest hrest (span_of_result hi)).card_eq_offered_iff (batchSize_pos h hi)).2
      (exists_put hrest hno hi)
  · intro i r r' hi hi'
    rw [seqEnd_eq_put h hrest hno hi, seqStart_eq_put h hi']
  · intro i j r r' hij hi hj
    have hle : g.batchSize * putBefore s.logEnqueued (i + 1)
        ≤ g.batchSize * putBefore s.logEnqueued j :=
      Nat.mul_le_mul_left _ (putBefore_mono _ hij)
    have hend := seqEnd_eq_put h hrest hno hi
    rw [seqStart_eq_put h hj]
    omega
  · intro m hm
    unfold manifest at hm
    split at hm
    case h_2 => simp at hm
    case h_1 hclosed =>
      obtain rfl := Option.some.inj hm
      have hmax := seqMax_eq h hrest hno
      refine ⟨_, rfl, ?_, ?_⟩
      · show (Finset.Icc (seqMin s.results) (seqMax s.results)).card
          = s.metrics.totals.recordsOffered
        rw [Int.card_Icc, seqMin_eq h, recordsOffered_eq h hrest]
        omega
      · intro n
        show seqMin s.results ≤ (n : Int) ∧ (n : Int) ≤ seqMax s.results ↔ _
        have hcover := h.mem_numbers_iff n
        rw [seqMin_eq h]
        refine Iff.trans ?_ hcover.symm
        show _ ↔ n < g.batchSize * s.logEnqueued.length
        omega

end Rest

/-- **When the manifest's ranges are exact.** After a run of a launched engine the ranges are exact
if and only if no step of the run ended without having put an item. -/
theorem exactRanges_iff {cfg : RunConfig ρ} {g : LoadGenerator η} (hlaunch : launch η cfg = some g)
    {plan : List Step} {as : List Action} {s : State η}
    (hrun : (engine g plan).run (engineInit g plan) as = some s) (hrest : s.main.frame = none) :
    ExactRanges g s ↔ (engine g plan).Meets ClosesNoEmptyStep (engineInit g plan) as := by
  have hreach : (engine g plan).Reachable s := ⟨as, hrun⟩
  have hpacing := (launch_launched hlaunch).pacing hreach
  rw [← noEmptyStep_iff_meets hrun]
  refine ⟨fun hexact i hi => ?_, exactRanges_of_noEmptyStep hpacing hrest⟩
  rw [closedSteps_of_frame_none hrest] at hi
  obtain ⟨r, hr⟩ : ∃ r, s.results[i]? = some r :=
    ⟨_, List.getElem?_eq_getElem (by simpa [State.paceView] using hi)⟩
  have hbatch := batchSize_pos hpacing hr
  exact ((hpacing.spanAtRest hrest (span_of_result hr)).card_eq_offered_iff hbatch).1
    (hexact.offered r (List.mem_of_getElem? hr))

/-- One step whose only item is acknowledged before the run ends. -/
def ackedRun : List Action :=
  mainRuns 13 0 ++ workerExports 0 1 ++ workerAcked 0 ++ mainRuns 6 1 ++ [.leave] ++ mainRuns 5 1

/-- Exact ranges of a run with one item. -/
theorem exactRanges_iff_ackedRun : ∃ (g : LoadGenerator BenchSeq) (s : State BenchSeq),
    s.main = .closed false ∧ (ExactRanges g s ↔ (engine g [⟨0, 1, 1⟩]).Meets ClosesNoEmptyStep
      (engineInit g [⟨0, 1, 1⟩]) ackedRun) := by
  obtain ⟨g, s, hg, hrun, hclosed⟩ := exists_of_runFrom
    (launch BenchSeq (plainConfig 1 1 1)) [⟨0, 1, 1⟩] ackedRun
    (P := fun s => s.main = .closed false) (by decide +kernel)
  have hmain : s.main = .closed false := of_decide_eq_true hclosed
  exact ⟨g, s, hmain, exactRanges_iff hg hrun (by rw [hmain]; rfl)⟩

/-- SIGINT before the first item of the only step. -/
def interruptedRun : List Action :=
  mainRuns 4 0 ++ [.signal] ++ mainRuns 6 0 ++ [.leave] ++ mainRuns 5 0

/-- **The clamp claims a number nobody offered**: after a run that was interrupted before its first
item, the range of the step has one integer and its offered count is 0. -/
theorem not_exactRanges_interruptedRun :
    ¬ ∀ (cfg : RunConfig Unit) (g : LoadGenerator BenchSeq) (plan : List Step)
        (as : List Action) (s : State BenchSeq), launch BenchSeq cfg = some g →
        (engine g plan).run (engineInit g plan) as = some s → s.main = .closed false →
        ExactRanges g s := by
  intro h
  obtain ⟨g, s, hg, hrun, hP⟩ := exists_of_runFrom
    (launch BenchSeq (plainConfig 1 1 1)) [⟨0, 1, 1⟩] interruptedRun
    (P := fun s => s.main = .closed false ∧
      s.results.map (fun r => (r.seqStart, r.seqEnd, r.offered)) = [(0, 0, 0)])
    (by decide +kernel)
  obtain ⟨hclosed, hresults⟩ : s.main = .closed false ∧
      s.results.map (fun r => (r.seqStart, r.seqEnd, r.offered)) = [(0, 0, 0)] :=
    of_decide_eq_true hP
  obtain ⟨r, hr, heq⟩ := List.map_eq_singleton_iff.1 hresults
  obtain ⟨hstart, hend, hoffered⟩ : r.seqStart = 0 ∧ r.seqEnd = 0 ∧ r.offered = 0 := by
    simpa using heq
  have hcard := (h _ g _ _ s hg hrun hclosed).offered r (by simp [hr])
  rw [hstart, hend, hoffered] at hcard
  exact absurd hcard (by decide)

/-! ## Overlapping ranges -/

/-- `sorted(ranges)` is a rearrangement of the ranges in lexicographic order. -/
theorem sortedRanges_spec (ranges : List (Int × Int)) :
    let ordered := ranges.mergeSort fun a b => decide (toLex a ≤ toLex b)
    ordered.Perm ranges ∧ ordered.Pairwise fun a b => toLex a ≤ toLex b := by
  refine ⟨List.mergeSort_perm _ _, ?_⟩
  have htrans : ∀ a b c : Int × Int, decide (toLex a ≤ toLex b) = true →
      decide (toLex b ≤ toLex c) = true → decide (toLex a ≤ toLex c) = true := by
    intro a b c hab hbc
    exact decide_eq_true ((of_decide_eq_true hab).trans (of_decide_eq_true hbc))
  have htotal : ∀ a b : Int × Int,
      (decide (toLex a ≤ toLex b) || decide (toLex b ≤ toLex a)) = true := by
    intro a b
    simpa using le_total (toLex a) (toLex b)
  exact (List.pairwise_mergeSort htrans htotal ranges).imp of_decide_eq_true

/-- **Overlap detection is exact**: two entries at different positions have a number in common. -/
theorem seqRangesOverlap_iff (ranges : List (Int × Int)) (hwf : ∀ r ∈ ranges, r.1 ≤ r.2) :
    seqRangesOverlap ranges = true ↔
      ∃ (i j : Nat) (a b : Int × Int), i ≠ j ∧ ranges[i]? = some a ∧ ranges[j]? = some b ∧
        ∃ n, (a.1 ≤ n ∧ n ≤ a.2) ∧ b.1 ≤ n ∧ n ≤ b.2 := by
  obtain ⟨hperm, hsorted⟩ := sortedRanges_spec ranges
  refine Iff.trans ?_ ((Intervals.exists_neighbours_iff hwf hperm hsorted).trans
    Intervals.not_pairwise_not_meets_iff)
  simp [seqRangesOverlap]

/-- A range inside another one, listed after a range that overlaps neither. -/
theorem seqRangesOverlap_nested :
    (∀ r ∈ [((0 : Int), (9 : Int)), (20, 29), (3, 4)], r.1 ≤ r.2) ∧
      seqRangesOverlap [(0, 9), (20, 29), (3, 4)] = true := by
  have hwf : ∀ r ∈ [((0 : Int), (9 : Int)), (20, 29), (3, 4)], r.1 ≤ r.2 := by decide
  exact ⟨hwf, (seqRangesOverlap_iff _ hwf).2
    ⟨0, 2, (0, 9), (3, 4), by decide, rfl, rfl, 3, by decide, by decide⟩⟩

end AnalyticsTesting.Generator
