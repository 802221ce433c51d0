import AnalyticsTesting.Generator.Main
import AnalyticsTesting.Generator.Proofs.Moves
import Mathlib.Data.List.Nodup
import Mathlib.Tactic.Linarith

set_option autoImplicit false

/-! # The moves of the pacer

The pacer shares little with the other threads: `PaceView` is that little, and `PaceMove` lists what
one step of the engine can do to it. No worker does anything to it (`WorkerMove.paceView_eq`), and
the many statements of `run_step` that only move the main thread on are one case (`MainPc.Quiet`).
-/

namespace AnalyticsTesting.Generator

variable {η : Type} [SeqHandle η]

/-! ## What the main thread holds -/

namespace MainPc

/-- The local variables of `run_step`, while it runs. -/
def frame : MainPc → Option Frame
  | .publish f | .announce f | .start f | .loop f | .sleep f _ | .allocate f | .stallStart f _
  | .mayPut f _ _ | .put f _ _ | .measure f _ _ _ | .recordStall f _ _ _ | .creditStall f _ _ _
  | .giveBack f _ | .recordOffered f _ | .creditOffered f _ | .advance f | .drain f
  | .drainHead f _ | .drainQueue f _ | .drainInflight f _ | .finish f _ => some f
  | .idle | .stopSet _ | .stopPut _ _ | .stopJoin _ _ | .closed _ => none

/-- The item of the current iteration. -/
def item : MainPc → Option WorkItem
  | .stallStart _ i | .mayPut _ i _ | .put _ i _ | .measure _ i _ _ | .recordStall _ i _ _
  | .creditStall _ i _ _ | .giveBack _ i | .recordOffered _ i | .creditOffered _ i => some i
  | _ => none

/-- A sequence range is allocated, and its item is not in the queue. -/
def pending : MainPc → Bool
  | .stallStart _ _ | .mayPut _ _ _ | .put _ _ _ | .giveBack _ _ => true
  | .measure _ _ _ enqueued | .recordStall _ _ enqueued _ | .creditStall _ _ enqueued _ => !enqueued
  | _ => false

/-- The item is in the queue, and `metrics` has not counted it as offered. -/
def unrecorded : MainPc → Bool
  | .recordOffered _ _ => true
  | .measure _ _ _ enqueued | .recordStall _ _ enqueued _ | .creditStall _ _ enqueued _ => enqueued
  | _ => false

/-- The item is in the queue, and its `StepResult` has not counted it as offered. -/
def uncredited : MainPc → Bool
  | .creditOffered _ _ => true
  | pc => pc.unrecorded

/-- The probe has been taken. -/
def probed : MainPc → Bool
  | .publish _ | .announce _ | .start _ => false
  | _ => true

end MainPc

/-- A move between two places where the main thread holds the same item, has the same range
    pending, and owes the same counters. -/
structure MainPc.Quiet (pc pc' : MainPc) : Prop where
  noFrame : pc'.frame = none → pc.frame = none
  frame : ∀ f', pc'.frame = some f' → ∃ f, pc.frame = some f ∧ f'.result = f.result ∧
    (pc'.probed = true → pc.probed = true ∧ f'.probeRecordCount = f.probeRecordCount)
  item : ∀ i, pc'.item = some i → pc.item = some i
  pending : pc'.pending = pc.pending
  unrecorded : pc'.unrecorded = pc.unrecorded
  uncredited : pc'.uncredited = pc.uncredited

/-- A quiet move inside one call of `run_step`. -/
theorem MainPc.Quiet.of_frame {pc pc' : MainPc} {f f' : Frame} (hf : pc.frame = some f)
    (hf' : pc'.frame = some f') (hresult : f'.result = f.result)
    (hprobe : f'.probeRecordCount = f.probeRecordCount) (hprobed : pc.probed = true)
    (hitem : ∀ i, pc'.item = some i → pc.item = some i) (hpending : pc'.pending = pc.pending)
    (hunrecorded : pc'.unrecorded = pc.unrecorded) (huncredited : pc'.uncredited = pc.uncredited) :
    pc.Quiet pc' where
  noFrame hn := by simp [hf'] at hn
  frame f₁ hf₁ := by
    obtain rfl : f' = f₁ := by simpa [hf'] using hf₁
    exact ⟨f, hf, hresult, fun _ => ⟨hprobed, hprobe⟩⟩
  item := hitem
  pending := hpending
  unrecorded := hunrecorded
  uncredited := huncredited

/-- A move between two places outside `run_step`. -/
theorem MainPc.Quiet.outside {pc pc' : MainPc} (hf : pc.frame = none) (hf' : pc'.frame = none)
    (hitem : pc'.item = none) (hpending : pc'.pending = pc.pending)
    (hunrecorded : pc'.unrecorded = pc.unrecorded) (huncredited : pc'.uncredited = pc.uncredited) :
    pc.Quiet pc' where
  noFrame _ := hf
  frame f' h := by simp [hf'] at h
  item i h := by simp [hitem] at h
  pending := hpending
  unrecorded := hunrecorded
  uncredited := huncredited

@[simp] theorem afterStall_frame (f : Frame) (item : WorkItem) (enqueued : Bool) :
    (afterStall f item enqueued).frame = some f := by
  cases enqueued <;> rfl

@[simp] theorem afterStall_item (f : Frame) (item : WorkItem) (enqueued : Bool) :
    (afterStall f item enqueued).item = some item := by
  cases enqueued <;> rfl

@[simp] theorem afterStall_pending (f : Frame) (item : WorkItem) (enqueued : Bool) :
    (afterStall f item enqueued).pending = !enqueued := by
  cases enqueued <;> rfl

@[simp] theorem afterStall_unrecorded (f : Frame) (item : WorkItem) (enqueued : Bool) :
    (afterStall f item enqueued).unrecorded = enqueued := by
  cases enqueued <;> rfl

@[simp] theorem afterStall_uncredited (f : Frame) (item : WorkItem) (enqueued : Bool) :
    (afterStall f item enqueued).uncredited = enqueued := by
  cases enqueued <;> rfl

@[simp] theorem afterStall_probed (f : Frame) (item : WorkItem) (enqueued : Bool) :
    (afterStall f item enqueued).probed = true := by
  cases enqueued <;> rfl

/-! ## The view -/

/-- The part of a `StepResult` only the pacer writes. -/
structure Span where
  seqStart : Nat
  offered : Nat
  seqEnd : Int

def StepResult.span (r : StepResult) : Span := ⟨r.seqStart, r.offered, r.seqEnd⟩

/-- What the pacer reads and writes alone. -/
structure PaceView where
  main : MainPc
  nextSeq : Nat
  enqueued : List (WorkItem × Nat)
  spans : List Span
  recordsOffered : Nat

def State.paceView (s : State η) : PaceView :=
  ⟨s.main, s.nextSeq, s.logEnqueued, s.results.map StepResult.span, s.metrics.totals.recordsOffered⟩

/-- How many items were put by steps before the `i`-th. -/
def putBefore (enqueued : List (WorkItem × Nat)) (i : Nat) : Nat :=
  enqueued.countP fun x => x.2 < i

theorem putBefore_append (enqueued : List (WorkItem × Nat)) (item : WorkItem) (j i : Nat) :
    putBefore (enqueued ++ [(item, j)]) i = putBefore enqueued i + if j < i then 1 else 0 := by
  simp [putBefore, List.countP_append]

theorem putBefore_eq_length {enqueued : List (WorkItem × Nat)} {i : Nat}
    (h : ∀ x ∈ enqueued, x.2 < i) : putBefore enqueued i = enqueued.length := by
  unfold putBefore
  rw [List.countP_eq_length]
  intro x hx
  simpa using h x hx

theorem putBefore_mono (enqueued : List (WorkItem × Nat)) {i j : Nat} (h : i ≤ j) :
    putBefore enqueued i ≤ putBefore enqueued j := by
  refine List.countP_mono_left fun x _ hx => ?_
  have hlt : x.2 < i := by simpa using hx
  simpa using hlt.trans_le h

/-- The next step's share is the items the `i`-th step put. -/
theorem putBefore_succ (enqueued : List (WorkItem × Nat)) (i : Nat) :
    putBefore enqueued (i + 1) = putBefore enqueued i + enqueued.countP fun x => x.2 = i := by
  unfold putBefore
  induction enqueued with
  | nil => rfl
  | cons x enqueued ih =>
      rw [List.countP_cons, List.countP_cons, List.countP_cons, ih]
      rcases Nat.lt_trichotomy x.2 i with hlt | heq | hgt
      · simp only [hlt, Nat.lt_succ_of_lt hlt, hlt.ne, decide_true, decide_false, if_true,
          Bool.false_eq_true, if_false]
        omega
      · simp only [heq, Nat.lt_succ_self, Nat.lt_irrefl, decide_true, decide_false, if_true,
          Bool.false_eq_true, if_false]
        omega
      · simp only [show ¬ x.2 < i + 1 by omega, show ¬ x.2 < i by omega, hgt.ne', decide_false,
          Bool.false_eq_true, if_false]
        omega

theorem putBefore_lt_succ_iff (enqueued : List (WorkItem × Nat)) (i : Nat) :
    putBefore enqueued i < putBefore enqueued (i + 1) ↔ ∃ x ∈ enqueued, x.2 = i := by
  rw [putBefore_succ, Nat.lt_add_right_iff_pos, List.countP_pos_iff]
  simp only [decide_eq_true_eq]

theorem putBefore_zero (enqueued : List (WorkItem × Nat)) : putBefore enqueued 0 = 0 := by
  simp [putBefore]

theorem getElem?_concat_eq_some {α : Type} {l : List α} {a b : α} {i : Nat}
    (h : (l ++ [a])[i]? = some b) : l[i]? = some b ∨ (i = l.length ∧ a = b) := by
  rcases Nat.lt_trichotomy i l.length with hlt | heq | hgt
  · rw [List.getElem?_append_left hlt] at h
    exact Or.inl h
  · subst heq
    exact Or.inr ⟨rfl, by simpa using h⟩
  · have hlen : (l ++ [a]).length ≤ i := by simpa [Nat.succ_le_iff] using hgt
    have hnone : (l ++ [a])[i]? = none := List.getElem?_eq_none hlen
    simp [hnone] at h

theorem getElem?_set_eq_some {α : Type} {l : List α} {a b : α} {i j : Nat}
    (h : (l.set i a)[j]? = some b) : (i = j ∧ a = b) ∨ (i ≠ j ∧ l[j]? = some b) := by
  by_cases hij : i = j
  · subst hij
    have hlt : i < l.length := by simpa using (List.getElem?_eq_some_iff.1 h).1
    rw [List.getElem?_set_self hlt] at h
    exact Or.inl ⟨rfl, Option.some.inj h⟩
  · rw [List.getElem?_set_ne hij] at h
    exact Or.inr ⟨hij, h⟩

theorem getElem?_modify_eq_some {α : Type} {l : List α} {upd : α → α} {i j : Nat} {b : α}
    (h : (l.modify j upd)[i]? = some b) :
    ∃ a, l[i]? = some a ∧ b = if j = i then upd a else a := by
  rw [List.getElem?_modify] at h
  obtain ⟨a, ha, heq⟩ := Option.map_eq_some_iff.1 h
  exact ⟨a, ha, heq.symm⟩

/-! ## The moves of the pacer -/

/-- What a step of the engine can do to the view. `batch` is the engine's batch size, `count` the
    number of records of a template. -/
inductive PaceMove (batch count : Nat) (v : PaceView) : PaceView → Prop
  | move (pc : MainPc) (hq : v.main.Quiet pc) : PaceMove batch count v { v with main := pc }
  /-- `run_step` starts: a new `StepResult` whose range starts at the next number. -/
  | openStep (f : Frame) (hidle : v.main = .idle) (hbatch : 0 < batch)
      (hf : f.result = v.spans.length) :
      PaceMove batch count v { v with main := .publish f, spans := v.spans ++ [⟨v.nextSeq, 0, 0⟩] }
  /-- The probe is taken. -/
  | start (f f' : Frame) (hmain : v.main = .start f) (hresult : f'.result = f.result)
      (hprobe : f'.probeRecordCount = count) : PaceMove batch count v { v with main := .loop f' }
  /-- A range is taken under `_seq_lock`. -/
  | allocate (f f' : Frame) (item : WorkItem) (hmain : v.main = .allocate f)
      (hresult : f'.result = f.result) (hprobe : f'.probeRecordCount = f.probeRecordCount)
      (hseq : item.seqStart = v.nextSeq) (hcount : item.recordCount = f.probeRecordCount) :
      PaceMove batch count v { v with main := .stallStart f' item, nextSeq := v.nextSeq + batch }
  /-- A range that was never put is given back. -/
  | giveBack (f : Frame) (item : WorkItem) (hmain : v.main = .giveBack f item) :
      PaceMove batch count v
        { v with main := .drain f,
                 nextSeq := if v.nextSeq = item.seqStart + batch then item.seqStart
                            else v.nextSeq }
  /-- The item of the current range goes into the queue. -/
  | put (f : Frame) (item : WorkItem) (t₀ : ℚ) (hmain : v.main = .put f item t₀) :
      PaceMove batch count v
        { v with main := .measure f item t₀ true, enqueued := v.enqueued ++ [(item, f.result)] }
  /-- `metrics.record_offered`. -/
  | recordOffered (f : Frame) (item : WorkItem) (hmain : v.main = .recordOffered f item) :
      PaceMove batch count v
        { v with main := .creditOffered f item,
                 recordsOffered := v.recordsOffered + item.recordCount }
  /-- `result.offered += item.record_count`. -/
  | creditOffered (f : Frame) (item : WorkItem) (hmain : v.main = .creditOffered f item) :
      PaceMove batch count v
        { v with main := .advance f,
                 spans := v.spans.modify f.result
                   fun sp => { sp with offered := sp.offered + item.recordCount } }
  /-- The end of `run_step`: the range of its `StepResult` is closed. -/
  | close (f : Frame) (drained : Bool) (hmain : v.main = .finish f drained) :
      PaceMove batch count v
        { v with main := .idle,
                 spans := v.spans.modify f.result
                   fun sp => { sp with seqEnd := max (sp.seqStart : Int) ((v.nextSeq : Int) - 1) } }

/-! ## The steps of the engine -/

/-- An update that `h` turns into another one, seen through `h`. -/
theorem map_modify_comm {α β : Type} (h : α → β) (l : List α) (i : Nat) {upd : α → α}
    (upd' : β → β) (hupd : ∀ a, h (upd a) = upd' (h a)) :
    (l.modify i upd).map h = (l.map h).modify i upd' := by
  refine List.ext_getElem? fun j => ?_
  rw [List.getElem?_map, List.getElem?_modify, List.getElem?_modify, List.getElem?_map]
  cases l[j]? with
  | none => rfl
  | some a =>
      by_cases hij : i = j
      · simp [hij, hupd]
      · simp [hij]

/-- An update of what `h` does not read. -/
theorem map_modify_of_eq {α β : Type} (h : α → β) (l : List α) (i : Nat) {upd : α → α}
    (hupd : ∀ a, h (upd a) = h a) : (l.modify i upd).map h = l.map h := by
  rw [map_modify_comm h l i id hupd, List.modify_id]

theorem credit_span (r : StepResult) (item : WorkItem) (e : ExportResult) :
    (r.credit item e).span = r.span := by
  unfold StepResult.credit
  split <;> rfl

/-- No worker touches what the pacer owns. -/
theorem WorkerMove.paceView_eq {g : LoadGenerator η} {s t : State η} {w : Nat}
    {pc pc' : WorkerPc} (h : WorkerMove g s w pc t pc') : t.paceView = s.paceView := by
  cases h with
  | success item r hok => rfl
  | failure item r hok =>
      simp only [State.paceView, Metrics.recordFailure, Totals.fail_recordsOffered]
  | credit item r =>
      simp only [State.paceView, State.credit]
      cases hstep : s.step with
      | none => rfl
      | some i => rw [map_modify_of_eq StepResult.span _ _ fun r' => credit_span r' item r]
  | _ => rfl

theorem stepInterval_pos {rps : ℚ} {batch : Nat} {interval : ℚ}
    (h : stepInterval rps batch = some interval) : 0 < batch := by
  unfold stepInterval at h
  split at h
  · simp at h
  · omega

theorem probe_recordCount {g : LoadGenerator η} {probe : RequestTemplate η}
    (h : g.factory.templateFor 0 0 = some probe) : probe.recordCount = g.factory.batchSize :=
  (g.factory.templates_wf probe (List.mem_of_getElem? h)).recordCount_eq

/-- **One statement of the main thread is a move of the pacer.** -/
theorem mainStep_paceMove {g : LoadGenerator η} {s s' : State η} {t wall : ℚ}
    (hstep : mainStep g s t wall = some s') :
    PaceMove g.batchSize g.factory.batchSize s.paceView s'.paceView := by
  have hmove := (mainStep_move hstep).2
  have hview : s.paceView.main = s.main := rfl
  generalize hmain : s.main = pc at hmove
  rw [hmain] at hview
  -- a statement that leaves the item and the counters alone, inside `run_step` and outside of it
  have hquiet : ∀ {u : State η}, u.paceView = { s.paceView with main := u.main } →
      pc.Quiet u.main → PaceMove g.batchSize g.factory.batchSize s.paceView u.paceView := by
    intro u hu hq
    rw [hu]
    exact .move u.main (hview ▸ hq)
  cases hmove with
  | openStep step rest interval hplan hinterval =>
      have hspans : ∀ r : StepResult, (s.results ++ [r]).map StepResult.span
          = s.paceView.spans ++ [r.span] := by
        intro r
        rw [List.map_append]
        rfl
      unfold State.paceView
      rw [hspans]
      exact .openStep _ hview (stepInterval_pos hinterval) (by simp)
  | start f probe hprobe => exact .start _ _ hview rfl (probe_recordCount hprobe)
  | allocate f => exact .allocate _ _ _ hview rfl rfl rfl rfl
  | giveBack f item => exact .giveBack _ _ hview
  | put f item since => exact .put _ _ _ hview
  | recordOffered f item => exact .recordOffered _ _ hview
  | creditOffered f item =>
      unfold State.paceView State.modifyResult
      rw [map_modify_comm StepResult.span _ _
        (fun sp => { sp with offered := sp.offered + item.recordCount }) fun r => rfl]
      exact .creditOffered _ _ hview
  | finish f drained =>
      unfold State.paceView State.modifyResult
      rw [map_modify_comm StepResult.span _ _
        (fun sp => { sp with seqEnd := max (sp.seqStart : Int) ((s.nextSeq : Int) - 1) })
        fun r => rfl]
      exact .close _ _ hview
  | creditStall f item enqueued stalled =>
      have hspans := map_modify_of_eq StepResult.span s.results f.result
        (fun r => (rfl : StepResult.span
          { r with stalledMs := r.stalledMs + stalled * 1000 } = r.span))
      refine hquiet (by simp only [State.paceView, State.modifyResult, hspans]) ?_
      exact .of_frame rfl (afterStall_frame ..) rfl rfl rfl
        (fun _ hi => (afterStall_item ..).symm.trans hi) (afterStall_pending ..)
        (afterStall_unrecorded ..) (afterStall_uncredited ..)
  | measure f item since enqueued hshort =>
      refine hquiet rfl ?_
      exact .of_frame rfl (afterStall_frame ..) rfl rfl rfl
        (fun _ hi => (afterStall_item ..).symm.trans hi) (afterStall_pending ..)
        (afterStall_unrecorded ..) (afterStall_uncredited ..)
  | publish f | announce f =>
      refine hquiet rfl ?_
      constructor <;> simp [MainPc.frame, MainPc.item, MainPc.pending, MainPc.unrecorded,
        MainPc.uncredited, MainPc.probed]
  | openRaises _ _ _ _ | stopSet _ | stopPut _ _ _ | stopPutFull _ _ | stopPutDone _ _
  | stopJoin _ _ | stopJoinDone _ _ => exact hquiet rfl (.outside rfl rfl rfl rfl rfl rfl)
  | _ => exact hquiet rfl (.of_frame rfl rfl rfl rfl rfl (fun _ hi => hi) rfl rfl rfl)

/-- **A step of the engine** leaves the view alone, or is a move of the pacer. -/
theorem engineStep_paceMove {g : LoadGenerator η} {s s' : State η} {a : Action}
    (hstep : engineStep g s a = some s') :
    s'.paceView = s.paceView ∨
      PaceMove g.batchSize g.factory.batchSize s.paceView s'.paceView := by
  rcases engineStep_cases hstep with ⟨t, wall, -, hmain⟩ | ⟨-, hidle, rfl⟩ | ⟨-, rfl⟩ |
    ⟨ts, iso, -, rfl⟩ | ⟨w, pc, u, pc', -, -, hmove, rfl⟩
  · exact Or.inr (mainStep_paceMove hmain)
  · refine Or.inr (.move _ ?_)
    rw [show s.paceView.main = s.main from rfl, hidle]
    exact .outside rfl rfl rfl rfl rfl rfl
  · exact Or.inl rfl
  · exact Or.inl rfl
  · exact Or.inl hmove.paceView_eq

end AnalyticsTesting.Generator
