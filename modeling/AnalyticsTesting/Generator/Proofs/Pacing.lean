import AnalyticsTesting.Generator.Proofs.PaceMoves

set_option autoImplicit false

/-! # The pacer's numbering

How the main thread hands out sequence numbers. The items put into the queue tile the numbers from
0 on in steps of the batch size (`Pacing.seqStart_eq`), the next number lies one batch further
while an allocated item has not been put yet (`Pacing.nextSeq_eq`), and each `StepResult` covers
exactly the items its own step put (`Pacing.start_eq`, `offered_eq`, `end_eq`).

The invariant is stated over the view of the pacer, so every step that leaves the view alone
preserves it, and the rest are the cases of `PaceMove`. -/

namespace AnalyticsTesting.Generator

variable {η : Type} [SeqHandle η]

/-! ## The invariant -/

/-- The numbering of the items and steps, in a state where the pacer is anywhere. `batch` is the
    engine's batch size, `count` the number of records of a template, `base` what the metrics had
    counted before the run. -/
structure Pacing (batch count base : Nat) (v : PaceView) : Prop where
  seqStart_eq : ∀ k x, v.enqueued[k]? = some x → x.1.seqStart = batch * k
  recordCount_eq : ∀ x ∈ v.enqueued, x.1.recordCount = count
  step_lt : ∀ x ∈ v.enqueued, x.2 < v.spans.length
  nextSeq_eq : v.nextSeq = batch * (v.enqueued.length + if v.main.pending then 1 else 0)
  pending_eq : v.main.pending = true → ∀ item, v.main.item = some item →
    item.seqStart = batch * v.enqueued.length
  item_count : ∀ item, v.main.item = some item → item.recordCount = count
  frame_result : ∀ f, v.main.frame = some f → f.result + 1 = v.spans.length
  frame_probe : ∀ f, v.main.frame = some f → v.main.probed = true → f.probeRecordCount = count
  batch_pos : v.spans ≠ [] → 0 < batch
  offered_total :
    v.recordsOffered + (if v.main.unrecorded then count else 0) = base + count * v.enqueued.length
  start_eq : ∀ i sp, v.spans[i]? = some sp → sp.seqStart = batch * putBefore v.enqueued i
  offered_eq : ∀ i sp, v.spans[i]? = some sp →
    sp.offered + count * putBefore v.enqueued i
        + (if v.main.uncredited ∧ i + 1 = v.spans.length then count else 0)
      = count * putBefore v.enqueued (i + 1)
  end_eq : ∀ i sp, v.spans[i]? = some sp → (v.main.frame = none ∨ i + 1 < v.spans.length) →
    sp.seqEnd = max (sp.seqStart : Int) ((batch * putBefore v.enqueued (i + 1) : Nat) - 1)

namespace Pacing

variable {batch count base : Nat} {v : PaceView}

/-- What holds of the value an option has. -/
theorem of_eq_some {α : Type} {o : Option α} {a : α} {P : α → Prop} (ho : o = some a) (h : P a) :
    ∀ b, o = some b → P b := by
  intro b hb
  obtain rfl : a = b := Option.some.inj (ho.symm.trans hb)
  exact h

/-- While a step is open, the ranges of the steps before it are as they were. -/
theorem end_eq_of_frame (h : Pacing batch count base v) {pc : MainPc} {f : Frame}
    (hpc : pc.frame = some f) :
    ∀ i sp, v.spans[i]? = some sp → (pc.frame = none ∨ i + 1 < v.spans.length) →
      sp.seqEnd = max (sp.seqStart : Int) ((batch * putBefore v.enqueued (i + 1) : Nat) - 1) := by
  intro i sp hi hor
  refine h.end_eq i sp hi (hor.imp_left fun hnone => ?_)
  rw [hpc] at hnone
  exact absurd hnone (Option.some_ne_none f)

/-- The frame of a step belongs to the last of the spans. -/
theorem frame_result_of (h : Pacing batch count base v) {pc : MainPc} {f f' : Frame}
    (hmain : v.main.frame = some f) (hpc : pc.frame = some f') (hresult : f'.result = f.result) :
    ∀ f₁, pc.frame = some f₁ → f₁.result + 1 = v.spans.length :=
  of_eq_some hpc (by rw [hresult, h.frame_result f hmain])

/-- The probe stays what it was. -/
theorem frame_probe_of (h : Pacing batch count base v) {pc : MainPc} {f f' : Frame}
    (hmain : v.main.frame = some f) (hprobed : v.main.probed = true) (hpc : pc.frame = some f')
    (hprobe : f'.probeRecordCount = f.probeRecordCount) :
    ∀ f₁, pc.frame = some f₁ → pc.probed = true → f₁.probeRecordCount = count :=
  of_eq_some hpc fun _ => by rw [hprobe, h.frame_probe f hmain hprobed]

theorem batch_pos_modify (h : Pacing batch count base v) {k : Nat} {upd : Span → Span} :
    v.spans.modify k upd ≠ [] → 0 < batch := by
  intro hne
  refine h.batch_pos fun hnil => hne ?_
  rw [hnil, List.modify_nil]

/-- An update of a span that leaves its first number alone. -/
theorem start_eq_modify (h : Pacing batch count base v) {k : Nat} {upd : Span → Span}
    (hkeep : ∀ sp, (upd sp).seqStart = sp.seqStart) :
    ∀ i sp, (v.spans.modify k upd)[i]? = some sp →
      sp.seqStart = batch * putBefore v.enqueued i := by
  intro i sp hi
  obtain ⟨sp₀, hsp₀, rfl⟩ := getElem?_modify_eq_some hi
  rw [← h.start_eq i sp₀ hsp₀]
  split
  · exact hkeep sp₀
  · rfl

/-- The pacer moves on without touching what it shares: only where it is changes. -/
theorem move (h : Pacing batch count base v) {pc : MainPc} (hq : v.main.Quiet pc) :
    Pacing batch count base { v with main := pc } where
  seqStart_eq := h.seqStart_eq
  recordCount_eq := h.recordCount_eq
  step_lt := h.step_lt
  nextSeq_eq := by simpa only [hq.pending] using h.nextSeq_eq
  pending_eq := by
    intro hp item hi
    exact h.pending_eq (by simpa only [hq.pending] using hp) item (hq.item item hi)
  item_count item hi := h.item_count item (hq.item item hi)
  frame_result := by
    intro f hf
    obtain ⟨f', hf', heq, _⟩ := hq.frame f hf
    rw [heq]
    exact h.frame_result f' hf'
  frame_probe := by
    intro f hf hp
    obtain ⟨f', hf', _, hprobe⟩ := hq.frame f hf
    obtain ⟨hp', heq⟩ := hprobe hp
    rw [heq]
    exact h.frame_probe f' hf' hp'
  batch_pos := h.batch_pos
  offered_total := by simpa only [hq.unrecorded] using h.offered_total
  start_eq := h.start_eq
  offered_eq := by simpa only [hq.uncredited] using h.offered_eq
  end_eq := by
    intro i sp hi hor
    exact h.end_eq i sp hi (hor.imp_left fun hn => hq.noFrame hn)

/-- `run_step` starts: a new `StepResult` whose range starts at the next number. -/
theorem openStep (h : Pacing batch count base v) (hidle : v.main = .idle) (hbatch : 0 < batch)
    (f : Frame) (hf : f.result = v.spans.length) :
    Pacing batch count base
      { v with main := .publish f, spans := v.spans ++ [⟨v.nextSeq, 0, 0⟩] } where
  seqStart_eq := h.seqStart_eq
  recordCount_eq := h.recordCount_eq
  step_lt x hx := by
    have := h.step_lt x hx
    simp only [List.length_append, List.length_singleton]
    omega
  nextSeq_eq := by simpa [hidle, MainPc.pending] using h.nextSeq_eq
  pending_eq := by simp [MainPc.pending]
  item_count := by simp [MainPc.item]
  frame_result := of_eq_some rfl (by simp [hf])
  frame_probe := by simp [MainPc.probed]
  batch_pos _ := hbatch
  offered_total := by simpa [hidle, MainPc.unrecorded] using h.offered_total
  start_eq := by
    intro i sp hi
    rcases getElem?_concat_eq_some hi with hold | ⟨hilen, rfl⟩
    · exact h.start_eq i sp hold
    · rw [hilen, putBefore_eq_length h.step_lt]
      simpa [hidle, MainPc.pending] using h.nextSeq_eq
  offered_eq := by
    intro i sp hi
    rcases getElem?_concat_eq_some hi with hold | ⟨hilen, rfl⟩
    · simpa [hidle, MainPc.uncredited, MainPc.unrecorded] using h.offered_eq i sp hold
    · have hlater : ∀ x ∈ v.enqueued, x.2 < v.spans.length + 1 := fun x hx =>
        (h.step_lt x hx).trans (Nat.lt_succ_self _)
      rw [hilen, putBefore_eq_length h.step_lt, putBefore_eq_length hlater]
      simp [MainPc.uncredited, MainPc.unrecorded]
  end_eq := by
    intro i sp hi hor
    rcases getElem?_concat_eq_some hi with hold | ⟨hilen, rfl⟩
    · exact h.end_eq i sp hold (Or.inl (by simp [hidle, MainPc.frame]))
    · rcases hor with hnone | hlt
      · simp [MainPc.frame] at hnone
      · simp only [List.length_append, List.length_singleton] at hlt
        omega

/-- The probe is taken. -/
theorem start (h : Pacing batch count base v) {f f' : Frame} (hmain : v.main = .start f)
    (hresult : f'.result = f.result) (hprobe : f'.probeRecordCount = count) :
    Pacing batch count base { v with main := .loop f' } where
  seqStart_eq := h.seqStart_eq
  recordCount_eq := h.recordCount_eq
  step_lt := h.step_lt
  nextSeq_eq := by simpa [hmain, MainPc.pending] using h.nextSeq_eq
  pending_eq := by simp [MainPc.pending]
  item_count := by simp [MainPc.item]
  frame_result := h.frame_result_of (by rw [hmain]; rfl) rfl hresult
  frame_probe := of_eq_some rfl fun _ => hprobe
  batch_pos := h.batch_pos
  offered_total := by simpa [hmain, MainPc.unrecorded] using h.offered_total
  start_eq := h.start_eq
  offered_eq := by
    intro i sp hi
    simpa [hmain, MainPc.uncredited, MainPc.unrecorded] using h.offered_eq i sp hi
  end_eq := h.end_eq_of_frame rfl

/-- A range is taken under `_seq_lock`. -/
theorem allocate (h : Pacing batch count base v) {f f' : Frame} (item : WorkItem)
    (hmain : v.main = .allocate f) (hresult : f'.result = f.result)
    (hprobe : f'.probeRecordCount = f.probeRecordCount) (hseq : item.seqStart = v.nextSeq)
    (hcount : item.recordCount = f.probeRecordCount) :
    Pacing batch count base
      { v with main := .stallStart f' item, nextSeq := v.nextSeq + batch } := by
  have hnext : v.nextSeq = batch * v.enqueued.length := by
    simpa [hmain, MainPc.pending] using h.nextSeq_eq
  have hprobed : f.probeRecordCount = count :=
    h.frame_probe f (by rw [hmain]; rfl) (by rw [hmain]; rfl)
  exact
    { seqStart_eq := h.seqStart_eq
      recordCount_eq := h.recordCount_eq
      step_lt := h.step_lt
      nextSeq_eq := by simp [MainPc.pending, hnext, Nat.mul_add]
      pending_eq := by
        intro _ i hi
        obtain rfl : item = i := by simpa [MainPc.item] using hi
        simp [hseq, hnext]
      item_count := of_eq_some rfl (by rw [hcount, hprobed])
      frame_result := h.frame_result_of (by rw [hmain]; rfl) rfl hresult
      frame_probe := h.frame_probe_of (by rw [hmain]; rfl) (by rw [hmain]; rfl) rfl hprobe
      batch_pos := h.batch_pos
      offered_total := by simpa [hmain, MainPc.unrecorded] using h.offered_total
      start_eq := h.start_eq
      offered_eq := by
        intro i sp hi
        simpa [hmain, MainPc.uncredited, MainPc.unrecorded] using h.offered_eq i sp hi
      end_eq := h.end_eq_of_frame rfl }

/-- A range that was never put is given back. -/
theorem giveBack (h : Pacing batch count base v) {f : Frame} {item : WorkItem}
    (hmain : v.main = .giveBack f item) :
    Pacing batch count base
      { v with main := .drain f,
               nextSeq := if v.nextSeq = item.seqStart + batch then item.seqStart
                          else v.nextSeq } := by
  have hseq : item.seqStart = batch * v.enqueued.length :=
    h.pending_eq (by rw [hmain]; rfl) item (by rw [hmain]; rfl)
  have hnext : v.nextSeq = item.seqStart + batch := by
    rw [hseq]
    simpa [hmain, MainPc.pending, Nat.mul_add] using h.nextSeq_eq
  exact
    { seqStart_eq := h.seqStart_eq
      recordCount_eq := h.recordCount_eq
      step_lt := h.step_lt
      nextSeq_eq := by simp [MainPc.pending, hnext, hseq]
      pending_eq := by simp [MainPc.pending]
      item_count := by simp [MainPc.item]
      frame_result := h.frame_result_of (by rw [hmain]; rfl) rfl rfl
      frame_probe := h.frame_probe_of (by rw [hmain]; rfl) (by rw [hmain]; rfl) rfl rfl
      batch_pos := h.batch_pos
      offered_total := by simpa [hmain, MainPc.unrecorded] using h.offered_total
      start_eq := h.start_eq
      offered_eq := by
        intro i sp hi
        simpa [hmain, MainPc.uncredited, MainPc.unrecorded] using h.offered_eq i sp hi
      end_eq := h.end_eq_of_frame rfl }

/-- The item of the current range goes into the queue. -/
theorem put (h : Pacing batch count base v) {f : Frame} {item : WorkItem} {t₀ : ℚ}
    (hmain : v.main = .put f item t₀) :
    Pacing batch count base
      { v with main := .measure f item t₀ true,
               enqueued := v.enqueued ++ [(item, f.result)] } := by
  have hseq : item.seqStart = batch * v.enqueued.length :=
    h.pending_eq (by rw [hmain]; rfl) item (by rw [hmain]; rfl)
  have hcount : item.recordCount = count := h.item_count item (by rw [hmain]; rfl)
  have hframe : f.result + 1 = v.spans.length := h.frame_result f (by rw [hmain]; rfl)
  -- the item belongs to the last step, so no earlier step's share changes
  have hbefore : ∀ i, i < v.spans.length →
      putBefore (v.enqueued ++ [(item, f.result)]) i = putBefore v.enqueued i := by
    intro i hi
    rw [putBefore_append, if_neg (by omega), Nat.add_zero]
  exact
    { seqStart_eq := by
        intro k x hx
        rcases getElem?_concat_eq_some hx with hold | ⟨hk, rfl⟩
        · exact h.seqStart_eq k x hold
        · rw [hk, hseq]
      recordCount_eq := by
        intro x hx
        rcases List.mem_append.1 hx with hold | hnew
        · exact h.recordCount_eq x hold
        · obtain rfl := List.mem_singleton.1 hnew
          exact hcount
      step_lt := by
        intro x hx
        rcases List.mem_append.1 hx with hold | hnew
        · exact h.step_lt x hold
        · obtain rfl := List.mem_singleton.1 hnew
          show f.result < v.spans.length
          omega
      nextSeq_eq := by simpa [hmain, MainPc.pending] using h.nextSeq_eq
      pending_eq := by simp [MainPc.pending]
      item_count := of_eq_some rfl hcount
      frame_result := h.frame_result_of (by rw [hmain]; rfl) rfl rfl
      frame_probe := h.frame_probe_of (by rw [hmain]; rfl) (by rw [hmain]; rfl) rfl rfl
      batch_pos := h.batch_pos
      offered_total := by
        have hold := h.offered_total
        simp only [hmain, MainPc.unrecorded, Bool.false_eq_true, if_false] at hold
        simp only [MainPc.unrecorded, if_true, List.length_append, List.length_singleton]
        rw [Nat.mul_add, Nat.mul_one]
        omega
      start_eq := by
        intro i sp hi
        have hlt := (List.getElem?_eq_some_iff.1 hi).1
        rw [h.start_eq i sp hi, hbefore i hlt]
      offered_eq := by
        intro i sp hi
        have hlt : i < v.spans.length := (List.getElem?_eq_some_iff.1 hi).1
        have hold := h.offered_eq i sp hi
        simp only [hmain, MainPc.uncredited, MainPc.unrecorded, Bool.false_eq_true, false_and,
          if_false] at hold
        rw [hbefore i hlt, putBefore_append]
        by_cases hlast : i + 1 = v.spans.length
        · rw [if_pos (show f.result < i + 1 by omega), Nat.mul_add]
          simp only [MainPc.uncredited, MainPc.unrecorded, hlast, and_self, if_true]
          rw [← hlast]
          omega
        · rw [if_neg (show ¬ f.result < i + 1 by omega)]
          simp only [hlast, and_false, if_false]
          exact hold
      end_eq := by
        intro i sp hi hor
        rcases hor with hn | hlt
        · simp [MainPc.frame] at hn
        · rw [hbefore (i + 1) hlt]
          exact h.end_eq i sp hi (Or.inr hlt) }

/-- `metrics.record_offered`. -/
theorem recordOffered (h : Pacing batch count base v) {f : Frame} {item : WorkItem}
    (hmain : v.main = .recordOffered f item) :
    Pacing batch count base
      { v with main := .creditOffered f item,
               recordsOffered := v.recordsOffered + item.recordCount } := by
  have hcount : item.recordCount = count := h.item_count item (by rw [hmain]; rfl)
  exact
    { seqStart_eq := h.seqStart_eq
      recordCount_eq := h.recordCount_eq
      step_lt := h.step_lt
      nextSeq_eq := by simpa [hmain, MainPc.pending] using h.nextSeq_eq
      pending_eq := by simp [MainPc.pending]
      item_count := of_eq_some rfl hcount
      frame_result := h.frame_result_of (by rw [hmain]; rfl) rfl rfl
      frame_probe := h.frame_probe_of (by rw [hmain]; rfl) (by rw [hmain]; rfl) rfl rfl
      batch_pos := h.batch_pos
      offered_total := by
        have hold := h.offered_total
        simp only [hmain, MainPc.unrecorded, if_true] at hold
        simp only [MainPc.unrecorded, Bool.false_eq_true, if_false, hcount]
        omega
      start_eq := h.start_eq
      offered_eq := by
        intro i sp hi
        simpa [hmain, MainPc.uncredited, MainPc.unrecorded] using h.offered_eq i sp hi
      end_eq := h.end_eq_of_frame rfl }

/-- `result.offered += item.record_count`. -/
theorem creditOffered (h : Pacing batch count base v) {f : Frame} {item : WorkItem}
    (hmain : v.main = .creditOffered f item) :
    Pacing batch count base
      { v with main := .advance f,
               spans := v.spans.modify f.result
                 fun sp => { sp with offered := sp.offered + item.recordCount } } := by
  have hcount : item.recordCount = count := h.item_count item (by rw [hmain]; rfl)
  have hframe : f.result + 1 = v.spans.length := h.frame_result f (by rw [hmain]; rfl)
  exact
    { seqStart_eq := h.seqStart_eq
      recordCount_eq := h.recordCount_eq
      step_lt := by simpa using h.step_lt
      nextSeq_eq := by simpa [hmain, MainPc.pending] using h.nextSeq_eq
      pending_eq := by simp [MainPc.pending]
      item_count := by simp [MainPc.item]
      frame_result := by simpa using h.frame_result_of (by rw [hmain]; rfl) rfl rfl
      frame_probe := h.frame_probe_of (by rw [hmain]; rfl) (by rw [hmain]; rfl) rfl rfl
      batch_pos := h.batch_pos_modify
      offered_total := by simpa [hmain, MainPc.unrecorded] using h.offered_total
      start_eq := h.start_eq_modify fun _ => rfl
      offered_eq := by
        intro i sp hi
        obtain ⟨sp₀, hsp₀, rfl⟩ := getElem?_modify_eq_some hi
        have hold := h.offered_eq i sp₀ hsp₀
        simp only [hmain, MainPc.uncredited, true_and] at hold
        simp only [MainPc.uncredited, MainPc.unrecorded, Bool.false_eq_true, false_and, if_false,
          Nat.add_zero]
        by_cases hfi : f.result = i
        · rw [if_pos (by omega)] at hold
          rw [if_pos hfi]
          show sp₀.offered + item.recordCount + _ = _
          omega
        · rw [if_neg (by omega)] at hold
          rw [if_neg hfi]
          omega
      end_eq := by
        intro i sp hi hor
        rcases hor with hn | hlt
        · simp [MainPc.frame] at hn
        · obtain ⟨sp₀, hsp₀, rfl⟩ := getElem?_modify_eq_some hi
          rw [List.length_modify] at hlt
          rw [if_neg (by omega)]
          exact h.end_eq i sp₀ hsp₀ (Or.inr hlt) }

/-- The end of `run_step`: the range of its `StepResult` is closed. -/
theorem close (h : Pacing batch count base v) {f : Frame} {drained : Bool}
    (hmain : v.main = .finish f drained) :
    Pacing batch count base
      { v with main := .idle,
               spans := v.spans.modify f.result
                 fun sp =>
                   { sp with seqEnd := max (sp.seqStart : Int) ((v.nextSeq : Int) - 1) } } := by
  have hframe : f.result + 1 = v.spans.length := h.frame_result f (by rw [hmain]; rfl)
  have hnext : v.nextSeq = batch * v.enqueued.length := by
    simpa [hmain, MainPc.pending] using h.nextSeq_eq
  exact
    { seqStart_eq := h.seqStart_eq
      recordCount_eq := h.recordCount_eq
      step_lt := by simpa using h.step_lt
      nextSeq_eq := by simpa [hmain, MainPc.pending] using h.nextSeq_eq
      pending_eq := by simp [MainPc.pending]
      item_count := by simp [MainPc.item]
      frame_result := by simp [MainPc.frame]
      frame_probe := by simp [MainPc.frame]
      batch_pos := h.batch_pos_modify
      offered_total := by simpa [hmain, MainPc.unrecorded] using h.offered_total
      start_eq := h.start_eq_modify fun _ => rfl
      offered_eq := by
        intro i sp hi
        obtain ⟨sp₀, hsp₀, rfl⟩ := getElem?_modify_eq_some hi
        have hold := h.offered_eq i sp₀ hsp₀
        simp only [hmain, MainPc.uncredited, MainPc.unrecorded, Bool.false_eq_true, false_and,
          if_false, Nat.add_zero] at hold
        by_cases hfi : f.result = i
        · simpa [hfi, MainPc.uncredited, MainPc.unrecorded] using hold
        · simpa [hfi, MainPc.uncredited, MainPc.unrecorded] using hold
      end_eq := by
        intro i sp hi _
        obtain ⟨sp₀, hsp₀, rfl⟩ := getElem?_modify_eq_some hi
        by_cases hfi : f.result = i
        -- the step just closed is the last one, so all puts are of its steps or earlier ones
        · have hall : ∀ x ∈ v.enqueued, x.2 < i + 1 := by
            intro x hx
            have := h.step_lt x hx
            omega
          rw [if_pos hfi, putBefore_eq_length hall]
          simp [hnext]
        · have hlt : i < v.spans.length := (List.getElem?_eq_some_iff.1 hsp₀).1
          rw [if_neg hfi]
          exact h.end_eq i sp₀ hsp₀ (Or.inr (by omega)) }

end Pacing

/-- **One move of the pacer preserves the numbering.** -/
theorem PaceMove.pacing {batch count base : Nat} {v v' : PaceView}
    (hmove : PaceMove batch count v v') (h : Pacing batch count base v) :
    Pacing batch count base v' := by
  cases hmove with
  | move pc hq => exact h.move hq
  | openStep f hidle hbatch hf => exact h.openStep hidle hbatch f hf
  | start f f' hmain hresult hprobe => exact h.start hmain hresult hprobe
  | allocate f f' item hmain hresult hprobe hseq hcount =>
      exact h.allocate item hmain hresult hprobe hseq hcount
  | giveBack f item hmain => exact h.giveBack hmain
  | put f item t₀ hmain => exact h.put hmain
  | recordOffered f item hmain => exact h.recordOffered hmain
  | creditOffered f item hmain => exact h.creditOffered hmain
  | close f drained hmain => exact h.close hmain

theorem MainPc.unrecorded_of_item_none {pc : MainPc} (h : pc.item = none) :
    pc.unrecorded = false := by
  cases pc <;> simp [item] at h <;> rfl

/-- Between iterations the metrics have counted every item put. -/
theorem Pacing.recordsOffered_eq {batch count base : Nat} {v : PaceView}
    (h : Pacing batch count base v) (hitem : v.main.item = none) :
    v.recordsOffered = base + count * v.enqueued.length := by
  have hoffered := h.offered_total
  rwa [MainPc.unrecorded_of_item_none hitem, if_neg Bool.false_ne_true, Nat.add_zero] at hoffered

/-! ## The numbers of the items -/

/-- The sequence numbers a work item stands for. -/
def WorkItem.numbers (item : WorkItem) : List Nat := List.range' item.seqStart item.recordCount

theorem WorkItem.mem_numbers {item : WorkItem} {n : Nat} :
    n ∈ item.numbers ↔ item.seqStart ≤ n ∧ n < item.seqStart + item.recordCount := by
  simp [numbers, List.mem_range'_1]

namespace Pacing

variable {batch count base : Nat} {v : PaceView}

/-- Items further back in the queue's history have larger numbers. -/
theorem le_seqStart (h : Pacing batch count base v) (hcount : count ≤ batch) {i j : Nat}
    {x y : WorkItem × Nat} (hx : v.enqueued[i]? = some x) (hy : v.enqueued[j]? = some y)
    (hij : i < j) : x.1.seqStart + x.1.recordCount ≤ y.1.seqStart := by
  rw [h.seqStart_eq i x hx, h.seqStart_eq j y hy, h.recordCount_eq x (List.mem_of_getElem? hx)]
  calc batch * i + count ≤ batch * i + batch := Nat.add_le_add_left hcount _
    _ = batch * (i + 1) := (Nat.mul_succ batch i).symm
    _ ≤ batch * j := Nat.mul_le_mul_left _ hij

/-- **No number belongs to two items**, if a template has no more records than a batch. -/
theorem numbers_nodup (h : Pacing batch count base v) (hcount : count ≤ batch) :
    ((v.enqueued.map Prod.fst).flatMap WorkItem.numbers).Nodup := by
  rw [List.nodup_flatMap]
  refine ⟨fun item _ => List.nodup_range', ?_⟩
  rw [List.pairwise_iff_getElem]
  intro i j hi hj hij n hn hn'
  rw [List.length_map] at hi hj
  rw [List.getElem_map] at hn hn'
  have hle := h.le_seqStart hcount (List.getElem?_eq_getElem hi) (List.getElem?_eq_getElem hj) hij
  have hlt := (WorkItem.mem_numbers.1 hn).2
  have hge := (WorkItem.mem_numbers.1 hn').1
  omega

/-- **The items cover the numbers from 0 on**, if a template has exactly a batch of records. -/
theorem mem_numbers_iff (h : Pacing batch batch base v) (n : Nat) :
    (∃ x ∈ v.enqueued, n ∈ x.1.numbers) ↔ n < batch * v.enqueued.length := by
  constructor
  · rintro ⟨x, hx, hn⟩
    obtain ⟨k, hk⟩ := List.mem_iff_getElem?.1 hx
    have hklt := (List.getElem?_eq_some_iff.1 hk).1
    have hn := (WorkItem.mem_numbers.1 hn).2
    rw [h.seqStart_eq k x hk, h.recordCount_eq x hx] at hn
    calc n < batch * k + batch := hn
      _ = batch * (k + 1) := (Nat.mul_succ batch k).symm
      _ ≤ batch * v.enqueued.length := Nat.mul_le_mul_left _ hklt
  · intro hn
    have hbatch : 0 < batch := Nat.pos_of_ne_zero (by rintro rfl; simp at hn)
    have hk : n / batch < v.enqueued.length := (Nat.div_lt_iff_lt_mul hbatch).2 (by
      rwa [Nat.mul_comm])
    have hget := List.getElem?_eq_getElem hk
    refine ⟨v.enqueued[n / batch], List.getElem_mem hk, WorkItem.mem_numbers.2 ?_⟩
    rw [h.seqStart_eq _ _ hget, h.recordCount_eq _ (List.getElem_mem hk)]
    have hdiv := Nat.div_add_mod n batch
    have hmod := Nat.mod_lt n hbatch
    omega

end Pacing

/-! ## Every reachable state -/

/-- The pacing invariant of an engine, over what its metrics had counted at the start. -/
def Paced (g : LoadGenerator η) (s : State η) : Prop :=
  Pacing g.batchSize g.factory.batchSize g.metrics.totals.recordsOffered s.paceView

/-- **One step of the engine preserves the numbering.** -/
theorem engineStep_paced {g : LoadGenerator η} {s s' : State η} {a : Action} (h : Paced g s)
    (hstep : engineStep g s a = some s') : Paced g s' := by
  rcases engineStep_paceMove hstep with heq | hmove
  · unfold Paced
    rw [heq]
    exact h
  · exact hmove.pacing h

theorem engineInit_paced (g : LoadGenerator η) (plan : List Step) :
    Paced g (engineInit g plan) where
  seqStart_eq := by simp [State.paceView, engineInit]
  recordCount_eq := by simp [State.paceView, engineInit]
  step_lt := by simp [State.paceView, engineInit]
  nextSeq_eq := by simp [State.paceView, engineInit, MainPc.pending]
  pending_eq := by simp [State.paceView, engineInit, MainPc.pending]
  item_count := by simp [State.paceView, engineInit, MainPc.item]
  frame_result := by simp [State.paceView, engineInit, MainPc.frame]
  frame_probe := by simp [State.paceView, engineInit, MainPc.frame]
  batch_pos := by simp [State.paceView, engineInit]
  offered_total := by simp [State.paceView, engineInit, MainPc.unrecorded]
  start_eq := by simp [State.paceView, engineInit]
  offered_eq := by simp [State.paceView, engineInit]
  end_eq := by simp [State.paceView, engineInit]

/-- **The numbering holds in every reachable state.** -/
theorem paced_of_reachable {g : LoadGenerator η} {plan : List Step} {s : State η}
    (h : (engine g plan).Reachable s) : Paced g s :=
  Transition.System.reachable_of_preserves (I := Paced g) (engineInit_paced g plan)
    (fun _ _ _ hI hstep => engineStep_paced hI hstep) h

/-- The invariant of a launched engine: batches and templates have one size, and the metrics
started from zero. -/
theorem Launched.pacing {g : LoadGenerator η} (hg : Launched g) {plan : List Step} {s : State η}
    (h : (engine g plan).Reachable s) : Pacing g.batchSize g.batchSize 0 s.paceView := by
  have hpaced := paced_of_reachable h
  unfold Paced at hpaced
  rwa [hg.batchSize_eq, hg.totals_eq] at hpaced

end AnalyticsTesting.Generator
