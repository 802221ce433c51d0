import AnalyticsTesting.Scripts.RunSlices

set_option autoImplicit false

/-! # What is in a slice

The files only grow, so the lines that a run has counted are the first ones of the log when it is
collected, as long as the log is the same file. Its slice is then the rest of a line that was under
way when it was marked, and everything that was written since. The lines of a log are numbered in
the order in which they are ended: the slice holds those from the offset on, and a run that is
marked after another one was collected has none of that one's lines (`slices_exact`). -/

namespace AnalyticsTesting.Scripts

open Transition Lines

/-! ## Rows -/

section Rows

variable {ρ : Type} (loads : List Char → Option ρ)

theorem loadJsonl_append_cons (u v : List Char) :
    loadJsonl loads (u ++ '\n' :: v) = loadJsonl loads u ++ loadJsonl loads v := by
  rw [loadJsonl, List.splitOnP_append_cons u v (by decide), List.filterMap_append]
  rfl

/-- The rows of a text are those of its lines and of what comes after them. -/
theorem loadJsonl_eq (t : List Char) : loadJsonl loads t
    = (lines '\n' t).flatMap (loadJsonl loads) ++ loadJsonl loads (rest '\n' t) := by
  induction t using induction_lines '\n' with
  | base t h => rw [lines_of_not_mem h, rest_of_not_mem h, List.flatMap_nil, List.nil_append]
  | line l t h ih =>
      rw [loadJsonl_append_cons, ih, lines_line h, rest_append_cons, List.flatMap_cons,
        List.append_assoc]

end Rows

/-! ## The files only grow -/

structure Grows (fs fs' : Files Unit Char) : Prop where
  next : fs.next ≤ fs'.next
  data : ∀ i, i < fs.next → fs.data i <+: fs'.data i

theorem Grows.refl (fs : Files Unit Char) : Grows fs fs :=
  ⟨Nat.le_refl _, fun _ _ => List.prefix_refl _⟩

theorem Grows.openAppend (fs : Files Unit Char) : Grows fs (fs.openAppend ()) where
  next := Files.next_le_openAppend
  data i h := by rw [Files.openAppend_data h]

theorem Grows.append (fs : Files Unit Char) (i : Nat) (cs : List Char) :
    Grows fs (fs.append i cs) where
  next := Nat.le_refl _
  data j _ := by
    by_cases hij : j = i
    · subst hij
      rw [Files.append_data_self]
      exact List.prefix_append _ _
    · rw [Files.append_data_ne hij]

theorem Grows.unlink (fs : Files Unit Char) : Grows fs (fs.unlink ()) where
  next := Nat.le_refl _
  data i _ := by rw [Files.unlink_data]

/-! ## Marks and slices -/

/-- What a mark says of the files as they are by now. -/
structure Mark.Of (m : Mark) (fs : Files Unit Char) : Prop where
  offset : m.offset = if m.answered then m.before.count '\n' else 0
  absent : m.file = none → m.before = []
  present : ∀ i, m.file = some i → i < fs.next ∧ m.before <+: fs.data i

theorem Mark.Of.grows {m : Mark} {fs fs' : Files Unit Char} (h : m.Of fs) (hg : Grows fs fs') :
    m.Of fs' := by
  refine ⟨h.offset, h.absent, fun i hi => ?_⟩
  obtain ⟨hlt, hpre⟩ := h.present i hi
  exact ⟨Nat.lt_of_lt_of_le hlt hg.next, hpre.trans (hg.data i hlt)⟩

structure Slice.Of (x : Slice) (fs : Files Unit Char) : Prop where
  mark : x.mark.Of fs
  text : x.text = dropLines '\n' x.mark.offset x.whole
  absent : x.file = none → x.whole = []
  present : ∀ i, x.file = some i → i < fs.next ∧ x.whole <+: fs.data i
  same : x.mark.file = x.file → x.mark.before <+: x.whole

theorem Slice.Of.grows {x : Slice} {fs fs' : Files Unit Char} (h : x.Of fs) (hg : Grows fs fs') :
    x.Of fs' := by
  refine ⟨h.mark.grows hg, h.text, h.absent, fun i hi => ?_, h.same⟩
  obtain ⟨hlt, hpre⟩ := h.present i hi
  exact ⟨Nat.lt_of_lt_of_le hlt hg.next, hpre.trans (hg.data i hlt)⟩

/-- The slices that were cut before the mark was set are of no more than there was. -/
def Mark.Follows (m : Mark) (xs : List Slice) : Prop :=
  ∀ j x, xs[j]? = some x → j < m.cuts → x.file = m.file → x.whole <+: m.before

theorem Mark.Follows.concat {m : Mark} {xs : List Slice} (h : m.Follows xs)
    (hle : m.cuts ≤ xs.length) (x : Slice) : m.Follows (xs ++ [x]) := by
  intro j y hy hj
  rw [List.getElem?_append_left (by omega)] at hy
  exact h j y hy hj

/-- What holds after every step. -/
structure Kept (s : SharedLog) : Prop where
  writer : ∀ i, s.writer = some i → i < s.files.next
  marks : ∀ k m, s.marks k = some m →
    m.Of s.files ∧ m.cuts ≤ s.slices.length ∧ m.Follows s.slices
  slices : ∀ x ∈ s.slices, x.Of s.files ∧ x.mark.cuts ≤ s.slices.length ∧
    x.mark.Follows s.slices

variable {s s' : SharedLog}

theorem kept_init : Kept {} where
  writer := by simp
  marks := by simp
  slices := by simp

/-- What happens to the files alone. -/
theorem Kept.files (h : Kept s) {fs : Files Unit Char} (hg : Grows s.files fs) {w : Option Nat}
    (hw : ∀ i, w = some i → i < fs.next) : Kept { s with files := fs, writer := w } where
  writer := hw
  marks k m hm := ⟨(h.marks k m hm).1.grows hg, (h.marks k m hm).2⟩
  slices x hx := ⟨(h.slices x hx).1.grows hg, (h.slices x hx).2⟩

/-- A run is marked. -/
theorem Kept.mark (h : Kept s) (k : Nat) (answered : Bool) :
    Kept { s with marks := Function.update s.marks k (some
      ⟨if answered then s.text.count '\n' else 0, answered, s.files.names (), s.text,
        s.slices.length⟩) } where
  writer := h.writer
  marks k' m hm := by
    by_cases hk : k' = k
    · obtain rfl := Option.some.inj ((by simpa [hk] using hm) : some _ = some m)
      have hpresent : ∀ i, s.files.names () = some i → s.text = s.files.data i := by
        intro i hi
        simp [SharedLog.text, hi]
      refine ⟨⟨rfl, fun hnone => by simp [SharedLog.text, show s.files.names () = none from hnone],
        fun i hi => ?_⟩, Nat.le_refl _, fun j x hx _ hfile => ?_⟩
      · exact ⟨s.files.names_lt () i hi, by rw [show _ = _ from hpresent i hi]⟩
      · have hof := (h.slices x (List.mem_of_getElem? hx)).1
        cases hname : s.files.names () with
        | none =>
            rw [hof.absent (hfile.trans hname)]
            exact List.nil_prefix
        | some i =>
            rw [show _ = _ from hpresent i hname]
            exact (hof.present i (hfile.trans hname)).2
    · exact h.marks k' m (by simpa [hk] using hm)
  slices := h.slices

/-- A run is collected. -/
theorem Kept.collect (h : Kept s) {k : Nat} {x : Slice} (hmark : s.marks k = some x.mark)
    (hof : x.Of s.files) : Kept { s with slices := s.slices ++ [x] } := by
  have hconcat : ∀ {m : Mark}, m.Of s.files ∧ m.cuts ≤ s.slices.length ∧ m.Follows s.slices →
      m.cuts ≤ (s.slices ++ [x]).length ∧ m.Follows (s.slices ++ [x]) := by
    rintro m ⟨-, hle, hfollows⟩
    refine ⟨?_, hfollows.concat hle x⟩
    rw [List.length_append]
    omega
  refine ⟨h.writer, fun k' m hm => ⟨(h.marks k' m hm).1, hconcat (h.marks k' m hm)⟩, ?_⟩
  intro y hy
  rcases List.mem_append.1 hy with hy | hy
  · obtain ⟨hy', hrest⟩ := h.slices y hy
    exact ⟨hy', hconcat ⟨hy'.mark, hrest⟩⟩
  · obtain rfl := List.mem_singleton.1 hy
    exact ⟨hof, hconcat (h.marks k y.mark hmark)⟩

/-- **One step** keeps all of it. -/
theorem kept_step (a : LogAction) (h : Kept s) (hs : logStep s a = some s') : Kept s' := by
  cases a with
  | start =>
      simp only [logStep] at hs
      split at hs
      · obtain rfl := Option.some.inj hs
        refine h.files (.openAppend _) fun i hi => ?_
        obtain rfl := Option.some.inj hi
        exact Files.target_lt_openAppend
      · cases hs
  | write cs =>
      obtain ⟨i, hi, rfl⟩ := Option.map_eq_some_iff.1 hs
      exact h.files (.append _ i cs) h.writer
  | exit =>
      obtain rfl := Option.some.inj hs
      exact h.files (.refl _) (by simp)
  | remove =>
      obtain rfl := Option.some.inj hs
      exact h.files (.unlink _) h.writer
  | mark k answered =>
      simp only [logStep] at hs
      split at hs
      · cases hs
      · obtain rfl := Option.some.inj hs
        exact h.mark k answered
  | collect k answered =>
      obtain ⟨mark, hmark, rfl⟩ := Option.map_eq_some_iff.1 hs
      obtain ⟨hof, -, -⟩ := h.marks k mark hmark
      split
      case h_1 hseen =>
        refine h.collect hmark ⟨hof, ?_, fun _ => rfl, by simp, fun hfile => ?_⟩
        · cases mark.offset with
          | zero => rfl
          | succ n => exact (dropLines_of_not_mem (by simp) n).symm
        · rw [hof.absent hfile]
      case h_2 i hseen =>
        have hname : s.files.names () = some i := by
          unfold SharedLog.seen at hseen
          split at hseen
          · exact hseen
          · cases hseen
        refine h.collect hmark ⟨hof, rfl, by simp, fun j hj => ?_, fun hfile => ?_⟩
        · obtain rfl := Option.some.inj hj
          exact ⟨s.files.names_lt () _ hname, List.prefix_refl _⟩
        · exact (hof.present i hfile).2

theorem kept_of_reachable (h : sharedLog.Reachable s) : Kept s :=
  System.reachable_of_preserves (I := Kept) kept_init (fun _ a _ hk hs => kept_step a hk hs) h

/-! ## What is in a slice -/

/-- What holds of a slice. -/
structure Slice.Exact {ρ : Type} (loads : List Char → Option ρ) (files : Files Unit Char)
    (x : Slice) : Prop where
  /-- It has the lines from the offset on that the log had when the run was collected. -/
  lines : lines '\n' x.text = (lines '\n' x.whole).drop x.mark.offset
  /-- Its rows are those of these lines, and of the line that was under way. -/
  rows : loadJsonl loads x.text
    = ((Lines.lines '\n' x.whole).drop x.mark.offset).flatMap (loadJsonl loads)
      ++ loadJsonl loads (rest '\n' x.text)
  /-- They are lines of the log for good, under their numbers. -/
  kept : ∀ i, x.file = some i →
    Lines.lines '\n' x.whole
      = (Lines.lines '\n' (files.data i)).take (Lines.lines '\n' x.whole).length
  /-- Where the log has not been another file: what was written since the run was marked, behind the
      rest of the line that was under way by then. -/
  window : x.mark.answered = true → (x.mark.file = none ∨ x.mark.file = x.file) →
    ∃ since, x.whole = x.mark.before ++ since ∧ x.text = rest '\n' x.mark.before ++ since
  /-- Where its lines could not be counted: the whole log, with the lines of other runs. -/
  unanswered : x.mark.answered = false → x.text = x.whole

theorem Slice.Of.exact {ρ : Type} (loads : List Char → Option ρ) {x : Slice}
    {fs : Files Unit Char} (h : x.Of fs) : x.Exact loads fs where
  lines := by rw [h.text, lines_dropLines]
  rows := by
    rw [loadJsonl_eq loads x.text, h.text, lines_dropLines]
  kept i hi := by
    rw [length_lines, take_lines_of_prefix (h.present i hi).2]
  window hanswered hfile := by
    have hpre : x.mark.before <+: x.whole := by
      rcases hfile with hnone | hsame
      · rw [h.mark.absent hnone]
        exact List.nil_prefix
      · exact h.same hsame
    obtain ⟨since, hwhole⟩ := hpre
    refine ⟨since, hwhole.symm, ?_⟩
    rw [h.text, h.mark.offset, if_pos hanswered, ← hwhole, dropLines_count]
  unanswered hanswered := by
    rw [h.text, h.mark.offset, hanswered]
    rfl

/-- **What the slices hold**, whichever way the writer, the runs and the clean-up take turns. -/
theorem slices_exact {ρ : Type} (loads : List Char → Option ρ) (h : sharedLog.Reachable s) :
    (∀ x ∈ s.slices, x.Exact loads s.files) ∧
      ∀ j x y, s.slices[j]? = some x → y ∈ s.slices → j < y.mark.cuts →
        y.mark.answered = true → x.file = y.mark.file →
        (lines '\n' x.whole).length ≤ y.mark.offset := by
  have hkept := kept_of_reachable h
  refine ⟨fun x hx => (hkept.slices x hx).1.exact loads, ?_⟩
  intro j x y hx hy hj hanswered hfile
  obtain ⟨hof, -, hfollows⟩ := hkept.slices y hy
  rw [hof.mark.offset, if_pos hanswered, length_lines]
  exact count_le_of_prefix (hfollows j x hx hj hfile)

/-- Two runs, one after the other, with a writer that is killed in the middle of a line. -/
def twoRuns : List LogAction :=
  [.start, .write "a\nb\n".toList, .mark 0 true, .write "c\nd".toList, .exit, .collect 0 true,
    .start, .write "\n".toList, .mark 1 true, .write "e\n".toList, .collect 1 true]

theorem slices_exact_twoRuns : ∃ s, sharedLog.Reachable s ∧
    s.slices.map Slice.text = ["c\nd".toList, "e\n".toList] ∧
    (∀ x ∈ s.slices, x.Exact some s.files) := by
  have hrun : ((sharedLog.run sharedLog.init twoRuns).map fun s => s.slices.map Slice.text)
      = some ["c\nd".toList, "e\n".toList] := by
    decide +kernel
  obtain ⟨s, hs, hslices⟩ := Option.map_eq_some_iff.1 hrun
  have hreach : sharedLog.Reachable s := ⟨twoRuns, hs⟩
  exact ⟨s, hreach, hslices, (slices_exact some hreach).1⟩

end AnalyticsTesting.Scripts
