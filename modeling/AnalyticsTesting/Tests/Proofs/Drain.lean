import Mathlib.Tactic.Tauto
import AnalyticsTesting.Tests.Drain

set_option autoImplicit false

/-! # Failed samples of the drain test

A sample without a catalog is written as one with no files. So the first one that the loop takes is
the minimum, unless a sample before it has no files either (`figuresOf_eq_iff`). -/

namespace AnalyticsTesting.Tests

/-! ## The summary of rows -/

/-- The figures of the rows of `drain.jsonl`. -/
def figuresOf (rows : List Row) : Option Figures := (summary rows).map (·.toFigures)

theorem figuresOf_of_short {rows : List Row} (h : rows.length < 2) : figuresOf rows = none := by
  rw [figuresOf, summary, if_pos h]
  rfl

theorem figuresOf_of_long {rows : List Row} {first lowest : Row} (h : 2 ≤ rows.length)
    (hfirst : rows.head? = some first) (hlowest : Selection.firstMin (·.files) rows = some lowest) :
    figuresOf rows = some (figures first lowest) := by
  rw [figuresOf, summary, if_neg (by omega), hfirst, hlowest]
  rfl

theorem exists_figuresOf {rows : List Row} (h : 2 ≤ rows.length) :
    ∃ first lowest, rows.head? = some first ∧
      Selection.firstMin (·.files) rows = some lowest ∧
      figuresOf rows = some (figures first lowest) := by
  cases rows with
  | nil => simp at h
  | cons first rest =>
      obtain ⟨lowest, hlowest⟩ : ∃ r, Selection.firstMin (·.files) (first :: rest) = some r :=
        Selection.exists_firstMin (List.cons_ne_nil first rest)
      exact ⟨first, lowest, rfl, hlowest, figuresOf_of_long h rfl hlowest⟩

/-- The figures tell everything about the first row and the lowest one but the time of day. -/
theorem figures_eq_iff {first lowest first' lowest' : Row} :
    figures first lowest = figures first' lowest' ↔
      lowest.files = lowest'.files ∧ lowest.bytes = lowest'.bytes ∧
      first.files = first'.files ∧ first.bytes = first'.bytes ∧
      lowest.elapsed - first.elapsed = lowest'.elapsed - first'.elapsed := by
  constructor
  · intro h
    simp only [figures, Figures.mk.injEq] at h
    omega
  · rintro ⟨hfiles, hbytes, hfiles', hbytes', hsecs⟩
    simp only [figures, hfiles, hbytes, hfiles', hbytes', hsecs]

/-- No files are left. -/
def Row.empty (r : Row) : Bool := r.files = 0

theorem files_of_find {rows : List Row} {r : Row} (h : rows.find? Row.empty = some r) :
    r.files = 0 := by
  have hempty : r.empty = true := List.find?_some h
  exact of_decide_eq_true hempty

/-- Once there is a row without files, the first of these is the minimum. -/
theorem lowest_eq_iff_find {rows : List Row} {r : Row} (hr : r.files = 0) :
    Selection.firstMin (·.files) rows = some r ↔
      rows.find? Row.empty = some r := by
  rw [Selection.firstMin_eq_some_iff, List.find?_eq_some_iff_append]
  simp only [Row.empty, hr, decide_true, true_and, Nat.zero_le, implies_true, and_true,
    Nat.pos_iff_ne_zero, Bool.not_eq_true', decide_eq_false_iff_not]

/-! ## A failed sample -/

/-- The row of a failed sample. -/
def failedRow (elapsed : Int) : Row := ⟨elapsed, 0, 0, 0⟩

/-- A failed sample that changes no figure, after the rows `before`, where `others` are the rows
    without failed samples: the backlog was empty before it, or it is the first sample and the first
    successful one found an empty backlog. (Or else a clock that stands still: the first sample that
    finds an empty backlog has the time of the failed one.) -/
inductive Harmless (before : List Row) (elapsed : Int) (others : List Row) : Prop
  | emptyBefore (r : Row) (hmem : r ∈ before) (hfiles : r.files = 0)
  | emptyFirst (r : Row) (hbefore : before = []) (hfirst : others.head? = some r)
      (hfiles : r.files = 0) (hbytes : r.bytes = 0)
  | sameTime (r : Row) (hbefore : before ≠ [])
      (hempty : others.find? Row.empty = some r) (hbytes : r.bytes = 0)
      (htime : r.elapsed = elapsed)

theorem head?_of_front {before others : List Row} {first : Row} (hfront : before <+: others)
    (hfirst : before.head? = some first) : others.head? = some first := by
  obtain ⟨more, rfl⟩ := hfront
  rw [List.head?_append, hfirst]
  rfl

/-- What comes after a row without files does not matter. -/
theorem figuresOf_of_front {before rows : List Row} {first r : Row} (hlen : 2 ≤ rows.length)
    (hfirst : before.head? = some first)
    (hfind : before.find? Row.empty = some r) (hfront : before <+: rows) :
    figuresOf rows = some (figures first r) := by
  have hr := files_of_find hfind
  refine figuresOf_of_long hlen (head?_of_front hfront hfirst) ((lowest_eq_iff_find hr).2 ?_)
  obtain ⟨more, rfl⟩ := hfront
  rw [List.find?_append, hfind]
  rfl

/-- Where no row before it is without files, the failed one is the minimum. -/
theorem lowest_of_failed {before : List Row} (rest : List Row) (elapsed : Int)
    (h : ∀ r ∈ before, r.files ≠ 0) :
    Selection.firstMin (·.files) (before ++ failedRow elapsed :: rest)
      = some (failedRow elapsed) := by
  have hnone : before.find? Row.empty = none := by
    rw [List.find?_eq_none]
    exact fun r hr => by simpa [Row.empty] using h r hr
  rw [lowest_eq_iff_find rfl, List.find?_append, hnone, Option.none_or]
  rfl

/-- The figures where the first row is a failed one: nothing was there, and nothing drained. -/
theorem figuresOf_eq_failedFirst_iff {others : List Row} {elapsed : Int}
    (hlen : 2 ≤ others.length) :
    some (figures (failedRow elapsed) (failedRow elapsed)) = figuresOf others ↔
      ∃ r, others.head? = some r ∧ r.files = 0 ∧ r.bytes = 0 := by
  obtain ⟨first, lowest, hfirst, hlowest, heq⟩ := exists_figuresOf hlen
  rw [heq, Option.some.injEq, figures_eq_iff]
  constructor
  · rintro ⟨-, -, hfiles, hbytes, -⟩
    exact ⟨first, hfirst, hfiles.symm, hbytes.symm⟩
  · rintro ⟨r, hr, hfiles, hbytes⟩
    obtain rfl := Option.some.inj (hfirst.symm.trans hr)
    -- the first row is the lowest one as well
    have hmin : Selection.firstMin (·.files) others = some first := by
      rw [lowest_eq_iff_find hfiles]
      obtain ⟨tail, rfl⟩ := List.head?_eq_some_iff.1 hfirst
      exact List.find?_cons_of_pos (decide_eq_true hfiles)
    obtain rfl := Option.some.inj (hlowest.symm.trans hmin)
    simp [failedRow, hfiles, hbytes]

/-- The figures where a later row is a failed one and the minimum. -/
theorem figuresOf_eq_failedLater_iff {others : List Row} {first : Row} {elapsed : Int}
    (hlen : 2 ≤ others.length) (hfirst : others.head? = some first) :
    some (figures first (failedRow elapsed)) = figuresOf others ↔
      ∃ r, others.find? Row.empty = some r ∧ r.bytes = 0 ∧ r.elapsed = elapsed := by
  obtain ⟨first', lowest, hfirst', hlowest, heq⟩ := exists_figuresOf hlen
  obtain rfl := Option.some.inj (hfirst.symm.trans hfirst')
  rw [heq, Option.some.injEq, figures_eq_iff]
  constructor
  · rintro ⟨hfiles, hbytes, -, -, hsecs⟩
    have hfind := (lowest_eq_iff_find hfiles.symm).1 hlowest
    have htime : lowest.elapsed = elapsed := by
      simp only [failedRow] at hsecs
      omega
    exact ⟨lowest, hfind, hbytes.symm, htime⟩
  · rintro ⟨r, hfind, hbytes, htime⟩
    have hfiles := files_of_find hfind
    obtain rfl := Option.some.inj (hlowest.symm.trans ((lowest_eq_iff_find hfiles).2 hfind))
    simp [failedRow, hfiles, hbytes, htime]

/-- **When a failed sample changes no figure.** It is the first failed one, after `before`. -/
theorem figuresOf_eq_iff {before rest others : List Row} {elapsed : Int}
    (hfront : before <+: others) (hlen : 2 ≤ (before ++ failedRow elapsed :: rest).length) :
    figuresOf (before ++ failedRow elapsed :: rest) = figuresOf others ↔
      2 ≤ others.length ∧ Harmless before elapsed others := by
  by_cases hothers : 2 ≤ others.length
  case neg =>
    obtain ⟨first, lowest, -, -, heq⟩ := exists_figuresOf hlen
    rw [heq, figuresOf_of_short (not_le.1 hothers)]
    exact iff_of_false (by simp) fun h => hothers h.1
  rw [and_iff_right hothers]
  by_cases hempty : ∃ r ∈ before, r.files = 0
  · obtain ⟨r, hr, hfiles⟩ := hempty
    obtain ⟨z, hz⟩ : ∃ z, before.find? Row.empty = some z :=
      Option.isSome_iff_exists.1 (List.find?_isSome.2 ⟨r, hr, decide_eq_true hfiles⟩)
    obtain ⟨first, hfirst⟩ : ∃ first, before.head? = some first :=
      Option.isSome_iff_exists.1 (List.isSome_head?.2 (List.ne_nil_of_mem hr))
    rw [figuresOf_of_front hlen hfirst hz (List.prefix_append ..),
      figuresOf_of_front hothers hfirst hz hfront]
    exact iff_of_true rfl (.emptyBefore r hr hfiles)
  push Not at hempty
  have hlowest := lowest_of_failed rest elapsed hempty
  cases before with
  | nil =>
      rw [figuresOf_of_long hlen rfl hlowest, figuresOf_eq_failedFirst_iff hothers]
      constructor
      · rintro ⟨r, hr, hfiles, hbytes⟩
        exact .emptyFirst r rfl hr hfiles hbytes
      · rintro (⟨r, hr, -⟩ | ⟨r, -, hr, hfiles, hbytes⟩ | ⟨r, hne, -, -, -⟩)
        · cases hr
        · exact ⟨r, hr, hfiles, hbytes⟩
        · exact absurd rfl hne
  | cons first before =>
      rw [figuresOf_of_long hlen rfl hlowest,
        figuresOf_eq_failedLater_iff hothers (head?_of_front hfront rfl)]
      constructor
      · rintro ⟨r, hfind, hbytes, htime⟩
        exact .sameTime r (by simp) hfind hbytes htime
      · rintro (⟨r, hr, hfiles⟩ | ⟨r, hnil, -, -, -⟩ | ⟨r, -, hfind, hbytes, htime⟩)
        · exact absurd hfiles (hempty r hr)
        · cases hnil
        · exact ⟨r, hfind, hbytes, htime⟩

/-! ## Samples -/

/-- The catalog was read. -/
def Sample.read (s : Sample) : Bool := s.snapshot.catalog.isSome

/-- The samples without the failed ones. -/
def successes (samples : List Sample) : List Sample := samples.filter Sample.read

/-- The lines that are written for samples. -/
def rowsOf (samples : List Sample) : List Row := samples.map Sample.row

theorem successes_eq_self {samples : List Sample} (h : ∀ s ∈ samples, s.read = true) :
    successes samples = samples := List.filter_eq_self.2 h

theorem successes_append (l₁ l₂ : List Sample) :
    successes (l₁ ++ l₂) = successes l₁ ++ successes l₂ := List.filter_append ..

theorem row_of_failed {s : Sample} (h : s.read = false) : s.row = failedRow s.elapsed := by
  have hnone : s.snapshot.catalog = none := by simpa [Sample.read] using h
  simp [Sample.row, hnone, failedRow]

/-- A list of samples has no failed one, or a first one. -/
theorem read_or_firstFailed (samples : List Sample) :
    (∀ s ∈ samples, s.read = true) ∨ ∃ before failed rest,
      samples = before ++ failed :: rest ∧ (∀ s ∈ before, s.read = true) ∧ failed.read = false := by
  induction samples with
  | nil => exact Or.inl (by simp)
  | cons s rest ih =>
      cases hs : s.read with
      | false => exact Or.inr ⟨[], s, rest, rfl, by simp, hs⟩
      | true =>
          rcases ih with hall | ⟨before, failed, rest', rfl, hbefore, hfailed⟩
          · exact Or.inl (List.forall_mem_cons.2 ⟨hs, hall⟩)
          · exact Or.inr ⟨s :: before, failed, rest', rfl,
              List.forall_mem_cons.2 ⟨hs, hbefore⟩, hfailed⟩

/-- The failed samples among `samples` change none of the figures that `others` have, which are the
    samples taken without them. -/
inductive Unaffected (samples others : List Sample) : Prop
  | none (hread : ∀ s ∈ samples, s.read = true)
  | short (hlen : samples.length < 2)
  | harmless (before : List Sample) (failed : Sample) (rest : List Sample)
      (hsplit : samples = before ++ failed :: rest) (hbefore : ∀ s ∈ before, s.read = true)
      (hfailed : failed.read = false) (hlen : 2 ≤ others.length)
      (hharmless : Harmless (rowsOf before) failed.elapsed (rowsOf others))

/-- **When failed samples change none of the figures.** -/
theorem figuresOf_eq_iff_unaffected {samples others : List Sample}
    (hread : (∀ s ∈ samples, s.read = true) → others = samples)
    (hfront : ∀ before failed rest, samples = before ++ failed :: rest →
      (∀ s ∈ before, s.read = true) → before <+: others)
    (hshort : samples.length < 2 → others.length < 2) :
    figuresOf (rowsOf samples) = figuresOf (rowsOf others) ↔ Unaffected samples others := by
  by_cases hlen : samples.length < 2
  · have hrows : (rowsOf samples).length < 2 := by rwa [rowsOf, List.length_map]
    have hothers : (rowsOf others).length < 2 := by
      rw [rowsOf, List.length_map]
      exact hshort hlen
    rw [figuresOf_of_short hrows, figuresOf_of_short hothers]
    exact iff_of_true rfl (.short hlen)
  -- what the rows say about the first failed sample
  have hfirst : ∀ before failed rest, samples = before ++ failed :: rest →
      (∀ s ∈ before, s.read = true) → failed.read = false →
      (figuresOf (rowsOf samples) = figuresOf (rowsOf others) ↔
        2 ≤ others.length ∧ Harmless (rowsOf before) failed.elapsed (rowsOf others)) := by
    rintro before failed rest rfl hbefore hfailed
    have hrows : rowsOf (before ++ failed :: rest)
        = rowsOf before ++ failedRow failed.elapsed :: rowsOf rest := by
      rw [← row_of_failed hfailed]
      simp [rowsOf]
    have hlong : 2 ≤ (rowsOf before ++ failedRow failed.elapsed :: rowsOf rest).length := by
      rw [← hrows, rowsOf, List.length_map]
      omega
    have hiff := figuresOf_eq_iff ((hfront _ _ _ rfl hbefore).map Sample.row) hlong
    rwa [List.length_map, ← rowsOf, ← rowsOf, ← hrows] at hiff
  constructor
  · intro heq
    rcases read_or_firstFailed samples with hall | ⟨before, failed, rest, hsplit, hbefore, hfailed⟩
    · exact .none hall
    · obtain ⟨hothers, hharmless⟩ := (hfirst before failed rest hsplit hbefore hfailed).1 heq
      exact .harmless before failed rest hsplit hbefore hfailed hothers hharmless
  · rintro (hall | hlt | ⟨before, failed, rest, hsplit, hbefore, hfailed, hothers, hharmless⟩)
    · rw [hread hall]
    · exact absurd hlt hlen
    · exact (hfirst before failed rest hsplit hbefore hfailed).2 ⟨hothers, hharmless⟩

/-! ## The loop -/

section Loop

variable {maxMinutes : Nat}

/-- The samples were taken before the time was up. -/
def InTime (maxMinutes : Nat) (samples : List Sample) : Prop :=
  ∀ s ∈ samples, s.elapsed ≤ (maxMinutes * 60 : Nat)

theorem sampling_cons {x : Steady} {s : Sample} {rest : List Sample}
    (h : s.elapsed ≤ (maxMinutes * 60 : Nat)) :
    sampling maxMinutes x (s :: rest) = s :: if flatSamples ≤ (x.observe s.row.files).flat then []
      else sampling maxMinutes (x.observe s.row.files) rest := if_neg (not_lt.2 h)

theorem sampling_subset (samples : List Sample) :
    ∀ x, sampling maxMinutes x samples ⊆ samples := by
  induction samples with
  | nil => exact fun x => List.Subset.refl _
  | cons s rest ih =>
      intro x
      rw [sampling]
      split
      · exact List.nil_subset _
      · refine List.cons_subset_cons s ?_
        split
        · exact List.nil_subset _
        · exact ih _

/-- A run of the loop whose samples were all read is the same without the failed ones after it. -/
theorem sampling_successes (samples : List Sample) : ∀ x, InTime maxMinutes samples →
    (∀ s ∈ sampling maxMinutes x samples, s.read = true) →
    sampling maxMinutes x (successes samples) = sampling maxMinutes x samples := by
  induction samples with
  | nil => exact fun x _ _ => rfl
  | cons s rest ih =>
      intro x htime hread
      obtain ⟨hs, hrest⟩ := List.forall_mem_cons.1 htime
      rw [sampling_cons hs] at hread ⊢
      obtain ⟨hsread, hread⟩ := List.forall_mem_cons.1 hread
      rw [successes, List.filter_cons_of_pos hsread, sampling_cons hs]
      split
      case isTrue => rfl
      case isFalse hflat =>
        rw [if_neg hflat] at hread
        rw [← successes, ih _ hrest hread]

/-- The samples before the first failed one are taken without it too. -/
theorem prefix_sampling_successes (before : List Sample) {failed : Sample} {taken : List Sample} :
    ∀ (x : Steady) (samples : List Sample), InTime maxMinutes samples →
    sampling maxMinutes x samples = before ++ failed :: taken → (∀ s ∈ before, s.read = true) →
    before <+: sampling maxMinutes x (successes samples) := by
  induction before with
  | nil => exact fun _ _ _ _ _ => List.nil_prefix
  | cons b before ih =>
      intro x samples htime heq hread
      obtain ⟨hb, hbefore⟩ := List.forall_mem_cons.1 hread
      cases samples with
      | nil => cases heq
      | cons s rest =>
          obtain ⟨hs, hrest⟩ := List.forall_mem_cons.1 htime
          rw [sampling_cons hs] at heq
          obtain ⟨rfl, hmore⟩ := List.cons.inj heq
          rw [successes, List.filter_cons_of_pos hb, sampling_cons hs]
          split at hmore
          case isTrue => simp at hmore
          case isFalse hflat =>
            rw [if_neg hflat, List.prefix_cons_inj]
            exact ih _ rest hrest hmore hbefore

/-- The first two samples do not stop the loop. -/
theorem sampling_length_lt_iff {samples : List Sample} (h : InTime maxMinutes samples) :
    (sampling maxMinutes ⟨0, none⟩ samples).length < 2 ↔ samples.length < 2 := by
  cases samples with
  | nil => exact Iff.rfl
  | cons first rest =>
      obtain ⟨hfirst, hrest⟩ := List.forall_mem_cons.1 h
      rw [sampling_cons hfirst, if_neg (by simp [flatSamples, Steady.observe])]
      cases rest with
      | nil => simp [sampling]
      | cons second rest =>
          rw [sampling_cons (List.forall_mem_cons.1 hrest).1, List.length_cons, List.length_cons,
            List.length_cons, List.length_cons]
          omega

end Loop

/-! ## Failed samples -/

/-- The figures are those of the successful samples, and the minimum is 0 only if one of them found
    no files. -/
structure IgnoresFailures (f : List Sample → Option Summary) (samples : List Sample) : Prop where
  figures : (f samples).map (·.toFigures) = (f (successes samples)).map (·.toFigures)
  minimum : ∀ s, f samples = some s → s.minFiles = 0 → ∃ x ∈ successes samples, x.row.files = 0

/-- The minimum is that of a row. -/
theorem exists_minFiles {rows : List Row} {s : Figures} (h : figuresOf rows = some s) :
    ∃ r ∈ rows, r.files = s.minFiles := by
  by_cases hlen : rows.length < 2
  · rw [figuresOf_of_short hlen] at h
    cases h
  · obtain ⟨first, lowest, -, hlowest, heq⟩ := exists_figuresOf (not_lt.1 hlen)
    obtain ⟨before, after, hrows, -, -⟩ := Selection.firstMin_eq_some_iff.1 hlowest
    obtain rfl := Option.some.inj (h.symm.trans heq)
    exact ⟨lowest, by simp [hrows], rfl⟩

/-- Where the figures are those of the successful samples, so is the minimum. -/
theorem ignoresFailures_iff_figures (take : List Sample → List Sample)
    (hsub : ∀ l, take l ⊆ l) (samples : List Sample) :
    IgnoresFailures (fun l => summary (rowsOf (take l))) samples ↔
      figuresOf (rowsOf (take samples)) = figuresOf (rowsOf (take (successes samples))) := by
  refine ⟨fun h => h.figures, fun h => ⟨h, fun s hs hzero => ?_⟩⟩
  have hfigures : figuresOf (rowsOf (take (successes samples))) = some s.toFigures := by
    rw [← h, figuresOf, hs]
    rfl
  obtain ⟨r, hr, hfiles⟩ := exists_minFiles hfigures
  obtain ⟨x, hx, rfl⟩ := List.mem_map.1 hr
  exact ⟨x, hsub _ hx, hfiles.trans hzero⟩

/-- **When failed samples do not count.** For any sequence of samples that is summarised, and for
any sequence that the loop is run on. -/
theorem ignoresFailures_iff (maxMinutes : Nat) (samples : List Sample) :
    (IgnoresFailures (fun l => summary (rowsOf l)) samples ↔
      Unaffected samples (successes samples)) ∧
    (InTime maxMinutes samples →
      (IgnoresFailures (drain maxMinutes) samples ↔
        Unaffected (sampling maxMinutes ⟨0, none⟩ samples)
          (sampling maxMinutes ⟨0, none⟩ (successes samples)))) := by
  constructor
  · refine (ignoresFailures_iff_figures id (fun l => List.Subset.refl l) samples).trans ?_
    refine figuresOf_eq_iff_unaffected (fun h => successes_eq_self h) ?_ ?_
    · rintro before failed rest rfl hbefore
      refine ⟨successes (failed :: rest), ?_⟩
      rw [id_eq, successes_append, successes_eq_self hbefore]
    · intro hlen
      exact lt_of_le_of_lt (List.length_filter_le ..) hlen
  · intro htime
    have hsuccesses : InTime maxMinutes (successes samples) :=
      fun s hs => htime s (List.mem_filter.1 hs).1
    refine (ignoresFailures_iff_figures _ (fun l => sampling_subset l _) samples).trans ?_
    refine figuresOf_eq_iff_unaffected (sampling_successes samples _ htime) ?_ ?_
    · intro before failed rest hsplit hbefore
      exact prefix_sampling_successes before _ samples htime hsplit hbefore
    · rw [sampling_length_lt_iff htime, sampling_length_lt_iff hsuccesses]
      exact fun hlen => lt_of_le_of_lt (List.length_filter_le ..) hlen

/-- 100 files, a failed snapshot, and 90 files. -/
def failedBetween : List Sample :=
  [⟨0, .taken (some ⟨100, 80, 1000⟩)⟩, ⟨10, .failed⟩, ⟨20, .taken (some ⟨90, 70, 1000⟩)⟩]

/-- The failed snapshot is reported as an empty backlog. -/
theorem not_ignoresFailures_failedBetween :
    ¬ ∀ (maxMinutes : Nat) (samples : List Sample), InTime maxMinutes samples →
      IgnoresFailures (fun l => summary (rowsOf l)) samples ∧
        IgnoresFailures (drain maxMinutes) samples := by
  intro hall
  have htime : InTime 60 failedBetween := by
    unfold InTime
    decide
  have hfigures := (hall 60 failedBetween htime).2.figures
  revert hfigures
  decide +kernel

/-- 100 files, none, a failed snapshot, and none. -/
def failedAtEmpty : List Sample :=
  [⟨0, .taken (some ⟨100, 80, 1000⟩)⟩, ⟨10, .taken (some ⟨0, 0, 900⟩)⟩, ⟨20, .failed⟩,
    ⟨30, .taken (some ⟨0, 0, 900⟩)⟩]

theorem ignoresFailures_failedAtEmpty : IgnoresFailures (drain 60) failedAtEmpty := by
  have htime : InTime 60 failedAtEmpty := by
    unfold InTime
    decide
  refine ((ignoresFailures_iff 60 failedAtEmpty).2 htime).2 ?_
  -- the loop takes all four samples, and the three that succeeded
  refine .harmless (failedAtEmpty.take 2) ⟨20, .failed⟩ (failedAtEmpty.drop 3) rfl ?_ rfl ?_
    (.emptyBefore ⟨10, 0, 0, 900⟩ ?_ rfl)
  all_goals decide +kernel

end AnalyticsTesting.Tests
