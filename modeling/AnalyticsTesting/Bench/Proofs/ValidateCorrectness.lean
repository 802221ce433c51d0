import Mathlib.Data.Int.Interval
import AnalyticsTesting.Lib.PyNumber
import AnalyticsTesting.Bench.ValidateCorrectness

set_option autoImplicit false

/-! # What the correctness gate decides

The three hard checks compare totals. For one generator whose range is exact, together they say
that as many rows landed as were acked, each with a number of its own (`verdict_pass_iff`). Which
records those are they do not say: a row of a failed request passes for a lost acked one
(`gate_sound_iff`), and a row of a failed request that landed beside all the acked ones is reported
as duplication (`gate_quiet_iff`). -/

namespace AnalyticsTesting.Bench

/-! ## The checks -/

theorem rowCount_pass_iff {rows : List ViewRow} {accepted : Int} :
    (rowCountCheck rows accepted).pass = true ↔ (rows.length : Int) = accepted := by
  simp only [rowCountCheck, decide_eq_true_eq]
  omega

theorem duplicates_pass_iff {rows : List ViewRow} :
    (duplicatesCheck rows).pass = true ↔ (rows.filterMap ViewRow.key).Nodup := by
  simp only [duplicatesCheck, decide_eq_true_eq, List.length_eq_zero_iff]
  exact Bag.repeated_eq_nil_iff

/-- The budget explains the numbers of a generator that no row has. -/
theorem contiguity_pass_iff {rows : List ViewRow} {m : Manifest} :
    (contiguityCheck (m.generators.map (generatorResult rows m))).pass = true ↔
      ∀ gen ∈ m.generators, gen.expectedSpan
        ≤ Bag.countDistinct ((rowsOf rows gen.genId).map (·.seq))
          + max 0 (m.offered - m.accepted) := by
  simp only [contiguityCheck, List.all_map, List.all_eq_true, Function.comp_apply,
    decide_eq_true_eq]
  refine forall₂_congr fun gen _ => ?_
  simp only [generatorResult]
  omega

theorem hardFailures_eq_nil_iff {rowCount : RowCountCheck} {duplicates : DuplicatesCheck}
    {contiguity : ContiguityCheck} :
    hardFailures rowCount duplicates contiguity = [] ↔
      rowCount.pass = true ∧ duplicates.pass = true ∧ contiguity.pass = true := by
  simp [hardFailures]

/-- Every row is the only one of its key so far, in excess of it, or has no key. -/
theorem duplicates_balance (rows : List ViewRow) :
    (rows.filterMap ViewRow.key).dedup.length + (duplicatesCheck rows).excessRows
      + rows.countP (fun row => row.seq.isNone || row.genId.isNone) = rows.length := by
  have hkeys : (rows.filterMap ViewRow.key).length
      + rows.countP (fun row => row.seq.isNone || row.genId.isNone) = rows.length := by
    induction rows with
    | nil => rfl
    | cons row rest ih =>
        rw [List.filterMap_cons, List.countP_cons, List.length_cons, ← ih]
        obtain ⟨genId, seq, timestamp, severityText, body⟩ := row
        cases genId <;> cases seq <;> simp [ViewRow.key] <;> omega
  rw [← hkeys, ← Bag.length_dedup_add_excess (rows.filterMap ViewRow.key)]
  rfl

/-! ## Runs -/

/-- A run of one generator: it offers the numbers from `seqMin` on, some of them are acked. -/
structure Run where
  genId : String
  genId_ne : genId ≠ ""
  seqMin : Int
  offered : Nat
  acked : Finset Int
  acked_mem : ∀ n ∈ acked, seqMin ≤ n ∧ n < seqMin + offered

/-- The manifest states the totals and the range of the run. -/
structure Truthful (run : Run) (m : Manifest) : Prop where
  generators : m.generators
    = [⟨some run.genId, some run.seqMin, some (run.seqMin + run.offered - 1)⟩]
  totalOffered : m.totalOffered = some (run.offered : Int)
  totalAccepted : m.totalAccepted = some (run.acked.card : Int)

/-- The manifest of a run. -/
def Run.manifest (run : Run) : Manifest where
  testId := none
  generators := [⟨some run.genId, some run.seqMin, some (run.seqMin + run.offered - 1)⟩]
  totalOffered := some run.offered
  totalAccepted := some run.acked.card
  totalRejected := none

theorem Run.truthful (run : Run) : Truthful run run.manifest := ⟨rfl, rfl, rfl⟩

/-! ## Examples of lakes -/

/-- DuckDB on canonical numerals, without hashes. -/
def plainDuckdb : Duckdb where
  tryCast := PyNumber.intOfStr
  hashText _ := 0
  hashBigint _ := 0

/-- The rows of these records, in the window `[0, 0]`. -/
def lakeOf (seqs : List Int) : Lake where
  logs := seqs.map fun seq =>
    ⟨[("bench.gen_id", some "g"), ("bench.seq", some (toString seq))], some 0, none, none⟩
  watermark := .ok [⟨some seqs.length, some 0⟩]
  checksumQuery := .ok ()

/-- Three records offered, the first two acked. -/
def twoOfThree : Run where
  genId := "g"
  genId_ne := by decide
  seqMin := 0
  offered := 3
  acked := {0, 1}
  acked_mem := by decide

/-! ## One generator -/

section OneGenerator

variable {db : Duckdb} {lake : Lake} {window : Window} {views : Views} {m : Manifest}
  {gen : ManifestGenerator} {genId : String}

theorem rowsOf_eq {rows : List ViewRow} (h : ∀ row ∈ rows, row.genId = some genId) :
    rowsOf rows (some genId) = rows := by
  refine List.filter_eq_self.2 fun row hrow => ?_
  rw [h row hrow]
  exact decide_eq_true rfl

/-- The keys of one generator's rows are its numbers. -/
theorem keys_eq {rows : List ViewRow} (h : ∀ row ∈ rows, row.genId = some genId) :
    rows.filterMap ViewRow.key = (rows.map (·.seq)).reduceOption.map (genId, ·) := by
  induction rows with
  | nil => rfl
  | cons row rest ih =>
      have hrow := h row (List.mem_cons_self ..)
      have hrest := ih fun r hr => h r (List.mem_cons_of_mem _ hr)
      rw [List.filterMap_cons, List.map_cons, hrest]
      cases hseq : row.seq with
      | none => simp [ViewRow.key, hrow, hseq, List.reduceOption_cons_of_none]
      | some n => simp [ViewRow.key, hrow, hseq, List.reduceOption_cons_of_some]

/-- The rows are as many as were acked, and each has a number of its own. -/
structure Exact (rows : List ViewRow) (accepted : Int) : Prop where
  length : (rows.length : Int) = accepted
  numbered : ∀ row ∈ rows, row.seq ≠ none
  nodup : (rows.map (·.seq)).Nodup

theorem verdict_eq_pass_iff :
    (validate db lake window views m).verdict = .pass ↔
      (rowCountCheck views.runRows m.accepted).pass = true ∧
      (duplicatesCheck views.runRows).pass = true ∧
      (contiguityCheck (m.generators.map (generatorResult views.runRows m))).pass = true := by
  rw [← hardFailures_eq_nil_iff]
  simp only [validate]
  split <;> simp_all

/-- **What the three checks say together.** The range spans what was offered, so the budget leaves
as many numbers to find as were acked; there are no more rows than that, so each row has one. -/
theorem validate_pass_iff (db : Duckdb) (lake : Lake) (window : Window)
    (hgens : m.generators = [gen]) (hgen : gen.genId = some genId)
    (hspan : gen.expectMax - gen.expectMin + 1 = m.offered) (hle : m.accepted ≤ m.offered)
    (hrows : ∀ row ∈ views.runRows, row.genId = some genId) :
    (validate db lake window views m).verdict = .pass ↔ Exact views.runRows m.accepted := by
  rw [verdict_eq_pass_iff, rowCount_pass_iff, duplicates_pass_iff, contiguity_pass_iff, hgens,
    keys_eq hrows]
  simp only [List.mem_singleton, forall_eq, hgen, rowsOf_eq hrows, ManifestGenerator.expectedSpan,
    hspan]
  have hdistinct := Bag.countDistinct_le (views.runRows.map (·.seq))
  have hcount : Bag.countDistinct (views.runRows.map (·.seq)) = (views.runRows.map (·.seq)).length ↔
      _ := Bag.countDistinct_eq_length_iff
  simp only [List.length_map, List.forall_mem_map] at hdistinct hcount
  constructor
  · rintro ⟨hlen, -, hcovered⟩
    obtain ⟨hnumbered, hnodup⟩ := hcount.1 (by omega)
    exact ⟨hlen, hnumbered, hnodup⟩
  · rintro ⟨hlen, hnumbered, hnodup⟩
    have hall := hcount.2 ⟨hnumbered, hnodup⟩
    refine ⟨hlen, ?_, by omega⟩
    rw [List.nodup_map_iff (fun a b hab => (Prod.mk.inj hab).2)]
    rwa [Bag.nodup_reduceOption_iff (by simpa using hnumbered)]

/-- Rows with numbers of their own that are as many as the acked records and are all acked records
are those records. -/
theorem Exact.seqs_eq {rows : List ViewRow} {acked : Finset Int} (h : Exact rows acked.card)
    (hacked : ∀ row ∈ rows, ∃ n ∈ acked, row.seq = some n) :
    ((rows.map (·.seq) : List (Option Int)) : Multiset (Option Int)) = acked.val.map some := by
  refine Multiset.eq_of_le_of_card_le ((Multiset.le_iff_subset (Multiset.coe_nodup.2 h.nodup)).2 ?_)
    ?_
  · intro x hx
    obtain ⟨row, hrow, rfl⟩ := List.mem_map.1 (Multiset.mem_coe.1 hx)
    obtain ⟨n, hn, hseq⟩ := hacked row hrow
    exact Multiset.mem_map.2 ⟨n, hn, hseq.symm⟩
  · have hlen := h.length
    rw [Multiset.card_map, Multiset.coe_card, List.length_map]
    exact (by exact_mod_cast hlen.ge : acked.card ≤ rows.length)

/-- **What a PASS means.** With one generator whose range is exact, the verdict is PASS if and only
if as many rows landed as were acked, none without a number and no number twice. Where only acked
records can land, these are the acked records, each once. -/
theorem verdict_pass_iff (db : Duckdb) (lake : Lake) (window : Window)
    (hgens : m.generators = [gen]) (hgen : gen.genId = some genId)
    (hspan : gen.expectMax - gen.expectMin + 1 = m.offered) (hle : m.accepted ≤ m.offered)
    (hrows : ∀ row ∈ views.runRows, row.genId = some genId) :
    ((validate db lake window views m).verdict = .pass ↔
      (views.runRows.length : Int) = m.accepted ∧ (∀ row ∈ views.runRows, row.seq ≠ none) ∧
        (views.runRows.map (·.seq)).Nodup) ∧
    ∀ acked : Finset Int, (acked.card : Int) = m.accepted →
      (∀ row ∈ views.runRows, ∃ n ∈ acked, row.seq = some n) →
      ((validate db lake window views m).verdict = .pass ↔
        ((views.runRows.map (·.seq) : List (Option Int)) : Multiset (Option Int))
          = acked.val.map some) := by
  have hpass := validate_pass_iff db lake window hgens hgen hspan hle hrows
  constructor
  · rw [hpass]
    exact ⟨fun h => ⟨h.length, h.numbered, h.nodup⟩, fun h => ⟨h.1, h.2.1, h.2.2⟩⟩
  · intro acked hcard hacked
    rw [hpass, ← hcard]
    constructor
    · exact fun h => h.seqs_eq hacked
    · intro heq
      have hlen := congrArg Multiset.card heq
      rw [Multiset.coe_card, List.length_map, Multiset.card_map] at hlen
      refine ⟨by exact_mod_cast hlen, ?_, ?_⟩
      · intro row hrow
        obtain ⟨n, -, hseq⟩ := hacked row hrow
        simp [hseq]
      · rw [← Multiset.coe_nodup, heq]
        exact acked.nodup.map (Option.some_injective Int)

theorem verdict_pass_iff_twoRows :
    (validate plainDuckdb (lakeOf [0, 1]) ⟨0, 0⟩
      ⟨[], [⟨some "g", some 0, 0, none, none⟩, ⟨some "g", some 1, 0, none, none⟩]⟩
      twoOfThree.manifest).verdict = .pass :=
  ((verdict_pass_iff plainDuckdb (lakeOf [0, 1]) ⟨0, 0⟩ rfl rfl (by decide) (by decide)
    (by decide)).1).2 (by decide)

end OneGenerator

/-! ## Truthful manifests -/

section Runs

variable {db : Duckdb} {lake : Lake} {window : Window} {run : Run} {m : Manifest}

theorem Run.card_acked_le (run : Run) : run.acked.card ≤ run.offered := by
  have hsub : run.acked ⊆ Finset.Ico run.seqMin (run.seqMin + run.offered) :=
    fun n hn => Finset.mem_Ico.2 (run.acked_mem n hn)
  have hcard := Finset.card_le_card hsub
  rw [Int.card_Ico] at hcard
  omega

/-- The rows of a truthful run are its generator's. -/
theorem genId_of_mem_runRows (h : Truthful run m) :
    ∀ row ∈ (runViews db lake window m).runRows, row.genId = some run.genId := by
  intro row hrow
  have hids : m.genIds = [run.genId] := by
    simp [Manifest.genIds, h.generators, Option.filter, run.genId_ne]
  have hin : inRun [run.genId] row = true := by
    rw [← hids]
    exact (List.mem_filter.1 hrow).2
  unfold inRun at hin
  cases hgen : row.genId with
  | none => simp [hgen] at hin
  | some genId => simpa [hgen] using hin

theorem validateRun_pass_iff (db : Duckdb) (lake : Lake) (window : Window) (h : Truthful run m) :
    (validateRun db lake window m).verdict = .pass ↔
      Exact (runViews db lake window m).runRows run.acked.card := by
  have haccepted : m.accepted = run.acked.card := by simp [Manifest.accepted, h.totalAccepted]
  have hoffered : m.offered = run.offered := by simp [Manifest.offered, h.totalOffered]
  have hle := run.card_acked_le
  rw [← haccepted]
  refine validate_pass_iff db lake window h.generators rfl ?_ (by omega) (genId_of_mem_runRows h)
  simp only [ManifestGenerator.expectMax, ManifestGenerator.expectMin, Option.getD_some]
  omega

/-- How often a record is among the rows. -/
def landings (rows : List ViewRow) (n : Int) : Nat := rows.countP (·.seq = some n)

theorem count_seqs (rows : List ViewRow) (n : Int) :
    Multiset.count (some n) ((rows.map (·.seq) : List (Option Int)) : Multiset (Option Int))
      = landings rows n := by
  induction rows with
  | nil => rfl
  | cons row rest ih =>
      unfold landings at ih ⊢
      rw [List.map_cons, ← Multiset.cons_coe, Multiset.count_cons, ih, List.countP_cons]
      simp [eq_comm]

theorem mem_seqs_of_landings {rows : List ViewRow} {n : Int} (h : landings rows n = 1) :
    some n ∈ rows.map (·.seq) := by
  have hpos : 0 < rows.countP (·.seq = some n) := Nat.lt_of_lt_of_eq Nat.one_pos h.symm
  obtain ⟨row, hrow, hseq⟩ := List.countP_pos_iff.1 hpos
  exact List.mem_map.2 ⟨row, hrow, of_decide_eq_true hseq⟩

/-- The totals balance although a row is not that of an acked record. -/
structure Masked (run : Run) (rows : List ViewRow) : Prop where
  exact : Exact rows run.acked.card
  stray : ∃ row ∈ rows, ∀ n ∈ run.acked, row.seq ≠ some n

/-- Distinct rows that are as many as the acked records and have them all are acked records. -/
theorem Exact.acked_of_landings {rows : List ViewRow} (h : Exact rows run.acked.card)
    (hlanded : ∀ n ∈ run.acked, landings rows n = 1) :
    ∀ row ∈ rows, ∃ n ∈ run.acked, row.seq = some n := by
  intro row hrow
  have hcard : (rows.map (·.seq)).length = (run.acked.map .some).card := by
    rw [List.length_map, Finset.card_map]
    exact_mod_cast h.length
  have hmem := Bag.mem_of_card h.nodup hcard (by
    intro x hx
    obtain ⟨n, hn, rfl⟩ := Finset.mem_map.1 hx
    exact mem_seqs_of_landings (hlanded n hn))
  obtain ⟨n, hn, hseq⟩ := Finset.mem_map.1 (hmem row.seq (List.mem_map_of_mem hrow))
  exact ⟨n, hn, hseq.symm⟩

/-- **When a PASS rules out loss.** On the rows of a truthful run, a PASS means that every acked
record landed exactly once, unless rows that are not acked records make up for lost ones. -/
theorem gate_sound_iff (db : Duckdb) (lake : Lake) (window : Window) (h : Truthful run m) :
    ((validateRun db lake window m).verdict = .pass →
      ∀ n ∈ run.acked, landings (runViews db lake window m).runRows n = 1) ↔
    ¬ Masked run (runViews db lake window m).runRows := by
  rw [validateRun_pass_iff db lake window h]
  constructor
  · rintro hsound ⟨hexact, row, hrow, hstray⟩
    obtain ⟨n, hn, hseq⟩ := hexact.acked_of_landings (hsound hexact) row hrow
    exact hstray n hn hseq
  · intro hmasked hexact n hn
    have hacked : ∀ row ∈ (runViews db lake window m).runRows, ∃ n ∈ run.acked,
        row.seq = some n := by
      by_contra hstray
      push Not at hstray
      exact hmasked ⟨hexact, hstray⟩
    have heq := congrArg (Multiset.count (some n)) (hexact.seqs_eq hacked)
    rw [count_seqs, Multiset.count_map_eq_count' _ _ (Option.some_injective Int)] at heq
    exact heq.trans (Multiset.count_eq_one_of_mem run.acked.nodup hn)

/-- The lake lost the second record and has the third one, which was never acked. -/
theorem not_gate_sound_masked :
    ¬ ∀ (db : Duckdb) (lake : Lake) (window : Window) (run : Run) (m : Manifest),
      Truthful run m → (validateRun db lake window m).verdict = .pass →
      ∀ n ∈ run.acked, landings (runViews db lake window m).runRows n = 1 := by
  intro hall
  have hone := hall plainDuckdb (lakeOf [0, 2]) ⟨0, 0⟩ twoOfThree _ twoOfThree.truthful
    (by decide +kernel) 1 (by decide)
  exact absurd hone (by decide +kernel)

theorem gate_sound_twoOfThree :
    (validateRun plainDuckdb (lakeOf [0, 1]) ⟨0, 0⟩ twoOfThree.manifest).verdict = .pass ∧
      landings (runViews plainDuckdb (lakeOf [0, 1]) ⟨0, 0⟩ twoOfThree.manifest).runRows 0 = 1 ∧
      landings (runViews plainDuckdb (lakeOf [0, 1]) ⟨0, 0⟩ twoOfThree.manifest).runRows 1 = 1 := by
  have hpass : (validateRun plainDuckdb (lakeOf [0, 1]) ⟨0, 0⟩ twoOfThree.manifest).verdict =
      .pass := by decide +kernel
  have hsound := gate_sound_iff plainDuckdb (lakeOf [0, 1]) ⟨0, 0⟩ twoOfThree.truthful
  have hlanded := hsound.2 (by
    rintro ⟨-, row, hrow, hstray⟩
    have hacked : ∀ row ∈ (runViews plainDuckdb (lakeOf [0, 1]) ⟨0, 0⟩
        twoOfThree.manifest).runRows, ∃ n ∈ twoOfThree.acked, row.seq = some n := by
      decide +kernel
    obtain ⟨n, hn, hseq⟩ := hacked row hrow
    exact hstray n hn hseq) hpass
  exact ⟨hpass, hlanded 0 (by decide), hlanded 1 (by decide)⟩

/-- No record landed twice, every acked one landed, and no row is of anything else than the run. -/
structure LandedOnce (run : Run) (rows : List ViewRow) : Prop where
  known : ∀ row ∈ rows, ∃ n, row.seq = some n ∧ run.seqMin ≤ n ∧ n < run.seqMin + run.offered
  acked : ∀ n ∈ run.acked, landings rows n = 1
  once : (rows.map (·.seq)).Nodup

/-- If acked records only landed, the rows are as many as them. -/
theorem LandedOnce.exact {rows : List ViewRow} (h : LandedOnce run rows)
    (hacked : ∀ row ∈ rows, ∃ n ∈ run.acked, row.seq = some n) : Exact rows run.acked.card := by
  have hnumbered : ∀ row ∈ rows, row.seq ≠ none := by
    intro row hrow
    obtain ⟨n, -, hseq⟩ := hacked row hrow
    simp [hseq]
  have hle : rows.length ≤ run.acked.card := by
    have hsub : (rows.map (·.seq)).toFinset ⊆ run.acked.map .some := by
      intro x hx
      obtain ⟨row, hrow, rfl⟩ := List.mem_map.1 (List.mem_toFinset.1 hx)
      obtain ⟨n, hn, hseq⟩ := hacked row hrow
      exact Finset.mem_map.2 ⟨n, hn, hseq.symm⟩
    have hcard := Finset.card_le_card hsub
    rwa [List.toFinset_card_of_nodup h.once, List.length_map, Finset.card_map] at hcard
  have hge : run.acked.card ≤ rows.length := by
    have hsub : run.acked.map .some ⊆ (rows.map (·.seq)).toFinset := by
      intro x hx
      obtain ⟨n, hn, rfl⟩ := Finset.mem_map.1 hx
      exact List.mem_toFinset.2 (mem_seqs_of_landings (h.acked n hn))
    have hcard := Finset.card_le_card hsub
    rwa [List.toFinset_card_of_nodup h.once, List.length_map, Finset.card_map] at hcard
  exact ⟨by omega, hnumbered, h.once⟩

/-- The check speaks of duplication. -/
def RowCountCheck.ReportsDuplication (check : RowCountCheck) : Prop :=
  "DUPLICATION".toList <:+: check.detail.toList

theorem not_reportsDuplication {rows : List ViewRow} {accepted : Int}
    (h : (rows.length : Int) = accepted) :
    ¬ (rowCountCheck rows accepted).ReportsDuplication := by
  have hdetail : (rowCountCheck rows accepted).detail = "exact match" := by
    simp [rowCountCheck, h]
  unfold RowCountCheck.ReportsDuplication
  rw [hdetail]
  decide

/-- **When the gate is quiet.** On a truthful run in which every acked record landed once and no
record twice, the gate neither fails nor reports duplication if and only if no record of a failed
request landed. -/
theorem gate_quiet_iff (db : Duckdb) (lake : Lake) (window : Window) (h : Truthful run m)
    (hlanded : LandedOnce run (runViews db lake window m).runRows) :
    ((validateRun db lake window m).verdict ≠ .fail ∧
      ¬ (validateRun db lake window m).rowCount.ReportsDuplication) ↔
    ∀ row ∈ (runViews db lake window m).runRows, ∃ n ∈ run.acked, row.seq = some n := by
  have hpass := validateRun_pass_iff db lake window h
  constructor
  · rintro ⟨hverdict, -⟩
    have hexact := hpass.1 (by
      cases hv : (validateRun db lake window m).verdict with
      | pass => rfl
      | fail => exact absurd hv hverdict)
    exact hexact.acked_of_landings hlanded.acked
  · intro hacked
    have hexact := hlanded.exact hacked
    refine ⟨by rw [hpass.2 hexact]; decide, ?_⟩
    have haccepted : m.accepted = run.acked.card := by simp [Manifest.accepted, h.totalAccepted]
    exact not_reportsDuplication (by rw [haccepted]; exact hexact.length)

/-- All of the acked records landed, and the third one as well. -/
theorem not_gate_quiet_failedLanded :
    ¬ ∀ (db : Duckdb) (lake : Lake) (window : Window) (run : Run) (m : Manifest),
      Truthful run m → LandedOnce run (runViews db lake window m).runRows →
      (validateRun db lake window m).verdict ≠ .fail ∧
        ¬ (validateRun db lake window m).rowCount.ReportsDuplication := by
  intro hall
  have hlanded : LandedOnce twoOfThree
      (runViews plainDuckdb (lakeOf [0, 1, 2]) ⟨0, 0⟩ twoOfThree.manifest).runRows :=
    ⟨by decide +kernel, by decide +kernel, by decide +kernel⟩
  have hquiet := hall plainDuckdb (lakeOf [0, 1, 2]) ⟨0, 0⟩ twoOfThree _ twoOfThree.truthful hlanded
  exact hquiet.1 (by decide +kernel)

theorem gate_quiet_twoOfThree :
    (validateRun plainDuckdb (lakeOf [1, 0]) ⟨0, 0⟩ twoOfThree.manifest).verdict ≠ .fail ∧
      ¬ (validateRun plainDuckdb (lakeOf [1, 0]) ⟨0, 0⟩
        twoOfThree.manifest).rowCount.ReportsDuplication :=
  (gate_quiet_iff plainDuckdb (lakeOf [1, 0]) ⟨0, 0⟩ twoOfThree.truthful
    ⟨by decide +kernel, by decide +kernel, by decide +kernel⟩).2 (by decide +kernel)

end Runs

end AnalyticsTesting.Bench
