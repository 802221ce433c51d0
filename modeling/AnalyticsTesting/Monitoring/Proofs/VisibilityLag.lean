import AnalyticsTesting.Bench.Report
import AnalyticsTesting.Monitoring.PipelineExporter

set_option autoImplicit false

/-! # Readings of the visibility lag

The exporter asks for the watermark at its own, slower cadence and fills the samples in between
from a cache that a failed scrape does not clear; the report counts every sample with a lag in it.
So a reading is counted once for every poll until the next scrape that succeeds, and the report has
each reading exactly once if and only if no sample is filled while the cache holds one
(`reportedOnce_iff`). -/

namespace AnalyticsTesting.Monitoring

open Bench (lagValues)

variable (fl : FloatFormat)

/-! ## One poll -/

/-- What a poll keeps for the watermark, and the samples written. -/
def Exporter.record (e : Exporter) : Double × Watermark × List Sample :=
  (e.lastLag, e.lagCache, e.jsonl)

theorem runSource_record {α : Type} (name : Source) (seconds : Source → Double) (fn : Scrape α)
    (e : Exporter) : (runSource name seconds fn e).1.record = e.record := by
  unfold runSource
  cases fn.result <;> rfl

theorem pollMajor_record (args : Args) (p : Poll) (e : Exporter) :
    (pollMajor fl args p e).1.record = e.record := by
  unfold pollMajor
  split
  · exact runSource_record _ _ _ e
  · rfl

theorem pollS3_record (args : Args) (p : Poll) (e : Exporter) :
    (pollS3 fl args p e).1.record = e.record := by
  unfold pollS3
  split
  · exact runSource_record .s3 p.seconds (Journal.ofExcept (p.s3.mapError .text)) e
  · rfl

/-- What a scrape comes to, as the entry of a sample. -/
def outcome {α : Type} (fn : Scrape α) : Entry α :=
  match fn.result with
  | .ok v => .scraped v
  | .error error => .failed error.cut

theorem runSource_entry {α : Type} (name : Source) (seconds : Source → Double) (fn : Scrape α)
    (e : Exporter) : (runSource name seconds fn e).2 = outcome fn := by
  unfold runSource outcome
  cases fn.result <;> rfl

/-- The watermark's part of a poll, where a scrape is due and where it is not. -/
theorem pollWatermark_spec (args : Args) (p : Poll) (e : Exporter) :
    if isDue fl p.now e.lastLag args.watermarkInterval then
      (pollWatermark fl args p e).2 = outcome (scrapeWatermark fl p) ∧
        (pollWatermark fl args p e).1.record
          = (p.now, (outcome (scrapeWatermark fl p)).value.getD e.lagCache, e.jsonl)
    else (pollWatermark fl args p e).2 = .cached e.lagCache ∧
      (pollWatermark fl args p e).1.record = e.record := by
  have hrecord := runSource_record .watermark p.seconds (scrapeWatermark fl p) e
  simp only [Exporter.record, Prod.mk.injEq] at hrecord
  unfold pollWatermark
  split
  · simp only [runSource_entry, Exporter.record, hrecord, and_self]
  · exact ⟨rfl, rfl⟩

/-- The exporter as the watermark's part of a poll finds it. -/
def beforeWatermark (args : Args) (e : Exporter) (p : Poll) : Exporter :=
  let e := (runSource .collector p.seconds (scrapeCollector fl args p) e).1
  let e := (runSource .compactor p.seconds (scrapeCompactor fl args p) e).1
  let e := (pollMajor fl args p e).1
  (runSource .catalog p.seconds (Journal.ofExcept (p.catalog.mapError .text)) e).1

theorem beforeWatermark_record (args : Args) (e : Exporter) (p : Poll) :
    (beforeWatermark fl args e p).record = e.record := by
  unfold beforeWatermark
  simp only [runSource_record, pollMajor_record]

/-- **The watermark in one poll.** Where a scrape is due the sample has its outcome, which is cached
if it is a success; else the sample has what is cached. -/
theorem turn_spec (args : Args) (e : Exporter) (p : Poll) :
    let sample := (pollOnce fl args e p).2
    if isDue fl p.now e.lastLag args.watermarkInterval then
      sample.watermark = outcome (scrapeWatermark fl p) ∧
        (turn fl args e p).record
          = (p.now, (outcome (scrapeWatermark fl p)).value.getD e.lagCache, e.jsonl ++ [sample])
    else sample.watermark = .cached e.lagCache ∧
      (turn fl args e p).record = (e.lastLag, e.lagCache, e.jsonl ++ [sample]) := by
  -- neither what is scraped before the watermark nor what comes after it touches the record
  have hbefore := beforeWatermark_record fl args e p
  have hspec := pollWatermark_spec fl args p (beforeWatermark fl args e p)
  have hafter := pollS3_record fl args p (pollWatermark fl args p (beforeWatermark fl args e p)).1
  simp only [Exporter.record, Prod.mk.injEq] at hbefore hafter
  have hentry : (pollOnce fl args e p).2.watermark
      = (pollWatermark fl args p (beforeWatermark fl args e p)).2 := rfl
  have hrecord : (turn fl args e p).record
      = ((pollWatermark fl args p (beforeWatermark fl args e p)).1.lastLag,
        (pollWatermark fl args p (beforeWatermark fl args e p)).1.lagCache,
        (pollWatermark fl args p (beforeWatermark fl args e p)).1.jsonl ++
          [(pollOnce fl args e p).2]) := by
    rw [← hafter.1, ← hafter.2.1, ← hafter.2.2]
    rfl
  simp only [hentry, hrecord]
  rw [hbefore.1, hbefore.2.1, hbefore.2.2] at hspec
  split
  case isTrue hdue =>
    simp only [hdue, if_true, Exporter.record, Prod.mk.injEq] at hspec
    obtain ⟨he, hlast, hcache, hjsonl⟩ := hspec
    exact ⟨he, by rw [hlast, hcache, hjsonl]⟩
  case isFalse hdue =>
    simp only [hdue, Exporter.record, Prod.mk.injEq] at hspec
    obtain ⟨he, hlast, hcache, hjsonl⟩ := hspec
    exact ⟨he, by rw [hlast, hcache, hjsonl, hbefore.1, hbefore.2.1, hbefore.2.2]⟩

/-! ## What is counted -/

/-- `dig(row, "watermark", "lag_seconds")`. -/
def Sample.lagSeconds (sample : Sample) : Option Double :=
  sample.watermark.value.bind (·.lagSeconds)

/-- A lag that `analyse_lag` counts. -/
def counted (lag : Option Double) : Option Double := lag.filter fun x => Double.le (.fin 0) x

/-- The value that the watermark scrape of a poll returns, if it succeeds and the table is not
empty. -/
def Poll.returned (p : Poll) : Option Double :=
  match (scrapeWatermark fl p).result with
  | .ok w => w.lagSeconds
  | .error _ => none

/-- The reading of a poll in state `e`: what its watermark scrape returns, where one is due. -/
def reading (args : Args) (e : Exporter) (p : Poll) : Option Double :=
  if isDue fl p.now e.lastLag args.watermarkInterval then p.returned fl else none

/-- A poll that counts its reading and nothing else: a scrape is due and does not find a NaN, or
none is due and the cache has nothing that is counted. -/
def CountsOnce (args : Args) (e : Exporter) (p : Poll) : Prop :=
  if isDue fl p.now e.lastLag args.watermarkInterval then
    ∀ row, p.watermark = .ok row → (fl.ofInt row.committed).isSome → row.lag ≠ some .nan
  else counted e.lagCache.lagSeconds = none

/-- The lag that a scrape makes of a row. -/
def WatermarkRow.lagSeconds (row : WatermarkRow) : Option Double :=
  let lag := row.lag.getD (.fin (-1))
  if Double.lt lag (.fin 0) then none else some lag

theorem returned_eq (p : Poll) :
    p.returned fl = match p.watermark with
      | .ok row => if (fl.ofInt row.committed).isSome then row.lagSeconds else none
      | .error _ => none := by
  unfold Poll.returned scrapeWatermark
  cases hrow : p.watermark with
  | error message => rfl
  | ok row =>
      simp only [Except.mapError, Journal.ofExcept_ok_bind, Gauge.setValue, Config.Value.toFloat]
      cases fl.ofInt row.committed <;> rfl

/-- Only a NaN is neither below zero nor at least zero. -/
theorem le_zero_iff {x : Double} (h : Double.lt x (.fin 0) = false) :
    Double.le (.fin 0) x = true ↔ x ≠ .nan := by
  cases x with
  | nan => simp [Double.le]
  | inf negative => simp [Double.le, h]
  | fin q => simp [Double.le, h]

theorem counted_lagSeconds_iff (row : WatermarkRow) :
    counted row.lagSeconds = row.lagSeconds ↔ row.lag ≠ some .nan := by
  unfold WatermarkRow.lagSeconds counted
  cases hlag : row.lag with
  | none => simp [Double.lt]
  | some x =>
      simp only [Option.getD_some]
      split
      case isTrue hneg =>
        simp only [Option.filter_none, true_iff]
        rintro ⟨⟩
        simp [Double.lt] at hneg
      case isFalse hnonneg =>
        have hlt : Double.lt x (.fin 0) = false := by simpa using hnonneg
        by_cases hnan : x = .nan
        · simp [hnan, Double.le]
        · simp [(le_zero_iff hlt).2 hnan, hnan]

/-- What a scrape returns is counted, unless it is a NaN. -/
theorem counted_returned_iff (p : Poll) :
    counted (p.returned fl) = p.returned fl ↔
      ∀ row, p.watermark = .ok row → (fl.ofInt row.committed).isSome → row.lag ≠ some .nan := by
  rw [returned_eq]
  cases p.watermark with
  | error message => simp [counted]
  | ok row =>
      by_cases hcommitted : (fl.ofInt row.committed).isSome = true
      · simp [hcommitted, counted_lagSeconds_iff]
      · simp [hcommitted, counted]

/-- What a poll adds to the counted values. -/
theorem counted_turn (args : Args) (e : Exporter) (p : Poll) :
    counted (pollOnce fl args e p).2.lagSeconds =
      if isDue fl p.now e.lastLag args.watermarkInterval then counted (p.returned fl)
      else counted e.lagCache.lagSeconds := by
  have hspec := turn_spec fl args e p
  split
  case isTrue hdue =>
    simp only [hdue, if_true] at hspec
    unfold Sample.lagSeconds Poll.returned
    rw [hspec.1]
    unfold outcome
    cases (scrapeWatermark fl p).result <;> rfl
  case isFalse hdue =>
    simp only [hdue] at hspec
    unfold Sample.lagSeconds
    rw [hspec.1]
    rfl

theorem countsOnce_iff (args : Args) (e : Exporter) (p : Poll) :
    CountsOnce fl args e p ↔
      counted (pollOnce fl args e p).2.lagSeconds = reading fl args e p := by
  rw [counted_turn]
  unfold CountsOnce reading
  split
  · exact (counted_returned_iff fl p).symm
  · rfl

/-- The value that a poll adds is its reading, if that is counted, or the poll has no reading. -/
theorem counted_or (args : Args) (e : Exporter) (p : Poll) :
    counted (pollOnce fl args e p).2.lagSeconds = counted (reading fl args e p) ∨
      reading fl args e p = none := by
  rw [counted_turn]
  unfold reading
  split
  · exact Or.inl rfl
  · exact Or.inr rfl

/-! ## Runs of polls -/

/-- The samples in the file are those of the polls. -/
theorem jsonl_of_run (args : Args) (ps : List Poll) :
    ∀ {e e' : Exporter}, (exporter fl args).run e ps = some e' →
      e'.jsonl = e.jsonl ++
        ((exporter fl args).trace e ps).map fun x => (pollOnce fl args x.1 x.2).2 := by
  induction ps with
  | nil =>
      intro e e' h
      obtain rfl : e = e' := by simpa [Transition.System.run] using h
      simp [Transition.System.trace]
  | cons p ps ih =>
      intro e e' h
      obtain ⟨t, ht, hrest⟩ := Transition.System.run_cons_eq_some.1 h
      obtain rfl : turn fl args e p = t := Option.some.inj ht
      have hjsonl : (turn fl args e p).jsonl = e.jsonl ++ [(pollOnce fl args e p).2] := by
        have hspec := turn_spec fl args e p
        simp only [Exporter.record, Prod.mk.injEq] at hspec
        split at hspec <;> exact hspec.2.2.2
      rw [ih hrest, hjsonl, List.append_assoc]
      rfl

section Places

variable {α β : Type} {f g : α → Option β}

/-- With more places that have a value there are no fewer values. -/
theorem length_filterMap_le {xs : List α} (h : ∀ x ∈ xs, f x = g x ∨ g x = none) :
    (xs.filterMap g).length ≤ (xs.filterMap f).length := by
  induction xs with
  | nil => exact le_rfl
  | cons x xs ih =>
      have hrest := ih fun y hy => h y (List.mem_cons_of_mem x hy)
      rcases h x List.mem_cons_self with heq | hnone
      · simp only [List.filterMap_cons, heq]
        cases g x <;> simpa using hrest
      · simp only [List.filterMap_cons, hnone]
        cases f x with
        | none => exact hrest
        | some b => exact hrest.trans (Nat.le_succ _)

theorem eq_of_filterMap_eq {xs : List α} (h : ∀ x ∈ xs, f x = g x ∨ g x = none)
    (heq : xs.filterMap f = xs.filterMap g) : ∀ x ∈ xs, f x = g x := by
  induction xs with
  | nil => simp
  | cons x xs ih =>
      have htail : ∀ y ∈ xs, f y = g y ∨ g y = none := fun y hy => h y (List.mem_cons_of_mem x hy)
      have hx : f x = g x := by
        rcases h x List.mem_cons_self with hx | hnone
        · exact hx
        · cases hf : f x with
          | none => exact hnone.symm
          | some b =>
              -- the first list would have one value more
              have hlen := congrArg List.length heq
              simp only [List.filterMap_cons, hf, hnone, List.length_cons] at hlen
              have hle := length_filterMap_le htail
              omega
      rw [List.forall_mem_cons]
      refine ⟨hx, ih htail ?_⟩
      simp only [List.filterMap_cons, hx] at heq
      cases hg : g x with
      | none => simpa [hg] using heq
      | some b => simpa [hg] using heq

/-- Where the first of two functions has, place by place, the value of the second if it satisfies
`P`, or a value of its own that does, they have the same values exactly if they agree. -/
theorem filterMap_eq_iff {P : β → Bool} {xs : List α}
    (hP : ∀ x ∈ xs, ∀ b, f x = some b → P b = true)
    (h : ∀ x ∈ xs, f x = (g x).filter P ∨ g x = none) :
    xs.filterMap f = xs.filterMap g ↔ ∀ x ∈ xs, f x = g x := by
  constructor
  · intro heq
    refine eq_of_filterMap_eq (fun x hx => ?_) heq
    cases hg : g x with
    | none => exact Or.inr rfl
    | some b =>
        have hb : b ∈ xs.filterMap f := heq ▸ List.mem_filterMap.2 ⟨x, hx, hg⟩
        obtain ⟨y, hy, hfy⟩ := List.mem_filterMap.1 hb
        rcases h x hx with hfx | hnone
        · left
          rw [hfx, hg]
          simp [hP y hy b hfy]
        · simp [hg] at hnone
  · intro hall
    exact List.filterMap_congr hall

end Places

/-! ## The report -/

def Entry.isCached {α : Type} : Entry α → Bool
  | .cached _ => true
  | _ => false

/-- The most recent scrape of the watermark in these samples failed. -/
def LastScrapeFailed (written : List Sample) : Prop :=
  ∃ error, ((written.map (·.watermark)).filter (!·.isCached)).getLast? = some (.failed error)

/-- The values that the report derives are the readings of the scrapes, each once and in order, and
no value from before a failed scrape is counted again. -/
structure ReportedOnce (written : List Sample) (readings : List Double) : Prop where
  values : lagValues (written.map Sample.lagSeconds) = readings
  stale : ∀ before sample after, written = before ++ sample :: after → LastScrapeFailed before →
    sample.watermark.isCached = true → counted sample.lagSeconds = none

/-- The readings of the watermark scrapes in a run of polls. -/
def readings (args : Args) (ps : List Poll) : List Double :=
  ((exporter fl args).trace Exporter.new ps).filterMap fun x => reading fl args x.1 x.2

/-- A sample filled from the cache, where the poll counts its reading only. -/
theorem counted_of_cached {args : Args} {e : Exporter} {p : Poll} (h : CountsOnce fl args e p)
    (hcached : (pollOnce fl args e p).2.watermark.isCached = true) :
    counted (pollOnce fl args e p).2.lagSeconds = none := by
  have hspec := turn_spec fl args e p
  rw [counted_turn]
  unfold CountsOnce at h
  split
  case isTrue hdue =>
    simp only [hdue, if_true] at hspec
    rw [hspec.1] at hcached
    unfold outcome at hcached
    cases hresult : (scrapeWatermark fl p).result <;> simp [hresult, Entry.isCached] at hcached
  case isFalse hdue => simpa [hdue] using h

/-- The values of the report are the readings exactly if every poll counts its reading and nothing
else. -/
theorem lagValues_eq_readings_iff {args : Args} {ps : List Poll} {e : Exporter}
    (h : (exporter fl args).run Exporter.new ps = some e) :
    lagValues (e.jsonl.map Sample.lagSeconds) = readings fl args ps ↔
      (exporter fl args).Meets (CountsOnce fl args) Exporter.new ps := by
  have hjsonl : e.jsonl = ((exporter fl args).trace Exporter.new ps).map
      fun x => (pollOnce fl args x.1 x.2).2 := jsonl_of_run fl args ps h
  rw [Transition.System.meets_iff_trace, hjsonl]
  unfold lagValues readings
  rw [List.map_map, List.filterMap_map]
  refine (filterMap_eq_iff (P := fun x => Double.le (.fin 0) x) ?_ ?_).trans ?_
  · intro x _ b hb
    exact (Option.filter_eq_some_iff.1 hb).2
  · exact fun x _ => counted_or fl args x.1 x.2
  · exact forall₂_congr fun x _ => (countsOnce_iff fl args x.1 x.2).symm

/-- **When each reading is counted once.** The report of a run of polls has the readings of the
watermark scrapes exactly if every poll counts its own reading and nothing else. -/
theorem reportedOnce_iff {args : Args} {ps : List Poll} {e : Exporter}
    (h : (exporter fl args).run Exporter.new ps = some e) :
    ReportedOnce e.jsonl (readings fl args ps) ↔
      (exporter fl args).Meets (CountsOnce fl args) Exporter.new ps := by
  constructor
  · exact fun hreported => (lagValues_eq_readings_iff fl h).1 hreported.values
  · intro hmeets
    refine ⟨(lagValues_eq_readings_iff fl h).2 hmeets,
      fun before sample after hsplit _ hcached => ?_⟩
    have hmem : sample ∈ e.jsonl := by rw [hsplit]; simp
    rw [jsonl_of_run fl args ps h, List.mem_append, List.mem_map] at hmem
    obtain hnew | ⟨x, hx, rfl⟩ := hmem
    · cases hnew
    · exact counted_of_cached fl (Transition.System.meets_iff_trace.1 hmeets x hx) hcached

/-! ## A poll between two scrapes -/

/-- The default intervals: a scrape of the watermark every 60 s. -/
def minuteArgs : Args where
  healthMode := .ssh
  agentStatePath := "/opt/analytics-bench/agent/state/health.json"
  maxStateAge := .fin 90
  compactorMajorHealthPort := 8090
  watermarkInterval := .fin 60
  s3Interval := .fin 60

/-- A poll at `now` at which the watermark lags by 5 s; everything else fails. -/
def laggingPoll (now : ℚ) : Poll where
  now := .fin now
  collector := .failed "ssh failed"
  compactor := .failed "ssh failed"
  compactorMajor := .failed "ssh failed"
  readAt _ := .fin now
  tierAt _ _ := .fin now
  catalog := .error "connection refused"
  watermark := .ok { lag := some (.fin 5), committed := 100 }
  s3 := .error "connection refused"
  seconds _ := .fin 0

/-- A poll at `now` that finds an empty table. -/
def emptyTablePoll (now : ℚ) : Poll :=
  { laggingPoll now with watermark := .ok { lag := none, committed := 0 } }

/-- The first scrape finds no lag, so the poll between the scrapes repeats none. -/
def emptyThenLagging : List Poll := [emptyTablePoll 1000, laggingPoll 1010, laggingPoll 1070]

theorem countsOnce_of_due {args : Args} {e : Exporter} {p : Poll} {row : WatermarkRow}
    (hdue : isDue fl p.now e.lastLag args.watermarkInterval = true) (hrow : p.watermark = .ok row)
    (hlag : row.lag ≠ some .nan) : CountsOnce fl args e p := by
  unfold CountsOnce
  rw [if_pos hdue, hrow]
  rintro _ ⟨⟩ -
  exact hlag

theorem countsOnce_of_notDue {args : Args} {e : Exporter} {p : Poll}
    (hdue : isDue fl p.now e.lastLag args.watermarkInterval = false)
    (hcache : counted e.lagCache.lagSeconds = none) : CountsOnce fl args e p := by
  unfold CountsOnce
  rwa [hdue, if_neg Bool.false_ne_true]

theorem reportedOnce_iff_emptyThenLagging : ∃ e,
    (exporter .binary64 minuteArgs).run Exporter.new emptyThenLagging = some e ∧
      readings .binary64 minuteArgs emptyThenLagging = [.fin 5] ∧
      ReportedOnce e.jsonl (readings .binary64 minuteArgs emptyThenLagging) := by
  refine ⟨_, rfl, by decide +kernel, (reportedOnce_iff .binary64 rfl).2 ?_⟩
  refine ⟨countsOnce_of_due _ (by decide +kernel) rfl (by decide), ?_⟩
  rintro _ ⟨⟩
  refine ⟨countsOnce_of_notDue _ (by decide +kernel) (by decide +kernel), ?_⟩
  rintro _ ⟨⟩
  exact ⟨countsOnce_of_due _ (by decide +kernel) rfl (by decide), fun _ _ => trivial⟩

/-- **A reading is counted twice** when a poll falls between two scrapes of the watermark. -/
theorem not_reportedOnce_betweenScrapes :
    ¬ ∀ (args : Args) (ps : List Poll) (e : Exporter),
        (exporter .binary64 args).run Exporter.new ps = some e →
          ReportedOnce e.jsonl (readings .binary64 args ps) := by
  intro h
  have hmeets := (lagValues_eq_readings_iff .binary64 rfl).1
    (h minuteArgs [laggingPoll 1000, laggingPoll 1010] _ rfl).values
  -- the first poll scrapes and caches the reading
  have hdue : isDue .binary64 (laggingPoll 1000).now Exporter.new.lastLag
      minuteArgs.watermarkInterval = true := by
    decide +kernel
  have hcached : (outcome (scrapeWatermark .binary64 (laggingPoll 1000))).value
      = some { lagSeconds := some (.fin 5), committedRows := some 100 } := by
    decide +kernel
  have hfirst := turn_spec .binary64 minuteArgs Exporter.new (laggingPoll 1000)
  simp only [hdue, if_true, hcached, Exporter.record, Prod.mk.injEq] at hfirst
  obtain ⟨-, hlast, hcache, -⟩ := hfirst
  -- the second does not scrape
  have hnotDue : isDue .binary64 (laggingPoll 1010).now (laggingPoll 1000).now
      minuteArgs.watermarkInterval = false := by
    decide +kernel
  have hsecond : CountsOnce .binary64 minuteArgs _ (laggingPoll 1010) := (hmeets.2 _ rfl).1
  unfold CountsOnce at hsecond
  rw [hlast, hnotDue, hcache, if_neg Bool.false_ne_true] at hsecond
  exact absurd hsecond (by decide)

end AnalyticsTesting.Monitoring
