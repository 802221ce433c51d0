import Mathlib.Data.Rat.Defs
import AnalyticsTesting.Lib.Selection

set_option autoImplicit false

/-! # The drain test

`tests/drain/run.sh`: after the generator has stopped, `scripts/snapshot-state.sh` is called every
ten seconds until the backlog has stopped falling, and the samples are summarised. What is printed
on the way, the time stamps of the samples and the checks before the loop are left out. -/

namespace AnalyticsTesting.Tests

/-! ## Samples -/

/-- What the loop reads of `catalog`. -/
structure Catalog where
  liveFiles : Nat
  smallFiles : Nat
  liveBytes : Nat

/-- What `snapshot-state.sh` leaves behind. -/
inductive Snapshot
  /-- It failed, and the loop goes on with `{}`. -/
  | failed
  /-- It printed its document, where `catalog` is null if the database could not be read. -/
  | taken (catalog : Option Catalog)

/-- `d.get("catalog")`. -/
def Snapshot.catalog : Snapshot → Option Catalog
  | .failed => none
  | .taken catalog => catalog

/-- A turn of the loop: the seconds since the start, and the snapshot. -/
structure Sample where
  elapsed : Int
  snapshot : Snapshot

/-- A line of `drain.jsonl`. -/
structure Row where
  elapsed : Int
  files : Nat
  smallFiles : Nat
  bytes : Nat
  deriving DecidableEq

/-- The line that is written for a sample: a missing catalog is an empty one. -/
def Sample.row (s : Sample) : Row where
  elapsed := s.elapsed
  files := (s.snapshot.catalog.map (·.liveFiles)).getD 0
  smallFiles := (s.snapshot.catalog.map (·.smallFiles)).getD 0
  bytes := (s.snapshot.catalog.map (·.liveBytes)).getD 0

/-! ## The sampling loop -/

/-- `FLAT_SAMPLES`. -/
def flatSamples : Nat := 12

/-- The variables `flat` and `prev_files` of the loop. -/
structure Steady where
  flat : Nat
  prevFiles : Option Nat

/-- The variables after a sample. -/
def Steady.observe (x : Steady) (files : Nat) : Steady where
  flat := match x.prevFiles with
    | some prevFiles => if prevFiles ≤ files then x.flat + 1 else 0
    | none => x.flat
  prevFiles := some files

/-- The samples that the loop takes of those it could take: up to the time limit, and until the
    backlog has stopped falling. -/
def sampling (maxMinutes : Nat) (x : Steady) : List Sample → List Sample
  | [] => []
  | s :: rest =>
      if (maxMinutes * 60 : Nat) < s.elapsed then []
      else
        let x' := x.observe s.row.files
        s :: if flatSamples ≤ x'.flat then [] else sampling maxMinutes x' rest

/-! ## The result -/

/-- What the summary says about the drain. -/
structure Figures where
  minFiles : Nat
  minBytes : Nat
  drainSeconds : Int
  drainedFiles : Int
  drainedBytes : Int
  filesPerMin : Option ℚ
  deriving DecidableEq

/-- `drain-summary.json`. -/
structure Summary extends Figures where
  initialFiles : Nat
  initialBytes : Nat
  samples : Nat

/-- The figures of the first row and the lowest one. -/
def figures (first lowest : Row) : Figures :=
  let drainedFiles : Int := first.files - lowest.files
  let secs := lowest.elapsed - first.elapsed
  { minFiles := lowest.files
    minBytes := lowest.bytes
    drainSeconds := secs
    drainedFiles
    drainedBytes := first.bytes - lowest.bytes
    filesPerMin :=
      if 0 < secs ∧ 0 < drainedFiles then some (drainedFiles / (secs / 60 : ℚ)) else none }

/-- The summary of the rows of `drain.jsonl`; `none` is "NOT MEASURED — fewer than two samples". -/
def summary (rows : List Row) : Option Summary :=
  if rows.length < 2 then none
  else do
    let first ← rows.head?
    let lowest ← Selection.firstMin (·.files) rows
    some { figures first lowest with
      initialFiles := first.files
      initialBytes := first.bytes
      samples := rows.length }

/-- The test, from the samples to the summary. -/
def drain (maxMinutes : Nat) (samples : List Sample) : Option Summary :=
  summary ((sampling maxMinutes ⟨0, none⟩ samples).map Sample.row)

end AnalyticsTesting.Tests
