import AnalyticsTesting.Lib.Files
import AnalyticsTesting.Lib.Lines
import AnalyticsTesting.Lib.PyNumber
import AnalyticsTesting.Lib.Transition

set_option autoImplicit false

/-! # The slices of a shared log

A host agent and the exporter append to one log each, whatever runs there are. `scripts/run-test.sh`
notes how many lines the log has before the generator starts, `scripts/collect-results.sh` copies
what comes after as many lines into the directory of the run, and `load_jsonl` of `bench/report.py`
reads the copy. Runs may overlap, and one may be collected again. The writer may be killed in the
middle of a line and started again, and `scripts/cleanup.sh` may remove the log under its hands.

The fields `file` and `before` of a mark, `cuts`, and `file` and `whole` of a slice are history. -/

namespace AnalyticsTesting.Scripts

open Transition

/-! ## Reading a copy -/

section Load

variable {ρ : Type} (loads : List Char → Option ρ)

/-- What a line adds to the rows; `loads` is `json.loads`, `none` where it raises. -/
def loadLine (line : List Char) : Option ρ :=
  let text := PyNumber.strip line
  if text = [] then none else loads text

/-- The ends of lines. A `"\r\n"` is two of them here, with a blank line between them. -/
def isLineEnd (c : Char) : Bool := c == '\n' || c == '\r'

/-- `load_jsonl`. -/
def loadJsonl (text : List Char) : List ρ :=
  (text.splitOnP isLineEnd).filterMap (loadLine loads)

end Load

/-! ## Marking and cutting -/

/-- What a run notes before it starts. -/
structure Mark where
  /-- What its offset file is read as. -/
  offset : Nat
  /-- `wc -l` has been answered. Where it has not, the offset is 0. -/
  answered : Bool
  /-- The file the log was, if there was one, and what was in it. -/
  file : Option Nat
  before : List Char
  /-- How many slices had been cut by then. -/
  cuts : Nat

/-- A copy. -/
structure Slice where
  mark : Mark
  text : List Char
  /-- The file it was cut from, if one could be read, and what was in it. -/
  file : Option Nat
  whole : List Char

structure SharedLog where
  files : Files Unit Char := .empty
  /-- The file that the writer has open. -/
  writer : Option Nat := none
  marks : Nat → Option Mark := fun _ => none
  slices : List Slice := []

inductive LogAction
  /-- The writer opens the log. -/
  | start
  /-- These characters reach the file. -/
  | write (cs : List Char)
  | exit
  /-- `rm -f` in the clean-up. -/
  | remove
  /-- The `k`-th run counts the lines, if the host answers. -/
  | mark (k : Nat) (answered : Bool)
  /-- It is collected. -/
  | collect (k : Nat) (answered : Bool)
  deriving DecidableEq

/-- What is in the log; nothing, if there is none. -/
def SharedLog.text (s : SharedLog) : List Char := ((s.files.names ()).map s.files.data).getD []

/-- The file that the log is, for a host that answers. -/
def SharedLog.seen (s : SharedLog) (answered : Bool) : Option Nat :=
  if answered then s.files.names () else none

def logStep (s : SharedLog) : LogAction → Option SharedLog
  | .start =>
      match s.writer with
      | none => some { s with
          files := s.files.openAppend (),
          writer := some (s.files.target ()) }
      | some _ => none
  | .write cs => s.writer.map fun i => { s with files := s.files.append i cs }
  | .exit => some { s with writer := none }
  | .remove => some { s with files := s.files.unlink () }
  | .mark k answered =>
      match s.marks k with
      | some _ => none
      | none =>
          let offset := if answered then s.text.count '\n' else 0
          let mark := ⟨offset, answered, s.files.names (), s.text, s.slices.length⟩
          some { s with marks := Function.update s.marks k (some mark) }
  | .collect k answered => (s.marks k).map fun mark =>
      match s.seen answered with
      | none => { s with slices := s.slices ++ [⟨mark, [], none, []⟩] }
      | some i =>
          let whole := s.files.data i
          let text := Lines.dropLines '\n' mark.offset whole
          { s with slices := s.slices ++ [⟨mark, text, some i, whole⟩] }

/-- A log that does not exist yet. -/
def sharedLog : System SharedLog LogAction where
  init := {}
  step := logStep

end AnalyticsTesting.Scripts
