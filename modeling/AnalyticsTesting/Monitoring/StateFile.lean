import AnalyticsTesting.Lib.Files
import AnalyticsTesting.Lib.Transition

set_option autoImplicit false

/-! # The agent's state file

How a snapshot of a host gets from `write_atomic` of `bench/host_agent.py` to `_agent_state` of
`monitoring/exporters/pipeline_exporter.py`. The agent writes it to a temporary file, as `json.dump`
and the buffer of the file bring it out, and renames that; the exporter runs `cat` on the other
side, which opens the file and reads it piece by piece, and several may run at once.
`scripts/deploy-agent.sh` removes the file, and the agent may die at any statement and be started
again, by `systemd` or by the deploy; one agent runs at a time.

The fields `published`, `removedAt`, `opens` and `finished` of `StateFile` are history. -/

namespace AnalyticsTesting.Monitoring

open Transition

/-- A snapshot that was published, and by which of the agents that ran one after the other. -/
structure StateText where
  agent : Nat
  text : List Char
  deriving DecidableEq

/-- Where the agent is in `write_atomic`. -/
inductive AgentPc
  /-- Not in it. -/
  | sampling
  /-- Between `open(tmp, "w")` and `os.replace`; `rest` has not reached the file. -/
  | writing (file : Nat) (rest text : List Char)
  deriving DecidableEq

/-- A `cat` that has opened the file. -/
structure Read where
  /-- How many have opened it before. -/
  ticket : Nat
  /-- How many snapshots were published by then, and how many when the file was last removed. -/
  published : Nat
  removedAt : Nat
  file : Nat
  /-- What it has read. -/
  text : List Char := []
  deriving DecidableEq

structure StateFile where
  files : Files String Char := .empty
  agent : AgentPc := .sampling
  /-- How many agents have died. -/
  generation : Nat := 0
  readers : List Read := []
  published : List StateText := []
  removedAt : Nat := 0
  /-- How many snapshots were published at each open. -/
  opens : List Nat := []
  /-- The reads that came to the end of the file. -/
  finished : List Read := []

inductive FileAction
  /-- `open(tmp, "w")` in `write_atomic`, to write this text. -/
  | create (text : List Char)
  /-- The next `n` characters reach the file. -/
  | flush (n : Nat)
  /-- The file is closed, and `os.replace(tmp, path)`. -/
  | replace
  /-- The agent dies, and another one is started. -/
  | die
  /-- `rm -f` in the deploy. -/
  | remove
  /-- A `cat` opens the file. -/
  | openRead
  /-- The `k`-th of those that run reads up to `n` characters. -/
  | read (k n : Nat)
  /-- It comes to the end of the file. -/
  | endRead (k : Nat)
  deriving DecidableEq

/-- `f"{path}.tmp"`. -/
def tmpPath (path : String) : String := path ++ ".tmp"

theorem tmpPath_ne (path : String) : tmpPath path ≠ path := by
  intro h
  have := congrArg String.length h
  simp [tmpPath, String.length_append] at this

/-- One step of the agent, the deploy or a `cat`; `none` where it cannot be taken. A `cat` that does
    not find the file fails. -/
def fileStep (path : String) (s : StateFile) : FileAction → Option StateFile
  | .create text =>
      match s.agent with
      | .sampling => some { s with
          files := s.files.create (tmpPath path),
          agent := .writing (s.files.target (tmpPath path)) text text }
      | .writing _ _ _ => none
  | .flush n =>
      match s.agent with
      | .sampling => none
      | .writing file rest text => some { s with
          files := s.files.append file (rest.take n),
          agent := .writing file (rest.drop n) text }
  | .replace =>
      match s.agent with
      | .writing _ [] text => some { s with
          files := s.files.rename (tmpPath path) path,
          agent := .sampling,
          published := s.published ++ [⟨s.generation, text⟩] }
      | _ => none
  | .die => some { s with agent := .sampling, generation := s.generation + 1 }
  | .remove => some { s with
      files := s.files.unlink path,
      removedAt := s.published.length }
  | .openRead => (s.files.names path).map fun file => { s with
      readers := s.readers ++ [⟨s.opens.length, s.published.length, s.removedAt, file, []⟩],
      opens := s.opens ++ [s.published.length] }
  | .read k n => (s.readers[k]?).map fun r => { s with
      readers := s.readers.set k { r with
        text := r.text ++ ((s.files.data r.file).drop r.text.length).take n } }
  | .endRead k =>
      match s.readers[k]? with
      | none => none
      | some r =>
          if (s.files.data r.file).length ≤ r.text.length then
            some { s with readers := s.readers.eraseIdx k, finished := s.finished ++ [r] }
          else none

/-- The state file at `path`, which does not exist yet. -/
def stateFile (path : String) : System StateFile FileAction where
  init := {}
  step := fileStep path

end AnalyticsTesting.Monitoring
