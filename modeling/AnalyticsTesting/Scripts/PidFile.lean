import AnalyticsTesting.Lib.Transition
import Mathlib.Logic.Function.Basic

set_option autoImplicit false

/-! # Pid files

How `scripts/start.sh` and `scripts/stop.sh` keep one host agent on each host and one pipeline
exporter: a file has the pid of the daemon that was started last. The agents on the other hosts are
stopped through `ssh`, without waiting for them to end (`remote`); where the scripts run, they wait
up to ten seconds, and kill a daemon that has not ended by then.

A call of a script is a sequence of commands, and anything may happen on the host between two of
them: commands of another call, a crash, the start of another program, a reboot, the end of the call
itself. The time in which `stop_pidfile` waits is left out, so the wait may be over at any moment,
and so is what the scripts print. -/

namespace AnalyticsTesting.Scripts

open Transition

/-- A process. -/
structure Proc where
  /-- It is the agent, or the exporter. -/
  daemon : Bool
  /-- The user of the scripts may signal it. -/
  mine : Bool := true
  /-- It has been sent `TERM`. -/
  ending : Bool := false
  deriving DecidableEq

/-- What a pid file is. -/
inductive PidFile
  | absent
  | empty
  | pid (n : Nat)
  deriving DecidableEq

/-- A call of one of the scripts, before its next command. -/
inductive Call
  /-- `start.sh` has read this pid and is about to try `kill -0`. -/
  | checking (pid : Nat)
  /-- It has found no daemon. -/
  | starting
  /-- It has started one, in the background. -/
  | forked (pid : Nat)
  /-- The shell has emptied the file that `echo` is going to write to. -/
  | truncated (pid : Nat)
  /-- `stop.sh` has read this pid. -/
  | read (pid : Nat)
  /-- `kill -0` has found the process. -/
  | signalling (pid : Nat)
  /-- The process has been sent `TERM` and is waited for. -/
  | waiting (pid : Nat)
  /-- The file is about to be removed. -/
  | removing
  deriving DecidableEq

structure PidHost where
  procs : Nat → Option Proc
  pidFile : PidFile
  calls : List Call

/-- What happens on a host. -/
inductive PidAction
  | start
  | stop
  /-- The next command of a call; the kernel gives the process this pid if it starts one. -/
  | next (call : Nat) (pid : Nat)
  /-- A call is over before its next command. -/
  | abort (call : Nat)
  | exits (pid : Nat)
  /-- Another program is started. -/
  | spawn (pid : Nat) (mine : Bool)
  | reboot
  deriving DecidableEq

namespace PidHost

variable (s : PidHost)

/-- `kill -0`. -/
def alive (pid : Nat) : Bool := ((s.procs pid).map Proc.mine).getD false

/-- `[ -f "$pidf" ] && kill -0 "$(cat "$pidf")"`. -/
def running : Bool :=
  match s.pidFile with
  | .pid pid => s.alive pid
  | _ => false

/-- `kill -TERM`. -/
def term (pid : Nat) : PidHost :=
  if s.alive pid then
    let proc := (s.procs pid).map fun proc => { proc with ending := true }
    { s with procs := Function.update s.procs pid proc }
  else s

/-- `kill -KILL`. -/
def kill (pid : Nat) : PidHost :=
  if s.alive pid then { s with procs := Function.update s.procs pid none } else s

end PidHost

/-- The next command of a call: the host after it, and what is left of the call. -/
def Call.next (remote : Bool) (s : PidHost) (pid : Nat) : Call → Option (PidHost × Option Call)
  | .checking old => some (s, if s.alive old then none else some .starting)
  | .starting =>
      if s.procs pid = none then
        some ({ s with procs := Function.update s.procs pid (some { daemon := true }) },
          some (.forked pid))
      else none
  | .forked new => some ({ s with pidFile := .empty }, some (.truncated new))
  | .truncated new => some ({ s with pidFile := .pid new }, none)
  | .read old => some (s, some (if s.alive old then .signalling old else .removing))
  | .signalling old =>
      if remote then
        -- this command reads the file again
        match s.pidFile with
        | .pid pid => some (s.term pid, some .removing)
        | _ => some (s, some .removing)
      else some (s.term old, some (.waiting old))
  | .waiting old => some (s.kill old, some .removing)
  | .removing => some ({ s with pidFile := .absent }, none)

/-- The calls when one of them has come this far. -/
def goOn (calls : List Call) (i : Nat) : Option Call → List Call
  | some call => calls.set i call
  | none => calls.eraseIdx i

def pidStep (remote : Bool) (s : PidHost) : PidAction → Option PidHost
  | .start =>
      let call := match s.pidFile with
        | .pid pid => .checking pid
        | _ => .starting
      some { s with calls := call :: s.calls }
  | .stop =>
      match s.pidFile with
      | .pid pid => some { s with calls := .read pid :: s.calls }
      | .empty => some { s with calls := .removing :: s.calls }
      | .absent => some { s with calls := if remote then .removing :: s.calls else s.calls }
  | .next i pid => do
      let call ← s.calls[i]?
      let (s', left) ← call.next remote s pid
      return { s' with calls := goOn s.calls i left }
  | .abort i => some { s with calls := s.calls.eraseIdx i }
  | .exits pid =>
      if s.procs pid = none then none
      else some { s with procs := Function.update s.procs pid none }
  | .spawn pid mine =>
      if s.procs pid = none then
        let proc : Proc := { daemon := false, mine := mine }
        some { s with procs := Function.update s.procs pid (some proc) }
      else none
  | .reboot => some { s with procs := fun _ => none, calls := [] }

def pidHost (remote : Bool) : System PidHost PidAction where
  init := ⟨fun _ => none, .absent, []⟩
  step := pidStep remote

end AnalyticsTesting.Scripts
