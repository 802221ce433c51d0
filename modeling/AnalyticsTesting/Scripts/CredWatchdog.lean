import AnalyticsTesting.Lib.Transition

set_option autoImplicit false

/-! # The credentials watchdog

`scripts/cred-watchdog-generic.sh`, which a timer runs again and again: it restarts a service whose
log has an `ExpiredToken` from after the start of its current run. A call asks `systemctl` when the
service was started, looks at the end of the log, and restarts the service, in three `ssh` commands;
the service logs on in between, and others may restart it. Times are in seconds, as `date +%s` gives
them.

The fields `logged`, `restarts` and `quiet` of `Watchdog` are history. -/

namespace AnalyticsTesting.Scripts

open Transition

/-- A line of the log. -/
structure LogLine where
  /-- The time at its front, if `date` makes one of it. -/
  stamp : Option Nat
  /-- It says `ExpiredToken`. -/
  expired : Bool
  deriving DecidableEq

/-- `grep ExpiredToken … | tail -20`. -/
def lastExpired (log : List LogLine) : List LogLine :=
  let found := log.filter LogLine.expired
  found.drop (found.length - 20)

/-- The time that the `while` loop stops at; `none` where `RESTART_NEEDED` stays 0. -/
def restartNeeded (startEpoch : Nat) (log : List LogLine) : Option Nat :=
  (lastExpired log).findSome? fun l => l.stamp.filter fun ep => startEpoch ≤ ep

/-- Where a call is. -/
inductive WatchdogPc
  | idle
  /-- `START_EPOCH` is known. -/
  | started (startEpoch : Nat)
  /-- `RESTART_NEEDED` is 1, for a line of this time. -/
  | needed (startEpoch stamp : Nat)
  deriving DecidableEq

/-- A restart that the watchdog has made. -/
structure Restart where
  startEpoch : Nat
  stamp : Nat
  /-- When the service was up again. -/
  doneAt : Nat
  deriving DecidableEq

structure Watchdog where
  clock : Nat
  /-- `ActiveEnterTimestamp` of the service. -/
  activeEnter : Nat
  log : List LogLine := []
  pc : WatchdogPc := .idle
  /-- All lines there have been. -/
  logged : List LogLine := []
  restarts : List Restart := []
  /-- The calls that found no reason: the start of the service and the log they saw. -/
  quiet : List (Nat × List LogLine) := []

inductive WatchdogAction
  | tick
  /-- The service writes a line, with a time that has been. -/
  | write (line : LogLine)
  /-- The log is rotated. -/
  | rotate
  /-- Somebody else restarts the service. -/
  | restarted
  /-- `systemctl show`, if the host answers. -/
  | readStart (answered : Bool)
  /-- `grep` in the log, if the host answers; nothing is found if not. -/
  | readLog (answered : Bool)
  /-- `systemctl restart`, if the host answers; the call ends whether it does or not. -/
  | restart (answered : Bool)
  deriving DecidableEq

def watchdogStep (s : Watchdog) : WatchdogAction → Option Watchdog
  | .tick => some { s with clock := s.clock + 1 }
  | .write line =>
      if ∀ t ∈ line.stamp, t ≤ s.clock then
        some { s with log := s.log ++ [line], logged := s.logged ++ [line] }
      else none
  | .rotate => some { s with log := [] }
  | .restarted => some { s with activeEnter := s.clock }
  | .readStart answered =>
      match s.pc with
      | .idle => some { s with pc := if answered then .started s.activeEnter else .idle }
      | _ => none
  | .readLog answered =>
      match s.pc with
      | .started startEpoch =>
          if answered then
            match restartNeeded startEpoch s.log with
            | some stamp => some { s with pc := .needed startEpoch stamp }
            | none => some { s with pc := .idle, quiet := s.quiet ++ [(startEpoch, s.log)] }
          else some { s with pc := .idle }
      | _ => none
  | .restart answered =>
      match s.pc with
      | .needed startEpoch stamp =>
          if answered then some { s with
            pc := .idle,
            activeEnter := s.clock,
            restarts := s.restarts ++ [⟨startEpoch, stamp, s.clock⟩] }
          else some { s with pc := .idle }
      | _ => none

/-- A service that was started just now. -/
def watchdog (now : Nat) : System Watchdog WatchdogAction where
  init := { clock := now, activeEnter := now }
  step := watchdogStep

end AnalyticsTesting.Scripts
