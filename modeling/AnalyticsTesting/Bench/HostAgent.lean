import Mathlib.Data.List.Infix
import Mathlib.Data.Prod.Lex
import AnalyticsTesting.Lib.PyNumber
import AnalyticsTesting.Lib.Transition

set_option autoImplicit false

/-! # The host agent

`bench/host_agent.py`: which process an agent watches (`pid_of`, `_resolve_pid`), and what one
`sample` derives from the counters it reads and from those it read the time before. What the kernel
and `pgrep` answer during a sample is its input, a `HostReading`; `/proc/<pid>/stat` is read twice
in a sample, and the process may be gone or be another one by then. Times and rates are exact
rationals. The parts of a sample that are passed through unchanged (memory, load, free space,
out-of-memory kills, health and dependency checks, the JVM heap) are left out. -/

namespace AnalyticsTesting.Bench

/-! ## Readings -/

/-- `proc_stat`: what `/proc/<pid>/stat` says of a process. -/
structure ProcStat where
  cpuTicks : Nat
  rssBytes : Int
  numThreads : Nat
  startTicks : Nat
  deriving DecidableEq

/-- A row of `cpu_times`. -/
structure CpuTimes where
  total : Int
  idle : Int
  deriving DecidableEq

/-- A row of `diskstats`. -/
structure DiskStats where
  reads : Int
  readBytes : Int
  writes : Int
  writeBytes : Int
  ioMs : Int
  deriving DecidableEq

/-- A row of `netdev`. -/
structure NetDev where
  rxBytes : Int
  rxPackets : Int
  txBytes : Int
  txPackets : Int
  deriving DecidableEq

/-- What an agent finds on its host when it takes a sample. -/
structure HostReading where
  /-- `time.monotonic()`. -/
  monotonic : ℚ
  cpu : List (String × CpuTimes) := []
  disk : List (String × DiskStats) := []
  net : List (String × NetDev) := []
  ctxt : Int := 0
  procs : Int := 0
  /-- The lines of `pgrep -af`; `none` where the call fails, as it does without a match. -/
  pgrep : Option (List String) := none
  /-- `proc_stat`, as `_resolve_pid` finds it. -/
  statResolved : Int → Option ProcStat := fun _ => none
  /-- `proc_stat`, as the rest of the sample finds it. -/
  stat : Int → Option ProcStat := fun _ => none

/-- The settings of an agent. -/
structure AgentArgs where
  processPattern : String
  /-- `os.getpid()`. -/
  me : Int
  /-- `CLK_TCK`. -/
  clkTck : Nat
  clkTck_pos : 0 < clkTck

/-! ## Which process is watched -/

/-- `line.partition(" ")` without the separator. -/
def partitionSpace (line : String) : String × String :=
  let cs := line.toList
  (String.ofList (cs.takeWhile (· ≠ ' ')), String.ofList ((cs.dropWhile (· ≠ ' ')).drop 1))

/-- A shell wrapper can match the pattern too, so a java process comes first. -/
def commandRank (cmd : String) : Nat :=
  let stripped := cmd.toList.dropWhile PyNumber.isSpace
  if "java".toList <+: stripped ∨ "/usr/bin/java".toList <+: stripped
      ∨ "/bin/java ".toList <:+: cmd.toList then 0
  else 1

/-- A line of `pgrep` as a candidate, unless it is no process or the agent itself. -/
def candidate (me : Int) (line : String) : Option (Nat × Int) :=
  let (pidText, cmd) := partitionSpace line
  (PyNumber.intOfStr pidText).bind fun pid =>
    if pid = me ∨ "host_agent".toList <:+: cmd.toList
        ∨ "--process-pattern".toList <:+: cmd.toList then none
    else some (commandRank cmd, pid)

/-- `pid_of`. -/
def pidOf (me : Int) (pgrep : Option (List String)) : Option Int :=
  pgrep.bind fun lines =>
    let candidates := lines.filterMap (candidate me)
    (candidates.mergeSort fun a b => decide (toLex a ≤ toLex b)).head?.map Prod.snd

/-! ## The agent -/

/-- A reading of the watched process. -/
structure ProcReading where
  pid : Int
  stat : ProcStat
  deriving DecidableEq

/-- `Agent`. -/
structure Agent where
  prevCpu : List (String × CpuTimes)
  prevDisk : List (String × DiskStats)
  prevNet : List (String × NetDev)
  prevCtxt : Int
  prevProcs : Int
  prevProc : Option ProcStat := none
  prevT : ℚ
  pid : Option Int := none
  pidStartTicks : Option Nat := none
  restarts : Nat := 0
  /-- Every reading of the process that a sample was made from; no statement reads it. -/
  logReadings : List ProcReading := []

/-- `Agent.__init__`. -/
def Agent.init (start : HostReading) : Agent where
  prevCpu := start.cpu
  prevDisk := start.disk
  prevNet := start.net
  prevCtxt := start.ctxt
  prevProcs := start.procs
  prevT := start.monotonic

/-- `_resolve_pid`. -/
def Agent.resolvePid (args : AgentArgs) (a : Agent) (r : HostReading) : Agent :=
  if args.processPattern = "" then a
  else
    match pidOf args.me r.pgrep with
    | none => { a with pid := none }
    | some pid =>
        match r.statResolved pid with
        | none => { a with pid := none }
        | some info =>
            -- a changed start time means the process was replaced
            let replaced :=
              a.pid ≠ none ∧ (some pid ≠ a.pid ∨ some info.startTicks ≠ a.pidStartTicks)
            { a with
              restarts := if replaced then a.restarts + 1 else a.restarts
              pid := some pid
              pidStartTicks := some info.startTicks }

/-- `process` in a sample. -/
structure ProcSample where
  pid : Int
  cpuPercent : ℚ
  rssBytes : Int
  threads : Nat
  deriving DecidableEq

/-- A row of `disk_io`. -/
structure DiskRates where
  readBytesPerS : ℚ
  writeBytesPerS : ℚ
  readIops : ℚ
  writeIops : ℚ
  utilPercent : ℚ
  deriving DecidableEq

/-- A row of `network`. -/
structure NetRates where
  rxBytesPerS : ℚ
  txBytesPerS : ℚ
  rxPps : ℚ
  txPps : ℚ
  deriving DecidableEq

/-- What a sample reports. -/
structure HostSample where
  cpuPercent : ℚ
  cpuPerCore : List (String × ℚ)
  contextSwitchesPerS : ℚ
  processesForkedPerS : ℚ
  diskIo : List (String × DiskRates)
  network : List (String × NetRates)
  process : Option ProcSample
  processRestarts : Nat
  deriving DecidableEq

/-- `for name, cur in now.items(): prev = prev.get(name, cur)`. -/
def withPrevious {β γ : Type} (prev now : List (String × β)) (f : β → β → γ) : List (String × γ) :=
  now.map fun (name, cur) => (name, f ((prev.lookup name).getD cur) cur)

/-- The share of its time that a processor was not idle. -/
def cpuPercentOf (prev cur : CpuTimes) : ℚ :=
  let dt : ℚ := cur.total - prev.total
  let di : ℚ := cur.idle - prev.idle
  if 0 < dt then roundDigits (100 * (dt - di) / dt) 2 else 0

def diskRatesOf (elapsed : ℚ) (prev cur : DiskStats) : DiskRates where
  readBytesPerS := (cur.readBytes - prev.readBytes) / elapsed
  writeBytesPerS := (cur.writeBytes - prev.writeBytes) / elapsed
  readIops := (cur.reads - prev.reads) / elapsed
  writeIops := (cur.writes - prev.writes) / elapsed
  utilPercent := min 100 ((cur.ioMs - prev.ioMs) / (elapsed * 10))

def netRatesOf (elapsed : ℚ) (prev cur : NetDev) : NetRates where
  rxBytesPerS := (cur.rxBytes - prev.rxBytes) / elapsed
  txBytesPerS := (cur.txBytes - prev.txBytes) / elapsed
  rxPps := (cur.rxPackets - prev.rxPackets) / elapsed
  txPps := (cur.txPackets - prev.txPackets) / elapsed

/-- `cpu_percent` of the process, before it is rounded: 0 as long as there is nothing to compare
    with. -/
def processCpu (args : AgentArgs) (elapsed : ℚ) (prev : Option ProcStat) (cur : ProcStat) : ℚ :=
  match prev with
  | some prev => 100 * ((cur.cpuTicks : ℚ) - prev.cpuTicks) / args.clkTck / elapsed
  | none => 0

/-- The process part of a sample, for an agent whose `_resolve_pid` has returned. -/
def Agent.sampleProcess (args : AgentArgs) (elapsed : ℚ) (a : Agent) (r : HostReading) :
    Option ProcSample × Agent :=
  match a.pid with
  | none => (none, a)
  | some pid =>
      -- `if self.pid`
      if pid = 0 then (none, a)
      else
        match r.stat pid with
        | none => (none, a)
        | some cur =>
            (some { pid, cpuPercent := roundDigits (processCpu args elapsed a.prevProc cur) 2,
                    rssBytes := cur.rssBytes, threads := cur.numThreads },
             { a with prevProc := some cur, logReadings := a.logReadings ++ [⟨pid, cur⟩] })

/-- `elapsed`. -/
def Agent.elapsed (a : Agent) (r : HostReading) : ℚ := max (1 / 10 ^ 6) (r.monotonic - a.prevT)

/-- `sample`: what it reports, and the agent after it. -/
def Agent.sample (args : AgentArgs) (a : Agent) (r : HostReading) : HostSample × Agent :=
  let elapsed := a.elapsed r
  let cpuPct := withPrevious a.prevCpu r.cpu cpuPercentOf
  let resolved := a.resolvePid args r
  let (process, a') := resolved.sampleProcess args elapsed r
  ({ cpuPercent := (cpuPct.lookup "cpu").getD 0,
     cpuPerCore := cpuPct.filter fun row => row.1 ≠ "cpu",
     contextSwitchesPerS := (r.ctxt - a.prevCtxt) / elapsed,
     processesForkedPerS := (r.procs - a.prevProcs) / elapsed,
     diskIo := withPrevious a.prevDisk r.disk (diskRatesOf elapsed),
     network := withPrevious a.prevNet r.net (netRatesOf elapsed),
     process,
     processRestarts := a'.restarts },
   { a' with prevCpu := r.cpu, prevDisk := r.disk, prevNet := r.net, prevCtxt := r.ctxt,
             prevProcs := r.procs, prevT := r.monotonic })

/-- The agent as a transition system: it takes one sample after another. -/
def agent (args : AgentArgs) (start : HostReading) : Transition.System Agent HostReading where
  init := Agent.init start
  step a r := some (a.sample args r).2

end AnalyticsTesting.Bench
