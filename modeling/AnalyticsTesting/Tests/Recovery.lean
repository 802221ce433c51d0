import Mathlib.Data.Rat.Defs
import Mathlib.Order.Basic

set_option autoImplicit false

/-! # The recovery test

`tests/recovery/run.sh`: the fault injector that runs next to the load, and the times that the
analysis makes of its log. A probe asks `/health` through `ssh`; what the probes find and what
`date` says after them is the input. The throughput figures, the counts of the manifest and the
verdict, which the analysis copies, are left out. -/

namespace AnalyticsTesting.Tests

/-- A probe of `/health`. -/
structure Probe where
  answered : Bool
  /-- What `date +%s.%N` says after it. -/
  clock : ℚ
  deriving DecidableEq

/-- `fault.jsonl`. -/
structure FaultLog where
  /-- `at` of `fault_injected`. -/
  faultAt : ℚ
  /-- `at` of `down_detected`, which may be null. -/
  detected : Option ℚ
  /-- `at` of `recovered`, which may be null. -/
  recovered : Option ℚ
  selfHealed : Bool
  deriving DecidableEq

/-- `seq 1 300` and `seq 1 240`. -/
def detectProbes : Nat := 300

def recoverProbes : Nat := 240

/-- The probe after which the test starts the unit itself. -/
def interveneAfter : Nat := 60

variable (probes : Nat → Probe)

/-- The first loop, with `n` turns to go at the `k`-th probe: `DETECTED`, and the next probe. -/
def detectLoop : Nat → Nat → Option ℚ × Nat
  | 0, k => (none, k)
  | n + 1, k =>
      if (probes k).answered then detectLoop n (k + 1) else (some (probes k).clock, k + 1)

/-- The second loop, from its `i`-th turn on: `RECOVERED` and `SELF_HEALED`. -/
def recoverLoop : Nat → Nat → Nat → Bool → Option ℚ × Bool
  | 0, _, _, selfHealed => (none, selfHealed)
  | n + 1, i, k, selfHealed =>
      if (probes k).answered then (some (probes k).clock, selfHealed)
      else recoverLoop n (i + 1) (k + 1) (if i = interveneAfter then false else selfHealed)

/-- The injector, from the fault on. -/
def injectFault (faultAt : ℚ) : FaultLog :=
  let (detected, k) := detectLoop probes detectProbes 0
  let (recovered, selfHealed) := recoverLoop probes recoverProbes 1 k true
  ⟨faultAt, detected, recovered, selfHealed⟩

/-! ## The analysis -/

/-- `detection time`; `none` is NOT MEASURED. -/
def FaultLog.detectionTime (log : FaultLog) : Option ℚ := log.detected.map (· - log.faultAt)

/-- `total outage`; `none` is NOT MEASURED. -/
def FaultLog.totalOutage (log : FaultLog) : Option ℚ := log.recovered.map (· - log.faultAt)

end AnalyticsTesting.Tests
