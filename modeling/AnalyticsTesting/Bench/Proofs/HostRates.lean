import AnalyticsTesting.Lib.Growth
import AnalyticsTesting.Bench.HostAgent
import Mathlib.Data.Rat.Cast.Order
import Mathlib.Tactic.FieldSimp

set_option autoImplicit false

/-! # What the rates of the host agent add up to

A sample turns the counters of the kernel into rates over the time since the sample before. Put
together again, rate by time, the samples of a run give the growth of every counter between its
first and its last reading, whatever the intervals were, except what it grew by while its device was
gone from the readings: a device that is back starts from where it is (`integrated_exact`). -/

namespace AnalyticsTesting.Bench

open Growth

variable {args : AgentArgs}

/-- The counters that a sample reports as rates. -/
inductive HostCounter
  | readBytes (disk : String)
  | writeBytes (disk : String)
  | reads (disk : String)
  | writes (disk : String)
  | rxBytes (interface : String)
  | txBytes (interface : String)
  | rxPackets (interface : String)
  | txPackets (interface : String)
  | contextSwitches
  | processesForked
  deriving DecidableEq

namespace HostCounter

/-- The counter in what the agent reads. -/
def value (disk : List (String × DiskStats)) (net : List (String × NetDev)) (ctxt procs : Int) :
    HostCounter → Option Int
  | readBytes name => (disk.lookup name).map DiskStats.readBytes
  | writeBytes name => (disk.lookup name).map DiskStats.writeBytes
  | reads name => (disk.lookup name).map DiskStats.reads
  | writes name => (disk.lookup name).map DiskStats.writes
  | rxBytes name => (net.lookup name).map NetDev.rxBytes
  | txBytes name => (net.lookup name).map NetDev.txBytes
  | rxPackets name => (net.lookup name).map NetDev.rxPackets
  | txPackets name => (net.lookup name).map NetDev.txPackets
  | contextSwitches => some ctxt
  | processesForked => some procs

def read (c : HostCounter) (r : HostReading) : Option Int := c.value r.disk r.net r.ctxt r.procs

/-- The counter as the agent remembers it. -/
def previous (c : HostCounter) (a : Agent) : Option Int :=
  c.value a.prevDisk a.prevNet a.prevCtxt a.prevProcs

/-- The rate that a sample reports for it. -/
def rate (x : HostSample) : HostCounter → Option ℚ
  | readBytes name => (x.diskIo.lookup name).map DiskRates.readBytesPerS
  | writeBytes name => (x.diskIo.lookup name).map DiskRates.writeBytesPerS
  | reads name => (x.diskIo.lookup name).map DiskRates.readIops
  | writes name => (x.diskIo.lookup name).map DiskRates.writeIops
  | rxBytes name => (x.network.lookup name).map NetRates.rxBytesPerS
  | txBytes name => (x.network.lookup name).map NetRates.txBytesPerS
  | rxPackets name => (x.network.lookup name).map NetRates.rxPps
  | txPackets name => (x.network.lookup name).map NetRates.txPps
  | contextSwitches => some x.contextSwitchesPerS
  | processesForked => some x.processesForkedPerS

end HostCounter

/-! ## One sample -/

theorem elapsed_pos (a : Agent) (r : HostReading) : 0 < a.elapsed r :=
  lt_of_lt_of_le (by norm_num) (le_max_left _ _)

theorem lookup_withPrevious {β γ : Type} (prev now : List (String × β)) (f : β → β → γ)
    (name : String) :
    (withPrevious prev now f).lookup name
      = (now.lookup name).map fun cur => f ((prev.lookup name).getD cur) cur := by
  unfold withPrevious
  induction now with
  | nil => rfl
  | cons row now ih =>
      obtain ⟨key, cur⟩ := row
      simp only [List.map_cons, List.lookup_cons]
      by_cases hkey : name = key
      · subst hkey
        simp
      · have hne : (name == key) = false := beq_false_of_ne hkey
        simpa [hne] using ih

/-- A rate that is a difference over the elapsed time gives the difference back. -/
theorem rate_mul_elapsed {β γ : Type} {prev now : List (String × β)} {f : ℚ → β → β → γ}
    {count : β → Int} {field : γ → ℚ} {elapsed : ℚ} (helapsed : 0 < elapsed)
    (hfield : ∀ p c, field (f elapsed p c) = ((count c : ℚ) - count p) / elapsed) (name : String) :
    ((((withPrevious prev now (f elapsed)).lookup name).map field).getD 0) * elapsed
      = delta ((prev.lookup name).map count) ((now.lookup name).map count) := by
  rw [lookup_withPrevious]
  cases hnow : now.lookup name with
  | none => cases prev.lookup name <;> simp [delta]
  | some cur =>
      cases hprev : prev.lookup name with
      | none => simp [delta, hfield]
      | some p =>
          simp only [Option.map_some, Option.getD_some, hfield, delta]
          rw [div_mul_cancel₀ _ helapsed.ne']
          push_cast
          ring

/-- **One sample.** What it reports for a counter, times the time since the last one, is what the
counter has grown by. -/
theorem rate_sample (args : AgentArgs) (a : Agent) (r : HostReading) (c : HostCounter) :
    (c.rate (a.sample args r).1).getD 0 * a.elapsed r = delta (c.previous a) (c.read r) := by
  have helapsed := elapsed_pos a r
  cases c with
  | readBytes name | writeBytes name | reads name | writes name =>
      exact rate_mul_elapsed (f := diskRatesOf) helapsed (fun _ _ => rfl) name
  | rxBytes name | txBytes name | rxPackets name | txPackets name =>
      exact rate_mul_elapsed (f := netRatesOf) helapsed (fun _ _ => rfl) name
  | contextSwitches | processesForked =>
      simp only [HostCounter.rate, HostCounter.previous, HostCounter.read, HostCounter.value,
        Option.getD_some, delta, Agent.sample]
      rw [div_mul_cancel₀ _ helapsed.ne']
      push_cast
      ring

theorem previous_sample (a : Agent) (r : HostReading) (c : HostCounter) :
    c.previous (a.sample args r).2 = c.read r := by
  cases c <;> rfl

/-! ## A run -/

/-- The samples of a run, each with the time it is a rate over. -/
def Agent.reports (args : AgentArgs) : Agent → List HostReading → List (ℚ × HostSample)
  | _, [] => []
  | a, r :: rs => (a.elapsed r, (a.sample args r).1) :: (a.sample args r).2.reports args rs

/-- What the rates of a counter add up to over the time they are for. -/
def integrated (c : HostCounter) (reports : List (ℚ × HostSample)) : ℚ :=
  (reports.map fun x => (c.rate x.2).getD 0 * x.1).sum

theorem integrated_reports (args : AgentArgs) (c : HostCounter) (rs : List HostReading) :
    ∀ a : Agent, integrated c (a.reports args rs) = growth (c.previous a) (rs.map c.read) := by
  induction rs with
  | nil => intro a; simp [integrated, Agent.reports, growth]
  | cons r rs ih =>
      intro a
      have hrest := ih (a.sample args r).2
      rw [previous_sample] at hrest
      have hfirst := rate_sample args a r c
      simp only [integrated] at hrest
      simp only [integrated, Agent.reports, List.map_cons, List.sum_cons, growth, Int.cast_add]
      rw [hrest, hfirst]

/-- What the rates of a run say of a counter that is read as `readings`. -/
structure IntegratedExact (sum : ℚ) (readings : List (Option Int)) : Prop where
  eq_span : sum = span readings - gapGrowth none false readings
  no_gap : (∀ v ∈ readings, v ≠ none) → sum = span readings
  /-- A counter that never goes back is not overstated, and understated only if it grew while its
      device was gone. -/
  le_span : readings.reduceOption.Pairwise (· ≤ ·) →
    sum ≤ span readings ∧ (sum = span readings ↔ gapGrowth none false readings = 0)

/-- **Rates lose nothing but what happens in a gap.** -/
theorem integrated_exact (args : AgentArgs) (start : HostReading) (rs : List HostReading)
    (c : HostCounter) :
    IntegratedExact (integrated c ((Agent.init start).reports args rs))
      ((start :: rs).map c.read) := by
  have hprevious : c.previous (Agent.init start) = c.read start := by cases c <;> rfl
  have hsum := integrated_reports args c rs (Agent.init start)
  have hsplit := growth_add_gapGrowth (c.read start) (rs.map c.read)
  rw [hprevious] at hsum
  have hspan : integrated c ((Agent.init start).reports args rs)
      = span ((start :: rs).map c.read) - gapGrowth none false ((start :: rs).map c.read) := by
    rw [hsum, List.map_cons, ← hsplit]
    push_cast
    ring
  refine ⟨hspan, fun hall => ?_, fun hsorted => ?_⟩
  · rw [hspan, gapGrowth_eq_zero hall]
    simp
  · have hnonneg : 0 ≤ gapGrowth none false ((start :: rs).map c.read) :=
      gapGrowth_nonneg (by simpa [List.reduceOption_cons_of_none] using hsorted)
    have hcast : (0 : ℚ) ≤ gapGrowth none false ((start :: rs).map c.read) := by
      exact_mod_cast hnonneg
    rw [hspan]
    refine ⟨by linarith, fun heq => ?_, fun hzero => by rw [hzero]; simp⟩
    have hzero : (gapGrowth none false ((start :: rs).map c.read) : ℚ) = 0 := by linarith
    exact_mod_cast hzero

end AnalyticsTesting.Bench
