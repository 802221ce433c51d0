import Mathlib.Data.List.Induction
import AnalyticsTesting.Lib.Changes
import AnalyticsTesting.Bench.HostAgent

set_option autoImplicit false

/-! # What the host agent says about a process that comes and goes

The agent identifies the process it watches by its pid and its start time. Two of its figures depend
on that identity over time: the restart counter, and the processor time between two readings.

The counter forgets the identity as soon as the process is absent, so it counts the changes between
one sample and the next (`restarts_of_run`) and misses every restart with a gap in it
(`restarts_eq_iff`). The processor time is the opposite case: the previous reading is kept whatever
happens to the process (`prevProc_eq`), so it is measured on one process exactly as long as there is
only one (`measuresOneProcess_iff`). -/

namespace AnalyticsTesting.Bench

open Transition Changes

variable {args : AgentArgs}

/-! ## What a sample observes -/

/-- The process a sample observes: its pid and its start time, or nothing. -/
def identityOf (args : AgentArgs) (r : HostReading) : Option (Int × Nat) :=
  if args.processPattern = "" then none
  else (pidOf args.me r.pgrep).bind fun pid =>
    (r.statResolved pid).map fun info => (pid, info.startTicks)

/-- The reading of the process that a sample is made from. -/
def readingOf (args : AgentArgs) (r : HostReading) : Option ProcReading :=
  (identityOf args r).bind fun id =>
    if id.1 = 0 then none else (r.stat id.1).map fun stat => ⟨id.1, stat⟩

/-- The identity of a process that has been read. -/
def ProcReading.identity (x : ProcReading) : Int × Nat := (x.pid, x.stat.startTicks)

/-! ## What a sample does -/

theorem resolvePid_of_pattern (h : args.processPattern ≠ "") (a : Agent) (r : HostReading) :
    a.resolvePid args r = match identityOf args r with
      | none => { a with pid := none }
      | some id =>
          { a with
            restarts := if a.pid ≠ none ∧ (some id.1 ≠ a.pid ∨ some id.2 ≠ a.pidStartTicks)
                        then a.restarts + 1 else a.restarts
            pid := some id.1
            pidStartTicks := some id.2 } := by
  unfold Agent.resolvePid identityOf
  rw [if_neg h, if_neg h]
  cases pidOf args.me r.pgrep with
  | none => rfl
  | some pid =>
      dsimp only [Option.bind_some]
      cases r.statResolved pid with
      | none => rfl
      | some info => rfl

@[simp] theorem resolvePid_prevProc (a : Agent) (r : HostReading) :
    (a.resolvePid args r).prevProc = a.prevProc := by
  unfold Agent.resolvePid
  repeat' split
  all_goals rfl

@[simp] theorem resolvePid_logReadings (a : Agent) (r : HostReading) :
    (a.resolvePid args r).logReadings = a.logReadings := by
  unfold Agent.resolvePid
  repeat' split
  all_goals rfl

/-- The process part of a sample in two cases: there is a reading, or nothing happens. -/
theorem sampleProcess_cases (args : AgentArgs) (elapsed : ℚ) (a : Agent) (r : HostReading) :
    (a.sampleProcess args elapsed r = (none, a) ∧
      (a.pid.bind fun pid => if pid = 0 then none else r.stat pid) = none) ∨
    ∃ pid cur, a.pid = some pid ∧ pid ≠ 0 ∧ r.stat pid = some cur ∧
      a.sampleProcess args elapsed r =
        (some { pid, cpuPercent := roundDigits (processCpu args elapsed a.prevProc cur) 2,
                rssBytes := cur.rssBytes, threads := cur.numThreads },
         { a with prevProc := some cur, logReadings := a.logReadings ++ [⟨pid, cur⟩] }) := by
  unfold Agent.sampleProcess
  cases hpid : a.pid with
  | none => exact Or.inl ⟨rfl, rfl⟩
  | some pid =>
      by_cases hzero : pid = 0
      · exact Or.inl (by simp [hzero])
      · cases hstat : r.stat pid with
        | none => exact Or.inl (by simp [hzero, hstat])
        | some cur => exact Or.inr ⟨pid, cur, rfl, hzero, hstat, by simp [hzero, hstat]⟩

/-- What the agent knows of the process it watches is what `_resolve_pid` has found. -/
theorem sample_identity (args : AgentArgs) (a : Agent) (r : HostReading) :
    (a.sample args r).2.pid = (a.resolvePid args r).pid ∧
      (a.sample args r).2.pidStartTicks = (a.resolvePid args r).pidStartTicks ∧
      (a.sample args r).2.restarts = (a.resolvePid args r).restarts := by
  rcases sampleProcess_cases args (a.elapsed r) (a.resolvePid args r) r with ⟨heq, -⟩ |
    ⟨pid, cur, -, -, -, heq⟩
  · simp [Agent.sample, heq]
  · simp [Agent.sample, heq]

/-! ## Restarts -/

/-- The observations of a run, sample by sample. -/
def observations (args : AgentArgs) (rs : List HostReading) : List (Option (Int × Nat)) :=
  rs.map (identityOf args)

/-- The agent remembers the last observation, and has counted every change between one observation
    and the next. -/
structure Watches (args : AgentArgs) (rs : List HostReading) (a : Agent) : Prop where
  pid : a.pid = (observations args rs).getLast?.join.map Prod.fst
  startTicks : ∀ id, (observations args rs).getLast?.join = some id →
    a.pidStartTicks = some id.2
  restarts : a.restarts = switches (observations args rs)

@[simp] theorem observations_concat (rs : List HostReading) (r : HostReading) :
    observations args (rs ++ [r]) = observations args rs ++ [identityOf args r] := by
  simp [observations]

/-- Without a pattern nothing is observed. -/
theorem last_observation_of_no_pattern (h : args.processPattern = "") (rs : List HostReading) :
    (observations args rs).getLast?.join = none := by
  cases hlast : (observations args rs).getLast? with
  | none => rfl
  | some o =>
      obtain ⟨r, -, rfl⟩ := List.mem_map.1 (List.mem_of_getLast? hlast)
      simp [identityOf, h]

theorem switches_concat (obs : List (Option (Int × Nat))) (o : Option (Int × Nat)) :
    switches (obs ++ [o]) = switches obs + if Switched obs.getLast?.join o then 1 else 0 := by
  unfold switches
  rw [countAdjacent_concat]
  congr 1
  cases obs.getLast? with
  | none => rfl
  | some last => rfl

/-- The counter moves on exactly where the last observation is followed by another process. -/
theorem replaced_iff {rs : List HostReading} {a : Agent} (h : Watches args rs a) (id : Int × Nat) :
    (a.pid ≠ none ∧ (some id.1 ≠ a.pid ∨ some id.2 ≠ a.pidStartTicks)) ↔
      Switched (observations args rs).getLast?.join (some id) := by
  rw [h.pid]
  cases hlast : (observations args rs).getLast?.join with
  | none => simp [Switched]
  | some last =>
      rw [h.startTicks last hlast]
      simp only [Option.map_some, ne_eq, reduceCtorEq, not_false_eq_true, true_and,
        Option.some.injEq, Switched, Prod.ext_iff]
      tauto

theorem watches_sample {rs : List HostReading} {a : Agent} (h : Watches args rs a)
    (r : HostReading) : Watches args (rs ++ [r]) (a.sample args r).2 := by
  obtain ⟨hpid, hticks, hrestarts⟩ := sample_identity args a r
  by_cases hpattern : args.processPattern = ""
  · have hsame : a.resolvePid args r = a := if_pos hpattern
    have hid : identityOf args r = none := if_pos hpattern
    have hlast := last_observation_of_no_pattern hpattern rs
    rw [hsame] at hpid hticks hrestarts
    refine ⟨?_, ?_, ?_⟩
    · rw [hpid, h.pid, hlast]
      simp [hid]
    · simp [hid]
    · rw [hrestarts, h.restarts, observations_concat, switches_concat, hid, hlast]
      rfl
  · rw [resolvePid_of_pattern hpattern] at hpid hticks hrestarts
    cases hid : identityOf args r with
    | none =>
        rw [hid] at hpid hrestarts
        refine ⟨?_, ?_, ?_⟩
        · rw [hpid]
          simp [hid]
        · simp [hid]
        · rw [hrestarts, h.restarts, observations_concat, switches_concat, hid]
          cases (observations args rs).getLast?.join with
          | none => rfl
          | some last => rfl
    | some id =>
        rw [hid] at hpid hticks hrestarts
        refine ⟨?_, ?_, ?_⟩
        · rw [hpid]
          simp [hid]
        · intro id' hid'
          obtain rfl : id = id' := by simpa [hid] using hid'
          exact hticks
        · rw [hrestarts, observations_concat, switches_concat, hid]
          simp only [replaced_iff h id, h.restarts]
          split <;> rfl

/-- The agent after a run of samples. -/
def Agent.samples (args : AgentArgs) (start : HostReading) (rs : List HostReading) : Agent :=
  rs.foldl (fun a r => (a.sample args r).2) (Agent.init start)

/-- A sample can always be taken. -/
theorem run_agent (start : HostReading) (rs : List HostReading) :
    ∀ a, (agent args start).run a rs = some (rs.foldl (fun a r => (a.sample args r).2) a) := by
  induction rs with
  | nil => exact fun a => rfl
  | cons r rs ih => exact fun a => ih (a.sample args r).2

theorem watches_samples (start : HostReading) (rs : List HostReading) :
    Watches args rs (Agent.samples args start rs) := by
  refine System.run_of_preserves_history (M := agent args start) (P := fun _ _ => True)
    ⟨rfl, by simp [observations], rfl⟩ (fun rs a r a' hwatches _ hstep => ?_)
    (System.meets_of_forall (fun _ _ => trivial) rs _) (run_agent start rs _)
  obtain rfl : (a.sample args r).2 = a' := Option.some.inj hstep
  exact watches_sample hwatches r

/-- **The restart counter is the number of changes of the process that was seen exactly if no
change happens while no process is seen.** -/
theorem restarts_eq_changes_iff (args : AgentArgs) (start : HostReading) (rs : List HostReading) :
    (Agent.samples args start rs).restarts = changes (observations args rs).reduceOption ↔
      GapsKeep (observations args rs) := by
  rw [(watches_samples start rs).restarts]
  exact switches_eq_changes_iff

/-- A reading of a host on which `pgrep` finds one process. -/
def watching (monotonic : ℚ) (pid : Int) (stat : ProcStat) : HostReading where
  monotonic
  pgrep := some [toString pid ++ " /usr/bin/java -jar collector.jar"]
  statResolved p := if p = pid then some stat else none
  stat p := if p = pid then some stat else none

/-- An agent that watches the collector. -/
def collectorArgs : AgentArgs := ⟨"collector.jar", 7, 100, by decide⟩

/-- The collector is killed, is absent for one sample and comes back as another process. -/
def crashedAndBack : List HostReading :=
  [watching 1 41 ⟨500, 4096, 20, 100⟩, { monotonic := 2 }, watching 3 97 ⟨10, 4096, 20, 300⟩]

/-- A restart that takes longer than a sample is not counted. -/
theorem not_restarts_eq_changes_crashedAndBack :
    ¬ ∀ args start rs, (Agent.samples args start rs).restarts
        = changes (observations args rs).reduceOption := by
  intro h
  have hcount := h collectorArgs { monotonic := 0 } crashedAndBack
  have hrestarts :
      (Agent.samples collectorArgs { monotonic := 0 } crashedAndBack).restarts = 0 := by
    decide +kernel
  have hchanges : changes (observations collectorArgs crashedAndBack).reduceOption = 1 := by
    decide +kernel
  omega

/-! ## Processor time -/

/-- If a sample reports a processor time that is computed from an earlier reading, then both
    readings are of the process it names, and the time is not negative. -/
def MeasuresOneProcess (args : AgentArgs) (a : Agent) (r : HostReading) : Prop :=
  ∀ p prev, (a.sample args r).1.process = some p → a.prevProc = some prev →
    ∃ before now, a.logReadings.getLast? = some before ∧ before.stat = prev ∧
      (a.sample args r).2.logReadings = a.logReadings ++ [now] ∧ now.pid = p.pid ∧
      p.cpuPercent = roundDigits (processCpu args (a.elapsed r) (some before.stat) now.stat) 2 ∧
      before.identity = now.identity ∧ 0 ≤ p.cpuPercent

/-- The readings of the process in a run. -/
def readings (args : AgentArgs) (rs : List HostReading) : List ProcReading :=
  rs.filterMap (readingOf args)

/-- The processor time of a process does not decrease while it lives. -/
def TicksGrow (xs : List ProcReading) : Prop :=
  xs.Pairwise fun x y => x.identity = y.identity → x.stat.cpuTicks ≤ y.stat.cpuTicks

/-- What the agent remembers of the readings. -/
structure Remembers (args : AgentArgs) (rs : List HostReading) (a : Agent) : Prop where
  logReadings : a.logReadings = readings args rs
  prevProc : a.prevProc = (readings args rs).getLast?.map ProcReading.stat

theorem readings_concat (rs : List HostReading) (r : HostReading) :
    readings args (rs ++ [r]) = readings args rs ++ (readingOf args r).toList := by
  unfold readings
  rw [List.filterMap_append]
  cases h : readingOf args r <;> simp [h]

theorem pid_of_resolvePid {rs : List HostReading} {a : Agent} (h : Watches args rs a)
    (r : HostReading) : (a.resolvePid args r).pid = (identityOf args r).map Prod.fst := by
  rw [← (sample_identity args a r).1, (watches_sample h r).pid]
  simp

/-- A sample without a reading of the process says nothing about it. -/
theorem sample_of_no_reading {rs : List HostReading} {a : Agent} (h : Watches args rs a)
    {r : HostReading} (hreading : readingOf args r = none) :
    (a.sample args r).1.process = none ∧ (a.sample args r).2.logReadings = a.logReadings ∧
      (a.sample args r).2.prevProc = a.prevProc := by
  have hpid := pid_of_resolvePid h r
  rcases sampleProcess_cases args (a.elapsed r) (a.resolvePid args r) r with ⟨heq, -⟩ |
    ⟨pid, cur, hsome, hzero, hstat, -⟩
  · simp [Agent.sample, heq]
  · rw [hsome] at hpid
    obtain ⟨id, hid, rfl⟩ := Option.map_eq_some_iff.1 hpid.symm
    simp [readingOf, hid, hzero, hstat] at hreading

/-- A sample with a reading measures it against whatever was read last. -/
theorem sample_of_reading {rs : List HostReading} {a : Agent} (h : Watches args rs a)
    {r : HostReading} {x : ProcReading} (hreading : readingOf args r = some x) :
    (a.sample args r).1.process =
        some { pid := x.pid,
               cpuPercent := roundDigits (processCpu args (a.elapsed r) a.prevProc x.stat) 2,
               rssBytes := x.stat.rssBytes, threads := x.stat.numThreads } ∧
      (a.sample args r).2.logReadings = a.logReadings ++ [x] ∧
      (a.sample args r).2.prevProc = some x.stat := by
  have hpid := pid_of_resolvePid h r
  obtain ⟨id, hid, hx⟩ := Option.bind_eq_some_iff.1 hreading
  rw [hid, Option.map_some] at hpid
  rcases sampleProcess_cases args (a.elapsed r) (a.resolvePid args r) r with ⟨-, hnone⟩ |
    ⟨pid, cur, hsome, hzero, hstat, heq⟩
  · rw [hpid, Option.bind_some] at hnone
    split at hx
    · simp at hx
    · next hne => simp [hne] at hnone; simp [hnone] at hx
  · obtain rfl : id.1 = pid := Option.some.inj (hpid.symm.trans hsome)
    rw [if_neg hzero, hstat, Option.map_some] at hx
    obtain rfl := Option.some.inj hx
    simp [Agent.sample, heq]

theorem remembers_sample {rs : List HostReading} {a : Agent} (hw : Watches args rs a)
    (h : Remembers args rs a) (r : HostReading) :
    Remembers args (rs ++ [r]) (a.sample args r).2 := by
  cases hreading : readingOf args r with
  | none =>
      obtain ⟨-, hlog, hprev⟩ := sample_of_no_reading hw hreading
      refine ⟨?_, ?_⟩
      · rw [hlog, h.logReadings, readings_concat, hreading]
        simp
      · rw [hprev, h.prevProc, readings_concat, hreading]
        simp
  | some x =>
      obtain ⟨-, hlog, hprev⟩ := sample_of_reading hw hreading
      refine ⟨?_, ?_⟩
      · rw [hlog, h.logReadings, readings_concat, hreading]
        simp
      · rw [hprev, readings_concat, hreading]
        simp

theorem remembers_samples (start : HostReading) (rs : List HostReading) :
    Remembers args rs (Agent.samples args start rs) := by
  have hinv : Watches args rs (Agent.samples args start rs) ∧
      Remembers args rs (Agent.samples args start rs) := by
    refine System.run_of_preserves_history (M := agent args start) (P := fun _ _ => True)
      (I := fun rs a => Watches args rs a ∧ Remembers args rs a)
      ⟨watches_samples start [], ⟨rfl, rfl⟩⟩ (fun rs a r a' hI _ hstep => ?_)
      (System.meets_of_forall (fun _ _ => trivial) rs _) (run_agent start rs _)
    obtain rfl : (a.sample args r).2 = a' := Option.some.inj hstep
    exact ⟨watches_sample hI.1 r, remembers_sample hI.1 hI.2 r⟩
  exact hinv.2

/-- What a sample of a run measures, in terms of the readings before it. -/
theorem measuresOneProcess_samples (args : AgentArgs) (start : HostReading)
    (rs : List HostReading) (r : HostReading) :
    MeasuresOneProcess args (Agent.samples args start rs) r ↔
      ∀ x y, readingOf args r = some x → (readings args rs).getLast? = some y →
        y.identity = x.identity ∧
          0 ≤ roundDigits (processCpu args ((Agent.samples args start rs).elapsed r)
                (some y.stat) x.stat) 2 := by
  have hw : Watches args rs (Agent.samples args start rs) := watches_samples start rs
  obtain ⟨hlog, hprev⟩ : Remembers args rs (Agent.samples args start rs) :=
    remembers_samples start rs
  constructor
  · intro h x y hx hy
    obtain ⟨hprocess, hlog', -⟩ := sample_of_reading hw hx
    rw [hy, Option.map_some] at hprev
    obtain ⟨before, now, hbefore, -, hnow, -, hcpu, hid, hpos⟩ := h _ _ hprocess hprev
    obtain rfl : y = before := by simpa [hlog, hy] using hbefore
    obtain rfl : x = now := by simpa [hlog'] using hnow
    exact ⟨hid, by rw [← hcpu]; exact hpos⟩
  · intro h p prev hprocess hprev'
    cases hx : readingOf args r with
    | none =>
        rw [(sample_of_no_reading hw hx).1] at hprocess
        simp at hprocess
    | some x =>
        obtain ⟨hprocess', hlog', -⟩ := sample_of_reading hw hx
        obtain rfl := Option.some.inj (hprocess'.symm.trans hprocess)
        obtain ⟨y, hy, rfl⟩ := Option.map_eq_some_iff.1 (hprev.symm.trans hprev')
        obtain ⟨hid, hpos⟩ := h x y hx hy
        refine ⟨y, x, by rw [hlog, hy], rfl, hlog', rfl, by rw [hprev'], hid, ?_⟩
        rw [hprev']
        exact hpos

/-- The rate of a counter that has not gone back is not negative. -/
theorem processCpu_nonneg {elapsed : ℚ} (h : 0 ≤ elapsed) {prev cur : ProcStat}
    (hticks : prev.cpuTicks ≤ cur.cpuTicks) :
    0 ≤ roundDigits (processCpu args elapsed (some prev) cur) 2 := by
  have hdiff : (0 : ℚ) ≤ (cur.cpuTicks : ℚ) - prev.cpuTicks := by
    rw [sub_nonneg]
    exact_mod_cast hticks
  refine roundDigits_nonneg 2 ?_
  unfold processCpu
  positivity

theorem elapsed_nonneg (a : Agent) (r : HostReading) : 0 ≤ a.elapsed r :=
  le_max_of_le_left (by positivity)

/-- **Processor time is measured on one process exactly if only one process is ever read.** -/
theorem measuresOneProcess_iff (args : AgentArgs) (start : HostReading) (rs : List HostReading)
    (hgrow : TicksGrow (readings args rs)) :
    (agent args start).Meets (MeasuresOneProcess args) (Agent.init start) rs ↔
      ∀ x ∈ readings args rs, ∀ y ∈ readings args rs, x.identity = y.identity := by
  rw [System.meets_iff_prefix]
  constructor
  · intro h
    -- each reading is of the process that was read last before it
    have hprefix : ∀ before, before <+: rs →
        ∀ x ∈ readings args before, ∀ y ∈ readings args before, x.identity = y.identity := by
      intro before
      induction before using List.reverseRecOn with
      | nil => simp [readings]
      | append_singleton before r ih =>
          intro hbefore
          have hone := ih ((List.prefix_append before [r]).trans hbefore)
          have hmeasures := (measuresOneProcess_samples args start before r).1
            (h before r _ hbefore (run_agent start before _))
          rw [readings_concat]
          cases hx : readingOf args r with
          | none => simpa using hone
          | some x =>
              have hlast : ∀ y ∈ readings args before, y.identity = x.identity := by
                intro y hy
                obtain ⟨z, hz⟩ := List.getLast?_isSome.2 (List.ne_nil_of_mem hy) |>
                  Option.isSome_iff_exists.1
                rw [hone y hy z (List.mem_of_getLast? hz)]
                exact (hmeasures x z hx hz).1
              have hall : ∀ y ∈ readings args before ++ [x], y.identity = x.identity := by
                intro y hy
                rcases List.mem_append.1 hy with hy | hy
                · exact hlast y hy
                · rw [List.mem_singleton.1 hy]
              intro y hy z hz
              rw [hall y hy, hall z hz]
    exact hprefix rs List.prefix_rfl
  · intro hone before r a hbefore hrun
    obtain rfl : Agent.samples args start before = a :=
      Option.some.inj ((run_agent start before _).symm.trans hrun)
    rw [measuresOneProcess_samples]
    intro x y hx hy
    obtain ⟨rest, rfl⟩ := hbefore
    have hsplit : readings args (before ++ [r] ++ rest)
        = readings args before ++ ([x] ++ readings args rest) := by
      simp [readings, hx]
    rw [hsplit] at hone hgrow
    have hmem := List.mem_of_getLast? hy
    have hid : y.identity = x.identity := hone y (by simp [hmem]) x (by simp)
    have hticks := (List.pairwise_append.1 hgrow).2.2 y hmem x (by simp) hid
    exact ⟨hid, processCpu_nonneg (elapsed_nonneg _ r) hticks⟩

/-- One process, read twice and then gone. -/
def readTwice : List HostReading :=
  [watching 1 41 ⟨500, 4096, 20, 100⟩, watching 2 41 ⟨550, 4096, 20, 100⟩, { monotonic := 3 }]

/-- The time of a process that is read twice is measured on it. -/
theorem measuresOneProcess_readTwice :
    TicksGrow (readings collectorArgs readTwice) ∧
      (agent collectorArgs { monotonic := 0 }).Meets (MeasuresOneProcess collectorArgs)
        (Agent.init { monotonic := 0 }) readTwice := by
  have hgrow : TicksGrow (readings collectorArgs readTwice) := by
    unfold TicksGrow
    decide +kernel
  exact ⟨hgrow, (measuresOneProcess_iff collectorArgs { monotonic := 0 } readTwice hgrow).2
    (by decide +kernel)⟩

/-- The collector is replaced between two samples. -/
def replacedAtOnce : List HostReading :=
  [watching 1 41 ⟨500, 4096, 20, 100⟩, watching 2 97 ⟨10, 4096, 20, 190⟩]

/-- The processor time of a new process is measured against the old one, and is negative. -/
theorem not_measuresOneProcess_replacedAtOnce :
    ¬ ∀ args start rs, TicksGrow (readings args rs) →
        (agent args start).Meets (MeasuresOneProcess args) (Agent.init start) rs := by
  intro h
  have hgrow : TicksGrow (readings collectorArgs replacedAtOnce) := by
    unfold TicksGrow
    decide +kernel
  let a := ((Agent.init { monotonic := 0 }).sample collectorArgs
    (watching 1 41 ⟨500, 4096, 20, 100⟩)).2
  have hnegative : (a.sample collectorArgs (watching 2 97 ⟨10, 4096, 20, 190⟩)).1.process
      = some ⟨97, -490, 4096, 20⟩ := by
    decide +kernel
  have hprev : a.prevProc = some ⟨500, 4096, 20, 100⟩ := by decide +kernel
  have hmeets := h collectorArgs { monotonic := 0 } replacedAtOnce hgrow
  obtain ⟨before, now, -, -, -, -, -, -, hpos⟩ := (hmeets.2 a rfl).1 _ _ hnegative hprev
  exact absurd hpos (by decide +kernel)

end AnalyticsTesting.Bench
