import AnalyticsTesting.Bench.Report
import AnalyticsTesting.Lib.Selection

set_option autoImplicit false

/-! # The named bottleneck

`bottleneck` of `bench/report.py`: a cascade of branches over the totals of the generator, the
pipeline samples and the samples of the three hosts, each of which may be missing. -/

namespace AnalyticsTesting.Bench

/-- The hosts `Run` reads samples of, in its order. -/
inductive HostRole
  | generator
  | collector
  | compactor
  deriving DecidableEq

namespace HostRole

def all : List HostRole := [generator, collector, compactor]

def name : HostRole → String
  | generator => "generator"
  | collector => "collector"
  | compactor => "compactor"

end HostRole

/-- `totals` of `generator.json`. -/
structure RunTotals where
  recordsOffered : Int
  recordsAccepted : Int
  recordsRejected : Int
  stalledMs : ℚ
  durationSeconds : ℚ
  deriving DecidableEq

/-- The run files `bottleneck` reads; a missing file of totals is `none`, other missing files are
    empty lists. -/
structure DiagnosedRun extends RunFiles where
  /-- `transport` of `metadata.json`. -/
  transport : Option String
  totals : Option RunTotals
  /-- `cpu_percent` of the samples of a host; `none` is a value that is not a number. -/
  cpuPercent : HostRole → List (Option ℚ)

/-- What `bottleneck` can return. -/
inductive Conclusion
  | overTransport (transport : String)
  | nothingOffered
  | ingestionQueue (rejected : Int)
  | acceptPath (ratio : ℚ)
  | compaction (slope : ℚ)
  | loadGenerator (stallShare load : ℚ)
  | inflightBound (stallShare : ℚ)
  | cpu (saturated : List HostRole)
  | notReached
  deriving DecidableEq

namespace Conclusion

/-- `MISSING`. -/
def missing : String := "NOT MEASURED"

/-- The first element of the pair. -/
def name : Conclusion → String
  | overTransport _ | nothingOffered => missing
  | ingestionQueue _ => "collector ingestion queue"
  | acceptPath _ => "collector accept path"
  | compaction _ => "compaction"
  | loadGenerator _ _ => "generator (SERVER 1)"
  | inflightBound _ => "in-flight bound"
  | cpu saturated => "CPU on " ++ ", ".intercalate (saturated.map HostRole.name)
  | notReached => "not reached"

/-- The second one. -/
def text : Conclusion → String
  | overTransport transport =>
      "this run went over " ++ transport ++ ", so the rate and latency data cannot identify a " ++
        "bottleneck — the transport is a plausible constraint of its own and cannot be " ++
        "separated from the pipeline's"
  | nothingOffered => "the generator recorded no offered records"
  | ingestionQueue rejected =>
      formatInt rejected ++ " records were rejected with RESOURCE_EXHAUSTED, which the " ++
        "collector raises only when pending write bytes exceed max_pending_write — the writer " ++
        "could not drain buckets as fast as they arrived"
  | acceptPath ratio =>
      "accepted/offered was " ++ PyNumber.formatPlain (.fin ratio) 4 ++ "; the shortfall is " ++
        "failed or unsent RPCs rather than explicit rejection — see the error breakdown"
  | compaction slope =>
      "accept kept up but the uncompacted file backlog grew " ++
        PyNumber.formatPlain (.fin slope) 2 ++ " files/min in steady state — the compactor is " ++
        "not draining as fast as the collector produces"
  | loadGenerator stallShare load =>
      "the pacer was blocked on the inflight bound " ++
        PyNumber.formatPlain (.fin (stallShare * 100)) 1 ++ "% of the run with generator CPU at " ++
        PyNumber.formatPlain (.fin load) 0 ++ "% — this run measured the load generator, not " ++
        "the pipeline"
  | inflightBound stallShare =>
      "the pacer stalled for " ++ PyNumber.formatPlain (.fin (stallShare * 100)) 1 ++ "% of the " ++
        "run; raise max_inflight or add workers before treating this as a pipeline limit"
  | cpu _ =>
      "mean CPU above 85% with no rejection and flat backlog — the level held, but there is " ++
        "no headroom above it"
  | notReached =>
      "accepted tracked offered, no rejections, backlog flat and CPU below 85%: the offered " ++
        "rate was below the system's capacity, so this run did not find the ceiling"

end Conclusion

namespace DiagnosedRun

variable (run : DiagnosedRun)

/-- `totals.get(key, 0)`. -/
def total (field : RunTotals → ℚ) : ℚ := (run.totals.map field).getD 0

/-- `series(rows, "cpu_percent")`. -/
def cpuSamples (role : HostRole) : List ℚ := (run.cpuPercent role).filterMap id

/-- `host_cpu`: the mean of each host with samples. -/
def hostCpu : List (HostRole × ℚ) :=
  HostRole.all.filterMap fun role =>
    if (run.cpuSamples role).isEmpty then none else some (role, fmean (run.cpuSamples role))

/-- `ratio`. -/
def ratio : ℚ := run.total (·.recordsAccepted) / run.total (·.recordsOffered)

/-- `stall_share`. -/
def stallShare : ℚ :=
  let duration := run.total (·.durationSeconds)
  run.total (·.stalledMs) / ((if duration = 0 then 1 else duration) * 1000)

/-- The backlog grows by more than half a file a minute; nothing is said of one that is not
    available. -/
def growingBacklog : Option ℚ :=
  match analyseBacklog run.toRunFiles with
  | .unavailable _ => none
  | .available trend => if 1 / 2 < trend.filesSlopePerMin then some trend.filesSlopePerMin else none

/-- `bottleneck`. -/
def bottleneck : Conclusion :=
  let transport := run.transport.getD "direct"
  if transport ≠ "direct" then .overTransport transport
  else if run.total (·.recordsOffered) = 0 then .nothingOffered
  else if 0 < run.total (·.recordsRejected) then
    .ingestionQueue ((run.totals.map (·.recordsRejected)).getD 0)
  else if run.ratio < 99 / 100 then .acceptPath run.ratio
  else match run.growingBacklog with
    | some slope => .compaction slope
    | none =>
        if 1 / 10 < run.stallShare then
          match Selection.firstMax (fun _ => true) Prod.snd run.hostCpu with
          | some (.generator, load) =>
              if 80 < load then .loadGenerator run.stallShare load
              else .inflightBound run.stallShare
          | _ => .inflightBound run.stallShare
        else
          let saturated := (run.hostCpu.filter fun h => decide (85 < h.2)).map Prod.fst
          if saturated.isEmpty then .notReached else .cpu saturated

end DiagnosedRun

end AnalyticsTesting.Bench
