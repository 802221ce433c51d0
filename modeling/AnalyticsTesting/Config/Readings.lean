import AnalyticsTesting.Lib.Verdict
import AnalyticsTesting.Config.Proofs.Precedence

set_option autoImplicit false

/-! # What `load` reads, one value after the other

The readings of `load` in its order (`readings`), each judged by the value it finds: it passes, one
of the checks reports it, or Python raises what no check foresees. The values are those of the
document, with the defaults of the source; what is not there or of the wrong shape counts as the
default, since its own reading has not passed. -/

namespace AnalyticsTesting.Config

open Verdict (reportUnless crashUnless)

namespace Value

variable (fl : FloatFormat)

/-- A mapping. -/
def isMapping : Value → Bool
  | dict _ => true
  | _ => false

/-- What a mapping has under a key. -/
def field (v : Value) (key : String) (default : Value) : Value :=
  match v with
  | dict items => (Entries.lookup items (.str key)).getD default
  | _ => default

/-- The entries of a mapping. -/
def entries : Value → Items
  | dict items => items
  | _ => []

/-- A section of a mapping, empty where there is none. -/
def part (v : Value) (key : String) : Value := (v.field key .none).orElse (.dict [])

/-- `repr` makes a text of it. -/
def hasRepr (v : Value) : Bool := (v.repr fl).toOption.isSome

/-- `str` makes a text of it. -/
def hasText (v : Value) : Bool := (v.toStr fl).toOption.isSome

/-- What `str` makes of it. -/
def asText (v : Value) : String := (v.toStr fl).toOption.getD ""

/-- Neither `None` nor an empty text. -/
def isGiven : Value → Bool
  | none => false
  | str s => s ≠ ""
  | _ => true

/-- `float` makes a number of it. -/
def isFloat (v : Value) : Bool := (v.toFloat fl).toOption.isSome

/-- What `float` makes of it. -/
def asFloat (v : Value) : Double := (v.toFloat fl).toOption.getD .nan

/-- No integer that is too large for a float. -/
def fitsFloat : Value → Bool
  | int n => (fl.ofInt n).isSome
  | _ => true

/-- `int` makes a number of it. -/
def isInt (v : Value) : Bool := v.toInt.toOption.isSome

/-- What `int` makes of it. -/
def asInt (v : Value) : Int := v.toInt.toOption.getD 0

end Value

/-- Neither a NaN nor infinite. -/
def isFinite : Double → Bool
  | .fin _ => true
  | _ => false

section Readings

variable (fl : FloatFormat)

/-! ## Helpers -/

/-- `_require` of a key: only a mapping that has it can be asked for it. -/
def requireVerdict (v : Value) (key : String) : Verdict :=
  match v.contains key with
  | .ok false => .reports
  | .ok true => (crashUnless v.isMapping).andThen (reportUnless (v.field key .none).isGiven)
  | .error _ => .crashes

/-- `_positive`: an integer that is too large for a float gets past its checks, and so does what has
no text for the error. -/
def positiveVerdict (value : Value) (allowZero : Bool) : Verdict :=
  (crashUnless (value.fitsFloat fl && (value.isFloat fl || value.hasRepr fl))).andThen
    (reportUnless (value.isFloat fl && passesPositive (value.asFloat fl) allowZero))

/-! ## The readings of each stage -/

/-- The profile: an unknown one is reported with the names of those there are. -/
def profileVerdict (profiles : Value) (profile : String) : Verdict :=
  match profiles.contains profile with
  | .ok false => if (joinSorted profiles).toOption.isSome then .reports else .crashes
  | .ok true => crashUnless profiles.isMapping
  | .error _ => .crashes

/-- `target`. -/
def targetReadings (gen : Value) : List Verdict :=
  let tgt := gen.part "target"
  [requireVerdict tgt "host",
   crashUnless ((tgt.field "host" .none).hasText fl),
   requireVerdict tgt "port",
   crashUnless (tgt.field "port" .none).isInt,
   positiveVerdict fl (tgt.field "rpc_timeout_seconds" (.int 60)) false,
   reportUnless !(unexpanded ((tgt.field "host" .none).asText fl))]

/-- `auth`. -/
def authReadings (gen : Value) : List Verdict :=
  let au := gen.part "auth"
  [requireVerdict au "secret_b64",
   crashUnless ((au.field "secret_b64" .none).hasText fl),
   reportUnless !(unexpanded ((au.field "secret_b64" .none).asText fl)),
   requireVerdict au "ingestion_queue",
   crashUnless ((au.field "ingestion_queue" .none).hasText fl),
   crashUnless ((au.field "subject" (.str "bench-generator")).hasText fl),
   crashUnless (au.field "token_ttl_seconds" (.int 3600)).isInt]

/-- `retry_mode`, with its default. -/
def rawRetryMode (merged : Items) : Value := (merged.lookup (.str "retry_mode")).getD (.str "none")

/-- `retry_mode` in lower case. -/
def retryMode (merged : Items) : String := lower ((rawRetryMode merged).asText fl)

/-- A number of the workload. -/
def numberReading (merged : Items) (key : String) (default : Int) (allowZero : Bool) : Verdict :=
  positiveVerdict fl (workloadValue merged key default) allowZero

/-- An integer of the workload: a NaN and the infinities get past the check. -/
def intReading (merged : Items) (key : String) (default : Int) : Verdict :=
  (numberReading fl merged key default false).andThen
    (crashUnless (isFinite ((workloadValue merged key default).asFloat fl)))

/-- An integer of the workload. -/
def intValue (merged : Items) (key : String) (default : Int) : Int :=
  (PyNumber.truncate ((workloadValue merged key default).asFloat fl)).getD 0

/-- `wl`. -/
def workloadReadings (merged : Items) : List Verdict :=
  [crashUnless ((rawRetryMode merged).hasText fl),
   reportUnless (decide (retryMode fl merged = "none" ∨ retryMode fl merged = "polite")),
   numberReading fl merged "target_rps" 0 false,
   numberReading fl merged "duration_seconds" 60 false,
   numberReading fl merged "ramp_up_seconds" 0 true,
   numberReading fl merged "ramp_down_seconds" 0 true,
   intReading fl merged "workers" 8,
   intReading fl merged "channels" 1,
   intReading fl merged "batch_size" 100,
   intReading fl merged "max_inflight" 64,
   crashUnless ((workloadValue merged "abort_on_consecutive_failures" 0).orElse (.int 0)).isInt,
   reportUnless !(intValue fl merged "max_inflight" 64 < intValue fl merged "workers" 8)]

/-- One entry of a staircase. -/
def stepReadings (s : Value) : List Verdict :=
  [crashUnless s.isMapping,
   positiveVerdict fl (s.field "rps" .none) false,
   positiveVerdict fl (s.field "duration_seconds" .none) false]

/-- `steps`. -/
def planReadings (rawSteps : Value) : List Verdict :=
  if rawSteps.truthy then
    match rawSteps with
    | .list xs => xs.flatMap (stepReadings fl)
    | .pair v v' => [v, v'].flatMap (stepReadings fl)
    | _ => [.crashes]
  else []

/-! ## The reachability check -/

/-- `body_bytes + 250`. -/
def bodyBytes (gen : Value) : Py Value :=
  ((gen.part "data").field "body_bytes" (.int 256)).addInt fl 250

/-- The size of a record. -/
def approxRecordBytes (gen : Value) : Value :=
  (gen.part "pipeline").field "approx_record_bytes" ((bodyBytes fl gen).toOption.getD .none)

/-- `pipeline`. -/
def pipelineOf (gen : Value) : Pipeline where
  maxDelayMs := ((gen.part "pipeline").field "max_delay_ms" (.int 5000)).asFloat fl
  minBucketSize := ((gen.part "pipeline").field "min_bucket_size" (.int 16777216)).asInt
  approxRecordBytes := (approxRecordBytes fl gen).asInt

/-- The conversions of `pipeline` succeed. -/
def pipelineConverts (gen : Value) : Bool :=
  (gen.part "pipeline").isMapping &&
    (((gen.part "pipeline").field "max_delay_ms" (.int 5000)).isFloat fl &&
      (((gen.part "pipeline").field "min_bucket_size" (.int 16777216)).isInt &&
        ((gen.part "data").isMapping &&
          ((bodyBytes fl gen).toOption.isSome && (approxRecordBytes fl gen).isInt))))

/-- An integer operand. -/
def operand (n : Int) : Double := (fl.ofInt n).getD .nan

/-- A quotient. -/
def quotient (x y : Double) : Double := (fl.div x y).getD .nan

/-- The time a bucket takes at a rate that is not zero or below. -/
def flushTime (p : Pipeline) (rps : Double) : Double :=
  pyMin (quotient fl p.maxDelayMs (.fin 1000))
    (quotient fl (operand fl p.minBucketSize) (fl.mul rps (operand fl p.approxRecordBytes)))

/-- Its integers fit into floats, and it does not divide by zero. -/
def flushComputes (p : Pipeline) (rps : Double) : Bool :=
  (fl.ofInt p.approxRecordBytes).isSome &&
    ((fl.ofInt p.minBucketSize).isSome &&
      fl.mul rps (operand fl p.approxRecordBytes) ≠ .fin 0)

/-- What the ceiling is divided by. -/
def clamped (p : Pipeline) (rps : Double) : Double :=
  pyMax (fl.round (1 / 10 ^ 9)) (flushTime fl p rps)

/-- The reachable ceiling. -/
def ceilingOf (p : Pipeline) (workers batchSize : Int) (rps : Double) : Double :=
  quotient fl (operand fl (workers * batchSize)) (clamped fl p rps)

/-- The records in flight fit into a float, and the ceiling does not divide by zero. -/
def ceilingComputes (p : Pipeline) (workers batchSize : Int) (rps : Double) : Bool :=
  flushComputes fl p rps &&
    ((fl.ofInt (workers * batchSize)).isSome && clamped fl p rps ≠ .fin 0)

/-- The rate is above the ceiling, so that there is a warning. -/
def exceeds (p : Pipeline) (workers batchSize : Int) (rps : Double) : Bool :=
  (fl.mul (ceilingOf fl p workers batchSize rps) (fl.round (102 / 100))).lt rps

/-- The batch size fits into a float and is not zero, and the number of batches is finite. -/
def needComputes (p : Pipeline) (batchSize : Int) (rps : Double) : Bool :=
  (fl.ofInt batchSize).isSome &&
    (operand fl batchSize ≠ .fin 0 &&
      isFinite (quotient fl (fl.mul rps (flushTime fl p rps)) (operand fl batchSize)))

/-- The reachability check gets through this rate. -/
def rateComputes (p : Pipeline) (workers batchSize : Int) (rps : Double) : Bool :=
  ceilingComputes fl p workers batchSize rps &&
    (!exceeds fl p workers batchSize rps || needComputes fl p batchSize rps)

/-- What is left after the last check: the pipeline, the rates of the plan, the description, and the
interval between checkpoints. -/
def restComputes (gen prof : Value) (merged : Items) : Bool :=
  pipelineConverts fl gen &&
    (((rawPlan (prof.field "steps" .none) merged).all fun raw =>
        rateComputes fl (pipelineOf fl gen) (intValue fl merged "workers" 8)
          (intValue fl merged "batch_size" 100) (raw.1.asFloat fl)) &&
      ((prof.field "description" (.str "")).hasText fl &&
        ((prof.field "checkpoint_interval_seconds" (.int 0)).orElse (.int 0)).isFloat fl))

/-! ## All of them -/

/-- The expanded document. -/
def rawOf (environ : String → Option String) (doc : Value) : Value :=
  (document environ doc).toOption.getD .none

/-- The generator's section of an expanded document. -/
def genOf (raw : Value) : Value := raw.field "generator" .none

/-- The profile of an expanded document. -/
def profOf (raw : Value) (profile : String) : Value := (raw.part "profiles").part profile

/-- The overlaid workload. -/
def mergedOf (raw : Value) (profile : String) (overrides : Items) : Items :=
  let base := ((genOf raw).part "workload").toDict.toOption.getD []
  merge (merge base ((profOf raw profile).part "workload").entries) (givenFlags overrides)

/-- The readings of `load`, in its order. -/
def readings (environ : String → Option String) (doc : Value) (profile : String)
    (overrides : Items) : List Verdict :=
  let raw := rawOf environ doc
  let gen := genOf raw
  let prof := profOf raw profile
  let merged := mergedOf raw profile overrides
  [crashUnless (doc.orElse (.dict [])).ends,
   crashUnless raw.isMapping,
   reportUnless gen.isMapping,
   profileVerdict (raw.part "profiles") profile,
   crashUnless prof.isMapping,
   crashUnless (gen.part "workload").toDict.toOption.isSome,
   crashUnless (prof.part "workload").isMapping] ++
  targetReadings fl gen ++ authReadings fl gen ++ workloadReadings fl merged ++
  planReadings fl (prof.field "steps" .none) ++ [crashUnless (restComputes fl gen prof merged)]

end Readings

end AnalyticsTesting.Config
