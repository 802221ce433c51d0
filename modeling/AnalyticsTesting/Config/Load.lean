import AnalyticsTesting.Config.Value

set_option autoImplicit false

/-! # Loading a configuration

`generator/src/config.py`: one YAML document, a profile of it overlaid on the generator's defaults,
command-line flags overlaid on top, everything validated up front. Reading the file and parsing the
YAML is left out: `load` starts from the parsed document. The environment is a parameter, and so is
the number format (`FloatFormat`). An integer has no text if it is too long (`Key.repr`), so `str`
and the texts of errors may raise. -/

namespace AnalyticsTesting.Config

/-! ## `${VAR}` expansion -/

/-- `[A-Za-z_]`. -/
def isNameStart (c : Char) : Bool := ('A' ≤ c && c ≤ 'Z') || ('a' ≤ c && c ≤ 'z') || c == '_'

/-- `[A-Za-z0-9_]`. -/
def isNameChar (c : Char) : Bool := isNameStart c || ('0' ≤ c && c ≤ '9')

/-- What follows `$` in a match of `_ENV_RE`: the name in braces, and the rest of the text. -/
def bracedName : List Char → Option (List Char × List Char)
  | '\x7b' :: c :: rest =>
      if isNameStart c then
        match rest.dropWhile isNameChar with
        | '\x7d' :: rest' => some (c :: rest.takeWhile isNameChar, rest')
        | _ => none
      else none
  | _ => none

/-- `_ENV_RE.sub(…, text)`: a variable that is not set keeps its text. `fuel` bounds the number of
    characters read. -/
def expandChars (environ : String → Option String) : Nat → List Char → List Char
  | 0, s => s
  | _ + 1, [] => []
  | fuel + 1, c :: rest =>
      match (if c = '$' then bracedName rest else none) with
      | some (name, rest') =>
          let text := match environ (String.ofList name) with
            | some value => value.toList
            | none => ['$', '\x7b'] ++ name ++ ['\x7d']
          text ++ expandChars environ fuel rest'
      | none => c :: expandChars environ fuel rest

mutual

/-- The recursion of `_expand` comes to an end. Tuples and sets are not gone into. -/
def Value.ends : Value → Bool
  | .dict items => endsItems items
  | .list xs => endsList xs
  | .endless _ => false
  | _ => true

def endsList : List Value → Bool
  | [] => true
  | v :: vs => v.ends && endsList vs

def endsItems : Items → Bool
  | [] => true
  | (_, v) :: rest => v.ends && endsItems rest

end

mutual

/-- What `_expand` returns. -/
def expand (environ : String → Option String) : Value → Value
  | .str s => .str (String.ofList (expandChars environ s.length s.toList))
  | .dict items => .dict (expandItems environ items)
  | .list xs => .list (expandList environ xs)
  | v => v

def expandList (environ : String → Option String) : List Value → List Value
  | [] => []
  | v :: vs => expand environ v :: expandList environ vs

def expandItems (environ : String → Option String) : Items → Items
  | [] => []
  | (k, v) :: rest => (k, expand environ v) :: expandItems environ rest

end

/-- `_expand(doc)`. -/
def expandAll (environ : String → Option String) (doc : Value) : Py Value :=
  if doc.ends then .ok (expand environ doc) else raise .recursionError

/-! ## Overlay -/

mutual

/-- What `_merge` stores for one value of the upper dict, where `out` has `old` under its key. -/
def mergeValue (old : Option Value) : Value → Value
  | .dict upper =>
      match old with
      | some (.dict base) => .dict (merge base upper)
      | _ => .dict upper
  | v => v

/-- `_merge(base, over)` on dicts. -/
def merge (out : Items) : Items → Items
  | [] => out
  | entry :: rest => merge (mergeEntry out entry) rest

def mergeEntry (out : Items) : Key × Value → Items
  | (k, v) => out.set k (mergeValue (out.lookup k.id) v)

end

/-- `_merge(base, over)`; its `over` is `upper` here. -/
def mergeObjects (base upper : Value) : Py Items := do
  return merge (← base.toDict) (← upper.items)

/-! ## The configuration -/

/-- `Step`. -/
structure Step where
  index : Nat
  rps : Double
  durationSeconds : Double
  deriving DecidableEq

/-- `Target`. -/
structure Target where
  host : String
  port : Int
  tls : Bool
  rpcTimeoutSeconds : Double

/-- `Auth`. -/
structure Auth where
  secretB64 : String
  ingestionQueue : String
  subject : String
  tokenTtlSeconds : Int

/-- `Workload`. -/
structure Workload where
  targetRps : Double
  durationSeconds : Double
  rampUpSeconds : Double
  rampDownSeconds : Double
  workers : Int
  channels : Int
  batchSize : Int
  maxInflight : Int
  retryMode : String
  abortOnConsecutiveFailures : Int

/-- `Pipeline`. -/
structure Pipeline where
  maxDelayMs : Double
  minBucketSize : Int
  approxRecordBytes : Int

/-- `GeneratorConfig`. -/
structure GeneratorConfig where
  profile : String
  description : String
  target : Target
  auth : Auth
  workload : Workload
  steps : List Step
  data : Value
  output : Value
  stopWhen : Value
  fault : Value
  checkpointIntervalSeconds : Double
  pipeline : Pipeline
  warnings : List String

section Load

variable (fl : FloatFormat)

/-- A float operation on an integer operand. -/
def intOperand (n : Int) : Py Double := orRaise .overflowError (fl.ofInt n)

/-- `x / y`. -/
def divide (x y : Double) : Py Double := orRaise .zeroDivisionError (fl.div x y)

/-- `min(x, y)` and `max(x, y)` of floats: the first one unless the second is better. -/
def pyMin (x y : Double) : Double := if y.lt x then y else x

def pyMax (x y : Double) : Double := if x.lt y then y else x

namespace Pipeline

/-- `flush_seconds`. -/
def flushSeconds (p : Pipeline) (offeredRps : Double) : Py Double := do
  let delay ← divide fl p.maxDelayMs (.fin 1000)
  if offeredRps.le (.fin 0) then return delay
  let bytesPerSecond := fl.mul offeredRps (← intOperand fl p.approxRecordBytes)
  let secondsToFill ← divide fl (← intOperand fl p.minBucketSize) bytesPerSecond
  return pyMin delay secondsToFill

/-- `max_reachable_rps`. -/
def maxReachableRps (p : Pipeline) (workers batchSize : Int) (offeredRps : Double) :
    Py Double := do
  let flush ← p.flushSeconds fl offeredRps
  divide fl (← intOperand fl (workers * batchSize)) (pyMax (fl.round (1 / 10 ^ 9)) flush)

end Pipeline

/-- `_require`. -/
def require (mapping : Value) (key path : String) : Py Value := do
  let missing : Py Value :=
    raise (.configError (path ++ "." ++ key ++ " is required but missing or empty"))
  if !(← mapping.contains key) then missing
  else
    match ← mapping.getItem key with
    | .none => missing
    | .str "" => missing
    | v => return v

/-- The text of the number that `float` makes of a value. -/
def numberText (value : Value) (num : Double) : String :=
  if num = .fin 0 && value.hasMinus then "-0.0" else PyNumber.reprFloat fl num

/-- `_positive`. -/
def positive (value : Value) (path : String) (allowZero : Bool) : Py Double :=
  let check (num : Double) : Py Double :=
    if num.lt (.fin 0) || (num = .fin 0 && !allowZero) then
      raise (.configError (path ++ " must be > 0, got " ++ numberText fl value num))
    else .ok num
  match value.toFloat fl with
  | .ok num => check num
  | .error e =>
      if e = .typeError ∨ e = .valueError then do
        let got ← value.repr fl
        raise (.configError (path ++ " must be a number, got " ++ got))
      else raise e

/-- One of the fields of `Workload` that are numbers: `_positive(workload.get(key, default), …)`. -/
def workloadNumber (workload : Items) (key : String) (default : Int) (allowZero : Bool) :
    Py Double :=
  positive fl ((workload.lookup (.str key)).getD (.int default)) ("workload." ++ key) allowZero

/-- One of those that are integers: the number is checked first and then truncated. -/
def workloadInt (workload : Items) (key : String) (default : Int) : Py Int := do
  Value.floatToInt (← workloadNumber fl workload key default false)

/-- The document after `_expand`. -/
def document (environ : String → Option String) (doc : Value) : Py Value :=
  expandAll environ (doc.orElse (.dict []))

/-- `gen`. -/
def generatorSection (path : String) (raw : Value) : Py Value := do
  match ← raw.get "generator" .none with
  | .dict items => return .dict items
  | _ => raise (.configError (path ++ ": missing top-level 'generator' mapping"))

/-- `sorted(…)` and `", ".join(…)` of what a container holds; `TypeError` unless it is all text. -/
def joinSorted (v : Value) : Py String :=
  let names : Option (List String) := match v with
    | .dict items => items.mapM fun entry => match entry.1 with
        | .str s => some s
        | _ => none
    | .set elements => elements.mapM fun k => match k with
        | .str s => some s
        | _ => none
    | .list xs => xs.mapM fun x => match x with
        | .str s => some s
        | _ => none
    | .str s => some (s.toList.map String.singleton)
    | _ => none
  (orRaise .typeError names).map fun names =>
    ", ".intercalate (names.mergeSort fun a b => decide (a ≤ b))

/-- `prof`. -/
def profileSection (raw : Value) (profile : String) : Py Value := do
  let profiles := (← raw.get "profiles" .none).orElse (.dict [])
  if !(← profiles.contains profile) then
    let known ← joinSorted profiles
    raise (.configError ("unknown profile " ++ reprStr profile ++ "; available: " ++
      if known = "" then "(none defined)" else known))
  else return (← profiles.getItem profile).orElse (.dict [])

/-- `workload`: the defaults, overlaid by the profile, overlaid by the flags that are given. -/
def mergedWorkload (gen prof : Value) (overrides : Items) : Py Items := do
  let base := (← gen.get "workload" .none).orElse (.dict [])
  let upper := (← prof.get "workload" .none).orElse (.dict [])
  let workload ← mergeObjects base upper
  return merge workload (overrides.filter fun entry => match entry.2 with
    | .none => false
    | _ => true)

/-- `"${" in text`. -/
def unexpanded (text : String) : Bool := Value.hasSubstring ['$', '\x7b'] text.toList

/-- `target`. -/
def loadTarget (gen : Value) : Py Target := do
  let tgt := (← gen.get "target" .none).orElse (.dict [])
  let host ← (← require tgt "host" "generator.target").toStr fl
  let port ← (← require tgt "port" "generator.target").toInt
  let tls := (← tgt.get "tls" (.bool false)).truthy
  let rpcTimeoutSeconds ← positive fl (← tgt.get "rpc_timeout_seconds" (.int 60))
    "generator.target.rpc_timeout_seconds" false
  if unexpanded host then
    raise (.configError ("generator.target.host did not expand: " ++ reprStr host ++
      " — is COLLECTOR_HOST set in .env?"))
  else return { host, port, tls, rpcTimeoutSeconds }

/-- `auth`. -/
def loadAuth (gen : Value) : Py Auth := do
  let au := (← gen.get "auth" .none).orElse (.dict [])
  let secretB64 ← (← require au "secret_b64" "generator.auth").toStr fl
  if unexpanded secretB64 then
    raise (.configError
      "generator.auth.secret_b64 did not expand — run scripts/gen-secret.sh")
  else
    let ingestionQueue ← (← require au "ingestion_queue" "generator.auth").toStr fl
    let subject ← (← au.get "subject" (.str "bench-generator")).toStr fl
    let tokenTtlSeconds ← (← au.get "token_ttl_seconds" (.int 3600)).toInt
    return { secretB64, ingestionQueue, subject, tokenTtlSeconds }

/-- `text.lower()`, for the letters of ASCII. -/
def lower (text : String) : String := String.ofList (text.toList.map Char.toLower)

/-- `retry_mode`. -/
def loadRetryMode (workload : Items) : Py String := do
  let mode := lower (← ((workload.lookup (.str "retry_mode")).getD (.str "none")).toStr fl)
  if mode = "none" ∨ mode = "polite" then return mode
  else raise (.configError ("workload.retry_mode must be 'none' or 'polite', got " ++
    reprStr mode))

/-- `wl`. -/
def loadWorkload (workload : Items) : Py Workload := do
  let retryMode ← loadRetryMode fl workload
  let targetRps ← workloadNumber fl workload "target_rps" 0 false
  let durationSeconds ← workloadNumber fl workload "duration_seconds" 60 false
  let rampUpSeconds ← workloadNumber fl workload "ramp_up_seconds" 0 true
  let rampDownSeconds ← workloadNumber fl workload "ramp_down_seconds" 0 true
  let workers ← workloadInt fl workload "workers" 8
  let channels ← workloadInt fl workload "channels" 1
  let batchSize ← workloadInt fl workload "batch_size" 100
  let maxInflight ← workloadInt fl workload "max_inflight" 64
  let abortOnConsecutiveFailures ←
    (((workload.lookup (.str "abort_on_consecutive_failures")).getD (.int 0)).orElse
      (.int 0)).toInt
  if maxInflight < workers then
    raise (.configError ("workload.workers (" ++ toString workers ++ ") exceeds max_inflight (" ++
      toString maxInflight ++ "); the inflight bound would never be observable"))
  else return { targetRps, durationSeconds, rampUpSeconds, rampDownSeconds, workers, channels,
                batchSize, maxInflight, retryMode, abortOnConsecutiveFailures }

/-- One entry of a staircase. -/
def buildStep (i : Nat) (s : Value) : Py Step := do
  let path := "profiles.steps[" ++ toString i ++ "]"
  let rps ← positive fl (← s.get "rps" .none) (path ++ ".rps") false
  let durationSeconds ← positive fl (← s.get "duration_seconds" .none)
    (path ++ ".duration_seconds") false
  return { index := i, rps, durationSeconds }

/-- The loop of `_build_steps`. -/
def buildStepsFrom : Nat → List Value → Py (List Step)
  | _, [] => .ok []
  | i, s :: rest => do
      let step ← buildStep fl i s
      let steps ← buildStepsFrom (i + 1) rest
      return step :: steps

/-- `_build_steps`. -/
def buildSteps (rawSteps : Value) (wl : Workload) : Py (List Step) := do
  if !rawSteps.truthy then
    return [{ index := 0, rps := wl.targetRps, durationSeconds := wl.durationSeconds }]
  else buildStepsFrom fl 0 (← rawSteps.iterate)

/-- `pipeline`. -/
def loadPipeline (gen : Value) : Py Pipeline := do
  let pl := (← gen.get "pipeline" .none).orElse (.dict [])
  let data := (← gen.get "data" .none).orElse (.dict [])
  let maxDelayMs ← (← pl.get "max_delay_ms" (.int 5000)).toFloat fl
  let minBucketSize ← (← pl.get "min_bucket_size" (.int 16777216)).toInt
  -- the default is computed whether it is needed or not
  let bodyBytes ← (← data.get "body_bytes" (.int 256)).addInt fl 250
  let approxRecordBytes ← (← pl.get "approx_record_bytes" bodyBytes).toInt
  return { maxDelayMs, minBucketSize, approxRecordBytes }

/-- `math.ceil(x)`. -/
def ceil (x : Double) : Py Int :=
  match x with
  | .nan => raise .valueError
  | .inf _ => raise .overflowError
  | .fin q => .ok q.ceil

/-- The text of a reachability warning. -/
def unreachableText (step : Step) (wl : Workload) (ceiling flush : Double) (need : Int) : String :=
  "step " ++ toString step.index ++ ": target " ++ PyNumber.formatFloat step.rps 0 ++
    " rec/s is above the reachable ceiling of " ++ PyNumber.formatFloat ceiling 0 ++
    " rec/s. The export RPC blocks until the batch is durable, and at this rate a bucket takes " ++
    PyNumber.formatPlain flush 1 ++ "s to flush, so " ++ toString wl.workers ++ " workers x " ++
    toString wl.batchSize ++ " records can only deliver " ++ PyNumber.formatFloat ceiling 0 ++
    "/s. Raise workers to >= " ++ toString need ++
    " (and max_inflight with it), or raise batch_size."

/-- One turn of the reachability check. -/
def stepWarning (pipeline : Pipeline) (wl : Workload) (step : Step) : Py (Option String) := do
  let ceiling ← pipeline.maxReachableRps fl wl.workers wl.batchSize step.rps
  if (fl.mul ceiling (fl.round (102 / 100))).lt step.rps then
    let flush ← pipeline.flushSeconds fl step.rps
    let batches ← divide fl (fl.mul step.rps flush) (← intOperand fl wl.batchSize)
    let need ← ceil batches
    return some (unreachableText step wl ceiling flush need)
  else return none

/-- The reachability check: the warnings, in the order of the steps. -/
def loadWarnings (pipeline : Pipeline) (wl : Workload) : List Step → Py (List String)
  | [] => .ok []
  | step :: rest => do
      let warning ← stepWarning fl pipeline wl step
      -- a `break` the earlier check makes unreachable
      if wl.maxInflight < wl.workers then return warning.toList
      else
        let warnings ← loadWarnings pipeline wl rest
        return warning.toList ++ warnings

/-- `load`, from the parsed document on. -/
def load (environ : String → Option String) (path : String) (doc : Value) (profile : String)
    (overrides : Items) : Py GeneratorConfig := do
  let raw ← document environ doc
  let gen ← generatorSection path raw
  let prof ← profileSection raw profile
  let merged ← mergedWorkload gen prof overrides
  let target ← loadTarget fl gen
  let auth ← loadAuth fl gen
  let wl ← loadWorkload fl merged
  let steps ← buildSteps fl (← prof.get "steps" .none) wl
  let pipeline ← loadPipeline fl gen
  let warnings ← loadWarnings fl pipeline wl steps
  let description ← (← prof.get "description" (.str "")).toStr fl
  let checkpointIntervalSeconds ←
    ((← prof.get "checkpoint_interval_seconds" (.int 0)).orElse (.int 0)).toFloat fl
  return {
    profile
    description := String.ofList (PyNumber.strip description.toList)
    target
    auth
    workload := wl
    steps
    data := (← gen.get "data" .none).orElse (.dict [])
    output := (← gen.get "output" .none).orElse (.dict [])
    stopWhen := (← prof.get "stop_when" .none).orElse (.dict [])
    fault := (← prof.get "fault" .none).orElse (.dict [])
    checkpointIntervalSeconds
    pipeline
    warnings }

/-- How `main` comes out of its `try`: with a configuration or with an exit code. -/
inductive Startup
  | runs (cfg : GeneratorConfig)
  | exits (code : Nat)

/-- The `try` of `main`: only a `ConfigError` is caught. -/
def startup (environ : String → Option String) (path : String) (doc : Value) (profile : String)
    (overrides : Items) : Py Startup :=
  match load fl environ path doc profile overrides with
  | .ok cfg => .ok (.runs cfg)
  | .error (.configError _) => .ok (.exits 2)
  | .error e => raise e

/-- The head of `run_step` on the numbers `load` returns: how long one batch may take. -/
def batchInterval (rps : Double) (batchSize : Int) : Py Double := do
  let batchesPerSecond ← divide fl rps (← intOperand fl batchSize)
  if batchesPerSecond.le (.fin 0) then raise .valueError
  else divide fl (.fin 1) batchesPerSecond

end Load

/-! ## A document to run examples with -/

/-- An entry with a text key. -/
def entry (key : String) (value : Value) : Key × Value := (.str key, value)

/-- The shortest document with this workload, and this profile under the name `smoke`. -/
def smallDocument (workload profile : Items) : Value :=
  .dict
    [entry "generator" (.dict
      [entry "target" (.dict [entry "host" (.str "10.0.0.1"), entry "port" (.int 4317)]),
       entry "auth"
         (.dict [entry "secret_b64" (.str "AAAA"), entry "ingestion_queue" (.str "logs")]),
       entry "workload" (.dict workload)]),
     entry "profiles" (.dict [entry "smoke" (.dict profile)])]

/-- `load` of such a document, in an empty environment. -/
def loadSmall (workload profile overrides : Items) : Py GeneratorConfig :=
  load .binary64 (fun _ => none) "generator.yaml" (smallDocument workload profile) "smoke" overrides

theorem exists_ok_of_any {α : Type} {x : Py α} {P : α → Bool} (h : x.toOption.any P = true) :
    ∃ a, x = .ok a ∧ P a = true := by
  cases x with
  | error e => simp [Except.toOption] at h
  | ok a => exact ⟨a, rfl, by simpa [Except.toOption] using h⟩

theorem exists_of_loadSmall (workload profile overrides : Items) {P : GeneratorConfig → Bool}
    (h : (loadSmall workload profile overrides).toOption.any P = true) :
    ∃ cfg, loadSmall workload profile overrides = .ok cfg ∧ P cfg = true :=
  exists_ok_of_any h

end AnalyticsTesting.Config
