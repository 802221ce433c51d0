import AnalyticsTesting.Generator.LogsPayload
import AnalyticsTesting.Lib.RoundedChoices
import AnalyticsTesting.Lib.PyDict
import AnalyticsTesting.Lib.Sampler

set_option autoImplicit false

/-! # What a record draws

The functions of `generator/src/payload.py` that fill a record from the seeded stream and the
configured data: `_weighted`, `_sample_latency`, `_model_attributes`, `_build_body` and the draws of
`_build_record` and `_build_template`, in the order in which the source makes them. `random.Random`
is given by what it returns (`Rng`); numbers are exact rationals, but for the weights that `choices`
adds up (`weightedIn`), and the constants `random()` is compared with are the doubles of the
source. -/

namespace AnalyticsTesting.Generator

/-! ## `random.Random` -/

/-- The stream of a `random.Random`: what its methods return, and the state after it. -/
structure Rng (ρ : Type) where
  /-- `random.Random(seed)`. -/
  newRng : Int → ρ
  /-- `random()`, which returns `k / 2 ** 53`. -/
  random : ρ → Fin (2 ^ 53) × ρ
  /-- `_randbelow(n + 1)`. -/
  below (n : Nat) : ρ → Fin (n + 1) × ρ
  /-- `getrandbits(k)`. -/
  bits (k : Nat) : ρ → Fin (2 ^ k) × ρ

namespace Rng

variable {ρ α : Type} (rng : Rng ρ)

/-- The number that `random()` returns for `k`. -/
def unit (k : Nat) : ℚ := k / 2 ^ 53

/-- `rng.random()`. -/
def rand : Sampler ρ ℚ := do
  let k ← Sampler.ofDraw rng.random
  return unit k

/-- `rng.choice(seq)`; an empty sequence raises `IndexError`. -/
def choice : List α → Sampler ρ α
  | [] => Sampler.raise
  | x :: rest => do
      let i ← Sampler.ofDraw (rng.below rest.length)
      return (x :: rest).get i

/-- `rng.randint(a, b)`; an empty range raises `ValueError`. -/
def randint (a b : Int) : Sampler ρ Int :=
  if b < a then Sampler.raise
  else do
    let i ← Sampler.ofDraw (rng.below (b - a).toNat)
    return a + i

/-- `rng.uniform(a, b)`. -/
def uniform (a b : ℚ) : Sampler ρ ℚ := do
  let u ← rng.rand
  return a + (b - a) * u

/-- `rng.getrandbits(k)`. -/
def getrandbits (k : Nat) : Sampler ρ Nat := do
  let n ← Sampler.ofDraw (rng.bits k)
  return n

end Rng

/-- `f"{n:0{width}x}"`. -/
def hexText (width n : Nat) : String := String.ofList ((Nat.toDigits 16 n).leftpad width '0')

/-- `n.to_bytes(length, "big")`. -/
def toBytesBig (length n : Nat) : List UInt8 :=
  (List.range length).map fun i => UInt8.ofNat (n >>> (8 * (length - 1 - i)))

/-- `int(x)`. -/
def truncate (x : ℚ) : Int := x.num.tdiv x.den

/-! ## The configured data -/

/-- `{"min": …, "max": …}`. -/
structure TokenRange where
  min : Int
  max : Int
  deriving DecidableEq

/-- A price for a million tokens. -/
structure Price where
  input : ℚ := 0
  output : ℚ := 0

/-- `data["model_traffic"]`; without it nothing is there. -/
structure ModelTraffic where
  enabled : Bool := false
  models : Option (List String) := none
  inputTokens : Option TokenRange := none
  outputTokens : Option TokenRange := none
  pricing : List (String × Price) := []

/-- The percentiles of `data["latency_ms"]`. -/
structure LatencySpec where
  p50 : ℚ
  p95 : ℚ
  p99 : ℚ
  max : ℚ

/-- `float(spec.get(key, default))` for each of them. -/
def LatencySpec.ofDict (spec : List (String × ℚ)) (default : LatencySpec) : LatencySpec where
  p50 := (PyDict.get spec "p50").getD default.p50
  p95 := (PyDict.get spec "p95").getD default.p95
  p99 := (PyDict.get spec "p99").getD default.p99
  max := (PyDict.get spec "max").getD default.max

/-- `generator.data`, as far as the payloads draw from it. A list or mapping that is not there is
empty; both fall back to the default, which the source writes with `or`. -/
structure DataConfig where
  serviceNames : List String := []
  environments : List String := []
  regions : List String := []
  tenantId : Option String := none
  workspaceId : Option String := none
  severityMix : List (String × ℚ) := []
  httpStatusMix : List (Int × ℚ) := []
  latencyMs : List (String × ℚ) := []
  modelTraffic : ModelTraffic := {}
  bodyBytes : Option Int := none
  mcpToolCallRatio : Option ℚ := none

/-- `xs or default`. -/
def orDefault {α : Type} (xs default : List α) : List α :=
  match xs with
  | [] => default
  | _ :: _ => xs

/-- `data.get("severity_mix") or {"INFO": 1.0}`. -/
def DataConfig.severities (data : DataConfig) : List (String × ℚ) :=
  orDefault data.severityMix [("INFO", 1)]

/-- `data.get("http_status_mix") or {200: 1.0}`. -/
def DataConfig.statuses (data : DataConfig) : List (Int × ℚ) :=
  orDefault data.httpStatusMix [(200, 1)]

/-! ## Drawing -/

variable {ρ α : Type}

/-- The sum of the weights of a mapping. -/
def totalWeight (mapping : List (α × ℚ)) : ℚ := (mapping.map Prod.snd).sum

/-- The key of a mapping that `_weighted` draws where `random()` returns `u`. -/
def keyAt (fl : FloatFormat) (mapping : List (α × ℚ)) (u : ℚ) : Option α :=
  (Choices.chooseIn fl (mapping.map Prod.snd) u).bind fun i => (mapping.map Prod.fst)[i]?

/-- `_weighted`. The weights are what `float()` returns; `choices` adds them up in `fl`. -/
def weightedIn (fl : FloatFormat) (rng : Rng ρ) (mapping : List (α × ℚ)) : Sampler ρ α := do
  let u ← rng.rand
  match keyAt fl mapping u with
  | none => Sampler.raise
  | some key => return key

/-- `_weighted` in exact arithmetic. -/
def weighted (rng : Rng ρ) (mapping : List (α × ℚ)) : Sampler ρ α := weightedIn .exact rng mapping

/-- The double `0.95`. -/
def double095 : ℚ := 8556839292003942 / 2 ^ 53

/-- The double `0.99`. -/
def double099 : ℚ := 8917127262193582 / 2 ^ 53

/-- The two ends `uniform` is called with where `random()` returns `u`. -/
def LatencySpec.tier (spec : LatencySpec) (u : ℚ) : ℚ × ℚ :=
  if u < 1 / 2 then (1, spec.p50)
  else if u < double095 then (spec.p50, spec.p95)
  else if u < double099 then (spec.p95, spec.p99)
  else (spec.p99, spec.max)

/-- The milliseconds drawn for a latency. -/
def LatencySpec.sample (rng : Rng ρ) (spec : LatencySpec) : Sampler ρ ℚ := do
  let u ← rng.rand
  rng.uniform (spec.tier u).1 (spec.tier u).2

/-- The defaults of `payload.py`. -/
def DataConfig.logsLatency (data : DataConfig) : LatencySpec :=
  .ofDict data.latencyMs { p50 := 100, p95 := 500, p99 := 1500, max := 10000 }

/-- `_sample_latency`. -/
def sampleLatency (rng : Rng ρ) (data : DataConfig) : Sampler ρ Int := do
  let ms ← data.logsLatency.sample rng
  return truncate ms

/-- `cfg.get("models") or ["unknown-model"]`. -/
def ModelTraffic.logsModels (cfg : ModelTraffic) : List String :=
  orDefault (cfg.models.getD []) ["unknown-model"]

/-- `cfg.get("input_tokens") or {"min": 100, "max": 4000}`. -/
def ModelTraffic.logsInput (cfg : ModelTraffic) : TokenRange := cfg.inputTokens.getD ⟨100, 4000⟩

/-- `cfg.get("output_tokens") or {"min": 20, "max": 1000}`. -/
def ModelTraffic.logsOutput (cfg : ModelTraffic) : TokenRange := cfg.outputTokens.getD ⟨20, 1000⟩

/-- `(cfg.get("pricing") or {}).get(model) or {}`, with the rates that default to zero. -/
def ModelTraffic.price (cfg : ModelTraffic) (model : String) : Price :=
  (PyDict.get cfg.pricing model).getD {}

/-- What `_model_attributes` derives from the model and the tokens it drew. -/
def ModelTraffic.modelDraw (cfg : ModelTraffic) (model : String) (inputTokens outputTokens : Int) :
    ModelDraw :=
  let requestCost : ℚ := inputTokens / 1000000 * (cfg.price model).input
  let responseCost : ℚ := outputTokens / 1000000 * (cfg.price model).output
  { model, inputTokens, outputTokens
    requestUsd := roundDigits requestCost 8
    responseUsd := roundDigits responseCost 8
    totalUsd := roundDigits (requestCost + responseCost) 8 }

/-- `_model_attributes`. -/
def modelAttributes (rng : Rng ρ) (cfg : ModelTraffic) : Sampler ρ (Option ModelDraw) :=
  if cfg.enabled then do
    let model ← rng.choice cfg.logsModels
    let inputTokens ← rng.randint cfg.logsInput.min cfg.logsInput.max
    let outputTokens ← rng.randint cfg.logsOutput.min cfg.logsOutput.max
    return some (cfg.modelDraw model inputTokens outputTokens)
  else return none

/-- `_LOREM`. -/
def lorem : List String :=
  ["request completed", "cache miss on key", "upstream latency elevated",
    "retrying downstream call", "token budget consumed", "payload validated",
    "connection pool checkout", "rate limit bucket refilled",
    "model inference finished", "streamed response flushed"]

/-- The digits a text is padded with. -/
def hexDigits : List Char := "0123456789abcdef".toList

/-- `head`, padded with random digits to `target` characters. -/
def padTo (rng : Rng ρ) (head : String) (target : Int) : Sampler ρ String :=
  let padLen := (target - head.length - 1).toNat
  if padLen = 0 then return head
  else do
    let pad ← (rng.choice hexDigits).replicate padLen
    return head ++ " " ++ String.ofList pad

/-- `int(data.get("body_bytes", 256))`. -/
def DataConfig.targetBytes (data : DataConfig) : Int := data.bodyBytes.getD 256

/-- `_build_body`. -/
def buildBody (rng : Rng ρ) (data : DataConfig) : Sampler ρ String := do
  let head ← rng.choice lorem
  padTo rng head data.targetBytes

/-- The draws of `_build_record`. -/
def buildRecord (rng : Rng ρ) (data : DataConfig) : Sampler ρ LogsDraw := do
  let severity ← weighted rng data.severities
  let status ← weighted rng data.statuses
  let latencyMs ← sampleLatency rng data
  let method ← rng.choice ["GET", "POST", "PUT", "DELETE"]
  let resource ← rng.choice ["items", "query", "batch"]
  let requestId ← rng.getrandbits 64
  let model ← modelAttributes rng data.modelTraffic
  let body ← buildBody rng data
  let traceId ← rng.getrandbits 128
  let spanId ← rng.getrandbits 64
  return { severity, status, latencyMs, method, resource, requestId := hexText 16 requestId, model,
           body, traceId := toBytesBig 16 traceId, spanId := toBytesBig 8 spanId }

/-- `data.get("regions") or ["us-west-2"]`. -/
def DataConfig.regionNames (data : DataConfig) : List String := orDefault data.regions ["us-west-2"]

/-- The service, the environment and the region that `_build_template` draws. -/
def chooseResource (rng : Rng ρ) (data : DataConfig) : Sampler ρ (String × String × String) := do
  let service ← rng.choice (orDefault data.serviceNames ["service"])
  let environment ← rng.choice (orDefault data.environments ["prod"])
  let region ← rng.choice data.regionNames
  return (service, environment, region)

end AnalyticsTesting.Generator
