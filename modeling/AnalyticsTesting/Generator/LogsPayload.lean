import AnalyticsTesting.Generator.WireSize

set_option autoImplicit false

/-! # The generic payload

The records of `generator/src/payload.py`. Like in `WireSize.lean`, what a record draws from the
seeded stream and the configured data is a structure of its own; unlike there, `_kv` keeps integers,
floats and booleans as they are. -/

namespace AnalyticsTesting.Generator

/-- What `_model_attributes` draws, with the costs rounded to eight places. -/
structure ModelDraw where
  model : String
  inputTokens : Int
  outputTokens : Int
  requestUsd : ℚ
  responseUsd : ℚ
  totalUsd : ℚ

/-- `_model_attributes` where `model_traffic` is enabled. -/
def ModelDraw.attributes (m : ModelDraw) : List KeyValue :=
  [kv "gen_ai.request.model" m.model,
    ⟨"gen_ai.usage.input_tokens", .intValue m.inputTokens⟩,
    ⟨"gen_ai.usage.output_tokens", .intValue m.outputTokens⟩,
    ⟨"gen_ai.usage.total_tokens", .intValue (m.inputTokens + m.outputTokens)⟩,
    ⟨"gen_ai.cost.request_usd", .doubleValue m.requestUsd⟩,
    ⟨"gen_ai.cost.response_usd", .doubleValue m.responseUsd⟩,
    ⟨"gen_ai.cost.total_usd", .doubleValue m.totalUsd⟩]

/-- What a record draws. -/
structure LogsDraw where
  severity : String
  status : Int
  latencyMs : Int
  method : String
  /-- `items`, `query` or `batch`. -/
  resource : String
  requestId : String
  /-- Without `model_traffic` there is none. -/
  model : Option ModelDraw
  body : String
  traceId : List UInt8
  spanId : List UInt8

/-- `_build_record`. -/
def logsRecord (genId service : String) (d : LogsDraw) : LogRecord where
  timeUnixNano := 0
  observedTimeUnixNano := 0
  severityNumber := severityNumber d.severity
  severityText := d.severity
  body := d.body
  traceId := d.traceId
  spanId := d.spanId
  flags := 1
  attributes :=
    [⟨"bench.seq", .intValue 0⟩, kv "bench.gen_id" genId,
      ⟨"http.response.status_code", .intValue d.status⟩, kv "http.request.method" d.method,
      kv "http.route" ("/v1/" ++ service ++ "/" ++ d.resource), kv "request.id" d.requestId,
      ⟨"duration_ms", .intValue d.latencyMs⟩, ⟨"error", .boolValue (400 ≤ d.status)⟩] ++
    (d.model.map ModelDraw.attributes).getD []

variable {ρ : Type}

/-- What a factory is configured with: the stream, the choices for a template (service,
environment, region) and the values of a record. -/
structure LogsData (ρ : Type) where
  newRng : Int → ρ
  choose : ρ → (String × String × String) × ρ
  tenantId : String
  workspaceId : String
  draw : String → ρ → LogsDraw × ρ

/-- The attributes of the resource and the records of `_build_template`. -/
def logsContent (genId : String) (data : LogsData ρ) : Content ρ where
  newRng := data.newRng
  resource _ rng :=
    let ((service, environment, region), rng) := data.choose rng
    (([kv "service.name" service, kv "deployment.environment" environment,
        kv "cloud.region" region, kv "tenant.id" data.tenantId,
        kv "workspace.id" data.workspaceId, kv "bench.gen_id" genId], service), rng)
  record _ service rng :=
    let (d, rng) := data.draw service rng
    (logsRecord genId service d, rng)
  scopeName := "analytics-distributed-test"
  scopeVersion := "1.0.0"
  byteSize := byteSize

end AnalyticsTesting.Generator
