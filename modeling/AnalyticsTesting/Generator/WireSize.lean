import AnalyticsTesting.Lib.Protobuf
import AnalyticsTesting.Lib.Rounding
import AnalyticsTesting.Generator.Payload

set_option autoImplicit false

/-! # The ai_txn payload and its size on the wire

`generator/src/payload_ai_txn.py`: the records of `_build_record`, the factory, and the guard of
`main.py` against batches that gRPC refuses. What a record draws from the seeded stream and the
configured data is `Draw`, as the text `_kv` makes of it; the order of the attributes and the
conditions under which they are there are the source's. `byteSize` is protobuf's `ByteSize` of the
messages in `Payload.lean`. -/

namespace AnalyticsTesting.Generator

open Protobuf

/-! ## `ByteSize` -/

/-- An int64 as a varint; a negative one takes ten bytes. -/
def int64Size (i : Int) : Nat := if i < 0 then 10 else varintSize i.toNat

/-- The members are a oneof, so the one that is set is there even if it is zero or empty. -/
def AnyValue.size : AnyValue → Nat
  | .boolValue _ => 2
  | .intValue i => 1 + int64Size i
  | .doubleValue _ => 9
  | .stringValue s => lenDelim s.utf8ByteSize

def KeyValue.size (kv : KeyValue) : Nat := bytesField kv.key.utf8ByteSize + lenDelim kv.value.size

def LogRecord.size (r : LogRecord) : Nat :=
  fixed64Field r.timeUnixNano + varintField r.severityNumber +
    bytesField r.severityText.utf8ByteSize + lenDelim (AnyValue.stringValue r.body).size +
    repeatedField (r.attributes.map KeyValue.size) + fixed32Field r.flags +
    bytesField r.traceId.length + bytesField r.spanId.length + fixed64Field r.observedTimeUnixNano

/-- The size of a request, given the sizes of its resource, its scope and its records. -/
def requestSize (resource scope : Nat) (records : List Nat) : Nat :=
  lenDelim (lenDelim resource + lenDelim (lenDelim scope + repeatedField records))

def resourceSize (request : ExportLogsServiceRequest) : Nat :=
  repeatedField (request.resource.map KeyValue.size)

def scopeSize (request : ExportLogsServiceRequest) : Nat :=
  bytesField request.scopeName.utf8ByteSize + bytesField request.scopeVersion.utf8ByteSize

/-- `request.ByteSize()`. -/
def byteSize (request : ExportLogsServiceRequest) : Nat :=
  requestSize (resourceSize request) (scopeSize request) (request.logRecords.map LogRecord.size)

/-! ## Records -/

/-- `_kv`. -/
def kv (key value : String) : KeyValue := ⟨key, .stringValue value⟩

/-- `_SEVERITY_NUMBER.get(name, SEVERITY_NUMBER_INFO)`. -/
def severityNumber (name : String) : Nat :=
  ([("TRACE", 1), ("DEBUG", 5), ("INFO", 9), ("WARN", 13), ("ERROR", 17), ("FATAL", 21)].lookup
    name).getD 9

/-- What a record draws, with the text of each value. -/
structure Draw where
  isMcp : Bool
  severity : String
  status : Int
  latency : String
  gatewayLatency : String
  model : String
  workspaceId : String
  userId : String
  vkeyId : String
  agentId : String
  modelId : String
  overallAction : String
  sourceIp : String
  sourcePort : String
  userAgent : String
  requestBytes : String
  requestId : String
  prompt : String
  responseBytes : String
  sse : Bool
  serviceTier : String
  tokenUsage : String
  stopReason : String
  ttft : String
  retryAfter : String
  remainingRequests : String
  remainingTokens : String
  fallback : Bool
  toolName : String
  serverName : String
  callSeq : String
  sessionId : String
  errorCode : String
  traceId : List UInt8
  spanId : List UInt8

def boolText (b : Bool) : String := if b then "true" else "false"

/-- The attributes after `snx.sequence_id`. -/
def Draw.rest (d : Draw) : List KeyValue :=
  [kv "snx.workspace_id" d.workspaceId, kv "snx.user_id" d.userId, kv "snx.vkey_id" d.vkeyId,
    kv "snx.agent_id" d.agentId, kv "snx.provider_id" "1", kv "snx.model_id" d.modelId,
    kv "snx.cfg_ver" "7", kv "snx.latency" d.latency, kv "snx.gateway_latency" d.gatewayLatency,
    kv "snx.overall_action" d.overallAction,
    kv "req.method" "POST", kv "req.domain" "api.anthropic.com", kv "req.path" "/v1/messages",
    kv "req.model" d.model, kv "req.source_ip" d.sourceIp, kv "req.source_port" d.sourcePort,
    kv "req.ua" d.userAgent, kv "req.dbytes" d.requestBytes, kv "req.an-reqid" d.requestId,
    kv "req.prompt" d.prompt,
    kv "res.status" (toString d.status), kv "res.dbytes" d.responseBytes,
    kv "res.c-type" "application/json", kv "res.sse" (boolText d.sse),
    kv "res.service_tier" d.serviceTier] ++
  (if !d.isMcp && 200 ≤ d.status && d.status < 300 then
    [kv "res.token_usage" d.tokenUsage, kv "llm.stop_reason" d.stopReason, kv "llm.ttft" d.ttft]
    else []) ++
  (if d.status = 429 then
    [kv "llm.retry_after" d.retryAfter, kv "llm.rl.limit_requests" "4000",
      kv "llm.rl.remaining_requests" d.remainingRequests, kv "res.an-rlit" "400000",
      kv "llm.rl.remaining_tokens" d.remainingTokens]
    else []) ++
  [kv "llm.user_prompt_suppressed" "false", kv "llm.fallback_triggered" (boolText d.fallback)] ++
  (if d.isMcp then
    [kv "mcp.tool.name" d.toolName, kv "mcp.server.name" d.serverName,
      kv "mcp.call_seq" d.callSeq, kv "mcp.session_id" d.sessionId] ++
    (if 400 ≤ d.status then [kv "mcp.tool.error_code" d.errorCode] else [])
    else [])

/-- `_build_record`. -/
def aiTxnRecord (genId : String) (d : Draw) : LogRecord where
  timeUnixNano := 0
  observedTimeUnixNano := 0
  severityNumber := severityNumber d.severity
  severityText := d.severity
  body := ""
  traceId := d.traceId
  spanId := d.spanId
  flags := 1
  attributes :=
    kv "bench.seq" "0" :: kv "bench.gen_id" genId ::
      kv "log_type" (if d.isMcp then "mcp_tool_call" else "http") ::
      kv "snx.sequence_id" "0" :: d.rest

/-! ## The factory -/

variable {ρ : Type}

/-- What an ai_txn factory is configured with: the stream, the region of a template and the values
of a record. -/
structure AiTxnData (ρ : Type) where
  newRng : Int → ρ
  region : ρ → String × ρ
  draw : Nat → ρ → Draw × ρ

/-- The attributes of the resource and the records of `_build_template`. -/
def aiTxnContent (genId : String) (data : AiTxnData ρ) : Content ρ where
  newRng := data.newRng
  resource customer rng :=
    let customerId := customer.getD 0
    let (region, rng) := data.region rng
    (([kv "customer_id" (toString customerId), kv "tenant_id" (toString customerId),
        kv "sgwe_id" (toString (customerId % 8 + 1)), kv "cloud.region" region,
        kv "service.name" "sentrinox-gateway-prod", kv "bench.gen_id" genId], ""), rng)
  record customer _ rng :=
    let (d, rng) := data.draw (customer.getD 0) rng
    (aiTxnRecord genId d, rng)
  scopeName := "sentrinox.llm.usage"
  scopeVersion := "0.1.0"
  byteSize := byteSize

/-- `AiTxnPayloadFactory.__init__`. -/
def aiTxnFactory (data : AiTxnData ρ) (genId : String) (seed : Int) (batchSize : Nat)
    (workers variantsPerWorker customers : Int) : Option (PayloadFactory BenchSnx) :=
  let customers := max 1 customers.toNat
  PayloadFactory.init BenchSnx (aiTxnContent genId data) genId seed batchSize workers
    variantsPerWorker fun i => some (i % customers + 1)

/-! ## The guard -/

/-- `GRPC_MAX_MESSAGE_BYTES`. -/
def grpcMaxMessageBytes : Nat := 4 * 1024 * 1024

/-- `approx_batch_bytes`. -/
def approxBatchBytes (f : PayloadFactory BenchSnx) : Nat :=
  (f.templates.map (·.approxBytes)).sum / f.templates.length

/-- `oversize_error`. -/
def oversizeError (f : PayloadFactory BenchSnx) : Option String :=
  let size := approxBatchBytes f
  if grpcMaxMessageBytes ≤ size then
    let per := size / max 1 f.batchSize
    let safe := grpcMaxMessageBytes * 3 / 4 / max 1 per
    some ("batch of " ++ toString f.batchSize ++ " records is ~" ++ formatInt size ++ " bytes (~" ++
      formatInt per ++ " B/record), over gRPC's " ++ formatInt grpcMaxMessageBytes ++
      " byte limit. Every batch would be rejected with RESOURCE_EXHAUSTED before reaching the " ++
      "collector. Set batch_size <= " ++ toString safe ++ " for this payload.")
  else none

end AnalyticsTesting.Generator
