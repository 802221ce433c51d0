import AnalyticsTesting.Generator.Draws
import AnalyticsTesting.Lib.PyJson
import AnalyticsTesting.Lib.PyNumber

set_option autoImplicit false

/-! # What an ai_txn record draws

The draws of `generator/src/payload_ai_txn.py`, from the stream and the data of `Draws.lean`: the
values of a record and the region of a template. A value that no branch of `_build_record` draws for
a record is left empty; the record does not have its attribute. -/

namespace AnalyticsTesting.Generator

variable {ρ : Type}

/-- `f"{x:.3f}"`. -/
def fixed3 (x : ℚ) : String := PyNumber.formatPlain (.fin x) 3

/-- The defaults of `payload_ai_txn.py`. -/
def DataConfig.txnLatency (data : DataConfig) : LatencySpec :=
  .ofDict data.latencyMs { p50 := 120, p95 := 800, p99 := 2500, max := 15000 }

/-- `_sample_latency_seconds`. -/
def sampleLatencySeconds (rng : Rng ρ) (data : DataConfig) : Sampler ρ ℚ := do
  let ms ← data.txnLatency.sample rng
  return ms / 1000

/-- `_build_prompt`. -/
def buildPrompt (rng : Rng ρ) (data : DataConfig) : Sampler ρ String :=
  padTo rng "Summarize the following document in three bullet points." data.targetBytes

/-- `(data.get("model_traffic") or {}).get("models", ["claude-opus-5"])`. -/
def ModelTraffic.txnModels (cfg : ModelTraffic) : List String :=
  cfg.models.getD ["claude-opus-5"]

/-- `… .get("input_tokens") or {"min": 100, "max": 8000}`. -/
def ModelTraffic.txnInput (cfg : ModelTraffic) : TokenRange := cfg.inputTokens.getD ⟨100, 8000⟩

/-- `… .get("output_tokens") or {"min": 20, "max": 2000}`. -/
def ModelTraffic.txnOutput (cfg : ModelTraffic) : TokenRange := cfg.outputTokens.getD ⟨20, 2000⟩

/-- `_STOP_REASONS`. -/
def stopReasons : List String :=
  ["[\"end_turn\"]", "[\"max_tokens\"]", "[\"stop_sequence\"]", "[\"tool_use\"]"]

/-- `_USER_AGENTS`. -/
def userAgents : List String :=
  ["anthropic-sdk-python/0.40.0", "anthropic-sdk-typescript/0.32.1", "openai-python/1.54.0",
    "langchain/0.3.7", "llamaindex/0.11.20"]

/-- `_MCP_TOOLS`. -/
def mcpTools : List String := ["read_file", "search_docs", "run_query", "fetch_url", "list_tables"]

/-- `_MCP_SERVERS`. -/
def mcpServers : List String := ["filesystem", "postgres", "web-search", "github"]

/-- The weights of `snx.overall_action`. -/
def overallActions : List (String × ℚ) :=
  [("PACT_ALLOW", 94 / 100), ("PACT_CAUTION", 5 / 100), ("PACT_BLOCK", 1 / 100)]

/-- The tokens of a call. -/
structure Usage where
  inputTokens : Int
  outputTokens : Int
  cacheCreation : Int
  cacheRead : Int

/-- `json.dumps(usage)`. -/
def Usage.text (u : Usage) : String :=
  String.ofList (PyJson.render (.obj [("input_tokens", .int u.inputTokens),
    ("output_tokens", .int u.outputTokens), ("cache_creation_input_tokens", .int u.cacheCreation),
    ("cache_read_input_tokens", .int u.cacheRead)]))

/-- `rng.randint(0, n) if rng.random() < p else 0`. -/
def maybeTokens (rng : Rng ρ) (n : Int) (p : ℚ) : Sampler ρ Int := do
  let u ← rng.rand
  if u < p then rng.randint 0 n else return 0

/-- The `usage` of a successful call. -/
def drawUsage (rng : Rng ρ) (cfg : ModelTraffic) : Sampler ρ Usage := do
  let inputTokens ← rng.randint cfg.txnInput.min cfg.txnInput.max
  let outputTokens ← rng.randint cfg.txnOutput.min cfg.txnOutput.max
  let cacheCreation ← maybeTokens rng 2000 (1 / 4)
  -- the double 0.35
  let cacheRead ← maybeTokens rng 8000 (3152519739159347 / 2 ^ 53)
  return { inputTokens, outputTokens, cacheCreation, cacheRead }

/-- Attributes that are there on a successful call only: the usage, the stop reason and the time to
the first token. -/
def drawSuccess (rng : Rng ρ) (data : DataConfig) (latencyS : ℚ) :
    Sampler ρ (String × String × String) := do
  let usage ← drawUsage rng data.modelTraffic
  let stopReason ← rng.choice stopReasons
  let share ← rng.uniform (1 / 10) (4 / 10)
  return (usage.text, stopReason, fixed3 (latencyS * share))

/-- Attributes that are there on a 429 only: when to retry, and what remains of the limits. -/
def drawLimited (rng : Rng ρ) : Sampler ρ (String × String × String) := do
  let retryAfter ← rng.uniform (1 / 2) 30
  let remainingRequests ← rng.randint 0 50
  let remainingTokens ← rng.randint 0 5000
  return (fixed3 retryAfter, toString remainingRequests, toString remainingTokens)

/-- Attributes that are there on a tool call only: tool, server, sequence, session, and the code of
an error. -/
def drawTool (rng : Rng ρ) (status : Int) :
    Sampler ρ (String × String × String × String × String) := do
  let toolName ← rng.choice mcpTools
  let serverName ← rng.choice mcpServers
  let callSeq ← rng.randint 1 20
  let session ← rng.getrandbits 48
  let errorCode ← (rng.choice ["TIMEOUT", "NOT_FOUND", "DENIED"]).onlyIf (400 ≤ status) ""
  return (toolName, serverName, toString callSeq, "sess_" ++ hexText 12 session, errorCode)

/-- `float(data.get("mcp_tool_call_ratio", 0.15))`. -/
def DataConfig.mcpRatio (data : DataConfig) : ℚ := data.mcpToolCallRatio.getD (15 / 100)

/-- The draws of `_build_record` for a customer. -/
def buildTxnRecord (rng : Rng ρ) (data : DataConfig) (customerId : Nat) : Sampler ρ Draw := do
  let u ← rng.rand
  let isMcp := decide (u < data.mcpRatio)
  let severity ← weighted rng data.severities
  let status ← weighted rng data.statuses
  let latencyS ← sampleLatencySeconds rng data
  let model ← rng.choice data.modelTraffic.txnModels
  let workspace ← rng.randint 1 3
  let user ← rng.randint 1 50
  let vkey ← rng.randint 1 5
  let agent ← rng.randint 1 12
  let modelId ← rng.randint 0 2
  let overallAction ← weighted rng overallActions
  let ip1 ← rng.randint 0 255
  let ip2 ← rng.randint 0 255
  let ip3 ← rng.randint 1 254
  let sourcePort ← rng.randint 20000 65000
  let userAgent ← rng.choice userAgents
  let requestBytes ← rng.randint 800 8000
  let requestId ← rng.getrandbits 64
  let prompt ← buildPrompt rng data
  let responseBytes ← rng.randint 200 6000
  let sse ← rng.rand
  let serviceTier ← rng.choice ["standard", "priority", "batch"]
  -- what the record does not have is not drawn
  let (tokenUsage, stopReason, ttft) ←
    (drawSuccess rng data latencyS).onlyIf (!isMcp && 200 ≤ status && status < 300) ("", "", "")
  let (retryAfter, remainingRequests, remainingTokens) ←
    (drawLimited rng).onlyIf (status = 429) ("", "", "")
  let fallback ← rng.rand
  let (toolName, serverName, callSeq, sessionId, errorCode) ←
    (drawTool rng status).onlyIf isMcp ("", "", "", "", "")
  let traceId ← rng.getrandbits 128
  let spanId ← rng.getrandbits 64
  return {
    isMcp, severity, status, latency := fixed3 latencyS, gatewayLatency := fixed3 (latencyS / 50)
    model, workspaceId := toString ((customerId : Int) * 10 + workspace)
    userId := toString ((customerId : Int) * 100 + user)
    vkeyId := toString ((customerId : Int) * 10 + vkey), agentId := toString agent
    modelId := toString (1 + modelId), overallAction
    sourceIp := "10." ++ toString ip1 ++ "." ++ toString ip2 ++ "." ++ toString ip3
    sourcePort := toString sourcePort, userAgent, requestBytes := toString requestBytes
    requestId := "msg_" ++ hexText 16 requestId, prompt, responseBytes := toString responseBytes
    sse := decide (sse < 3 / 10), serviceTier, tokenUsage, stopReason, ttft
    retryAfter, remainingRequests, remainingTokens, fallback := decide (fallback < 1 / 50)
    toolName, serverName, callSeq, sessionId, errorCode
    traceId := toBytesBig 16 traceId, spanId := toBytesBig 8 spanId }

/-- The region that `_build_template` draws. -/
def chooseRegion (rng : Rng ρ) (data : DataConfig) : Sampler ρ String := rng.choice data.regionNames

end AnalyticsTesting.Generator
