import AnalyticsTesting.Generator.Proofs.Draws

set_option autoImplicit false

/-! # What the ai_txn payload draws

`Draw.Conforms` says what a record of `payload_ai_txn.py` may look like for a customer, attribute
group by attribute group: the identifiers are the customer's, the latencies are readings of one
latency, and what only a successful call or a tool call has is in its range. -/

namespace AnalyticsTesting.Generator

open Sampler

variable {ρ : Type}

/-- A call to a model that succeeded, which alone has a usage. -/
def Draw.Succeeded (d : Draw) : Prop := d.isMcp = false ∧ 200 ≤ d.status ∧ d.status < 300

/-- The tokens of a call are in the configured ranges, those of the cache in fixed ones. -/
structure Usage.Within (cfg : ModelTraffic) (u : Usage) : Prop where
  input : cfg.txnInput.min ≤ u.inputTokens ∧ u.inputTokens ≤ cfg.txnInput.max
  output : cfg.txnOutput.min ≤ u.outputTokens ∧ u.outputTokens ≤ cfg.txnOutput.max
  cacheCreation : 0 ≤ u.cacheCreation ∧ u.cacheCreation ≤ 2000
  cacheRead : 0 ≤ u.cacheRead ∧ u.cacheRead ≤ 8000

theorem yields_maybeTokens (rng : Rng ρ) {n : Int} (hn : 0 ≤ n) (p : ℚ) :
    Yields (maybeTokens rng n p) fun tokens => 0 ≤ tokens ∧ tokens ≤ n :=
  (yields_rand rng).bind fun _ _ =>
    yields_ite (fun _ => yields_randint rng 0 n) fun _ => yields_pure ⟨le_rfl, hn⟩

theorem returns_maybeTokens (rng : Rng ρ) {n : Int} (hn : 0 ≤ n) (p : ℚ) :
    Returns (maybeTokens rng n p) True :=
  (returns_rand rng).bind_true fun _ =>
    returns_ite (fun _ => (returns_randint rng 0 n).congr (iff_true_intro hn)) fun _ =>
      returns_pure _

theorem yields_drawUsage (rng : Rng ρ) (cfg : ModelTraffic) :
    Yields (drawUsage rng cfg) (Usage.Within cfg) := by
  refine (yields_randint rng _ _).bind fun inputTokens hin => ?_
  refine (yields_randint rng _ _).bind fun outputTokens hout => ?_
  refine (yields_maybeTokens rng (by norm_num) _).bind fun cacheCreation hcreation => ?_
  exact (yields_maybeTokens rng (by norm_num) _).bind fun cacheRead hread =>
    yields_pure ⟨hin, hout, hcreation, hread⟩

/-- The token ranges of the configured traffic are not empty. -/
structure ModelTraffic.TokensDrawable (cfg : ModelTraffic) : Prop where
  input : cfg.txnInput.min ≤ cfg.txnInput.max
  output : cfg.txnOutput.min ≤ cfg.txnOutput.max

theorem returns_drawUsage (rng : Rng ρ) {cfg : ModelTraffic} (h : cfg.TokensDrawable) :
    Returns (drawUsage rng cfg) True :=
  ((returns_randint rng _ _).congr (iff_true_intro h.input)).bind_true fun _ =>
    ((returns_randint rng _ _).congr (iff_true_intro h.output)).bind_true fun _ =>
      (returns_maybeTokens rng (by norm_num) _).bind_true fun _ =>
        (returns_maybeTokens rng (by norm_num) _).bind_true fun _ => returns_pure _

/-! ## The groups of attributes -/

theorem yields_drawSuccess (rng : Rng ρ) (data : DataConfig) (latencyS : ℚ) :
    Yields (drawSuccess rng data latencyS) fun texts =>
      (∃ u : Usage, u.Within data.modelTraffic ∧ texts.1 = u.text) ∧ texts.2.1 ∈ stopReasons ∧
        ∃ share : ℚ, 1 / 10 ≤ share ∧ share ≤ 4 / 10 ∧ texts.2.2 = fixed3 (latencyS * share) := by
  refine (yields_drawUsage rng data.modelTraffic).bind fun usage husage => ?_
  refine (yields_choice rng _).bind fun stopReason hstop => ?_
  refine (yields_uniform rng (by norm_num)).bind fun share hshare => yields_pure ?_
  exact ⟨⟨usage, husage, rfl⟩, hstop, share, hshare.1, hshare.2, rfl⟩

theorem returns_drawSuccess (rng : Rng ρ) {data : DataConfig}
    (h : data.modelTraffic.TokensDrawable) (latencyS : ℚ) :
    Returns (drawSuccess rng data latencyS) True :=
  (returns_drawUsage rng h).bind_true fun _ =>
    (returns_choice rng (by decide)).bind_true fun _ =>
      (returns_uniform rng _ _).bind_true fun _ => returns_pure _

theorem returns_drawLimited (rng : Rng ρ) : Returns (drawLimited rng) True :=
  (returns_uniform rng _ _).bind_true fun _ =>
    ((returns_randint rng 0 50).congr (by norm_num)).bind_true fun _ =>
      ((returns_randint rng 0 5000).congr (by norm_num)).bind_true fun _ => returns_pure _

theorem yields_drawTool (rng : Rng ρ) (status : Int) :
    Yields (drawTool rng status) fun texts => texts.1 ∈ mcpTools ∧ texts.2.1 ∈ mcpServers ∧
      (400 ≤ status → texts.2.2.2.2 ∈ ["TIMEOUT", "NOT_FOUND", "DENIED"]) := by
  refine (yields_choice rng _).bind fun toolName htool => ?_
  refine (yields_choice rng _).bind fun serverName hserver => ?_
  refine (yields_randint rng 1 20).bind fun callSeq _ => ?_
  refine (yields_getrandbits rng 48).bind fun session _ => ?_
  refine ((yields_choice rng _).onlyIf "").bind fun errorCode herror => yields_pure ?_
  exact ⟨htool, hserver, fun hstatus => herror (decide_eq_true hstatus)⟩

theorem returns_drawTool (rng : Rng ρ) (status : Int) : Returns (drawTool rng status) True :=
  (returns_choice rng (by decide)).bind_true fun _ =>
    (returns_choice rng (by decide)).bind_true fun _ =>
      ((returns_randint rng 1 20).congr (by norm_num)).bind_true fun _ =>
        (returns_getrandbits rng 48).bind_true fun _ =>
          ((returns_choice rng (by decide)).onlyIf _ _).bind_true fun _ => returns_pure _

theorem yields_sampleLatencySeconds (rng : Rng ρ) (data : DataConfig) :
    Yields (sampleLatencySeconds rng data) fun s => data.txnLatency.Ordered →
      1 / 1000 ≤ s ∧ s ≤ data.txnLatency.max / 1000 := by
  refine (yields_sample rng data.txnLatency).bind fun ms hms => yields_pure fun hordered => ?_
  obtain ⟨hlo, hhi⟩ := hms hordered
  exact ⟨by linarith, by linarith⟩

theorem returns_sampleLatencySeconds (rng : Rng ρ) (data : DataConfig) :
    Returns (sampleLatencySeconds rng data) True :=
  (returns_sample rng data.txnLatency).bind_true fun _ => returns_pure _

/-! ## Records -/

/-- The head of every prompt. -/
def promptHead : String := "Summarize the following document in three bullet points."

/-- The identifiers of a record are in the ranges of its customer. -/
structure Draw.Owned (customerId : Nat) (d : Draw) : Prop where
  workspace : ∃ i : Int, 1 ≤ i ∧ i ≤ 3 ∧ d.workspaceId = toString ((customerId : Int) * 10 + i)
  user : ∃ i : Int, 1 ≤ i ∧ i ≤ 50 ∧ d.userId = toString ((customerId : Int) * 100 + i)
  vkey : ∃ i : Int, 1 ≤ i ∧ i ≤ 5 ∧ d.vkeyId = toString ((customerId : Int) * 10 + i)

/-- The times of a record are readings of the latency `s`, in seconds. -/
structure Draw.Timed (s : ℚ) (d : Draw) : Prop where
  latency : d.latency = fixed3 s
  gateway : d.gatewayLatency = fixed3 (s / 50)
  ttft : d.Succeeded → ∃ share : ℚ, 1 / 10 ≤ share ∧ share ≤ 4 / 10 ∧ d.ttft = fixed3 (s * share)

/-- What a record of a customer may draw under the configured data. -/
structure Draw.Conforms (data : DataConfig) (customerId : Nat) (d : Draw) : Prop where
  severity : ∃ w, (d.severity, w) ∈ data.severities ∧ 0 < w
  status : ∃ w, (d.status, w) ∈ data.statuses ∧ 0 < w
  model : d.model ∈ data.modelTraffic.txnModels
  overallAction : ∃ w, (d.overallAction, w) ∈ overallActions ∧ 0 < w
  owned : d.Owned customerId
  timed : ∃ s, (data.txnLatency.Ordered → 1 / 1000 ≤ s ∧ s ≤ data.txnLatency.max / 1000) ∧
    d.Timed s
  prompt : PaddedTo data.targetBytes [promptHead] d.prompt
  usage : d.Succeeded → d.stopReason ∈ stopReasons ∧
    ∃ u : Usage, u.Within data.modelTraffic ∧ d.tokenUsage = u.text
  tool : d.isMcp = true → d.toolName ∈ mcpTools ∧ d.serverName ∈ mcpServers ∧
    (400 ≤ d.status → d.errorCode ∈ ["TIMEOUT", "NOT_FOUND", "DENIED"])

theorem overallActions_nonneg : ∀ e ∈ overallActions, 0 ≤ e.2 := by
  decide +kernel

/-- **What `_build_record` draws for a customer.** -/
theorem yields_buildTxnRecord (rng : Rng ρ) {data : DataConfig} (hw : data.NonnegWeights)
    (customerId : Nat) :
    Yields (buildTxnRecord rng data customerId) (Draw.Conforms data customerId) := by
  refine (yields_rand rng).bind fun u _ => ?_
  refine (yields_weighted rng hw.severities).bind fun severity hseverity => ?_
  refine (yields_weighted rng hw.statuses).bind fun status hstatus => ?_
  refine (yields_sampleLatencySeconds rng data).bind fun latencyS hlatency => ?_
  refine (yields_choice rng _).bind fun model hmodel => ?_
  refine (yields_randint rng 1 3).bind fun workspace hworkspace => ?_
  refine (yields_randint rng 1 50).bind fun user huser => ?_
  refine (yields_randint rng 1 5).bind fun vkey hvkey => ?_
  refine (yields_randint rng 1 12).bind fun agent _ => ?_
  refine (yields_randint rng 0 2).bind fun modelId _ => ?_
  refine (yields_weighted rng overallActions_nonneg).bind fun overallAction haction => ?_
  refine (yields_randint rng 0 255).bind fun ip1 _ => ?_
  refine (yields_randint rng 0 255).bind fun ip2 _ => ?_
  refine (yields_randint rng 1 254).bind fun ip3 _ => ?_
  refine (yields_randint rng 20000 65000).bind fun sourcePort _ => ?_
  refine (yields_choice rng userAgents).bind fun userAgent _ => ?_
  refine (yields_randint rng 800 8000).bind fun requestBytes _ => ?_
  refine (yields_getrandbits rng 64).bind fun requestId _ => ?_
  refine (yields_padTo rng (List.mem_singleton_self promptHead) _).bind fun prompt hprompt => ?_
  refine (yields_randint rng 200 6000).bind fun responseBytes _ => ?_
  refine (yields_rand rng).bind fun sse _ => ?_
  refine (yields_choice rng _).bind fun serviceTier _ => ?_
  -- the groups that are there for some records only
  refine ((yields_drawSuccess rng data latencyS).onlyIf _).bind ?_
  rintro ⟨tokenUsage, stopReason, ttft⟩ hsuccess
  refine Yields.bind (P := fun _ => True) (fun _ _ _ _ => trivial) ?_
  rintro ⟨retryAfter, remainingRequests, remainingTokens⟩ -
  refine (yields_rand rng).bind fun fallback _ => ?_
  refine ((yields_drawTool rng status).onlyIf _).bind ?_
  rintro ⟨toolName, serverName, callSeq, sessionId, errorCode⟩ htool
  refine (yields_getrandbits rng 128).bind fun traceId _ => ?_
  refine (yields_getrandbits rng 64).bind fun spanId _ => yields_pure ?_
  refine ⟨hseverity, hstatus, hmodel, haction, ⟨?_, ?_, ?_⟩, ⟨latencyS, hlatency, rfl, rfl, ?_⟩,
    hprompt, ?_, htool⟩
  · exact ⟨workspace, hworkspace.1, hworkspace.2, rfl⟩
  · exact ⟨user, huser.1, huser.2, rfl⟩
  · exact ⟨vkey, hvkey.1, hvkey.2, rfl⟩
  · rintro ⟨hmcp, hlo, hhi⟩
    exact (hsuccess (by simp_all)).2.2
  · rintro ⟨hmcp, hlo, hhi⟩
    obtain ⟨husage, hstop, -⟩ := hsuccess (by simp_all)
    exact ⟨hstop, husage⟩

/-- The data from which a record of any customer can be drawn. -/
structure DataConfig.TxnDrawable (data : DataConfig) : Prop where
  severity : 0 < totalWeight data.severities
  status : 0 < totalWeight data.statuses
  models : data.modelTraffic.txnModels ≠ []
  tokens : data.modelTraffic.TokensDrawable

/-- **`_build_record` does not raise**, whatever the stream. -/
theorem returns_buildTxnRecord (rng : Rng ρ) {data : DataConfig} (h : data.TxnDrawable)
    (customerId : Nat) : Returns (buildTxnRecord rng data customerId) True := by
  have hrange : ∀ {a b : Int}, a ≤ b → Returns (rng.randint a b) True :=
    fun hab => (returns_randint rng _ _).congr (iff_true_intro hab)
  refine (returns_rand rng).bind_true fun u => ?_
  refine ((returns_weighted rng _).congr (iff_true_intro h.severity)).bind_true fun severity => ?_
  refine ((returns_weighted rng _).congr (iff_true_intro h.status)).bind_true fun status => ?_
  refine (returns_sampleLatencySeconds rng data).bind_true fun latencyS => ?_
  refine (returns_choice rng h.models).bind_true fun model => ?_
  refine (hrange (by norm_num)).bind_true fun workspace => ?_
  refine (hrange (by norm_num)).bind_true fun user => ?_
  refine (hrange (by norm_num)).bind_true fun vkey => ?_
  refine (hrange (by norm_num)).bind_true fun agent => ?_
  refine (hrange (by norm_num)).bind_true fun modelId => ?_
  refine ((returns_weighted rng overallActions).congr
    (iff_true_intro (by decide +kernel))).bind_true fun overallAction => ?_
  refine (hrange (by norm_num)).bind_true fun ip1 => ?_
  refine (hrange (by norm_num)).bind_true fun ip2 => ?_
  refine (hrange (by norm_num)).bind_true fun ip3 => ?_
  refine (hrange (by norm_num)).bind_true fun sourcePort => ?_
  refine (returns_choice rng (by decide)).bind_true fun userAgent => ?_
  refine (hrange (by norm_num)).bind_true fun requestBytes => ?_
  refine (returns_getrandbits rng 64).bind_true fun requestId => ?_
  refine (returns_padTo rng _ _).bind_true fun prompt => ?_
  refine (hrange (by norm_num)).bind_true fun responseBytes => ?_
  refine (returns_rand rng).bind_true fun sse => ?_
  refine (returns_choice rng (by decide)).bind_true fun serviceTier => ?_
  refine ((returns_drawSuccess rng h.tokens latencyS).onlyIf _ _).bind_true ?_
  rintro ⟨tokenUsage, stopReason, ttft⟩
  refine ((returns_drawLimited rng).onlyIf _ _).bind_true ?_
  rintro ⟨retryAfter, remainingRequests, remainingTokens⟩
  refine (returns_rand rng).bind_true fun fallback => ?_
  refine ((returns_drawTool rng status).onlyIf _ _).bind_true ?_
  rintro ⟨toolName, serverName, callSeq, sessionId, errorCode⟩
  exact (returns_getrandbits rng 128).bind_true fun traceId =>
    (returns_getrandbits rng 64).bind_true fun spanId => returns_pure _

theorem yields_chooseRegion (rng : Rng ρ) (data : DataConfig) :
    Yields (chooseRegion rng data) (· ∈ data.regionNames) := yields_choice rng _

theorem returns_chooseRegion (rng : Rng ρ) (data : DataConfig) :
    Returns (chooseRegion rng data) True := returns_choice rng (orDefault_ne_nil _ (by simp))

/-- The values of the templates and records of `payload_ai_txn.py`, for data that can be drawn
from. -/
def DataConfig.txnData (data : DataConfig) (rng : Rng ρ) (h : data.TxnDrawable) : AiTxnData ρ where
  newRng := rng.newRng
  region := (chooseRegion rng data).draw (returns_chooseRegion rng data)
  draw customerId := (buildTxnRecord rng data customerId).draw
    (returns_buildTxnRecord rng h customerId)

end AnalyticsTesting.Generator
