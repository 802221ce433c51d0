import AnalyticsTesting.Generator.Proofs.Shares

set_option autoImplicit false

/-! # What the generic payload draws

`LogsDraw.Conforms` says what a record of `payload.py` may look like under the configured data. It
follows `_build_record` draw by draw; so does `Drawable`, the condition under which no draw
raises. -/

namespace AnalyticsTesting.Generator

open Sampler

variable {ρ α : Type}

/-! ## The methods of `random.Random` -/

theorem yields_rand (rng : Rng ρ) : Yields rng.rand fun u => 0 ≤ u ∧ u < 1 :=
  (yields_ofDraw (P := fun _ : Fin (2 ^ 53) => True) fun _ => trivial).bind fun k _ =>
    yields_pure ⟨unit_nonneg k, unit_lt_one k.isLt⟩

theorem returns_rand (rng : Rng ρ) : Returns rng.rand True :=
  (returns_ofDraw _).bind_true fun _ => returns_pure _

theorem yields_choice (rng : Rng ρ) (xs : List α) : Yields (rng.choice xs) (· ∈ xs) := by
  cases xs with
  | nil => exact yields_raise _
  | cons x rest =>
      exact (yields_ofDraw (P := fun _ => True) fun _ => trivial).bind fun i _ =>
        yields_pure (List.get_mem (x :: rest) i)

theorem returns_choice (rng : Rng ρ) {xs : List α} (h : xs ≠ []) :
    Returns (rng.choice xs) True := by
  cases xs with
  | nil => exact absurd rfl h
  | cons x rest => exact (returns_ofDraw _).bind_true fun _ => returns_pure _

theorem yields_randint (rng : Rng ρ) (a b : Int) :
    Yields (rng.randint a b) fun n => a ≤ n ∧ n ≤ b := by
  refine yields_ite (fun _ => yields_raise _) fun hle => ?_
  refine (yields_ofDraw (P := fun _ => True) fun _ => trivial).bind fun i _ => yields_pure ?_
  have hi := i.isLt
  omega

/-- `randint` raises on an empty range. -/
theorem returns_randint (rng : Rng ρ) (a b : Int) : Returns (rng.randint a b) (a ≤ b) := by
  refine returns_ite (fun hlt => returns_raise.congr (by simpa using hlt)) fun hle => ?_
  exact ((returns_ofDraw _).bind_true fun _ => returns_pure _).congr (by simpa using hle)

theorem yields_uniform (rng : Rng ρ) {a b : ℚ} (h : a ≤ b) :
    Yields (rng.uniform a b) fun x => a ≤ x ∧ x ≤ b :=
  (yields_rand rng).bind fun _ hu => yields_pure (uniform_between h hu.1 hu.2)

theorem returns_uniform (rng : Rng ρ) (a b : ℚ) : Returns (rng.uniform a b) True :=
  (returns_rand rng).bind_true fun _ => returns_pure _

theorem yields_getrandbits (rng : Rng ρ) (k : Nat) : Yields (rng.getrandbits k) (· < 2 ^ k) :=
  (yields_ofDraw (P := fun _ => True) fun _ => trivial).bind fun n _ => yields_pure n.isLt

theorem returns_getrandbits (rng : Rng ρ) (k : Nat) : Returns (rng.getrandbits k) True :=
  (returns_ofDraw _).bind_true fun _ => returns_pure _

/-! ## Weights and latencies -/

theorem yields_weighted (rng : Rng ρ) {mapping : List (α × ℚ)} (hw : ∀ e ∈ mapping, 0 ≤ e.2) :
    Yields (weighted rng mapping) fun key => ∃ w, (key, w) ∈ mapping ∧ 0 < w := by
  intro s key s' h
  rw [weighted, weightedIn_apply] at h
  obtain ⟨key', hkey, heq⟩ := Option.map_eq_some_iff.1 h
  obtain ⟨rfl, -⟩ := Prod.mk.inj heq
  exact keyAt_exact_pos hw (rng.random s).1.isLt hkey

theorem returns_weighted (rng : Rng ρ) (mapping : List (α × ℚ)) :
    Returns (weighted rng mapping) (0 < totalWeight mapping) := by
  intro s
  rw [weighted, weightedIn_apply, Option.isSome_map, keyAt_exact_isSome_iff]

theorem yields_sample (rng : Rng ρ) (spec : LatencySpec) :
    Yields (spec.sample rng) fun ms => spec.Ordered → 1 ≤ ms ∧ ms ≤ spec.max := by
  intro s ms s' h hordered
  obtain ⟨rfl, -⟩ := Prod.mk.inj (Option.some.inj h)
  exact LatencySpec.msAt_between hordered (rng.random (rng.random s).2).1.isLt _

theorem returns_sample (rng : Rng ρ) (spec : LatencySpec) : Returns (spec.sample rng) True :=
  fun _ => iff_of_true rfl trivial

theorem yields_sampleLatency (rng : Rng ρ) (data : DataConfig) :
    Yields (sampleLatency rng data) fun ms => data.logsLatency.Ordered →
      1 ≤ ms ∧ (ms : ℚ) ≤ data.logsLatency.max := by
  refine (yields_sample rng data.logsLatency).bind fun ms hms => yields_pure fun hordered => ?_
  obtain ⟨hlo, hhi⟩ := hms hordered
  rw [truncate_eq_floor (zero_le_one.trans hlo)]
  exact ⟨Int.le_floor.2 (by exact_mod_cast hlo), (Int.floor_le ms).trans hhi⟩

theorem returns_sampleLatency (rng : Rng ρ) (data : DataConfig) :
    Returns (sampleLatency rng data) True :=
  (returns_sample rng data.logsLatency).bind_true fun _ => returns_pure _

/-! ## Model attributes -/

/-- The model traffic of a record is in the configured ranges, and its costs are those of its
tokens. -/
structure ModelDraw.Conforms (cfg : ModelTraffic) (m : ModelDraw) : Prop where
  model : m.model ∈ cfg.logsModels
  input : cfg.logsInput.min ≤ m.inputTokens ∧ m.inputTokens ≤ cfg.logsInput.max
  output : cfg.logsOutput.min ≤ m.outputTokens ∧ m.outputTokens ≤ cfg.logsOutput.max
  requestUsd : |m.requestUsd - m.inputTokens / 1000000 * (cfg.price m.model).input|
    ≤ 1 / 2 / 10 ^ 8
  responseUsd : |m.responseUsd - m.outputTokens / 1000000 * (cfg.price m.model).output|
    ≤ 1 / 2 / 10 ^ 8
  /-- The total is rounded on its own: it may be off the two by one and a half units of the last
      place. -/
  totalUsd : |m.totalUsd - (m.requestUsd + m.responseUsd)| ≤ 3 / 2 / 10 ^ 8

theorem modelDraw_conforms {cfg : ModelTraffic} {model : String} {inputTokens outputTokens : Int}
    (hmodel : model ∈ cfg.logsModels)
    (hin : cfg.logsInput.min ≤ inputTokens ∧ inputTokens ≤ cfg.logsInput.max)
    (hout : cfg.logsOutput.min ≤ outputTokens ∧ outputTokens ≤ cfg.logsOutput.max) :
    (cfg.modelDraw model inputTokens outputTokens).Conforms cfg := by
  refine ⟨hmodel, hin, hout, abs_roundDigits_sub_le _ 8, abs_roundDigits_sub_le _ 8, ?_⟩
  have hrequest := abs_le.1 (abs_roundDigits_sub_le
    ((inputTokens : ℚ) / 1000000 * (cfg.price model).input) 8)
  have hresponse := abs_le.1 (abs_roundDigits_sub_le
    ((outputTokens : ℚ) / 1000000 * (cfg.price model).output) 8)
  have htotal := abs_le.1 (abs_roundDigits_sub_le
    ((inputTokens : ℚ) / 1000000 * (cfg.price model).input
      + (outputTokens : ℚ) / 1000000 * (cfg.price model).output) 8)
  unfold ModelTraffic.modelDraw
  dsimp only
  rw [abs_le]
  constructor <;> linarith [hrequest.1, hrequest.2, hresponse.1, hresponse.2, htotal.1, htotal.2]

theorem yields_modelAttributes (rng : Rng ρ) (cfg : ModelTraffic) :
    Yields (modelAttributes rng cfg) fun m =>
      (m.isSome ↔ cfg.enabled = true) ∧ ∀ d, m = some d → d.Conforms cfg := by
  refine yields_ite (fun henabled => ?_) fun hdisabled => yields_pure ⟨by simpa using hdisabled, ?_⟩
  · refine (yields_choice rng _).bind fun model hmodel => ?_
    refine (yields_randint rng _ _).bind fun inputTokens hin => ?_
    refine (yields_randint rng _ _).bind fun outputTokens hout => yields_pure ⟨by simpa, ?_⟩
    intro d hd
    obtain rfl := Option.some.inj hd
    exact modelDraw_conforms hmodel hin hout
  · intro d hd
    cases hd

theorem orDefault_ne_nil (xs : List α) {default : List α} (h : default ≠ []) :
    orDefault xs default ≠ [] := by
  cases xs with
  | nil => exact h
  | cons x rest => simp [orDefault]

theorem mem_orDefault {xs default : List α} {x : α} (h : x ∈ orDefault xs default) :
    x ∈ xs ∨ x ∈ default := by
  cases xs with
  | nil => exact Or.inr h
  | cons y rest => exact Or.inl h

/-- The token ranges are drawn from only where the traffic is enabled. -/
theorem returns_modelAttributes (rng : Rng ρ) (cfg : ModelTraffic) :
    Returns (modelAttributes rng cfg) (cfg.enabled = true →
      cfg.logsInput.min ≤ cfg.logsInput.max ∧ cfg.logsOutput.min ≤ cfg.logsOutput.max) := by
  refine returns_ite (fun henabled => ?_) fun hdisabled => ?_
  · refine ((returns_choice rng (orDefault_ne_nil _ (by simp))).bind_true fun model =>
      (returns_randint rng _ _).bind fun inputTokens =>
        (returns_randint rng _ _).bind fun outputTokens => returns_pure _).congr ?_
    simp [henabled]
  · exact (returns_pure _).congr (by simp [hdisabled])

/-! ## Bodies -/

/-- A text that starts with one of the heads and is as long as configured, where there is room for
more than the head and a blank. -/
def PaddedTo (target : Int) (heads : List String) (body : String) : Prop :=
  ∃ head ∈ heads, (target ≤ head.length + 1 → body = head) ∧
    (head.length + 1 < target → (body.length : Int) = target ∧
      ∃ pad : List Char, body = head ++ " " ++ String.ofList pad ∧ ∀ c ∈ pad, c ∈ hexDigits)

theorem yields_padTo (rng : Rng ρ) {head : String} {heads : List String} (h : head ∈ heads)
    (target : Int) : Yields (padTo rng head target) (PaddedTo target heads) := by
  refine yields_ite (fun hzero => yields_pure ⟨head, h, fun _ => rfl, by omega⟩) fun hpos => ?_
  refine ((yields_choice rng hexDigits).replicate _).bind fun pad hpad => yields_pure ?_
  refine ⟨head, h, by omega, fun hlt => ⟨?_, pad, rfl, hpad.2⟩⟩
  simp only [String.length_append, String.length_ofList, hpad.1]
  have hblank : " ".length = 1 := by decide
  omega

theorem returns_padTo (rng : Rng ρ) (head : String) (target : Int) :
    Returns (padTo rng head target) True := by
  refine returns_ite (fun _ => returns_pure _) fun _ => ?_
  exact ((returns_choice rng (by decide)).replicate _).bind_true fun _ => returns_pure _

theorem yields_buildBody (rng : Rng ρ) (data : DataConfig) :
    Yields (buildBody rng data) (PaddedTo data.targetBytes lorem) :=
  (yields_choice rng lorem).bind fun _ hhead => yields_padTo rng hhead _

theorem returns_buildBody (rng : Rng ρ) (data : DataConfig) : Returns (buildBody rng data) True :=
  (returns_choice rng (by decide)).bind_true fun _ => returns_padTo rng _ _

/-! ## Identifiers -/

theorem length_hexText {width n : Nat} (hwidth : 0 < width) (h : n < 16 ^ width) :
    (hexText width n).length = width := by
  have hle : (Nat.toDigits 16 n).length ≤ width :=
    (Nat.length_toDigits_le_iff (by norm_num) hwidth).2 h
  rw [hexText, String.length_ofList, List.length_leftpad]
  exact max_eq_left hle

/-! ## Records -/

/-- No weight is negative. -/
structure DataConfig.NonnegWeights (data : DataConfig) : Prop where
  severity : ∀ e ∈ data.severityMix, 0 ≤ e.2
  status : ∀ e ∈ data.httpStatusMix, 0 ≤ e.2

/-- The default of a mapping is one key with a weight. -/
theorem orDefault_nonneg {mapping : List (α × ℚ)} (h : ∀ e ∈ mapping, 0 ≤ e.2) (key : α) :
    ∀ e ∈ orDefault mapping [(key, 1)], 0 ≤ e.2 := by
  intro e he
  rcases mem_orDefault he with he | he
  · exact h e he
  · obtain rfl := List.mem_singleton.1 he
    norm_num

theorem DataConfig.NonnegWeights.severities {data : DataConfig} (h : data.NonnegWeights) :
    ∀ e ∈ data.severities, 0 ≤ e.2 := orDefault_nonneg h.severity "INFO"

theorem DataConfig.NonnegWeights.statuses {data : DataConfig} (h : data.NonnegWeights) :
    ∀ e ∈ data.statuses, 0 ≤ e.2 := orDefault_nonneg h.status 200

/-- What a record may draw under the configured data. -/
structure LogsDraw.Conforms (data : DataConfig) (d : LogsDraw) : Prop where
  severity : ∃ w, (d.severity, w) ∈ data.severities ∧ 0 < w
  status : ∃ w, (d.status, w) ∈ data.statuses ∧ 0 < w
  latency : data.logsLatency.Ordered → 1 ≤ d.latencyMs ∧ (d.latencyMs : ℚ) ≤ data.logsLatency.max
  method : d.method ∈ ["GET", "POST", "PUT", "DELETE"]
  resource : d.resource ∈ ["items", "query", "batch"]
  requestId : d.requestId.length = 16
  model_iff : d.model.isSome ↔ data.modelTraffic.enabled = true
  model : ∀ m, d.model = some m → m.Conforms data.modelTraffic
  body : PaddedTo data.targetBytes lorem d.body

/-- **What `_build_record` draws.** -/
theorem yields_buildRecord (rng : Rng ρ) {data : DataConfig} (hw : data.NonnegWeights) :
    Yields (buildRecord rng data) (LogsDraw.Conforms data) := by
  refine (yields_weighted rng hw.severities).bind fun severity hseverity => ?_
  refine (yields_weighted rng hw.statuses).bind fun status hstatus => ?_
  refine (yields_sampleLatency rng data).bind fun latencyMs hlatency => ?_
  refine (yields_choice rng _).bind fun method hmethod => ?_
  refine (yields_choice rng _).bind fun resource hresource => ?_
  refine (yields_getrandbits rng 64).bind fun requestId hrequest => ?_
  refine (yields_modelAttributes rng data.modelTraffic).bind fun model hmodel => ?_
  refine (yields_buildBody rng data).bind fun body hbody => ?_
  refine (yields_getrandbits rng 128).bind fun traceId _ => ?_
  refine (yields_getrandbits rng 64).bind fun spanId _ => yields_pure ?_
  have hlength : (hexText 16 requestId).length = 16 :=
    length_hexText (by norm_num) (by norm_num at hrequest ⊢; exact hrequest)
  exact ⟨hseverity, hstatus, hlatency, hmethod, hresource, hlength, hmodel.1, hmodel.2, hbody⟩

/-- The data from which a record can be drawn. -/
structure DataConfig.Drawable (data : DataConfig) : Prop where
  severity : 0 < totalWeight data.severities
  status : 0 < totalWeight data.statuses
  tokens : data.modelTraffic.enabled = true →
    data.modelTraffic.logsInput.min ≤ data.modelTraffic.logsInput.max ∧
      data.modelTraffic.logsOutput.min ≤ data.modelTraffic.logsOutput.max

/-- **`_build_record` raises for all streams or for none**, according to the data. -/
theorem returns_buildRecord (rng : Rng ρ) (data : DataConfig) :
    Returns (buildRecord rng data) data.Drawable := by
  refine ((returns_weighted rng data.severities).bind fun severity =>
    (returns_weighted rng data.statuses).bind fun status =>
    (returns_sampleLatency rng data).bind_true fun latencyMs =>
    (returns_choice rng (by simp)).bind_true fun method =>
    (returns_choice rng (by simp)).bind_true fun resource =>
    (returns_getrandbits rng 64).bind_true fun requestId =>
    (returns_modelAttributes rng data.modelTraffic).bind fun model =>
    (returns_buildBody rng data).bind_true fun body =>
    (returns_getrandbits rng 128).bind_true fun traceId =>
    (returns_getrandbits rng 64).bind_true fun spanId => returns_pure _).congr ?_
  constructor
  · rintro ⟨hseverity, hstatus, htokens, -⟩
    exact ⟨hseverity, hstatus, htokens⟩
  · rintro ⟨hseverity, hstatus, htokens⟩
    exact ⟨hseverity, hstatus, htokens, trivial⟩

/-! ## Templates -/

/-- The names a template chooses from. -/
def DataConfig.services (data : DataConfig) : List String :=
  orDefault data.serviceNames ["service"]

def DataConfig.environmentNames (data : DataConfig) : List String :=
  orDefault data.environments ["prod"]

theorem yields_chooseResource (rng : Rng ρ) (data : DataConfig) :
    Yields (chooseResource rng data) fun names => names.1 ∈ data.services ∧
      names.2.1 ∈ data.environmentNames ∧ names.2.2 ∈ data.regionNames := by
  refine (yields_choice rng _).bind fun service hservice => ?_
  refine (yields_choice rng _).bind fun environment henvironment => ?_
  exact (yields_choice rng _).bind fun region hregion =>
    yields_pure ⟨hservice, henvironment, hregion⟩

theorem returns_chooseResource (rng : Rng ρ) (data : DataConfig) :
    Returns (chooseResource rng data) True :=
  (returns_choice rng (orDefault_ne_nil _ (by simp))).bind_true fun _ =>
    (returns_choice rng (orDefault_ne_nil _ (by simp))).bind_true fun _ =>
      (returns_choice rng (orDefault_ne_nil _ (by simp))).bind_true fun _ => returns_pure _

/-- The values of the templates and records of `payload.py`, for data that can be drawn from. -/
def DataConfig.logsData (data : DataConfig) (rng : Rng ρ) (h : data.Drawable) : LogsData ρ where
  newRng := rng.newRng
  choose := (chooseResource rng data).draw (returns_chooseResource rng data)
  tenantId := data.tenantId.getD "testing-tenant"
  workspaceId := data.workspaceId.getD "testing-workspace"
  draw _ := (buildRecord rng data).draw ((returns_buildRecord rng data).congr (iff_true_intro h))

end AnalyticsTesting.Generator
