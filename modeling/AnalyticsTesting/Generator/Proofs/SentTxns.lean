import AnalyticsTesting.Generator.Proofs.Sent
import AnalyticsTesting.Generator.Proofs.TxnDraws
import AnalyticsTesting.Generator.Proofs.WireSize

set_option autoImplicit false

/-! # What a run sends for the customers of the ai_txn payload

Every request is for one customer, and its records have identifiers from this customer's ranges
only. The ranges of different customers do not meet, so no identifier is ever sent for two of them
(`sentTxns_apart`). -/

namespace AnalyticsTesting.Generator

variable {ρ : Type}

/-! ## Records on the wire -/

/-- The record says what was drawn, and carries the number `n` in both sequence fields. -/
structure TxnNumbered (genId : String) (d : Draw) (n : Nat) (r : LogRecord) : Prop where
  body : r.body = ""
  severityNumber : r.severityNumber = severityNumber d.severity
  severityText : r.severityText = d.severity
  attributes : r.attributes =
    kv "bench.seq" (toString n) :: kv "bench.gen_id" genId ::
      kv "log_type" (if d.isMcp then "mcp_tool_call" else "http") ::
      kv "snx.sequence_id" (toString n) :: d.rest

theorem exists_txnNumbered {genId : String} {d : Draw} {r : LogRecord}
    (h : StampOf BenchSnx (aiTxnRecord genId d) r) : ∃ n, TxnNumbered genId d n r := by
  rcases h.attributes with heq | ⟨hd, m, hfind, hwrite⟩
  · exact ⟨0, h.body, h.severityNumber, h.severityText, heq⟩
  · obtain rfl := Option.some.inj (hfind.symm.trans (findSeqValue_aiTxnRecord genId d))
    exact ⟨m, h.body, h.severityNumber, h.severityText, (Option.some.inj hwrite).symm⟩

/-- A request for a customer that conforms to the data. -/
def SentTxns (data : DataConfig) (genId : String) (customerId : Nat)
    (request : ExportLogsServiceRequest) : Prop :=
  ∃ region ∈ data.regionNames,
    request.resource =
      [kv "customer_id" (toString customerId), kv "tenant_id" (toString customerId),
        kv "sgwe_id" (toString (customerId % 8 + 1)), kv "cloud.region" region,
        kv "service.name" "sentrinox-gateway-prod", kv "bench.gen_id" genId] ∧
    ∀ r ∈ request.logRecords, ∃ d : Draw, d.Conforms data customerId ∧
      ∃ n, TxnNumbered genId d n r

/-- What the content of the ai_txn payload draws for a customer conforms to the data. -/
theorem TemplateOf.sentTxns {rng : Rng ρ} {data : DataConfig} (hw : data.NonnegWeights)
    (hdraw : data.TxnDrawable) {genId : String} {customerId : Nat} {p : RequestTemplate BenchSnx}
    (hof : TemplateOf (aiTxnContent genId (data.txnData rng hdraw)) (some customerId) p)
    {request : ExportLogsServiceRequest} (h : RequestOf p request) :
    SentTxns data genId customerId request := by
  obtain ⟨s, hresource, hrecords⟩ := h.exists_stampOf hof
  have hregion := (yields_chooseRegion rng data).draw (returns_chooseRegion rng data) s
  refine ⟨_, hregion, hresource, fun r hr => ?_⟩
  obtain ⟨s', hstamp⟩ := hrecords r hr
  have hconforms := (yields_buildTxnRecord rng hw customerId).draw
    (returns_buildTxnRecord rng hdraw customerId) s'
  exact ⟨_, hconforms, exists_txnNumbered hstamp⟩

/-! ## Identifiers -/

/-- The value of the attribute with this key. -/
def attributeOf (attrs : List KeyValue) (key : String) : Option AnyValue :=
  (attrs.find? (·.key == key)).map (·.value)

/-- The attributes that identify whose traffic a record is. -/
def ownerKeys : List String := ["snx.workspace_id", "snx.user_id", "snx.vkey_id"]

/-- The factor of the customer's number in such an identifier. -/
def ownerStep (key : String) : Int := if key = "snx.user_id" then 100 else 10

/-- Each of them is the customer's number times the factor, and an offset below the factor. -/
theorem TxnNumbered.exists_ownerText {genId : String} {d : Draw} {n customerId : Nat}
    {r : LogRecord} (h : TxnNumbered genId d n r) (howned : d.Owned customerId) {key : String}
    (hkey : key ∈ ownerKeys) : ∃ i : Int, (1 ≤ i ∧ i < ownerStep key) ∧
      attributeOf r.attributes key
        = some (.stringValue (toString ((customerId : Int) * ownerStep key + i))) := by
  obtain ⟨⟨i, hlo, hhi, hworkspace⟩, ⟨j, hlo', hhi', huser⟩, k, hlo'', hhi'', hvkey⟩ := howned
  rw [h.attributes]
  simp only [ownerKeys, List.mem_cons, List.not_mem_nil, or_false] at hkey
  rcases hkey with rfl | rfl | rfl
  · refine ⟨i, ⟨hlo, by simp only [ownerStep]; simp; omega⟩, ?_⟩
    simp [attributeOf, Draw.rest, kv, hworkspace, ownerStep]
  · refine ⟨j, ⟨hlo', by simp only [ownerStep]; simp; omega⟩, ?_⟩
    simp [attributeOf, Draw.rest, kv, huser, ownerStep]
  · refine ⟨k, ⟨hlo'', by simp only [ownerStep]; simp; omega⟩, ?_⟩
    simp [attributeOf, Draw.rest, kv, hvkey, ownerStep]

/-- A customer's number and an offset that is smaller than the step are found again in the text. -/
theorem customer_eq_of_text {c c' : Nat} {step i i' : Int} (hi : 1 ≤ i ∧ i < step)
    (hi' : 1 ≤ i' ∧ i' < step)
    (h : toString ((c : Int) * step + i) = toString ((c' : Int) * step + i')) : c = c' := by
  have hstep : 0 < step := by omega
  have hnonneg : ∀ {a : Nat} {j : Int}, 1 ≤ j → 0 ≤ (a : Int) * step + j := fun hj => by positivity
  obtain ⟨m, hm⟩ := Int.eq_ofNat_of_zero_le (hnonneg (a := c) hi.1)
  obtain ⟨m', hm'⟩ := Int.eq_ofNat_of_zero_le (hnonneg (a := c') hi'.1)
  rw [hm, hm'] at h
  obtain rfl : m = m' := Protobuf.eq_of_toString_eq h
  have hdiv : ∀ {a : Nat} {j : Int}, 1 ≤ j ∧ j < step → ((a : Int) * step + j) / step = a := by
    intro a j hj
    rw [Int.add_comm, Int.add_mul_ediv_right _ _ hstep.ne', Int.ediv_eq_zero_of_lt (by omega) hj.2,
      zero_add]
  have hc : (c : Int) = c' := by rw [← hdiv (a := c) hi, ← hdiv (a := c') hi', hm, hm']
  exact_mod_cast hc

/-- **No identifier is sent for two customers.** -/
theorem sentTxns_apart {data : DataConfig} {genId : String} {c c' : Nat}
    {request request' : ExportLogsServiceRequest} (h : SentTxns data genId c request)
    (h' : SentTxns data genId c' request') {r r' : LogRecord} (hr : r ∈ request.logRecords)
    (hr' : r' ∈ request'.logRecords) {key : String} (hkey : key ∈ ownerKeys)
    (hsame : attributeOf r.attributes key = attributeOf r'.attributes key) : c = c' := by
  obtain ⟨-, -, -, hrecords⟩ := h
  obtain ⟨-, -, -, hrecords'⟩ := h'
  obtain ⟨d, hd, n, hn⟩ := hrecords r hr
  obtain ⟨d', hd', n', hn'⟩ := hrecords' r' hr'
  obtain ⟨i, hi, htext⟩ := hn.exists_ownerText hd.owned hkey
  obtain ⟨i', hi', htext'⟩ := hn'.exists_ownerText hd'.owned hkey
  rw [htext, htext'] at hsame
  exact customer_eq_of_text hi hi' (AnyValue.stringValue.inj (Option.some.inj hsame))

/-! ## Runs -/

/-- **Everything that is sent is one customer's, and conforms to the configured data.** For data
that can be drawn from, every request of every run is for one of the customers and is one that the
data allow, and records with the same workspace, user or key are for the same customer. -/
theorem sentTxns_conform (rng : Rng ρ) {data : DataConfig} (hw : data.NonnegWeights)
    (hdraw : data.TxnDrawable) {cfg : RunConfig ρ} {customers : Int}
    (hcontent : cfg.content = aiTxnContent cfg.genId (data.txnData rng hdraw))
    (hcustomer : cfg.customerOf = fun i => some (i % max 1 customers.toNat + 1))
    {g : LoadGenerator BenchSnx} (hlaunch : launch BenchSnx cfg = some g) {plan : List Step}
    {s : State BenchSnx} (hreach : (engine g plan).Reachable s) :
    (∀ e ∈ s.logWire, ∃ c, 1 ≤ c ∧ c ≤ max 1 customers.toNat ∧
      SentTxns data cfg.genId c e.request) ∧
    ∀ e ∈ s.logWire, ∀ e' ∈ s.logWire, ∀ r ∈ e.request.logRecords, ∀ r' ∈ e'.request.logRecords,
      ∀ key ∈ ownerKeys, attributeOf r.attributes key = attributeOf r'.attributes key →
        attributeOf e.request.resource "customer_id"
          = attributeOf e'.request.resource "customer_id" := by
  have hsent : ∀ e ∈ s.logWire, ∃ c, 1 ≤ c ∧ c ≤ max 1 customers.toNat ∧
      SentTxns data cfg.genId c e.request := by
    intro e he
    obtain ⟨p, hp, hrequest⟩ := exists_requestOf hreach he
    obtain ⟨i, -, hof⟩ := buildPool_templateOf (buildPool_of_launch hlaunch) p hp
    rw [hcustomer, hcontent] at hof
    have hlt : i % max 1 customers.toNat < max 1 customers.toNat := Nat.mod_lt _ (by omega)
    exact ⟨_, Nat.succ_pos _, hlt, hof.sentTxns hw hdraw hrequest⟩
  refine ⟨hsent, ?_⟩
  intro e he e' he' r hr r' hr' key hkey hsame
  obtain ⟨c, -, -, hc⟩ := hsent e he
  obtain ⟨c', -, -, hc'⟩ := hsent e' he'
  obtain rfl := sentTxns_apart hc hc' hr hr' hkey hsame
  obtain ⟨region, -, hresource, -⟩ := hc
  obtain ⟨region', -, hresource', -⟩ := hc'
  rw [hresource, hresource']
  rfl

/-- What the ai_txn payload draws for the record of `seed42`. -/
def txnSeed42 (seed : Int) : List Nat :=
  if seed = 42000126 then
    [0, 8756474338910384, 7377747478417077, 6690593855225782, 6859981882636522, 1730377733992093,
      0, 2, 31, 4, 0, 0, 8085603924652888, 105, 237, 17, 24019, 4, 762, 1040318071878760353, 77,
      5352424111957636, 1, 1153, 140, 7464685114788685, 2694213152719487, 2259, 3,
      5507660974407093, 8100551636536114, 37727080325845461084198528166789125346,
      13811493354604251001]
  else []

theorem shortBodies_txnDrawable : shortBodies.TxnDrawable :=
  ⟨by decide +kernel, by decide +kernel, by decide, by decide, by decide⟩

/-- The plain settings of `seed42Config`, for two customers. -/
def txnSeed42Config : RunConfig (List Nat) :=
  { seed42Config with
    content := aiTxnContent "gen-1"
      (shortBodies.txnData (replayRng txnSeed42) shortBodies_txnDrawable)
    customerOf := fun i => some (i % max 1 (2 : Int).toNat + 1) }

theorem sentTxns_conform_seed42 : ∃ s : State BenchSnx, s.logWire.length = 1 ∧
    ∀ e ∈ s.logWire, ∃ c, 1 ≤ c ∧ c ≤ 2 ∧ SentTxns shortBodies "gen-1" c e.request := by
  obtain ⟨g, s, hg, hrun, hlen⟩ := exists_of_runFrom (launch BenchSnx txnSeed42Config) [⟨0, 1, 1⟩]
    (mainRuns 13 0 ++ workerExports 0 1) (P := fun s => s.logWire.length = 1) (by decide +kernel)
  have hcustomer : txnSeed42Config.customerOf
      = fun i => some (i % max 1 (2 : Int).toNat + 1) := rfl
  exact ⟨s, of_decide_eq_true hlen,
    (sentTxns_conform (replayRng txnSeed42) shortBodies_nonnegWeights shortBodies_txnDrawable rfl
      hcustomer hg ⟨_, hrun⟩).1⟩

end AnalyticsTesting.Generator
