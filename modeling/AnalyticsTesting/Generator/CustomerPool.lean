import AnalyticsTesting.Generator.WireSize

set_option autoImplicit false

/-! # The customers of the ai_txn template pool

`AiTxnPayloadFactory` of `generator/src/payload_ai_txn.py` with the number of customers it is
configured with, and what it says about them: `describe` and `coverage_warning`. -/

namespace AnalyticsTesting.Generator

variable {ρ : Type}

/-- `AiTxnPayloadFactory`. -/
structure AiTxnPayloadFactory extends PayloadFactory BenchSnx where
  customers : Nat
  customers_pos : 0 < customers

/-- `describe()`. -/
structure PoolDescription where
  genId : String
  seed : Int
  batchSize : Nat
  templatePoolSize : Nat
  variantsPerWorker : Nat
  approxBatchBytes : Nat
  schema : String
  customersConfigured : Nat
  customersCovered : Nat
  /-- `customer_id_range`: the least and the greatest. -/
  customerIdRange : Option (Nat × Nat)
  deriving DecidableEq

namespace AiTxnPayloadFactory

theorem max_one_pos (customers : Int) : 0 < max 1 customers.toNat := by omega

/-- `AiTxnPayloadFactory.__init__`. -/
def init (data : AiTxnData ρ) (genId : String) (seed : Int) (batchSize : Nat)
    (workers variantsPerWorker customers : Int) : Option AiTxnPayloadFactory :=
  (aiTxnFactory data genId seed batchSize workers variantsPerWorker customers).map fun f =>
    { f with customers := max 1 customers.toNat, customers_pos := max_one_pos customers }

/-- The customer of each template. -/
def customerIds (f : AiTxnPayloadFactory) : List Nat := f.templates.filterMap (·.customerId)

/-- `covered` of `describe`. -/
def covered (f : AiTxnPayloadFactory) : List Nat :=
  f.customerIds.dedup.mergeSort fun a b => decide (a ≤ b)

/-- `describe`. -/
def describe (f : AiTxnPayloadFactory) : PoolDescription where
  genId := f.genId
  seed := f.seed
  batchSize := f.batchSize
  templatePoolSize := f.templates.length
  variantsPerWorker := f.variantsPerWorker
  approxBatchBytes := approxBatchBytes f.toPayloadFactory
  schema := "ai_txn"
  customersConfigured := f.customers
  customersCovered := f.covered.length
  customerIdRange := match f.covered.head?, f.covered.getLast? with
    | some least, some greatest => some (least, greatest)
    | _, _ => none

/-- `coverage_warning`. -/
def coverageWarning (f : AiTxnPayloadFactory) : Option String :=
  let pool := f.workers * f.variantsPerWorker
  if pool < f.customers then
    some ("template pool is " ++ toString pool ++ " but " ++ toString f.customers ++
      " customers are configured: only " ++ toString pool ++ " customer partitions will receive " ++
      "traffic. Raise workers or variants_per_worker so workers*variants_per_worker >= customers.")
  else none

end AiTxnPayloadFactory

end AnalyticsTesting.Generator
