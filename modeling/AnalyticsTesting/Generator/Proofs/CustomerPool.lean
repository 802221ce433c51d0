import AnalyticsTesting.Generator.CustomerPool
import AnalyticsTesting.Generator.Proofs.WireSize
import AnalyticsTesting.Lib.RoundRobin

set_option autoImplicit false

/-! # Which customers the pool covers

Template `i` is dealt to customer `i % customers + 1`. `exists_coverage` says what comes of that for
every size of the pool: the customers covered are the first ones, up to the size of the pool; each
has its fair share of the templates; the warning is there exactly if one is left out; and
`template_for` goes through the pool once. -/

namespace AnalyticsTesting.Generator

variable {ρ : Type}

/-- What a pool of `pool` templates does for `customers` customers. -/
structure Coverage (f : AiTxnPayloadFactory) (workers variants customers : Nat) : Prop where
  /-- Every template carries a customer. -/
  all_carry : ∀ t ∈ f.templates, ∃ c, t.customerId = some c
  mem_iff : ∀ c, c ∈ f.customerIds ↔ 1 ≤ c ∧ c ≤ min (workers * variants) customers
  even : ∀ c ∈ f.customerIds, ∀ c' ∈ f.customerIds,
    f.customerIds.count c ≤ f.customerIds.count c' + 1
  warning_iff : f.coverageWarning = none ↔ ∀ c, 1 ≤ c → c ≤ customers → c ∈ f.customerIds
  /-- Worker by worker and variant by variant, `template_for` returns the pool. -/
  enumerates : ((List.range workers).flatMap fun workerId =>
      (List.range variants).map fun variant => f.templateFor workerId variant)
    = f.templates.map some

/-- Each template is built for the customer of its index. -/
theorem buildPool_customerId {η : Type} [SeqHandle η] {content : Content ρ} {batchSize : Nat}
    {seed : Int} {customerOf : Nat → Option Nat} {is : List Nat} {ts : List (RequestTemplate η)}
    (h : buildPool η content batchSize seed customerOf is = some ts) :
    ts.map (·.customerId) = is.map customerOf := by
  induction is generalizing ts with
  | nil =>
      obtain rfl : [] = ts := by simpa [buildPool] using h
      rfl
  | cons i is ih =>
      simp only [buildPool, Option.bind_eq_bind, Option.bind_eq_some_iff] at h
      obtain ⟨t, ht, tl, htl, heq⟩ := h
      obtain rfl : t :: tl = ts := by simpa using heq
      unfold buildTemplate at ht
      obtain ⟨hs, -, rfl⟩ := Option.map_eq_some_iff.1 ht
      rw [List.map_cons, List.map_cons, ih htl]

/-- Inside the ranges it was built for, `template_for` reads the pool row by row. -/
theorem templateFor_enumerates {η : Type} [SeqHandle η] (f : PayloadFactory η) :
    ((List.range f.workers).flatMap fun workerId =>
        (List.range f.variantsPerWorker).map fun variant => f.templateFor workerId variant)
      = f.templates.map some := by
  have hrows : ((List.range f.workers).flatMap fun workerId =>
      (List.range f.variantsPerWorker).map fun variant => f.templateFor workerId variant)
      = ((List.range f.workers).flatMap fun workerId =>
          (List.range f.variantsPerWorker).map fun variant =>
            workerId * f.variantsPerWorker + variant).map fun i => f.templates[i]? := by
    rw [List.map_flatMap]
    refine List.flatMap_congr fun w hw => ?_
    rw [List.map_map]
    refine List.map_congr_left fun v hv => ?_
    simp only [PayloadFactory.templateFor, PayloadFactory.templateIndex, Function.comp_apply,
      Nat.mod_eq_of_lt (List.mem_range.1 hw), Nat.mod_eq_of_lt (List.mem_range.1 hv)]
  rw [hrows, RoundRobin.flatMap_range_range, ← f.length_templates]
  refine List.ext_getElem (by simp) fun i hi _ => ?_
  have hlt : i < f.templates.length := by simpa using hi
  simp [List.getElem?_eq_getElem hlt]

/-- A factory has the sizes it is built with. -/
theorem aiTxnFactory_sizes {data : AiTxnData ρ} {genId : String} {seed : Int} {batchSize : Nat}
    {workers variants customers : Int} {f : PayloadFactory BenchSnx}
    (h : aiTxnFactory data genId seed batchSize workers variants customers = some f) :
    f.workers = max 1 workers.toNat ∧ f.variantsPerWorker = max 1 variants.toNat := by
  unfold aiTxnFactory PayloadFactory.init at h
  dsimp only at h
  split at h
  · simp at h
  · obtain rfl := Option.some.inj h
    exact ⟨rfl, rfl⟩

/-- Customers are numbered from 1 on. -/
theorem mem_succ_deal_iff {pool customers c : Nat} (hcustomers : 1 ≤ customers) :
    c ∈ (RoundRobin.deal pool customers).map (· + 1) ↔ 1 ≤ c ∧ c ≤ min pool customers := by
  simp only [List.mem_map, RoundRobin.mem_deal_iff hcustomers]
  constructor
  · rintro ⟨p, hp, rfl⟩
    omega
  · rintro ⟨hone, hle⟩
    exact ⟨c - 1, by omega, by omega⟩

theorem count_succ_deal_le {pool customers c c' : Nat} (hcustomers : 1 ≤ customers)
    (hc : c ∈ (RoundRobin.deal pool customers).map (· + 1))
    (hc' : c' ∈ (RoundRobin.deal pool customers).map (· + 1)) :
    ((RoundRobin.deal pool customers).map (· + 1)).count c
      ≤ ((RoundRobin.deal pool customers).map (· + 1)).count c' + 1 := by
  obtain ⟨p, hp, rfl⟩ := List.mem_map.1 hc
  obtain ⟨q, hq, rfl⟩ := List.mem_map.1 hc'
  have hinj : Function.Injective (· + 1 : Nat → Nat) := fun _ _ h => Nat.succ.inj h
  rw [List.count_map_of_injective _ _ hinj, List.count_map_of_injective _ _ hinj]
  rw [RoundRobin.mem_deal_iff hcustomers, lt_min_iff] at hp hq
  exact RoundRobin.count_deal_le hcustomers hp.2 hq.2

/-- The factory is built, with the sizes asked for and its templates dealt in turn. -/
theorem exists_init (data : AiTxnData ρ) (genId : String) (seed : Int) (batchSize : Nat)
    {workers variants customers : Nat} (hworkers : 1 ≤ workers) (hvariants : 1 ≤ variants)
    (hcustomers : 1 ≤ customers) :
    ∃ f, AiTxnPayloadFactory.init data genId seed batchSize workers variants customers = some f ∧
      f.workers = workers ∧ f.variantsPerWorker = variants ∧ f.customers = customers ∧
      f.templates.map (·.customerId)
        = (RoundRobin.deal (workers * variants) customers).map fun p => some (p + 1) := by
  obtain ⟨g, hg⟩ := exists_aiTxnFactory data genId seed batchSize workers variants customers
  obtain ⟨hw, hv⟩ := aiTxnFactory_sizes hg
  have hcust := buildPool_customerId (buildPool_of_aiTxnFactory hg)
  simp only [Int.toNat_natCast, Nat.max_eq_right hworkers, Nat.max_eq_right hvariants,
    Nat.max_eq_right hcustomers] at hw hv hcust
  refine ⟨_, Option.map_eq_some_iff.2 ⟨g, hg, rfl⟩, hw, hv, ?_, ?_⟩
  · show max 1 (customers : Int).toNat = customers
    omega
  · rw [RoundRobin.deal, List.map_map]
    exact hcust

/-- **Coverage of the pool**: whatever is drawn, the factory is built, and its pool covers the
    customers as `Coverage` says. -/
theorem exists_coverage (data : AiTxnData ρ) (genId : String) (seed : Int) (batchSize : Nat)
    {workers variants customers : Nat} (hworkers : 1 ≤ workers) (hvariants : 1 ≤ variants)
    (hcustomers : 1 ≤ customers) :
    ∃ f, AiTxnPayloadFactory.init data genId seed batchSize workers variants customers = some f ∧
      Coverage f workers variants customers := by
  obtain ⟨f, hf, rfl, rfl, rfl, hdealt⟩ :=
    exists_init data genId seed batchSize hworkers hvariants hcustomers
  have hids : f.customerIds
      = (RoundRobin.deal (f.workers * f.variantsPerWorker) f.customers).map (· + 1) := by
    have hid : f.customerIds = (f.templates.map (·.customerId)).filterMap id := by
      simp [AiTxnPayloadFactory.customerIds, List.filterMap_map]
    rw [hid, hdealt, List.filterMap_map]
    exact congrFun List.filterMap_eq_map _
  have hmem : ∀ c, c ∈ f.customerIds ↔ 1 ≤ c ∧ c ≤ min (f.workers * f.variantsPerWorker)
      f.customers := by
    intro c
    rw [hids, mem_succ_deal_iff hcustomers]
  refine ⟨f, hf, ?_, hmem, ?_, ?_, templateFor_enumerates f.toPayloadFactory⟩
  · intro t ht
    have htc : t.customerId ∈ f.templates.map (·.customerId) := List.mem_map_of_mem ht
    rw [hdealt] at htc
    obtain ⟨p, -, hp⟩ := List.mem_map.1 htc
    exact ⟨p + 1, hp.symm⟩
  · intro c hc c' hc'
    rw [hids] at hc hc' ⊢
    exact count_succ_deal_le hcustomers hc hc'
  · have hwarn : f.coverageWarning = none ↔ f.customers ≤ f.workers * f.variantsPerWorker := by
      simp only [AiTxnPayloadFactory.coverageWarning]
      split <;> simp <;> omega
    rw [hwarn]
    constructor
    · intro hle c hone hc
      exact (hmem c).2 ⟨hone, le_min (hc.trans hle) hc⟩
    · intro hall
      -- the last customer is covered, so the pool reaches as far
      exact (le_min_iff.1 ((hmem f.customers).1 (hall _ hcustomers le_rfl)).2).1

/-- What `describe` reports: the first customers, as many as there are templates for. -/
theorem Coverage.covered_eq {f : AiTxnPayloadFactory} {workers variants customers : Nat}
    (h : Coverage f workers variants customers) :
    f.covered = List.range' 1 (min (workers * variants) customers) := by
  have hperm : f.customerIds.dedup.Perm (List.range' 1 (min (workers * variants) customers)) := by
    refine (List.perm_ext_iff_of_nodup (List.nodup_dedup _) List.nodup_range').2 fun c => ?_
    rw [List.mem_dedup, h.mem_iff, List.mem_range'_1]
    omega
  have hsorted : f.covered.Pairwise (· ≤ ·) := List.pairwise_mergeSort' (· ≤ ·) _
  have hrange : (List.range' 1 (min (workers * variants) customers)).Pairwise (· ≤ ·) :=
    (List.pairwise_lt_range' (s := 1)).imp Nat.le_of_lt
  exact ((List.mergeSort_perm _ _).trans hperm).eq_of_pairwise' hsorted hrange

/-- A pool of 32 templates and a hundred customers. -/
theorem coverage_hundredCustomers :
    ∃ f, AiTxnPayloadFactory.init (paddedData 0) paddedGenId 42 1 (8 : Nat) (4 : Nat) (100 : Nat)
      = some f ∧ Coverage f 8 4 100 :=
  exists_coverage (paddedData 0) paddedGenId 42 1 (by decide) (by decide) (by decide)

end AnalyticsTesting.Generator
