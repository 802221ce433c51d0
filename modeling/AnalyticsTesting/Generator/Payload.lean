import Mathlib.Data.Prod.Lex
import Mathlib.Data.Rat.Defs
import Mathlib.Tactic.Ring

set_option autoImplicit false

/-! # OTLP log payloads: templates, stamping, and the template pool

`generator/src/payload.py`, and the template part of `payload_ai_txn.py`, which has the same
interface. A request is built once as a template; each send only edits its sequence numbers and
timestamps in place.

`RequestTemplate.seqValues` and `records` are in the source references into the request itself
(`live = list(request.resource_logs[0].scope_logs[0].log_records)`). Here a handle is the position
of the `AnyValue` inside the attributes of its record, and stamping edits `request.logRecords`
through it. The two payload kinds differ only in the handle (`SeqHandle`): the generic one holds
`bench.seq` as an integer, the ai_txn one holds `bench.seq` and `snx.sequence_id` as text.

What the records contain besides the sequence fields is drawn from the seeded random stream and
configured data; it is the parameter `Content` here, so that everything below holds for any
content. -/

namespace AnalyticsTesting.Generator

/-! ## The OTLP messages -/

/-- `common_pb2.AnyValue`: the members `_kv` sets. -/
inductive AnyValue
  | boolValue (b : Bool)
  | intValue (i : Int)
  | doubleValue (x : ℚ)
  | stringValue (s : String)
  deriving DecidableEq

/-- `common_pb2.KeyValue`. -/
structure KeyValue where
  key : String
  value : AnyValue
  deriving DecidableEq

/-- `logs_pb2.LogRecord`. -/
structure LogRecord where
  timeUnixNano : Nat
  observedTimeUnixNano : Nat
  severityNumber : Nat
  severityText : String
  body : String
  traceId : List UInt8
  spanId : List UInt8
  flags : Nat
  attributes : List KeyValue
  deriving DecidableEq

/-- `logs_service_pb2.ExportLogsServiceRequest`, with the one `ResourceLogs` and the one
    `ScopeLogs` a template has. -/
structure ExportLogsServiceRequest where
  resource : List KeyValue
  scopeName : String
  scopeVersion : String
  logRecords : List LogRecord
  deriving DecidableEq

/-- Assign to the `AnyValue` behind position `i`. -/
def setValue (attrs : List KeyValue) (i : Nat) (v : AnyValue) : List KeyValue :=
  attrs.modify i fun kv => { kv with value := v }

/-- Read the `AnyValue` behind position `i`. -/
def getValue (attrs : List KeyValue) (i : Nat) : Option AnyValue := attrs[i]?.map (·.value)

@[simp] theorem setValue_keys (attrs : List KeyValue) (i : Nat) (v : AnyValue) :
    (setValue attrs i v).map (·.key) = attrs.map (·.key) := by
  induction attrs generalizing i with
  | nil => simp [setValue]
  | cons kv rest ih =>
      cases i with
      | zero => simp [setValue]
      | succ i => simpa [setValue] using ih i

theorem getValue_setValue_self {attrs : List KeyValue} {i : Nat} (v : AnyValue)
    (h : i < attrs.length) : getValue (setValue attrs i v) i = some v := by
  simp [getValue, setValue, List.getElem?_eq_getElem h]

theorem getValue_setValue_of_ne {attrs : List KeyValue} {i j : Nat} (v : AnyValue) (h : i ≠ j) :
    getValue (setValue attrs i v) j = getValue attrs j := by
  simp [getValue, setValue, h]

/-! ## Handles on the sequence fields -/

/-- The mutable sequence field(s) of a record, as `_find_seq_value` locates them. Positions depend
    on the attribute keys only, which stamping never changes; the laws say that what `write` puts
    there is what `Carries` reads. -/
class SeqHandle (η : Type) where
  /-- `_find_seq_value(record)`; `none` where it raises `RuntimeError`. -/
  findSeqValue : List KeyValue → Option η
  /-- Assign a sequence number through the handle; `none` where protobuf refuses the value. -/
  write : η → Nat → List KeyValue → Option (List KeyValue)
  /-- The record carries this sequence number in every field that identifies it. -/
  Carries : Nat → List KeyValue → Prop
  find_write : ∀ {h : η} {n : Nat} {attrs attrs' : List KeyValue},
    write h n attrs = some attrs' → findSeqValue attrs' = findSeqValue attrs
  carries_write : ∀ {h : η} {n : Nat} {attrs attrs' : List KeyValue},
    findSeqValue attrs = some h → write h n attrs = some attrs' → Carries n attrs'

/-- Position of the first attribute with this key. -/
def firstWithKey (key : String) (attrs : List KeyValue) : Option Nat :=
  (attrs.map (·.key)).findIdx? (· == key)

theorem firstWithKey_spec {key : String} {attrs : List KeyValue} {i : Nat}
    (h : firstWithKey key attrs = some i) :
    i < attrs.length ∧ (attrs.map (·.key))[i]? = some key := by
  obtain ⟨hlt, hkey, _⟩ := List.findIdx?_eq_some_iff_getElem.1 h
  have hlen : i < attrs.length := by simpa using hlt
  refine ⟨hlen, ?_⟩
  rw [List.getElem?_eq_getElem hlt]
  simpa using hkey

/-- Position of the last attribute with this key: the source's loop keeps overwriting. -/
def lastWithKey (key : String) (attrs : List KeyValue) : Option Nat :=
  ((attrs.map (·.key)).zipIdx).foldl (fun found a => if a.1 == key then some a.2 else found) none

theorem lastWithKey_foldl_spec (key : String) (keys : List String) :
    ∀ (n : Nat) (found : Option Nat) (i : Nat),
      (keys.zipIdx n).foldl (fun found a => if a.1 == key then some a.2 else found) found = some i →
      found = some i ∨ (n ≤ i ∧ keys[i - n]? = some key) := by
  induction keys with
  | nil => intro n found i h; exact Or.inl (by simpa using h)
  | cons k keys ih =>
      intro n found i h
      rw [List.zipIdx_cons, List.foldl_cons] at h
      rcases ih (n + 1) _ i h with hfound | ⟨hle, hget⟩
      · by_cases hk : k = key
        · have hi : n = i := by simpa [hk] using hfound
          subst hi
          exact Or.inr ⟨le_rfl, by simp [hk]⟩
        · exact Or.inl (by simpa [hk] using hfound)
      · refine Or.inr ⟨by omega, ?_⟩
        rw [show i - n = (i - (n + 1)) + 1 by omega]
        simpa using hget

theorem lastWithKey_spec {key : String} {attrs : List KeyValue} {i : Nat}
    (h : lastWithKey key attrs = some i) :
    i < attrs.length ∧ (attrs.map (·.key))[i]? = some key := by
  rcases lastWithKey_foldl_spec key _ 0 none i h with hnone | ⟨_, hget⟩
  · simp at hnone
  · have hlt := (List.getElem?_eq_some_iff.1 hget).1
    exact ⟨by simpa using hlt, by simpa using hget⟩

/-- The handle of the generic payload: `bench.seq` as an `int_value`. -/
structure BenchSeq where
  seq : Nat
  deriving DecidableEq

/-- `PayloadFactory._find_seq_value` and the assignment `value.int_value = seq`, which raises
    `ValueError` outside the range of an int64. -/
instance : SeqHandle BenchSeq where
  findSeqValue attrs := (firstWithKey "bench.seq" attrs).map BenchSeq.mk
  write h n attrs := if n < 2 ^ 63 then some (setValue attrs h.seq (.intValue n)) else none
  Carries n attrs :=
    ∃ i, firstWithKey "bench.seq" attrs = some i ∧ getValue attrs i = some (.intValue n)
  find_write := by
    intro h n attrs attrs' hw
    split at hw
    · obtain rfl := by simpa using hw
      simp only [firstWithKey, setValue_keys]
    · simp at hw
  carries_write := by
    intro h n attrs attrs' hf hw
    obtain ⟨i, hi, rfl⟩ := Option.map_eq_some_iff.1 hf
    split at hw
    · obtain rfl := by simpa using hw
      exact ⟨i, by simpa only [firstWithKey, setValue_keys] using hi,
        getValue_setValue_self _ (firstWithKey_spec hi).1⟩
    · simp at hw

/-- The handle of the ai_txn payload: `bench.seq` and `snx.sequence_id`, both as text. -/
structure BenchSnx where
  bench : Nat
  snx : Nat
  deriving DecidableEq

/-- `AiTxnPayloadFactory._find_seq_value` and the two `string_value` assignments of its `stamp`. -/
instance : SeqHandle BenchSnx where
  findSeqValue attrs :=
    match lastWithKey "bench.seq" attrs, lastWithKey "snx.sequence_id" attrs with
    | some b, some s => some ⟨b, s⟩
    | _, _ => none
  write h n attrs :=
    some (setValue (setValue attrs h.bench (.stringValue (toString n))) h.snx
      (.stringValue (toString n)))
  Carries n attrs :=
    ∃ b s, lastWithKey "bench.seq" attrs = some b ∧ lastWithKey "snx.sequence_id" attrs = some s ∧
      getValue attrs b = some (.stringValue (toString n)) ∧
      getValue attrs s = some (.stringValue (toString n))
  find_write := by
    intro h n attrs attrs' hw
    obtain rfl := by simpa using hw
    simp only [lastWithKey, setValue_keys]
  carries_write := by
    intro h n attrs attrs' hf hw
    obtain rfl := by simpa using hw
    split at hf
    case h_2 => simp at hf
    case h_1 b s hb hs =>
      obtain rfl := by simpa using hf
      obtain ⟨hblt, hbkey⟩ := lastWithKey_spec hb
      obtain ⟨hslt, hskey⟩ := lastWithKey_spec hs
      -- the two keys differ, so the second assignment leaves the first alone
      have hne : s ≠ b := by
        rintro rfl
        simp [hbkey] at hskey
      have hlen : s < (setValue attrs b (.stringValue (toString n))).length := by
        simpa [setValue] using hslt
      refine ⟨b, s, by simpa only [lastWithKey, setValue_keys] using hb,
        by simpa only [lastWithKey, setValue_keys] using hs, ?_, getValue_setValue_self _ hlen⟩
      rw [getValue_setValue_of_ne _ hne]
      exact getValue_setValue_self _ hblt

/-! ## Templates -/

variable {η : Type} [SeqHandle η]

/-- One prebuilt export request plus the handles on its mutable fields, one per record. -/
structure RequestTemplate (η : Type) where
  request : ExportLogsServiceRequest
  seqValues : List η
  recordCount : Nat
  approxBytes : Nat
  /-- Set by the ai_txn factory only: the customer partition this template feeds. -/
  customerId : Option Nat
  deriving DecidableEq

namespace RequestTemplate

/-- The template with record `k` replaced: an edit of the request it wraps. -/
def setRecord (t : RequestTemplate η) (k : Nat) (r : LogRecord) : RequestTemplate η :=
  { t with request := { t.request with logRecords := t.request.logRecords.set k r } }

omit [SeqHandle η] in
@[simp] theorem setRecord_logRecords (t : RequestTemplate η) (k : Nat) (r : LogRecord) :
    (t.setRecord k r).request.logRecords = t.request.logRecords.set k r := rfl

omit [SeqHandle η] in
@[simp] theorem setRecord_seqValues (t : RequestTemplate η) (k : Nat) (r : LogRecord) :
    (t.setRecord k r).seqValues = t.seqValues := rfl

omit [SeqHandle η] in
@[simp] theorem setRecord_recordCount (t : RequestTemplate η) (k : Nat) (r : LogRecord) :
    (t.setRecord k r).recordCount = t.recordCount := rfl

/-- One iteration of the loop in `stamp`: the sequence number and the timestamps of record `k`. -/
def stampRecord (t : RequestTemplate η) (k seq nowNs : Nat) : Option (RequestTemplate η) :=
  match t.seqValues[k]?, t.request.logRecords[k]? with
  | some h, some r =>
      (SeqHandle.write h seq r.attributes).map fun attrs =>
        t.setRecord k
          { r with attributes := attrs, timeUnixNano := nowNs, observedTimeUnixNano := nowNs }
  | _, _ => none

/-- `RequestTemplate.stamp`: a contiguous range from `firstSeq` and one wall-clock time; returns
    the number after the range as well. `none` where an assignment raises. -/
def stamp (t : RequestTemplate η) (firstSeq nowNs : Nat) : Option (RequestTemplate η × Nat) :=
  let n := min t.seqValues.length t.request.logRecords.length
  ((List.range n).foldlM (fun t k => stampRecord t k (firstSeq + k) nowNs) t).map
    fun t' => (t', firstSeq + n)

/-- A template of `batch` records with a handle on each of them. -/
structure Wf (t : RequestTemplate η) (batch : Nat) : Prop where
  length_records : t.request.logRecords.length = batch
  recordCount_eq : t.recordCount = batch
  handles : t.request.logRecords.map (fun r => SeqHandle.findSeqValue r.attributes)
    = t.seqValues.map some

/-- The first `k` records carry the numbers from `first` on. -/
def CarriesUpTo (t : RequestTemplate η) (first k : Nat) : Prop :=
  ∀ j < k, ∃ r, t.request.logRecords[j]? = some r ∧
    SeqHandle.Carries η (first + j) r.attributes

theorem Wf.findSeqValue_eq {t : RequestTemplate η} {batch k : Nat} (hwf : t.Wf batch)
    {h : η} {r : LogRecord} (hh : t.seqValues[k]? = some h)
    (hr : t.request.logRecords[k]? = some r) :
    SeqHandle.findSeqValue r.attributes = some h := by
  have hk := congrArg (fun l => l[k]?) hwf.handles
  simpa [hh, hr] using hk

/-- **What one stamping step does**: record `k` carries the number, no other record changes, and
the template stays one. -/
theorem stampRecord_spec {t t' : RequestTemplate η} {batch k seq nowNs : Nat} (hwf : t.Wf batch)
    (h : t.stampRecord k seq nowNs = some t') :
    t'.Wf batch ∧
      (∃ r, t'.request.logRecords[k]? = some r ∧ SeqHandle.Carries η seq r.attributes) ∧
      ∀ j, j ≠ k → t'.request.logRecords[j]? = t.request.logRecords[j]? := by
  unfold stampRecord at h
  split at h
  case h_2 => simp at h
  case h_1 hd r hhd hr =>
    obtain ⟨attrs, hw, rfl⟩ := Option.map_eq_some_iff.1 h
    have hfind := hwf.findSeqValue_eq hhd hr
    obtain ⟨hk, hget⟩ := List.getElem?_eq_some_iff.1 hr
    refine ⟨⟨by simpa using hwf.length_records, by simpa using hwf.recordCount_eq, ?_⟩, ?_, ?_⟩
    · -- the attribute keys, hence the handles, are untouched
      rw [setRecord_logRecords, setRecord_seqValues, ← hwf.handles, List.map_set,
        SeqHandle.find_write hw]
      refine List.ext_getElem? fun j => ?_
      by_cases hj : j = k
      · subst hj
        simp [hk, hget]
      · simp [List.getElem?_set_ne (Ne.symm hj)]
    · refine ⟨{ r with attributes := attrs, timeUnixNano := nowNs, observedTimeUnixNano := nowNs },
        ?_, SeqHandle.carries_write hfind hw⟩
      simp [hk]
    · intro j hj
      simp [List.getElem?_set_ne (Ne.symm hj)]

theorem stampRecord_carriesUpTo {t t' : RequestTemplate η} {batch k first nowNs : Nat}
    (hwf : t.Wf batch) (hup : t.CarriesUpTo first k)
    (h : t.stampRecord k (first + k) nowNs = some t') : t'.CarriesUpTo first (k + 1) := by
  obtain ⟨_, hk, hother⟩ := stampRecord_spec hwf h
  intro j hj
  by_cases hjk : j = k
  · subst hjk; exact hk
  · rw [hother j hjk]
    exact hup j (by omega)

end RequestTemplate

/-- The records of a request carry exactly the consecutive numbers `first .. first + count - 1`. -/
def ExportLogsServiceRequest.Carries (η : Type) [SeqHandle η] (request : ExportLogsServiceRequest)
    (first count : Nat) : Prop :=
  request.logRecords.length = count ∧ ∀ j < count, ∃ r, request.logRecords[j]? = some r ∧
    SeqHandle.Carries η (first + j) r.attributes

theorem RequestTemplate.Wf.carries {t : RequestTemplate η} {batch first : Nat} (hwf : t.Wf batch)
    (h : t.CarriesUpTo first batch) : t.request.Carries η first batch :=
  ⟨hwf.length_records, h⟩

/-! ## The pool -/

/-- What the seeded stream and the configured data put into a template. `customer` is set by the
    ai_txn factory only. -/
structure Content (ρ : Type) where
  /-- `random.Random(seed)`. -/
  newRng : Int → ρ
  /-- The resource attributes, and the service chosen for the template. -/
  resource : Option Nat → ρ → (List KeyValue × String) × ρ
  /-- `_build_record`. -/
  record : Option Nat → String → ρ → LogRecord × ρ
  scopeName : String
  scopeVersion : String
  /-- protobuf's `ByteSize`. -/
  byteSize : ExportLogsServiceRequest → Nat

variable {ρ : Type}

/-- `[self._build_record(rng, …) for _ in range(self.batch_size)]`. -/
def buildRecords (content : Content ρ) (customer : Option Nat) (service : String) :
    Nat → ρ → List LogRecord × ρ
  | 0, rng => ([], rng)
  | n + 1, rng =>
      let (r, rng) := content.record customer service rng
      let (rs, rng) := buildRecords content customer service n rng
      (r :: rs, rng)

@[simp] theorem length_buildRecords (content : Content ρ) (customer : Option Nat)
    (service : String) (n : Nat) (rng : ρ) :
    (buildRecords content customer service n rng).1.length = n := by
  induction n generalizing rng with
  | zero => rfl
  | succ n ih => simp [buildRecords, ih]

/-- `[self._find_seq_value(r) for r in live]`. -/
def findSeqValues (η : Type) [SeqHandle η] : List LogRecord → Option (List η)
  | [] => some []
  | r :: rs => do
      let h ← SeqHandle.findSeqValue r.attributes
      let hs ← findSeqValues η rs
      return h :: hs

theorem findSeqValues_spec {rs : List LogRecord} {hs : List η}
    (h : findSeqValues η rs = some hs) :
    rs.map (fun r => SeqHandle.findSeqValue r.attributes) = hs.map some := by
  induction rs generalizing hs with
  | nil =>
      obtain rfl : [] = hs := by simpa [findSeqValues] using h
      rfl
  | cons r rs ih =>
      simp only [findSeqValues, Option.bind_eq_bind, Option.bind_eq_some_iff] at h
      obtain ⟨hd, hhd, tl, htl, heq⟩ := h
      obtain rfl : hd :: tl = hs := by simpa using heq
      simp [hhd, ih htl]

/-- `_build_template`; `none` where `_find_seq_value` raises. -/
def buildTemplate (η : Type) [SeqHandle η] (content : Content ρ) (batchSize : Nat)
    (customer : Option Nat) (rng : ρ) : Option (RequestTemplate η) :=
  let ((resource, service), rng) := content.resource customer rng
  let (prototypes, _) := buildRecords content customer service batchSize rng
  let request : ExportLogsServiceRequest :=
    { resource, scopeName := content.scopeName, scopeVersion := content.scopeVersion,
      logRecords := prototypes }
  (findSeqValues η prototypes).map fun seqValues =>
    { request, seqValues, recordCount := prototypes.length,
      approxBytes := content.byteSize request, customerId := customer }

theorem buildTemplate_wf {content : Content ρ} {batchSize : Nat} {customer : Option Nat} {rng : ρ}
    {t : RequestTemplate η} (h : buildTemplate η content batchSize customer rng = some t) :
    t.Wf batchSize := by
  unfold buildTemplate at h
  obtain ⟨hs, hfind, rfl⟩ := Option.map_eq_some_iff.1 h
  exact ⟨length_buildRecords .., length_buildRecords .., findSeqValues_spec hfind⟩

/-- `_build_pool`: template `i` draws from its own stream, seeded `seed * 1_000_003 + i`. -/
def buildPool (η : Type) [SeqHandle η] (content : Content ρ) (batchSize : Nat) (seed : Int)
    (customerOf : Nat → Option Nat) : List Nat → Option (List (RequestTemplate η))
  | [] => some []
  | i :: is => do
      let t ← buildTemplate η content batchSize (customerOf i)
        (content.newRng (seed * 1000003 + i))
      let ts ← buildPool η content batchSize seed customerOf is
      return t :: ts

theorem buildPool_spec {content : Content ρ} {batchSize : Nat} {seed : Int}
    {customerOf : Nat → Option Nat} {is : List Nat} {ts : List (RequestTemplate η)}
    (h : buildPool η content batchSize seed customerOf is = some ts) :
    ts.length = is.length ∧ ∀ t ∈ ts, t.Wf batchSize := by
  induction is generalizing ts with
  | nil =>
      obtain rfl : [] = ts := by simpa [buildPool] using h
      simp
  | cons i is ih =>
      simp only [buildPool, Option.bind_eq_bind, Option.bind_eq_some_iff] at h
      obtain ⟨t, ht, tl, htl, heq⟩ := h
      obtain rfl : t :: tl = ts := by simpa using heq
      obtain ⟨hlen, hwf⟩ := ih htl
      refine ⟨by simp [hlen], ?_⟩
      intro u hu
      rcases List.mem_cons.1 hu with rfl | hu
      · exact buildTemplate_wf ht
      · exact hwf u hu

/-- `PayloadFactory`: the template pool of one generator, partitioned by worker. Worker `w` owns
    `templates[w * variants : (w + 1) * variants]`. -/
structure PayloadFactory (η : Type) [SeqHandle η] where
  genId : String
  batchSize : Nat
  seed : Int
  workers : Nat
  variantsPerWorker : Nat
  templates : List (RequestTemplate η)
  workers_pos : 0 < workers
  variants_pos : 0 < variantsPerWorker
  length_templates : templates.length = workers * variantsPerWorker
  templates_wf : ∀ t ∈ templates, t.Wf batchSize

namespace PayloadFactory

/-- `PayloadFactory.__init__` with `_build_pool`; `none` where building a template raises. -/
def init (η : Type) [SeqHandle η] (content : Content ρ) (genId : String) (seed : Int)
    (batchSize : Nat) (workers variantsPerWorker : Int) (customerOf : Nat → Option Nat) :
    Option (PayloadFactory η) :=
  let w := max 1 workers.toNat
  let v := max 1 variantsPerWorker.toNat
  match h : buildPool η content batchSize seed customerOf (List.range (w * v)) with
  | none => none
  | some templates => some
      { genId, batchSize, seed, workers := w, variantsPerWorker := v, templates,
        workers_pos := by omega, variants_pos := by omega,
        length_templates := by simpa using (buildPool_spec h).1,
        templates_wf := (buildPool_spec h).2 }

/-- The templates of a factory are the pool `_build_pool` builds. -/
theorem buildPool_of_init {content : Content ρ} {genId : String} {seed : Int} {batchSize : Nat}
    {workers variantsPerWorker : Int} {customerOf : Nat → Option Nat} {f : PayloadFactory η}
    (h : init η content genId seed batchSize workers variantsPerWorker customerOf = some f) :
    buildPool η content batchSize seed customerOf
      (List.range (max 1 workers.toNat * max 1 variantsPerWorker.toNat)) = some f.templates := by
  unfold init at h
  dsimp only at h
  split at h
  · simp at h
  · next hpool =>
      obtain rfl := Option.some.inj h
      exact hpool

theorem exists_init {content : Content ρ} {seed : Int} {batchSize : Nat}
    {workers variantsPerWorker : Int} {customerOf : Nat → Option Nat}
    {templates : List (RequestTemplate η)} (genId : String)
    (h : buildPool η content batchSize seed customerOf
      (List.range (max 1 workers.toNat * max 1 variantsPerWorker.toNat)) = some templates) :
    ∃ f, init η content genId seed batchSize workers variantsPerWorker customerOf = some f := by
  unfold init
  dsimp only
  split
  · next hnone => simp [hnone] at h
  · exact ⟨_, rfl⟩

/-- Where in the pool `template_for` looks. -/
def templateIndex (f : PayloadFactory η) (workerId variant : Nat) : Nat :=
  (workerId % f.workers) * f.variantsPerWorker + variant % f.variantsPerWorker

/-- `template_for`, on the pool as built. -/
def templateFor (f : PayloadFactory η) (workerId variant : Nat) : Option (RequestTemplate η) :=
  f.templates[f.templateIndex workerId variant]?

/-- **Workers never share a template**, as long as there are no more of them than the pool was
built for. -/
theorem templateIndex_ne (f : PayloadFactory η) {w w' : Nat} (hw : w < f.workers)
    (hw' : w' < f.workers) (h : w ≠ w') (v v' : Nat) :
    f.templateIndex w v ≠ f.templateIndex w' v' := by
  have hv : v % f.variantsPerWorker < f.variantsPerWorker := Nat.mod_lt _ f.variants_pos
  have hv' : v' % f.variantsPerWorker < f.variantsPerWorker := Nat.mod_lt _ f.variants_pos
  have hdiv : ∀ a b : Nat, b < f.variantsPerWorker →
      (a * f.variantsPerWorker + b) / f.variantsPerWorker = a := by
    intro a b hb
    rw [Nat.add_comm, Nat.add_mul_div_right _ _ f.variants_pos, Nat.div_eq_of_lt hb, Nat.zero_add]
  intro heq
  have hquot := congrArg (· / f.variantsPerWorker) heq
  simp only [templateIndex, Nat.mod_eq_of_lt hw, Nat.mod_eq_of_lt hw', hdiv _ _ hv,
    hdiv _ _ hv'] at hquot
  exact h hquot

end PayloadFactory

/-! ## Sequence ranges -/

/-- `seq_ranges_overlap`: neighbours in `sorted(ranges)` are compared. -/
def seqRangesOverlap (ranges : List (Int × Int)) : Bool :=
  let ordered := ranges.mergeSort fun a b => decide (toLex a ≤ toLex b)
  (ordered.zip ordered.tail).any fun p => decide (p.2.1 ≤ p.1.2)

end AnalyticsTesting.Generator
