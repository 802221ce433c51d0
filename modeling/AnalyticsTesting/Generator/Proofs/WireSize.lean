import AnalyticsTesting.Generator.WireSize

set_option autoImplicit false

/-! # Which ai_txn batches fit on the wire

The guard compares the mean size of the templates as they were built with the limit. Stamping makes
every record larger: two timestamps, and a sequence number with more digits than the `0` it was
built with, twice. `growth` is by how much, and every batch that passes the guard fits if and only
if the templates do with their records grown to the largest number of the run (`fitsOnWire_iff`). -/

namespace AnalyticsTesting.Generator

open Protobuf

/-! ## Where the sequence fields are -/

theorem lastWithKey_foldl_of_not_mem {key : String} {keys : List String} (h : key ∉ keys) :
    ∀ (n : Nat) (found : Option Nat),
      (keys.zipIdx n).foldl (fun found a => if a.1 == key then some a.2 else found) found
        = found := by
  induction keys with
  | nil => exact fun n found => rfl
  | cons k keys ih =>
      intro n found
      rw [List.mem_cons, not_or] at h
      rw [List.zipIdx_cons, List.foldl_cons, ih h.2, if_neg (by simpa using Ne.symm h.1)]

/-- The last attribute with a key, where no other follows it. -/
theorem lastWithKey_append (before : List KeyValue) {key value : String} {after : List KeyValue}
    (h : key ∉ after.map (·.key)) :
    lastWithKey key (before ++ kv key value :: after) = some before.length := by
  unfold lastWithKey
  rw [List.map_append, List.map_cons, List.zipIdx_append, List.foldl_append, List.zipIdx_cons,
    List.foldl_cons, lastWithKey_foldl_of_not_mem h]
  simp [kv]

theorem rest_keys (d : Draw) :
    "bench.seq" ∉ d.rest.map (·.key) ∧ "snx.sequence_id" ∉ d.rest.map (·.key) := by
  unfold Draw.rest
  constructor <;> split_ifs <;> simp [kv]

/-- `_find_seq_value` finds the two fields of every ai_txn record where they are. -/
theorem findSeqValue_aiTxnRecord (genId : String) (d : Draw) :
    SeqHandle.findSeqValue (aiTxnRecord genId d).attributes = some (⟨0, 3⟩ : BenchSnx) := by
  obtain ⟨hseq, hsnx⟩ := rest_keys d
  have hbench : lastWithKey "bench.seq" (aiTxnRecord genId d).attributes = some 0 :=
    lastWithKey_append [] (by simpa [kv] using hseq)
  have hid : lastWithKey "snx.sequence_id" (aiTxnRecord genId d).attributes = some 3 :=
    lastWithKey_append [_, _, _] hsnx
  simp only [SeqHandle.findSeqValue, hbench, hid]

/-! ## Templates as they are built -/

section Built

variable {ρ : Type}

/-- A template of ai_txn records that has not been stamped. -/
structure Unstamped (genId : String) (t : RequestTemplate BenchSnx) : Prop where
  records : ∀ r ∈ t.request.logRecords, ∃ d, r = aiTxnRecord genId d
  approxBytes : t.approxBytes = byteSize t.request

theorem mem_buildRecords (genId : String) (data : AiTxnData ρ) (customer : Option Nat)
    (service : String) (n : Nat) (rng : ρ) :
    ∀ r ∈ (buildRecords (aiTxnContent genId data) customer service n rng).1,
      ∃ d, r = aiTxnRecord genId d := by
  induction n generalizing rng with
  | zero => simp [buildRecords]
  | succ n ih =>
      intro r hr
      unfold buildRecords at hr
      rcases List.mem_cons.1 hr with rfl | hr
      · exact ⟨_, rfl⟩
      · exact ih _ r hr

/-- `_build_template` of an ai_txn factory does not raise. -/
theorem exists_findSeqValues {genId : String} {rs : List LogRecord}
    (h : ∀ r ∈ rs, ∃ d, r = aiTxnRecord genId d) :
    ∃ hs, findSeqValues BenchSnx rs = some hs := by
  induction rs with
  | nil => exact ⟨[], rfl⟩
  | cons r rs ih =>
      obtain ⟨⟨d, rfl⟩, hrest⟩ := List.forall_mem_cons.1 h
      obtain ⟨hs, hhs⟩ := ih hrest
      exact ⟨⟨0, 3⟩ :: hs, by simp [findSeqValues, findSeqValue_aiTxnRecord, hhs]⟩

theorem buildTemplate_unstamped {genId : String} {data : AiTxnData ρ} {batchSize : Nat}
    {customer : Option Nat} {rng : ρ} {t : RequestTemplate BenchSnx}
    (h : buildTemplate BenchSnx (aiTxnContent genId data) batchSize customer rng = some t) :
    Unstamped genId t := by
  unfold buildTemplate at h
  obtain ⟨hs, -, rfl⟩ := Option.map_eq_some_iff.1 h
  exact ⟨mem_buildRecords genId data customer _ batchSize _, rfl⟩

theorem buildPool_unstamped {genId : String} {data : AiTxnData ρ} {batchSize : Nat} {seed : Int}
    {customerOf : Nat → Option Nat} {is : List Nat} {ts : List (RequestTemplate BenchSnx)}
    (h : buildPool BenchSnx (aiTxnContent genId data) batchSize seed customerOf is = some ts) :
    ∀ t ∈ ts, Unstamped genId t := by
  induction is generalizing ts with
  | nil =>
      obtain rfl : [] = ts := by simpa [buildPool] using h
      simp
  | cons i is ih =>
      simp only [buildPool, Option.bind_eq_bind, Option.bind_eq_some_iff] at h
      obtain ⟨t, ht, tl, htl, heq⟩ := h
      obtain rfl : t :: tl = ts := by simpa using heq
      exact List.forall_mem_cons.2 ⟨buildTemplate_unstamped ht, ih htl⟩

theorem buildPool_of_aiTxnFactory {data : AiTxnData ρ} {genId : String} {seed : Int}
    {batchSize : Nat} {workers variants customers : Int} {f : PayloadFactory BenchSnx}
    (h : aiTxnFactory data genId seed batchSize workers variants customers = some f) :
    buildPool BenchSnx (aiTxnContent genId data) batchSize seed
      (fun i => some (i % max 1 customers.toNat + 1))
      (List.range (max 1 workers.toNat * max 1 variants.toNat)) = some f.templates :=
  PayloadFactory.buildPool_of_init h

theorem aiTxnFactory_unstamped {data : AiTxnData ρ} {genId : String} {seed : Int} {batchSize : Nat}
    {workers variants customers : Int} {f : PayloadFactory BenchSnx}
    (h : aiTxnFactory data genId seed batchSize workers variants customers = some f) :
    ∀ t ∈ f.templates, Unstamped genId t := by
  exact buildPool_unstamped (buildPool_of_aiTxnFactory h)

theorem exists_buildTemplate (genId : String) (data : AiTxnData ρ) (batchSize : Nat)
    (customer : Option Nat) (rng : ρ) :
    ∃ t, buildTemplate BenchSnx (aiTxnContent genId data) batchSize customer rng = some t := by
  obtain ⟨hs, hhs⟩ := exists_findSeqValues
    (mem_buildRecords genId data customer _ batchSize
      ((aiTxnContent genId data).resource customer rng).2)
  exact ⟨_, Option.map_eq_some_iff.2 ⟨hs, hhs, rfl⟩⟩

/-- An ai_txn factory can always be built. -/
theorem exists_aiTxnFactory (data : AiTxnData ρ) (genId : String) (seed : Int) (batchSize : Nat)
    (workers variants customers : Int) :
    ∃ f, aiTxnFactory data genId seed batchSize workers variants customers = some f := by
  have hpool : ∀ is : List Nat, ∃ ts, buildPool BenchSnx (aiTxnContent genId data) batchSize seed
      (fun i => some (i % max 1 customers.toNat + 1)) is = some ts := by
    intro is
    induction is with
    | nil => exact ⟨[], rfl⟩
    | cons i is ih =>
        obtain ⟨ts, hts⟩ := ih
        obtain ⟨t, ht⟩ := exists_buildTemplate genId data batchSize
          (some (i % max 1 customers.toNat + 1)) (data.newRng (seed * 1000003 + i))
        exact ⟨t :: ts, by
          unfold buildPool
          rw [show (aiTxnContent genId data).newRng = data.newRng from rfl, ht, hts]
          rfl⟩
  obtain ⟨ts, hts⟩ := hpool _
  exact PayloadFactory.exists_init genId hts

end Built

/-! ## Stamping -/

/-- Record `r` with the number `n` and a time. -/
def stampedRecord (r : LogRecord) (n nowNs : Nat) : LogRecord :=
  { r with
    attributes := setValue (setValue r.attributes 0 (.stringValue (toString n))) 3
      (.stringValue (toString n))
    timeUnixNano := nowNs
    observedTimeUnixNano := nowNs }

/-- The first `k` records stamped from `first` on. -/
def stampedUpTo (rs : List LogRecord) (first nowNs k : Nat) : List LogRecord :=
  rs.mapIdx fun j r => if j < k then stampedRecord r (first + j) nowNs else r

/-- The handles of an ai_txn template. -/
theorem seqValues_eq {genId : String} {t : RequestTemplate BenchSnx} {batch : Nat}
    (hwf : t.Wf batch) (ht : Unstamped genId t) : ∀ h ∈ t.seqValues, h = ⟨0, 3⟩ := by
  intro h hh
  have hmem : some h ∈ t.seqValues.map some := List.mem_map_of_mem hh
  rw [← hwf.handles, List.mem_map] at hmem
  obtain ⟨r, hr, heq⟩ := hmem
  obtain ⟨d, rfl⟩ := ht.records r hr
  rw [findSeqValue_aiTxnRecord] at heq
  exact (Option.some.inj heq).symm

theorem stampedUpTo_zero (rs : List LogRecord) (first nowNs : Nat) :
    stampedUpTo rs first nowNs 0 = rs := by
  refine List.ext_getElem? fun j => ?_
  simp [stampedUpTo]

/-- Stamping one record more. -/
theorem stampedUpTo_set {rs : List LogRecord} {k : Nat} (hk : k < rs.length) (first nowNs : Nat) :
    (stampedUpTo rs first nowNs k).set k (stampedRecord rs[k] (first + k) nowNs)
      = stampedUpTo rs first nowNs (k + 1) := by
  refine List.ext_getElem? fun j => ?_
  rcases eq_or_ne j k with rfl | hne
  · simp [stampedUpTo, hk]
  · rw [List.getElem?_set_ne hne.symm]
    simp only [stampedUpTo, List.getElem?_mapIdx]
    have hiff : j < k + 1 ↔ j < k := by omega
    simp only [hiff]

/-- Stamping the records one after the other. -/
theorem foldlM_stampRecord_eq {t : RequestTemplate BenchSnx} {batch first nowNs : Nat}
    (hlen : t.request.logRecords.length = batch) (hcount : t.seqValues.length = batch)
    (hh : ∀ h ∈ t.seqValues, h = ⟨0, 3⟩) :
    ∀ k ≤ batch, (List.range k).foldlM (fun t j => t.stampRecord j (first + j) nowNs) t
      = some { t with
          request := { t.request with
            logRecords := stampedUpTo t.request.logRecords first nowNs k } } := by
  intro k
  induction k with
  | zero =>
      intro _
      rw [stampedUpTo_zero]
      rfl
  | succ k ih =>
      intro hk
      have hlt : k < t.request.logRecords.length := by omega
      have hcount' : k < t.seqValues.length := by omega
      have hhandle : t.seqValues[k]? = some ⟨0, 3⟩ := by
        rw [List.getElem?_eq_getElem hcount', hh _ (List.getElem_mem hcount')]
      have hrecord : (stampedUpTo t.request.logRecords first nowNs k)[k]?
          = some t.request.logRecords[k] := by
        simp [stampedUpTo, List.getElem?_eq_getElem hlt]
      rw [List.range_succ, List.foldlM_append, ih (by omega), ← stampedUpTo_set hlt]
      simp [RequestTemplate.stampRecord, hhandle, hrecord, SeqHandle.write, stampedRecord,
        RequestTemplate.setRecord]

/-- **`stamp` of a template**: it does not raise, and every record has its number and the time. -/
theorem stamp_eq {genId : String} {t : RequestTemplate BenchSnx} {batch : Nat}
    (hwf : t.Wf batch) (ht : Unstamped genId t) (first nowNs : Nat) :
    t.stamp first nowNs = some
      ({ t with
          request := { t.request with
            logRecords := t.request.logRecords.mapIdx
              fun j r => stampedRecord r (first + j) nowNs } },
        first + batch) := by
  have hcount : t.seqValues.length = batch := by
    simpa [hwf.length_records] using (congrArg List.length hwf.handles).symm
  have hall : stampedUpTo t.request.logRecords first nowNs batch
      = t.request.logRecords.mapIdx fun j r => stampedRecord r (first + j) nowNs := by
    refine List.ext_getElem? fun j => ?_
    simp only [stampedUpTo, List.getElem?_mapIdx]
    rcases lt_or_ge j batch with hj | hj
    · simp only [if_pos hj]
    · simp [List.getElem?_eq_none (hwf.length_records.le.trans hj)]
  unfold RequestTemplate.stamp
  dsimp only
  rw [hcount, hwf.length_records, Nat.min_self,
    foldlM_stampRecord_eq hwf.length_records hcount (seqValues_eq hwf ht) batch le_rfl, hall]
  rfl

/-! ## How much a record grows -/

/-- An attribute with a key of `key` bytes and a text of `text` bytes. -/
def textAttribute (key text : Nat) : Nat := lenDelim (bytesField key + lenDelim (lenDelim text))

theorem textAttribute_mono (key : Nat) {m n : Nat} (h : m ≤ n) :
    textAttribute key m ≤ textAttribute key n :=
  lenDelim_mono (Nat.add_le_add_left (lenDelim_mono (lenDelim_mono h)) _)

theorem lenDelim_size_kv (key value : String) :
    lenDelim (kv key value).size = textAttribute key.utf8ByteSize value.utf8ByteSize := rfl

/-- How much larger number `n` makes the two sequence fields. -/
def digitGrowth (n : Nat) : Nat :=
  (textAttribute 9 (digits n) - textAttribute 9 1) +
    (textAttribute 15 (digits n) - textAttribute 15 1)

/-- How much larger stamping with number `n` makes a record. -/
def growth (n : Nat) : Nat := 18 + digitGrowth n

theorem digitGrowth_mono {m n : Nat} (h : m ≤ n) : digitGrowth m ≤ digitGrowth n := by
  have hd := digits_mono h
  have hbench := textAttribute_mono 9 hd
  have hsnx := textAttribute_mono 15 hd
  unfold digitGrowth
  omega

/-- The size of a stamped record: a time takes no bytes only if it is the epoch. -/
theorem size_stampedRecord (genId : String) (d : Draw) (n nowNs : Nat) :
    (stampedRecord (aiTxnRecord genId d) n nowNs).size
      = (aiTxnRecord genId d).size + (2 * fixed64Field nowNs + digitGrowth n) := by
  have hone : 1 ≤ digits n := digits_pos n
  have hbench := textAttribute_mono 9 hone
  have hsnx := textAttribute_mono 15 hone
  have hattrs : (stampedRecord (aiTxnRecord genId d) n nowNs).attributes
      = kv "bench.seq" (toString n) :: kv "bench.gen_id" genId ::
        kv "log_type" (if d.isMcp then "mcp_tool_call" else "http") ::
          kv "snx.sequence_id" (toString n) :: d.rest := rfl
  have hzero : fixed64Field 0 = 0 := rfl
  have hbench0 : lenDelim (kv "bench.seq" "0").size = textAttribute 9 1 := by decide
  have hsnx0 : lenDelim (kv "snx.sequence_id" "0").size = textAttribute 15 1 := by decide
  have hbenchn : lenDelim (kv "bench.seq" (toString n)).size = textAttribute 9 (digits n) := by
    rw [lenDelim_size_kv, utf8ByteSize_toString]
    rfl
  have hsnxn : lenDelim (kv "snx.sequence_id" (toString n)).size
      = textAttribute 15 (digits n) := by
    rw [lenDelim_size_kv, utf8ByteSize_toString]
    rfl
  unfold LogRecord.size
  rw [hattrs]
  simp only [stampedRecord, aiTxnRecord, repeatedField, List.map_cons, List.sum_cons, hzero,
    hbench0, hsnx0, hbenchn, hsnxn]
  unfold digitGrowth
  omega

theorem size_stampedRecord_le (genId : String) (d : Draw) {n bound : Nat} (h : n ≤ bound)
    (nowNs : Nat) :
    (stampedRecord (aiTxnRecord genId d) n nowNs).size
      ≤ (aiTxnRecord genId d).size + growth bound := by
  have htime := fixed64Field_le nowNs
  have hgrowth := digitGrowth_mono h
  rw [size_stampedRecord]
  unfold growth
  omega

/-! ## How much a batch grows -/

theorem requestSize_mono (resource scope : Nat) {xs ys : List Nat}
    (h : repeatedField xs ≤ repeatedField ys) :
    requestSize resource scope xs ≤ requestSize resource scope ys :=
  lenDelim_mono (Nat.add_le_add_left (lenDelim_mono (Nat.add_le_add_left h _)) _)

/-- The size of a template with its records grown by the numbers from `first` on. -/
def grownSize (t : RequestTemplate BenchSnx) (first : Nat) : Nat :=
  requestSize (resourceSize t.request) (scopeSize t.request)
    (t.request.logRecords.zipIdx.map fun r => r.1.size + growth (first + r.2))

/-- The size of a stamped template. -/
def stampedSize (t : RequestTemplate BenchSnx) (first nowNs : Nat) : Nat :=
  requestSize (resourceSize t.request) (scopeSize t.request)
    (t.request.logRecords.zipIdx.map fun r => (stampedRecord r.1 (first + r.2) nowNs).size)

theorem byteSize_of_stamp {genId : String} {t t' : RequestTemplate BenchSnx}
    {batch first nowNs next : Nat} (hwf : t.Wf batch) (ht : Unstamped genId t)
    (h : t.stamp first nowNs = some (t', next)) :
    byteSize t'.request = stampedSize t first nowNs := by
  rw [stamp_eq hwf ht, Option.some.injEq, Prod.mk.injEq] at h
  obtain ⟨rfl, -⟩ := h
  unfold byteSize stampedSize
  dsimp only
  rw [List.mapIdx_eq_zipIdx_map, List.map_map]
  rfl

/-- Stamping never makes a batch larger than the largest number of the run does. -/
theorem stampedSize_le_grownSize {genId : String} {t : RequestTemplate BenchSnx}
    (ht : Unstamped genId t) {first last : Nat} (h : first ≤ last) (nowNs : Nat) :
    stampedSize t first nowNs ≤ grownSize t last := by
  refine requestSize_mono _ _ (repeatedField_mono fun r hr => ?_)
  obtain ⟨d, hd⟩ := ht.records r.1 (List.fst_mem_of_mem_zipIdx hr)
  rw [hd]
  exact size_stampedRecord_le genId d (Nat.add_le_add_right h _) nowNs

/-- At any time but the epoch, the largest number makes it that large. -/
theorem stampedSize_eq_grownSize {genId : String} {t : RequestTemplate BenchSnx}
    (ht : Unstamped genId t) (last nowNs : Nat) (h : nowNs ≠ 0) :
    stampedSize t last nowNs = grownSize t last := by
  unfold stampedSize grownSize
  congr 1
  refine List.map_congr_left fun r hr => ?_
  obtain ⟨d, hd⟩ := ht.records r.1 (List.fst_mem_of_mem_zipIdx hr)
  rw [hd, size_stampedRecord, fixed64Field, if_neg h]
  rfl

/-! ## The guard -/

/-- The guard lets a factory pass if the mean size of its templates is below the limit. -/
theorem oversizeError_eq_none_iff (f : PayloadFactory BenchSnx) :
    oversizeError f = none ↔
      (f.templates.map (·.approxBytes)).sum < grpcMaxMessageBytes * f.templates.length := by
  have hpos : 0 < f.templates.length := by
    rw [f.length_templates]
    exact Nat.mul_pos f.workers_pos f.variants_pos
  unfold oversizeError
  dsimp only
  split
  · next h => simpa [approxBatchBytes, Nat.le_div_iff_mul_le hpos] using h
  · next h => simpa [approxBatchBytes, Nat.le_div_iff_mul_le hpos] using h

/-- Every batch of a factory that passes the guard fits, whatever it is stamped with. -/
def FitsOnWire (f : PayloadFactory BenchSnx) (lastFirst : Nat) : Prop :=
  oversizeError f = none → ∀ t ∈ f.templates, ∀ first ≤ lastFirst, ∀ nowNs t' next,
    t.stamp first nowNs = some (t', next) → byteSize t'.request < grpcMaxMessageBytes

/-- **When what passes the guard fits on the wire**: the guard looks at the mean of the templates
as they were built, and what has to fit is the largest of them after its records have grown. -/
theorem fitsOnWire_iff {ρ : Type} {data : AiTxnData ρ} {genId : String} {seed : Int}
    {batchSize : Nat} {workers variants customers : Int} {f : PayloadFactory BenchSnx}
    (h : aiTxnFactory data genId seed batchSize workers variants customers = some f)
    (lastFirst : Nat) :
    FitsOnWire f lastFirst ↔
      grpcMaxMessageBytes * f.templates.length ≤
          (f.templates.map fun t => byteSize t.request).sum ∨
        ∀ t ∈ f.templates, grownSize t lastFirst < grpcMaxMessageBytes := by
  have hunstamped := aiTxnFactory_unstamped h
  have hmean : (f.templates.map (·.approxBytes)) = f.templates.map fun t => byteSize t.request :=
    List.map_congr_left fun t ht => (hunstamped t ht).approxBytes
  rw [FitsOnWire, oversizeError_eq_none_iff, hmean]
  constructor
  · intro hfits
    rcases le_or_gt (grpcMaxMessageBytes * f.templates.length)
      (f.templates.map fun t => byteSize t.request).sum with hmean | hmean
    · exact Or.inl hmean
    · refine Or.inr fun t ht => ?_
      -- the largest number of the run, a nanosecond after the epoch
      have hstamp := stamp_eq (f.templates_wf t ht) (hunstamped t ht) lastFirst 1
      have hlt := hfits hmean t ht lastFirst le_rfl 1 _ _ hstamp
      rwa [byteSize_of_stamp (f.templates_wf t ht) (hunstamped t ht) hstamp,
        stampedSize_eq_grownSize (hunstamped t ht) lastFirst 1 one_ne_zero] at hlt
  · rintro (hrefused | hgrown) hmean t ht first hfirst nowNs t' next hstamp
    · exact absurd hmean (Nat.not_lt.2 hrefused)
    · rw [byteSize_of_stamp (f.templates_wf t ht) (hunstamped t ht) hstamp]
      exact lt_of_le_of_lt (stampedSize_le_grownSize (hunstamped t ht) hfirst nowNs) (hgrown t ht)

/-! ## A batch just below the limit -/

/-- A record of a configuration that sets nothing but `body_bytes`, with the values seed 42 draws
if the prompt has to be padded with 4192909 characters. -/
def paddedDraw (pad : Nat) : Draw where
  isMcp := false
  severity := "INFO"
  status := 200
  latency := "0.251"
  gatewayLatency := "0.005"
  model := "claude-opus-5"
  workspaceId := "13"
  userId := "132"
  vkeyId := "15"
  agentId := "1"
  modelId := "1"
  overallAction := "PACT_ALLOW"
  sourceIp := "10.105.237.18"
  sourcePort := "44019"
  userAgent := "llamaindex/0.11.20"
  requestBytes := "1562"
  requestId := "msg_0e6ff3c647c0b7a1"
  prompt := "Summarize the following document in three bullet points. " ++
    String.ofList (List.replicate pad '0')
  responseBytes := "504"
  sse := false
  serviceTier := "batch"
  tokenUsage := "\x7b\"input_tokens\": 5436, \"output_tokens\": 1298, " ++
    "\"cache_creation_input_tokens\": 0, \"cache_read_input_tokens\": 3084\x7d"
  stopReason := "[\"end_turn\"]"
  ttft := "0.093"
  retryAfter := ""
  remainingRequests := ""
  remainingTokens := ""
  fallback := false
  toolName := ""
  serverName := ""
  callSeq := ""
  sessionId := ""
  errorCode := ""
  traceId := [73, 91, 216, 242, 96, 218, 216, 160, 180, 81, 102, 35, 84, 37, 187, 116]
  spanId := [228, 238, 19, 53, 189, 79, 252, 140]

def paddedGenId : String := "6f1c2a52-7d0e-4c1b-9a53-0b8e2f4d7c90"

/-- The factory of one template with one record. -/
def paddedData (pad : Nat) : AiTxnData Unit where
  newRng _ := ()
  region _ := ("us-west-2", ())
  draw _ _ := (paddedDraw pad, ())

theorem utf8ByteSize_prompt (pad : Nat) : (paddedDraw pad).prompt.utf8ByteSize = 57 + pad := by
  have hpad : (String.ofList (List.replicate pad '0')).utf8ByteSize = pad := by
    rw [utf8ByteSize_ofList_of_ascii fun c hc => by rw [List.eq_of_mem_replicate hc]; rfl,
      List.length_replicate]
  have hwords : "Summarize the following document in three bullet points. ".utf8ByteSize = 57 := by
    rfl
  unfold paddedDraw
  rw [String.utf8ByteSize_append, hpad, hwords]

/-- Nothing of the record but the prompt depends on the padding. -/
theorem size_paddedDraw (pad : Nat) :
    (aiTxnRecord paddedGenId (paddedDraw pad)).size = 1072 + textAttribute 10 (57 + pad) := by
  have hattrs : (aiTxnRecord paddedGenId (paddedDraw pad)).attributes
      = (aiTxnRecord paddedGenId (paddedDraw 0)).attributes.take 23 ++
          kv "req.prompt" (paddedDraw pad).prompt ::
            (aiTxnRecord paddedGenId (paddedDraw 0)).attributes.drop 24 := rfl
  have hbefore : repeatedField (((aiTxnRecord paddedGenId (paddedDraw 0)).attributes.take 23).map
      KeyValue.size) = 636 := by decide +kernel
  have hafter : repeatedField (((aiTxnRecord paddedGenId (paddedDraw 0)).attributes.drop 24).map
      KeyValue.size) = 391 := by decide +kernel
  have hprompt : lenDelim (kv "req.prompt" (paddedDraw pad).prompt).size
      = textAttribute 10 (57 + pad) := by
    rw [lenDelim_size_kv, utf8ByteSize_prompt]
    rfl
  have hfields : repeatedField ((aiTxnRecord paddedGenId (paddedDraw pad)).attributes.map
      KeyValue.size) = 636 + (textAttribute 10 (57 + pad) + 391) := by
    rw [hattrs, ← hprompt, ← hbefore, ← hafter]
    unfold repeatedField
    rw [List.map_append, List.map_append, List.sum_append, List.map_cons, List.map_cons,
      List.sum_cons]
  have hhead : fixed64Field 0 + varintField (severityNumber "INFO") +
      bytesField "INFO".utf8ByteSize + lenDelim (AnyValue.stringValue "").size = 12 := by
    rfl
  have htail : fixed32Field 1 + bytesField 16 + bytesField 8 + fixed64Field 0 = 33 := by decide
  change fixed64Field 0 + varintField (severityNumber "INFO") + bytesField "INFO".utf8ByteSize +
    lenDelim (AnyValue.stringValue "").size +
      repeatedField ((aiTxnRecord paddedGenId (paddedDraw pad)).attributes.map KeyValue.size) +
        fixed32Field 1 + bytesField 16 + bytesField 8 + fixed64Field 0 = _
  rw [hfields]
  omega

def paddedRequest (pad : Nat) : ExportLogsServiceRequest where
  resource :=
    [kv "customer_id" "1", kv "tenant_id" "1", kv "sgwe_id" "2", kv "cloud.region" "us-west-2",
      kv "service.name" "sentrinox-gateway-prod", kv "bench.gen_id" paddedGenId]
  scopeName := "sentrinox.llm.usage"
  scopeVersion := "0.1.0"
  logRecords := [aiTxnRecord paddedGenId (paddedDraw pad)]

/-- The pool is one template with one record. -/
theorem exists_paddedFactory (pad : Nat) :
    ∃ f t, aiTxnFactory (paddedData pad) paddedGenId 42 1 1 1 1 = some f ∧ f.templates = [t] ∧
      t.request = paddedRequest pad := by
  obtain ⟨f, hf⟩ := exists_aiTxnFactory (paddedData pad) paddedGenId 42 1 1 1 1
  obtain ⟨t, ht⟩ := exists_buildTemplate paddedGenId (paddedData pad) 1 (some 1) ()
  have hpool := (buildPool_of_aiTxnFactory hf).symm
  have hbuild : buildPool BenchSnx (aiTxnContent paddedGenId (paddedData pad)) 1 42
      (fun i => some (i % 1 + 1)) [0] = some [t] := by
    unfold buildPool
    rw [show buildTemplate BenchSnx (aiTxnContent paddedGenId (paddedData pad)) 1 (some (0 % 1 + 1))
      ((aiTxnContent paddedGenId (paddedData pad)).newRng (42 * 1000003 + (0 : Nat)))
        = some t from ht]
    rfl
  have htemplates : f.templates = [t] := Option.some.inj (hpool.trans hbuild)
  unfold buildTemplate at ht
  obtain ⟨hs, -, rfl⟩ := Option.map_eq_some_iff.1 ht
  exact ⟨f, _, hf, htemplates, rfl⟩

theorem resourceSize_paddedRequest (pad : Nat) : resourceSize (paddedRequest pad) = 181 := by
  have h : repeatedField ((paddedRequest 0).resource.map KeyValue.size) = 181 := rfl
  exact h

theorem scopeSize_paddedRequest (pad : Nat) : scopeSize (paddedRequest pad) = 28 := by
  have h : bytesField "sentrinox.llm.usage".utf8ByteSize
      + bytesField "0.1.0".utf8ByteSize = 28 := rfl
  exact h

theorem byteSize_paddedRequest (pad : Nat) :
    byteSize (paddedRequest pad) = requestSize 181 28 [1072 + textAttribute 10 (57 + pad)] := by
  unfold byteSize
  rw [resourceSize_paddedRequest, scopeSize_paddedRequest, ← size_paddedDraw]
  rfl

theorem grownSize_paddedRequest {t : RequestTemplate BenchSnx} {pad : Nat}
    (h : t.request = paddedRequest pad) (first : Nat) :
    grownSize t first
      = requestSize 181 28 [1072 + textAttribute 10 (57 + pad) + growth first] := by
  unfold grownSize
  rw [h, resourceSize_paddedRequest, scopeSize_paddedRequest, ← size_paddedDraw]
  rfl

/-- Prompts of 256 characters fit for the first million records. -/
theorem fitsOnWire_iff_shortPrompt :
    ∃ f, aiTxnFactory (paddedData 199) paddedGenId 42 1 1 1 1 = some f ∧
      FitsOnWire f 1000000 := by
  obtain ⟨f, t, hf, htemplates, hrequest⟩ := exists_paddedFactory 199
  refine ⟨f, hf, (fitsOnWire_iff hf 1000000).2 (Or.inr fun u hu => ?_)⟩
  rw [htemplates, List.mem_singleton] at hu
  rw [hu, grownSize_paddedRequest hrequest]
  decide

/-- With prompts of 4192966 characters the batch is ten bytes below the limit as it is built, and
above it when record 1 is stamped. -/
theorem not_fitsOnWire_longPrompt :
    ¬ ∀ (data : AiTxnData Unit) (genId : String) (seed : Int) (batchSize : Nat)
      (workers variants customers : Int) (f : PayloadFactory BenchSnx),
      aiTxnFactory data genId seed batchSize workers variants customers = some f →
        ∀ lastFirst, FitsOnWire f lastFirst := by
  intro hall
  obtain ⟨f, t, hf, htemplates, hrequest⟩ := exists_paddedFactory 4192909
  have hunstamped := aiTxnFactory_unstamped hf
  have ht : t ∈ f.templates := by simp [htemplates]
  have hpasses : oversizeError f = none := by
    rw [oversizeError_eq_none_iff, htemplates, List.map_singleton, List.sum_singleton,
      (hunstamped t ht).approxBytes, hrequest, byteSize_paddedRequest,
      List.length_singleton]
    decide
  have hstamp := stamp_eq (f.templates_wf t ht) (hunstamped t ht) 1 1
  have hlt := hall _ _ _ _ _ _ _ f hf 1 hpasses t ht 1 le_rfl 1 _ _ hstamp
  rw [byteSize_of_stamp (f.templates_wf t ht) (hunstamped t ht) hstamp,
    stampedSize_eq_grownSize (hunstamped t ht) 1 1 one_ne_zero,
    grownSize_paddedRequest hrequest] at hlt
  exact absurd hlt (by decide)

end AnalyticsTesting.Generator
