import AnalyticsTesting.Generator.Proofs.Draws
import AnalyticsTesting.Generator.Proofs.RecordStream

set_option autoImplicit false

/-! # What a run sends, under the configured data

A request on the wire is a template of the pool with numbers and times stamped into its records
(`exists_requestOf`), and the pool is drawn from the configured data. So whatever the threads do,
everything that is sent conforms to the configuration (`sentLogs_conform`). -/

namespace AnalyticsTesting.Generator

/-! ## Requests of the pool -/

section Requests

variable {η : Type} [SeqHandle η]

/-- The request is that of the template, with its records stamped. -/
structure RequestOf (p : RequestTemplate η) (request : ExportLogsServiceRequest) : Prop where
  resource : request.resource = p.request.resource
  records : RestampedFrom p request.logRecords

theorem RequestTemplate.stampRecord_resource {t t' : RequestTemplate η} {k seq nowNs : Nat}
    (h : t.stampRecord k seq nowNs = some t') : t'.request.resource = t.request.resource := by
  unfold RequestTemplate.stampRecord at h
  split at h
  case h_2 => cases h
  case h_1 =>
      obtain ⟨attrs, -, rfl⟩ := Option.map_eq_some_iff.1 h
      rfl

/-- The templates and the requests on the wire have the resources of the pool. -/
structure SameResource (g : LoadGenerator η) (s : State η) : Prop where
  templates : ∀ (i : Nat) t, s.templates[i]? = some t →
    ∃ p, g.factory.templates[i]? = some p ∧ t.request.resource = p.request.resource
  wire : ∀ e ∈ s.logWire,
    ∃ p, g.factory.templates[g.factory.templateIndex e.worker e.item.variant]? = some p ∧
      e.request.resource = p.request.resource

/-- A worker's move stamps a template or sends one as it is. -/
theorem WorkerMove.sameResource {g : LoadGenerator η} {s t : State η} {w : Nat} {pc pc' : WorkerPc}
    (hmove : WorkerMove g s w pc t pc') (h : SameResource g s) :
    SameResource g { t with workers := s.workers.set w pc' } := by
  cases hmove with
  | stamp item nowNs k u u' hget hstamp =>
      refine ⟨fun i t hi => ?_, h.wire⟩
      rcases getElem?_set_eq_some hi with ⟨rfl, rfl⟩ | ⟨-, hold⟩
      · obtain ⟨p, hp, hpu⟩ := h.templates _ u hget
        exact ⟨p, hp, (RequestTemplate.stampRecord_resource hstamp).trans hpu⟩
      · exact h.templates i t hold
  | serialize item u hget =>
      refine ⟨h.templates, fun e he => ?_⟩
      rcases List.mem_append.1 he with hold | hnew
      · exact h.wire e hold
      · obtain rfl := List.mem_singleton.1 hnew
        exact h.templates _ u hget
  | _ => exact ⟨h.templates, h.wire⟩

theorem engineStep_sameResource {g : LoadGenerator η} {s s' : State η} {a : Action}
    (h : SameResource g s) (hstep : engineStep g s a = some s') : SameResource g s' := by
  rcases engineStep_cases hstep with ⟨t, wall, -, hmain⟩ | ⟨-, hidle, rfl⟩ | ⟨-, rfl⟩ |
    ⟨ts, iso, -, rfl⟩ | ⟨w, pc, u, pc', -, hpc, hmove, rfl⟩
  · have hkeeps := mainStep_keeps hmain
    refine ⟨?_, ?_⟩
    · rw [hkeeps.templates]; exact h.templates
    · rw [hkeeps.logWire]; exact h.wire
  · exact ⟨h.templates, h.wire⟩
  · exact ⟨h.templates, h.wire⟩
  · exact ⟨h.templates, h.wire⟩
  · exact hmove.sameResource h

theorem engineInit_sameResource (g : LoadGenerator η) (plan : List Step) :
    SameResource g (engineInit g plan) where
  templates _ t hi := ⟨t, hi, rfl⟩
  wire := by simp [engineInit]

theorem sameResource_of_reachable {g : LoadGenerator η} {plan : List Step} {s : State η}
    (h : (engine g plan).Reachable s) : SameResource g s :=
  Transition.System.reachable_of_preserves (I := SameResource g) (engineInit_sameResource g plan)
    (fun _ _ _ hI hstep => engineStep_sameResource hI hstep) h

/-- **Every request that is sent is that of a template of the pool.** -/
theorem exists_requestOf [LawfulSeqHandle η] {g : LoadGenerator η} {plan : List Step} {s : State η}
    (h : (engine g plan).Reachable s) {e : Export} (he : e ∈ s.logWire) :
    ∃ p ∈ g.factory.templates, RequestOf p e.request := by
  obtain ⟨p, hp, hresource⟩ := (sameResource_of_reachable h).wire e he
  obtain ⟨p', hp', hrecords⟩ := (restamped_of_reachable h).wire e he
  obtain rfl : p = p' := Option.some.inj (hp.symm.trans hp')
  exact ⟨p, List.mem_of_getElem? hp, hresource, hrecords⟩

end Requests

/-! ## Templates of the pool -/

section Pool

variable {η ρ : Type} [SeqHandle η]

omit [SeqHandle η] in
theorem mem_buildRecords_content (content : Content ρ) (customer : Option Nat) (service : String)
    (n : Nat) (s : ρ) : ∀ r ∈ (buildRecords content customer service n s).1,
      ∃ s', r = (content.record customer service s').1 := by
  induction n generalizing s with
  | zero => simp [buildRecords]
  | succ n ih =>
      intro r hr
      unfold buildRecords at hr
      rcases List.mem_cons.1 hr with rfl | hr
      · exact ⟨s, rfl⟩
      · exact ih _ r hr

/-- The template is drawn from the content, for a customer. -/
def TemplateOf (content : Content ρ) (customer : Option Nat) (t : RequestTemplate η) : Prop :=
  ∃ s : ρ, t.request.resource = (content.resource customer s).1.1 ∧ ∀ r ∈ t.request.logRecords,
    ∃ s', r = (content.record customer (content.resource customer s).1.2 s').1

theorem buildTemplate_templateOf {content : Content ρ} {batchSize : Nat} {customer : Option Nat}
    {s : ρ} {t : RequestTemplate η}
    (h : buildTemplate η content batchSize customer s = some t) :
    TemplateOf content customer t := by
  unfold buildTemplate at h
  obtain ⟨hs, -, rfl⟩ := Option.map_eq_some_iff.1 h
  exact ⟨s, rfl, mem_buildRecords_content content customer _ batchSize _⟩

/-- Each template of a pool is drawn for the customer of its index. -/
theorem buildPool_templateOf {content : Content ρ} {batchSize : Nat} {seed : Int}
    {customerOf : Nat → Option Nat} {is : List Nat} {ts : List (RequestTemplate η)}
    (h : buildPool η content batchSize seed customerOf is = some ts) :
    ∀ t ∈ ts, ∃ i ∈ is, TemplateOf content (customerOf i) t := by
  induction is generalizing ts with
  | nil =>
      obtain rfl : [] = ts := by simpa [buildPool] using h
      simp
  | cons i is ih =>
      simp only [buildPool, Option.bind_eq_bind, Option.bind_eq_some_iff] at h
      obtain ⟨t, ht, tl, htl, heq⟩ := h
      obtain rfl : t :: tl = ts := by simpa using heq
      intro u hu
      rcases List.mem_cons.1 hu with rfl | hu
      · exact ⟨i, List.mem_cons_self, buildTemplate_templateOf ht⟩
      · obtain ⟨j, hj, hof⟩ := ih htl u hu
        exact ⟨j, List.mem_cons_of_mem _ hj, hof⟩

/-- Every record of a request of the template is drawn from the content, and stamped. -/
theorem RequestOf.exists_stampOf {content : Content ρ} {customer : Option Nat}
    {p : RequestTemplate η} {request : ExportLogsServiceRequest} (h : RequestOf p request)
    (hof : TemplateOf content customer p) :
    ∃ s, request.resource = (content.resource customer s).1.1 ∧ ∀ r ∈ request.logRecords,
      ∃ s', StampOf η (content.record customer (content.resource customer s).1.2 s').1 r := by
  obtain ⟨s, hresource, hrecords⟩ := hof
  refine ⟨s, h.resource.trans hresource, fun r hr => ?_⟩
  obtain ⟨k, hk, rfl⟩ := List.getElem_of_mem hr
  obtain ⟨q, hq, hqr⟩ := h.records k _ (List.getElem?_eq_getElem hk)
  obtain ⟨s', rfl⟩ := hrecords q (List.mem_of_getElem? hq)
  exact ⟨s', hqr⟩

end Pool

/-! ## The generic payload -/

section Logs

variable {ρ : Type}

/-- The record says what `q` says, and carries the number `n`. -/
structure Numbered (q : LogRecord) (n : Nat) (r : LogRecord) : Prop where
  body : r.body = q.body
  severityNumber : r.severityNumber = q.severityNumber
  severityText : r.severityText = q.severityText
  attributes : r.attributes = ⟨"bench.seq", .intValue n⟩ :: q.attributes.tail

/-- Stamping a record of the generic payload changes its first attribute only. -/
theorem exists_numbered {genId service : String} {d : LogsDraw} {r : LogRecord}
    (h : StampOf BenchSeq (logsRecord genId service d) r) :
    ∃ n, Numbered (logsRecord genId service d) n r := by
  rcases h.attributes with heq | ⟨hd, m, hfind, hwrite⟩
  · exact ⟨0, h.body, h.severityNumber, h.severityText, heq⟩
  · refine ⟨m, h.body, h.severityNumber, h.severityText, ?_⟩
    have hfirst : SeqHandle.findSeqValue (logsRecord genId service d).attributes
        = some (⟨0⟩ : BenchSeq) := by
      simp [SeqHandle.findSeqValue, firstWithKey, logsRecord, List.findIdx?_cons]
    obtain rfl := Option.some.inj (hfind.symm.trans hfirst)
    simp only [SeqHandle.write] at hwrite
    split at hwrite
    · exact (Option.some.inj hwrite).symm
    · cases hwrite

/-- A request of the generic payload that conforms to the data: its names are configured ones, and
every record is one that may be drawn, for the service of the resource. -/
def SentLogs (data : DataConfig) (genId : String) (request : ExportLogsServiceRequest) : Prop :=
  ∃ service ∈ data.services, ∃ environment ∈ data.environmentNames, ∃ region ∈ data.regionNames,
    request.resource =
      [kv "service.name" service, kv "deployment.environment" environment,
        kv "cloud.region" region, kv "tenant.id" (data.tenantId.getD "testing-tenant"),
        kv "workspace.id" (data.workspaceId.getD "testing-workspace"),
        kv "bench.gen_id" genId] ∧
    ∀ r ∈ request.logRecords, ∃ d : LogsDraw, d.Conforms data ∧
      ∃ n, Numbered (logsRecord genId service d) n r

/-- What the content of the generic payload draws conforms to the data. -/
theorem TemplateOf.sentLogs {rng : Rng ρ} {data : DataConfig} (hw : data.NonnegWeights)
    (hdraw : data.Drawable) {genId : String} {p : RequestTemplate BenchSeq}
    (hof : TemplateOf (logsContent genId (data.logsData rng hdraw)) none p)
    {request : ExportLogsServiceRequest} (h : RequestOf p request) :
    SentLogs data genId request := by
  obtain ⟨s, hresource, hrecords⟩ := h.exists_stampOf hof
  obtain ⟨hservice, henvironment, hregion⟩ :=
    (yields_chooseResource rng data).draw (returns_chooseResource rng data) s
  refine ⟨_, hservice, _, henvironment, _, hregion, hresource, fun r hr => ?_⟩
  obtain ⟨s', hstamp⟩ := hrecords r hr
  have hconforms := (yields_buildRecord rng hw).draw
    ((returns_buildRecord rng data).congr (iff_true_intro hdraw)) s'
  exact ⟨_, hconforms, exists_numbered hstamp⟩

/-- **Everything that is sent conforms to the configured data.** A record can be drawn from every
stream or from none, according to the data; where it can, every request of every run is one that
the data allow, whatever the threads and the exporter do. -/
theorem sentLogs_conform (rng : Rng ρ) {data : DataConfig} (hw : data.NonnegWeights) :
    (∀ s, (buildRecord rng data s).isSome ↔ data.Drawable) ∧
    ∀ (hdraw : data.Drawable) (cfg : RunConfig ρ) (g : LoadGenerator BenchSeq) (plan : List Step)
      (s : State BenchSeq), cfg.content = logsContent cfg.genId (data.logsData rng hdraw) →
        (∀ i, cfg.customerOf i = none) → launch BenchSeq cfg = some g →
          (engine g plan).Reachable s → ∀ e ∈ s.logWire, SentLogs data cfg.genId e.request := by
  refine ⟨returns_buildRecord rng data, ?_⟩
  intro hdraw cfg g plan s hcontent hcustomer hlaunch hreach e he
  obtain ⟨p, hp, hrequest⟩ := exists_requestOf hreach he
  obtain ⟨i, -, hof⟩ := buildPool_templateOf (buildPool_of_launch hlaunch) p hp
  rw [hcustomer i, hcontent] at hof
  exact hof.sentLogs hw hdraw hrequest

/-! ## A recorded stream -/

/-- A stream that replays what the methods of one have returned, in this order. -/
def replayRng (recorded : Int → List Nat) : Rng (List Nat) where
  newRng := recorded
  random s := (⟨s.headD 0 % 2 ^ 53, Nat.mod_lt _ (by norm_num)⟩, s.tail)
  below n s := (⟨s.headD 0 % (n + 1), Nat.mod_lt _ n.succ_pos⟩, s.tail)
  bits k s := (⟨s.headD 0 % 2 ^ k, Nat.mod_lt _ (by positivity)⟩, s.tail)

/-- What the generic payload draws for a record of template 0 with seed 42, where the data set
`body_bytes: 0` only. -/
def seed42 (seed : Int) : List Nat :=
  if seed = 42000126 then
    [0, 0, 0, 4868040134125097, 6114094798835975, 5461188657789271, 5525975252957029, 0, 0,
      7947962926429537006, 3, 336444888977135026917287512155807122689, 8551544042526344862]
  else []

/-- No padding, and the defaults for everything else. -/
def shortBodies : DataConfig := { bodyBytes := some 0 }

theorem shortBodies_nonnegWeights : shortBodies.NonnegWeights :=
  ⟨by decide, by decide⟩

theorem shortBodies_drawable : shortBodies.Drawable :=
  ⟨by decide +kernel, by decide +kernel, by decide⟩

/-- One worker, and batches of one record. -/
def seed42Config : RunConfig (List Nat) where
  content := logsContent "gen-1" (shortBodies.logsData (replayRng seed42) shortBodies_drawable)
  genId := "gen-1"
  seed := 42
  customerOf _ := none
  batchSize := 1
  workers := 1
  maxInflight := 1
  retryMode := "none"
  abortOnConsecutiveFailures := 0
  rpcTimeoutSeconds := 1
  testId := "t"
  sampleIntervalSeconds := 1

theorem sentLogs_conform_seed42 : ∃ s : State BenchSeq, s.logWire.length = 1 ∧
    ∀ e ∈ s.logWire, SentLogs shortBodies "gen-1" e.request := by
  obtain ⟨g, s, hg, hrun, hlen⟩ := exists_of_runFrom (launch BenchSeq seed42Config) [⟨0, 1, 1⟩]
    (mainRuns 13 0 ++ workerExports 0 1) (P := fun s => s.logWire.length = 1) (by decide +kernel)
  exact ⟨s, of_decide_eq_true hlen,
    (sentLogs_conform (replayRng seed42) shortBodies_nonnegWeights).2 shortBodies_drawable
      seed42Config g _ s rfl (fun _ => rfl) hg ⟨_, hrun⟩⟩

end Logs

end AnalyticsTesting.Generator
