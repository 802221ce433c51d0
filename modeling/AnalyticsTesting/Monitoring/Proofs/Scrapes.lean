import AnalyticsTesting.Monitoring.PipelineExporter

set_option autoImplicit false

/-! # What a scrape sets and when it fails

Every scrape leaves the two liveness gauges alone, but for one write of each service's own. The
write comes after the answer has been read and before the rest of the answer is turned into gauges;
`Publishable` is the condition, on the answer and the clock, under which that rest does not fail. -/

namespace AnalyticsTesting.Monitoring

open Config (Key Value Items Py PyExc raise orRaise)

variable (fl : FloatFormat)

/-! ## Primitives -/

theorem py_result_eq_ok {α : Type} {x : Py α} {a : α} : (py x).result = .ok a ↔ x = .ok a := by
  cases x <;> simp [py, Except.mapError]

@[simp] theorem completes_py {α : Type} (x : Py α) : (py x).Completes ↔ ∃ a, x = .ok a :=
  exists_congr fun _ => py_result_eq_ok

@[simp] theorem completes_py_bind {α β : Type} (x : Py α) (f : α → Scrape β) :
    (py x >>= f).Completes ↔ ∃ a, x = .ok a ∧ (f a).Completes := by
  simp only [Journal.completes_bind, py_result_eq_ok]

@[simp] theorem completes_set (gauge : Gauge) (x : Double) : (gauge.set x).Completes :=
  Journal.completes_write gauge x

/-- The value is a number, or the text of one. -/
def Numeric (v : Value) : Prop := ∃ x, v.toFloat fl = .ok x

@[simp] theorem completes_setValue (gauge : Gauge) (v : Value) :
    (gauge.setValue fl v).Completes ↔ Numeric fl v := by
  simp [Gauge.setValue, Numeric]

/-- The value is missing or a number. -/
def NumericIfPresent (v : Value) : Prop := v = .none ∨ Numeric fl v

@[simp] theorem completes_setIfPresent (gauge : Gauge) (v : Value) :
    (setIfPresent fl gauge v).Completes ↔ NumericIfPresent fl v := by
  cases v <;> simp [setIfPresent, NumericIfPresent]

/-- Read a value and publish it. -/
theorem completes_py_setValue_bind {β : Type} (x : Py Value) (gauge : Gauge)
    (f : Unit → Scrape β) :
    (py x >>= fun v => gauge.setValue fl v >>= f).Completes ↔
      (∃ v, x = .ok v ∧ Numeric fl v) ∧ (f ()).Completes := by
  simp only [completes_py_bind, Journal.completes_unit_bind, completes_setValue, ← and_assoc,
    exists_and_right]

/-- Read a value that may be missing and publish it. -/
theorem completes_py_setIfPresent_bind {β : Type} (x : Py Value) (gauge : Gauge)
    (f : Unit → Scrape β) :
    (py x >>= fun v => setIfPresent fl gauge v >>= f).Completes ↔
      (∃ v, x = .ok v ∧ NumericIfPresent fl v) ∧ (f ()).Completes := by
  simp only [completes_py_bind, Journal.completes_unit_bind, completes_setIfPresent, ← and_assoc,
    exists_and_right]

/-- Compute a number and publish it. -/
theorem completes_py_set_bind {α β : Type} (x : Py α) (gauge : Gauge) (g : α → Double)
    (f : Unit → Scrape β) :
    (py x >>= fun v => gauge.set (g v) >>= f).Completes ↔
      (∃ v, x = .ok v) ∧ (f ()).Completes := by
  simp only [completes_py_bind, Journal.completes_unit_bind, completes_set, true_and,
    exists_and_right]

/-! ## The liveness gauges are left alone -/

/-- The gauges that are set for every database. -/
def Gauge.ofDatabase : Gauge → Bool
  | tierCycles .. | tierBandFiles .. | tierFailed .. | tierFilesCompacted ..
  | tierLastSuccessAge .. | minor .. | filesCompacted .. | filesSmall .. | filesTotal ..
  | filesMedium .. | major .. => true
  | _ => false

/-- The gauges that say a service is up. -/
def IsUp (gauge : Gauge) : Prop := gauge = .collectorUp ∨ gauge = .compactorUp

theorem isUp_upGauge (role : Role) : IsUp (upGauge role) := by
  cases role
  · exact Or.inl rfl
  · exact Or.inr rfl

variable {K : Gauge → Prop}

theorem silent_py {α : Type} (x : Py α) : (py x).Silent K := Journal.silent_ofExcept _

theorem silent_set {gauge : Gauge} (h : ¬K gauge) (x : Double) : (gauge.set x).Silent K :=
  Journal.silent_write h x

theorem silent_setValue {gauge : Gauge} (h : ¬K gauge) (v : Value) :
    (gauge.setValue fl v).Silent K :=
  (silent_py _).bind fun x => silent_set h x

theorem silent_setIfPresent {gauge : Gauge} (h : ¬K gauge) (v : Value) :
    (setIfPresent fl gauge v).Silent K := by
  unfold setIfPresent
  split
  · exact Journal.silent_pure ()
  · exact silent_setValue fl h _

/-- Compute a number and publish it on another gauge. -/
theorem silent_py_set_bind {α β : Type} {x : Py α} {gauge : Gauge} {g : α → Double}
    {f : Unit → Scrape β} (h : ¬K gauge) (hf : ∀ u, (f u).Silent K) :
    (py x >>= fun v => gauge.set (g v) >>= f).Silent K :=
  (silent_py x).bind fun v => (silent_set h (g v)).bind hf

/-- Read a value and publish it on another gauge. -/
theorem silent_py_setValue_bind {β : Type} {x : Py Value} {gauge : Gauge} {f : Unit → Scrape β}
    (h : ¬K gauge) (hf : ∀ u, (f u).Silent K) :
    (py x >>= fun v => gauge.setValue fl v >>= f).Silent K :=
  (silent_py x).bind fun v => (silent_setValue fl h v).bind hf

/-- Read a value that may be missing and publish it on another gauge. -/
theorem silent_py_setIfPresent_bind {β : Type} {x : Py Value} {gauge : Gauge}
    {f : Unit → Scrape β} (h : ¬K gauge) (hf : ∀ u, (f u).Silent K) :
    (py x >>= fun v => setIfPresent fl gauge v >>= f).Silent K :=
  (silent_py x).bind fun v => (silent_setIfPresent fl h v).bind hf

theorem silent_ite {c : Prop} [Decidable c] {x y : Scrape Unit} (hx : x.Silent K)
    (hy : y.Silent K) : (if c then x else y).Silent K := by
  split
  · exact hx
  · exact hy

/-- No gauge in `K` is one that is set for every database. -/
def NotOfDatabase (K : Gauge → Prop) : Prop := ∀ gauge, K gauge → gauge.ofDatabase = false

theorem NotOfDatabase.not {gauge : Gauge} (hK : NotOfDatabase K) (h : gauge.ofDatabase = true) :
    ¬K gauge := fun hgauge => by
  have hfalse := hK gauge hgauge
  rw [h] at hfalse
  cases hfalse

theorem notOfDatabase_isUp : NotOfDatabase IsUp := by
  rintro gauge (rfl | rfl) <;> rfl

theorem silent_setTierDatabase (hK : NotOfDatabase K) (tier : Tier) (clock : Key → Double)
    (db : Key) (s : Value) : (setTierDatabase fl tier clock db s).Silent K := by
  unfold setTierDatabase
  refine (silent_py _).bind fun own => ?_
  refine silent_py_setValue_bind fl (hK.not rfl) fun _ => ?_
  refine silent_py_setValue_bind fl (hK.not rfl) fun _ => ?_
  refine silent_py_setValue_bind fl (hK.not rfl) fun _ => ?_
  refine silent_py_setValue_bind fl (hK.not rfl) fun _ => ?_
  refine (silent_py _).bind fun last => ?_
  exact silent_ite (silent_set (hK.not rfl) _) (Journal.silent_pure _)

theorem silent_setTierMetrics (hK : NotOfDatabase K) {tier : Tier} (hup : ¬K (.tierUp tier))
    (huptime : ¬K (.tierUptime tier)) (data : Value) (clock : Key → Double) :
    (setTierMetrics fl tier data clock).Silent K := by
  unfold setTierMetrics
  refine silent_py_set_bind hup fun _ => ?_
  refine silent_py_set_bind huptime fun _ => ?_
  refine (silent_py _).bind fun dbs => ?_
  exact Journal.silent_forM fun p => silent_setTierDatabase fl hK tier clock p.1 p.2

theorem silent_setDatabase (hK : NotOfDatabase K) (args : Args) (db : Key) (s : Value) :
    (setDatabase fl args db s).Silent K := by
  unfold setDatabase
  refine (silent_py _).bind fun st => ?_
  refine (silent_setValue fl (hK.not rfl) _).bind fun _ => ?_
  refine (silent_setValue fl (hK.not rfl) _).bind fun _ => ?_
  refine (silent_setValue fl (hK.not rfl) _).bind fun _ => ?_
  refine (silent_setValue fl (hK.not rfl) _).bind fun _ => ?_
  refine (silent_py _).bind fun tiers => ?_
  refine silent_ite ?_ (Journal.silent_pure _)
  exact (silent_setValue fl (hK.not rfl) _).bind fun _ => silent_setValue fl (hK.not rfl) _

theorem silent_tiers_isUp (tier : Tier) (data : Value) (clock : Key → Double) :
    (setTierMetrics fl tier data clock).Silent IsUp :=
  silent_setTierMetrics fl notOfDatabase_isUp (by simp [IsUp]) (by simp [IsUp]) data clock

theorem silent_publishCompactor (args : Args) (body : Value) (clock : Key → Double) :
    (publishCompactor fl args body clock).Silent IsUp := by
  unfold publishCompactor
  refine silent_py_set_bind (by simp [IsUp]) fun _ => ?_
  refine (silent_py _).bind fun dbs => ?_
  refine (Journal.silent_forM fun (p : Key × Value) =>
    silent_setDatabase fl notOfDatabase_isUp args p.1 p.2).bind fun _ => ?_
  refine (silent_py _).bind fun tiered => ?_
  exact silent_ite (silent_tiers_isUp fl .minor body clock) (Journal.silent_pure _)

theorem silent_publishCollector (body : Value) : (publishCollector fl body).Silent IsUp := by
  unfold publishCollector
  refine silent_py_set_bind (by simp [IsUp]) fun _ => ?_
  refine silent_py_set_bind (by simp [IsUp]) fun _ => ?_
  exact (silent_py _).bind fun _ => silent_set (by simp [IsUp]) _

theorem silent_publishDependency (role : Role) (deps : Value) (dep : String) :
    (publishDependency fl role deps dep).Silent IsUp := by
  unfold publishDependency
  refine (silent_py _).bind fun d => (silent_py _).bind fun _ => ?_
  refine silent_ite ?_ (Journal.silent_pure _)
  refine silent_py_set_bind (by simp [IsUp]) fun _ => ?_
  exact (silent_py _).bind fun _ => silent_setIfPresent fl (by simp [IsUp]) _

theorem silent_publishHost (role : Role) (snap : Snapshot) :
    (publishHost fl role snap).Silent IsUp := by
  unfold publishHost
  refine silent_py_set_bind (by simp [IsUp]) fun _ => ?_
  refine silent_py_set_bind (by simp [IsUp]) fun _ => ?_
  refine silent_py_set_bind (by simp [IsUp]) fun _ => ?_
  refine silent_py_set_bind (by simp [IsUp]) fun _ => ?_
  refine silent_py_setIfPresent_bind fl (by simp [IsUp]) fun _ => ?_
  refine silent_py_setIfPresent_bind fl (by simp [IsUp]) fun _ => ?_
  refine (Journal.silent_forM fun dep => silent_publishDependency fl role _ dep).bind fun _ => ?_
  refine Journal.silent_forM fun key => (silent_py _).bind fun _ => ?_
  exact silent_setIfPresent fl (by simp [IsUp]) _

theorem silent_publishSnapshot (args : Args) (role : Role) (snap : Snapshot) (now : Double)
    (clock : Key → Double) : (publishSnapshot fl args role snap now clock).Silent IsUp := by
  unfold publishSnapshot
  refine (silent_py _).bind fun age => (silent_set (by simp [IsUp]) _).bind fun _ => ?_
  split
  · exact Journal.silent_ofExcept _
  · refine Journal.Silent.bind ?_ fun _ =>
      (silent_publishHost fl role snap).bind fun _ => Journal.silent_pure _
    cases role with
    | collector => exact silent_publishCollector fl snap.body
    | compactor => exact silent_publishCompactor fl args snap.body clock

theorem silent_scrapeCompactorMajor (args : Args) (p : Poll) :
    (scrapeCompactorMajor fl args p).Silent IsUp := by
  unfold scrapeCompactorMajor
  refine Journal.Silent.bind ?_ fun data => ?_
  · exact (Journal.silent_ofExcept _).onError (silent_set (by simp [IsUp]) _)
  refine (silent_tiers_isUp fl .major data _).bind fun _ => (silent_py _).bind fun dbs => ?_
  refine (Journal.silent_forM fun db => ?_).bind fun _ => Journal.silent_pure _
  refine (silent_py _).bind fun st => (silent_setValue fl (by simp [IsUp]) _).bind fun _ => ?_
  exact silent_setValue fl (by simp [IsUp]) _

theorem silent_scrapeWatermark (p : Poll) : (scrapeWatermark fl p).Silent IsUp := by
  unfold scrapeWatermark
  refine (Journal.silent_ofExcept _).bind fun row => ?_
  refine (silent_set (by simp [IsUp]) _).bind fun _ => ?_
  exact (silent_setValue fl (by simp [IsUp]) _).bind fun _ => Journal.silent_pure _

/-! ## When the rest of an answer is published -/

/-- Every value `_set_tier_metrics` reads for a database is there and a number. -/
def TierEntry (tier : Tier) (s : Value) : Prop :=
  ∃ own, (do dictField (← dictField s "tiers") tier.name) = .ok own ∧
    (∃ v, own.get "totalCompactions" (.int 0) = .ok v ∧ Numeric fl v) ∧
    (∃ v, own.get "currentFiles" (.int 0) = .ok v ∧ Numeric fl v) ∧
    (∃ v, s.get "totalFailedCycles" (.int 0) = .ok v ∧ Numeric fl v) ∧
    (∃ v, s.get "totalFilesCompacted" (.int 0) = .ok v ∧ Numeric fl v) ∧
    ∃ last, (do parseIsoInstant fl (← s.get "lastSuccessTime" (.str ""))) = .ok last

theorem completes_ite_pure {c : Prop} [Decidable c] {x : Scrape Unit} :
    (if c then x else pure ()).Completes ↔ (c → x.Completes) := by
  split_ifs with h <;> simp [h]

theorem completes_setTierDatabase (tier : Tier) (clock : Key → Double) (db : Key) (s : Value) :
    (setTierDatabase fl tier clock db s).Completes ↔ TierEntry fl tier s := by
  unfold setTierDatabase TierEntry
  rw [completes_py_bind]
  refine exists_congr fun own => and_congr_right fun _ => ?_
  rw [completes_py_setValue_bind, completes_py_setValue_bind, completes_py_setValue_bind,
    completes_py_setValue_bind, completes_py_bind]
  simp only [completes_ite_pure, completes_set, implies_true, and_true]

/-- `_set_tier_metrics` can read the body of a tier's service. -/
structure TierBody (tier : Tier) (data : Value) : Prop where
  status : ∃ v, field data "status" = .ok v
  uptime : ∃ x, (do parseIsoDuration fl (← data.get "uptime" (.str ""))) = .ok x
  databases : ∃ dbs, databases data = .ok dbs ∧ ∀ db ∈ dbs, TierEntry fl tier db.2

theorem completes_setTierMetrics (tier : Tier) (data : Value) (clock : Key → Double) :
    (setTierMetrics fl tier data clock).Completes ↔ TierBody fl tier data := by
  unfold setTierMetrics
  rw [completes_py_set_bind, completes_py_set_bind, completes_py_bind]
  simp only [Journal.completes_forM, completes_setTierDatabase]
  exact ⟨fun ⟨hstatus, huptime, hdbs⟩ => ⟨hstatus, huptime, hdbs⟩,
    fun h => ⟨h.status, h.uptime, h.databases⟩⟩

/-- Every value of a database's statistics that a poll publishes is there and a number. -/
structure DatabaseEntry (args : Args) (s : Value) (st : DbStats) : Prop where
  minor : Numeric fl st.minor
  filesCompacted : Numeric fl st.filesCompacted
  small : Numeric fl st.small
  total : Numeric fl st.total
  tiers : ∃ tiers, field s "tiers" = .ok tiers ∧
    (¬0 < args.compactorMajorHealthPort ∨ isDict tiers = false →
      Numeric fl st.major ∧ Numeric fl st.medium)

theorem completes_setDatabase (args : Args) (db : Key) (s : Value) :
    (setDatabase fl args db s).Completes ↔
      ∃ st, compactorDbStats s = .ok st ∧ DatabaseEntry fl args s st := by
  unfold setDatabase
  rw [completes_py_bind]
  refine exists_congr fun st => and_congr_right fun _ => ?_
  simp only [completes_py_bind, Journal.completes_unit_bind, completes_setValue,
    completes_ite_pure, Bool.not_eq_true', Bool.and_eq_false_iff, decide_eq_false_iff_not]
  constructor
  · rintro ⟨hminor, hcompacted, hsmall, htotal, htiers⟩
    exact ⟨hminor, hcompacted, hsmall, htotal, htiers⟩
  · rintro ⟨hminor, hcompacted, hsmall, htotal, htiers⟩
    exact ⟨hminor, hcompacted, hsmall, htotal, htiers⟩

/-- A loop over the databases that reads every `tiers` field ends. -/
theorem anyTiers_eq_ok {dbs : Items} (h : ∀ db ∈ dbs, ∃ v, field db.2 "tiers" = .ok v) :
    ∃ b, anyTiers dbs = .ok b ∧
      (b = true ↔ ∃ db ∈ dbs, ∃ v, field db.2 "tiers" = .ok v ∧ isDict v = true) := by
  induction dbs with
  | nil => exact ⟨false, rfl, by simp⟩
  | cons db rest ih =>
      obtain ⟨v, hv⟩ := h db List.mem_cons_self
      obtain ⟨b, hb, hiff⟩ := ih fun db' hdb' => h db' (List.mem_cons_of_mem db hdb')
      by_cases hdict : isDict v = true
      · refine ⟨true, by simp [anyTiers, hv, hdict, Bind.bind, Except.bind, pure, Except.pure], ?_⟩
        simp [hv, hdict]
      · refine ⟨b, by simp [anyTiers, hv, hdict, hb, Bind.bind, Except.bind], ?_⟩
        rw [hiff]
        simp [hv, hdict]

/-- The body of a compactor can be published: its uptime and every value of every database, and,
where the body has tiers, the values of the minor tier. -/
structure CompactorBody (args : Args) (body : Value) : Prop where
  uptime : ∃ x, (do parseIsoDuration fl (← body.get "uptime" (.str ""))) = .ok x
  databases : ∃ dbs, databases body = .ok dbs ∧
    (∀ db ∈ dbs, ∃ st, compactorDbStats db.2 = .ok st ∧ DatabaseEntry fl args db.2 st) ∧
    ((∃ db ∈ dbs, ∃ v, field db.2 "tiers" = .ok v ∧ isDict v = true) → TierBody fl .minor body)

theorem completes_publishCompactor (args : Args) (body : Value) (clock : Key → Double) :
    (publishCompactor fl args body clock).Completes ↔ CompactorBody fl args body := by
  unfold publishCompactor
  rw [completes_py_set_bind, completes_py_bind]
  simp only [Journal.completes_unit_bind, Journal.completes_forM, completes_setDatabase,
    completes_py_bind, completes_ite_pure, completes_setTierMetrics]
  constructor
  · rintro ⟨huptime, dbs, hdbs, hentries, b, hb, hminor⟩
    refine ⟨huptime, dbs, hdbs, hentries, fun htiers => hminor ?_⟩
    obtain ⟨b', hb', hiff⟩ := anyTiers_eq_ok fun db hdb =>
      let ⟨_, _, hentry⟩ := hentries db hdb
      let ⟨v, hv, _⟩ := hentry.tiers
      ⟨v, hv⟩
    obtain rfl : b' = b := by simpa [hb'] using hb
    exact hiff.2 htiers
  · rintro ⟨huptime, dbs, hdbs, hentries, hminor⟩
    obtain ⟨b, hb, hiff⟩ := anyTiers_eq_ok fun db hdb =>
      let ⟨_, _, hentry⟩ := hentries db hdb
      let ⟨v, hv, _⟩ := hentry.tiers
      ⟨v, hv⟩
    exact ⟨huptime, dbs, hdbs, hentries, b, hb, fun h => hminor (hiff.1 h)⟩

/-- The body of the collector can be published. -/
structure CollectorBody (body : Value) : Prop where
  uptime : ∃ x, numberField fl body "uptimeSeconds" = .ok x
  batches : ∃ x, numberField fl body "batchesProcessed" = .ok x
  queues : ∃ x, numberField fl body "knownQueues" = .ok x

theorem completes_publishCollector (body : Value) :
    (publishCollector fl body).Completes ↔ CollectorBody fl body := by
  unfold publishCollector
  rw [completes_py_set_bind, completes_py_set_bind, completes_py_bind]
  simp only [completes_set, and_true]
  exact ⟨fun ⟨huptime, hbatches, hqueues⟩ => ⟨huptime, hbatches, hqueues⟩,
    fun h => ⟨h.uptime, h.batches, h.queues⟩⟩

/-- An entry for a dependency can be published. -/
def DependencyEntry (deps : Value) (dep : String) : Prop :=
  ∃ d, dictField deps dep = .ok d ∧ ∃ configured, field d "configured" = .ok configured ∧
    (configured.truthy = true →
      (∃ ok, field d "ok" = .ok ok) ∧
        ∃ latency, field d "latency_ms" = .ok latency ∧ NumericIfPresent fl latency)

theorem completes_publishDependency (role : Role) (deps : Value) (dep : String) :
    (publishDependency fl role deps dep).Completes ↔ DependencyEntry fl deps dep := by
  unfold publishDependency DependencyEntry
  rw [completes_py_bind]
  refine exists_congr fun d => and_congr_right fun _ => ?_
  rw [completes_py_bind]
  refine exists_congr fun configured => and_congr_right fun _ => ?_
  rw [completes_ite_pure, completes_py_set_bind]
  simp only [completes_py_bind, completes_setIfPresent]

/-- What an agent says of the service's unit and of its host can be published. -/
structure HostFields (snap : Snapshot) : Prop where
  latency : ∃ x, numberField fl snap.health "latency_ms" = .ok x
  restarts : ∃ x, numberField fl snap.unit "restarts" = .ok x
  active : ∃ v, field snap.unit "ok" = .ok v
  oomKills : ∃ x, numberField fl snap.svc "oom_kills" = .ok x
  rss : ∃ v, field snap.svc "rss_bytes" = .ok v ∧ NumericIfPresent fl v
  cpu : ∃ v, field snap.svc "cpu_percent" = .ok v ∧ NumericIfPresent fl v
  dependencies : ∀ dep ∈ ["s3", "rds"], DependencyEntry fl snap.deps dep
  host : ∀ key ∈ hostMetrics, ∃ v, field snap.sysm key = .ok v ∧ NumericIfPresent fl v

theorem completes_publishHost (role : Role) (snap : Snapshot) :
    (publishHost fl role snap).Completes ↔ HostFields fl snap := by
  unfold publishHost
  rw [completes_py_set_bind, completes_py_set_bind, completes_py_set_bind, completes_py_set_bind,
    completes_py_setIfPresent_bind, completes_py_setIfPresent_bind, Journal.completes_unit_bind]
  simp only [Journal.completes_forM, completes_publishDependency, completes_py_bind,
    completes_setIfPresent]
  constructor
  · rintro ⟨hlatency, hrestarts, hactive, hoom, hrss, hcpu, hdeps, hhost⟩
    exact ⟨hlatency, hrestarts, hactive, hoom, hrss, hcpu, hdeps, hhost⟩
  · rintro ⟨hlatency, hrestarts, hactive, hoom, hrss, hcpu, hdeps, hhost⟩
    exact ⟨hlatency, hrestarts, hactive, hoom, hrss, hcpu, hdeps, hhost⟩

end AnalyticsTesting.Monitoring
