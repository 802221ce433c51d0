import AnalyticsTesting.Monitoring.Proofs.Scrapes

set_option autoImplicit false

/-! # The liveness gauges

`bench_collector_up` and `bench_compactor_up` show the last answer of the service that could be
read (`upGauge_eq_lastReport`): a poll that gets no such answer leaves them, and a poll that fails
after reading one has already set them. So they tell the truth about the last poll in exactly those
histories in which no unreadable answer follows a healthy one and every healthy answer is fresh and
complete (`liveness_iff`). -/

namespace AnalyticsTesting.Monitoring

open Config (Key Value Items Py PyExc raise orRaise)

variable (fl : FloatFormat)

/-! ## Answers -/

/-- The answer of a service, or of its agent. -/
def Poll.answer (p : Poll) : Role → Answer
  | .collector => p.collector
  | .compactor => p.compactor

/-- The status of a healthy service. -/
def Role.healthyStatus : Role → String
  | collector => "HEALTHY"
  | compactor => "UP"

/-- Whether the answer of a poll says that the service is healthy; `none` where it cannot be
read. -/
def report (args : Args) (role : Role) (p : Poll) : Option Bool :=
  match args.healthMode with
  | .ssh => ((readSnapshot args (p.answer role)).map Snapshot.ok).toOption
  | .http =>
      ((httpAnswer (p.answer role)).map fun a => isText role.healthyStatus a.2).toOption

/-- The fields of a service's own body can be published. -/
def BodyFields (args : Args) (body : Value) : Role → Prop
  | .collector => CollectorBody fl body
  | .compactor => CompactorBody fl args body

/-- A snapshot is no older than the limit. -/
def Fresh (args : Args) (role : Role) (p : Poll) (snap : Snapshot) : Prop :=
  ∃ age, snap.age fl (p.readAt role) = .ok age ∧ Double.lt args.maxStateAge age = false

/-- What the answer says besides its health can be published: over SSH the snapshot is fresh and
has the fields of the service, of its unit and of its host, over HTTP the body has the service's. -/
def Publishable (args : Args) (role : Role) (p : Poll) : Prop :=
  match args.healthMode with
  | .ssh => ∀ snap, readSnapshot args (p.answer role) = .ok snap →
      Fresh fl args role p snap ∧ BodyFields fl args snap.body role ∧ HostFields fl snap
  | .http => ∀ a, httpAnswer (p.answer role) = .ok a → BodyFields fl args a.1 role

/-! ## One scrape -/

/-- The scrape of a service. -/
def scrapeService (args : Args) (p : Poll) : Role → Scrape Value
  | .collector => scrapeCollector fl args p
  | .compactor => scrapeCompactor fl args p

theorem completes_publishBody (args : Args) (role : Role) (snap : Snapshot)
    (clock : Key → Double) :
    (publishBody fl args role snap clock).Completes ↔ BodyFields fl args snap.body role := by
  cases role with
  | collector => exact completes_publishCollector fl snap.body
  | compactor => exact completes_publishCompactor fl args snap.body clock

theorem completes_publishSnapshot (args : Args) (role : Role) (snap : Snapshot) (now : Double)
    (clock : Key → Double) :
    (publishSnapshot fl args role snap now clock).Completes ↔
      (∃ age, snap.age fl now = .ok age ∧ Double.lt args.maxStateAge age = false) ∧
        BodyFields fl args snap.body role ∧ HostFields fl snap := by
  unfold publishSnapshot
  rw [completes_py_bind, ← exists_and_right]
  refine exists_congr fun age => ?_
  rw [and_assoc]
  refine and_congr_right fun _ => ?_
  rw [Journal.completes_unit_bind]
  by_cases hstale : Double.lt args.maxStateAge age = true
  · simp [hstale]
  · rw [if_neg hstale, Journal.completes_unit_bind, Journal.completes_unit_bind,
      completes_publishBody, completes_publishHost]
    simp [hstale]

/-- What is known of the scrape of a service whose answer says `health`. -/
structure ScrapeSpec {α : Type} (role : Role) (x : Scrape α) (health : Option Bool)
    (publishable : Prop) : Prop where
  /-- The gauge of the service shows the health, or what it showed before where there is none. -/
  shows : ∀ g, x.after g (upGauge role) = (health.map flag).getD (g (upGauge role))
  /-- The other service's gauge is left alone. -/
  frame : ∀ g other, other ≠ role → x.after g (upGauge other) = g (upGauge other)
  /-- The scrape succeeds if the answer says something and the rest of it can be published. -/
  completes : x.Completes ↔ health ≠ none ∧ publishable

theorem upGauge_injective {role other : Role} (h : upGauge other = upGauge role) :
    other = role := by
  cases role <;> cases other <;> first | rfl | cases h

/-- A scrape that reads an answer, shows its health, and publishes the rest of it. -/
theorem ScrapeSpec.of_reads {α β : Type} {role : Role} {r : Except ScrapeError α} {ok : α → Bool}
    {rest : α → Unit → Scrape β} {fields : α → Prop} (hrest : ∀ a, (rest a ()).Silent IsUp)
    (hfields : ∀ a, (rest a ()).Completes ↔ fields a) :
    ScrapeSpec role (Journal.ofExcept r >>= fun a => (upGauge role).set (flag (ok a)) >>= rest a)
      (r.map ok).toOption (∀ a, r = .ok a → fields a) where
  shows g := by
    have hsilent : ∀ a, (rest a ()).Silent (· = upGauge role) := by
      intro a w hw heq
      exact hrest a w hw (heq ▸ isUp_upGauge role)
    refine (Journal.after_bind_write r (fun a => flag (ok a)) rest hsilent g).trans ?_
    cases r with
    | ok a => rfl
    | error e => rfl
  frame g other hne := by
    have hgauge : upGauge role ≠ upGauge other := fun h => hne (upGauge_injective h.symm)
    have hsilent : (Journal.ofExcept r >>= fun a =>
        (upGauge role).set (flag (ok a)) >>= rest a : Scrape β).Silent (· = upGauge other) := by
      refine (Journal.silent_ofExcept r).bind fun a => ?_
      refine (Journal.silent_write (K := (· = upGauge other)) hgauge _).bind fun _ w hw heq => ?_
      exact hrest a w hw (heq ▸ isUp_upGauge other)
    exact hsilent.after_eq g rfl
  completes := by
    rw [Journal.completes_bind]
    cases r with
    | ok a => simp [Journal.completes_unit_bind, hfields, Except.map, Except.toOption]
    | error e => simp [Except.map, Except.toOption]

/-- A handler of failures that leaves the liveness gauges alone. -/
theorem ScrapeSpec.onError {α : Type} {role : Role} {x : Scrape α} {health : Option Bool}
    {publishable : Prop} (h : ScrapeSpec role x health publishable) {y : Scrape Unit}
    (hy : y.Silent IsUp) : ScrapeSpec role (x.onError y) health publishable := by
  have hafter : ∀ g r, (x.onError y).after g (upGauge r) = x.after g (upGauge r) := by
    intro g r
    refine Journal.after_onError (fun w hw heq => ?_) g
    exact hy w hw (heq ▸ isUp_upGauge r)
  refine ⟨fun g => ?_, fun g other hne => ?_, ?_⟩
  · rw [hafter]; exact h.shows g
  · rw [hafter]; exact h.frame g other hne
  · rw [Journal.completes_onError]; exact h.completes

theorem field_of_numberField {v : Value} {key : String}
    (h : ∃ x, numberField fl v key = .ok x) : ∃ w, field v key = .ok w := by
  obtain ⟨x, hx⟩ := h
  obtain ⟨w, hw, -⟩ := Config.bind_eq_ok.1 hx
  exact ⟨w, hw⟩

/-- What `scrape_collector` does over HTTP after it has shown the health. -/
def collectorRest (answer : Value × Value) (_ : Unit) : Scrape Value := do
  publishCollector fl answer.1
  return .dict [
    (.str "status", answer.2),
    (.str "uptime_seconds", ← py (field answer.1 "uptimeSeconds")),
    (.str "batches_processed", ← py (field answer.1 "batchesProcessed")),
    (.str "known_queues", ← py (field answer.1 "knownQueues")),
    (.str "pending_batches", .none),
    (.str "pending_buckets", .none)]

theorem silent_collectorRest (answer : Value × Value) :
    (collectorRest fl answer ()).Silent IsUp := by
  unfold collectorRest
  refine (silent_publishCollector fl answer.1).bind fun _ => ?_
  refine (silent_py _).bind fun _ => (silent_py _).bind fun _ => (silent_py _).bind fun _ => ?_
  exact Journal.silent_pure _

theorem completes_collectorRest (answer : Value × Value) :
    (collectorRest fl answer ()).Completes ↔ CollectorBody fl answer.1 := by
  unfold collectorRest
  rw [Journal.completes_unit_bind, completes_publishCollector]
  simp only [completes_py_bind, Journal.completes_pure, and_true, exists_and_right]
  refine and_iff_left_of_imp fun h => ?_
  exact ⟨field_of_numberField fl h.uptime, field_of_numberField fl h.batches,
    field_of_numberField fl h.queues⟩

/-- What `scrape_compactor` does over HTTP after it has shown the health. -/
def compactorRest (args : Args) (p : Poll) (answer : Value × Value) (_ : Unit) : Scrape Value := do
  publishCompactor fl args answer.1 (p.tierAt .minor)
  return answer.1

theorem silent_compactorRest (args : Args) (p : Poll) (answer : Value × Value) :
    (compactorRest fl args p answer ()).Silent IsUp :=
  (silent_publishCompactor fl args answer.1 _).bind fun _ => Journal.silent_pure _

theorem completes_compactorRest (args : Args) (p : Poll) (answer : Value × Value) :
    (compactorRest fl args p answer ()).Completes ↔ CompactorBody fl args answer.1 := by
  unfold compactorRest
  rw [Journal.completes_unit_bind, completes_publishCompactor]
  simp

/-- **One scrape of a service.** -/
theorem scrapeService_spec (args : Args) (p : Poll) (role : Role) :
    ScrapeSpec role (scrapeService fl args p role) (report args role p)
      (Publishable fl args role p) := by
  cases hmode : args.healthMode with
  | ssh =>
      have hspec : ScrapeSpec role
          (scrapeAgent fl args role (p.answer role) (p.readAt role) (p.tierAt .minor))
          (report args role p) (Publishable fl args role p) := by
        simp only [report, Publishable, Fresh, hmode]
        exact .of_reads (fun snap => silent_publishSnapshot fl args role snap _ _)
          fun snap => completes_publishSnapshot fl args role snap _ _
      cases role with
      | collector =>
          simp only [scrapeService, scrapeCollector, hmode]
          exact hspec
      | compactor =>
          simp only [scrapeService, scrapeCompactor, hmode]
          exact hspec.onError (silent_set (by simp [IsUp]) _)
  | http =>
      cases role with
      | collector =>
          have hspec : ScrapeSpec .collector
              (Journal.ofExcept (httpAnswer p.collector) >>= fun a =>
                (upGauge .collector).set (flag (isText "HEALTHY" a.2)) >>=
                  collectorRest fl a) _ _ :=
            .of_reads (silent_collectorRest fl) (completes_collectorRest fl)
          simp only [scrapeService, scrapeCollector, report, Publishable, hmode]
          exact hspec
      | compactor =>
          have hspec : ScrapeSpec .compactor
              (Journal.ofExcept (httpAnswer p.compactor) >>= fun a =>
                (upGauge .compactor).set (flag (isText "UP" a.2)) >>= compactorRest fl args p a)
              _ _ :=
            .of_reads (silent_compactorRest fl args p) (completes_compactorRest fl args p)
          simp only [scrapeService, scrapeCompactor, report, Publishable, hmode]
          exact hspec

/-! ## One poll -/

theorem runSource_gauges {α : Type} (name : Source) (seconds : Source → Double) (fn : Scrape α)
    (e : Exporter) (role : Role) :
    (runSource name seconds fn e).1.gauges (upGauge role)
      = fn.after e.gauges (upGauge role) := by
  unfold runSource
  cases fn.result <;> cases role <;> rfl

theorem runSource_scraped_iff {α : Type} (name : Source) (seconds : Source → Double)
    (fn : Scrape α) (e : Exporter) :
    (∃ v, (runSource name seconds fn e).2 = .scraped v) ↔ fn.Completes := by
  unfold runSource Journal.Completes
  cases fn.result with
  | ok v => simp
  | error error => simp

/-- A source whose scrape leaves the liveness gauges alone. -/
theorem runSource_frame {α : Type} {fn : Scrape α} (h : fn.Silent IsUp) (name : Source)
    (seconds : Source → Double) (e : Exporter) (role : Role) :
    (runSource name seconds fn e).1.gauges (upGauge role) = e.gauges (upGauge role) := by
  rw [runSource_gauges]
  exact h.after_eq e.gauges (isUp_upGauge role)

/-- The entry of a service in a sample. -/
def Sample.entry (sample : Sample) : Role → Entry Value
  | .collector => sample.collector
  | .compactor => sample.compactor

theorem pollMajor_frame (args : Args) (p : Poll) (e : Exporter) (role : Role) :
    (pollMajor fl args p e).1.gauges (upGauge role) = e.gauges (upGauge role) := by
  unfold pollMajor
  split
  · exact runSource_frame (silent_scrapeCompactorMajor fl args p) _ _ e role
  · rfl

theorem pollWatermark_frame (args : Args) (p : Poll) (e : Exporter) (role : Role) :
    (pollWatermark fl args p e).1.gauges (upGauge role) = e.gauges (upGauge role) := by
  unfold pollWatermark
  split
  · exact runSource_frame (silent_scrapeWatermark fl p) _ _ e role
  · rfl

theorem pollS3_frame (args : Args) (p : Poll) (e : Exporter) (role : Role) :
    (pollS3 fl args p e).1.gauges (upGauge role) = e.gauges (upGauge role) := by
  unfold pollS3
  split
  · exact runSource_frame (Journal.silent_ofExcept _) _ _ e role
  · rfl

/-- **One poll**, for one service: its gauge shows what the answer says, and its scrape succeeded
if the answer says something and the rest of it can be published. -/
theorem pollOnce_spec (args : Args) (e : Exporter) (p : Poll) (role : Role) :
    (pollOnce fl args e p).1.gauges (upGauge role)
        = ((report args role p).map flag).getD (e.gauges (upGauge role)) ∧
      ((∃ v, (pollOnce fl args e p).2.entry role = .scraped v) ↔
        report args role p ≠ none ∧ Publishable fl args role p) := by
  unfold pollOnce
  simp only [pollS3_frame, pollWatermark_frame, pollMajor_frame,
    runSource_frame (Journal.silent_ofExcept _), runSource_gauges]
  have hcollector := scrapeService_spec fl args p .collector
  have hcompactor := scrapeService_spec fl args p .compactor
  cases role with
  | collector =>
      refine ⟨?_, ?_⟩
      · refine (hcompactor.frame _ .collector (by decide)).trans ?_
        rw [runSource_gauges]
        exact hcollector.shows e.gauges
      · exact (runSource_scraped_iff _ _ _ _).trans hcollector.completes
  | compactor =>
      refine ⟨?_, ?_⟩
      · refine (hcompactor.shows _).trans ?_
        rw [runSource_gauges]
        exact congrArg _ (hcollector.frame e.gauges .compactor (by decide))
      · exact (runSource_scraped_iff _ _ _ _).trans hcompactor.completes

/-! ## Runs of polls -/

/-- The last answer of a service that could be read. -/
def lastReport (args : Args) (role : Role) (ps : List Poll) : Option Bool :=
  (ps.filterMap (report args role)).getLast?

theorem lastReport_cons (args : Args) (role : Role) (p : Poll) (ps : List Poll) :
    lastReport args role (p :: ps) = (lastReport args role ps).or (report args role p) := by
  unfold lastReport
  cases h : report args role p with
  | none => simp [h]
  | some b =>
      rw [List.filterMap_cons_some h, List.getLast?_cons]
      cases (ps.filterMap (report args role)).getLast? <;> rfl

theorem exists_run (args : Args) (e : Exporter) (ps : List Poll) :
    ∃ e', (exporter fl args).run e ps = some e' := by
  induction ps generalizing e with
  | nil => exact ⟨e, rfl⟩
  | cons p ps ih =>
      obtain ⟨e', he'⟩ := ih (turn fl args e p)
      exact ⟨e', Transition.System.run_cons_eq_some.2 ⟨_, rfl, he'⟩⟩

/-- What the gauge of a service shows after some polls. -/
theorem gauge_of_run (args : Args) (role : Role) (ps : List Poll) :
    ∀ {e e' : Exporter}, (exporter fl args).run e ps = some e' →
      e'.gauges (upGauge role)
        = ((lastReport args role ps).map flag).getD (e.gauges (upGauge role)) := by
  induction ps with
  | nil =>
      intro e e' h
      obtain rfl : e = e' := by simpa [Transition.System.run] using h
      rfl
  | cons p ps ih =>
      intro e e' h
      obtain ⟨t, ht, hrest⟩ := Transition.System.run_cons_eq_some.1 h
      obtain rfl : turn fl args e p = t := Option.some.inj ht
      have hstep : (turn fl args e p).gauges (upGauge role)
          = ((report args role p).map flag).getD (e.gauges (upGauge role)) :=
        (pollOnce_spec fl args e p role).1
      rw [ih hrest, hstep, lastReport_cons]
      cases lastReport args role ps <;> rfl

/-- **The gauge shows the last answer that could be read**, however long ago that was. -/
theorem upGauge_eq_lastReport {args : Args} {ps : List Poll} {e : Exporter}
    (h : (exporter fl args).run Exporter.new ps = some e) (role : Role) :
    e.gauges (upGauge role) = ((lastReport args role ps).map flag).getD (flag false) :=
  gauge_of_run fl args role ps h

/-! ## Gauges that tell the truth -/

/-- The answer is a healthy state; over SSH also one that is fresh. -/
def HealthyState (args : Args) (role : Role) (p : Poll) : Prop :=
  match args.healthMode with
  | .ssh => ∃ snap, readSnapshot args (p.answer role) = .ok snap ∧ snap.ok = true ∧
      Fresh fl args role p snap
  | .http => ∃ a, httpAnswer (p.answer role) = .ok a ∧ isText role.healthyStatus a.2 = true

/-- After the poll, the gauge of the service is 1 only if the poll's scrape of the service succeeded
and its answer is a fresh, healthy state. -/
def Truthful (args : Args) (role : Role) (e : Exporter) (p : Poll) : Prop :=
  (turn fl args e p).gauges (upGauge role) = .fin 1 →
    (∃ v, (pollOnce fl args e p).2.entry role = .scraped v) ∧ HealthyState fl args role p

/-- An answer that cannot be read does not follow a healthy one, and a healthy answer is fresh and
complete. -/
structure Sound (args : Args) (role : Role) (before : List Poll) (p : Poll) : Prop where
  unreadable : report args role p = none → lastReport args role before ≠ some true
  healthy : report args role p = some true → Publishable fl args role p

theorem flag_eq_one_iff (b : Bool) : flag b = .fin 1 ↔ b = true := by
  cases b <;> simp [flag]

/-- An answer that says the service is healthy, with the rest of it publishable, is a healthy
state. -/
theorem healthyState_of_report {args : Args} {role : Role} {p : Poll}
    (h : report args role p = some true) (hp : Publishable fl args role p) :
    HealthyState fl args role p := by
  unfold report at h
  unfold Publishable at hp
  unfold HealthyState
  cases hmode : args.healthMode with
  | ssh =>
      simp only [hmode] at h hp ⊢
      cases hread : readSnapshot args (p.answer role) with
      | error e => simp [hread, Except.map, Except.toOption] at h
      | ok snap =>
          have hok : snap.ok = true := by simpa [hread, Except.map, Except.toOption] using h
          exact ⟨snap, rfl, hok, (hp snap hread).1⟩
  | http =>
      simp only [hmode] at h hp ⊢
      cases hread : httpAnswer (p.answer role) with
      | error e => simp [hread, Except.map, Except.toOption] at h
      | ok a => exact ⟨a, rfl, by simpa [hread, Except.map, Except.toOption] using h⟩

theorem truthful_iff {args : Args} {role : Role} {before : List Poll} {e : Exporter} {p : Poll}
    (hrun : (exporter fl args).run Exporter.new before = some e) :
    Truthful fl args role e p ↔ Sound fl args role before p := by
  obtain ⟨hgauge, hscraped⟩ := pollOnce_spec fl args e p role
  unfold Truthful
  rw [show (turn fl args e p).gauges (upGauge role) = _ from hgauge, hscraped,
    upGauge_eq_lastReport fl hrun role]
  constructor
  · intro h
    refine ⟨fun hreport hlast => ?_, fun hreport => ?_⟩
    · have hone := h (by rw [hreport, hlast]; rfl)
      exact hone.1.1 hreport
    · exact (h (by rw [hreport]; rfl)).1.2
  · intro h hone
    cases hreport : report args role p with
    | none =>
        -- nothing was read, so the gauge still shows what the last readable answer set
        rw [hreport] at hone
        cases hlast : lastReport args role before with
        | none => simp [hlast, flag] at hone
        | some b =>
            have hb : b = true := by simpa [hlast, flag_eq_one_iff] using hone
            exact absurd (hlast.trans (congrArg some hb)) (h.unreadable hreport)
    | some b =>
        have hb : b = true := by simpa [hreport, flag_eq_one_iff] using hone
        subst hb
        have hpublish := h.healthy hreport
        exact ⟨⟨by simp, hpublish⟩, healthyState_of_report fl hreport hpublish⟩

/-- **When the liveness gauges never show a stale UP.** In a run of polls both gauges tell the truth
after every poll if and only if every poll is sound for both services, given the answers before
it. -/
theorem liveness_iff (args : Args) (ps : List Poll) :
    (exporter fl args).Meets (fun e p => ∀ role, Truthful fl args role e p) Exporter.new ps ↔
      ∀ before p, before ++ [p] <+: ps → ∀ role, Sound fl args role before p := by
  rw [Transition.System.meets_iff_prefix]
  constructor
  · intro h before p hprefix role
    obtain ⟨e, he⟩ := exists_run fl args Exporter.new before
    exact (truthful_iff fl he).1 (h before p e hprefix he role)
  · intro h before p e hprefix he role
    exact (truthful_iff fl he).2 (h before p hprefix role)

/-! ## An agent that dies -/

/-- An exporter over SSH. -/
def sshArgs : Args where
  healthMode := .ssh
  agentStatePath := "/opt/analytics-bench/agent/state/health.json"
  maxStateAge := .fin 90
  compactorMajorHealthPort := 0
  watermarkInterval := .fin 60
  s3Interval := .fin 60

/-- A poll at `now` with this answer of the collector's agent; everything else fails. -/
def collectorPoll (now : Double) (answer : Answer) : Poll where
  now := now
  collector := answer
  compactor := .failed "ssh failed"
  compactorMajor := .failed "ssh failed"
  readAt _ := now
  tierAt _ _ := now
  catalog := .error "connection refused"
  watermark := .error "connection refused"
  s3 := .error "connection refused"
  seconds _ := .fin 0

/-- The snapshot of a healthy collector at `ts`. -/
def healthySnapshot (ts : Int) : Value :=
  .dict [(.str "ts", .int ts),
    (.str "service", .dict [(.str "health", .dict [(.str "ok", .bool true)])])]

/-- A healthy collector. -/
def healthyPoll : Poll := collectorPoll (.fin 1000) (.json (healthySnapshot 1000))

/-- Its host does not answer. -/
def deadPoll : Poll := collectorPoll (.fin 1010) (.failed "ssh failed")

/-- **The collector's gauge stays at 1 when its host stops answering.** -/
theorem not_truthful_deadPoll :
    ¬ ∀ (args : Args) (ps : List Poll),
        (exporter .binary64 args).Meets (fun e p => ∀ role, Truthful .binary64 args role e p)
          Exporter.new ps := by
  intro h
  obtain ⟨-, hrest⟩ := h sshArgs [healthyPoll, deadPoll]
  have htruthful := (hrest _ rfl).1 .collector
  have hsound : Sound .binary64 sshArgs .collector [healthyPoll] deadPoll :=
    (truthful_iff .binary64 rfl).1 htruthful
  exact hsound.unreadable rfl rfl

end AnalyticsTesting.Monitoring
