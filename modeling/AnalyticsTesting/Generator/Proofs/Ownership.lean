import AnalyticsTesting.Generator.Main
import AnalyticsTesting.Generator.Proofs.Accounting

set_option autoImplicit false

/-! # What goes on the wire

Templates are shared mutable objects, stamped in place. That each request still carries the numbers
of its own work item rests on ownership: worker `w` only ever stamps the templates at the positions
`templateIndex w _`, and no other worker looks there. `Owned` says how far each worker's template
is stamped, and that what was handed to the exporter was stamped in full; one move of any thread
preserves it (`WorkerMove.owned`). That no number is handed over twice is the ledger of the
`handed` stage (nothing is handed over that was not put, nothing twice) together with the tiling of
the numbers by the items. -/

namespace AnalyticsTesting.Generator

variable {η : Type} [SeqHandle η]

/-- How many records of the worker's template carry the numbers of its item. -/
def WorkerPc.stampedUpTo (batch : Nat) : WorkerPc → Option (WorkItem × Nat)
  | .stamping item _ k => some (item, k)
  | .stamped item | .calling item | .exporting item _ => some (item, batch)
  | _ => none

/-- The ownership invariant. -/
structure Owned (g : LoadGenerator η) (s : State η) : Prop where
  length_workers : s.workers.length = g.workers
  templates_wf : ∀ t ∈ s.templates, t.Wf g.factory.batchSize
  carriesUpTo : ∀ w pc item k, s.workers[w]? = some pc →
    pc.stampedUpTo g.factory.batchSize = some (item, k) →
    ∀ t, s.templates[g.factory.templateIndex w item.variant]? = some t →
      t.CarriesUpTo item.seqStart k
  exporting : ∀ w item sent, s.workers[w]? = some (.exporting item sent) →
    ∀ t, s.templates[g.factory.templateIndex w item.variant]? = some t →
      (⟨w, item, t.request⟩ : Export) ∈ s.logExports
  exports_carry : ∀ e ∈ s.logExports,
    e.request.Carries η e.item.seqStart g.factory.batchSize
  wire_eq : ∀ e ∈ s.logWire, e ∈ s.logExports

namespace Owned

variable {g : LoadGenerator η} {s : State η}

theorem worker_lt (h : Owned g s) {w : Nat} {pc : WorkerPc} (hpc : s.workers[w]? = some pc) :
    w < g.factory.workers := by
  have hlt := (List.getElem?_eq_some_iff.1 hpc).1
  rw [h.length_workers] at hlt
  exact hlt.trans_le g.workers_le

/-- A move of worker `w` that leaves the pool, the exports and the wire alone. -/
theorem move (h : Owned g s) {t : State η} {w : Nat} {pc' : WorkerPc}
    (htemplates : t.templates = s.templates)
    (hexports : t.logExports = s.logExports) (hwire : t.logWire = s.logWire)
    (hcarries : ∀ item k, pc'.stampedUpTo g.factory.batchSize = some (item, k) →
      ∀ u, s.templates[g.factory.templateIndex w item.variant]? = some u →
        u.CarriesUpTo item.seqStart k)
    (hexporting : ∀ item sent, pc' ≠ .exporting item sent) :
    Owned g { t with workers := s.workers.set w pc' } where
  length_workers := by rw [List.length_set, h.length_workers]
  templates_wf := by
    intro u hu
    exact h.templates_wf u (by rwa [← htemplates])
  carriesUpTo := by
    intro v pc₁ item k hv hup u hu
    have hu' : s.templates[g.factory.templateIndex v item.variant]? = some u := by
      rwa [← htemplates]
    rcases getElem?_set_eq_some hv with ⟨rfl, rfl⟩ | ⟨-, hold⟩
    · exact hcarries item k hup u hu'
    · exact h.carriesUpTo v pc₁ item k hold hup u hu'
  exporting := by
    intro v item sent hv u hu
    have hu' : s.templates[g.factory.templateIndex v item.variant]? = some u := by
      rwa [← htemplates]
    show (⟨v, item, u.request⟩ : Export) ∈ t.logExports
    rw [hexports]
    rcases getElem?_set_eq_some hv with ⟨rfl, hsent⟩ | ⟨-, hold⟩
    · exact absurd hsent (hexporting item sent)
    · exact h.exporting v item sent hold u hu'
  exports_carry := by
    show ∀ e ∈ t.logExports, _
    rw [hexports]
    exact h.exports_carry
  wire_eq := by
    show ∀ e ∈ t.logWire, e ∈ t.logExports
    rw [hexports, hwire]
    exact h.wire_eq

/-- Worker `w` stamps record `k` of its own template: everyone else's template is untouched. -/
theorem stamp (h : Owned g s) {w nowNs k : Nat} {item : WorkItem} {u u' : RequestTemplate η}
    (hpc : s.workers[w]? = some (.stamping item nowNs k))
    (hget : s.templates[g.factory.templateIndex w item.variant]? = some u)
    (hstamp : u.stampRecord k (item.seqStart + k) nowNs = some u') :
    Owned g { s with templates := s.templates.set (g.factory.templateIndex w item.variant) u',
                     workers := s.workers.set w (.stamping item nowNs (k + 1)) } := by
  have hwf := h.templates_wf u (List.mem_of_getElem? hget)
  have hlt := (List.getElem?_eq_some_iff.1 hget).1
  -- the pools of two workers share no index, so another worker's template is not the one written
  have hother : ∀ v pc (i : WorkItem), w ≠ v → s.workers[v]? = some pc →
      (s.templates.set (g.factory.templateIndex w item.variant) u')[
        g.factory.templateIndex v i.variant]?
        = s.templates[g.factory.templateIndex v i.variant]? := by
    intro v pc i hne hv
    exact List.getElem?_set_ne
      (g.factory.templateIndex_ne (h.worker_lt hpc) (h.worker_lt hv) hne _ _)
  exact
    { length_workers := by rw [List.length_set, h.length_workers]
      templates_wf := by
        intro t ht
        rcases List.mem_or_eq_of_mem_set ht with hold | rfl
        · exact h.templates_wf t hold
        · exact (RequestTemplate.stampRecord_spec hwf hstamp).1
      carriesUpTo := by
        intro v pc₁ i j hv hup t ht
        rcases getElem?_set_eq_some hv with ⟨rfl, rfl⟩ | ⟨hvw, hv⟩
        · obtain ⟨rfl, rfl⟩ : item = i ∧ k + 1 = j := by simpa [WorkerPc.stampedUpTo] using hup
          rw [List.getElem?_set_self hlt] at ht
          obtain rfl := Option.some.inj ht
          have hold := h.carriesUpTo w _ item k hpc rfl u hget
          exact RequestTemplate.stampRecord_carriesUpTo hwf hold hstamp
        · rw [hother v pc₁ i hvw hv] at ht
          exact h.carriesUpTo v pc₁ i j hv hup t ht
      exporting := by
        intro v i sent hv t ht
        rcases getElem?_set_eq_some hv with ⟨rfl, hsent⟩ | ⟨hvw, hv⟩
        · simp at hsent
        · rw [hother v _ i hvw hv] at ht
          exact h.exporting v i sent hv t ht
      exports_carry := h.exports_carry
      wire_eq := h.wire_eq }

/-- A worker whose template stays stamped as far as it was. -/
theorem carriesUpTo_set (h : Owned g s) {w : Nat} {pc pc' : WorkerPc}
    (hpc : s.workers[w]? = some pc)
    (hstamped : pc'.stampedUpTo g.factory.batchSize = pc.stampedUpTo g.factory.batchSize) :
    ∀ v pc₁ item k, (s.workers.set w pc')[v]? = some pc₁ →
      pc₁.stampedUpTo g.factory.batchSize = some (item, k) →
      ∀ t, s.templates[g.factory.templateIndex v item.variant]? = some t →
        t.CarriesUpTo item.seqStart k := by
  intro v pc₁ item k hv hup t ht
  rcases getElem?_set_eq_some hv with ⟨rfl, rfl⟩ | ⟨-, hold⟩
  · exact h.carriesUpTo w pc item k hpc (hstamped ▸ hup) t ht
  · exact h.carriesUpTo v pc₁ item k hold hup t ht

/-- Worker `w` hands its template over, stamped in full. -/
theorem call (h : Owned g s) {w : Nat} {item : WorkItem} {u : RequestTemplate η}
    (hpc : s.workers[w]? = some (.calling item))
    (hget : s.templates[g.factory.templateIndex w item.variant]? = some u) :
    Owned g { s with logExports := s.logExports ++ [⟨w, item, u.request⟩],
                     workers := s.workers.set w (.exporting item false) } where
  length_workers := by rw [List.length_set, h.length_workers]
  templates_wf := h.templates_wf
  carriesUpTo := h.carriesUpTo_set hpc rfl
  exporting := by
    intro v i sent hv t ht
    rcases getElem?_set_eq_some hv with ⟨rfl, hsent⟩ | ⟨-, hold⟩
    · obtain ⟨rfl, -⟩ : item = i ∧ false = sent := by simpa using hsent
      have htu : t = u := Option.some.inj (ht.symm.trans hget)
      rw [htu]
      exact List.mem_append_right _ (List.mem_singleton_self _)
    · exact List.mem_append_left _ (h.exporting v i sent hold t ht)
  exports_carry := by
    intro e he
    rcases List.mem_append.1 he with hold | hnew
    · exact h.exports_carry e hold
    · obtain rfl := List.mem_singleton.1 hnew
      have hwf := h.templates_wf u (List.mem_of_getElem? hget)
      exact hwf.carries (h.carriesUpTo w _ item _ hpc rfl u hget)
  wire_eq e he := List.mem_append_left _ (h.wire_eq e he)

/-- gRPC serializes the request: the template is still the one that was handed over. -/
theorem serialize (h : Owned g s) {w : Nat} {item : WorkItem} {u : RequestTemplate η}
    (hpc : s.workers[w]? = some (.exporting item false))
    (hget : s.templates[g.factory.templateIndex w item.variant]? = some u) :
    Owned g { s with logWire := s.logWire ++ [⟨w, item, u.request⟩],
                     workers := s.workers.set w (.exporting item true) } where
  length_workers := by rw [List.length_set, h.length_workers]
  templates_wf := h.templates_wf
  carriesUpTo := h.carriesUpTo_set hpc rfl
  exporting := by
    intro v i sent hv t ht
    rcases getElem?_set_eq_some hv with ⟨rfl, hsent⟩ | ⟨-, hold⟩
    · obtain ⟨rfl, -⟩ : item = i ∧ true = sent := by simpa using hsent
      exact h.exporting w item false hpc t ht
    · exact h.exporting v i sent hold t ht
  exports_carry := h.exports_carry
  wire_eq := by
    intro e he
    rcases List.mem_append.1 he with hold | hnew
    · exact h.wire_eq e hold
    · obtain rfl := List.mem_singleton.1 hnew
      exact h.exporting w item false hpc u hget

end Owned

/-- **One move of a worker** keeps every template with its owner. -/
theorem WorkerMove.owned {g : LoadGenerator η} {s t : State η} {w : Nat} {pc pc' : WorkerPc}
    (hmove : WorkerMove g s w pc t pc') (hpc : s.workers[w]? = some pc) (h : Owned g s) :
    Owned g { t with workers := s.workers.set w pc' } := by
  cases hmove with
  | stamp item nowNs k u u' hget hstamp => exact h.stamp hpc hget hstamp
  | call item u hget => exact h.call hpc hget
  | serialize item u hget => exact h.serialize hpc hget
  | readClock item nowNs =>
      refine h.move rfl rfl rfl ?_ (by simp)
      intro i k hup u _
      obtain ⟨rfl, rfl⟩ : item = i ∧ 0 = k := by simpa [WorkerPc.stampedUpTo] using hup
      exact fun j hj => absurd hj (Nat.not_lt_zero j)
  | stampDone item nowNs k u hget hk =>
      refine h.move rfl rfl rfl ?_ (by simp)
      intro i j hup t ht
      obtain ⟨rfl, rfl⟩ : item = i ∧ g.factory.batchSize = j := by
        simpa [WorkerPc.stampedUpTo] using hup
      have htu : t = u := Option.some.inj (ht.symm.trans hget)
      have hwf := h.templates_wf u (List.mem_of_getElem? hget)
      have hlen : u.seqValues.length = g.factory.batchSize := by
        simpa [hwf.length_records] using (congrArg List.length hwf.handles).symm
      rw [hlen, hwf.length_records, min_self] at hk
      rw [htu]
      exact fun n hn => h.carriesUpTo w _ item k hpc rfl u hget n (hn.trans_le hk)
  | enter item =>
      refine h.move rfl rfl rfl ?_ (by simp)
      intro i k hup u hu
      exact h.carriesUpTo w (.stamped item) i k hpc hup u hu
  | credit item r =>
      have hitem := afterCredit_item g r
      refine h.move rfl rfl rfl ?_ ?_
      · intro i k hup
        cases hafter : afterCredit g r <;> simp [hafter, WorkerPc.stampedUpTo, WorkerPc.item] at *
      · rintro i sent heq
        simp [heq, WorkerPc.item] at hitem
  | bookkeep pc pc' failures abortReason stop hitem hitem' hne hstopped =>
      refine h.move rfl rfl rfl ?_ ?_
      · intro i k hup
        cases pc' <;> simp [WorkerPc.stampedUpTo, WorkerPc.item] at *
      · rintro i sent rfl
        simp [WorkerPc.item] at hitem'
  | _ => exact h.move rfl rfl rfl (by simp [WorkerPc.stampedUpTo]) (by simp)

/-- **One step of the engine** keeps every template with its owner. -/
theorem engineStep_owned {g : LoadGenerator η} {s s' : State η} {a : Action} (h : Owned g s)
    (hstep : engineStep g s a = some s') : Owned g s' := by
  have hkeep : ∀ t : State η, t.workers = s.workers → t.templates = s.templates →
      t.logExports = s.logExports → t.logWire = s.logWire → Owned g t := by
    intro t hworkers htemplates hexports hwire
    exact
      { length_workers := by rw [hworkers]; exact h.length_workers
        templates_wf := by rw [htemplates]; exact h.templates_wf
        carriesUpTo := by rw [hworkers, htemplates]; exact h.carriesUpTo
        exporting := by rw [hworkers, htemplates, hexports]; exact h.exporting
        exports_carry := by rw [hexports]; exact h.exports_carry
        wire_eq := by rw [hexports, hwire]; exact h.wire_eq }
  rcases engineStep_cases hstep with ⟨t, wall, -, hmain⟩ | ⟨-, hidle, rfl⟩ | ⟨-, rfl⟩ |
    ⟨ts, iso, -, rfl⟩ | ⟨w, pc, u, pc', -, hpc, hmove, rfl⟩
  · have hkeeps := mainStep_keeps hmain
    exact hkeep s' hkeeps.workers hkeeps.templates hkeeps.logExports hkeeps.logWire
  · exact hkeep _ rfl rfl rfl rfl
  · exact hkeep _ rfl rfl rfl rfl
  · exact hkeep _ rfl rfl rfl rfl
  · exact hmove.owned hpc h

theorem engineInit_owned (g : LoadGenerator η) (plan : List Step) :
    Owned g (engineInit g plan) where
  length_workers := by simp [engineInit]
  templates_wf := g.factory.templates_wf
  carriesUpTo := by
    intro w pc item k hpc hup
    obtain ⟨_, rfl⟩ : w < g.workers ∧ WorkerPc.waiting = pc := by
      simpa [engineInit, List.getElem?_replicate] using hpc
    simp [WorkerPc.stampedUpTo] at hup
  exporting := by
    intro w item sent hpc
    simp [engineInit, List.getElem?_replicate] at hpc
  exports_carry := by simp [engineInit]
  wire_eq := by simp [engineInit]

/-- **Every reachable state keeps every template with its owner.** -/
theorem owned_of_reachable {g : LoadGenerator η} {plan : List Step} {s : State η}
    (h : (engine g plan).Reachable s) : Owned g s :=
  Transition.System.reachable_of_preserves (I := Owned g) (engineInit_owned g plan)
    (fun _ _ _ hI hstep => engineStep_owned hI hstep) h

/-! ## What is handed to the exporter -/

omit [SeqHandle η] in
theorem export_past {s : State η} {e : Export} (he : e ∈ s.logExports) :
    e.item ∈ s.past .handed := List.mem_map_of_mem he

/-- Each request carries the numbers of the item it was dequeued for. -/
theorem export_carries {g : LoadGenerator η} {plan : List Step} {s : State η}
    (h : (engine g plan).Reachable s) {e : Export} (he : e ∈ s.logExports) :
    e.request.Carries η e.item.seqStart e.item.recordCount := by
  rw [recordCount_of_past h (export_past he)]
  exact (owned_of_reachable h).exports_carry e he

/-- No number is handed to the exporter twice. -/
theorem export_numbers_nodup {g : LoadGenerator η} (hbatch : g.factory.batchSize ≤ g.batchSize)
    {plan : List Step} {s : State η} (h : (engine g plan).Reachable s) :
    (s.logExports.flatMap fun e => e.item.numbers).Nodup := by
  have hnodup := numbers_nodup_of_past hbatch h .handed
  rwa [State.past, List.flatMap_map] at hnodup

/-- **Identity on the wire.** In every reachable state of an engine whose templates have no more
records than a batch has numbers, every request that was handed to the exporter carries exactly the
numbers of its work item, that item was put by the pacer, what was serialized is what was handed
over, and no number was handed over twice. -/
theorem wire_identity {g : LoadGenerator η} (hbatch : g.factory.batchSize ≤ g.batchSize)
    {plan : List Step} {s : State η} (h : (engine g plan).Reachable s) :
    (∀ e ∈ s.logExports, e.request.Carries η e.item.seqStart e.item.recordCount ∧
      e.item ∈ s.logEnqueued.map Prod.fst) ∧
    (∀ e ∈ s.logWire, e ∈ s.logExports) ∧
    (s.logExports.flatMap fun e => e.item.numbers).Nodup :=
  ⟨fun _ he => ⟨export_carries h he, enqueued_of_past h (export_past he)⟩,
    (owned_of_reachable h).wire_eq, export_numbers_nodup hbatch h⟩

/-- Two workers take a batch of two records each, and the one that took the second batch stamps and
    sends it first. -/
def interleavedRun : List Action :=
  mainRuns 13 0 ++ mainRuns 9 1 ++
    [.worker 0, .workerNow 0 0, .worker 1, .workerNow 1 0, .worker 0] ++
    List.replicate 5 (.worker 1) ++ [.serialize 1] ++
    List.replicate 4 (.worker 0) ++ [.serialize 0]

/-- The identity with two workers, whose statements are interleaved. -/
theorem wire_identity_twoWorkers : ∃ s : State BenchSeq,
    s.logWire.map (fun e => (e.worker, e.item.numbers)) = [(1, [2, 3]), (0, [0, 1])] ∧
    (∀ e ∈ s.logExports, e.request.Carries BenchSeq e.item.seqStart e.item.recordCount ∧
      e.item ∈ s.logEnqueued.map Prod.fst) ∧
    (∀ e ∈ s.logWire, e ∈ s.logExports) ∧
    (s.logExports.flatMap fun e => e.item.numbers).Nodup := by
  obtain ⟨g, s, hg, hrun, hwire⟩ := exists_of_runFrom
    (launch BenchSeq (plainConfig 2 2 2)) [⟨0, 2, 10⟩] interleavedRun
    (P := fun s => s.logWire.map (fun e => (e.worker, e.item.numbers)) = [(1, [2, 3]), (0, [0, 1])])
    (by decide +kernel)
  exact ⟨s, of_decide_eq_true hwire, wire_identity (launch_launched hg).batchSize_eq.le ⟨_, hrun⟩⟩

/-- An engine with batches of one number and templates of two records: the constructor compares
    the sizes of the pool only. -/
def mismatchedEngine : Option (LoadGenerator BenchSeq) :=
  (PayloadFactory.init BenchSeq plainContent "gen-1" 0 2 1 defaultVariants fun _ => none).bind
    fun factory => LoadGenerator.init 1 1 1 "none" 0 1 factory (Metrics.init "t" 1)

/-- Two items, each sent in full. -/
def twoItemsRun : List Action :=
  mainRuns 13 0 ++ workerExports 0 2 ++ workerAcked 0 ++ mainRuns 9 1 ++ workerExports 0 2

/-- **The constructor's check is not enough.** An engine it accepts hands number 1 to the exporter
twice. -/
theorem not_wire_identity_mismatched :
    ¬ ∀ (g : LoadGenerator BenchSeq) (plan : List Step) (s : State BenchSeq),
        (engine g plan).Reachable s → (s.logExports.flatMap fun e => e.item.numbers).Nodup := by
  intro h
  obtain ⟨g, s, -, hrun, hnumbers⟩ := exists_of_runFrom mismatchedEngine [⟨0, 1, 10⟩] twoItemsRun
    (P := fun s => (s.logExports.flatMap fun e => e.item.numbers) = [0, 1, 1, 2])
    (by decide +kernel)
  have hnodup := h g _ s ⟨_, hrun⟩
  rw [of_decide_eq_true hnumbers] at hnodup
  exact absurd hnodup (by decide)

end AnalyticsTesting.Generator
