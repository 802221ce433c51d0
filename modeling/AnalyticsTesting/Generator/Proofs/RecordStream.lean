import AnalyticsTesting.Generator.LogsPayload
import AnalyticsTesting.Generator.Proofs.Ownership

set_option autoImplicit false

/-! # The record stream of two runs

Two runs with the same seed build the same pool, but which worker takes an item is up to the
scheduler, and the templates of the pool differ from each other. `RestampedFrom` follows the pool
through a run: whatever a template is stamped with, its records are those it was built with, up to
the sequence fields and the timestamps. What the two runs send then agrees where they agree on the
template each range of numbers is sent with (`sameStream_of_sendsAssigned`). -/

namespace AnalyticsTesting.Generator

/-! ## What identifies a record -/

/-- The attribute with the value of `bench.gen_id` left out, which is a fresh UUID for each run. -/
def KeyValue.withoutGenId (kv : KeyValue) : KeyValue :=
  if kv.key = "bench.gen_id" then { kv with value := .stringValue "" } else kv

def withoutGenId (attrs : List KeyValue) : List KeyValue := attrs.map KeyValue.withoutGenId

/-- What a record says, without its timestamps and the run it is from. -/
structure RecordContent where
  body : String
  severityNumber : Nat
  severityText : String
  attributes : List KeyValue
  deriving DecidableEq

def LogRecord.content (r : LogRecord) : RecordContent :=
  ⟨r.body, r.severityNumber, r.severityText, withoutGenId r.attributes⟩

@[simp] theorem KeyValue.withoutGenId_key (kv : KeyValue) : kv.withoutGenId.key = kv.key := by
  unfold KeyValue.withoutGenId
  split <;> rfl

@[simp] theorem withoutGenId_keys (attrs : List KeyValue) :
    (withoutGenId attrs).map (·.key) = attrs.map (·.key) := by
  simp [withoutGenId, Function.comp_def]

/-! ## Assigning behind a position -/

theorem getElem?_setValue (attrs : List KeyValue) (i j : Nat) (v : AnyValue) :
    (setValue attrs i v)[j]?
      = attrs[j]?.map fun kv => if i = j then { kv with value := v } else kv := by
  unfold setValue
  rw [List.getElem?_modify, Option.map_eq_map]

/-- The last assignment is the one that counts. -/
theorem setValue_setValue (attrs : List KeyValue) (i : Nat) (v v' : AnyValue) :
    setValue (setValue attrs i v) i v' = setValue attrs i v' := by
  refine List.ext_getElem? fun j => ?_
  simp only [getElem?_setValue, Option.map_map]
  congr 1
  funext kv
  simp only [Function.comp_apply]
  split <;> rfl

/-- Assigning the value that is there already. -/
theorem setValue_of_getValue {attrs : List KeyValue} {i : Nat} {v : AnyValue}
    (h : getValue attrs i = some v) : setValue attrs i v = attrs := by
  refine List.ext_getElem? fun j => ?_
  rw [getElem?_setValue]
  by_cases hij : i = j
  · subst hij
    obtain ⟨kv, hkv, rfl⟩ := Option.map_eq_some_iff.1 h
    rw [hkv, Option.map_some, if_pos rfl]
  · simp [hij]

/-- Assigning to an attribute that is kept. -/
theorem withoutGenId_setValue {attrs : List KeyValue} {i : Nat} {key : String} (v : AnyValue)
    (hkey : (attrs.map (·.key))[i]? = some key) (hne : key ≠ "bench.gen_id") :
    withoutGenId (setValue attrs i v) = setValue (withoutGenId attrs) i v := by
  refine List.ext_getElem? fun j => ?_
  unfold withoutGenId
  rw [getElem?_setValue, List.getElem?_map, List.getElem?_map, getElem?_setValue, Option.map_map,
    Option.map_map]
  by_cases hij : i = j
  · subst hij
    rw [List.getElem?_map] at hkey
    obtain ⟨kv, hkv, rfl⟩ := Option.map_eq_some_iff.1 hkey
    simp [hkv, KeyValue.withoutGenId, hne]
  · simp only [if_neg hij, Function.comp_def]

/-! ## Handles that can be assigned to again -/

/-- What stamping a template over and over relies on. -/
class LawfulSeqHandle (η : Type) [SeqHandle η] : Prop where
  find_withoutGenId : ∀ attrs : List KeyValue,
    (SeqHandle.findSeqValue (withoutGenId attrs) : Option η) = SeqHandle.findSeqValue attrs
  write_withoutGenId : ∀ {h : η} {n : Nat} {attrs : List KeyValue},
    SeqHandle.findSeqValue attrs = some h →
      SeqHandle.write h n (withoutGenId attrs)
        = (SeqHandle.write h n attrs).map AnalyticsTesting.Generator.withoutGenId
  write_write : ∀ {h : η} {m n : Nat} {attrs attrs' : List KeyValue},
    SeqHandle.write h m attrs = some attrs' →
      SeqHandle.write h n attrs' = SeqHandle.write h n attrs
  write_of_carries : ∀ {h : η} {n : Nat} {attrs attrs' : List KeyValue},
    SeqHandle.findSeqValue attrs = some h → SeqHandle.Carries η n attrs →
      SeqHandle.write h n attrs = some attrs' → attrs' = attrs
  carries_inj : ∀ {m n : Nat} {attrs : List KeyValue},
    SeqHandle.Carries η m attrs → SeqHandle.Carries η n attrs → m = n

instance : LawfulSeqHandle BenchSeq where
  find_withoutGenId attrs := by
    simp only [SeqHandle.findSeqValue, firstWithKey, withoutGenId_keys]
  write_withoutGenId := by
    intro h n attrs hfind
    obtain ⟨i, hi, rfl⟩ := Option.map_eq_some_iff.1 hfind
    simp only [SeqHandle.write]
    split
    · rw [Option.map_some, withoutGenId_setValue _ (firstWithKey_spec hi).2 (by decide)]
    · rfl
  write_write := by
    intro h m n attrs attrs' hwrite
    simp only [SeqHandle.write] at hwrite ⊢
    split at hwrite
    · obtain rfl := Option.some.inj hwrite
      rw [setValue_setValue]
    · simp at hwrite
  write_of_carries := by
    rintro h n attrs attrs' hfind ⟨i, hi, hvalue⟩ hwrite
    obtain ⟨j, hj, rfl⟩ := Option.map_eq_some_iff.1 hfind
    obtain rfl : i = j := Option.some.inj (hi.symm.trans hj)
    simp only [SeqHandle.write] at hwrite
    split at hwrite
    · rw [← Option.some.inj hwrite, setValue_of_getValue hvalue]
    · simp at hwrite
  carries_inj := by
    rintro m n attrs ⟨i, hi, hm⟩ ⟨j, hj, hn⟩
    obtain rfl : i = j := Option.some.inj (hi.symm.trans hj)
    simpa using hm.symm.trans hn

instance : LawfulSeqHandle BenchSnx where
  find_withoutGenId attrs := by
    simp only [SeqHandle.findSeqValue, lastWithKey, withoutGenId_keys]
  write_withoutGenId := by
    intro h n attrs hfind
    simp only [SeqHandle.findSeqValue] at hfind
    split at hfind
    case h_2 => simp at hfind
    case h_1 b s hb hs =>
      obtain rfl := Option.some.inj hfind
      have hkeys : ((setValue attrs b (.stringValue (toString n))).map (·.key))[s]?
          = some "snx.sequence_id" := by
        rw [setValue_keys]
        exact (lastWithKey_spec hs).2
      simp only [SeqHandle.write, Option.map_some]
      rw [withoutGenId_setValue _ hkeys (by decide),
        withoutGenId_setValue _ (lastWithKey_spec hb).2 (by decide)]
  write_write := by
    intro h m n attrs attrs' hwrite
    obtain rfl := Option.some.inj hwrite
    simp only [SeqHandle.write, Option.some.injEq]
    refine List.ext_getElem? fun j => ?_
    simp only [getElem?_setValue, Option.map_map]
    congr 1
    funext kv
    simp only [Function.comp_apply]
    split_ifs <;> rfl
  write_of_carries := by
    rintro h n attrs attrs' hfind ⟨b, s, hb, hs, hbench, hsnx⟩ hwrite
    simp only [SeqHandle.findSeqValue, hb, hs, Option.some.injEq] at hfind
    obtain rfl := hfind
    obtain rfl := Option.some.inj hwrite
    rw [setValue_of_getValue hbench, setValue_of_getValue hsnx]
  carries_inj := by
    rintro m n attrs ⟨b, s, hb, hs, hm, -⟩ ⟨b', s', hb', hs', hn, -⟩
    obtain rfl : b = b' := Option.some.inj (hb.symm.trans hb')
    have htext : toString m = toString n := by simpa using hm.symm.trans hn
    exact Protobuf.eq_of_toString_eq htext

/-! ## Templates that are stamped over and over -/

variable {η : Type} [SeqHandle η]

/-- Record `r` is `q` with some number and time stamped into it, or none yet. -/
structure StampOf (η : Type) [SeqHandle η] (q r : LogRecord) : Prop where
  body : r.body = q.body
  severityNumber : r.severityNumber = q.severityNumber
  severityText : r.severityText = q.severityText
  attributes : r.attributes = q.attributes ∨ ∃ (h : η) (m : Nat),
    SeqHandle.findSeqValue q.attributes = some h ∧
      SeqHandle.write h m q.attributes = some r.attributes

theorem StampOf.refl (q : LogRecord) : StampOf η q q := ⟨rfl, rfl, rfl, Or.inl rfl⟩

/-- Stamping a record once more. -/
theorem StampOf.write [LawfulSeqHandle η] {q r : LogRecord} (h : StampOf η q r) {hd : η}
    {n nowNs : Nat} {attrs : List KeyValue} (hfind : SeqHandle.findSeqValue r.attributes = some hd)
    (hwrite : SeqHandle.write hd n r.attributes = some attrs) :
    StampOf η q { r with attributes := attrs, timeUnixNano := nowNs,
                         observedTimeUnixNano := nowNs } := by
  refine ⟨h.body, h.severityNumber, h.severityText, Or.inr ⟨hd, n, ?_, ?_⟩⟩
  · rcases h.attributes with heq | ⟨hd', m, hq, hm⟩
    · rwa [← heq]
    · rwa [← SeqHandle.find_write hm]
  · rcases h.attributes with heq | ⟨hd', m, hq, hm⟩
    · rwa [← heq]
    · have hhd : hd' = hd := by
        rw [SeqHandle.find_write hm, hq] at hfind
        exact Option.some.inj hfind
      subst hhd
      rwa [← LawfulSeqHandle.write_write hm]

/-- A stamped record is determined by the record it was built as and the number it carries. -/
theorem StampOf.attributes_eq [LawfulSeqHandle η] {q r : LogRecord} {hd : η} {n : Nat}
    (h : StampOf η q r) (hfind : SeqHandle.findSeqValue q.attributes = some hd)
    (hn : SeqHandle.Carries η n r.attributes) :
    r.attributes = (SeqHandle.write hd n q.attributes).getD q.attributes := by
  rcases h.attributes with heq | ⟨hd', m, hq, hm⟩
  · rw [heq]
    cases hwrite : SeqHandle.write hd n q.attributes with
    | none => rfl
    | some attrs =>
        rw [heq] at hn
        exact (LawfulSeqHandle.write_of_carries hfind hn hwrite).symm
  · obtain rfl : hd = hd' := Option.some.inj (hfind.symm.trans hq)
    obtain rfl : m = n := LawfulSeqHandle.carries_inj (SeqHandle.carries_write hfind hm) hn
    rw [hm, Option.getD_some]

/-- Records that carry one number and were built with one content have one content. -/
theorem StampOf.content_eq [LawfulSeqHandle η] {q q' r r' : LogRecord} {hd : η} {n : Nat}
    (h : StampOf η q r) (h' : StampOf η q' r') (hcontent : q.content = q'.content)
    (hfind : SeqHandle.findSeqValue q.attributes = some hd)
    (hn : SeqHandle.Carries η n r.attributes) (hn' : SeqHandle.Carries η n r'.attributes) :
    r.content = r'.content := by
  obtain ⟨hbody, hnumber, htext, hattrs⟩ := RecordContent.mk.injEq .. ▸ hcontent
  have hfind' : SeqHandle.findSeqValue q'.attributes = some hd := by
    rw [← LawfulSeqHandle.find_withoutGenId, ← hattrs, LawfulSeqHandle.find_withoutGenId, hfind]
  have hwithout : ∀ {q r : LogRecord}, StampOf η q r →
      SeqHandle.findSeqValue q.attributes = some hd → SeqHandle.Carries η n r.attributes →
      withoutGenId r.attributes = (SeqHandle.write hd n (withoutGenId q.attributes)).getD
        (withoutGenId q.attributes) := by
    intro q r hstamp hfind hn
    rw [hstamp.attributes_eq hfind hn, LawfulSeqHandle.write_withoutGenId hfind]
    cases SeqHandle.write hd n q.attributes <;> rfl
  unfold LogRecord.content
  rw [h.body, h'.body, hbody, h.severityNumber, h'.severityNumber, hnumber, h.severityText,
    h'.severityText, htext, hwithout h hfind hn, hwithout h' hfind' hn', hattrs]

/-- The records are those of the template `p`, stamped. -/
def RestampedFrom (p : RequestTemplate η) (rs : List LogRecord) : Prop :=
  ∀ (k : Nat) r, rs[k]? = some r → ∃ q, p.request.logRecords[k]? = some q ∧ StampOf η q r

/-- **Stamping one record** of a template keeps the others and what it was built with. -/
theorem RestampedFrom.stampRecord [LawfulSeqHandle η] {p t t' : RequestTemplate η}
    {batch k seq nowNs : Nat} (h : RestampedFrom p t.request.logRecords) (hwf : t.Wf batch)
    (hstamp : t.stampRecord k seq nowNs = some t') : RestampedFrom p t'.request.logRecords := by
  unfold RequestTemplate.stampRecord at hstamp
  split at hstamp
  case h_2 => simp at hstamp
  case h_1 hd r hhd hr =>
    obtain ⟨attrs, hwrite, rfl⟩ := Option.map_eq_some_iff.1 hstamp
    intro j r' hr'
    rw [RequestTemplate.setRecord_logRecords] at hr'
    rcases getElem?_set_eq_some hr' with ⟨rfl, rfl⟩ | ⟨-, hold⟩
    · obtain ⟨q, hq, hqr⟩ := h k r hr
      exact ⟨q, hq, hqr.write (hwf.findSeqValue_eq hhd hr) hwrite⟩
    · exact h j r' hold

/-! ## The pool through a run -/

/-- What the templates and the requests on the wire come from. -/
structure Restamped (g : LoadGenerator η) (s : State η) : Prop where
  templates : ∀ (i : Nat) t, s.templates[i]? = some t →
    ∃ p, g.factory.templates[i]? = some p ∧ RestampedFrom p t.request.logRecords
  wire : ∀ e ∈ s.logWire,
    ∃ p, g.factory.templates[g.factory.templateIndex e.worker e.item.variant]? = some p ∧
      RestampedFrom p e.request.logRecords

/-- A worker's move changes the templates by stamping and the wire by serializing. -/
theorem WorkerMove.restamped [LawfulSeqHandle η] {g : LoadGenerator η} {s t : State η} {w : Nat}
    {pc pc' : WorkerPc} (hmove : WorkerMove g s w pc t pc') (howned : Owned g s)
    (h : Restamped g s) : Restamped g { t with workers := s.workers.set w pc' } := by
  cases hmove with
  | stamp item nowNs k u u' hget hstamp =>
      refine ⟨fun i t hi => ?_, h.wire⟩
      obtain ⟨p, hp, hpu⟩ := h.templates _ u hget
      rcases getElem?_set_eq_some hi with ⟨rfl, rfl⟩ | ⟨-, hold⟩
      · have hwf := howned.templates_wf u (List.mem_of_getElem? hget)
        exact ⟨p, hp, hpu.stampRecord hwf hstamp⟩
      · exact h.templates i t hold
  | serialize item u hget =>
      refine ⟨h.templates, fun e he => ?_⟩
      rcases List.mem_append.1 he with hold | hnew
      · exact h.wire e hold
      · obtain rfl := List.mem_singleton.1 hnew
        exact h.templates _ u hget
  | _ => exact ⟨h.templates, h.wire⟩

theorem engineStep_restamped [LawfulSeqHandle η] {g : LoadGenerator η} {s s' : State η}
    {a : Action} (howned : Owned g s) (h : Restamped g s) (hstep : engineStep g s a = some s') :
    Restamped g s' := by
  rcases engineStep_cases hstep with ⟨t, wall, -, hmain⟩ | ⟨-, hidle, rfl⟩ | ⟨-, rfl⟩ |
    ⟨ts, iso, -, rfl⟩ | ⟨w, pc, u, pc', -, hpc, hmove, rfl⟩
  · have hkeeps := mainStep_keeps hmain
    refine ⟨?_, ?_⟩
    · rw [hkeeps.templates]; exact h.templates
    · rw [hkeeps.logWire]; exact h.wire
  · exact ⟨h.templates, h.wire⟩
  · exact ⟨h.templates, h.wire⟩
  · exact ⟨h.templates, h.wire⟩
  · exact hmove.restamped howned h

theorem engineInit_restamped (g : LoadGenerator η) (plan : List Step) :
    Restamped g (engineInit g plan) where
  templates i t hi := ⟨t, hi, fun _ q hq => ⟨q, hq, StampOf.refl q⟩⟩
  wire := by simp [engineInit]

/-- **Every reachable state sends what the pool was built with.** -/
theorem restamped_of_reachable [LawfulSeqHandle η] {g : LoadGenerator η} {plan : List Step}
    {s : State η} (h : (engine g plan).Reachable s) : Restamped g s :=
  Transition.System.reachable_of_preserves_within (J := Restamped g)
    (fun _ hs => owned_of_reachable hs)
    (engineInit_restamped g plan)
    (fun _ _ _ howned hJ hstep => engineStep_restamped howned hJ hstep) h

/-! ## The pool is determined by the seed -/

section Pool

variable {ρ : Type}

/-- Two contents that draw alike and differ in `bench.gen_id` only. -/
structure Content.DrawAlike (c c' : Content ρ) : Prop where
  newRng : c.newRng = c'.newRng
  service : ∀ customer rng, (c.resource customer rng).1.2 = (c'.resource customer rng).1.2
  afterResource : ∀ customer rng, (c.resource customer rng).2 = (c'.resource customer rng).2
  record : ∀ customer service rng,
    (c.record customer service rng).1.content = (c'.record customer service rng).1.content
  afterRecord : ∀ customer service rng,
    (c.record customer service rng).2 = (c'.record customer service rng).2

theorem logsContent_drawAlike (genId genId' : String) (data : LogsData ρ) :
    (logsContent genId data).DrawAlike (logsContent genId' data) where
  newRng := rfl
  service _ _ := rfl
  afterResource _ _ := rfl
  record _ _ _ := rfl
  afterRecord _ _ _ := rfl

theorem aiTxnContent_drawAlike (genId genId' : String) (data : AiTxnData ρ) :
    (aiTxnContent genId data).DrawAlike (aiTxnContent genId' data) where
  newRng := rfl
  service _ _ := rfl
  afterResource _ _ := rfl
  record _ _ _ := rfl
  afterRecord _ _ _ := rfl

/-- The contents of the records of a template. -/
def RequestTemplate.contents (t : RequestTemplate η) : List RecordContent :=
  t.request.logRecords.map LogRecord.content

theorem buildRecords_contents {c c' : Content ρ} (h : c.DrawAlike c') (customer : Option Nat)
    (service : String) (n : Nat) (rng : ρ) :
    (buildRecords c customer service n rng).1.map LogRecord.content
      = (buildRecords c' customer service n rng).1.map LogRecord.content := by
  induction n generalizing rng with
  | zero => rfl
  | succ n ih =>
      unfold buildRecords
      dsimp only
      rw [List.map_cons, List.map_cons, h.record, ih, h.afterRecord]

theorem buildTemplate_contents {c c' : Content ρ} (h : c.DrawAlike c') {batchSize : Nat}
    {customer : Option Nat} {rng : ρ} {t t' : RequestTemplate η}
    (ht : buildTemplate η c batchSize customer rng = some t)
    (ht' : buildTemplate η c' batchSize customer rng = some t') : t.contents = t'.contents := by
  unfold buildTemplate at ht ht'
  obtain ⟨hs, -, rfl⟩ := Option.map_eq_some_iff.1 ht
  obtain ⟨hs', -, rfl⟩ := Option.map_eq_some_iff.1 ht'
  have hrecords := buildRecords_contents h customer (c.resource customer rng).1.2 batchSize
    (c.resource customer rng).2
  unfold RequestTemplate.contents
  dsimp only
  rw [hrecords, h.service, h.afterResource]

theorem buildPool_contents {c c' : Content ρ} (h : c.DrawAlike c') {batchSize : Nat} {seed : Int}
    {customerOf : Nat → Option Nat} {is : List Nat} :
    ∀ {ts ts' : List (RequestTemplate η)},
      buildPool η c batchSize seed customerOf is = some ts →
      buildPool η c' batchSize seed customerOf is = some ts' →
      ts.map RequestTemplate.contents = ts'.map RequestTemplate.contents := by
  induction is with
  | nil =>
      intro ts ts' hts hts'
      rw [← Option.some.inj hts, ← Option.some.inj hts']
  | cons i is ih =>
      intro ts ts' hts hts'
      simp only [buildPool, Option.bind_eq_bind, Option.bind_eq_some_iff] at hts hts'
      obtain ⟨t, ht, tl, htl, heq⟩ := hts
      obtain ⟨t', ht', tl', htl', heq'⟩ := hts'
      obtain rfl : t :: tl = ts := by simpa using heq
      obtain rfl : t' :: tl' = ts' := by simpa using heq'
      rw [← h.newRng] at ht'
      rw [List.map_cons, List.map_cons, buildTemplate_contents h ht ht', ih htl htl']

/-- What the template at a position of the pool says, as it was built. -/
def PayloadFactory.contentsAt (f : PayloadFactory η) (i : Nat) : Option (List RecordContent) :=
  (f.templates[i]?).map RequestTemplate.contents

/-- Two configurations with the same seed and the same settings; the run's identifiers and what
the threads share (the queue, the timeouts) may differ. -/
structure SameSettings (cfg cfg' : RunConfig ρ) : Prop where
  content : cfg.content.DrawAlike cfg'.content
  seed : cfg.seed = cfg'.seed
  customerOf : cfg.customerOf = cfg'.customerOf
  batchSize : cfg.batchSize = cfg'.batchSize
  workers : cfg.workers = cfg'.workers

/-- **The same seed builds the same pool**, up to the run's identifier. -/
theorem contentsAt_eq {cfg cfg' : RunConfig ρ} {g g' : LoadGenerator η}
    (hsame : SameSettings cfg cfg') (hg : launch η cfg = some g) (hg' : launch η cfg' = some g')
    (i : Nat) : g.factory.contentsAt i = g'.factory.contentsAt i := by
  have hpool := buildPool_of_launch hg
  have hpool' := buildPool_of_launch hg'
  rw [← hsame.seed, ← hsame.customerOf, ← hsame.batchSize, ← hsame.workers] at hpool'
  unfold PayloadFactory.contentsAt
  rw [← List.getElem?_map, buildPool_contents hsame.content hpool hpool', List.getElem?_map]

end Pool

/-! ## Two runs -/

/-- Whenever a worker sends an item, its template was built with what the template assigned to the
item's range was built with. -/
def SendsAssigned (f : PayloadFactory η) (assigned : Nat → Nat) (s : State η) (a : Action) :
    Prop :=
  ∀ w item, a = .serialize w → s.workers[w]? = some (.exporting item false) →
    f.contentsAt (f.templateIndex w item.variant) = f.contentsAt (assigned item.seqStart)

/-- What is on the wire was sent with what was assigned to it. -/
def WireAssigned (f : PayloadFactory η) (assigned : Nat → Nat) (s : State η) : Prop :=
  ∀ e ∈ s.logWire,
    f.contentsAt (f.templateIndex e.worker e.item.variant)
      = f.contentsAt (assigned e.item.seqStart)

/-- A record that carries number `n` says the same in both runs. -/
def SameStream (s s' : State η) : Prop :=
  ∀ e ∈ s.logWire, ∀ e' ∈ s'.logWire, ∀ r ∈ e.request.logRecords, ∀ r' ∈ e'.request.logRecords,
    ∀ n, SeqHandle.Carries η n r.attributes → SeqHandle.Carries η n r'.attributes →
      r.content = r'.content

/-- A worker's own statements put nothing on the wire. -/
theorem workerStep_logWire {g : LoadGenerator η} {s t : State η} {w : Nat} {pc pc' : WorkerPc}
    (h : workerStep g s w pc = some (t, pc')) : t.logWire = s.logWire := by
  cases workerStep_move h with
  | serialize item u hget => simp [workerStep] at h
  | _ => rfl

/-- **What goes on the wire in one step**: nothing, or a template as a worker is sending it. -/
theorem engineStep_wire {g : LoadGenerator η} {s s' : State η} {a : Action}
    (h : engineStep g s a = some s') :
    s'.logWire = s.logWire ∨ ∃ w item u, a = .serialize w ∧
      s.workers[w]? = some (.exporting item false) ∧
      s'.logWire = s.logWire ++ [⟨w, item, u⟩] := by
  cases a with
  | main t wall => exact Or.inl (mainStep_keeps h).logWire
  | leave =>
      simp only [engineStep] at h
      split at h
      · obtain rfl := Option.some.inj h
        exact Or.inl rfl
      · simp at h
  | signal =>
      obtain rfl := Option.some.inj h
      exact Or.inl rfl
  | sample ts iso =>
      obtain rfl := Option.some.inj h
      exact Or.inl rfl
  | worker w =>
      simp only [engineStep, Option.bind_eq_bind, Option.bind_eq_some_iff] at h
      obtain ⟨pc, -, ⟨t, pc'⟩, hstep, heq⟩ := h
      obtain rfl := Option.some.inj heq
      have hwire := workerStep_logWire hstep
      exact Or.inl hwire
  | workerNow w nowNs =>
      simp only [engineStep, Option.bind_eq_bind, Option.bind_eq_some_iff] at h
      obtain ⟨pc, -, pc', -, heq⟩ := h
      obtain rfl := Option.some.inj heq
      exact Or.inl rfl
  | serialize w =>
      simp only [engineStep, Option.bind_eq_bind, Option.bind_eq_some_iff] at h
      obtain ⟨pc, hpc, ⟨t, pc'⟩, hstep, heq⟩ := h
      obtain rfl := Option.some.inj heq
      cases pc with
      | exporting item sent =>
          cases sent with
          | false =>
              obtain ⟨u, -, heq⟩ := Option.map_eq_some_iff.1 hstep
              obtain ⟨rfl, rfl⟩ := Prod.mk.inj heq
              exact Or.inr ⟨w, item, u.request, rfl, hpc, rfl⟩
          | true => simp [exporterSerializes] at hstep
      | _ => simp [exporterSerializes] at hstep
  | exportReturns w outcome =>
      simp only [engineStep, Option.bind_eq_bind, Option.bind_eq_some_iff] at h
      obtain ⟨pc, -, pc', -, heq⟩ := h
      obtain rfl := Option.some.inj heq
      exact Or.inl rfl

/-- One step that sends what was assigned keeps to the assignment. -/
theorem preserves_wireAssigned (g : LoadGenerator η) (plan : List Step) (assigned : Nat → Nat) :
    (engine g plan).Preserves (SendsAssigned g.factory assigned)
      (WireAssigned g.factory assigned) := by
  intro s a s' hwire hsends hstep e he
  rcases engineStep_wire hstep with heq | ⟨w, item, u, ha, hpc, heq⟩
  · exact hwire e (heq ▸ he)
  · rw [heq] at he
    rcases List.mem_append.1 he with hold | hnew
    · exact hwire e hold
    · obtain rfl := List.mem_singleton.1 hnew
      exact hsends w item ha hpc

/-- **A run that sends what was assigned** has only that on the wire. -/
theorem wireAssigned_of_run {g : LoadGenerator η} {plan : List Step} {assigned : Nat → Nat}
    {as : List Action} {s : State η}
    (hmeets : (engine g plan).Meets (SendsAssigned g.factory assigned) (engineInit g plan) as)
    (hrun : (engine g plan).run (engineInit g plan) as = some s) :
    WireAssigned g.factory assigned s :=
  (preserves_wireAssigned g plan assigned).run (by simp [WireAssigned, engineInit]) hmeets hrun

/-! ## Which record carries a number -/

/-- The items start at multiples of the batch size. -/
theorem seqStart_of_wire {g : LoadGenerator η} {plan : List Step} {s : State η}
    (h : (engine g plan).Reachable s) {e : Export} (he : e ∈ s.logWire) :
    ∃ k, e.item.seqStart = g.batchSize * k := by
  have hpast := export_past ((owned_of_reachable h).wire_eq e he)
  obtain ⟨x, hx, hitem⟩ := List.mem_map.1 (enqueued_of_past h hpast)
  obtain ⟨k, hk⟩ := List.mem_iff_getElem?.1 hx
  exact ⟨k, by rw [← hitem]; exact (paced_of_reachable h).seqStart_eq k x hk⟩

/-- A record on the wire sits where its number says, and comes from the template at its place. -/
theorem exists_of_carries [LawfulSeqHandle η] {g : LoadGenerator η} {plan : List Step}
    {s : State η} (hg : Launched g) (h : (engine g plan).Reachable s) {e : Export}
    (he : e ∈ s.logWire) {r : LogRecord} (hr : r ∈ e.request.logRecords) {n : Nat}
    (hn : SeqHandle.Carries η n r.attributes) :
    e.item.seqStart = g.batchSize * (n / g.batchSize) ∧
      ∃ p, g.factory.templates[g.factory.templateIndex e.worker e.item.variant]? = some p ∧
        ∃ q, p.request.logRecords[n % g.batchSize]? = some q ∧ StampOf η q r := by
  obtain ⟨p, hp, hrestamped⟩ := (restamped_of_reachable h).wire e he
  obtain ⟨hlen, hcarries⟩ := (owned_of_reachable h).exports_carry e
    ((owned_of_reachable h).wire_eq e he)
  rw [hg.batchSize_eq] at hlen hcarries
  -- record `j` of the request carries `seq_start + j`, and `n` is the only number it carries
  obtain ⟨j, hj⟩ := List.mem_iff_getElem?.1 hr
  have hjlt : j < g.batchSize := hlen ▸ (List.getElem?_eq_some_iff.1 hj).1
  obtain ⟨r', hr', hcarry⟩ := hcarries j hjlt
  obtain rfl : r' = r := Option.some.inj (hr'.symm.trans hj)
  obtain rfl : e.item.seqStart + j = n := LawfulSeqHandle.carries_inj hcarry hn
  obtain ⟨k, hk⟩ := seqStart_of_wire h he
  rw [hk, Nat.mul_add_mod, Nat.mod_eq_of_lt hjlt,
    Nat.mul_add_div (Nat.lt_of_le_of_lt (Nat.zero_le j) hjlt), Nat.div_eq_of_lt hjlt, Nat.add_zero]
  exact ⟨rfl, p, hp, hrestamped j r' hj⟩

theorem RequestTemplate.Wf.exists_findSeqValue {t : RequestTemplate η} {batch k : Nat}
    {r : LogRecord} (hwf : t.Wf batch) (hr : t.request.logRecords[k]? = some r) :
    ∃ hd : η, SeqHandle.findSeqValue r.attributes = some hd := by
  have hk := congrArg (fun l => l[k]?) hwf.handles
  simp only [List.getElem?_map, hr, Option.map_some] at hk
  obtain ⟨hd, -, heq⟩ := Option.map_eq_some_iff.1 hk.symm
  exact ⟨hd, heq.symm⟩

/-- **Same seed, same stream**, as far as the schedules send each range of numbers with templates
that were built alike: a record then says the same in both runs, whoever sent it. -/
theorem sameStream_of_sendsAssigned [LawfulSeqHandle η] {ρ : Type} {cfg cfg' : RunConfig ρ}
    {g g' : LoadGenerator η} (hsame : SameSettings cfg cfg') (hg : launch η cfg = some g)
    (hg' : launch η cfg' = some g') {plan : List Step} {assigned : Nat → Nat}
    {as as' : List Action} {s s' : State η}
    (hmeets : (engine g plan).Meets (SendsAssigned g.factory assigned) (engineInit g plan) as)
    (hmeets' : (engine g' plan).Meets (SendsAssigned g'.factory assigned) (engineInit g' plan) as')
    (hrun : (engine g plan).run (engineInit g plan) as = some s)
    (hrun' : (engine g' plan).run (engineInit g' plan) as' = some s') : SameStream s s' := by
  intro e he e' he' r hr r' hr' n hn hn'
  have hbatch : g.batchSize = g'.batchSize := by
    rw [launch_batchSize hg, launch_batchSize hg', hsame.batchSize]
  obtain ⟨hstart, p, hp, q, hq, hqr⟩ :=
    exists_of_carries (launch_launched hg) ⟨as, hrun⟩ he hr hn
  obtain ⟨hstart', p', hp', q', hq', hqr'⟩ :=
    exists_of_carries (launch_launched hg') ⟨as', hrun'⟩ he' hr' hn'
  -- both ranges start at the same number, so the same template is assigned to them
  have hpool : g.factory.contentsAt (g.factory.templateIndex e.worker e.item.variant)
      = g'.factory.contentsAt (g'.factory.templateIndex e'.worker e'.item.variant) := by
    rw [wireAssigned_of_run hmeets hrun e he, wireAssigned_of_run hmeets' hrun' e' he', hstart,
      hstart', hbatch, contentsAt_eq hsame hg hg']
  have hcontents : p.contents = p'.contents := by
    simpa [PayloadFactory.contentsAt, hp, hp'] using hpool
  have hcontent : q.content = q'.content := by
    have hk := congrArg (fun l => l[n % g.batchSize]?) hcontents
    simpa [RequestTemplate.contents, hq, hbatch ▸ hq'] using hk
  obtain ⟨hd, hfind⟩ :=
    (g.factory.templates_wf p (List.mem_of_getElem? hp)).exists_findSeqValue hq
  exact hqr.content_eq hqr' hcontent hfind hn hn'

/-! ## Two schedules -/

/-- What seed 42 draws for the first records of templates 0 and 4, which are the first ones of
workers 0 and 1, in a configuration that sets nothing but `body_bytes: 0`. -/
def firstDraw (rng : Int) : LogsDraw :=
  if rng = 42000126 then
    { severity := "INFO", status := 200, latencyMs := 345, method := "GET", resource := "items"
      requestId := "6e4cd62be5ce82ee", model := none, body := "retrying downstream call"
      traceId := [253, 28, 237, 186, 206, 201, 240, 179, 237, 98, 243, 14, 207, 241, 133, 1]
      spanId := [118, 173, 47, 255, 167, 228, 6, 158] }
  else
    { severity := "INFO", status := 200, latencyMs := 40, method := "DELETE", resource := "query"
      requestId := "30f28d3886c5e16a", model := none, body := "retrying downstream call"
      traceId := [177, 254, 81, 110, 216, 172, 82, 122, 159, 91, 112, 49, 145, 195, 121, 115]
      spanId := [106, 107, 37, 222, 246, 159, 238, 36] }

/-- Batches of one record, and two workers. -/
def twoWorkers (genId : String) : RunConfig Int where
  content := logsContent genId
    { newRng := id, choose := fun rng => (("service", "prod", "us-west-2"), rng)
      tenantId := "testing-tenant", workspaceId := "testing-workspace"
      draw := fun _ rng => (firstDraw rng, rng) }
  genId
  seed := 42
  customerOf _ := none
  batchSize := 1
  workers := 2
  maxInflight := 1
  retryMode := "none"
  abortOnConsecutiveFailures := 0
  rpcTimeoutSeconds := 1
  testId := "t"
  sampleIntervalSeconds := 1

/-- The worker sends what was assigned to its range, or the action serializes nothing. -/
def sendsAssigned (f : PayloadFactory η) (assigned : Nat → Nat) (s : State η) : Action → Bool
  | .serialize w =>
      match s.workers[w]? with
      | some (.exporting item false) =>
          f.contentsAt (f.templateIndex w item.variant) = f.contentsAt (assigned item.seqStart)
      | _ => true
  | _ => true

theorem sendsAssigned_iff {f : PayloadFactory η} {assigned : Nat → Nat} {s : State η} {a : Action} :
    sendsAssigned f assigned s a = true ↔ SendsAssigned f assigned s a := by
  constructor
  · rintro h w item rfl hpc
    simpa [sendsAssigned, hpc] using h
  · intro h
    unfold sendsAssigned
    split
    · rename_i w
      split
      · rename_i item hpc
        exact decide_eq_true (h w item rfl hpc)
      · rfl
    · rfl

/-- Two batches, a second apart: worker 0 has taken the first, and worker 1 the second. -/
def bothTake : List Action :=
  mainRuns 13 0 ++ [.worker 0, .workerNow 0 0] ++ mainRuns 9 1 ++ [.worker 1, .workerNow 1 0]

/-- Each worker stamps its batch and sends it, worker `w` first and worker `v` after it. -/
def sendBoth (w v : Nat) : List Action :=
  bothTake ++ List.replicate 4 (.worker w) ++ [.serialize w] ++ List.replicate 4 (.worker v) ++
    [.serialize v]

/-- Worker 0 sends record 0 and worker 1 record 1, with variants 0 and 1: templates 0 and 5. -/
def ownTemplate (n : Nat) : Nat := if n = 0 then 0 else 5

theorem meets_sendBoth {genId : String} {g : LoadGenerator BenchSeq} {w v : Nat}
    (hg : launch BenchSeq (twoWorkers genId) = some g)
    (hmeets : (launch BenchSeq (twoWorkers genId)).all (fun g =>
      (engine g [⟨0, 1, 10⟩]).Meets (fun s a => sendsAssigned g.factory ownTemplate s a = true)
        (engineInit g [⟨0, 1, 10⟩]) (sendBoth w v)) = true) :
    (engine g [⟨0, 1, 10⟩]).Meets (SendsAssigned g.factory ownTemplate)
      (engineInit g [⟨0, 1, 10⟩]) (sendBoth w v) := by
  rw [hg, Option.all_some] at hmeets
  exact (of_decide_eq_true hmeets).imp fun _ _ => sendsAssigned_iff.1

/-- Two schedules that send two records in a different order, each with its own template; the
templates differ. -/
theorem sameStream_sendBoth : ∃ s s' : State BenchSeq,
    s.logWire.map (fun e => (e.worker, e.request.logRecords.map (·.spanId)))
      = [(0, [(firstDraw 42000126).spanId]), (1, [(firstDraw 42000131).spanId])] ∧
    s'.logWire.map (·.worker) = [1, 0] ∧ SameStream s s' := by
  obtain ⟨g, s, hg, hrun, hwire⟩ := exists_of_runFrom
    (launch BenchSeq (twoWorkers "gen-1")) [⟨0, 1, 10⟩] (sendBoth 0 1)
    (P := fun s => s.logWire.map (fun e => (e.worker, e.request.logRecords.map (·.spanId)))
      = [(0, [(firstDraw 42000126).spanId]), (1, [(firstDraw 42000131).spanId])])
    (by decide +kernel)
  obtain ⟨g', s', hg', hrun', hwire'⟩ := exists_of_runFrom
    (launch BenchSeq (twoWorkers "gen-2")) [⟨0, 1, 10⟩] (sendBoth 1 0)
    (P := fun s => s.logWire.map (·.worker) = [1, 0]) (by decide +kernel)
  have hsame : SameSettings (twoWorkers "gen-1") (twoWorkers "gen-2") :=
    ⟨logsContent_drawAlike .., rfl, rfl, rfl, rfl⟩
  have hmeets := meets_sendBoth (w := 0) (v := 1) hg (by decide +kernel)
  have hmeets' := meets_sendBoth (w := 1) (v := 0) hg' (by decide +kernel)
  exact ⟨s, s', of_decide_eq_true hwire, of_decide_eq_true hwire',
    sameStream_of_sendsAssigned hsame hg hg' hmeets hmeets' hrun hrun'⟩

/-- **Which worker takes the item decides what record 0 says**: the one with the first template of
worker 0, or that of worker 1. -/
theorem not_sameStream_twoWorkers :
    ¬ ∀ (cfg cfg' : RunConfig Int) (g g' : LoadGenerator BenchSeq) (plan : List Step)
      (s s' : State BenchSeq), SameSettings cfg cfg' → launch BenchSeq cfg = some g →
        launch BenchSeq cfg' = some g' → (engine g plan).Reachable s →
          (engine g' plan).Reachable s' → SameStream s s' := by
  intro h
  obtain ⟨g, s, hg, hrun, hwire⟩ := exists_of_runFrom
    (launch BenchSeq (twoWorkers "gen-1")) [⟨0, 1, 1⟩] (mainRuns 13 0 ++ workerExports 0 1)
    (P := fun s => s.logWire.map (·.request.logRecords)
      = [[logsRecord "gen-1" "service" (firstDraw 42000126)]]) (by decide +kernel)
  obtain ⟨g', s', hg', hrun', hwire'⟩ := exists_of_runFrom
    (launch BenchSeq (twoWorkers "gen-2")) [⟨0, 1, 1⟩] (mainRuns 13 0 ++ workerExports 1 1)
    (P := fun s => s.logWire.map (·.request.logRecords)
      = [[logsRecord "gen-2" "service" (firstDraw 42000130)]]) (by decide +kernel)
  have hsame : SameSettings (twoWorkers "gen-1") (twoWorkers "gen-2") :=
    ⟨logsContent_drawAlike .., rfl, rfl, rfl, rfl⟩
  obtain ⟨e, he, hrecords⟩ := List.mem_map.1
    ((of_decide_eq_true hwire).symm ▸ List.mem_singleton_self _)
  obtain ⟨e', he', hrecords'⟩ := List.mem_map.1
    ((of_decide_eq_true hwire').symm ▸ List.mem_singleton_self _)
  have hcontent := h _ _ g g' _ s s' hsame hg hg' ⟨_, hrun⟩ ⟨_, hrun'⟩ e he e' he' _
    (hrecords ▸ List.mem_singleton_self _) _ (hrecords' ▸ List.mem_singleton_self _) 0
    ⟨0, by decide, rfl⟩ ⟨0, by decide, rfl⟩
  exact absurd hcontent (by decide)

end AnalyticsTesting.Generator
