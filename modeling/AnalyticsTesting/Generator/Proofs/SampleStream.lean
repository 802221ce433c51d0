import AnalyticsTesting.Lib.Binary64
import AnalyticsTesting.Lib.Series
import AnalyticsTesting.Generator.Proofs.Moves
import Mathlib.Data.List.Forall2
import Mathlib.Data.Multiset.Basic
import Mathlib.Tactic.Linarith

set_option autoImplicit false

/-! # The sample stream

What `generator.jsonl` says about a run. Each of the quantities that a sample reports is accumulated
twice by `Metrics`, in the totals and in the current window, so it is a `Series`, and no call of
`Metrics` does more to it than what the call is for (`Meter.Sound.call`). What the totals, the
windows and the samples are in terms of the calls follows from that (`stream_exact`).

The counters are exact. `stalled_ms` is not: both sums are taken in floats, and a sample shows its
window's with three digits. `rnd` is how a float is rounded, `Binary64.nearest` for doubles that do
not overflow and `id` for exact arithmetic. -/

namespace AnalyticsTesting.Generator

/-! ## The calls of `Metrics` -/

/-- A call of one of the methods that run under `Metrics._lock` and change something. -/
inductive MetricsCall
  | setStep (index : Nat) (rps : ℚ)
  | recordOffered (records nbytes : Nat)
  | recordInflight (delta : Int)
  | recordStall (seconds : ℚ)
  | recordSuccess (records : Nat) (latencyS : ℚ)
  | recordFailure (records : Nat) (latencyS : ℚ) (code : String)
  | flushSample (ts : ℚ) (iso : String)
  deriving DecidableEq

def Metrics.call (m : Metrics) : MetricsCall → Metrics
  | .setStep index rps => m.setStep index rps
  | .recordOffered records nbytes => m.recordOffered records nbytes
  | .recordInflight delta => m.recordInflight delta
  | .recordStall seconds => m.recordStall seconds
  | .recordSuccess records latencyS => m.recordSuccess records latencyS
  | .recordFailure records latencyS code => m.recordFailure records latencyS code
  | .flushSample ts iso => m.flushSample ts iso

/-- A call; the sums of `record_stall` are rounded by `rnd`. -/
def Metrics.callIn (rnd : ℚ → ℚ) (m : Metrics) : MetricsCall → Metrics
  | .recordStall seconds => m.recordStallIn rnd seconds
  | c => m.call c

theorem Metrics.callIn_id (m : Metrics) (a : MetricsCall) : m.callIn id a = m.call a := by
  cases a <;> rfl

/-- The metrics, and each state that a sample was taken from. -/
structure Meter where
  metrics : Metrics
  flushes : List Metrics := []

def Meter.call (rnd : ℚ → ℚ) (x : Meter) (c : MetricsCall) : Meter where
  metrics := x.metrics.callIn rnd c
  flushes := match c with
    | .flushSample _ _ => x.flushes ++ [x.metrics]
    | _ => x.flushes

/-- The calls in the order in which they get the lock. -/
def Metrics.calls (rnd : ℚ → ℚ) (m : Metrics) (cs : List MetricsCall) : Meter :=
  cs.foldl (Meter.call rnd) { metrics := m }

def MetricsCall.flushes : MetricsCall → Bool
  | .flushSample _ _ => true
  | _ => false

/-- The calls of each window. -/
def windows (cs : List MetricsCall) : Windows MetricsCall := .ofList MetricsCall.flushes cs

/-! ## What the calls are for -/

/-- The counters that are kept for the window too. -/
inductive Counter
  | requestsSent
  | requestsSuccess
  | requestsFailed
  | recordsOffered
  | recordsAccepted
  | recordsRejected
  | failedResourceExhausted
  | bytesSent
  deriving DecidableEq

namespace Counter

/-- The value of a counter. -/
def read (t : Totals) : Counter → ℚ
  | requestsSent => t.requestsSent
  | requestsSuccess => t.requestsSuccess
  | requestsFailed => t.requestsFailed
  | recordsOffered => t.recordsOffered
  | recordsAccepted => t.recordsAccepted
  | recordsRejected => t.recordsRejected
  | failedResourceExhausted => t.failedResourceExhausted
  | bytesSent => t.bytesSent

/-- What a sample says of its window. The records are given as rates over the sample interval. -/
def shown (interval : ℚ) (x : Sample) : Counter → ℚ
  | requestsSent => x.requestsSent
  | requestsSuccess => x.requestsSuccess
  | requestsFailed => x.requestsFailed
  | recordsOffered => x.offeredRps * interval
  | recordsAccepted => x.acceptedRps * interval
  | recordsRejected => x.rejectedRps * interval
  | failedResourceExhausted => x.failedResourceExhausted
  | bytesSent => x.bytesSent

/-- What a sample says a counter's total is. -/
def cum (x : Sample) : Counter → Option ℚ
  | recordsOffered => some x.cumRecordsOffered
  | recordsAccepted => some x.cumRecordsAccepted
  | recordsRejected => some x.cumRecordsRejected
  | _ => none

/-- What a call reports for a counter. -/
def added (c : Counter) : MetricsCall → ℚ
  | .recordOffered records nbytes =>
      match c with
      | recordsOffered => records
      | bytesSent => nbytes
      | _ => 0
  | .recordSuccess records _ =>
      match c with
      | requestsSent | requestsSuccess => 1
      | recordsAccepted => records
      | _ => 0
  | .recordFailure records _ code =>
      match c with
      | requestsSent | requestsFailed => 1
      | recordsRejected => if code = resourceExhausted then records else 0
      | failedResourceExhausted => if code = resourceExhausted then 1 else 0
      | _ => 0
  | .setStep _ _ | .recordInflight _ | .recordStall _ | .flushSample _ _ => 0

/-- What the calls report for a counter. -/
def reported (c : Counter) (cs : List MetricsCall) : ℚ := (cs.map c.added).sum

end Counter

/-- The latency that a call reports, in milliseconds. -/
def MetricsCall.latencyMs? : MetricsCall → Option ℚ
  | .recordSuccess _ latencyS | .recordFailure _ latencyS _ => some (latencyS * 1000)
  | _ => none

/-- The stall that a call reports, in milliseconds. -/
def MetricsCall.stalledMs? (rnd : ℚ → ℚ) : MetricsCall → Option ℚ
  | .recordStall seconds => some (rnd (seconds * 1000))
  | _ => none

/-- The code of the failure that a call reports. -/
def MetricsCall.code? : MetricsCall → Option String
  | .recordFailure _ _ code => some code
  | _ => none

/-- The latencies that the calls report. -/
def latenciesOf (cs : List MetricsCall) : List ℚ := cs.filterMap MetricsCall.latencyMs?

/-- The sum of the stalls that the calls report, added up in floats. -/
def stalledOf (rnd : ℚ → ℚ) (cs : List MetricsCall) : ℚ :=
  (cs.filterMap (MetricsCall.stalledMs? rnd)).foldl (fun sum ms => rnd (sum + ms)) 0

/-- The codes of the failures that the calls report. -/
def codesOf (cs : List MetricsCall) : List String := cs.filterMap MetricsCall.code?

/-! ## A call does what it is for -/

/-- A quantity as `Metrics` adds it up: `total` and `window` read it off. -/
def Meter.series {M : Type} (total window : Metrics → M) (x : Meter) : Series M where
  total := total x.metrics
  window := window x.metrics
  flushed := x.flushes.map fun m => (window m, total m)

/-- The series of a counter. -/
def Meter.counter (c : Counter) (x : Meter) : Series ℚ :=
  x.series (fun m => c.read m.totals) fun m => c.read m.window

theorem Counter.read_fail (c : Counter) (t : Totals) (records : Nat) (latencyS : ℚ)
    (code : String) :
    c.read (t.fail records code) = c.read t + c.added (.recordFailure records latencyS code) := by
  unfold Totals.fail
  dsimp only
  split_ifs with hexhausted hdeadline hunavailable hunauthenticated <;> cases c <;>
    simp [read, added, hexhausted]

theorem Counter.read_failWindow (c : Counter) (t : Totals) (records : Nat) (latencyS : ℚ)
    (code : String) :
    c.read (t.failWindow records code)
      = c.read t + c.added (.recordFailure records latencyS code) := by
  unfold Totals.failWindow
  dsimp only
  split_ifs with hexhausted <;> cases c <;> simp [read, added, hexhausted]

/-- **Both accumulators move alike**: what a call adds to a counter's total it adds to its window,
unless it swaps the window out. -/
theorem Counter.read_call (c : Counter) (rnd : ℚ → ℚ) (m : Metrics) {a : MetricsCall}
    (ha : a.flushes = false) :
    c.read (m.callIn rnd a).totals = c.read m.totals + c.added a ∧
      c.read (m.callIn rnd a).window = c.read m.window + c.added a := by
  cases a with
  | recordFailure records latencyS code =>
      exact ⟨c.read_fail m.totals records latencyS code,
        c.read_failWindow m.window records latencyS code⟩
  | flushSample ts iso => simp [MetricsCall.flushes] at ha
  | recordOffered records nbytes =>
      cases c <;>
        simp [Metrics.callIn, Metrics.call, Metrics.recordOffered, Totals.offer, read, added]
  | recordSuccess records latencyS =>
      cases c <;>
        simp [Metrics.callIn, Metrics.call, Metrics.recordSuccess, Totals.succeed, read, added]
  | recordStall seconds =>
      cases c <;> simp [Metrics.callIn, Metrics.recordStallIn, read, added]
  | setStep index rps => simp [Metrics.callIn, Metrics.call, Metrics.setStep, added]
  | recordInflight delta => simp [Metrics.callIn, Metrics.call, Metrics.recordInflight, added]

theorem latencies_call (rnd : ℚ → ℚ) (m : Metrics) {a : MetricsCall} (ha : a.flushes = false) :
    (m.callIn rnd a).allLatencies
        = a.latencyMs?.elim m.allLatencies (fun ms => m.allLatencies ++ [ms]) ∧
      (m.callIn rnd a).windowLatencies
        = a.latencyMs?.elim m.windowLatencies (fun ms => m.windowLatencies ++ [ms]) := by
  cases a with
  | flushSample ts iso => simp [MetricsCall.flushes] at ha
  | _ => exact ⟨rfl, rfl⟩

theorem stalled_call (rnd : ℚ → ℚ) (m : Metrics) {a : MetricsCall} (ha : a.flushes = false) :
    (m.callIn rnd a).totals.stalledMs
        = (a.stalledMs? rnd).elim m.totals.stalledMs (fun ms => rnd (m.totals.stalledMs + ms)) ∧
      (m.callIn rnd a).window.stalledMs
        = (a.stalledMs? rnd).elim m.window.stalledMs
          (fun ms => rnd (m.window.stalledMs + ms)) := by
  cases a with
  | flushSample ts iso => simp [MetricsCall.flushes] at ha
  | recordFailure records latencyS code =>
      constructor
      · show (m.totals.fail records code).stalledMs = _
        unfold Totals.fail
        dsimp only
        split_ifs <;> rfl
      · show (m.window.failWindow records code).stalledMs = _
        unfold Totals.failWindow
        dsimp only
        split_ifs <;> rfl
  | _ => exact ⟨rfl, rfl⟩

/-- What a call adds to both accumulators alike, and a swap takes out of the window, is tracked. -/
theorem Meter.tracks_call {M A : Type} {total window : Metrics → M} {op : M → A → M} {zero : M}
    {f : MetricsCall → Option A} {rnd : ℚ → ℚ}
    (hadd : ∀ (m : Metrics) (a : MetricsCall), a.flushes = false →
      total (m.callIn rnd a) = (f a).elim (total m) (op (total m)) ∧
        window (m.callIn rnd a) = (f a).elim (window m) (op (window m)))
    (hflush : ∀ (m : Metrics) (ts : ℚ) (iso : String),
      total (m.flushSample ts iso) = total m ∧ window (m.flushSample ts iso) = zero)
    {x : Meter} {cs : List MetricsCall}
    (h : (x.series total window).Tracks op zero f (windows cs)) (a : MetricsCall) :
    ((x.call rnd a).series total window).Tracks op zero f (windows (cs ++ [a])) := by
  unfold windows
  rw [Windows.ofList_concat]
  cases ha : a.flushes with
  | true =>
      have hswap := h.swap ha
      cases a with
      | flushSample ts iso =>
          obtain ⟨htotal, hwindow⟩ := hflush x.metrics ts iso
          have heq : (x.call rnd (.flushSample ts iso)).series total window
              = (x.series total window).swap zero := by
            simp [Meter.series, Meter.call, Metrics.callIn, Metrics.call, Series.swap, htotal,
              hwindow]
          rw [heq]
          exact hswap
      | _ => simp [MetricsCall.flushes] at ha
  | false =>
      have hkeep : (x.call rnd a).flushes = x.flushes := by
        cases a <;> first | rfl | simp [MetricsCall.flushes] at ha
      obtain ⟨htotal, hwindow⟩ := hadd x.metrics a ha
      have heq : (x.call rnd a).series total window
          = (x.series total window).add op (f a) := by
        simp only [Meter.series, Series.add, hkeep]
        rw [show (x.call rnd a).metrics = x.metrics.callIn rnd a from rfl, htotal, hwindow]
      rw [heq]
      exact h.add ha

/-! ## The failure counters -/

theorem sum_countCode (code : String) (counts : List (String × Nat)) :
    ((countCode code counts).map Prod.snd).sum = (counts.map Prod.snd).sum + 1 := by
  induction counts with
  | nil => rfl
  | cons entry counts ih =>
      obtain ⟨c, n⟩ := entry
      unfold countCode
      split
      · simp only [List.map_cons, List.sum_cons]
        omega
      · simp only [List.map_cons, List.sum_cons, ih]
        omega

/-- The count of a code. -/
def codeCount (code : String) (counts : List (String × Nat)) : Nat :=
  ((counts.find? fun e => e.1 = code).map Prod.snd).getD 0

theorem codeCount_countCode (code code' : String) (counts : List (String × Nat)) :
    codeCount code (countCode code' counts)
      = if code = code' then codeCount code counts + 1 else codeCount code counts := by
  induction counts with
  | nil =>
      by_cases hcode : code = code'
      · simp [codeCount, countCode, hcode]
      · simp [codeCount, countCode, hcode, Ne.symm hcode]
  | cons e counts ih =>
      obtain ⟨c, n⟩ := e
      unfold countCode
      by_cases hc : c = code'
      · subst hc
        by_cases hcode : code = c
        · simp [codeCount, hcode]
        · simp [codeCount, hcode, Ne.symm hcode]
      · rw [if_neg hc]
        by_cases hcode : c = code
        · subst hcode
          simp [codeCount, hc]
        · simpa [codeCount, hcode] using ih

/-- Every request is a success or a failure, and every failure has one cause and one code. -/
structure Totals.Classified (t : Totals) : Prop where
  requests : t.requestsSent = t.requestsSuccess + t.requestsFailed
  failures : t.requestsFailed = t.failedResourceExhausted + t.failedDeadline + t.failedUnavailable
    + t.failedUnauthenticated + t.failedOther
  codes : t.requestsFailed = (t.errorsByCode.map Prod.snd).sum

theorem Totals.Classified.succeed {t : Totals} (h : t.Classified) (records : Nat) :
    (t.succeed records).Classified := by
  obtain ⟨hrequests, hfailures, hcodes⟩ := h
  refine ⟨?_, hfailures, hcodes⟩
  show t.requestsSent + 1 = t.requestsSuccess + 1 + t.requestsFailed
  omega

theorem Totals.Classified.fail {t : Totals} (h : t.Classified) (records : Nat) (code : String) :
    (t.fail records code).Classified := by
  obtain ⟨hrequests, hfailures, hcodes⟩ := h
  have hcount := sum_countCode code t.errorsByCode
  unfold Totals.fail
  dsimp only
  -- one failure, one code, and one of the five causes
  split_ifs <;> constructor <;> dsimp only <;> omega

theorem Totals.Classified.call {m : Metrics} (h : m.totals.Classified) (rnd : ℚ → ℚ)
    (a : MetricsCall) : (m.callIn rnd a).totals.Classified := by
  cases a with
  | recordSuccess records latencyS => exact h.succeed records
  | recordFailure records latencyS code => exact h.fail records code
  | _ => exact ⟨h.requests, h.failures, h.codes⟩

/-- The codes with a counter of their own. -/
def namedCodes : List String :=
  [resourceExhausted, "DEADLINE_EXCEEDED", "UNAVAILABLE", "UNAUTHENTICATED"]

/-- The failures are counted by their cause, and by their code. -/
structure Totals.Counts (t : Totals) (codes : List String) : Prop where
  resourceExhausted_eq : t.failedResourceExhausted = codes.count resourceExhausted
  deadline_eq : t.failedDeadline = codes.count "DEADLINE_EXCEEDED"
  unavailable_eq : t.failedUnavailable = codes.count "UNAVAILABLE"
  unauthenticated_eq : t.failedUnauthenticated = codes.count "UNAUTHENTICATED"
  other_eq : t.failedOther = codes.countP fun code => code ∉ namedCodes
  errorsByCode_eq : ∀ code, codeCount code t.errorsByCode = codes.count code

theorem Totals.Counts.fail {t : Totals} {codes : List String} (h : t.Counts codes) (records : Nat)
    (code : String) : (t.fail records code).Counts (codes ++ [code]) := by
  obtain ⟨hexhausted, hdeadline, hunavailable, hunauthenticated, hother, hcodes⟩ := h
  have hcount : ∀ c, codeCount c (countCode code t.errorsByCode) = (codes ++ [code]).count c := by
    intro c
    rw [codeCount_countCode, hcodes, List.count_append, List.count_singleton]
    by_cases hc : c = code
    · subst hc
      simp
    · simp [hc, Ne.symm hc]
  unfold Totals.fail
  dsimp only
  split_ifs with h₁ h₂ h₃ h₄ <;> constructor <;>
    simp_all [List.count_append, List.countP_append, namedCodes, resourceExhausted]

theorem Totals.Counts.call {m : Metrics} {cs : List MetricsCall}
    (h : m.totals.Counts (codesOf cs)) (rnd : ℚ → ℚ) (a : MetricsCall) :
    (m.callIn rnd a).totals.Counts (codesOf (cs ++ [a])) := by
  unfold codesOf
  rw [List.filterMap_append]
  cases a with
  | recordFailure records latencyS code => exact h.fail records code
  | _ =>
      rw [show ∀ c : MetricsCall, c.code? = none → [c].filterMap MetricsCall.code? = [] from
        fun c hc => by simp [hc], List.append_nil]
      · exact ⟨h.1, h.2, h.3, h.4, h.5, h.6⟩
      · rfl

/-- A rejection is counted for `RESOURCE_EXHAUSTED` only. -/
theorem recordsRejected_call {m : Metrics} {rnd : ℚ → ℚ} {a : MetricsCall}
    (h : (m.callIn rnd a).totals.recordsRejected ≠ m.totals.recordsRejected) :
    ∃ records latencyS, a = .recordFailure records latencyS resourceExhausted := by
  cases a with
  | recordFailure records latencyS code =>
      by_cases hcode : code = resourceExhausted
      · exact ⟨records, latencyS, by rw [hcode]⟩
      · refine absurd ?_ h
        simp [Metrics.callIn, Metrics.call, Metrics.recordFailure, hcode]
  | _ => exact absurd rfl h

/-! ## The stream -/

/-- What a sample says of the state it was taken from. -/
structure Sample.Shows (interval : ℚ) (x : Sample) (m : Metrics) : Prop where
  counter : ∀ c : Counter, c.shown interval x = c.read m.window
  stalledMs : x.stalledMs = roundDigits m.window.stalledMs 3
  cum : ∀ (c : Counter) (v : ℚ), c.cum x = some v → v = c.read m.totals

theorem exists_sample (m : Metrics) (hinterval : 0 < m.sampleInterval) (ts : ℚ) (iso : String) :
    ∃ x : Sample, (m.flushSample ts iso).samples = m.samples ++ [x] ∧
      x.Shows m.sampleInterval m := by
  refine ⟨_, rfl, ?_, rfl, ?_⟩
  · intro c
    cases c <;> first
      | rfl
      | exact div_mul_cancel₀ _ hinterval.ne'
  · intro c v hv
    cases c <;> first
      | exact (Option.some.inj hv).symm
      | simp [Counter.cum] at hv

/-- What the calls so far keep. -/
structure Meter.Sound (rnd : ℚ → ℚ) (interval : ℚ) (cs : List MetricsCall) (x : Meter) : Prop where
  counter : ∀ c : Counter,
    (x.counter c).Tracks (· + ·) 0 (fun a => some (c.added a)) (windows cs)
  latencies : (x.series Metrics.allLatencies Metrics.windowLatencies).Tracks
    (fun l ms => l ++ [ms]) [] MetricsCall.latencyMs? (windows cs)
  stalled : (x.series (·.totals.stalledMs) (·.window.stalledMs)).Tracks
    (fun sum ms => rnd (sum + ms)) 0 (MetricsCall.stalledMs? rnd) (windows cs)
  classified : x.metrics.totals.Classified
  counts : x.metrics.totals.Counts (codesOf cs)
  interval_eq : x.metrics.sampleInterval = interval
  shows : List.Forall₂ (Sample.Shows interval) x.metrics.samples x.flushes

/-- **One call does what it is for.** -/
theorem Meter.Sound.call {rnd : ℚ → ℚ} {interval : ℚ} (hinterval : 0 < interval)
    {cs : List MetricsCall} {x : Meter} (h : x.Sound rnd interval cs) (a : MetricsCall) :
    (x.call rnd a).Sound rnd interval (cs ++ [a]) where
  counter c := Meter.tracks_call (fun m _ ha => c.read_call rnd m ha)
    (fun m ts iso => ⟨rfl, by cases c <;> simp [Metrics.flushSample, Counter.read]⟩) (h.counter c) a
  latencies := Meter.tracks_call (fun m _ ha => latencies_call rnd m ha) (fun _ _ _ => ⟨rfl, rfl⟩)
    h.latencies a
  stalled := Meter.tracks_call (fun m _ ha => stalled_call rnd m ha) (fun _ _ _ => ⟨rfl, rfl⟩)
    h.stalled a
  classified := h.classified.call rnd a
  counts := h.counts.call rnd a
  interval_eq := by cases a <;> exact h.interval_eq
  shows := by
    cases a with
    | flushSample ts iso =>
        have heq := h.interval_eq
        obtain ⟨sample, hsamples, hshows⟩ := exists_sample x.metrics (by rw [heq]; exact hinterval)
          ts iso
        rw [heq] at hshows
        show List.Forall₂ _ (x.metrics.flushSample ts iso).samples (x.flushes ++ [x.metrics])
        rw [hsamples]
        exact List.rel_append h.shows (.cons hshows .nil)
    | _ => exact h.shows

theorem sound_calls (rnd : ℚ → ℚ) (testId : String) (sampleInterval : ℚ)
    (cs : List MetricsCall) :
    ((Metrics.init testId sampleInterval).calls rnd cs).Sound rnd (max (1 / 10) sampleInterval)
      cs := by
  induction cs using List.reverseRecOn with
  | nil =>
      refine ⟨fun c => ?_, Series.tracks_nil, Series.tracks_nil, ⟨rfl, rfl, rfl⟩,
        ⟨rfl, rfl, rfl, rfl, rfl, fun _ => rfl⟩, rfl, .nil⟩
      have hzero : Meter.counter c { metrics := Metrics.init testId sampleInterval }
          = ⟨0, 0, []⟩ := by
        cases c <;> simp [Meter.counter, Meter.series, Metrics.init, Counter.read]
      exact hzero ▸ Series.tracks_nil
  | append_singleton cs a ih =>
      unfold Metrics.calls
      rw [List.foldl_append]
      exact ih.call (lt_max_of_lt_left (by norm_num)) a

/-! ## In terms of the calls -/

theorem accumulate_added (c : Counter) (cs : List MetricsCall) :
    Series.accumulate (· + ·) 0 (fun a => some (c.added a)) cs = c.reported cs := by
  rw [Series.accumulate_add, Counter.reported]
  simp

theorem accumulate_latencies (cs : List MetricsCall) :
    Series.accumulate (fun l ms => l ++ [ms]) [] MetricsCall.latencyMs? cs = latenciesOf cs := by
  have hconcat : ∀ l start : List ℚ, l.foldl (fun l ms => l ++ [ms]) start = start ++ l := by
    intro l
    induction l with
    | nil => simp
    | cons x l ih =>
        intro start
        rw [List.foldl_cons, ih, List.append_assoc]
        rfl
  exact hconcat _ []

theorem reported_all (c : Counter) (cs : List MetricsCall) :
    c.reported (windows cs).all = c.reported cs := by
  rw [windows, Windows.all_ofList]
  induction cs with
  | nil => rfl
  | cons a cs ih =>
      unfold Counter.reported at ih ⊢
      cases a <;> simp_all [MetricsCall.flushes, Counter.added]

/-- A swap reports nothing. -/
theorem filterMap_all {A : Type} {f : MetricsCall → Option A}
    (hf : ∀ ts iso, f (.flushSample ts iso) = none) (cs : List MetricsCall) :
    (windows cs).all.filterMap f = cs.filterMap f := by
  rw [windows, Windows.all_ofList]
  induction cs with
  | nil => rfl
  | cons a cs ih =>
      cases a <;> simp_all [MetricsCall.flushes, List.filterMap_cons]

/-- What all calls report, the calls of the windows report one after the other. -/
theorem filterMap_windows {A : Type} {f : MetricsCall → Option A}
    (hf : ∀ ts iso, f (.flushSample ts iso) = none) (cs : List MetricsCall) :
    ((windows cs).closed.map (·.filterMap f)).flatten ++ (windows cs).current.filterMap f
      = cs.filterMap f := by
  rw [← filterMap_all hf cs, Windows.all, List.filterMap_append, List.filterMap_flatten]

/-! ## The stream -/

/-- **The stream loses and repeats nothing.** The totals are what all calls have reported; each
    window is what the calls of that window have; a sample shows its window, so the samples and the
    current window add up to the totals, and a `cum_` value is the sum of the samples up to its own.
    Every latency is in the list of its window and in the list of all; every request has one
    outcome, and every failure one cause and one code. -/
structure StreamExact (rnd : ℚ → ℚ) (cs : List MetricsCall) (x : Meter) : Prop where
  total_eq : ∀ c : Counter, c.read x.metrics.totals = c.reported cs
  windows_eq : ∀ c : Counter,
    (x.flushes.map fun m => c.read m.window) = (windows cs).closed.map c.reported
  current_eq : ∀ c : Counter, c.read x.metrics.window = c.reported (windows cs).current
  shown_eq : ∀ c : Counter, (x.metrics.samples.map fun y => c.shown x.metrics.sampleInterval y)
    = x.flushes.map fun m => c.read m.window
  sum_eq : ∀ c : Counter, (x.metrics.samples.map fun y => c.shown x.metrics.sampleInterval y).sum
    + c.read x.metrics.window = c.read x.metrics.totals
  cum_eq : ∀ (k : Nat) (y : Sample) (c : Counter) (v : ℚ), x.metrics.samples[k]? = some y →
    c.cum y = some v →
    v = ((x.metrics.samples.take (k + 1)).map fun y => c.shown x.metrics.sampleInterval y).sum
  allLatencies_eq : x.metrics.allLatencies = latenciesOf cs
  windowLatencies_eq : x.flushes.map Metrics.windowLatencies
    = (windows cs).closed.map latenciesOf
  currentLatencies_eq : x.metrics.windowLatencies = latenciesOf (windows cs).current
  latencies_eq : (x.flushes.map Metrics.windowLatencies).flatten ++ x.metrics.windowLatencies
    = x.metrics.allLatencies
  stalled_eq : x.metrics.totals.stalledMs = stalledOf rnd cs
  windowStalled_eq : (x.flushes.map fun m => m.window.stalledMs)
    = (windows cs).closed.map (stalledOf rnd)
  currentStalled_eq : x.metrics.window.stalledMs = stalledOf rnd (windows cs).current
  shownStalled_eq : x.metrics.samples.map Sample.stalledMs
    = x.flushes.map fun m => roundDigits m.window.stalledMs 3
  classified : x.metrics.totals.Classified
  counts : x.metrics.totals.Counts (codesOf cs)
  rejected : ∀ a : MetricsCall,
    (x.metrics.callIn rnd a).totals.recordsRejected ≠ x.metrics.totals.recordsRejected →
    ∃ records latencyS, a = .recordFailure records latencyS resourceExhausted

/-- The `k`-th sample was taken from the `k`-th state. -/
theorem exists_flush {interval : ℚ} {samples : List Sample} {flushes : List Metrics}
    (h : List.Forall₂ (Sample.Shows interval) samples flushes) {k : Nat} {y : Sample}
    (hy : samples[k]? = some y) : ∃ m, flushes[k]? = some m ∧ y.Shows interval m := by
  obtain ⟨hk, heq⟩ := List.getElem?_eq_some_iff.1 hy
  have hk' : k < flushes.length := h.length_eq ▸ hk
  have hshows := h.get hk hk'
  refine ⟨flushes[k], List.getElem?_eq_getElem hk', ?_⟩
  rw [← heq]
  exact hshows

/-- What a sample shows of its state, the samples show of theirs. -/
theorem map_shows {B : Type} {interval : ℚ} {shown : Sample → B} {read : Metrics → B}
    (hshown : ∀ y m, Sample.Shows interval y m → shown y = read m) {samples : List Sample}
    {flushes : List Metrics} (h : List.Forall₂ (Sample.Shows interval) samples flushes) :
    samples.map shown = flushes.map read := by
  induction h with
  | nil => rfl
  | cons hshows _ ih => rw [List.map_cons, List.map_cons, hshown _ _ hshows, ih]

theorem Meter.Sound.streamExact {rnd : ℚ → ℚ} {interval : ℚ} {cs : List MetricsCall} {x : Meter}
    (h : x.Sound rnd interval cs) : StreamExact rnd cs x := by
  have hwindows : ∀ c : Counter,
      (x.flushes.map fun m => c.read m.window) = (windows cs).closed.map c.reported := by
    intro c
    have hflushed := (h.counter c).flushed_eq
    rw [List.map_congr_left fun as _ => accumulate_added c as] at hflushed
    simpa [Meter.counter, Meter.series, Function.comp_def] using hflushed
  have hshown : ∀ c : Counter,
      (x.metrics.samples.map fun y => c.shown x.metrics.sampleInterval y)
        = x.flushes.map fun m => c.read m.window := by
    intro c
    rw [h.interval_eq]
    exact map_shows (fun y m hshows => hshows.counter c) h.shows
  have hlatencies : x.flushes.map Metrics.windowLatencies
      = (windows cs).closed.map latenciesOf := by
    have hflushed := h.latencies.flushed_eq
    rw [List.map_congr_left fun as _ => accumulate_latencies as] at hflushed
    simpa [Meter.series, Function.comp_def] using hflushed
  have hcurrent : x.metrics.windowLatencies = latenciesOf (windows cs).current :=
    h.latencies.window_eq.trans (accumulate_latencies _)
  have hall : x.metrics.allLatencies = latenciesOf cs := by
    refine h.latencies.total_eq.trans ((accumulate_latencies _).trans ?_)
    exact filterMap_all (fun _ _ => rfl) cs
  refine
    { total_eq := fun c => ?_
      windows_eq := hwindows
      current_eq := fun c => ?_
      shown_eq := hshown
      sum_eq := fun c => ?_
      cum_eq := fun k y c v hy hv => ?_
      allLatencies_eq := hall
      windowLatencies_eq := hlatencies
      currentLatencies_eq := hcurrent
      latencies_eq := ?_
      stalled_eq := ?_
      windowStalled_eq := ?_
      currentStalled_eq := h.stalled.window_eq
      shownStalled_eq := map_shows (fun y m hshows => hshows.stalledMs) h.shows
      classified := h.classified
      counts := h.counts
      rejected := fun _ hne => recordsRejected_call hne }
  · exact ((h.counter c).total_eq.trans (accumulate_added c _)).trans (reported_all c cs)
  · exact (h.counter c).window_eq.trans (accumulate_added c _)
  · rw [hshown]
    have hsum := (h.counter c).sum_eq
    simpa [Meter.counter, Meter.series, Function.comp_def] using hsum
  · obtain ⟨m, hm, hshows⟩ := exists_flush h.shows hy
    have hseen := (h.counter c).seen_sum (k := k) (x := (c.read m.window, c.read m.totals))
      (by simp [Meter.counter, Meter.series, hm])
    rw [hshows.cum c v hv, List.map_take, hshown]
    simpa [Meter.counter, Meter.series, ← List.map_take, Function.comp_def] using hseen
  · rw [hlatencies, hcurrent, hall]
    exact filterMap_windows (fun _ _ => rfl) cs
  · refine h.stalled.total_eq.trans ?_
    unfold Series.accumulate
    rw [filterMap_all (fun _ _ => rfl) cs]
    rfl
  · have hflushed := h.stalled.flushed_eq
    rw [Meter.series, List.map_map] at hflushed
    exact hflushed

/-! ## The stalls -/

/-- What the samples say of the stalls, and the current window, add up to the total but for the
    rounding: half a thousandth a sample, and the error of adding up floats. -/
def StalledNear (cs : List MetricsCall) (x : Meter) : Prop :=
  (∀ seconds, .recordStall seconds ∈ cs → 0 ≤ seconds) →
    |(x.metrics.samples.map Sample.stalledMs).sum + x.metrics.window.stalledMs
        - x.metrics.totals.stalledMs|
      ≤ x.metrics.samples.length * (1 / 2000)
        + 2 * (cs.filterMap (MetricsCall.stalledMs? Binary64.nearest)).length
          * Binary64.slack x.metrics.totals.stalledMs

theorem abs_sum_roundDigits_sub_le (l : List ℚ) :
    |(l.map fun q => roundDigits q 3).sum - l.sum| ≤ l.length * (1 / 2000) := by
  induction l with
  | nil => simp
  | cons q l ih =>
      have hround : |roundDigits q 3 - q| ≤ 1 / 2000 := by
        refine (abs_roundDigits_sub_le q 3).trans ?_
        norm_num
      have hsplit : ((q :: l).map fun q => roundDigits q 3).sum - (q :: l).sum
          = (roundDigits q 3 - q) + ((l.map fun q => roundDigits q 3).sum - l.sum) := by
        simp only [List.map_cons, List.sum_cons]
        ring
      rw [hsplit, List.length_cons]
      refine (abs_add_le _ _).trans ?_
      push_cast
      linarith

theorem StreamExact.stalledNear {cs : List MetricsCall} {x : Meter}
    (h : StreamExact Binary64.nearest cs x) : StalledNear cs x := by
  intro hnonneg
  let stalls := fun as : List MetricsCall =>
    as.filterMap (MetricsCall.stalledMs? Binary64.nearest)
  let parts := (windows cs).closed.map stalls ++ [stalls (windows cs).current]
  have hflat : parts.flatten = stalls cs := by
    rw [List.flatten_append, List.flatten_singleton]
    exact filterMap_windows (fun _ _ => rfl) cs
  have hpos : ∀ ms ∈ parts.flatten, 0 ≤ ms := by
    rw [hflat]
    intro ms hms
    obtain ⟨a, ha, heq⟩ := List.mem_filterMap.1 hms
    cases a with
    | recordStall seconds =>
        obtain rfl := Option.some.inj heq
        exact Binary64.nearest_nonneg (mul_nonneg (hnonneg seconds ha) (by norm_num))
    | _ => simp [MetricsCall.stalledMs?] at heq
  -- the windows against the total
  have hparts := Binary64.abs_sum_parts_sub_le hpos
  have hsums : (parts.map Binary64.sum).sum
      = (x.flushes.map fun m => m.window.stalledMs).sum + x.metrics.window.stalledMs := by
    have hmap : parts.map Binary64.sum
        = (windows cs).closed.map (stalledOf Binary64.nearest)
          ++ [stalledOf Binary64.nearest (windows cs).current] := by
      rw [List.map_append, List.map_map]
      rfl
    rw [hmap, List.sum_append, List.sum_singleton, h.windowStalled_eq, h.currentStalled_eq]
  have htotal : Binary64.sum (stalls cs) = x.metrics.totals.stalledMs := h.stalled_eq.symm
  rw [hflat, htotal, hsums] at hparts
  -- the samples against the windows
  have hshown := abs_sum_roundDigits_sub_le (x.flushes.map fun m => m.window.stalledMs)
  have hlength : x.metrics.samples.length = x.flushes.length := by
    simpa using congrArg List.length h.shownStalled_eq
  rw [List.map_map, List.length_map, ← hlength] at hshown
  rw [h.shownStalled_eq]
  have hsplit : (x.flushes.map fun m => roundDigits m.window.stalledMs 3).sum
        + x.metrics.window.stalledMs - x.metrics.totals.stalledMs
      = ((x.flushes.map fun m => roundDigits m.window.stalledMs 3).sum
          - (x.flushes.map fun m => m.window.stalledMs).sum)
        + ((x.flushes.map fun m => m.window.stalledMs).sum + x.metrics.window.stalledMs
          - x.metrics.totals.stalledMs) := by ring
  rw [hsplit]
  exact (abs_add_le _ _).trans (add_le_add hshown hparts)

/-- **The stream of every run is exact**, whatever the order of the calls, and its stalls are but
for the rounding. -/
theorem stream_exact (testId : String) (sampleInterval : ℚ) (cs : List MetricsCall) :
    StreamExact Binary64.nearest cs
        ((Metrics.init testId sampleInterval).calls Binary64.nearest cs) ∧
      StalledNear cs ((Metrics.init testId sampleInterval).calls Binary64.nearest cs) := by
  have h := (sound_calls Binary64.nearest testId sampleInterval cs).streamExact
  exact ⟨h, h.stalledNear⟩

/-- **The stalls that the samples show do not add up to the total**: a stall of 1.953125 ms is shown
as 1.953 ms. -/
theorem not_stalled_sum_rounded :
    ¬ ∀ (testId : String) (sampleInterval : ℚ) (cs : List MetricsCall),
        let x := (Metrics.init testId sampleInterval).calls Binary64.nearest cs
        (x.metrics.samples.map Sample.stalledMs).sum + x.metrics.window.stalledMs
          = x.metrics.totals.stalledMs := by
  intro h
  have hsum := h "t" 1 [.recordStall (1 / 512), .flushSample 0 ""]
  revert hsum
  decide +kernel

end AnalyticsTesting.Generator
