import AnalyticsTesting.Config.Readings

set_option autoImplicit false

/-! # Which bad configurations are reported

One lemma for each helper and each stage of `load` says how it ends, by the readings it is made of
(`of_load`). `main` returns exit code 2 for a `ConfigError` only, so a bad configuration is reported
if each reading that crashes comes after one that a check reports (`reportsErrors_iff`). -/

namespace AnalyticsTesting.Config

open Verdict (Reads Unforeseen reportUnless crashUnless)

/-- The exceptions `main` catches. -/
def foreseen : PyExc → Bool
  | .configError _ => true
  | _ => false

variable {fl : FloatFormat}

/-! ## Reading one value -/

theorem unforeseen_orRaise {α : Type} {e : PyExc} (he : foreseen e = false) (o : Option α) :
    Unforeseen foreseen (orRaise e o) := by
  cases o with
  | none => exact .error he
  | some a => exact .ok a

theorem unforeseen_floatToInt (x : Double) : Unforeseen foreseen (Value.floatToInt x) := by
  cases x with
  | fin q => exact .ok _
  | _ => exact .error rfl

theorem unforeseen_toInt (v : Value) : Unforeseen foreseen v.toInt := by
  cases v with
  | bool b => exact .ok _
  | int n => exact .ok n
  | float x => exact unforeseen_floatToInt x
  | negZero => exact .ok 0
  | str s => exact unforeseen_orRaise rfl _
  | bytes b => exact unforeseen_orRaise rfl _
  | _ => exact .error rfl

theorem unforeseen_toFloat (v : Value) : Unforeseen foreseen (v.toFloat fl) := by
  cases v with
  | bool b => exact .ok _
  | int n => exact unforeseen_orRaise rfl _
  | float x => exact .ok x
  | negZero => exact .ok _
  | str s => exact unforeseen_orRaise rfl _
  | bytes b => exact unforeseen_orRaise rfl _
  | _ => exact .error rfl

theorem unforeseen_addInt (v : Value) (n : Int) : Unforeseen foreseen (v.addInt fl n) := by
  cases v with
  | bool b => exact .ok _
  | int m => exact .ok _
  | float x => exact (unforeseen_orRaise rfl _).bind fun _ => .ok _
  | negZero => exact (unforeseen_orRaise rfl _).bind fun _ => .ok _
  | _ => exact .error rfl

/-! ## Texts -/

theorem unforeseen_keyRepr (k : Key) : Unforeseen foreseen (k.repr fl) := by
  induction k with
  | int n => exact unforeseen_orRaise rfl _
  | pair k k' hk hk' => exact hk.bind fun _ => hk'.bind fun _ => .ok _
  | _ => exact .ok _

mutual

theorem unforeseen_repr : ∀ v : Value, Unforeseen foreseen (v.repr fl)
  | .none | .bool _ | .int _ | .float _ | .negZero | .str _ | .bytes _ | .other _ _ =>
      unforeseen_keyRepr _
  | .list xs => (unforeseen_reprList xs).bind fun _ => .ok _
  | .pair v v' => (unforeseen_repr v).bind fun _ => (unforeseen_repr v').bind fun _ => .ok _
  | .dict items => (unforeseen_reprItems items).bind fun _ => .ok _
  | .set elements => (Unforeseen.mapM unforeseen_keyRepr elements).bind fun _ => .ok _
  | .endless _ => unforeseen_orRaise rfl _

theorem unforeseen_reprList : ∀ xs : List Value, Unforeseen foreseen (reprList fl xs)
  | [] => .ok _
  | v :: vs => (unforeseen_repr v).bind fun _ => (unforeseen_reprList vs).bind fun _ => .ok _

theorem unforeseen_reprItems : ∀ items : Items, Unforeseen foreseen (reprItems fl items)
  | [] => .ok _
  | (k, v) :: rest => (unforeseen_keyRepr k).bind fun _ => (unforeseen_repr v).bind fun _ =>
      (unforeseen_reprItems rest).bind fun _ => .ok _

end

theorem unforeseen_toStr (v : Value) : Unforeseen foreseen (v.toStr fl) := by
  unfold Value.toStr
  split
  · exact .ok _
  · exact .ok _
  · exact unforeseen_repr _

/-! ## Mappings -/

theorem unforeseen_toKey : ∀ v : Value, Unforeseen foreseen v.toKey
  | .none | .bool _ | .int _ | .float _ | .negZero | .str _ | .bytes _ | .other _ _ => .ok _
  | .pair v v' => (unforeseen_toKey v).bind fun _ => (unforeseen_toKey v').bind fun _ => .ok _
  | .list _ | .dict _ | .set _ | .endless _ => .error rfl

theorem unforeseen_toPair (v : Value) : Unforeseen foreseen v.toPair := by
  unfold Value.toPair
  split
  case h_1 k _ => exact (unforeseen_toKey k).bind fun _ => .ok _
  case h_2 k _ => exact (unforeseen_toKey k).bind fun _ => .ok _
  case h_3 =>
    split
    · exact .ok _
    · exact .error rfl
  all_goals first | exact .ok _ | exact .error rfl

theorem unforeseen_iterate (v : Value) : Unforeseen foreseen v.iterate := by
  unfold Value.iterate
  split
  all_goals first | exact .ok _ | exact .error rfl

theorem unforeseen_toDict (v : Value) : Unforeseen foreseen v.toDict := by
  unfold Value.toDict
  split
  · exact .ok _
  · refine (unforeseen_iterate _).bind fun xs => ?_
    exact Unforeseen.foldlM (fun _ x => (unforeseen_toPair x).bind fun _ => .ok _) xs []

theorem get_of_isMapping {v : Value} (h : v.isMapping = true) (key : String) (default : Value) :
    v.get key default = .ok (v.field key default) := by
  cases v with
  | dict items => rfl
  | _ => simp [Value.isMapping] at h

theorem reads_get (v : Value) (key : String) (default : Value) :
    Reads foreseen (v.get key default) (crashUnless v.isMapping) (v.field key default) := by
  cases v with
  | dict items => exact ⟨rfl, fun _ => rfl⟩
  | _ => exact ⟨rfl, by simp [Value.isMapping]⟩

theorem isMapping_of_get {v value : Value} {key : String} {default : Value}
    (h : v.get key default = .ok value) : v.isMapping = true :=
  Verdict.crashUnless_eq_passes.1 ((reads_get v key default).passes_of_ok h)

theorem reads_items (v : Value) :
    Reads foreseen v.items (crashUnless v.isMapping) v.entries := by
  cases v with
  | dict items => exact ⟨rfl, fun _ => rfl⟩
  | _ => exact ⟨rfl, by simp [Value.isMapping]⟩

theorem unforeseen_contains (v : Value) (key : String) :
    Unforeseen foreseen (v.contains key) := by
  cases v with
  | dict items => exact .ok _
  | set elements => exact .ok _
  | list xs => exact .ok _
  | pair v v' => exact .ok _
  | str s => exact .ok _
  | _ => exact .error rfl

/-- A key that is there can be asked for if it is one of a mapping. -/
theorem reads_getItem {v : Value} {key : String} (h : v.contains key = .ok true) :
    Reads foreseen (v.getItem key) (crashUnless v.isMapping) (v.field key .none) := by
  cases v with
  | dict items =>
      obtain ⟨value, hlookup⟩ := Option.isSome_iff_exists.1 (Except.ok.inj h)
      simp only [Value.getItem, Value.field, hlookup]
      exact ⟨rfl, fun _ => rfl⟩
  | _ => exact ⟨rfl, by simp [Value.isMapping]⟩

theorem reads_toInt (v : Value) : Reads foreseen v.toInt (crashUnless v.isInt) v.asInt :=
  (unforeseen_toInt v).reads 0

theorem reads_toFloat (v : Value) :
    Reads foreseen (v.toFloat fl) (crashUnless (v.isFloat fl)) (v.asFloat fl) :=
  (unforeseen_toFloat v).reads .nan

theorem reads_toStr (v : Value) :
    Reads foreseen (v.toStr fl) (crashUnless (v.hasText fl)) (v.asText fl) :=
  (unforeseen_toStr v).reads ""

/-! ## The helpers -/

theorem reads_require (v : Value) (key path : String) :
    Reads foreseen (require v key path) (requireVerdict v key) (v.field key .none) := by
  unfold require requireVerdict
  cases hcontains : v.contains key with
  | error e => exact ⟨if_neg (by simp [unforeseen_contains v key e hcontains]), by simp⟩
  | ok found =>
      cases found with
      | false => exact ⟨rfl, by simp⟩
      | true =>
          refine (reads_getItem hcontains).bind fun _ => ?_
          generalize v.field key .none = value
          cases value with
          | none => exact ⟨rfl, by simp [Value.isGiven]⟩
          | str s =>
              by_cases hs : s = ""
              · subst hs
                exact ⟨rfl, by simp [Value.isGiven]⟩
              · refine ⟨?_, fun _ => ?_⟩
                · simp [Value.isGiven, hs, Verdict.of, pure, Except.pure, reportUnless]
                · simp [hs, pure, Except.pure]
          | _ => exact Reads.pure _

theorem fitsFloat_of_toFloat {value : Value} {num : Double} (h : value.toFloat fl = .ok num) :
    value.fitsFloat fl = true := by
  cases value with
  | int n => simp [Value.fitsFloat, orRaise_eq_ok.1 h]
  | _ => rfl

/-- The only number that `float` makes nothing of without a `TypeError` or a `ValueError` is an
integer that is too large. -/
theorem fitsFloat_of_error {value : Value} {e : PyExc} (h : value.toFloat fl = .error e) :
    value.fitsFloat fl = decide (e = .typeError ∨ e = .valueError) := by
  cases value with
  | int n =>
      obtain ⟨hn, rfl⟩ := orRaise_eq_error.1 h
      simp [Value.fitsFloat, hn]
  | str s =>
      obtain ⟨-, rfl⟩ := orRaise_eq_error.1 h
      rfl
  | bytes b =>
      obtain ⟨-, rfl⟩ := orRaise_eq_error.1 h
      rfl
  | bool b => simp [Value.toFloat] at h
  | float x => simp [Value.toFloat] at h
  | negZero => simp [Value.toFloat] at h
  | _ =>
      obtain rfl := Except.error.inj h
      rfl

theorem reads_positive (value : Value) (path : String) (allowZero : Bool) :
    Reads foreseen (positive fl value path allowZero) (positiveVerdict fl value allowZero)
      (value.asFloat fl) := by
  unfold positiveVerdict Value.isFloat Value.asFloat
  cases h : value.toFloat fl with
  | ok num =>
      rw [positive_of_float h, fitsFloat_of_toFloat h]
      simp only [Except.toOption, Option.isSome_some, Option.getD_some, Bool.true_and,
        Bool.true_or]
      cases passesPositive num allowZero with
      | true => exact ⟨rfl, fun _ => rfl⟩
      | false => exact ⟨rfl, by simp⟩
  | error e =>
      have hunforeseen := unforeseen_toFloat value e h
      simp only [positive, h, raise, fitsFloat_of_error h]
      by_cases he : e = .typeError ∨ e = .valueError
      · -- the text of the error contains that of the value
        rw [if_pos he, decide_eq_true he]
        have hprinted : Unforeseen foreseen (value.repr fl) := unforeseen_repr value
        have hrepr := hprinted.reads ""
        simp only [Except.toOption, Option.isSome_none, Bool.false_or, Bool.false_and,
          Bool.true_and]
        exact hrepr.bind fun _ => ⟨rfl, by simp⟩
      · rw [if_neg he, decide_eq_false he]
        exact ⟨if_neg (by simp [hunforeseen]), by simp [Except.toOption]⟩

/-! ## The sections -/

theorem reads_document (environ : String → Option String) (doc : Value) :
    Reads foreseen (document environ doc) (crashUnless (doc.orElse (.dict [])).ends)
      (rawOf environ doc) := by
  unfold rawOf document expandAll
  split
  case isTrue h => exact ⟨by rw [h]; rfl, fun _ => rfl⟩
  case isFalse h => exact ⟨by rw [Bool.eq_false_iff.2 h]; rfl, by simp [h]⟩

theorem reads_generatorSection (path : String) (raw : Value) :
    Reads foreseen (generatorSection path raw)
      ((crashUnless raw.isMapping).andThen (reportUnless (genOf raw).isMapping)) (genOf raw) := by
  refine (reads_get raw "generator" .none).bind fun _ => ?_
  show Reads foreseen _ _ (genOf raw)
  unfold genOf
  cases raw.field "generator" .none with
  | dict items => exact ⟨rfl, fun _ => rfl⟩
  | _ => exact ⟨rfl, by simp [Value.isMapping]⟩

theorem unforeseen_joinSorted (v : Value) : Unforeseen foreseen (joinSorted v) :=
  (unforeseen_orRaise rfl _).map _

/-- An unknown profile is reported, unless the text of the error cannot be put together. -/
theorem reads_unknownProfile (profiles : Value) (message : String → String) (a : Value) :
    Reads foreseen (joinSorted profiles >>= fun known => raise (.configError (message known)))
      (if (joinSorted profiles).toOption.isSome then .reports else .crashes) a := by
  have hjoin := (unforeseen_joinSorted profiles).reads ""
  refine ⟨?_, ?_⟩
  · rw [Verdict.of_bind hjoin (w := .reports) fun _ => rfl, crashUnless]
    split <;> rfl
  · split <;> simp

theorem isMapping_of_generatorSection {path : String} {raw gen : Value}
    (h : generatorSection path raw = .ok gen) :
    raw.isMapping = true ∧ (genOf raw).isMapping = true := by
  have hpasses := (reads_generatorSection path raw).passes_of_ok h
  simpa using hpasses

theorem reads_profileSection {raw : Value} (hraw : raw.isMapping = true) (profile : String) :
    Reads foreseen (profileSection raw profile) (profileVerdict (raw.part "profiles") profile)
      (profOf raw profile) := by
  have hpart : (raw.field "profiles" .none).orElse (.dict []) = raw.part "profiles" := rfl
  unfold profileSection profOf
  rw [get_of_isMapping hraw, ok_bind, hpart]
  generalize raw.part "profiles" = profiles
  dsimp only
  unfold profileVerdict
  cases hcontains : profiles.contains profile with
  | error e => exact ⟨if_neg (by simp [unforeseen_contains profiles profile e hcontains]), by simp⟩
  | ok found =>
      cases found with
      | false => exact reads_unknownProfile profiles _ _
      | true =>
          exact (reads_getItem hcontains).bind_pure _

theorem reads_mergeObjects (base upper : Value) :
    Reads foreseen (mergeObjects base upper)
      (Verdict.all [crashUnless base.toDict.toOption.isSome, crashUnless upper.isMapping])
      (merge (base.toDict.toOption.getD []) upper.entries) := by
  simp only [Verdict.all_cons, Verdict.all_nil, Verdict.andThen_passes]
  refine ((unforeseen_toDict base).reads []).bind fun _ => ?_
  exact (reads_items upper).bind_pure _

theorem reads_mergedWorkload {raw : Value} (hgen : (genOf raw).isMapping = true)
    (profile : String) (overrides : Items) :
    Reads foreseen (mergedWorkload (genOf raw) (profOf raw profile) overrides)
      (Verdict.all
        [crashUnless (profOf raw profile).isMapping,
         crashUnless ((genOf raw).part "workload").toDict.toOption.isSome,
         crashUnless ((profOf raw profile).part "workload").isMapping])
      (mergedOf raw profile overrides) := by
  unfold mergedWorkload
  rw [get_of_isMapping hgen, ok_bind, Verdict.all_cons]
  refine (reads_get _ _ _).bind fun _ => ?_
  exact (reads_mergeObjects _ _).bind_pure _

/-! ## Target and authentication -/

theorem isMapping_of_require {v value : Value} {key path : String}
    (h : require v key path = .ok value) : v.isMapping = true := by
  have hv := (reads_require v key path).passes_of_ok h
  unfold requireVerdict at hv
  split at hv
  · simp at hv
  · exact Verdict.crashUnless_eq_passes.1 (Verdict.andThen_eq_passes.1 hv).1
  · simp at hv

theorem of_loadTarget {gen : Value} (hgen : gen.isMapping = true) :
    Verdict.of foreseen (loadTarget fl gen) = Verdict.all (targetReadings fl gen) := by
  unfold loadTarget targetReadings
  rw [get_of_isMapping hgen, ok_bind]
  refine Verdict.of_bind (reads_require _ "host" _) fun _ => ?_
  refine Verdict.of_bind (reads_toStr _) fun _ => ?_
  refine Verdict.of_bind (reads_require _ "port" _) fun hport => ?_
  refine Verdict.of_bind (reads_toInt _) fun _ => ?_
  -- the optional keys are read of a section that has proved to be a mapping
  have htgt := isMapping_of_require hport
  rw [get_of_isMapping htgt, ok_bind, get_of_isMapping htgt, ok_bind]
  refine Verdict.of_bind (reads_positive _ _ _) fun _ => ?_
  exact Verdict.of_check rfl (by simp; rfl) fun _ => rfl

theorem of_loadAuth {gen : Value} (hgen : gen.isMapping = true) :
    Verdict.of foreseen (loadAuth fl gen) = Verdict.all (authReadings fl gen) := by
  unfold loadAuth authReadings
  rw [get_of_isMapping hgen, ok_bind]
  refine Verdict.of_bind (reads_require _ "secret_b64" _) fun _ => ?_
  refine Verdict.of_bind (reads_toStr _) fun _ => ?_
  refine Verdict.of_check rfl (by simp; rfl) fun _ => ?_
  refine Verdict.of_bind (reads_require _ "ingestion_queue" _) fun hqueue => ?_
  have hau := isMapping_of_require hqueue
  refine Verdict.of_bind (reads_toStr _) fun _ => ?_
  rw [get_of_isMapping hau, ok_bind]
  refine Verdict.of_bind (reads_toStr _) fun _ => ?_
  rw [get_of_isMapping hau, ok_bind]
  exact Verdict.of_bind (reads_toInt _) fun _ => rfl

/-! ## The workload -/

theorem reads_workloadNumber (merged : Items) (key : String) (default : Int) (allowZero : Bool) :
    Reads foreseen (workloadNumber fl merged key default allowZero)
      (numberReading fl merged key default allowZero)
      ((workloadValue merged key default).asFloat fl) :=
  reads_positive _ _ _

theorem reads_floatToInt (x : Double) :
    Reads foreseen (Value.floatToInt x) (crashUnless (isFinite x))
      ((PyNumber.truncate x).getD 0) := by
  cases x with
  | fin q => exact ⟨rfl, fun _ => rfl⟩
  | _ => exact ⟨rfl, by simp [isFinite]⟩

theorem reads_workloadInt (merged : Items) (key : String) (default : Int) :
    Reads foreseen (workloadInt fl merged key default) (intReading fl merged key default)
      (intValue fl merged key default) :=
  (reads_workloadNumber _ _ _ _).bind fun _ => reads_floatToInt _

theorem reads_loadRetryMode (merged : Items) :
    Reads foreseen (loadRetryMode fl merged)
      ((crashUnless ((rawRetryMode merged).hasText fl)).andThen
        (reportUnless (decide (retryMode fl merged = "none" ∨ retryMode fl merged = "polite"))))
      (retryMode fl merged) := by
  refine (reads_toStr (rawRetryMode merged)).bind fun _ => ?_
  show Reads foreseen (if retryMode fl merged = "none" ∨ retryMode fl merged = "polite" then _
    else _) _ _
  by_cases hmode : retryMode fl merged = "none" ∨ retryMode fl merged = "polite"
  · rw [if_pos hmode, decide_eq_true hmode]
    exact Reads.pure _
  · rw [if_neg hmode, decide_eq_false hmode]
    exact ⟨rfl, by simp⟩

theorem of_loadWorkload (merged : Items) :
    Verdict.of foreseen (loadWorkload fl merged) = Verdict.all (workloadReadings fl merged) := by
  unfold loadWorkload workloadReadings
  rw [Verdict.all_cons, Verdict.all_cons, ← Verdict.andThen_assoc]
  refine Verdict.of_bind (reads_loadRetryMode _) fun _ => ?_
  refine Verdict.of_bind (reads_workloadNumber _ "target_rps" _ _) fun _ => ?_
  refine Verdict.of_bind (reads_workloadNumber _ "duration_seconds" _ _) fun _ => ?_
  refine Verdict.of_bind (reads_workloadNumber _ "ramp_up_seconds" _ _) fun _ => ?_
  refine Verdict.of_bind (reads_workloadNumber _ "ramp_down_seconds" _ _) fun _ => ?_
  refine Verdict.of_bind (reads_workloadInt _ "workers" _) fun _ => ?_
  refine Verdict.of_bind (reads_workloadInt _ "channels" _) fun _ => ?_
  refine Verdict.of_bind (reads_workloadInt _ "batch_size" _) fun _ => ?_
  refine Verdict.of_bind (reads_workloadInt _ "max_inflight" _) fun _ => ?_
  refine Verdict.of_bind (reads_toInt _) fun _ => ?_
  exact Verdict.of_check rfl (by simp) fun _ => rfl

/-! ## The plan -/

theorem of_buildStep (i : Nat) (s : Value) :
    Verdict.of foreseen (buildStep fl i s) = Verdict.all (stepReadings fl s) := by
  unfold buildStep stepReadings
  refine Verdict.of_bind_of (reads_get _ _ _).of_eq fun rps hrps => ?_
  cases s with
  | dict items =>
      obtain rfl := Except.ok.inj hrps
      refine Verdict.of_bind (reads_positive _ _ _) fun _ => ?_
      rw [get_of_isMapping rfl, ok_bind]
      exact Verdict.of_bind (reads_positive _ _ _) fun _ => rfl
  | _ => simp [Value.get, raise] at hrps

theorem of_buildStepsFrom (xs : List Value) :
    ∀ i, Verdict.of foreseen (buildStepsFrom fl i xs)
      = Verdict.all (xs.flatMap (stepReadings fl)) := by
  induction xs with
  | nil => exact fun _ => rfl
  | cons s xs ih =>
      intro i
      rw [List.flatMap_cons, Verdict.all_append]
      refine Verdict.of_bind_of (of_buildStep i s) fun step _ => ?_
      rw [← Verdict.andThen_passes (Verdict.all (xs.flatMap _))]
      exact Verdict.of_bind_of (ih (i + 1)) fun _ _ => rfl

/-- Entries that are no mappings cannot be read. -/
theorem of_buildStepsFrom_of_not_isMapping {s : Value} (hs : s.isMapping = false)
    (xs : List Value) (i : Nat) :
    Verdict.of foreseen (buildStepsFrom fl i (s :: xs)) = .crashes := by
  rw [of_buildStepsFrom, List.flatMap_cons, stepReadings, hs]
  rfl

theorem isMapping_ofKey (k : Key) : (Value.ofKey k).isMapping = false := by
  cases hk : Value.ofKey k with
  | dict items => exact absurd hk (ofKey_ne_dict k items)
  | _ => rfl

theorem of_buildSteps (rawSteps : Value) (wl : Workload) :
    Verdict.of foreseen (buildSteps fl rawSteps wl) = Verdict.all (planReadings fl rawSteps) := by
  unfold buildSteps planReadings
  cases htruthy : rawSteps.truthy with
  | false => rfl
  | true =>
      simp only [Bool.not_true, Bool.false_eq_true, if_false, if_true]
      cases rawSteps with
      | list xs => exact of_buildStepsFrom xs 0
      | pair v v' => exact of_buildStepsFrom [v, v'] 0
      -- keys and characters take the place of the entries
      | dict items =>
          cases items with
          | nil => simp [Value.truthy] at htruthy
          | cons entry items => exact of_buildStepsFrom_of_not_isMapping (isMapping_ofKey _) _ 0
      | set elements =>
          cases elements with
          | nil => simp [Value.truthy] at htruthy
          | cons k elements => exact of_buildStepsFrom_of_not_isMapping (isMapping_ofKey _) _ 0
      | bytes b =>
          cases b with
          | nil => simp [Value.truthy] at htruthy
          | cons x b =>
              show Verdict.of foreseen (buildStepsFrom fl 0 (.ofByte x :: b.map .ofByte)) = _
              exact of_buildStepsFrom_of_not_isMapping rfl _ 0
      | str s =>
          cases hs : s.toList with
          | nil => simp [Value.truthy, String.toList_eq_nil_iff.1 hs] at htruthy
          | cons c cs =>
              show Verdict.of foreseen
                (buildStepsFrom fl 0 (s.toList.map fun c => .str (String.singleton c))) = _
              rw [hs]
              exact of_buildStepsFrom_of_not_isMapping rfl _ 0
      | _ => rfl

/-! ## The reachability check -/

theorem reads_orRaise {α : Type} {e : PyExc} (he : foreseen e = false) (o : Option α) (a : α) :
    Reads foreseen (orRaise e o) (crashUnless o.isSome) (o.getD a) := by
  cases o with
  | none => exact ⟨if_neg (by simp [he]), by simp⟩
  | some a' => exact ⟨rfl, fun _ => rfl⟩

theorem reads_intOperand (n : Int) :
    Reads foreseen (intOperand fl n) (crashUnless (fl.ofInt n).isSome) (operand fl n) :=
  reads_orRaise rfl _ _

theorem reads_divide (x y : Double) :
    Reads foreseen (divide fl x y) (crashUnless (y ≠ .fin 0)) (quotient fl x y) := by
  have hdiv : (fl.div x y).isSome = decide (y ≠ .fin 0) := by
    by_cases hy : y = .fin 0
    · simp [hy, fl.div_zero]
    · simp [FloatFormat.div, hy]
  rw [← hdiv]
  exact reads_orRaise rfl _ _

theorem reads_ceil (x : Double) : ∃ n, Reads foreseen (ceil x) (crashUnless (isFinite x)) n := by
  cases x with
  | fin q => exact ⟨q.ceil, rfl, fun _ => rfl⟩
  | _ => exact ⟨0, rfl, by simp [isFinite]⟩

theorem reads_flushSeconds (p : Pipeline) {rps : Double} (hrps : rps.le (.fin 0) = false) :
    Reads foreseen (p.flushSeconds fl rps) (crashUnless (flushComputes fl p rps))
      (flushTime fl p rps) := by
  have hdelay : Reads foreseen (divide fl p.maxDelayMs (.fin 1000)) .passes
      (quotient fl p.maxDelayMs (.fin 1000)) := by
    have hreads := @reads_divide fl p.maxDelayMs (.fin 1000)
    have hne : Double.fin 1000 ≠ .fin 0 := by simp
    rwa [decide_eq_true hne] at hreads
  unfold Pipeline.flushSeconds flushComputes
  simp only [hrps, Verdict.crashUnless_and]
  refine hdelay.bind fun _ => ?_
  refine (reads_intOperand _).bind fun _ => ?_
  refine (reads_intOperand _).bind fun _ => ?_
  exact (reads_divide _ _).bind_pure _

theorem reads_maxReachableRps (p : Pipeline) (workers batchSize : Int) {rps : Double}
    (hrps : rps.le (.fin 0) = false) :
    Reads foreseen (p.maxReachableRps fl workers batchSize rps)
      (crashUnless (ceilingComputes fl p workers batchSize rps))
      (ceilingOf fl p workers batchSize rps) := by
  unfold Pipeline.maxReachableRps ceilingComputes
  simp only [Verdict.crashUnless_and]
  refine (reads_flushSeconds p hrps).bind fun _ => ?_
  refine (reads_intOperand _).bind fun _ => ?_
  exact reads_divide _ _

theorem flushSeconds_of_maxReachableRps {p : Pipeline} {workers batchSize : Int}
    {rps ceiling : Double} (hrps : rps.le (.fin 0) = false)
    (h : p.maxReachableRps fl workers batchSize rps = .ok ceiling) :
    p.flushSeconds fl rps = .ok (flushTime fl p rps) := by
  obtain ⟨flush, hflush, -⟩ := bind_eq_ok.1 h
  rw [← (reads_flushSeconds p hrps).eq_of_ok hflush]
  exact hflush

theorem of_stepWarning (p : Pipeline) (wl : Workload) {step : Step}
    (hrps : step.rps.le (.fin 0) = false) :
    Verdict.of foreseen (stepWarning fl p wl step)
      = crashUnless (rateComputes fl p wl.workers wl.batchSize step.rps) := by
  unfold stepWarning rateComputes
  rw [Verdict.crashUnless_and]
  refine Verdict.of_bind (reads_maxReachableRps p _ _ hrps) fun hceiling => ?_
  show Verdict.of foreseen (if exceeds fl p wl.workers wl.batchSize step.rps then _ else _) = _
  cases exceeds fl p wl.workers wl.batchSize step.rps with
  | false => rfl
  | true =>
      simp only [if_true, Bool.not_true, Bool.false_or]
      -- the flush time is computed a second time
      rw [flushSeconds_of_maxReachableRps hrps hceiling, ok_bind]
      unfold needComputes
      simp only [Verdict.crashUnless_and]
      refine Verdict.of_bind (reads_intOperand _) fun _ => ?_
      refine Verdict.of_bind (reads_divide _ _) fun _ => ?_
      obtain ⟨need, hneed⟩ := reads_ceil
        (quotient fl (fl.mul step.rps (flushTime fl p step.rps)) (operand fl wl.batchSize))
      exact (Verdict.of_bind hneed fun _ => rfl).trans (Verdict.andThen_passes _)

theorem of_loadWarnings (p : Pipeline) {wl : Workload} (hle : wl.workers ≤ wl.maxInflight)
    (steps : List Step) (hrps : ∀ step ∈ steps, step.rps.le (.fin 0) = false) :
    Verdict.of foreseen (loadWarnings fl p wl steps)
      = crashUnless (steps.all fun step => rateComputes fl p wl.workers wl.batchSize step.rps) := by
  induction steps with
  | nil => rfl
  | cons step rest ih =>
      obtain ⟨hstep, hrest⟩ := List.forall_mem_cons.1 hrps
      rw [loadWarnings, List.all_cons, Verdict.crashUnless_and]
      refine Verdict.of_bind_of (of_stepWarning p wl hstep) fun warning _ => ?_
      rw [if_neg (not_lt.2 hle), ← Verdict.andThen_passes (crashUnless (rest.all _))]
      exact Verdict.of_bind_of (ih hrest) fun _ _ => rfl

theorem reads_loadPipeline {gen : Value} (hgen : gen.isMapping = true) :
    Reads foreseen (loadPipeline fl gen) (crashUnless (pipelineConverts fl gen))
      (pipelineOf fl gen) := by
  unfold loadPipeline pipelineConverts
  simp only [Verdict.crashUnless_and]
  rw [get_of_isMapping hgen, ok_bind, get_of_isMapping hgen, ok_bind]
  refine (reads_get _ "max_delay_ms" _).bind fun hpl => ?_
  have hmapping := isMapping_of_get hpl
  refine (reads_toFloat _).bind fun _ => ?_
  rw [get_of_isMapping hmapping, ok_bind]
  refine (reads_toInt _).bind fun _ => ?_
  refine (reads_get _ "body_bytes" _).bind fun _ => ?_
  refine ((unforeseen_addInt _ _).reads .none).bind fun _ => ?_
  rw [get_of_isMapping hmapping, ok_bind]
  exact (reads_toInt _).bind_pure _

/-! ## The whole of `load` -/

theorem le_zero_of_stepFrom {raw : Value × Value} {step : Step} (h : StepFrom fl raw step) :
    step.rps.le (.fin 0) = false := by
  rcases h.rps_pos with hnan | hpos
  · rw [hnan]
    rfl
  · cases hrps : step.rps with
    | nan => rfl
    | inf negative =>
        rw [hrps] at hpos
        obtain rfl : negative = false := hpos
        rfl
    | fin q =>
        rw [hrps] at hpos
        rw [Double.fin_le_fin]
        exact decide_eq_false (not_le.2 hpos)

/-- The rates of the plan are those of the document. -/
theorem all_rates {plan : List (Value × Value)} {steps : List Step}
    (h : List.Forall₂ (StepFrom fl) plan steps) (f : Double → Bool) :
    (steps.all fun step => f step.rps) = plan.all fun raw => f (raw.1.asFloat fl) := by
  induction h with
  | nil => rfl
  | cons hstep _ ih =>
      rw [List.all_cons, List.all_cons, ih, (reads_toFloat _).eq_of_ok hstep.rps]

/-- What comes after the last check. -/
theorem of_rest {α : Type} {gen prof : Value} {merged : Items} {wl : Workload} {steps : List Step}
    (hgen : gen.isMapping = true) (hwl : loadWorkload fl merged = .ok wl)
    (hsteps : buildSteps fl (prof.field "steps" .none) wl = .ok steps)
    (rest : Pipeline → List String → Py α) (hrest : ∀ pipeline warnings,
      Verdict.of foreseen (rest pipeline warnings) = crashUnless
        ((prof.field "description" (.str "")).hasText fl &&
          ((prof.field "checkpoint_interval_seconds" (.int 0)).orElse (.int 0)).isFloat fl)) :
    Verdict.of foreseen (do
        let pipeline ← loadPipeline fl gen
        let warnings ← loadWarnings fl pipeline wl steps
        rest pipeline warnings)
      = crashUnless (restComputes fl gen prof merged) := by
  have hfrom := loadWorkload_from hwl
  obtain ⟨hplan, -⟩ := buildSteps_eq_ok hfrom hsteps
  have hpositive : ∀ step ∈ steps, step.rps.le (.fin 0) = false := by
    intro step hstep
    obtain ⟨raw, -, hraw⟩ := exists_of_mem_right hplan step hstep
    exact le_zero_of_stepFrom hraw
  unfold restComputes
  simp only [Verdict.crashUnless_and]
  refine Verdict.of_bind (reads_loadPipeline hgen) fun _ => ?_
  rw [← (reads_workloadInt _ _ _).eq_of_ok hfrom.workers,
    ← (reads_workloadInt _ _ _).eq_of_ok hfrom.batchSize,
    ← all_rates hplan (rateComputes fl (pipelineOf fl gen) wl.workers wl.batchSize)]
  refine Verdict.of_bind_of (of_loadWarnings _ hfrom.workers_le steps hpositive) fun _ _ => ?_
  rw [← Verdict.crashUnless_and]
  exact hrest _ _

theorem all_readings (environ : String → Option String) (doc : Value) (profile : String)
    (overrides : Items) :
    Verdict.all (readings fl environ doc profile overrides) =
      let raw := rawOf environ doc
      let gen := genOf raw
      let prof := profOf raw profile
      let merged := mergedOf raw profile overrides
      (crashUnless (doc.orElse (.dict [])).ends).andThen
        (((crashUnless raw.isMapping).andThen (reportUnless gen.isMapping)).andThen
          ((profileVerdict (raw.part "profiles") profile).andThen
            ((Verdict.all
              [crashUnless prof.isMapping,
               crashUnless (gen.part "workload").toDict.toOption.isSome,
               crashUnless (prof.part "workload").isMapping]).andThen
              ((Verdict.all (targetReadings fl gen)).andThen
                ((Verdict.all (authReadings fl gen)).andThen
                  ((Verdict.all (workloadReadings fl merged)).andThen
                    ((Verdict.all (planReadings fl (prof.field "steps" .none))).andThen
                      (crashUnless (restComputes fl gen prof merged))))))))) := by
  simp only [readings, Verdict.all_append, Verdict.all_cons, Verdict.all_nil,
    Verdict.andThen_passes, Verdict.andThen_assoc]

/-- **The verdict on `load` is that of its readings.** -/
theorem of_load (environ : String → Option String) (path : String) (doc : Value)
    (profile : String) (overrides : Items) :
    Verdict.of foreseen (load fl environ path doc profile overrides)
      = Verdict.all (readings fl environ doc profile overrides) := by
  rw [all_readings]
  unfold load
  refine Verdict.of_bind (reads_document _ _) fun _ => ?_
  refine Verdict.of_bind (reads_generatorSection _ _) fun hgen => ?_
  obtain ⟨hraw, hgen⟩ := isMapping_of_generatorSection hgen
  refine Verdict.of_bind (reads_profileSection hraw _) fun _ => ?_
  have hsections := reads_mergedWorkload hgen profile overrides
  refine Verdict.of_bind hsections fun hmerged => ?_
  have hprof : (profOf (rawOf environ doc) profile).isMapping = true := by
    have hpasses := hsections.passes_of_ok hmerged
    rw [Verdict.all_cons, Verdict.andThen_eq_passes] at hpasses
    exact Verdict.crashUnless_eq_passes.1 hpasses.1
  refine Verdict.of_bind_of (of_loadTarget hgen) fun target _ => ?_
  refine Verdict.of_bind_of (of_loadAuth hgen) fun auth _ => ?_
  refine Verdict.of_bind_of (of_loadWorkload _) fun wl hwl => ?_
  rw [get_of_isMapping hprof, ok_bind]
  refine Verdict.of_bind_of (of_buildSteps _ _) fun steps hsteps => ?_
  refine of_rest hgen hwl hsteps _ fun pipeline warnings => ?_
  simp only [get_of_isMapping hprof, get_of_isMapping hgen, ok_bind]
  rw [Verdict.crashUnless_and]
  refine Verdict.of_bind (reads_toStr _) fun _ => ?_
  rw [← Verdict.andThen_passes (crashUnless _)]
  exact Verdict.of_bind (reads_toFloat _) fun _ => rfl

/-! ## Errors that are reported -/

/-- `load` returns a configuration or raises a `ConfigError`, and where it returns none the exit
code of `main` is 2. -/
structure ReportsErrors (fl : FloatFormat) (environ : String → Option String) (path : String)
    (doc : Value) (profile : String) (overrides : Items) : Prop where
  load_eq : (∃ cfg, load fl environ path doc profile overrides = .ok cfg) ∨
    ∃ message, load fl environ path doc profile overrides = .error (.configError message)
  startup_eq : (∀ cfg, load fl environ path doc profile overrides ≠ .ok cfg) →
    startup fl environ path doc profile overrides = .ok (.exits 2)

theorem reportsErrors_iff_of {environ : String → Option String} {path : String} {doc : Value}
    {profile : String} {overrides : Items} :
    ReportsErrors fl environ path doc profile overrides ↔
      Verdict.of foreseen (load fl environ path doc profile overrides) ≠ .crashes := by
  unfold Verdict.of
  cases hload : load fl environ path doc profile overrides with
  | ok cfg => exact iff_of_true ⟨.inl ⟨cfg, hload⟩, fun h => absurd hload (h cfg)⟩ (by simp)
  | error e =>
      cases e with
      | configError message =>
          refine iff_of_true ⟨.inr ⟨message, hload⟩, fun _ => ?_⟩ (by simp [foreseen])
          simp [startup, hload]
      | _ =>
          refine iff_of_false (fun h => ?_) (by simp [foreseen])
          simpa [hload] using h.load_eq

/-- **Which errors are reported**: those of a document in which each value that Python raises
something else on comes after one that a check of `load` reports. -/
theorem reportsErrors_iff (environ : String → Option String) (path : String) (doc : Value)
    (profile : String) (overrides : Items) :
    ReportsErrors fl environ path doc profile overrides ↔
      ∀ before after, readings fl environ doc profile overrides = before ++ .crashes :: after →
        .reports ∈ before := by
  rw [reportsErrors_iff_of, of_load, Verdict.all_ne_crashes_iff]

/-- The shortest document, with a port, a workload and a profile. -/
def portDocument (port : Value) (workload : Items) : Value :=
  .dict
    [entry "generator" (.dict
      [entry "target" (.dict [entry "host" (.str "10.0.0.1"), entry "port" port]),
       entry "auth"
         (.dict [entry "secret_b64" (.str "AAAA"), entry "ingestion_queue" (.str "logs")]),
       entry "workload" (.dict workload)]),
     entry "profiles" (.dict [entry "smoke" (.dict [])])]

/-- A port that is not expanded gets a `ValueError`, and so does a NaN for the workers. A batch size
below one gets a `ZeroDivisionError`. -/
theorem not_reportsErrors :
    ¬ ReportsErrors .binary64 (fun _ => none) "generator.yaml"
        (portDocument (.str (String.ofList ['$', '\x7b'] ++ "COLLECTOR_GRPC_PORT" ++
          String.ofList ['\x7d'])) [entry "target_rps" (.int 1000)]) "smoke" [] ∧
      ¬ ReportsErrors .binary64 (fun _ => none) "generator.yaml"
        (portDocument (.int 4317) [entry "target_rps" (.int 1000), entry "workers" (.float .nan)])
        "smoke" [] ∧
      ¬ ReportsErrors .binary64 (fun _ => none) "generator.yaml"
        (portDocument (.int 4317)
          [entry "target_rps" (.int 1000), entry "batch_size" (.float (.fin (1 / 2)))])
        "smoke" [] := by
  simp only [reportsErrors_iff_of, not_not]
  refine ⟨?_, ?_, ?_⟩ <;> decide +kernel

end AnalyticsTesting.Config
