import AnalyticsTesting.Lib.PyDecimal
import AnalyticsTesting.Monitoring.Proofs.Scrapes

set_option autoImplicit false

/-! # Reading the durations of Java

`JavaDuration.text`: what `java.time.Duration` prints. `parse_iso_duration` collects the characters
of a number up to its unit (`durationLoop_component`), one component after the other, and what it
returns is the length of the duration (`parseIsoDuration_text`). So the gauges that are set from it
show the uptime a service reports (`durations_decode`). -/

namespace AnalyticsTesting.Monitoring

open Config (Key Value Py)
open PyNumber (floatOfStr)

/-! ## What Java prints -/

/-- A non-negative `java.time.Duration`. -/
structure JavaDuration where
  seconds : Nat
  nanos : Nat
  nanos_lt : nanos < 10 ^ 9

namespace JavaDuration

/-- The length in seconds. -/
def length (d : JavaDuration) : ℚ := d.seconds + d.nanos / 10 ^ 9

def hours (d : JavaDuration) : Nat := d.seconds / 3600

def minutes (d : JavaDuration) : Nat := d.seconds % 3600 / 60

/-- The whole seconds that are left beside the hours and minutes. -/
def secs (d : JavaDuration) : Nat := d.seconds % 60

/-- A number with its unit, left out when it is zero. -/
def component (n : Nat) (unit : Char) : List Char :=
  if n = 0 then [] else Nat.toDigits 10 n ++ [unit]

/-- Nine digits. -/
def nineDigits (n : Nat) : List Char :=
  List.replicate (9 - (Nat.toDigits 10 n).length) '0' ++ Nat.toDigits 10 n

/-- The digits after the point. -/
def fraction (d : JavaDuration) : List Char := PyNumber.dropTrailingZeros (nineDigits d.nanos)

/-- The seconds: left out when they are zero and something else is printed. -/
def secondsText (d : JavaDuration) : List Char :=
  if d.secs = 0 ∧ d.nanos = 0 ∧ (d.hours ≠ 0 ∨ d.minutes ≠ 0) then []
  else Nat.toDigits 10 d.secs ++ (if d.nanos = 0 then [] else '.' :: d.fraction) ++ ['S']

/-- `Duration.toString()`. -/
def text (d : JavaDuration) : String :=
  String.ofList ('P' :: 'T' :: (component d.hours 'H' ++ component d.minutes 'M' ++ d.secondsText))

example : text ⟨0, 0, by decide⟩ = "PT0S" ∧ text ⟨7200, 0, by decide⟩ = "PT2H" ∧
    text ⟨3661, 50000000, by decide⟩ = "PT1H1M1.05S" := by
  decide +kernel

/-! ## Its digits -/

theorem isDigit_of_mem_nineDigits (n : Nat) : ∀ c ∈ nineDigits n, c.isDigit = true := by
  intro c hc
  rcases List.mem_append.1 hc with hzero | hdigit
  · rw [List.eq_of_mem_replicate hzero]
    rfl
  · exact Nat.isDigit_of_mem_toDigits (by decide) (by decide) hdigit

theorem length_nineDigits {n : Nat} (h : n < 10 ^ 9) : (nineDigits n).length = 9 := by
  have hlen : (Nat.toDigits 10 n).length ≤ 9 :=
    (Nat.length_toDigits_le_iff (by decide) (by decide)).2 h
  rw [nineDigits, List.length_append, List.length_replicate]
  omega

theorem value_nineDigits (n : Nat) : Nat.ofDigitChars 10 (nineDigits n) 0 = n := by
  rw [nineDigits, Nat.ofDigitChars_append, Nat.ofDigitChars_replicate_zero, Nat.mul_zero,
    Nat.ofDigitChars_ten_toDigits]

theorem isDigit_of_mem_fraction (d : JavaDuration) : ∀ c ∈ d.fraction, c.isDigit = true := by
  intro c hc
  obtain ⟨k, hk⟩ := PyNumber.dropTrailingZeros_append (nineDigits d.nanos)
  refine isDigit_of_mem_nineDigits d.nanos c ?_
  rw [hk]
  exact List.mem_append_left _ hc

/-- The digits after the point stand for the nanoseconds. -/
theorem fraction_value (d : JavaDuration) :
    (Nat.ofDigitChars 10 d.fraction 0 : ℚ) / 10 ^ d.fraction.length = d.nanos / 10 ^ 9 := by
  rw [fraction, PyNumber.fraction_dropTrailingZeros, value_nineDigits, length_nineDigits d.nanos_lt]

/-- The components add up to the length. -/
theorem length_eq (d : JavaDuration) :
    d.length = d.hours * 3600 + d.minutes * 60 + (d.secs + d.nanos / 10 ^ 9) := by
  have hseconds : d.seconds = d.hours * 3600 + d.minutes * 60 + d.secs := by
    rw [hours, minutes, secs]
    omega
  rw [length, hseconds]
  push_cast
  ring

end JavaDuration

/-! ## The loop -/

section Loop

variable (fl : FloatFormat)

/-- What a unit letter stands for. -/
def unitSeconds (unit : Char) : ℚ := if unit = 'H' then 3600 else if unit = 'M' then 60 else 1

/-- The characters of a number are collected. -/
theorem durationLoop_collects (total : Double) (rest : List Char) {s : List Char}
    (h : ∀ c ∈ s, PyNumber.isPlain c = true) :
    ∀ num, durationLoop fl total num (s ++ rest) = durationLoop fl total (num ++ s) rest := by
  induction s with
  | nil =>
      intro num
      rw [List.nil_append, List.append_nil]
  | cons c s ih =>
      intro num
      have hc : (PyNumber.isDigit c || c == '.') = true := by
        have hplain := h c List.mem_cons_self
        rw [PyNumber.isPlain, Bool.or_eq_true] at hplain
        rw [Bool.or_eq_true]
        exact hplain.imp_left PyNumber.isDigit_of_ascii
      have hrest := ih fun d hd => h d (List.mem_cons_of_mem _ hd)
      rw [List.cons_append, durationLoop, if_pos hc, hrest, List.append_assoc]
      rfl

/-- **A number and its unit are added to the total.** -/
theorem durationLoop_component (total : Double) {s : List Char} {unit : Char} {x : Double}
    (h : ∀ c ∈ s, PyNumber.isPlain c = true) (hne : s ≠ [])
    (hunit : ['H', 'M', 'S'].contains unit = true)
    (hx : floatOfStr fl (String.ofList s) = some x) (rest : List Char) :
    durationLoop fl total [] (s ++ unit :: rest) =
      durationLoop fl (fl.add total (fl.mul x (.fin (unitSeconds unit)))) [] rest := by
  have hletter : (PyNumber.isDigit unit || unit == '.') = false := by
    have hmem := List.contains_iff_mem.1 hunit
    simp only [List.mem_cons, List.not_mem_nil, or_false] at hmem
    rcases hmem with rfl | rfl | rfl <;> rfl
  have hflush : (['H', 'M', 'S'].contains unit && !s.isEmpty) = true := by
    rw [hunit, List.isEmpty_eq_false_iff.2 hne]
    rfl
  rw [durationLoop_collects fl total _ h, List.nil_append, durationLoop, hletter, hflush, hx]
  rfl

end Loop

/-- An optional component adds what it stands for. -/
theorem durationLoop_optional (total : ℚ) (n : Nat) {unit : Char}
    (hunit : ['H', 'M', 'S'].contains unit = true) (rest : List Char) :
    durationLoop .exact (.fin total) [] (JavaDuration.component n unit ++ rest) =
      durationLoop .exact (.fin (total + n * unitSeconds unit)) [] rest := by
  by_cases hn : n = 0
  · subst hn
    rw [JavaDuration.component, if_pos rfl, List.nil_append, Nat.cast_zero, zero_mul, add_zero]
  · have hdigits : ∀ c ∈ Nat.toDigits 10 n, c.isDigit = true := fun _ hc =>
      Nat.isDigit_of_mem_toDigits (by decide) (by decide) hc
    have hplain := PyNumber.plain_of_digits hdigits
    have hx := PyNumber.floatOfStr_whole .exact hdigits Nat.toDigits_ne_nil
    rw [Nat.ofDigitChars_ten_toDigits] at hx
    rw [JavaDuration.component, if_neg hn, List.append_assoc, List.singleton_append,
      durationLoop_component .exact _ hplain Nat.toDigits_ne_nil hunit hx]
    rfl

namespace JavaDuration

/-- The seconds as they are read: a whole number, or one with a fraction. -/
theorem floatOfStr_seconds (fl : FloatFormat) (d : JavaDuration) :
    floatOfStr fl (String.ofList
      (Nat.toDigits 10 d.secs ++ if d.nanos = 0 then [] else '.' :: d.fraction)) =
      some (fl.round (d.secs + d.nanos / 10 ^ 9)) := by
  have hdigits : ∀ c ∈ Nat.toDigits 10 d.secs, c.isDigit = true := fun _ hc =>
    Nat.isDigit_of_mem_toDigits (by decide) (by decide) hc
  by_cases hnanos : d.nanos = 0
  · rw [if_pos hnanos, List.append_nil, PyNumber.floatOfStr_whole fl hdigits Nat.toDigits_ne_nil,
      Nat.ofDigitChars_ten_toDigits, hnanos, Nat.cast_zero, zero_div, add_zero]
  · rw [if_neg hnanos, PyNumber.floatOfStr_pointed fl hdigits Nat.toDigits_ne_nil
      d.isDigit_of_mem_fraction, Nat.ofDigitChars_ten_toDigits, d.fraction_value]

theorem plain_seconds (d : JavaDuration) :
    ∀ c ∈ Nat.toDigits 10 d.secs ++ if d.nanos = 0 then [] else '.' :: d.fraction,
      PyNumber.isPlain c = true := by
  have hdigits : ∀ c ∈ Nat.toDigits 10 d.secs, c.isDigit = true := fun _ hc =>
    Nat.isDigit_of_mem_toDigits (by decide) (by decide) hc
  split
  · rw [List.append_nil]
    exact PyNumber.plain_of_digits hdigits
  · exact PyNumber.plain_pointed hdigits d.isDigit_of_mem_fraction

theorem durationLoop_secondsText (total : ℚ) (d : JavaDuration) :
    durationLoop .exact (.fin total) [] d.secondsText =
      .ok (.fin (total + (d.secs + d.nanos / 10 ^ 9))) := by
  rw [secondsText]
  split
  case isTrue hzero =>
    rw [hzero.1, hzero.2.1]
    simp [durationLoop]
  case isFalse =>
    have hne : (Nat.toDigits 10 d.secs ++ if d.nanos = 0 then [] else '.' :: d.fraction) ≠ [] :=
      List.append_ne_nil_of_left_ne_nil Nat.toDigits_ne_nil _
    rw [durationLoop_component .exact _ d.plain_seconds hne rfl (floatOfStr_seconds .exact d)]
    have hunit : (d.secs + d.nanos / 10 ^ 9 : ℚ) * unitSeconds 'S' = d.secs + d.nanos / 10 ^ 9 :=
      mul_one _
    exact congrArg (fun q => Except.ok (Double.fin (total + q))) hunit

end JavaDuration

/-- What Java prints is read back as the length of the duration. -/
theorem parseIsoDuration_text (d : JavaDuration) :
    parseIsoDuration .exact (.str d.text) = .ok (.fin d.length) := by
  have htruthy : (Value.str d.text).truthy = true := by
    have hne : d.text ≠ "" := fun h => nomatch String.ofList_eq_empty_iff.1 h
    simpa [Value.truthy] using hne
  have hloop : parseIsoDuration .exact (.str d.text) = durationLoop .exact (.fin 0) []
      (JavaDuration.component d.hours 'H' ++ JavaDuration.component d.minutes 'M' ++
        d.secondsText) := by
    rw [parseIsoDuration, htruthy]
    simp only [JavaDuration.text, String.toList_ofList]
    rfl
  rw [hloop, List.append_assoc, durationLoop_optional 0 d.hours rfl,
    durationLoop_optional _ d.minutes rfl, JavaDuration.durationLoop_secondsText, d.length_eq]
  have hhours : unitSeconds 'H' = 3600 := rfl
  have hminutes : unitSeconds 'M' = 60 := rfl
  rw [hhours, hminutes, zero_add]

/-! ## The uptime gauges -/

/-- A body that reports this duration as its uptime. -/
def Reports (body : Value) (d : JavaDuration) : Prop :=
  body.get "uptime" (.str "") = .ok (.str d.text)

/-- Where the uptime that is read is set once, the gauge shows it. -/
theorem uptime_after {body : Value} {d : JavaDuration} (h : Reports body d) {gauge : Gauge}
    {f : Unit → Scrape Unit} (hf : (f ()).Silent (· = gauge)) (store : Gauge → Double) :
    (py (do parseIsoDuration .exact (← body.get "uptime" (.str ""))) >>= fun x =>
      gauge.set x >>= f).after store gauge = .fin d.length := by
  have hread : (do parseIsoDuration .exact (← body.get "uptime" (.str "")) : Py Double) =
      .ok (.fin d.length) := by
    rw [h]
    exact parseIsoDuration_text d
  rw [hread]
  exact Journal.after_bind_write (.ok (.fin d.length)) id (fun _ => f) (fun _ => hf) store

/-- The compactor's uptime gauge shows the uptime, also where the rest of the body raises. -/
theorem compactorUptime_after (args : Args) {body : Value} {d : JavaDuration} (h : Reports body d)
    (clock : Key → Double) (store : Gauge → Double) :
    (publishCompactor .exact args body clock).after store .compactorUptime = .fin d.length := by
  have hgauge : NotOfDatabase (· = Gauge.compactorUptime) := by
    rintro gauge rfl
    rfl
  refine uptime_after h ?_ store
  refine (silent_py _).bind fun dbs => ?_
  refine (Journal.silent_forM fun (p : Key × Value) =>
    silent_setDatabase .exact hgauge args p.1 p.2).bind fun _ => ?_
  refine (silent_py _).bind fun tiered => silent_ite ?_ (Journal.silent_pure _)
  exact silent_setTierMetrics .exact hgauge (by simp) (by simp) body clock

/-- A tier's uptime gauge shows the uptime. -/
theorem tierUptime_after (tier : Tier) {body : Value} {d : JavaDuration} (h : Reports body d)
    (clock : Key → Double) (store : Gauge → Double) :
    (setTierMetrics .exact tier body clock).after store (.tierUptime tier) = .fin d.length := by
  have hgauge : NotOfDatabase (· = Gauge.tierUptime tier) := by
    rintro gauge rfl
    rfl
  cases body with
  | dict items =>
      refine uptime_after h ?_ _
      refine (silent_py _).bind fun dbs => ?_
      exact Journal.silent_forM fun p => silent_setTierDatabase .exact hgauge tier clock p.1 p.2
  | _ => simp [Reports, Value.get, Config.raise] at h

/-- **Durations decode exactly**, and the uptime gauges show them. -/
theorem durations_decode (d : JavaDuration) :
    parseIsoDuration .exact (.str d.text) = .ok (.fin d.length) ∧
    ∀ (args : Args) (body : Value) (clock : Key → Double) (store : Gauge → Double), Reports body d →
      (publishCompactor .exact args body clock).after store .compactorUptime = .fin d.length ∧
      ∀ tier, (setTierMetrics .exact tier body clock).after store (.tierUptime tier) =
        .fin d.length :=
  ⟨parseIsoDuration_text d, fun args _ clock store h =>
    ⟨compactorUptime_after args h clock store, fun tier => tierUptime_after tier h clock store⟩⟩

end AnalyticsTesting.Monitoring
