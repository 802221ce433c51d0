import Mathlib.Algebra.Order.Field.Basic
import Mathlib.Data.List.TakeWhile
import Mathlib.Tactic.FieldSimp
import Mathlib.Tactic.Ring
import AnalyticsTesting.Lib.PyNumber

set_option autoImplicit false

/-! # Reading plain decimals

`float(text)` of digits, and of digits with a point among them, is the number they stand for,
rounded (`floatOfStr_whole`, `floatOfStr_pointed`). -/

namespace PyNumber

/-! ## Digits -/

theorem digit?_of_isDigit {c : Char} (h : c.isDigit = true) : digit? c = some (c.toNat - 48) := by
  obtain ⟨hlow, hhigh⟩ := Char.isDigit_iff_toNat.1 h
  have hzero : decimalZeros.find? (fun z => z ≤ c.toNat && c.toNat < z + 10) = some 0x30 := by
    refine List.find?_cons_of_pos ?_
    rw [Bool.and_eq_true, decide_eq_true_eq, decide_eq_true_eq]
    exact ⟨hlow, Nat.lt_succ_of_le hhigh⟩
  rw [digit?, hzero, Option.map_some]

theorem isDigit_of_ascii {c : Char} (h : c.isDigit = true) : isDigit c = true := by
  rw [isDigit, digit?_of_isDigit h]
  rfl

/-- Reading digits stops at the first character that is none. -/
theorem takeDigits_append {digits rest : List Char} (h : ∀ c ∈ digits, c.isDigit = true)
    (hrest : ∀ c, rest.head? = some c → digit? c = none) :
    takeDigits (digits ++ rest) = (digits.map fun c => c.toNat - 48, rest) := by
  induction digits with
  | nil =>
      cases rest with
      | nil => rfl
      | cons c rest => simp only [List.nil_append, takeDigits, hrest c rfl, List.map_nil]
  | cons c digits ih =>
      have hc := digit?_of_isDigit (h c List.mem_cons_self)
      have htail := ih fun d hd => h d (List.mem_cons_of_mem _ hd)
      simp only [List.cons_append, takeDigits, hc, htail, List.map_cons]

theorem takeDigits_of_digits {digits : List Char} (h : ∀ c ∈ digits, c.isDigit = true) :
    takeDigits digits = (digits.map fun c => c.toNat - 48, []) := by
  have hnil : ∀ c, ([] : List Char).head? = some c → digit? c = none := by
    rintro c ⟨⟩
  have htake := takeDigits_append h hnil
  rwa [List.append_nil] at htake

theorem ofDigits_map (digits : List Char) :
    ofDigits (digits.map fun c => c.toNat - 48) = Nat.ofDigitChars 10 digits 0 := by
  rw [ofDigits, List.foldl_map, Nat.ofDigitChars_eq_foldl]
  rfl

theorem pow10_neg (n : Nat) : pow10 (-n) = 1 / 10 ^ n := by
  cases n with
  | zero => simp [pow10]
  | succ n =>
      have hneg : ¬ (0 : Int) ≤ -(n + 1 : Nat) := by omega
      rw [pow10, if_neg hneg, neg_neg, Int.toNat_natCast]

theorem decimal?_whole {whole : List Char} (h : ∀ c ∈ whole, c.isDigit = true)
    (hne : whole ≠ []) : decimal? whole = some (Nat.ofDigitChars 10 whole 0 : ℚ) := by
  simp [decimal?, takeDigits_of_digits h, hne, exponentPart, pow10, ofDigits_map]

theorem decimal?_pointed {whole fraction : List Char} (h : ∀ c ∈ whole, c.isDigit = true)
    (hne : whole ≠ []) (hfraction : ∀ c ∈ fraction, c.isDigit = true) :
    decimal? (whole ++ '.' :: fraction) =
      some ((Nat.ofDigitChars 10 (whole ++ fraction) 0 : ℚ) / 10 ^ fraction.length) := by
  have hpoint : ∀ c, ('.' :: fraction).head? = some c → digit? c = none := by
    rintro c ⟨⟩
    decide
  have htake := takeDigits_append h hpoint
  simp [decimal?, htake, takeDigits_of_digits hfraction, hne, exponentPart, ← List.map_append,
    ofDigits_map, pow10_neg, div_eq_mul_inv]

/-! ## Zeros at the end -/

theorem dropTrailingZeros_append (digits : List Char) :
    ∃ k, digits = dropTrailingZeros digits ++ List.replicate k '0' := by
  have hsplit : digits.reverse.takeWhile (· == '0') ++ digits.reverse.dropWhile (· == '0') =
      digits.reverse := List.takeWhile_append_dropWhile
  have hzeros : digits.reverse.takeWhile (· == '0') =
      List.replicate (digits.reverse.takeWhile (· == '0')).length '0' :=
    List.eq_replicate_of_mem fun c hc => by
      have hzero := List.mem_takeWhile_imp hc
      exact eq_of_beq hzero
  have hdigits := congrArg List.reverse hsplit
  rw [List.reverse_append, List.reverse_reverse, hzeros, List.reverse_replicate] at hdigits
  exact ⟨_, hdigits.symm⟩

/-- After the point they do not count. -/
theorem fraction_dropTrailingZeros (digits : List Char) :
    (Nat.ofDigitChars 10 (dropTrailingZeros digits) 0 : ℚ) /
      10 ^ (dropTrailingZeros digits).length =
    Nat.ofDigitChars 10 digits 0 / 10 ^ digits.length := by
  obtain ⟨k, hk⟩ := dropTrailingZeros_append digits
  have hvalue : Nat.ofDigitChars 10 digits 0 =
      10 ^ k * Nat.ofDigitChars 10 (dropTrailingZeros digits) 0 := by
    conv_lhs => rw [hk]
    rw [Nat.ofDigitChars_append, Nat.ofDigitChars_replicate_zero]
  have hlength : digits.length = (dropTrailingZeros digits).length + k := by
    conv_lhs => rw [hk]
    rw [List.length_append, List.length_replicate]
  have hpow : (10 : ℚ) ^ k ≠ 0 := pow_ne_zero k (by norm_num)
  rw [hvalue, hlength, pow_add, Nat.cast_mul, Nat.cast_pow, Nat.cast_ofNat,
    mul_comm (10 ^ _) (10 ^ k)]
  exact (mul_div_mul_left _ _ hpow).symm

/-! ## Texts without a sign, a blank or a word -/

/-- A digit or the point. -/
def isPlain (c : Char) : Bool := c.isDigit || c == '.'

theorem plain_ne {c d : Char} (hc : isPlain c = true) (hd : isPlain d = false) : c ≠ d := by
  rintro rfl
  rw [hc] at hd
  cases hd

theorem toNat_of_plain {c : Char} (h : isPlain c = true) : 46 ≤ c.toNat ∧ c.toNat ≤ 57 := by
  rcases Bool.or_eq_true_iff.1 h with hdigit | hpoint
  · obtain ⟨hlow, hhigh⟩ := Char.isDigit_iff_toNat.1 hdigit
    exact ⟨le_trans (by decide) hlow, hhigh⟩
  · obtain rfl := eq_of_beq hpoint
    decide

theorem isSpace_of_plain {c : Char} (h : isPlain c = true) : isSpace c = false := by
  obtain ⟨hlow, hhigh⟩ := toNat_of_plain h
  simp [isSpace]
  omega

theorem isBlank_of_plain {c : Char} (h : isPlain c = true) : isBlank c = false := by
  rw [isBlank, isSpace_of_plain h, Bool.false_and]

theorem toLower_of_plain {c : Char} (h : isPlain c = true) : c.toLower = c := by
  obtain ⟨-, hhigh⟩ := toNat_of_plain h
  refine dif_neg fun hupper => ?_
  have hlow : 65 ≤ c.toNat := UInt32.le_iff_toNat_le.1 hupper.1
  omega

theorem stripBlanks_of_plain {s : List Char} (h : ∀ c ∈ s, isPlain c = true) :
    stripBlanks s = s := by
  have hkeep : ∀ t : List Char, (∀ c ∈ t, isPlain c = true) → t.dropWhile isBlank = t := by
    intro t ht
    cases t with
    | nil => rfl
    | cons c t =>
        have hc := isBlank_of_plain (ht c List.mem_cons_self)
        exact List.dropWhile_cons_of_neg (by simp [hc])
  have hreverse := hkeep s.reverse fun c hc => h c (List.mem_reverse.1 hc)
  rw [stripBlanks, hkeep s h, hreverse, List.reverse_reverse]

theorem dropUnderscores_of_plain {s : List Char} (h : ∀ c ∈ s, isPlain c = true) :
    ∀ afterDigit, dropUnderscores afterDigit s = some s := by
  induction s with
  | nil => exact fun _ => rfl
  | cons c s ih =>
      intro afterDigit
      have hc : c ≠ '_' := plain_ne (h c List.mem_cons_self) (by decide)
      have hrest := ih (fun d hd => h d (List.mem_cons_of_mem _ hd)) (digit? c).isSome
      rw [dropUnderscores, hrest]
      · rfl
      · exact hc

theorem takeSign_of_plain {s : List Char} (h : ∀ c ∈ s, isPlain c = true) :
    takeSign s = (false, s) := by
  unfold takeSign
  split
  · exact absurd rfl (plain_ne (h '-' List.mem_cons_self) (by decide))
  · exact absurd rfl (plain_ne (h '+' List.mem_cons_self) (by decide))
  · rfl

theorem ofList_ne_of_plain {s : List Char} (h : ∀ c ∈ s, isPlain c = true) {word : String}
    (hword : word.toList.all isPlain = false) : String.ofList s ≠ word := by
  rintro rfl
  rw [String.toList_ofList, List.all_eq_true.2 h] at hword
  cases hword

/-- `float(text)` of such a text is the decimal it spells, rounded. -/
theorem floatOfStr_of_plain (fl : FloatFormat) {s : List Char} (h : ∀ c ∈ s, isPlain c = true) :
    floatOfStr fl (String.ofList s) = (decimal? s).map fl.round := by
  have hlower : s.map Char.toLower = s :=
    (List.map_congr_left fun c hc => toLower_of_plain (h c hc)).trans (List.map_id' s)
  have hnan : String.ofList s ≠ "nan" := ofList_ne_of_plain h rfl
  have hinf : String.ofList s ≠ "inf" := ofList_ne_of_plain h rfl
  have hinfinity : String.ofList s ≠ "infinity" := ofList_ne_of_plain h rfl
  rw [floatOfStr, String.toList_ofList, stripBlanks_of_plain h, dropUnderscores_of_plain h,
    Option.bind_some, takeSign_of_plain h]
  simp [hlower, hnan, hinf, hinfinity]

/-! ## The two forms -/

theorem plain_of_digits {s : List Char} (h : ∀ c ∈ s, c.isDigit = true) :
    ∀ c ∈ s, isPlain c = true := fun c hc => by rw [isPlain, h c hc, Bool.true_or]

theorem plain_pointed {whole fraction : List Char} (h : ∀ c ∈ whole, c.isDigit = true)
    (hfraction : ∀ c ∈ fraction, c.isDigit = true) :
    ∀ c ∈ whole ++ '.' :: fraction, isPlain c = true := by
  intro c hc
  rcases List.mem_append.1 hc with hc | hc
  · exact plain_of_digits h c hc
  · rcases List.mem_cons.1 hc with rfl | hc
    · rfl
    · exact plain_of_digits hfraction c hc

theorem floatOfStr_whole (fl : FloatFormat) {whole : List Char}
    (h : ∀ c ∈ whole, c.isDigit = true) (hne : whole ≠ []) :
    floatOfStr fl (String.ofList whole) = some (fl.round (Nat.ofDigitChars 10 whole 0)) := by
  rw [floatOfStr_of_plain fl (plain_of_digits h), decimal?_whole h hne]
  rfl

/-- The digits after the point count as many tenths of tenths. -/
theorem floatOfStr_pointed (fl : FloatFormat) {whole fraction : List Char}
    (h : ∀ c ∈ whole, c.isDigit = true) (hne : whole ≠ [])
    (hfraction : ∀ c ∈ fraction, c.isDigit = true) :
    floatOfStr fl (String.ofList (whole ++ '.' :: fraction)) =
      some (fl.round (Nat.ofDigitChars 10 whole 0 +
        Nat.ofDigitChars 10 fraction 0 / 10 ^ fraction.length)) := by
  have hpow : (10 : ℚ) ^ fraction.length ≠ 0 := pow_ne_zero _ (by norm_num)
  rw [floatOfStr_of_plain fl (plain_pointed h hfraction), decimal?_pointed h hne hfraction,
    Option.map_some, Nat.ofDigitChars_append, Nat.ofDigitChars_eq_ofDigitChars_zero]
  push_cast
  rw [add_div, mul_div_cancel_left₀ _ hpow]

end PyNumber
