import AnalyticsTesting.Lib.Double
import Mathlib.Algebra.BigOperators.Group.List.Basic

set_option autoImplicit false

/-! # Errors of rounding

How far the 64-bit format rounds, for results that are not negative: `nearest` is `round` without
the check for an overflow. It keeps the order with the numbers of the format (`nearest_le`,
`le_nearest`), and is off by the half of the last place (`abs_nearest_sub_le`), which is the 2^-53rd
part of a number that is not subnormal. A sum of `n` terms that are added one after another is off
by `n` times that (`abs_sumFrom_sub_le`), and what its parts add up to by twice that
(`abs_sum_parts_sub_le`). -/

namespace Binary64

/-- The smallest number with 53 digits. -/
def minNormal : ℚ := pow2 (-1022)

/-- Half of a last place: the largest error of rounding a number up to `x`. -/
def slack (x : ℚ) : ℚ := max x minNormal / 2 ^ 53

/-- `round` without the check for an overflow. -/
def nearest (q : ℚ) : ℚ := roundHalfEven (q / pow2 (ulp q)) * pow2 (ulp q)

theorem round_eq (q : ℚ) :
    round q = if 2 ^ 1024 ≤ |nearest q| then .inf (nearest q < 0) else .fin (nearest q) := rfl

theorem nearest_of_round {q r : ℚ} (h : round q = .fin r) : nearest q = r := by
  rw [round_eq] at h
  split at h
  · cases h
  · exact Double.fin.inj h

theorem pow2_add (a b : Int) : pow2 (a + b) = pow2 a * pow2 b := by
  rw [pow2_eq_zpow, pow2_eq_zpow, pow2_eq_zpow, zpow_add₀ two_ne_zero]

theorem pow2_le_pow2 {a b : Int} (h : a ≤ b) : pow2 a ≤ pow2 b := by
  rw [pow2_eq_zpow, pow2_eq_zpow]
  exact zpow_le_zpow_right₀ one_le_two h

theorem pow2_ofNat (n : Nat) : pow2 n = 2 ^ n := by
  rw [pow2_eq_zpow, zpow_natCast]

theorem minNormal_pos : 0 < minNormal := pow2_pos _

theorem slack_pos (x : ℚ) : 0 < slack x :=
  div_pos (lt_max_of_lt_right minNormal_pos) (by norm_num)

theorem slack_mono {x y : ℚ} (h : x ≤ y) : slack x ≤ slack y :=
  div_le_div_of_nonneg_right (max_le_max h le_rfl) (by norm_num)

theorem slack_of_le {x : ℚ} (h : minNormal ≤ x) : slack x = x / 2 ^ 53 := by
  rw [slack, max_eq_left h]

/-! ## The last place -/

theorem lt_pow2_exponent_succ {q : ℚ} (hq : 0 < q) : q < pow2 (exponent q + 1) := by
  unfold exponent
  dsimp only
  split
  case isFalse h =>
    rw [sub_add_cancel]
    exact not_le.1 h
  case isTrue =>
    have hnum : q.num.natAbs ≠ 0 := by
      have := Rat.num_pos.2 hq
      omega
    have hval : q = (q.num.natAbs : ℚ) / q.den := by
      have habs : (q.num.natAbs : Int) = q.num := Int.natAbs_of_nonneg (Rat.num_pos.2 hq).le
      have hcast : (q.num.natAbs : ℚ) = (q.num : ℚ) := by rw [← Int.cast_natCast, habs]
      rw [hcast]
      exact (Rat.num_div_den q).symm
    have hhigh : (q.num.natAbs : ℚ) < 2 ^ (Nat.log2 q.num.natAbs + 1) := by
      exact_mod_cast Nat.lt_log2_self
    have hlow : (2 : ℚ) ^ Nat.log2 q.den ≤ q.den := by
      exact_mod_cast Nat.log2_self_le q.den_pos.ne'
    have hpow : pow2 ((Nat.log2 q.num.natAbs : Int) - Nat.log2 q.den + 1)
        = 2 ^ (Nat.log2 q.num.natAbs + 1) / 2 ^ Nat.log2 q.den := by
      rw [pow2_eq_zpow, show (Nat.log2 q.num.natAbs : Int) - Nat.log2 q.den + 1
        = ((Nat.log2 q.num.natAbs + 1 : Nat) : Int) - Nat.log2 q.den by push_cast; ring,
        zpow_sub₀ two_ne_zero, zpow_natCast, zpow_natCast]
    rw [hpow]
    conv_lhs => rw [hval]
    exact div_lt_div₀ hhigh hlow (by positivity) (by positivity)

theorem neg_le_ulp (q : ℚ) : -1074 ≤ ulp q := le_max_right _ _

/-- The last place of a number is the smallest there is, or the 2^52nd part of a power of two below
    the number. -/
theorem ulp_cases {q : ℚ} (hq : 0 < q) : ulp q = -1074 ∨ pow2 (ulp q) * 2 ^ 52 ≤ q := by
  rw [ulp, abs_of_pos hq]
  rcases max_choice (exponent q - 52) (-1074) with hmax | hmax
  · right
    rw [hmax, ← pow2_ofNat 52, ← pow2_add]
    simpa using pow2_exponent_le hq
  · exact Or.inl hmax

theorem lt_pow2_ulp_mul {q : ℚ} (hq : 0 ≤ q) : q < pow2 (ulp q) * 2 ^ 53 := by
  rcases hq.eq_or_lt with rfl | hpos
  · exact mul_pos (pow2_pos _) (by norm_num)
  · refine (lt_pow2_exponent_succ hpos).trans_le ?_
    rw [← pow2_ofNat 53, ← pow2_add]
    refine pow2_le_pow2 ?_
    have := le_max_left (exponent |q| - 52) (-1074)
    rw [abs_of_pos hpos] at this
    rw [ulp, abs_of_pos hpos]
    push_cast
    omega

/-- Half of the last place of `q`, by a number that `q` is not below the power of two of. -/
theorem half_ulp_le {q x : ℚ} (h : ulp q = -1074 ∨ pow2 (ulp q) * 2 ^ 52 ≤ x) :
    1 / 2 * pow2 (ulp q) ≤ slack x := by
  rw [slack, le_div_iff₀ (by norm_num)]
  rcases h with h | h
  · have hmin : pow2 (ulp q) * 2 ^ 52 = minNormal := by
      rw [h, minNormal, ← pow2_ofNat 52, ← pow2_add]
      norm_num
    have := le_max_right x minNormal
    linarith
  · have := le_max_left x minNormal
    linarith

/-! ## Numbers of the format -/

/-- An integer of 53 digits times a power of two. -/
def Representable (c : ℚ) : Prop :=
  ∃ (m : Int) (k : Int), -1074 ≤ k ∧ m ≤ 2 ^ 53 ∧ c = m * pow2 k

/-- A number that is not rounded. -/
def IsDouble (q : ℚ) : Prop := round q = .fin q

instance (q : ℚ) : Decidable (IsDouble q) := inferInstanceAs (Decidable (_ = _))

theorem representable_zero : Representable 0 := ⟨0, 0, by norm_num, by norm_num, by simp⟩

theorem roundHalfEven_intCast (k : Int) : roundHalfEven k = k :=
  roundHalfEven_eq (by linarith) (by linarith)

theorem nearest_zero : nearest 0 = 0 := by
  rw [nearest, zero_div, show (0 : ℚ) = ((0 : Int) : ℚ) by norm_num, roundHalfEven_intCast]
  simp

theorem nearest_nonneg {q : ℚ} (hq : 0 ≤ q) : 0 ≤ nearest q := by
  have hround : (0 : ℚ) ≤ roundHalfEven (q / pow2 (ulp q)) := by
    exact_mod_cast roundHalfEven_nonneg (div_nonneg hq (pow2_pos _).le)
  exact mul_nonneg hround (pow2_pos _).le

theorem representable_nearest {q : ℚ} (hq : 0 ≤ q) : Representable (nearest q) := by
  refine ⟨roundHalfEven (q / pow2 (ulp q)), ulp q, neg_le_ulp q, ?_, rfl⟩
  have hle : q / pow2 (ulp q) ≤ ((2 ^ 53 : Int) : ℚ) := by
    rw [div_le_iff₀ (pow2_pos _), mul_comm]
    push_cast
    exact (lt_pow2_ulp_mul hq).le
  rw [← roundHalfEven_intCast (2 ^ 53)]
  exact roundHalfEven_mono hle

/-- A multiple of the last place of `q` keeps its order with `q` when `q` is rounded. -/
theorem nearest_le_of_multiple {q c : ℚ} {m : Int} (hc : c = m * pow2 (ulp q)) :
    (q ≤ c → nearest q ≤ c) ∧ (c ≤ q → c ≤ nearest q) := by
  have hpos := pow2_pos (ulp q)
  subst hc
  constructor
  · intro hle
    have hround : roundHalfEven (q / pow2 (ulp q)) ≤ roundHalfEven (m : ℚ) :=
      roundHalfEven_mono ((div_le_iff₀ hpos).2 hle)
    rw [roundHalfEven_intCast] at hround
    exact mul_le_mul_of_nonneg_right (by exact_mod_cast hround) hpos.le
  · intro hle
    have hround : roundHalfEven (m : ℚ) ≤ roundHalfEven (q / pow2 (ulp q)) :=
      roundHalfEven_mono ((le_div_iff₀ hpos).2 hle)
    rw [roundHalfEven_intCast] at hround
    exact mul_le_mul_of_nonneg_right (by exact_mod_cast hround) hpos.le

/-- A number of the format is a multiple of the last place of `q`, or below it and the power of two
    below it. -/
theorem Representable.multiple_or_le {c q : ℚ} (hc : Representable c) (hq : 0 < q) :
    (∃ m : Int, c = m * pow2 (ulp q)) ∨
      (c ≤ pow2 (ulp q) * 2 ^ 52 ∧ pow2 (ulp q) * 2 ^ 52 ≤ q) := by
  obtain ⟨m, k, hk, hm, rfl⟩ := hc
  by_cases hle : ulp q ≤ k
  · left
    obtain ⟨n, hn⟩ := Int.eq_ofNat_of_zero_le (sub_nonneg.2 hle)
    refine ⟨m * 2 ^ n, ?_⟩
    rw [show k = (n : Int) + ulp q by omega, pow2_add, pow2_ofNat]
    push_cast
    ring
  · right
    rcases ulp_cases hq with hulp | hulp
    · omega
    · refine ⟨?_, hulp⟩
      have hstep : pow2 k * 2 ^ 53 ≤ pow2 (ulp q) * 2 ^ 52 := by
        rw [← pow2_ofNat 53, ← pow2_ofNat 52, ← pow2_add, ← pow2_add]
        refine pow2_le_pow2 ?_
        push_cast
        omega
      have hcast : (m : ℚ) ≤ 2 ^ 53 := by exact_mod_cast hm
      calc (m : ℚ) * pow2 k ≤ 2 ^ 53 * pow2 k :=
            mul_le_mul_of_nonneg_right hcast (pow2_pos k).le
        _ ≤ pow2 (ulp q) * 2 ^ 52 := by rwa [mul_comm]

theorem pow2_ulp_mul (q : ℚ) : pow2 (ulp q) * 2 ^ 52 = ((2 ^ 52 : Int) : ℚ) * pow2 (ulp q) := by
  push_cast
  ring

/-- **Rounding does not pass a number of the format.** -/
theorem nearest_le {q c : ℚ} (hc : Representable c) (hq : 0 ≤ q) (h : q ≤ c) : nearest q ≤ c := by
  rcases hq.eq_or_lt with rfl | hpos
  · rwa [nearest_zero]
  rcases hc.multiple_or_le hpos with ⟨m, hm⟩ | ⟨hle, hle'⟩
  · exact (nearest_le_of_multiple hm).1 h
  · obtain rfl : c = pow2 (ulp q) * 2 ^ 52 := le_antisymm hle (hle'.trans h)
    exact (nearest_le_of_multiple (pow2_ulp_mul q)).1 h

theorem le_nearest {q c : ℚ} (hc : Representable c) (hq : 0 ≤ q) (h : c ≤ q) : c ≤ nearest q := by
  rcases hq.eq_or_lt with rfl | hpos
  · rwa [nearest_zero]
  rcases hc.multiple_or_le hpos with ⟨m, hm⟩ | ⟨hle, hle'⟩
  · exact (nearest_le_of_multiple hm).2 h
  · exact hle.trans ((nearest_le_of_multiple (pow2_ulp_mul q)).2 hle')

/-- **Rounding keeps the order.** -/
theorem nearest_mono {q q' : ℚ} (hq : 0 ≤ q) (h : q ≤ q') : nearest q ≤ nearest q' := by
  rcases hq.eq_or_lt with rfl | hpos
  · rw [nearest_zero]
    exact nearest_nonneg h
  have hpos' : 0 < q' := hpos.trans_le h
  have hbelow := lt_pow2_ulp_mul hq
  rcases lt_trichotomy (ulp q) (ulp q') with hlt | heq | hgt
  · -- there is a power of two between the two
    have hmin := neg_le_ulp q
    rcases ulp_cases hpos' with hulp | hulp
    · omega
    have hle : q ≤ pow2 (ulp q') * 2 ^ 52 := by
      refine hbelow.le.trans ?_
      rw [← pow2_ofNat 53, ← pow2_ofNat 52, ← pow2_add, ← pow2_add]
      refine pow2_le_pow2 ?_
      push_cast
      omega
    have hrep : Representable (pow2 (ulp q') * 2 ^ 52) :=
      ⟨2 ^ 52, ulp q', neg_le_ulp q', by norm_num, pow2_ulp_mul q'⟩
    exact (nearest_le hrep hq hle).trans (le_nearest hrep hpos'.le hulp)
  · unfold nearest
    rw [heq]
    have hround : roundHalfEven (q / pow2 (ulp q')) ≤ roundHalfEven (q' / pow2 (ulp q')) :=
      roundHalfEven_mono (div_le_div_of_nonneg_right h (pow2_pos _).le)
    exact mul_le_mul_of_nonneg_right (by exact_mod_cast hround) (pow2_pos _).le
  · -- the last place of a smaller number is not larger
    exfalso
    have hmin := neg_le_ulp q'
    rcases ulp_cases hpos with hulp | hulp
    · omega
    have hstep : pow2 (ulp q') * 2 ^ 53 ≤ pow2 (ulp q) * 2 ^ 52 := by
      rw [← pow2_ofNat 53, ← pow2_ofNat 52, ← pow2_add, ← pow2_add]
      refine pow2_le_pow2 ?_
      push_cast
      omega
    exact absurd (hstep.trans (hulp.trans h)) (not_le.2 (lt_pow2_ulp_mul hpos'.le))
theorem nearest_eq {c : ℚ} (hc : Representable c) (h : 0 ≤ c) : nearest c = c :=
  le_antisymm (nearest_le hc h le_rfl) (le_nearest hc h le_rfl)

theorem IsDouble.representable {q : ℚ} (h : IsDouble q) (hq : 0 ≤ q) : Representable q := by
  rw [← nearest_of_round h]
  exact representable_nearest hq

/-- What is rounded to no more than a finite number is finite. -/
theorem round_eq_fin {q t : ℚ} (hq : 0 ≤ q) (hle : nearest q ≤ t) (ht : |t| < 2 ^ 1024) :
    round q = .fin (nearest q) := by
  have hlt : |nearest q| < 2 ^ 1024 := by
    rw [abs_of_nonneg (nearest_nonneg hq)]
    exact hle.trans_lt ((le_abs_self t).trans_lt ht)
  rw [round_eq, if_neg (not_le.2 hlt)]

/-! ## Errors -/

theorem abs_nearest_sub_le_half_ulp (q : ℚ) : |nearest q - q| ≤ 1 / 2 * pow2 (ulp q) := by
  have hpos := pow2_pos (ulp q)
  have hdiff : nearest q - q
      = (roundHalfEven (q / pow2 (ulp q)) - q / pow2 (ulp q)) * pow2 (ulp q) := by
    rw [nearest, sub_mul, div_mul_cancel₀ _ hpos.ne']
  rw [hdiff, abs_mul, abs_of_pos hpos]
  exact mul_le_mul_of_nonneg_right (abs_roundHalfEven_sub_le _) hpos.le

/-- **The error of rounding**, by the exact result and by the rounded one. -/
theorem abs_nearest_sub_le {q : ℚ} (hq : 0 ≤ q) :
    |nearest q - q| ≤ slack q ∧ |nearest q - q| ≤ slack (nearest q) := by
  rcases hq.eq_or_lt with rfl | hpos
  · rw [nearest_zero, sub_zero, abs_zero]
    exact ⟨(slack_pos 0).le, (slack_pos 0).le⟩
  · have hhalf := abs_nearest_sub_le_half_ulp q
    have hcases := ulp_cases hpos
    refine ⟨hhalf.trans (half_ulp_le hcases), hhalf.trans (half_ulp_le (hcases.imp_right ?_))⟩
    exact (nearest_le_of_multiple (pow2_ulp_mul q)).2

end Binary64

/-! ## Sums -/

namespace FloatFormat

/-- Terms added one after another. -/
def sumFrom (fl : FloatFormat) (start : Double) (terms : List ℚ) : Double :=
  terms.foldl (fun sum term => fl.add sum (.fin term)) start

variable {fl : FloatFormat}

theorem add_eq_fin {x : Double} {q r : ℚ} (h : fl.add x (.fin q) = .fin r) :
    ∃ p, x = .fin p ∧ fl.round (p + q) = .fin r := by
  cases x with
  | fin p => exact ⟨p, rfl, h⟩
  | _ => cases h

theorem sumFrom_append (start : Double) (xs ys : List ℚ) :
    fl.sumFrom start (xs ++ ys) = fl.sumFrom (fl.sumFrom start xs) ys := List.foldl_append ..

/-- A finite sum has been finite all along. -/
theorem start_of_sumFrom {start : Double} {t : ℚ} {terms : List ℚ}
    (h : fl.sumFrom start terms = .fin t) : ∃ s, start = .fin s := by
  induction terms generalizing start with
  | nil => exact ⟨t, h⟩
  | cons term terms ih =>
      obtain ⟨q, hq⟩ := ih h
      obtain ⟨p, hp, -⟩ := add_eq_fin hq
      exact ⟨p, hp⟩

theorem sumFrom_cons_eq_fin {start : Double} {term t : ℚ} {terms : List ℚ}
    (h : fl.sumFrom start (term :: terms) = .fin t) :
    ∃ s r, start = .fin s ∧ fl.round (s + term) = .fin r ∧ fl.sumFrom (.fin r) terms = .fin t := by
  have hrest : fl.sumFrom (fl.add start (.fin term)) terms = .fin t := h
  obtain ⟨r, hr⟩ := start_of_sumFrom hrest
  obtain ⟨s, hs, hround⟩ := add_eq_fin hr
  exact ⟨s, r, hs, hround, hr ▸ hrest⟩

end FloatFormat

namespace Binary64

theorem abs_sumFrom_lt {terms : List ℚ} : ∀ {s t : ℚ}, |s| < 2 ^ 1024 →
    FloatFormat.binary64.sumFrom (.fin s) terms = .fin t → |t| < 2 ^ 1024 := by
  induction terms with
  | nil =>
      intro s t hs h
      obtain rfl := Double.fin.inj h
      exact hs
  | cons x terms ih =>
      intro s t _ h
      obtain ⟨_, _, _, hround, hrest⟩ := FloatFormat.sumFrom_cons_eq_fin h
      exact ih (abs_lt_of_round hround) hrest

/-- Terms added one after another, as long as nothing overflows. -/
def sumFrom (start : ℚ) (terms : List ℚ) : ℚ :=
  terms.foldl (fun sum term => nearest (sum + term)) start

def sum (terms : List ℚ) : ℚ := sumFrom 0 terms

/-- **The error of a sum** of terms that are not negative, which only grows. -/
theorem abs_sumFrom_sub_le {terms : List ℚ} : ∀ {s : ℚ}, Representable s → 0 ≤ s →
    (∀ x ∈ terms, 0 ≤ x) →
      Representable (sumFrom s terms) ∧ s ≤ sumFrom s terms ∧
        |sumFrom s terms - (s + terms.sum)| ≤ terms.length * slack (sumFrom s terms) := by
  induction terms with
  | nil => exact fun hs _ _ => ⟨hs, le_rfl, by simp [sumFrom]⟩
  | cons x terms ih =>
      intro s hs hs0 hnonneg
      have hx := hnonneg x List.mem_cons_self
      have hq : 0 ≤ s + x := add_nonneg hs0 hx
      have hsr : s ≤ nearest (s + x) := le_nearest hs hq (le_add_of_nonneg_right hx)
      obtain ⟨hrep, hle, herr⟩ := ih (representable_nearest hq) (nearest_nonneg hq)
        (fun y hy => hnonneg y (List.mem_cons_of_mem x hy))
      rw [show sumFrom s (x :: terms) = sumFrom (nearest (s + x)) terms from rfl]
      generalize sumFrom (nearest (s + x)) terms = t at hrep hle herr ⊢
      refine ⟨hrep, hsr.trans hle, ?_⟩
      have hstep := ((abs_nearest_sub_le hq).2).trans (slack_mono hle)
      have hsplit : t - (s + (x :: terms).sum)
          = (t - (nearest (s + x) + terms.sum)) + (nearest (s + x) - (s + x)) := by
        rw [List.sum_cons]
        ring
      rw [hsplit, List.length_cons, Nat.cast_succ, add_mul, one_mul]
      exact (abs_add_le _ _).trans (add_le_add herr hstep)

/-- A sum that is finite has been added up without an overflow. -/
theorem sumFrom_of_eq_fin {terms : List ℚ} : ∀ {s t : ℚ},
    FloatFormat.binary64.sumFrom (.fin s) terms = .fin t → t = sumFrom s terms := by
  induction terms with
  | nil => exact fun h => (Double.fin.inj h).symm
  | cons x terms ih =>
      intro s t h
      obtain ⟨s', r, hs', hround, hrest⟩ := FloatFormat.sumFrom_cons_eq_fin h
      obtain rfl := Double.fin.inj hs'
      obtain rfl := nearest_of_round hround
      exact ih hrest

theorem sumFrom_append (s : ℚ) (xs ys : List ℚ) :
    sumFrom s (xs ++ ys) = sumFrom (sumFrom s xs) ys := List.foldl_append ..

theorem sumFrom_mono {terms : List ℚ} : ∀ {s s' : ℚ}, 0 ≤ s → (∀ x ∈ terms, 0 ≤ x) → s ≤ s' →
    sumFrom s terms ≤ sumFrom s' terms := by
  induction terms with
  | nil => exact fun _ _ h => h
  | cons x terms ih =>
      intro s s' hs hnonneg h
      have hq : 0 ≤ s + x := add_nonneg hs (hnonneg x List.mem_cons_self)
      exact ih (nearest_nonneg hq) (fun y hy => hnonneg y (List.mem_cons_of_mem x hy))
        (nearest_mono hq (add_le_add_left h x))

/-- The sum of a part is at most the sum of all. -/
theorem sum_le_sumFrom_append {s : ℚ} {before part after : List ℚ} (hs : Representable s)
    (hs0 : 0 ≤ s) (hnonneg : ∀ x ∈ before ++ part ++ after, 0 ≤ x) :
    sum part ≤ sumFrom s (before ++ part ++ after) := by
  have hpart : ∀ x ∈ part, 0 ≤ x := fun x hx => hnonneg x (by simp [hx])
  obtain ⟨hrep, hle, -⟩ := abs_sumFrom_sub_le hs hs0 fun x hx => hnonneg x (by
    simp only [List.mem_append]
    exact Or.inl (Or.inl hx))
  have hsum : sum part ≤ sumFrom s (before ++ part) := by
    rw [sumFrom_append]
    exact sumFrom_mono le_rfl hpart (hs0.trans hle)
  obtain ⟨hrep', hle', -⟩ := abs_sumFrom_sub_le hs hs0 fun x (hx : x ∈ before ++ part) =>
    hnonneg x (List.mem_append_left _ hx)
  rw [sumFrom_append]
  exact hsum.trans (abs_sumFrom_sub_le hrep' (hs0.trans hle') fun x hx =>
    hnonneg x (List.mem_append_right _ hx)).2.1

/-- The sums of the parts add up to no more and no less than the sum of all, up to the error of
    adding each part and of adding all. -/
theorem abs_sum_parts_sub_le {parts : List (List ℚ)} (hnonneg : ∀ x ∈ parts.flatten, 0 ≤ x) :
    |(parts.map sum).sum - sum parts.flatten|
      ≤ 2 * parts.flatten.length * slack (sum parts.flatten) := by
  obtain ⟨-, -, hall⟩ := abs_sumFrom_sub_le representable_zero le_rfl hnonneg
  rw [zero_add] at hall
  have hparts : ∀ before rest : List (List ℚ), before ++ rest = parts →
      |(rest.map sum).sum - rest.flatten.sum|
        ≤ rest.flatten.length * slack (sum parts.flatten) := by
    intro before rest
    induction rest generalizing before with
    | nil => simp
    | cons part rest ih =>
        intro hsplit
        have hrest := ih (before ++ [part]) (by rw [← hsplit]; simp)
        have hflat : parts.flatten = before.flatten ++ part ++ rest.flatten := by
          rw [← hsplit]
          simp
        have hpart : |sum part - part.sum| ≤ part.length * slack (sum parts.flatten) := by
          have hnonneg' : ∀ x ∈ part, 0 ≤ x := fun x hx => hnonneg x (by simp [hflat, hx])
          obtain ⟨-, -, herr⟩ := abs_sumFrom_sub_le representable_zero le_rfl hnonneg'
          rw [zero_add] at herr
          refine herr.trans (mul_le_mul_of_nonneg_left (slack_mono ?_) (Nat.cast_nonneg _))
          rw [hflat] at hnonneg
          have hle := sum_le_sumFrom_append representable_zero le_rfl hnonneg
          rw [← hflat] at hle
          exact hle
        have hdiff : ((part :: rest).map sum).sum - (part :: rest).flatten.sum
            = (sum part - part.sum) + ((rest.map sum).sum - rest.flatten.sum) := by
          simp only [List.map_cons, List.sum_cons, List.flatten_cons, List.sum_append]
          ring
        rw [hdiff, List.flatten_cons, List.length_append, Nat.cast_add, add_mul]
        exact (abs_add_le _ _).trans (add_le_add hpart hrest)
  have hsums := hparts [] parts rfl
  have hdiff : (parts.map sum).sum - sum parts.flatten
      = ((parts.map sum).sum - parts.flatten.sum)
        - (sumFrom 0 parts.flatten - parts.flatten.sum) := by
    rw [sum]
    ring
  rw [hdiff, two_mul, add_mul]
  exact (abs_sub _ _).trans (add_le_add hsums hall)

end Binary64
