import Mathlib.Data.Rat.Floor
import Mathlib.Algebra.Order.Field.Power
import Mathlib.Tactic.FieldSimp
import Mathlib.Tactic.Positivity
import Mathlib.Tactic.Linarith
import AnalyticsTesting.Lib.Rounding

set_option autoImplicit false

/-! # Floating-point numbers

Doubles with their special values, over a format that says how an exact result is rounded.
`binary64` is the format programs run with; `exact` keeps every rational and is the arithmetic of
idealised statements. A zero has no sign here. The one law a format has to satisfy is that the
reciprocal of a positive value does not round to zero (`FloatFormat.round_recip`).

Division follows languages in which dividing a float by zero is an error. -/

/-- A floating-point number. -/
inductive Double
  | nan
  | inf (negative : Bool)
  | fin (q : ℚ)
  deriving DecidableEq

namespace Double

/-- Greater than zero. -/
def Pos : Double → Prop
  | nan => False
  | inf negative => negative = false
  | fin q => 0 < q

instance (x : Double) : Decidable x.Pos :=
  match x with
  | nan => inferInstanceAs (Decidable False)
  | inf negative => inferInstanceAs (Decidable (negative = false))
  | fin q => inferInstanceAs (Decidable (0 < q))

/-- `x < y`; false as soon as one of them is a NaN. -/
def lt : Double → Double → Bool
  | nan, _ | _, nan => false
  | inf a, inf b => a && !b
  | inf a, fin _ => a
  | fin _, inf b => !b
  | fin p, fin q => p < q

/-- `x ≤ y`. -/
def le : Double → Double → Bool
  | nan, _ | _, nan => false
  | x, y => !(lt y x)

@[simp] theorem fin_lt_fin (p q : ℚ) : lt (fin p) (fin q) = decide (p < q) := rfl

@[simp] theorem fin_le_fin (p q : ℚ) : le (fin p) (fin q) = decide (p ≤ q) := by
  show (!decide (q < p)) = decide (p ≤ q)
  rw [← decide_not]
  simp only [not_lt]

end Double

/-! ## Formats -/

/-- How exact results become numbers of the format. -/
structure FloatFormat where
  round : ℚ → Double
  /-- The reciprocal of a positive number of the format does not vanish. -/
  round_recip : ∀ q r, round q = .fin r → 0 < r → (round (1 / r)).Pos

namespace FloatFormat

variable (fl : FloatFormat)

/-- The sign of an infinite product or quotient. -/
def signOf (q : ℚ) (negative : Bool) : Bool := if q < 0 then !negative else negative

def mul : Double → Double → Double
  | .nan, _ | _, .nan => .nan
  | .inf a, .inf b => .inf (a != b)
  | .inf a, .fin q | .fin q, .inf a => if q = 0 then .nan else .inf (signOf q a)
  | .fin p, .fin q => fl.round (p * q)

def add : Double → Double → Double
  | .nan, _ | _, .nan => .nan
  | .inf a, .inf b => if a = b then .inf a else .nan
  | .inf a, .fin _ | .fin _, .inf a => .inf a
  | .fin p, .fin q => fl.round (p + q)

def neg : Double → Double
  | .nan => .nan
  | .inf a => .inf !a
  | .fin q => .fin (-q)

def sub (x y : Double) : Double := fl.add x (neg y)

/-- `x / y`; `none` where `y` is zero. -/
def div (x y : Double) : Option Double :=
  if y = .fin 0 then none
  else
    some <| match x, y with
      | .nan, _ | _, .nan => .nan
      | .inf _, .inf _ => .nan
      | .inf a, .fin q => .inf (signOf q a)
      | .fin _, .inf _ => .fin 0
      | .fin p, .fin q => fl.round (p / q)

/-- An integer as a float; `none` where it is too large. -/
def ofInt (n : Int) : Option Double :=
  match fl.round n with
  | .fin q => some (.fin q)
  | _ => none

theorem div_fin {p q : ℚ} (hq : q ≠ 0) : fl.div (.fin p) (.fin q) = some (fl.round (p / q)) := by
  have hne : Double.fin q ≠ .fin 0 := by simpa using hq
  simp only [div, hne, if_false]

theorem div_zero (x : Double) : fl.div x (.fin 0) = none := by simp [div]

theorem div_nan_ne_fin (y : Double) (q : ℚ) : fl.div .nan y ≠ some (.fin q) := by
  unfold div
  split <;> simp

/-- A finite product has finite factors. -/
theorem mul_eq_fin {x y : Double} {r : ℚ} (h : fl.mul x y = .fin r) :
    ∃ p q : ℚ, x = .fin p ∧ y = .fin q := by
  unfold mul at h
  split at h
  case h_6 => exact ⟨_, _, rfl, rfl⟩
  case h_4 => split at h <;> simp at h
  case h_5 => split at h <;> simp at h
  all_goals simp at h

/-- A finite quotient by a finite number has a finite numerator. -/
theorem div_eq_fin {x : Double} {b c : ℚ} (h : fl.div x (.fin b) = some (.fin c)) :
    b ≠ 0 ∧ ∃ r : ℚ, x = .fin r := by
  have hb : b ≠ 0 := by
    rintro rfl
    rw [div_zero] at h
    simp at h
  refine ⟨hb, ?_⟩
  cases x with
  | fin r => exact ⟨r, rfl⟩
  | _ => simp [div, hb] at h

/-- A positive finite quotient is a rounded one. -/
theorem round_of_div {x y : Double} {b : ℚ} (h : fl.div x y = some (.fin b)) (hb : 0 < b) :
    ∃ q, fl.round q = .fin b := by
  unfold div at h
  split at h
  case isTrue => simp at h
  case isFalse =>
    have heq := Option.some.inj h
    split at heq
    case h_5 =>
      obtain rfl := Double.fin.inj heq
      exact absurd hb (lt_irrefl 0)
    case h_6 => exact ⟨_, heq⟩
    all_goals simp at heq

/-- **The reciprocal of a positive finite quotient is positive.** -/
theorem div_one_pos {x y : Double} {b : ℚ} (h : fl.div x y = some (.fin b)) (hb : 0 < b) :
    ∃ i, fl.div (.fin 1) (.fin b) = some i ∧ i.Pos := by
  obtain ⟨q, hq⟩ := fl.round_of_div h hb
  exact ⟨_, fl.div_fin hb.ne', fl.round_recip q b hq hb⟩

/-- Every rational is a number: arithmetic without rounding. -/
def exact : FloatFormat where
  round := .fin
  round_recip := by
    intro q r hq hr
    exact one_div_pos.2 hr

end FloatFormat

/-! ## binary64 -/

namespace Binary64

/-- `2 ^ e`, also for negative `e`. -/
def pow2 (e : Int) : ℚ := if 0 ≤ e then 2 ^ e.toNat else 1 / 2 ^ (-e).toNat

theorem pow2_pos (e : Int) : 0 < pow2 e := by
  unfold pow2
  split <;> positivity

theorem pow2_eq_zpow (e : Int) : pow2 e = (2 : ℚ) ^ e := by
  unfold pow2
  by_cases h : 0 ≤ e
  · rw [if_pos h]
    conv_rhs => rw [← Int.toNat_of_nonneg h]
    rw [zpow_natCast]
  · have hneg : 0 ≤ -e := by omega
    rw [if_neg h, one_div, ← zpow_natCast, Int.toNat_of_nonneg hneg, zpow_neg, inv_inv]

/-- The exponent of the leading binary digit of a positive number. -/
def exponent (q : ℚ) : Int :=
  let k : Int := (Nat.log2 q.num.natAbs : Int) - (Nat.log2 q.den : Int)
  if pow2 k ≤ q then k else k - 1

/-- The exponent of the last place of a number of this magnitude: 53 digits, or the smallest
    exponent there is. -/
def ulp (q : ℚ) : Int := max (exponent |q| - 52) (-1074)

/-- The nearest multiple of the last place, ties to the even one; too large a result is
    infinite. -/
def round (q : ℚ) : Double :=
  let r := roundHalfEven (q / pow2 (ulp q)) * pow2 (ulp q)
  if 2 ^ 1024 ≤ |r| then .inf (r < 0) else .fin r

theorem pow2_exponent_le {q : ℚ} (hq : 0 < q) : pow2 (exponent q) ≤ q := by
  unfold exponent
  dsimp only
  split
  case isTrue h => exact h
  case isFalse h =>
    have hnum : q.num.natAbs ≠ 0 := by
      have := Rat.num_pos.2 hq
      omega
    have hlow : 2 ^ Nat.log2 q.num.natAbs ≤ q.num.natAbs := Nat.log2_self_le hnum
    have hhigh : q.den < 2 ^ (Nat.log2 q.den + 1) := Nat.lt_log2_self
    have hden : (0 : ℚ) < q.den := by exact_mod_cast q.den_pos
    have hval : q = (q.num.natAbs : ℚ) / q.den := by
      have habs : (q.num.natAbs : Int) = q.num := Int.natAbs_of_nonneg (Rat.num_pos.2 hq).le
      have hcast : (q.num.natAbs : ℚ) = (q.num : ℚ) := by rw [← Int.cast_natCast, habs]
      rw [hcast]
      exact (Rat.num_div_den q).symm
    rw [pow2_eq_zpow, zpow_sub₀ two_ne_zero, zpow_sub₀ two_ne_zero, zpow_natCast, zpow_natCast,
      zpow_one, div_div]
    conv_rhs => rw [hval]
    have hlow' : (2 : ℚ) ^ Nat.log2 q.num.natAbs ≤ (q.num.natAbs : ℚ) := by exact_mod_cast hlow
    have hhigh' : (q.den : ℚ) ≤ 2 ^ Nat.log2 q.den * 2 := by
      rw [← pow_succ]
      exact_mod_cast hhigh.le
    exact div_le_div₀ (by positivity) hlow' hden hhigh'

theorem one_le_roundHalfEven {x : ℚ} (h : 1 ≤ x) : 1 ≤ roundHalfEven x := by
  have hfloor : 1 ≤ x.floor := Rat.le_floor_iff.2 (by exact_mod_cast h)
  unfold roundHalfEven
  dsimp only
  repeat' split
  all_goals omega

/-- **A number not below the smallest subnormal does not round to zero.** -/
theorem round_pos {q : ℚ} (h : pow2 (-1074) ≤ q) : (round q).Pos := by
  have hq : 0 < q := (pow2_pos _).trans_le h
  have hulp : pow2 (ulp q) ≤ q := by
    unfold ulp
    rw [abs_of_pos hq]
    rcases max_choice (exponent q - 52) (-1074) with hmax | hmax
    · rw [hmax]
      refine le_trans ?_ (pow2_exponent_le hq)
      rw [pow2_eq_zpow, pow2_eq_zpow]
      exact zpow_le_zpow_right₀ one_le_two (by omega)
    · rw [hmax]
      exact h
  have hone : 1 ≤ q / pow2 (ulp q) := (one_le_div (pow2_pos _)).2 hulp
  have hround : (1 : ℚ) ≤ roundHalfEven (q / pow2 (ulp q)) := by
    exact_mod_cast one_le_roundHalfEven hone
  have hpos : 0 < (roundHalfEven (q / pow2 (ulp q)) : ℚ) * pow2 (ulp q) :=
    mul_pos (zero_lt_one.trans_le hround) (pow2_pos _)
  unfold round
  dsimp only
  split
  · simp [Double.Pos, hpos.le]
  · exact hpos

theorem abs_lt_of_round {q r : ℚ} (h : round q = .fin r) : |r| < 2 ^ 1024 := by
  unfold round at h
  dsimp only at h
  split at h
  case isTrue => simp at h
  case isFalse hlt =>
    obtain rfl := Double.fin.inj h
    exact not_le.1 hlt

end Binary64

/-- The 64-bit format. -/
def FloatFormat.binary64 : FloatFormat where
  round := Binary64.round
  round_recip := by
    intro q r hq hr
    have hlt : r < 2 ^ 1024 := (le_abs_self r).trans_lt (Binary64.abs_lt_of_round hq)
    refine Binary64.round_pos ?_
    calc Binary64.pow2 (-1074) ≤ 1 / 2 ^ 1024 := by
          rw [Binary64.pow2_eq_zpow, one_div, ← zpow_natCast, ← zpow_neg]
          exact zpow_le_zpow_right₀ one_le_two (by norm_num)
      _ ≤ 1 / r := one_div_le_one_div_of_le hr hlt.le

example : FloatFormat.binary64.round (1 / 3) = .fin (6004799503160661 / 2 ^ 54) := by
  decide +kernel
