import Mathlib.Data.Rat.Floor
import Mathlib.Tactic.Linarith
import Mathlib.Tactic.Positivity

set_option autoImplicit false

/-! # Rounding and number formatting

Python's `round` (ties to even) and the `,`-grouped fixed-point formats, on exact rationals. -/

/-- `round(q)`: the nearest integer, ties to the even one. -/
def roundHalfEven (q : ℚ) : Int :=
  let f := q.floor
  let r := q - f
  if r < 1 / 2 then f
  else if 1 / 2 < r then f + 1
  else if f % 2 = 0 then f
  else f + 1

/-- `round(q, digits)`. -/
def roundDigits (q : ℚ) (digits : Nat) : ℚ :=
  roundHalfEven (q * 10 ^ digits) / 10 ^ digits

/-- Rounding to an integer is off by a half at most. -/
theorem abs_roundHalfEven_sub_le (q : ℚ) : |(roundHalfEven q : ℚ) - q| ≤ 1 / 2 := by
  have hle : (⌊q⌋ : ℚ) ≤ q := Int.floor_le q
  have hlt : q < ⌊q⌋ + 1 := Int.lt_floor_add_one q
  have hfloor : q.floor = ⌊q⌋ := rfl
  unfold roundHalfEven
  rw [hfloor, abs_le]
  dsimp only
  split_ifs with hlow hhigh heven
  · constructor <;> linarith
  · push_cast
    constructor <;> linarith
  · constructor <;> linarith
  · push_cast
    constructor <;> linarith

/-- Rounding to `digits` places is off by half a unit of the last place at most. -/
theorem abs_roundDigits_sub_le (q : ℚ) (digits : Nat) :
    |roundDigits q digits - q| ≤ 1 / 2 / 10 ^ digits := by
  have hpow : (0 : ℚ) < 10 ^ digits := by positivity
  have hdiff : roundDigits q digits - q
      = (roundHalfEven (q * 10 ^ digits) - q * 10 ^ digits) / 10 ^ digits := by
    unfold roundDigits
    rw [sub_div, mul_div_cancel_right₀ q hpow.ne']
  rw [hdiff, abs_div, abs_of_pos hpow]
  exact div_le_div_of_nonneg_right (abs_roundHalfEven_sub_le _) hpow.le

theorem roundHalfEven_nonneg {q : ℚ} (h : 0 ≤ q) : 0 ≤ roundHalfEven q := by
  have hfloor : 0 ≤ q.floor := Rat.le_floor_iff.2 (by exact_mod_cast h)
  unfold roundHalfEven
  dsimp only
  repeat' split
  all_goals omega

theorem roundDigits_nonneg {q : ℚ} (digits : Nat) (h : 0 ≤ q) : 0 ≤ roundDigits q digits := by
  have hround : 0 ≤ roundHalfEven (q * 10 ^ digits) := roundHalfEven_nonneg (by positivity)
  have hcast : (0 : ℚ) ≤ roundHalfEven (q * 10 ^ digits) := by exact_mod_cast hround
  unfold roundDigits
  positivity

/-- What is less than a half away from an integer is rounded to it. -/
theorem roundHalfEven_eq {q : ℚ} {k : Int} (hlo : k - 1 / 2 < q) (hhi : q < k + 1 / 2) :
    roundHalfEven q = k := by
  obtain ⟨hge, hle⟩ := abs_le.1 (abs_roundHalfEven_sub_le q)
  have hlt : (roundHalfEven q : ℚ) < k + 1 := by linarith
  have hgt : (k : ℚ) < roundHalfEven q + 1 := by linarith
  have hlt' : roundHalfEven q < k + 1 := by exact_mod_cast hlt
  have hgt' : k < roundHalfEven q + 1 := by exact_mod_cast hgt
  omega

/-- Ties go to the even neighbour. -/
theorem roundHalfEven_add_half (k : Int) :
    roundHalfEven (k + 1 / 2) = if k % 2 = 0 then k else k + 1 := by
  have hfloor : ⌊(k : ℚ) + 1 / 2⌋ = k := by
    refine Int.floor_eq_iff.2 ⟨?_, ?_⟩ <;> linarith
  have hrat : ((k : ℚ) + 1 / 2).floor = k := hfloor
  unfold roundHalfEven
  rw [hrat]
  simp

/-- What is rounded to an even integer or below it. -/
theorem roundHalfEven_le_iff {q : ℚ} {k : Int} (hk : k % 2 = 0) :
    roundHalfEven q ≤ k ↔ q ≤ k + 1 / 2 := by
  obtain ⟨hge, hle⟩ := abs_le.1 (abs_roundHalfEven_sub_le q)
  constructor
  · intro h
    have hcast : (roundHalfEven q : ℚ) ≤ k := by exact_mod_cast h
    linarith
  · intro h
    rcases h.lt_or_eq with hlt | rfl
    · have hcast : (roundHalfEven q : ℚ) < k + 1 := by linarith
      exact Int.lt_add_one_iff.1 (by exact_mod_cast hcast)
    · rw [roundHalfEven_add_half, if_pos hk]

theorem roundHalfEven_mono {q r : ℚ} (h : q ≤ r) : roundHalfEven q ≤ roundHalfEven r := by
  obtain ⟨hge, -⟩ := abs_le.1 (abs_roundHalfEven_sub_le r)
  obtain ⟨-, hle⟩ := abs_le.1 (abs_roundHalfEven_sub_le q)
  by_contra hlt
  -- both sides would be the same half
  have hcast : (roundHalfEven r : ℚ) + 1 ≤ roundHalfEven q := by exact_mod_cast not_le.1 hlt
  obtain rfl : q = r := by linarith
  exact hlt le_rfl

/-- Adding a half and rounding is rounding up where there is something to round. -/
theorem roundHalfEven_add_half_of_ne {x : ℚ} (h : x ≠ ⌈x⌉) :
    roundHalfEven (x + 1 / 2) = ⌈x⌉ := by
  have hle : x < ⌈x⌉ := lt_of_le_of_ne (Int.le_ceil x) h
  have hgt : (⌈x⌉ : ℚ) < x + 1 := Int.ceil_lt_add_one x
  refine roundHalfEven_eq ?_ ?_ <;> linarith

/-- Group the decimal digits of a number in threes, as the format option `,` does. -/
def groupThousands (digits : List Char) : List Char :=
  let rec go : List Char → Nat → List Char
    | [], _ => []
    | c :: rest, i => if i = 3 then ',' :: c :: go rest 1 else c :: go rest (i + 1)
  (go digits.reverse 0).reverse

/-- `f"{i:,}"`. -/
def formatInt (i : Int) : String :=
  (if i < 0 then "-" else "") ++ String.ofList (groupThousands (toString i.natAbs).toList)

/-- `f"{q:,.{digits}f}"`. -/
def formatFixed (q : ℚ) (digits : Nat) : String :=
  let scaled := (roundHalfEven (|q| * 10 ^ digits)).natAbs
  let whole := scaled / 10 ^ digits
  let frac := (toString (scaled % 10 ^ digits)).toList
  (if q < 0 then "-" else "") ++ String.ofList (groupThousands (toString whole).toList) ++
    if digits = 0 then "" else
      "." ++ String.ofList (List.replicate (digits - frac.length) '0' ++ frac)
