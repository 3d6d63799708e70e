import Mathlib.Data.Int.Log
import Mathlib.Data.Rat.Floor
import Mathlib.Tactic.Linarith

/-! Binary floating-point formats: a rational is rounded to a multiple of the last place
of the number that stands for it. -/
set_option autoImplicit false

namespace Anyserial.Kit

/-- The nearest integer, and the even one of two that are equally near. -/
def roundHalfEven (value : ℚ) : ℤ :=
  let below := ⌊value⌋
  if value - below < 1 / 2 then below
  else if 1 / 2 < value - below then below + 1
  else if below % 2 = 0 then below else below + 1

section HalfEven

variable {value other : ℚ}

theorem floor_le_roundHalfEven (value : ℚ) : ⌊value⌋ ≤ roundHalfEven value := by
  dsimp only [roundHalfEven]
  split_ifs <;> omega

theorem roundHalfEven_le_floor (value : ℚ) : roundHalfEven value ≤ ⌊value⌋ + 1 := by
  dsimp only [roundHalfEven]
  split_ifs <;> omega

theorem roundHalfEven_nonneg (nonneg : 0 ≤ value) : 0 ≤ roundHalfEven value :=
  (Int.floor_nonneg.mpr nonneg).trans (floor_le_roundHalfEven value)

theorem roundHalfEven_mono (le : value ≤ other) : roundHalfEven value ≤ roundHalfEven other := by
  rcases (Int.floor_le_floor le).lt_or_eq with less | same
  · calc roundHalfEven value ≤ ⌊value⌋ + 1 := roundHalfEven_le_floor value
      _ ≤ ⌊other⌋ := less
      _ ≤ roundHalfEven other := floor_le_roundHalfEven other
  · -- on one unit interval only the distance to its lower end counts
    have closer : value - ⌊other⌋ ≤ other - ⌊other⌋ := sub_le_sub_right le _
    dsimp only [roundHalfEven]
    rw [same]
    split_ifs with low high even low' high' <;> first | omega | linarith

@[simp] theorem roundHalfEven_intCast (n : ℤ) : roundHalfEven n = n := by
  simp [roundHalfEven]

theorem abs_roundHalfEven_sub_le (value : ℚ) : |roundHalfEven value - value| ≤ 1 / 2 := by
  have lower : (⌊value⌋ : ℚ) ≤ value := Int.floor_le value
  have upper : value < ⌊value⌋ + 1 := Int.lt_floor_add_one value
  rw [abs_le]
  dsimp only [roundHalfEven]
  split_ifs <;> push_cast <;> constructor <;> linarith

end HalfEven

/-- The mantissas have `fraction` bits after the first one, the last place of the smallest
numbers has the exponent `minExponent`, and a size from `limit` on overflows. -/
structure FloatFormat where
  fraction : ℕ
  minExponent : ℤ
  limit : ℚ

namespace FloatFormat

variable (format : FloatFormat) {value other : ℚ}

/-- The exponent of the last place of the number that stands for a value. -/
def exponent (value : ℚ) : ℤ := max (Int.log 2 |value| - format.fraction) format.minExponent

/-- The last place itself. -/
def unit (value : ℚ) : ℚ := 2 ^ format.exponent value

/-- The nearest number, and the one with the even mantissa of two that are equally near. -/
def round (value : ℚ) : ℚ := roundHalfEven (value / format.unit value) * format.unit value

@[simp] theorem round_zero : format.round 0 = 0 := by
  have mantissa : roundHalfEven 0 = 0 := roundHalfEven_intCast 0
  simp [round, mantissa]

theorem unit_pos (value : ℚ) : 0 < format.unit value := zpow_pos two_pos _

theorem round_nonneg (nonneg : 0 ≤ value) : 0 ≤ format.round value := by
  have unit := format.unit_pos value
  have mantissa : 0 ≤ roundHalfEven (value / format.unit value) := roundHalfEven_nonneg (div_nonneg nonneg unit.le)
  exact mul_nonneg (by exact_mod_cast mantissa) unit.le

/-- The number is off by half a unit in its last place at most. -/
theorem abs_round_sub_le (value : ℚ) : |format.round value - value| ≤ format.unit value / 2 := by
  let unit := format.unit value
  have positive : 0 < unit := format.unit_pos value
  have scaled : format.round value - value = (roundHalfEven (value / unit) - value / unit) * unit := by
    rw [sub_mul, div_mul_cancel₀ value positive.ne']
    rfl
  calc |format.round value - value| = |roundHalfEven (value / unit) - value / unit| * unit := by
        rw [scaled, abs_mul, abs_of_pos positive]
    _ ≤ 1 / 2 * unit := mul_le_mul_of_nonneg_right (abs_roundHalfEven_sub_le _) positive.le
    _ = unit / 2 := by ring

/-- A multiple of the last place that is below the value is below the number. -/
theorem le_round {multiple : ℤ} (below : multiple * format.unit value ≤ value) :
    multiple * format.unit value ≤ format.round value := by
  have positive := format.unit_pos value
  have mantissa := roundHalfEven_mono ((le_div_iff₀ positive).mpr below)
  rw [roundHalfEven_intCast] at mantissa
  exact mul_le_mul_of_nonneg_right (by exact_mod_cast mantissa) positive.le

theorem round_le {multiple : ℤ} (above : value ≤ multiple * format.unit value) :
    format.round value ≤ multiple * format.unit value := by
  have positive := format.unit_pos value
  have mantissa := roundHalfEven_mono ((div_le_iff₀ positive).mpr above)
  rw [roundHalfEven_intCast] at mantissa
  exact mul_le_mul_of_nonneg_right (by exact_mod_cast mantissa) positive.le

theorem exponent_le_of_lt {place : ℤ} (positive : 0 < value) (small : value < 2 ^ (place + format.fraction + 1))
    (min : format.minExponent ≤ place) : format.exponent value ≤ place := by
  have log : Int.log 2 value < place + format.fraction + 1 :=
    (Int.lt_zpow_iff_log_lt Nat.one_lt_two positive).mp (by exact_mod_cast small)
  rw [exponent, abs_of_pos positive]
  exact max_le (by omega) min

/-- The format has every integer that its mantissa can hold. -/
theorem round_natCast {n : ℕ} (small : n < 2 ^ (format.fraction + 1)) (min : format.minExponent ≤ 0) :
    format.round n = n := by
  rcases n.eq_zero_or_pos with rfl | positive
  · exact_mod_cast format.round_zero
  have fractional : format.exponent n ≤ 0 := by
    refine format.exponent_le_of_lt (by exact_mod_cast positive) ?_ min
    rw [zero_add]
    exact_mod_cast small
  obtain ⟨places, same⟩ := Int.exists_eq_neg_ofNat fractional
  have multiple : (n : ℚ) = ((n * 2 ^ places : ℤ) : ℚ) * format.unit n := by
    rw [unit, same]
    push_cast
    rw [zpow_neg, zpow_natCast, mul_inv_cancel_right₀ (by positivity)]
  have above := format.round_le multiple.le
  have below := format.le_round multiple.ge
  rw [← multiple] at above below
  exact le_antisymm above below

theorem lt_unit_mul (value : ℚ) : |value| < ((2 ^ (format.fraction + 1) : ℤ) : ℚ) * format.unit value := by
  have log : Int.log 2 |value| + 1 ≤ (format.fraction + 1 : ℕ) + format.exponent value := by
    have := le_max_left (Int.log 2 |value| - format.fraction) format.minExponent
    rw [exponent]
    omega
  calc |value| < 2 ^ (Int.log 2 |value| + 1) := by exact_mod_cast Int.lt_zpow_succ_log_self Nat.one_lt_two |value|
    _ ≤ 2 ^ ((format.fraction + 1 : ℕ) + format.exponent value) := zpow_le_zpow_right₀ one_le_two log
    _ = ((2 ^ (format.fraction + 1) : ℤ) : ℚ) * format.unit value := by
        rw [zpow_add₀ two_ne_zero, zpow_natCast, unit]
        push_cast
        rfl

/-- A number above the smallest ones has a mantissa of full length. -/
theorem unit_mul_le (positive : 0 < value) (above : format.minExponent < format.exponent value) :
    ((2 ^ format.fraction : ℤ) : ℚ) * format.unit value ≤ value := by
  have log : format.fraction + format.exponent value = Int.log 2 value := by
    rw [exponent, abs_of_pos positive] at above ⊢
    omega
  calc ((2 ^ format.fraction : ℤ) : ℚ) * format.unit value = 2 ^ (format.fraction + format.exponent value) := by
        rw [zpow_add₀ two_ne_zero, zpow_natCast, unit]
        push_cast
        rfl
    _ = 2 ^ Int.log 2 value := by rw [log]
    _ ≤ value := by exact_mod_cast Int.zpow_log_le_self Nat.one_lt_two positive

theorem exponent_mono (positive : 0 < value) (le : value ≤ other) : format.exponent value ≤ format.exponent other := by
  rw [exponent, exponent, abs_of_pos positive, abs_of_pos (positive.trans_le le)]
  exact max_le_max_right _ (sub_le_sub_right (Int.log_mono_right positive le) _)

theorem round_mono (nonneg : 0 ≤ value) (le : value ≤ other) : format.round value ≤ format.round other := by
  rcases nonneg.eq_or_lt with rfl | positive
  · rw [round_zero]
    exact format.round_nonneg le
  rcases (format.exponent_mono positive le).eq_or_lt with same | less
  · have unit := format.unit_pos other
    have mantissa := roundHalfEven_mono (div_le_div_of_nonneg_right le unit.le)
    have place : format.unit value = format.unit other := congrArg (2 ^ ·) same
    rw [round, round, place]
    exact mul_le_mul_of_nonneg_right (by exact_mod_cast mantissa) unit.le
  · -- the places differ, and a power of two lies between the two numbers
    have below : value ≤ ((2 ^ (format.fraction + 1) : ℤ) : ℚ) * format.unit value :=
      (le_abs_self value).trans (format.lt_unit_mul value).le
    have above : ((2 ^ format.fraction : ℤ) : ℚ) * format.unit other ≤ other :=
      format.unit_mul_le (positive.trans_le le) ((le_max_right _ _).trans_lt less)
    have doubled : 2 * format.unit value ≤ format.unit other := by
      calc 2 * format.unit value = 2 ^ (1 + format.exponent value) := by rw [zpow_one_add₀ two_ne_zero, unit]
        _ ≤ format.unit other := zpow_le_zpow_right₀ one_le_two (by omega)
    calc format.round value ≤ ((2 ^ (format.fraction + 1) : ℤ) : ℚ) * format.unit value := format.round_le below
      _ = ((2 ^ format.fraction : ℤ) : ℚ) * (2 * format.unit value) := by
          push_cast
          ring
      _ ≤ ((2 ^ format.fraction : ℤ) : ℚ) * format.unit other := by gcongr
      _ ≤ format.round other := format.le_round above

end FloatFormat

/-- From this size on a value rounds to an infinity. -/
def doubleOverflow : ℚ := 2 ^ 1024 - 2 ^ 970

/-- The doubles. -/
def binary64 : FloatFormat := ⟨52, -1074, doubleOverflow⟩

end Anyserial.Kit
