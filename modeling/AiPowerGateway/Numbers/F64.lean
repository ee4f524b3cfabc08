import Mathlib.Data.Int.Log
import Mathlib.Data.Rat.Floor
import Mathlib.Tactic.Linarith

/-!
# Doubles by their values

The finite numbers of 53 binary digits, the last of them at the place `-1074` or above.  Of
the numbers beyond the largest double nothing is said, and the two zeros are one.
-/

namespace AiPowerGateway.Numbers

/-- The nearest integer, of two the even one. -/
def roundEven (q : ℚ) : ℤ :=
  if q - ⌊q⌋ < 1 / 2 ∨ q - ⌊q⌋ = 1 / 2 ∧ Even ⌊q⌋ then ⌊q⌋ else ⌊q⌋ + 1

/-- The place of the last binary digit that is kept. -/
def lastPlace (q : ℚ) : ℤ := max (Int.log 2 |q| - 52) (-1074)

/-- The kept digits, as an integer. -/
def digits (q : ℚ) : ℤ := roundEven (q / 2 ^ lastPlace q)

/-- The nearest double. -/
def nearest (q : ℚ) : ℚ := digits q * 2 ^ lastPlace q

theorem two_zpow_pos (place : ℤ) : (0 : ℚ) < 2 ^ place := zpow_pos two_pos place

theorem roundEven_intCast (n : ℤ) : roundEven n = n := by
  simp [roundEven]

theorem abs_roundEven_le {q : ℚ} {bound : ℤ} (within : |q| ≤ bound) : |roundEven q| ≤ bound := by
  obtain ⟨low, high⟩ := abs_le.mp within
  have floor_low : -bound ≤ ⌊q⌋ := Int.le_floor.mpr (by push_cast; exact low)
  have floor_high : ⌊q⌋ ≤ bound := by exact_mod_cast (Int.floor_le q).trans high
  unfold roundEven
  split
  · exact abs_le.mpr ⟨floor_low, floor_high⟩
  · next up =>
      -- an integer is not rounded up, so the bound is not reached
      have below : ⌊q⌋ < bound := by
        refine lt_of_le_of_ne floor_high fun same => up (Or.inl ?_)
        have whole : q ≤ ⌊q⌋ := by rw [same]; exact high
        linarith
      exact abs_le.mpr ⟨by omega, by omega⟩

/-- A number with whole digits at its last place is its own nearest double. -/
theorem nearest_of_whole {q : ℚ} {m : ℤ} (whole : q = m * 2 ^ lastPlace q) : nearest q = q := by
  have same : digits q = m := by
    rw [digits, div_eq_of_eq_mul (two_zpow_pos _).ne' whole, roundEven_intCast]
  rw [nearest, same, ← whole]

theorem nearest_of_lt {m place : ℤ} (few : |m| < 2 ^ 53) (low : -1074 ≤ place) :
    nearest (m * 2 ^ place) = m * 2 ^ place := by
  by_cases zero : m = 0
  · exact nearest_of_whole (m := 0) (by simp [zero])
  · set q : ℚ := m * 2 ^ place with value
    have magnitude : |q| = |m| * 2 ^ place := by
      rw [value, abs_mul, abs_of_pos (two_zpow_pos place), Int.cast_abs]
    have positive : 0 < |q| := by
      rw [magnitude]
      have digit : (0 : ℚ) < (|m| : ℤ) := by exact_mod_cast abs_pos.mpr zero
      exact mul_pos digit (two_zpow_pos place)
    have bound : |q| < 2 ^ (53 + place) := by
      rw [magnitude, zpow_add₀ two_ne_zero]
      have digit : ((|m| : ℤ) : ℚ) < 2 ^ (53 : ℤ) := by exact_mod_cast few
      exact mul_lt_mul_of_pos_right digit (two_zpow_pos place)
    have log : Int.log 2 |q| < 53 + place := by
      have below : ((2 : ℕ) : ℚ) ^ Int.log 2 |q| ≤ |q| := Int.zpow_log_le_self one_lt_two positive
      exact (zpow_lt_zpow_iff_right₀ one_lt_two).mp (lt_of_le_of_lt below bound)
    have kept : lastPlace q ≤ place := max_le (by omega) low
    obtain ⟨gap, rest⟩ := Int.le.dest kept
    have shifted : q = (m * 2 ^ gap : ℤ) * 2 ^ lastPlace q := by
      have split : (2 : ℚ) ^ place = 2 ^ lastPlace q * 2 ^ gap := by
        rw [← rest, zpow_add₀ two_ne_zero, zpow_natCast]
      push_cast
      rw [← mul_right_comm, mul_assoc, ← split]
    exact nearest_of_whole shifted

/-- Rounding up may leave one digit more, which is a zero. -/
theorem nearest_of_le {m place : ℤ} (few : |m| ≤ 2 ^ 53) (low : -1074 ≤ place) :
    nearest (m * 2 ^ place) = m * 2 ^ place := by
  rcases lt_or_eq_of_le few with less | full
  · exact nearest_of_lt less low
  · have half (n : ℤ) (small : |n| < 2 ^ 53) (twice : m = n * 2) :
        nearest (m * 2 ^ place) = m * 2 ^ place := by
      have shifted : (m : ℚ) * 2 ^ place = n * 2 ^ (1 + place) := by
        rw [twice, zpow_add₀ two_ne_zero]
        push_cast
        ring
      rw [shifted]
      exact nearest_of_lt small (by omega)
    rcases (abs_eq (by positivity)).mp full with up | down
    · exact half (2 ^ 52) (by norm_num) (by rw [up]; norm_num)
    · exact half (-2 ^ 52) (by norm_num) (by rw [down]; norm_num)

theorem abs_digits_le (q : ℚ) : |digits q| ≤ 2 ^ 53 := by
  refine abs_roundEven_le ?_
  have positive := two_zpow_pos (lastPlace q)
  have below : |q| < ((2 : ℕ) : ℚ) ^ (Int.log 2 |q| + 1) := Int.lt_zpow_succ_log_self one_lt_two _
  have place : Int.log 2 |q| + 1 ≤ 53 + lastPlace q := by
    have kept : Int.log 2 |q| - 52 ≤ lastPlace q := le_max_left _ _
    omega
  rw [abs_div, abs_of_pos positive, div_le_iff₀ positive]
  have bound := below.le.trans (zpow_le_zpow_right₀ (by norm_num) place)
  rw [zpow_add₀ (by norm_num)] at bound
  exact_mod_cast bound

/-- The nearest double is a double. -/
theorem nearest_nearest (q : ℚ) : nearest (nearest q) = nearest q :=
  nearest_of_le (abs_digits_le q) (le_max_right _ _)

/-- A double. -/
def F64 := {q : ℚ // nearest q = q}
  deriving DecidableEq, Repr

def F64.ofRat (q : ℚ) : F64 := ⟨nearest q, nearest_nearest q⟩

@[simp] theorem F64.ofRat_val (double : F64) : ofRat double.val = double :=
  Subtype.ext double.property

end AiPowerGateway.Numbers
