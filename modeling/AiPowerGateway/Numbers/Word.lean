import Mathlib.Algebra.Ring.Nat

/-!
# Words that remember an overflow

A 64-bit word that wraps when a sum does not fit and remembers that one did not.  Sums
of such words are the images of sums of natural numbers.
-/

namespace AiPowerGateway.Numbers

structure Word where
  value : UInt64
  /-- Some sum on the way did not fit. -/
  overflowed : Bool
  deriving DecidableEq, Repr

namespace Word

instance : Zero Word := ⟨⟨0, false⟩⟩

instance : Add Word where
  add first second :=
    { value := first.value + second.value
      overflowed := first.overflowed || second.overflowed ||
        decide (2 ^ 64 ≤ first.value.toNat + second.value.toNat) }

/-- The word that a sum of natural numbers leaves. -/
def ofNat (n : Nat) : Word := ⟨UInt64.ofNat n, decide (2 ^ 64 ≤ n)⟩

theorem ofNat_zero : ofNat 0 = 0 := rfl

theorem ofNat_toNat (value : UInt64) : ofNat value.toNat = ⟨value, false⟩ := by
  have fits : ¬ 2 ^ 64 ≤ value.toNat := Nat.not_le.mpr value.toNat_lt
  rw [ofNat, decide_eq_false fits, UInt64.ofNat_toNat]

theorem overflowed_ofNat {n : Nat} : (ofNat n).overflowed = false ↔ n < 2 ^ 64 := by
  rw [ofNat, decide_eq_false_iff_not, Nat.not_le]

theorem toNat_ofNat {n : Nat} (fits : n < 2 ^ 64) : (ofNat n).value.toNat = n := by
  rw [ofNat, UInt64.toNat_ofNat', Nat.mod_eq_of_lt fits]

/-- A sum overflows when a summand has or the values do not fit together. -/
theorem ofNat_add (m n : Nat) : ofNat (m + n) = ofNat m + ofNat n := by
  have flags : decide (2 ^ 64 ≤ m + n) =
      ((ofNat m).overflowed || (ofNat n).overflowed ||
        decide (2 ^ 64 ≤ (ofNat m).value.toNat + (ofNat n).value.toNat)) := by
    by_cases first : m < 2 ^ 64
    · by_cases second : n < 2 ^ 64
      · rw [overflowed_ofNat.mpr first, overflowed_ofNat.mpr second, toNat_ofNat first,
          toNat_ofNat second, Bool.false_or, Bool.false_or]
      · have large : 2 ^ 64 ≤ n := Nat.not_lt.mp second
        have flagged : (ofNat n).overflowed = true := decide_eq_true large
        rw [flagged, Bool.or_true, Bool.true_or]
        exact decide_eq_true (Nat.le_trans large (Nat.le_add_left n m))
    · have large : 2 ^ 64 ≤ m := Nat.not_lt.mp first
      have flagged : (ofNat m).overflowed = true := decide_eq_true large
      rw [flagged, Bool.true_or, Bool.true_or]
      exact decide_eq_true (Nat.le_trans large (Nat.le_add_right m n))
  show Word.mk (UInt64.ofNat (m + n)) _ = Word.mk (UInt64.ofNat m + UInt64.ofNat n) _
  rw [UInt64.ofNat_add, flags]

/-- Values that fit keep the order of the numbers. -/
theorem value_le_value {m n : Nat} (le : m ≤ n) (fits : n < 2 ^ 64) :
    (ofNat m).value ≤ (ofNat n).value := by
  rw [UInt64.le_iff_toNat_le, toNat_ofNat (Nat.lt_of_le_of_lt le fits), toNat_ofNat fits]
  exact le

end Word

end AiPowerGateway.Numbers
