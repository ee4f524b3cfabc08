import Mathlib.Data.List.Basic

/-!
# FNV-1a

The hash of 64 bits that takes in one byte after the other.  Nothing is lost on the way:
a byte taken in can be told from every other byte, and what two different hashes take in
keeps them apart.  So one changed byte always changes the hash.
-/

namespace AiPowerGateway.Fnv

def prime : UInt64 := 0x100000001b3

/-- The inverse of the prime. -/
def unprime : UInt64 := 0xce965057aff6957b

def absorb (hash : UInt64) (byte : UInt8) : UInt64 := (hash ^^^ byte.toUInt64) * prime

def absorbAll (hash : UInt64) (bytes : List UInt8) : UInt64 := bytes.foldl absorb hash

theorem prime_mul_unprime : prime * unprime = 1 := by decide

theorem mul_prime_injective {first second : UInt64} (same : first * prime = second * prime) :
    first = second := by
  have undone := congrArg (· * unprime) same
  simpa only [UInt64.mul_assoc, prime_mul_unprime, UInt64.mul_one] using undone

/-- Different hashes stay different. -/
theorem absorb_hash_injective (byte : UInt8) : Function.Injective fun hash => absorb hash byte :=
  fun _ _ same => (UInt64.xor_left_inj _).mp (mul_prime_injective same)

/-- Different bytes make different hashes. -/
theorem absorb_byte_injective (hash : UInt64) : Function.Injective (absorb hash) := by
  intro first second same
  have wide := (UInt64.xor_right_inj _).mp (mul_prime_injective same)
  exact UInt8.toUInt64_inj.mp wide

@[simp] theorem absorbAll_nil (hash : UInt64) : absorbAll hash [] = hash := rfl

@[simp] theorem absorbAll_cons (hash : UInt64) (byte : UInt8) (bytes : List UInt8) :
    absorbAll hash (byte :: bytes) = absorbAll (absorb hash byte) bytes := rfl

theorem absorbAll_append (hash : UInt64) (front back : List UInt8) :
    absorbAll hash (front ++ back) = absorbAll (absorbAll hash front) back := List.foldl_append

theorem absorbAll_injective (bytes : List UInt8) :
    Function.Injective fun hash => absorbAll hash bytes := by
  induction bytes with
  | nil => exact fun _ _ same => same
  | cons byte bytes ih => exact fun _ _ same => absorb_hash_injective byte (ih same)

/-- One byte in the place of another changes the hash. -/
theorem absorbAll_replace_iff (hash : UInt64) (front back : List UInt8) (byte changed : UInt8) :
    absorbAll hash (front ++ byte :: back) = absorbAll hash (front ++ changed :: back) ↔
      byte = changed := by
  rw [absorbAll_append, absorbAll_append, absorbAll_cons, absorbAll_cons]
  constructor
  · intro same
    exact absorb_byte_injective _ (absorbAll_injective back same)
  · rintro rfl
    rfl

end AiPowerGateway.Fnv
