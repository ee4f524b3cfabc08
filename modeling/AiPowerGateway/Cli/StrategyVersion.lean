import AiPowerGateway.Cli.Preflight
import AiPowerGateway.Encodings.Codec

/-!
# The version of a summary

The leader hashes the names of its rules, the limit and the ban of a member, one after the
other.  The bytes that are hashed tell all of them, and a change of one byte, such as a ban,
changes the version.
-/

namespace AiPowerGateway.Share

open Fnv

/-- What is hashed: the names, each with a byte that no name has, the limit, and the ban. -/
def strategyBytes (rules : List String) (limit : UInt64) (banned : Bool) : List UInt8 :=
  terminated Text.utf8 0xff rules ++ toLeBytes limit ++ [if banned then 99 else 98]

theorem foldl_absorbAll (rules : List String) (hash : UInt64) :
    rules.foldl (fun hash rule => absorbAll (absorbAll hash (Text.utf8 rule)) [0xff]) hash =
      absorbAll hash (terminated Text.utf8 0xff rules) := by
  induction rules generalizing hash with
  | nil => rfl
  | cons rule rules ih =>
      rw [List.foldl_cons, ih, ← absorbAll_append, ← absorbAll_append]
      simp [terminated]

theorem strategyVersion_eq (rules : List String) (limit : UInt64) (banned : Bool) :
    strategyVersion rules limit banned =
      absorbAll 0xcbf29ce484222325 (strategyBytes rules limit banned) := by
  rw [strategyVersion, foldl_absorbAll, ← absorbAll_append, ← absorbAll_append,
    strategyBytes, List.append_assoc]

@[simp] theorem length_toLeBytes (number : UInt64) : (toLeBytes number).length = 8 := by
  simp [toLeBytes]

/-- Numbers with the same digits up to a place are the same up to there. -/
theorem mod_pow_eq_of_digits {base first second : Nat} (count : Nat)
    (digits : ∀ index < count, first / base ^ index % base = second / base ^ index % base) :
    first % base ^ count = second % base ^ count := by
  induction count with
  | zero => rw [Nat.pow_zero, Nat.mod_one, Nat.mod_one]
  | succ count ih =>
      have lower := ih fun index inside => digits index (Nat.lt_succ_of_lt inside)
      rw [Nat.mod_pow_succ, Nat.mod_pow_succ, lower, digits count (Nat.lt_succ_self count)]

theorem toLeBytes_injective : Function.Injective toLeBytes := by
  intro first second same
  have digit (index : Nat) (inside : index < 8) :
      first.toNat / 256 ^ index % 256 = second.toNat / 256 ^ index % 256 := by
    have bytes := congrArg UInt8.toNat
      (List.map_inj_left.mp same index (List.mem_range.mpr inside))
    have shift : 8 * index % 64 = 8 * index := by omega
    have power : 256 ^ index = 2 ^ (8 * index) := (Nat.pow_mul 2 8 index).symm
    rw [power]
    simpa [UInt64.toNat_shiftRight, Nat.shiftRight_eq_div_pow, shift] using bytes
  have numbers : first.toNat % 2 ^ 64 = second.toNat % 2 ^ 64 := mod_pow_eq_of_digits 8 digit
  rw [Nat.mod_eq_of_lt first.toNat_lt, Nat.mod_eq_of_lt second.toNat_lt] at numbers
  exact UInt64.toNat.inj numbers

theorem strategyBytes_inj {rules others : List String} {limit otherLimit : UInt64}
    {banned otherBanned : Bool} :
    strategyBytes rules limit banned = strategyBytes others otherLimit otherBanned ↔
      rules = others ∧ limit = otherLimit ∧ banned = otherBanned := by
  constructor
  · intro same
    obtain ⟨front, back⟩ := List.append_inj' same rfl
    obtain ⟨names, limits⟩ := List.append_inj' front (by simp)
    refine ⟨terminated_injective Text.utf8_injective Text.ones_notMem_utf8 names,
      toLeBytes_injective limits, ?_⟩
    cases banned <;> cases otherBanned <;> first | rfl | cases back
  · rintro ⟨rfl, rfl, rfl⟩
    rfl

/--
The bytes behind a version tell the rules, the limit and the ban.  Where those of two
summaries are the same but for one byte, the versions are the same only if the summaries are;
so a ban alone, or its end, always changes the version.
-/
theorem strategy_version_tells (rules others : List String) (limit otherLimit : UInt64)
    (banned otherBanned : Bool) :
    (strategyBytes rules limit banned = strategyBytes others otherLimit otherBanned ↔
        rules = others ∧ limit = otherLimit ∧ banned = otherBanned) ∧
      (∀ front byte changed back, strategyBytes rules limit banned = front ++ byte :: back →
        strategyBytes others otherLimit otherBanned = front ++ changed :: back →
          (strategyVersion rules limit banned = strategyVersion others otherLimit otherBanned ↔
            rules = others ∧ limit = otherLimit ∧ banned = otherBanned)) ∧
      (strategyVersion rules limit banned = strategyVersion rules limit otherBanned ↔
        banned = otherBanned) := by
  have alike (front : List UInt8) (byte changed : UInt8) (back : List UInt8)
      {someRules : List String} {someLimit : UInt64} {someBanned : Bool}
      (first : strategyBytes rules limit banned = front ++ byte :: back)
      (second : strategyBytes someRules someLimit someBanned = front ++ changed :: back) :
      strategyVersion rules limit banned = strategyVersion someRules someLimit someBanned ↔
        rules = someRules ∧ limit = someLimit ∧ banned = someBanned := by
    rw [strategyVersion_eq, strategyVersion_eq, ← strategyBytes_inj, first, second,
      absorbAll_replace_iff]
    simp
  refine ⟨strategyBytes_inj, fun front byte changed back => alike front byte changed back, ?_⟩
  rw [alike _ _ _ [] rfl rfl]
  simp

end AiPowerGateway.Share
