import Mathlib.Data.Finset.Prod

/-!
# Resources held by owners

Owners that each hold some resources, and a plain set that is meant to list every
resource with a holder.  The plain set knows no owners: when an owner gives up what
it holds, somebody has to say which resources to strike off.
-/

namespace AiPowerGateway.Holds

variable {ο ρ : Type*} {plain : Finset ρ} {held : Finset (ο × ρ)}

/-- The plain set lists exactly the resources that have a holder. -/
def Covers (plain : Finset ρ) (held : Finset (ο × ρ)) : Prop :=
  ∀ resource, resource ∈ plain ↔ ∃ owner, (owner, resource) ∈ held

theorem covers_empty : Covers (∅ : Finset ρ) (∅ : Finset (ο × ρ)) := by
  intro resource
  simp

/-- What is held once an owner holds nothing. -/
def release [DecidableEq ο] (owner : ο) (held : Finset (ο × ρ)) : Finset (ο × ρ) :=
  held.filter fun entry => entry.1 ≠ owner

/-- One resource says all about an owner: nobody else holds it, and whatever else
the owner holds has another holder. -/
structure SpokenFor (held : Finset (ο × ρ)) (owner : ο) (resource : ρ) : Prop where
  unshared : ∀ other, other ≠ owner → (other, resource) ∉ held
  rest_shared : ∀ more, (owner, more) ∈ held → more ≠ resource →
    ∃ other, other ≠ owner ∧ (other, more) ∈ held

@[simp] theorem mem_release [DecidableEq ο] {owner : ο} {entry : ο × ρ} :
    entry ∈ release owner held ↔ entry ∈ held ∧ entry.1 ≠ owner := Finset.mem_filter

variable [DecidableEq ο] [DecidableEq ρ]

theorem Covers.insert (covers : Covers plain held) (owner : ο) (resource : ρ) :
    Covers (insert resource plain) (insert (owner, resource) held) := by
  intro other
  rw [Finset.mem_insert, covers other]
  constructor
  · rintro (rfl | ⟨holder, mem⟩)
    · exact ⟨owner, Finset.mem_insert_self _ _⟩
    · exact ⟨holder, Finset.mem_insert_of_mem mem⟩
  · rintro ⟨holder, mem⟩
    rcases Finset.mem_insert.mp mem with same | mem
    · exact Or.inl (congrArg Prod.snd same)
    · exact Or.inr ⟨holder, mem⟩

/-- Striking off one resource is right exactly when it says all about the owner. -/
theorem Covers.erase_release_iff (covers : Covers plain held) (owner : ο) (resource : ρ) :
    Covers (plain.erase resource) (release owner held) ↔ SpokenFor held owner resource := by
  constructor
  · intro after
    constructor
    · intro other differ mem
      have listed := (after resource).mpr ⟨other, mem_release.mpr ⟨mem, differ⟩⟩
      exact Finset.notMem_erase resource plain listed
    · intro more mem differ
      have listed := Finset.mem_erase.mpr ⟨differ, (covers more).mpr ⟨owner, mem⟩⟩
      obtain ⟨other, stays⟩ := (after more).mp listed
      exact ⟨other, (mem_release.mp stays).2, (mem_release.mp stays).1⟩
  · intro all more
    rw [Finset.mem_erase, covers more]
    constructor
    · rintro ⟨differ, holder, mem⟩
      by_cases own : holder = owner
      · obtain ⟨other, foreign, shared⟩ := all.rest_shared more (own ▸ mem) differ
        exact ⟨other, mem_release.mpr ⟨shared, foreign⟩⟩
      · exact ⟨holder, mem_release.mpr ⟨mem, own⟩⟩
    · rintro ⟨holder, stays⟩
      obtain ⟨mem, foreign⟩ := mem_release.mp stays
      refine ⟨?_, holder, mem⟩
      rintro rfl
      exact all.unshared holder foreign mem

end AiPowerGateway.Holds
