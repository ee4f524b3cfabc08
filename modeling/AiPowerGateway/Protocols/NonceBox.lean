import Mathlib.Data.List.Basic

/-!
# Boxes that carry their nonce

A symmetric cipher that opens exactly what was sealed under the same key and nonce,
and messages that put the nonce of a sealing in front of it.
-/

namespace AiPowerGateway.NonceBox

/-- Sealing adds a tag, and nothing but a sealing opens. -/
structure Cipher (κ β : Type*) (nonceLen tagLen : Nat) where
  sealWith : κ → List β → List β → List β
  openWith? : κ → List β → List β → Option (List β)
  length_sealWith : ∀ key nonce plain,
    (sealWith key nonce plain).length = plain.length + tagLen
  openWith?_eq_some : ∀ key nonce sealing plain,
    openWith? key nonce sealing = some plain ↔ sealing = sealWith key nonce plain

namespace Cipher

variable {κ β : Type*} {nonceLen tagLen : Nat} (cipher : Cipher κ β nonceLen tagLen)

def box (key : κ) (nonce plain : List β) : List β := nonce ++ cipher.sealWith key nonce plain

/-- Open a box; what is too short to hold a nonce and a tag is none. -/
def unbox? (key : κ) (raw : List β) : Option (List β) :=
  if raw.length < nonceLen + tagLen then none
  else cipher.openWith? key (raw.take nonceLen) (raw.drop nonceLen)

theorem length_box (key : κ) (nonce plain : List β) :
    (cipher.box key nonce plain).length = nonce.length + (plain.length + tagLen) := by
  rw [box, List.length_append, cipher.length_sealWith]

/-- The boxes under a key are what opens under it. -/
theorem unbox?_eq_some {key : κ} {raw plain : List β} :
    cipher.unbox? key raw = some plain ↔
      ∃ nonce, nonce.length = nonceLen ∧ raw = cipher.box key nonce plain := by
  unfold unbox?
  constructor
  · intro opened
    split at opened
    · cases opened
    · rename_i long
      refine ⟨raw.take nonceLen, ?_, ?_⟩
      · rw [List.length_take]
        omega
      · rw [box, ← (cipher.openWith?_eq_some _ _ _ _).mp opened, List.take_append_drop]
  · rintro ⟨nonce, size, rfl⟩
    have long : ¬ (cipher.box key nonce plain).length < nonceLen + tagLen := by
      rw [length_box]
      omega
    rw [if_neg long, cipher.openWith?_eq_some, box, List.drop_left' size, List.take_left' size]

@[simp] theorem unbox?_box {key : κ} {nonce plain : List β} (size : nonce.length = nonceLen) :
    cipher.unbox? key (cipher.box key nonce plain) = some plain :=
  cipher.unbox?_eq_some.mpr ⟨nonce, size, rfl⟩

end Cipher

end AiPowerGateway.NonceBox
