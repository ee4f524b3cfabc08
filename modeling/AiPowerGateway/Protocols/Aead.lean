import AiPowerGateway.Protocols.NonceBox

/-!
# Ciphers with a longest message

A cipher seals a message only up to some length, and opens nothing that has no room for
a tag.
-/

namespace AiPowerGateway.NonceBox

/-- Authenticated encryption of messages that are not too long. -/
structure Aead (κ ν β : Type*) (tagLen : Nat) where
  maxLen : Nat
  seal? : κ → ν → List β → Option (List β)
  open? : κ → ν → List β → Option (List β)
  isSome_seal? : ∀ key nonce plain, (seal? key nonce plain).isSome ↔ plain.length ≤ maxLen
  open?_of_seal? : ∀ {key nonce plain sealing}, seal? key nonce plain = some sealing →
    open? key nonce sealing = some plain
  open?_of_short : ∀ {key nonce sealing}, sealing.length < tagLen →
    open? key nonce sealing = none

namespace Cipher

/-- The cipher that only adds a tag. -/
def tagging {κ β : Type*} [DecidableEq β] (nonceLen : Nat) (tag : List β) :
    Cipher κ β nonceLen tag.length where
  sealWith _ _ plain := plain ++ tag
  openWith? _ _ sealing :=
    if tag <:+ sealing then some (sealing.take (sealing.length - tag.length)) else none
  length_sealWith _ _ _ := List.length_append
  openWith?_eq_some _ _ sealing plain := by
    constructor
    · intro opened
      split at opened
      · rename_i tagged
        obtain ⟨front, rfl⟩ := tagged
        simpa using Option.some.inj opened
      · cases opened
    · rintro rfl
      simp

variable {κ β : Type*} {nonceLen tagLen : Nat} (cipher : Cipher κ β nonceLen tagLen)

theorem openWith?_of_short {key : κ} {nonce sealing : List β} (short : sealing.length < tagLen) :
    cipher.openWith? key nonce sealing = none := by
  cases opened : cipher.openWith? key nonce sealing with
  | none => rfl
  | some plain =>
      rw [(cipher.openWith?_eq_some key nonce sealing plain).mp opened,
        cipher.length_sealWith] at short
      omega

/-- A cipher that is used for messages up to a length. -/
def aead (maxLen : Nat) : Aead κ { nonce : List β // nonce.length = nonceLen } β tagLen where
  maxLen := maxLen
  seal? key nonce plain :=
    if plain.length ≤ maxLen then some (cipher.sealWith key nonce plain) else none
  open? key nonce sealing := cipher.openWith? key nonce sealing
  isSome_seal? key nonce plain := by split <;> simp [*]
  open?_of_seal? := by
    intro key nonce plain sealing sealed
    split at sealed
    · exact (cipher.openWith?_eq_some _ _ _ _).mpr (Option.some.inj sealed).symm
    · cases sealed
  open?_of_short := cipher.openWith?_of_short

end Cipher

end AiPowerGateway.NonceBox
