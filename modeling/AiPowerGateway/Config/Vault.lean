import AiPowerGateway.Encodings.Base64
import AiPowerGateway.Protocols.Aead
import AiPowerGateway.Text.Utf8

/-!
# The vault

A secret is stored as the nonce and the sealing, both in Base64 with a colon between them.
What does not have this form decrypts to nothing, except that a nonce of another length
makes the program panic.
-/

namespace AiPowerGateway.Config

abbrev Bytes := List UInt8

def keyLen : Nat := 32

def nonceLen : Nat := 12

def tagLen : Nat := 16

abbrev Key := { bytes : Bytes // bytes.length = keyLen }

/-- What the random generator draws for one secret. -/
abbrev Nonce := { bytes : Bytes // bytes.length = nonceLen }

/-- The cipher and the encoding that the crates outside supply. -/
structure VaultCrates where
  aesGcm : NonceBox.Aead Key Nonce UInt8 tagLen
  base64 : Codec UInt8 Char ':'

structure Vault where
  key : Key

/-- How a decryption ends. -/
inductive Decryption where
  | panicked
  | returned (plain : Option String)
  deriving DecidableEq, Repr

/-- A nonce is made of so many bytes, or the program panics. -/
def nonceFromSlice (bytes : Bytes) : Option Nonce :=
  if size : bytes.length = nonceLen then some ⟨bytes, size⟩ else none

namespace Vault

/-- The key of a key file: too few bytes are filled up with zeros, too many are cut off. -/
def ofKeyFile (keyBytes : Bytes) : Vault where
  key := ⟨keyBytes.take keyLen ++ List.replicate (keyLen - keyBytes.length) 0, by
    rw [List.length_append, List.length_take, List.length_replicate]
    omega⟩

/-- A key file that was written whole gives the key back. -/
theorem ofKeyFile_key (vault : Vault) : ofKeyFile vault.key.val = vault := by
  obtain ⟨key, size⟩ := vault
  simp [ofKeyFile, size, List.take_of_length_le (Nat.le_of_eq size)]

variable (crates : VaultCrates) (vault : Vault)

/-- The nonce and the sealing; what cannot be sealed leaves the second part empty. -/
def encrypt (nonceBytes : Nonce) (plain : String) : String :=
  let ct := (crates.aesGcm.seal? vault.key nonceBytes (Text.utf8 plain)).getD []
  String.ofList (crates.base64.encode nonceBytes.val ++ ':' :: crates.base64.encode ct)

/-- The two parts of a stored secret, decoded. -/
def decodeParts (encoded : String) : Option (Bytes × Bytes) := do
  let (nB64, ctB64) ← splitOnce ':' encoded.toList
  let nonceBytes ← crates.base64.decode? nB64
  let ct ← crates.base64.decode? ctB64
  some (nonceBytes, ct)

def decrypt (encoded : String) : Decryption :=
  match decodeParts crates encoded with
  | none => .returned none
  | some (nonceBytes, ct) =>
      match nonceFromSlice nonceBytes with
      | none => .panicked
      | some nonce =>
          .returned ((crates.aesGcm.open? vault.key nonce ct).map Text.fromUtf8Lossy)

/-! ## Decryption of any text -/

/-- Both parts decode, and the first one is no nonce. -/
def HasMissizedNonce (encoded : String) : Prop :=
  ∃ nonceBytes ct, decodeParts crates encoded = some (nonceBytes, ct) ∧
    nonceBytes.length ≠ nonceLen

section Decrypt

variable {crates} {vault} {encoded : String}

theorem nonceFromSlice_val (nonce : Nonce) : nonceFromSlice nonce.val = some nonce :=
  dif_pos nonce.property

theorem decrypt_of_parts {nonce : Nonce} {ct : Bytes}
    (parts : decodeParts crates encoded = some (nonce.val, ct)) :
    vault.decrypt crates encoded =
      .returned ((crates.aesGcm.open? vault.key nonce ct).map Text.fromUtf8Lossy) := by
  rw [decrypt, parts]
  simp only [nonceFromSlice_val]

/-- The program panics at a nonce of another length, and at nothing else. -/
theorem decrypt_eq_panicked : vault.decrypt crates encoded = .panicked ↔
    HasMissizedNonce crates encoded := by
  constructor
  · intro panicked
    unfold decrypt at panicked
    split at panicked
    · cases panicked
    · rename_i nonceBytes ct parts
      refine ⟨nonceBytes, ct, parts, fun size => ?_⟩
      rw [nonceFromSlice, dif_pos size] at panicked
      cases panicked
  · rintro ⟨nonceBytes, ct, parts, odd⟩
    rw [decrypt, parts]
    simp only [nonceFromSlice, dif_neg odd]

/-- Only what authenticates under a nonce of the right length is decrypted. -/
theorem decrypt_eq_some {plain : String} :
    vault.decrypt crates encoded = .returned (some plain) ↔
      ∃ (nonce : Nonce) (ct bytes : Bytes), decodeParts crates encoded = some (nonce.val, ct) ∧
        crates.aesGcm.open? vault.key nonce ct = some bytes ∧
        Text.fromUtf8Lossy bytes = plain := by
  constructor
  · intro returned
    unfold decrypt at returned
    split at returned
    · cases returned
    · rename_i nonceBytes ct parts
      by_cases size : nonceBytes.length = nonceLen
      · rw [nonceFromSlice, dif_pos size] at returned
        obtain ⟨bytes, opened, read⟩ :=
          Option.map_eq_some_iff.mp (Decryption.returned.inj returned)
        exact ⟨⟨nonceBytes, size⟩, ct, bytes, parts, opened, read⟩
      · rw [nonceFromSlice, dif_neg size] at returned
        cases returned
  · rintro ⟨nonce, ct, bytes, parts, opened, rfl⟩
    rw [decrypt_of_parts parts, opened]
    rfl

end Decrypt

/-! ## Decryption of what was encrypted -/

section Encrypt

variable {crates} {vault} {nonceBytes : Nonce} {plain : String}

theorem decodeParts_encrypt : decodeParts crates (vault.encrypt crates nonceBytes plain) =
    some (nonceBytes.val,
      (crates.aesGcm.seal? vault.key nonceBytes (Text.utf8 plain)).getD []) := by
  rw [decodeParts, encrypt, String.toList_ofList, splitOnce_encode]
  simp [crates.base64.decode?_encode]

/-- A secret is read back if the cipher seals texts of its length, and only then. -/
theorem decrypt_encrypt_iff :
    vault.decrypt crates (vault.encrypt crates nonceBytes plain) = .returned (some plain) ↔
      (Text.utf8 plain).length ≤ crates.aesGcm.maxLen := by
  rw [decrypt_of_parts decodeParts_encrypt,
    ← crates.aesGcm.isSome_seal? vault.key nonceBytes (Text.utf8 plain)]
  cases sealed : crates.aesGcm.seal? vault.key nonceBytes (Text.utf8 plain) with
  | none =>
      rw [Option.getD_none, crates.aesGcm.open?_of_short (by decide)]
      simp
  | some ct =>
      rw [Option.getD_some, crates.aesGcm.open?_of_seal? sealed, Option.map_some,
        Text.fromUtf8Lossy_utf8]
      simp

end Encrypt

/-! ## What decoding should do -/

/-- A secret is read back, and any text decrypts to nothing or to what authenticates. -/
structure DecodesSafely (nonceBytes : Nonce) (plain encoded : String) : Prop where
  roundTrip : vault.decrypt crates (vault.encrypt crates nonceBytes plain) =
    .returned (some plain)
  returns : ∃ result, vault.decrypt crates encoded = .returned result
  authentic : ∀ text, vault.decrypt crates encoded = .returned (some text) →
    ∃ (nonce : Nonce) (ct : Bytes), decodeParts crates encoded = some (nonce.val, ct) ∧
      (crates.aesGcm.open? vault.key nonce ct).isSome

/--
Decoding is safe exactly for secrets that the cipher seals, and texts whose nonce, where
both parts decode, has the length of a nonce.
-/
theorem decodes_safely_iff (nonceBytes : Nonce) (plain encoded : String) :
    vault.DecodesSafely crates nonceBytes plain encoded ↔
      (Text.utf8 plain).length ≤ crates.aesGcm.maxLen ∧ ¬ HasMissizedNonce crates encoded := by
  have readBack : vault.decrypt crates (vault.encrypt crates nonceBytes plain) =
      .returned (some plain) ↔ (Text.utf8 plain).length ≤ crates.aesGcm.maxLen :=
    decrypt_encrypt_iff
  have panics : vault.decrypt crates encoded = .panicked ↔ HasMissizedNonce crates encoded :=
    decrypt_eq_panicked
  rw [← readBack, ← panics]
  constructor
  · rintro ⟨roundTrip, ⟨result, returned⟩, -⟩
    refine ⟨roundTrip, fun panicked => ?_⟩
    rw [panicked] at returned
    cases returned
  · rintro ⟨roundTrip, calm⟩
    refine ⟨roundTrip, ?_, fun text returned => ?_⟩
    · cases ended : vault.decrypt crates encoded with
      | panicked => exact absurd ended calm
      | returned result => exact ⟨result, rfl⟩
    · obtain ⟨nonce, ct, bytes, parts, opened, -⟩ := decrypt_eq_some.mp returned
      exact ⟨nonce, ct, parts, Option.isSome_iff_exists.mpr ⟨bytes, opened⟩⟩

/-- The crates, with a cipher that only adds a tag. -/
def sampleCrates : VaultCrates where
  aesGcm := (NonceBox.Cipher.tagging nonceLen (List.replicate tagLen 0)).aead (Nat.pow 2 36)
  base64 := Base64.standard

/-- A nonce of one byte makes the program panic, where nothing should be returned. -/
theorem not_decodes_safely :
    (ofKeyFile []).decrypt sampleCrates "AA==:AA==" = .panicked ∧
      ¬ ∃ nonceBytes plain,
        (ofKeyFile []).DecodesSafely sampleCrates nonceBytes plain "AA==:AA==" := by
  have panicked : (ofKeyFile []).decrypt sampleCrates "AA==:AA==" = .panicked :=
    decrypt_eq_panicked.mpr ⟨[0], [0], by decide, by decide⟩
  refine ⟨panicked, fun ⟨nonceBytes, plain, safe⟩ => ?_⟩
  obtain ⟨result, returned⟩ := safe.returns
  rw [panicked] at returned
  cases returned

end Vault

end AiPowerGateway.Config
