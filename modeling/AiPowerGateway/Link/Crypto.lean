import AiPowerGateway.Protocols.NonceBox
import AiPowerGateway.Text.Basic
import AiPowerGateway.Text.Utf8

/-!
# Link encryption

The modes of the link, and the format of an encrypted body: a nonce, then the
AES-256-GCM sealing of the compressed text, under a key derived from the token.
-/

namespace AiPowerGateway.Link

open NonceBox

abbrev Bytes := List UInt8

def encHeader : String := "x-aipg-enc"

def encVersion : String := "v1"

def nonceLen : Nat := 12

def tagLen : Nat := 16

inductive LinkEncryptMode where
  | off
  | aesGcm
  | enforce
  | tls
  deriving DecidableEq, Repr

namespace LinkEncryptMode

def parse (text : String) : LinkEncryptMode :=
  let word := String.ofList ((Text.trim text).toList.map Char.toLower)
  if word ∈ ["aes-gcm", "aes_gcm", "aes"] then .aesGcm
  else if word ∈ ["enforce", "strict", "mandatory"] then .enforce
  else if word ∈ ["tls", "quic"] then .tls
  else .off

def asStr : LinkEncryptMode → String
  | .off => "off"
  | .aesGcm => "aes-gcm"
  | .enforce => "enforce"
  | .tls => "tls"

/-- A mode is read back from its label, as it stands and with blanks cut off. -/
theorem parse_trim_asStr (mode : LinkEncryptMode) : parse (Text.trim mode.asStr) = mode := by
  cases mode <;> decide

end LinkEncryptMode

/-- The digest, the cipher and the compression that the crates outside supply. -/
structure Primitives where
  sha256 : Bytes → Bytes
  aesGcm : Cipher Bytes UInt8 nonceLen tagLen
  gzip : Nat → Bytes → Bytes
  gunzip : Bytes → Except String Bytes
  gunzip_gzip : ∀ level plain, gunzip (gzip level plain) = .ok plain

/-- What the random generator draws for one message. -/
abbrev Nonce := { bytes : Bytes // bytes.length = nonceLen }

inductive LinkCryptoError where
  | tooShort (length : Nat)
  | decompress (message : String)
  | decrypt
  deriving DecidableEq, Repr

def LinkCryptoError.display : LinkCryptoError → String
  | .tooShort length => "payload too short (" ++ toString length ++ " bytes < nonce+tag minimum)"
  | .decompress message => "gzip decompress failed: " ++ message
  | .decrypt => "AES-GCM decrypt failed (bad token / tampered payload)"

structure LinkCrypto where
  gzipLevel : Nat
  deriving DecidableEq, Repr

namespace LinkCrypto

def new : LinkCrypto := ⟨6⟩

variable (prims : Primitives)

def deriveKey (token : String) : Bytes := prims.sha256 (Text.utf8 token)

/-- Compress, then seal. -/
def encrypt (nonce : Nonce) (key plain : Bytes) (crypto : LinkCrypto) : Bytes :=
  nonce.val ++ prims.aesGcm.sealWith key nonce.val (prims.gzip crypto.gzipLevel plain)

def decrypt (key raw : Bytes) : Except LinkCryptoError Bytes :=
  if raw.length < nonceLen + 16 then .error (.tooShort raw.length)
  else match prims.aesGcm.openWith? key (raw.take nonceLen) (raw.drop nonceLen) with
    | none => .error .decrypt
    | some compressed => (prims.gunzip compressed).mapError .decompress

/-- What decrypts is a box under the key around something compressed. -/
theorem decrypt_eq_ok {key raw plain : Bytes} :
    decrypt prims key raw = .ok plain ↔
      ∃ compressed, prims.aesGcm.unbox? key raw = some compressed ∧
        prims.gunzip compressed = .ok plain := by
  unfold decrypt Cipher.unbox?
  by_cases short : raw.length < nonceLen + 16
  · have tooShort : raw.length < nonceLen + tagLen := short
    simp [if_pos short, if_pos tooShort]
  · have long : ¬ raw.length < nonceLen + tagLen := short
    rw [if_neg short, if_neg long]
    cases opened : prims.aesGcm.openWith? key (raw.take nonceLen) (raw.drop nonceLen) with
    | none => simp
    | some compressed =>
        cases unpacked : prims.gunzip compressed with
        | error message => simp [Except.mapError, unpacked]
        | ok text => simp [Except.mapError, unpacked]

/-- Decryption under the same key undoes encryption. -/
@[simp] theorem decrypt_encrypt (nonce : Nonce) (key plain : Bytes) (crypto : LinkCrypto) :
    decrypt prims key (crypto.encrypt prims nonce key plain) = .ok plain := by
  rw [decrypt_eq_ok]
  exact ⟨prims.gzip crypto.gzipLevel plain, prims.aesGcm.unbox?_box nonce.property,
    prims.gunzip_gzip _ _⟩

end LinkCrypto

end AiPowerGateway.Link
