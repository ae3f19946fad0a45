import EclairWallet.Library.Bytes

/-!
# Encrypted data

`AesCbcWithIntegrity` and `EncryptedData`: AES in CBC mode under one key, and
an HMAC of the iv and the cipher text under another, which decryption checks
first.  The ciphers themselves belong to the platform.
-/

namespace EclairWallet

open ByteString

abbrev BinaryData := Bytes

inductive Throwable where
  | generalSecurity (message : String)
  | runtime (message : String)
  | arrayIndexOutOfBounds
  | illegalArgument
  | nullPointer
  | security
  | io
  deriving DecidableEq, Repr

/-- What the security provider computes: AES/CBC/PKCS5Padding in both
directions (decryption fails on a bad padding), HmacSHA256, and
PBKDF2WithHmacSHA1 with the class's iteration count and output size. -/
structure SecurityProvider where
  aesEncrypt (key iv plaintext : Bytes) : Bytes
  aesDecrypt (key iv cipherText : Bytes) : Option Bytes
  hmacSha256 (key data : Bytes) : Bytes
  pbkdf2 (password : String) (salt : Bytes) : Bytes

/-- Decryption inverts encryption under the same key and iv, and the MAC has
32 bytes. -/
structure SecurityProvider.Sound (provider : SecurityProvider) : Prop where
  aesDecrypt_aesEncrypt : ∀ key iv plaintext,
    key.length = 16 → iv.length = 16 →
      provider.aesDecrypt key iv (provider.aesEncrypt key iv plaintext) =
        some plaintext
  length_hmacSha256 : ∀ key data, (provider.hmacSha256 key data).length = 32

/-- What `randomBytes` returns. -/
abbrev RandomBytes (length : Nat) := { bytes : Bytes // bytes.length = length }

structure SecretKeys where
  confidentialityKey : Bytes
  integrityKey : Bytes
  deriving DecidableEq, Repr

structure CipherTextIvMac where
  cipherText : Bytes
  iv : Bytes
  mac : Bytes
  deriving DecidableEq, Repr

namespace AesCbcWithIntegrity

def constantTimeEq (a b : Bytes) : Bool :=
  if a.length ≠ b.length then false else differences 0 a b = 0

theorem constantTimeEq_iff {a b : Bytes} :
    constantTimeEq a b = true ↔ a = b := by
  unfold constantTimeEq
  split
  next different =>
    constructor
    · intro impossible
      cases impossible
    · intro same
      exact (different (congrArg List.length same)).elim
  next sameLength =>
    have sameLength : a.length = b.length := not_not.mp sameLength
    rw [decide_eq_true_iff, differences_eq_zero_iff sameLength]
    simp

def ivCipherConcat (iv cipherText : Bytes) : Bytes :=
  iv ++ cipherText

def generateMac (provider : SecurityProvider)
    (byteCipherText integrityKey : Bytes) : Bytes :=
  provider.hmacSha256 integrityKey byteCipherText

/-- The first 16 bytes are the AES key, the next 32 the HMAC key. -/
def generateKeyFromPassword (provider : SecurityProvider) (password : String)
    (salt : Bytes) : SecretKeys :=
  let keyBytes := provider.pbkdf2 password salt
  { confidentialityKey := keyBytes.take 16
    integrityKey := (keyBytes.drop 16).take 32 }

/-- `iv` is the one the cipher drew. -/
def encrypt (provider : SecurityProvider) (iv : RandomBytes 16)
    (plaintext : Bytes) (secretKeys : SecretKeys) : CipherTextIvMac :=
  let byteCipherText :=
    provider.aesEncrypt secretKeys.confidentialityKey iv.val plaintext
  { cipherText := byteCipherText
    iv := iv.val
    mac := generateMac provider (ivCipherConcat iv.val byteCipherText)
      secretKeys.integrityKey }

def decrypt (provider : SecurityProvider) (civ : CipherTextIvMac)
    (secretKeys : SecretKeys) : Except Throwable Bytes :=
  let computedMac :=
    generateMac provider (ivCipherConcat civ.iv civ.cipherText)
      secretKeys.integrityKey
  if constantTimeEq computedMac civ.mac then
    match provider.aesDecrypt secretKeys.confidentialityKey civ.iv
        civ.cipherText with
    | some plaintext => .ok plaintext
    | none => .error (.generalSecurity "pad block corrupted")
  else
    .error (.generalSecurity "MAC stored in civ does not match computed MAC.")

/-- The mac is that of the iv and the cipher text. -/
def Authentic (provider : SecurityProvider) (civ : CipherTextIvMac)
    (secretKeys : SecretKeys) : Prop :=
  generateMac provider (ivCipherConcat civ.iv civ.cipherText)
    secretKeys.integrityKey = civ.mac

variable {provider : SecurityProvider} {secretKeys : SecretKeys}

theorem decrypt_eq_ok_iff {civ : CipherTextIvMac} {plaintext : Bytes} :
    decrypt provider civ secretKeys = .ok plaintext ↔
      Authentic provider civ secretKeys ∧
        provider.aesDecrypt secretKeys.confidentialityKey civ.iv
          civ.cipherText = some plaintext := by
  by_cases authentic : Authentic provider civ secretKeys
  · have accepted := constantTimeEq_iff.mpr authentic
    cases result : provider.aesDecrypt secretKeys.confidentialityKey civ.iv
        civ.cipherText with
    | none => simp [decrypt, accepted, result]
    | some decrypted => simp [decrypt, accepted, result, authentic]
  · have refused := mt constantTimeEq_iff.mp authentic
    simp [decrypt, refused, authentic]

theorem decrypt_encrypt (sound : provider.Sound)
    (keySize : secretKeys.confidentialityKey.length = 16)
    (iv : RandomBytes 16) (plaintext : Bytes) :
    decrypt provider (encrypt provider iv plaintext secretKeys) secretKeys =
      .ok plaintext := by
  apply decrypt_eq_ok_iff.mpr
  constructor
  · rfl
  · exact sound.aesDecrypt_aesEncrypt _ _ _ keySize iv.property

end AesCbcWithIntegrity

/-- An encrypted backup has no salt. -/
structure EncryptedData where
  version : Int
  salt : Option Bytes
  civ : CipherTextIvMac
  deriving DecidableEq, Repr

namespace EncryptedData

def decryptWithPassword (provider : SecurityProvider) (data : EncryptedData)
    (password : String) : Except Throwable Bytes :=
  match data.salt with
  | none => .error .nullPointer
  | some salt =>
      AesCbcWithIntegrity.decrypt provider data.civ
        (AesCbcWithIntegrity.generateKeyFromPassword provider password salt)

def decrypt (provider : SecurityProvider) (data : EncryptedData)
    (key : SecretKeys) : Except Throwable Bytes :=
  AesCbcWithIntegrity.decrypt provider data.civ key

/-- The first 16 bytes are the AES key, the next 16 the HMAC key. -/
def secretKeyFromBinaryKey (key : BinaryData) : Except Throwable SecretKeys :=
  if key.length < 32 then .error .arrayIndexOutOfBounds
  else
    .ok { confidentialityKey := key.take 16
          integrityKey := (key.drop 16).take 16 }

end EncryptedData

end EclairWallet
