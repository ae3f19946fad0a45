import EclairWallet.Crypto.EncryptedData

/-!
# Serialized encrypted data

`EncryptedBackup` and `EncryptedSeed` share a layout: a version byte, the salt
of a seed, the iv, the mac, and the cipher text up to the end.
-/

namespace EclairWallet

open ByteString

/-- What distinguishes the two containers.  Versions are written as one
byte. -/
structure Layout where
  versions : List Int
  saltLength : Option Nat
  unhandledVersion : String
  wrongLength : String
  version_byte : ∀ version ∈ versions, 0 ≤ version ∧ version < 256

namespace Layout

def ivLength : Nat := 16

def macLength : Nat := 32

/-- `ByteArrayInputStream.read`, which is -1 at the end of the stream. -/
def readVersion : Bytes → Int
  | [] => -1
  | byte :: _ => byte.toNat

def read (layout : Layout) (serialized : Bytes) :
    Except Throwable EncryptedData :=
  let version := readVersion serialized
  if version ∈ layout.versions then
    let stream := serialized.drop 1
    let salt := layout.saltLength.map (fun length => fill length stream)
    let stream := stream.drop (layout.saltLength.getD 0)
    let iv := fill ivLength stream
    let stream := stream.drop ivLength
    let mac := fill macLength stream
    let cipher := stream.drop macLength
    .ok { version, salt, civ := { cipherText := cipher, iv, mac } }
  else .error (.runtime layout.unhandledVersion)

/-- The bytes of the container, when its fields have the right lengths. -/
def serialize (data : EncryptedData) : Bytes :=
  UInt8.ofNat data.version.toNat ::
    (data.salt.getD [] ++ (data.civ.iv ++ (data.civ.mac ++ data.civ.cipherText)))

def write (layout : Layout) (data : EncryptedData) :
    Except Throwable Bytes :=
  if data.version ∈ layout.versions then
    if layout.saltLength.isSome ∧ data.salt = none then .error .nullPointer
    else if layout.saltLength ≠ data.salt.map List.length ∨
        data.civ.iv.length ≠ ivLength ∨ data.civ.mac.length ≠ macLength then
      .error (.runtime layout.wrongLength)
    else .ok (serialize data)
  else .error (.runtime "unhandled version")

/-- The data can be written. -/
structure Fits (layout : Layout) (data : EncryptedData) : Prop where
  version : data.version ∈ layout.versions
  salt : layout.saltLength = data.salt.map List.length
  iv : data.civ.iv.length = ivLength
  mac : data.civ.mac.length = macLength

variable {layout : Layout} {data : EncryptedData}

theorem write_eq_ok_iff {bytes : Bytes} :
    layout.write data = .ok bytes ↔
      layout.Fits data ∧ serialize data = bytes := by
  unfold write
  constructor
  · intro written
    split at written
    next handled =>
      split at written
      · cases written
      · split at written
        · cases written
        next lengths =>
          simp only [not_or, not_not] at lengths
          obtain ⟨salt, iv, mac⟩ := lengths
          cases written
          exact ⟨⟨handled, salt, iv, mac⟩, rfl⟩
    next => cases written
  · intro ⟨fits, serialized⟩
    have salted : ¬(layout.saltLength.isSome ∧ data.salt = none) := by
      rw [fits.salt]
      cases data.salt <;> simp
    rw [if_pos fits.version, if_neg salted, if_neg, serialized]
    simp [fits.salt, fits.iv, fits.mac]

theorem write_of_fits (fits : layout.Fits data) :
    layout.write data = .ok (serialize data) :=
  write_eq_ok_iff.mpr ⟨fits, rfl⟩

theorem readVersion_serialize (fits : layout.Fits data) :
    readVersion (serialize data) = data.version := by
  obtain ⟨nonnegative, small⟩ := layout.version_byte _ fits.version
  have size : data.version.toNat < 256 := by omega
  have whole : (UInt8.ofNat data.version.toNat).toNat = data.version.toNat :=
    UInt8.toNat_ofNat_of_lt size
  rw [serialize, readVersion, whole]
  omega

theorem read_serialize (fits : layout.Fits data) :
    layout.read (serialize data) = .ok data := by
  unfold read
  rw [readVersion_serialize fits, if_pos fits.version]
  obtain ⟨version, salt, cipherText, iv, mac⟩ := data
  have ivSize : iv.length = ivLength := fits.iv
  have macSize : mac.length = macLength := fits.mac
  have saltSize : layout.saltLength = salt.map List.length := fits.salt
  cases salt with
  | none =>
      simp only [serialize, saltSize, List.drop_succ_cons, List.drop_zero,
        Option.map_none, Option.getD_none, List.nil_append,
        fill_append ivSize, drop_append_field ivSize, fill_append macSize,
        drop_append_field macSize]
  | some salt =>
      simp only [serialize, saltSize, List.drop_succ_cons, List.drop_zero,
        Option.map_some, Option.getD_some, fill_append rfl,
        drop_append_field rfl, fill_append ivSize, drop_append_field ivSize,
        fill_append macSize, drop_append_field macSize]

end Layout

namespace EncryptedBackup

def backupVersion1 : Int := 1

def backupVersion2 : Int := 2

def layout : Layout where
  versions := [backupVersion1, backupVersion2]
  saltLength := none
  unhandledVersion := "unhandled encrypted backup version"
  wrongLength :=
    "could not serialize backup because fields are not of the correct length"
  version_byte := by decide

def encrypt (provider : SecurityProvider) (iv : RandomBytes 16)
    (data : Bytes) (key : SecretKeys) (version : Int) : EncryptedData where
  version := version
  salt := none
  civ := AesCbcWithIntegrity.encrypt provider iv data key

def read : Bytes → Except Throwable EncryptedData :=
  layout.read

def write : EncryptedData → Except Throwable Bytes :=
  layout.write

theorem fits_encrypt {provider : SecurityProvider} (sound : provider.Sound)
    (iv : RandomBytes 16) (data : Bytes) (key : SecretKeys) {version : Int}
    (handled : version ∈ layout.versions) :
    layout.Fits (encrypt provider iv data key version) where
  version := handled
  salt := rfl
  iv := iv.property
  mac := sound.length_hmacSha256 _ _

end EncryptedBackup

namespace EncryptedSeed

def seedFileVersion1 : Int := 1

def saltLength : Nat := 128

def layout : Layout where
  versions := [seedFileVersion1]
  saltLength := some saltLength
  unhandledVersion := "unhandled encrypted seed file version"
  wrongLength :=
    "could not serialize seed because fields are not of the right length"
  version_byte := by decide

/-- `salt` is the one `generateSalt` drew. -/
def encrypt (provider : SecurityProvider) (salt : RandomBytes saltLength)
    (iv : RandomBytes 16) (seed : Bytes) (password : String) (version : Int) :
    EncryptedData where
  version := version
  salt := some salt.val
  civ := AesCbcWithIntegrity.encrypt provider iv seed
    (AesCbcWithIntegrity.generateKeyFromPassword provider password salt.val)

def read : Bytes → Except Throwable EncryptedData :=
  layout.read

def write : EncryptedData → Except Throwable Bytes :=
  layout.write

theorem fits_encrypt {provider : SecurityProvider} (sound : provider.Sound)
    (salt : RandomBytes saltLength) (iv : RandomBytes 16) (seed : Bytes)
    (password : String) {version : Int} (handled : version ∈ layout.versions) :
    layout.Fits (encrypt provider salt iv seed password version) where
  version := handled
  salt := congrArg some salt.property.symm
  iv := iv.property
  mac := sound.length_hmacSha256 _ _

end EncryptedSeed

end EclairWallet
