import Mathlib.Data.Set.Function
import EclairWallet.Crypto.ChannelsBackup

/-!
# Backups restore, changed backups do not

The worker and the restore screen reach the same keys: one through the
hexadecimal text of the work request, the other through the version byte of
the file.  A change of the file is noticed by its mac, unless the change puts
there the mac of what it put in the other parts.
-/

namespace EclairWallet

open ByteString AesCbcWithIntegrity RestoreChannelsBackup ChannelsBackupWorker

namespace EncryptedData

theorem secretKeyFromBinaryKey_of_size {key : BinaryData}
    (size : key.length = 32) :
    ∃ sk, secretKeyFromBinaryKey key = .ok sk ∧
      sk.confidentialityKey.length = 16 := by
  have long : ¬key.length < 32 := by omega
  refine ⟨{ confidentialityKey := key.take 16
            integrityKey := (key.drop 16).take 16 }, ?_, ?_⟩
  · rw [secretKeyFromBinaryKey, if_neg long]
  · rw [List.length_take]
    omega

end EncryptedData

/-- The screen restores the database from the file. -/
def Restores (provider : SecurityProvider) (app : BackupKeys)
    (file eclairDB : Bytes) : Prop :=
  ∀ contents : DriveContents, contents.Delivers file →
    restoreBackup provider app contents = .ok eclairDB

/-- The screen throws on the file. -/
def Rejects (provider : SecurityProvider) (app : BackupKeys) (file : Bytes) :
    Prop :=
  ∀ contents : DriveContents, contents.Delivers file →
    ∃ thrown, restoreBackup provider app contents = .error thrown

/-- A backup of the version, with the three parts of `civ`. -/
def backupOf (version : Int) (civ : CipherTextIvMac) : EncryptedData where
  version := version
  salt := none
  civ := civ

/-- A backup file of the version, encrypted with the binary key. -/
def writtenBackup (provider : SecurityProvider) (iv : RandomBytes 16)
    (eclairDB : Bytes) (key : BinaryData) (version : Int) :
    Except Throwable Bytes := do
  let sk ← EncryptedData.secretKeyFromBinaryKey key
  EncryptedBackup.write
    (EncryptedBackup.encrypt provider iv eclairDB sk version)

variable {provider : SecurityProvider} {app : BackupKeys}

theorem restoreBackup_serialize {data : EncryptedData} {key : BinaryData}
    {sk : SecretKeys} {contents : DriveContents}
    (fits : EncryptedBackup.layout.Fits data)
    (chosen : keyOfVersion app data.version = some key)
    (parsed : EncryptedData.secretKeyFromBinaryKey key = .ok sk)
    (delivers : contents.Delivers (Layout.serialize data)) :
    restoreBackup provider app contents = decrypt provider data.civ sk := by
  have readBack : EncryptedBackup.read (getBytesFromDriveContents contents) =
      .ok data := by
    rw [delivers.getBytes]
    exact Layout.read_serialize fits
  unfold restoreBackup
  rw [readBack]
  simp only [bind, Except.bind, chosen, Option.elim_some, parsed]
  rfl

theorem restores_encrypt (sound : provider.Sound) {version : Int}
    (handled : version ∈ EncryptedBackup.layout.versions) {key : BinaryData}
    {sk : SecretKeys} (chosen : keyOfVersion app version = some key)
    (parsed : EncryptedData.secretKeyFromBinaryKey key = .ok sk)
    (keySize : sk.confidentialityKey.length = 16) (iv : RandomBytes 16)
    (eclairDB : Bytes) :
    Restores provider app (Layout.serialize
      (EncryptedBackup.encrypt provider iv eclairDB sk version)) eclairDB := by
  intro contents delivers
  rw [restoreBackup_serialize
    (EncryptedBackup.fits_encrypt sound iv eclairDB sk handled) chosen parsed
    delivers]
  exact decrypt_encrypt sound keySize iv eclairDB

theorem head?_retrieveEclairBackup {file : DriveFile} {backupFileName : String}
    (titled : file.title = backupFileName) (older : DriveFolder) :
    (retrieveEclairBackup (file :: older) backupFileName).head? =
      some file := by
  rw [retrieveEclairBackup, List.filter_cons_of_pos (by simpa using titled)]
  rfl

theorem saveBackup_of_request (sound : provider.Sound)
    {codec : BinaryDataCodec} (roundTrips : codec.RoundTrips)
    {key : BinaryData} {sk : SecretKeys}
    (parsed : EncryptedData.secretKeyFromBinaryKey key = .ok sk)
    (chain seedHash deviceId : String) (iv : RandomBytes 16)
    (eclairDB : Bytes) (folder : DriveFolder) :
    ∃ saved file,
      saveBackup provider codec iv eclairDB deviceId
        (generateBackupRequest codec chain seedHash key) folder = .ok saved ∧
      (retrieveEclairBackup saved
        (getEclairBackupFileName chain seedHash)).head? = some file ∧
      file.contents = Layout.serialize (EncryptedBackup.encrypt provider iv
        eclairDB sk EncryptedBackup.backupVersion2) := by
  let contents := Layout.serialize (EncryptedBackup.encrypt provider iv
    eclairDB sk EncryptedBackup.backupVersion2)
  let backupFileName := getEclairBackupFileName chain seedHash
  have fits := EncryptedBackup.fits_encrypt sound iv eclairDB sk
    (by decide : EncryptedBackup.backupVersion2 ∈ _)
  have written : encryptedDatabase provider iv eclairDB sk = .ok contents :=
    Layout.write_of_fits fits
  unfold saveBackup generateBackupRequest
  simp only [bind, Except.bind, Option.elim_some, roundTrips key, parsed,
    written]
  cases buffer : retrieveEclairBackup folder
      (getEclairBackupFileName chain seedHash) with
  | nil =>
      refine ⟨createBackup backupFileName deviceId contents folder,
        { title := backupFileName, deviceId := some deviceId, contents },
        rfl, ?_, rfl⟩
      apply head?_retrieveEclairBackup
      rfl
  | cons driveFile older =>
      have found : driveFile ∈
          retrieveEclairBackup folder backupFileName := by
        rw [buffer]
        exact List.mem_cons_self
      refine ⟨updateBackup driveFile deviceId contents folder,
        { driveFile with deviceId := some deviceId, contents }, rfl, ?_, rfl⟩
      apply head?_retrieveEclairBackup
      simpa using (List.mem_filter.mp found).2

theorem rejects_of_not_authentic {version : Int} {civ : CipherTextIvMac}
    {key : BinaryData} {sk : SecretKeys}
    (fits : EncryptedBackup.layout.Fits (backupOf version civ))
    (chosen : keyOfVersion app version = some key)
    (parsed : EncryptedData.secretKeyFromBinaryKey key = .ok sk)
    (forged : ¬Authentic provider civ sk) :
    Rejects provider app (Layout.serialize (backupOf version civ)) := by
  intro contents delivers
  rw [restoreBackup_serialize fits chosen parsed delivers]
  cases result : decrypt provider (backupOf version civ).civ sk with
  | error thrown => exact ⟨thrown, rfl⟩
  | ok restored =>
      have authentic := (decrypt_eq_ok_iff.mp result).1
      exact (forged authentic).elim

/-- Parts with the mac of an encryption are those of the encryption, as far
as the MAC tells the two messages apart. -/
theorem eq_encrypt_of_authentic {sk : SecretKeys} {iv : RandomBytes 16}
    {eclairDB : Bytes} {civ : CipherTextIvMac}
    (ivSize : civ.iv.length = 16)
    (sameMac : civ.mac = (encrypt provider iv eclairDB sk).mac)
    (authentic : Authentic provider civ sk)
    (injective : Set.InjOn (fun message =>
        generateMac provider message sk.integrityKey)
      {ivCipherConcat civ.iv civ.cipherText,
        ivCipherConcat iv.val (encrypt provider iv eclairDB sk).cipherText}) :
    civ = encrypt provider iv eclairDB sk := by
  have messages : civ.iv ++ civ.cipherText =
      iv.val ++ (encrypt provider iv eclairDB sk).cipherText := by
    apply injective (by simp [ivCipherConcat]) (by simp [ivCipherConcat])
    exact authentic.trans sameMac
  have sizes : civ.iv.length = iv.val.length := by
    rw [ivSize, iv.property]
  obtain ⟨sameIv, sameCipherText⟩ := List.append_inj messages sizes
  obtain ⟨cipherText, civIv, mac⟩ := civ
  simp only at sameIv sameCipherText sameMac
  rw [sameIv, sameCipherText, sameMac]
  rfl

/-- What the worker saves under version 2, and a file of version 1, restore to
the database.  A changed file is rejected unless the change replaced the mac
by that of the parts it put there. -/
theorem restored_unless_forged (sound : provider.Sound)
    {codec : BinaryDataCodec} (roundTrips : codec.RoundTrips)
    {backupKeyV1 backupKeyV2 : BinaryData} (sizeV1 : backupKeyV1.length = 32)
    (sizeV2 : backupKeyV2.length = 32) :
    (∀ chain seedHash deviceId iv eclairDB folder, ∃ saved file,
      saveBackup provider codec iv eclairDB deviceId
        (generateBackupRequest codec chain seedHash backupKeyV2) folder =
          .ok saved ∧
      (retrieveEclairBackup saved
        (getEclairBackupFileName chain seedHash)).head? = some file ∧
      Restores provider ⟨some backupKeyV1, some backupKeyV2⟩ file.contents
        eclairDB) ∧
    (∀ iv eclairDB, ∃ file,
      writtenBackup provider iv eclairDB backupKeyV1
        EncryptedBackup.backupVersion1 = .ok file ∧
      Restores provider ⟨some backupKeyV1, some backupKeyV2⟩ file eclairDB) ∧
    (∀ version key sk iv eclairDB (changed : CipherTextIvMac),
      version ∈ EncryptedBackup.layout.versions →
      keyOfVersion ⟨some backupKeyV1, some backupKeyV2⟩ version = some key →
      EncryptedData.secretKeyFromBinaryKey key = .ok sk →
      changed.iv.length = 16 → changed.mac.length = 32 →
      changed ≠ encrypt provider iv eclairDB sk →
      Set.InjOn (fun message => generateMac provider message sk.integrityKey)
        {ivCipherConcat changed.iv changed.cipherText,
          ivCipherConcat iv.val
            (encrypt provider iv eclairDB sk).cipherText} →
      Rejects provider ⟨some backupKeyV1, some backupKeyV2⟩
          (Layout.serialize (backupOf version changed)) ∨
        changed.mac ≠ (encrypt provider iv eclairDB sk).mac ∧
          Authentic provider changed sk) := by
  refine ⟨?_, ?_, ?_⟩
  · intro chain seedHash deviceId iv eclairDB folder
    obtain ⟨sk, parsed, keySize⟩ :=
      EncryptedData.secretKeyFromBinaryKey_of_size sizeV2
    obtain ⟨saved, file, run, newest, contents⟩ := saveBackup_of_request sound
      roundTrips parsed chain seedHash deviceId iv eclairDB folder
    refine ⟨saved, file, run, newest, ?_⟩
    rw [contents]
    apply restores_encrypt sound (by decide) _ parsed keySize
    rfl
  · intro iv eclairDB
    obtain ⟨sk, parsed, keySize⟩ :=
      EncryptedData.secretKeyFromBinaryKey_of_size sizeV1
    have handled : EncryptedBackup.backupVersion1 ∈
        EncryptedBackup.layout.versions := by decide
    refine ⟨Layout.serialize (EncryptedBackup.encrypt provider iv eclairDB sk
      EncryptedBackup.backupVersion1), ?_, ?_⟩
    · rw [writtenBackup, parsed]
      exact Layout.write_of_fits
        (EncryptedBackup.fits_encrypt sound iv eclairDB sk handled)
    · apply restores_encrypt sound handled _ parsed keySize
      rfl
  · intro version key sk iv eclairDB changed handled chosen parsed ivSize
      macSize different injective
    by_cases authentic : Authentic provider changed sk
    · right
      refine ⟨?_, authentic⟩
      intro sameMac
      exact different
        (eq_encrypt_of_authentic ivSize sameMac authentic injective)
    · left
      exact rejects_of_not_authentic ⟨handled, rfl, ivSize, macSize⟩ chosen
        parsed authentic

/-! ## Two real backups -/

/-- One encryption under the key of bytes 0 to 31. -/
structure SampleEncryption where
  iv : RandomBytes 16
  plaintext : Bytes
  cipherText : Bytes
  mac : Bytes

def sampleKeys : SecretKeys where
  confidentialityKey := (List.range' 0 16).map UInt8.ofNat
  integrityKey := (List.range' 16 16).map UInt8.ofNat

def sampleKeyV1 : BinaryData := (List.range' 32 32).map UInt8.ofNat

def sampleKeyV2 : BinaryData := (List.range' 0 32).map UInt8.ofNat

def sampleApp : BackupKeys where
  backupKeyV1 := some sampleKeyV1
  backupKeyV2 := some sampleKeyV2

def firstSample : SampleEncryption where
  iv := ⟨List.replicate 16 0, rfl⟩
  plaintext := [1]
  cipherText := [248, 227, 115, 104, 208, 95, 96, 30, 24, 236, 41, 95, 179,
    196, 57, 44]
  mac := [48, 252, 251, 143, 55, 179, 134, 136, 172, 184, 136, 53, 7, 85, 86,
    176, 79, 9, 21, 40, 64, 79, 91, 96, 211, 110, 97, 31, 2, 37, 190, 96]

def secondSample : SampleEncryption where
  iv := ⟨List.replicate 16 1, rfl⟩
  plaintext := [2]
  cipherText := [154, 81, 95, 62, 175, 17, 103, 76, 139, 247, 175, 224, 79,
    223, 186, 30]
  mac := [115, 62, 177, 184, 137, 187, 84, 150, 143, 34, 8, 98, 5, 150, 118,
    179, 208, 188, 198, 15, 240, 149, 230, 159, 188, 139, 87, 254, 236, 159,
    159, 168]

namespace SampleEncryption

def encrypts (sample : SampleEncryption) (key iv plaintext : Bytes) : Bool :=
  key = sampleKeys.confidentialityKey ∧ iv = sample.iv.val ∧
    plaintext = sample.plaintext

def decrypts (sample : SampleEncryption) (key iv cipherText : Bytes) : Bool :=
  key = sampleKeys.confidentialityKey ∧ iv = sample.iv.val ∧
    cipherText = sample.cipherText

def authenticates (sample : SampleEncryption) (key data : Bytes) : Bool :=
  key = sampleKeys.integrityKey ∧
    data = ivCipherConcat sample.iv.val sample.cipherText

end SampleEncryption

/-- AES and HMAC on the two samples; elsewhere a marker byte before the
plaintext and a constant mac. -/
def sampleProvider : SecurityProvider where
  aesEncrypt key iv plaintext :=
    if firstSample.encrypts key iv plaintext then firstSample.cipherText
    else if secondSample.encrypts key iv plaintext then
      secondSample.cipherText
    else 0 :: plaintext
  aesDecrypt key iv cipherText :=
    if firstSample.decrypts key iv cipherText then some firstSample.plaintext
    else if secondSample.decrypts key iv cipherText then
      some secondSample.plaintext
    else
      match cipherText with
      | 0 :: plaintext => some plaintext
      | _ => none
  hmacSha256 key data :=
    if firstSample.authenticates key data then firstSample.mac
    else if secondSample.authenticates key data then secondSample.mac
    else List.replicate 32 0
  pbkdf2 _ _ := List.replicate 48 0

theorem sampleProvider_sound : sampleProvider.Sound where
  aesDecrypt_aesEncrypt := by
    intro key iv plaintext _ _
    by_cases first : firstSample.encrypts key iv plaintext = true
    · simp only [SampleEncryption.encrypts, decide_eq_true_eq] at first
      obtain ⟨rfl, rfl, rfl⟩ := first
      decide
    · by_cases second : secondSample.encrypts key iv plaintext = true
      · simp only [SampleEncryption.encrypts, decide_eq_true_eq] at second
        obtain ⟨rfl, rfl, rfl⟩ := second
        decide
      · have marked : sampleProvider.aesEncrypt key iv plaintext =
            0 :: plaintext := by
          simp only [sampleProvider, if_neg first, if_neg second]
        rw [marked]
        simp [sampleProvider, SampleEncryption.decrypts, firstSample,
          secondSample]
  length_hmacSha256 := by
    intro key data
    simp only [sampleProvider]
    split
    · rfl
    · split <;> simp [secondSample]

def hexCodec : BinaryDataCodec where
  toText := hexEncode
  apply := hexDecode

theorem sample_macs_injOn :
    Set.InjOn
      (fun message =>
        generateMac sampleProvider message sampleKeys.integrityKey)
      {ivCipherConcat secondSample.iv.val secondSample.cipherText,
        ivCipherConcat firstSample.iv.val firstSample.cipherText} := by
  intro first firstMember second secondMember sameMac
  simp only [Set.mem_insert_iff, Set.mem_singleton_iff] at firstMember
  simp only [Set.mem_insert_iff, Set.mem_singleton_iff] at secondMember
  rcases firstMember with rfl | rfl <;> rcases secondMember with rfl | rfl
  · rfl
  · exact absurd sameMac (by decide)
  · exact absurd sameMac (by decide)
  · rfl

/-- A file of version 2 overwritten with another backup under the same key
restores to the content of that other backup. -/
theorem replaced_backup_restores :
    sampleProvider.Sound ∧
    Set.InjOn
      (fun message =>
        generateMac sampleProvider message sampleKeys.integrityKey)
      {ivCipherConcat secondSample.iv.val secondSample.cipherText,
        ivCipherConcat firstSample.iv.val firstSample.cipherText} ∧
    ¬∀ changed : CipherTextIvMac,
      changed.iv.length = 16 → changed.mac.length = 32 →
      changed ≠ encrypt sampleProvider firstSample.iv [1] sampleKeys →
      Rejects sampleProvider sampleApp
        (Layout.serialize (backupOf EncryptedBackup.backupVersion2 changed)) := by
  refine ⟨sampleProvider_sound, sample_macs_injOn, ?_⟩
  · intro rejectsAll
    let second := encrypt sampleProvider secondSample.iv [2] sampleKeys
    let file := Layout.serialize
      (backupOf EncryptedBackup.backupVersion2 second)
    let contents : DriveContents := ⟨file, file.length, file.length⟩
    have delivers : contents.Delivers file := ⟨rfl, rfl, Nat.le_refl _⟩
    obtain ⟨thrown, rejected⟩ := rejectsAll second (by decide) (by decide)
      (by decide) contents delivers
    have handled : EncryptedBackup.backupVersion2 ∈
        EncryptedBackup.layout.versions := by decide
    have chosen : keyOfVersion sampleApp EncryptedBackup.backupVersion2 =
        some sampleKeyV2 := rfl
    have parsed : EncryptedData.secretKeyFromBinaryKey sampleKeyV2 =
        .ok sampleKeys := rfl
    have restored : restoreBackup sampleProvider sampleApp contents =
        .ok [2] := by
      apply restores_encrypt sampleProvider_sound handled chosen parsed rfl
        secondSample.iv [2]
      exact delivers
    rw [restored] at rejected
    cases rejected

theorem backup_saved_and_spliced_backup_rejected :
    (∃ saved file,
      saveBackup sampleProvider hexCodec firstSample.iv [1] "device"
        (generateBackupRequest hexCodec "testnet" "seedhash"
          sampleKeyV2) [] = .ok saved ∧
      (retrieveEclairBackup saved
        (getEclairBackupFileName "testnet" "seedhash")).head? = some file ∧
      Restores sampleProvider sampleApp file.contents [1]) ∧
    Rejects sampleProvider sampleApp
      (Layout.serialize (backupOf EncryptedBackup.backupVersion2
        { encrypt sampleProvider secondSample.iv [2] sampleKeys with
          mac := firstSample.mac })) := by
  have roundTrips : hexCodec.RoundTrips := hexDecode_hexEncode
  have sizeV1 : sampleKeyV1.length = 32 := by decide
  have sizeV2 : sampleKeyV2.length = 32 := by decide
  obtain ⟨saves, _, changes⟩ :=
    restored_unless_forged sampleProvider_sound roundTrips sizeV1 sizeV2
  constructor
  · exact saves "testnet" "seedhash" "device" firstSample.iv [1] []
  · have spliced := changes EncryptedBackup.backupVersion2 sampleKeyV2
      sampleKeys firstSample.iv [1]
      { encrypt sampleProvider secondSample.iv [2] sampleKeys with
        mac := firstSample.mac }
      (by decide) rfl rfl (by decide) (by decide) (by decide)
      sample_macs_injOn
    rcases spliced with rejected | ⟨differentMac, _⟩
    · exact rejected
    · exact absurd rfl differentMac

end EclairWallet
