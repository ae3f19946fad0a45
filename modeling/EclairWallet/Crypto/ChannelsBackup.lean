import EclairWallet.Crypto.Container

/-!
# The channels backup

The work request that carries the backup key, what `ChannelsBackupWorker`
writes to the application folder of Drive, and the screen that restores it.
-/

namespace EclairWallet

open ByteString

/-- `BinaryData.toString` and `BinaryData.apply`, which throws on a text that
is not hexadecimal. -/
structure BinaryDataCodec where
  toText : BinaryData → String
  apply : String → Option BinaryData

/-- The text of any data parses to that data. -/
def BinaryDataCodec.RoundTrips (codec : BinaryDataCodec) : Prop :=
  ∀ data, codec.apply (codec.toText data) = some data

structure WorkInput where
  backupName : Option String
  backupKey : Option String
  deriving DecidableEq, Repr

def getEclairBackupFileName (chain seedHash : String) : String :=
  "eclair_" ++ chain ++ "_" ++ seedHash ++ ".bkup"

def generateBackupRequest (codec : BinaryDataCodec)
    (chain seedHash : String) (backupKey : BinaryData) : WorkInput where
  backupName := some (getEclairBackupFileName chain seedHash)
  backupKey := some (codec.toText backupKey)

structure DriveFile where
  title : String
  deviceId : Option String
  contents : Bytes
  deriving DecidableEq, Repr

/-- The files of the application folder, the last modified first. -/
abbrev DriveFolder := List DriveFile

def retrieveEclairBackup (folder : DriveFolder) (backupFileName : String) :
    List DriveFile :=
  folder.filter (fun file => file.title = backupFileName)

namespace ChannelsBackupWorker

/-- The contents `createBackup` and `updateBackup` write. -/
def encryptedDatabase (provider : SecurityProvider) (iv : RandomBytes 16)
    (eclairDB : Bytes) (sk : SecretKeys) : Except Throwable Bytes :=
  EncryptedBackup.write (EncryptedBackup.encrypt provider iv eclairDB sk
    EncryptedBackup.backupVersion2)

def createBackup (backupFileName deviceId : String) (contents : Bytes)
    (folder : DriveFolder) : DriveFolder :=
  { title := backupFileName, deviceId := some deviceId, contents } :: folder

def updateBackup (driveFile : DriveFile) (deviceId : String)
    (contents : Bytes) (folder : DriveFolder) : DriveFolder :=
  { driveFile with deviceId := some deviceId, contents } ::
    folder.erase driveFile

/-- `doWork` when backups are enabled and a user is signed in; what is thrown
makes it fail. -/
def saveBackup (provider : SecurityProvider) (codec : BinaryDataCodec)
    (iv : RandomBytes 16) (eclairDB : Bytes) (deviceId : String)
    (inputData : WorkInput) (folder : DriveFolder) :
    Except Throwable DriveFolder :=
  match inputData.backupName with
  | none => .ok folder
  | some backupFileName => do
      let buffer := retrieveEclairBackup folder backupFileName
      let key ← inputData.backupKey.elim (.error .nullPointer) .ok
      let key ← (codec.apply key).elim (.error .illegalArgument) .ok
      let sk ← EncryptedData.secretKeyFromBinaryKey key
      let contents ← encryptedDatabase provider iv eclairDB sk
      match buffer with
      | [] => .ok (createBackup backupFileName deviceId contents folder)
      | driveFile :: _ => .ok (updateBackup driveFile deviceId contents folder)

end ChannelsBackupWorker

/-- The contents of a Drive file as a stream: what it holds, what `available`
returns, and how many bytes the first read delivers. -/
structure DriveContents where
  bytes : Bytes
  available : Nat
  firstRead : Nat
  deriving DecidableEq, Repr

def getBytesFromDriveContents (contents : DriveContents) : Bytes :=
  fill contents.available
    (contents.bytes.take (min contents.firstRead contents.available))

/-- The stream announces and delivers the whole file at once. -/
structure DriveContents.Delivers (contents : DriveContents) (file : Bytes) :
    Prop where
  bytes : contents.bytes = file
  available : contents.available = file.length
  firstRead : file.length ≤ contents.firstRead

theorem DriveContents.Delivers.getBytes {contents : DriveContents}
    {file : Bytes} (delivers : contents.Delivers file) :
    getBytesFromDriveContents contents = file := by
  have atOnce : min contents.firstRead file.length = file.length :=
    Nat.min_eq_right delivers.firstRead
  rw [getBytesFromDriveContents, delivers.bytes, delivers.available, atOnce,
    List.take_length, fill_length]

/-- The backup keys of the application. -/
structure BackupKeys where
  backupKeyV1 : Option BinaryData
  backupKeyV2 : Option BinaryData
  deriving DecidableEq, Repr

namespace RestoreChannelsBackup

/-- The key a backup of the version is restored with. -/
def keyOfVersion (app : BackupKeys) (version : Int) : Option BinaryData :=
  if EncryptedBackup.backupVersion1 = version then app.backupKeyV1
  else app.backupKeyV2

/-- The bytes `restoreBackup` writes to the database file. -/
def restoreBackup (provider : SecurityProvider) (app : BackupKeys)
    (driveFileContents : DriveContents) : Except Throwable Bytes := do
  let encryptedContent ←
    EncryptedBackup.read (getBytesFromDriveContents driveFileContents)
  let key ← (keyOfVersion app encryptedContent.version).elim
    (.error .nullPointer) .ok
  let sk ← EncryptedData.secretKeyFromBinaryKey key
  encryptedContent.decrypt provider sk

end RestoreChannelsBackup

end EclairWallet
