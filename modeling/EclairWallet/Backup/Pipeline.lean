import EclairWallet.Backup.Access
import EclairWallet.Library.RecentFirst

/-!
# The backup pipeline

The node writes its database and announces what it has persisted, the worker
is enqueued, looks for the backup on Drive, reads the database piece by piece
while the node may go on writing it, encrypts what it has read, and commits the
result.  Work that is enqueued replaces the work that waits, but a run goes on
when the next one is started, so that runs overlap.
The preferences and the settings screen are those of `BackupState`; here the
runs also have a folder to write to and a database to read.
-/

namespace EclairWallet

open ByteString

/-- What the wallet backs up with, and from which device. -/
structure BackupSetup where
  provider : SecurityProvider
  codec : BinaryDataCodec
  chain : String
  seedHash : String
  deviceId : String
  backupKeyV2 : BinaryData

namespace BackupSetup

def backupFileName (setup : BackupSetup) : String :=
  getEclairBackupFileName setup.chain setup.seedHash

/-- `generateBackupRequest`, as the supervisor and the screens call it. -/
def request (setup : BackupSetup) : WorkInput :=
  generateBackupRequest setup.codec setup.chain setup.seedHash
    setup.backupKeyV2

end BackupSetup

/-- What a run of the worker holds beside its status: the version of the
database when it was started, the file it updates, what `Files.toByteArray`
has read of the database, the contents it has encrypted, whether the first
continuation of `updateBackup` has ended, and whether Drive has the
contents. -/
structure Upload where
  startedAt : Nat
  driveFile : Option Nat := none
  reading : Bytes := []
  contents : Option Bytes := none
  continued : Bool := false
  committed : Bool := false
  deriving DecidableEq, Repr

/-- The files of the application folder under their ids, the last modified
first. -/
abbrev AppFolder := RecentFirst Nat DriveFile

/-- `earlier` holds the contents the database had before, the oldest first;
`persistedAt` is how many there were when the node last announced a persisted
channel. -/
structure PipelineState where
  backup : BackupState
  uploads : List Upload
  folder : AppFolder
  earlier : List Bytes
  eclairDB : Bytes
  persistedAt : Nat

inductive PipelineEvent where
  | nodeWrites (eclairDB : Bytes)
  | channelPersisted
  | startWork
  | queried (run : Nat) (buffer : List Nat)
  | reads (run count : Nat)
  | encrypts (run : Nat) (iv : RandomBytes 16)
  | creates (run driveId : Nat)
  | commits (run : Nat)
  | commitFails (run : Nat)
  | updatesMetadata (run : Nat)
  | fails (run : Nat)
  | other (event : BackupEvent)

/-- The event is about the work that is enqueued and the runs. -/
def BackupEvent.ofWorker : BackupEvent → Bool
  | .enqueue _ => true
  | .startWork => true
  | .driveAnswers _ _ => true
  | _ => false

/-- The query for the backup has this filter. -/
def titled (backupFileName : String) (file : DriveFile) : Bool :=
  file.title = backupFileName

namespace PipelineState

/-- Every contents the database has had, the oldest first. -/
def history (state : PipelineState) : List Bytes :=
  state.earlier ++ [state.eclairDB]

/-- The input of a run, the wait it is in, and its upload. -/
def awaiting (state : PipelineState) (run : Nat) :
    Option (WorkInput × DriveWait × Upload) :=
  match state.backup.runs[run]?, state.uploads[run]? with
  | some { inputData, status := .awaits wait }, some upload =>
      some (inputData, wait, upload)
  | _, _ => none

def setUpload (state : PipelineState) (run : Nat) (upload : Upload) :
    PipelineState :=
  { state with uploads := state.uploads.set run upload }

def putFile (state : PipelineState) (driveId : Nat) (file : DriveFile) :
    PipelineState :=
  { state with folder := state.folder.put driveId file }

/-- The preferences and the screen take a step. -/
def backupStep (setup : BackupSetup) (state : PipelineState)
    (event : BackupEvent) : Option PipelineState :=
  (BackupState.step setup.codec setup.request state.backup event).map
    (fun backup => { state with backup })

/-- The wait of the run ends. -/
def answer (setup : BackupSetup) (state : PipelineState) (run : Nat)
    (answer : DriveAnswer) : Option PipelineState :=
  state.backupStep setup (.driveAnswers run answer)

/-- The query is answered with the files it found; `buffer.get(0)` is the one
that is updated. -/
def queried (setup : BackupSetup) (state : PipelineState) (run : Nat)
    (upload : Upload) (buffer : List Nat) : Option PipelineState :=
  (state.setUpload run
      { startedAt := upload.startedAt, driveFile := buffer.head? }).answer
    setup run (.succeeded buffer.length)

/-- The continuation may read the database. -/
def MayRead (wait : DriveWait) (upload : Upload) : Prop :=
  wait ≠ .metadata ∧ upload.continued = false ∧ upload.contents = none

instance (wait : DriveWait) (upload : Upload) :
    Decidable (MayRead wait upload) :=
  inferInstanceAs (Decidable (_ ∧ _ ∧ _))

/-- One read of the file, where the last one stopped, as the file now is. -/
def reads (state : PipelineState) (run : Nat) (upload : Upload)
    (count : Nat) : PipelineState :=
  state.setUpload run
    { upload with
      reading := upload.reading ++
        (state.eclairDB.drop upload.reading.length).take count }

/-- The continuation has reached the end of the file and encrypts what it has
read. -/
def encrypts (setup : BackupSetup) (state : PipelineState) (run : Nat)
    (inputData : WorkInput) (upload : Upload) (iv : RandomBytes 16) :
    Option PipelineState :=
  match ChannelsBackupWorker.secretKeys setup.codec inputData >>=
      ChannelsBackupWorker.encryptedDatabase setup.provider iv
        upload.reading with
  | .ok contents =>
      some (state.setUpload run
        { upload with reading := [], contents := some contents })
  | .error _ => none

/-- `createFile` ends `createBackup`, and gives the file its id. -/
def creates (setup : BackupSetup) (state : PipelineState) (run : Nat)
    (upload : Upload) (backupFileName : String) (contents : Bytes)
    (driveId : Nat) : Option PipelineState :=
  ((state.putFile driveId
      { title := backupFileName, deviceId := some setup.deviceId,
        contents }).setUpload run
      { upload with driveFile := some driveId, committed := true }).answer
    setup run (.succeeded 0)

/-- `commitContents` ends the first continuation of `updateBackup`. -/
def commits (state : PipelineState) (run : Nat) (upload : Upload)
    (driveId : Nat) (file : DriveFile) (contents : Bytes) : PipelineState :=
  (state.putFile driveId { file with contents }).setUpload run
    { upload with continued := true, committed := true }

/-- `updateMetadata` ends `updateBackup`. -/
def updatesMetadata (setup : BackupSetup) (state : PipelineState)
    (run driveId : Nat) (file : DriveFile) : Option PipelineState :=
  (state.putFile driveId { file with deviceId := some setup.deviceId }).answer
    setup run (.succeeded 0)

/-- One step.  The second continuation of `updateBackup` runs however the
first one ended, so a commit that fails is followed by the metadata. -/
def step (setup : BackupSetup) (state : PipelineState) :
    PipelineEvent → Option PipelineState
  | .nodeWrites eclairDB =>
      some { state with earlier := state.history, eclairDB }
  | .channelPersisted =>
      backupStep setup { state with persistedAt := state.earlier.length }
        (.enqueue setup.request)
  | .startWork =>
      backupStep setup
        { state with
          uploads := state.uploads ++
            [{ startedAt := state.earlier.length }] } .startWork
  | .queried run buffer => do
      let (_, wait, upload) ← state.awaiting run
      if wait = .metadata then state.queried setup run upload buffer
      else none
  | .reads run count => do
      let (_, wait, upload) ← state.awaiting run
      if MayRead wait upload then some (state.reads run upload count)
      else none
  | .encrypts run iv => do
      let (inputData, wait, upload) ← state.awaiting run
      if MayRead wait upload ∧
          state.eclairDB.length ≤ upload.reading.length then
        state.encrypts setup run inputData upload iv
      else none
  | .creates run driveId => do
      let (inputData, wait, upload) ← state.awaiting run
      let backupFileName ← inputData.backupName
      let contents ← upload.contents
      if wait = .createBackup ∧ state.folder.get? driveId = none then
        state.creates setup run upload backupFileName contents driveId
      else none
  | .commits run => do
      let (_, wait, upload) ← state.awaiting run
      let driveId ← upload.driveFile
      let contents ← upload.contents
      let file ← state.folder.get? driveId
      if wait = .updateBackup ∧ upload.continued = false then
        some (state.commits run upload driveId file contents)
      else none
  | .commitFails run => do
      let (_, wait, upload) ← state.awaiting run
      if wait = .updateBackup ∧ upload.continued = false then
        some (state.setUpload run
          { upload with continued := true, reading := [] })
      else none
  | .updatesMetadata run => do
      let (_, wait, upload) ← state.awaiting run
      let driveId ← upload.driveFile
      let file ← state.folder.get? driveId
      if wait = .updateBackup ∧ upload.continued = true then
        state.updatesMetadata setup run driveId file
      else none
  | .fails run => do
      let (_, _, upload) ← state.awaiting run
      (state.setUpload run { upload with reading := [] }).answer setup run
        .failed
  | .other event =>
      if event.ofWorker then none else state.backupStep setup event

/-! ## What a step does -/

variable {setup : BackupSetup} {state next : PipelineState}
  {event : PipelineEvent}

theorem awaiting_eq_some_iff {run : Nat} {inputData : WorkInput}
    {wait : DriveWait} {upload : Upload} :
    state.awaiting run = some (inputData, wait, upload) ↔
      state.backup.runs[run]? = some { inputData, status := .awaits wait } ∧
        state.uploads[run]? = some upload := by
  unfold awaiting
  split
  next worker held =>
    simp [worker, held, and_assoc]
  next none =>
    constructor
    · intro impossible
      cases impossible
    · intro both
      exact (none _ _ _ both.1 both.2).elim

theorem backupStep_eq_some_iff {event : BackupEvent} :
    state.backupStep setup event = some next ↔
      ∃ backup, BackupState.step setup.codec setup.request state.backup
          event = some backup ∧
        next = { state with backup } := by
  rw [backupStep, Option.map_eq_some_iff]
  simp [eq_comm]

/-- What each event does when it can happen. -/
inductive Steps (setup : BackupSetup) (state : PipelineState) :
    PipelineEvent → PipelineState → Prop where
  | nodeWrites (eclairDB : Bytes) :
      Steps setup state (.nodeWrites eclairDB)
        { state with earlier := state.history, eclairDB }
  | channelPersisted :
      Steps setup state .channelPersisted
        { state with
          persistedAt := state.earlier.length
          backup := { state.backup with work := some setup.request } }
  | startWork {inputData : WorkInput}
      (waiting : state.backup.work = some inputData) :
      Steps setup state .startWork
        { state with
          uploads := state.uploads ++ [{ startedAt := state.earlier.length }]
          backup :=
            { state.backup with
              work := none
              runs := state.backup.runs ++
                [{ inputData, status := ChannelsBackupWorker.doWork
                    state.backup inputData }] } }
  | queried {run : Nat} {inputData : WorkInput} {upload : Upload}
      {buffer : List Nat} {backup : BackupState}
      (awaits : state.awaiting run = some (inputData, .metadata, upload))
      (answered : BackupState.step setup.codec setup.request state.backup
        (.driveAnswers run (.succeeded buffer.length)) = some backup) :
      Steps setup state (.queried run buffer)
        { state.setUpload run
            { startedAt := upload.startedAt, driveFile := buffer.head? }
          with backup }
  | reads {run : Nat} {inputData : WorkInput} {wait : DriveWait}
      {upload : Upload} (count : Nat)
      (awaits : state.awaiting run = some (inputData, wait, upload))
      (unread : upload.contents = none) :
      Steps setup state (.reads run count) (state.reads run upload count)
  | encrypts {run : Nat} {inputData : WorkInput} {wait : DriveWait}
      {upload : Upload} {sk : SecretKeys} {contents : Bytes}
      (iv : RandomBytes 16)
      (awaits : state.awaiting run = some (inputData, wait, upload))
      (parsed : ChannelsBackupWorker.secretKeys setup.codec inputData =
        .ok sk)
      (encrypted : ChannelsBackupWorker.encryptedDatabase setup.provider iv
        upload.reading sk = .ok contents)
      (unread : upload.contents = none)
      (ended : state.eclairDB.length ≤ upload.reading.length) :
      Steps setup state (.encrypts run iv)
        (state.setUpload run
          { upload with reading := [], contents := some contents })
  | creates {run driveId : Nat} {inputData : WorkInput} {upload : Upload}
      {backupFileName : String} {contents : Bytes} {backup : BackupState}
      (awaits : state.awaiting run =
        some (inputData, .createBackup, upload))
      (named : inputData.backupName = some backupFileName)
      (encrypted : upload.contents = some contents)
      (new : state.folder.get? driveId = none)
      (answered : BackupState.step setup.codec setup.request state.backup
        (.driveAnswers run (.succeeded 0)) = some backup) :
      Steps setup state (.creates run driveId)
        { (state.putFile driveId
              { title := backupFileName, deviceId := some setup.deviceId,
                contents }).setUpload run
              { upload with driveFile := some driveId, committed := true }
          with backup }
  | commits {run driveId : Nat} {inputData : WorkInput} {upload : Upload}
      {contents : Bytes} {file : DriveFile}
      (awaits : state.awaiting run =
        some (inputData, .updateBackup, upload))
      (updated : upload.driveFile = some driveId)
      (encrypted : upload.contents = some contents)
      (found : state.folder.get? driveId = some file) :
      Steps setup state (.commits run)
        (state.commits run upload driveId file contents)
  | commitFails {run : Nat} {inputData : WorkInput} {upload : Upload}
      (awaits : state.awaiting run =
        some (inputData, .updateBackup, upload)) :
      Steps setup state (.commitFails run)
        (state.setUpload run
          { upload with continued := true, reading := [] })
  | updatesMetadata {run driveId : Nat} {inputData : WorkInput}
      {upload : Upload} {file : DriveFile} {backup : BackupState}
      (awaits : state.awaiting run =
        some (inputData, .updateBackup, upload))
      (updated : upload.driveFile = some driveId)
      (found : state.folder.get? driveId = some file)
      (answered : BackupState.step setup.codec setup.request state.backup
        (.driveAnswers run (.succeeded 0)) = some backup) :
      Steps setup state (.updatesMetadata run)
        { state.putFile driveId { file with deviceId := some setup.deviceId }
          with backup }
  | fails {run : Nat} {inputData : WorkInput} {wait : DriveWait}
      {upload : Upload} {backup : BackupState}
      (awaits : state.awaiting run = some (inputData, wait, upload))
      (answered : BackupState.step setup.codec setup.request state.backup
        (.driveAnswers run .failed) = some backup) :
      Steps setup state (.fails run)
        { state.setUpload run { upload with reading := [] } with backup }
  | other {event : BackupEvent} {backup : BackupState}
      (outside : event.ofWorker = false)
      (stepped : BackupState.step setup.codec setup.request state.backup
        event = some backup) :
      Steps setup state (.other event) { state with backup }

theorem steps_of_step (result : step setup state event = some next) :
    Steps setup state event next := by
  cases event with
  | nodeWrites eclairDB =>
      cases result
      exact .nodeWrites eclairDB
  | channelPersisted =>
      obtain ⟨backup, stepped, rfl⟩ := backupStep_eq_some_iff.mp result
      cases stepped
      exact .channelPersisted
  | startWork =>
      obtain ⟨backup, stepped, rfl⟩ := backupStep_eq_some_iff.mp result
      obtain ⟨inputData, waiting, rfl⟩ := Option.map_eq_some_iff.mp stepped
      exact .startWork waiting
  | queried run buffer =>
      simp only [step, Option.bind_eq_bind, Option.bind_eq_some_iff,
        Option.ite_none_right_eq_some] at result
      obtain ⟨⟨inputData, wait, upload⟩, awaits, rfl, result⟩ := result
      obtain ⟨backup, answered, rfl⟩ := backupStep_eq_some_iff.mp result
      exact .queried awaits answered
  | reads run count =>
      simp only [step, Option.bind_eq_bind, Option.bind_eq_some_iff,
        Option.ite_none_right_eq_some, Option.some.injEq] at result
      obtain ⟨⟨inputData, wait, upload⟩, awaits, ⟨_, _, unread⟩, rfl⟩ :=
        result
      exact .reads count awaits unread
  | encrypts run iv =>
      simp only [step, Option.bind_eq_bind, Option.bind_eq_some_iff,
        Option.ite_none_right_eq_some] at result
      obtain ⟨⟨inputData, wait, upload⟩, awaits, ⟨⟨_, _, unread⟩, ended⟩,
        result⟩ := result
      unfold encrypts at result
      cases parsed : ChannelsBackupWorker.secretKeys setup.codec
          inputData with
      | error thrown => simp [parsed, bind, Except.bind] at result
      | ok sk =>
          cases encrypted : ChannelsBackupWorker.encryptedDatabase
              setup.provider iv upload.reading sk with
          | error thrown =>
              simp [parsed, encrypted, bind, Except.bind] at result
          | ok contents =>
              simp only [parsed, encrypted, bind, Except.bind,
                Option.some.injEq] at result
              subst next
              exact .encrypts iv awaits parsed encrypted unread ended
  | creates run driveId =>
      simp only [step, Option.bind_eq_bind, Option.bind_eq_some_iff,
        Option.ite_none_right_eq_some] at result
      obtain ⟨⟨inputData, wait, upload⟩, awaits, name, named, contents,
        encrypted, ⟨rfl, new⟩, result⟩ := result
      obtain ⟨backup, answered, rfl⟩ := backupStep_eq_some_iff.mp result
      exact .creates awaits named encrypted new answered
  | commits run =>
      simp only [step, Option.bind_eq_bind, Option.bind_eq_some_iff,
        Option.ite_none_right_eq_some, Option.some.injEq] at result
      obtain ⟨⟨inputData, wait, upload⟩, awaits, driveId, updated, contents,
        encrypted, file, found, ⟨rfl, _⟩, rfl⟩ := result
      exact .commits awaits updated encrypted found
  | commitFails run =>
      simp only [step, Option.bind_eq_bind, Option.bind_eq_some_iff,
        Option.ite_none_right_eq_some, Option.some.injEq] at result
      obtain ⟨⟨inputData, wait, upload⟩, awaits, ⟨rfl, _⟩, rfl⟩ := result
      exact .commitFails awaits
  | updatesMetadata run =>
      simp only [step, Option.bind_eq_bind, Option.bind_eq_some_iff,
        Option.ite_none_right_eq_some] at result
      obtain ⟨⟨inputData, wait, upload⟩, awaits, driveId, updated, file,
        found, ⟨rfl, _⟩, result⟩ := result
      obtain ⟨backup, answered, rfl⟩ := backupStep_eq_some_iff.mp result
      exact .updatesMetadata awaits updated found answered
  | fails run =>
      simp only [step, Option.bind_eq_bind, Option.bind_eq_some_iff] at result
      obtain ⟨⟨inputData, wait, upload⟩, awaits, result⟩ := result
      obtain ⟨backup, answered, rfl⟩ := backupStep_eq_some_iff.mp result
      exact .fails awaits answered
  | other event =>
      simp only [step, Option.ite_none_left_eq_some,
        Bool.not_eq_true] at result
      obtain ⟨outside, result⟩ := result
      obtain ⟨backup, stepped, rfl⟩ := backupStep_eq_some_iff.mp result
      exact .other outside stepped

end PipelineState

end EclairWallet
