import EclairWallet.Backup.Pipeline
import EclairWallet.Crypto.BackupRoundTrip

/-!
# What the newest backup holds

As long as the node leaves alone what a run has read of its database and not
yet encrypted, a backup that the wallet has written restores to a database the
node has had, whatever the order of the steps.  Runs overlap, and an older one
may write after a newer one.  When none does, the newest backup is at least as
recent as what the node last announced, as soon as the last run has committed
and no work is left to be started.
-/

namespace EclairWallet

open ByteString ChannelsBackupWorker

/-- The wallet that backs up can restore. -/
structure BackupSetup.Usable (setup : BackupSetup) (app : BackupKeys) :
    Prop where
  sound : setup.provider.Sound
  roundTrips : setup.codec.RoundTrips
  key : app.backupKeyV2 = some setup.backupKeyV2
  size : setup.backupKeyV2.length = 32

variable {setup : BackupSetup} {app : BackupKeys}

theorem BackupSetup.Usable.restores (usable : setup.Usable app)
    {sk : SecretKeys} {iv : RandomBytes 16} {eclairDB contents : Bytes}
    (parsed : secretKeys setup.codec setup.request = .ok sk)
    (encrypted : encryptedDatabase setup.provider iv eclairDB sk =
      .ok contents) :
    Restores setup.provider app contents eclairDB := by
  have keyParsed :
      EncryptedData.secretKeyFromBinaryKey setup.backupKeyV2 = .ok sk := by
    simpa [secretKeys, BackupSetup.request, generateBackupRequest, bind,
      Except.bind, usable.roundTrips setup.backupKeyV2] using parsed
  obtain ⟨keys, keysParsed, keySize⟩ :=
    EncryptedData.secretKeyFromBinaryKey_of_size usable.size
  have sameKeys : keys = sk :=
    Except.ok.inj (keysParsed.symm.trans keyParsed)
  subst keys
  have handled : EncryptedBackup.backupVersion2 ∈
      EncryptedBackup.layout.versions := by
    decide
  have fits := EncryptedBackup.fits_encrypt usable.sound iv eclairDB sk
    handled
  have written := Layout.write_of_fits fits
  have same := Except.ok.inj (written.symm.trans encrypted)
  rw [← same]
  have chosen : RestoreChannelsBackup.keyOfVersion app
      EncryptedBackup.backupVersion2 = some setup.backupKeyV2 := by
    rw [← usable.key]
    rfl
  exact restores_encrypt usable.sound handled chosen keyParsed keySize iv
    eclairDB

/-! ## Steps of the preferences -/

namespace BackupState

variable {codec : BinaryDataCodec} {request : WorkInput}
  {backup next : BackupState}

/-- An answer concerns one run that waits, and no work that is enqueued. -/
theorem driveAnswers_spec {run : Nat} {answer : DriveAnswer}
    (answered : backup.step codec request (.driveAnswers run answer) =
      some next) :
    next.work = backup.work ∧ ∃ inputData wait status,
      backup.runs[run]? = some { inputData, status := .awaits wait } ∧
        next.runs = backup.runs.set run { inputData, status } ∧
        (afterWait codec backup inputData wait answer).2 = status := by
  simp only [step] at answered
  split at answered
  next inputData wait found =>
    simp only [Option.some.injEq] at answered
    subst next
    refine ⟨?_, inputData, wait, _, found, rfl, rfl⟩
    cases wait with
    | metadata =>
        cases answer with
        | failed => rfl
        | succeeded count =>
            simp only [afterWait]
            split
            · rfl
            · split <;> rfl
    | createBackup => cases answer <;> rfl
    | updateBackup => cases answer <;> rfl
  next => cases answered

/-- The screens, the preferences and the account touch no run, and enqueue the
wallet's request or nothing. -/
theorem other_spec {event : BackupEvent} (outside : event.ofWorker = false)
    (stepped : backup.step codec request event = some next) :
    next.runs = backup.runs ∧
      (next.work = backup.work ∨ next.work = some request) := by
  cases event with
  | enqueue inputData => cases outside
  | startWork => cases outside
  | driveAnswers run answer => cases outside
  | onResume =>
      cases stepped
      exact ⟨rfl, .inl rfl⟩
  | preferenceChanged =>
      cases stepped
      exact ⟨rfl, .inl rfl⟩
  | switchAccess =>
      cases stepped
      unfold ChannelsBackupSettingsActivity.switchAccess
      split <;> exact ⟨rfl, .inl rfl⟩
  | accountChanged signedIn =>
      cases stepped
      exact ⟨rfl, .inl rfl⟩
  | endTask task answer =>
      simp only [step, Option.ite_none_right_eq_some,
        Option.some.injEq] at stepped
      obtain ⟨_, rfl⟩ := stepped
      cases task with
      | applyAccessGranted =>
          refine ⟨rfl, ?_⟩
          simp only [ChannelsBackupSettingsActivity.endTask,
            ChannelsBackupSettingsActivity.applyAccessGranted]
          split
          · exact .inl rfl
          · exact .inr rfl
      | initOrSignInGoogleDrive =>
          simp only [ChannelsBackupSettingsActivity.endTask]
          split <;> exact ⟨rfl, .inl rfl⟩
      | checkAccess =>
          simp only [ChannelsBackupSettingsActivity.endTask]
          split <;> exact ⟨rfl, .inl rfl⟩
      | confirmRevoke => cases answer <;> exact ⟨rfl, .inl rfl⟩
      | signIn => cases answer <;> exact ⟨rfl, .inl rfl⟩
      | retrieveEclairBackup => cases answer <;> exact ⟨rfl, .inl rfl⟩
      | revokeAccess byUser => cases answer <;> exact ⟨rfl, .inl rfl⟩
      | applyAccessDenied byUser => exact ⟨rfl, .inl rfl⟩

end BackupState

namespace PipelineState

variable {state next : PipelineState} {event : PipelineEvent}

/-! ## Nothing is taken back -/

/-- The database has had what it had, and no file is lost or renamed. -/
structure Extends (state next : PipelineState) : Prop where
  history : ∃ later, next.history = state.history ++ later
  folder : ∀ driveId file, state.folder.get? driveId = some file →
    ∃ later, next.folder.get? driveId = some later ∧
      later.title = file.title

theorem Extends.of_same (sameEarlier : next.earlier = state.earlier)
    (sameDB : next.eclairDB = state.eclairDB)
    (sameFolder : next.folder = state.folder) : state.Extends next where
  history := ⟨[], by simp [PipelineState.history, sameEarlier, sameDB]⟩
  folder := by
    intro driveId file found
    exact ⟨file, by rw [sameFolder]; exact found, rfl⟩

theorem Extends.putFile {driveId : Nat} {file : DriveFile}
    (sameEarlier : next.earlier = state.earlier)
    (sameDB : next.eclairDB = state.eclairDB)
    (written : next.folder = state.folder.put driveId file)
    (kept : ∀ before, state.folder.get? driveId = some before →
      file.title = before.title) : state.Extends next where
  history := ⟨[], by simp [PipelineState.history, sameEarlier, sameDB]⟩
  folder := by
    intro other before found
    rw [written, RecentFirst.get?_put]
    split
    next same =>
      subst other
      exact ⟨file, rfl, kept before found⟩
    next => exact ⟨before, found, rfl⟩

theorem extends_of_step (result : step setup state event = some next) :
    state.Extends next := by
  cases steps_of_step result with
  | nodeWrites eclairDB =>
      exact
        { history := ⟨[eclairDB], rfl⟩
          folder := fun _ file found => ⟨file, found, rfl⟩ }
  | channelPersisted => exact .of_same rfl rfl rfl
  | startWork waiting => exact .of_same rfl rfl rfl
  | queried awaits answered => exact .of_same rfl rfl rfl
  | reads count awaits unread => exact .of_same rfl rfl rfl
  | encrypts iv awaits parsed encrypted unread ended =>
      exact .of_same rfl rfl rfl
  | creates awaits named encrypted new answered =>
      refine Extends.putFile rfl rfl rfl ?_
      intro before found
      simp [new] at found
  | @commits run driveId inputData upload contents file awaits updated
      encrypted found =>
      refine Extends.putFile rfl rfl rfl ?_
      intro before same
      have sameFile : file = before := Option.some.inj (found.symm.trans same)
      rw [← sameFile]
  | commitFails awaits => exact .of_same rfl rfl rfl
  | @updatesMetadata run driveId inputData upload file backup awaits updated
      found answered =>
      refine Extends.putFile rfl rfl rfl ?_
      intro before same
      have sameFile : file = before := Option.some.inj (found.symm.trans same)
      rw [← sameFile]
  | fails awaits answered => exact .of_same rfl rfl rfl
  | other outside stepped => exact .of_same rfl rfl rfl

/-! ## What a run holds -/

/-- The contents restore to the database as it was at the version, or as it
became later. -/
def RestoresSince (setup : BackupSetup) (app : BackupKeys)
    (state : PipelineState) (version : Nat) (contents : Bytes) : Prop :=
  ∃ eclairDB ∈ state.history.drop version,
    Restores setup.provider app contents eclairDB

theorem RestoresSince.mono {version : Nat} {contents : Bytes}
    (restores : RestoresSince setup app state version contents)
    (extends_ : state.Extends next) :
    RestoresSince setup app next version contents := by
  obtain ⟨eclairDB, since, restored⟩ := restores
  obtain ⟨later, grown⟩ := extends_.history
  refine ⟨eclairDB, ?_, restored⟩
  rw [grown, List.drop_append]
  exact List.mem_append_left _ since

/-- The invariant of every order of steps: the runs are those of the wallet's
request. -/
structure Held (setup : BackupSetup) (state : PipelineState) : Prop where
  requests : ∀ worker ∈ state.backup.runs, worker.inputData = setup.request
  queued : ∀ inputData, state.backup.work = some inputData →
    inputData = setup.request

theorem Held.isRequest (held : Held setup state) {run : Nat}
    {inputData : WorkInput} {wait : DriveWait} {upload : Upload}
    (awaits : state.awaiting run = some (inputData, wait, upload)) :
    inputData = setup.request :=
  held.requests _ (List.mem_of_getElem? (awaiting_eq_some_iff.mp awaits).1)

theorem Held.of_answered (held : Held setup state) {run : Nat}
    {answer : DriveAnswer} {backup : BackupState}
    (answered : state.backup.step setup.codec setup.request
      (.driveAnswers run answer) = some backup)
    (stepped : next.backup = backup) : Held setup next := by
  subst backup
  obtain ⟨sameWork, inputData, wait, status, found, runs, _⟩ :=
    BackupState.driveAnswers_spec answered
  constructor
  · intro worker member
    rw [runs] at member
    rcases List.mem_or_eq_of_mem_set member with old | new
    · exact held.requests worker old
    · have before := held.requests _ (List.mem_of_getElem? found)
      rw [new]
      exact before
  · intro other waiting
    rw [sameWork] at waiting
    exact held.queued other waiting

/-- The name a run looks for is that of the wallet's backup. -/
theorem name_of_request {backupFileName : String}
    (named : setup.request.backupName = some backupFileName) :
    backupFileName = setup.backupFileName := by
  simpa [BackupSetup.request, generateBackupRequest,
    BackupSetup.backupFileName, eq_comm] using named

theorem Held.step (held : Held setup state)
    (result : step setup state event = some next) : Held setup next := by
  cases steps_of_step result with
  | nodeWrites eclairDB => exact ⟨held.requests, held.queued⟩
  | channelPersisted =>
      refine ⟨held.requests, ?_⟩
      intro inputData waiting
      exact (Option.some.inj waiting).symm
  | @startWork inputData waiting =>
      refine ⟨?_, ?_⟩
      · intro worker member
        rcases List.mem_append.mp member with old | new
        · exact held.requests worker old
        · rw [List.mem_singleton.mp new]
          exact held.queued inputData waiting
      · intro other impossible
        cases impossible
  | queried awaits answered => exact held.of_answered answered rfl
  | reads count awaits unread => exact ⟨held.requests, held.queued⟩
  | encrypts iv awaits parsed encrypted unread ended =>
      exact ⟨held.requests, held.queued⟩
  | creates awaits named encrypted new answered =>
      exact held.of_answered answered rfl
  | commits awaits updated encrypted found =>
      exact ⟨held.requests, held.queued⟩
  | commitFails awaits => exact ⟨held.requests, held.queued⟩
  | updatesMetadata awaits updated found answered =>
      exact held.of_answered answered rfl
  | fails awaits answered => exact held.of_answered answered rfl
  | other outside stepped =>
      obtain ⟨sameRuns, work⟩ := BackupState.other_spec outside stepped
      refine ⟨?_, ?_⟩
      · intro worker member
        exact held.requests worker (sameRuns ▸ member)
      · intro inputData waiting
        rcases work with same | requested
        · exact held.queued inputData (same ▸ waiting)
        · exact Option.some.inj (waiting.symm.trans requested)

/-! ## Where an upload has its contents from -/

/-- The node leaves alone what a run has read and not yet encrypted. -/
def Consistent (state : PipelineState) : PipelineEvent → Prop
  | .nodeWrites eclairDB =>
      ∀ upload ∈ state.uploads, upload.reading <+: eclairDB
  | _ => True

instance (state : PipelineState) :
    (event : PipelineEvent) → Decidable (state.Consistent event)
  | .nodeWrites eclairDB => inferInstanceAs (Decidable
      (∀ upload ∈ state.uploads, upload.reading <+: eclairDB))
  | .channelPersisted => .isTrue trivial
  | .startWork => .isTrue trivial
  | .queried _ _ => .isTrue trivial
  | .reads _ _ => .isTrue trivial
  | .encrypts _ _ => .isTrue trivial
  | .creates _ _ => .isTrue trivial
  | .commits _ => .isTrue trivial
  | .commitFails _ => .isTrue trivial
  | .updatesMetadata _ => .isTrue trivial
  | .fails _ => .isTrue trivial
  | .other _ => .isTrue trivial

/-- An upload has read a part of the database as it now is, or has encrypted
the database as it was after its start. -/
structure UploadFacts (setup : BackupSetup) (app : BackupKeys)
    (state : PipelineState) (upload : Upload) : Prop where
  started : upload.startedAt < state.history.length
  reading : upload.reading <+: state.eclairDB
  contents : ∀ contents, upload.contents = some contents →
    RestoresSince setup app state upload.startedAt contents

theorem UploadFacts.mono {upload : Upload}
    (facts : UploadFacts setup app state upload)
    (extends_ : state.Extends next)
    (reading : upload.reading <+: next.eclairDB) :
    UploadFacts setup app next upload where
  started := by
    obtain ⟨later, grown⟩ := extends_.history
    rw [grown, List.length_append]
    exact Nat.lt_add_right _ facts.started
  reading := reading
  contents := by
    intro contents held
    exact (facts.contents contents held).mono extends_

/-- The invariant of the runs that read while the node leaves alone what they
have read. -/
def Read (setup : BackupSetup) (app : BackupKeys)
    (state : PipelineState) : Prop :=
  ∀ upload ∈ state.uploads, UploadFacts setup app state upload

theorem Read.awaiting (read : Read setup app state) {run : Nat}
    {inputData : WorkInput} {wait : DriveWait} {upload : Upload}
    (awaits : state.awaiting run = some (inputData, wait, upload)) :
    UploadFacts setup app state upload :=
  read upload (List.mem_of_getElem? (awaiting_eq_some_iff.mp awaits).2)

theorem Read.set (read : Read setup app state)
    (extends_ : state.Extends next) (unwritten : next.eclairDB = state.eclairDB)
    {run : Nat} {upload : Upload}
    (changed : next.uploads = state.uploads.set run upload)
    (facts : UploadFacts setup app next upload) : Read setup app next := by
  intro other member
  rw [changed] at member
  rcases List.mem_or_eq_of_mem_set member with old | new
  · have before := read other old
    exact before.mono extends_ (unwritten ▸ before.reading)
  · rw [new]
    exact facts

/-- What has been read up to the end of the file is the whole of it. -/
theorem UploadFacts.reading_eq {upload : Upload}
    (facts : UploadFacts setup app state upload)
    (ended : state.eclairDB.length ≤ upload.reading.length) :
    upload.reading = state.eclairDB :=
  facts.reading.eq_of_length_le ended

theorem Read.step (usable : setup.Usable app) (held : Held setup state)
    (read : Read setup app state) (consistent : state.Consistent event)
    (result : step setup state event = some next) : Read setup app next := by
  have extends_ := extends_of_step result
  have kept : next.eclairDB = state.eclairDB →
      ∀ upload ∈ state.uploads, UploadFacts setup app next upload := by
    intro unwritten upload member
    have before := read upload member
    exact before.mono extends_ (unwritten ▸ before.reading)
  cases steps_of_step result with
  | nodeWrites eclairDB =>
      intro upload member
      exact (read upload member).mono extends_ (consistent upload member)
  | channelPersisted => exact kept rfl
  | startWork waiting =>
      intro upload member
      rcases List.mem_append.mp member with old | new
      · exact kept rfl upload old
      · rw [List.mem_singleton.mp new]
        refine ⟨by simp [history], List.nil_prefix, ?_⟩
        intro contents impossible
        cases impossible
  | queried awaits answered =>
      refine read.set extends_ rfl rfl ⟨?_, List.nil_prefix, ?_⟩
      · exact (read.awaiting awaits).started
      · intro contents impossible
        cases impossible
  | @reads run inputData wait upload count awaits unread =>
      have facts := read.awaiting awaits
      refine read.set extends_ rfl rfl ⟨facts.started, ?_, facts.contents⟩
      -- What is read next goes on where the part that has been read ends.
      obtain ⟨rest, whole⟩ := facts.reading
      have next : state.eclairDB.drop upload.reading.length = rest := by
        rw [← whole, List.drop_left]
      change upload.reading ++
        (state.eclairDB.drop upload.reading.length).take count <+:
          state.eclairDB
      rw [next, ← whole]
      exact (List.prefix_append_right_inj upload.reading).mpr
        (List.take_prefix count rest)
  | @encrypts run inputData wait upload sk contents iv awaits parsed
      encrypted unread ended =>
      have facts := read.awaiting awaits
      refine read.set extends_ rfl rfl ⟨facts.started, List.nil_prefix, ?_⟩
      intro other same
      simp only [Option.some.injEq] at same
      subst other
      rw [held.isRequest awaits] at parsed
      rw [facts.reading_eq ended] at encrypted
      refine ⟨state.eclairDB, ?_, usable.restores parsed encrypted⟩
      have started := facts.started
      simp only [history, List.length_append, List.length_singleton] at started
      have within : upload.startedAt ≤ state.earlier.length := by omega
      change state.eclairDB ∈
        (state.earlier ++ [state.eclairDB]).drop upload.startedAt
      rw [List.drop_append_of_le_length within]
      simp
  | creates awaits named encrypted new answered =>
      have facts := (read.awaiting awaits).mono extends_
        (read.awaiting awaits).reading
      exact read.set extends_ rfl rfl
        ⟨facts.started, facts.reading, facts.contents⟩
  | commits awaits updated encrypted found =>
      have facts := (read.awaiting awaits).mono extends_
        (read.awaiting awaits).reading
      exact read.set extends_ rfl rfl
        ⟨facts.started, facts.reading, facts.contents⟩
  | commitFails awaits =>
      have facts := read.awaiting awaits
      exact read.set extends_ rfl rfl
        ⟨facts.started, List.nil_prefix, facts.contents⟩
  | updatesMetadata awaits updated found answered => exact kept rfl
  | fails awaits answered =>
      have facts := read.awaiting awaits
      exact read.set extends_ rfl rfl
        ⟨facts.started, List.nil_prefix, facts.contents⟩
  | other outside stepped => exact kept rfl

/-- The wallet when the process starts: no run has been started, and what may
be enqueued is the wallet's request. -/
structure Idle (setup : BackupSetup) (state : PipelineState) : Prop where
  runs : state.backup.runs = []
  uploads : state.uploads = []
  queued : ∀ inputData, state.backup.work = some inputData →
    inputData = setup.request
  persistedAt : state.persistedAt = 0

theorem Idle.held (idle : Idle setup state) : Held setup state where
  requests := by simp [idle.runs]
  queued := idle.queued

theorem Idle.read (idle : Idle setup state) : Read setup app state := by
  simp [Read, idle.uploads]

/-! ## Every backup restores -/

/-- The file under the name of the backup was there before, or restores to a
database the node has had. -/
def Explained (setup : BackupSetup) (app : BackupKeys) (before : AppFolder)
    (state : PipelineState) (entry : Nat × DriveFile) : Prop :=
  (∃ file, (entry.1, file) ∈ before.entries ∧
      file.title = setup.backupFileName ∧
      file.contents = entry.2.contents) ∨
    RestoresSince setup app state 0 entry.2.contents

theorem Explained.mono {before : AppFolder} {entry : Nat × DriveFile}
    (explained : Explained setup app before state entry)
    (extends_ : state.Extends next) :
    Explained setup app before next entry := by
  rcases explained with old | restores
  · exact .inl old
  · exact .inr (restores.mono extends_)

theorem RestoresSince.of_upload {upload : Upload} {contents : Bytes}
    (facts : UploadFacts setup app state upload)
    (encrypted : upload.contents = some contents) :
    RestoresSince setup app state 0 contents := by
  obtain ⟨eclairDB, since, restored⟩ := facts.contents contents encrypted
  exact ⟨eclairDB, List.mem_of_mem_drop since, restored⟩

theorem explained_step {before : AppFolder}
    (read : Read setup app state)
    (explained : ∀ entry ∈ state.folder.entries,
      entry.2.title = setup.backupFileName →
      Explained setup app before state entry)
    (result : step setup state event = some next) :
    ∀ entry ∈ next.folder.entries, entry.2.title = setup.backupFileName →
      Explained setup app before next entry := by
  have extends_ := extends_of_step result
  have kept : ∀ entry ∈ state.folder.entries,
      entry.2.title = setup.backupFileName →
      Explained setup app before next entry :=
    fun entry member title => (explained entry member title).mono extends_
  cases steps_of_step result with
  | nodeWrites eclairDB => exact kept
  | channelPersisted => exact kept
  | startWork waiting => exact kept
  | queried awaits answered => exact kept
  | reads count awaits unread => exact kept
  | encrypts iv awaits parsed encrypted unread ended => exact kept
  | creates awaits named encrypted new answered =>
      apply RecentFirst.forall_put kept
      intro _
      exact .inr ((RestoresSince.of_upload (read.awaiting awaits)
        encrypted).mono extends_)
  | commits awaits updated encrypted found =>
      apply RecentFirst.forall_put kept
      intro _
      exact .inr ((RestoresSince.of_upload (read.awaiting awaits)
        encrypted).mono extends_)
  | commitFails awaits => exact kept
  | @updatesMetadata run driveId inputData upload file backup awaits updated
      found answered =>
      apply RecentFirst.forall_put kept
      intro title
      have old := kept (driveId, file) (RecentFirst.get?_eq_some_iff.mp found)
        title
      exact old
  | fails awaits answered => exact kept
  | other outside stepped => exact kept

/-- In every order of the steps in which the node leaves alone what a run has
read of its database, a file under the name of the backup is one of those found
at the start, with the contents it had, or restores to a database the node has
had. -/
theorem every_backup_explained (usable : setup.Usable app)
    {start finish : PipelineState} {events : List PipelineEvent}
    (idle : Idle setup start)
    (consistent : Runs.StepsMeet (step setup) Consistent start events)
    (run : Runs.exec (step setup) start events = some finish) :
    ∀ entry ∈ finish.folder.entries,
      entry.2.title = setup.backupFileName →
      Explained setup app start.folder finish entry := by
  have preserved : ∀ state event next,
      (Held setup state ∧ Read setup app state ∧
        ∀ entry ∈ state.folder.entries,
          entry.2.title = setup.backupFileName →
          Explained setup app start.folder state entry) →
      Consistent state event → step setup state event = some next →
      (Held setup next ∧ Read setup app next ∧
        ∀ entry ∈ next.folder.entries,
          entry.2.title = setup.backupFileName →
          Explained setup app start.folder next entry) := by
    rintro state event next ⟨held, read, explained⟩ consistent result
    exact ⟨held.step result, read.step usable held consistent result,
      explained_step read explained result⟩
  have initially : Held setup start ∧ Read setup app start ∧
      ∀ entry ∈ start.folder.entries,
        entry.2.title = setup.backupFileName →
        Explained setup app start.folder start entry :=
    ⟨idle.held, idle.read, fun entry member title =>
      .inl ⟨entry.2, member, title, rfl⟩⟩
  exact (Runs.invariant_of_stepsMeet preserved initially consistent run).2.2

/-- Two backups by one device: the first creates the file, the second updates
it.  The node writes again before the second is made, and once more while its
database is read. -/
def sampleSetup : BackupSetup where
  provider := sampleProvider
  codec := hexCodec
  chain := "testnet"
  seedHash := "seedhash"
  deviceId := "device"
  backupKeyV2 := sampleKeyV2

theorem sampleSetup_usable : sampleSetup.Usable sampleApp where
  sound := sampleProvider_sound
  roundTrips := hexDecode_hexEncode
  key := rfl
  size := by decide

def sampleStart : PipelineState where
  backup :=
    { enabled := true
      hasFailed := false
      signedIn := true
      switchChecked := true
      decision := some .granted
      work := none
      runs := []
      tasks := [] }
  uploads := []
  folder := .empty
  earlier := []
  eclairDB := [1]
  persistedAt := 0

theorem sampleStart_idle : Idle sampleSetup sampleStart where
  runs := rfl
  uploads := rfl
  queued := by
    intro inputData impossible
    cases impossible
  persistedAt := rfl

def twoBackups : List PipelineEvent :=
  [.channelPersisted,
    .startWork,
    .queried 0 [],
    .reads 0 1,
    .encrypts 0 firstSample.iv,
    .creates 0 7,
    .nodeWrites [2, 3],
    .channelPersisted,
    .startWork,
    .queried 1 [7],
    .reads 1 1,
    .nodeWrites [2, 4],
    .reads 1 1,
    .encrypts 1 secondSample.iv,
    .commits 1,
    .updatesMetadata 1]

theorem twoBackups_explained :
    ∃ finish, Runs.exec (step sampleSetup) sampleStart twoBackups =
        some finish ∧
      ∀ entry ∈ finish.folder.entries,
        entry.2.title = sampleSetup.backupFileName →
        Explained sampleSetup sampleApp .empty finish entry := by
  have possible : (Runs.exec (step sampleSetup) sampleStart
      twoBackups).isSome = true := by
    decide +kernel
  obtain ⟨finish, run⟩ := Option.isSome_iff_exists.mp possible
  have consistent : Runs.StepsMeet (step sampleSetup) Consistent sampleStart
      twoBackups := by
    decide +kernel
  exact ⟨finish, run, every_backup_explained sampleSetup_usable
    sampleStart_idle consistent run⟩

/-- The node rewrites the byte a run has read: what the run encrypts is no
database the node has had. -/
def tornBackup : List PipelineEvent :=
  [.nodeWrites [1, 2],
    .channelPersisted,
    .startWork,
    .queried 0 [],
    .reads 0 1,
    .nodeWrites [3, 4],
    .reads 0 1,
    .encrypts 0 firstSample.iv,
    .creates 0 7]

example :
    (Runs.exec (step sampleSetup) sampleStart (tornBackup.take 7)).map
      (fun state => (state.uploads.map Upload.reading, state.history)) =
      some ([[1, 4]], [[1], [1, 2], [3, 4]]) := by
  decide +kernel

/-! ## The newest backup -/

/-- Drive's answer to the query lists the files under the name of the backup,
the last modified first. -/
def Listed (setup : BackupSetup) (state : PipelineState) :
    PipelineEvent → Prop
  | .queried _ buffer =>
      buffer = (state.folder.query (titled setup.backupFileName)).map Prod.fst
  | _ => True

instance (state : PipelineState) :
    (event : PipelineEvent) → Decidable (Listed setup state event)
  | .queried _ buffer => inferInstanceAs (Decidable (buffer =
      (state.folder.query (titled setup.backupFileName)).map Prod.fst))
  | .nodeWrites _ => .isTrue trivial
  | .channelPersisted => .isTrue trivial
  | .startWork => .isTrue trivial
  | .reads _ _ => .isTrue trivial
  | .encrypts _ _ => .isTrue trivial
  | .creates _ _ => .isTrue trivial
  | .commits _ => .isTrue trivial
  | .commitFails _ => .isTrue trivial
  | .updatesMetadata _ => .isTrue trivial
  | .fails _ => .isTrue trivial
  | .other _ => .isTrue trivial

/-- The file a run updates, if it updates one, has the name of the backup. -/
def Named (setup : BackupSetup) (state : PipelineState)
    (driveFile : Option Nat) : Prop :=
  ∀ driveId, driveFile = some driveId →
    ∃ file, state.folder.get? driveId = some file ∧
      file.title = setup.backupFileName

theorem Named.mono {driveFile : Option Nat}
    (named : Named setup state driveFile)
    (extends_ : state.Extends next) : Named setup next driveFile := by
  intro driveId updated
  obtain ⟨file, found, title⟩ := named driveId updated
  obtain ⟨later, laterFound, sameTitle⟩ := extends_.folder driveId file found
  exact ⟨later, laterFound, sameTitle.trans title⟩

/-- The invariant of the runs whose query was answered with the files of that
name. -/
def AllNamed (setup : BackupSetup) (state : PipelineState) : Prop :=
  ∀ upload ∈ state.uploads, Named setup state upload.driveFile

theorem AllNamed.awaiting (allNamed : AllNamed setup state) {run : Nat}
    {inputData : WorkInput} {wait : DriveWait} {upload : Upload}
    (awaits : state.awaiting run = some (inputData, wait, upload)) :
    Named setup state upload.driveFile :=
  allNamed upload (List.mem_of_getElem? (awaiting_eq_some_iff.mp awaits).2)

theorem AllNamed.set (allNamed : AllNamed setup state)
    (extends_ : state.Extends next) {run : Nat} {upload : Upload}
    (changed : next.uploads = state.uploads.set run upload)
    (named : Named setup next upload.driveFile) : AllNamed setup next := by
  intro other member
  rw [changed] at member
  rcases List.mem_or_eq_of_mem_set member with old | new
  · exact (allNamed other old).mono extends_
  · rw [new]
    exact named

theorem AllNamed.step (held : Held setup state)
    (allNamed : AllNamed setup state) (listed : Listed setup state event)
    (result : step setup state event = some next) : AllNamed setup next := by
  have extends_ := extends_of_step result
  have kept : ∀ upload ∈ state.uploads, Named setup next upload.driveFile :=
    fun upload member => (allNamed upload member).mono extends_
  have same : ∀ {run inputData wait upload},
      state.awaiting run = some (inputData, wait, upload) →
      Named setup next upload.driveFile :=
    fun awaits => (allNamed.awaiting awaits).mono extends_
  cases steps_of_step result with
  | nodeWrites eclairDB => exact kept
  | channelPersisted => exact kept
  | startWork waiting =>
      intro upload member
      rcases List.mem_append.mp member with old | new
      · exact kept upload old
      · rw [List.mem_singleton.mp new]
        intro driveId impossible
        cases impossible
  | @queried run inputData upload buffer backup awaits answered =>
      refine allNamed.set extends_ rfl ?_
      intro driveId found
      have first : buffer.head? = some driveId := found
      rw [show buffer = _ from listed, List.head?_map,
        Option.map_eq_some_iff] at first
      obtain ⟨entry, first, rfl⟩ := first
      obtain ⟨member, title⟩ :=
        RecentFirst.mem_query_iff.mp (List.mem_of_head? first)
      refine ⟨entry.2, RecentFirst.get?_eq_some_iff.mpr member, ?_⟩
      simpa [titled] using title
  | reads count awaits unread =>
      have named := same awaits
      exact allNamed.set extends_ rfl named
  | encrypts iv awaits parsed encrypted unread ended =>
      have named := same awaits
      exact allNamed.set extends_ rfl named
  | creates awaits named encrypted new answered =>
      refine allNamed.set extends_ rfl ?_
      intro created isCreated
      simp only [Option.some.injEq] at isCreated
      subst created
      refine ⟨_, RecentFirst.get?_eq_some_iff.mpr
        (RecentFirst.mem_put_iff.mpr (.inl rfl)), ?_⟩
      rw [held.isRequest awaits] at named
      exact name_of_request named
  | commits awaits updated encrypted found =>
      have named := same awaits
      exact allNamed.set extends_ rfl named
  | commitFails awaits =>
      have named := same awaits
      exact allNamed.set extends_ rfl named
  | updatesMetadata awaits updated found answered => exact kept
  | fails awaits answered =>
      have named := same awaits
      exact allNamed.set extends_ rfl named
  | other outside stepped => exact kept

/-- What writes to Drive is written by a run after which none has
committed. -/
def InOrder (state : PipelineState) : PipelineEvent → Prop
  | .creates run _ => ∀ upload ∈ state.uploads.drop (run + 1),
      upload.committed = false
  | .commits run => ∀ upload ∈ state.uploads.drop (run + 1),
      upload.committed = false
  | .updatesMetadata run => ∀ upload ∈ state.uploads.drop (run + 1),
      upload.committed = false
  | _ => True

instance (state : PipelineState) :
    (event : PipelineEvent) → Decidable (state.InOrder event)
  | .creates run _ => inferInstanceAs (Decidable
      (∀ upload ∈ state.uploads.drop (run + 1), upload.committed = false))
  | .commits run => inferInstanceAs (Decidable
      (∀ upload ∈ state.uploads.drop (run + 1), upload.committed = false))
  | .updatesMetadata run => inferInstanceAs (Decidable
      (∀ upload ∈ state.uploads.drop (run + 1), upload.committed = false))
  | .nodeWrites _ => .isTrue trivial
  | .channelPersisted => .isTrue trivial
  | .startWork => .isTrue trivial
  | .queried _ _ => .isTrue trivial
  | .reads _ _ => .isTrue trivial
  | .encrypts _ _ => .isTrue trivial
  | .commitFails _ => .isTrue trivial
  | .fails _ => .isTrue trivial
  | .other _ => .isTrue trivial

/-- The newest backup has the contents of the upload, and is the file it
updates, if it updates one. -/
def NewestIs (setup : BackupSetup) (state : PipelineState)
    (upload : Upload) : Prop :=
  ∃ driveId file,
    state.folder.newest (titled setup.backupFileName) =
        some (driveId, file) ∧
      upload.contents = some file.contents ∧
      ∀ updated, upload.driveFile = some updated → updated = driveId

/-- The invariant of the runs that write in order: what the last run has
committed is the newest backup, and unless work waits the last run was started
after what the node last announced. -/
structure Ordered (setup : BackupSetup) (state : PipelineState) : Prop where
  persisted : state.persistedAt < state.history.length
  waiting : state.backup.work = none → ∀ upload,
    state.uploads.getLast? = some upload →
    state.persistedAt ≤ upload.startedAt
  newest : ∀ upload, state.uploads.getLast? = some upload →
    upload.committed = true → NewestIs setup state upload

theorem getLast?_set {uploads : List Upload} {run : Nat}
    {before upload last : Upload} (found : uploads[run]? = some before)
    (isLast : (uploads.set run upload).getLast? = some last) :
    (last = upload ∧ uploads.getLast? = some before) ∨
      (uploads.getLast? = some last ∧ last ∈ uploads.drop (run + 1)) := by
  obtain ⟨within, value⟩ := List.getElem?_eq_some_iff.mp found
  rw [List.getLast?_eq_getElem?, List.length_set] at isLast
  rw [List.getLast?_eq_getElem?]
  by_cases same : run = uploads.length - 1
  · left
    rw [← same, List.getElem?_set_self within] at isLast
    rw [← same]
    exact ⟨(Option.some.inj isLast).symm, found⟩
  · right
    rw [List.getElem?_set_ne same] at isLast
    refine ⟨isLast, ?_⟩
    apply List.mem_of_getElem? (i := uploads.length - 1 - (run + 1))
    rw [List.getElem?_drop]
    have index : run + 1 + (uploads.length - 1 - (run + 1)) =
        uploads.length - 1 := by
      omega
    rw [index]
    exact isLast

theorem uploads_set_self {run : Nat} {upload : Upload}
    (found : state.uploads[run]? = some upload) :
    state.uploads.set run upload = state.uploads := by
  obtain ⟨within, value⟩ := List.getElem?_eq_some_iff.mp found
  rw [← value]
  exact List.set_getElem_self within

/-- A change of an upload that keeps when it was started. -/
theorem Ordered.waiting_set (ordered : Ordered setup state) {run : Nat}
    {before upload : Upload} (found : state.uploads[run]? = some before)
    {last : Upload}
    (isLast : (state.uploads.set run upload).getLast? = some last)
    (same : upload.startedAt = before.startedAt)
    (none : state.backup.work = none) :
    state.persistedAt ≤ last.startedAt := by
  rcases getLast?_set found isLast with ⟨changed, wasLast⟩ | ⟨wasLast, _⟩
  · rw [changed, same]
    exact ordered.waiting none before wasLast
  · exact ordered.waiting none last wasLast

theorem Ordered.set (ordered : Ordered setup state) {run : Nat}
    {before upload : Upload} (found : state.uploads[run]? = some before)
    (sameStart : upload.startedAt = before.startedAt) {backup : BackupState}
    (sameWork : backup.work = state.backup.work)
    (changed : upload.committed = true →
      before.committed = true ∧
        (NewestIs setup state before → NewestIs setup state upload)) :
    Ordered setup { state.setUpload run upload with backup } := by
  refine ⟨ordered.persisted, ?_, ?_⟩
  · intro none last isLast
    exact ordered.waiting_set found isLast sameStart (sameWork ▸ none)
  · intro last isLast committed
    rcases getLast?_set found isLast with ⟨same, wasLast⟩ | ⟨wasLast, _⟩
    · subst last
      obtain ⟨wasCommitted, kept⟩ := changed committed
      exact kept (ordered.newest before wasLast wasCommitted)
    · exact ordered.newest last wasLast committed

/-- A write in order, by a run whose contents it leaves on Drive. -/
theorem newest_write {run driveId : Nat} {before upload : Upload}
    {file : DriveFile} (found : state.uploads[run]? = some before)
    (inOrder : ∀ later ∈ state.uploads.drop (run + 1),
      later.committed = false)
    (title : file.title = setup.backupFileName)
    (written : upload.committed = true →
      state.uploads.getLast? = some before →
      upload.contents = some file.contents ∧ upload.driveFile = some driveId)
    {folder : AppFolder} (isFolder : folder = state.folder.put driveId file)
    {last : Upload}
    (isLast : (state.uploads.set run upload).getLast? = some last)
    (committed : last.committed = true) :
    ∃ newestId newestFile,
      folder.newest (titled setup.backupFileName) =
          some (newestId, newestFile) ∧
        last.contents = some newestFile.contents ∧
        ∀ updated, last.driveFile = some updated → updated = newestId := by
  rcases getLast?_set found isLast with ⟨same, wasLast⟩ | ⟨wasLast, later⟩
  · subst last
    obtain ⟨contents, driveFile⟩ := written committed wasLast
    refine ⟨driveId, file, ?_, contents, ?_⟩
    · rw [isFolder]
      apply RecentFirst.newest_put
      simp [titled, title]
    · intro updated same
      exact (Option.some.inj (driveFile.symm.trans same)).symm
  · rw [inOrder last later] at committed
    cases committed

theorem Ordered.step (held : Held setup state)
    (allNamed : AllNamed setup state) (ordered : Ordered setup state)
    (inOrder : state.InOrder event)
    (result : step setup state event = some next) : Ordered setup next := by
  cases steps_of_step result with
  | nodeWrites eclairDB =>
      refine ⟨?_, ordered.waiting, ordered.newest⟩
      have persisted := ordered.persisted
      simp only [history, List.length_append, List.length_singleton] at *
      omega
  | channelPersisted =>
      refine ⟨?_, ?_, ordered.newest⟩
      · simp [history]
      · intro impossible
        cases impossible
  | startWork waiting =>
      refine ⟨ordered.persisted, ?_, ?_⟩
      · intro _ upload isLast
        simp only [List.getLast?_append, List.getLast?_singleton,
          Option.some_or, Option.some.injEq] at isLast
        subst upload
        have persisted := ordered.persisted
        simp only [history, List.length_append,
          List.length_singleton] at persisted
        exact Nat.le_of_lt_succ persisted
      · intro upload isLast committed
        simp only [List.getLast?_append, List.getLast?_singleton,
          Option.some_or, Option.some.injEq] at isLast
        subst upload
        cases committed
  | queried awaits answered =>
      have found := (awaiting_eq_some_iff.mp awaits).2
      obtain ⟨sameWork, _⟩ := BackupState.driveAnswers_spec answered
      refine ordered.set found ?_ sameWork ?_
      · rfl
      · intro impossible
        cases impossible
  | reads count awaits unread =>
      have found := (awaiting_eq_some_iff.mp awaits).2
      refine ordered.set found ?_ rfl ?_
      · rfl
      · intro wasCommitted
        exact ⟨wasCommitted, id⟩
  | encrypts iv awaits parsed encrypted unread ended =>
      have found := (awaiting_eq_some_iff.mp awaits).2
      refine ordered.set found ?_ rfl ?_
      · rfl
      · intro wasCommitted
        refine ⟨wasCommitted, ?_⟩
        intro newest
        obtain ⟨driveId, file, _, contents, _⟩ := newest
        rw [unread] at contents
        cases contents
  | creates awaits named encrypted new answered =>
      have found := (awaiting_eq_some_iff.mp awaits).2
      have isRequest := held.isRequest awaits
      obtain ⟨sameWork, _⟩ := BackupState.driveAnswers_spec answered
      refine ⟨ordered.persisted, ?_, ?_⟩
      · intro none last isLast
        exact ordered.waiting_set found isLast rfl (sameWork ▸ none)
      · intro last isLast committed
        refine newest_write found inOrder ?_ ?_ rfl isLast committed
        · rw [isRequest] at named
          exact name_of_request named
        · intro _ _
          exact ⟨encrypted, rfl⟩
  | commits awaits updated encrypted found =>
      have uploadFound := (awaiting_eq_some_iff.mp awaits).2
      obtain ⟨file, sameFile, title⟩ := allNamed.awaiting awaits _ updated
      have same := Option.some.inj (found.symm.trans sameFile)
      refine ⟨ordered.persisted, ?_, ?_⟩
      · intro none last isLast
        exact ordered.waiting_set uploadFound isLast rfl none
      · intro last isLast committed
        refine newest_write uploadFound inOrder ?_ ?_ rfl isLast committed
        · rw [same]
          exact title
        · intro _ _
          exact ⟨encrypted, updated⟩
  | commitFails awaits =>
      have found := (awaiting_eq_some_iff.mp awaits).2
      refine ordered.set found ?_ rfl ?_
      · rfl
      · intro wasCommitted
        exact ⟨wasCommitted, id⟩
  | updatesMetadata awaits updated found answered =>
      have uploadFound := (awaiting_eq_some_iff.mp awaits).2
      obtain ⟨sameWork, _⟩ := BackupState.driveAnswers_spec answered
      obtain ⟨file, sameFile, title⟩ := allNamed.awaiting awaits _ updated
      have same := Option.some.inj (found.symm.trans sameFile)
      refine ⟨ordered.persisted, ?_, ?_⟩
      · intro none last isLast
        exact ordered.waiting (sameWork ▸ none) last isLast
      · intro last isLast committed
        have unchanged := uploads_set_self uploadFound
        refine newest_write uploadFound inOrder ?_ ?_ rfl
          (unchanged.symm ▸ isLast) committed
        · rw [same]
          exact title
        · intro committed wasLast
          obtain ⟨newestId, newestFile, newest, contents, updates⟩ :=
            ordered.newest _ wasLast committed
          have sameId := updates _ updated
          subst sameId
          have member := (RecentFirst.mem_query_iff.mp
            (RecentFirst.mem_query_of_newest newest)).1
          have sameNewest := RecentFirst.eq_of_mem member
            (RecentFirst.get?_eq_some_iff.mp found)
          subst sameNewest
          exact ⟨contents, updated⟩
  | fails awaits answered =>
      have found := (awaiting_eq_some_iff.mp awaits).2
      obtain ⟨sameWork, _⟩ := BackupState.driveAnswers_spec answered
      refine ordered.set found ?_ sameWork ?_
      · rfl
      · intro wasCommitted
        exact ⟨wasCommitted, id⟩
  | other outside stepped =>
      obtain ⟨_, work⟩ := BackupState.other_spec outside stepped
      refine ⟨ordered.persisted, ?_, ordered.newest⟩
      intro none
      rcases work with same | requested
      · exact ordered.waiting (same ▸ none)
      · exact absurd (requested.symm.trans none) (by simp)

/-- When no run writes to Drive after a later one has committed, and no work
waits to be started, what the last run has committed is the newest backup, and
restores to the database as it was when the node last announced a persisted
channel, or as it became later. -/
theorem newest_backup_fresh (usable : setup.Usable app)
    {start finish : PipelineState} {events : List PipelineEvent}
    (idle : Idle setup start)
    (consistent : Runs.StepsMeet (step setup) Consistent start events)
    (listed : Runs.StepsMeet (step setup) (Listed setup) start events)
    (inOrder : Runs.StepsMeet (step setup) InOrder start events)
    (run : Runs.exec (step setup) start events = some finish)
    (nothingWaits : finish.backup.work = none) {upload : Upload}
    (isLast : finish.uploads.getLast? = some upload)
    (committed : upload.committed = true) :
    ∃ driveId file,
      finish.folder.newest (titled setup.backupFileName) =
          some (driveId, file) ∧
        RestoresSince setup app finish finish.persistedAt file.contents := by
  have preserved : ∀ state event next,
      (Held setup state ∧ Read setup app state ∧ AllNamed setup state ∧
        Ordered setup state) →
      (Consistent state event ∧ Listed setup state event ∧
        InOrder state event) →
      step setup state event = some next →
      (Held setup next ∧ Read setup app next ∧ AllNamed setup next ∧
        Ordered setup next) := by
    rintro state event next ⟨held, read, allNamed, ordered⟩
      ⟨consistent, listed, inOrder⟩ result
    exact ⟨held.step result, read.step usable held consistent result,
      allNamed.step held listed result,
      ordered.step held allNamed inOrder result⟩
  have initially : Held setup start ∧ Read setup app start ∧
      AllNamed setup start ∧ Ordered setup start := by
    refine ⟨idle.held, idle.read, ?_, ?_, ?_, ?_⟩
    · simp [AllNamed, idle.uploads]
    · rw [idle.persistedAt]
      simp [history]
    · intro _ last isLast
      simp [idle.uploads] at isLast
    · intro last isLast
      simp [idle.uploads] at isLast
  obtain ⟨held, read, allNamed, ordered⟩ := Runs.invariant_of_stepsMeet
    preserved initially (consistent.and (listed.and inOrder)) run
  obtain ⟨driveId, file, newest, contents, _⟩ :=
    ordered.newest upload isLast committed
  have facts := read upload (List.mem_of_getLast? isLast)
  obtain ⟨eclairDB, since, restored⟩ := facts.contents file.contents contents
  have later := ordered.waiting nothingWaits upload isLast
  refine ⟨driveId, file, newest, eclairDB, ?_, restored⟩
  exact List.drop_subset_drop_left _ later since

theorem twoBackups_fresh :
    ∃ finish driveId file,
      Runs.exec (step sampleSetup) sampleStart twoBackups = some finish ∧
      finish.folder.newest (titled sampleSetup.backupFileName) =
          some (driveId, file) ∧
        RestoresSince sampleSetup sampleApp finish finish.persistedAt
          file.contents := by
  have ends : (Runs.exec (step sampleSetup) sampleStart twoBackups).map
      (fun state => (state.backup.work,
        state.uploads.getLast?.map Upload.committed)) =
      some (none, some true) := by
    decide +kernel
  obtain ⟨finish, run, columns⟩ := Option.map_eq_some_iff.mp ends
  simp only [Prod.mk.injEq] at columns
  obtain ⟨nothingWaits, last⟩ := columns
  obtain ⟨upload, isLast, committed⟩ := Option.map_eq_some_iff.mp last
  have consistent : Runs.StepsMeet (step sampleSetup) Consistent sampleStart
      twoBackups := by
    decide +kernel
  have listed : Runs.StepsMeet (step sampleSetup) (Listed sampleSetup)
      sampleStart twoBackups := by
    decide +kernel
  have inOrder : Runs.StepsMeet (step sampleSetup) InOrder sampleStart
      twoBackups := by
    decide +kernel
  obtain ⟨driveId, file, newest, restores⟩ :=
    newest_backup_fresh sampleSetup_usable sampleStart_idle consistent listed
      inOrder run nothingWaits isLast committed
  exact ⟨finish, driveId, file, run, newest, restores⟩

end PipelineState

end EclairWallet
