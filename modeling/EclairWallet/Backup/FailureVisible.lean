import EclairWallet.Backup.ChoiceRespected

/-!
# Failures of the backup worker

`doWork` from its start to its end, over what the calls it makes answer.  The
two preferences are written after the upload and in the catch clause.  What
ends the method before the try block writes neither.
-/

namespace EclairWallet

open ByteString

inductive DriveScope where
  | file
  | appFolder
  | other (scope : String)
  deriving DecidableEq, Repr

structure GoogleSignInAccount where
  grantedScopes : List DriveScope
  deriving DecidableEq, Repr

/-- What the calls of one `doWork` answer, and how the tasks they start end.
An option is empty when null is returned.  `createBackup` asks for the folder
again. -/
structure DriveCalls where
  getLastSignedInAccount : Except Throwable (Option GoogleSignInAccount)
  getDriveResourceClient : Except Throwable Unit
  getAppFolder : Except Throwable Unit
  continueWithTask : Except Throwable Unit
  appFolderTask : Except Throwable Unit
  queryChildren : Except Throwable (Option Nat)
  createBackupFolder : Except Throwable Unit
  createBackupFolderTask : Except Throwable Unit
  createContents : Except Throwable (Option Unit)
  createFile : Except Throwable Unit
  asDriveFile : Except Throwable Unit
  openFile : Except Throwable Unit
  openFileTask : Except Throwable (Option Unit)
  commitContents : Except Throwable Unit
  updateMetadata : Except Throwable Unit
  toByteArray : Except Throwable Bytes
  copy : Except Throwable Unit

/-- The two preferences the worker writes. -/
structure BackupPrefs where
  enabled : Bool
  hasFailed : Bool
  deriving DecidableEq, Repr

/-- How `doWork` ends.  A success may come without an upload. -/
inductive WorkEnd where
  | success (uploaded : Bool)
  | failure
  | thrown (throwable : Throwable)
  deriving DecidableEq, Repr

namespace WorkEnd

def failed : WorkEnd → Bool
  | .success _ => false
  | .failure => true
  | .thrown _ => true

end WorkEnd

namespace HomeActivity

/-- Whether `refreshChannelsBackupWarning` shows the warning. -/
def refreshChannelsBackupWarning (prefs : BackupPrefs) : Bool :=
  !prefs.enabled

end HomeActivity

namespace DriveCalls

def getSigninAccount (calls : DriveCalls) :
    Except Throwable (Option GoogleSignInAccount) := do
  match ← calls.getLastSignedInAccount with
  | some signInAccount =>
      if [DriveScope.file, .appFolder] ⊆ signInAccount.grantedScopes then
        pure (some signInAccount)
      else pure none
  | none => pure none

/-- What the wait for `metadataBufferTask` gives. -/
def metadataBuffer (calls : DriveCalls) : Except Throwable (Option Nat) := do
  calls.appFolderTask
  calls.queryChildren

/-- Encrypt the database and copy it to the contents of a file. -/
def writeContents (calls : DriveCalls) (provider : SecurityProvider)
    (iv : RandomBytes 16) (sk : SecretKeys)
    (contentsTask : Except Throwable (Option Unit)) :
    Except Throwable Unit := do
  let contents ← contentsTask
  let eclairDB ← calls.toByteArray
  let _ ← ChannelsBackupWorker.encryptedDatabase provider iv eclairDB sk
  contents.elim (.error .nullPointer) .ok
  calls.copy

/-- Whether the file was created. -/
def createBackup (calls : DriveCalls) (provider : SecurityProvider)
    (iv : RandomBytes 16) (sk : SecretKeys) : Except Throwable Bool := do
  calls.createBackupFolder
  calls.writeContents provider iv sk calls.createContents
  calls.createBackupFolderTask
  calls.createFile
  pure true

/-- Whether the contents were committed.  The second continuation runs however
the first one ended, and does not look at it. -/
def updateBackup (calls : DriveCalls) (provider : SecurityProvider)
    (iv : RandomBytes 16) (sk : SecretKeys) : Except Throwable Bool := do
  calls.asDriveFile
  calls.openFile
  let committed := do
    calls.writeContents provider iv sk calls.openFileTask
    calls.commitContents
  calls.updateMetadata
  pure committed.isOk

/-- The try block, up to the preferences. -/
def saveBackup (calls : DriveCalls) (codec : BinaryDataCodec)
    (provider : SecurityProvider) (iv : RandomBytes 16)
    (inputData : WorkInput) : Except Throwable Bool := do
  let buffer ← calls.metadataBuffer
  let sk ← ChannelsBackupWorker.secretKeys codec inputData
  let count ← buffer.elim (.error .nullPointer) .ok
  if count = 0 then calls.createBackup provider iv sk
  else calls.updateBackup provider iv sk

/-- What runs between the authorization and the try block. -/
def startQuery (calls : DriveCalls) : Except Throwable Unit := do
  calls.getDriveResourceClient
  calls.getAppFolder
  calls.continueWithTask

def doWork (calls : DriveCalls) (codec : BinaryDataCodec)
    (provider : SecurityProvider) (iv : RandomBytes 16)
    (inputData : WorkInput) (prefs : BackupPrefs) : BackupPrefs × WorkEnd :=
  if prefs.enabled = false ∨ inputData.backupName = none then
    (prefs, .success false)
  else
    match calls.getSigninAccount with
    | .error throwable => (prefs, .thrown throwable)
    | .ok none => (prefs, .failure)
    | .ok (some _) =>
        match calls.startQuery with
        | .error throwable => (prefs, .thrown throwable)
        | .ok () =>
            match calls.saveBackup codec provider iv inputData with
            | .ok uploaded =>
                ({ enabled := true, hasFailed := false }, .success uploaded)
            | .error _ => ({ enabled := false, hasFailed := true }, .failure)

/-- The sign-in lookup finds an account with both scopes, and the calls before
the try block do not throw. -/
structure ReachesTry (calls : DriveCalls) : Prop where
  account : ∃ signInAccount,
    calls.getLastSignedInAccount = .ok (some signInAccount) ∧
      DriveScope.file ∈ signInAccount.grantedScopes ∧
      DriveScope.appFolder ∈ signInAccount.grantedScopes
  client : calls.getDriveResourceClient = .ok ()
  appFolder : calls.getAppFolder = .ok ()
  query : calls.continueWithTask = .ok ()

/-- A run that ended badly has left both preferences set, so that the home
screen warns; and an upload has cleared the second. -/
structure FailureVisible (prefs : BackupPrefs) (ended : WorkEnd) : Prop where
  flagged : ended.failed = true →
    prefs.enabled = false ∧ prefs.hasFailed = true
  warned : ended.failed = true →
    HomeActivity.refreshChannelsBackupWarning prefs = true
  cleared : ended = .success true → prefs.hasFailed = false

variable {calls : DriveCalls} {codec : BinaryDataCodec}
  {provider : SecurityProvider} {iv : RandomBytes 16} {inputData : WorkInput}
  {prefs : BackupPrefs}

theorem getSigninAccount_eq_iff {signInAccount : GoogleSignInAccount} :
    calls.getSigninAccount = .ok (some signInAccount) ↔
      calls.getLastSignedInAccount = .ok (some signInAccount) ∧
        DriveScope.file ∈ signInAccount.grantedScopes ∧
        DriveScope.appFolder ∈ signInAccount.grantedScopes := by
  cases found : calls.getLastSignedInAccount with
  | error throwable => simp [getSigninAccount, found, bind, Except.bind]
  | ok last =>
      cases last with
      | none =>
          simp [getSigninAccount, found, bind, Except.bind, pure, Except.pure]
      | some account =>
          by_cases granted :
              [DriveScope.file, .appFolder] ⊆ account.grantedScopes
          · have scopes : DriveScope.file ∈ account.grantedScopes ∧
                DriveScope.appFolder ∈ account.grantedScopes := by
              simpa using granted
            simp only [getSigninAccount, found, bind, Except.bind, pure,
              Except.pure, if_pos granted, Except.ok.injEq, Option.some.injEq]
            constructor
            · rintro rfl
              exact ⟨rfl, scopes⟩
            · exact And.left
          · have refused : ¬ (DriveScope.file ∈ account.grantedScopes ∧
                DriveScope.appFolder ∈ account.grantedScopes) := by
              simpa using granted
            simp only [getSigninAccount, found, bind, Except.bind, pure,
              Except.pure, if_neg granted, Except.ok.injEq, reduceCtorEq,
              Option.some.injEq, false_iff]
            intro given
            obtain ⟨rfl, scopes⟩ := given
            exact refused scopes

theorem call_then_eq_ok_iff {Value : Type} {call : Except Throwable Unit}
    {rest : Except Throwable Value} {value : Value} :
    (do call; rest) = .ok value ↔ call = .ok () ∧ rest = .ok value := by
  cases call with
  | error throwable => simp [bind, Except.bind]
  | ok done => simp [bind, Except.bind]

theorem reachesTry_iff :
    calls.ReachesTry ↔
      ∃ signInAccount, calls.getSigninAccount = .ok (some signInAccount) ∧
        calls.startQuery = .ok () := by
  simp only [getSigninAccount_eq_iff, startQuery, call_then_eq_ok_iff]
  constructor
  · intro given
    obtain ⟨⟨signInAccount, found⟩, client, appFolder, query⟩ := given
    exact ⟨signInAccount, found, client, appFolder, query⟩
  · intro given
    obtain ⟨signInAccount, found, client, appFolder, query⟩ := given
    exact ⟨⟨signInAccount, found⟩, client, appFolder, query⟩

theorem doWork_of_reachesTry (reaches : calls.ReachesTry)
    (enabled : prefs.enabled = true) (named : inputData.backupName ≠ none) :
    calls.doWork codec provider iv inputData prefs =
      match calls.saveBackup codec provider iv inputData with
      | .ok uploaded =>
          ({ enabled := true, hasFailed := false }, .success uploaded)
      | .error _ => ({ enabled := false, hasFailed := true }, .failure) := by
  obtain ⟨signInAccount, found, started⟩ := reachesTry_iff.mp reaches
  have goesOn : ¬ (prefs.enabled = false ∨ inputData.backupName = none) := by
    simp [enabled, named]
  simp only [doWork, if_neg goesOn, found, started]

theorem doWork_of_not_reachesTry (missed : ¬ calls.ReachesTry)
    (enabled : prefs.enabled = true) (named : inputData.backupName ≠ none) :
    (calls.doWork codec provider iv inputData prefs).1 = prefs ∧
      (calls.doWork codec provider iv inputData prefs).2.failed = true := by
  have goesOn : ¬ (prefs.enabled = false ∨ inputData.backupName = none) := by
    simp [enabled, named]
  simp only [doWork, if_neg goesOn]
  cases found : calls.getSigninAccount with
  | error throwable => exact ⟨rfl, rfl⟩
  | ok signedIn =>
      cases signedIn with
      | none => exact ⟨rfl, rfl⟩
      | some signInAccount =>
          cases started : calls.startQuery with
          | error throwable => exact ⟨rfl, rfl⟩
          | ok done =>
              exact (missed (reachesTry_iff.mpr
                ⟨signInAccount, found, started⟩)).elim

/-- Of a success only what follows an upload is asked. -/
theorem failureVisible_success {uploaded : Bool}
    (cleared : uploaded = true → prefs.hasFailed = false) :
    FailureVisible prefs (.success uploaded) := by
  constructor
  · intro failed
    cases failed
  · intro failed
    cases failed
  · intro ended
    cases ended
    exact cleared rfl

theorem failureVisible_failure :
    FailureVisible { enabled := false, hasFailed := true } .failure := by
  constructor
  · intro _
    exact ⟨rfl, rfl⟩
  · intro _
    rfl
  · intro uploaded
    cases uploaded

/-- A run started with backups enabled makes its failure visible exactly when
it has nothing to save under, or it reaches the try block. -/
theorem failure_visible_iff (calls : DriveCalls) (codec : BinaryDataCodec)
    (provider : SecurityProvider) (iv : RandomBytes 16)
    (inputData : WorkInput) (hasFailed : Bool) :
    FailureVisible
        (calls.doWork codec provider iv inputData
          { enabled := true, hasFailed := hasFailed }).1
        (calls.doWork codec provider iv inputData
          { enabled := true, hasFailed := hasFailed }).2 ↔
      inputData.backupName = none ∨ calls.ReachesTry := by
  by_cases named : inputData.backupName = none
  · refine iff_of_true ?_ (Or.inl named)
    have ended : calls.doWork codec provider iv inputData
        { enabled := true, hasFailed := hasFailed } =
          ({ enabled := true, hasFailed := hasFailed }, .success false) := by
      rw [doWork, if_pos (Or.inr named)]
    rw [ended]
    apply failureVisible_success
    intro uploaded
    cases uploaded
  · simp only [named, false_or]
    have enabled : BackupPrefs.enabled
        { enabled := true, hasFailed := hasFailed } = true := rfl
    constructor
    · intro visible
      by_contra missed
      obtain ⟨same, failed⟩ :=
        doWork_of_not_reachesTry missed enabled named
      have flagged := (visible.flagged failed).1
      rw [same] at flagged
      cases flagged
    · intro reaches
      rw [doWork_of_reachesTry reaches enabled named]
      cases calls.saveBackup codec provider iv inputData with
      | ok uploaded => exact failureVisible_success (fun _ => rfl)
      | error throwable => exact failureVisible_failure

/-- A backup that was found is updated with success whenever its metadata
are, whether or not the new contents were committed. -/
theorem doWork_of_updated (reaches : calls.ReachesTry)
    (enabled : prefs.enabled = true) (named : inputData.backupName ≠ none)
    {count : Nat} (found : calls.metadataBuffer = .ok (some (count + 1)))
    {sk : SecretKeys}
    (parsed : ChannelsBackupWorker.secretKeys codec inputData = .ok sk)
    (driveFile : calls.asDriveFile = .ok ())
    (openFile : calls.openFile = .ok ())
    (updated : calls.updateMetadata = .ok ()) :
    ∃ committed, calls.doWork codec provider iv inputData prefs =
      ({ enabled := true, hasFailed := false }, .success committed) := by
  have saved : calls.saveBackup codec provider iv inputData = .ok
      (do
        calls.writeContents provider iv sk calls.openFileTask
        calls.commitContents).isOk := by
    simp [saveBackup, updateBackup, found, parsed, driveFile, openFile,
      updated, bind, Except.bind, pure, Except.pure]
  rw [doWork_of_reachesTry reaches enabled named, saved]
  exact ⟨_, rfl⟩

/-! ## The run between its waits -/

/-- How a wait of the run ends. -/
def answer (calls : DriveCalls) (codec : BinaryDataCodec)
    (provider : SecurityProvider) (iv : RandomBytes 16)
    (inputData : WorkInput) : DriveWait → DriveAnswer
  | .metadata =>
      match calls.metadataBuffer with
      | .ok (some count) => .succeeded count
      | _ => .failed
  | .createBackup =>
      match ChannelsBackupWorker.secretKeys codec inputData >>=
          calls.createBackup provider iv with
      | .ok _ => .succeeded 0
      | .error _ => .failed
  | .updateBackup =>
      match ChannelsBackupWorker.secretKeys codec inputData >>=
          calls.updateBackup provider iv with
      | .ok _ => .succeeded 0
      | .error _ => .failed

/-- The run goes on to its next wait. -/
def await (answers : DriveWait → DriveAnswer) (codec : BinaryDataCodec)
    (inputData : WorkInput) :
    BackupState × WorkStatus → BackupState × WorkStatus
  | (state, .awaits wait) =>
      ChannelsBackupWorker.afterWait codec state inputData wait (answers wait)
  | (state, .returned result) => (state, .returned result)

theorem await_metadata (state : BackupState) :
    await (calls.answer codec provider iv inputData) codec inputData
        (await (calls.answer codec provider iv inputData) codec inputData
          (state, .awaits .metadata)) =
      match calls.saveBackup codec provider iv inputData with
      | .ok _ => ChannelsBackupWorker.succeed state
      | .error _ => ChannelsBackupWorker.fail state := by
  generalize answered : calls.answer codec provider iv inputData = answers
  have metadata : answers .metadata =
      match calls.metadataBuffer with
      | .ok (some count) => .succeeded count
      | _ => .failed := by
    rw [← answered]
    rfl
  simp only [await, metadata, saveBackup, bind, Except.bind]
  cases calls.metadataBuffer with
  | error throwable => rfl
  | ok found =>
      cases parsed : ChannelsBackupWorker.secretKeys codec inputData with
      | error throwable =>
          cases found with
          | none => rfl
          | some count =>
              simp only [ChannelsBackupWorker.afterWait, parsed]
              rfl
      | ok sk =>
          cases found with
          | none => rfl
          | some count =>
              by_cases none : count = 0
              · have uploaded : answers .createBackup =
                    match calls.createBackup provider iv sk with
                    | .ok _ => .succeeded 0
                    | .error _ => .failed := by
                  simp only [← answered, answer, parsed, bind, Except.bind]
                simp only [ChannelsBackupWorker.afterWait, parsed, none,
                  if_true, uploaded, Option.elim_some]
                cases calls.createBackup provider iv sk <;> rfl
              · have uploaded : answers .updateBackup =
                    match calls.updateBackup provider iv sk with
                    | .ok _ => .succeeded 0
                    | .error _ => .failed := by
                  simp only [← answered, answer, parsed, bind, Except.bind]
                simp only [ChannelsBackupWorker.afterWait, parsed, none,
                  if_false, uploaded, Option.elim_some]
                cases calls.updateBackup provider iv sk <;> rfl

/-- A run that reaches the try block is the run over its waits, when nothing
else writes the preferences in between. -/
theorem doWork_eq_await (reaches : calls.ReachesTry) {state : BackupState}
    (enabled : state.enabled = true) (signedIn : state.signedIn = true)
    (named : inputData.backupName ≠ none) :
    let answers := calls.answer codec provider iv inputData
    let after := await answers codec inputData
      (await answers codec inputData
        (state, ChannelsBackupWorker.doWork state inputData))
    let ended := calls.doWork codec provider iv inputData
      { enabled := state.enabled, hasFailed := state.hasFailed }
    ended.1 = { enabled := after.1.enabled, hasFailed := after.1.hasFailed } ∧
      after.2 = .returned (if ended.2.failed then .failure else .success) := by
  intro answers after ended
  have started : ChannelsBackupWorker.doWork state inputData =
      .awaits .metadata := by
    simp [ChannelsBackupWorker.doWork, enabled, signedIn, named]
  have whole : ended = _ := doWork_of_reachesTry reaches enabled named
  rw [whole]
  simp only [after, answers, started, await_metadata]
  cases calls.saveBackup codec provider iv inputData with
  | ok uploaded => exact ⟨rfl, rfl⟩
  | error throwable => exact ⟨rfl, rfl⟩

/-! ## A user who is not signed in -/

def signedOut : DriveCalls where
  getLastSignedInAccount := .ok none
  getDriveResourceClient := .ok ()
  getAppFolder := .ok ()
  continueWithTask := .ok ()
  appFolderTask := .ok ()
  queryChildren := .ok (some 0)
  createBackupFolder := .ok ()
  createBackupFolderTask := .ok ()
  createContents := .ok (some ())
  createFile := .ok ()
  asDriveFile := .ok ()
  openFile := .ok ()
  openFileTask := .ok (some ())
  commitContents := .ok ()
  updateMetadata := .ok ()
  toByteArray := .ok []
  copy := .ok ()

theorem signed_out_not_visible :
    ¬ ∀ (calls : DriveCalls) (codec : BinaryDataCodec)
        (provider : SecurityProvider) (iv : RandomBytes 16)
        (inputData : WorkInput) (hasFailed : Bool),
      FailureVisible
        (calls.doWork codec provider iv inputData
          { enabled := true, hasFailed := hasFailed }).1
        (calls.doWork codec provider iv inputData
          { enabled := true, hasFailed := hasFailed }).2 := by
  intro claim
  have visible := claim signedOut hexCodec sampleProvider firstSample.iv
    BackupState.sampleRequest false
  cases (visible.flagged rfl).1

end DriveCalls

end EclairWallet
