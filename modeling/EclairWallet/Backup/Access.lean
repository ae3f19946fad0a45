import EclairWallet.Crypto.ChannelsBackup
import EclairWallet.Library.Runs

/-!
# Access to the backups on Drive

The preference that enables the backups has writers in the worker, which
writes it after waiting on Drive, and in the settings screen, whose answers to
the user arrive in callbacks.  A step is one section between two waits.
-/

namespace EclairWallet

inductive AccessDecision where
  | granted
  | denied
  deriving DecidableEq, Repr

/-! ## The worker -/

inductive WorkResult where
  | success
  | failure
  deriving DecidableEq, Repr

/-- The waits of `doWork`. -/
inductive DriveWait where
  | metadata
  | createBackup
  | updateBackup
  deriving DecidableEq, Repr

/-- How a wait ends.  The metadata counts the files that were found. -/
inductive DriveAnswer where
  | failed
  | succeeded (count : Nat)
  deriving DecidableEq, Repr

inductive WorkStatus where
  | awaits (wait : DriveWait)
  | returned (result : WorkResult)
  deriving DecidableEq, Repr

structure WorkerRun where
  inputData : WorkInput
  status : WorkStatus
  deriving DecidableEq, Repr

/-! ## The settings screen -/

/-- What the screen has started and not finished: the dialog that asks to
confirm, the threads of `grantAccess` and `checkAccess`, the sign-in activity,
the two calls to Drive, and what is posted to the UI thread.  A revocation and
its post remember whether the user asked for it. -/
inductive ScreenTask where
  | confirmRevoke
  | initOrSignInGoogleDrive
  | checkAccess
  | signIn
  | retrieveEclairBackup
  | revokeAccess (byUser : Bool)
  | applyAccessDenied (byUser : Bool)
  | applyAccessGranted
  deriving DecidableEq, Repr

inductive ScreenAnswer where
  | succeeded
  | signInRequired
  | failed
  deriving DecidableEq, Repr

/-- `signedIn` is whether `getSigninAccount` finds an account, and `decision`
is the last of the user's decisions: the tap that grants access, or the one
that confirms the revocation. -/
structure BackupState where
  enabled : Bool
  hasFailed : Bool
  signedIn : Bool
  switchChecked : Bool
  decision : Option AccessDecision
  work : Option WorkInput
  runs : List WorkerRun
  tasks : List ScreenTask
  deriving DecidableEq, Repr

namespace ChannelsBackupWorker

/-- `doWork` up to its first wait. -/
def doWork (state : BackupState) (inputData : WorkInput) : WorkStatus :=
  if state.enabled = false ∨ inputData.backupName = none then
    .returned .success
  else if state.signedIn = false then .returned .failure
  else .awaits .metadata

def succeed (state : BackupState) : BackupState × WorkStatus :=
  ({ state with enabled := true, hasFailed := false }, .returned .success)

/-- What is thrown is caught. -/
def fail (state : BackupState) : BackupState × WorkStatus :=
  ({ state with enabled := false, hasFailed := true }, .returned .failure)

/-- The key is parsed between the waits. -/
def secretKeys (codec : BinaryDataCodec) (inputData : WorkInput) :
    Except Throwable SecretKeys := do
  let key ← inputData.backupKey.elim (.error .nullPointer) .ok
  let key ← (codec.apply key).elim (.error .illegalArgument) .ok
  EncryptedData.secretKeyFromBinaryKey key

/-- `doWork` after a wait, up to the next one. -/
def afterWait (codec : BinaryDataCodec) (state : BackupState)
    (inputData : WorkInput) :
    DriveWait → DriveAnswer → BackupState × WorkStatus
  | _, .failed => fail state
  | .metadata, .succeeded count =>
      match secretKeys codec inputData with
      | .error _ => fail state
      | .ok _ =>
          if count = 0 then (state, .awaits .createBackup)
          else (state, .awaits .updateBackup)
  | .createBackup, .succeeded _ => succeed state
  | .updateBackup, .succeeded _ => succeed state

end ChannelsBackupWorker

namespace ChannelsBackupSettingsActivity

def start (state : BackupState) (task : ScreenTask) : BackupState :=
  { state with tasks := state.tasks ++ [task] }

def applyAccessDenied (state : BackupState) : BackupState :=
  { state with enabled := false }

/-- The enqueued work replaces the one that waits to be started. -/
def applyAccessGranted (state : BackupState) (request : WorkInput) :
    BackupState :=
  { state with
    work := if state.enabled then state.work else some request
    enabled := true }

/-- `onDriveClientReady`. -/
def initializeDriveClient (state : BackupState) : BackupState :=
  start state .retrieveEclairBackup

def refreshSwitchState (state : BackupState) : BackupState :=
  { state with switchChecked := state.enabled }

def onResume (state : BackupState) : BackupState :=
  start (refreshSwitchState state) .checkAccess

/-- The user grants access by the tap, and denies it in a dialog. -/
def switchAccess (state : BackupState) : BackupState :=
  if state.switchChecked then start state .confirmRevoke
  else
    start { state with decision := some .granted } .initOrSignInGoogleDrive

/-- A task of the screen ends. -/
def endTask (request : WorkInput) (state : BackupState) :
    ScreenTask → ScreenAnswer → BackupState
  | .confirmRevoke, .succeeded =>
      start { state with decision := some .denied } (.revokeAccess true)
  | .initOrSignInGoogleDrive, _ =>
      if state.signedIn then initializeDriveClient state
      else start state .signIn
  | .checkAccess, _ =>
      if state.signedIn then initializeDriveClient state
      else start state (.applyAccessDenied false)
  | .signIn, .succeeded =>
      initializeDriveClient { state with signedIn := true }
  | .signIn, _ => applyAccessDenied state
  | .retrieveEclairBackup, .succeeded => start state .applyAccessGranted
  | .retrieveEclairBackup, .signInRequired =>
      start state (.revokeAccess false)
  | .revokeAccess byUser, .succeeded =>
      start { state with signedIn := false } (.applyAccessDenied byUser)
  | .applyAccessDenied _, _ => applyAccessDenied state
  | .applyAccessGranted, _ => applyAccessGranted state request
  | .confirmRevoke, _ => state
  | .retrieveEclairBackup, .failed => state
  | .revokeAccess _, _ => state

end ChannelsBackupSettingsActivity

/-! ## Steps -/

/-- Work is also enqueued by the node, and an account can come and go in other
screens. -/
inductive BackupEvent where
  | enqueue (inputData : WorkInput)
  | startWork
  | driveAnswers (run : Nat) (answer : DriveAnswer)
  | onResume
  | preferenceChanged
  | switchAccess
  | endTask (task : ScreenTask) (answer : ScreenAnswer)
  | accountChanged (signedIn : Bool)
  deriving DecidableEq, Repr

namespace BackupState

/-- `request` is what the screen enqueues. -/
def step (codec : BinaryDataCodec) (request : WorkInput)
    (state : BackupState) : BackupEvent → Option BackupState
  | .enqueue inputData => some { state with work := some inputData }
  | .startWork =>
      state.work.map (fun inputData =>
        { state with
          work := none
          runs := state.runs ++
            [{ inputData, status := ChannelsBackupWorker.doWork state
                inputData }] })
  | .driveAnswers run answer =>
      match state.runs[run]? with
      | some { inputData, status := .awaits wait } =>
          let (next, status) := ChannelsBackupWorker.afterWait codec state
            inputData wait answer
          some { next with runs := state.runs.set run { inputData, status } }
      | _ => none
  | .onResume => some (ChannelsBackupSettingsActivity.onResume state)
  | .preferenceChanged =>
      some (ChannelsBackupSettingsActivity.refreshSwitchState state)
  | .switchAccess => some (ChannelsBackupSettingsActivity.switchAccess state)
  | .endTask task answer =>
      if task ∈ state.tasks then
        some (ChannelsBackupSettingsActivity.endTask request
          { state with tasks := state.tasks.erase task } task answer)
      else none
  | .accountChanged signedIn => some { state with signedIn := signedIn }

end BackupState

end EclairWallet
