import EclairWallet.Backup.Restore
import EclairWallet.Library.Runs

/-!
# From a restored seed to the first start of the node

`StartupActivity` sends a wallet that was restored from its seed and has no
database to `RestoreChannelsBackupActivity`, whose callbacks, posts and timers
run in any order, also after the screen is finished, until the process dies.
The preferences and the files stay.
-/

namespace EclairWallet

open ByteString Crash

inductive RestoreBackupStep where
  | init
  | errorPermissions
  | searching
  | success
  | failure
  | noBackupFound
  | syncRatelimit
  | deviceOriginConflict
  deriving DecidableEq, Repr

/-- What a search lists of a file: its id, and the device its metadata
names. -/
structure Metadata where
  driveId : Nat
  remoteDeviceId : Option String
  deriving DecidableEq, Repr

/-- What a restore screen has started and not finished: the revocation, the
sign-in activity, the two searches, the file that is opened, the dialog that
asks to confirm, what is posted to the UI thread, and its two timers.  The
second search, and the file it finds, remember the consent that began it. -/
inductive RestoreTask where
  | revokeAccess
  | signIn
  | requestSync
  | retrieveEclairBackup (consent : Nat)
  | openFile (metadata : Metadata) (consent : Option Nat)
  | skipDialog
  | setRestoreStep (restoreStep : RestoreBackupStep)
  | ended (restoreStep : RestoreStep)
  | backToInit
  | finishRestore
  deriving DecidableEq, Repr

namespace RestoreTask

/-- A call to Google, or the dialog, which may be cancelled. -/
def isCall : RestoreTask → Bool
  | revokeAccess | signIn | requestSync | retrieveEclairBackup _ => true
  | skipDialog => true
  | _ => false

def isSearch : RestoreTask → Bool
  | requestSync | retrieveEclairBackup _ => true
  | _ => false

/-- The consent that began the task. -/
def consent : RestoreTask → Option Nat
  | retrieveEclairBackup consent => some consent
  | openFile _ consent => consent
  | _ => none

/-- What the UI thread runs, now or later. -/
def isPosted : RestoreTask → Bool
  | setRestoreStep _ | ended _ | backToInit | finishRestore => true
  | _ => false

end RestoreTask

structure RestoreScreen where
  restoreStep : RestoreBackupStep := .init
  finished : Bool := false
  deriving DecidableEq, Repr

/-- What the user has consented to. -/
inductive Consent where
  | skipRestore
  | restoreIfAppIdConflict
  deriving DecidableEq, Repr

/-- A file that a screen has opened: what its search listed, the consent that
began the search, and the contents Drive delivered. -/
structure OpenedBackup where
  metadata : Metadata
  consent : Option Nat
  contents : DriveContents

/-- A wallet that was restored from its seed.  The screens are those opened
since the process started, with their tasks; `consents` holds what the user
has consented to in any process, the first one first, `opened` the files that
were opened, and `nodeStarted` whether a `StartupTask` has been executed. -/
structure FirstStart where
  hasStartedOnce : Bool := false
  channelsRestoreDone : Bool := false
  backupSeenOnce : Bool := false
  googledriveEnabled : Bool := false
  signedIn : Bool := false
  datadir : ChainDatadir := {}
  screens : List RestoreScreen := []
  tasks : List (Nat × RestoreTask) := []
  consents : List Consent := []
  opened : List OpenedBackup := []
  nodeStarted : Bool := false

/-- How the calls of a screen to Google end. -/
inductive GoogleAnswer where
  | succeeded
  | failed
  deriving DecidableEq, Repr

/-- `launchStartupTask` is the thread once it has read the seed, `preferences`
what the other screens and the worker do to theirs.  A search answers with the
files found, an opened file with its stream, whatever it then holds, and the
fates of the restore. -/
inductive FirstStartEvent where
  | launchStartupTask (playServices : Bool)
  | preferences (backupSeenOnce googledriveEnabled signedIn : Bool)
  | requestAccess (screen : Nat)
  | skipRestore (screen : Nat)
  | backToInit (screen : Nat)
  | restoreIfAppIdConflict (screen : Nat)
  | answered (screen : Nat) (task : RestoreTask) (answer : GoogleAnswer)
  | searched (screen : Nat) (task : RestoreTask) (buffer : List Metadata)
  | opened (screen : Nat) (backup : OpenedBackup) (fates : List Fate)
  | confirmed (screen : Nat)
  | runs (screen : Nat) (task : RestoreTask) (isExpired : Bool)
  | nodeWrites (datadir : ChainDatadir)
  | killed

namespace FirstStart

def setStep (state : FirstStart) (screen : Nat)
    (restoreStep : RestoreBackupStep) : FirstStart :=
  { state with
    screens := state.screens.modify screen
      (fun shown => { shown with restoreStep }) }

def begin (state : FirstStart) (screen : Nat) (task : RestoreTask) :
    FirstStart :=
  { state with tasks := state.tasks ++ [(screen, task)] }

/-- What a finished screen has begun goes on. -/
def finish (state : FirstStart) (screen : Nat) : FirstStart :=
  { state with
    screens := state.screens.modify screen
      (fun shown => { shown with finished := true }) }

/-- The process dies with its screens and their tasks. -/
def die (state : FirstStart) : FirstStart :=
  { state with screens := [], tasks := [] }

/-- The preferences and files `launchStartupTask` looks at. -/
def prefs (state : FirstStart) (playServices : Bool) : StartupPrefs where
  hasStartedOnce := state.hasStartedOnce
  restoredFromSeed := true
  channelsRestoreDone := state.channelsRestoreDone
  backupSeenOnce := state.backupSeenOnce
  googledriveEnabled := state.googledriveEnabled
  playServices := playServices
  eclairDBExists := state.datadir.eclairDB.isSome

/-- The screen that is opened instead of the start is the one that restores,
or the one that sets the backups up, which holds nothing of the restore. -/
def launchStartupTask (state : FirstStart) (playServices : Bool) :
    FirstStart :=
  let prefs := state.prefs playServices
  if prefs.proceeds then { state with nodeStarted := true }
  else if !prefs.channelsRestoreDone && !prefs.checkChannelsBackupRestore then
    { state with screens := state.screens ++ [{}] }
  else state

/-- `onDriveClientReady`. -/
def onDriveClientReady (state : FirstStart) (screen : Nat) : FirstStart :=
  (state.setStep screen .searching).begin screen .requestSync

def initOrSignInGoogleDrive (state : FirstStart) (screen : Nat) :
    FirstStart :=
  if state.signedIn then state.onDriveClientReady screen
  else state.begin screen .signIn

def requestAccess (state : FirstStart) (screen : Nat) : FirstStart :=
  if state.signedIn then state.begin screen .revokeAccess
  else state.begin screen .signIn

def applyAccessDenied (state : FirstStart) (screen : Nat) : FirstStart :=
  (state.setStep screen .errorPermissions).begin screen .backToInit

def consentTo (state : FirstStart) (given : Consent) : FirstStart :=
  { state with consents := state.consents ++ [given] }

def restoreIfAppIdConflict (state : FirstStart) (screen : Nat) :
    FirstStart :=
  let consent := state.consents.length
  let state := state.consentTo .restoreIfAppIdConflict
  if state.signedIn then
    (state.setStep screen .searching).begin screen
      (.retrieveEclairBackup consent)
  else state.requestAccess screen

/-- What `requestAccess` and `skipRestore` are shown with. -/
def asksForAccess (shown : RestoreScreen) : Bool :=
  !shown.finished &&
    (shown.restoreStep = .init || shown.restoreStep = .noBackupFound)

def asksAboutConflict (shown : RestoreScreen) : Bool :=
  !shown.finished && shown.restoreStep = .deviceOriginConflict

/-- A tap, when the button is shown. -/
def tap (state : FirstStart) (screen : Nat) (shows : RestoreScreen → Bool)
    (tapped : FirstStart → FirstStart) : Option FirstStart :=
  (state.screens[screen]?).bind (fun shown =>
    if shows shown then some (tapped state) else none)

/-- A call to Google other than a search that found something ends. -/
def answered (state : FirstStart) (screen : Nat) :
    RestoreTask → GoogleAnswer → FirstStart
  | .revokeAccess, .succeeded =>
      initOrSignInGoogleDrive { state with signedIn := false } screen
  | .signIn, .succeeded =>
      onDriveClientReady { state with signedIn := true } screen
  | .signIn, .failed => state.applyAccessDenied screen
  | .requestSync, .failed =>
      (state.setStep screen .syncRatelimit).begin screen .backToInit
  | .retrieveEclairBackup _, .failed =>
      (state.setStep screen .syncRatelimit).begin screen .backToInit
  | _, _ => state

/-- The metadata names no device, or this one. -/
def sameDevice (deviceId : String) (metadata : Metadata) : Bool :=
  metadata.remoteDeviceId = none || metadata.remoteDeviceId = some deviceId

/-- A search ends with the files found; the second one does not look at the
device. -/
def searched (deviceId : String) (state : FirstStart) (screen : Nat) :
    RestoreTask → List Metadata → FirstStart
  | .requestSync, [] => state.begin screen (.setRestoreStep .noBackupFound)
  | .requestSync, metadata :: _ =>
      if sameDevice deviceId metadata then
        state.begin screen (.openFile metadata none)
      else state.begin screen (.setRestoreStep .deviceOriginConflict)
  | .retrieveEclairBackup _, [] =>
      state.begin screen (.setRestoreStep .noBackupFound)
  | .retrieveEclairBackup consent, metadata :: _ =>
      state.begin screen (.openFile metadata (some consent))
  | _, _ => state

/-- The restore of `restoreBackup`; a fate may be the death of the
process. -/
def openFile (provider : SecurityProvider) (app : BackupKeys)
    (state : FirstStart) (screen : Nat) (backup : OpenedBackup)
    (fates : List Fate) : FirstStart :=
  let ended := RestoreChannelsBackupActivity.restoreBackup provider app
    backup.contents state.datadir fates
  let state :=
    { state with
      datadir := ended.state
      opened := state.opened ++ [backup] }
  match ended.outcome with
  | .returned restoreStep => state.begin screen (.ended restoreStep)
  | .thrown _ => state
  | .killed => state.die

/-- What is posted to the UI thread is run, or a timer fires. -/
def runs (state : FirstStart) (screen : Nat) (isExpired : Bool) :
    RestoreTask → FirstStart
  | .setRestoreStep restoreStep => state.setStep screen restoreStep
  | .ended .success =>
      (state.setStep screen .success).begin screen .finishRestore
  | .ended .failure =>
      (state.setStep screen .failure).begin screen .backToInit
  | .backToInit => state.setStep screen .init
  | .finishRestore =>
      finish
        { state with
          googledriveEnabled := state.signedIn && !isExpired
          channelsRestoreDone := true } screen
  | _ => state

/-- A task of the screen ends. -/
def endTask (state : FirstStart) (screen : Nat) (task : RestoreTask)
    (ended : FirstStart → FirstStart) : Option FirstStart :=
  if (screen, task) ∈ state.tasks then
    some (ended { state with tasks := state.tasks.erase (screen, task) })
  else none

/-- The node writes its database once it has been started. -/
def step (provider : SecurityProvider) (app : BackupKeys)
    (deviceId : String) (state : FirstStart) :
    FirstStartEvent → Option FirstStart
  | .launchStartupTask playServices =>
      some (state.launchStartupTask playServices)
  | .preferences backupSeenOnce googledriveEnabled signedIn =>
      some { state with backupSeenOnce, googledriveEnabled, signedIn }
  | .requestAccess screen =>
      state.tap screen asksForAccess (fun state => state.requestAccess screen)
  | .skipRestore screen =>
      state.tap screen asksForAccess
        (fun state => state.begin screen .skipDialog)
  | .backToInit screen =>
      state.tap screen asksAboutConflict
        (fun state => state.setStep screen .init)
  | .restoreIfAppIdConflict screen =>
      state.tap screen asksAboutConflict
        (fun state => state.restoreIfAppIdConflict screen)
  | .answered screen task answer =>
      if task.isCall then
        state.endTask screen task
          (fun state => state.answered screen task answer)
      else none
  | .searched screen task buffer =>
      if task.isSearch then
        state.endTask screen task
          (fun state => state.searched deviceId screen task buffer)
      else none
  | .opened screen backup fates =>
      state.endTask screen (.openFile backup.metadata backup.consent)
        (fun state => state.openFile provider app screen backup fates)
  | .confirmed screen =>
      state.endTask screen .skipDialog (fun state =>
        finish
          { state.consentTo .skipRestore with
            channelsRestoreDone := true } screen)
  | .runs screen task isExpired =>
      if task.isPosted then
        state.endTask screen task
          (fun state => state.runs screen isExpired task)
      else none
  | .nodeWrites datadir =>
      if state.nodeStarted then some { state with datadir } else none
  | .killed => some state.die

end FirstStart

end EclairWallet
