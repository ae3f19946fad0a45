import EclairWallet.Crypto.EncryptedData
import EclairWallet.Library.Runs
import EclairWallet.Screens.PinDialog

/-!
# Starting the node

`StartupActivity`, the threads that read the seed, and `StartupTask`.  A thread
assigns or resets one application-wide field at a step, so that any other
thread can come in between.  The main thread finishes a handler before it
starts another.
-/

namespace EclairWallet

/-- The fields of the application that a startup assigns. -/
inductive AppField where
  | pin
  | seedHash
  | backupKeyV1
  | backupKeyV2
  deriving DecidableEq, Repr

namespace AppField

def Value : AppField → Type
  | pin => String
  | seedHash => String
  | backupKeyV1 => BinaryData
  | backupKeyV2 => BinaryData

/-- The order in which they are assigned, and in which they are reset. -/
def all : List AppField := [pin, seedHash, backupKeyV1, backupKeyV2]

theorem mem_all (field : AppField) : field ∈ all := by
  cases field <;> decide

end AppField

/-- What a thread derives from the seed. -/
structure SeedKeys where
  seedHash : String
  backupKeyV1 : BinaryData
  backupKeyV2 : BinaryData
  deriving DecidableEq, Repr

def SeedKeys.value (keys : SeedKeys) (password : String) :
    (field : AppField) → field.Value
  | .pin => password
  | .seedHash => keys.seedHash
  | .backupKeyV1 => keys.backupKeyV1
  | .backupKeyV2 => keys.backupKeyV2

/-- A `GeneralSecurityException`, or any other `Throwable`. -/
inductive SeedFailure where
  | wrongPassword
  | unreadableSeed
  deriving DecidableEq, Repr

/-- A thread of `launchStartupTask`, with the fields it has still to assign or
to reset. -/
inductive SeedThread where
  | reading (password : String)
  | assigning (password : String) (keys : SeedKeys)
      (remaining : List AppField)
  | resetting (remaining : List AppField) (failure : SeedFailure)
  deriving DecidableEq, Repr

inductive TaskPhase where
  | starting
  | bootstrapping
  deriving DecidableEq, Repr

inductive StartupStatus where
  | success
  | networkError
  | genericError
  | timeoutError
  deriving DecidableEq, Repr

/-- What is posted to the main thread. -/
inductive Posted where
  | seedFailed (failure : SeedFailure)
  | startNode
  | startupComplete (status : StartupStatus)
  deriving DecidableEq, Repr

/-- The error on the screen: its text resource and the buttons below it. -/
structure StartupError where
  message : String
  showRestart : Bool := false
  showFAQ : Bool := false
  deriving DecidableEq, Repr

/-- What `startNode` finds of the data directory. -/
structure Datadir where
  present : Bool := true
  canRead : Bool := true
  isDirectory : Bool := true
  deriving DecidableEq, Repr

/-- The preferences and files a thread reads once it has assigned the fields. -/
structure StartupPrefs where
  hasStartedOnce : Bool
  restoredFromSeed : Bool
  channelsRestoreDone : Bool
  backupSeenOnce : Bool
  googledriveEnabled : Bool
  playServices : Bool
  eclairDBExists : Bool
  deriving DecidableEq, Repr

namespace StartupPrefs

def checkChannelsBackupRestore (prefs : StartupPrefs) : Bool :=
  prefs.eclairDBExists || !prefs.playServices

def checkChannelsBackup (prefs : StartupPrefs) : Bool :=
  !(prefs.playServices && !prefs.channelsRestoreDone &&
    !prefs.backupSeenOnce && !prefs.googledriveEnabled)

/-- The thread goes on to execute a `StartupTask`. -/
def proceeds (prefs : StartupPrefs) : Bool :=
  if prefs.hasStartedOnce then true
  else if prefs.restoredFromSeed && !prefs.channelsRestoreDone &&
      !prefs.checkChannelsBackupRestore then false
  else if !prefs.googledriveEnabled && !prefs.checkChannelsBackup then false
  else true

end StartupPrefs

/-- How far a task comes before it starts the node: an actor whose name is
free is created, and its name stays in use. -/
inductive SetUpOutcome where
  | noNetwork
  | setupThrows
  | laterActorThrows
  | actorsCreated
  deriving DecidableEq, Repr

/-- How the bootstrap ends.  When the connection to the node cannot be
scheduled the kit is assigned but the task fails. -/
inductive BootstrapOutcome where
  | started
  | notScheduled
  | timedOut
  | failed
  deriving DecidableEq, Repr

/-- `appKit` tells whether the kit is assigned, `namesTaken` whether the actor
system has the actors of an earlier task, `nodeSupervisor` the seed hash and
the backup key its supervisor was created with, and `resets` what the running
event handler has still to reset. -/
structure StartupState where
  fields : (field : AppField) → Option field.Value := fun _ => none
  appKit : Bool := false
  dialogs : List PinDialog := []
  threads : List SeedThread := []
  queued : Nat := 0
  running : Option TaskPhase := none
  namesTaken : Bool := false
  nodeSupervisor : Option (Option String × Option BinaryData) := none
  posted : List Posted := []
  resets : List AppField := []
  startupError : Option StartupError := none

/-- `checkup` tells whether the version and the data directory passed their
checks, `subscribers` how many activities are registered for an event. -/
inductive StartupEvent where
  | onResume (checkup : Bool) (datadir : Datadir)
  | onPause
  | pressKey (dialog : Nat) (key : PinKey)
  | timerFires (dialog : Nat)
  | encryptWallet (pin : String)
  | runPosted (index : Nat) (datadir : Datadir) (subscribers : Nat)
  | resetNext
  | seedRead (thread : Nat) (keys : SeedKeys)
  | threadThrows (thread : Nat) (failure : SeedFailure)
  | advance (thread : Nat) (prefs : StartupPrefs)
  | takeTask
  | setUp (outcome : SetUpOutcome)
  | bootstrap (outcome : BootstrapOutcome)
  deriving DecidableEq, Repr

namespace StartupState

def setField (state : StartupState) (field : AppField)
    (value : Option field.Value) : StartupState :=
  { state with fields := Function.update state.fields field value }

def showError (state : StartupState) (error : StartupError) : StartupState :=
  { state with startupError := some error }

def post (state : StartupState) (message : Posted) : StartupState :=
  { state with posted := state.posted ++ [message] }

def launchStartupTask (state : StartupState) (password : String) :
    StartupState :=
  { state with threads := state.threads ++ [.reading password] }

def dismissDialog (state : StartupState) : StartupState :=
  { state with
    dialogs := state.dialogs.modify (state.dialogs.length - 1)
      PinDialog.dismiss }

/-- Once the kit is assigned the activity goes to the home screen. -/
def startNode (state : StartupState) (datadir : Datadir) : StartupState :=
  let state := { state with startupError := none }
  if state.appKit then state
  else if datadir.present && !datadir.canRead then
    state.showError
      { message := "start_error_datadir_unreadable"
        showRestart := true, showFAQ := true }
  else if datadir.present && !datadir.isDirectory then
    state.showError
      { message := "start_error_datadir_not_directory"
        showRestart := true, showFAQ := true }
  else
    match state.fields .pin with
    | none =>
        let state := state.dismissDialog
        let mPinDialog : PinDialog := {}
        { state with dialogs := state.dialogs ++ [mPinDialog] }
    | some currentPassword => state.launchStartupTask currentPassword

/-- The handler of the dialog of `startNode`. -/
def onPinConfirm (state : StartupState) (index : Nat) (dialog : PinDialog) :
    StartupState :=
  let fired := dialog.fire
  let state := state.launchStartupTask (String.ofList fired.mPinValue)
  { state with dialogs := state.dialogs.set index fired.dismiss }

def errorOfStatus : StartupStatus → StartupError
  | .success => { message := "start_error_improper" }
  | .networkError =>
      { message := "start_error_connectivity", showRestart := true }
  | .timeoutError =>
      { message := "start_error_timeout"
        showRestart := true, showFAQ := true }
  | .genericError =>
      { message := "start_error_generic"
        showRestart := true, showFAQ := true }

/-- Every registered activity handles the event, one after the other. -/
def processStartupFinish (state : StartupState) (status : StartupStatus)
    (subscribers : Nat) : StartupState :=
  if subscribers = 0 then state
  else
    match status with
    | .success =>
        if state.appKit then state
        else
          { state.showError (errorOfStatus status) with
            posted := state.posted ++ List.replicate subscribers .startNode }
    | status =>
        { state.showError (errorOfStatus status) with
          resets := (List.replicate subscribers AppField.all).flatten }

/-- The closures a failing thread posts. -/
def onSeedFailed (state : StartupState) : SeedFailure → StartupState
  | .wrongPassword =>
      (state.showError { message := "start_error_wrong_password" }).post
        .startNode
  | .unreadableSeed =>
      state.showError
        { message := "start_error_unreadable_seed"
          showRestart := true, showFAQ := true }

def run (state : StartupState) (datadir : Datadir) (subscribers : Nat) :
    Posted → StartupState
  | .seedFailed failure => state.onSeedFailed failure
  | .startNode => state.startNode datadir
  | .startupComplete status => state.processStartupFinish status subscribers

def setThread (state : StartupState) (index : Nat) (thread : SeedThread) :
    StartupState :=
  { state with threads := state.threads.set index thread }

def endThread (state : StartupState) (index : Nat) : StartupState :=
  { state with threads := state.threads.eraseIdx index }

/-- The next statement of a thread that has read the seed, or failed. -/
def advance (state : StartupState) (index : Nat) (prefs : StartupPrefs) :
    SeedThread → Option StartupState
  | .reading _ => none
  | .assigning password keys (field :: remaining) =>
      some ((state.setField field (some (keys.value password field))).setThread
        index (.assigning password keys remaining))
  | .assigning _ _ [] =>
      if prefs.proceeds then
        some { state.endThread index with queued := state.queued + 1 }
      else some (state.endThread index)
  | .resetting (field :: remaining) failure =>
      some ((state.setField field none).setThread index
        (.resetting remaining failure))
  | .resetting [] failure =>
      some ((state.endThread index).post (.seedFailed failure))

/-- The task ends; its result is posted to the main thread. -/
def endTask (state : StartupState) (status : StartupStatus) : StartupState :=
  { state with running := none }.post (.startupComplete status)

/-- The actor system refuses a name that is in use. -/
def setUp (state : StartupState) : SetUpOutcome → StartupState
  | .noNetwork => state.endTask .networkError
  | .setupThrows => state.endTask .genericError
  | .laterActorThrows =>
      { state with namesTaken := true }.endTask .genericError
  | .actorsCreated =>
      if state.namesTaken then state.endTask .genericError
      else
        { state with
          namesTaken := true
          nodeSupervisor :=
            some (state.fields .seedHash, state.fields .backupKeyV2)
          running := some .bootstrapping }

def bootstrap (state : StartupState) : BootstrapOutcome → StartupState
  | .started => { state with appKit := true }.endTask .success
  | .notScheduled => { state with appKit := true }.endTask .genericError
  | .timedOut => state.endTask .timeoutError
  | .failed => state.endTask .genericError

/-- The events of the main thread. -/
def mainStep (state : StartupState) : StartupEvent → Option StartupState
  | .onResume checkup datadir =>
      some (if checkup then state.startNode datadir else state)
  | .onPause => some state.dismissDialog
  | .pressKey index key =>
      (state.dialogs[index]?).bind (fun dialog =>
        if dialog.showing then
          some { state with
            dialogs := state.dialogs.set index (dialog.press key) }
        else none)
  | .timerFires index =>
      (state.dialogs[index]?).bind (fun dialog =>
        if 0 < dialog.timers then some (state.onPinConfirm index dialog)
        else none)
  | .encryptWallet pin => some (state.setField .pin (some pin))
  | .runPosted index datadir subscribers =>
      (state.posted[index]?).map (fun message =>
        { state with posted := state.posted.eraseIdx index }.run datadir
          subscribers message)
  | _ => none

/-- The main thread starts nothing before its handler has reset the fields;
the executor runs one task at a time. -/
def step (state : StartupState) : StartupEvent → Option StartupState
  | .resetNext =>
      match state.resets with
      | [] => none
      | field :: resets => some { state.setField field none with resets }
  | .seedRead index keys =>
      match state.threads[index]? with
      | some (.reading password) =>
          some (state.setThread index
            (.assigning password keys AppField.all))
      | _ => none
  | .threadThrows index failure =>
      match state.threads[index]? with
      | some (.reading _) | some (.assigning _ _ _) =>
          some (state.setThread index (.resetting AppField.all failure))
      | _ => none
  | .advance index prefs =>
      (state.threads[index]?).bind (state.advance index prefs)
  | .takeTask =>
      if state.running = none ∧ 0 < state.queued then
        some { state with
          queued := state.queued - 1
          running := some .starting }
      else none
  | .setUp outcome =>
      if state.running = some .starting then some (state.setUp outcome)
      else none
  | .bootstrap outcome =>
      if state.running = some .bootstrapping then
        some (state.bootstrap outcome)
      else none
  | event => if state.resets = [] then state.mainStep event else none

end StartupState

end EclairWallet
