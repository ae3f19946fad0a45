import EclairWallet.Screens.ConfirmPayment
import EclairWallet.Screens.OpenChannel
import EclairWallet.Seed.Files
import EclairWallet.Startup.Activity

/-!
# The PIN across the application

One PIN opens the seed file, is kept in `App.pin` while the application runs,
and is asked for by the payment screens, the screens that open channels, and
`SecuritySettingsActivity`.  The screens and the startup are the components of
before; here they share the seed file, the PIN and the preference that asks for
it, and the process that holds them can be killed.
-/

namespace EclairWallet

open ByteString Crash WalletUtils

/-- The libraries of the components, and what a startup derives from the
seed. -/
structure PinEnvironment where
  provider : SecurityProvider
  library : OpenChannelLibrary
  seedKeys : Bytes → SeedKeys

/-- A payment that was sent, or a channel that was requested. -/
inductive Spending where
  | payment (call : MoneyCall)
  | channel (request : OpenChannelRequest)
  deriving DecidableEq, Repr

/-- The call or the request that an entry of a screen's log stands for. -/
def ConfirmEntry.spending? : ConfirmEntry → Option Spending
  | .called _ call => some (.payment call)
  | .accepted _ _ | .confirmed _ => none

def OpenChannelEntry.spending? : OpenChannelEntry → Option Spending
  | .requested _ request => some (.channel request)
  | .accepted _ _ _ | .confirmed _ | .connectAnswered _ _ | .asked _ => none

/-- `askPin` is `SETTING_ASK_PIN_FOR_SENSITIVE_ACTIONS`, which is written to
the disk later; `removals` are the dialogs of `removePinValue`, and `spent` is
all that the screens have sent and requested. -/
structure PinLock where
  seedWallet : SeedWallet
  startup : StartupState := {}
  askPin : Bool
  askPinOnDisk : Bool
  removals : List PinDialog := []
  payments : List ConfirmState := []
  channels : List OpenChannelState := []
  spent : List Spending := []

inductive LockEvent where
  | checkup (fates : List Fate) (datadir : Datadir)
  | startup (event : StartupEvent)
  | changePassword (pinValue : String) (fates : List Fate)
  | confirmNewPin (offer : Nat) (newPinValue confirmPinValue : String)
      (salt : RandomBytes EncryptedSeed.saltLength) (iv : RandomBytes 16)
      (fates : List Fate)
  | clickPinSwitch (checked : Bool)
  | pressRemovalKey (dialog : Nat) (key : PinKey)
  | cancelRemoval (dialog : Nat)
  | removalTimerFires (dialog : Nat)
  | openPayment (goToFrag : Bool)
  | payment (screen : Nat) (event : ConfirmEvent)
  | openChannel (feerates : FeeratesPerKB)
  | channel (screen : Nat) (event : OpenChannelEvent)
  | storePreferences
  | kill

namespace PinLock

variable (environment : PinEnvironment) (lock : PinLock)

/-- `app.pin`. -/
def pin : Option String :=
  lock.startup.fields .pin

/-- `checkInit`. -/
def initialised : Bool :=
  lock.startup.appKit && lock.pin.isSome

/-- Nothing but the files and the stored preferences survives the process. -/
def killed (seedWallet : SeedWallet) : PinLock where
  seedWallet := seedWallet
  askPin := lock.askPinOnDisk
  askPinOnDisk := lock.askPinOnDisk
  spent := lock.spent

/-- `StartupActivity.onResume` up to `startNode`. -/
def checkup (fates : List Fate) (datadir : Datadir) : Option PinLock :=
  let seedWallet := lock.seedWallet.check fates
  match (checkWalletDatadir lock.seedWallet.store fates).outcome with
  | .returned (ready, _) =>
      (lock.startup.step (.onResume ready datadir)).map (fun startup =>
        { lock with seedWallet, startup })
  | .thrown _ => some { lock with seedWallet }
  | .killed => some (lock.killed seedWallet)

/-- A thread reads the seed file as it is; the other events of the startup
that depend on the files or the screens have their own events here. -/
def startupAllowed : StartupEvent → Bool
  | .seedRead index keys =>
      match lock.startup.threads[index]? with
      | some (.reading password) =>
          match readSeedFile environment.provider lock.seedWallet.store
              .seedName password with
          | .ok seed => keys = environment.seedKeys seed
          | .error _ => false
      | _ => false
  | .onResume _ _ | .encryptWallet _ => false
  | _ => true

def startupStep (event : StartupEvent) : Option PinLock :=
  if lock.startupAllowed environment event then
    (lock.startup.step event).map (fun startup => { lock with startup })
  else none

/-- `SecuritySettingsActivity.changePassword`, once a PIN is typed. -/
def changePassword (pinValue : String) (fates : List Fate) : PinLock :=
  let seedWallet :=
    lock.seedWallet.changePassword environment.provider pinValue fates
  match (readSeed environment.provider .seedName pinValue
      lock.seedWallet.store fates).outcome with
  | .returned _ | .thrown _ => { lock with seedWallet }
  | .killed => lock.killed seedWallet

/-- The second dialog of `encryptWallet` is confirmed. -/
def encryptWallet (seed : Bytes) (newPinValue confirmPinValue : String)
    (salt : RandomBytes EncryptedSeed.saltLength) (iv : RandomBytes 16)
    (fates : List Fate) : Option PinLock :=
  let seedWallet := lock.seedWallet.encryptWallet environment.provider salt
    iv seed newPinValue confirmPinValue fates
  if newPinValue.length ≠ SeedWallet.pinLength then some lock
  else if newPinValue ≠ confirmPinValue then some lock
  else
    match (writeSeedFile environment.provider salt iv seed confirmPinValue
        lock.seedWallet.store fates).outcome with
    | .returned _ =>
        (lock.startup.step (.encryptWallet confirmPinValue)).map
          (fun startup => { lock with seedWallet, startup })
    | .thrown _ => some { lock with seedWallet }
    | .killed => some (lock.killed seedWallet)

/-- The switch shows whether the PIN is asked for. -/
def clickPinSwitch (checked : Bool) : PinLock :=
  let removePinDialog : PinDialog := {}
  if lock.askPin && checked then
    { lock with removals := lock.removals ++ [removePinDialog] }
  else if !lock.askPin && !checked then { lock with askPin := true }
  else lock

/-- The dialog of `removePinValue` is confirmed. -/
def onRemovalConfirm (index : Nat) (dialog : PinDialog) : PinLock :=
  let fired := dialog.fire
  if lock.initialised then
    let dismissed :=
      { lock with removals := lock.removals.set index fired.dismiss }
    if some (String.ofList fired.mPinValue) = lock.pin then
      { dismissed with askPin := false }
    else dismissed
  else { lock with removals := lock.removals.set index fired }

/-- What `isPinRequired` and `isPinCorrect` read for a payment screen. -/
def paymentAllowed : ConfirmEvent → Bool
  | .tapSend inputs => inputs.pinRequired = lock.askPin
  | .timerFires _ initialised pin _ =>
      initialised = lock.initialised &&
        (!initialised || some (String.ofList pin) = lock.pin)
  | _ => true

def channelAllowed : OpenChannelEvent → Bool
  | .tapOpen _ pinRequired => pinRequired = lock.askPin
  | .timerFires _ initialised pin =>
      initialised = lock.initialised &&
        (!initialised || some (String.ofList pin) = lock.pin)
  | _ => true

def paymentStep (screen : Nat) (event : ConfirmEvent) : Option PinLock :=
  (lock.payments[screen]?).bind (fun before =>
    if lock.paymentAllowed event then
      (before.step event).map (fun after =>
        { lock with
          payments := lock.payments.set screen after
          spent := lock.spent ++ (after.log.drop before.log.length).filterMap
            ConfirmEntry.spending? })
    else none)

def channelStep (screen : Nat) (event : OpenChannelEvent) : Option PinLock :=
  (lock.channels[screen]?).bind (fun before =>
    if lock.channelAllowed event then
      (before.step environment.library event).map (fun after =>
        { lock with
          channels := lock.channels.set screen after
          spent := lock.spent ++ (after.log.drop before.log.length).filterMap
            OpenChannelEntry.spending? })
    else none)

def step : LockEvent → Option PinLock
  | .checkup fates datadir => lock.checkup fates datadir
  | .startup event => lock.startupStep environment event
  | .changePassword pinValue fates =>
      some (lock.changePassword environment pinValue fates)
  | .confirmNewPin index newPinValue confirmPinValue salt iv fates =>
      (lock.seedWallet.offered[index]?).bind (fun seed =>
        lock.encryptWallet environment seed newPinValue confirmPinValue salt
          iv fates)
  | .clickPinSwitch checked => some (lock.clickPinSwitch checked)
  | .pressRemovalKey index key =>
      (lock.removals[index]?).bind (fun dialog =>
        if dialog.showing then
          some { lock with
            removals := lock.removals.set index (dialog.press key) }
        else none)
  | .cancelRemoval index =>
      (lock.removals[index]?).bind (fun dialog =>
        if dialog.showing then
          some { lock with
            removals := lock.removals.set index dialog.dismiss }
        else none)
  | .removalTimerFires index =>
      (lock.removals[index]?).bind (fun dialog =>
        if 0 < dialog.timers then some (lock.onRemovalConfirm index dialog)
        else none)
  | .openPayment goToFrag =>
      let screen : ConfirmState := { goToFrag := goToFrag }
      some { lock with payments := lock.payments ++ [screen] }
  | .payment screen event => lock.paymentStep screen event
  | .openChannel feerates =>
      some { lock with
        channels := lock.channels ++ [OpenChannelState.onCreate feerates] }
  | .channel screen event => lock.channelStep environment screen event
  | .storePreferences => some { lock with askPinOnDisk := lock.askPin }
  | .kill => some (lock.killed (lock.seedWallet.killed lock.seedWallet.store))

/-- The password the event tries to open the seed file with, now or by a
thread, or writes it with. -/
def tried : LockEvent → Option String
  | .changePassword pinValue _ => some pinValue
  | .confirmNewPin _ _ confirmPinValue _ _ _ => some confirmPinValue
  | .startup (.timerFires index) =>
      (lock.startup.dialogs[index]?).map (fun dialog =>
        String.ofList dialog.mPinValue)
  | _ => none

end PinLock

end EclairWallet
