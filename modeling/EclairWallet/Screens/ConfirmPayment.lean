import EclairWallet.Library.Runs
import EclairWallet.Screens.PinDialog

/-!
# Confirming a payment

`SendPaymentActivity.confirmPayment`, the callbacks of the PIN dialogs it
opens, and the calls that move money.  The log records, in order, the taps on
Send that were accepted, the confirmations of a correct PIN, and those calls.
-/

namespace EclairWallet

/-- The invoice of the form.  The amount of an on-chain invoice is read-only
when the URI sets it. -/
inductive PaymentForm where
  | lightning
  | onchain (uriAmountSat : Option Int)
  deriving DecidableEq, Repr

/-- A call that moves money, with its arguments. -/
inductive MoneyCall where
  | sendLNPayment (amountMsat : Int)
  | sendBitcoinPayment (amountSat feesPerKw : Int) (emptyWallet : Bool)
  deriving DecidableEq, Repr

/-- Taps are numbered in the order in which they were accepted. -/
inductive ConfirmEntry where
  | accepted (tap : Nat) (pinRequired : Bool)
  | confirmed (tap : Nat)
  | called (tap : Nat) (call : MoneyCall)
  deriving DecidableEq, Repr

namespace ConfirmEntry

def isAccepted : ConfirmEntry → Bool
  | .accepted _ _ => true
  | _ => false

/-- The tap of a call. -/
def calledTap : ConfirmEntry → Option Nat
  | .called tap _ => some tap
  | _ => none

end ConfirmEntry

/-- A PIN dialog and what its callback will execute. -/
structure PinPrompt where
  tap : Nat
  payment : MoneyCall
  dialog : PinDialog
  deriving DecidableEq, Repr

/-- What `confirmPayment` reads when Send is tapped.  A text that does not
parse makes it throw. -/
structure TapInputs where
  hasActiveChannels : Bool
  amount : Option Int
  onchainBalanceSat : Int
  feesPerKw : Option Int
  emptyWallet : Bool
  pinRequired : Bool
  rowFree : Bool
  deriving DecidableEq, Repr

/-- `prompts` holds every dialog opened, the last of them in the field
`pinDialog`; `queued` holds the lightning payments handed to the executor. -/
structure ConfirmState where
  invoice : Option PaymentForm := none
  goToFrag : Bool
  isProcessingPayment : Bool := false
  finished : Bool := false
  prompts : List PinPrompt := []
  queued : List (Nat × Int) := []
  log : List ConfirmEntry := []
  deriving DecidableEq, Repr

inductive ConfirmEvent where
  | invoiceRead (invoice : PaymentForm)
  | tapSend (inputs : TapInputs)
  | pressKey (prompt : Nat) (key : PinKey)
  | cancelDialog (prompt : Nat)
  | timerFires (prompt : Nat) (initialised : Bool) (pin : List Char)
      (rowFree : Bool)
  | amountChanged (amountMsat : Option Int) (onchainBalanceSat : Int)
  | pause
  | runBody (index : Nat)
  deriving DecidableEq, Repr

namespace ConfirmState

/-- How many taps were accepted. -/
def taps (state : ConfirmState) : Nat :=
  state.log.countP ConfirmEntry.isAccepted

def record (state : ConfirmState) (entry : ConfirmEntry) : ConfirmState :=
  { state with log := state.log ++ [entry] }

@[simp] theorem record_prompts (state : ConfirmState) (entry : ConfirmEntry) :
    (state.record entry).prompts = state.prompts :=
  rfl

@[simp] theorem record_queued (state : ConfirmState) (entry : ConfirmEntry) :
    (state.record entry).queued = state.queued :=
  rfl

@[simp] theorem record_log (state : ConfirmState) (entry : ConfirmEntry) :
    (state.record entry).log = state.log ++ [entry] :=
  rfl

def handlePaymentError (state : ConfirmState) : ConfirmState :=
  { state with isProcessingPayment := false }

/-- The activity is finished only when it was opened from another screen. -/
def closeAndGoHome (state : ConfirmState) : ConfirmState :=
  { state with finished := state.finished || state.goToFrag }

/-- `sendLNPayment`; `rowFree` tells whether the row it reads is neither paid
nor pending. -/
def sendLNPayment (state : ConfirmState) (tap : Nat) (amountMsat : Int)
    (rowFree : Bool) : ConfirmState :=
  if rowFree then
    { state with queued := state.queued ++ [(tap, amountMsat)] }.closeAndGoHome
  else state

def sendBitcoinPayment (state : ConfirmState) (tap : Nat)
    (amountSat feesPerKw : Int) (emptyWallet : Bool) : ConfirmState :=
  state.record
    (.called tap (.sendBitcoinPayment amountSat feesPerKw emptyWallet))

/-- What follows a tap without PIN or a correct PIN. -/
def execute (state : ConfirmState) (tap : Nat) (rowFree : Bool) :
    MoneyCall → ConfirmState
  | .sendLNPayment amountMsat => state.sendLNPayment tap amountMsat rowFree
  | .sendBitcoinPayment amountSat feesPerKw emptyWallet =>
      (state.sendBitcoinPayment tap amountSat feesPerKw
        emptyWallet).closeAndGoHome

def showPinDialog (state : ConfirmState) (tap : Nat) (payment : MoneyCall) :
    ConfirmState :=
  { state with
    prompts := state.prompts ++ [{ tap, payment, dialog := {} }] }

/-- The payment the form asks for, null when `confirmPayment` ends in an
error. -/
def payment (invoice : PaymentForm) (inputs : TapInputs) : Option MoneyCall :=
  match invoice with
  | .lightning =>
      if inputs.hasActiveChannels = false then none
      else inputs.amount.map MoneyCall.sendLNPayment
  | .onchain uriAmountSat =>
      (uriAmountSat.or inputs.amount).bind (fun amountSat =>
        if inputs.onchainBalanceSat < amountSat then none
        else inputs.feesPerKw.map (fun feesPerKw =>
          .sendBitcoinPayment amountSat feesPerKw inputs.emptyWallet))

def confirmPayment (state : ConfirmState) (inputs : TapInputs) :
    ConfirmState :=
  if state.isProcessingPayment then state
  else
    let tap := state.taps
    let accepted :=
      { state with isProcessingPayment := true }.record
        (.accepted tap inputs.pinRequired)
    match state.invoice with
    | none => accepted
    | some invoice =>
        match payment invoice inputs with
        | none => accepted.handlePaymentError
        | some payment =>
            if inputs.pinRequired then accepted.showPinDialog tap payment
            else (accepted.execute tap inputs.rowFree payment).closeAndGoHome

def setDialog (state : ConfirmState) (index : Nat) (prompt : PinPrompt)
    (dialog : PinDialog) : ConfirmState :=
  { state with
    prompts := state.prompts.set index { prompt with dialog := dialog } }

/-- `onPinConfirm`.  `isPinCorrect` dismisses the dialog unless the
application is not initialised. -/
def onPinConfirm (state : ConfirmState) (index : Nat) (prompt : PinPrompt)
    (initialised : Bool) (pin : List Char) (rowFree : Bool) : ConfirmState :=
  let fired := prompt.dialog.fire
  if initialised then
    if fired.mPinValue = pin then
      ((state.setDialog index prompt fired.dismiss).record
        (.confirmed prompt.tap)).execute prompt.tap rowFree prompt.payment
    else (state.setDialog index prompt fired.dismiss).handlePaymentError
  else (state.setDialog index prompt fired).handlePaymentError

def onPinCancel (state : ConfirmState) : ConfirmState :=
  { state with isProcessingPayment := false }

/-- The watcher of the amount field. -/
def amountChanged (state : ConfirmState) (amountMsat : Option Int)
    (onchainBalanceSat : Int) : ConfirmState :=
  match amountMsat, state.invoice with
  | some amountMsat, some (.onchain _) =>
      if onchainBalanceSat < amountMsat / 1000 then state.handlePaymentError
      else state
  | _, _ => state

def onPause (state : ConfirmState) : ConfirmState :=
  match state.prompts[state.prompts.length - 1]? with
  | some prompt =>
      state.setDialog (state.prompts.length - 1) prompt prompt.dialog.dismiss
  | none => state

/-- `app.sendLNPayment`, at the end of the asynchronous body. -/
def runBody (state : ConfirmState) (index : Nat) (body : Nat × Int) :
    ConfirmState :=
  { state with queued := state.queued.eraseIdx index }.record
    (.called body.1 (.sendLNPayment body.2))

def step (state : ConfirmState) : ConfirmEvent → Option ConfirmState
  | .invoiceRead invoice => some { state with invoice := some invoice }
  | .tapSend inputs =>
      if state.finished then none else some (state.confirmPayment inputs)
  | .pressKey index key =>
      (state.prompts[index]?).bind (fun prompt =>
        if prompt.dialog.showing then
          some (state.setDialog index prompt (prompt.dialog.press key))
        else none)
  | .cancelDialog index =>
      (state.prompts[index]?).bind (fun prompt =>
        if prompt.dialog.showing then
          some (state.setDialog index prompt prompt.dialog.dismiss).onPinCancel
        else none)
  | .timerFires index initialised pin rowFree =>
      (state.prompts[index]?).bind (fun prompt =>
        if 0 < prompt.dialog.timers then
          some (state.onPinConfirm index prompt initialised pin rowFree)
        else none)
  | .amountChanged amountMsat onchainBalanceSat =>
      if state.finished then none
      else some (state.amountChanged amountMsat onchainBalanceSat)
  | .pause => some state.onPause
  | .runBody index =>
      (state.queued[index]?).map (fun body => state.runBody index body)

end ConfirmState

end EclairWallet
