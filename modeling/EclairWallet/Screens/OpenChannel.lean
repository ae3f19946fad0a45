import EclairWallet.Payment.FeeLabel
import EclairWallet.Screens.PinDialog

/-!
# Opening a channel

`OpenChannelActivity` from its form to the node.  The form is checked when the
button is tapped, and its fields are read a second time when the request is
made, which may be after a PIN dialog.  A dialog covers the screen: while it is
shown, the views below it take no touches.
-/

namespace EclairWallet

open JavaNumber (CharacterDigit parseLong valueOf)

structure NodeURI where
  nodeId : String
  address : String
  deriving DecidableEq, Repr

/-- What the screen calls in other libraries, and the bound it takes from
`eclair-core`.  A text that is no amount makes the conversions throw. -/
structure OpenChannelLibrary where
  digits : CharacterDigit
  convertStringAmountToMsat : List Char → Option Int
  convertStringAmountToSat : List Char → Option Int
  feerateByte2Kw : Int → Int
  maxFundingSatoshis : Int

/-- `Peer.OpenChannel`.  Nothing is pushed to the other side. -/
structure OpenChannelRequest where
  nodeId : String
  fundingSat : Int
  fundingTxFeeratePerKw : Int
  deriving DecidableEq, Repr

/-- The amount and the fee rate read from the form, and the balance the amount
was compared with. -/
structure CheckedForm where
  amountMsat : Int
  feesSatPerByte : Int
  onchainBalanceSat : Int
  deriving DecidableEq, Repr

/-- What happens to the form, in order.  Taps are numbered in the order in
which they were accepted; `connectAnswered` is what the peer answers when it is
asked to connect for a request, null for a throwable. -/
inductive OpenChannelEntry where
  | accepted (tap : Nat) (form : CheckedForm) (pinRequired : Bool)
  | confirmed (tap : Nat)
  | requested (tap : Nat) (request : OpenChannelRequest)
  | connectAnswered (request : OpenChannelRequest) (result : Option String)
  | asked (request : OpenChannelRequest)
  deriving DecidableEq, Repr

namespace OpenChannelEntry

def isAccepted : OpenChannelEntry → Bool
  | .accepted _ _ _ => true
  | _ => false

def isRequested : OpenChannelEntry → Bool
  | .requested _ _ => true
  | _ => false

/-- The request the node is asked for. -/
def asked? : OpenChannelEntry → Option OpenChannelRequest
  | .asked request => some request
  | _ => none

end OpenChannelEntry

/-- The texts of `showError`; the last one is the message of a throwable. -/
inductive OpenChannelError where
  | capacityInvalid
  | capacityNotEnoughFunds
  | capacityNan
  | feesNan
  | feesGt0
  | incorrectPin
  | thrown
  deriving DecidableEq, Repr

/-- A PIN dialog and the tap that opened it. -/
structure OpenChannelPrompt where
  tap : Nat
  dialog : PinDialog := {}
  deriving DecidableEq, Repr

/-- A request handed to the executor: its body has to run, or the peer has
been asked to connect. -/
structure OpeningChannel where
  request : OpenChannelRequest
  connecting : Bool := false
  deriving DecidableEq, Repr

/-- `readsURI` tells whether the task of `onCreate` has still to deliver the
node's address, `enabled` whether the button and the amount field are enabled;
`error` is the error shown. -/
structure OpenChannelState where
  readsURI : Bool := true
  remoteNodeURI : Option NodeURI := none
  capacityValue : List Char := []
  feesValue : List Char
  feeRatingState : FeeRating := .fast
  enabled : Bool := true
  error : Option OpenChannelError := none
  prompts : List OpenChannelPrompt := []
  finished : Bool := false
  opening : List OpeningChannel := []
  log : List OpenChannelEntry := []
  deriving DecidableEq

/-- `connectCompletes` carries what the peer answers. -/
inductive OpenChannelEvent where
  | processNodeURIFinish (uri : Option NodeURI)
  | editCapacity (text : List Char) (onchainBalanceSat : Int)
  | editFees (text : List Char)
  | pickFees (feerates : FeeratesPerKB)
  | tapOpen (onchainBalanceSat : Int) (pinRequired : Bool)
  | cancelOpenChannel
  | pressKey (prompt : Nat) (key : PinKey)
  | cancelDialog (prompt : Nat)
  | timerFires (prompt : Nat) (initialised : Bool) (pin : List Char)
  | pause
  | runBody (index : Nat)
  | connectCompletes (index : Nat) (result : Option String)

namespace OpenChannelState

/-- 1 mBTC. -/
def minFunding : Int := 100000000

def maxFunding (library : OpenChannelLibrary) : Int :=
  library.maxFundingSatoshis * 1000

/-- The longest text the fee field holds. -/
def maxFeesLength : Nat := 6

/-- What `onCreate` leaves, with the estimates of that moment. -/
def onCreate (feerates : FeeratesPerKB) : OpenChannelState where
  feesValue := (valueOf (App.estimateFastFees feerates)).take maxFeesLength

/-- How many taps were accepted. -/
def taps (state : OpenChannelState) : Nat :=
  state.log.countP OpenChannelEntry.isAccepted

def record (state : OpenChannelState) (entry : OpenChannelEntry) :
    OpenChannelState :=
  { state with log := state.log ++ [entry] }

theorem mem_record (state : OpenChannelState)
    (entry other : OpenChannelEntry) :
    other ∈ (state.record entry).log ↔ other ∈ state.log ∨ other = entry := by
  simp [record]

def dialogShown (state : OpenChannelState) : Bool :=
  state.prompts.any (fun prompt => prompt.dialog.showing)

/-- The views of the screen take touches. -/
def touchable (state : OpenChannelState) : Bool :=
  !state.finished && !state.dialogShown

/-- The form is there once the node's address is known. -/
def formUsable (state : OpenChannelState) : Bool :=
  state.touchable && state.remoteNodeURI.isSome

def showError (state : OpenChannelState) (error : OpenChannelError) :
    OpenChannelState :=
  { state with error := some error }

def disableForm (state : OpenChannelState) : OpenChannelState :=
  { state with enabled := false }

def enableForm (state : OpenChannelState) : OpenChannelState :=
  { state with enabled := true }

def goToHome (state : OpenChannelState) : OpenChannelState :=
  { state with finished := true }

/-- The amount, the error to show, if any, or null when the text is none. -/
def checkAmount (library : OpenChannelLibrary) (amount : List Char)
    (onchainBalanceSat : Int) : Option (Int × Option OpenChannelError) :=
  (library.convertStringAmountToMsat amount).map (fun amountMsat =>
    if amountMsat < minFunding ∨ maxFunding library ≤ amountMsat then
      (amountMsat, some .capacityInvalid)
    else if onchainBalanceSat < amountMsat.tdiv 1000 then
      (amountMsat, some .capacityNotEnoughFunds)
    else (amountMsat, none))

/-- The watcher of the amount field. -/
def editCapacity (library : OpenChannelLibrary) (state : OpenChannelState)
    (text : List Char) (onchainBalanceSat : Int) : OpenChannelState :=
  let edited := { state with capacityValue := text }
  match checkAmount library text onchainBalanceSat with
  | some (_, error) => { edited with error := error }
  | none => edited

def setFees (state : OpenChannelState) (text : List Char) :
    OpenChannelState :=
  { state with feesValue := text.take maxFeesLength }

def pickFees (state : OpenChannelState) (feerates : FeeratesPerKB) :
    OpenChannelState :=
  match state.feeRatingState with
  | .slow =>
      { state.setFees (valueOf (App.estimateMediumFees feerates)) with
        feeRatingState := .medium }
  | .medium | .custom =>
      { state.setFees (valueOf (App.estimateFastFees feerates)) with
        feeRatingState := .fast }
  | .fast =>
      { state.setFees (valueOf (App.estimateSlowFees feerates)) with
        feeRatingState := .slow }

/-- The request the fields ask for, null when reading them throws. -/
def readRequest (library : OpenChannelLibrary) (state : OpenChannelState) :
    Option OpenChannelRequest :=
  (library.convertStringAmountToSat state.capacityValue).bind
    (fun fundingSat =>
      (parseLong library.digits state.feesValue).bind (fun fees =>
        state.remoteNodeURI.map (fun uri =>
          { nodeId := uri.nodeId
            fundingSat := fundingSat
            fundingTxFeeratePerKw := library.feerateByte2Kw fees })))

def doOpenChannel (library : OpenChannelLibrary) (state : OpenChannelState)
    (tap : Nat) : OpenChannelState :=
  match readRequest library state with
  | none => state.showError .thrown
  | some request =>
      let opening : OpeningChannel := { request := request }
      ({ state with opening := state.opening ++ [opening] }.record
        (.requested tap request)).goToHome

/-- The checks passed. -/
def acceptForm (library : OpenChannelLibrary) (state : OpenChannelState)
    (form : CheckedForm) (pinRequired : Bool) : OpenChannelState :=
  let tap := state.taps
  let accepted :=
    { state with error := none }.disableForm.record
      (.accepted tap form pinRequired)
  if pinRequired then
    let pinDialog : OpenChannelPrompt := { tap := tap }
    { accepted with prompts := accepted.prompts ++ [pinDialog] }
  else accepted.doOpenChannel library tap

def confirmOpenChannel (library : OpenChannelLibrary)
    (state : OpenChannelState) (onchainBalanceSat : Int)
    (pinRequired : Bool) : OpenChannelState :=
  match checkAmount library state.capacityValue onchainBalanceSat with
  | none => state.showError .capacityNan
  | some (_, some error) => state.showError error
  | some (amountMsat, none) =>
      match parseLong library.digits state.feesValue with
      | none => state.showError .feesNan
      | some feesSatPerByte =>
          if feesSatPerByte ≤ 0 then state.showError .feesGt0
          else
            state.acceptForm library
              { amountMsat, feesSatPerByte, onchainBalanceSat } pinRequired

def setDialog (state : OpenChannelState) (index : Nat)
    (prompt : OpenChannelPrompt) (dialog : PinDialog) : OpenChannelState :=
  { state with
    prompts := state.prompts.set index { prompt with dialog := dialog } }

/-- `isPinCorrect` dismisses the dialog unless the application is not
initialised. -/
def onPinConfirm (library : OpenChannelLibrary) (state : OpenChannelState)
    (index : Nat) (prompt : OpenChannelPrompt) (initialised : Bool)
    (pin : List Char) : OpenChannelState :=
  let fired := prompt.dialog.fire
  if initialised then
    let state := state.setDialog index prompt fired.dismiss
    if fired.mPinValue = pin then
      (state.record (.confirmed prompt.tap)).doOpenChannel library prompt.tap
    else (state.showError .incorrectPin).enableForm
  else
    ((state.setDialog index prompt fired).showError .incorrectPin).enableForm

/-- The last dialog opened is the field `pinDialog`. -/
def onPause (state : OpenChannelState) : OpenChannelState :=
  match state.prompts[state.prompts.length - 1]? with
  | some prompt =>
      state.setDialog (state.prompts.length - 1) prompt prompt.dialog.dismiss
  | none => state

/-- The node is asked for the channel when the peer is connected. -/
def connectCompletes (state : OpenChannelState) (index : Nat)
    (opening : OpeningChannel) (result : Option String) : OpenChannelState :=
  let completed :=
    { state with opening := state.opening.eraseIdx index }.record
      (.connectAnswered opening.request result)
  if result = some "connected" ∨ result = some "already connected" then
    completed.record (.asked opening.request)
  else completed

def step (library : OpenChannelLibrary) (state : OpenChannelState) :
    OpenChannelEvent → Option OpenChannelState
  | .processNodeURIFinish uri =>
      if state.readsURI then
        some { state with readsURI := false, remoteNodeURI := uri }
      else none
  | .editCapacity text onchainBalanceSat =>
      if state.formUsable && state.enabled then
        some (state.editCapacity library text onchainBalanceSat)
      else none
  | .editFees text =>
      if state.formUsable then some (state.setFees text) else none
  | .pickFees feerates =>
      if state.formUsable then some (state.pickFees feerates) else none
  | .tapOpen onchainBalanceSat pinRequired =>
      if state.formUsable && state.enabled then
        some (state.confirmOpenChannel library onchainBalanceSat pinRequired)
      else none
  | .cancelOpenChannel => if state.touchable then some state.goToHome else none
  | .pressKey index key =>
      (state.prompts[index]?).bind (fun prompt =>
        if prompt.dialog.showing then
          some (state.setDialog index prompt (prompt.dialog.press key))
        else none)
  | .cancelDialog index =>
      (state.prompts[index]?).bind (fun prompt =>
        if prompt.dialog.showing then
          some (state.setDialog index prompt
            prompt.dialog.dismiss).enableForm
        else none)
  | .timerFires index initialised pin =>
      (state.prompts[index]?).bind (fun prompt =>
        if 0 < prompt.dialog.timers then
          some (state.onPinConfirm library index prompt initialised pin)
        else none)
  | .pause => some state.onPause
  | .runBody index =>
      (state.opening[index]?).map (fun opening =>
        { state with
          opening := state.opening.set index
            { opening with connecting := true } })
  | .connectCompletes index result =>
      (state.opening[index]?).bind (fun opening =>
        if opening.connecting then
          some (state.connectCompletes index opening result)
        else none)

end OpenChannelState

end EclairWallet
