import EclairWallet.Library.JavaCase
import EclairWallet.Payment.Supervisor

/-!
# The lightning side of the send screen

`SendPaymentActivity` reads an invoice, checks it against the payments table,
and later runs `sendLNPayment`: it reads the row, decides, and hands a body to
an asynchronous executor.  The body stores the row and then asks the node to
execute the payment.
-/

namespace EclairWallet

open JavaCase (DefaultLocale)

/-- The fields of a payment request the wallet reads.  The description is a
text or a hash. -/
structure PaymentRequest where
  chainPrefix : String
  paymentHash : String
  nodeId : String
  amountMsat : Option Int
  description : String ⊕ String
  deriving DecidableEq, Repr

namespace PaymentRequest

def descriptionText (pr : PaymentRequest) : String :=
  match pr.description with
  | .inl text => text
  | .inr hash => hash

end PaymentRequest

/-- What the send screen and the supervisor call in `eclair-core`: reading an
invoice, the invoice prefix of the wallet's chain, and the failures shown to
the user.  Beside it stands the locale of the device. -/
structure EclairCore where
  locale : DefaultLocale
  readInvoice : String → Option PaymentRequest
  acceptedPrefix : Option String
  transformForUser : List PaymentFailure → List PaymentFailure

inductive PaymentError where
  | lnInvalidChain
  | lnNoChannels
  | lnInsufficientFunds
  | pending
  | paid
  deriving DecidableEq, Repr

/-- A send screen whose form is shown: its invoice, the text the invoice was
read from, and the two extras of the intent. -/
structure Screen where
  request : PaymentRequest
  invoiceAsString : String
  goToFrag : String
  notification : String
  deriving DecidableEq, Repr

namespace SendPaymentActivity

/-- `WalletUtils.getLongAmountFromInvoice`. -/
def getLongAmountFromInvoice (pr : PaymentRequest) : Int :=
  pr.amountMsat.getD 0

/-- `channels` is the size of the supervisor's channels map. -/
def checkPaymentRequestError (core : EclairCore) (payments : Table Payment)
    (channels : Nat) (pr : PaymentRequest) : Option PaymentError :=
  if core.acceptedPrefix ≠ some pr.chainPrefix then some .lnInvalidChain
  else if channels = 0 then some .lnNoChannels
  else
    match DBHelper.getPayment payments pr.paymentHash .btcLn with
    | some paymentInDB =>
        if paymentInDB.status = some .pending then some .pending
        else if paymentInDB.status = some .paid then some .paid
        else none
    | none => none

/-- `sufficient` is the answer of `hasNormalChannelsWithBalance`, asked only
when the invoice sets the amount. -/
def setupLightningPaymentForm (core : EclairCore) (payments : Table Payment)
    (channels : Nat) (sufficient : Bool) (pr : PaymentRequest) :
    Option PaymentError :=
  match checkPaymentRequestError core payments channels pr with
  | some error => some error
  | none =>
      if pr.amountMsat.isSome ∧ sufficient = false then
        some .lnInsufficientFunds
      else none

/-- The decision `sendLNPayment` takes on the row it reads. -/
def sendError (p : Option Payment) : Option PaymentError :=
  match p with
  | some p =>
      if p.status = some .paid then some .paid
      else if p.status = some .pending then some .pending
      else none
  | none => none

/-- The row the asynchronous body stores when the read found none. -/
def newPayment (locale : DefaultLocale) (screen : Screen) (amountMsat : Int)
    (now : Nat) : Payment :=
  let invoiceId :=
    if screen.goToFrag = "" then "A"
    else if screen.notification = "" then
      screen.invoiceAsString ++ "," ++ screen.goToFrag
    else
      screen.invoiceAsString ++ "," ++ screen.goToFrag ++ "," ++
        screen.notification
  { type := .btcLn
    direction := .sent
    reference := screen.request.paymentHash
    invoiceId := some invoiceId
    recipient := some screen.request.nodeId
    paymentRequest := some
      (String.ofList (locale.toLowerCase screen.invoiceAsString.toList))
    description := some
      (if screen.goToFrag = "" then screen.request.descriptionText
        else screen.invoiceAsString)
    status := some .init
    created := now
    updated := some now
    amountRequestedMsat := getLongAmountFromInvoice screen.request
    amountSentMsat := amountMsat }

/-- The entity the asynchronous body stores: a new one, or the one read
before with another amount. -/
def storedPayment (locale : DefaultLocale) (screen : Screen) (amountMsat : Int)
    (p : Option Payment) (now : Nat) : Payment :=
  match p with
  | none => newPayment locale screen amountMsat now
  | some p => { p with amountSentMsat := amountMsat, updated := some now }

theorem sendError_eq_none_iff {p : Option Payment} :
    sendError p = none ↔
      ∀ row, p = some row →
        row.status ≠ some .paid ∧ row.status ≠ some .pending := by
  cases p with
  | none => simp [sendError]
  | some row =>
      by_cases paid : row.status = some .paid
      · simp [sendError, paid]
      · by_cases pending : row.status = some .pending
        · simp [sendError, pending]
        · simp [sendError, paid, pending]

/-- The body never stores a paid or a pending row. -/
theorem storedPayment_status {locale : DefaultLocale} {screen : Screen}
    {amountMsat : Int} {p : Option Payment} (allowed : sendError p = none)
    (now : Nat) :
    (storedPayment locale screen amountMsat p now).status ≠ some .paid ∧
      (storedPayment locale screen amountMsat p now).status ≠
        some .pending := by
  cases p with
  | none => simp [storedPayment, newPayment]
  | some row => exact sendError_eq_none_iff.mp allowed row rfl

end SendPaymentActivity

end EclairWallet
