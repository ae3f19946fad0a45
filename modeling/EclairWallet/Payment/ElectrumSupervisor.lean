import EclairWallet.Library.JavaLong
import EclairWallet.Library.Runs
import EclairWallet.Payment.Entity

/-!
# The electrum supervisor

`ElectrumSupervisor.onReceive` for the two messages that touch the payments
table, and the on-chain balance that `DBHelper` sums up from it.  An amount is
stored without a sign, and the direction says which it has.
-/

namespace EclairWallet

open JavaLong

/-- Amounts are satoshi. -/
structure TransactionReceived where
  txid : String
  payload : String
  depth : Int
  received : Nat
  sent : Nat
  feeOpt : Option Int
  deriving DecidableEq, Repr

structure TransactionConfidenceChanged where
  txid : String
  depth : Int
  deriving DecidableEq, Repr

inductive ElectrumMessage where
  | transactionReceived (event : TransactionReceived)
  | transactionConfidenceChanged (event : TransactionConfidenceChanged)
  deriving DecidableEq, Repr

inductive ElectrumEffect where
  | refreshPayments
  | refreshBalance
  deriving DecidableEq, Repr

/-- `satoshi2millisatoshi`, on a `long`. -/
def satoshi2millisatoshi (amount : Int) : Int :=
  toLong (amount * 1000)

namespace DBHelper

/-- The unique payment with this reference, type and direction. -/
def getPaymentWithDirection (payments : Table Payment) (reference : String)
    (type : PaymentType) (direction : PaymentDirection) : Option Payment :=
  payments.rows.find? (fun p =>
    p.reference = reference ∧ p.direction = direction ∧ p.type = type)

/-- None when the database refuses the update. -/
def updatePayment (payments : Table Payment) (p : Payment) :
    Option (Table Payment) :=
  payments.update p

/-- `SELECT SUM(AMOUNT_PAID_MSAT)` over the on-chain payments of one
direction. -/
def rawQueryOnchain (payments : Table Payment)
    (direction : PaymentDirection) : Option Int :=
  sum ((payments.rows.filter (fun p =>
    p.type = .btcOnchain ∧ p.direction = direction)).map Payment.amountPaidMsat)

/-- None when one of the sums overflows. -/
def getOnchainBalanceMsat (payments : Table Payment) : Option Int :=
  (rawQueryOnchain payments .received).bind (fun receivedMsat =>
    (rawQueryOnchain payments .sent).map (fun sentMsat =>
      max (toLong (receivedMsat - sentMsat)) 0))

end DBHelper

namespace ElectrumSupervisor

def directionOf (event : TransactionReceived) : PaymentDirection :=
  if event.received ≥ event.sent then .received else .sent

def amountOf (event : TransactionReceived) : Nat :=
  if event.received ≥ event.sent then event.received - event.sent
  else event.sent - event.received

/-- The entity as the handler saves it. -/
def setReceived (p : Payment) (event : TransactionReceived) : Payment :=
  { p with
    type := .btcOnchain
    direction := directionOf event
    reference := event.txid
    feesPaidMsat :=
      if directionOf event = .sent then
        satoshi2millisatoshi (event.feeOpt.getD 0)
      else p.feesPaidMsat
    txPayload := some event.payload
    amountPaidMsat := satoshi2millisatoshi (amountOf event)
    confidenceBlocks := toInt event.depth
    confidenceType := 0 }

/-- The entity of a transaction the table has not, before its columns are
set: `new Payment()`. -/
def newPayment (event : TransactionReceived) (now : Nat) : Payment :=
  { type := .btcOnchain
    direction := directionOf event
    reference := event.txid
    created := now }

def onTransactionReceived (payments : Table Payment)
    (event : TransactionReceived) (now : Nat) :
    Table Payment × List ElectrumEffect :=
  let paymentReceived :=
    match DBHelper.getPaymentWithDirection payments event.txid .btcOnchain
        (directionOf event) with
    | some paymentInDB => setReceived paymentInDB event
    | none =>
        { setReceived (newPayment event now) event with updated := some now }
  (DBHelper.insertOrUpdatePayment payments paymentReceived,
    [.refreshPayments, .refreshBalance])

/-- None when the database refuses the update. -/
def onTransactionConfidenceChanged (payments : Table Payment)
    (event : TransactionConfidenceChanged) :
    Option (Table Payment × List ElectrumEffect) :=
  let depth := toInt event.depth
  let updated :=
    match DBHelper.getPayment payments event.txid .btcOnchain with
    | some p => DBHelper.updatePayment payments { p with confidenceBlocks := depth }
    | none => some payments
  updated.map (fun next =>
    (next, if depth ≤ 6 then [.refreshPayments] else []))

/-- `onReceive` at the given time. -/
def onReceive (payments : Table Payment) (now : Nat) :
    ElectrumMessage → Option (Table Payment × List ElectrumEffect)
  | .transactionReceived event => some (onTransactionReceived payments event now)
  | .transactionConfidenceChanged event =>
      onTransactionConfidenceChanged payments event

def step (payments : Table Payment) (received : ElectrumMessage × Nat) :
    Option (Table Payment) :=
  (onReceive payments received.2 received.1).map Prod.fst

@[simp] theorem setReceived_direction (p : Payment)
    (event : TransactionReceived) :
    (setReceived p event).direction = directionOf event := by
  simp only [setReceived]

@[simp] theorem setReceived_amountPaidMsat (p : Payment)
    (event : TransactionReceived) :
    (setReceived p event).amountPaidMsat =
      satoshi2millisatoshi (amountOf event) := by
  simp only [setReceived]

end ElectrumSupervisor

end EclairWallet
