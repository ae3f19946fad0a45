import EclairWallet.Library.JavaText
import EclairWallet.Payment.Entity
import EclairWallet.Payment.LightningPaymentError

/-!
# The node supervisor's payment handlers

`NodeSupervisor.onReceive` for the three messages that touch the payments
table.  A handler returns the table it leaves, what it posts, and the
exception that ends it, if any.
-/

namespace EclairWallet

inductive JavaException where
  | nullPointer
  | arrayIndexOutOfBounds
  | illegalArgument
  deriving DecidableEq, Repr

/-- Result of handling one message: the state left behind, the effects in
order, and the exception thrown. -/
structure Handled (State Effect : Type) where
  state : State
  effects : List Effect := []
  thrown : Option JavaException := none

structure LNPaymentFailedEvent where
  paymentHash : String
  paymentDescription : Option String
  isSimple : Bool
  simpleMessage : Option String
  errors : List LightningPaymentError
  invoiceId : Option String
  deriving DecidableEq, Repr

inductive PaymentEffect where
  | postFailed (event : LNPaymentFailedEvent)
  | postSuccess (payment : Payment)
  | refreshPayments
  deriving DecidableEq, Repr

structure PaymentFailed where
  paymentHash : String
  failures : List PaymentFailure
  deriving DecidableEq, Repr

structure PaymentSucceeded where
  amountMsat : Int
  paymentHash : String
  paymentPreimage : String
  deriving DecidableEq, Repr

inductive HtlcDirection where
  | inwards
  | outwards
  deriving DecidableEq, Repr

structure DirectedHtlc where
  direction : HtlcDirection
  paymentHash : String
  amountMsat : Int
  deriving DecidableEq, Repr

namespace NodeSupervisor

/-- The row for an HTLC whose payment hash the wallet does not know. -/
def unknownHtlcPayment (h : DirectedHtlc) (now : Nat) : Payment :=
  { type := .btcLn
    direction := .sent
    reference := h.paymentHash
    amountPaidMsat := h.amountMsat
    recipient := some "unknown recipient"
    paymentRequest := some "unknown invoice"
    status := some .pending
    created := now
    updated := some now }

/-- The body of the loop over the HTLCs of the next remote commitment. -/
def handleHtlc (payments : Table Payment) (h : DirectedHtlc) (now : Nat) :
    Table Payment × List PaymentEffect :=
  match DBHelper.getPayment payments h.paymentHash .btcLn with
  | some p =>
      if p.status = some .init then
        (DBHelper.updatePaymentPending payments p now, [.refreshPayments])
      else (payments, [])
  | none =>
      (DBHelper.insertOrUpdatePayment payments (unknownHtlcPayment h now),
        [.refreshPayments])

def handleHtlcs (payments : Table Payment) (now : Nat) :
    List DirectedHtlc → Table Payment × List PaymentEffect
  | [] => (payments, [])
  | h :: htlcs =>
      let (next, effects) := handleHtlc payments h now
      let (finish, later) := handleHtlcs next now htlcs
      (finish, effects ++ later)

/-- `ChannelSignatureSent`: `nextRemoteCommit` holds the HTLCs of the next
remote commitment, null when `remoteNextCommitInfo` is not a left value. -/
def onChannelSignatureSent (payments : Table Payment)
    (nextRemoteCommit : Option (List DirectedHtlc)) (now : Nat) :
    Handled (Table Payment) PaymentEffect :=
  match nextRemoteCommit with
  | some htlcs =>
      let (finish, effects) := handleHtlcs payments now htlcs
      { state := finish, effects := effects }
  | none => { state := payments }

/-- `PaymentFailed`.  The invoice id is split before the status is updated:
a null invoice id, or one without any piece, ends the handler first. -/
def onPaymentFailed
    (transformForUser : List PaymentFailure → List PaymentFailure)
    (payments : Table Payment) (event : PaymentFailed) (now : Nat) :
    Handled (Table Payment) PaymentEffect :=
  match DBHelper.getPayment payments event.paymentHash .btcLn with
  | some paymentInDB =>
      match paymentInDB.invoiceId with
      | none => { state := payments, thrown := some .nullPointer }
      | some data =>
          match JavaText.splitString ',' data with
          | [] =>
              { state := payments, thrown := some .arrayIndexOutOfBounds }
          | invoiceId :: _ =>
              let described := { paymentInDB with description := some invoiceId }
              let errorList := (transformForUser event.failures).map
                LightningPaymentError.generateDetailedErrorCause
              { state := DBHelper.updatePaymentFailed payments described now
                effects :=
                  [.postFailed
                    { paymentHash := described.reference
                      paymentDescription := described.description
                      isSimple := false
                      simpleMessage := none
                      errors := errorList
                      invoiceId := described.invoiceId },
                    .refreshPayments] }
  | none => { state := payments }

def onPaymentSucceeded (payments : Table Payment) (event : PaymentSucceeded)
    (now : Nat) : Handled (Table Payment) PaymentEffect :=
  match DBHelper.getPayment payments event.paymentHash .btcLn with
  | some paymentInDB =>
      -- the difference of two `long`s that are not negative is a `long`
      { state := DBHelper.updatePaymentPaid payments paymentInDB
          event.amountMsat (event.amountMsat - paymentInDB.amountSentMsat)
          event.paymentPreimage now
        effects :=
          [.postSuccess
            { paymentInDB with
              preimage := some event.paymentPreimage
              amountPaidMsat := event.amountMsat
              feesPaidMsat := event.amountMsat - paymentInDB.amountSentMsat
              status := some .paid
              updated := some now },
            .refreshPayments] }
  | none => { state := payments }

end NodeSupervisor

end EclairWallet
