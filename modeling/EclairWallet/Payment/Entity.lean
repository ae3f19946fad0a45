import EclairWallet.Library.KeyedTable

/-!
# Payments and their table

The payment entity with the columns of the source, and the operations of
`DBHelper` on the payments table.  The table is unique on `(type, reference)`;
`reference` is the transaction id of an on-chain payment and the payment hash
of a lightning payment.
-/

namespace EclairWallet

inductive PaymentType where
  | btcLn
  | btcOnchain
  deriving DecidableEq, Repr

inductive PaymentDirection where
  | received
  | sent
  | forwarded
  deriving DecidableEq, Repr

inductive PaymentStatus where
  | init
  | pending
  | paid
  | failed
  deriving DecidableEq, Repr

/-- A row of the payments table.  Nullable columns are options; dates are
milliseconds and amounts millisatoshi. -/
structure Payment where
  id : Option Nat := none
  type : PaymentType
  direction : PaymentDirection
  reference : String
  invoiceId : Option String := none
  recipient : Option String := none
  preimage : Option String := none
  paymentRequest : Option String := none
  localChannelId : Option String := none
  serializedRoute : Option String := none
  description : Option String := none
  confidenceBlocks : Int := 0
  confidenceType : Int := 0
  txPayload : Option String := none
  status : Option PaymentStatus := none
  created : Nat
  updated : Option Nat := none
  lastErrorCause : Option String := none
  amountRequestedMsat : Int := 0
  amountSentMsat : Int := 0
  amountPaidMsat : Int := 0
  feesPaidMsat : Int := 0
  deriving DecidableEq, Repr

namespace Payment

instance : Keyed Payment (PaymentType × String) where
  primary payment := payment.id
  withPrimary id payment := { payment with id := some id }
  unique payment := (payment.type, payment.reference)
  primary_withPrimary := fun _ _ => rfl
  unique_withPrimary := fun _ _ => rfl

@[simp] theorem primary_eq (payment : Payment) :
    Keyed.primary payment = payment.id :=
  rfl

@[simp] theorem unique_eq (payment : Payment) :
    Keyed.unique payment = (payment.type, payment.reference) :=
  rfl

theorem saved_eq (payments : Table Payment) (payment : Payment) :
    payments.saved payment =
      { payment with id := some (payments.assigned payment) } :=
  rfl

end Payment

/-! ## `DBHelper` on payments -/

namespace DBHelper

/-- The unique payment with this reference and type, null when there is
none. -/
def getPayment (payments : Table Payment) (reference : String)
    (type : PaymentType) : Option Payment :=
  payments.find? (type, reference)

def insertOrUpdatePayment (payments : Table Payment) (p : Payment) :
    Table Payment :=
  payments.insertOrReplace p

def updatePaymentPaid (payments : Table Payment) (p : Payment)
    (amountPaidMsat feesMsat : Int) (preimage : String) (now : Nat) :
    Table Payment :=
  insertOrUpdatePayment payments
    { p with
      preimage := some preimage
      amountPaidMsat := amountPaidMsat
      feesPaidMsat := feesMsat
      status := some .paid
      updated := some now }

def updatePaymentFailed (payments : Table Payment) (p : Payment)
    (now : Nat) : Table Payment :=
  if p.status ≠ some .paid then
    insertOrUpdatePayment payments
      { p with status := some .failed, updated := some now }
  else payments

def updatePaymentPending (payments : Table Payment) (p : Payment)
    (now : Nat) : Table Payment :=
  if p.status ≠ some .paid then
    insertOrUpdatePayment payments
      { p with status := some .pending, updated := some now }
  else payments

theorem getPayment_eq_some_iff {payments : Table Payment}
    {reference : String} {type : PaymentType} {p : Payment} :
    getPayment payments reference type = some p ↔
      p ∈ payments.rows ∧ p.type = type ∧ p.reference = reference := by
  rw [getPayment, Table.find?_eq_some_iff]
  simp

theorem filter_rows_eq (payments : Table Payment) (type : PaymentType)
    (reference : String) :
    payments.rows.filter
        (fun p => p.type = type ∧ p.reference = reference) =
      (getPayment payments reference type).toList := by
  rw [getPayment, ← Table.filter_unique_eq]
  simp

theorem exists_id_of_getPayment {payments : Table Payment}
    {reference : String} {type : PaymentType} {p : Payment}
    (found : getPayment payments reference type = some p) :
    ∃ id, p.id = some id := by
  have member := (getPayment_eq_some_iff.mp found).1
  exact Option.ne_none_iff_exists'.mp (payments.stored p member)

theorem getPayment_insertOrUpdate_self (payments : Table Payment)
    (p : Payment) :
    getPayment (insertOrUpdatePayment payments p) p.reference p.type =
      some { p with id := some (payments.assigned p) } :=
  Table.find?_insertOrReplace_self payments p

theorem getPayment_writeBack {payments : Table Payment} {reference : String}
    {type : PaymentType} {p q : Payment}
    (found : getPayment payments reference type = some p)
    (sameId : q.id = p.id) (sameType : q.type = p.type)
    (sameReference : q.reference = p.reference) :
    getPayment (insertOrUpdatePayment payments q) reference type =
      some q := by
  obtain ⟨id, primary⟩ := exists_id_of_getPayment found
  obtain ⟨_, rfl, rfl⟩ := getPayment_eq_some_iff.mp found
  have assigned : payments.assigned q = id :=
    payments.assigned_of_primary (sameId.trans primary)
  rw [← sameType, ← sameReference, getPayment_insertOrUpdate_self, assigned]
  cases q
  simp_all

/-- Frame rule of a write-back: every other reference or type reads as
before. -/
theorem getPayment_writeBack_of_ne {payments : Table Payment}
    {reference otherReference : String} {type otherType : PaymentType}
    {p q : Payment}
    (found : getPayment payments reference type = some p)
    (sameId : q.id = p.id) (sameType : q.type = p.type)
    (sameReference : q.reference = p.reference)
    (other : (otherType, otherReference) ≠ (type, reference)) :
    getPayment (insertOrUpdatePayment payments q) otherReference otherType =
      getPayment payments otherReference otherType := by
  obtain ⟨member, rfl, rfl⟩ := getPayment_eq_some_iff.mp found
  refine Table.find?_insertOrReplace_update member (by simpa using sameId)
    (by simp [sameType, sameReference]) ?_
  simpa [sameType, sameReference] using other

theorem mem_writeBack_iff {payments : Table Payment} {reference : String}
    {type : PaymentType} {p q row : Payment}
    (found : getPayment payments reference type = some p)
    (sameId : q.id = p.id) (sameType : q.type = p.type)
    (sameReference : q.reference = p.reference)
    (other : (row.type, row.reference) ≠ (type, reference)) :
    row ∈ (insertOrUpdatePayment payments q).rows ↔ row ∈ payments.rows := by
  obtain ⟨member, rfl, rfl⟩ := getPayment_eq_some_iff.mp found
  apply Table.mem_insertOrReplace_update_iff member
  · exact sameId
  · simp [sameType, sameReference]
  · simpa [sameType, sameReference] using other

theorem getPayment_updatePaymentPaid {payments : Table Payment}
    {reference : String} {type : PaymentType} {p : Payment}
    (found : getPayment payments reference type = some p)
    (amountPaidMsat feesMsat : Int) (preimage : String) (now : Nat) :
    getPayment (updatePaymentPaid payments p amountPaidMsat feesMsat preimage
        now) reference type =
      some { p with
        preimage := some preimage
        amountPaidMsat := amountPaidMsat
        feesPaidMsat := feesMsat
        status := some .paid
        updated := some now } :=
  getPayment_writeBack found rfl rfl rfl

theorem getPayment_updatePaymentPaid_of_ne {payments : Table Payment}
    {reference otherReference : String} {type otherType : PaymentType}
    {p : Payment} (found : getPayment payments reference type = some p)
    (amountPaidMsat feesMsat : Int) (preimage : String) (now : Nat)
    (other : (otherType, otherReference) ≠ (type, reference)) :
    getPayment (updatePaymentPaid payments p amountPaidMsat feesMsat preimage
        now) otherReference otherType =
      getPayment payments otherReference otherType := by
  apply getPayment_writeBack_of_ne found _ _ _ other <;> rfl

/-- The row may be changed in columns that are not keys before it is marked as
failed. -/
theorem getPayment_updatePaymentFailed {payments : Table Payment}
    {reference : String} {type : PaymentType} {p q : Payment}
    (found : getPayment payments reference type = some p)
    (sameId : q.id = p.id) (sameType : q.type = p.type)
    (sameReference : q.reference = p.reference)
    (unpaid : q.status ≠ some .paid) (now : Nat) :
    getPayment (updatePaymentFailed payments q now) reference type =
      some { q with status := some .failed, updated := some now } := by
  unfold updatePaymentFailed
  rw [if_pos unpaid]
  exact getPayment_writeBack found sameId sameType sameReference

end DBHelper

end EclairWallet
