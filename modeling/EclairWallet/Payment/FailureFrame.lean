import EclairWallet.Payment.FailureRecorded

/-!
# What a failure changes

The handler of `PaymentFailed` replaces the description of the row by the
first piece of its invoice id, and stores the row so changed.
-/

namespace EclairWallet

/-- The tables are the same but for the status and the update time of the
lightning row of the payment hash, and fully the same when that row is
paid. -/
structure OnlyStatusChanged (before after : Table Payment)
    (paymentHash : String) : Prop where
  row : ∀ p, DBHelper.getPayment before paymentHash .btcLn = some p →
    ∃ status updated, DBHelper.getPayment after paymentHash .btcLn =
      some { p with status := status, updated := updated }
  unknown : DBHelper.getPayment before paymentHash .btcLn = none →
    DBHelper.getPayment after paymentHash .btcLn = none
  others : ∀ p : Payment, (p.type, p.reference) ≠ (.btcLn, paymentHash) →
    (p ∈ after.rows ↔ p ∈ before.rows)
  paid : ∀ p, DBHelper.getPayment before paymentHash .btcLn = some p →
    p.status = some .paid → after = before

/-- The lightning row of the payment hash, unless it is paid, is described by
the first piece of its invoice id, if there is one. -/
def DescribedByInvoiceId (payments : Table Payment) (paymentHash : String) :
    Prop :=
  ∀ p data first rest,
    DBHelper.getPayment payments paymentHash .btcLn = some p →
    p.status ≠ some .paid → p.invoiceId = some data →
    JavaText.splitString ',' data = first :: rest →
      p.description = some first

namespace OnlyStatusChanged

theorem refl (payments : Table Payment) (paymentHash : String) :
    OnlyStatusChanged payments payments paymentHash where
  row p found := ⟨p.status, p.updated, found⟩
  unknown := id
  others _ _ := Iff.rfl
  paid _ _ _ := rfl

theorem of_writeBack {payments : Table Payment} {paymentHash : String}
    {p : Payment}
    (found : DBHelper.getPayment payments paymentHash .btcLn = some p)
    (unpaid : p.status ≠ some .paid) (status : Option PaymentStatus)
    (updated : Option Nat) :
    OnlyStatusChanged payments
      (DBHelper.insertOrUpdatePayment payments
        { p with status := status, updated := updated }) paymentHash := by
  constructor
  · intro row read
    obtain rfl : p = row := by simpa [found] using read
    exact ⟨status, updated,
      DBHelper.getPayment_writeBack found rfl rfl rfl⟩
  · intro none
    simp [found] at none
  · intro row other
    exact DBHelper.mem_writeBack_iff
      (q := { p with status := status, updated := updated }) found rfl rfl rfl
      other
  · intro row read paid
    obtain rfl : p = row := by simpa [found] using read
    exact (unpaid paid).elim

theorem updatePaymentFailed_iff {payments : Table Payment}
    {paymentHash : String} {p : Payment}
    (found : DBHelper.getPayment payments paymentHash .btcLn = some p)
    (unpaid : p.status ≠ some .paid) (description : Option String)
    (now : Nat) :
    OnlyStatusChanged payments
        (DBHelper.updatePaymentFailed payments
          { p with description := description } now) paymentHash ↔
      p.description = description := by
  constructor
  · intro changed
    have after := DBHelper.getPayment_updatePaymentFailed found
      (q := { p with description := description }) rfl rfl rfl unpaid now
    obtain ⟨status, updated, kept⟩ := changed.row p found
    rw [after, Option.some.injEq] at kept
    exact (congrArg Payment.description kept).symm
  · rintro rfl
    simp only [DBHelper.updatePaymentFailed]
    rw [if_pos unpaid]
    exact of_writeBack found unpaid _ _

end OnlyStatusChanged

theorem describedByInvoiceId_iff_of_found {payments : Table Payment}
    {paymentHash : String} {p : Payment}
    (found : DBHelper.getPayment payments paymentHash .btcLn = some p) :
    DescribedByInvoiceId payments paymentHash ↔
      (p.status ≠ some .paid → ∀ data first rest, p.invoiceId = some data →
        JavaText.splitString ',' data = first :: rest →
          p.description = some first) := by
  constructor
  · intro described unpaid data first rest
    exact described p data first rest found unpaid
  · intro described row data first rest read unpaid
    obtain rfl : p = row := by simpa [found] using read
    exact described unpaid data first rest

namespace NodeSupervisor

/-- A failure changes nothing but the status and the update time of its row
exactly when the row is paid, or its invoice id is null or without a piece, or
its description is the first piece of its invoice id already. -/
theorem only_status_changed_iff
    (transformForUser : List PaymentFailure → List PaymentFailure)
    (payments : Table Payment) (event : PaymentFailed) (now : Nat) :
    OnlyStatusChanged payments
        (onPaymentFailed transformForUser payments event now).state
        event.paymentHash ↔
      DescribedByInvoiceId payments event.paymentHash := by
  have unchanged : (onPaymentFailed transformForUser payments event now).state =
      payments → OnlyStatusChanged payments
        (onPaymentFailed transformForUser payments event now).state
        event.paymentHash := by
    intro same
    rw [same]
    exact OnlyStatusChanged.refl payments event.paymentHash
  cases found : DBHelper.getPayment payments event.paymentHash .btcLn with
  | none =>
      refine iff_of_true (unchanged ?_) ?_
      · simp [onPaymentFailed, found]
      · intro p data first rest read
        simp [found] at read
  | some p =>
      rw [describedByInvoiceId_iff_of_found found]
      cases invoiceId : p.invoiceId with
      | none =>
          refine iff_of_true (unchanged ?_) ?_
          · simp [onPaymentFailed, found, invoiceId]
          · intro _ data first rest given
            obtain ⟨⟩ := given
      | some data =>
          cases pieces : JavaText.splitString ',' data with
          | nil =>
              refine iff_of_true (unchanged ?_) ?_
              · simp [onPaymentFailed, found, invoiceId, pieces]
              · intro _ _ first rest given split
                obtain ⟨⟩ := given
                simp [pieces] at split
          | cons first rest =>
              rw [onPaymentFailed_of_pieces transformForUser found invoiceId
                pieces now]
              by_cases paid : p.status = some .paid
              · have settled : DBHelper.updatePaymentFailed payments
                    { p with description := some first } now = payments := by
                  simp [DBHelper.updatePaymentFailed, paid]
                rw [settled]
                refine iff_of_true
                  (OnlyStatusChanged.refl payments event.paymentHash) ?_
                intro unpaid
                exact (unpaid paid).elim
              · rw [OnlyStatusChanged.updatePaymentFailed_iff found paid]
                constructor
                · intro described _ _ head tail given split
                  obtain ⟨⟩ := given
                  rw [pieces, List.cons.injEq] at split
                  rw [described, split.1]
                · intro described
                  exact described paid data first rest rfl pieces

/-- The row that a plain payment request leaves. -/
def plainPayment : Payment :=
  { type := .btcLn
    direction := .sent
    reference := "hash"
    invoiceId := some "A"
    description := some "coffee"
    status := some .pending
    created := 1 }

/-- The failure of a plain payment replaces its description. -/
theorem description_replaced :
    ¬ ∀ (transformForUser : List PaymentFailure → List PaymentFailure)
      (payments : Table Payment) (event : PaymentFailed) (now : Nat),
      OnlyStatusChanged payments
        (onPaymentFailed transformForUser payments event now).state
        event.paymentHash := by
  intro claim
  have changed := claim id (Table.empty.insertOrReplace plainPayment)
    ⟨"hash", []⟩ 2
  obtain ⟨status, updated, after⟩ :=
    changed.row { plainPayment with id := some 1 } rfl
  have described : (DBHelper.getPayment (onPaymentFailed id
      (Table.empty.insertOrReplace plainPayment) ⟨"hash", []⟩ 2).state "hash"
      .btcLn).map Payment.description = some (some "coffee") := by
    rw [after]
    rfl
  exact absurd described (by decide)

end NodeSupervisor

end EclairWallet
