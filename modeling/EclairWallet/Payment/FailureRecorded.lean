import EclairWallet.Payment.Lightning

/-!
# Recorded failures

The handler of `PaymentFailed` parses the invoice id of the row before it
updates the status.  The send screen fills that column with a text that has a
first piece; the handler for an unknown HTLC leaves it null.
-/

namespace EclairWallet

open JavaCase (DefaultLocale)

namespace Payment

/-- The invoice id is null, or it has a first piece. -/
def InvoiceIdSplits (p : Payment) : Prop :=
  ∀ data, p.invoiceId = some data → JavaText.splitString ',' data ≠ []

end Payment

namespace JavaText

theorem splitString_ne_nil {separator char : Char} {text : String}
    (member : char ∈ text.toList) (apart : char ≠ separator) :
    splitString separator text ≠ [] := by
  intro none
  apply split_ne_nil member apart
  simpa [splitString] using none

end JavaText

/-- Every row's invoice id is null or has a first piece. -/
def AllSplit (payments : Table Payment) : Prop :=
  ∀ row ∈ payments.rows, row.InvoiceIdSplits

theorem AllSplit.insert {payments : Table Payment} {p : Payment}
    (all : AllSplit payments) (splits : p.InvoiceIdSplits) :
    AllSplit (DBHelper.insertOrUpdatePayment payments p) := by
  apply Table.forall_insertOrReplace all
  rw [Payment.saved_eq]
  exact splits

theorem AllSplit.of_getPayment {payments : Table Payment} {reference : String}
    {type : PaymentType} {p : Payment} (all : AllSplit payments)
    (found : DBHelper.getPayment payments reference type = some p) :
    p.InvoiceIdSplits :=
  all p (DBHelper.getPayment_eq_some_iff.mp found).1

namespace NodeSupervisor

theorem handleHtlc_allSplit {payments : Table Payment}
    (all : AllSplit payments) (h : DirectedHtlc) (now : Nat) :
    AllSplit (handleHtlc payments h now).1 := by
  unfold handleHtlc
  split
  · rename_i p found
    have splits := all.of_getPayment found
    split
    · unfold DBHelper.updatePaymentPending
      split
      · exact all.insert splits
      · exact all
    · exact all
  · apply all.insert
    intro data impossible
    simp [unknownHtlcPayment] at impossible

theorem handleHtlcs_allSplit {payments : Table Payment}
    (all : AllSplit payments) (now : Nat) (htlcs : List DirectedHtlc) :
    AllSplit (handleHtlcs payments now htlcs).1 := by
  induction htlcs generalizing payments with
  | nil => exact all
  | cons h htlcs induction =>
      have next := handleHtlc_allSplit all h now
      exact induction next

theorem onPaymentFailed_allSplit
    (transformForUser : List PaymentFailure → List PaymentFailure)
    {payments : Table Payment} (all : AllSplit payments)
    (event : PaymentFailed) (now : Nat) :
    AllSplit (onPaymentFailed transformForUser payments event now).state := by
  unfold onPaymentFailed
  split
  · rename_i paymentInDB found
    have splits := all.of_getPayment found
    split
    · exact all
    · split
      · exact all
      · simp only [DBHelper.updatePaymentFailed]
        split
        · exact all.insert splits
        · exact all
  · exact all

theorem onPaymentSucceeded_allSplit {payments : Table Payment}
    (all : AllSplit payments) (event : PaymentSucceeded) (now : Nat) :
    AllSplit (onPaymentSucceeded payments event now).state := by
  unfold onPaymentSucceeded
  split
  · rename_i paymentInDB found
    have splits := all.of_getPayment found
    exact all.insert splits
  · exact all

theorem onPaymentFailed_of_pieces
    (transformForUser : List PaymentFailure → List PaymentFailure)
    {payments : Table Payment} {event : PaymentFailed} {row : Payment}
    {data first : String} {rest : List String}
    (found : DBHelper.getPayment payments event.paymentHash .btcLn = some row)
    (invoiceId : row.invoiceId = some data)
    (pieces : JavaText.splitString ',' data = first :: rest) (now : Nat) :
    onPaymentFailed transformForUser payments event now =
      { state := DBHelper.updatePaymentFailed payments
          { row with description := some first } now
        effects :=
          [.postFailed
            { paymentHash := row.reference
              paymentDescription := some first
              isSimple := false
              simpleMessage := none
              errors := (transformForUser event.failures).map
                LightningPaymentError.generateDetailedErrorCause
              invoiceId := row.invoiceId },
            .refreshPayments] } := by
  simp [onPaymentFailed, found, invoiceId, pieces]

/-- The failure of this payment hash is recorded: no exception, the row marked
as failed, one event posted for it. -/
def FailureRecorded
    (transformForUser : List PaymentFailure → List PaymentFailure)
    (payments : Table Payment) (event : PaymentFailed) (now : Nat) : Prop :=
  let result := onPaymentFailed transformForUser payments event now
  result.thrown = none ∧
    (∃ row, DBHelper.getPayment result.state event.paymentHash .btcLn =
        some row ∧ row.status = some .failed) ∧
    result.effects.countP (fun effect =>
      match effect with
      | .postFailed posted => posted.paymentHash = event.paymentHash
      | _ => false) = 1

/-- On a row that is not paid and whose invoice id splits, the handler records
the failure exactly when the invoice id is there. -/
theorem failureRecorded_iff_of_splits
    (transformForUser : List PaymentFailure → List PaymentFailure)
    {payments : Table Payment} {event : PaymentFailed} {row : Payment}
    (found : DBHelper.getPayment payments event.paymentHash .btcLn = some row)
    (unpaid : row.status ≠ some .paid) (splits : row.InvoiceIdSplits)
    (now : Nat) :
    FailureRecorded transformForUser payments event now ↔
      row.invoiceId ≠ none := by
  cases invoiceId : row.invoiceId with
  | none => simp [FailureRecorded, onPaymentFailed, found, invoiceId]
  | some data =>
      obtain ⟨first, rest, pieces⟩ :=
        List.exists_cons_of_ne_nil (splits data invoiceId)
      have marked : ∃ after,
          DBHelper.getPayment (DBHelper.updatePaymentFailed payments
            { row with description := some first } now) event.paymentHash
            .btcLn = some after ∧
          after.status = some .failed :=
        ⟨_, DBHelper.getPayment_updatePaymentFailed found
          (q := { row with description := some first }) rfl rfl rfl unpaid
          now, rfl⟩
      have sameHash := (DBHelper.getPayment_eq_some_iff.mp found).2.2
      have result := onPaymentFailed_of_pieces transformForUser found
        invoiceId pieces now
      refine iff_of_true ⟨?_, ?_, ?_⟩ (by simp)
      · rw [result]
      · rw [result]
        exact marked
      · simp [result, sameHash]

end NodeSupervisor

namespace Screen

/-- The text of the invoice has a character that is not a comma. -/
def HasPiece (screen : Screen) : Prop :=
  ∃ char ∈ screen.invoiceAsString.toList, char ≠ ','

end Screen

namespace SendPaymentActivity

theorem newPayment_invoiceIdSplits (locale : DefaultLocale) {screen : Screen}
    (piece : screen.HasPiece) (amountMsat : Int) (now : Nat) :
    (newPayment locale screen amountMsat now).InvoiceIdSplits := by
  obtain ⟨char, member, apart⟩ := piece
  intro data written
  simp only [newPayment, Option.some.injEq] at written
  subst data
  split
  · have letter : 'A' ∈ "A".toList := by decide
    exact JavaText.splitString_ne_nil letter (by decide)
  · split
    · apply JavaText.splitString_ne_nil _ apart
      simp [member]
    · apply JavaText.splitString_ne_nil _ apart
      simp [member]

end SendPaymentActivity

namespace LightningState

/-- The invariant: the rows, the screens' texts and the entities held by the
bodies all split. -/
structure Splits (state : LightningState) : Prop where
  rows : AllSplit state.payments
  screens : ∀ screen ∈ state.screens, screen.HasPiece
  texts : ∀ body ∈ state.bodies, body.screen.HasPiece
  entities : ∀ body ∈ state.bodies, ∀ p, body.p = some p → p.InvoiceIdSplits

theorem splits_openScreen {core : EclairCore} {state : LightningState}
    (reads : ∀ text request, core.readInvoice text = some request →
      ∃ char ∈ text.toList, char ≠ ',')
    (splits : state.Splits) (invoiceAsString goToFrag notification : String)
    (channels : Nat) (sufficient : Bool) :
    (state.openScreen core invoiceAsString goToFrag notification channels
      sufficient).Splits := by
  rcases openScreen_cases core state invoiceAsString goToFrag notification
      channels sufficient with same | ⟨screen, read, added⟩
  · rw [same]
    exact splits
  · rw [added]
    refine { splits with screens := ?_ }
    intro other member
    rcases List.mem_append.mp member with old | new
    · exact splits.screens other old
    · rw [List.mem_singleton.mp new]
      exact reads screen.invoiceAsString screen.request read

theorem splits_send {state : LightningState} (splits : state.Splits)
    {screen : Screen} (member : screen ∈ state.screens) (amountMsat : Int) :
    (state.send screen amountMsat).Splits := by
  unfold send
  split
  · exact splits
  · refine { splits with texts := ?_, entities := ?_ }
    · intro body bodyMember
      rcases List.mem_append.mp bodyMember with old | new
      · exact splits.texts body old
      · simp only [List.mem_singleton] at new
        subst body
        exact splits.screens screen member
    · intro body bodyMember p read
      rcases List.mem_append.mp bodyMember with old | new
      · exact splits.entities body old p read
      · simp only [List.mem_singleton] at new
        subst body
        exact splits.rows.of_getPayment read

theorem stored_invoiceIdSplits {state : LightningState}
    (splits : state.Splits) {body : SendBody} (member : body ∈ state.bodies)
    (locale : DefaultLocale) (now : Nat) :
    (body.stored locale now).InvoiceIdSplits := by
  cases read : body.p with
  | none =>
      have new := SendPaymentActivity.newPayment_invoiceIdSplits locale
        (splits.texts body member) body.amountMsat now
      simpa [SendBody.stored, SendPaymentActivity.storedPayment, read] using
        new
  | some p =>
      have old := splits.entities body member p read
      simpa [SendBody.stored, SendPaymentActivity.storedPayment, read,
        Payment.InvoiceIdSplits] using old

theorem splits_step {core : EclairCore} {state next : LightningState}
    {event : LightningEvent}
    (reads : ∀ text request, core.readInvoice text = some request →
      ∃ char ∈ text.toList, char ≠ ',')
    (splits : state.Splits) (result : step core state event = some next) :
    next.Splits := by
  cases steps_of_step result with
  | openScreen invoiceAsString goToFrag notification channels sufficient =>
      exact splits_openScreen reads splits invoiceAsString goToFrag
        notification channels sufficient
  | sendLNPayment amountMsat found =>
      exact splits_send splits (List.mem_of_getElem? found) amountMsat
  | storeBody now found queued =>
      have member := List.mem_of_getElem? found
      constructor
      · exact splits.rows.insert
          (stored_invoiceIdSplits splits member core.locale now)
      · exact splits.screens
      · exact forall_set_phase splits.texts id found
      · exact forall_set_phase splits.entities id found
  | executeBody found stored =>
      constructor
      · exact splits.rows
      · exact splits.screens
      · exact forall_set_phase splits.texts id found
      · exact forall_set_phase splits.entities id found
  | signatureSent nextRemoteCommit now =>
      refine { splits with rows := ?_ }
      cases nextRemoteCommit with
      | none => exact splits.rows
      | some htlcs =>
          exact NodeSupervisor.handleHtlcs_allSplit splits.rows now htlcs
  | paymentFailed event now =>
      refine { splits with rows := ?_ }
      exact NodeSupervisor.onPaymentFailed_allSplit core.transformForUser
        splits.rows event now
  | paymentSucceeded event now =>
      refine { splits with rows := ?_ }
      exact NodeSupervisor.onPaymentSucceeded_allSplit splits.rows event now

theorem splits_of_reachable {core : EclairCore} {state : LightningState}
    (reads : ∀ text request, core.readInvoice text = some request →
      ∃ char ∈ text.toList, char ≠ ',')
    (reachable : Runs.Reachable (step core) (start Table.empty) state) :
    state.Splits := by
  have preserved : ∀ state event next, Splits state →
      step core state event = some next → Splits next :=
    fun _ _ _ splits result => splits_step reads splits result
  apply Runs.Reachable.invariant preserved _ reachable
  constructor <;> simp [start, AllSplit, Table.empty]

/-- In every reachable table, the failure of a row that is not paid is
recorded exactly when the row has an invoice id. -/
theorem failure_recorded_iff {core : EclairCore}
    (reads : ∀ text request, core.readInvoice text = some request →
      ∃ char ∈ text.toList, char ≠ ',')
    {state : LightningState}
    (reachable : Runs.Reachable (step core) (start Table.empty) state)
    {event : PaymentFailed} {row : Payment}
    (found : DBHelper.getPayment state.payments event.paymentHash .btcLn =
      some row)
    (unpaid : row.status ≠ some .paid) (now : Nat) :
    NodeSupervisor.FailureRecorded core.transformForUser state.payments event
        now ↔
      row.invoiceId ≠ none := by
  have splits := (splits_of_reachable reads reachable).rows.of_getPayment found
  exact NodeSupervisor.failureRecorded_iff_of_splits core.transformForUser
    found unpaid splits now

/-- A payment sent from the screen, signed, and failed. -/
def sentAndSigned : List LightningEvent :=
  [.openScreen "lntb1" "" "" 1 true,
    .sendLNPayment 0 1000,
    .storeBody 0 1,
    .executeBody 0,
    .signatureSent (some [⟨.inwards, "hash", 1000⟩]) 2]

theorem sent_failure_recorded :
    ∃ state row,
      Runs.exec (step sampleCore) (start Table.empty) sentAndSigned =
        some state ∧
      DBHelper.getPayment state.payments "hash" .btcLn = some row ∧
      row.status = some .pending ∧
      NodeSupervisor.FailureRecorded sampleCore.transformForUser
        state.payments ⟨"hash", []⟩ 3 := by
  have reads : ∀ text request, sampleCore.readInvoice text = some request →
      ∃ char ∈ text.toList, char ≠ ',' := by
    intro text request read
    simp only [sampleCore, Option.ite_none_right_eq_some] at read
    simpa using read.1
  have columns : (Runs.exec (step sampleCore) (start Table.empty)
      sentAndSigned).bind (fun state =>
        (DBHelper.getPayment state.payments "hash" .btcLn).map
          (fun row => (row.status, row.invoiceId))) =
      some (some .pending, some "A") := by
    decide
  obtain ⟨state, run, stored⟩ := Option.bind_eq_some_iff.mp columns
  obtain ⟨row, found, shape⟩ := Option.map_eq_some_iff.mp stored
  simp only [Prod.mk.injEq] at shape
  refine ⟨state, row, run, found, shape.1, ?_⟩
  apply (failure_recorded_iff reads ⟨sentAndSigned, run⟩ found _ 3).mpr
  · simp [shape.2]
  · simp [shape.1]

/-- The handler of an unknown HTLC stores a row without an invoice id. -/
theorem unknown_htlc_failure_not_recorded :
    ¬ ∀ state, Runs.Reachable (step sampleCore) (start Table.empty) state →
      ∀ (event : PaymentFailed) (row : Payment) (now : Nat),
        DBHelper.getPayment state.payments event.paymentHash .btcLn =
          some row →
        row.status ≠ some .paid →
        NodeSupervisor.FailureRecorded sampleCore.transformForUser
          state.payments event now := by
  intro claim
  have columns : (Runs.exec (step sampleCore) (start Table.empty)
      [.signatureSent (some [⟨.inwards, "other", 1000⟩]) 1]).bind
        (fun state =>
          (DBHelper.getPayment state.payments "other" .btcLn).map
            (fun row => (row.status, row.invoiceId))) =
      some (some .pending, none) := by
    decide
  obtain ⟨state, run, stored⟩ := Option.bind_eq_some_iff.mp columns
  obtain ⟨row, found, shape⟩ := Option.map_eq_some_iff.mp stored
  simp only [Prod.mk.injEq] at shape
  have recorded := claim state ⟨_, run⟩ ⟨"other", []⟩ row 2 found
    (by simp [shape.1])
  have thrown := recorded.1
  simp [NodeSupervisor.onPaymentFailed, found, shape.2] at thrown

end LightningState

end EclairWallet
