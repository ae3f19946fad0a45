import EclairWallet.Payment.Lightning

/-!
# Paid payments

A paid row holds the proof of payment.  The supervisor's handlers never take
it away; the asynchronous body of `sendLNPayment` writes the entity its check
read, however old, and replaces every row that shares a key with it.
-/

namespace EclairWallet

open JavaCase (DefaultLocale)

/-- The lightning row of this payment hash is paid with this preimage. -/
def PaidWith (payments : Table Payment) (paymentHash : String)
    (preimage : Option String) : Prop :=
  ∃ row, DBHelper.getPayment payments paymentHash .btcLn = some row ∧
    row.status = some .paid ∧ row.preimage = preimage

/-- What is paid in the first table is paid alike in the second. -/
def PaidKept (before after : Table Payment) : Prop :=
  ∀ paymentHash preimage, PaidWith before paymentHash preimage →
    PaidWith after paymentHash preimage

/-- Writing `p` removes no paid lightning row. -/
def SparesPaid (payments : Table Payment) (p : Payment) : Prop :=
  ∀ row ∈ payments.rows, row.type = .btcLn → row.status = some .paid →
    ¬ payments.Conflicts p row

namespace PaidKept

theorem refl (payments : Table Payment) : PaidKept payments payments :=
  fun _ _ paid => paid

theorem trans {first second third : Table Payment}
    (left : PaidKept first second) (right : PaidKept second third) :
    PaidKept first third :=
  fun paymentHash preimage paid =>
    right paymentHash preimage (left paymentHash preimage paid)

/-- An unpaid entity keeps the paid rows exactly when it conflicts with
none. -/
theorem insert_iff {payments : Table Payment} {p : Payment}
    (unpaid : p.status ≠ some .paid) :
    PaidKept payments (DBHelper.insertOrUpdatePayment payments p) ↔
      SparesPaid payments p := by
  constructor
  · intro kept row member lightning paid conflicts
    have before : PaidWith payments row.reference row.preimage :=
      ⟨row, DBHelper.getPayment_eq_some_iff.mpr ⟨member, lightning, rfl⟩,
        paid, rfl⟩
    obtain ⟨after, found, afterPaid, _⟩ := kept _ _ before
    obtain ⟨afterMember, afterLightning, sameReference⟩ :=
      DBHelper.getPayment_eq_some_iff.mp found
    rcases Table.mem_insertOrReplace_iff.mp afterMember with new | ⟨old, spared⟩
    · subst after
      exact unpaid afterPaid
    · have same : after = row := by
        apply Table.eq_of_unique old member
        simp [afterLightning, lightning, sameReference]
      subst after
      exact spared conflicts
  · intro spares paymentHash preimage given
    obtain ⟨row, found, paid, samePreimage⟩ := given
    obtain ⟨member, lightning, sameReference⟩ :=
      DBHelper.getPayment_eq_some_iff.mp found
    refine ⟨row, ?_, paid, samePreimage⟩
    apply DBHelper.getPayment_eq_some_iff.mpr
    refine ⟨Table.mem_insertOrReplace_iff.mpr (Or.inr ⟨member, ?_⟩),
      lightning, sameReference⟩
    exact spares row member lightning paid

theorem writeBack {payments : Table Payment} {reference : String}
    {type : PaymentType} {p q : Payment}
    (found : DBHelper.getPayment payments reference type = some p)
    (sameId : q.id = p.id) (sameType : q.type = p.type)
    (sameReference : q.reference = p.reference)
    (unpaid : p.status ≠ some .paid) (stillUnpaid : q.status ≠ some .paid) :
    PaidKept payments (DBHelper.insertOrUpdatePayment payments q) := by
  apply (insert_iff stillUnpaid).mpr
  intro row member _ paid conflicts
  have pMember := (DBHelper.getPayment_eq_some_iff.mp found).1
  obtain ⟨id, primary⟩ := DBHelper.exists_id_of_getPayment found
  have same : row = p := by
    rcases conflicts with samePrimary | sameUnique
    · apply Table.eq_of_primary member pMember
      rw [samePrimary, payments.assigned_of_primary (sameId.trans primary)]
      exact primary.symm
    · apply Table.eq_of_unique member pMember
      rw [sameUnique]
      simp [sameType, sameReference]
  subst row
  exact unpaid paid

theorem insertNew {payments : Table Payment} {p : Payment}
    (new : p.id = none) (unpaid : p.status ≠ some .paid)
    (unknown : DBHelper.getPayment payments p.reference p.type = none) :
    PaidKept payments (DBHelper.insertOrUpdatePayment payments p) := by
  apply (insert_iff unpaid).mpr
  intro row member _ _ given
  rcases given with samePrimary | sameUnique
  · exact Table.primary_ne_assigned_of_new new member samePrimary
  · exact Table.find?_eq_none_iff.mp unknown row member sameUnique

end PaidKept

namespace NodeSupervisor

theorem handleHtlc_paidKept (payments : Table Payment) (h : DirectedHtlc)
    (now : Nat) : PaidKept payments (handleHtlc payments h now).1 := by
  unfold handleHtlc
  split
  · rename_i p found
    split
    · rename_i init
      have unpaid : p.status ≠ some .paid := by simp [init]
      simp only [DBHelper.updatePaymentPending, unpaid, ne_eq,
        not_false_eq_true, if_true]
      refine PaidKept.writeBack found ?_ ?_ ?_ unpaid ?_ <;> simp
    · exact PaidKept.refl payments
  · rename_i unknown
    apply PaidKept.insertNew rfl
    · simp [unknownHtlcPayment]
    · exact unknown

theorem handleHtlcs_paidKept (payments : Table Payment) (now : Nat)
    (htlcs : List DirectedHtlc) :
    PaidKept payments (handleHtlcs payments now htlcs).1 := by
  induction htlcs generalizing payments with
  | nil => exact PaidKept.refl payments
  | cons h htlcs induction =>
      have first := handleHtlc_paidKept payments h now
      have rest := induction (handleHtlc payments h now).1
      exact first.trans rest

theorem onChannelSignatureSent_paidKept (payments : Table Payment)
    (nextRemoteCommit : Option (List DirectedHtlc)) (now : Nat) :
    PaidKept payments
      (onChannelSignatureSent payments nextRemoteCommit now).state := by
  cases nextRemoteCommit with
  | none => exact PaidKept.refl payments
  | some htlcs => exact handleHtlcs_paidKept payments now htlcs

theorem onPaymentFailed_paidKept
    (transformForUser : List PaymentFailure → List PaymentFailure)
    (payments : Table Payment) (event : PaymentFailed) (now : Nat) :
    PaidKept payments
      (onPaymentFailed transformForUser payments event now).state := by
  unfold onPaymentFailed
  split
  · rename_i paymentInDB found
    split
    · exact PaidKept.refl payments
    · split
      · exact PaidKept.refl payments
      · simp only [DBHelper.updatePaymentFailed]
        split
        · rename_i unpaid
          refine PaidKept.writeBack found ?_ ?_ ?_ unpaid ?_ <;> simp
        · exact PaidKept.refl payments
  · exact PaidKept.refl payments

/-- A success keeps the paid rows exactly when it brings the preimage of a
row that is paid already. -/
theorem onPaymentSucceeded_paidKept_iff (payments : Table Payment)
    (event : PaymentSucceeded) (now : Nat) :
    PaidKept payments (onPaymentSucceeded payments event now).state ↔
      ∀ preimage, PaidWith payments event.paymentHash preimage →
        preimage = some event.paymentPreimage := by
  cases found : DBHelper.getPayment payments event.paymentHash .btcLn with
  | none =>
      constructor
      · intro _ preimage given
        obtain ⟨row, paidFound, _⟩ := given
        simp [found] at paidFound
      · intro _
        simpa [onPaymentSucceeded, found] using PaidKept.refl payments
  | some p =>
      have after := DBHelper.getPayment_updatePaymentPaid found
        event.amountMsat (event.amountMsat - p.amountSentMsat)
        event.paymentPreimage now
      simp only [onPaymentSucceeded, found]
      constructor
      · intro kept preimage paid
        obtain ⟨row, rowFound, _, samePreimage⟩ := kept _ _ paid
        simp only [after, Option.some.injEq] at rowFound
        subst row
        exact samePreimage.symm
      · intro same paymentHash preimage given
        obtain ⟨row, paidFound, paid, rfl⟩ := given
        by_cases sameHash : paymentHash = event.paymentHash
        · subst paymentHash
          refine ⟨_, after, rfl, ?_⟩
          exact (same row.preimage ⟨row, paidFound, paid, rfl⟩).symm
        · refine ⟨row, ?_, paid, rfl⟩
          rw [DBHelper.getPayment_updatePaymentPaid_of_ne found]
          · exact paidFound
          · simpa using sameHash

end NodeSupervisor

namespace LightningState

/-- A body about to store its entity conflicts with no paid row, and a success
of a paid row brings its preimage again. -/
def SparesPaid (locale : DefaultLocale) (state : LightningState) :
    LightningEvent → Prop
  | .storeBody index now =>
      ∀ body, state.bodies[index]? = some body → body.phase = .queued →
        EclairWallet.SparesPaid state.payments (body.stored locale now)
  | .paymentSucceeded event _ =>
      ∀ preimage, PaidWith state.payments event.paymentHash preimage →
        preimage = some event.paymentPreimage
  | _ => True

/-- The invariant: every body passed the check of `sendLNPayment`. -/
def BodiesAllowed (state : LightningState) : Prop :=
  ∀ body ∈ state.bodies, SendPaymentActivity.sendError body.p = none

theorem openScreen_frame (core : EclairCore) (state : LightningState)
    (invoiceAsString goToFrag notification : String) (channels : Nat)
    (sufficient : Bool) :
    let opened := state.openScreen core invoiceAsString goToFrag notification
      channels sufficient
    opened.payments = state.payments ∧ opened.bodies = state.bodies := by
  intro opened
  rcases openScreen_cases core state invoiceAsString goToFrag notification
      channels sufficient with same | ⟨screen, _, added⟩
  · simp [opened, same]
  · simp [opened, added]

theorem send_payments (state : LightningState) (screen : Screen)
    (amountMsat : Int) :
    (state.send screen amountMsat).payments = state.payments := by
  unfold send
  split <;> rfl

theorem bodiesAllowed_send (state : LightningState) (screen : Screen)
    (amountMsat : Int) (allowed : state.BodiesAllowed) :
    (state.send screen amountMsat).BodiesAllowed := by
  unfold send
  split
  · exact allowed
  · rename_i passed
    intro body member
    rcases List.mem_append.mp member with old | new
    · exact allowed body old
    · simp only [List.mem_singleton] at new
      subst body
      exact passed

theorem bodiesAllowed_step {core : EclairCore} {state next : LightningState}
    {event : LightningEvent} (allowed : state.BodiesAllowed)
    (result : step core state event = some next) : next.BodiesAllowed := by
  cases steps_of_step result with
  | openScreen invoiceAsString goToFrag notification channels sufficient =>
      unfold BodiesAllowed
      rw [(openScreen_frame core state invoiceAsString goToFrag notification
        channels sufficient).2]
      exact allowed
  | @sendLNPayment index screen amountMsat found =>
      exact bodiesAllowed_send state screen amountMsat allowed
  | storeBody now found queued => exact forall_set_phase allowed id found
  | executeBody found stored => exact forall_set_phase allowed id found
  | signatureSent nextRemoteCommit now => exact allowed
  | paymentFailed event now => exact allowed
  | paymentSucceeded event now => exact allowed

/-- Step lemma: exactly the steps that spare the paid rows keep them. -/
theorem sparesPaid_iff_paidKept {core : EclairCore}
    {state next : LightningState} {event : LightningEvent}
    (allowed : state.BodiesAllowed)
    (result : step core state event = some next) :
    state.SparesPaid core.locale event ↔
      PaidKept state.payments next.payments := by
  cases steps_of_step result with
  | openScreen invoiceAsString goToFrag notification channels sufficient =>
      rw [(openScreen_frame core state invoiceAsString goToFrag notification
        channels sufficient).1]
      simpa [SparesPaid] using PaidKept.refl state.payments
  | @sendLNPayment index screen amountMsat found =>
      rw [send_payments]
      simpa [SparesPaid] using PaidKept.refl state.payments
  | @storeBody index body now found queued =>
      have unpaid : (body.stored core.locale now).status ≠ some .paid :=
        (SendPaymentActivity.storedPayment_status
          (allowed body (List.mem_of_getElem? found)) now).1
      have characterised : PaidKept state.payments
            (DBHelper.insertOrUpdatePayment state.payments
              (body.stored core.locale now)) ↔
          EclairWallet.SparesPaid state.payments
            (body.stored core.locale now) :=
        PaidKept.insert_iff unpaid
      simpa [SparesPaid, found, queued, storeBody] using characterised.symm
  | executeBody found stored =>
      simpa [SparesPaid, executeBody] using PaidKept.refl state.payments
  | signatureSent nextRemoteCommit now =>
      have kept := NodeSupervisor.onChannelSignatureSent_paidKept
        state.payments nextRemoteCommit now
      simpa [SparesPaid] using kept
  | paymentFailed event now =>
      have kept := NodeSupervisor.onPaymentFailed_paidKept
        core.transformForUser state.payments event now
      simpa [SparesPaid, handled] using kept
  | paymentSucceeded event now =>
      exact (NodeSupervisor.onPaymentSucceeded_paidKept_iff
        state.payments event now).symm

theorem sparesPaid_of_step_eq_none {core : EclairCore}
    {state : LightningState} {event : LightningEvent}
    (impossible : step core state event = none) :
    state.SparesPaid core.locale event := by
  cases event with
  | storeBody index now =>
      intro body found queued
      simp [step, found, queued] at impossible
  | paymentSucceeded event now => simp [step] at impossible
  | _ => trivial

/-- What is paid stays paid throughout a run exactly when every step of the
run spares the paid rows. -/
theorem paid_stays_paid_iff (core : EclairCore) (payments : Table Payment)
    (events : List LightningEvent) :
    Runs.Throughout (step core)
        (fun earlier later => PaidKept earlier.payments later.payments)
        (start payments) events ↔
      Runs.StepsMeet (step core) (SparesPaid core.locale) (start payments)
        events := by
  have preserved : ∀ state event next, BodiesAllowed state →
      step core state event = some next → BodiesAllowed next :=
    fun _ _ _ allowed result => bodiesAllowed_step allowed result
  apply Runs.throughout_iff_stepsMeet _ _ preserved
  · intro state event next allowed result
    exact sparesPaid_iff_paidKept allowed result
  · intro state event impossible
    exact sparesPaid_of_step_eq_none impossible
  · simp [BodiesAllowed, start]
  · intro state
    exact PaidKept.refl state.payments
  · intro first second third left right
    exact left.trans right

/-- One invoice on two screens: the first is paid, then the body of the second
stores the entity it made when there was no row. -/
def paidThenStored : List LightningEvent :=
  [.openScreen "lntb1" "" "" 1 true,
    .openScreen "lntb1" "" "" 1 true,
    .sendLNPayment 0 1000,
    .sendLNPayment 1 1000,
    .storeBody 0 1,
    .executeBody 0,
    .signatureSent (some [⟨.inwards, "hash", 1000⟩]) 2,
    .paymentSucceeded ⟨1000, "hash", "preimage"⟩ 3]

theorem paid_row_replaced :
    ¬ ∀ events,
      Runs.Throughout (step sampleCore)
        (fun earlier later => PaidKept earlier.payments later.payments)
        (start Table.empty) events := by
  intro claim
  have paid : (Runs.exec (step sampleCore) (start Table.empty)
      paidThenStored).map (fun state =>
        (DBHelper.getPayment state.payments "hash" .btcLn).map
          (fun row => (row.status, row.preimage))) =
      some (some (some .paid, some "preimage")) := by
    decide
  have replaced : (Runs.exec (step sampleCore) (start Table.empty)
      (paidThenStored ++ [.storeBody 1 4])).map (fun state =>
        (DBHelper.getPayment state.payments "hash" .btcLn).map
          (fun row => row.status)) =
      some (some (some .init)) := by
    decide
  obtain ⟨middle, run, middleRow⟩ := Option.map_eq_some_iff.mp paid
  obtain ⟨finish, fullRun, finishRow⟩ := Option.map_eq_some_iff.mp replaced
  obtain ⟨other, sameRun, lastRun⟩ := Runs.exec_append_eq_some_iff.mp fullRun
  have same : other = middle := by simpa [run] using sameRun.symm
  subst other
  obtain ⟨row, found, columns⟩ := Option.map_eq_some_iff.mp middleRow
  simp only [Prod.mk.injEq] at columns
  have kept := claim (paidThenStored ++ [.storeBody 1 4]) paidThenStored
    [.storeBody 1 4] [] middle finish (by simp) run lastRun
  obtain ⟨last, lastFound, lastPaid, _⟩ :=
    kept "hash" (some "preimage") ⟨row, found, columns.1, columns.2⟩
  simp [lastFound, lastPaid] at finishRow

end LightningState

end EclairWallet
