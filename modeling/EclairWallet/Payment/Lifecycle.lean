import EclairWallet.Payment.RealFees

/-!
# The lifecycle of a lightning payment

A payment is stored, pending, failed, paid.  Nothing but a success of its hash
makes a row paid, in any interleaving of send screens, their bodies and the
supervisor.  When each body finds the row that its check read, a row is never
removed either: it keeps its identity, and its status only advances.
-/

namespace EclairWallet

open JavaCase (DefaultLocale)

/-! ## Rows over time -/

namespace Payment

/-- How far a payment has come. -/
def progress (payment : Payment) : Nat :=
  match payment.status with
  | none => 0
  | some .init => 0
  | some .pending => 1
  | some .failed => 2
  | some .paid => 3

/-- A later version of a row: what identifies the payment is the same, and its
status is not taken back. -/
structure Continues (row later : Payment) : Prop where
  id : later.id = row.id
  type : later.type = row.type
  direction : later.direction = row.direction
  reference : later.reference = row.reference
  recipient : later.recipient = row.recipient
  paymentRequest : later.paymentRequest = row.paymentRequest
  created : later.created = row.created
  progress : row.progress ≤ later.progress

namespace Continues

theorem refl (row : Payment) : row.Continues row :=
  ⟨rfl, rfl, rfl, rfl, rfl, rfl, rfl, Nat.le_refl _⟩

theorem trans {first second third : Payment}
    (left : first.Continues second) (right : second.Continues third) :
    first.Continues third where
  id := right.id.trans left.id
  type := right.type.trans left.type
  direction := right.direction.trans left.direction
  reference := right.reference.trans left.reference
  recipient := right.recipient.trans left.recipient
  paymentRequest := right.paymentRequest.trans left.paymentRequest
  created := right.created.trans left.created
  progress := left.progress.trans right.progress

end Continues

theorem progress_le (payment : Payment) : payment.progress ≤ 3 := by
  unfold progress
  split <;> omega

theorem progress_eq_three_iff {payment : Payment} :
    payment.progress = 3 ↔ payment.status = some .paid := by
  unfold progress
  split <;> simp_all

end Payment

/-- Every row of the first table has a later version in the second. -/
def Advances (before after : Table Payment) : Prop :=
  ∀ row ∈ before.rows, ∃ later ∈ after.rows, row.Continues later

namespace Advances

theorem refl (payments : Table Payment) : Advances payments payments :=
  fun row member => ⟨row, member, Payment.Continues.refl row⟩

theorem trans {first second third : Table Payment}
    (left : Advances first second) (right : Advances second third) :
    Advances first third := by
  intro row member
  obtain ⟨middle, middleMember, toMiddle⟩ := left row member
  obtain ⟨later, laterMember, toLater⟩ := right middle middleMember
  exact ⟨later, laterMember, toMiddle.trans toLater⟩

theorem writeBack {payments : Table Payment} {reference : String}
    {type : PaymentType} {p q : Payment}
    (found : DBHelper.getPayment payments reference type = some p)
    (continues : p.Continues q) :
    Advances payments (DBHelper.insertOrUpdatePayment payments q) := by
  intro row member
  by_cases same : (row.type, row.reference) = (type, reference)
  · have read : DBHelper.getPayment payments reference type = some row := by
      apply DBHelper.getPayment_eq_some_iff.mpr
      simpa [member] using same
    have rowIs : row = p := by simpa [found] using read.symm
    subst row
    have stored := DBHelper.getPayment_writeBack found continues.id
      continues.type continues.reference
    exact ⟨q, (DBHelper.getPayment_eq_some_iff.mp stored).1, continues⟩
  · have kept := DBHelper.mem_writeBack_iff found continues.id continues.type
      continues.reference same
    exact ⟨row, kept.mpr member, Payment.Continues.refl row⟩

theorem insertNew {payments : Table Payment} {p : Payment}
    (new : p.id = none)
    (unknown : DBHelper.getPayment payments p.reference p.type = none) :
    Advances payments (DBHelper.insertOrUpdatePayment payments p) := by
  intro row member
  refine ⟨row, ?_, Payment.Continues.refl row⟩
  apply Table.mem_insertOrReplace_iff.mpr
  refine .inr ⟨member, ?_⟩
  intro conflicts
  rcases conflicts with samePrimary | sameUnique
  · exact Table.primary_ne_assigned_of_new new member samePrimary
  · exact Table.find?_eq_none_iff.mp unknown row member sameUnique

theorem paid {before after : Table Payment} (advances : Advances before after)
    {row : Payment} (member : row ∈ before.rows)
    (paid : row.status = some .paid) :
    ∃ later ∈ after.rows, row.Continues later ∧ later.status = some .paid := by
  obtain ⟨later, laterMember, continues⟩ := advances row member
  have atLeast : 3 ≤ later.progress := by
    rw [← Payment.progress_eq_three_iff.mpr paid]
    exact continues.progress
  have atMost := later.progress_le
  have laterPaid : later.status = some .paid :=
    Payment.progress_eq_three_iff.mp (by omega)
  exact ⟨later, laterMember, continues, laterPaid⟩

end Advances

theorem Payment.saved_eq_self {payments : Table Payment} {p : Payment}
    (known : p.id ≠ none) : payments.saved p = p := by
  obtain ⟨id, primary⟩ := Option.ne_none_iff_exists'.mp known
  rw [saved_eq, payments.assigned_of_primary primary, ← primary]

theorem DBHelper.saved_eq_self {payments : Table Payment}
    {reference : String} {type : PaymentType} {p q : Payment}
    (found : getPayment payments reference type = some p)
    (sameId : q.id = p.id) : payments.saved q = q := by
  apply Payment.saved_eq_self
  rw [sameId]
  exact payments.stored p (getPayment_eq_some_iff.mp found).1

namespace NodeSupervisor

variable {payments : Table Payment}

theorem handleHtlc_advances (payments : Table Payment) (h : DirectedHtlc)
    (now : Nat) : Advances payments (handleHtlc payments h now).1 := by
  unfold handleHtlc
  split
  · rename_i p found
    split
    · rename_i init
      simp only [DBHelper.updatePaymentPending, init]
      apply Advances.writeBack found
      constructor <;> simp [Payment.progress, init]
    · exact Advances.refl payments
  · rename_i unknown
    exact Advances.insertNew rfl unknown

theorem handleHtlcs_advances (payments : Table Payment) (now : Nat)
    (htlcs : List DirectedHtlc) :
    Advances payments (handleHtlcs payments now htlcs).1 := by
  induction htlcs generalizing payments with
  | nil => exact Advances.refl payments
  | cons h htlcs induction =>
      have first := handleHtlc_advances payments h now
      have rest := induction (handleHtlc payments h now).1
      exact first.trans rest

theorem onChannelSignatureSent_advances (payments : Table Payment)
    (nextRemoteCommit : Option (List DirectedHtlc)) (now : Nat) :
    Advances payments
      (onChannelSignatureSent payments nextRemoteCommit now).state := by
  cases nextRemoteCommit with
  | none => exact Advances.refl payments
  | some htlcs => exact handleHtlcs_advances payments now htlcs

theorem onPaymentFailed_advances
    (transformForUser : List PaymentFailure → List PaymentFailure)
    (payments : Table Payment) (event : PaymentFailed) (now : Nat) :
    Advances payments
      (onPaymentFailed transformForUser payments event now).state := by
  unfold onPaymentFailed
  split
  · rename_i paymentInDB found
    split
    · exact Advances.refl payments
    · split
      · exact Advances.refl payments
      · simp only [DBHelper.updatePaymentFailed]
        split
        · rename_i unpaid
          apply Advances.writeBack found
          have notYet : paymentInDB.progress ≠ 3 :=
            fun full => unpaid (Payment.progress_eq_three_iff.mp full)
          have atMost := paymentInDB.progress_le
          have toFailed : paymentInDB.progress ≤ 2 := by omega
          constructor <;> first | rfl | exact toFailed
        · exact Advances.refl payments
  · exact Advances.refl payments

/-- The row a success leaves of the row it finds. -/
def paidBy (event : PaymentSucceeded) (now : Nat) (p : Payment) : Payment :=
  { p with
    preimage := some event.paymentPreimage
    amountPaidMsat := event.amountMsat
    feesPaidMsat := event.amountMsat - p.amountSentMsat
    status := some .paid
    updated := some now }

theorem onPaymentSucceeded_advances (payments : Table Payment)
    (event : PaymentSucceeded) (now : Nat) :
    Advances payments (onPaymentSucceeded payments event now).state := by
  unfold onPaymentSucceeded
  split
  · rename_i p found
    apply Advances.writeBack found
    constructor <;> first | rfl | exact p.progress_le
  · exact Advances.refl payments

/-- A row that is paid after a success was a row before it, or is the row of
the hash as the success leaves it. -/
theorem onPaymentSucceeded_explained {event : PaymentSucceeded} {now : Nat}
    {row : Payment}
    (member : row ∈ (onPaymentSucceeded payments event now).state.rows) :
    row ∈ payments.rows ∨
      ∃ p, DBHelper.getPayment payments event.paymentHash .btcLn = some p ∧
        row = paidBy event now p := by
  unfold onPaymentSucceeded at member
  split at member
  · rename_i p found
    rcases Table.mem_insertOrReplace_iff.mp member with saved | ⟨old, _⟩
    · refine .inr ⟨p, found, ?_⟩
      rw [saved]
      exact DBHelper.saved_eq_self found rfl
    · exact .inl old
  · exact .inl member

end NodeSupervisor

/-! ## Where paid rows come from -/

/-- What a row is about, and what settled it. -/
structure Settlement where
  id : Option Nat
  type : PaymentType
  direction : PaymentDirection
  reference : String
  preimage : Option String
  amountPaidMsat : Int
  feesPaidMsat : Int
  deriving DecidableEq, Repr

def Payment.settlement (p : Payment) : Settlement where
  id := p.id
  type := p.type
  direction := p.direction
  reference := p.reference
  preimage := p.preimage
  amountPaidMsat := p.amountPaidMsat
  feesPaidMsat := p.feesPaidMsat

/-- The session hands out one object for a row as long as somebody holds it.
So the object that a body holds becomes what the row is now; and the failure
of a paid payment describes its object anew, though it stores nothing. -/
inductive SessionEvent where
  | own (event : LightningEvent)
  | shares (body : Nat)
  | describe (paymentHash : String) (description : Option String)

namespace LightningState

/-- The row with the primary key of the object, if it is still there. -/
def share (state : LightningState) (index : Nat) (body : SendBody) :
    Option LightningState :=
  body.p.bind (fun p =>
    (state.payments.rows.find? (fun row => row.id = p.id)).map (fun row =>
      { state with
        bodies := state.bodies.set index { body with p := some row } }))

def describe (state : LightningState) (paymentHash : String)
    (description : Option String) : LightningState :=
  match DBHelper.getPayment state.payments paymentHash .btcLn with
  | some p =>
      { state with
        payments := DBHelper.insertOrUpdatePayment state.payments
          { p with description := description } }
  | none => state

def sessionStep (core : EclairCore) (state : LightningState) :
    SessionEvent → Option LightningState
  | .own event => step core state event
  | .shares index => (state.bodies[index]?).bind (state.share index)
  | .describe paymentHash description =>
      some (state.describe paymentHash description)

variable {core : EclairCore} {state next : LightningState}
  {event : LightningEvent} {settled : Settlement}

/-- A row, or an object that a body holds. -/
def Held (state : LightningState) (p : Payment) : Prop :=
  p ∈ state.payments.rows ∨ ∃ body ∈ state.bodies, body.p = some p

def PaidAs (settled : Settlement) (state : LightningState) : Prop :=
  ∃ p, state.Held p ∧ p.status = some .paid ∧ p.settlement = settled

/-- The invariant: the objects that bodies hold were read from rows. -/
def Attached (state : LightningState) : Prop :=
  ∀ body ∈ state.bodies, ∀ p, body.p = some p → p.id ≠ none

/-- The event is a success that settles a row so. -/
def Settles (settled : Settlement) (state : LightningState) :
    SessionEvent → Prop
  | .own (.paymentSucceeded event now) => ∃ p,
      DBHelper.getPayment state.payments event.paymentHash .btcLn = some p ∧
        settled = (NodeSupervisor.paidBy event now p).settlement
  | _ => False

/-! ### Bodies -/

/-- What a body holds after a step, it held before, or has just read from a
row that is not paid. -/
theorem body_explained (result : step core state event = some next)
    {body : SendBody} (member : body ∈ next.bodies) {p : Payment}
    (read : body.p = some p) :
    (∃ before ∈ state.bodies, before.p = some p) ∨
      p ∈ state.payments.rows ∧ p.status ≠ some .paid := by
  have kept : ∀ index body phase, state.bodies[index]? = some body →
      ∀ other ∈ state.bodies.set index { body with phase := phase },
        ∃ before ∈ state.bodies, before.p = other.p := by
    intro index body phase found
    exact forall_set_phase (fun body member => ⟨body, member, rfl⟩) id found
  cases steps_of_step result with
  | openScreen invoiceAsString goToFrag notification channels sufficient =>
      rw [(openScreen_frame core state invoiceAsString goToFrag notification
        channels sufficient).2] at member
      exact .inl ⟨body, member, read⟩
  | @sendLNPayment index screen amountMsat found =>
      unfold send at member
      split at member
      · exact .inl ⟨body, member, read⟩
      · rename_i passed
        rcases List.mem_append.mp member with old | new
        · exact .inl ⟨body, old, read⟩
        · obtain rfl := List.mem_singleton.mp new
          refine .inr ⟨(DBHelper.getPayment_eq_some_iff.mp read).1, ?_⟩
          exact (SendPaymentActivity.sendError_eq_none_iff.mp passed p
            read).1
  | storeBody now found queued =>
      obtain ⟨before, old, same⟩ := kept _ _ _ found body member
      exact .inl ⟨before, old, same.trans read⟩
  | executeBody found stored =>
      obtain ⟨before, old, same⟩ := kept _ _ _ found body member
      exact .inl ⟨before, old, same.trans read⟩
  | signatureSent nextRemoteCommit now => exact .inl ⟨body, member, read⟩
  | paymentFailed event now => exact .inl ⟨body, member, read⟩
  | paymentSucceeded event now => exact .inl ⟨body, member, read⟩

theorem Attached.step (attached : state.Attached)
    (result : step core state event = some next) : next.Attached := by
  intro body member p read
  rcases body_explained result member read with
    ⟨before, old, same⟩ | ⟨row, _⟩
  · exact attached before old p same
  · exact state.payments.stored p row

theorem share_cases {index : Nat} {body : SendBody}
    (result : state.share index body = some next) :
    ∃ row ∈ state.payments.rows, next = { state with
      bodies := state.bodies.set index { body with p := some row } } := by
  obtain ⟨p, _, shared⟩ := Option.bind_eq_some_iff.mp result
  obtain ⟨row, found, rfl⟩ := Option.map_eq_some_iff.mp shared
  exact ⟨row, List.mem_of_find?_eq_some found, rfl⟩

theorem attached_sessionStep {event : SessionEvent}
    (attached : state.Attached)
    (result : sessionStep core state event = some next) : next.Attached := by
  cases event with
  | own event => exact attached.step result
  | shares index =>
      obtain ⟨body, _, shared⟩ := Option.bind_eq_some_iff.mp result
      obtain ⟨row, inTable, rfl⟩ := share_cases shared
      intro other member p read
      rcases List.mem_or_eq_of_mem_set member with old | rfl
      · exact attached other old p read
      · obtain rfl := Option.some.inj read
        exact state.payments.stored _ inTable
  | describe paymentHash description =>
      cases result
      have same : (state.describe paymentHash description).bodies =
          state.bodies := by
        unfold describe
        split <;> rfl
      intro body member
      rw [same] at member
      exact attached body member

/-! ### Rows -/

theorem stored_settled (attached : state.Attached) {body : SendBody}
    (inBodies : body ∈ state.bodies) (locale : DefaultLocale) (now : Nat)
    (paid : (body.stored locale now).status = some .paid) :
    PaidAs (state.payments.saved (body.stored locale now)).settlement
      state := by
  cases read : body.p with
  | none =>
      simp [SendBody.stored, SendPaymentActivity.storedPayment,
        SendPaymentActivity.newPayment, read] at paid
  | some p =>
      have known := attached body inBodies p read
      have stored : body.stored locale now =
          { p with
            amountSentMsat := body.amountMsat
            updated := some now } := by
        simp [SendBody.stored, SendPaymentActivity.storedPayment, read]
      have sameId : (body.stored locale now).id = p.id := by rw [stored]
      rw [Payment.saved_eq_self (sameId ▸ known)]
      rw [stored] at paid ⊢
      exact ⟨p, .inr ⟨body, inBodies, read⟩, paid, rfl⟩

/-- A row that is paid after a step was settled so before it, or the step
settles it. -/
theorem row_explained (attached : state.Attached)
    (result : step core state event = some next) {row : Payment}
    (member : row ∈ next.payments.rows) (paid : row.status = some .paid) :
    PaidAs row.settlement state ∨
      Settles row.settlement state (.own event) := by
  have old : row ∈ state.payments.rows → PaidAs row.settlement state :=
    fun inTable => ⟨row, .inl inTable, paid, rfl⟩
  cases steps_of_step result with
  | openScreen invoiceAsString goToFrag notification channels sufficient =>
      rw [(openScreen_frame core state invoiceAsString goToFrag notification
        channels sufficient).1] at member
      exact .inl (old member)
  | sendLNPayment amountMsat found =>
      rw [send_payments] at member
      exact .inl (old member)
  | @storeBody index body now found queued =>
      left
      rcases Table.mem_insertOrReplace_iff.mp member with new | ⟨before, _⟩
      · subst row
        exact stored_settled attached (List.mem_of_getElem? found)
          core.locale now paid
      · exact old before
  | executeBody found stored => exact .inl (old member)
  | signatureSent nextRemoteCommit now =>
      cases nextRemoteCommit with
      | none => exact .inl (old member)
      | some htlcs =>
          exact .inl (old (NodeSupervisor.handleHtlcs_noneBecomesPaid
            state.payments now htlcs row member paid))
  | paymentFailed event now =>
      exact .inl (old (NodeSupervisor.onPaymentFailed_noneBecomesPaid
        core.transformForUser state.payments event now row member paid))
  | paymentSucceeded event now =>
      rcases NodeSupervisor.onPaymentSucceeded_explained member with
        before | ⟨p, found, rowIs⟩
      · exact .inl (old before)
      · exact .inr ⟨p, found, by rw [rowIs]⟩

theorem describe_settled {paymentHash : String} {description : Option String}
    {row : Payment}
    (member : row ∈ (state.describe paymentHash description).payments.rows)
    (paid : row.status = some .paid) :
    PaidAs row.settlement state := by
  unfold describe at member
  split at member
  · rename_i p found
    rcases Table.mem_insertOrReplace_iff.mp member with new | ⟨before, _⟩
    · obtain rfl := new.trans (DBHelper.saved_eq_self found rfl)
      exact ⟨p, .inl (DBHelper.getPayment_eq_some_iff.mp found).1, paid, rfl⟩
    · exact ⟨row, .inl before, paid, rfl⟩
  · exact ⟨row, .inl member, paid, rfl⟩

/-- Step lemma: what is paid after a step was settled so before it, or the
step settles it. -/
theorem paid_explained {event : SessionEvent} (attached : state.Attached)
    (result : sessionStep core state event = some next)
    (paidAs : PaidAs settled next) :
    PaidAs settled state ∨ Settles settled state event := by
  obtain ⟨p, held, paid, rfl⟩ := paidAs
  cases event with
  | own event =>
      rcases held with row | ⟨body, member, read⟩
      · exact row_explained attached result row paid
      · rcases body_explained result member read with
          ⟨before, old, same⟩ | ⟨_, unpaid⟩
        · exact .inl ⟨p, .inr ⟨before, old, same⟩, paid, rfl⟩
        · exact absurd paid unpaid
  | shares index =>
      left
      obtain ⟨body, _, shared⟩ := Option.bind_eq_some_iff.mp result
      obtain ⟨row, inTable, rfl⟩ := share_cases shared
      rcases held with before | ⟨other, member, read⟩
      · exact ⟨p, .inl before, paid, rfl⟩
      · rcases List.mem_or_eq_of_mem_set member with old | rfl
        · exact ⟨p, .inr ⟨other, old, read⟩, paid, rfl⟩
        · obtain rfl := Option.some.inj read
          exact ⟨_, .inl inTable, paid, rfl⟩
  | describe paymentHash description =>
      left
      cases result
      rcases held with row | ⟨body, member, read⟩
      · exact describe_settled row paid
      · have same : (state.describe paymentHash description).bodies =
            state.bodies := by
          unfold describe
          split <;> rfl
        rw [same] at member
        exact ⟨p, .inr ⟨body, member, read⟩, paid, rfl⟩

/-- Somewhere in the run a success was handled that found the row of its hash
and settled it so. -/
def SuccessHandled (core : EclairCore) (payments : Table Payment)
    (events : List SessionEvent) (settled : Settlement) : Prop :=
  ∃ first success now rest before p,
    events = first ++ .own (.paymentSucceeded success now) :: rest ∧
      Runs.exec (sessionStep core) (start payments) first = some before ∧
      DBHelper.getPayment before.payments success.paymentHash .btcLn =
        some p ∧
      settled = (NodeSupervisor.paidBy success now p).settlement

/-- Every paid row was settled as it is at the start, or by a success of its
hash handled in the run: with the preimage and the amount the node reported,
and that amount less what was sent as the fees. -/
theorem paid_has_success {core : EclairCore} {payments : Table Payment}
    {events : List SessionEvent} {finish : LightningState}
    (run : Runs.exec (sessionStep core) (start payments) events = some finish)
    {row : Payment} (member : row ∈ finish.payments.rows)
    (paid : row.status = some .paid) :
    (∃ old ∈ payments.rows, old.status = some .paid ∧
        old.settlement = row.settlement) ∨
      SuccessHandled core payments events row.settlement := by
  have preserved : ∀ state event next, Attached state →
      sessionStep core state event = some next → Attached next :=
    fun _ _ _ attached result => attached_sessionStep attached result
  have explained : ∀ state event next, Attached state →
      sessionStep core state event = some next →
      PaidAs row.settlement next →
      PaidAs row.settlement state ∨ Settles row.settlement state event :=
    fun _ _ _ attached result paidAs =>
      paid_explained attached result paidAs
  have initially : (start payments).Attached := by
    intro body member
    cases member
  have origin := Runs.exists_origin preserved explained initially run
    ⟨row, .inl member, paid, rfl⟩
  rcases origin with ⟨old, inTable | ⟨body, inBodies, _⟩, oldPaid, same⟩ |
    ⟨first, event, rest, before, split, firstRun, settles⟩
  · exact .inl ⟨old, inTable, oldPaid, same⟩
  · cases inBodies
  · cases event with
    | own event =>
        cases event with
        | paymentSucceeded success now =>
            obtain ⟨p, found, settlement⟩ := settles
            exact .inr ⟨first, success, now, rest, before, p, split, firstRun,
              found, settlement⟩
        | _ => exact settles.elim
    | _ => exact settles.elim

/-- An invoice is sent and fails. -/
def failed : List LightningEvent :=
  [.openScreen "lntb1" "home" "" 1 true,
    .sendLNPayment 0 1000,
    .storeBody 0 1,
    .executeBody 0,
    .signatureSent (some [⟨.inwards, "hash", 1000⟩]) 2,
    .paymentFailed ⟨"hash", []⟩ 3]

/-- It is sent again from another screen and paid. -/
def failedThenPaid : List LightningEvent :=
  failed ++
    [.openScreen "lntb1" "home" "" 1 true,
      .sendLNPayment 1 1000,
      .storeBody 1 4,
      .executeBody 1,
      .paymentSucceeded ⟨1010, "hash", "preimage"⟩ 5]

/-- A third body has read the failed row, which it shares, and stores it with
another amount once it is paid. -/
def paidThenShared : List SessionEvent :=
  failed.map .own ++
    [.own (.openScreen "lntb1" "home" "" 1 true),
      .own (.openScreen "lntb1" "home" "" 1 true),
      .own (.sendLNPayment 1 1000),
      .own (.sendLNPayment 2 2000),
      .own (.storeBody 1 4),
      .own (.executeBody 1),
      .own (.paymentSucceeded ⟨1010, "hash", "preimage"⟩ 5),
      .shares 2,
      .own (.storeBody 2 6)]

theorem paidThenShared_has_success :
    ∃ row : Payment, row.status = some .paid ∧ row.amountSentMsat = 2000 ∧
      SuccessHandled sampleCore Table.empty paidThenShared
        row.settlement := by
  have statuses : (Runs.exec (sessionStep sampleCore) (start Table.empty)
      paidThenShared).map (fun state => state.payments.rows.map (fun row =>
        (row.status, row.amountSentMsat))) = some [(some .paid, 2000)] := by
    decide
  obtain ⟨finish, run, rows⟩ := Option.map_eq_some_iff.mp statuses
  have one : (some PaymentStatus.paid, (2000 : Int)) ∈
      finish.payments.rows.map (fun row =>
        (row.status, row.amountSentMsat)) := by
    simp [rows]
  obtain ⟨row, member, columns⟩ := List.mem_map.mp one
  obtain ⟨paid, amount⟩ := Prod.mk.inj columns
  rcases paid_has_success run member paid with ⟨old, inTable, _⟩ | handled
  · simp [Table.empty] at inTable
  · exact ⟨row, paid, amount, handled⟩

/-! ## Rows only advance -/

/-- A body about to store finds the row its check read, or still none. -/
def Fresh (state : LightningState) : LightningEvent → Prop
  | .storeBody index _ => ∀ body, state.bodies[index]? = some body →
      DBHelper.getPayment state.payments body.paymentHash .btcLn = body.p
  | _ => True

instance (state : LightningState) :
    (event : LightningEvent) → Decidable (state.Fresh event)
  | .storeBody index _ =>
      decidable_of_iff (∀ body ∈ (state.bodies[index]?).toList,
        DBHelper.getPayment state.payments body.paymentHash .btcLn = body.p)
        (by simp [Fresh])
  | .openScreen .. => .isTrue trivial
  | .sendLNPayment .. => .isTrue trivial
  | .executeBody _ => .isTrue trivial
  | .signatureSent .. => .isTrue trivial
  | .paymentFailed .. => .isTrue trivial
  | .paymentSucceeded .. => .isTrue trivial

theorem storeBody_advances (locale : DefaultLocale) {body : SendBody}
    {now : Nat}
    (fresh : DBHelper.getPayment state.payments body.paymentHash .btcLn =
      body.p) :
    Advances state.payments
      (DBHelper.insertOrUpdatePayment state.payments
        (body.stored locale now)) := by
  cases read : body.p with
  | none =>
      have stored : body.stored locale now =
          SendPaymentActivity.newPayment locale body.screen body.amountMsat
            now := by
        simp [SendBody.stored, SendPaymentActivity.storedPayment, read]
      rw [stored]
      apply Advances.insertNew rfl
      exact fresh.trans read
  | some p =>
      apply Advances.writeBack (fresh.trans read)
      simp only [SendBody.stored, SendPaymentActivity.storedPayment, read]
      constructor <;> rfl

theorem advances_of_fresh (fresh : state.Fresh event)
    (result : step core state event = some next) :
    Advances state.payments next.payments := by
  cases steps_of_step result with
  | openScreen invoiceAsString goToFrag notification channels sufficient =>
      rw [(openScreen_frame core state invoiceAsString goToFrag notification
        channels sufficient).1]
      exact Advances.refl state.payments
  | sendLNPayment amountMsat found =>
      rw [send_payments]
      exact Advances.refl state.payments
  | storeBody now found queued =>
      exact storeBody_advances core.locale (fresh _ found)
  | executeBody found stored => exact Advances.refl state.payments
  | signatureSent nextRemoteCommit now =>
      exact NodeSupervisor.onChannelSignatureSent_advances state.payments
        nextRemoteCommit now
  | paymentFailed event now =>
      exact NodeSupervisor.onPaymentFailed_advances core.transformForUser
        state.payments event now
  | paymentSucceeded event now =>
      exact NodeSupervisor.onPaymentSucceeded_advances state.payments event
        now

/-- In a run whose bodies store onto the row their check read, every row has a
later version in every later state: none is removed, none changes what it is
about, and no status is taken back. -/
theorem rows_advance {core : EclairCore} {payments : Table Payment}
    {events : List LightningEvent}
    (fresh : Runs.StepsMeet (step core) Fresh (start payments) events) :
    Runs.Throughout (step core)
      (fun earlier later => Advances earlier.payments later.payments)
      (start payments) events := by
  have refl : ∀ state : LightningState,
      Advances state.payments state.payments :=
    fun state => Advances.refl state.payments
  have trans : ∀ first second third : LightningState,
      Advances first.payments second.payments →
      Advances second.payments third.payments →
      Advances first.payments third.payments :=
    fun _ _ _ left right => left.trans right
  have inside : ∀ state event next, True → Fresh state event →
      step core state event = some next →
      Advances state.payments next.payments :=
    fun _ _ _ _ fresh result => advances_of_fresh fresh result
  exact Runs.throughout_of_stepsMeet refl trans (fun _ _ _ _ _ => trivial)
    inside trivial fresh

theorem failedThenPaid_rows_advance :
    Runs.Throughout (step sampleCore)
      (fun earlier later => Advances earlier.payments later.payments)
      (start Table.empty) failedThenPaid :=
  rows_advance (by decide)

end LightningState

end EclairWallet
