import EclairWallet.Payment.HtlcsTracked
import EclairWallet.Payment.PaidStaysPaid

/-!
# The fees of a paid payment

A success records as fees what it reports as paid minus the amount sent of the
row.  That amount is the one of the call that stored the row last, which need
not be the attempt that succeeded.  The runs here name the attempt of each
success, and remember for each hash what the row was last stored to send.
-/

namespace EclairWallet

open JavaCase (DefaultLocale)

namespace DBHelper

/-- The amount sent of the lightning row of this hash. -/
def amountSent (payments : Table Payment) (paymentHash : String) :
    Option Int :=
  (getPayment payments paymentHash .btcLn).map Payment.amountSentMsat

theorem amountSent_writeBack {payments : Table Payment}
    {reference : String} {p q : Payment}
    (found : getPayment payments reference .btcLn = some p)
    (sameId : q.id = p.id) (sameType : q.type = p.type)
    (sameReference : q.reference = p.reference)
    (sameAmount : q.amountSentMsat = p.amountSentMsat)
    (paymentHash : String) :
    amountSent (insertOrUpdatePayment payments q) paymentHash =
      amountSent payments paymentHash := by
  by_cases same : paymentHash = reference
  · subst paymentHash
    simp [amountSent, found,
      getPayment_writeBack found sameId sameType sameReference, sameAmount]
  · have other : (PaymentType.btcLn, paymentHash) ≠ (.btcLn, reference) := by
      simpa using same
    rw [amountSent, amountSent,
      getPayment_writeBack_of_ne found sameId sameType sameReference other]

/-- A write leaves the amounts of the other hashes, or removes their rows. -/
theorem amountSent_insert_of_ne {payments : Table Payment} {p : Payment}
    {paymentHash : String} {sent : Int} (other : p.reference ≠ paymentHash)
    (after : amountSent (insertOrUpdatePayment payments p) paymentHash =
      some sent) :
    amountSent payments paymentHash = some sent := by
  obtain ⟨row, found, amount⟩ := Option.map_eq_some_iff.mp after
  obtain ⟨member, lightning, sameHash⟩ := getPayment_eq_some_iff.mp found
  rcases Table.mem_insertOrReplace_iff.mp member with new | ⟨old, _⟩
  · rw [Payment.saved_eq] at new
    subst row
    exact (other sameHash).elim
  · rw [amountSent,
      getPayment_eq_some_iff.mpr ⟨old, lightning, sameHash⟩]
    exact congrArg some amount

end DBHelper

/-- Every paid row of the second table is a row of the first. -/
def NoneBecomesPaid (before after : Table Payment) : Prop :=
  ∀ row ∈ after.rows, row.status = some .paid → row ∈ before.rows

theorem NoneBecomesPaid.insert (payments : Table Payment) {p : Payment}
    (unpaid : p.status ≠ some .paid) :
    NoneBecomesPaid payments (DBHelper.insertOrUpdatePayment payments p) := by
  intro row member paid
  rcases Table.mem_insertOrReplace_iff.mp member with new | ⟨old, _⟩
  · rw [Payment.saved_eq] at new
    subst row
    exact (unpaid paid).elim
  · exact old

namespace NodeSupervisor

variable {payments : Table Payment}

theorem handleHtlc_noneBecomesPaid (payments : Table Payment)
    (h : DirectedHtlc) (now : Nat) :
    NoneBecomesPaid payments (handleHtlc payments h now).1 := by
  unfold handleHtlc
  split
  · rename_i p found
    split
    · rename_i init
      simp only [DBHelper.updatePaymentPending, init]
      apply NoneBecomesPaid.insert
      simp
    · intro row member _
      exact member
  · apply NoneBecomesPaid.insert
    simp [unknownHtlcPayment]

theorem handleHtlcs_noneBecomesPaid (payments : Table Payment) (now : Nat)
    (htlcs : List DirectedHtlc) :
    NoneBecomesPaid payments (handleHtlcs payments now htlcs).1 := by
  induction htlcs generalizing payments with
  | nil =>
      intro row member _
      exact member
  | cons h htlcs induction =>
      intro row member paid
      have middle := induction (handleHtlc payments h now).1 row member paid
      exact handleHtlc_noneBecomesPaid payments h now row middle paid

theorem onPaymentFailed_noneBecomesPaid
    (transformForUser : List PaymentFailure → List PaymentFailure)
    (payments : Table Payment) (event : PaymentFailed) (now : Nat) :
    NoneBecomesPaid payments
      (onPaymentFailed transformForUser payments event now).state := by
  have refl : NoneBecomesPaid payments payments := fun row member _ => member
  unfold onPaymentFailed
  split
  · split
    · exact refl
    · split
      · exact refl
      · simp only [DBHelper.updatePaymentFailed]
        split
        · apply NoneBecomesPaid.insert
          simp
        · exact refl
  · exact refl

theorem amountSent_handleHtlc (payments : Table Payment) (h : DirectedHtlc)
    (now : Nat) (paymentHash : String) :
    DBHelper.amountSent (handleHtlc payments h now).1 paymentHash =
        DBHelper.amountSent payments paymentHash ∨
      (DBHelper.amountSent payments paymentHash = none ∧
        DBHelper.amountSent (handleHtlc payments h now).1 paymentHash =
          some 0) := by
  cases found : DBHelper.getPayment payments h.paymentHash .btcLn with
  | some p =>
      left
      by_cases init : p.status = some .init
      · simp only [handleHtlc, found, init, if_true,
          DBHelper.updatePaymentPending]
        apply DBHelper.amountSent_writeBack found <;> rfl
      · rw [handleHtlc_of_status_ne_init found init]
  | none =>
      by_cases same : paymentHash = h.paymentHash
      · subst paymentHash
        right
        have stored := DBHelper.getPayment_insertOrUpdate_self payments
          (unknownHtlcPayment h now)
        simp only [unknownHtlcPayment] at stored
        simp [DBHelper.amountSent, handleHtlc, found, unknownHtlcPayment,
          stored]
      · left
        have other : (PaymentType.btcLn, paymentHash) ≠
            (.btcLn, h.paymentHash) := by
          simpa using same
        rw [DBHelper.amountSent, getPayment_handleHtlc_of_ne payments now
          other, DBHelper.amountSent]

theorem amountSent_handleHtlcs (payments : Table Payment) (now : Nat)
    (htlcs : List DirectedHtlc) (paymentHash : String) :
    DBHelper.amountSent (handleHtlcs payments now htlcs).1 paymentHash =
        DBHelper.amountSent payments paymentHash ∨
      (DBHelper.amountSent payments paymentHash = none ∧
        DBHelper.amountSent (handleHtlcs payments now htlcs).1 paymentHash =
          some 0) := by
  induction htlcs generalizing payments with
  | nil => exact Or.inl rfl
  | cons h htlcs induction =>
      rw [handleHtlcs_cons]
      have first := amountSent_handleHtlc payments h now paymentHash
      have rest := induction (handleHtlc payments h now).1
      rcases first with kept | ⟨missing, made⟩
      · rwa [kept] at rest
      · rcases rest with kept | ⟨stillMissing, _⟩
        · exact Or.inr ⟨missing, kept.trans made⟩
        · simp [made] at stillMissing

theorem amountSent_onPaymentFailed
    (transformForUser : List PaymentFailure → List PaymentFailure)
    (payments : Table Payment) (event : PaymentFailed) (now : Nat)
    (paymentHash : String) :
    DBHelper.amountSent
        (onPaymentFailed transformForUser payments event now).state
        paymentHash =
      DBHelper.amountSent payments paymentHash := by
  unfold onPaymentFailed
  split
  · rename_i p found
    split
    · rfl
    · split
      · rfl
      · simp only [DBHelper.updatePaymentFailed]
        split
        · apply DBHelper.amountSent_writeBack found <;> rfl
        · rfl
  · rfl

theorem amountSent_onPaymentSucceeded (payments : Table Payment)
    (event : PaymentSucceeded) (now : Nat) (paymentHash : String) :
    DBHelper.amountSent (onPaymentSucceeded payments event now).state
        paymentHash =
      DBHelper.amountSent payments paymentHash := by
  unfold onPaymentSucceeded
  split
  · rename_i p found
    apply DBHelper.amountSent_writeBack found <;> rfl
  · rfl

end NodeSupervisor

/-- An event of the payments, where a success names the body of its
attempt. -/
inductive AttemptEvent where
  | other (event : LightningEvent)
  | succeeded (attempt : Nat) (event : PaymentSucceeded) (now : Nat)

/-- `asked` is the amount the row of a hash was last stored to send. -/
structure AttemptState where
  lightning : LightningState
  asked : String → Option Int

/-- The body was executed for the hash of the success, and asked for no more
than was paid. -/
def SendBody.PaidBy (body : SendBody) (event : PaymentSucceeded) : Prop :=
  body.phase = .executed ∧ body.paymentHash = event.paymentHash ∧
    body.amountMsat ≤ event.amountMsat

instance (body : SendBody) (event : PaymentSucceeded) :
    Decidable (body.PaidBy event) :=
  inferInstanceAs (Decidable (_ ∧ _ ∧ _))

namespace AttemptState

def start (payments : Table Payment) : AttemptState :=
  { lightning := LightningState.start payments, asked := fun _ => none }

/-- A body asks for its amount; a row made for an HTLC asks for nothing. -/
def askedAfter (state : AttemptState) (next : LightningState) :
    LightningEvent → String → Option Int
  | .storeBody index _ =>
      match state.lightning.bodies[index]? with
      | some body =>
          Function.update state.asked body.paymentHash (some body.amountMsat)
      | none => state.asked
  | .signatureSent _ _ => fun paymentHash =>
      if DBHelper.amountSent state.lightning.payments paymentHash = none ∧
          DBHelper.amountSent next.payments paymentHash ≠ none then some 0
      else state.asked paymentHash
  | _ => state.asked

/-- A success happens to an attempt only. -/
def step (core : EclairCore) (state : AttemptState) :
    AttemptEvent → Option AttemptState
  | .other (.paymentSucceeded _ _) => none
  | .other event =>
      (LightningState.step core state.lightning event).map (fun next =>
        { lightning := next, asked := state.askedAfter next event })
  | .succeeded attempt event now =>
      (state.lightning.bodies[attempt]?).bind (fun body =>
        if body.PaidBy event then
          (LightningState.step core state.lightning
            (.paymentSucceeded event now)).map (fun next =>
              { state with lightning := next })
        else none)

/-- A row of a sent payment that is paid after the event was a row before it,
or is the row of the hash that succeeded, and its fees are what was paid above
what the attempt was asked to send. -/
def FeesReal (core : EclairCore) (state : AttemptState)
    (event : AttemptEvent) : Prop :=
  ∀ next row, step core state event = some next →
    row ∈ next.lightning.payments.rows → row.type = .btcLn →
    row.direction = .sent → row.status = some .paid →
    (row ∈ state.lightning.payments.rows ∧
      ∀ attempt success now, event = .succeeded attempt success now →
        success.paymentHash ≠ row.reference) ∨
    ∃ attempt success now body, event = .succeeded attempt success now ∧
      success.paymentHash = row.reference ∧
      state.lightning.bodies[attempt]? = some body ∧
      row.feesPaidMsat = success.amountMsat - body.amountMsat ∧
      0 ≤ row.feesPaidMsat

/-- When an attempt succeeds, the row of its hash, if it is that of a sent
payment, was last stored to send the amount of the attempt. -/
def AskedAlike (state : AttemptState) : AttemptEvent → Prop
  | .succeeded attempt event _ => ∀ body row,
      state.lightning.bodies[attempt]? = some body → body.PaidBy event →
      DBHelper.getPayment state.lightning.payments event.paymentHash .btcLn =
        some row →
      row.direction = .sent →
      state.asked event.paymentHash = some body.amountMsat
  | .other _ => True

/-- The invariant: what is asked is what the rows send, and every body that
was stored has asked. -/
structure Tracked (state : AttemptState) : Prop where
  allowed : state.lightning.BodiesAllowed
  read : ∀ body ∈ state.lightning.bodies, ∀ p, body.p = some p →
    p.type = .btcLn ∧ p.reference = body.paymentHash
  sent : ∀ paymentHash asked sent, state.asked paymentHash = some asked →
    DBHelper.amountSent state.lightning.payments paymentHash = some sent →
    sent = asked
  stored : ∀ body ∈ state.lightning.bodies, body.phase ≠ .queued →
    state.asked body.paymentHash ≠ none

variable {core : EclairCore} {state next : AttemptState}
  {body : SendBody} {now : Nat}

theorem step_other {event : LightningEvent}
    (result : step core state (.other event) = some next) :
    (∀ success now, event ≠ .paymentSucceeded success now) ∧
      LightningState.step core state.lightning event = some next.lightning ∧
      next.asked = state.askedAfter next.lightning event := by
  cases event with
  | paymentSucceeded success now => cases result
  | _ =>
      simp only [step, Option.map_eq_some_iff] at result
      obtain ⟨lightning, happened, rfl⟩ := result
      refine ⟨?_, happened, rfl⟩
      intro success now same
      cases same

theorem step_succeeded_iff {attempt : Nat} {event : PaymentSucceeded} :
    step core state (.succeeded attempt event now) = some next ↔
      ∃ body, state.lightning.bodies[attempt]? = some body ∧
        body.PaidBy event ∧
        next = { state with
          lightning := state.lightning.handled event.paymentHash
            (NodeSupervisor.onPaymentSucceeded state.lightning.payments event
              now) } := by
  simp only [step, LightningState.step, Option.map_some,
    Option.bind_eq_some_iff, Option.ite_none_right_eq_some,
    Option.some.injEq]
  constructor
  · intro given
    obtain ⟨body, found, paid, rfl⟩ := given
    exact ⟨body, found, paid, rfl⟩
  · intro given
    obtain ⟨body, found, paid, rfl⟩ := given
    exact ⟨body, found, paid, rfl⟩

theorem Tracked.stored_keys (tracked : Tracked state)
    (member : body ∈ state.lightning.bodies) (locale : DefaultLocale)
    (now : Nat) :
    (body.stored locale now).type = .btcLn ∧
      (body.stored locale now).reference = body.paymentHash ∧
      (body.stored locale now).amountSentMsat = body.amountMsat := by
  cases read : body.p with
  | none =>
      simp [SendBody.stored, SendPaymentActivity.storedPayment, read,
        SendPaymentActivity.newPayment, SendBody.paymentHash]
  | some p =>
      obtain ⟨lightning, sameHash⟩ := tracked.read body member p read
      simp [SendBody.stored, SendPaymentActivity.storedPayment, read,
        lightning, sameHash]

theorem Tracked.start (payments : Table Payment) :
    Tracked (start payments) := by
  constructor
  · simp [LightningState.BodiesAllowed, AttemptState.start,
      LightningState.start]
  · simp [AttemptState.start, LightningState.start]
  · simp [AttemptState.start]
  · simp [AttemptState.start, LightningState.start]

theorem Tracked.storeBody (tracked : Tracked state) {index : Nat}
    (locale : DefaultLocale) (now : Nat)
    (found : state.lightning.bodies[index]? = some body) :
    Tracked
      { lightning := state.lightning.storeBody locale index body now
        asked := Function.update state.asked body.paymentHash
          (some body.amountMsat) } := by
  have member := List.mem_of_getElem? found
  obtain ⟨lightning, sameHash, amount⟩ := tracked.stored_keys member locale now
  constructor
  · exact LightningState.forall_set_phase tracked.allowed id found
  · exact LightningState.forall_set_phase tracked.read id found
  · intro paymentHash asked sent lastAsked after
    by_cases same : paymentHash = body.paymentHash
    · subst paymentHash
      have stored := DBHelper.getPayment_insertOrUpdate_self
        state.lightning.payments (body.stored locale now)
      rw [lightning, sameHash] at stored
      simp only [LightningState.storeBody, DBHelper.amountSent, stored,
        Option.map_some, amount, Option.some.injEq] at after
      simp only [Function.update_self, Option.some.injEq] at lastAsked
      exact after.symm.trans lastAsked
    · simp only [Function.update_of_ne same] at lastAsked
      apply tracked.sent paymentHash asked sent lastAsked
      apply DBHelper.amountSent_insert_of_ne _ after
      rw [sameHash]
      exact Ne.symm same
  · intro other otherMember ran
    by_cases same : other.paymentHash = body.paymentHash
    · simp [same]
    · simp only [Function.update_of_ne same]
      rcases List.mem_or_eq_of_mem_set otherMember with old | new
      · exact tracked.stored other old ran
      · subst other
        exact (same rfl).elim

theorem Tracked.executeBody (tracked : Tracked state) {index : Nat}
    (found : state.lightning.bodies[index]? = some body)
    (stored : body.phase = .stored) :
    Tracked
      { state with lightning := state.lightning.executeBody index body } := by
  constructor
  · exact LightningState.forall_set_phase tracked.allowed id found
  · exact LightningState.forall_set_phase tracked.read id found
  · exact tracked.sent
  · apply LightningState.forall_set_phase tracked.stored _ found
    intro asked _
    apply asked
    simp [stored]

theorem Tracked.send (tracked : Tracked state) (screen : Screen)
    (amountMsat : Int) :
    Tracked
      { state with lightning := state.lightning.send screen amountMsat } := by
  have bodies : (state.lightning.send screen amountMsat).bodies =
        state.lightning.bodies ∨
      (state.lightning.send screen amountMsat).bodies =
        state.lightning.bodies ++
          [{ screen, amountMsat, p := state.lightning.readRow screen,
             phase := .queued }] := by
    unfold LightningState.send
    split
    · exact Or.inl rfl
    · exact Or.inr rfl
  constructor
  · exact LightningState.bodiesAllowed_send _ screen amountMsat
      tracked.allowed
  · intro body member p read
    rcases bodies with same | added
    · exact tracked.read body (same ▸ member) p read
    · rw [added] at member
      rcases List.mem_append.mp member with old | new
      · exact tracked.read body old p read
      · simp only [List.mem_singleton] at new
        subst body
        exact (DBHelper.getPayment_eq_some_iff.mp read).2
  · rw [LightningState.send_payments]
    exact tracked.sent
  · intro body member ran
    rcases bodies with same | added
    · exact tracked.stored body (same ▸ member) ran
    · rw [added] at member
      rcases List.mem_append.mp member with old | new
      · exact tracked.stored body old ran
      · simp only [List.mem_singleton] at new
        subst body
        exact (ran rfl).elim

/-- The supervisor changes amounts sent only where it makes a row. -/
theorem Tracked.supervised (tracked : Tracked state)
    {lightning : LightningState} {asked : String → Option Int}
    (sameBodies : lightning.bodies = state.lightning.bodies)
    (amounts : ∀ paymentHash,
      asked paymentHash = state.asked paymentHash ∧
          DBHelper.amountSent lightning.payments paymentHash =
            DBHelper.amountSent state.lightning.payments paymentHash ∨
        asked paymentHash = some 0 ∧
          DBHelper.amountSent lightning.payments paymentHash = some 0) :
    Tracked { lightning := lightning, asked := asked } := by
  constructor
  · simpa [LightningState.BodiesAllowed, sameBodies] using tracked.allowed
  · simpa [sameBodies] using tracked.read
  · intro paymentHash last sent lastAsked after
    rcases amounts paymentHash with ⟨kept, sameAmount⟩ | ⟨zero, made⟩
    · apply tracked.sent paymentHash last sent (kept ▸ lastAsked)
      rw [← sameAmount]
      exact after
    · simp only [zero, made, Option.some.injEq] at lastAsked after
      exact after.symm.trans lastAsked
  · intro body member ran
    rcases amounts body.paymentHash with ⟨kept, _⟩ | ⟨zero, _⟩
    · simp only [kept]
      exact tracked.stored body (sameBodies ▸ member) ran
    · simp [zero]

theorem Tracked.step {event : AttemptEvent} (tracked : Tracked state)
    (result : step core state event = some next) : Tracked next := by
  cases event with
  | succeeded attempt event now =>
      obtain ⟨body, _, _, rfl⟩ := step_succeeded_iff.mp result
      refine tracked.supervised ?_ ?_
      · rfl
      intro paymentHash
      exact Or.inl ⟨rfl, NodeSupervisor.amountSent_onPaymentSucceeded
        state.lightning.payments event now paymentHash⟩
  | other event =>
      obtain ⟨noSuccess, happened, asks⟩ := step_other result
      obtain ⟨lightning, asked⟩ := next
      simp only at happened asks
      subst asked
      cases LightningState.steps_of_step happened with
      | openScreen invoiceAsString goToFrag notification channels sufficient =>
          obtain ⟨samePayments, sameBodies⟩ :=
            LightningState.openScreen_frame core state.lightning
              invoiceAsString goToFrag notification channels sufficient
          apply tracked.supervised sameBodies
          intro paymentHash
          exact Or.inl ⟨rfl, by rw [samePayments]⟩
      | @sendLNPayment index screen amountMsat found =>
          exact tracked.send screen amountMsat
      | @storeBody index body now found queued =>
          simp only [askedAfter, found]
          exact tracked.storeBody core.locale now found
      | @executeBody index body found stored =>
          exact tracked.executeBody found stored
      | signatureSent nextRemoteCommit now =>
          refine tracked.supervised ?_ ?_
          · rfl
          intro paymentHash
          cases nextRemoteCommit with
          | none =>
              left
              simp [askedAfter, NodeSupervisor.onChannelSignatureSent]
          | some htlcs =>
              rcases NodeSupervisor.amountSent_handleHtlcs
                  state.lightning.payments now htlcs paymentHash with
                kept | ⟨missing, made⟩
              · left
                refine ⟨?_, kept⟩
                simp [askedAfter, NodeSupervisor.onChannelSignatureSent, kept]
              · right
                refine ⟨?_, made⟩
                simp [askedAfter, NodeSupervisor.onChannelSignatureSent,
                  missing, made]
      | paymentFailed event now =>
          refine tracked.supervised ?_ ?_
          · rfl
          intro paymentHash
          exact Or.inl ⟨rfl, NodeSupervisor.amountSent_onPaymentFailed
            core.transformForUser state.lightning.payments event now
            paymentHash⟩
      | paymentSucceeded event now => exact (noSuccess event now rfl).elim

theorem Tracked.noneBecomesPaid (tracked : Tracked state)
    {event : LightningEvent}
    (result : AttemptState.step core state (.other event) = some next) :
    NoneBecomesPaid state.lightning.payments next.lightning.payments := by
  obtain ⟨noSuccess, happened, _⟩ := step_other result
  have refl : NoneBecomesPaid state.lightning.payments
      state.lightning.payments := fun row member _ => member
  generalize next.lightning = lightning at happened ⊢
  cases LightningState.steps_of_step happened with
  | openScreen invoiceAsString goToFrag notification channels sufficient =>
      rw [(LightningState.openScreen_frame core state.lightning
        invoiceAsString goToFrag notification channels sufficient).1]
      exact refl
  | @sendLNPayment index screen amountMsat found =>
      rw [LightningState.send_payments]
      exact refl
  | @storeBody index body now found queued =>
      apply NoneBecomesPaid.insert
      exact (SendPaymentActivity.storedPayment_status
        (tracked.allowed body (List.mem_of_getElem? found)) now).1
  | executeBody found stored => exact refl
  | signatureSent nextRemoteCommit now =>
      cases nextRemoteCommit with
      | none => exact refl
      | some htlcs =>
          exact NodeSupervisor.handleHtlcs_noneBecomesPaid
            state.lightning.payments now htlcs
  | paymentFailed event now =>
      exact NodeSupervisor.onPaymentFailed_noneBecomesPaid
        core.transformForUser state.lightning.payments event now
  | paymentSucceeded event now => exact (noSuccess event now rfl).elim

theorem Tracked.askedAlike_of_feesReal (tracked : Tracked state)
    {attempt : Nat} {event : PaymentSucceeded} {now : Nat}
    (real : FeesReal core state (.succeeded attempt event now)) :
    state.AskedAlike (.succeeded attempt event now) := by
  intro body row found paid rowFound sentRow
  have result : AttemptState.step core state
      (.succeeded attempt event now) = some _ :=
    step_succeeded_iff.mpr ⟨body, found, paid, rfl⟩
  have written := DBHelper.getPayment_updatePaymentPaid rowFound
    event.amountMsat (event.amountMsat - row.amountSentMsat)
    event.paymentPreimage now
  have sameHash := (DBHelper.getPayment_eq_some_iff.mp rowFound).2.2
  have member := (DBHelper.getPayment_eq_some_iff.mp written).1
  have lightning := (DBHelper.getPayment_eq_some_iff.mp rowFound).2.1
  simp only [NodeSupervisor.onPaymentSucceeded, rowFound] at result
  rcases real _ _ result member lightning sentRow rfl with
    ⟨_, unreported⟩ | ⟨_, _, _, other, ⟨⟩, _, otherFound, fees, _⟩
  · exact (unreported attempt event now rfl sameHash.symm).elim
  · obtain rfl : body = other := by simpa [found] using otherFound
    have ran : body.phase ≠ .queued := by simp [paid.1]
    obtain ⟨asked, lastAsked⟩ := Option.ne_none_iff_exists'.mp
      (tracked.stored body (List.mem_of_getElem? found) ran)
    rw [paid.2.1] at lastAsked
    have sent := tracked.sent _ asked row.amountSentMsat lastAsked
      (by simp [DBHelper.amountSent, rowFound])
    simp only at fees
    rw [lastAsked, Option.some.injEq]
    omega

theorem Tracked.feesReal_of_askedAlike (tracked : Tracked state)
    {attempt : Nat} {event : PaymentSucceeded} {now : Nat}
    (alike : state.AskedAlike (.succeeded attempt event now)) :
    FeesReal core state (.succeeded attempt event now) := by
  intro next row result member lightning sentRow paid
  obtain ⟨body, found, paidBy, rfl⟩ := step_succeeded_iff.mp result
  simp only [LightningState.handled] at member
  cases rowFound : DBHelper.getPayment state.lightning.payments
      event.paymentHash .btcLn with
  | none =>
      simp only [NodeSupervisor.onPaymentSucceeded, rowFound] at member
      left
      refine ⟨member, ?_⟩
      intro _ _ _ given sameHash
      obtain ⟨⟩ := given
      have present := DBHelper.getPayment_eq_some_iff.mpr
        ⟨member, lightning, sameHash.symm⟩
      simp [rowFound] at present
  | some p =>
      simp only [NodeSupervisor.onPaymentSucceeded, rowFound] at member
      by_cases sameHash : event.paymentHash = row.reference
      · right
        have written := DBHelper.getPayment_updatePaymentPaid rowFound
          event.amountMsat (event.amountMsat - p.amountSentMsat)
          event.paymentPreimage now
        have isRow := DBHelper.getPayment_eq_some_iff.mpr
          ⟨member, lightning, sameHash.symm⟩
        rw [written, Option.some.injEq] at isRow
        subst row
        have asked := alike body p found paidBy rowFound sentRow
        have sent := tracked.sent _ _ p.amountSentMsat asked
          (by simp [DBHelper.amountSent, rowFound])
        have enough := paidBy.2.2
        refine ⟨attempt, event, now, body, rfl, sameHash, found, ?_, ?_⟩
        · rw [sent]
        · simp only [sent]
          omega
      · left
        refine ⟨?_, ?_⟩
        · apply (DBHelper.mem_writeBack_iff rowFound _ _ _ _).mp member
          · rfl
          · rfl
          · rfl
          · simpa [lightning] using Ne.symm sameHash
        · intro _ _ _ given
          obtain ⟨⟩ := given
          exact sameHash

/-- Step lemma: the fees are real exactly when the row was last stored for the
amount of the attempt. -/
theorem Tracked.feesReal_iff (tracked : Tracked state)
    (event : AttemptEvent) :
    FeesReal core state event ↔ state.AskedAlike event := by
  cases event with
  | other event =>
      refine iff_of_true ?_ trivial
      intro next row result member _ _ paid
      left
      refine ⟨tracked.noneBecomesPaid result row member paid, ?_⟩
      intro attempt success now impossible
      cases impossible
  | succeeded attempt event now =>
      constructor
      · intro real
        exact tracked.askedAlike_of_feesReal real
      · intro alike
        exact tracked.feesReal_of_askedAlike alike

/-- Whatever the wallet holds at the start, the fees recorded in a run are
real exactly when each success of an attempt meets the row as it was last
stored for the amount of that attempt. -/
theorem fees_real_iff (core : EclairCore) (payments : Table Payment)
    (events : List AttemptEvent) :
    Runs.StepsMeet (step core) (FeesReal core) (start payments) events ↔
      Runs.StepsMeet (step core) AskedAlike (start payments) events := by
  apply Runs.stepsMeet_iff_of_invariant _ _ (Tracked.start payments)
  · intro state event tracked
    exact tracked.feesReal_iff event
  · intro state event next tracked _ result
    exact tracked.step result

/-- The invoice is opened on two screens and sent with 1000 and with 5000
msat.  The first attempt is made before the body of the second call stores its
amount. -/
def twoAmounts : List AttemptEvent :=
  [.other (.openScreen "lntb1" "" "" 1 true),
    .other (.openScreen "lntb1" "" "" 1 true),
    .other (.sendLNPayment 0 1000),
    .other (.sendLNPayment 1 5000),
    .other (.storeBody 0 1),
    .other (.executeBody 0),
    .other (.storeBody 1 2)]

/-- The first attempt succeeds with a fee of 10 msat. -/
def firstSucceeded : AttemptEvent :=
  .succeeded 0 ⟨1010, "hash", "preimage"⟩ 3

theorem fees_negative :
    ¬ ∀ events, Runs.StepsMeet (step LightningState.sampleCore)
      (FeesReal LightningState.sampleCore) (start Table.empty) events := by
  intro claim
  have paid : (Runs.exec (step LightningState.sampleCore) (start Table.empty)
      (twoAmounts ++ [firstSucceeded])).map (fun state =>
        (DBHelper.getPayment state.lightning.payments "hash" .btcLn).map
          (fun row => (row.direction, row.status, row.feesPaidMsat))) =
      some (some (.sent, some .paid, -3990)) := by
    decide
  obtain ⟨finish, run, finishRow⟩ := Option.map_eq_some_iff.mp paid
  obtain ⟨row, found, columns⟩ := Option.map_eq_some_iff.mp finishRow
  obtain ⟨sentRow, isPaid, fees⟩ := by simpa using columns
  obtain ⟨member, lightning, sameHash⟩ :=
    DBHelper.getPayment_eq_some_iff.mp found
  obtain ⟨before, firstRun, lastRun⟩ := Runs.exec_append_eq_some_iff.mp run
  have result : step LightningState.sampleCore before firstSucceeded =
      some finish := by
    simpa using lastRun
  have real := Runs.stepsMeet_iff_forall_split.mp
    (claim (twoAmounts ++ [firstSucceeded])) twoAmounts firstSucceeded []
    before rfl firstRun
  rcases real finish row result member lightning sentRow isPaid with
    ⟨_, unreported⟩ | ⟨_, _, _, _, _, _, _, _, nonneg⟩
  · exact unreported 0 _ 3 rfl sameHash.symm
  · omega

end AttemptState

end EclairWallet
