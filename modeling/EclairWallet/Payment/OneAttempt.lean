import EclairWallet.Payment.Lightning

/-!
# Attempts in flight

An attempt for a payment hash starts when `sendLNPayment` passes its check and
ends when its outcome is handled.  The row's status is the only protection
against a second one, and it protects from the signature on only: between the
check and the signature the row is missing or `INIT`, and on a retry it stays
`FAILED` to the end.
-/

namespace EclairWallet

open JavaCase (DefaultLocale)

namespace SendBody

/-- The body has not reached `app.sendLNPayment` yet. -/
def live (paymentHash : String) (body : SendBody) : Bool :=
  body.paymentHash = paymentHash ∧ body.phase ≠ .executed

@[simp] theorem live_iff {paymentHash : String} {body : SendBody} :
    body.live paymentHash = true ↔
      body.paymentHash = paymentHash ∧ body.phase ≠ .executed := by
  simp [live]

end SendBody

namespace LightningState

/-- A call for this hash has passed its check and its outcome has not been
handled. -/
def InFlight (state : LightningState) (paymentHash : String) : Prop :=
  paymentHash ∈ state.outstanding ∨
    ∃ body ∈ state.bodies, body.live paymentHash

/-- `sendLNPayment` runs for a hash in flight only where its own check stops
it. -/
def SentAlone (state : LightningState) : LightningEvent → Prop
  | .sendLNPayment index _ =>
      ∀ screen, state.screens[index]? = some screen →
        state.InFlight screen.request.paymentHash →
        SendPaymentActivity.sendError (state.readRow screen) ≠ none
  | _ => True

instance (state : LightningState) (paymentHash : String) :
    Decidable (state.InFlight paymentHash) :=
  inferInstanceAs (Decidable (_ ∨ _))

instance (state : LightningState) :
    ∀ event, Decidable (state.SentAlone event)
  | .sendLNPayment index _ =>
      match found : state.screens[index]? with
      | none => .isTrue (by simp [SentAlone, found])
      | some screen =>
          decidable_of_iff (state.InFlight screen.request.paymentHash →
              SendPaymentActivity.sendError (state.readRow screen) ≠ none)
            (by simp [SentAlone, found])
  | .openScreen .. => .isTrue trivial
  | .storeBody .. => .isTrue trivial
  | .executeBody .. => .isTrue trivial
  | .signatureSent .. => .isTrue trivial
  | .paymentFailed .. => .isTrue trivial
  | .paymentSucceeded .. => .isTrue trivial

/-- Attempts of a hash, from their check to their outcome. -/
def attempts (state : LightningState) (paymentHash : String) : Nat :=
  state.bodies.countP (SendBody.live paymentHash) +
    state.outstanding.count paymentHash

/-- The invariant: no hash has two attempts. -/
def AtMostOneAttempt (state : LightningState) : Prop :=
  ∀ paymentHash, state.attempts paymentHash ≤ 1

theorem inFlight_iff_attempts {state : LightningState}
    {paymentHash : String} :
    state.InFlight paymentHash ↔ 0 < state.attempts paymentHash := by
  unfold InFlight attempts
  rw [Nat.add_pos_iff_pos_or_pos, List.countP_pos_iff, List.count_pos_iff]
  exact or_comm

theorem attempts_openScreen (core : EclairCore) (state : LightningState)
    (invoiceAsString goToFrag notification : String) (channels : Nat)
    (sufficient : Bool) (paymentHash : String) :
    (state.openScreen core invoiceAsString goToFrag notification channels
      sufficient).attempts paymentHash = state.attempts paymentHash := by
  rcases openScreen_cases core state invoiceAsString goToFrag notification
      channels sufficient with same | ⟨screen, _, added⟩
  · rw [same]
  · rw [added]
    rfl

theorem atMostOneAttempt_send (state : LightningState) (screen : Screen)
    (amountMsat : Int)
    (alone : state.InFlight screen.request.paymentHash →
      SendPaymentActivity.sendError (state.readRow screen) ≠ none)
    (atMostOne : state.AtMostOneAttempt) :
    (state.send screen amountMsat).AtMostOneAttempt := by
  intro paymentHash
  unfold send
  split
  · exact atMostOne paymentHash
  · rename_i allowed
    have notInFlight : ¬ state.InFlight screen.request.paymentHash :=
      fun inFlight => alone inFlight allowed
    have none : state.attempts screen.request.paymentHash = 0 := by
      have notPositive := mt inFlight_iff_attempts.mpr notInFlight
      omega
    have bound := atMostOne paymentHash
    by_cases same : screen.request.paymentHash = paymentHash
    · subst paymentHash
      simp only [attempts] at none
      have noBody : state.bodies.countP
          (SendBody.live screen.request.paymentHash) = 0 := by omega
      have noOutcome :
          state.outstanding.count screen.request.paymentHash = 0 := by omega
      simp only [attempts, List.countP_append, noBody, noOutcome]
      simp [SendBody.live, SendBody.paymentHash]
    · simp only [attempts, List.countP_append] at bound ⊢
      simpa [SendBody.live, SendBody.paymentHash, same] using bound

theorem attempts_storeBody (locale : DefaultLocale) {state : LightningState}
    {index now : Nat} {body : SendBody}
    (found : state.bodies[index]? = some body) (queued : body.phase = .queued) (paymentHash : String) :
    (state.storeBody locale index body now).attempts paymentHash =
      state.attempts paymentHash := by
  obtain ⟨inBounds, rfl⟩ := List.getElem?_eq_some_iff.mp found
  have positive : state.bodies[index].live paymentHash →
      0 < state.bodies.countP (SendBody.live paymentHash) := by
    intro live
    exact List.countP_pos_iff.mpr ⟨_, List.getElem_mem inBounds, live⟩
  simp only [attempts, storeBody, List.countP_set, inBounds]
  by_cases same : state.bodies[index].paymentHash = paymentHash
  · have wasLive : state.bodies[index].live paymentHash = true := by
      simp [same, queued]
    have stillLive :
        ({ state.bodies[index] with phase := .stored } : SendBody).live
          paymentHash = true := by
      simpa [SendBody.live, SendBody.paymentHash] using same
    have := positive wasLive
    simp only [wasLive, stillLive, if_true]
    omega
  · have wasDead : state.bodies[index].live paymentHash = false := by
      simp [SendBody.live, same]
    have stillDead :
        ({ state.bodies[index] with phase := .stored } : SendBody).live
          paymentHash = false := by
      simpa [SendBody.live, SendBody.paymentHash] using same
    simp [wasDead, stillDead]

theorem attempts_executeBody {state : LightningState} {index : Nat}
    {body : SendBody} (found : state.bodies[index]? = some body)
    (stored : body.phase = .stored) (paymentHash : String) :
    (state.executeBody index body).attempts paymentHash =
      state.attempts paymentHash := by
  obtain ⟨inBounds, rfl⟩ := List.getElem?_eq_some_iff.mp found
  have nowDead :
      ({ state.bodies[index] with phase := .executed } : SendBody).live
        paymentHash = false := by
    simp [SendBody.live]
  simp only [attempts, executeBody, List.countP_set, inBounds, nowDead]
  by_cases same : state.bodies[index].paymentHash = paymentHash
  · have wasLive : state.bodies[index].live paymentHash = true := by
      simp [same, stored]
    have positive : 0 < state.bodies.countP (SendBody.live paymentHash) :=
      List.countP_pos_iff.mpr ⟨_, List.getElem_mem inBounds, wasLive⟩
    simp only [wasLive, if_true, same, List.count_cons_self]
    simp
    omega
  · have wasDead : state.bodies[index].live paymentHash = false := by
      simp [SendBody.live, same]
    simp [wasDead, same]

theorem attempts_handled_le (state : LightningState) (handledHash : String)
    (result : Handled (Table Payment) PaymentEffect) (paymentHash : String) :
    (state.handled handledHash result).attempts paymentHash ≤
      state.attempts paymentHash := by
  have fewer : (state.outstanding.erase handledHash).count paymentHash ≤
      state.outstanding.count paymentHash :=
    List.Sublist.count_le paymentHash List.erase_sublist
  unfold attempts handled
  split
  · simpa using fewer
  · exact Nat.le_refl _

/-- Step lemma: a step that sends alone keeps at most one attempt of each
hash. -/
theorem atMostOneAttempt_step {core : EclairCore} {state next : LightningState}
    {event : LightningEvent}
    (atMostOne : state.AtMostOneAttempt) (alone : state.SentAlone event)
    (result : step core state event = some next) :
    next.AtMostOneAttempt := by
  cases steps_of_step result with
  | openScreen invoiceAsString goToFrag notification channels sufficient =>
      intro paymentHash
      rw [attempts_openScreen]
      exact atMostOne paymentHash
  | @sendLNPayment index screen amountMsat found =>
      exact atMostOneAttempt_send state screen amountMsat (alone screen found)
        atMostOne
  | storeBody now found queued =>
      intro paymentHash
      rw [attempts_storeBody core.locale found queued]
      exact atMostOne paymentHash
  | executeBody found stored =>
      intro paymentHash
      rw [attempts_executeBody found stored]
      exact atMostOne paymentHash
  | signatureSent nextRemoteCommit now => exact atMostOne
  | paymentFailed event now =>
      intro paymentHash
      exact Nat.le_trans (attempts_handled_le state _ _ paymentHash)
        (atMostOne paymentHash)
  | paymentSucceeded event now =>
      intro paymentHash
      exact Nat.le_trans (attempts_handled_le state _ _ paymentHash)
        (atMostOne paymentHash)

theorem atMostOneAttempt_of_sentAlone {core : EclairCore}
    {payments : Table Payment} {events : List LightningEvent}
    {state : LightningState}
    (alone : Runs.StepsMeet (step core) SentAlone (start payments) events)
    (run : Runs.exec (step core) (start payments) events = some state) :
    state.AtMostOneAttempt := by
  refine Runs.invariant_of_stepsMeet ?_ ?_ alone run
  · intro state event next atMostOne alone result
    exact atMostOneAttempt_step atMostOne alone result
  · intro paymentHash
    simp [attempts, start]

/-- A body in flight can always run to `app.sendLNPayment`. -/
theorem exists_execution (core : EclairCore) {state : LightningState}
    {index : Nat} {body : SendBody}
    (found : state.bodies[index]? = some body)
    (inFlight : body.phase ≠ .executed) :
    ∃ events finish, Runs.exec (step core) state events = some finish ∧
      finish.outstanding = body.paymentHash :: state.outstanding ∧
      ∀ other, other ≠ index →
        finish.bodies[other]? = state.bodies[other]? := by
  have inBounds : index < state.bodies.length :=
    (List.getElem?_eq_some_iff.mp found).1
  cases phase : body.phase with
  | queued =>
      refine ⟨[.storeBody index 0, .executeBody index],
        (state.storeBody core.locale index body 0).executeBody index
          { body with phase := .stored }, ?_, rfl, ?_⟩
      · simp [step, found, phase, storeBody, List.getElem?_set_self inBounds]
      · intro other different
        simp [executeBody, storeBody, different.symm]
  | stored =>
      refine ⟨[.executeBody index], state.executeBody index body, ?_, rfl, ?_⟩
      · simp [step, found, phase]
      · intro other different
        simp [executeBody, different.symm]
  | executed => exact (inFlight phase).elim

/-- Sending for a hash in flight leads to a second outstanding attempt. -/
theorem exists_second_attempt (core : EclairCore) {state : LightningState}
    {index : Nat} {amountMsat : Int}
    (notAlone : ¬ state.SentAlone (.sendLNPayment index amountMsat)) :
    ∃ events finish paymentHash,
      Runs.exec (step core) state
        (.sendLNPayment index amountMsat :: events) = some finish ∧
      2 ≤ finish.outstanding.count paymentHash := by
  simp only [SentAlone, not_forall, ne_eq, not_not] at notAlone
  obtain ⟨screen, found, inFlight, allowed⟩ := notAlone
  have sent : step core state (.sendLNPayment index amountMsat) =
      some (state.send screen amountMsat) := by
    simp [step, found]
  have bodies : (state.send screen amountMsat).bodies = state.bodies ++
      [{ screen, amountMsat, p := state.readRow screen,
         phase := .queued }] := by
    simp [send, allowed]
  have outstanding : (state.send screen amountMsat).outstanding =
      state.outstanding := by
    simp [send, allowed]
  rcases inFlight with executed | ⟨body, member, live⟩
  · have newBody : (state.send screen amountMsat).bodies[
        state.bodies.length]? = some
          { screen, amountMsat, p := state.readRow screen,
            phase := .queued } := by
      simp [bodies]
    obtain ⟨events, finish, run, result, _⟩ :=
      exists_execution core newBody (by simp)
    refine ⟨events, finish, screen.request.paymentHash, ?_, ?_⟩
    · rw [Runs.exec_cons, sent]
      exact run
    · rw [result, outstanding]
      have positive := List.count_pos_iff.mpr executed
      simp only [SendBody.paymentHash, List.count_cons_self]
      omega
  · obtain ⟨sameHash, notExecuted⟩ := SendBody.live_iff.mp live
    obtain ⟨first, inBounds, rfl⟩ := List.getElem_of_mem member
    have firstBody : (state.send screen amountMsat).bodies[first]? =
        some state.bodies[first] := by
      simp [bodies, List.getElem?_append_left, inBounds]
    obtain ⟨firstEvents, middle, firstRun, firstResult, others⟩ :=
      exists_execution core firstBody notExecuted
    have newBody : middle.bodies[state.bodies.length]? = some
        { screen, amountMsat, p := state.readRow screen,
          phase := .queued } := by
      rw [others state.bodies.length (by omega)]
      simp [bodies]
    obtain ⟨events, finish, run, result, _⟩ :=
      exists_execution core newBody (by simp)
    refine ⟨firstEvents ++ events, finish, screen.request.paymentHash, ?_, ?_⟩
    · rw [Runs.exec_cons, sent]
      exact Runs.exec_append_eq_some_iff.mpr ⟨middle, firstRun, run⟩
    · rw [result, firstResult, sameHash]
      simp only [SendBody.paymentHash, List.count_cons_self]
      omega

/-- Runs that send alone have at most one outstanding attempt for each payment
hash, and a call that is not alone leads to two. -/
theorem one_attempt_when_sent_alone (core : EclairCore) :
    (∀ payments events state,
      Runs.StepsMeet (step core) SentAlone (start payments) events →
      Runs.exec (step core) (start payments) events = some state →
      ∀ paymentHash, state.outstanding.count paymentHash ≤ 1) ∧
    (∀ (state : LightningState) (index : Nat) (amountMsat : Int),
      ¬ state.SentAlone (.sendLNPayment index amountMsat) →
      ∃ events finish paymentHash,
        Runs.exec (step core) state
          (.sendLNPayment index amountMsat :: events) = some finish ∧
        2 ≤ finish.outstanding.count paymentHash) := by
  constructor
  · intro payments events state alone run paymentHash
    have bound := atMostOneAttempt_of_sentAlone alone run paymentHash
    unfold attempts at bound
    omega
  · intro state index amountMsat notAlone
    exact exists_second_attempt core notAlone

/-! ## Two screens on one invoice -/

/-- Both screens are opened and confirmed before either body runs. -/
def twoScreens : List LightningEvent :=
  [.openScreen "lntb1" "" "" 1 true,
    .openScreen "lntb1" "" "" 1 true,
    .sendLNPayment 0 1000,
    .sendLNPayment 1 1000,
    .storeBody 0 1,
    .executeBody 0,
    .storeBody 1 2,
    .executeBody 1]

/-- The second call comes when the signature has made the row pending. -/
def oneAfterTheSignature : List LightningEvent :=
  [.openScreen "lntb1" "" "" 1 true,
    .sendLNPayment 0 1000,
    .storeBody 0 1,
    .executeBody 0,
    .signatureSent (some [⟨.inwards, "hash", 1000⟩]) 2,
    .sendLNPayment 0 1000]

theorem one_attempt_after_the_signature :
    Runs.StepsMeet (step sampleCore) SentAlone (start Table.empty)
      oneAfterTheSignature ∧
    ∀ state,
      Runs.exec (step sampleCore) (start Table.empty) oneAfterTheSignature =
        some state →
      ∀ paymentHash, state.outstanding.count paymentHash ≤ 1 := by
  have alone : Runs.StepsMeet (step sampleCore) SentAlone (start Table.empty)
      oneAfterTheSignature := by
    decide
  exact ⟨alone, fun state run =>
    (one_attempt_when_sent_alone sampleCore).1 _ _ state alone run⟩

theorem two_attempts_in_flight :
    ¬ ∀ events state,
      Runs.exec (step sampleCore) (start Table.empty) events = some state →
      ∀ paymentHash, state.outstanding.count paymentHash ≤ 1 := by
  intro claim
  have run : (Runs.exec (step sampleCore) (start Table.empty) twoScreens).map
      (fun state => state.outstanding.count "hash") = some 2 := by
    decide
  obtain ⟨state, finished, count⟩ := Option.map_eq_some_iff.mp run
  have bound := claim twoScreens state finished "hash"
  omega

end LightningState

end EclairWallet
