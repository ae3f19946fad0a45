import EclairWallet.Library.Runs
import EclairWallet.Payment.SendScreen

/-!
# Lightning payments as a transition system

Any number of send screens, the bodies they hand to the executor, and the
node supervisor share the payments table.  Every database access is one step,
so the steps of different bodies and of the supervisor interleave freely.
-/

namespace EclairWallet

open JavaCase (DefaultLocale)

/-- Progress of the asynchronous body of one `sendLNPayment` call. -/
inductive BodyPhase where
  | queued
  | stored
  | executed
  deriving DecidableEq, Repr

/-- One `sendLNPayment` call that passed its check, with the row it read. -/
structure SendBody where
  screen : Screen
  amountMsat : Int
  p : Option Payment
  phase : BodyPhase
  deriving DecidableEq, Repr

namespace SendBody

def paymentHash (body : SendBody) : String :=
  body.screen.request.paymentHash

def stored (body : SendBody) (locale : DefaultLocale) (now : Nat) : Payment :=
  SendPaymentActivity.storedPayment locale body.screen body.amountMsat body.p
    now

end SendBody

/-- `outstanding` holds the payment hash of every executed attempt whose
outcome has not been handled. -/
structure LightningState where
  payments : Table Payment
  screens : List Screen
  bodies : List SendBody
  outstanding : List String

inductive LightningEvent where
  | openScreen (invoiceAsString goToFrag notification : String)
      (channels : Nat) (sufficient : Bool)
  | sendLNPayment (screen : Nat) (amountMsat : Int)
  | storeBody (body now : Nat)
  | executeBody (body : Nat)
  | signatureSent (nextRemoteCommit : Option (List DirectedHtlc)) (now : Nat)
  | paymentFailed (event : PaymentFailed) (now : Nat)
  | paymentSucceeded (event : PaymentSucceeded) (now : Nat)

namespace LightningState

def start (payments : Table Payment) : LightningState :=
  { payments := payments, screens := [], bodies := [], outstanding := [] }

def openScreen (core : EclairCore) (state : LightningState)
    (invoiceAsString goToFrag notification : String) (channels : Nat)
    (sufficient : Bool) : LightningState :=
  match core.readInvoice invoiceAsString with
  | none => state
  | some request =>
      match SendPaymentActivity.setupLightningPaymentForm core state.payments
          channels sufficient request with
      | some _ => state
      | none =>
          { state with
            screens := state.screens ++
              [{ request, invoiceAsString, goToFrag, notification }] }

/-- The row `sendLNPayment` reads. -/
def readRow (state : LightningState) (screen : Screen) : Option Payment :=
  DBHelper.getPayment state.payments screen.request.paymentHash .btcLn

/-- The synchronous part of `sendLNPayment`. -/
def send (state : LightningState) (screen : Screen) (amountMsat : Int) :
    LightningState :=
  match SendPaymentActivity.sendError (state.readRow screen) with
  | some _ => state
  | none =>
      { state with
        bodies := state.bodies ++
          [{ screen, amountMsat, p := state.readRow screen,
             phase := .queued }] }

def storeBody (locale : DefaultLocale) (state : LightningState) (index : Nat)
    (body : SendBody) (now : Nat) : LightningState :=
  { state with
    payments := DBHelper.insertOrUpdatePayment state.payments
      (body.stored locale now)
    bodies := state.bodies.set index { body with phase := .stored } }

/-- `app.sendLNPayment`. -/
def executeBody (state : LightningState) (index : Nat) (body : SendBody) :
    LightningState :=
  { state with
    bodies := state.bodies.set index { body with phase := .executed }
    outstanding := body.paymentHash :: state.outstanding }

/-- A payment outcome is handled once its handler returns normally. -/
def handled (state : LightningState) (paymentHash : String)
    (result : Handled (Table Payment) PaymentEffect) : LightningState :=
  { state with
    payments := result.state
    outstanding :=
      if result.thrown = none then state.outstanding.erase paymentHash
      else state.outstanding }

/-- One step: null when the screen or the body does not exist, or the body is
not in the phase. -/
def step (core : EclairCore) (state : LightningState) :
    LightningEvent → Option LightningState
  | .openScreen invoiceAsString goToFrag notification channels sufficient =>
      some (state.openScreen core invoiceAsString goToFrag notification
        channels sufficient)
  | .sendLNPayment screen amountMsat =>
      (state.screens[screen]?).map (fun screen => state.send screen amountMsat)
  | .storeBody index now =>
      (state.bodies[index]?).bind (fun body =>
        if body.phase = .queued then
          some (state.storeBody core.locale index body now)
        else none)
  | .executeBody index =>
      (state.bodies[index]?).bind (fun body =>
        if body.phase = .stored then some (state.executeBody index body)
        else none)
  | .signatureSent nextRemoteCommit now =>
      some { state with
        payments := (NodeSupervisor.onChannelSignatureSent state.payments
          nextRemoteCommit now).state }
  | .paymentFailed event now =>
      some (state.handled event.paymentHash
        (NodeSupervisor.onPaymentFailed core.transformForUser state.payments
          event now))
  | .paymentSucceeded event now =>
      some (state.handled event.paymentHash
        (NodeSupervisor.onPaymentSucceeded state.payments event now))

/-- What each event does when it can happen. -/
inductive Steps (core : EclairCore) (state : LightningState) :
    LightningEvent → LightningState → Prop where
  | openScreen (invoiceAsString goToFrag notification : String)
      (channels : Nat) (sufficient : Bool) :
      Steps core state
        (.openScreen invoiceAsString goToFrag notification channels sufficient)
        (state.openScreen core invoiceAsString goToFrag notification channels
          sufficient)
  | sendLNPayment {index : Nat} {screen : Screen} (amountMsat : Int)
      (found : state.screens[index]? = some screen) :
      Steps core state (.sendLNPayment index amountMsat)
        (state.send screen amountMsat)
  | storeBody {index : Nat} {body : SendBody} (now : Nat)
      (found : state.bodies[index]? = some body)
      (queued : body.phase = .queued) :
      Steps core state (.storeBody index now)
        (state.storeBody core.locale index body now)
  | executeBody {index : Nat} {body : SendBody}
      (found : state.bodies[index]? = some body)
      (stored : body.phase = .stored) :
      Steps core state (.executeBody index) (state.executeBody index body)
  | signatureSent (nextRemoteCommit : Option (List DirectedHtlc)) (now : Nat) :
      Steps core state (.signatureSent nextRemoteCommit now)
        { state with
          payments := (NodeSupervisor.onChannelSignatureSent state.payments
            nextRemoteCommit now).state }
  | paymentFailed (event : PaymentFailed) (now : Nat) :
      Steps core state (.paymentFailed event now)
        (state.handled event.paymentHash
          (NodeSupervisor.onPaymentFailed core.transformForUser state.payments
            event now))
  | paymentSucceeded (event : PaymentSucceeded) (now : Nat) :
      Steps core state (.paymentSucceeded event now)
        (state.handled event.paymentHash
          (NodeSupervisor.onPaymentSucceeded state.payments event now))

theorem steps_of_step {core : EclairCore} {state next : LightningState}
    {event : LightningEvent} (result : step core state event = some next) :
    Steps core state event next := by
  cases event with
  | openScreen invoiceAsString goToFrag notification channels sufficient =>
      cases result
      apply Steps.openScreen
  | sendLNPayment index amountMsat =>
      obtain ⟨screen, found, rfl⟩ := Option.map_eq_some_iff.mp result
      exact .sendLNPayment amountMsat found
  | storeBody index now =>
      simp only [step, Option.bind_eq_some_iff,
        Option.ite_none_right_eq_some, Option.some.injEq] at result
      obtain ⟨body, found, queued, rfl⟩ := result
      exact .storeBody now found queued
  | executeBody index =>
      simp only [step, Option.bind_eq_some_iff,
        Option.ite_none_right_eq_some, Option.some.injEq] at result
      obtain ⟨body, found, stored, rfl⟩ := result
      exact .executeBody found stored
  | signatureSent nextRemoteCommit now =>
      cases result
      apply Steps.signatureSent
  | paymentFailed event now =>
      cases result
      apply Steps.paymentFailed
  | paymentSucceeded event now =>
      cases result
      apply Steps.paymentSucceeded

theorem openScreen_cases (core : EclairCore) (state : LightningState)
    (invoiceAsString goToFrag notification : String) (channels : Nat)
    (sufficient : Bool) :
    state.openScreen core invoiceAsString goToFrag notification channels
        sufficient = state ∨
      ∃ screen : Screen,
        core.readInvoice screen.invoiceAsString = some screen.request ∧
        state.openScreen core invoiceAsString goToFrag notification channels
          sufficient = { state with screens := state.screens ++ [screen] } := by
  unfold openScreen
  split
  · exact .inl rfl
  next request read =>
    split
    · exact .inl rfl
    · exact .inr ⟨_, read, rfl⟩

theorem forall_set_phase {holds : SendBody → Prop} {bodies : List SendBody}
    {index : Nat} {body : SendBody} {phase : BodyPhase}
    (all : ∀ body ∈ bodies, holds body)
    (blind : holds body → holds { body with phase := phase })
    (found : bodies[index]? = some body) :
    ∀ other ∈ bodies.set index { body with phase := phase }, holds other := by
  intro other member
  rcases List.mem_or_eq_of_mem_set member with old | new
  · exact all other old
  · subst other
    exact blind (all body (List.mem_of_getElem? found))

/-- A node for which every text but a run of commas reads as one invoice
without an amount. -/
def sampleCore : EclairCore where
  locale := .ascii
  readInvoice text :=
    if text.toList.any (fun char => char ≠ ',') then
      some
        { chainPrefix := "lntb"
          paymentHash := "hash"
          nodeId := "node"
          amountMsat := none
          description := .inl "coffee" }
    else none
  acceptedPrefix := some "lntb"
  transformForUser failures := failures

end LightningState

end EclairWallet
