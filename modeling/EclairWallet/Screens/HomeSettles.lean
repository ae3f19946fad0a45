import Mathlib.Algebra.Ring.Nat
import EclairWallet.Library.Settling
import EclairWallet.Payment.Lightning
import EclairWallet.Screens.RefreshDue

/-!
# The home screen settles on the current balances

Everything that is on its way uses up some work: a refresh that is asked for
starts a timer, the timer wakes the scheduler, and the scheduler makes a call.
When no work is left no refresh is on its way, and the balances on the screen
are the current ones.
-/

namespace EclairWallet

open Actors Runs

/-! ## What a scheduler does by itself -/

namespace RefreshScheduler

variable {scheduler : RefreshScheduler} {state next : State}
  {event : Event SchedulerMessage}

/-- How much a message leads to: a refresh starts a timer, and a wake-up
posts an event. -/
def messageWork : SchedulerMessage → Nat
  | .REFRESH => 4
  | .WAKE_UP => 2
  | .other => 1

@[simp] theorem messageWork_REFRESH : messageWork .REFRESH = 4 := rfl

@[simp] theorem messageWork_WAKE_UP : messageWork .WAKE_UP = 2 := rfl

@[simp] theorem messageWork_other : messageWork .other = 1 := rfl

def work (state : State) : Nat :=
  (state.mailbox.map messageWork).sum +
    (state.timers.map (fun message => messageWork message + 1)).sum

theorem work_fire {timer : Nat} {fired : SchedulerMessage}
    (found : state.timers[timer]? = some fired) :
    work { state with
      timers := state.timers.eraseIdx timer
      mailbox := state.mailbox ++ [fired] } < work state := by
  obtain ⟨bound, rfl⟩ := List.getElem?_eq_some_iff.mp found
  have split := ((List.getElem_cons_eraseIdx_perm bound).map
    (fun message => messageWork message + 1)).sum_eq
  rw [List.map_cons, List.sum_cons] at split
  simp only [work, List.map_append, List.sum_append, List.map_cons,
    List.map_nil, List.sum_cons, List.sum_nil]
  omega

/-- An event of the scheduler's own uses up more than it posts. -/
theorem work_step (own : event.Internal)
    (result : scheduler.step state event = some next) :
    work next + (WalletState.calledSince state next).length < work state := by
  cases event with
  | send message => cases own
  | fire timer =>
      obtain ⟨fired, found, rfl⟩ := Actor.step_fire_eq_some_iff.mp result
      simpa [WalletState.calledSince] using work_fire found
  | process =>
      obtain ⟨message, mailbox, head, rfl⟩ :=
        Actor.step_process_eq_some_iff.mp result
      have before : work state = messageWork message +
          (mailbox.map messageWork).sum +
          (state.timers.map (fun message => messageWork message + 1)).sum := by
        simp [work, head]
      have called : ∀ entries : List LogEntry,
          (state.receive .onReceive scheduler.handle message mailbox).log =
            entries ++ state.log →
          (WalletState.calledSince state
            (state.receive .onReceive scheduler.handle message
              mailbox)).length =
            (entries.filterMap WalletState.calledEvent).length := by
        intro entries log
        rw [calledSince_of_log log, List.length_reverse]
      rw [before]
      -- only a refresh starts a timer, and only a wake-up posts an event
      cases current : state.behaviour .onReceive with
      | onReceive =>
          rw [called [.received .onReceive message] (by
            cases message <;>
              simp [Actor.receive, current, handle, onReceive,
                Actor.perform])]
          cases message with
          | REFRESH =>
              simp [Actor.receive, current, handle, onReceive, Actor.perform,
                work, List.filterMap_cons]
              omega
          | _ =>
              simp [Actor.receive, current, handle, onReceive, work,
                List.filterMap_cons]
      | sleep =>
          cases message with
          | WAKE_UP =>
              rw [called [.called scheduler.handleRefresh,
                .received .sleep .WAKE_UP] (by
                  simp only [Actor.receive, current, handle, sleep, if_true,
                    List.foldl_cons, List.foldl_nil, Actor.perform]
                  split <;> rfl)]
              simp only [Actor.receive, current, handle, sleep, if_true,
                List.foldl_cons, List.foldl_nil, Actor.perform]
              split <;> simp [work, List.filterMap_cons] <;> omega
          | REFRESH =>
              rw [called [.received .sleep .REFRESH] (by
                simp [Actor.receive, current, handle, sleep])]
              simp [Actor.receive, current, handle, sleep, work,
                List.filterMap_cons]
          | other =>
              rw [called [.received .sleep .other] (by
                simp [Actor.receive, current, handle, sleep])]
              simp [Actor.receive, current, handle, sleep, work,
                List.filterMap_cons]

end RefreshScheduler

/-! ## What the wallet does by itself -/

namespace WalletState

variable {core : EclairCore} {data : ErrorData} {state next : WalletState}
  {screen : HomeScreen}

def schedulersWork (schedulers : RefreshScheduler → RefreshScheduler.State) :
    Nat :=
  RefreshScheduler.work (schedulers .paymentsRefreshScheduler) +
    RefreshScheduler.work (schedulers .channelsRefreshScheduler) +
    RefreshScheduler.work (schedulers .balanceRefreshScheduler)

/-- A bound on the events that can still happen by themselves. -/
def work (state : WalletState) : Nat :=
  5 * (state.nodeTells.length + state.electrumTells.length) +
    schedulersWork state.schedulers + state.mainQueue.length

theorem schedulersWork_update
    (schedulers : RefreshScheduler → RefreshScheduler.State)
    (scheduler : RefreshScheduler) (after : RefreshScheduler.State) :
    schedulersWork (Function.update schedulers scheduler after) +
        RefreshScheduler.work (schedulers scheduler) =
      schedulersWork schedulers + RefreshScheduler.work after := by
  cases scheduler <;> simp [schedulersWork, Function.update] <;> omega

theorem work_tell (state : WalletState) (scheduler : RefreshScheduler) :
    (state.tell scheduler .REFRESH).work = state.work + 4 := by
  have updated := schedulersWork_update state.schedulers scheduler
    { state.schedulers scheduler with
      mailbox := (state.schedulers scheduler).mailbox ++ [.REFRESH] }
  have told : RefreshScheduler.work
      { state.schedulers scheduler with
        mailbox := (state.schedulers scheduler).mailbox ++ [.REFRESH] } =
      RefreshScheduler.work (state.schedulers scheduler) + 4 := by
    simp [RefreshScheduler.work]
    omega
  simp only [work, tell] at *
  omega

/-- What posting refreshes leaves alone, and how many calls it makes at
most. -/
theorem posts_frame (state : WalletState) (events : List RefreshEvent) :
    ∃ more : List PendingPost, more.length ≤ events.length ∧
      (events.map BusEvent.refresh).foldl post state =
        { state with mainQueue := state.mainQueue ++ more } := by
  induction events generalizing state with
  | nil => exact ⟨[], by simp, by simp⟩
  | cons event events induction =>
      obtain ⟨more, bound, posted⟩ := induction (state.post (.refresh event))
      refine ⟨state.calls (.refresh event) ++ more, ?_, ?_⟩
      · have one : (state.calls (.refresh event)).length ≤ 1 := by
          rw [calls, List.length_map]
          exact List.length_filter_le _ _
        rw [List.length_append, List.length_cons]
        omega
      · rw [List.map_cons, List.foldl_cons, posted]
        simp [post]

theorem schedulerStep_frame {scheduler : RefreshScheduler}
    {event : Event SchedulerMessage} (own : event.Internal)
    (result : state.schedulerStep scheduler event = some next) :
    next.channelState = state.channelState ∧
      next.payments = state.payments ∧ next.work < state.work := by
  rw [schedulerStep, Option.map_eq_some_iff] at result
  obtain ⟨after, stepped, rfl⟩ := result
  have less := RefreshScheduler.work_step own stepped
  have updated := schedulersWork_update state.schedulers scheduler after
  obtain ⟨more, bound, posted⟩ := posts_frame
    { state with
      schedulers := Function.update state.schedulers scheduler after }
    (calledSince (state.schedulers scheduler) after)
  rw [posted]
  refine ⟨rfl, rfl, ?_⟩
  simp only [work, List.length_append]
  omega

theorem homeHandles_frame {event : BusEvent} {torn : Option Int}
    (result : state.homeHandles screen torn event = some next) :
    ∃ home, next = { state with home := home } := by
  have reads : ∀ {shown : HomeScreen},
      state.tryBalances shown torn = some next →
      ∃ home, next = { state with home := home } := by
    intro shown result
    obtain ⟨_, _, rfl⟩ := Option.map_eq_some_iff.mp result
    cases tried : state.setBalances shown torn with
    | none => exact ⟨some shown, rfl⟩
    | some next =>
        obtain ⟨balances, _, rfl⟩ := Option.map_eq_some_iff.mp tried
        exact ⟨_, rfl⟩
  cases event with
  | electrum event =>
      cases event with
      | walletReady confirmedBalance unconfirmedBalance timestamp =>
          exact reads result
      | electrumDisconnected =>
          cases result
          exact ⟨_, rfl⟩
      | electrumReady serverAddress =>
          cases result
          exact ⟨state.home, rfl⟩
  | refresh event =>
      cases event with
      | balanceUpdateEvent => exact reads result
      | paymentEvent =>
          cases result
          exact ⟨state.home, rfl⟩
      | channelUpdateEvent =>
          cases result
          exact ⟨state.home, rfl⟩

theorem mainRuns_frame {torn : Option Int}
    (result : state.mainRuns torn = some next) :
    ∃ post mainQueue electrumState home,
      state.mainQueue = post :: mainQueue ∧
      next = { state with
        mainQueue := mainQueue
        electrumState := electrumState
        home := home } := by
  rw [mainRuns] at result
  cases queue : state.mainQueue with
  | nil =>
      rw [queue] at result
      cases result
  | cons post mainQueue =>
      rw [queue] at result
      refine ⟨post, mainQueue, next.electrumState, next.home, rfl, ?_⟩
      obtain ⟨subscriber, event⟩ := post
      cases subscriber with
      | app =>
          cases event with
          | electrum event =>
              cases result
              rfl
          | refresh event =>
              cases result
              rfl
      | homeActivity =>
          dsimp only at result
          split at result
          · obtain ⟨home, rfl⟩ := homeHandles_frame result
            rfl
          · cases result
            rfl

/-- By itself the wallet changes neither the map nor the tables, and uses up
its work. -/
theorem internal_frame {event : WalletEvent} (own : event.Internal)
    (result : step core data state event = some next) :
    next.channelState = state.channelState ∧
      next.payments = state.payments ∧ next.work < state.work := by
  cases event with
  | nodeTells =>
      simp only [step] at result
      split at result
      · cases result
      · cases result
        refine ⟨rfl, rfl, ?_⟩
        rw [work_tell]
        simp only [work, ‹state.nodeTells = _›, List.length_cons]
        omega
  | electrumTells =>
      simp only [step] at result
      split at result
      · cases result
      · cases result
        refine ⟨rfl, rfl, ?_⟩
        rw [work_tell]
        simp only [work, ‹state.electrumTells = _›, List.length_cons]
        omega
  | timerFires scheduler timer =>
      have fires : (Event.fire timer : Event SchedulerMessage).Internal :=
        trivial
      exact schedulerStep_frame fires result
  | schedulerProcesses scheduler =>
      have processes : (Event.process : Event SchedulerMessage).Internal :=
        trivial
      exact schedulerStep_frame processes result
  | mainRuns torn =>
      obtain ⟨post, mainQueue, electrumState, home, queue, rfl⟩ :=
        mainRuns_frame result
      refine ⟨rfl, rfl, ?_⟩
      simp only [work, queue, List.length_cons]
      omega
  | _ => cases own

theorem usesUp (core : EclairCore) (data : ErrorData) :
    UsesUp (step core data) WalletEvent.Internal work := by
  intro state event next own result
  exact (internal_frame own result).2.2

/-! ### The settled wallet -/

theorem mainRuns_isSome {post : PendingPost} {mainQueue : List PendingPost}
    (queue : state.mainQueue = post :: mainQueue) :
    (state.mainRuns none).isSome = true := by
  rw [mainRuns, queue]
  obtain ⟨subscriber, event⟩ := post
  cases subscriber with
  | app => cases event <;> rfl
  | homeActivity =>
      dsimp only
      split
      · cases event with
        | electrum event => cases event <;> rfl
        | refresh event => cases event <;> rfl
      · rfl

/-- In a settled wallet no refresh is on its way, and no call waits. -/
theorem quiet_of_settled
    (settled : Settled (WalletState.step core data) WalletEvent.Internal
      state) :
    ¬ state.BalanceDue ∧ state.mainQueue = [] := by
  have nodeTells : state.nodeTells = [] := by
    have stuck := settled .nodeTells trivial
    simp only [WalletState.step] at stuck
    split at stuck
    · assumption
    · cases stuck
  have electrumTells : state.electrumTells = [] := by
    have stuck := settled .electrumTells trivial
    simp only [WalletState.step] at stuck
    split at stuck
    · assumption
    · cases stuck
  have mailboxes : ∀ scheduler, (state.schedulers scheduler).mailbox = [] := by
    intro scheduler
    have stuck := settled (.schedulerProcesses scheduler) trivial
    simp only [WalletState.step, WalletState.schedulerStep,
      Option.map_eq_none_iff] at stuck
    cases mailbox : (state.schedulers scheduler).mailbox with
    | nil => rfl
    | cons message rest =>
        simp [RefreshScheduler.step, Actor.step, mailbox] at stuck
  have timers : ∀ scheduler, (state.schedulers scheduler).timers = [] := by
    intro scheduler
    have stuck := settled (.timerFires scheduler 0) trivial
    simp only [WalletState.step, WalletState.schedulerStep,
      Option.map_eq_none_iff] at stuck
    cases timers : (state.schedulers scheduler).timers with
    | nil => rfl
    | cons message rest =>
        simp [RefreshScheduler.step, Actor.step, timers] at stuck
  have mainQueue : state.mainQueue = [] := by
    have stuck := settled (.mainRuns none) trivial
    cases queue : state.mainQueue with
    | nil => rfl
    | cons post mainQueue =>
        have runs := mainRuns_isSome queue
        rw [show state.mainRuns none = none from stuck] at runs
        cases runs
  refine ⟨?_, mainQueue⟩
  rintro (node | electrum | waits | sleeping | posted)
  · rw [nodeTells] at node
    cases node
  · rw [electrumTells] at electrum
    cases electrum
  · rw [mailboxes] at waits
    cases waits
  · have outstanding := sleeping.outstanding
    simp [Actor.outstanding, mailboxes, timers] at outstanding
  · obtain ⟨post, member, _⟩ := posted
    rw [mainQueue] at member
    cases member

/-- What is on its way comes to an end by itself, in whatever order it
happens; the map and the tables stay, and the home screen then shows the
balances there are, and offers payments exactly when electrum is connected. -/
structure Settles (core : EclairCore) (data : ErrorData)
    (state : WalletState) : Prop where
  settles : ∃ later last, AllInternal WalletEvent.Internal later ∧
    exec (step core data) state later = some last ∧
    Settled (step core data) WalletEvent.Internal last
  bounded : ∀ later last, AllInternal WalletEvent.Internal later →
    exec (step core data) state later = some last →
    later.length ≤ state.work
  unchanged : ∀ later last, AllInternal WalletEvent.Internal later →
    exec (step core data) state later = some last →
    last.channelState = state.channelState ∧ last.payments = state.payments
  shown : ∀ later last, AllInternal WalletEvent.Internal later →
    exec (step core data) state later = some last →
    Settled (step core data) WalletEvent.Internal last →
    ∀ screen balances, last.home = some screen →
      last.currentBalances = some balances →
      screen.balances = balances ∧
        screen.canSendPayments = App.isWalletConnected last.electrumState

/-- Wherever a run of the wallet is interrupted, the home screen settles. -/
theorem home_screen_settles (core : EclairCore) (data : ErrorData)
    (channels : Table LocalChannelRow) (payments : Table Payment)
    (events : List WalletEvent) (state : WalletState)
    (run : exec (step core data) (start channels payments) events = some state)
    (accepted : StepsMeet (step core data) (Accepted data)
      (start channels payments) events)
    (attended : StepsMeet (step core data) Attended (start channels payments)
      events) :
    Settles core data state := by
  have reached : Inv state := by
    have meets := accepted.and attended
    have preserved : ∀ state event next, Inv state →
        (Accepted data state event ∧ Attended state event) →
        step core data state event = some next → Inv next := by
      intro state event next inv both result
      exact inv.step both.1 both.2 result
    exact invariant_of_stepsMeet preserved (inv_start channels payments) meets
      run
  have kept : ∀ later last, AllInternal WalletEvent.Internal later →
      exec (step core data) state later = some last →
      Inv last ∧ last.channelState = state.channelState ∧
        last.payments = state.payments := by
    intro later last own continued
    have preserved : ∀ before event after, event.Internal →
        (Inv before ∧ before.channelState = state.channelState ∧
          before.payments = state.payments) →
        step core data before event = some after →
        Inv after ∧ after.channelState = state.channelState ∧
          after.payments = state.payments := by
      intro before event after own given result
      obtain ⟨inv, channelState, payments⟩ := given
      obtain ⟨sameChannels, samePayments, _⟩ := internal_frame own result
      refine ⟨?_, sameChannels.trans channelState,
        samePayments.trans payments⟩
      refine inv.step ?_ ?_ result
      · intro change isChange
        rw [own.asks_nothing.1] at isChange
        cases isChange
      · intro launches
        rw [own.asks_nothing.2] at launches
        cases launches
    exact invariant_of_internal preserved own ⟨reached, rfl, rfl⟩ continued
  constructor
  · exact (usesUp core data).exists_settled state
  · intro later last own continued
    have bound := (usesUp core data).length_le own continued
    omega
  · intro later last own continued
    exact (kept later last own continued).2
  · intro later last own continued settled screen balances shown current
    obtain ⟨inv, _⟩ := kept later last own continued
    obtain ⟨notDue, mainQueue⟩ := quiet_of_settled settled
    constructor
    · rcases inv.fresh screen shown with due | same
      · exact absurd due notDue
      · exact same balances current
    · have both := inv.connected screen shown
      rw [mainQueue] at both
      exact both

/-- A channel is opened while the home screen is shown, and electrum answers
before the scheduler has heard of the channel's balance. -/
def channelOpened : List WalletEvent :=
  [.launchHome none,
    .nodeReceives (.channel (.channelCreated 0 "channel" "node")) 1,
    .nodeTells,
    .nodeReceives (.channel (.channelStateChanged 0 "WAIT_FOR_FUNDING_LOCKED"
      "NORMAL" (.hasCommitments ChannelState.pendingCommitments))) 2,
    .electrumPosts (.walletReady 5 0 7),
    .nodeTells]

theorem channelOpened_settles :
    ∃ state, exec (step LightningState.sampleCore ⟨fun _ => true, fun _ => ""⟩)
        (start Table.empty Table.empty) channelOpened = some state ∧
      Settles LightningState.sampleCore ⟨fun _ => true, fun _ => ""⟩ state := by
  have runs : (exec (step LightningState.sampleCore
      ⟨fun _ => true, fun _ => ""⟩) (start Table.empty Table.empty)
      channelOpened).isSome = true := by decide
  obtain ⟨state, run⟩ := Option.isSome_iff_exists.mp runs
  exact ⟨state, run, home_screen_settles _ _ _ _ channelOpened state run
    (by decide) (by decide)⟩

end WalletState

end EclairWallet
