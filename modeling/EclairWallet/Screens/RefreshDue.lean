import EclairWallet.Screens.BalanceSources

/-!
# A refresh of the balances is on its way

Until the balances on the home screen are the current ones, a refresh of them
is on its way: a supervisor still has to ask for it, the scheduler has been
asked or sleeps, or a call waits for the main thread.  Each event hands the
refresh on, or makes it.
-/

namespace EclairWallet

open Actors Runs

/-! ## What a scheduler does by itself -/

namespace RefreshScheduler

variable {scheduler : RefreshScheduler} {state next : State}
  {event : Event SchedulerMessage}

theorem calledSince_of_log {entries : List LogEntry}
    (log : next.log = entries ++ state.log) :
    WalletState.calledSince state next =
      (entries.filterMap WalletState.calledEvent).reverse := by
  have added : next.log.length - state.log.length = entries.length := by
    rw [log, List.length_append]
    omega
  rw [WalletState.calledSince, added, log, List.take_left]

/-- By itself a scheduler posts its event, or what it was asked for stays on
its way. -/
theorem posts_or_stays (phase : Awake state ∨ Sleeping state)
    (own : event.Internal)
    (result : scheduler.step state event = some next) :
    WalletState.calledSince state next = [scheduler.handleRefresh] ∨
      WalletState.calledSince state next = [] ∧
        (Sleeping state → Sleeping next) ∧
        (.REFRESH ∈ state.mailbox →
          .REFRESH ∈ next.mailbox ∨ Sleeping next) := by
  cases event with
  | send message => cases own
  | fire timer =>
      have phaseNext := awake_or_sleeping_step phase (by simp) result
      obtain ⟨fired, found, rfl⟩ := Actor.step_fire_eq_some_iff.mp result
      right
      refine ⟨by simp [WalletState.calledSince], ?_, ?_⟩
      · intro sleeping
        rcases phaseNext with awake | sleepingNext
        · have current := awake.behaviours
          rw [sleeping.behaviours] at current
          cases current
        · exact sleepingNext
      · intro asked
        exact Or.inl (List.mem_append_left _ asked)
  | process =>
      obtain ⟨message, mailbox, head, rfl⟩ :=
        Actor.step_process_eq_some_iff.mp result
      rcases phase with awake | sleeping
      · cases message with
        | REFRESH =>
            right
            have asleep : Sleeping (state.receive .onReceive scheduler.handle
                .REFRESH mailbox) := by
              have phaseNext : Awake (state.receive .onReceive
                    scheduler.handle .REFRESH mailbox) ∨
                  Sleeping (state.receive .onReceive scheduler.handle .REFRESH
                    mailbox) := awake.receive head
              rcases phaseNext with stillAwake | asleep
              · have current := stillAwake.behaviours
                rw [receive_refresh_awake awake.behaviours] at current
                cases current
              · exact asleep
            refine ⟨?_, fun _ => asleep, fun _ => Or.inr asleep⟩
            rw [receive_refresh_awake awake.behaviours]
            simp [WalletState.calledSince]
        | WAKE_UP =>
            have idle := awake.outstanding
            rw [outstanding_of_head head] at idle
            simp at idle
        | other =>
            right
            have ignored : scheduler.handle .onReceive .other = [] := rfl
            rw [receive_ignored awake.behaviours ignored]
            refine ⟨by simp [WalletState.calledSince], ?_, ?_⟩
            · intro sleeping
              have current := awake.behaviours
              rw [sleeping.behaviours] at current
              cases current
            · intro asked
              left
              simpa [head] using asked
      · by_cases wakes : message = .WAKE_UP
        · subst message
          left
          rw [receive_wakeUp_asleep sleeping.behaviours]
          have called := @calledSince_of_log state
            { behaviours := [.onReceive]
              mailbox := mailbox
              timers := state.timers
              log := .called scheduler.handleRefresh ::
                .received .sleep .WAKE_UP :: state.log }
            [.called scheduler.handleRefresh, .received .sleep .WAKE_UP] rfl
          exact called
        · right
          have asleep : Sleeping (state.receive .onReceive scheduler.handle
              message mailbox) := sleeping.receive_other head wakes
          refine ⟨?_, fun _ => asleep, fun _ => Or.inr asleep⟩
          have ignored : scheduler.handle .sleep message = [] := by
            simp [handle, sleep, wakes]
          rw [receive_ignored sleeping.behaviours ignored]
          simp [WalletState.calledSince]

end RefreshScheduler

/-! ## The refresh on its way -/

/-- What the event says about the connection to electrum. -/
def ElectrumEvent.connects : ElectrumEvent → Option Bool
  | .walletReady _ _ _ => some true
  | .electrumDisconnected => some false
  | .electrumReady _ => none

namespace BusEvent

/-- The home screen updates the balances when it handles the event. -/
def updatesBalance : BusEvent → Bool
  | .electrum (.walletReady _ _ _) => true
  | .refresh .balanceUpdateEvent => true
  | _ => false

def connects : BusEvent → Option Bool
  | .electrum event => event.connects
  | .refresh _ => none

end BusEvent

namespace WalletEvent

/-- The events that need nothing from outside. -/
def Internal : WalletEvent → Prop
  | .nodeTells => True
  | .electrumTells => True
  | .timerFires _ _ => True
  | .schedulerProcesses _ => True
  | .mainRuns _ => True
  | _ => False

/-- A change of state, with the time at which it is handled. -/
def stateChange : WalletEvent → Option (ChannelMessage × Nat)
  | .nodeReceives (.channel (.channelStateChanged ref previousState
        currentState currentData)) now =>
      some (.channelStateChanged ref previousState currentState currentData,
        now)
  | _ => none

def launches : WalletEvent → Bool
  | .launchHome _ => true
  | _ => false

theorem Internal.asks_nothing {event : WalletEvent} (own : event.Internal) :
    event.stateChange = none ∧ event.launches = false := by
  cases event with
  | nodeReceives message now => cases own
  | launchHome torn => cases own
  | _ => exact ⟨rfl, rfl⟩

end WalletEvent

namespace WalletState

/-- The table accepts the entity of a channel that changes its state. -/
def Accepted (data : ErrorData) (state : WalletState) (event : WalletEvent) :
    Prop :=
  ∀ change ∈ event.stateChange,
    (NodeSupervisor.onReceive data state.channelState change.2
      change.1).thrown = none

instance (data : ErrorData) (state : WalletState) (event : WalletEvent) :
    Decidable (Accepted data state event) :=
  inferInstanceAs (Decidable (∀ _ ∈ _, _))

/-- The home screen is launched when no news of the connection waits for the
application alone. -/
def Attended (state : WalletState) (event : WalletEvent) : Prop :=
  event.launches = true → ∀ post ∈ state.mainQueue, post.event.connects = none

instance (state : WalletState) (event : WalletEvent) :
    Decidable (Attended state event) :=
  inferInstanceAs (Decidable (_ → _))

/-- A refresh of the balances on the home screen is on its way. -/
def BalanceDue (state : WalletState) : Prop :=
  .balanceRefreshScheduler ∈ state.nodeTells ∨
  .balanceRefreshScheduler ∈ state.electrumTells ∨
  .REFRESH ∈ (state.schedulers .balanceRefreshScheduler).mailbox ∨
  RefreshScheduler.Sleeping (state.schedulers .balanceRefreshScheduler) ∨
  ∃ post ∈ state.mainQueue, post.subscriber = .homeActivity ∧
    post.event.updatesBalance = true

/-- The application's call for new balances is followed by one of the home
screen. -/
def Followed : List PendingPost → Prop
  | [] => True
  | post :: posts =>
      (post.event.connects = some true →
        post.subscriber = .homeActivity ∨
        ∃ later ∈ posts, later.subscriber = .homeActivity ∧
          later.event.updatesBalance = true) ∧
      Followed posts

/-- What a subscriber takes the connection to be once its calls are made. -/
def connectedAfter (subscriber : Subscriber) :
    List PendingPost → Bool → Bool
  | [], connected => connected
  | post :: posts, connected =>
      connectedAfter subscriber posts
        (if post.subscriber = subscriber then
          post.event.connects.getD connected
        else connected)

/-- Every scheduler is awake or asleep. -/
def Phased (schedulers : RefreshScheduler → RefreshScheduler.State) : Prop :=
  ∀ scheduler, RefreshScheduler.Awake (schedulers scheduler) ∨
    RefreshScheduler.Sleeping (schedulers scheduler)

/-- The balances on the home screen are those there are, if they can be
read. -/
def ShowsCurrent (state : WalletState) (screen : HomeScreen) : Prop :=
  ∀ balances, state.currentBalances = some balances →
    screen.balances = balances

/-- The schedulers are awake or asleep; and while there is a home screen, its
balances are current or about to be refreshed, and it will know as much about
the connection as the application. -/
structure Inv (state : WalletState) : Prop where
  phases : Phased state.schedulers
  fresh : ∀ screen, state.home = some screen →
    state.BalanceDue ∨ state.ShowsCurrent screen
  followed : state.home.isSome = true → Followed state.mainQueue
  connected : ∀ screen, state.home = some screen →
    connectedAfter .homeActivity state.mainQueue screen.canSendPayments =
      connectedAfter .app state.mainQueue
        (App.isWalletConnected state.electrumState)

section Queue

variable {posts more : List PendingPost} {subscriber : Subscriber}
  {connected : Bool}

theorem connectedAfter_append :
    connectedAfter subscriber (posts ++ more) connected =
      connectedAfter subscriber more
        (connectedAfter subscriber posts connected) := by
  induction posts generalizing connected with
  | nil => rfl
  | cons post posts induction =>
      rw [List.cons_append, connectedAfter, induction, connectedAfter]

theorem connectedAfter_of_silent
    (silent : ∀ post ∈ posts, post.event.connects = none) :
    connectedAfter subscriber posts connected = connected := by
  induction posts with
  | nil => rfl
  | cons post posts induction =>
      rw [connectedAfter, silent post (by simp), Option.getD_none, ite_self]
      exact induction (fun later member => silent later (by simp [member]))

theorem Followed.append (first : Followed posts) (second : Followed more) :
    Followed (posts ++ more) := by
  induction posts with
  | nil => exact second
  | cons post posts induction =>
      obtain ⟨head, tail⟩ := first
      refine ⟨?_, induction tail⟩
      intro updates
      rcases head updates with own | ⟨later, member, follows⟩
      · exact Or.inl own
      · exact Or.inr ⟨later, List.mem_append_left _ member, follows⟩

theorem followed_of_silent
    (silent : ∀ post ∈ posts, post.event.connects = none) :
    Followed posts := by
  induction posts with
  | nil => trivial
  | cons post posts induction =>
      constructor
      · intro ready
        rw [silent post (by simp)] at ready
        cases ready
      · exact induction (fun later member => silent later (by simp [member]))

end Queue

variable {core : EclairCore} {data : ErrorData} {state next : WalletState}
  {screen : HomeScreen}

theorem currentBalances_congr
    (lightning : NodeSupervisor.getChannelsBalance next.channelState =
      NodeSupervisor.getChannelsBalance state.channelState)
    (onchain : App.getOnchainBalance next.electrumState next.payments =
      App.getOnchainBalance state.electrumState state.payments) :
    next.currentBalances = state.currentBalances := by
  simp only [currentBalances, updateBalance, readLightning, lightning, onchain]

/-- A step that leaves the home screen, the queue of the main thread and the
electrum state alone, and either keeps the balances or asks for a refresh. -/
theorem Inv.of_frame (inv : Inv state)
    (phases : Phased next.schedulers)
    (home : next.home = state.home)
    (mainQueue : next.mainQueue = state.mainQueue)
    (electrumState : next.electrumState = state.electrumState)
    (due : state.BalanceDue → next.BalanceDue)
    (balances : next.BalanceDue ∨
      next.currentBalances = state.currentBalances) : Inv next := by
  constructor
  · exact phases
  · intro screen shown
    rcases balances with refresh | same
    · exact Or.inl refresh
    · refine (inv.fresh screen (home.symm.trans shown)).imp due ?_
      intro current balances read
      exact current balances (same ▸ read)
  · intro shown
    rw [mainQueue]
    exact inv.followed (home ▸ shown)
  · intro screen shown
    rw [mainQueue, electrumState]
    exact inv.connected screen (home.symm.trans shown)

/-! ### The supervisors -/

theorem phased_tell (phases : Phased state.schedulers)
    (scheduler : RefreshScheduler) :
    Phased (state.tell scheduler .REFRESH).schedulers := by
  intro other
  by_cases same : other = scheduler
  · subst other
    simp only [tell, Function.update_self]
    have sent : scheduler.step (state.schedulers scheduler) (.send .REFRESH) =
        some { state.schedulers scheduler with
          mailbox := (state.schedulers scheduler).mailbox ++ [.REFRESH] } := rfl
    exact RefreshScheduler.awake_or_sleeping_step (phases scheduler) (by simp)
      sent
  · simp only [tell, Function.update_of_ne same]
    exact phases other

theorem balanceDue_tell (phases : Phased state.schedulers)
    {scheduler : RefreshScheduler}
    (due : state.BalanceDue ∨ scheduler = .balanceRefreshScheduler) :
    (state.tell scheduler .REFRESH).BalanceDue := by
  have asked : (.REFRESH ∈ (state.schedulers .balanceRefreshScheduler).mailbox ∨
        scheduler = .balanceRefreshScheduler) →
      .REFRESH ∈ ((state.tell scheduler .REFRESH).schedulers
        .balanceRefreshScheduler).mailbox := by
    rintro (waits | rfl)
    · by_cases same : RefreshScheduler.balanceRefreshScheduler = scheduler
      · subst scheduler
        simp [tell]
      · simpa [tell, same] using waits
    · simp [tell]
  rcases due with (node | electrum | waits | sleeping | posted) | balance
  · exact Or.inl node
  · exact Or.inr (Or.inl electrum)
  · exact Or.inr (Or.inr (Or.inl (asked (Or.inl waits))))
  · have behaviours : ((state.tell scheduler .REFRESH).schedulers
        .balanceRefreshScheduler).behaviours = [.sleep] := by
      rw [← sleeping.behaviours]
      by_cases same : RefreshScheduler.balanceRefreshScheduler = scheduler
      · subst scheduler
        simp [tell]
      · simp [tell, same]
    rcases phased_tell phases scheduler .balanceRefreshScheduler with
      awake | asleep
    · rw [awake.behaviours] at behaviours
      cases behaviours
    · exact Or.inr (Or.inr (Or.inr (Or.inl asleep)))
  · exact Or.inr (Or.inr (Or.inr (Or.inr posted)))
  · exact Or.inr (Or.inr (Or.inl (asked (Or.inr balance))))

theorem Inv.told {scheduler : RefreshScheduler} (inv : Inv state)
    (schedulers : next.schedulers = state.schedulers)
    (home : next.home = state.home)
    (mainQueue : next.mainQueue = state.mainQueue)
    (electrumState : next.electrumState = state.electrumState)
    (balances : next.currentBalances = state.currentBalances)
    (due : state.BalanceDue →
      next.BalanceDue ∨ scheduler = .balanceRefreshScheduler) :
    Inv (next.tell scheduler .REFRESH) := by
  have phases : Phased next.schedulers := by
    rw [schedulers]
    exact inv.phases
  refine inv.of_frame (phased_tell phases scheduler) home mainQueue
    electrumState ?_ (Or.inr balances)
  intro waits
  exact balanceDue_tell phases (due waits)

theorem Inv.nodeTells {scheduler : RefreshScheduler}
    {nodeTells : List RefreshScheduler} (inv : Inv state)
    (tells : state.nodeTells = scheduler :: nodeTells) :
    Inv ({ state with nodeTells := nodeTells }.tell scheduler .REFRESH) := by
  refine inv.told rfl rfl rfl rfl rfl ?_
  rintro (node | rest)
  · rw [tells] at node
    rcases List.mem_cons.mp node with first | later
    · exact Or.inr first.symm
    · exact Or.inl (Or.inl later)
  · exact Or.inl (Or.inr rest)

theorem Inv.electrumTells {scheduler : RefreshScheduler}
    {electrumTells : List RefreshScheduler} (inv : Inv state)
    (tells : state.electrumTells = scheduler :: electrumTells) :
    Inv ({ state with electrumTells := electrumTells }.tell scheduler
      .REFRESH) := by
  refine inv.told rfl rfl rfl rfl rfl ?_
  rintro (node | electrum | rest)
  · exact Or.inl (Or.inl node)
  · rw [tells] at electrum
    rcases List.mem_cons.mp electrum with first | later
    · exact Or.inr first.symm
    · exact Or.inl (Or.inr (Or.inl later))
  · exact Or.inl (Or.inr (Or.inr rest))

theorem Inv.nodeReceives {message : NodeMessage} {now : Nat} (inv : Inv state)
    (ready : state.nodeTells = [])
    (accepted : Accepted data state (.nodeReceives message now)) :
    Inv (state.nodeReceives core data now message) := by
  have due : ∀ {after : WalletState},
      after.electrumTells = state.electrumTells →
      after.schedulers = state.schedulers →
      after.mainQueue = state.mainQueue →
      state.BalanceDue → after.BalanceDue := by
    intro after electrum schedulers mainQueue waits
    rcases waits with node | rest
    · rw [ready] at node
      cases node
    · right
      rw [electrum, schedulers, mainQueue]
      exact rest
  have samePayments : ∀ {payments : Table Payment},
      SameOnchain state.payments payments →
      ∀ tells : List RefreshScheduler,
        ({ state with payments := payments, nodeTells := tells } :
          WalletState).currentBalances = state.currentBalances := by
    intro payments same tells
    exact currentBalances_congr rfl (same.getOnchainBalance _)
  cases message with
  | channel message =>
      refine inv.of_frame inv.phases rfl rfl rfl (due rfl rfl rfl) ?_
      have saved : ∀ ref previousState currentState currentData,
          message = .channelStateChanged ref previousState currentState
            currentData →
          (NodeSupervisor.onReceive data state.channelState now
            message).thrown = none := by
        rintro ref previousState currentState currentData rfl
        exact accepted (_, now) rfl
      rcases NodeSupervisor.balance_told_or_kept data state.channelState now
        message saved with told | kept
      · left
        left
        exact List.mem_filterMap.mpr ⟨.refreshBalance, told, rfl⟩
      · right
        exact currentBalances_congr kept rfl
  | channelSignatureSent nextRemoteCommit =>
      refine inv.of_frame inv.phases rfl rfl rfl (due rfl rfl rfl) (Or.inr ?_)
      exact samePayments
        (NodeSupervisor.onChannelSignatureSent_sameOnchain _ _ _) _
  | paymentFailed event =>
      refine inv.of_frame inv.phases rfl rfl rfl (due rfl rfl rfl) (Or.inr ?_)
      exact samePayments (NodeSupervisor.onPaymentFailed_sameOnchain _ _ _ _) _
  | paymentSucceeded event =>
      refine inv.of_frame inv.phases rfl rfl rfl (due rfl rfl rfl) (Or.inr ?_)
      exact samePayments (NodeSupervisor.onPaymentSucceeded_sameOnchain _ _ _) _

theorem Inv.electrumReceives {message : ElectrumMessage} {now : Nat}
    (inv : Inv state) (ready : state.electrumTells = []) :
    Inv (state.electrumReceives now message) := by
  rw [WalletState.electrumReceives]
  cases handled : ElectrumSupervisor.onReceive state.payments now message with
  | none => exact inv
  | some result =>
      obtain ⟨payments, effects⟩ := result
      refine inv.of_frame inv.phases rfl rfl rfl ?_ ?_
      · intro waits
        rcases waits with node | electrum | rest
        · exact Or.inl node
        · rw [ready] at electrum
          cases electrum
        · exact Or.inr (Or.inr rest)
      · cases message with
        | transactionReceived event =>
            simp only [ElectrumSupervisor.onReceive,
              ElectrumSupervisor.onTransactionReceived, Option.some.injEq,
              Prod.mk.injEq] at handled
            left
            right
            left
            simp [← handled.2, ElectrumEffect.scheduler]
        | transactionConfidenceChanged event =>
            right
            have same :=
              ElectrumSupervisor.onTransactionConfidenceChanged_sameOnchain
                handled
            exact currentBalances_congr rfl (same.getOnchainBalance _)

/-! ### The schedulers -/

theorem connects_calls_refresh (state : WalletState) (event : RefreshEvent) :
    ∀ post ∈ state.calls (.refresh event), post.event.connects = none := by
  intro post member
  obtain ⟨subscriber, _, rfl⟩ := List.mem_map.mp member
  rfl

theorem balanceDue_of_mainQueue {more : List PendingPost}
    (due : state.BalanceDue) :
    ({ state with mainQueue := state.mainQueue ++ more } :
      WalletState).BalanceDue := by
  rcases due with node | electrum | waits | sleeping | posted
  · exact Or.inl node
  · exact Or.inr (Or.inl electrum)
  · exact Or.inr (Or.inr (Or.inl waits))
  · exact Or.inr (Or.inr (Or.inr (Or.inl sleeping)))
  · obtain ⟨post, member, calls⟩ := posted
    exact Or.inr (Or.inr (Or.inr (Or.inr
      ⟨post, List.mem_append_left _ member, calls⟩)))

theorem connectedAfter_of_silent_tail {posts more : List PendingPost}
    {subscriber : Subscriber} {connected : Bool}
    (silent : ∀ post ∈ more, post.event.connects = none) :
    connectedAfter subscriber (posts ++ more) connected =
      connectedAfter subscriber posts connected := by
  rw [connectedAfter_append, connectedAfter_of_silent silent]

theorem Inv.schedulerStep {scheduler : RefreshScheduler}
    {event : Event SchedulerMessage} (inv : Inv state) (own : event.Internal)
    (result : state.schedulerStep scheduler event = some next) : Inv next := by
  rw [WalletState.schedulerStep, Option.map_eq_some_iff] at result
  obtain ⟨after, stepped, finished⟩ := result
  have phases : Phased (Function.update state.schedulers scheduler after) := by
    intro other
    by_cases same : other = scheduler
    · subst other
      rw [Function.update_self]
      refine RefreshScheduler.awake_or_sleeping_step (inv.phases scheduler) ?_
        stepped
      rintro rfl
      cases own
    · rw [Function.update_of_ne same]
      exact inv.phases other
  have others : ∀ other, other ≠ scheduler →
      Function.update state.schedulers scheduler after other =
        state.schedulers other :=
    fun other different => Function.update_of_ne different _ _
  rcases RefreshScheduler.posts_or_stays (inv.phases scheduler) own stepped with
    posts | ⟨silent, stillSleeps, stillAsked⟩
  · rw [posts] at finished
    subst next
    simp only [List.map_cons, List.map_nil, List.foldl_cons, List.foldl_nil]
    have silent := connects_calls_refresh
      { state with
        schedulers := Function.update state.schedulers scheduler after }
      scheduler.handleRefresh
    constructor
    · exact phases
    · intro screen shown
      by_cases same : scheduler = .balanceRefreshScheduler
      · subst scheduler
        have called : state.home.isSome = true := by
          rw [show state.home = some screen from shown]
          rfl
        left
        refine Or.inr (Or.inr (Or.inr (Or.inr
          ⟨{ subscriber := .homeActivity
             event := .refresh .balanceUpdateEvent },
            List.mem_append_right _ ?_, rfl, rfl⟩)))
        simp [calls, subscribers, called, RefreshScheduler.handleRefresh]
      · refine (inv.fresh screen shown).imp ?_ id
        intro due
        have kept := others .balanceRefreshScheduler (Ne.symm same)
        apply balanceDue_of_mainQueue
        simpa [BalanceDue, kept] using due
    · intro shown
      exact (inv.followed shown).append (followed_of_silent silent)
    · intro screen shown
      simp only [post, connectedAfter_of_silent_tail silent]
      exact inv.connected screen shown
  · rw [silent] at finished
    subst next
    refine inv.of_frame phases rfl rfl rfl ?_ (Or.inr rfl)
    intro due
    by_cases same : scheduler = .balanceRefreshScheduler
    · subst scheduler
      rcases due with node | electrum | waits | sleeping | posted
      · exact Or.inl node
      · exact Or.inr (Or.inl electrum)
      · rcases stillAsked waits with asked | asleep
        · refine Or.inr (Or.inr (Or.inl ?_))
          simpa using asked
        · refine Or.inr (Or.inr (Or.inr (Or.inl ?_)))
          simpa using asleep
      · refine Or.inr (Or.inr (Or.inr (Or.inl ?_)))
        simpa using stillSleeps sleeping
      · exact Or.inr (Or.inr (Or.inr (Or.inr posted)))
    · have kept := others .balanceRefreshScheduler (Ne.symm same)
      simpa [BalanceDue, kept] using due

/-! ### The main thread -/

/-- A read that falls into a handler is followed by a refresh. -/
theorem readLightning_cases {torn : Option Int} {lightning : Int}
    (read : state.readLightning torn = some lightning) :
    state.BalanceDue ∨ torn = none := by
  cases torn with
  | none => exact Or.inr rfl
  | some torn =>
      left
      left
      rw [readLightning] at read
      split at read
      · assumption
      · cases read

section Shown

variable {torn : Option Int} (phases : Phased state.schedulers)
  (followed : Followed state.mainQueue)
  (connected : connectedAfter .homeActivity state.mainQueue
      screen.canSendPayments =
    connectedAfter .app state.mainQueue
      (App.isWalletConnected state.electrumState))

include phases followed connected

theorem inv_of_shown
    (fresh : state.BalanceDue ∨ state.ShowsCurrent screen) :
    Inv { state with home := some screen } := by
  constructor
  · exact phases
  · rintro shown ⟨⟩
    exact fresh
  · intro _
    exact followed
  · rintro shown ⟨⟩
    exact connected

theorem inv_of_read (read : state.updateBalance torn = some screen.balances) :
    Inv { state with home := some screen } := by
  apply inv_of_shown phases followed connected
  obtain ⟨lightning, seen, _⟩ := Option.bind_eq_some_iff.mp read
  refine (readLightning_cases seen).imp id ?_
  rintro rfl balances current
  exact Option.some.inj (read.symm.trans current)

theorem inv_of_tried (result : state.tryBalances screen torn = some next) :
    Inv next := by
  obtain ⟨lightning, seen, rfl⟩ := Option.map_eq_some_iff.mp result
  cases tried : state.setBalances screen torn with
  | some next =>
      obtain ⟨balances, read, rfl⟩ := Option.map_eq_some_iff.mp tried
      exact inv_of_read phases followed connected read
  | none =>
      apply inv_of_shown phases followed connected
      refine (readLightning_cases seen).imp id ?_
      rintro rfl balances current
      rw [WalletState.setBalances, Option.map_eq_none_iff] at tried
      cases tried.symm.trans current

end Shown

theorem Inv.setBalances {torn : Option Int} (inv : Inv state)
    (shown : state.home = some screen)
    (result : state.setBalances screen torn = some next) : Inv next := by
  rw [WalletState.setBalances, Option.map_eq_some_iff] at result
  obtain ⟨balances, read, rfl⟩ := result
  refine inv_of_read inv.phases (inv.followed ?_) (inv.connected screen shown)
    read
  rw [shown]
  rfl

theorem Inv.launchHome {torn : Option Int} (inv : Inv state)
    (attended : Attended state (.launchHome torn))
    (result : state.launchHome torn = some next) : Inv next := by
  rw [WalletState.launchHome] at result
  split at result
  · cases result
  · rw [Option.map_eq_some_iff] at result
    obtain ⟨balances, read, rfl⟩ := result
    have silent := attended rfl
    refine inv_of_read inv.phases (followed_of_silent silent) ?_ read
    rw [connectedAfter_of_silent silent, connectedAfter_of_silent silent]

theorem inv_of_absent (phases : Phased state.schedulers)
    (absent : state.home = none) : Inv state := by
  constructor
  · exact phases
  · intro screen shown
    cases absent.symm.trans shown
  · intro shown
    rw [absent] at shown
    cases shown
  · intro screen shown
    cases absent.symm.trans shown

/-- News of the connection call the application and then the home screen. -/
theorem calls_electrum (attached : state.home.isSome = true)
    (event : ElectrumEvent) :
    Followed (state.calls (.electrum event)) ∧
      ∀ subscriber connected,
        connectedAfter subscriber (state.calls (.electrum event)) connected =
          event.connects.getD connected := by
  cases event with
  | electrumReady serverAddress =>
      have called : state.calls (.electrum (.electrumReady serverAddress)) =
          [{ subscriber := .app
             event := .electrum (.electrumReady serverAddress) }] := by
        simp [calls, subscribers, List.filter_cons]
      rw [called]
      constructor
      · simp [Followed, BusEvent.connects, ElectrumEvent.connects]
      · intro subscriber connected
        cases subscriber <;> rfl
  | walletReady confirmedBalance unconfirmedBalance timestamp =>
      generalize ready : ElectrumEvent.walletReady confirmedBalance
        unconfirmedBalance timestamp = event
      have called : state.calls (.electrum event) =
          [{ subscriber := .app, event := .electrum event },
            { subscriber := .homeActivity, event := .electrum event }] := by
        subst event
        simp [calls, subscribers, List.filter_cons, attached]
      rw [called]
      subst event
      constructor
      · simp [Followed, BusEvent.updatesBalance]
      · intro subscriber connected
        cases subscriber <;> rfl
  | electrumDisconnected =>
      have called : state.calls (.electrum .electrumDisconnected) =
          [{ subscriber := .app, event := .electrum .electrumDisconnected },
            { subscriber := .homeActivity
              event := .electrum .electrumDisconnected }] := by
        simp [calls, subscribers, List.filter_cons, attached]
      rw [called]
      constructor
      · simp [Followed, BusEvent.connects, ElectrumEvent.connects]
      · intro subscriber connected
        cases subscriber <;> rfl

theorem Inv.electrumPosts (inv : Inv state) (event : ElectrumEvent) :
    Inv (state.post (.electrum event)) := by
  constructor
  · exact inv.phases
  · intro screen shown
    exact (inv.fresh screen shown).imp balanceDue_of_mainQueue id
  · intro shown
    exact (inv.followed shown).append (calls_electrum shown event).1
  · intro screen shown
    have attached : state.home.isSome = true := by
      rw [show state.home = some screen from shown]
      rfl
    have known := (calls_electrum attached event).2
    have both := inv.connected screen shown
    simp only [post, connectedAfter_append, known, both]

/-- Only new balances change what the application takes the on-chain balance
from. -/
theorem getOnchainBalance_handle {event : ElectrumEvent}
    (other : event.connects ≠ some true)
    (electrumState : Option ElectrumState) (payments : Table Payment) :
    App.getOnchainBalance (App.handle electrumState event) payments =
      App.getOnchainBalance electrumState payments := by
  cases event with
  | walletReady confirmedBalance unconfirmedBalance timestamp =>
      exact absurd rfl other
  | electrumDisconnected =>
      rcases electrumState with _ | ⟨_ | _, _ | _, _, _, _⟩ <;> rfl
  | electrumReady serverAddress =>
      rcases electrumState with _ | ⟨_ | _, _ | _, _, _, _⟩ <;> rfl

theorem isWalletConnected_handle (electrumState : Option ElectrumState)
    (event : ElectrumEvent) :
    App.isWalletConnected (App.handle electrumState event) =
      event.connects.getD (App.isWalletConnected electrumState) := by
  cases event with
  | electrumReady serverAddress => cases electrumState <;> rfl
  | _ => rfl

section FirstCall

variable {post : PendingPost} {mainQueue : List PendingPost}

/-- The call that is made is not the refresh on its way. -/
theorem balanceDue_of_first (queue : state.mainQueue = post :: mainQueue)
    (other : ¬ (post.subscriber = .homeActivity ∧
      post.event.updatesBalance = true))
    (due : state.BalanceDue) :
    ({ state with mainQueue := mainQueue } : WalletState).BalanceDue := by
  rcases due with node | electrum | waits | sleeping | posted
  · exact Or.inl node
  · exact Or.inr (Or.inl electrum)
  · exact Or.inr (Or.inr (Or.inl waits))
  · exact Or.inr (Or.inr (Or.inr (Or.inl sleeping)))
  · obtain ⟨refresh, member, calls⟩ := posted
    rw [queue] at member
    rcases List.mem_cons.mp member with rfl | later
    · exact absurd calls other
    · exact Or.inr (Or.inr (Or.inr (Or.inr ⟨refresh, later, calls⟩)))

theorem Inv.followed_rest (inv : Inv state)
    (queue : state.mainQueue = post :: mainQueue)
    (shown : state.home.isSome = true) : Followed mainQueue := by
  have followed := inv.followed shown
  rw [queue] at followed
  exact followed.2

theorem Inv.connected_first (inv : Inv state)
    (queue : state.mainQueue = post :: mainQueue)
    (shown : state.home = some screen) :
    connectedAfter .homeActivity mainQueue
        (if post.subscriber = .homeActivity then
          post.event.connects.getD screen.canSendPayments
        else screen.canSendPayments) =
      connectedAfter .app mainQueue
        (if post.subscriber = .app then
          post.event.connects.getD (App.isWalletConnected state.electrumState)
        else App.isWalletConnected state.electrumState) := by
  have both := inv.connected screen shown
  rw [queue] at both
  exact both

theorem Inv.ignored (inv : Inv state)
    (queue : state.mainQueue = post :: mainQueue)
    (silent : post.event.connects = none)
    (other : ¬ (post.subscriber = .homeActivity ∧
      post.event.updatesBalance = true)) :
    Inv { state with mainQueue := mainQueue } := by
  constructor
  · exact inv.phases
  · intro screen shown
    exact (inv.fresh screen shown).imp (balanceDue_of_first queue other) id
  · exact inv.followed_rest queue
  · intro screen shown
    have both := inv.connected_first queue shown
    rw [silent, Option.getD_none, Option.getD_none, ite_self, ite_self] at both
    exact both

theorem Inv.appHandles {event : ElectrumEvent} (inv : Inv state)
    (queue : state.mainQueue =
      { subscriber := .app, event := .electrum event } :: mainQueue) :
    Inv { state with
      mainQueue := mainQueue
      electrumState := App.handle state.electrumState event } := by
  constructor
  · exact inv.phases
  · intro screen shown
    by_cases ready : event.connects = some true
    · -- the home screen is called next, and then updates the balances
      have followed := inv.followed (by
        rw [show state.home = some screen from shown]
        rfl)
      rw [queue] at followed
      rcases followed.1 ready with own | later
      · cases own
      · exact Or.inl (Or.inr (Or.inr (Or.inr (Or.inr later))))
    · refine (inv.fresh screen shown).imp ?_ ?_
      · intro due
        have rest := balanceDue_of_first queue (by simp) due
        exact rest
      · intro current balances read
        apply current
        rw [← read]
        symm
        exact currentBalances_congr rfl (getOnchainBalance_handle ready _ _)
  · exact inv.followed_rest queue
  · intro screen shown
    have both := inv.connected_first queue shown
    rw [isWalletConnected_handle]
    exact both

theorem Inv.homeHandles {event : BusEvent} {torn : Option Int}
    (inv : Inv state)
    (queue : state.mainQueue =
      { subscriber := .homeActivity, event := event } :: mainQueue)
    (shown : state.home = some screen)
    (result : ({ state with mainQueue := mainQueue } :
      WalletState).homeHandles screen torn event = some next) : Inv next := by
  have attached : state.home.isSome = true := by
    rw [shown]
    rfl
  have followed := inv.followed_rest queue attached
  have both := inv.connected_first queue shown
  simp only [if_true, reduceCtorEq, if_false] at both
  have reads : ∀ {canSendPayments : Bool},
      ({ state with mainQueue := mainQueue } : WalletState).tryBalances
        { screen with canSendPayments := canSendPayments } torn = some next →
      connectedAfter .homeActivity mainQueue canSendPayments =
        connectedAfter .app mainQueue
          (App.isWalletConnected state.electrumState) → Inv next := by
    intro canSendPayments result connected
    refine inv_of_tried ?_ ?_ ?_ result
    · exact inv.phases
    · exact followed
    · exact connected
  cases event with
  | electrum event =>
      cases event with
      | walletReady confirmedBalance unconfirmedBalance timestamp =>
          exact reads result both
      | electrumDisconnected =>
          cases result
          constructor
          · exact inv.phases
          · rintro after ⟨⟩
            refine (inv.fresh screen shown).imp ?_ id
            intro due
            have rest := balanceDue_of_first queue
              (by simp [BusEvent.updatesBalance]) due
            exact rest
          · intro _
            exact followed
          · rintro after ⟨⟩
            exact both
      | electrumReady serverAddress =>
          cases result
          exact inv.ignored queue rfl (by simp [BusEvent.updatesBalance])
  | refresh event =>
      cases event with
      | balanceUpdateEvent => exact reads result both
      | paymentEvent =>
          cases result
          exact inv.ignored queue rfl (by simp [BusEvent.updatesBalance])
      | channelUpdateEvent =>
          cases result
          exact inv.ignored queue rfl (by simp [BusEvent.updatesBalance])

end FirstCall

theorem Inv.mainRuns {torn : Option Int} (inv : Inv state)
    (result : state.mainRuns torn = some next) : Inv next := by
  rw [WalletState.mainRuns] at result
  cases queue : state.mainQueue with
  | nil =>
      rw [queue] at result
      cases result
  | cons post mainQueue =>
      rw [queue] at result
      obtain ⟨subscriber, event⟩ := post
      cases subscriber with
      | app =>
          cases event with
          | electrum event =>
              cases result
              exact inv.appHandles queue
          | refresh event =>
              cases result
              exact inv.ignored queue rfl (by simp)
      | homeActivity =>
          dsimp only at result
          split at result
          · exact inv.homeHandles queue ‹_› result
          · cases result
            exact inv_of_absent inv.phases ‹_›

/-! ### Runs -/

theorem Inv.step {event : WalletEvent} (inv : Inv state)
    (accepted : Accepted data state event) (attended : Attended state event)
    (result : step core data state event = some next) : Inv next := by
  cases event with
  | nodeReceives message now =>
      simp only [WalletState.step] at result
      split at result
      · cases result
        exact inv.nodeReceives ‹_› accepted
      · cases result
  | nodeTells =>
      simp only [WalletState.step] at result
      split at result
      · cases result
      · cases result
        exact inv.nodeTells ‹_›
  | electrumReceives message now =>
      simp only [WalletState.step] at result
      split at result
      · cases result
        exact inv.electrumReceives ‹_›
      · cases result
  | electrumTells =>
      simp only [WalletState.step] at result
      split at result
      · cases result
      · cases result
        exact inv.electrumTells ‹_›
  | electrumPosts event =>
      simp only [WalletState.step] at result
      split at result
      · cases result
        exact inv.electrumPosts event
      · cases result
  | timerFires scheduler timer =>
      have own : (Event.fire timer : Event SchedulerMessage).Internal := trivial
      exact inv.schedulerStep own result
  | schedulerProcesses scheduler =>
      have own : (Event.process : Event SchedulerMessage).Internal := trivial
      exact inv.schedulerStep own result
  | mainRuns torn => exact inv.mainRuns result
  | launchHome torn => exact inv.launchHome attended result
  | resumeHome torn =>
      obtain ⟨screen, shown, read⟩ := Option.bind_eq_some_iff.mp result
      exact inv.setBalances shown read
  | pullToRefresh torn =>
      obtain ⟨screen, shown, read⟩ := Option.bind_eq_some_iff.mp result
      exact inv.setBalances shown read
  | destroyHome =>
      obtain ⟨screen, _, rfl⟩ := Option.map_eq_some_iff.mp result
      exact inv_of_absent inv.phases rfl

theorem inv_start (channels : Table LocalChannelRow)
    (payments : Table Payment) : Inv (start channels payments) :=
  inv_of_absent (fun _ => Or.inl RefreshScheduler.awake_start) rfl

end WalletState

end EclairWallet
