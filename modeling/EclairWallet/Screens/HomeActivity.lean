import EclairWallet.Actors.RefreshScheduler
import EclairWallet.Channel.Balance
import EclairWallet.Payment.ElectrumSupervisor
import EclairWallet.Payment.SendScreen

/-!
# The balances on the home screen

The node supervisor and the electrum supervisor change what the balances are
read from and tell the refresh schedulers, which post to the event bus; the bus
puts a call for each subscriber into the queue of the main thread, where the
application and the home screen handle it.  All of these run next to each
other, and a read on the main thread may fall into the middle of a handler.
-/

namespace EclairWallet

open Actors JavaLong

/-- The messages of `NodeSupervisor.onReceive` that change the channels map or
one of the tables. -/
inductive NodeMessage where
  | channel (message : ChannelMessage)
  | channelSignatureSent (nextRemoteCommit : Option (List DirectedHtlc))
  | paymentFailed (event : PaymentFailed)
  | paymentSucceeded (event : PaymentSucceeded)

/-- The electrum events that the electrum supervisor posts as they are. -/
inductive ElectrumEvent where
  | walletReady (confirmedBalance unconfirmedBalance timestamp : Int)
  | electrumDisconnected
  | electrumReady (serverAddress : String)
  deriving DecidableEq, Repr

inductive BusEvent where
  | electrum (event : ElectrumEvent)
  | refresh (event : RefreshEvent)
  deriving DecidableEq, Repr

/-- In the order in which they register. -/
inductive Subscriber where
  | app
  | homeActivity
  deriving DecidableEq, Repr

/-- A call of a subscriber that waits for the main thread. -/
structure PendingPost where
  subscriber : Subscriber
  event : BusEvent
  deriving DecidableEq, Repr

/-- `App.ElectrumState`. -/
structure ElectrumState where
  confirmedBalance : Option Int := none
  unconfirmedBalance : Option Int := none
  blockTimestamp : Int := 0
  address : Option String := none
  isConnected : Bool := false
  deriving DecidableEq, Repr

/-- The three amounts of the home screen, in millisatoshi. -/
structure Balances where
  total : Int
  onchain : Int
  lightning : Int
  deriving DecidableEq, Repr

structure HomeScreen where
  canSendPayments : Bool
  balances : Balances
  deriving DecidableEq, Repr

/-- `millisatoshi2satoshi`. -/
def millisatoshi2satoshi (amountMsat : Int) : Int :=
  amountMsat.tdiv 1000

namespace App

/-- What the application makes of an electrum event, on the main thread. -/
def handle (electrumState : Option ElectrumState) :
    ElectrumEvent → Option ElectrumState
  | .walletReady confirmedBalance unconfirmedBalance timestamp =>
      some { electrumState.getD {} with
        confirmedBalance := some confirmedBalance
        unconfirmedBalance := some unconfirmedBalance
        blockTimestamp := timestamp
        isConnected := true }
  | .electrumDisconnected =>
      some { electrumState.getD {} with isConnected := false }
  | .electrumReady serverAddress =>
      some { electrumState.getD {} with address := some serverAddress }

def isWalletConnected (electrumState : Option ElectrumState) : Bool :=
  electrumState.any ElectrumState.isConnected

/-- In satoshi; from the table as long as electrum has sent no data, and none
when one of its sums overflows. -/
def getOnchainBalance (electrumState : Option ElectrumState)
    (payments : Table Payment) : Option Int :=
  match electrumState with
  | some
    { confirmedBalance := some confirmed
      unconfirmedBalance := some unconfirmed, .. } =>
      some (toLong (confirmed + unconfirmed))
  | _ => (DBHelper.getOnchainBalanceMsat payments).map millisatoshi2satoshi

end App

/-- A handler that is not finished has refreshes left to ask for. -/
structure WalletState where
  channelState : ChannelState
  payments : Table Payment
  nodeTells : List RefreshScheduler := []
  electrumTells : List RefreshScheduler := []
  schedulers : RefreshScheduler → RefreshScheduler.State :=
    fun _ => RefreshScheduler.start
  mainQueue : List PendingPost := []
  electrumState : Option ElectrumState := none
  home : Option HomeScreen := none

/-- `torn` is what a read of the channels map sees that falls into a handler
which is changing it, before the handler asks for the refresh. -/
inductive WalletEvent where
  | nodeReceives (message : NodeMessage) (now : Nat)
  | nodeTells
  | electrumReceives (message : ElectrumMessage) (now : Nat)
  | electrumTells
  | electrumPosts (event : ElectrumEvent)
  | timerFires (scheduler : RefreshScheduler) (timer : Nat)
  | schedulerProcesses (scheduler : RefreshScheduler)
  | mainRuns (torn : Option Int)
  | launchHome (torn : Option Int)
  | resumeHome (torn : Option Int)
  | pullToRefresh (torn : Option Int)
  | destroyHome

namespace ChannelEffect

def scheduler : ChannelEffect → Option RefreshScheduler
  | .refreshBalance => some .balanceRefreshScheduler
  | .refreshChannels => some .channelsRefreshScheduler
  | _ => none

end ChannelEffect

namespace PaymentEffect

def scheduler : PaymentEffect → Option RefreshScheduler
  | .refreshPayments => some .paymentsRefreshScheduler
  | _ => none

end PaymentEffect

namespace ElectrumEffect

def scheduler : ElectrumEffect → RefreshScheduler
  | .refreshPayments => .paymentsRefreshScheduler
  | .refreshBalance => .balanceRefreshScheduler

end ElectrumEffect

namespace WalletState

/-! ## Reading the balances -/

/-- The channels balance as the main thread reads it. -/
def readLightning (state : WalletState) : Option Int → Option Int
  | none => some (NodeSupervisor.getChannelsBalance state.channelState)
  | some torn =>
      if .balanceRefreshScheduler ∈ state.nodeTells then some torn else none

/-- `updateBalance`: none when the read of the table throws. -/
def updateBalance (state : WalletState) (torn : Option Int) :
    Option Balances :=
  (state.readLightning torn).bind (fun lightning =>
    (App.getOnchainBalance state.electrumState state.payments).map
      (fun onchain =>
        { total := toLong (lightning + satoshi2millisatoshi onchain)
          onchain := satoshi2millisatoshi onchain
          lightning := lightning }))

/-- The balances there are. -/
def currentBalances (state : WalletState) : Option Balances :=
  state.updateBalance none

/-! ## The event bus -/

/-- Who has a method for the event, in the order of the calls. -/
def subscribers : BusEvent → List Subscriber
  | .electrum (.electrumReady _) => [.app]
  | .electrum _ => [.app, .homeActivity]
  | .refresh _ => [.homeActivity]

/-- The application registers once and for all. -/
def registered (state : WalletState) : Subscriber → Bool
  | .app => true
  | .homeActivity => state.home.isSome

@[simp] theorem registered_app (state : WalletState) :
    state.registered .app = true :=
  rfl

@[simp] theorem registered_homeActivity (state : WalletState) :
    state.registered .homeActivity = state.home.isSome :=
  rfl

/-- The calls of the subscribers registered when the event is posted. -/
def calls (state : WalletState) (event : BusEvent) : List PendingPost :=
  ((subscribers event).filter state.registered).map (fun subscriber =>
    { subscriber := subscriber, event := event })

def post (state : WalletState) (event : BusEvent) : WalletState :=
  { state with mainQueue := state.mainQueue ++ state.calls event }

/-! ## The handlers -/

/-- `NodeSupervisor.onReceive`. -/
def nodeReceives (core : EclairCore) (data : ErrorData) (state : WalletState)
    (now : Nat) : NodeMessage → WalletState
  | .channel message =>
      let handled :=
        NodeSupervisor.onReceive data state.channelState now message
      { state with
        channelState := handled.state
        nodeTells := handled.effects.filterMap ChannelEffect.scheduler }
  | .channelSignatureSent nextRemoteCommit =>
      let handled := NodeSupervisor.onChannelSignatureSent state.payments
        nextRemoteCommit now
      { state with
        payments := handled.state
        nodeTells := handled.effects.filterMap PaymentEffect.scheduler }
  | .paymentFailed event =>
      let handled := NodeSupervisor.onPaymentFailed core.transformForUser
        state.payments event now
      { state with
        payments := handled.state
        nodeTells := handled.effects.filterMap PaymentEffect.scheduler }
  | .paymentSucceeded event =>
      let handled :=
        NodeSupervisor.onPaymentSucceeded state.payments event now
      { state with
        payments := handled.state
        nodeTells := handled.effects.filterMap PaymentEffect.scheduler }

/-- `ElectrumSupervisor.onReceive`; an exception leaves everything as it
is. -/
def electrumReceives (state : WalletState) (now : Nat)
    (message : ElectrumMessage) : WalletState :=
  match ElectrumSupervisor.onReceive state.payments now message with
  | some (payments, effects) =>
      { state with
        payments := payments
        electrumTells := effects.map ElectrumEffect.scheduler }
  | none => state

/-- A message for one of the schedulers. -/
def tell (state : WalletState) (scheduler : RefreshScheduler)
    (message : SchedulerMessage) : WalletState :=
  { state with
    schedulers := Function.update state.schedulers scheduler
      { state.schedulers scheduler with
        mailbox := (state.schedulers scheduler).mailbox ++ [message] } }

def calledEvent : RefreshScheduler.LogEntry → Option RefreshEvent
  | .called event => some event
  | .received _ _ => none

@[simp] theorem calledEvent_called (event : RefreshEvent) :
    calledEvent (.called event) = some event :=
  rfl

@[simp] theorem calledEvent_received (behaviour : RefreshScheduler.Behaviour)
    (message : SchedulerMessage) :
    calledEvent (.received behaviour message) = none :=
  rfl

/-- What an actor called between two states of its log, in order. -/
def calledSince (before after : RefreshScheduler.State) :
    List RefreshEvent :=
  ((after.log.take (after.log.length - before.log.length)).filterMap
    calledEvent).reverse

/-- A scheduler does something by itself, and posts what it refreshes. -/
def schedulerStep (state : WalletState) (scheduler : RefreshScheduler)
    (event : Event SchedulerMessage) : Option WalletState :=
  let before := state.schedulers scheduler
  (scheduler.step before event).map (fun after =>
    ((calledSince before after).map BusEvent.refresh).foldl post
      { state with
        schedulers := Function.update state.schedulers scheduler after })

/-! ## The main thread -/

def setBalances (state : WalletState) (screen : HomeScreen)
    (torn : Option Int) : Option WalletState :=
  (state.updateBalance torn).map (fun balances =>
    { state with home := some { screen with balances := balances } })

/-- The same for a subscriber of the bus, which catches what is thrown: the
balances stay then. -/
def tryBalances (state : WalletState) (screen : HomeScreen)
    (torn : Option Int) : Option WalletState :=
  (state.readLightning torn).map (fun _ =>
    (state.setBalances screen torn).getD { state with home := some screen })

/-- The home screen handles an event of the bus. -/
def homeHandles (state : WalletState) (screen : HomeScreen)
    (torn : Option Int) : BusEvent → Option WalletState
  | .electrum (.walletReady _ _ _) =>
      state.tryBalances { screen with canSendPayments := true } torn
  | .electrum .electrumDisconnected =>
      some { state with home := some { screen with canSendPayments := false } }
  | .electrum (.electrumReady _) => some state
  | .refresh .balanceUpdateEvent => state.tryBalances screen torn
  | .refresh _ => some state

/-- The main thread makes the first call of its queue. -/
def mainRuns (state : WalletState) (torn : Option Int) : Option WalletState :=
  match state.mainQueue with
  | [] => none
  | post :: mainQueue =>
      let state := { state with mainQueue := mainQueue }
      match post.subscriber, post.event with
      | .app, .electrum event =>
          some { state with
            electrumState := App.handle state.electrumState event }
      | .app, .refresh _ => some state
      | .homeActivity, event =>
          match state.home with
          | some screen => state.homeHandles screen torn event
          | none => some state

/-- `onCreate` to `onResume`, in one turn of the main thread. -/
def launchHome (state : WalletState) (torn : Option Int) :
    Option WalletState :=
  match state.home with
  | some _ => none
  | none =>
      (state.updateBalance torn).map (fun balances =>
        { state with
          home := some
            { canSendPayments := App.isWalletConnected state.electrumState
              balances := balances } })

/-- `onDestroy`: the subscriber is gone, and the calls that wait for it are
not made. -/
def destroyHome (state : WalletState) : WalletState :=
  { state with
    home := none
    mainQueue := state.mainQueue.filter (fun post => post.subscriber = .app) }

/-! ## The system -/

/-- One step: none when the event cannot happen.  A supervisor takes its next
message only after it has finished with the last. -/
def step (core : EclairCore) (data : ErrorData) (state : WalletState) :
    WalletEvent → Option WalletState
  | .nodeReceives message now =>
      if state.nodeTells = [] then
        some (state.nodeReceives core data now message)
      else none
  | .nodeTells =>
      match state.nodeTells with
      | [] => none
      | scheduler :: nodeTells =>
          some ({ state with nodeTells := nodeTells }.tell scheduler .REFRESH)
  | .electrumReceives message now =>
      if state.electrumTells = [] then
        some (state.electrumReceives now message)
      else none
  | .electrumTells =>
      match state.electrumTells with
      | [] => none
      | scheduler :: electrumTells =>
          some ({ state with electrumTells := electrumTells }.tell scheduler
            .REFRESH)
  | .electrumPosts event =>
      if state.electrumTells = [] then some (state.post (.electrum event))
      else none
  | .timerFires scheduler timer => state.schedulerStep scheduler (.fire timer)
  | .schedulerProcesses scheduler => state.schedulerStep scheduler .process
  | .mainRuns torn => state.mainRuns torn
  | .launchHome torn => state.launchHome torn
  | .resumeHome torn =>
      state.home.bind (fun screen => state.setBalances screen torn)
  | .pullToRefresh torn =>
      state.home.bind (fun screen => state.setBalances screen torn)
  | .destroyHome =>
      state.home.map (fun _ => state.destroyHome)

/-- A process that has just started. -/
def start (channels : Table LocalChannelRow) (payments : Table Payment) :
    WalletState :=
  { channelState := ChannelState.start channels, payments := payments }

end WalletState

end EclairWallet
