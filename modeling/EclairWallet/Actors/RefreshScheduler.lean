import EclairWallet.Library.Actors

/-!
# The refresh scheduler

A refresh request puts the scheduler to sleep for a second; the requests that
arrive meanwhile are dropped, and the wake-up refreshes for all of them.
-/

namespace EclairWallet

open Actors

inductive SchedulerMessage where
  | REFRESH
  | WAKE_UP
  | other
  deriving DecidableEq, Repr

/-- The event bus messages of the three schedulers. -/
inductive RefreshEvent where
  | paymentEvent
  | channelUpdateEvent
  | balanceUpdateEvent
  deriving DecidableEq, Repr

inductive RefreshScheduler where
  | paymentsRefreshScheduler
  | channelsRefreshScheduler
  | balanceRefreshScheduler
  deriving DecidableEq, Repr

namespace RefreshScheduler

inductive Behaviour where
  | onReceive
  | sleep
  deriving DecidableEq, Repr

abbrev Action := Effect Behaviour SchedulerMessage RefreshEvent

abbrev State := Actor Behaviour SchedulerMessage RefreshEvent

abbrev LogEntry := Entry Behaviour SchedulerMessage RefreshEvent

/-- The event `handleRefresh` posts. -/
def handleRefresh : RefreshScheduler → RefreshEvent
  | .paymentsRefreshScheduler => .paymentEvent
  | .channelsRefreshScheduler => .channelUpdateEvent
  | .balanceRefreshScheduler => .balanceUpdateEvent

def onReceive (message : SchedulerMessage) : List Action :=
  if message = .REFRESH then [.scheduleOnce .WAKE_UP, .become .sleep] else []

def sleep (scheduler : RefreshScheduler) (message : SchedulerMessage) :
    List Action :=
  if message = .WAKE_UP then [.call scheduler.handleRefresh, .unbecome] else []

def handle (scheduler : RefreshScheduler) :
    Behaviour → SchedulerMessage → List Action
  | .onReceive => onReceive
  | .sleep => scheduler.sleep

def step (scheduler : RefreshScheduler) :
    State → Event SchedulerMessage → Option State :=
  Actor.step .onReceive scheduler.handle

/-- A new scheduler. -/
def start : State :=
  { behaviours := [.onReceive] }

def Asleep (state : State) : Prop :=
  state.behaviour .onReceive = .sleep

/-- Wake-ups come from the scheduler's own timers. -/
def OwnWakeUps (events : List (Event SchedulerMessage)) : Prop :=
  ∀ event ∈ events, event ≠ .send .WAKE_UP

instance (events : List (Event SchedulerMessage)) :
    Decidable (OwnWakeUps events) :=
  inferInstanceAs (Decidable (∀ _ ∈ _, _))

/-! ## Reading the log -/

def isHandleRefresh : LogEntry → Bool
  | .called _ => true
  | .received _ _ => false

def isReceived (message : SchedulerMessage) : LogEntry → Bool
  | .called _ => false
  | .received _ received => received = message

def isReceivedBy (behaviour : Behaviour) (message : SchedulerMessage) :
    LogEntry → Bool
  | .called _ => false
  | .received current received => current = behaviour ∧ received = message

def handleRefreshCalls (log : List LogEntry) : Nat :=
  log.countP isHandleRefresh

def wakeUpsDelivered (log : List LogEntry) : Nat :=
  log.countP (isReceived .WAKE_UP)

def refreshesAwake (log : List LogEntry) : Nat :=
  log.countP (isReceivedBy .onReceive .REFRESH)

/-- Some refresh was received since the last call of `handleRefresh`. -/
def RefreshWaits (log : List LogEntry) : Prop :=
  ∃ entry ∈ log.takeWhile (fun entry => ! isHandleRefresh entry),
    isReceived .REFRESH entry = true

section Log

variable (behaviour : Behaviour) (message : SchedulerMessage)
  (event : RefreshEvent) (log : List LogEntry)

@[simp] theorem handleRefreshCalls_called :
    handleRefreshCalls (.called event :: log) = handleRefreshCalls log + 1 := by
  simp [handleRefreshCalls, isHandleRefresh, List.countP_cons]

@[simp] theorem handleRefreshCalls_received :
    handleRefreshCalls (.received behaviour message :: log) =
      handleRefreshCalls log := by
  simp [handleRefreshCalls, isHandleRefresh]

@[simp] theorem wakeUpsDelivered_called :
    wakeUpsDelivered (.called event :: log) = wakeUpsDelivered log := by
  simp [wakeUpsDelivered, isReceived]

@[simp] theorem wakeUpsDelivered_received :
    wakeUpsDelivered (.received behaviour message :: log) =
      wakeUpsDelivered log + if message = .WAKE_UP then 1 else 0 := by
  simp [wakeUpsDelivered, isReceived, List.countP_cons]

@[simp] theorem refreshesAwake_called :
    refreshesAwake (.called event :: log) = refreshesAwake log := by
  simp [refreshesAwake, isReceivedBy]

@[simp] theorem refreshesAwake_received :
    refreshesAwake (.received behaviour message :: log) =
      refreshesAwake log +
        if behaviour = .onReceive ∧ message = .REFRESH then 1 else 0 := by
  simp [refreshesAwake, isReceivedBy, List.countP_cons]

@[simp] theorem not_refreshWaits_called :
    ¬ RefreshWaits (.called event :: log) := by
  simp [RefreshWaits, isHandleRefresh]

@[simp] theorem refreshWaits_received :
    RefreshWaits (.received behaviour message :: log) ↔
      message = .REFRESH ∨ RefreshWaits log := by
  simp [RefreshWaits, isHandleRefresh, isReceived]

end Log

/-! ## What a message does -/

section Receive

variable {scheduler : RefreshScheduler} {state : State}
  {message : SchedulerMessage} {mailbox : List SchedulerMessage}

theorem receive_refresh_awake (awake : state.behaviours = [.onReceive]) :
    state.receive .onReceive scheduler.handle .REFRESH mailbox =
      { behaviours := [.sleep]
        mailbox := mailbox
        timers := state.timers ++ [.WAKE_UP]
        log := .received .onReceive .REFRESH :: state.log } := by
  simp [Actor.receive, Actor.behaviour, awake, handle, onReceive,
    Actor.perform]

theorem receive_wakeUp_asleep (asleep : state.behaviours = [.sleep]) :
    state.receive .onReceive scheduler.handle .WAKE_UP mailbox =
      { behaviours := [.onReceive]
        mailbox := mailbox
        timers := state.timers
        log := .called scheduler.handleRefresh ::
          .received .sleep .WAKE_UP :: state.log } := by
  simp [Actor.receive, Actor.behaviour, asleep, handle, sleep, Actor.perform]

theorem receive_ignored {behaviour : Behaviour}
    (current : state.behaviours = [behaviour])
    (ignored : scheduler.handle behaviour message = []) :
    state.receive .onReceive scheduler.handle message mailbox =
      { behaviours := [behaviour]
        mailbox := mailbox
        timers := state.timers
        log := .received behaviour message :: state.log } := by
  simp [Actor.receive, Actor.behaviour, current, ignored]

end Receive

/-! ## The invariant -/

/-- The scheduler is awake, no wake-up is on its way and no refresh waits. -/
structure Awake (state : State) : Prop where
  behaviours : state.behaviours = [.onReceive]
  outstanding : state.outstanding .WAKE_UP = 0
  answered : ¬ RefreshWaits state.log
  calls : handleRefreshCalls state.log = refreshesAwake state.log
  delivered : handleRefreshCalls state.log = wakeUpsDelivered state.log

/-- The scheduler is asleep and one wake-up is on its way. -/
structure Sleeping (state : State) : Prop where
  behaviours : state.behaviours = [.sleep]
  outstanding : state.outstanding .WAKE_UP = 1
  calls : handleRefreshCalls state.log + 1 = refreshesAwake state.log
  delivered : handleRefreshCalls state.log = wakeUpsDelivered state.log

section Step

variable {scheduler : RefreshScheduler} {state next : State}
  {message : SchedulerMessage} {mailbox : List SchedulerMessage}

theorem awake_start : Awake start :=
  { behaviours := rfl
    outstanding := rfl
    answered := by simp [RefreshWaits, start]
    calls := rfl
    delivered := rfl }

/-- The wake-ups on their way, the head of the mailbox apart. -/
theorem outstanding_of_head (head : state.mailbox = message :: mailbox) :
    state.outstanding .WAKE_UP =
      state.timers.count .WAKE_UP + mailbox.count .WAKE_UP +
        if message = .WAKE_UP then 1 else 0 := by
  simp [Actor.outstanding, head, List.count_cons, Nat.add_assoc]

theorem Awake.receive (awake : Awake state)
    (head : state.mailbox = message :: mailbox) :
    Awake (state.receive .onReceive scheduler.handle message mailbox) ∨
      Sleeping (state.receive .onReceive scheduler.handle message mailbox) := by
  have idle := awake.outstanding
  rw [outstanding_of_head head] at idle
  cases message with
  | REFRESH =>
      right
      rw [receive_refresh_awake awake.behaviours]
      constructor
      · rfl
      · simp only [Actor.outstanding, List.count_append,
          List.count_singleton_self]
        omega
      · simp [awake.calls]
      · simp [awake.delivered]
  | WAKE_UP => simp at idle
  | other =>
      left
      have ignored : scheduler.handle .onReceive .other = [] := rfl
      rw [receive_ignored awake.behaviours ignored]
      constructor
      · rfl
      · simp only [Actor.outstanding]
        omega
      · simp [awake.answered]
      · simp [awake.calls]
      · simp [awake.delivered]

theorem Sleeping.receive_wakeUp (sleeping : Sleeping state)
    (head : state.mailbox = .WAKE_UP :: mailbox) :
    Awake (state.receive .onReceive scheduler.handle .WAKE_UP mailbox) := by
  have due := sleeping.outstanding
  rw [outstanding_of_head head, if_pos rfl] at due
  rw [receive_wakeUp_asleep sleeping.behaviours]
  constructor
  · rfl
  · simp only [Actor.outstanding]
    omega
  · simp
  · simp [sleeping.calls]
  · simp [sleeping.delivered]

theorem Sleeping.receive_other (sleeping : Sleeping state)
    (head : state.mailbox = message :: mailbox)
    (other : message ≠ .WAKE_UP) :
    Sleeping (state.receive .onReceive scheduler.handle message mailbox) := by
  have due := sleeping.outstanding
  rw [outstanding_of_head head, if_neg other] at due
  have ignored : scheduler.handle .sleep message = [] := by
    simp [handle, sleep, other]
  rw [receive_ignored sleeping.behaviours ignored]
  constructor
  · rfl
  · exact due
  · simp [sleeping.calls]
  · simp [sleeping.delivered, other]

/-- Step lemma: an event is nobody's forged wake-up. -/
theorem awake_or_sleeping_step {event : Event SchedulerMessage}
    (phase : Awake state ∨ Sleeping state) (own : event ≠ .send .WAKE_UP)
    (result : scheduler.step state event = some next) :
    Awake next ∨ Sleeping next := by
  -- neither a timer nor a sender touches the behaviour or the log
  have unread : ∀ waiting : State, waiting.behaviours = state.behaviours →
      waiting.log = state.log →
      waiting.outstanding .WAKE_UP = state.outstanding .WAKE_UP →
      Awake waiting ∨ Sleeping waiting := by
    intro waiting behaviours log outstanding
    refine phase.imp ?_ ?_
    · intro given
      obtain ⟨current, due, answered, calls, delivered⟩ := given
      rw [← behaviours] at current
      rw [← outstanding] at due
      rw [← log] at answered calls delivered
      exact ⟨current, due, answered, calls, delivered⟩
    · intro given
      obtain ⟨current, due, calls, delivered⟩ := given
      rw [← behaviours] at current
      rw [← outstanding] at due
      rw [← log] at calls delivered
      exact ⟨current, due, calls, delivered⟩
  cases event with
  | send message =>
      simp only [step, Actor.step, Option.some.injEq] at result
      subst next
      refine unread _ rfl rfl (Actor.outstanding_send ?_)
      rintro rfl
      exact own rfl
  | fire timer =>
      obtain ⟨fired, found, rfl⟩ := Actor.step_fire_eq_some_iff.mp result
      exact unread _ rfl rfl (Actor.outstanding_fire found .WAKE_UP)
  | process =>
      obtain ⟨message, mailbox, head, rfl⟩ :=
        Actor.step_process_eq_some_iff.mp result
      rcases phase with awake | sleeping
      · exact awake.receive head
      · by_cases wakes : message = .WAKE_UP
        · subst message
          exact Or.inl (sleeping.receive_wakeUp head)
        · exact Or.inr (sleeping.receive_other head wakes)

theorem awake_or_sleeping_run {events : List (Event SchedulerMessage)}
    (phase : Awake state ∨ Sleeping state) (own : OwnWakeUps events)
    (run : Runs.exec scheduler.step state events = some next) :
    Awake next ∨ Sleeping next := by
  have meets : Runs.StepsMeet scheduler.step
      (fun _ event => event ≠ .send .WAKE_UP) state events :=
    Runs.StepsMeet.of_forall state (fun _ event member => own event member)
  have preserved : ∀ state event next, Awake state ∨ Sleeping state →
      event ≠ .send .WAKE_UP → scheduler.step state event = some next →
        Awake next ∨ Sleeping next := by
    intro state event next phase own result
    exact awake_or_sleeping_step phase own result
  exact Runs.invariant_of_stepsMeet preserved phase meets run

theorem handleRefreshCalls_eq (phase : Awake state ∨ Sleeping state) :
    handleRefreshCalls state.log = wakeUpsDelivered state.log := by
  rcases phase with awake | sleeping
  · exact awake.delivered
  · exact sleeping.delivered

theorem Sleeping.exists_handleRefresh (sleeping : Sleeping state) :
    ∃ later next, (∀ event ∈ later, event.Internal) ∧
      Runs.exec scheduler.step state later = some next ∧
      handleRefreshCalls state.log < handleRefreshCalls next.log := by
  have due : 0 < state.outstanding .WAKE_UP := by
    rw [sleeping.outstanding]
    exact Nat.one_pos
  obtain ⟨events, middle, rest, internal, run, head⟩ :=
    @Actor.exists_delivery _ _ _ .onReceive scheduler.handle _ _ _ due
  have own : OwnWakeUps events := by
    rintro event member rfl
    exact internal _ member
  have before : handleRefreshCalls state.log ≤
      handleRefreshCalls middle.log :=
    (Actor.log_suffix_of_exec run).sublist.countP_le
  have stillSleeping : Sleeping middle := by
    rcases awake_or_sleeping_run (Or.inr sleeping) own run with
      awake | sleeping
    · have none := awake.outstanding
      simp [outstanding_of_head head] at none
    · exact sleeping
  have processed : scheduler.step middle .process =
      some (middle.receive .onReceive scheduler.handle .WAKE_UP rest) :=
    Actor.step_process_eq_some_iff.mpr ⟨.WAKE_UP, rest, head, rfl⟩
  refine ⟨events ++ [.process],
    middle.receive .onReceive scheduler.handle .WAKE_UP rest, ?_, ?_, ?_⟩
  · intro event member
    rcases List.mem_append.mp member with earlier | last
    · exact internal event earlier
    · simp only [List.mem_singleton] at last
      subst event
      trivial
  · apply Runs.exec_append_eq_some_iff.mpr
    exact ⟨middle, run, Runs.exec_cons_eq_some_iff.mpr ⟨_, processed, rfl⟩⟩
  · rw [receive_wakeUp_asleep stillSleeping.behaviours]
    simp only [handleRefreshCalls_called, handleRefreshCalls_received]
    omega

end Step

/-- In every run the scheduler is asleep exactly when one wake-up is on its
way; that wake-up answers every refresh received since the last one, and no
wake-up is delivered in vain. -/
theorem refreshes_coalesced (scheduler : RefreshScheduler)
    (events : List (Event SchedulerMessage)) (state : State)
    (own : OwnWakeUps events)
    (run : Runs.exec scheduler.step start events = some state) :
    (Asleep state ↔ state.outstanding .WAKE_UP = 1) ∧
    (¬ Asleep state → state.outstanding .WAKE_UP = 0) ∧
    (RefreshWaits state.log →
      state.outstanding .WAKE_UP = 1 ∧
      (∃ later next, (∀ event ∈ later, event.Internal) ∧
        Runs.exec scheduler.step state later = some next ∧
        handleRefreshCalls state.log < handleRefreshCalls next.log) ∧
      ∀ later next, OwnWakeUps later →
        Runs.exec scheduler.step state later = some next →
        wakeUpsDelivered state.log < wakeUpsDelivered next.log →
        handleRefreshCalls state.log < handleRefreshCalls next.log) ∧
    handleRefreshCalls state.log = wakeUpsDelivered state.log ∧
    handleRefreshCalls state.log ≤ refreshesAwake state.log := by
  have phase := awake_or_sleeping_run (Or.inl awake_start) own run
  have calls := handleRefreshCalls_eq phase
  rcases phase with awake | sleeping
  · have notAsleep : ¬ Asleep state := by
      simp [Asleep, Actor.behaviour, awake.behaviours]
    refine ⟨?_, fun _ => awake.outstanding, ?_, calls, Nat.le_of_eq awake.calls⟩
    · simp [notAsleep, awake.outstanding]
    · intro waits
      exact (awake.answered waits).elim
  · have asleep : Asleep state := by
      simp [Asleep, Actor.behaviour, sleeping.behaviours]
    refine ⟨?_, fun awake => (awake asleep).elim, ?_, calls, ?_⟩
    · simp [asleep, sleeping.outstanding]
    · intro _
      refine ⟨sleeping.outstanding, sleeping.exists_handleRefresh, ?_⟩
      intro later next ownLater laterRun delivered
      have nextCalls := handleRefreshCalls_eq
        (awake_or_sleeping_run (Or.inr sleeping) ownLater laterRun)
      omega
    · have counted := sleeping.calls
      omega

/-- Two refreshes, one dropped, and the wake-up of the first. -/
theorem refreshes_coalesced_twice :
    handleRefreshCalls
      [.called .paymentEvent, .received .sleep .WAKE_UP,
        .received .sleep .REFRESH, .received .onReceive .REFRESH] = 1 ∧
    1 ≤ refreshesAwake
      [.called .paymentEvent, .received .sleep .WAKE_UP,
        .received .sleep .REFRESH, .received .onReceive .REFRESH] := by
  have settled := refreshes_coalesced .paymentsRefreshScheduler
    [.send .REFRESH, .send .REFRESH, .process, .process, .fire 0, .process]
    { behaviours := [.onReceive]
      log := [.called .paymentEvent, .received .sleep .WAKE_UP,
        .received .sleep .REFRESH, .received .onReceive .REFRESH] }
    (by decide) rfl
  exact ⟨rfl, settled.2.2.2.2⟩

end RefreshScheduler

end EclairWallet
