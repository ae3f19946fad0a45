import EclairWallet.Screens.ChannelRequested
import EclairWallet.Screens.PinLock
import EclairWallet.Seed.Opened
import EclairWallet.Startup.PinHeld

/-!
# Nothing is spent without the PIN

While the PIN is asked for, a screen spends only when a callback hands it the
PIN, and the preference, the PIN and the seed file change only after one did.
-/

namespace EclairWallet

open ByteString Crash WalletUtils Runs

/-! ## Screens -/

/-- Nothing was sent, and nothing is handed to the executor. -/
structure ConfirmState.Unspent (screen : ConfirmState) : Prop where
  queued : screen.queued = []
  log : ∀ entry ∈ screen.log, entry.spending? = none

namespace ConfirmState.Unspent

variable {screen next : ConfirmState}

theorem of_same (unspent : screen.Unspent) (queued : next.queued = screen.queued)
    (log : next.log = screen.log) : next.Unspent where
  queued := queued.trans unspent.queued
  log := by rw [log]; exact unspent.log

theorem record (unspent : screen.Unspent) {entry : ConfirmEntry}
    (spendsNothing : entry.spending? = none) :
    (screen.record entry).Unspent where
  queued := unspent.queued
  log := by
    intro other member
    rcases List.mem_append.mp member with old | new
    · exact unspent.log other old
    · rw [List.mem_singleton.mp new]
      exact spendsNothing

theorem confirmPayment (unspent : screen.Unspent) {inputs : TapInputs}
    (required : inputs.pinRequired = true) :
    (screen.confirmPayment inputs).Unspent := by
  have accepted : ({ screen with isProcessingPayment := true }.record
      (.accepted screen.taps inputs.pinRequired)).Unspent := by
    apply Unspent.record
    · exact unspent.of_same rfl rfl
    · rfl
  unfold ConfirmState.confirmPayment
  split
  · exact unspent
  · dsimp only
    split
    · exact accepted
    · split
      · exact accepted.of_same rfl rfl
      · exact accepted.of_same rfl rfl

theorem onPinConfirm (unspent : screen.Unspent) (index : Nat)
    {prompt : PinPrompt} {initialised : Bool} {pin : List Char}
    (rowFree : Bool)
    (wrong : initialised = true → prompt.dialog.mPinValue ≠ pin) :
    (screen.onPinConfirm index prompt initialised pin rowFree).Unspent := by
  unfold ConfirmState.onPinConfirm
  dsimp only
  split
  next isInitialised =>
    rw [if_neg]
    · exact unspent.of_same rfl rfl
    · exact wrong isInitialised
  · exact unspent.of_same rfl rfl

theorem step {event : ConfirmEvent} (unspent : screen.Unspent)
    (required : ∀ inputs, event = .tapSend inputs →
      inputs.pinRequired = true)
    (wrong : ∀ index prompt pin rowFree,
      event = .timerFires index true pin rowFree →
      screen.prompts[index]? = some prompt → prompt.dialog.mPinValue ≠ pin)
    (result : screen.step event = some next) : next.Unspent := by
  cases event with
  | invoiceRead invoice =>
      cases result
      exact unspent.of_same rfl rfl
  | tapSend inputs =>
      simp only [ConfirmState.step] at result
      split at result
      · cases result
      · cases result
        exact unspent.confirmPayment (required inputs rfl)
  | pressKey index key =>
      obtain ⟨prompt, _, result⟩ := Option.bind_eq_some_iff.mp result
      obtain ⟨_, rfl⟩ := Option.ite_some_none_eq_some.mp result
      exact unspent.of_same rfl rfl
  | cancelDialog index =>
      obtain ⟨prompt, _, result⟩ := Option.bind_eq_some_iff.mp result
      obtain ⟨_, rfl⟩ := Option.ite_some_none_eq_some.mp result
      exact unspent.of_same rfl rfl
  | timerFires index initialised pin rowFree =>
      obtain ⟨prompt, found, result⟩ := Option.bind_eq_some_iff.mp result
      obtain ⟨_, rfl⟩ := Option.ite_some_none_eq_some.mp result
      apply unspent.onPinConfirm
      intro isInitialised
      subst isInitialised
      exact wrong index prompt pin rowFree rfl found
  | amountChanged amountMsat onchainBalanceSat =>
      simp only [ConfirmState.step] at result
      split at result
      · cases result
      · cases result
        unfold ConfirmState.amountChanged
        split
        · split
          · exact unspent.of_same rfl rfl
          · exact unspent
        · exact unspent
  | pause =>
      cases result
      unfold ConfirmState.onPause
      split
      · exact unspent.of_same rfl rfl
      · exact unspent
  | runBody index =>
      obtain ⟨body, found, _⟩ := Option.map_eq_some_iff.mp result
      rw [unspent.queued] at found
      cases found

end ConfirmState.Unspent

/-- Nothing was requested. -/
def OpenChannelState.Unspent (screen : OpenChannelState) : Prop :=
  ∀ entry ∈ screen.log, entry.spending? = none

namespace OpenChannelState.Unspent

variable {library : OpenChannelLibrary} {screen next : OpenChannelState}

theorem of_same (unspent : screen.Unspent) (log : next.log = screen.log) :
    next.Unspent := by
  rw [Unspent, log]
  exact unspent

theorem record (unspent : screen.Unspent) {entry : OpenChannelEntry}
    (spendsNothing : entry.spending? = none) :
    (screen.record entry).Unspent := by
  intro other member
  rcases (OpenChannelState.mem_record screen entry other).mp member with old | new
  · exact unspent other old
  · rw [new]
    exact spendsNothing

theorem confirmOpenChannel (unspent : screen.Unspent)
    (onchainBalanceSat : Int) :
    (screen.confirmOpenChannel library onchainBalanceSat true).Unspent := by
  unfold OpenChannelState.confirmOpenChannel
  split
  · exact unspent.of_same rfl
  · exact unspent.of_same rfl
  next amountMsat _ =>
    split
    · exact unspent.of_same rfl
    next feesSatPerByte _ =>
      split
      · exact unspent.of_same rfl
      · have accepted : ({ screen with error := none }.disableForm.record
            (.accepted screen.taps
              { amountMsat, feesSatPerByte, onchainBalanceSat }
              true)).Unspent := by
          apply Unspent.record
          · exact unspent.of_same rfl
          · rfl
        exact accepted.of_same rfl

theorem onPinConfirm (unspent : screen.Unspent) (index : Nat)
    {prompt : OpenChannelPrompt} {initialised : Bool} {pin : List Char}
    (wrong : initialised = true → prompt.dialog.mPinValue ≠ pin) :
    (screen.onPinConfirm library index prompt initialised pin).Unspent := by
  unfold OpenChannelState.onPinConfirm
  dsimp only
  split
  next isInitialised =>
    rw [if_neg]
    · exact unspent.of_same rfl
    · exact wrong isInitialised
  · exact unspent.of_same rfl

theorem step {event : OpenChannelEvent} (unspent : screen.Unspent)
    (required : ∀ onchainBalanceSat pinRequired,
      event = .tapOpen onchainBalanceSat pinRequired → pinRequired = true)
    (wrong : ∀ index prompt pin,
      event = .timerFires index true pin →
      screen.prompts[index]? = some prompt → prompt.dialog.mPinValue ≠ pin)
    (result : screen.step library event = some next) : next.Unspent := by
  cases event with
  | processNodeURIFinish uri =>
      obtain ⟨_, rfl⟩ := Option.ite_some_none_eq_some.mp result
      exact unspent.of_same rfl
  | editCapacity text onchainBalanceSat =>
      obtain ⟨_, rfl⟩ := Option.ite_some_none_eq_some.mp result
      unfold OpenChannelState.editCapacity
      dsimp only
      split
      · exact unspent.of_same rfl
      · exact unspent.of_same rfl
  | editFees text =>
      obtain ⟨_, rfl⟩ := Option.ite_some_none_eq_some.mp result
      exact unspent.of_same rfl
  | pickFees feerates =>
      obtain ⟨_, rfl⟩ := Option.ite_some_none_eq_some.mp result
      unfold OpenChannelState.pickFees
      split
      · exact unspent.of_same rfl
      · exact unspent.of_same rfl
      · exact unspent.of_same rfl
      · exact unspent.of_same rfl
  | tapOpen onchainBalanceSat pinRequired =>
      obtain ⟨_, rfl⟩ := Option.ite_some_none_eq_some.mp result
      rw [required onchainBalanceSat pinRequired rfl]
      exact unspent.confirmOpenChannel onchainBalanceSat
  | cancelOpenChannel =>
      obtain ⟨_, rfl⟩ := Option.ite_some_none_eq_some.mp result
      exact unspent.of_same rfl
  | pressKey index key =>
      obtain ⟨prompt, _, result⟩ := Option.bind_eq_some_iff.mp result
      obtain ⟨_, rfl⟩ := Option.ite_some_none_eq_some.mp result
      exact unspent.of_same rfl
  | cancelDialog index =>
      obtain ⟨prompt, _, result⟩ := Option.bind_eq_some_iff.mp result
      obtain ⟨_, rfl⟩ := Option.ite_some_none_eq_some.mp result
      exact unspent.of_same rfl
  | timerFires index initialised pin =>
      obtain ⟨prompt, found, result⟩ := Option.bind_eq_some_iff.mp result
      obtain ⟨_, rfl⟩ := Option.ite_some_none_eq_some.mp result
      apply unspent.onPinConfirm
      intro isInitialised
      subst isInitialised
      exact wrong index prompt pin rfl found
  | pause =>
      cases result
      unfold OpenChannelState.onPause
      split
      · exact unspent.of_same rfl
      · exact unspent
  | runBody index =>
      obtain ⟨opening, _, rfl⟩ := Option.map_eq_some_iff.mp result
      exact unspent.of_same rfl
  | connectCompletes index answer =>
      obtain ⟨opening, _, result⟩ := Option.bind_eq_some_iff.mp result
      obtain ⟨_, rfl⟩ := Option.ite_some_none_eq_some.mp result
      have erased : OpenChannelState.Unspent
          { screen with opening := screen.opening.eraseIdx index } :=
        unspent.of_same rfl
      have answered : OpenChannelState.Unspent
          ({ screen with opening := screen.opening.eraseIdx index }.record
            (.connectAnswered opening.request answer)) :=
        erased.record rfl
      unfold OpenChannelState.connectCompletes
      dsimp only
      split
      · apply answered.record
        rfl
      · exact answered

end OpenChannelState.Unspent

/-! ## The lock -/

namespace PinLock

variable {environment : PinEnvironment} {seed : Bytes}
  {passwords : Set String} {pin : String} {spent : List Spending}
  {lock next : PinLock} {event : LockEvent}

/-- The PIN is asked for, the seed file opens with it, nobody has been offered
a new one, and the screens have spent what is given at most. -/
structure Locked (environment : PinEnvironment) (seed : Bytes)
    (passwords : Set String) (pin : String) (spent : List Spending)
    (lock : PinLock) : Prop where
  asked : lock.askPin = true
  askedOnDisk : lock.askPinOnDisk = true
  opens : Opens environment.provider seed pin lock.seedWallet.store
  offered : lock.seedWallet.offered = []
  kept : lock.startup.PinsKept (· = pin) (· ∈ passwords)
  payments : ∀ screen ∈ lock.payments, screen.Unspent
  channels : ∀ screen ∈ lock.channels, screen.Unspent
  same : lock.spent = spent

/-- What the callback of a dialog hands to a screen. -/
def handedOver (lock : PinLock) : LockEvent → Option String
  | .changePassword pinValue _ => some pinValue
  | .removalTimerFires index =>
      (lock.removals[index]?).map (fun dialog =>
        String.ofList dialog.mPinValue)
  | .payment screen (.timerFires index _ _ _) =>
      (lock.payments[screen]?).bind (fun state =>
        (state.prompts[index]?).map (fun prompt =>
          String.ofList prompt.dialog.mPinValue))
  | .channel screen (.timerFires index _ _) =>
      (lock.channels[screen]?).bind (fun state =>
        (state.prompts[index]?).map (fun prompt =>
          String.ofList prompt.dialog.mPinValue))
  | _ => none

/-- No screen is handed the PIN.  The startup may be. -/
def WithoutPin (passwords : Set String) (pin : String) (lock : PinLock)
    (event : LockEvent) : Prop :=
  (∀ value ∈ lock.handedOver event, value ≠ pin) ∧
    ∀ value ∈ lock.tried event, value ∈ passwords

instance [DecidablePred (· ∈ passwords)] (pin : String) (lock : PinLock)
    (event : LockEvent) : Decidable (WithoutPin passwords pin lock event) :=
  inferInstanceAs (Decidable (_ ∧ _))

theorem pin_eq (locked : Locked environment seed passwords pin spent lock)
    {kept : String} (isPin : lock.pin = some kept) : kept = pin :=
  locked.kept.held kept isPin

theorem Locked.killed (locked : Locked environment seed passwords pin spent lock)
    {seedWallet : SeedWallet}
    (opens : Opens environment.provider seed pin seedWallet.store)
    (offered : ∀ content ∈ seedWallet.offered,
      content ∈ lock.seedWallet.offered) :
    Locked environment seed passwords pin spent (lock.killed seedWallet) where
  asked := locked.askedOnDisk
  askedOnDisk := locked.askedOnDisk
  opens := opens
  offered := by
    rw [List.eq_nil_iff_forall_not_mem]
    intro content member
    have earlier := offered content member
    rw [locked.offered] at earlier
    cases earlier
  kept := .start _ _
  payments := by
    intro screen member
    cases member
  channels := by
    intro screen member
    cases member
  same := locked.same

/-- The seed file and the startup change, the screens do not. -/
theorem Locked.of_screens (locked : Locked environment seed passwords pin spent
      lock)
    {seedWallet : SeedWallet} {startup : StartupState}
    (opens : Opens environment.provider seed pin seedWallet.store)
    (offered : ∀ content ∈ seedWallet.offered,
      content ∈ lock.seedWallet.offered)
    (kept : startup.PinsKept (· = pin) (· ∈ passwords)) :
    Locked environment seed passwords pin spent
      { lock with seedWallet, startup } :=
  { locked with
    opens := opens
    offered := (locked.killed opens offered).offered
    kept := kept }

theorem Locked.checkup (locked : Locked environment seed passwords pin spent
      lock)
    (known : pin ∈ passwords) {fates : List Fate} {datadir : Datadir}
    (result : lock.checkup fates datadir = some next) :
    Locked environment seed passwords pin spent next := by
  obtain ⟨opens, offered⟩ :=
    SeedWallet.check_opens locked.opens fates
  simp only [PinLock.checkup] at result
  split at result
  next ready _ _ =>
    obtain ⟨startup, resumed, rfl⟩ := Option.map_eq_some_iff.mp result
    apply locked.of_screens opens offered
    apply locked.kept.step _ _ resumed
    · intro password isPin
      rw [isPin]
      exact known
    · constructor
      · intro index dialog impossible
        cases impossible
      · intro index keys password impossible
        cases impossible
      · intro password impossible
        cases impossible
  · cases result
    exact locked.of_screens opens offered locked.kept
  · cases result
    exact locked.killed opens offered

/-- The threads of a startup read the seed with the PIN only. -/
theorem Locked.startupStep
    (tells : TellsApart environment.provider passwords)
    (locked : Locked environment seed passwords pin spent lock)
    (known : pin ∈ passwords) {started : StartupEvent}
    (typed : ∀ value ∈ lock.tried (.startup started), value ∈ passwords)
    (result : lock.startupStep environment started = some next) :
    Locked environment seed passwords pin spent next := by
  obtain ⟨allowed, result⟩ := Option.ite_none_right_eq_some.mp result
  obtain ⟨startup, stepped, rfl⟩ := Option.map_eq_some_iff.mp result
  apply locked.of_screens locked.opens (fun _ member => member)
  apply locked.kept.step _ _ stepped
  · intro password isPin
    rw [isPin]
    exact known
  · constructor
    · intro index dialog isEvent found
      subst isEvent
      apply typed
      simp [tried, found]
    · intro index keys password isEvent found
      subst isEvent
      have tried : password ∈ passwords :=
        locked.kept.reading password (List.mem_of_getElem? found)
      simp only [startupAllowed, found] at allowed
      split at allowed
      next content reads =>
        exact tells.password_eq tried known reads locked.opens
      · cases allowed
    · intro password isEvent
      subst isEvent
      cases allowed

theorem Locked.changePassword
    (tells : TellsApart environment.provider passwords)
    (locked : Locked environment seed passwords pin spent lock)
    (known : pin ∈ passwords) {pinValue : String}
    (typed : pinValue ∈ passwords) (wrong : pinValue ≠ pin)
    (fates : List Fate) :
    Locked environment seed passwords pin spent
      (lock.changePassword environment pinValue fates) := by
  have opens := locked.opens.of_untouched
    (SeedWallet.changePassword_untouched environment.provider
      lock.seedWallet pinValue fates)
  have offered : ∀ content ∈ (lock.seedWallet.changePassword
      environment.provider pinValue fates).offered,
      content ∈ lock.seedWallet.offered := by
    apply SeedWallet.changePassword_offered
    intro content reads
    exact wrong (tells.password_eq typed known reads locked.opens)
  simp only [PinLock.changePassword]
  split
  · exact locked.of_screens opens offered locked.kept
  · exact locked.of_screens opens offered locked.kept
  · exact locked.killed opens offered

theorem Locked.clickPinSwitch
    (locked : Locked environment seed passwords pin spent lock)
    (checked : Bool) :
    Locked environment seed passwords pin spent
      (lock.clickPinSwitch checked) := by
  simp only [PinLock.clickPinSwitch]
  split
  · exact { locked with }
  · split
    · exact { locked with asked := rfl }
    · exact locked

theorem Locked.onRemovalConfirm
    (locked : Locked environment seed passwords pin spent lock)
    {index : Nat} {dialog : PinDialog}
    (wrong : String.ofList dialog.mPinValue ≠ pin) :
    Locked environment seed passwords pin spent
      (lock.onRemovalConfirm index dialog) := by
  simp only [PinLock.onRemovalConfirm]
  split
  · rw [if_neg]
    · exact { locked with }
    · intro isPin
      exact wrong (pin_eq locked isPin.symm)
  · exact { locked with }

/-- What a screen that has spent nothing adds. -/
theorem spends_nothing {Entry : Type} {spending? : Entry → Option Spending}
    {before after : List Entry}
    (unspent : ∀ entry ∈ after, spending? entry = none) :
    (after.drop before.length).filterMap spending? = [] := by
  rw [List.filterMap_eq_nil_iff]
  intro entry member
  exact unspent entry (List.mem_of_mem_drop member)

theorem Locked.paymentStep
    (locked : Locked environment seed passwords pin spent lock)
    {screen : Nat} {confirms : ConfirmEvent}
    (wrong : ∀ value ∈ lock.handedOver (.payment screen confirms),
      value ≠ pin)
    (result : lock.paymentStep screen confirms = some next) :
    Locked environment seed passwords pin spent next := by
  obtain ⟨before, found, result⟩ := Option.bind_eq_some_iff.mp result
  obtain ⟨allowed, result⟩ := Option.ite_none_right_eq_some.mp result
  obtain ⟨after, stepped, rfl⟩ := Option.map_eq_some_iff.mp result
  have unspent : after.Unspent := by
    apply (locked.payments before (List.mem_of_getElem? found)).step _ _
      stepped
    · intro inputs isEvent
      subst isEvent
      rw [of_decide_eq_true allowed]
      exact locked.asked
    · intro index prompt typed rowFree isEvent isThere same
      subst isEvent
      simp only [paymentAllowed, Bool.not_true, Bool.false_or,
        Bool.and_eq_true, decide_eq_true_eq] at allowed
      have isPin := pin_eq locked allowed.2.symm
      rw [← same] at isPin
      apply wrong (String.ofList prompt.dialog.mPinValue) _ isPin
      simp [handedOver, found, isThere]
  have nothing : (after.log.drop before.log.length).filterMap
      ConfirmEntry.spending? = [] := spends_nothing unspent.log
  refine
    { locked with
      payments := ?_
      same := ?_ }
  · intro state member
    rcases List.mem_or_eq_of_mem_set member with old | now
    · exact locked.payments state old
    · rw [now]
      exact unspent
  · rw [nothing, List.append_nil]
    exact locked.same

theorem Locked.channelStep
    (locked : Locked environment seed passwords pin spent lock)
    {screen : Nat} {opened : OpenChannelEvent}
    (wrong : ∀ value ∈ lock.handedOver (.channel screen opened),
      value ≠ pin)
    (result : lock.channelStep environment screen opened = some next) :
    Locked environment seed passwords pin spent next := by
  obtain ⟨before, found, result⟩ := Option.bind_eq_some_iff.mp result
  obtain ⟨allowed, result⟩ := Option.ite_none_right_eq_some.mp result
  obtain ⟨after, stepped, rfl⟩ := Option.map_eq_some_iff.mp result
  have unspent : after.Unspent := by
    apply (locked.channels before (List.mem_of_getElem? found)).step _ _
      stepped
    · intro onchainBalanceSat pinRequired isEvent
      subst isEvent
      rw [of_decide_eq_true allowed]
      exact locked.asked
    · intro index prompt typed isEvent isThere same
      subst isEvent
      simp only [channelAllowed, Bool.not_true, Bool.false_or,
        Bool.and_eq_true, decide_eq_true_eq] at allowed
      have isPin := pin_eq locked allowed.2.symm
      rw [← same] at isPin
      apply wrong (String.ofList prompt.dialog.mPinValue) _ isPin
      simp [handedOver, found, isThere]
  have nothing : (after.log.drop before.log.length).filterMap
      OpenChannelEntry.spending? = [] := spends_nothing unspent
  refine
    { locked with
      channels := ?_
      same := ?_ }
  · intro state member
    rcases List.mem_or_eq_of_mem_set member with old | now
    · exact locked.channels state old
    · rw [now]
      exact unspent
  · rw [nothing, List.append_nil]
    exact locked.same

theorem Locked.step (tells : TellsApart environment.provider passwords)
    (known : pin ∈ passwords)
    (locked : Locked environment seed passwords pin spent lock)
    (without : WithoutPin passwords pin lock event)
    (result : lock.step environment event = some next) :
    Locked environment seed passwords pin spent next := by
  cases event with
  | checkup fates datadir => exact locked.checkup known result
  | startup started => exact locked.startupStep tells known without.2 result
  | changePassword pinValue fates =>
      cases result
      apply locked.changePassword tells known
      · exact without.2 pinValue rfl
      · exact without.1 pinValue rfl
  | confirmNewPin index newPinValue confirmPinValue salt iv fates =>
      obtain ⟨content, found, _⟩ := Option.bind_eq_some_iff.mp result
      rw [locked.offered] at found
      cases found
  | clickPinSwitch checked =>
      cases result
      exact locked.clickPinSwitch checked
  | pressRemovalKey index key =>
      obtain ⟨dialog, _, result⟩ := Option.bind_eq_some_iff.mp result
      obtain ⟨_, rfl⟩ := Option.ite_some_none_eq_some.mp result
      exact { locked with }
  | cancelRemoval index =>
      obtain ⟨dialog, _, result⟩ := Option.bind_eq_some_iff.mp result
      obtain ⟨_, rfl⟩ := Option.ite_some_none_eq_some.mp result
      exact { locked with }
  | removalTimerFires index =>
      obtain ⟨dialog, found, result⟩ := Option.bind_eq_some_iff.mp result
      obtain ⟨_, rfl⟩ := Option.ite_some_none_eq_some.mp result
      apply locked.onRemovalConfirm
      apply without.1
      simp [handedOver, found]
  | openPayment goToFrag =>
      cases result
      refine { locked with payments := ?_ }
      intro screen member
      rcases List.mem_append.mp member with old | new
      · exact locked.payments screen old
      · rw [List.mem_singleton.mp new]
        constructor
        · rfl
        · intro entry impossible
          cases impossible
  | payment screen confirms => exact locked.paymentStep without.1 result
  | openChannel feerates =>
      cases result
      refine { locked with channels := ?_ }
      intro screen member
      rcases List.mem_append.mp member with old | new
      · exact locked.channels screen old
      · rw [List.mem_singleton.mp new]
        intro entry impossible
        cases impossible
  | channel screen opened => exact locked.channelStep without.1 result
  | storePreferences =>
      cases result
      exact { locked with askedOnDisk := locked.asked }
  | kill =>
      cases result
      apply locked.killed
      · exact locked.opens
      · intro content member
        cases member

/-- While the PIN is asked for and no callback hands it to a screen, no run of
the screens, the settings and the startup, with any number of restarts of the
process, sends a payment or requests a channel, switches the PIN off, or
changes it. -/
theorem nothing_spent_without_pin
    (tells : TellsApart environment.provider passwords)
    (known : pin ∈ passwords) (start finish : PinLock)
    (events : List LockEvent)
    (locked : Locked environment seed passwords pin start.spent start)
    (run : exec (PinLock.step environment) start events = some finish)
    (without : StepsMeet (PinLock.step environment)
      (WithoutPin passwords pin) start events) :
    finish.spent = start.spent ∧ finish.askPin = true ∧
      finish.askPinOnDisk = true ∧
      (∀ kept, finish.pin = some kept → kept = pin) ∧
      Opens environment.provider seed pin finish.seedWallet.store := by
  have stays : Locked environment seed passwords pin start.spent finish := by
    apply invariant_of_stepsMeet _ locked without run
    intro state event next before condition result
    exact before.step tells known condition result
  refine ⟨stays.same, stays.asked, stays.askedOnDisk, ?_, stays.opens⟩
  intro kept isPin
  exact pin_eq stays isPin

/-! ## A wallet in other hands -/

def sampleEnvironment : PinEnvironment where
  provider := pinProvider
  library := OpenChannelState.sampleLibrary
  seedKeys := fun _ => StartupState.sampleSeedKeys

/-- A wallet that is not running and asks for the PIN. -/
def sampleLock : PinLock where
  seedWallet :=
    { store := (writeSeedFile pinProvider sampleSalt sampleIv sampleSeed
        oldPin.pin {} []).state
      passwords := [oldPin.pin] }
  askPin := true
  askPinOnDisk := true

theorem sampleLock_opens :
    Opens pinProvider sampleSeed oldPin.pin sampleLock.seedWallet.store := by
  decide +kernel

theorem sampleLock_locked :
    Locked sampleEnvironment sampleSeed samplePins oldPin.pin
      sampleLock.spent sampleLock where
  asked := rfl
  askedOnDisk := rfl
  opens := sampleLock_opens
  offered := rfl
  kept := .start _ _
  payments := by
    intro screen member
    cases member
  channels := by
    intro screen member
    cases member
  same := rfl

instance : DecidablePred (· ∈ samplePins) := fun password =>
  inferInstanceAs (Decidable (password = oldPin.pin ∨ password = newPin.pin))

/-- The PIN is typed, and the node starts. -/
def unlocking : List StartupEvent :=
  ['1', '2', '3', '4', '5', '6'].map (fun digit =>
    .pressKey 0 (.digit digit)) ++
  [.timerFires 0, .seedRead 0 StartupState.sampleSeedKeys] ++
  List.replicate 5 (.advance 0 StartupState.startedBefore) ++
  [.takeTask, .setUp .actorsCreated, .bootstrap .started]

def unlocked : List LockEvent :=
  .checkup [] {} :: unlocking.map .startup

def wrongKeys : List PinKey :=
  ['6', '5', '4', '3', '2', '1'].map .digit

/-- Another PIN is tried on a payment, a channel, the switch and a new PIN;
then the process ends. -/
def tampered : List LockEvent :=
  [.openPayment false, .payment 0 (.invoiceRead .lightning),
    .payment 0 (.tapSend
      { hasActiveChannels := true
        amount := some 1000
        onchainBalanceSat := 0
        feesPerKw := none
        emptyWallet := false
        pinRequired := true
        rowFree := true })] ++
  wrongKeys.map (fun key => .payment 0 (.pressKey 0 key)) ++
  [.payment 0 (.timerFires 0 true oldPin.pin.toList true),
    .openChannel OpenChannelState.sampleFeerates] ++
  (OpenChannelState.typedPin.take 4).map (.channel 0) ++
  [.channel 0 .pause, .clickPinSwitch true] ++
  wrongKeys.map (.pressRemovalKey 0) ++
  [.removalTimerFires 0, .changePassword newPin.pin [], .storePreferences,
    .kill]

theorem tampered_spends_nothing :
    ∃ finish, exec (PinLock.step sampleEnvironment) sampleLock
        (unlocked ++ tampered) = some finish ∧
      finish.spent = [] ∧ finish.askPin = true := by
  have runs : (exec (PinLock.step sampleEnvironment) sampleLock
      (unlocked ++ tampered)).isSome = true := by
    decide +kernel
  obtain ⟨finish, run⟩ := Option.isSome_iff_exists.mp runs
  have stays := nothing_spent_without_pin samplePins_tellsApart (.inl rfl)
    sampleLock finish (unlocked ++ tampered) sampleLock_locked run
    (by decide +kernel)
  exact ⟨finish, run, stays.1, stays.2.1⟩

end PinLock

end EclairWallet
