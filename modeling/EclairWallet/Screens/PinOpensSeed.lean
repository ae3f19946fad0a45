import EclairWallet.Screens.WithoutPin

/-!
# The PIN in memory opens the seed file

The screens compare what is typed with `App.pin`, and the next startup reads
the seed file.  The two agree as long as a new PIN is confirmed while no thread
of the startup has still to assign the old one.
-/

namespace EclairWallet

open ByteString Crash WalletUtils Runs

/-- The thread has read the seed. -/
def SeedThread.hasRead : SeedThread → Bool
  | .assigning _ _ _ => true
  | .reading _ | .resetting _ _ => false

namespace PinLock

variable {environment : PinEnvironment} {seed : Bytes}
  {passwords : Set String} {lock next : PinLock} {event : LockEvent}

/-- The password is one of those given, and the seed can be read with it. -/
def Reads (environment : PinEnvironment) (seed : Bytes)
    (passwords : Set String) (store : SeedStore) (password : String) : Prop :=
  password ∈ passwords ∧ Opens environment.provider seed password store

/-- The seed is stored, and the startup keeps no other PIN than one it can be
read with. -/
structure Agrees (environment : PinEnvironment) (seed : Bytes)
    (passwords : Set String) (lock : PinLock) : Prop where
  safe : Safe environment.provider seed passwords lock.seedWallet
  kept : lock.startup.PinsKept
    (Reads environment seed passwords lock.seedWallet.store) (· ∈ passwords)

def confirmsNewPin : LockEvent → Bool
  | .confirmNewPin _ _ _ _ _ _ => true
  | _ => false

/-- What is typed is among the given passwords, and a new PIN is confirmed
while no thread of the startup has read the seed. -/
def ChangedApart (passwords : Set String) (lock : PinLock)
    (event : LockEvent) : Prop :=
  (∀ value ∈ lock.tried event, value ∈ passwords) ∧
    (confirmsNewPin event = true →
      ∀ thread ∈ lock.startup.threads, thread.hasRead = false)

instance [DecidablePred (· ∈ passwords)] (lock : PinLock)
    (event : LockEvent) : Decidable (ChangedApart passwords lock event) :=
  inferInstanceAs (Decidable (_ ∧ _))

theorem Agrees.of_same (agrees : Agrees environment seed passwords lock)
    (seedWallet : next.seedWallet = lock.seedWallet)
    (startup : next.startup = lock.startup) :
    Agrees environment seed passwords next where
  safe := by rw [seedWallet]; exact agrees.safe
  kept := by rw [startup, seedWallet]; exact agrees.kept

theorem Agrees.pinsKept (agrees : Agrees environment seed passwords lock)
    {store : SeedStore}
    (opens : ∀ password,
      Opens environment.provider seed password lock.seedWallet.store →
        Opens environment.provider seed password store) :
    lock.startup.PinsKept (Reads environment seed passwords store)
      (· ∈ passwords) := by
  apply agrees.kept.mono
  intro password reads
  exact ⟨reads.1, opens password reads.2⟩

theorem Agrees.checkup (agrees : Agrees environment seed passwords lock)
    {fates : List Fate} {datadir : Datadir}
    (result : lock.checkup fates datadir = some next) :
    Agrees environment seed passwords next := by
  have safe := agrees.safe.check fates
  have kept : lock.startup.PinsKept
      (Reads environment seed passwords (lock.seedWallet.check fates).store)
      (· ∈ passwords) := by
    apply agrees.pinsKept
    intro password opens
    exact (SeedWallet.check_opens opens fates).1
  simp only [PinLock.checkup] at result
  split at result
  next ready _ _ =>
    obtain ⟨startup, resumed, rfl⟩ := Option.map_eq_some_iff.mp result
    refine ⟨safe, ?_⟩
    apply kept.step _ _ resumed
    · intro password reads
      exact reads.1
    · constructor
      · intro index dialog impossible
        cases impossible
      · intro index keys password impossible
        cases impossible
      · intro password impossible
        cases impossible
  · cases result
    exact ⟨safe, kept⟩
  · cases result
    exact ⟨safe, .start _ _⟩

theorem Agrees.startupStep
    (tells : TellsApart environment.provider passwords)
    (agrees : Agrees environment seed passwords lock)
    {started : StartupEvent}
    (typed : ∀ value ∈ lock.tried (.startup started), value ∈ passwords)
    (result : lock.startupStep environment started = some next) :
    Agrees environment seed passwords next := by
  obtain ⟨allowed, result⟩ := Option.ite_none_right_eq_some.mp result
  obtain ⟨startup, stepped, rfl⟩ := Option.map_eq_some_iff.mp result
  refine ⟨agrees.safe, ?_⟩
  apply agrees.kept.step _ _ stepped
  · intro password reads
    exact reads.1
  · constructor
    · intro index dialog isEvent found
      subst isEvent
      apply typed
      simp [tried, found]
    · intro index keys password isEvent found
      subst isEvent
      have known : password ∈ passwords :=
        agrees.kept.reading password (List.mem_of_getElem? found)
      simp only [startupAllowed, found] at allowed
      split at allowed
      next content reads =>
        have isSeed := agrees.safe.stored.read_eq tells agrees.safe.known
          known reads
        rw [isSeed] at reads
        exact ⟨known, reads⟩
      · cases allowed
    · intro password isEvent
      subst isEvent
      cases allowed

theorem Agrees.changePassword
    (tells : TellsApart environment.provider passwords)
    (agrees : Agrees environment seed passwords lock) {pinValue : String}
    (typed : pinValue ∈ passwords) (fates : List Fate) :
    Agrees environment seed passwords
      (lock.changePassword environment pinValue fates) := by
  have safe := agrees.safe.changePassword tells typed fates
  have kept : lock.startup.PinsKept
      (Reads environment seed passwords (lock.seedWallet.changePassword
        environment.provider pinValue fates).store) (· ∈ passwords) := by
    apply agrees.pinsKept
    intro password opens
    exact opens.of_untouched (SeedWallet.changePassword_untouched _ _ _ _)
  simp only [PinLock.changePassword]
  split
  · exact ⟨safe, kept⟩
  · exact ⟨safe, kept⟩
  · exact ⟨safe, .start _ _⟩

/-- The new PIN is kept where the file was written with it, and the old one
where it was not. -/
theorem Agrees.encryptWallet
    (agrees : Agrees environment seed passwords lock)
    {newPinValue confirmPinValue : String}
    (typed : confirmPinValue ∈ passwords)
    (apart : ∀ thread ∈ lock.startup.threads, thread.hasRead = false)
    {salt : RandomBytes EncryptedSeed.saltLength} {iv : RandomBytes 16}
    {fates : List Fate}
    (result : lock.encryptWallet environment seed newPinValue confirmPinValue
      salt iv fates = some next) :
    Agrees environment seed passwords next := by
  have safe : Safe environment.provider seed passwords
      (lock.seedWallet.encryptWallet environment.provider salt iv seed
        newPinValue confirmPinValue fates) :=
    agrees.safe.encryptWallet typed salt iv fates
  simp only [PinLock.encryptWallet] at result
  split at result
  · cases result
    exact agrees
  next long =>
    split at result
    · cases result
      exact agrees
    next same =>
      have written := SeedWallet.encryptWallet_store environment.provider
        lock.seedWallet (not_not.mp long) (not_not.mp same) salt iv seed fates
      split at result
      next value outcome =>
        rw [outcome] at written
        obtain ⟨startup, entered, rfl⟩ := Option.map_eq_some_iff.mp result
        obtain ⟨_, entered⟩ := Option.ite_none_right_eq_some.mp entered
        cases entered
        refine ⟨safe, ?_⟩
        constructor
        · intro password isPin
          rw [StartupState.setField_fields_self] at isPin
          have isNew : confirmPinValue = password := Option.some.inj isPin
          rw [← isNew]
          exact ⟨typed, written⟩
        · exact agrees.kept.reading
        · intro password keys remaining member
          have impossible := apart _ member
          cases impossible
      next error outcome =>
        rw [outcome] at written
        cases result
        refine ⟨safe, ?_⟩
        apply agrees.pinsKept
        intro password opens
        exact opens.of_untouched written
      · cases result
        exact ⟨safe, .start _ _⟩

theorem Agrees.step (tells : TellsApart environment.provider passwords)
    (agrees : Agrees environment seed passwords lock)
    (apart : ChangedApart passwords lock event)
    (result : lock.step environment event = some next) :
    Agrees environment seed passwords next := by
  cases event with
  | checkup fates datadir => exact agrees.checkup result
  | startup started => exact agrees.startupStep tells apart.1 result
  | changePassword pinValue fates =>
      cases result
      exact agrees.changePassword tells (apart.1 pinValue rfl) fates
  | confirmNewPin index newPinValue confirmPinValue salt iv fates =>
      obtain ⟨content, found, result⟩ := Option.bind_eq_some_iff.mp result
      have isSeed := agrees.safe.offered content (List.mem_of_getElem? found)
      subst content
      exact agrees.encryptWallet (apart.1 confirmPinValue rfl) (apart.2 rfl)
        result
  | clickPinSwitch checked =>
      cases result
      simp only [PinLock.clickPinSwitch]
      split
      · exact agrees.of_same rfl rfl
      · split
        · exact agrees.of_same rfl rfl
        · exact agrees
  | pressRemovalKey index key =>
      obtain ⟨dialog, _, result⟩ := Option.bind_eq_some_iff.mp result
      obtain ⟨_, rfl⟩ := Option.ite_some_none_eq_some.mp result
      exact agrees.of_same rfl rfl
  | cancelRemoval index =>
      obtain ⟨dialog, _, result⟩ := Option.bind_eq_some_iff.mp result
      obtain ⟨_, rfl⟩ := Option.ite_some_none_eq_some.mp result
      exact agrees.of_same rfl rfl
  | removalTimerFires index =>
      obtain ⟨dialog, _, result⟩ := Option.bind_eq_some_iff.mp result
      obtain ⟨_, rfl⟩ := Option.ite_some_none_eq_some.mp result
      simp only [onRemovalConfirm]
      split
      · split
        · exact agrees.of_same rfl rfl
        · exact agrees.of_same rfl rfl
      · exact agrees.of_same rfl rfl
  | openPayment goToFrag =>
      cases result
      exact agrees.of_same rfl rfl
  | payment screen confirms =>
      obtain ⟨before, _, result⟩ := Option.bind_eq_some_iff.mp result
      obtain ⟨_, result⟩ := Option.ite_none_right_eq_some.mp result
      obtain ⟨after, _, rfl⟩ := Option.map_eq_some_iff.mp result
      exact agrees.of_same rfl rfl
  | openChannel feerates =>
      cases result
      exact agrees.of_same rfl rfl
  | channel screen opened =>
      obtain ⟨before, _, result⟩ := Option.bind_eq_some_iff.mp result
      obtain ⟨_, result⟩ := Option.ite_none_right_eq_some.mp result
      obtain ⟨after, _, rfl⟩ := Option.map_eq_some_iff.mp result
      exact agrees.of_same rfl rfl
  | storePreferences =>
      cases result
      exact agrees.of_same rfl rfl
  | kill =>
      cases result
      refine ⟨agrees.safe.killed agrees.safe.stored, ?_⟩
      exact .start _ _

/-- From a process that begins with its seed stored, whatever startups, changes
of the PIN and restarts follow, each of which may fail or be killed at any
point: whenever a PIN is in memory, the seed can be read with it. -/
theorem pin_opens_seed (tells : TellsApart environment.provider passwords)
    (start finish : PinLock) (events : List LockEvent)
    (safe : Safe environment.provider seed passwords start.seedWallet)
    (begins : start.startup = {})
    (run : exec (PinLock.step environment) start events = some finish)
    (apart : StepsMeet (PinLock.step environment) (ChangedApart passwords)
      start events) :
    ∀ password, finish.pin = some password →
      Opens environment.provider seed password finish.seedWallet.store := by
  have initially : Agrees environment seed passwords start := by
    refine ⟨safe, ?_⟩
    rw [begins]
    exact .start _ _
  have agrees : Agrees environment seed passwords finish := by
    apply invariant_of_stepsMeet _ initially apart run
    intro state event next before condition result
    exact before.step tells condition result
  intro password isPin
  exact (agrees.kept.held password isPin).2

/-- The PIN is changed once the node has started. -/
def changed : List LockEvent :=
  unlocked ++
    [.changePassword oldPin.pin [],
      .confirmNewPin 0 newPin.pin newPin.pin sampleSalt sampleIv []]

theorem changed_opens_seed :
    ∃ finish, exec (PinLock.step sampleEnvironment) sampleLock changed =
        some finish ∧
      finish.pin = some newPin.pin ∧
      Opens pinProvider sampleSeed newPin.pin finish.seedWallet.store := by
  have runs : (exec (PinLock.step sampleEnvironment) sampleLock changed).any
      (fun finish => finish.pin = some newPin.pin) = true := by
    decide +kernel
  obtain ⟨finish, run, isNew⟩ := (Option.any_eq_true _ _).mp runs
  have isPin := of_decide_eq_true isNew
  refine ⟨finish, run, isPin, ?_⟩
  apply pin_opens_seed samplePins_tellsApart sampleLock finish changed
    _ rfl run (by decide +kernel) newPin.pin isPin
  refine ⟨.inr ⟨oldPin.pin, by simp [sampleLock], sampleLock_opens⟩, ?_, ?_⟩
  · intro content member
    cases member
  · intro password member
    rw [List.mem_singleton.mp member]
    exact .inl rfl

/-- The last digit is typed twice, so that two threads read the seed; the
first one starts the node. -/
def twoThreads : List StartupEvent :=
  ['1', '2', '3', '4', '5', '6'].map (fun digit =>
    .pressKey 0 (.digit digit)) ++
  [.pressKey 0 .backspace, .pressKey 0 (.digit '6'), .timerFires 0,
    .timerFires 0, .seedRead 0 StartupState.sampleSeedKeys,
    .seedRead 1 StartupState.sampleSeedKeys] ++
  List.replicate 5 (.advance 0 StartupState.startedBefore) ++
  [.takeTask, .setUp .actorsCreated, .bootstrap .started]

/-- The PIN is changed before the second thread assigns the old one. -/
def changedDuringStartup : List LockEvent :=
  .checkup [] {} :: twoThreads.map .startup ++
  [.changePassword oldPin.pin [],
    .confirmNewPin 0 newPin.pin newPin.pin sampleSalt sampleIv [],
    .startup (.advance 0 StartupState.startedBefore)]

/-- The wallet then keeps the old PIN, which opens nothing. -/
example : (exec (PinLock.step sampleEnvironment) sampleLock
    changedDuringStartup).any (fun finish =>
      finish.pin = some oldPin.pin ∧
        ¬Opens pinProvider sampleSeed oldPin.pin finish.seedWallet.store) =
        true := by
  decide +kernel

end PinLock

end EclairWallet
