import EclairWallet.Startup.Consistency

/-!
# The PIN a startup keeps

A password comes to a thread from a dialog or from the PIN already kept, and is
kept as the PIN once the seed was read with it.  What holds of the passwords
the seed can be read with holds of the PIN.
-/

namespace EclairWallet

namespace StartupState

/-- `tried` holds of the passwords the threads read with, and `right` of those
the seed was read with, and of the PIN. -/
structure PinsKept (right tried : String → Prop) (state : StartupState) :
    Prop where
  held : ∀ password : String, state.fields .pin = some password →
    right password
  reading : ∀ password, .reading password ∈ state.threads → tried password
  assigning : ∀ password keys remaining,
    .assigning password keys remaining ∈ state.threads → right password

namespace PinsKept

variable {right tried : String → Prop} {state next : StartupState}

theorem start (right tried : String → Prop) : PinsKept right tried {} where
  held := by
    intro password isPin
    cases isPin
  reading := by
    intro password member
    cases member
  assigning := by
    intro password keys remaining member
    cases member

theorem of_same (kept : PinsKept right tried state)
    (fields : next.fields = state.fields)
    (threads : next.threads = state.threads) : PinsKept right tried next where
  held := by rw [fields]; exact kept.held
  reading := by rw [threads]; exact kept.reading
  assigning := by rw [threads]; exact kept.assigning

theorem mono {righter : String → Prop} (kept : PinsKept right tried state)
    (weaker : ∀ password, right password → righter password) :
    PinsKept righter tried state where
  held password isPin := weaker password (kept.held password isPin)
  reading := kept.reading
  assigning password keys remaining member :=
    weaker password (kept.assigning password keys remaining member)

theorem launchStartupTask (kept : PinsKept right tried state)
    {password : String} (isTried : tried password) :
    PinsKept right tried (state.launchStartupTask password) where
  held := kept.held
  reading := by
    intro other member
    rcases List.mem_append.mp member with old | new
    · exact kept.reading other old
    · rw [SeedThread.reading.inj (List.mem_singleton.mp new)]
      exact isTried
  assigning := by
    intro other keys remaining member
    rcases List.mem_append.mp member with old | new
    · exact kept.assigning other keys remaining old
    · cases List.mem_singleton.mp new

theorem setThread (kept : PinsKept right tried state) (index : Nat)
    {thread : SeedThread}
    (reads : ∀ password, thread = .reading password → tried password)
    (assigns : ∀ password keys remaining,
      thread = .assigning password keys remaining → right password) :
    PinsKept right tried (state.setThread index thread) where
  held := kept.held
  reading := by
    intro password member
    rcases List.mem_or_eq_of_mem_set member with old | now
    · exact kept.reading password old
    · exact reads password now.symm
  assigning := by
    intro password keys remaining member
    rcases List.mem_or_eq_of_mem_set member with old | now
    · exact kept.assigning password keys remaining old
    · exact assigns password keys remaining now.symm

theorem endThread (kept : PinsKept right tried state) (index : Nat) :
    PinsKept right tried (state.endThread index) where
  held := kept.held
  reading password member :=
    kept.reading password (List.mem_of_mem_eraseIdx member)
  assigning password keys remaining member :=
    kept.assigning password keys remaining (List.mem_of_mem_eraseIdx member)

theorem setField (kept : PinsKept right tried state) (field : AppField)
    (value : Option field.Value)
    (isRight : ∀ password : String,
      Function.update state.fields field value .pin = some password →
        right password) :
    PinsKept right tried (state.setField field value) where
  held := isRight
  reading := kept.reading
  assigning := kept.assigning

theorem resetField (kept : PinsKept right tried state) (field : AppField) :
    PinsKept right tried (state.setField field none) := by
  apply kept.setField
  intro password isPin
  by_cases same : field = .pin
  · subst field
    rw [Function.update_self] at isPin
    cases isPin
  · rw [Function.update_of_ne (Ne.symm same)] at isPin
    exact kept.held password isPin

theorem assignField (kept : PinsKept right tried state) (keys : SeedKeys)
    {password : String} (isRight : right password) (field : AppField) :
    PinsKept right tried
      (state.setField field (some (keys.value password field))) := by
  apply kept.setField
  intro other isPin
  by_cases same : field = .pin
  · subst field
    rw [Function.update_self] at isPin
    have isPassword : password = other := Option.some.inj isPin
    rw [← isPassword]
    exact isRight
  · rw [Function.update_of_ne (Ne.symm same)] at isPin
    exact kept.held other isPin

theorem startNode (kept : PinsKept right tried state)
    (tries : ∀ password, right password → tried password)
    (datadir : Datadir) : PinsKept right tried (state.startNode datadir) := by
  have hidden : PinsKept right tried { state with startupError := none } :=
    kept.of_same rfl rfl
  simp only [StartupState.startNode]
  split
  · exact hidden
  · split
    · exact hidden.of_same rfl rfl
    · split
      · exact hidden.of_same rfl rfl
      · split
        · exact hidden.of_same rfl rfl
        next currentPassword isPin =>
          apply hidden.launchStartupTask
          exact tries currentPassword (kept.held currentPassword isPin)

theorem run (kept : PinsKept right tried state)
    (tries : ∀ password, right password → tried password)
    (datadir : Datadir) (subscribers : Nat) (message : Posted) :
    PinsKept right tried (state.run datadir subscribers message) := by
  cases message with
  | seedFailed failure =>
      cases failure with
      | wrongPassword => exact kept.of_same rfl rfl
      | unreadableSeed => exact kept.of_same rfl rfl
  | startNode => exact kept.startNode tries datadir
  | startupComplete status =>
      simp only [StartupState.run, processStartupFinish]
      split
      · exact kept
      · split
        · split
          · exact kept
          · exact kept.of_same rfl rfl
        · exact kept.of_same rfl rfl

theorem advance (kept : PinsKept right tried state) {index : Nat}
    {prefs : StartupPrefs} {thread : SeedThread}
    (found : state.threads[index]? = some thread)
    (result : state.advance index prefs thread = some next) :
    PinsKept right tried next := by
  have member : thread ∈ state.threads := List.mem_of_getElem? found
  cases thread with
  | reading password => cases result
  | assigning password keys remaining =>
      have isRight := kept.assigning password keys remaining member
      cases remaining with
      | nil =>
          simp only [StartupState.advance] at result
          split at result
          · cases result
            exact (kept.endThread index).of_same rfl rfl
          · cases result
            exact kept.endThread index
      | cons field remaining =>
          cases result
          apply (kept.assignField keys isRight field).setThread
          · intro other impossible
            cases impossible
          · intro other otherKeys rest same
            cases same
            exact isRight
  | resetting remaining failure =>
      cases remaining with
      | nil =>
          cases result
          exact (kept.endThread index).of_same rfl rfl
      | cons field remaining =>
          cases result
          apply (kept.resetField field).setThread
          · intro other impossible
            cases impossible
          · intro other otherKeys rest impossible
            cases impossible

theorem setUp (kept : PinsKept right tried state) (outcome : SetUpOutcome) :
    PinsKept right tried (state.setUp outcome) := by
  cases outcome with
  | noNetwork => exact kept.of_same rfl rfl
  | setupThrows => exact kept.of_same rfl rfl
  | laterActorThrows => exact kept.of_same rfl rfl
  | actorsCreated =>
      simp only [StartupState.setUp]
      split
      · exact kept.of_same rfl rfl
      · exact kept.of_same rfl rfl

theorem bootstrap (kept : PinsKept right tried state)
    (outcome : BootstrapOutcome) :
    PinsKept right tried (state.bootstrap outcome) := by
  cases outcome with
  | started => exact kept.of_same rfl rfl
  | notScheduled => exact kept.of_same rfl rfl
  | timedOut => exact kept.of_same rfl rfl
  | failed => exact kept.of_same rfl rfl

/-- What is asked of an event: a typed password is one to try, a password the
seed is read with is right, and so is a new one. -/
structure Admits (right tried : String → Prop) (state : StartupState)
    (event : StartupEvent) : Prop where
  typed : ∀ index dialog, event = .timerFires index →
    state.dialogs[index]? = some dialog →
    tried (String.ofList dialog.mPinValue)
  read : ∀ index keys password, event = .seedRead index keys →
    state.threads[index]? = some (.reading password) → right password
  entered : ∀ password, event = .encryptWallet password → right password

theorem mainStep {event : StartupEvent} (kept : PinsKept right tried state)
    (tries : ∀ password, right password → tried password)
    (admits : Admits right tried state event)
    (result : state.mainStep event = some next) :
    PinsKept right tried next := by
  cases event with
  | onResume checkup datadir =>
      obtain rfl := Option.some.inj result
      split
      · exact kept.startNode tries datadir
      · exact kept
  | onPause =>
      cases result
      exact kept.of_same rfl rfl
  | pressKey index key =>
      obtain ⟨dialog, _, pressed⟩ := Option.bind_eq_some_iff.mp result
      obtain ⟨_, rfl⟩ := Option.ite_some_none_eq_some.mp pressed
      exact kept.of_same rfl rfl
  | timerFires index =>
      obtain ⟨dialog, found, fired⟩ := Option.bind_eq_some_iff.mp result
      obtain ⟨_, rfl⟩ := Option.ite_some_none_eq_some.mp fired
      have isTried := admits.typed index dialog rfl found
      exact (kept.launchStartupTask isTried).of_same rfl rfl
  | encryptWallet password =>
      cases result
      apply kept.setField
      intro other isPin
      rw [Function.update_self] at isPin
      have isPassword : password = other := Option.some.inj isPin
      rw [← isPassword]
      exact admits.entered password rfl
  | runPosted index datadir subscribers =>
      obtain ⟨message, _, rfl⟩ := Option.map_eq_some_iff.mp result
      have taken : PinsKept right tried
          { state with posted := state.posted.eraseIdx index } :=
        kept.of_same rfl rfl
      exact taken.run tries datadir subscribers message
  | resetNext => cases result
  | seedRead index keys => cases result
  | threadThrows index failure => cases result
  | advance index prefs => cases result
  | takeTask => cases result
  | setUp outcome => cases result
  | bootstrap outcome => cases result

theorem step {event : StartupEvent} (kept : PinsKept right tried state)
    (tries : ∀ password, right password → tried password)
    (admits : Admits right tried state event)
    (result : state.step event = some next) : PinsKept right tried next := by
  have main : (if state.resets = [] then state.mainStep event else none) =
      some next → PinsKept right tried next := by
    intro stepped
    obtain ⟨_, stepped⟩ := Option.ite_none_right_eq_some.mp stepped
    exact kept.mainStep tries admits stepped
  cases event with
  | resetNext =>
      simp only [StartupState.step] at result
      split at result
      · cases result
      · cases result
        exact (kept.resetField _).of_same rfl rfl
  | seedRead index keys =>
      simp only [StartupState.step] at result
      split at result
      next password found =>
        cases result
        apply kept.setThread
        · intro other impossible
          cases impossible
        · intro other otherKeys rest same
          cases same
          exact admits.read index keys password rfl found
      · cases result
  | threadThrows index failure =>
      have thrown : PinsKept right tried
          (state.setThread index (.resetting AppField.all failure)) := by
        apply kept.setThread
        · intro other impossible
          cases impossible
        · intro other otherKeys rest impossible
          cases impossible
      simp only [StartupState.step] at result
      split at result
      · cases result
        exact thrown
      · cases result
        exact thrown
      · cases result
  | advance index prefs =>
      obtain ⟨thread, found, advanced⟩ := Option.bind_eq_some_iff.mp result
      exact kept.advance found advanced
  | takeTask =>
      obtain ⟨_, rfl⟩ := Option.ite_some_none_eq_some.mp result
      exact kept.of_same rfl rfl
  | setUp outcome =>
      obtain ⟨_, rfl⟩ := Option.ite_some_none_eq_some.mp result
      exact kept.setUp outcome
  | bootstrap outcome =>
      obtain ⟨_, rfl⟩ := Option.ite_some_none_eq_some.mp result
      exact kept.bootstrap outcome
  | onResume checkup datadir => exact main result
  | onPause => exact main result
  | pressKey index key => exact main result
  | timerFires index => exact main result
  | encryptWallet password => exact main result
  | runPosted index datadir subscribers => exact main result

end PinsKept

end StartupState

end EclairWallet
