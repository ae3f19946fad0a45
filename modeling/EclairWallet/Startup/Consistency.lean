import EclairWallet.Startup.Activity

/-!
# No started node without its keys

A field is relied on while an attempt can still start the node, or has started
it, without assigning the field again.  Relied fields are set as long as
nobody resets them.
-/

namespace EclairWallet

open Runs

namespace SeedThread

/-- The thread has assigned the field and goes on. -/
def HasAssigned (field : AppField) : SeedThread → Prop
  | .assigning _ _ remaining => field ∉ remaining
  | _ => False

instance (field : AppField) :
    ∀ thread : SeedThread, Decidable (thread.HasAssigned field)
  | .assigning _ _ remaining =>
      inferInstanceAs (Decidable (field ∉ remaining))
  | .reading _ => .isFalse id
  | .resetting _ _ => .isFalse id

end SeedThread

namespace StartupState

/-- Nothing is missing once the node is started. -/
def Initialised (state : StartupState) : Prop :=
  state.appKit = true → ∀ field, state.fields field ≠ none

/-- An attempt in which the actors still have to be created. -/
def Pending (state : StartupState) (field : AppField) : Prop :=
  state.running = some .starting ∨ 0 < state.queued ∨
    ∃ thread ∈ state.threads, thread.HasAssigned field

instance (state : StartupState) (field : AppField) :
    Decidable (state.Pending field) :=
  inferInstanceAs (Decidable (_ ∨ _ ∨ _))

/-- The node runs, or an attempt can start it that does not assign the field
any more. -/
def Relied (state : StartupState) (field : AppField) : Prop :=
  state.appKit = true ∨ state.running = some .bootstrapping ∨
    state.namesTaken = false ∧ state.Pending field

instance (state : StartupState) (field : AppField) :
    Decidable (state.Relied field) :=
  inferInstanceAs (Decidable (_ ∨ _ ∨ _ ∧ _))

/-- The field the event resets. -/
def resetField? (state : StartupState) : StartupEvent → Option AppField
  | .resetNext => state.resets.head?
  | .advance index _ =>
      match state.threads[index]? with
      | some (.resetting (field :: _) _) => some field
      | _ => none
  | _ => none

/-- The event resets no field an attempt relies on. -/
def ResetsSafely (state : StartupState) (event : StartupEvent) : Prop :=
  ∀ field ∈ state.resetField? event, ¬state.Relied field

instance (state : StartupState) (event : StartupEvent) :
    Decidable (state.ResetsSafely event) :=
  inferInstanceAs (Decidable (∀ field ∈ _, _))

/-- The invariant. -/
def ReliedSet (state : StartupState) : Prop :=
  ∀ field, state.Relied field → state.fields field ≠ none

/-! ## Steps on which nothing new relies -/

/-- The step changes no field, and threads only into ones that have assigned
none. -/
structure Quiet (state next : StartupState) : Prop where
  fields : next.fields = state.fields
  appKit : next.appKit = state.appKit
  running : next.running = state.running
  queued : next.queued = state.queued
  namesTaken : next.namesTaken = state.namesTaken
  threads : ∀ thread ∈ next.threads,
    thread ∈ state.threads ∨ ∀ field, ¬thread.HasAssigned field

theorem Quiet.of_same {state next : StartupState}
    (fields : next.fields = state.fields)
    (appKit : next.appKit = state.appKit)
    (running : next.running = state.running)
    (queued : next.queued = state.queued)
    (namesTaken : next.namesTaken = state.namesTaken)
    (threads : next.threads = state.threads) : Quiet state next where
  fields := fields
  appKit := appKit
  running := running
  queued := queued
  namesTaken := namesTaken
  threads := by
    intro thread member
    rw [threads] at member
    exact .inl member

theorem launchStartupTask_quiet (state : StartupState) (password : String) :
    Quiet state (state.launchStartupTask password) where
  fields := rfl
  appKit := rfl
  running := rfl
  queued := rfl
  namesTaken := rfl
  threads := by
    intro thread member
    rcases List.mem_append.mp member with old | new
    · exact .inl old
    · right
      rw [List.mem_singleton.mp new]
      intro field assigned
      exact assigned

theorem setThread_quiet (state : StartupState) (index : Nat)
    {thread : SeedThread}
    (unassigned : ∀ field, ¬thread.HasAssigned field) :
    Quiet state (state.setThread index thread) where
  fields := rfl
  appKit := rfl
  running := rfl
  queued := rfl
  namesTaken := rfl
  threads := by
    intro other member
    rcases List.mem_or_eq_of_mem_set member with old | rfl
    · exact .inl old
    · exact .inr unassigned

theorem endThread_quiet (state : StartupState) (index : Nat) :
    Quiet state (state.endThread index) where
  fields := rfl
  appKit := rfl
  running := rfl
  queued := rfl
  namesTaken := rfl
  threads := by
    intro thread member
    exact .inl (List.mem_of_mem_eraseIdx member)

theorem Quiet.trans {first second third : StartupState}
    (earlier : Quiet first second) (later : Quiet second third) :
    Quiet first third where
  fields := later.fields.trans earlier.fields
  appKit := later.appKit.trans earlier.appKit
  running := later.running.trans earlier.running
  queued := later.queued.trans earlier.queued
  namesTaken := later.namesTaken.trans earlier.namesTaken
  threads := by
    intro thread member
    rcases later.threads thread member with old | new
    · exact earlier.threads thread old
    · exact .inr new

theorem startNode_quiet (state : StartupState) (datadir : Datadir) :
    Quiet state (state.startNode datadir) := by
  simp only [startNode]
  split
  · exact .of_same rfl rfl rfl rfl rfl rfl
  · split
    · exact .of_same rfl rfl rfl rfl rfl rfl
    · split
      · exact .of_same rfl rfl rfl rfl rfl rfl
      · split
        · exact .of_same rfl rfl rfl rfl rfl rfl
        next currentPassword _ =>
          have hidden : Quiet state { state with startupError := none } :=
            .of_same rfl rfl rfl rfl rfl rfl
          exact hidden.trans (launchStartupTask_quiet _ currentPassword)

theorem onPinConfirm_quiet (state : StartupState) (index : Nat)
    (dialog : PinDialog) : Quiet state (state.onPinConfirm index dialog) :=
  (launchStartupTask_quiet state _).trans (.of_same rfl rfl rfl rfl rfl rfl)

theorem run_quiet (state : StartupState) (datadir : Datadir)
    (subscribers : Nat) (message : Posted) :
    Quiet state (state.run datadir subscribers message) := by
  cases message with
  | seedFailed failure =>
      cases failure <;> exact .of_same rfl rfl rfl rfl rfl rfl
  | startNode => exact startNode_quiet state datadir
  | startupComplete status =>
      simp only [run, processStartupFinish]
      split
      · exact .of_same rfl rfl rfl rfl rfl rfl
      · split
        · split <;> exact .of_same rfl rfl rfl rfl rfl rfl
        · exact .of_same rfl rfl rfl rfl rfl rfl

theorem mainStep_cases {state next : StartupState} {event : StartupEvent}
    (result : state.mainStep event = some next) :
    (∃ pin, event = .encryptWallet pin ∧
      next = state.setField .pin (some pin)) ∨ Quiet state next := by
  cases event with
  | encryptWallet pin =>
      left
      exact ⟨pin, rfl, (Option.some.inj result).symm⟩
  | onResume checkup datadir =>
      right
      cases checkup with
      | false =>
          have same : state = next := by simpa [mainStep] using result
          subst same
          exact .of_same rfl rfl rfl rfl rfl rfl
      | true =>
          have same : state.startNode datadir = next := by
            simpa [mainStep] using result
          subst same
          exact startNode_quiet state datadir
  | onPause =>
      right
      cases result
      exact .of_same rfl rfl rfl rfl rfl rfl
  | pressKey index key =>
      right
      obtain ⟨dialog, _, pressed⟩ := Option.bind_eq_some_iff.mp result
      split at pressed
      · cases pressed
        exact .of_same rfl rfl rfl rfl rfl rfl
      · cases pressed
  | timerFires index =>
      right
      obtain ⟨dialog, _, fired⟩ := Option.bind_eq_some_iff.mp result
      split at fired
      · cases fired
        exact onPinConfirm_quiet state index dialog
      · cases fired
  | runPosted index datadir subscribers =>
      right
      obtain ⟨message, _, handled⟩ := Option.map_eq_some_iff.mp result
      subst handled
      have taken : Quiet state
          { state with posted := state.posted.eraseIdx index } :=
        .of_same rfl rfl rfl rfl rfl rfl
      exact taken.trans (run_quiet _ datadir subscribers message)
  | resetNext => cases result
  | seedRead index keys => cases result
  | threadThrows index failure => cases result
  | advance index prefs => cases result
  | takeTask => cases result
  | setUp outcome => cases result
  | bootstrap outcome => cases result

/-! ## What a step does to the fields an attempt relies on -/

/-- The step loses no field but the one it resets, and relies on no field
that it does not set or that was not relied on before. -/
structure Keeps (reset : Option AppField) (state next : StartupState) :
    Prop where
  fields : ∀ field, reset ≠ some field → state.fields field ≠ none →
    next.fields field ≠ none
  relied : ∀ field, next.Relied field →
    state.Relied field ∨ next.fields field ≠ none

theorem Keeps.reliedSet {reset : Option AppField} {state next : StartupState}
    (keeps : Keeps reset state next) (reliedSet : state.ReliedSet)
    (safe : ∀ field ∈ reset, ¬state.Relied field) : next.ReliedSet := by
  intro field relied
  rcases keeps.relied field relied with before | isSet
  · apply keeps.fields field
    · intro isReset
      exact safe field isReset before
    · exact reliedSet field before
  · exact isSet

/-- An attempt is relied on at least as much when threads are added that have
assigned nothing. -/
theorem Relied.of_threads (state : StartupState) {next : StartupState}
    {field : AppField} (relied : next.Relied field)
    (appKit : next.appKit = state.appKit)
    (running : next.running = state.running)
    (queued : next.queued = state.queued)
    (namesTaken : next.namesTaken = state.namesTaken)
    (threads : ∀ thread ∈ next.threads, thread.HasAssigned field →
      ∃ before ∈ state.threads, before.HasAssigned field) :
    state.Relied field := by
  rcases relied with started | bootstrapping | ⟨free, pending⟩
  · exact .inl (appKit ▸ started)
  · exact .inr (.inl (running ▸ bootstrapping))
  · refine .inr (.inr ⟨namesTaken ▸ free, ?_⟩)
    rcases pending with starting | waiting | ⟨thread, member, assigned⟩
    · exact .inl (running ▸ starting)
    · exact .inr (.inl (queued ▸ waiting))
    · exact .inr (.inr (threads thread member assigned))

theorem Quiet.keeps {state next : StartupState} (quiet : Quiet state next) :
    Keeps none state next where
  fields := by
    intro field _ isSet
    rw [quiet.fields]
    exact isSet
  relied := by
    intro field relied
    left
    apply relied.of_threads state quiet.appKit quiet.running quiet.queued
      quiet.namesTaken
    intro thread member assigned
    rcases quiet.threads thread member with old | unassigned
    · exact ⟨thread, old, assigned⟩
    · exact (unassigned field assigned).elim

theorem setField_fields_self (state : StartupState) (field : AppField)
    (value : Option field.Value) :
    (state.setField field value).fields field = value :=
  Function.update_self _ _ _

theorem setField_fields_of_ne (state : StartupState) {field other : AppField}
    (value : Option field.Value) (different : other ≠ field) :
    (state.setField field value).fields other = state.fields other :=
  Function.update_of_ne different _ _

theorem setField_some_isSet {state : StartupState} {field other : AppField}
    (value : field.Value) (isSet : state.fields other ≠ none) :
    (state.setField field (some value)).fields other ≠ none := by
  by_cases same : other = field
  · subst other
    rw [setField_fields_self]
    exact Option.some_ne_none value
  · rw [setField_fields_of_ne state _ same]
    exact isSet

theorem encryptWallet_keeps (state : StartupState) (pin : String) :
    Keeps none state (state.setField .pin (some pin)) where
  fields := by
    intro field _ isSet
    exact setField_some_isSet (show AppField.Value .pin from pin) isSet
  relied := by
    intro field relied
    left
    exact relied.of_threads state rfl rfl rfl rfl 
      (fun thread member assigned => ⟨thread, member, assigned⟩)

theorem assign_keeps {state : StartupState} {index : Nat} {password : String}
    {keys : SeedKeys} {field : AppField} {remaining : List AppField}
    (found : state.threads[index]? =
      some (.assigning password keys (field :: remaining))) :
    Keeps none state
      ((state.setField field (some (keys.value password field))).setThread
        index (.assigning password keys remaining)) where
  fields := by
    intro other _ isSet
    exact setField_some_isSet _ isSet
  relied := by
    intro other relied
    by_cases same : other = field
    · right
      subst other
      change (state.setField field _).fields field ≠ none
      rw [setField_fields_self]
      exact Option.some_ne_none _
    · left
      apply relied.of_threads state rfl rfl rfl rfl
      intro thread member assigned
      rcases List.mem_or_eq_of_mem_set member with old | rfl
      · exact ⟨thread, old, assigned⟩
      · refine ⟨_, List.mem_of_getElem? found, ?_⟩
        exact List.not_mem_cons_of_ne_of_not_mem same assigned

theorem reset_keeps {state next : StartupState} {field : AppField}
    (fields : next.fields = (state.setField field none).fields)
    (relied : ∀ other, next.Relied other → state.Relied other) :
    Keeps (some field) state next where
  fields := by
    intro other notReset isSet
    have different : other ≠ field := by
      intro same
      exact notReset (congrArg some same.symm)
    rw [fields, setField_fields_of_ne state none different]
    exact isSet
  relied := by
    intro other after
    exact .inl (relied other after)

theorem queue_keeps {state : StartupState} {index : Nat} {password : String}
    {keys : SeedKeys}
    (found : state.threads[index]? = some (.assigning password keys [])) :
    Keeps none state
      { state.endThread index with queued := state.queued + 1 } where
  fields := by
    intro field _ isSet
    exact isSet
  relied := by
    intro field relied
    left
    rcases relied with started | bootstrapping | ⟨free, _⟩
    · exact .inl started
    · exact .inr (.inl bootstrapping)
    · refine .inr (.inr ⟨free, .inr (.inr ⟨_, List.mem_of_getElem? found, ?_⟩)⟩)
      exact List.not_mem_nil

theorem advance_keeps {state next : StartupState} {index : Nat}
    {prefs : StartupPrefs} {thread : SeedThread}
    (found : state.threads[index]? = some thread)
    (result : state.advance index prefs thread = some next) :
    Keeps (state.resetField? (.advance index prefs)) state next := by
  cases thread with
  | reading password => cases result
  | assigning password keys remaining =>
      simp only [resetField?, found]
      cases remaining with
      | nil =>
          simp only [advance] at result
          split at result
          · cases result
            exact queue_keeps found
          · cases result
            exact (endThread_quiet state index).keeps
      | cons field remaining =>
          cases result
          exact assign_keeps found
  | resetting remaining failure =>
      simp only [resetField?, found]
      cases remaining with
      | nil =>
          cases result
          have ended := endThread_quiet state index
          have posted : Quiet (state.endThread index)
              ((state.endThread index).post (.seedFailed failure)) :=
            .of_same rfl rfl rfl rfl rfl rfl
          exact (ended.trans posted).keeps
      | cons field remaining =>
          cases result
          refine reset_keeps ?_ ?_
          · rfl
          intro other relied
          apply relied.of_threads state rfl rfl rfl rfl
          intro thread member assigned
          rcases List.mem_or_eq_of_mem_set member with old | rfl
          · exact ⟨thread, old, assigned⟩
          · cases assigned

/-- Only the attempts change, and none that was not relied on is. -/
theorem Keeps.of_fields {state next : StartupState}
    (fields : next.fields = state.fields)
    (relied : ∀ field, next.Relied field → state.Relied field) :
    Keeps none state next where
  fields := by
    intro field _ isSet
    rw [fields]
    exact isSet
  relied := by
    intro field after
    exact .inl (relied field after)

theorem endTask_relied {state : StartupState} {status : StartupStatus}
    {field : AppField} (relied : (state.endTask status).Relied field) :
    state.Relied field := by
  rcases relied with started | bootstrapping | ⟨free, pending⟩
  · exact .inl started
  · cases bootstrapping
  · refine .inr (.inr ⟨free, ?_⟩)
    rcases pending with starting | waiting | threads
    · cases starting
    · exact .inr (.inl waiting)
    · exact .inr (.inr threads)

theorem setUp_keeps {state : StartupState}
    (starting : state.running = some .starting) (outcome : SetUpOutcome) :
    Keeps none state (state.setUp outcome) := by
  cases outcome with
  | noNetwork => exact .of_fields rfl (fun _ => endTask_relied)
  | setupThrows => exact .of_fields rfl (fun _ => endTask_relied)
  | laterActorThrows =>
      refine .of_fields ?_ ?_
      · rfl
      intro field relied
      rcases endTask_relied relied with started | bootstrapping | ⟨free, _⟩
      · exact .inl started
      · exact .inr (.inl bootstrapping)
      · cases free
  | actorsCreated =>
      simp only [setUp]
      split
      · exact .of_fields rfl (fun _ => endTask_relied)
      next free =>
        refine .of_fields ?_ ?_
        · rfl
        intro field _
        exact .inr (.inr ⟨Bool.eq_false_iff.mpr free, .inl starting⟩)

theorem bootstrap_keeps {state : StartupState}
    (bootstrapping : state.running = some .bootstrapping)
    (outcome : BootstrapOutcome) :
    Keeps none state (state.bootstrap outcome) := by
  cases outcome with
  | started =>
      refine .of_fields ?_ ?_
      · rfl
      intro field _
      exact .inr (.inl bootstrapping)
  | notScheduled =>
      refine .of_fields ?_ ?_
      · rfl
      intro field _
      exact .inr (.inl bootstrapping)
  | timedOut => exact .of_fields rfl (fun _ => endTask_relied)
  | failed => exact .of_fields rfl (fun _ => endTask_relied)

theorem takeTask_keeps {state : StartupState} (waiting : 0 < state.queued) :
    Keeps none state
      { state with queued := state.queued - 1, running := some .starting } := by
  refine .of_fields ?_ ?_
  · rfl
  intro field relied
  rcases relied with started | bootstrapping | ⟨free, _⟩
  · exact .inl started
  · cases bootstrapping
  · exact .inr (.inr ⟨free, .inr (.inl waiting)⟩)

theorem mainStep_keeps {state next : StartupState} {event : StartupEvent}
    (result : state.mainStep event = some next) : Keeps none state next := by
  rcases mainStep_cases result with ⟨pin, _, rfl⟩ | quiet
  · exact encryptWallet_keeps state pin
  · exact quiet.keeps

theorem step_keeps {state next : StartupState} {event : StartupEvent}
    (result : state.step event = some next) :
    Keeps (state.resetField? event) state next := by
  cases event with
  | resetNext =>
      simp only [step] at result
      split at result
      · cases result
      next field resets pending =>
        cases result
        rw [resetField?, pending]
        refine reset_keeps ?_ ?_
        · rfl
        intro other relied
        exact relied.of_threads state rfl rfl rfl rfl
          (fun thread member assigned => ⟨thread, member, assigned⟩)
  | seedRead index keys =>
      simp only [step] at result
      split at result
      · cases result
        apply (setThread_quiet state index _).keeps
        intro field assigned
        exact assigned (AppField.mem_all field)
      · cases result
  | threadThrows index failure =>
      simp only [step] at result
      split at result
      · cases result
        exact (setThread_quiet state index (fun _ => id)).keeps
      · cases result
        exact (setThread_quiet state index (fun _ => id)).keeps
      · cases result
  | advance index prefs =>
      obtain ⟨thread, found, advanced⟩ := Option.bind_eq_some_iff.mp result
      exact advance_keeps found advanced
  | takeTask =>
      simp only [step] at result
      split at result
      next ready =>
        cases result
        exact takeTask_keeps ready.2
      · cases result
  | setUp outcome =>
      simp only [step] at result
      split at result
      next starting =>
        cases result
        exact setUp_keeps starting outcome
      · cases result
  | bootstrap outcome =>
      simp only [step] at result
      split at result
      next bootstrapping =>
        cases result
        exact bootstrap_keeps bootstrapping outcome
      · cases result
  | onResume checkup datadir =>
      exact mainStep_keeps (Option.ite_none_right_eq_some.mp result).2
  | onPause => exact mainStep_keeps (Option.ite_none_right_eq_some.mp result).2
  | pressKey index key =>
      exact mainStep_keeps (Option.ite_none_right_eq_some.mp result).2
  | timerFires index =>
      exact mainStep_keeps (Option.ite_none_right_eq_some.mp result).2
  | encryptWallet pin =>
      exact mainStep_keeps (Option.ite_none_right_eq_some.mp result).2
  | runPosted index datadir subscribers =>
      exact mainStep_keeps (Option.ite_none_right_eq_some.mp result).2

theorem reliedSet_of_resetsSafely {start finish : StartupState}
    {events : List StartupEvent} (initially : start.ReliedSet)
    (safely : StepsMeet step ResetsSafely start events)
    (run : exec step start events = some finish) : finish.ReliedSet := by
  apply invariant_of_stepsMeet _ initially safely run
  intro state event next reliedSet safe result
  exact (step_keeps result).reliedSet reliedSet safe

theorem ReliedSet.initialised {state : StartupState}
    (reliedSet : state.ReliedSet) : state.Initialised := by
  intro started field
  apply reliedSet field
  exact .inl started

theorem reliedSet_start : ReliedSet {} := by
  intro field relied
  rcases relied with started | bootstrapping | ⟨_, pending⟩
  · cases started
  · cases bootstrapping
  · rcases pending with starting | waiting | ⟨thread, member, _⟩
    · cases starting
    · cases waiting
    · cases member

/-! ## A relied field that is reset -/

/-- A bootstrapping task can start the node whatever has become of a field. -/
theorem exists_start_of_bootstrapping {state : StartupState}
    (bootstrapping : state.running = some .bootstrapping) :
    ∃ finish, exec step state [.bootstrap .started] = some finish ∧
      finish.appKit = true ∧ finish.fields = state.fields := by
  refine ⟨state.bootstrap .started, ?_, rfl, rfl⟩
  simp [step, bootstrapping]

theorem exists_start_of_starting {state : StartupState}
    (free : state.namesTaken = false)
    (starting : state.running = some .starting) :
    ∃ events finish, exec step state events = some finish ∧
      finish.appKit = true ∧ finish.fields = state.fields := by
  have created : state.step (.setUp .actorsCreated) =
      some (state.setUp .actorsCreated) := by
    simp [step, starting]
  have bootstrapping : (state.setUp .actorsCreated).running =
      some .bootstrapping := by
    simp [setUp, free]
  have unchanged : (state.setUp .actorsCreated).fields = state.fields := by
    simp [setUp, free]
  obtain ⟨finish, run, started, fields⟩ :=
    exists_start_of_bootstrapping bootstrapping
  refine ⟨[.setUp .actorsCreated, .bootstrap .started], finish, ?_, started,
    fields.trans unchanged⟩
  exact exec_cons_eq_some_iff.mpr ⟨_, created, run⟩

theorem exists_start_of_queued {state : StartupState}
    (free : state.namesTaken = false) (idle : state.running = none)
    (waiting : 0 < state.queued) :
    ∃ events finish, exec step state events = some finish ∧
      finish.appKit = true ∧ finish.fields = state.fields := by
  let taken : StartupState :=
    { state with queued := state.queued - 1, running := some .starting }
  have result : state.step .takeTask = some taken := by
    simp [step, idle, waiting, taken]
  have stillFree : taken.namesTaken = false := free
  obtain ⟨events, finish, run, started, fields⟩ :=
    exists_start_of_starting stillFree rfl
  refine ⟨.takeTask :: events, finish, ?_, started, fields⟩
  exact exec_cons_eq_some_iff.mpr ⟨_, result, run⟩

/-- The application has been started before: nothing more is asked of the
user. -/
def startedBefore : StartupPrefs where
  hasStartedOnce := true
  restoredFromSeed := false
  channelsRestoreDone := false
  backupSeenOnce := false
  googledriveEnabled := false
  playServices := false
  eclairDBExists := true

/-- A thread that has assigned the field goes on and starts the node without
it.  The induction is on what it has still to assign. -/
theorem exists_start_of_assigned {state : StartupState} {index : Nat}
    {password : String} {keys : SeedKeys} {remaining : List AppField}
    {field : AppField}
    (found : state.threads[index]? = some (.assigning password keys remaining))
    (assigned : field ∉ remaining) (free : state.namesTaken = false)
    (idle : state.running = none) (isReset : state.fields field = none) :
    ∃ events finish, exec step state events = some finish ∧
      finish.appKit = true ∧ finish.fields field = none := by
  induction remaining generalizing state with
  | nil =>
      let executed : StartupState :=
        { state.endThread index with queued := state.queued + 1 }
      have result : state.step (.advance index startedBefore) =
          some executed := by
        simp [step, found, advance, StartupPrefs.proceeds, startedBefore,
          executed]
      have stillFree : executed.namesTaken = false := free
      have stillIdle : executed.running = none := idle
      obtain ⟨events, finish, run, started, fields⟩ :=
        exists_start_of_queued stillFree stillIdle (Nat.succ_pos _)
      refine ⟨.advance index startedBefore :: events, finish, ?_, started, ?_⟩
      · exact exec_cons_eq_some_iff.mpr ⟨_, result, run⟩
      · rw [fields]
        exact isReset
  | cons other remaining induction =>
      have different : field ≠ other := List.ne_of_not_mem_cons assigned
      let later := (state.setField other
        (some (keys.value password other))).setThread index
          (.assigning password keys remaining)
      have result : state.step (.advance index startedBefore) =
          some later := by
        simp [step, found, advance, later]
      have inRange : index < state.threads.length :=
        (List.getElem?_eq_some_iff.mp found).1
      have foundLater : later.threads[index]? =
          some (.assigning password keys remaining) := by
        apply List.getElem?_set_self
        exact inRange
      have resetLater : later.fields field = none := by
        have kept := setField_fields_of_ne state
          (some (keys.value password other)) different
        exact kept.trans isReset
      obtain ⟨events, finish, run, started, fields⟩ :=
        induction foundLater (List.not_mem_of_not_mem_cons assigned) free idle
          resetLater
      refine ⟨.advance index startedBefore :: events, finish, ?_, started,
        fields⟩
      exact exec_cons_eq_some_iff.mpr ⟨later, result, run⟩

theorem exists_start_of_relied {state : StartupState} {field : AppField}
    (relied : state.Relied field) (isReset : state.fields field = none) :
    ∃ events finish, exec step state events = some finish ∧
      finish.appKit = true ∧ finish.fields field = none := by
  rcases relied with started | bootstrapping | ⟨free, pending⟩
  · exact ⟨[], state, rfl, started, isReset⟩
  · obtain ⟨finish, run, started, fields⟩ :=
      exists_start_of_bootstrapping bootstrapping
    exact ⟨_, finish, run, started, fields ▸ isReset⟩
  · cases phase : state.running with
    | some running =>
        cases running with
        | starting =>
            obtain ⟨events, finish, run, started, fields⟩ :=
              exists_start_of_starting free phase
            exact ⟨events, finish, run, started, fields ▸ isReset⟩
        | bootstrapping =>
            obtain ⟨finish, run, started, fields⟩ :=
              exists_start_of_bootstrapping phase
            exact ⟨_, finish, run, started, fields ▸ isReset⟩
    | none =>
        rcases pending with starting | waiting | ⟨thread, member, assigned⟩
        · rw [phase] at starting
          cases starting
        · obtain ⟨events, finish, run, started, fields⟩ :=
            exists_start_of_queued free phase waiting
          exact ⟨events, finish, run, started, fields ▸ isReset⟩
        · obtain ⟨index, found⟩ := List.mem_iff_getElem?.mp member
          cases thread with
          | reading password => cases assigned
          | resetting remaining failure => cases assigned
          | assigning password keys remaining =>
              exact exists_start_of_assigned found assigned free phase isReset

/-- A reset takes the field away and leaves every attempt that relies on
it. -/
theorem relied_after_reset {state next : StartupState} {event : StartupEvent}
    {field : AppField} (resets : state.resetField? event = some field)
    (relied : state.Relied field) (result : state.step event = some next) :
    next.Relied field ∧ next.fields field = none := by
  cases event with
  | resetNext =>
      cases pending : state.resets with
      | nil => simp [resetField?, pending] at resets
      | cons head rest =>
          simp only [resetField?, pending, List.head?_cons,
            Option.some.injEq] at resets
          subst head
          simp only [step, pending, Option.some.injEq] at result
          subst next
          constructor
          · exact relied.of_threads _ rfl rfl rfl rfl
              (fun thread member assigned => ⟨thread, member, assigned⟩)
          · exact setField_fields_self state field none
  | advance index prefs =>
      obtain ⟨thread, found, advanced⟩ := Option.bind_eq_some_iff.mp result
      simp only [resetField?, found] at resets
      split at resets
      next head remaining failure resetting =>
        cases resetting
        cases resets
        cases advanced
        constructor
        · refine relied.of_threads _ rfl rfl rfl rfl ?_
          intro other member assigned
          obtain ⟨position, foundOther⟩ := List.mem_iff_getElem?.mp member
          have elsewhere : index ≠ position := by
            intro same
            subst position
            rw [found] at foundOther
            cases foundOther
            exact assigned
          refine ⟨other, ?_, assigned⟩
          apply List.mem_of_getElem?
          exact (List.getElem?_set_ne elsewhere).trans foundOther
        · exact setField_fields_self state field none
      · cases resets
  | onResume checkup datadir => cases resets
  | onPause => cases resets
  | pressKey dialog key => cases resets
  | timerFires dialog => cases resets
  | encryptWallet pin => cases resets
  | runPosted posted datadir subscribers => cases resets
  | seedRead index keys => cases resets
  | threadThrows index failure => cases resets
  | takeTask => cases resets
  | setUp outcome => cases resets
  | bootstrap outcome => cases resets

/-- As long as no reset takes a field from an attempt that relies on it, a
started node has all its fields.  Any reset that does can be followed by
a state in which the node is started and the field is missing. -/
theorem initialised_when_reset_safely (state : StartupState) :
    (∀ events, StepsMeet step ResetsSafely {} events →
      exec step {} events = some state → state.Initialised) ∧
    ∀ event next field,
      state.resetField? event = some field → state.Relied field →
      state.step event = some next →
      ∃ events finish, exec step next events = some finish ∧
        ¬finish.Initialised := by
  constructor
  · intro events safely run
    exact (reliedSet_of_resetsSafely reliedSet_start safely run).initialised
  · intro event next field resets relied result
    obtain ⟨after, isReset⟩ := relied_after_reset resets relied result
    obtain ⟨events, finish, run, started, missing⟩ :=
      exists_start_of_relied after isReset
    refine ⟨events, finish, run, ?_⟩
    intro initialised
    exact initialised started field missing

/-! ## Two attempts -/

def sampleSeedKeys : SeedKeys where
  seedHash := "6f1c"
  backupKeyV1 := [1]
  backupKeyV2 := [2]

/-- The six digits are typed and the callback of the dialog fires. -/
def typePin (dialog : Nat) (digit : Char) : List StartupEvent :=
  List.replicate 6 (.pressKey dialog (.digit digit)) ++ [.timerFires dialog]

/-- A thread reads the seed, assigns the fields and executes a task. -/
def readAndExecute : List StartupEvent :=
  .seedRead 0 sampleSeedKeys :: List.replicate 5 (.advance 0 startedBefore)

/-- The wallet is opened, left and opened again while the node starts, so
that a second thread executes a second task.  The first task starts the
node; the second finds the names of the actors in use, and the handler of
its result resets the PIN. -/
def secondAttempt : List StartupEvent :=
  .onResume true {} :: typePin 0 '1' ++ readAndExecute ++
    [.takeTask, .setUp .actorsCreated, .onPause, .onResume true {}] ++
    readAndExecute ++
    [.bootstrap .started, .takeTask, .setUp .actorsCreated,
      .runPosted 0 {} 1, .runPosted 0 {} 1, .resetNext]

theorem pin_missing_after_second_attempt :
    ¬∀ events state, exec step {} events = some state →
      state.Initialised := by
  intro always
  have reached : ((exec step {} secondAttempt).any (fun state =>
      state.appKit && (state.fields .pin).isNone)) = true := by
    decide
  obtain ⟨state, run, missing⟩ := (Option.any_eq_true _ _).mp reached
  rw [Bool.and_eq_true, Option.isNone_iff_eq_none] at missing
  exact always secondAttempt state run missing.1 .pin missing.2

/-- A wrong PIN, then the right one. -/
def secondPin : List StartupEvent :=
  .onResume true {} :: typePin 0 '9' ++ [.threadThrows 0 .wrongPassword] ++
    List.replicate 5 (.advance 0 startedBefore) ++
    [.runPosted 0 {} 1, .runPosted 0 {} 1] ++ typePin 1 '1' ++
    readAndExecute ++
    [.takeTask, .setUp .actorsCreated, .bootstrap .started,
      .runPosted 0 {} 1]

theorem initialised_after_second_pin :
    ∃ state, exec step {} secondPin = some state ∧ state.appKit = true ∧
      state.Initialised := by
  have reached : ((exec step {} secondPin).any (fun state =>
      state.appKit)) = true := by
    decide
  obtain ⟨state, run, started⟩ := (Option.any_eq_true _ _).mp reached
  have safely : StepsMeet step ResetsSafely {} secondPin := by
    decide
  exact ⟨state, run, started,
    (initialised_when_reset_safely state).1 secondPin safely run⟩

end StartupState

end EclairWallet
