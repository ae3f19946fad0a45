import EclairWallet.Backup.RestoreOutcome
import EclairWallet.Startup.FirstStart

/-!
# The database of the first start

A wallet restored from its seed starts its node without a database only if the
user confirmed to skip the restore.  Otherwise the node finds what a restore
has written: the decrypted contents of a file that its search listed under no
device or this one, or that was listed by a search the user began in spite of
a device conflict, whole unless a write was cut.  The device is the one the
listing names.  A worker commits the contents before it updates the metadata,
so another device may have written them.
-/

namespace EclairWallet

open ByteString Crash

namespace FirstStart

variable {provider : SecurityProvider} {app : BackupKeys}
  {deviceId : String} {state next : FirstStart} {event : FirstStartEvent}
  {related : Bytes → Bytes → Prop}

/-! ## What the restore screens account for -/

/-- The search that found the file listed it under no device or this one, or
was begun by a consent of the user. -/
def Allowed (deviceId : String) (consents : List Consent)
    (metadata : Metadata) : Option Nat → Prop
  | none => sameDevice deviceId metadata = true
  | some consent => consents[consent]? = some .restoreIfAppIdConflict

/-- The database comes from what an allowed file, as Drive delivered it,
decrypts to; `related` compares the two. -/
def Genuine (provider : SecurityProvider) (app : BackupKeys)
    (deviceId : String) (related : Bytes → Bytes → Prop)
    (state : FirstStart) (db : Bytes) : Prop :=
  ∃ backup ∈ state.opened, ∃ bytes,
    Allowed deviceId state.consents backup.metadata backup.consent ∧
    RestoreChannelsBackup.restoreBackup provider app backup.contents =
      .ok bytes ∧
    related db bytes

/-- The second search is begun by a consent, and a file is opened if it is
allowed; a success is announced, and the screen finished, when there is a
database. -/
def TaskAllowed (deviceId : String) (consents : List Consent)
    (db : Option Bytes) : RestoreTask → Prop
  | .retrieveEclairBackup consent =>
      consents[consent]? = some .restoreIfAppIdConflict
  | .openFile metadata consent => Allowed deviceId consents metadata consent
  | .ended .success => db ≠ none
  | .finishRestore => db ≠ none
  | _ => True

/-- The consents that searches and files go back to. -/
def served (state : FirstStart) : List Nat :=
  state.tasks.filterMap (fun entry => entry.2.consent) ++
    state.opened.filterMap OpenedBackup.consent

/-- The invariant until the node is started. -/
structure Accounted (provider : SecurityProvider) (app : BackupKeys)
    (deviceId : String) (related : Bytes → Bytes → Prop)
    (state : FirstStart) : Prop where
  tasks : ∀ entry ∈ state.tasks,
    TaskAllowed deviceId state.consents state.datadir.eclairDB entry.2
  opened : ∀ backup ∈ state.opened,
    Allowed deviceId state.consents backup.metadata backup.consent
  once : state.served.Nodup
  database : ∀ db, state.datadir.eclairDB = some db →
    Genuine provider app deviceId related state db
  done : state.channelsRestoreDone = true →
    .skipRestore ∈ state.consents ∨ state.datadir.eclairDB ≠ none
  neverStarted : state.hasStartedOnce = false

theorem getElem?_of_prefix {consents more : List Consent} {consent : Nat}
    (grown : consents <+: more)
    (given : consents[consent]? = some .restoreIfAppIdConflict) :
    more[consent]? = some .restoreIfAppIdConflict := by
  obtain ⟨later, rfl⟩ := grown
  have within := (List.getElem?_eq_some_iff.mp given).1
  rw [List.getElem?_append_left within]
  exact given

theorem Allowed.mono {consents more : List Consent} {metadata : Metadata}
    {consent : Option Nat}
    (allowed : Allowed deviceId consents metadata consent)
    (grown : consents <+: more) :
    Allowed deviceId more metadata consent := by
  cases consent with
  | none => exact allowed
  | some consent => exact getElem?_of_prefix grown allowed

theorem TaskAllowed.mono {consents more : List Consent}
    {db after : Option Bytes} {task : RestoreTask}
    (allowed : TaskAllowed deviceId consents db task)
    (grown : consents <+: more) (kept : db ≠ none → after ≠ none) :
    TaskAllowed deviceId more after task := by
  cases task with
  | retrieveEclairBackup consent => exact getElem?_of_prefix grown allowed
  | openFile metadata consent => exact Allowed.mono allowed grown
  | ended restoreStep =>
      cases restoreStep with
      | success => exact kept allowed
      | failure => trivial
  | finishRestore => exact kept allowed
  | _ => trivial

theorem Genuine.mono {db : Bytes}
    (genuine : Genuine provider app deviceId related state db)
    (grown : state.consents <+: next.consents)
    (included : state.opened ⊆ next.opened) :
    Genuine provider app deviceId related next db := by
  obtain ⟨backup, member, bytes, allowed, decrypted, isRelated⟩ := genuine
  exact ⟨backup, included member, bytes, allowed.mono grown, decrypted,
    isRelated⟩

namespace Accounted

theorem setStep (accounted : Accounted provider app deviceId related state)
    (screen : Nat) (restoreStep : RestoreBackupStep) :
    Accounted provider app deviceId related
      (state.setStep screen restoreStep) :=
  ⟨accounted.tasks, accounted.opened, accounted.once, accounted.database,
    accounted.done, accounted.neverStarted⟩

theorem finish (accounted : Accounted provider app deviceId related state)
    (screen : Nat) :
    Accounted provider app deviceId related (state.finish screen) :=
  ⟨accounted.tasks, accounted.opened, accounted.once, accounted.database,
    accounted.done, accounted.neverStarted⟩

theorem die (accounted : Accounted provider app deviceId related state) :
    Accounted provider app deviceId related state.die where
  tasks := by
    intro entry member
    cases member
  opened := accounted.opened
  once := accounted.once.sublist (List.sublist_append_right _ _)
  database := accounted.database
  done := accounted.done
  neverStarted := accounted.neverStarted

/-- A task that is begun is allowed, and the consent that began it serves
nothing else. -/
theorem begins (accounted : Accounted provider app deviceId related state)
    (screen : Nat) {task : RestoreTask}
    (allowed : TaskAllowed deviceId state.consents state.datadir.eclairDB
      task)
    (unserved : ∀ consent, task.consent = some consent →
      consent ∉ state.served) :
    Accounted provider app deviceId related (state.begin screen task) where
  tasks := by
    intro entry member
    rcases List.mem_append.mp member with old | new
    · exact accounted.tasks entry old
    · rw [List.mem_singleton.mp new]
      exact allowed
  opened := accounted.opened
  once := by
    unfold served begin
    rw [List.filterMap_append, List.append_assoc]
    cases given : task.consent with
    | none => simpa [given, served] using accounted.once
    | some consent =>
        simp only [List.filterMap_cons, given, List.filterMap_nil,
          List.singleton_append]
        exact List.perm_middle.nodup_iff.mpr
          (List.nodup_cons.mpr ⟨unserved consent given, accounted.once⟩)
  database := accounted.database
  done := accounted.done
  neverStarted := accounted.neverStarted

theorem begins_other
    (accounted : Accounted provider app deviceId related state)
    (screen : Nat) {task : RestoreTask} (other : task.consent = none)
    (allowed : TaskAllowed deviceId state.consents state.datadir.eclairDB
      task) :
    Accounted provider app deviceId related (state.begin screen task) := by
  apply accounted.begins screen allowed
  intro consent given
  rw [other] at given
  cases given

/-- A task that ends was allowed, and leaves the others; the consent that
began it serves nothing else. -/
theorem endTask (accounted : Accounted provider app deviceId related state)
    {screen : Nat} {task : RestoreTask} {ended : FirstStart → FirstStart}
    (result : state.endTask screen task ended = some next) :
    ∃ middle, Accounted provider app deviceId related middle ∧
      TaskAllowed deviceId middle.consents middle.datadir.eclairDB task ∧
      (∀ consent, task.consent = some consent → consent ∉ middle.served) ∧
      middle.datadir = state.datadir ∧ next = ended middle := by
  simp only [FirstStart.endTask, Option.ite_none_right_eq_some,
    Option.some.injEq] at result
  obtain ⟨member, rfl⟩ := result
  have split := ((List.perm_cons_erase member).filterMap
    (fun entry => entry.2.consent)).append_right
      (state.opened.filterMap OpenedBackup.consent)
  have once := split.nodup_iff.mp accounted.once
  refine ⟨{ state with tasks := state.tasks.erase (screen, task) },
    ⟨?_, accounted.opened, ?_, accounted.database, accounted.done,
      accounted.neverStarted⟩, accounted.tasks _ member, ?_, rfl, rfl⟩
  · intro entry left
    exact accounted.tasks entry (List.mem_of_mem_erase left)
  · refine once.sublist (List.Sublist.append_right ?_ _)
    exact (List.sublist_cons_self _ _).filterMap _
  · intro consent given
    simp only [List.filterMap_cons, given, List.cons_append] at once
    exact (List.nodup_cons.mp once).1

theorem consentTo (accounted : Accounted provider app deviceId related state)
    (given : Consent) :
    Accounted provider app deviceId related (state.consentTo given) where
  tasks := by
    intro entry member
    exact (accounted.tasks entry member).mono (List.prefix_append _ _) id
  opened := by
    intro backup member
    exact (accounted.opened backup member).mono (List.prefix_append _ _)
  once := accounted.once
  database := by
    intro db found
    exact (accounted.database db found).mono (List.prefix_append _ _)
      (List.Subset.refl _)
  done := by
    intro restoreDone
    rcases accounted.done restoreDone with skipped | present
    · exact .inl (List.mem_append_left _ skipped)
    · exact .inr present
  neverStarted := accounted.neverStarted

/-- What a consent serves was begun after it was given. -/
theorem lt_of_served
    (accounted : Accounted provider app deviceId related state)
    {consent : Nat} (serves : consent ∈ state.served) :
    consent < state.consents.length := by
  have given : state.consents[consent]? = some .restoreIfAppIdConflict := by
    rcases List.mem_append.mp serves with inTask | inFile
    · obtain ⟨⟨screen, task⟩, member, began⟩ := List.mem_filterMap.mp inTask
      have allowed := accounted.tasks _ member
      cases task with
      | retrieveEclairBackup began' =>
          cases began
          exact allowed
      | openFile metadata began' =>
          cases began
          exact allowed
      | _ => cases began
    · obtain ⟨backup, member, began⟩ := List.mem_filterMap.mp inFile
      have allowed := accounted.opened backup member
      rw [began] at allowed
      exact allowed
  exact (List.getElem?_eq_some_iff.mp given).1

theorem signIn (accounted : Accounted provider app deviceId related state)
    (signedIn : Bool) :
    Accounted provider app deviceId related { state with signedIn } :=
  ⟨accounted.tasks, accounted.opened, accounted.once, accounted.database,
    accounted.done, accounted.neverStarted⟩

theorem onDriveClientReady
    (accounted : Accounted provider app deviceId related state)
    (screen : Nat) :
    Accounted provider app deviceId related
      (state.onDriveClientReady screen) :=
  (accounted.setStep screen .searching).begins_other screen rfl trivial

theorem requestAccess
    (accounted : Accounted provider app deviceId related state)
    (screen : Nat) :
    Accounted provider app deviceId related (state.requestAccess screen) := by
  unfold FirstStart.requestAccess
  split <;> exact accounted.begins_other screen rfl trivial

theorem restoreIfAppIdConflict
    (accounted : Accounted provider app deviceId related state)
    (screen : Nat) :
    Accounted provider app deviceId related
      (state.restoreIfAppIdConflict screen) := by
  have consented := accounted.consentTo .restoreIfAppIdConflict
  unfold FirstStart.restoreIfAppIdConflict
  dsimp only
  split
  · apply (consented.setStep screen .searching).begins screen
    · change (state.consents ++ [_])[state.consents.length]? = _
      simp
    · intro consent given serves
      cases given
      exact Nat.lt_irrefl _ (accounted.lt_of_served serves)
  · exact consented.requestAccess screen

theorem answered (accounted : Accounted provider app deviceId related state)
    (screen : Nat) (task : RestoreTask) (answer : GoogleAnswer) :
    Accounted provider app deviceId related
      (state.answered screen task answer) := by
  unfold FirstStart.answered
  split
  · have signedOut := accounted.signIn false
    unfold initOrSignInGoogleDrive
    split
    · exact signedOut.onDriveClientReady screen
    · exact signedOut.begins_other screen rfl trivial
  · exact (accounted.signIn true).onDriveClientReady screen
  · exact (accounted.setStep screen .errorPermissions).begins_other screen
      rfl trivial
  · exact (accounted.setStep screen .syncRatelimit).begins_other screen rfl
      trivial
  · exact (accounted.setStep screen .syncRatelimit).begins_other screen rfl
      trivial
  · exact accounted

/-- A search opens a file listed under this device, or any file if a consent
began it. -/
theorem searched (accounted : Accounted provider app deviceId related state)
    (screen : Nat) {task : RestoreTask}
    (allowed : TaskAllowed deviceId state.consents state.datadir.eclairDB
      task)
    (unserved : ∀ consent, task.consent = some consent →
      consent ∉ state.served) (buffer : List Metadata) :
    Accounted provider app deviceId related
      (state.searched deviceId screen task buffer) := by
  unfold FirstStart.searched
  split
  · exact accounted.begins_other screen rfl trivial
  · split
    next same => exact accounted.begins_other screen rfl same
    next => exact accounted.begins_other screen rfl trivial
  · exact accounted.begins_other screen rfl trivial
  · exact accounted.begins screen allowed unserved
  · exact accounted

theorem runs (accounted : Accounted provider app deviceId related state)
    (screen : Nat) (isExpired : Bool) {task : RestoreTask}
    (allowed : TaskAllowed deviceId state.consents state.datadir.eclairDB
      task) :
    Accounted provider app deviceId related
      (state.runs screen isExpired task) := by
  unfold FirstStart.runs
  split
  · exact accounted.setStep screen _
  · exact (accounted.setStep screen .success).begins_other screen rfl allowed
  · exact (accounted.setStep screen .failure).begins_other screen rfl trivial
  · exact accounted.setStep screen .init
  · apply Accounted.finish
    exact ⟨accounted.tasks, accounted.opened, accounted.once,
      accounted.database, fun _ => .inr allowed, accounted.neverStarted⟩
  · exact accounted

end Accounted

/-- What a restore that is opened leaves in the place of the database is
related to what it decrypts. -/
def WritesRelated (provider : SecurityProvider) (app : BackupKeys)
    (related : Bytes → Bytes → Prop) (state : FirstStart) :
    FirstStartEvent → Prop
  | .opened _ backup fates => ∀ bytes db,
      RestoreChannelsBackup.restoreBackup provider app backup.contents =
        .ok bytes →
      (RestoreChannelsBackupActivity.restoreBackup provider app
        backup.contents state.datadir fates).state.eclairDB = some db →
      state.datadir.eclairDB = some db ∨ related db bytes
  | _ => True

theorem Accounted.openFile
    (accounted : Accounted provider app deviceId related state)
    {screen : Nat} {backup : OpenedBackup} {fates : List Fate}
    (allowed : Allowed deviceId state.consents backup.metadata
      backup.consent)
    (unserved : ∀ consent, backup.consent = some consent →
      consent ∉ state.served)
    (writes : WritesRelated provider app related state
      (.opened screen backup fates)) :
    Accounted provider app deviceId related
      (state.openFile provider app screen backup fates) := by
  let ended := RestoreChannelsBackupActivity.restoreBackup provider app
    backup.contents state.datadir fates
  obtain ⟨touched, successful⟩ :=
    RestoreChannelsBackupActivity.restoreBackup_leaves provider app
      backup.contents state.datadir fates
  have kept : state.datadir.eclairDB ≠ none → ended.state.eclairDB ≠ none := by
    intro present
    rcases touched with same | ⟨bytes, length, _, written⟩
    · rw [same]
      exact present
    · rw [written]
      simp
  have restored : Accounted provider app deviceId related
      { state with
        datadir := ended.state
        opened := state.opened ++ [backup] } := by
    refine ⟨?_, ?_, ?_, ?_, ?_, accounted.neverStarted⟩
    · intro entry member
      exact (accounted.tasks entry member).mono (List.prefix_refl _) kept
    · intro other member
      rcases List.mem_append.mp member with old | new
      · exact accounted.opened other old
      · rw [List.mem_singleton.mp new]
        exact allowed
    · unfold served
      rw [List.filterMap_append, ← List.append_assoc]
      cases given : backup.consent with
      | none => simpa [given, served] using accounted.once
      | some consent =>
          simp only [List.filterMap_cons, given, List.filterMap_nil]
          exact (List.perm_append_singleton consent _).nodup_iff.mpr
            (List.nodup_cons.mpr ⟨unserved consent given, accounted.once⟩)
    · intro db found
      have before : state.datadir.eclairDB = some db →
          Genuine provider app deviceId related
            { state with
              datadir := ended.state
              opened := state.opened ++ [backup] } db := by
        intro old
        exact (accounted.database db old).mono (List.prefix_refl _)
          (List.subset_append_left _ _)
      rcases touched with same | ⟨bytes, length, decrypted, _⟩
      · exact before (same.symm.trans found)
      · rcases writes bytes db decrypted found with old | isRelated
        · exact before old
        · exact ⟨backup, List.mem_append_right _ List.mem_cons_self, bytes,
            allowed, decrypted, isRelated⟩
    · intro restoreDone
      rcases accounted.done restoreDone with skipped | present
      · exact .inl skipped
      · exact .inr (kept present)
  unfold FirstStart.openFile
  dsimp only
  split
  next restoreStep returned =>
    apply restored.begins_other screen rfl
    cases restoreStep with
    | failure => trivial
    | success =>
        obtain ⟨bytes, _, written⟩ := successful returned
        change ended.state.eclairDB ≠ none
        rw [written]
        simp
  next error thrown => exact restored
  next killed => exact restored.die

theorem Accounted.step
    (accounted : Accounted provider app deviceId related state)
    (writes : WritesRelated provider app related state event)
    (notStarted : state.nodeStarted = false)
    (result : step provider app deviceId state event = some next) :
    next.nodeStarted = true ∨
      Accounted provider app deviceId related next := by
  cases event with
  | launchStartupTask playServices =>
      cases result
      unfold FirstStart.launchStartupTask
      simp only
      split
      · exact .inl rfl
      · split
        · exact .inr ⟨accounted.tasks, accounted.opened, accounted.once,
            accounted.database, accounted.done, accounted.neverStarted⟩
        · exact .inr accounted
  | preferences backupSeenOnce googledriveEnabled signedIn =>
      cases result
      exact .inr ⟨accounted.tasks, accounted.opened, accounted.once,
        accounted.database, accounted.done, accounted.neverStarted⟩
  | requestAccess screen =>
      simp only [FirstStart.step, tap, Option.bind_eq_some_iff,
        Option.ite_none_right_eq_some, Option.some.injEq] at result
      obtain ⟨shown, _, _, rfl⟩ := result
      exact .inr (accounted.requestAccess screen)
  | skipRestore screen =>
      simp only [FirstStart.step, tap, Option.bind_eq_some_iff,
        Option.ite_none_right_eq_some, Option.some.injEq] at result
      obtain ⟨shown, _, _, rfl⟩ := result
      exact .inr (accounted.begins_other screen rfl trivial)
  | backToInit screen =>
      simp only [FirstStart.step, tap, Option.bind_eq_some_iff,
        Option.ite_none_right_eq_some, Option.some.injEq] at result
      obtain ⟨shown, _, _, rfl⟩ := result
      exact .inr (accounted.setStep screen .init)
  | restoreIfAppIdConflict screen =>
      simp only [FirstStart.step, tap, Option.bind_eq_some_iff,
        Option.ite_none_right_eq_some, Option.some.injEq] at result
      obtain ⟨shown, _, _, rfl⟩ := result
      exact .inr (accounted.restoreIfAppIdConflict screen)
  | answered screen task answer =>
      simp only [FirstStart.step, Option.ite_none_right_eq_some] at result
      obtain ⟨middle, kept, _, _, _, rfl⟩ := accounted.endTask result.2
      exact .inr (kept.answered screen task answer)
  | searched screen task buffer =>
      simp only [FirstStart.step, Option.ite_none_right_eq_some] at result
      obtain ⟨middle, kept, allowed, unserved, _, rfl⟩ :=
        accounted.endTask result.2
      exact .inr (kept.searched screen allowed unserved buffer)
  | opened screen backup fates =>
      simp only [FirstStart.step] at result
      obtain ⟨middle, kept, allowed, unserved, sameDatadir, rfl⟩ :=
        accounted.endTask result
      refine .inr (kept.openFile allowed unserved ?_)
      unfold WritesRelated
      rw [sameDatadir]
      exact writes
  | confirmed screen =>
      simp only [FirstStart.step] at result
      obtain ⟨middle, kept, _, _, _, rfl⟩ := accounted.endTask result
      have skipped := kept.consentTo .skipRestore
      refine .inr (Accounted.finish ?_ screen)
      refine ⟨skipped.tasks, skipped.opened, skipped.once, skipped.database,
        fun _ => .inl ?_, skipped.neverStarted⟩
      exact List.mem_append_right _ List.mem_cons_self
  | runs screen task isExpired =>
      simp only [FirstStart.step, Option.ite_none_right_eq_some] at result
      obtain ⟨middle, kept, allowed, _, _, rfl⟩ := accounted.endTask result.2
      exact .inr (kept.runs screen isExpired allowed)
  | nodeWrites datadir =>
      simp [FirstStart.step, notStarted] at result
  | killed =>
      cases result
      exact .inr accounted.die

/-! ## The node stays started -/

theorem nodeStarted_requestAccess (state : FirstStart) (screen : Nat) :
    (state.requestAccess screen).nodeStarted = state.nodeStarted := by
  unfold requestAccess
  split <;> rfl

theorem nodeStarted_restoreIfAppIdConflict (state : FirstStart)
    (screen : Nat) :
    (state.restoreIfAppIdConflict screen).nodeStarted =
      state.nodeStarted := by
  unfold restoreIfAppIdConflict
  dsimp only
  split
  · rfl
  · exact nodeStarted_requestAccess _ screen

theorem nodeStarted_answered (state : FirstStart) (screen : Nat)
    (task : RestoreTask) (answer : GoogleAnswer) :
    (state.answered screen task answer).nodeStarted = state.nodeStarted := by
  unfold answered
  split
  · unfold initOrSignInGoogleDrive
    split <;> rfl
  all_goals rfl

theorem nodeStarted_searched (state : FirstStart) (screen : Nat)
    (task : RestoreTask) (buffer : List Metadata) :
    (state.searched deviceId screen task buffer).nodeStarted =
      state.nodeStarted := by
  unfold searched
  split
  · rfl
  · split <;> rfl
  all_goals rfl

theorem nodeStarted_openFile (state : FirstStart) (screen : Nat)
    (backup : OpenedBackup) (fates : List Fate) :
    (state.openFile provider app screen backup fates).nodeStarted =
      state.nodeStarted := by
  unfold openFile
  dsimp only
  split <;> rfl

theorem nodeStarted_runs (state : FirstStart) (screen : Nat)
    (isExpired : Bool) (task : RestoreTask) :
    (state.runs screen isExpired task).nodeStarted = state.nodeStarted := by
  unfold runs
  split <;> rfl

theorem nodeStarted_endTask {screen : Nat} {task : RestoreTask}
    {ended : FirstStart → FirstStart}
    (result : state.endTask screen task ended = some next)
    (same : ∀ state, (ended state).nodeStarted = state.nodeStarted) :
    next.nodeStarted = state.nodeStarted := by
  simp only [FirstStart.endTask, Option.ite_none_right_eq_some,
    Option.some.injEq] at result
  obtain ⟨_, rfl⟩ := result
  rw [same]

theorem nodeStarted_tap {screen : Nat} {shows : RestoreScreen → Bool}
    {tapped : FirstStart → FirstStart}
    (result : state.tap screen shows tapped = some next)
    (same : ∀ state, (tapped state).nodeStarted = state.nodeStarted) :
    next.nodeStarted = state.nodeStarted := by
  simp only [tap, Option.bind_eq_some_iff, Option.ite_none_right_eq_some,
    Option.some.injEq] at result
  obtain ⟨shown, _, _, rfl⟩ := result
  exact same state

theorem nodeStarted_step
    (result : step provider app deviceId state event = some next)
    (started : state.nodeStarted = true) : next.nodeStarted = true := by
  cases event with
  | launchStartupTask playServices =>
      cases result
      unfold launchStartupTask
      dsimp only
      split
      · rfl
      · split <;> exact started
  | preferences backupSeenOnce googledriveEnabled signedIn =>
      cases result
      exact started
  | requestAccess screen =>
      simp only [step] at result
      rw [nodeStarted_tap result
        (fun state => nodeStarted_requestAccess state screen)]
      exact started
  | skipRestore screen =>
      simp only [step] at result
      rw [nodeStarted_tap result (fun _ => rfl)]
      exact started
  | backToInit screen =>
      simp only [step] at result
      rw [nodeStarted_tap result (fun _ => rfl)]
      exact started
  | restoreIfAppIdConflict screen =>
      simp only [step] at result
      rw [nodeStarted_tap result
        (fun state => nodeStarted_restoreIfAppIdConflict _ screen)]
      exact started
  | answered screen task answer =>
      simp only [step, Option.ite_none_right_eq_some] at result
      rw [nodeStarted_endTask result.2
        (fun state => nodeStarted_answered state screen task answer)]
      exact started
  | searched screen task buffer =>
      simp only [step, Option.ite_none_right_eq_some] at result
      rw [nodeStarted_endTask result.2
        (fun state => nodeStarted_searched state screen task buffer)]
      exact started
  | opened screen backup fates =>
      simp only [step] at result
      rw [nodeStarted_endTask result
        (fun state => nodeStarted_openFile state screen backup fates)]
      exact started
  | confirmed screen =>
      simp only [step] at result
      rw [nodeStarted_endTask result (fun _ => rfl)]
      exact started
  | runs screen task isExpired =>
      simp only [step, Option.ite_none_right_eq_some] at result
      rw [nodeStarted_endTask result.2
        (fun state => nodeStarted_runs state screen isExpired task)]
      exact started
  | nodeWrites datadir =>
      simp only [step, Option.ite_none_right_eq_some,
        Option.some.injEq] at result
      obtain ⟨_, rfl⟩ := result
      exact started
  | killed =>
      cases result
      exact started

/-! ## The first start -/

/-- A wallet right after its seed was restored. -/
structure Fresh (state : FirstStart) : Prop where
  neverStarted : state.hasStartedOnce = false
  notDone : state.channelsRestoreDone = false
  database : state.datadir.eclairDB = none
  tasks : state.tasks = []
  opened : state.opened = []

theorem Fresh.accounted (fresh : Fresh state) :
    Accounted provider app deviceId related state where
  tasks := by simp [fresh.tasks]
  opened := by simp [fresh.opened]
  once := by simp [served, fresh.tasks, fresh.opened]
  database := by simp [fresh.database]
  done := by simp [fresh.notDone]
  neverStarted := fresh.neverStarted

theorem accounted_of_exec {start finish : FirstStart}
    {events : List FirstStartEvent} (fresh : Fresh start)
    (writes : Runs.StepsMeet (step provider app deviceId)
      (WritesRelated provider app related) start events)
    (run : Runs.exec (step provider app deviceId) start events =
      some finish)
    (notStarted : finish.nodeStarted = false) :
    Accounted provider app deviceId related finish := by
  have preserved : ∀ state event next,
      (state.nodeStarted = true ∨
        Accounted provider app deviceId related state) →
      WritesRelated provider app related state event →
      step provider app deviceId state event = some next →
      (next.nodeStarted = true ∨
        Accounted provider app deviceId related next) := by
    intro state event next either writes result
    cases started : state.nodeStarted with
    | true => exact .inl (nodeStarted_step result started)
    | false =>
        rcases either with impossible | accounted
        · simp [started] at impossible
        · exact accounted.step writes started result
  rcases Runs.invariant_of_stepsMeet preserved (.inr fresh.accounted) writes
    run with started | accounted
  · simp [notStarted] at started
  · exact accounted

/-- The first of the contents is a part of the second. -/
def IsPrefix (db bytes : Bytes) : Prop :=
  ∃ length, db = bytes.take length

/-- No write of a restore is cut once it has opened the file. -/
def WriteWhole (state : FirstStart) : FirstStartEvent → Prop
  | .opened _ _ fates => ∀ extent, ¬WriteCut state.datadir fates extent
  | _ => True

theorem writesRelated_prefix (state : FirstStart) (event : FirstStartEvent) :
    WritesRelated provider app IsPrefix state event := by
  cases event with
  | opened screen backup fates =>
      intro bytes db decrypted found
      obtain ⟨touched, _⟩ :=
        RestoreChannelsBackupActivity.restoreBackup_leaves provider app
          backup.contents state.datadir fates
      rcases touched with same | ⟨written, length, alsoDecrypted, left⟩
      · exact .inl (same.symm.trans found)
      · refine .inr ⟨length, ?_⟩
        have sameBytes : written = bytes :=
          Except.ok.inj (alsoDecrypted.symm.trans decrypted)
        rw [← sameBytes]
        exact Option.some.inj (found.symm.trans left)
  | _ => trivial

theorem writesRelated_of_whole {state : FirstStart} {event : FirstStartEvent}
    (whole : WriteWhole state event) :
    WritesRelated provider app Eq state event := by
  cases event with
  | opened screen backup fates =>
      intro bytes db decrypted found
      obtain ⟨_, successful⟩ :=
        RestoreChannelsBackupActivity.restoreBackup_leaves provider app
          backup.contents state.datadir fates
      by_cases success : (RestoreChannelsBackupActivity.restoreBackup provider
          app backup.contents state.datadir fates).outcome =
            .returned .success
      · obtain ⟨written, alsoDecrypted, left⟩ := successful success
        have sameBytes : written = bytes :=
          Except.ok.inj (alsoDecrypted.symm.trans decrypted)
        rw [← sameBytes]
        exact .inr (Option.some.inj (found.symm.trans left))
      · have spared :=
          (RestoreChannelsBackupActivity.spares_restoreBackup_iff provider
            app backup.contents).mpr
            (fun _ extent _ cut => (whole extent cut).elim)
        exact .inl ((spared success).symm.trans found)
  | _ => trivial

/-- A wallet restored from its seed, on a device with Play Services, starts
its node for the first time only if the user confirmed to skip the restore, or
on a database that is a part of an allowed file as it was decrypted, and the
whole of one if no write was cut.  Each consent to restore in spite of a device
conflict allows one file. -/
theorem first_start_accounted {start finish : FirstStart}
    {events : List FirstStartEvent} (fresh : Fresh start)
    (run : Runs.exec (step provider app deviceId) start events =
      some finish)
    (notStarted : finish.nodeStarted = false)
    (proceeds : (finish.prefs true).proceeds = true) :
    (.skipRestore ∈ finish.consents ∨
      ∃ db, finish.datadir.eclairDB = some db ∧
        Genuine provider app deviceId IsPrefix finish db ∧
        (Runs.StepsMeet (step provider app deviceId) WriteWhole start
            events →
          Genuine provider app deviceId Eq finish db)) ∧
      (finish.opened.filterMap OpenedBackup.consent).Nodup := by
  have partly : Accounted provider app deviceId IsPrefix finish := by
    apply accounted_of_exec fresh _ run notStarted
    apply Runs.StepsMeet.of_forall
    intro state event _
    exact writesRelated_prefix state event
  have present : finish.channelsRestoreDone = true ∨
      finish.datadir.eclairDB ≠ none := by
    cases done : finish.channelsRestoreDone with
    | true => exact .inl rfl
    | false =>
        right
        intro none
        simp [StartupPrefs.proceeds, prefs, partly.neverStarted, done,
          StartupPrefs.checkChannelsBackupRestore, none] at proceeds
  have skippedOrPresent : .skipRestore ∈ finish.consents ∨
      finish.datadir.eclairDB ≠ none := by
    rcases present with done | present
    · exact partly.done done
    · exact .inr present
  refine ⟨?_, partly.once.sublist (List.sublist_append_right _ _)⟩
  rcases skippedOrPresent with skipped | present
  · exact .inl skipped
  · obtain ⟨db, found⟩ := Option.ne_none_iff_exists'.mp present
    refine .inr ⟨db, found, partly.database db found, ?_⟩
    intro whole
    have related : Accounted provider app deviceId Eq finish := by
      apply accounted_of_exec fresh _ run notStarted
      exact whole.mono (fun _ _ whole => writesRelated_of_whole whole)
    exact related.database db found

/-- What another device has backed up. -/
def sampleBackup : OpenedBackup where
  metadata := { driveId := 7, remoteDeviceId := some "other" }
  consent := some 0
  contents :=
    let bytes := Layout.serialize (EncryptedBackup.encrypt sampleProvider
      firstSample.iv [1] sampleKeys EncryptedBackup.backupVersion2)
    { bytes, available := bytes.length, firstRead := bytes.length }

/-- It is found and not restored, searched again when the user accepts it,
restored, and the screen finished. -/
def restoredFromDrive : List FirstStartEvent :=
  [.launchStartupTask true,
    .requestAccess 0,
    .answered 0 .signIn .succeeded,
    .searched 0 .requestSync [sampleBackup.metadata],
    .runs 0 (.setRestoreStep .deviceOriginConflict) false,
    .restoreIfAppIdConflict 0,
    .searched 0 (.retrieveEclairBackup 0) [sampleBackup.metadata],
    .opened 0 sampleBackup [],
    .runs 0 (.ended .success) false,
    .runs 0 .finishRestore false]

theorem restoredFromDrive_accounted :
    ∃ finish db,
      Runs.exec (step sampleProvider sampleApp "device") {}
        restoredFromDrive = some finish ∧
      Genuine sampleProvider sampleApp "device" IsPrefix finish db ∧
      (finish.opened.filterMap OpenedBackup.consent).Nodup := by
  have ends : (Runs.exec (step sampleProvider sampleApp "device") {}
      restoredFromDrive).map (fun state =>
        (state.nodeStarted, (state.prefs true).proceeds, state.consents)) =
      some (false, true, [.restoreIfAppIdConflict]) := by
    decide +kernel
  obtain ⟨finish, run, columns⟩ := Option.map_eq_some_iff.mp ends
  simp only [Prod.mk.injEq] at columns
  obtain ⟨notStarted, proceeds, consents⟩ := columns
  have fresh : Fresh {} := ⟨rfl, rfl, rfl, rfl, rfl⟩
  obtain ⟨skipped | ⟨db, _, genuine, _⟩, once⟩ :=
    first_start_accounted fresh run notStarted proceeds
  · simp [consents] at skipped
  · exact ⟨finish, db, run, genuine, once⟩

end FirstStart

end EclairWallet
