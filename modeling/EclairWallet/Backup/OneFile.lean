import EclairWallet.Backup.Freshness

/-!
# One backup file

A run that finds no backup creates one.  Two runs that overlap can both find
none; runs that do not overlap never leave two files under the name of the
backup.
-/

namespace EclairWallet

open ByteString ChannelsBackupWorker

namespace PipelineState

variable {setup : BackupSetup}
  {state next : PipelineState} {event : PipelineEvent}

def Returned (worker : WorkerRun) : Prop :=
  ∃ result, worker.status = .returned result

instance (worker : WorkerRun) : Decidable (Returned worker) :=
  match value : worker.status with
  | .returned result => .isTrue ⟨result, value⟩
  | .awaits wait => .isFalse (by
      intro given
      obtain ⟨result, returned⟩ := given
      rw [value] at returned
      cases returned)

/-- Work is started when every run has returned. -/
def Exclusive (state : PipelineState) : PipelineEvent → Prop
  | .startWork => ∀ worker ∈ state.backup.runs, Returned worker
  | _ => True

instance (state : PipelineState) :
    (event : PipelineEvent) → Decidable (state.Exclusive event)
  | .startWork => inferInstanceAs (Decidable
      (∀ worker ∈ state.backup.runs, Returned worker))
  | .nodeWrites _ => .isTrue trivial
  | .channelPersisted => .isTrue trivial
  | .queried _ _ => .isTrue trivial
  | .reads _ _ => .isTrue trivial
  | .encrypts _ _ => .isTrue trivial
  | .creates _ _ => .isTrue trivial
  | .commits _ => .isTrue trivial
  | .commitFails _ => .isTrue trivial
  | .updatesMetadata _ => .isTrue trivial
  | .fails _ => .isTrue trivial
  | .other _ => .isTrue trivial

/-- The invariant of runs that do not overlap: only the last run waits, and
while it waits to create a file there is none. -/
structure Alone (setup : BackupSetup) (backup : BackupState)
    (folder : AppFolder) : Prop where
  only : ∀ (run : Nat) (inputData : WorkInput) (wait : DriveWait),
    backup.runs[run]? = some { inputData, status := .awaits wait } →
    run + 1 = backup.runs.length
  creating : ∀ (run : Nat) (inputData : WorkInput),
    backup.runs[run]? =
      some { inputData, status := .awaits .createBackup } →
    folder.query (titled setup.backupFileName) = []
  single : folder.Single (titled setup.backupFileName)

theorem Alone.eq {backup : BackupState} {folder : AppFolder}
    (alone : Alone setup backup folder) {run other : Nat}
    {inputData otherInput : WorkInput} {wait otherWait : DriveWait}
    (waits : backup.runs[run]? = some { inputData, status := .awaits wait })
    (otherWaits : backup.runs[other]? =
      some { inputData := otherInput, status := .awaits otherWait }) :
    other = run := by
  have left := alone.only run inputData wait waits
  have right := alone.only other otherInput otherWait otherWaits
  omega

/-- The folder may change while the run that waits does not wait to create a
file. -/
theorem Alone.rewrite {backup : BackupState} {folder later : AppFolder}
    (alone : Alone setup backup folder) {run : Nat} {inputData : WorkInput}
    (waits : backup.runs[run]? =
      some { inputData, status := .awaits .updateBackup })
    (single : later.Single (titled setup.backupFileName)) :
    Alone setup backup later where
  only := alone.only
  creating := by
    intro other otherInput creating
    have same := alone.eq waits creating
    subst other
    rw [waits] at creating
    cases creating
  single := single

/-- A run whose wait ends: it returns, or goes on to a wait that may be the
one for a file to be created only if there is none. -/
theorem Alone.answered {backup after : BackupState} {folder later : AppFolder}
    (alone : Alone setup backup folder) {run : Nat} {inputData : WorkInput}
    {wait : DriveWait} {status : WorkStatus}
    (waits : backup.runs[run]? = some { inputData, status := .awaits wait })
    (runs : after.runs = backup.runs.set run { inputData, status })
    (creates : status = .awaits .createBackup →
      later.query (titled setup.backupFileName) = [])
    (single : later.Single (titled setup.backupFileName)) :
    Alone setup after later := by
  have within := (List.getElem?_eq_some_iff.mp waits).1
  -- A run that waits after the answer is the one that was answered.
  have isRun : ∀ (other : Nat) (otherInput : WorkInput)
      (otherWait : DriveWait),
      after.runs[other]? =
        some { inputData := otherInput, status := .awaits otherWait } →
      other = run ∧ status = .awaits otherWait := by
    intro other otherInput otherWait found
    rw [runs] at found
    by_cases same : run = other
    · subst other
      rw [List.getElem?_set_self within] at found
      simp only [Option.some.injEq, WorkerRun.mk.injEq] at found
      exact ⟨rfl, found.2⟩
    · rw [List.getElem?_set_ne same] at found
      exact (same (alone.eq waits found).symm).elim
  refine ⟨?_, ?_, single⟩
  · intro other otherInput otherWait found
    obtain ⟨rfl, _⟩ := isRun other otherInput otherWait found
    rw [runs, List.length_set]
    exact alone.only other inputData wait waits
  · intro other otherInput found
    exact creates (isRun other otherInput .createBackup found).2

/-- The status in which a query leaves the run. -/
theorem creates_only_if_none {codec : BinaryDataCodec} {backup : BackupState}
    {inputData : WorkInput} {count : Nat}
    (creates : (afterWait codec backup inputData .metadata
      (.succeeded count)).2 = .awaits .createBackup) : count = 0 := by
  simp only [afterWait] at creates
  split at creates
  · cases creates
  · split at creates
    next none => exact none
    next => cases creates

theorem not_creates_of_ended {codec : BinaryDataCodec} {backup : BackupState}
    {inputData : WorkInput} {wait : DriveWait} {answer : DriveAnswer}
    (ended : wait ≠ .metadata ∨ answer = .failed) :
    (afterWait codec backup inputData wait answer).2 ≠
      .awaits .createBackup := by
  cases answer with
  | failed =>
      intro creates
      cases creates
  | succeeded count =>
      cases wait with
      | metadata => simp at ended
      | createBackup =>
          intro creates
          cases creates
      | updateBackup =>
          intro creates
          cases creates

theorem answered_run {run : Nat} {inputData : WorkInput} {wait : DriveWait}
    {answer : DriveAnswer} {backup : BackupState}
    (waits : state.backup.runs[run]? =
      some { inputData, status := .awaits wait })
    (answered : state.backup.step setup.codec setup.request
      (.driveAnswers run answer) = some backup) :
    backup.runs = state.backup.runs.set run
      { inputData
        status := (afterWait setup.codec state.backup inputData wait
          answer).2 } := by
  obtain ⟨_, input, otherWait, status, found, runs, isStatus⟩ :=
    BackupState.driveAnswers_spec answered
  rw [waits] at found
  simp only [Option.some.injEq, WorkerRun.mk.injEq,
    WorkStatus.awaits.injEq] at found
  obtain ⟨rfl, rfl⟩ := found
  rw [runs, isStatus]

theorem doWork_ne_createBackup (backup : BackupState)
    (inputData : WorkInput) :
    doWork backup inputData ≠ .awaits .createBackup := by
  unfold doWork
  split
  · intro creates
    cases creates
  · split <;> (intro creates; cases creates)

theorem Alone.step (alone : Alone setup state.backup state.folder)
    (listed : Listed setup state event) (exclusive : state.Exclusive event)
    (result : step setup state event = some next) :
    Alone setup next.backup next.folder := by
  cases steps_of_step result with
  | nodeWrites eclairDB => exact alone
  | channelPersisted => exact ⟨alone.only, alone.creating, alone.single⟩
  | @startWork inputData waiting =>
      -- Every run before has returned: what waits is the new one.
      have isNew : ∀ (run : Nat) (otherInput : WorkInput)
          (wait : DriveWait),
          (state.backup.runs ++
            [{ inputData
               status := doWork state.backup inputData }])[run]? =
            some { inputData := otherInput, status := .awaits wait } →
          run = state.backup.runs.length ∧
            doWork state.backup inputData = .awaits wait := by
        intro run otherInput wait found
        by_cases old : run < state.backup.runs.length
        · rw [List.getElem?_append_left old] at found
          obtain ⟨ended, returned⟩ :=
            exclusive _ (List.mem_of_getElem? found)
          cases returned
        · rw [List.getElem?_append_right (by omega)] at found
          have isFirst : run - state.backup.runs.length = 0 := by
            have within := (List.getElem?_eq_some_iff.mp found).1
            simpa using within
          rw [isFirst] at found
          simp only [List.getElem?_cons_zero, Option.some.injEq,
            WorkerRun.mk.injEq] at found
          exact ⟨by omega, found.2⟩
      refine ⟨?_, ?_, alone.single⟩
      · intro run otherInput wait found
        obtain ⟨rfl, _⟩ := isNew run otherInput wait found
        simp
      · intro run otherInput found
        have creates := (isNew run otherInput .createBackup found).2
        exact (doWork_ne_createBackup state.backup inputData creates).elim
  | @queried run inputData upload buffer backup awaits answered =>
      have waits := (awaiting_eq_some_iff.mp awaits).1
      refine alone.answered waits (answered_run waits answered) ?_
        alone.single
      intro creates
      have none := creates_only_if_none creates
      rw [show buffer = _ from listed, List.length_map] at none
      exact List.length_eq_zero_iff.mp none
  | reads count awaits unread => exact alone
  | encrypts iv awaits parsed encrypted unread ended => exact alone
  | creates awaits named encrypted new answered =>
      have waits := (awaiting_eq_some_iff.mp awaits).1
      have none := alone.creating _ _ waits
      refine alone.answered waits (answered_run waits answered) ?_
        (RecentFirst.Single.put_first none _ _)
      intro creates
      exact (not_creates_of_ended (.inl (by simp)) creates).elim
  | commits awaits updated encrypted found =>
      have waits := (awaiting_eq_some_iff.mp awaits).1
      exact alone.rewrite waits (alone.single.put found rfl)
  | commitFails awaits => exact alone
  | updatesMetadata awaits updated found answered =>
      have waits := (awaiting_eq_some_iff.mp awaits).1
      refine alone.answered waits (answered_run waits answered) ?_
        (alone.single.put found rfl)
      intro creates
      exact (not_creates_of_ended (.inl (by simp)) creates).elim
  | fails awaits answered =>
      obtain ⟨_, inputData, wait, status, waits, runs, isStatus⟩ :=
        BackupState.driveAnswers_spec answered
      refine alone.answered waits runs ?_ alone.single
      intro creates
      rw [← isStatus] at creates
      exact (not_creates_of_ended (.inr rfl) creates).elim
  | other outside stepped =>
      have sameRuns := (BackupState.other_spec outside stepped).1
      refine ⟨?_, ?_, alone.single⟩
      · rw [sameRuns]
        exact alone.only
      · rw [sameRuns]
        exact alone.creating

/-- Runs that do not overlap leave at most one file under the name of the
backup, if there was at most one. -/
theorem one_backup_file {start finish : PipelineState}
    {events : List PipelineEvent} (idle : Idle setup start)
    (one : start.folder.Single (titled setup.backupFileName))
    (listed : Runs.StepsMeet (step setup) (Listed setup) start events)
    (exclusive : Runs.StepsMeet (step setup) Exclusive start events)
    (run : Runs.exec (step setup) start events = some finish) :
    (finish.folder.query (titled setup.backupFileName)).length ≤ 1 := by
  have preserved : ∀ state event next,
      Alone setup state.backup state.folder →
      Listed setup state event ∧ Exclusive state event →
      step setup state event = some next →
      Alone setup next.backup next.folder :=
    fun _ _ _ alone met result => alone.step met.1 met.2 result
  have initially : Alone setup start.backup start.folder := by
    refine ⟨?_, ?_, one⟩
    · intro other inputData wait found
      simp [idle.runs] at found
    · intro other inputData found
      simp [idle.runs] at found
  exact (Runs.invariant_of_stepsMeet preserved initially
    (listed.and exclusive) run).single.length_le

theorem twoBackups_one_file :
    ∃ finish, Runs.exec (step sampleSetup) sampleStart twoBackups =
        some finish ∧
      (finish.folder.query (titled sampleSetup.backupFileName)).length ≤
        1 := by
  have possible : (Runs.exec (step sampleSetup) sampleStart
      twoBackups).isSome = true := by
    decide +kernel
  obtain ⟨finish, run⟩ := Option.isSome_iff_exists.mp possible
  have one : sampleStart.folder.Single
      (titled sampleSetup.backupFileName) := by
    intro left member
    cases member
  have exclusive : Runs.StepsMeet (step sampleSetup) Exclusive sampleStart
      twoBackups := by
    decide +kernel
  have listed : Runs.StepsMeet (step sampleSetup) (Listed sampleSetup)
      sampleStart twoBackups := by
    decide +kernel
  exact ⟨finish, run, one_backup_file sampleStart_idle one listed exclusive
    run⟩

end PipelineState

end EclairWallet
