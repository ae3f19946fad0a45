import EclairWallet.Backup.Access
import EclairWallet.Crypto.BackupRoundTrip

/-!
# The user's choice and the preference

The worker checks the preference before it waits and writes it after.  The
choice is respected exactly when no wait and no query of the screen that began
before a deny ends in a grant after it, and no revocation that the user has
confirmed fails.
-/

namespace EclairWallet

namespace BackupState

/-- A revocation that the user has confirmed is not answered, or its success
is not applied. -/
def Revoking (state : BackupState) : Prop :=
  .revokeAccess true ∈ state.tasks ∨ .applyAccessDenied true ∈ state.tasks

instance (state : BackupState) : Decidable state.Revoking :=
  inferInstanceAs (Decidable (_ ∨ _))

/-- The user last granted access, or last denied it and the revocation is
under way. -/
def MayBeEnabled (state : BackupState) : Prop :=
  state.decision = some .granted ∨ state.Revoking

instance (state : BackupState) : Decidable state.MayBeEnabled :=
  inferInstanceAs (Decidable (_ ∨ _))

/-- The backups are enabled only if the user last granted access, or a deny is
still being applied. -/
def Respects (state : BackupState) : Prop :=
  state.enabled = true → state.MayBeEnabled

/-- The event is the end of a worker that has saved the backup, or the answer
to the screen's query, both of which enable the backups. -/
def enables (state : BackupState) : BackupEvent → Bool
  | .driveAnswers run (.succeeded _) =>
      match state.runs[run]? with
      | some { status := .awaits .createBackup, .. } => true
      | some { status := .awaits .updateBackup, .. } => true
      | _ => false
  | .endTask .applyAccessGranted _ => .applyAccessGranted ∈ state.tasks
  | _ => false

/-- The event is the failure of a revocation that the user has confirmed. -/
def keepsAccess (state : BackupState) : BackupEvent → Bool
  | .endTask (.revokeAccess true) .succeeded => false
  | .endTask (.revokeAccess true) _ => .revokeAccess true ∈ state.tasks
  | _ => false

/-- The tasks are without one revocation that the user has confirmed. -/
def withoutRevocation (state : BackupState) : BackupState :=
  { state with tasks := state.tasks.erase (.revokeAccess true) }

/-- What enables the backups comes while they may be, and no revocation fails
that leaves them enabled when they may not be. -/
def ChoiceInForce (state : BackupState) (event : BackupEvent) : Prop :=
  (state.enables event = true → state.MayBeEnabled) ∧
    (state.keepsAccess event = true → state.enabled = true →
      state.withoutRevocation.MayBeEnabled)

instance (state : BackupState) (event : BackupEvent) :
    Decidable (ChoiceInForce state event) :=
  inferInstanceAs (Decidable (_ ∧ _))

variable {codec : BinaryDataCodec} {request : WorkInput}
  {state next : BackupState}

theorem choiceInForce_iff_of_enables {event : BackupEvent}
    (enabling : state.enables event = true)
    (revoked : state.keepsAccess event = false)
    (enabled : next.enabled = true)
    (same : next.MayBeEnabled ↔ state.MayBeEnabled) :
    ChoiceInForce state event ↔ Respects next := by
  constructor
  · intro inForce _
    exact same.mpr (inForce.1 enabling)
  · intro respects
    refine ⟨fun _ => same.mp (respects enabled), ?_⟩
    intro impossible
    rw [revoked] at impossible
    cases impossible

theorem choiceInForce_iff_of_idle {event : BackupEvent}
    (respects : Respects state) (idle : state.enables event = false)
    (revoked : state.keepsAccess event = false)
    (enabled : next.enabled = true →
      state.enabled = true ∧ (state.MayBeEnabled → next.MayBeEnabled)) :
    ChoiceInForce state event ↔ Respects next := by
  constructor
  · intro _ now
    obtain ⟨before, kept⟩ := enabled now
    exact kept (respects before)
  · intro _
    constructor
    · intro impossible
      rw [idle] at impossible
      cases impossible
    · intro impossible
      rw [revoked] at impossible
      cases impossible

/-! ## The worker -/

/-- A run that is started while a deny is in force returns at its check. -/
theorem doWork_of_denied (respects : Respects state)
    (denied : ¬ state.MayBeEnabled) (inputData : WorkInput) :
    ChannelsBackupWorker.doWork state inputData = .returned .success := by
  have disabled : state.enabled = false := by
    cases enabled : state.enabled with
    | false => rfl
    | true => exact (denied (respects enabled)).elim
  rw [ChannelsBackupWorker.doWork, if_pos (Or.inl disabled)]

theorem enabled_afterWait_metadata {inputData : WorkInput}
    {answer : DriveAnswer}
    (enabled : (ChannelsBackupWorker.afterWait codec state inputData .metadata
      answer).1.enabled = true) :
    (ChannelsBackupWorker.afterWait codec state inputData .metadata answer).1 =
      state := by
  cases answer with
  | failed => cases enabled
  | succeeded count =>
      unfold ChannelsBackupWorker.afterWait at enabled ⊢
      cases parsed : ChannelsBackupWorker.secretKeys codec inputData with
      | error thrown =>
          simp [parsed, ChannelsBackupWorker.fail] at enabled
      | ok keys =>
          by_cases none : count = 0
          · simp [none]
          · simp [none]

theorem choiceInForce_iff_driveAnswers {run : Nat} {answer : DriveAnswer}
    (respects : Respects state)
    (result : state.step codec request (.driveAnswers run answer) =
      some next) :
    ChoiceInForce state (.driveAnswers run answer) ↔ Respects next := by
  simp only [step] at result
  cases found : state.runs[run]? with
  | none => simp [found] at result
  | some worker =>
      obtain ⟨inputData, status⟩ := worker
      cases status with
      | returned value => simp [found] at result
      | awaits wait =>
          simp only [found, Option.some.injEq] at result
          subst next
          cases wait with
          | metadata =>
              refine choiceInForce_iff_of_idle respects ?_ rfl ?_
              · cases answer with
                | failed => rfl
                | succeeded count => simp [enables, found]
              · intro enabled
                have same := enabled_afterWait_metadata enabled
                simp only [same] at enabled ⊢
                exact ⟨enabled, id⟩
          | createBackup | updateBackup =>
              cases answer with
              | failed =>
                  refine choiceInForce_iff_of_idle respects rfl rfl ?_
                  intro enabled
                  cases enabled
              | succeeded count =>
                  refine choiceInForce_iff_of_enables ?_ rfl rfl Iff.rfl
                  simp [enables, found]

/-! ## The screen -/

theorem Revoking.erase {task : ScreenTask} (revoking : state.Revoking)
    (notAsked : task ≠ .revokeAccess true)
    (notPosted : task ≠ .applyAccessDenied true) :
    Revoking { state with tasks := state.tasks.erase task } := by
  rcases revoking with asked | posted
  · exact .inl ((List.mem_erase_of_ne (Ne.symm notAsked)).mpr asked)
  · exact .inr ((List.mem_erase_of_ne (Ne.symm notPosted)).mpr posted)

theorem Revoking.of_erase {task : ScreenTask}
    (revoking : Revoking { state with tasks := state.tasks.erase task }) :
    state.Revoking := by
  rcases revoking with asked | posted
  · exact .inl (List.mem_of_mem_erase asked)
  · exact .inr (List.mem_of_mem_erase posted)

/-- What ends in the screen is the grant, a revocation that the user has
confirmed, what starts or applies one, or leaves the decision and the tasks
that run. -/
theorem endTask_cases (request : WorkInput) (state : BackupState)
    (task : ScreenTask) (answer : ScreenAnswer) :
    let next :=
      ChannelsBackupSettingsActivity.endTask request state task answer
    (task = .applyAccessGranted ∧ next.enabled = true ∧
      next.decision = state.decision ∧ next.tasks = state.tasks) ∨
    (task = .revokeAccess true ∧ answer ≠ .succeeded ∧ next = state) ∨
    (task ≠ .applyAccessGranted ∧
      (task = .revokeAccess true → answer = .succeeded) ∧
      (next.enabled = true → state.enabled = true ∧
        (next.Revoking ∨
          task ≠ .revokeAccess true ∧ task ≠ .applyAccessDenied true ∧
            next.decision = state.decision ∧ state.tasks ⊆ next.tasks))) := by
  have started : ∀ (before : BackupState) (later : ScreenTask),
      before.tasks ⊆
        (ChannelsBackupSettingsActivity.start before later).tasks :=
    fun before later => List.subset_append_left before.tasks [later]
  have posted : ∀ (before : BackupState) (later : ScreenTask),
      later ∈ (ChannelsBackupSettingsActivity.start before later).tasks :=
    fun before later => List.mem_append_right before.tasks (by simp)
  intro next
  cases task with
  | applyAccessGranted => exact .inl ⟨rfl, rfl, rfl, rfl⟩
  | confirmRevoke =>
      refine .inr (.inr ⟨by simp, by simp, fun enabled => ?_⟩)
      cases answer with
      | succeeded => exact ⟨enabled, .inl (.inl (posted _ _))⟩
      | signInRequired | failed =>
          exact ⟨enabled, .inr ⟨by simp, by simp, rfl, fun _ => id⟩⟩
  | initOrSignInGoogleDrive | checkAccess =>
      refine .inr (.inr ⟨by simp, by simp, fun enabled => ?_⟩)
      cases signedIn : state.signedIn with
      | false | true =>
          simp only [next, ChannelsBackupSettingsActivity.endTask, signedIn,
            if_true, Bool.false_eq_true, if_false] at enabled ⊢
          exact ⟨enabled, .inr ⟨by simp, by simp, rfl, started _ _⟩⟩
  | signIn =>
      refine .inr (.inr ⟨by simp, by simp, fun enabled => ?_⟩)
      cases answer with
      | succeeded =>
          exact ⟨enabled, .inr ⟨by simp, by simp, rfl, started _ _⟩⟩
      | signInRequired | failed => cases enabled
  | retrieveEclairBackup =>
      refine .inr (.inr ⟨by simp, by simp, fun enabled => ?_⟩)
      cases answer with
      | succeeded | signInRequired =>
          exact ⟨enabled, .inr ⟨by simp, by simp, rfl, started _ _⟩⟩
      | failed => exact ⟨enabled, .inr ⟨by simp, by simp, rfl, fun _ => id⟩⟩
  | revokeAccess byUser =>
      cases answer with
      | succeeded =>
          refine .inr (.inr ⟨by simp, by simp, fun enabled => ?_⟩)
          refine ⟨enabled, ?_⟩
          cases byUser with
          | true => exact .inl (.inr (posted _ _))
          | false => exact .inr ⟨by simp, by simp, rfl, started _ _⟩
      | signInRequired | failed =>
          cases byUser with
          | true => exact .inr (.inl ⟨rfl, by simp, rfl⟩)
          | false =>
              refine .inr (.inr ⟨by simp, by simp, fun enabled => ?_⟩)
              exact ⟨enabled, .inr ⟨by simp, by simp, rfl, fun _ => id⟩⟩
  | applyAccessDenied byUser =>
      refine .inr (.inr ⟨by simp, by simp, fun enabled => ?_⟩)
      cases enabled

theorem choiceInForce_iff_endTask {task : ScreenTask} {answer : ScreenAnswer}
    (respects : Respects state)
    (result : state.step codec request (.endTask task answer) = some next) :
    ChoiceInForce state (.endTask task answer) ↔ Respects next := by
  simp only [step] at result
  obtain ⟨pending, same⟩ := Option.ite_none_right_eq_some.mp result
  rw [Option.some.injEq] at same
  rcases endTask_cases request
      { state with tasks := state.tasks.erase task } task answer with
    ⟨rfl, enabled, decision, tasks⟩ | ⟨rfl, refused, unchanged⟩ |
      ⟨other, revoked, enabled⟩
  · rw [same] at enabled decision tasks
    refine choiceInForce_iff_of_enables ?_ rfl enabled ?_
    · simpa [enables] using pending
    · rw [MayBeEnabled, MayBeEnabled, decision, Revoking, tasks]
      refine or_congr Iff.rfl ⟨Revoking.of_erase, fun revoking => ?_⟩
      exact revoking.erase (by simp) (by simp)
  · rw [← same, unchanged]
    have fails : state.keepsAccess (.endTask (.revokeAccess true) answer) =
        true := by
      cases answer with
      | succeeded => exact (refused rfl).elim
      | signInRequired | failed => simpa [keepsAccess] using pending
    constructor
    · exact fun inForce => inForce.2 fails
    · intro respected
      refine ⟨?_, fun _ => respected⟩
      intro impossible
      cases impossible
  · rw [same] at enabled
    refine choiceInForce_iff_of_idle respects ?_ ?_ ?_
    · cases task with
      | applyAccessGranted => exact (other rfl).elim
      | _ => rfl
    · cases task with
      | revokeAccess byUser =>
          cases byUser with
          | true =>
              obtain rfl := revoked rfl
              rfl
          | false => rfl
      | _ => rfl
    · intro now
      obtain ⟨before, after⟩ := enabled now
      refine ⟨before, fun allowed => ?_⟩
      rcases after with revoking |
        ⟨notAsked, notPosted, decision, kept⟩
      · exact .inr revoking
      · rcases allowed with granted | revoking
        · exact .inl (decision.trans granted)
        · have still := revoking.erase notAsked notPosted
          exact .inr (still.imp (fun asked => kept asked)
            (fun posted => kept posted))

theorem choiceInForce_iff_respects {event : BackupEvent}
    (respects : Respects state)
    (result : state.step codec request event = some next) :
    ChoiceInForce state event ↔ Respects next := by
  cases event with
  | driveAnswers run answer =>
      exact choiceInForce_iff_driveAnswers respects result
  | endTask task answer => exact choiceInForce_iff_endTask respects result
  | startWork =>
      obtain ⟨inputData, _, rfl⟩ := Option.map_eq_some_iff.mp result
      exact choiceInForce_iff_of_idle respects rfl rfl
        (fun enabled => ⟨enabled, id⟩)
  | switchAccess =>
      obtain rfl := Option.some.inj result
      refine choiceInForce_iff_of_idle respects rfl rfl ?_
      intro enabled
      unfold ChannelsBackupSettingsActivity.switchAccess at enabled ⊢
      split
      next checked =>
        rw [if_pos checked] at enabled
        refine ⟨enabled, fun allowed => allowed.imp id ?_⟩
        exact Or.imp (List.mem_append_left _) (List.mem_append_left _)
      next unchecked =>
        rw [if_neg unchecked] at enabled
        exact ⟨enabled, fun _ => .inl rfl⟩
  | onResume =>
      obtain rfl := Option.some.inj result
      refine choiceInForce_iff_of_idle respects rfl rfl ?_
      intro enabled
      refine ⟨enabled, fun allowed => allowed.imp id ?_⟩
      exact Or.imp (List.mem_append_left _) (List.mem_append_left _)
  | _ =>
      obtain rfl := Option.some.inj result
      exact choiceInForce_iff_of_idle respects rfl rfl
        (fun enabled => ⟨enabled, id⟩)

/-- Every run from the `started`-th on has returned. -/
def LaterReturned (started : Nat) (state : BackupState) : Prop :=
  started ≤ state.runs.length ∧
    ∀ worker ∈ state.runs.drop started, ∃ result,
      worker.status = .returned result

theorem runs_endTask (request : WorkInput) (state : BackupState)
    (task : ScreenTask) (answer : ScreenAnswer) :
    (ChannelsBackupSettingsActivity.endTask request state task answer).runs =
      state.runs := by
  unfold ChannelsBackupSettingsActivity.endTask
  split
  · rfl
  · split
    · rfl
    · rfl
  · split
    · rfl
    · rfl
  all_goals rfl

/-- Step lemma: while a deny is in force, no run that is started waits. -/
theorem LaterReturned.step {started : Nat} {event : BackupEvent}
    (later : LaterReturned started state) (respects : Respects state)
    (denied : ¬ state.MayBeEnabled)
    (result : state.step codec request event = some next) :
    LaterReturned started next := by
  obtain ⟨bound, returned⟩ := later
  have unchanged : next.runs = state.runs → LaterReturned started next := by
    intro same
    rw [LaterReturned, same]
    exact ⟨bound, returned⟩
  cases event with
  | startWork =>
      obtain ⟨inputData, _, rfl⟩ := Option.map_eq_some_iff.mp result
      constructor
      · simp only [List.length_append, List.length_singleton]
        omega
      · intro worker member
        rw [List.drop_append_of_le_length bound] at member
        rcases List.mem_append.mp member with old | new
        · exact returned worker old
        · rw [List.mem_singleton.mp new]
          exact ⟨_, doWork_of_denied respects denied inputData⟩
  | driveAnswers run answer =>
      simp only [BackupState.step] at result
      cases found : state.runs[run]? with
      | none => simp [found] at result
      | some worker =>
          obtain ⟨inputData, status⟩ := worker
          cases status with
          | returned value => simp [found] at result
          | awaits wait =>
              simp only [found, Option.some.injEq] at result
              subst next
              have earlier : run < started := by
                by_contra above
                have waits : { inputData, status := .awaits wait } ∈
                    state.runs.drop started := by
                  apply List.mem_iff_getElem?.mpr
                  refine ⟨run - started, ?_⟩
                  rw [List.getElem?_drop, Nat.add_sub_of_le (by omega)]
                  exact found
                obtain ⟨value, impossible⟩ := returned _ waits
                cases impossible
              constructor
              · simpa using bound
              · intro worker member
                rw [List.drop_set_of_lt earlier] at member
                exact returned worker member
  | endTask task answer =>
      simp only [BackupState.step] at result
      split at result
      · obtain rfl := Option.some.inj result
        exact unchanged (runs_endTask request _ task answer)
      · cases result
  | switchAccess =>
      obtain rfl := Option.some.inj result
      apply unchanged
      unfold ChannelsBackupSettingsActivity.switchAccess
      split
      · rfl
      · rfl
  | _ =>
      obtain rfl := Option.some.inj result
      exact unchanged rfl

/-- Run lemma: only a run that passed its check before a deny can save its
backup while the deny is in force. -/
theorem laterReturned_of_denied {finish : BackupState}
    {events : List BackupEvent} (respects : Respects state)
    (inForce : Runs.StepsMeet (BackupState.step codec request) ChoiceInForce
      state events)
    (denied : Runs.StepsMeet (BackupState.step codec request)
      (fun before _ => ¬ before.MayBeEnabled) state events)
    (run : Runs.exec (BackupState.step codec request) state events =
      some finish) :
    LaterReturned state.runs.length finish := by
  have preserved : ∀ before event next,
      Respects before ∧ LaterReturned state.runs.length before →
      ChoiceInForce before event ∧ ¬ before.MayBeEnabled →
      before.step codec request event = some next →
        Respects next ∧ LaterReturned state.runs.length next := by
    rintro before event next ⟨respected, later⟩ ⟨met, refused⟩ result
    exact ⟨(choiceInForce_iff_respects respected result).mp met,
      later.step respected refused result⟩
  have initially : LaterReturned state.runs.length state := by
    simp [LaterReturned]
  exact (Runs.invariant_of_stepsMeet preserved ⟨respects, initially⟩
    (inForce.and denied) run).2

def sampleRequest : WorkInput where
  backupName := some "eclair_testnet_seedhash.bkup"
  backupKey := some (ByteString.hexEncode (List.replicate 32 0))

end BackupState

end EclairWallet
