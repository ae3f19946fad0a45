import EclairWallet.Seed.CreateSeed

/-!
# A seed comes from a checked backup and a confirmed passphrase

The passphrase of the activity changes only when a comparison finds both
fields equal, and the encryption page is reached in no other way.  The thread
of the encryption reads it later, so the user may have gone back meanwhile.
-/

namespace EclairWallet

namespace CreateSeedActivity

/-- The last comparison that found the two passphrases equal. -/
def lastMatch (activity : CreateSeedActivity) : Option (String × String) :=
  activity.comparisons.find? (fun compared => compared.1 = compared.2)

/-- The word at a position of the mnemonic, typed in any case and with blanks
around it. -/
def MnemonicAt (setup : CreateSeedSetup) (position : Nat) (word : String) :
    Prop :=
  ∃ mnemonic, setup.mMnemonics[position]? = some mnemonic ∧
    JavaCase.equalsIgnoreCase mnemonic (JavaText.trim word) = true

/-- The user has entered the words at the three positions that were displayed
to him. -/
def Entered (setup : CreateSeedSetup) (activity : CreateSeedActivity) : Prop :=
  ∃ first second third inputs,
    activity.accepted = some ([first, second, third], inputs) ∧
      MnemonicAt setup first inputs.1 ∧ MnemonicAt setup second inputs.2.1 ∧
      MnemonicAt setup third inputs.2.2

/-- What every state of the wizard satisfies. -/
structure Inv (setup : CreateSeedSetup) (activity : CreateSeedActivity) :
    Prop where
  permutation : activity.recoveryPositions.Perm (List.range 12)
  displays : activity.currentItem = 1 →
    activity.displayed = (sortFirst3 activity.recoveryPositions).take 3
  compared : activity.currentItem = 4 →
    activity.comparisons.head? =
        some (activity.mPassphrase, activity.mPassphrase) ∧
      activity.passphraseInput = activity.mPassphrase
  matched : ∀ compared, activity.lastMatch = some compared →
    compared = (activity.mPassphrase, activity.mPassphrase)
  started : activity.currentItem = 4 ∨ 0 < activity.threads →
    activity.lastMatch.isSome = true
  entered : setup.testnet = false →
    activity.mMnemonicsVerified = true ∨ 2 ≤ activity.currentItem ∨
      0 < activity.threads ∨ 0 < activity.pinDialogs →
    Entered setup activity

variable {setup : CreateSeedSetup} {activity : CreateSeedActivity}

/-! ## Positions -/

theorem sortFirst3_perm (positions : List Nat) :
    (sortFirst3 positions).Perm positions := by
  have sorted := (List.perm_insertionSort (· ≤ ·)
    (positions.take 3)).append_right (positions.drop 3)
  rwa [List.take_append_drop] at sorted

theorem take_sortFirst3 (positions : List Nat) :
    (sortFirst3 positions).take 3 =
      (positions.take 3).insertionSort (· ≤ ·) := by
  rw [sortFirst3, List.take_append, List.length_insertionSort,
    List.length_take]
  by_cases short : positions.length ≤ 3
  · rw [List.drop_of_length_le short, List.take_nil, List.append_nil]
    apply List.take_of_length_le
    rw [List.length_insertionSort, List.length_take]
    omega
  · have three : min 3 positions.length = 3 := by omega
    rw [three, Nat.sub_self, List.take_zero, List.append_nil]
    apply List.take_of_length_le
    rw [List.length_insertionSort, List.length_take]
    omega

theorem sortFirst3_sortFirst3 (positions : List Nat) :
    sortFirst3 (sortFirst3 positions) = sortFirst3 positions := by
  have sorted : ((sortFirst3 positions).take 3).Pairwise (· ≤ ·) := by
    rw [take_sortFirst3]
    exact List.pairwise_insertionSort _ _
  calc
    sortFirst3 (sortFirst3 positions)
      = ((sortFirst3 positions).take 3).insertionSort (· ≤ ·) ++
          (sortFirst3 positions).drop 3 := rfl
    _ = (sortFirst3 positions).take 3 ++ (sortFirst3 positions).drop 3 := by
      rw [sorted.insertionSort_eq]
    _ = sortFirst3 positions := List.take_append_drop 3 _

theorem checkWordRecoveryPhrase_eq_true_iff {position : Nat} {word : String} :
    checkWordRecoveryPhrase setup position (JavaText.trim word) = true ↔
      MnemonicAt setup position word := by
  unfold checkWordRecoveryPhrase MnemonicAt
  cases setup.mMnemonics[position]? with
  | none => simp
  | some mnemonic => simp

theorem checkWords_eq_true_iff {pos : List Nat}
    {inputs : String × String × String} :
    checkWords setup pos inputs = true ↔
      ∃ first second third, pos = [first, second, third] ∧
        MnemonicAt setup first inputs.1 ∧
        MnemonicAt setup second inputs.2.1 ∧
        MnemonicAt setup third inputs.2.2 := by
  unfold checkWords
  split
  · rename_i first second third
    simp only [Bool.and_eq_true, checkWordRecoveryPhrase_eq_true_iff,
      List.cons.injEq, and_true]
    constructor
    · intro given
      obtain ⟨⟨one, two⟩, three⟩ := given
      exact ⟨first, second, third, ⟨rfl, rfl, rfl⟩, one, two, three⟩
    · intro given
      obtain ⟨_, _, _, ⟨rfl, rfl, rfl⟩, one, two, three⟩ := given
      exact ⟨⟨one, two⟩, three⟩
  · rename_i other
    simp only [Bool.false_eq_true, false_iff]
    intro given
    obtain ⟨first, second, third, same, _⟩ := given
    exact other first second third same

/-! ## Changing the page -/

theorem setCurrentItem_cases (item : Nat) (activity : CreateSeedActivity) :
    ∃ creationStep, setCurrentItem item activity =
      { activity with currentItem := item, creationStep } := by
  unfold setCurrentItem
  split
  · rename_i same
    exact ⟨activity.creationStep, by rw [same]⟩
  · exact ⟨item, rfl⟩

/-- A page other than the check and the encryption may be opened, one behind
the check after it only. -/
theorem Inv.setCurrentItem (inv : Inv setup activity) {item : Nat}
    (notCheck : item ≠ 1) (notEncryption : item ≠ 4)
    (allowed : setup.testnet = false → 2 ≤ item → Entered setup activity) :
    Inv setup (setCurrentItem item activity) := by
  obtain ⟨creationStep, same⟩ := setCurrentItem_cases item activity
  rw [same]
  refine ⟨inv.permutation, fun check => absurd check notCheck,
    fun encryption => absurd encryption notEncryption, inv.matched, ?_, ?_⟩
  · intro given
    rcases given with encryption | thread
    · exact absurd encryption notEncryption
    · exact inv.started (.inr thread)
  · intro mainnet given
    rcases given with verified | later | rest
    · exact inv.entered mainnet (.inl verified)
    · exact allowed mainnet later
    · exact inv.entered mainnet (.inr (.inr rest))

theorem Inv.onBackPressed (inv : Inv setup activity) :
    Inv setup activity.onBackPressed := by
  unfold CreateSeedActivity.onBackPressed
  split
  · exact ⟨inv.permutation, inv.displays, inv.compared, inv.matched,
      inv.started, inv.entered⟩
  · exact inv.setCurrentItem (by decide) (by decide) (by omega)
  · exact inv.setCurrentItem (by decide) (by decide) (by omega)
  · rename_i confirm
    apply inv.setCurrentItem (by decide) (by decide)
    intro mainnet _
    exact inv.entered mainnet (.inr (.inl (by omega)))
  · rename_i encryption
    apply inv.setCurrentItem (by decide) (by decide)
    intro mainnet _
    exact inv.entered mainnet (.inr (.inl (by omega)))
  · exact inv

/-! ## The check of the words -/

theorem Inv.setUpCheckWords (inv : Inv setup activity) {shuffled : List Nat}
    (permutation : shuffled.Perm activity.recoveryPositions) :
    Inv setup (activity.setUpCheckWords shuffled) := by
  refine ⟨?_, ?_, inv.compared, inv.matched, inv.started, inv.entered⟩
  · exact ((sortFirst3_perm shuffled).trans permutation).trans
      inv.permutation
  · intro _
    exact congrArg (List.take 3) (sortFirst3_sortFirst3 shuffled).symm

theorem Inv.goToVerificationStep (inv : Inv setup activity)
    {shuffled : List Nat}
    (permutation : shuffled.Perm activity.recoveryPositions) :
    Inv setup (activity.goToVerificationStep shuffled) := by
  unfold CreateSeedActivity.goToVerificationStep
  split
  · rename_i verified
    apply inv.setCurrentItem (by decide) (by decide)
    intro mainnet _
    exact inv.entered mainnet (.inl verified)
  · have prepared := inv.setUpCheckWords permutation
    obtain ⟨creationStep, same⟩ :=
      setCurrentItem_cases 1 (activity.setUpCheckWords shuffled)
    rw [same]
    refine ⟨prepared.permutation, ?_, ?_, prepared.matched, ?_, ?_⟩
    · intro _
      exact congrArg (List.take 3) (sortFirst3_sortFirst3 shuffled).symm
    · intro encryption
      cases encryption
    · intro given
      rcases given with encryption | thread
      · cases encryption
      · exact prepared.started (.inr thread)
    · intro mainnet given
      rcases given with verified | later | rest
      · exact prepared.entered mainnet (.inl verified)
      · exact absurd later (by simp)
      · exact prepared.entered mainnet (.inr (.inr rest))

theorem Inv.verifyUserBackup (inv : Inv setup activity)
    (check : activity.currentItem = 1) :
    Inv setup (activity.verifyUserBackup setup) := by
  have shown := inv.displays check
  have permutation : (sortFirst3 activity.recoveryPositions).Perm
      (List.range 12) :=
    (sortFirst3_perm _).trans inv.permutation
  unfold CreateSeedActivity.verifyUserBackup getFirst3Positions
  dsimp only
  split
  · rename_i accepted
    obtain ⟨first, second, third, pos, words⟩ :=
      checkWords_eq_true_iff.mp accepted
    rw [← shown] at pos
    obtain ⟨creationStep, same⟩ := setCurrentItem_cases 2 { activity with
      recoveryPositions := sortFirst3 activity.recoveryPositions
      mMnemonicsVerified := true
      accepted := some (activity.displayed, activity.checkInputs) }
    rw [goToPassphraseStep, same]
    refine ⟨permutation, ?_, ?_, inv.matched, ?_, ?_⟩
    · intro check
      cases check
    · intro encryption
      cases encryption
    · intro given
      rcases given with encryption | thread
      · cases encryption
      · exact inv.started (.inr thread)
    · intro _ _
      exact ⟨first, second, third, activity.checkInputs, by rw [pos], words⟩
  · refine ⟨permutation, ?_, inv.compared, inv.matched, inv.started, ?_⟩
    · intro _
      exact shown.trans
        (congrArg (List.take 3) (sortFirst3_sortFirst3 _).symm)
    · intro mainnet given
      rcases given with verified | rest
      · cases verified
      · exact inv.entered mainnet (.inr rest)

/-! ## The comparison of the passphrases -/

theorem lastMatch_recordComparison (activity : CreateSeedActivity) :
    activity.recordComparison.lastMatch =
      if activity.passphraseInput = activity.passphraseConfirmInput then
        some (activity.passphraseInput, activity.passphraseConfirmInput)
      else activity.lastMatch := by
  unfold lastMatch recordComparison
  rw [List.find?_cons]
  by_cases same : activity.passphraseInput = activity.passphraseConfirmInput
  · simp [same]
  · simp [same]

/-- A comparison sets the passphrase when it finds the fields equal, and may
be made once the words were entered. -/
theorem Inv.goToEncryptionStep (inv : Inv setup activity)
    (allowed : setup.testnet = false → Entered setup activity) :
    Inv setup activity.goToEncryptionStep := by
  have last := lastMatch_recordComparison activity
  unfold CreateSeedActivity.goToEncryptionStep
  dsimp only
  split
  · rename_i equal
    obtain ⟨creationStep, same⟩ :=
      setCurrentItem_cases 4 activity.recordComparison
    rw [if_pos equal, ← equal] at last
    rw [same]
    refine ⟨inv.permutation, ?_, ?_, ?_, ?_, fun mainnet _ =>
      allowed mainnet⟩
    · intro check
      cases check
    · intro _
      exact ⟨by simp [recordComparison, ← equal], rfl⟩
    · intro compared found
      exact Option.some.inj (found.symm.trans last)
    · intro _
      exact Option.isSome_iff_exists.mpr ⟨_, last⟩
  · rename_i different
    obtain ⟨creationStep, same⟩ :=
      setCurrentItem_cases 2 activity.recordComparison
    rw [if_neg different] at last
    rw [goToPassphraseStep, same]
    refine ⟨inv.permutation, ?_, ?_, ?_, ?_, fun mainnet _ =>
      allowed mainnet⟩
    · intro check
      cases check
    · intro encryption
      cases encryption
    · intro compared found
      exact inv.matched compared (last.symm.trans found)
    · intro given
      rcases given with encryption | thread
      · cases encryption
      · exact last ▸ inv.started (.inr thread)

theorem Inv.goToPassphraseConfirmStep (inv : Inv setup activity)
    (passphrase : activity.currentItem = 2) :
    Inv setup activity.goToPassphraseConfirmStep := by
  have cleared : Inv setup { activity with passphraseConfirmInput := "" } :=
    ⟨inv.permutation, inv.displays, inv.compared, inv.matched, inv.started,
      inv.entered⟩
  have allowed : setup.testnet = false → Entered setup activity := by
    intro mainnet
    exact inv.entered mainnet (.inr (.inl (by omega)))
  unfold CreateSeedActivity.goToPassphraseConfirmStep
  dsimp only
  split
  · exact cleared.goToEncryptionStep allowed
  · exact cleared.setCurrentItem (by decide) (by decide)
      (fun mainnet _ => allowed mainnet)

/-! ## Steps and runs -/

theorem Inv.handle (inv : Inv setup activity) {event : CreateSeedEvent}
    (canHappen : activity.CanHappen setup event) :
    Inv setup (activity.handle setup event) := by
  cases event with
  | goToVerificationStep shuffled =>
      exact inv.goToVerificationStep canHappen.2
  | typeWords inputs =>
      exact ⟨inv.permutation, inv.displays, inv.compared, inv.matched,
        inv.started, inv.entered⟩
  | verifyUserBackup => exact inv.verifyUserBackup canHappen.1
  | skipVerification =>
      apply inv.setCurrentItem (by decide) (by decide)
      intro mainnet _
      rw [canHappen.2] at mainnet
      cases mainnet
  | typePassphrase text =>
      refine ⟨inv.permutation, inv.displays, ?_, inv.matched, inv.started,
        inv.entered⟩
      intro encryption
      have passphrase : activity.currentItem = 2 := canHappen.1
      exact absurd (passphrase.symm.trans encryption) (by decide)
  | goToPassphraseConfirmStep =>
      exact inv.goToPassphraseConfirmStep canHappen.1
  | typePassphraseConfirm text =>
      exact ⟨inv.permutation, inv.displays, inv.compared, inv.matched,
        inv.started, inv.entered⟩
  | goToEncryptionStep =>
      apply inv.goToEncryptionStep
      intro mainnet
      have confirm : activity.currentItem = 3 := canHappen.1
      exact inv.entered mainnet (.inr (.inl (by omega)))
  | encryptSeed =>
      have encryption : activity.currentItem = 4 := canHappen.1
      refine ⟨inv.permutation, inv.displays, inv.compared, inv.matched,
        fun _ => inv.started (.inl encryption), ?_⟩
      intro mainnet _
      exact inv.entered mainnet (.inr (.inl (by omega)))
  | onBackPressed => exact inv.onBackPressed
  | callback shuffled =>
      have prepared := inv.setUpCheckWords canHappen.2
      exact ⟨prepared.permutation, prepared.displays, prepared.compared,
        prepared.matched, prepared.started, prepared.entered⟩
  | derive =>
      have thread : 0 < activity.threads := canHappen
      refine ⟨inv.permutation, inv.displays, inv.compared, inv.matched,
        fun _ => inv.started (.inr thread), ?_⟩
      intro mainnet _
      exact inv.entered mainnet (.inr (.inr (.inl thread)))
  | deriveFails =>
      have thread : 0 < activity.threads := canHappen
      refine ⟨inv.permutation, inv.displays, inv.compared, inv.matched,
        fun _ => inv.started (.inr thread), ?_⟩
      intro mainnet _
      exact inv.entered mainnet (.inr (.inr (.inl thread)))
  | onEncryptSeedFailure =>
      have pin : 0 < activity.pinDialogs := canHappen
      have allowed : setup.testnet = false → Entered setup activity := by
        intro mainnet
        exact inv.entered mainnet (.inr (.inr (.inr pin)))
      have shown : Inv setup { activity with
          creationStep := 4, pinDialogs := activity.pinDialogs - 1 } :=
        ⟨inv.permutation, inv.displays, inv.compared, inv.matched,
          inv.started, fun mainnet _ => allowed mainnet⟩
      exact shown.goToEncryptionStep allowed
  | onEncryptSeedSuccess =>
      have pin : 0 < activity.pinDialogs := canHappen
      refine ⟨inv.permutation, inv.displays, inv.compared, inv.matched,
        inv.started, ?_⟩
      intro mainnet _
      exact inv.entered mainnet (.inr (.inr (.inr pin)))
  | startup =>
      exact ⟨inv.permutation, inv.displays, inv.compared, inv.matched,
        inv.started, inv.entered⟩

theorem Inv.step {next : CreateSeedActivity} (inv : Inv setup activity)
    {event : CreateSeedEvent}
    (result : activity.step setup event = some next) : Inv setup next := by
  unfold CreateSeedActivity.step at result
  split at result
  · rename_i canHappen
    cases result
    exact inv.handle canHappen
  · cases result

theorem inv_start (setup : CreateSeedSetup) : Inv setup start := by
  refine ⟨List.Perm.refl _, ?_, ?_, ?_, ?_, ?_⟩
  · intro check
    cases check
  · intro encryption
    cases encryption
  · intro compared found
    cases found
  · intro given
    rcases given with encryption | thread
    · cases encryption
    · cases thread
  · intro _ given
    rcases given with verified | later | thread | pin
    · cases verified
    · cases later
    · cases thread
    · cases pin

/-- In every run, a thread that derives the seed uses the passphrase that the
last matching comparison found in both fields.  It is the last one compared
and the one typed as long as the encryption page is shown, and the words were
entered before unless the chain is the testnet. -/
theorem seed_from_checked_backup {setup : CreateSeedSetup}
    {events : List CreateSeedEvent} {activity : CreateSeedActivity}
    (run : Runs.exec (step setup) start events = some activity) :
    activity.recoveryPositions.Perm (List.range setup.mMnemonics.length) ∧
      (0 < activity.threads →
        activity.lastMatch =
            some (activity.passphraseUsed, activity.passphraseUsed) ∧
          (activity.currentItem = 4 →
            activity.comparisons.head? =
                some (activity.passphraseUsed, activity.passphraseUsed) ∧
              activity.passphraseInput = activity.passphraseUsed) ∧
          (setup.testnet = false → Entered setup activity)) := by
  have inv : Inv setup activity := by
    apply Runs.invariant_of_exec _ (inv_start setup) run
    intro before event next holds result
    exact holds.step result
  refine ⟨by rw [setup.twelve]; exact inv.permutation, ?_⟩
  intro thread
  refine ⟨?_, inv.compared, ?_⟩
  · obtain ⟨compared, found⟩ :=
      Option.isSome_iff_exists.mp (inv.started (.inr thread))
    rw [found, inv.matched compared found]
    rfl
  · intro mainnet
    exact inv.entered mainnet (.inr (.inr (.inl thread)))

/-- A wizard on the main chain. -/
def abandonSetup : CreateSeedSetup where
  testnet := false
  mMnemonics := List.replicate 11 "abandon" ++ ["about"]
  twelve := rfl
  ascii := by decide

/-- The user enters the words, types a passphrase twice, and has the seed
encrypted. -/
def toEncryption : List CreateSeedEvent :=
  [.goToVerificationStep (List.range 12),
    .typeWords ("abandon", " Abandon", "abandon "), .verifyUserBackup,
    .typePassphrase "secret", .goToPassphraseConfirmStep,
    .typePassphraseConfirm "secret", .goToEncryptionStep, .encryptSeed]

def encrypting : CreateSeedActivity :=
  { mPassphrase := "secret"
    mMnemonicsVerified := true
    currentItem := 4
    creationStep := seedSpawnEncryption
    displayed := [0, 1, 2]
    checkInputs := ("abandon", " Abandon", "abandon ")
    passphraseInput := "secret"
    passphraseConfirmInput := "secret"
    threads := 1
    comparisons := [("secret", "secret")]
    accepted := some ([0, 1, 2], ("abandon", " Abandon", "abandon ")) }

theorem exec_toEncryption :
    Runs.exec (step abandonSetup) start toEncryption = some encrypting := by
  decide

theorem passphrase_confirmed :
    encrypting.lastMatch = some ("secret", "secret") ∧
      Entered abandonSetup encrypting := by
  obtain ⟨_, checked⟩ := seed_from_checked_backup exec_toEncryption
  obtain ⟨confirmed, _, entered⟩ := checked (by decide)
  exact ⟨confirmed, entered rfl⟩

/-- The user goes back while the seed is encrypted and types another
passphrase before the thread has read the first one. -/
theorem passphrase_typed_too_late :
    ¬ ∀ (setup : CreateSeedSetup) (events : List CreateSeedEvent)
        (activity : CreateSeedActivity),
      Runs.exec (step setup) start events = some activity →
      0 < activity.threads →
      activity.comparisons.head? =
          some (activity.passphraseUsed, activity.passphraseUsed) ∧
        activity.passphraseInput = activity.passphraseUsed := by
  intro claim
  have run : Runs.exec (step abandonSetup) start
      (toEncryption ++ [.onBackPressed, .typePassphrase "x"]) =
        some { encrypting with
          currentItem := 2, creationStep := 2, passphraseInput := "x" } := by
    rw [Runs.exec_append, exec_toEncryption]
    decide
  obtain ⟨_, typed⟩ := claim _ _ _ run (by decide)
  exact absurd typed (by decide)

end CreateSeedActivity

end EclairWallet
