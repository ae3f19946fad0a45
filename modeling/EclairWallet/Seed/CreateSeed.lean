import EclairWallet.Library.JavaCase
import EclairWallet.Library.JavaText
import EclairWallet.Library.Runs
import Mathlib.Data.List.Sort

/-!
# The wizard that creates a seed

The pages of `CreateSeedActivity`: the words, the check of three of them, the
passphrase, its confirmation and the encryption.  A page has its own buttons
and fields, and only the current page is seen.  The seed is derived in a thread
of its own, which reads the passphrase when it runs; a failed check posts a
callback that shuffles the positions later, at whatever page the wizard is by
then.
-/

namespace EclairWallet

/-- What the wizard is run with. -/
structure CreateSeedSetup where
  /-- `BuildConfig.CHAIN.equals("testnet")`. -/
  testnet : Bool
  mMnemonics : List String
  twelve : mMnemonics.length = 12
  /-- The words are those of the English list. -/
  ascii : ∀ word ∈ mMnemonics, word.toList.all JavaCase.isLower

/-- The activity, its fields on the pages and what is under way.  `displayed`
is what `setUpCheckWords` last asked for; `comparisons` and `accepted` are
records of the passphrases that were compared, the last first, and of the
positions and the words with which the check last succeeded. -/
structure CreateSeedActivity where
  recoveryPositions : List Nat := List.range 12
  mPassphrase : String := ""
  mMnemonicsVerified : Bool := false
  currentItem : Nat := 0
  creationStep : Nat := 0
  displayed : List Nat := []
  checkInputs : String × String × String := ("", "", "")
  passphraseInput : String := ""
  passphraseConfirmInput : String := ""
  /-- Posted calls of `setUpCheckWords`. -/
  callbacks : Nat := 0
  /-- Threads that have not read the passphrase. -/
  threads : Nat := 0
  /-- Derived seeds whose PIN is not decided. -/
  pinDialogs : Nat := 0
  /-- Posted calls of `goToStartup`. -/
  startups : Nat := 0
  finished : Bool := false
  comparisons : List (String × String) := []
  accepted : Option (List Nat × (String × String × String)) := none
  deriving DecidableEq

/-- Each tap is named after its handler.  A shuffle is given by its result. -/
inductive CreateSeedEvent where
  | goToVerificationStep (shuffled : List Nat)
  | typeWords (inputs : String × String × String)
  | verifyUserBackup
  | skipVerification
  | typePassphrase (text : String)
  | goToPassphraseConfirmStep
  | typePassphraseConfirm (text : String)
  | goToEncryptionStep
  | encryptSeed
  | onBackPressed
  | callback (shuffled : List Nat)
  | derive
  | deriveFails
  | onEncryptSeedFailure
  | onEncryptSeedSuccess
  | startup

namespace CreateSeedActivity

def seedSpawnEncryption : Nat := 8

def seedSpawnComplete : Nat := 9

def seedSpawnError : Nat := 10

/-- `viewPager.setCurrentItem`.  The listener sets the creation step when the
page changes. -/
def setCurrentItem (item : Nat) (activity : CreateSeedActivity) :
    CreateSeedActivity :=
  if item = activity.currentItem then activity
  else { activity with currentItem := item, creationStep := item }

/-- Sort the first three positions in place. -/
def sortFirst3 (positions : List Nat) : List Nat :=
  (positions.take 3).insertionSort (· ≤ ·) ++ positions.drop 3

/-- `getFirst3Positions`, which leaves the positions sorted. -/
def getFirst3Positions (activity : CreateSeedActivity) :
    List Nat × CreateSeedActivity :=
  let sorted := sortFirst3 activity.recoveryPositions
  (sorted.take 3, { activity with recoveryPositions := sorted })

def goToInit (activity : CreateSeedActivity) : CreateSeedActivity :=
  setCurrentItem 0 activity

def goToPassphraseStep (activity : CreateSeedActivity) : CreateSeedActivity :=
  setCurrentItem 2 activity

def goToStartup (activity : CreateSeedActivity) : CreateSeedActivity :=
  { activity with finished := true }

def onBackPressed (activity : CreateSeedActivity) : CreateSeedActivity :=
  match activity.currentItem with
  | 0 => goToStartup activity
  | 1 => goToInit activity
  | 2 => goToInit activity
  | 3 => goToPassphraseStep activity
  | 4 => goToPassphraseStep activity
  | _ => activity

def setUpCheckWords (shuffled : List Nat) (activity : CreateSeedActivity) :
    CreateSeedActivity :=
  let (pos, sorted) :=
    getFirst3Positions { activity with recoveryPositions := shuffled }
  { sorted with displayed := pos, checkInputs := ("", "", "") }

/-- `removeCallbacks(null)` removes no callback. -/
def goToVerificationStep (shuffled : List Nat)
    (activity : CreateSeedActivity) : CreateSeedActivity :=
  if activity.mMnemonicsVerified then goToPassphraseStep activity
  else setCurrentItem 1 (setUpCheckWords shuffled activity)

def checkWordRecoveryPhrase (setup : CreateSeedSetup) (position : Nat)
    (word : String) : Bool :=
  match setup.mMnemonics[position]? with
  | none => false
  | some mnemonic => JavaCase.equalsIgnoreCase mnemonic word

/-- The three inputs are the words at the positions. -/
def checkWords (setup : CreateSeedSetup) (pos : List Nat)
    (inputs : String × String × String) : Bool :=
  match pos with
  | [first, second, third] =>
      checkWordRecoveryPhrase setup first (JavaText.trim inputs.1) &&
        checkWordRecoveryPhrase setup second (JavaText.trim inputs.2.1) &&
        checkWordRecoveryPhrase setup third (JavaText.trim inputs.2.2)
  | _ => false

def verifyUserBackup (setup : CreateSeedSetup)
    (activity : CreateSeedActivity) : CreateSeedActivity :=
  let (pos, sorted) := getFirst3Positions activity
  if checkWords setup pos activity.checkInputs then
    goToPassphraseStep { sorted with
      mMnemonicsVerified := true
      accepted := some (activity.displayed, activity.checkInputs) }
  else
    { sorted with
      mMnemonicsVerified := false
      callbacks := activity.callbacks + 1 }

def recordComparison (activity : CreateSeedActivity) : CreateSeedActivity :=
  { activity with
    comparisons :=
      (activity.passphraseInput, activity.passphraseConfirmInput) ::
        activity.comparisons }

def goToEncryptionStep (activity : CreateSeedActivity) : CreateSeedActivity :=
  let passphrase := activity.passphraseInput
  let passphraseConfirm := activity.passphraseConfirmInput
  let compared := recordComparison activity
  if passphrase = passphraseConfirm then
    { setCurrentItem 4 compared with mPassphrase := passphrase }
  else goToPassphraseStep compared

def goToPassphraseConfirmStep (activity : CreateSeedActivity) :
    CreateSeedActivity :=
  let cleared := { activity with passphraseConfirmInput := "" }
  if activity.passphraseInput = "" then goToEncryptionStep cleared
  else setCurrentItem 3 cleared

def encryptSeed (activity : CreateSeedActivity) : CreateSeedActivity :=
  { activity with
    creationStep := seedSpawnEncryption
    threads := activity.threads + 1 }

/-- The passphrase with which a thread derives the seed. -/
def passphraseUsed (activity : CreateSeedActivity) : String :=
  activity.mPassphrase

def derive (activity : CreateSeedActivity) : CreateSeedActivity :=
  { activity with
    threads := activity.threads - 1
    pinDialogs := activity.pinDialogs + 1 }

def deriveFails (activity : CreateSeedActivity) : CreateSeedActivity :=
  { activity with
    threads := activity.threads - 1
    creationStep := seedSpawnError
    startups := activity.startups + 1 }

def onEncryptSeedFailure (activity : CreateSeedActivity) :
    CreateSeedActivity :=
  goToEncryptionStep { activity with
    creationStep := 4
    pinDialogs := activity.pinDialogs - 1 }

def onEncryptSeedSuccess (activity : CreateSeedActivity) :
    CreateSeedActivity :=
  { activity with
    creationStep := seedSpawnComplete
    pinDialogs := activity.pinDialogs - 1
    startups := activity.startups + 1 }

/-- The page is seen, and can be tapped and typed on. -/
def Shows (page : Nat) (activity : CreateSeedActivity) : Prop :=
  activity.currentItem = page ∧ activity.creationStep < seedSpawnEncryption ∧
    activity.finished = false

instance (page : Nat) (activity : CreateSeedActivity) :
    Decidable (activity.Shows page) :=
  inferInstanceAs (Decidable (_ ∧ _))

/-- A shuffle keeps the positions. -/
def CanHappen (setup : CreateSeedSetup) (activity : CreateSeedActivity) :
    CreateSeedEvent → Prop
  | .goToVerificationStep shuffled =>
      activity.Shows 0 ∧ shuffled.Perm activity.recoveryPositions
  | .typeWords _ => activity.Shows 1
  | .verifyUserBackup => activity.Shows 1
  | .skipVerification => activity.Shows 1 ∧ setup.testnet = true
  | .typePassphrase _ => activity.Shows 2
  | .goToPassphraseConfirmStep => activity.Shows 2
  | .typePassphraseConfirm _ => activity.Shows 3
  | .goToEncryptionStep => activity.Shows 3
  | .encryptSeed => activity.Shows 4
  | .onBackPressed => activity.finished = false
  | .callback shuffled =>
      0 < activity.callbacks ∧ shuffled.Perm activity.recoveryPositions
  | .derive => 0 < activity.threads
  | .deriveFails => 0 < activity.threads
  | .onEncryptSeedFailure => 0 < activity.pinDialogs
  | .onEncryptSeedSuccess => 0 < activity.pinDialogs
  | .startup => 0 < activity.startups

instance (setup : CreateSeedSetup) (activity : CreateSeedActivity) :
    DecidablePred (activity.CanHappen setup)
  | .goToVerificationStep _ => inferInstanceAs (Decidable (_ ∧ _))
  | .typeWords _ => inferInstanceAs (Decidable (activity.Shows 1))
  | .verifyUserBackup => inferInstanceAs (Decidable (activity.Shows 1))
  | .skipVerification => inferInstanceAs (Decidable (_ ∧ _))
  | .typePassphrase _ => inferInstanceAs (Decidable (activity.Shows 2))
  | .goToPassphraseConfirmStep =>
      inferInstanceAs (Decidable (activity.Shows 2))
  | .typePassphraseConfirm _ => inferInstanceAs (Decidable (activity.Shows 3))
  | .goToEncryptionStep => inferInstanceAs (Decidable (activity.Shows 3))
  | .encryptSeed => inferInstanceAs (Decidable (activity.Shows 4))
  | .onBackPressed => inferInstanceAs (Decidable (_ = _))
  | .callback _ => inferInstanceAs (Decidable (_ ∧ _))
  | .derive => inferInstanceAs (Decidable (_ < _))
  | .deriveFails => inferInstanceAs (Decidable (_ < _))
  | .onEncryptSeedFailure => inferInstanceAs (Decidable (_ < _))
  | .onEncryptSeedSuccess => inferInstanceAs (Decidable (_ < _))
  | .startup => inferInstanceAs (Decidable (_ < _))

def handle (setup : CreateSeedSetup) (activity : CreateSeedActivity) :
    CreateSeedEvent → CreateSeedActivity
  | .goToVerificationStep shuffled => activity.goToVerificationStep shuffled
  | .typeWords inputs => { activity with checkInputs := inputs }
  | .verifyUserBackup => activity.verifyUserBackup setup
  | .skipVerification => activity.goToPassphraseStep
  | .typePassphrase text => { activity with passphraseInput := text }
  | .goToPassphraseConfirmStep => activity.goToPassphraseConfirmStep
  | .typePassphraseConfirm text =>
      { activity with passphraseConfirmInput := text }
  | .goToEncryptionStep => activity.goToEncryptionStep
  | .encryptSeed => activity.encryptSeed
  | .onBackPressed => activity.onBackPressed
  | .callback shuffled =>
      { activity.setUpCheckWords shuffled with
        callbacks := activity.callbacks - 1 }
  | .derive => activity.derive
  | .deriveFails => activity.deriveFails
  | .onEncryptSeedFailure => activity.onEncryptSeedFailure
  | .onEncryptSeedSuccess => activity.onEncryptSeedSuccess
  | .startup =>
      { activity.goToStartup with startups := activity.startups - 1 }

def step (setup : CreateSeedSetup) (activity : CreateSeedActivity)
    (event : CreateSeedEvent) : Option CreateSeedActivity :=
  if activity.CanHappen setup event then some (activity.handle setup event)
  else none

/-- After `onCreate`. -/
def start : CreateSeedActivity :=
  {}

end CreateSeedActivity

end EclairWallet
