import EclairWallet.Library.JavaText
import EclairWallet.Seed.Files

/-!
# The wizard that restores a seed

The pages of `RestoreSeedActivity`: the words, the passphrase, the encryption.
The seed is derived in a thread of its own, which reads both fields when it
runs; then the dialogs of `encryptWallet` ask the PIN and write the seed file.
Only the current page is seen, and none while a dialog covers it.
-/

namespace EclairWallet

open ByteString Crash WalletUtils

/-- `MnemonicCode`, which throws on words it refuses, and the cipher of the
seed file. -/
structure RestoreSeedSetup where
  validate : String → Bool
  toSeed : String → String → Option Bytes
  provider : SecurityProvider

/-- The activity, the seed file, `App.pin` and the preference that tells where
the wallet comes from.  The dialogs ask the PIN of the seeds that `wallet`
offers; those in `decided` have been dismissed, but may confirm again when a
key was pressed twice.  `tapped` records the words and the passphrase in the
fields when the encryption was asked for. -/
structure RestoreSeedActivity where
  wallet : SeedWallet
  pin : Option String := none
  restoredFromSeed : Bool := false
  currentItem : Nat := 0
  importStep : Nat := 0
  mnemonicsInput : String := ""
  passphraseInput : String := ""
  /-- Threads that have not read the fields. -/
  threads : Nat := 0
  /-- Posted calls of `goToStartup`. -/
  startups : Nat := 0
  finished : Bool := false
  decided : List Nat := []
  tapped : List (String × String) := []

inductive RestoreSeedEvent where
  | typeMnemonics (text : String)
  | importMnemonics
  | typePassphrase (text : String)
  | goToPassphraseConfirmStep
  | encryptSeed
  | onBackPressed
  | derive
  | confirmPin (offer : Nat) (newPinValue confirmPinValue : String)
      (salt : RandomBytes EncryptedSeed.saltLength) (iv : RandomBytes 16)
      (fates : List Fate)
  | startup
  | kill

namespace RestoreSeedActivity

def seedSpawnEncryption : Nat := 8

def seedSpawnComplete : Nat := 9

def seedSpawnError : Nat := 10

/-- The words as every handler reads them. -/
def mnemonics (activity : RestoreSeedActivity) : String :=
  JavaText.trim activity.mnemonicsInput

/-- `viewPager.setCurrentItem`.  The listener sets the import step when the
page changes. -/
def setCurrentItem (item : Nat) (activity : RestoreSeedActivity) :
    RestoreSeedActivity :=
  if item = activity.currentItem then activity
  else { activity with currentItem := item, importStep := item }

def goToInit (activity : RestoreSeedActivity) : RestoreSeedActivity :=
  activity.setCurrentItem 0

def goToPassphrase (activity : RestoreSeedActivity) : RestoreSeedActivity :=
  activity.setCurrentItem 1

def goToEncryption (activity : RestoreSeedActivity) : RestoreSeedActivity :=
  activity.setCurrentItem 2

def goToStartup (activity : RestoreSeedActivity) : RestoreSeedActivity :=
  { activity with finished := true }

variable (setup : RestoreSeedSetup) (activity : RestoreSeedActivity)

def importMnemonics : RestoreSeedActivity :=
  if setup.validate activity.mnemonics then activity.goToPassphrase
  else activity

/-- The seed is derived to see whether it can be. -/
def goToPassphraseConfirmStep : RestoreSeedActivity :=
  match setup.toSeed activity.mnemonics activity.passphraseInput with
  | some _ => activity.goToEncryption
  | none => activity.goToInit

def onBackPressed : RestoreSeedActivity :=
  match activity.currentItem with
  | 0 => activity.goToStartup
  | 1 => activity.goToInit
  | 2 => activity.importMnemonics setup
  | _ => activity

def encryptSeed : RestoreSeedActivity :=
  { activity with
    importStep := seedSpawnEncryption
    threads := activity.threads + 1
    tapped := activity.tapped ++
      [(activity.mnemonics, activity.passphraseInput)] }

/-- What the thread of `encryptSeed` reads and derives. -/
def derivedSeed : Option Bytes :=
  if activity.mnemonics = "" then none
  else setup.toSeed activity.mnemonics activity.passphraseInput

/-- The dialogs of `encryptWallet` are not shown on a screen that is
finishing. -/
def derive : RestoreSeedActivity :=
  match activity.derivedSeed setup with
  | some seed =>
      { activity with
        threads := activity.threads - 1
        wallet :=
          if activity.finished then activity.wallet
          else activity.wallet.offer activity.wallet.store (some seed) }
  | none =>
      { activity with
        threads := activity.threads - 1
        importStep := seedSpawnError
        startups := activity.startups + 1 }

def onEncryptSeedFailure : RestoreSeedActivity :=
  { activity with importStep := 2 }.goToEncryption

def onEncryptSeedSuccess : RestoreSeedActivity :=
  { activity with
    importStep := seedSpawnComplete
    restoredFromSeed := true
    startups := activity.startups + 1 }

/-- A new process, in which the wizard starts again. -/
def killed (wallet : SeedWallet) : RestoreSeedActivity where
  wallet := wallet
  restoredFromSeed := activity.restoredFromSeed
  tapped := activity.tapped

/-- The second dialog of `encryptWallet` is confirmed. -/
def encryptWallet (seed : Bytes) (newPinValue confirmPinValue : String)
    (salt : RandomBytes EncryptedSeed.saltLength) (iv : RandomBytes 16)
    (fates : List Fate) : RestoreSeedActivity :=
  let wallet := activity.wallet.encryptWallet setup.provider salt iv seed
    newPinValue confirmPinValue fates
  if newPinValue.length ≠ SeedWallet.pinLength then
    activity.onEncryptSeedFailure
  else if newPinValue ≠ confirmPinValue then activity.onEncryptSeedFailure
  else
    match (writeSeedFile setup.provider salt iv seed confirmPinValue
        activity.wallet.store fates).outcome with
    | .returned _ =>
        { activity with
          wallet := wallet
          pin := some confirmPinValue }.onEncryptSeedSuccess
    | .thrown _ => { activity with wallet := wallet }.onEncryptSeedFailure
    | .killed => activity.killed wallet

/-- No dialog covers the activity, which is there. -/
def Touchable : Prop :=
  (∀ index < activity.wallet.offered.length, index ∈ activity.decided) ∧
    activity.finished = false

instance : Decidable activity.Touchable :=
  inferInstanceAs (Decidable (_ ∧ _))

/-- The page is seen, and can be tapped and typed on. -/
def Shows (page : Nat) : Prop :=
  activity.currentItem = page ∧ activity.importStep < seedSpawnEncryption ∧
    activity.Touchable

instance (page : Nat) : Decidable (activity.Shows page) :=
  inferInstanceAs (Decidable (_ ∧ _))

def step : RestoreSeedEvent → Option RestoreSeedActivity
  | .typeMnemonics text =>
      if activity.Shows 0 then some { activity with mnemonicsInput := text }
      else none
  | .importMnemonics =>
      if activity.Shows 0 then some (activity.importMnemonics setup)
      else none
  | .typePassphrase text =>
      if activity.Shows 1 then some { activity with passphraseInput := text }
      else none
  | .goToPassphraseConfirmStep =>
      if activity.Shows 1 then
        some (activity.goToPassphraseConfirmStep setup)
      else none
  | .encryptSeed =>
      if activity.Shows 2 then some activity.encryptSeed else none
  | .onBackPressed =>
      if activity.Touchable then some (activity.onBackPressed setup)
      else none
  | .derive =>
      if 0 < activity.threads then some (activity.derive setup) else none
  | .confirmPin index newPinValue confirmPinValue salt iv fates =>
      (activity.wallet.offered[index]?).map (fun seed =>
        { activity with decided := index :: activity.decided }.encryptWallet
          setup seed newPinValue confirmPinValue salt iv fates)
  | .startup =>
      if 0 < activity.startups then
        some { activity.goToStartup with startups := activity.startups - 1 }
      else none
  | .kill =>
      some (activity.killed (activity.wallet.killed activity.wallet.store))

/-- After `onCreate`, over the seed files as they are. -/
def start (store : SeedStore) : RestoreSeedActivity :=
  { wallet := { store := store, passwords := [] } }

end RestoreSeedActivity

end EclairWallet
