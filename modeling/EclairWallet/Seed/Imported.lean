import EclairWallet.Seed.Opened
import EclairWallet.Seed.RestoreSeed

/-!
# The seed that is imported

What the wizard writes is the seed of words that were validated and of the
passphrase that stood beside them when the encryption was asked for, as long
as nobody types while the thread of the encryption waits for its turn, and no
dialog confirms its PIN a second time.
-/

namespace EclairWallet

open ByteString Crash WalletUtils

theorem Untouched.trans {first second third : SeedStore}
    (before : Untouched first second) (after : Untouched second third) :
    Untouched first third where
  encrypted := after.encrypted.trans before.encrypted
  unencrypted := after.unencrypted.trans before.unencrypted
  datadir := fun found => after.datadir (before.datadir found)

namespace RestoreSeedActivity

/-- The seed of valid words and a passphrase that were in the fields when the
encryption was asked for. -/
def Imported (setup : RestoreSeedSetup) (tapped : List (String × String))
    (seed : Bytes) : Prop :=
  ∃ words passphrase, (words, passphrase) ∈ tapped ∧
    setup.validate words = true ∧ setup.toSeed words passphrase = some seed

/-- The seed file opens, with some PIN, to an imported seed. -/
def StoresImported (setup : RestoreSeedSetup)
    (tapped : List (String × String)) (store : SeedStore) : Prop :=
  ∃ seed pin, Imported setup tapped seed ∧ pin.length = SeedWallet.pinLength ∧
    Opens setup.provider seed pin store

/-- The invariant of a wizard that found the seed files `before`. -/
structure Inv (setup : RestoreSeedSetup) (before : SeedStore)
    (activity : RestoreSeedActivity) : Prop where
  page : activity.currentItem ≠ 0 →
    setup.validate activity.mnemonics = true
  waiting : 0 < activity.threads →
    setup.validate activity.mnemonics = true ∧
      (activity.mnemonics, activity.passphraseInput) ∈ activity.tapped
  dialog : ∀ index < activity.wallet.offered.length,
    index ∉ activity.decided → setup.validate activity.mnemonics = true
  offered : ∀ seed ∈ activity.wallet.offered,
    Imported setup activity.tapped seed
  stored : Untouched before activity.wallet.store ∨
    StoresImported setup activity.tapped activity.wallet.store
  restored : activity.restoredFromSeed = true →
    StoresImported setup activity.tapped activity.wallet.store
  opens : ∀ pin, activity.pin = some pin →
    ∃ seed, Imported setup activity.tapped seed ∧
      Opens setup.provider seed pin activity.wallet.store

/-- Nobody types while a thread waits, and each dialog confirms once. -/
def InTime (activity : RestoreSeedActivity) : RestoreSeedEvent → Prop
  | .typeMnemonics _ => activity.threads = 0
  | .typePassphrase _ => activity.threads = 0
  | .confirmPin index _ _ _ _ _ => index ∉ activity.decided
  | _ => True

instance (activity : RestoreSeedActivity) :
    DecidablePred activity.InTime
  | .typeMnemonics _ => inferInstanceAs (Decidable (_ = _))
  | .typePassphrase _ => inferInstanceAs (Decidable (_ = _))
  | .confirmPin _ _ _ _ _ _ => inferInstanceAs (Decidable (¬ _ ∈ _))
  | .importMnemonics | .goToPassphraseConfirmStep | .encryptSeed
  | .onBackPressed | .derive | .startup | .kill => .isTrue trivial

variable {setup : RestoreSeedSetup} {before : SeedStore}
  {activity next : RestoreSeedActivity}

theorem inv_start (setup : RestoreSeedSetup) (store : SeedStore) :
    Inv setup store (start store) where
  page := fun other => (other rfl).elim
  waiting := fun threads => (Nat.lt_irrefl 0 threads).elim
  dialog := by
    rintro index ⟨⟩
  offered := by
    intro seed member
    cases member
  stored := Or.inl (Untouched.refl store)
  restored := by
    rintro ⟨⟩
  opens := by
    rintro pin ⟨⟩

/-! ## The pages -/

theorem setCurrentItem_cases (item : Nat) (activity : RestoreSeedActivity) :
    ∃ importStep, activity.setCurrentItem item =
      { activity with currentItem := item, importStep } := by
  by_cases same : item = activity.currentItem
  · subst item
    exact ⟨activity.importStep, by simp [setCurrentItem]⟩
  · exact ⟨item, by simp [setCurrentItem, same]⟩

theorem Inv.setCurrentItem (inv : Inv setup before activity) {item : Nat}
    (valid : item ≠ 0 → setup.validate activity.mnemonics = true) :
    Inv setup before (activity.setCurrentItem item) := by
  obtain ⟨importStep, same⟩ := setCurrentItem_cases item activity
  rw [same]
  exact ⟨valid, inv.waiting, inv.dialog, inv.offered, inv.stored,
    inv.restored, inv.opens⟩

theorem Inv.setImportStep (inv : Inv setup before activity)
    (importStep : Nat) : Inv setup before { activity with importStep } :=
  ⟨inv.page, inv.waiting, inv.dialog, inv.offered, inv.stored, inv.restored,
    inv.opens⟩

theorem Inv.importMnemonics (inv : Inv setup before activity) :
    Inv setup before (activity.importMnemonics setup) := by
  rw [RestoreSeedActivity.importMnemonics]
  split
  · rename_i valid
    exact inv.setCurrentItem (fun _ => valid)
  · exact inv

theorem Inv.onBackPressed (inv : Inv setup before activity) :
    Inv setup before (activity.onBackPressed setup) := by
  rw [RestoreSeedActivity.onBackPressed]
  split
  · exact ⟨inv.page, inv.waiting, inv.dialog, inv.offered, inv.stored,
      inv.restored, inv.opens⟩
  · exact inv.setCurrentItem (fun other => (other rfl).elim)
  · exact inv.importMnemonics
  · exact inv

theorem Inv.goToPassphraseConfirmStep (inv : Inv setup before activity)
    (shown : activity.Shows 1) :
    Inv setup before (activity.goToPassphraseConfirmStep setup) := by
  have valid := inv.page (by simp [shown.1])
  rw [RestoreSeedActivity.goToPassphraseConfirmStep]
  split
  · exact inv.setCurrentItem (fun _ => valid)
  · exact inv.setCurrentItem (fun other => (other rfl).elim)

/-! ## The encryption -/

theorem Imported.mono {tapped later : List (String × String)} {seed : Bytes}
    (imported : Imported setup tapped seed) :
    Imported setup (tapped ++ later) seed := by
  obtain ⟨words, passphrase, member, valid, derived⟩ := imported
  exact ⟨words, passphrase, List.mem_append_left _ member, valid, derived⟩

theorem StoresImported.mono {tapped later : List (String × String)}
    {store : SeedStore} (stores : StoresImported setup tapped store) :
    StoresImported setup (tapped ++ later) store := by
  obtain ⟨seed, pin, imported, long, opens⟩ := stores
  exact ⟨seed, pin, imported.mono, long, opens⟩

theorem StoresImported.of_untouched {tapped : List (String × String)}
    {store after : SeedStore} (stores : StoresImported setup tapped store)
    (untouched : Untouched store after) :
    StoresImported setup tapped after := by
  obtain ⟨seed, pin, imported, long, opens⟩ := stores
  exact ⟨seed, pin, imported, long, opens.of_untouched untouched⟩

theorem Inv.encryptSeed (inv : Inv setup before activity)
    (shown : activity.Shows 2) : Inv setup before activity.encryptSeed where
  page := inv.page
  waiting := by
    intro _
    refine ⟨inv.page (by simp [shown.1]), ?_⟩
    exact List.mem_append_right _ (List.mem_singleton_self _)
  dialog := inv.dialog
  offered := fun seed member => (inv.offered seed member).mono
  stored := inv.stored.imp_right StoresImported.mono
  restored := fun isRestored => (inv.restored isRestored).mono
  opens := by
    intro pin isPin
    obtain ⟨seed, imported, opens⟩ := inv.opens pin isPin
    exact ⟨seed, imported.mono, opens⟩

/-- What a waiting thread derives is an imported seed. -/
theorem Inv.imported (inv : Inv setup before activity)
    (waits : 0 < activity.threads) {seed : Bytes}
    (derived : activity.derivedSeed setup = some seed) :
    Imported setup activity.tapped seed := by
  obtain ⟨valid, member⟩ := inv.waiting waits
  rw [derivedSeed] at derived
  obtain ⟨_, isSeed⟩ := Option.ite_none_left_eq_some.mp derived
  exact ⟨_, _, member, valid, isSeed⟩

theorem Inv.derive (inv : Inv setup before activity)
    (waits : 0 < activity.threads) :
    Inv setup before (activity.derive setup) := by
  have fewer : 0 < activity.threads - 1 →
      setup.validate activity.mnemonics = true ∧
        (activity.mnemonics, activity.passphraseInput) ∈ activity.tapped :=
    fun _ => inv.waiting waits
  rw [RestoreSeedActivity.derive]
  cases derived : activity.derivedSeed setup with
  | none =>
      exact ⟨inv.page, fewer, inv.dialog, inv.offered, inv.stored,
        inv.restored, inv.opens⟩
  | some seed =>
      cases activity.finished with
      | true =>
          exact ⟨inv.page, fewer, inv.dialog, inv.offered, inv.stored,
            inv.restored, inv.opens⟩
      | false =>
          refine ⟨inv.page, fewer, fun _ _ _ => (inv.waiting waits).1, ?_,
            inv.stored, inv.restored, inv.opens⟩
          intro other member
          rcases List.mem_append.mp member with earlier | last
          · exact inv.offered other earlier
          · rw [List.mem_singleton.mp last]
            exact inv.imported waits derived

theorem Inv.untouched (inv : Inv setup before activity) {store : SeedStore}
    (untouched : Untouched activity.wallet.store store) :
    (Untouched before store ∨ StoresImported setup activity.tapped store) ∧
      (activity.restoredFromSeed = true →
        StoresImported setup activity.tapped store) := by
  constructor
  · rcases inv.stored with same | stores
    · exact Or.inl (same.trans untouched)
    · exact Or.inr (stores.of_untouched untouched)
  · exact fun restored => (inv.restored restored).of_untouched untouched

/-- A new process finds the files as the last one left them. -/
theorem Inv.killed (inv : Inv setup before activity) {wallet : SeedWallet}
    (offered : wallet.offered = [])
    (left : Untouched activity.wallet.store wallet.store ∨
      StoresImported setup activity.tapped wallet.store) :
    Inv setup before (activity.killed wallet) := by
  have files : (Untouched before wallet.store ∨
        StoresImported setup activity.tapped wallet.store) ∧
      (activity.restoredFromSeed = true →
        StoresImported setup activity.tapped wallet.store) := by
    rcases left with untouched | stores
    · exact inv.untouched untouched
    · exact ⟨Or.inr stores, fun _ => stores⟩
  constructor
  · exact fun other => (other rfl).elim
  · exact fun threads => (Nat.lt_irrefl 0 threads).elim
  · intro index below
    change index < wallet.offered.length at below
    rw [offered] at below
    cases below
  · intro seed member
    change seed ∈ wallet.offered at member
    rw [offered] at member
    cases member
  · exact files.1
  · exact files.2
  · rintro pin ⟨⟩

theorem Inv.onEncryptSeedFailure (inv : Inv setup before activity)
    (valid : setup.validate activity.mnemonics = true) :
    Inv setup before activity.onEncryptSeedFailure :=
  (inv.setImportStep 2).setCurrentItem (fun _ => valid)

theorem Inv.decide (inv : Inv setup before activity) (index : Nat) :
    Inv setup before
      { activity with decided := index :: activity.decided } where
  page := inv.page
  waiting := inv.waiting
  dialog := by
    intro other below undecided
    apply inv.dialog other below
    exact fun member => undecided (List.mem_cons_of_mem index member)
  offered := inv.offered
  stored := inv.stored
  restored := inv.restored
  opens := inv.opens

theorem Inv.encryptWallet (inv : Inv setup before activity) {seed : Bytes}
    (imported : Imported setup activity.tapped seed)
    (valid : setup.validate activity.mnemonics = true)
    (newPinValue confirmPinValue : String)
    (salt : RandomBytes EncryptedSeed.saltLength) (iv : RandomBytes 16)
    (fates : List Fate) :
    Inv setup before (activity.encryptWallet setup seed newPinValue
      confirmPinValue salt iv fates) := by
  have writes : Triple (Untouched activity.wallet.store)
      (writeSeedFile setup.provider salt iv seed confirmPinValue)
      (fun _ store => Opens setup.provider seed confirmPinValue store ∧
        store.unencrypted = activity.wallet.store.unencrypted)
      (Untouched activity.wallet.store)
      (MovedOrUntouched setup.provider activity.wallet.store seed
        confirmPinValue) :=
    writeSeedFile_triple
  have ends := writes activity.wallet.store fates (Untouched.refl _)
  simp only [RestoreSeedActivity.encryptWallet, SeedWallet.encryptWallet]
  by_cases long : newPinValue.length = SeedWallet.pinLength
  swap
  · rw [if_pos long]
    exact inv.onEncryptSeedFailure valid
  by_cases same : newPinValue = confirmPinValue
  swap
  · rw [if_neg (not_not.mpr long), if_pos same]
    exact inv.onEncryptSeedFailure valid
  simp only [if_neg (not_not.mpr long), if_neg (not_not.mpr same)]
  rcases ends.cases with ⟨_, store, rest, result, opens, _⟩ |
    ⟨_, store, rest, result, untouched⟩ | ⟨store, rest, result, left⟩
  · rw [result]
    have stores : StoresImported setup activity.tapped store :=
      ⟨seed, confirmPinValue, imported, same ▸ long, opens⟩
    refine ⟨inv.page, inv.waiting, inv.dialog, inv.offered, Or.inr stores,
      fun _ => stores, ?_⟩
    rintro pin ⟨⟩
    exact ⟨seed, imported, opens⟩
  · rw [result]
    have files := inv.untouched untouched
    apply Inv.onEncryptSeedFailure
    · refine ⟨inv.page, inv.waiting, ?_, ?_, files.1, files.2, ?_⟩
      · rw [SeedWallet.offered_offer_none]
        exact inv.dialog
      · rw [SeedWallet.offered_offer_none]
        exact inv.offered
      · intro pin isPin
        obtain ⟨other, isImported, opens⟩ := inv.opens pin isPin
        exact ⟨other, isImported, opens.of_untouched untouched⟩
    · exact valid
  · rw [result]
    apply inv.killed
    · rfl
    · rcases left with untouched | moved
      · exact Or.inl untouched
      · exact Or.inr ⟨seed, confirmPinValue, imported, same ▸ long, moved.1⟩

theorem Inv.step (inv : Inv setup before activity)
    {event : RestoreSeedEvent} (inTime : activity.InTime event)
    (result : activity.step setup event = some next) :
    Inv setup before next := by
  cases event with
  | typeMnemonics text =>
      obtain ⟨shown, same⟩ := Option.ite_none_right_eq_some.mp result
      cases same
      refine ⟨fun other => (other shown.1).elim, ?_, ?_, inv.offered,
        inv.stored, inv.restored, inv.opens⟩
      · intro waits
        exact absurd inTime (Nat.pos_iff_ne_zero.mp waits)
      · exact fun index below undecided =>
          (undecided (shown.2.2.1 index below)).elim
  | importMnemonics =>
      obtain ⟨_, same⟩ := Option.ite_none_right_eq_some.mp result
      cases same
      exact inv.importMnemonics
  | typePassphrase text =>
      obtain ⟨_, same⟩ := Option.ite_none_right_eq_some.mp result
      cases same
      refine ⟨inv.page, ?_, inv.dialog, inv.offered, inv.stored, inv.restored,
        inv.opens⟩
      intro waits
      exact absurd inTime (Nat.pos_iff_ne_zero.mp waits)
  | goToPassphraseConfirmStep =>
      obtain ⟨shown, same⟩ := Option.ite_none_right_eq_some.mp result
      cases same
      exact inv.goToPassphraseConfirmStep shown
  | encryptSeed =>
      obtain ⟨shown, same⟩ := Option.ite_none_right_eq_some.mp result
      cases same
      exact inv.encryptSeed shown
  | onBackPressed =>
      obtain ⟨_, same⟩ := Option.ite_none_right_eq_some.mp result
      cases same
      exact inv.onBackPressed
  | derive =>
      obtain ⟨waits, same⟩ := Option.ite_none_right_eq_some.mp result
      rw [← Option.some.inj same]
      exact inv.derive waits
  | confirmPin index newPinValue confirmPinValue salt iv fates =>
      obtain ⟨seed, isOffered, same⟩ := Option.map_eq_some_iff.mp result
      rw [← same]
      obtain ⟨below, _⟩ := List.getElem?_eq_some_iff.mp isOffered
      have imported :=
        inv.offered seed (List.mem_of_getElem? isOffered)
      have valid := inv.dialog index below inTime
      exact (inv.decide index).encryptWallet imported valid newPinValue
        confirmPinValue salt iv fates
  | startup =>
      obtain ⟨_, same⟩ := Option.ite_none_right_eq_some.mp result
      cases same
      exact ⟨inv.page, inv.waiting, inv.dialog, inv.offered, inv.stored,
        inv.restored, inv.opens⟩
  | kill =>
      cases result
      exact inv.killed rfl (Or.inl (Untouched.refl _))

/-- In every order of typing, taps, threads, PIN dialogs, failing or killed
writes and restarts, while nobody types as a thread waits and no dialog
confirms twice: the seed file is as it was found, or opens with some PIN to the
seed of words that were validated and tapped with that passphrase; the wallet
is marked as restored only over such a file, and `App.pin` opens it. -/
theorem seed_imported_as_validated {store : SeedStore}
    {events : List RestoreSeedEvent} {finish : RestoreSeedActivity}
    (inTime : Runs.StepsMeet (step setup) InTime (start store) events)
    (run : Runs.exec (step setup) (start store) events = some finish) :
    (Untouched store finish.wallet.store ∨
        StoresImported setup finish.tapped finish.wallet.store) ∧
      (finish.restoredFromSeed = true →
        StoresImported setup finish.tapped finish.wallet.store) ∧
      ∀ pin, finish.pin = some pin →
        ∃ seed, Imported setup finish.tapped seed ∧
          Opens setup.provider seed pin finish.wallet.store := by
  have preserved : ∀ activity event next, Inv setup store activity →
      InTime activity event → activity.step setup event = some next →
      Inv setup store next :=
    fun _ _ _ inv inTime result => inv.step inTime result
  have inv := Runs.invariant_of_stepsMeet preserved (inv_start setup store)
    inTime run
  exact ⟨inv.stored, inv.restored, inv.opens⟩

/-- The words of the all-zero entropy. -/
def zooWrong : String :=
  "zoo zoo zoo zoo zoo zoo zoo zoo zoo zoo zoo wrong"

/-- One phrase is valid; other words have a seed too. -/
def sampleRestore : RestoreSeedSetup where
  validate := fun words => words = zooWrong
  toSeed := fun words _ =>
    some (if words = zooWrong then sampleSeed else [48, 49])
  provider := pinProvider

/-- The two PINs differ at first. -/
def importedAtLast : List RestoreSeedEvent :=
  [.typeMnemonics (zooWrong ++ " "), .importMnemonics,
    .typePassphrase "word", .goToPassphraseConfirmStep, .encryptSeed, .derive,
    .confirmPin 0 oldPin.pin newPin.pin sampleSalt sampleIv [],
    .onBackPressed, .goToPassphraseConfirmStep, .encryptSeed, .derive,
    .confirmPin 1 newPin.pin newPin.pin sampleSalt sampleIv []]

theorem importedAtLast_as_validated :
    ∃ finish, Runs.exec (step sampleRestore) (start {}) importedAtLast =
        some finish ∧
      finish.pin = some newPin.pin ∧
      StoresImported sampleRestore finish.tapped finish.wallet.store := by
  have runs : (Runs.exec (step sampleRestore) (start {}) importedAtLast).any
      (fun finish => finish.restoredFromSeed &&
        finish.pin = some newPin.pin) = true := by
    decide +kernel
  obtain ⟨finish, run, isDone⟩ := (Option.any_eq_true _ _).mp runs
  obtain ⟨restored, isPin⟩ := Bool.and_eq_true_iff.mp isDone
  have inTime : Runs.StepsMeet (step sampleRestore) InTime (start {})
      importedAtLast := by
    decide +kernel
  have stays := seed_imported_as_validated inTime run
  exact ⟨finish, run, of_decide_eq_true isPin, stays.2.1 restored⟩

/-- The words are typed anew before the thread reads them. -/
def typedMeanwhile : List RestoreSeedEvent :=
  [.typeMnemonics zooWrong, .importMnemonics, .goToPassphraseConfirmStep,
    .encryptSeed, .onBackPressed, .onBackPressed, .typeMnemonics "zoo",
    .derive, .confirmPin 0 newPin.pin newPin.pin sampleSalt sampleIv []]

/-- The wallet is restored from words that were never validated. -/
example : (Runs.exec (step sampleRestore) (start {}) typedMeanwhile).any
    (fun finish => finish.restoredFromSeed = true ∧
      ¬ Opens pinProvider sampleSeed newPin.pin finish.wallet.store) =
        true := by
  decide +kernel

end RestoreSeedActivity

end EclairWallet
