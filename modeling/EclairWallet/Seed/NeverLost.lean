import Mathlib.Data.Set.Insert
import EclairWallet.Seed.Writing

/-!
# The seed is never lost

The migration deletes `seed.dat` only next to an `enc_seed.dat`, which is the
reference from then on; a password change replaces `enc_seed.dat` by one move.
-/

namespace EclairWallet

open ByteString Crash WalletUtils

variable {provider : SecurityProvider}

/-! ## The migration -/

section Migration

variable {seed : Bytes} {passwords : List String}

/-- `enc_seed.dat` is absent and `seed.dat` holds the seed, or `enc_seed.dat`
decrypts to it under one of the passwords. -/
def Stored (provider : SecurityProvider) (seed : Bytes)
    (passwords : List String) (store : SeedStore) : Prop :=
  store.encrypted = none ∧ store.unencrypted = some seed ∨
    ∃ password ∈ passwords, Opens provider seed password store

theorem Opens.encrypted_isSome {password : String} {store : SeedStore}
    (opens : Opens provider seed password store) :
    store.encrypted.isSome = true := by
  obtain ⟨_, content, _, _, found, _⟩ := readSeedFile_eq_ok opens
  rw [Option.isSome_iff_exists]
  exact ⟨content, found⟩

theorem Stored.of_untouched {before after : SeedStore}
    (stored : Stored provider seed passwords before)
    (untouched : Untouched before after) :
    Stored provider seed passwords after := by
  rcases stored with ⟨absent, kept⟩ | ⟨password, member, opens⟩
  · left
    rw [untouched.encrypted, untouched.unencrypted]
    exact ⟨absent, kept⟩
  · right
    have datadir := (readSeedFile_eq_ok opens).1
    refine ⟨password, member, Eq.trans ?_ opens⟩
    apply readSeedFile_congr
    · rw [datadir, untouched.datadir datadir]
    · exact untouched.encrypted

theorem Stored.mono {store : SeedStore} {more : List String}
    (stored : Stored provider seed passwords store)
    (included : ∀ password ∈ passwords, password ∈ more) :
    Stored provider seed more store := by
  rcases stored with legacy | ⟨password, member, opens⟩
  · exact .inl legacy
  · exact .inr ⟨password, included password member, opens⟩

/-- Next to an encrypted seed file `seed.dat` can be deleted. -/
theorem Stored.delete {store : SeedStore}
    (stored : Stored provider seed passwords store)
    (encrypted : store.encrypted.isSome = true) :
    Stored provider seed passwords { store with unencrypted := none } := by
  rcases stored with ⟨absent, _⟩ | ⟨password, member, opens⟩
  · rw [absent] at encrypted
    cases encrypted
  · right
    refine ⟨password, member, Eq.trans ?_ opens⟩
    apply readSeedFile_congr
    · rfl
    · rfl

theorem readUnencrypted_triple :
    Triple
      (fun store => Stored provider seed passwords store ∧
        store.encrypted = none)
      readUnencrypted
      (fun read store => Stored provider seed passwords store ∧
        ∀ offered ∈ read, offered = seed)
      (Stored provider seed passwords) (Stored provider seed passwords) := by
  apply triple_tryCatch
  · have content : Triple
        (fun store => Stored provider seed passwords store ∧
          store.encrypted = none)
        (Program.perform (Action.reading
          (fun store : SeedStore =>
            (store.unencrypted.map Except.ok).getD (.error .io))
          Throwable.io))
        (fun read store => Stored provider seed passwords store ∧ read = seed)
        (Stored provider seed passwords)
        (Stored provider seed passwords) := by
      apply triple_reading
      · intro store read legacy reads
        refine ⟨legacy.1, ?_⟩
        rcases legacy.1 with ⟨_, kept⟩ | ⟨password, _, opens⟩
        · rw [kept] at reads
          exact (Except.ok.inj reads).symm
        · have present := opens.encrypted_isSome
          rw [legacy.2] at present
          cases present
      · intro store legacy
        exact legacy.1
      · intro store legacy
        exact legacy.1
    apply triple_bind content
    intro read
    apply triple_ret
    intro store ⟨stored, isSeed⟩
    refine ⟨stored, ?_⟩
    intro offered isOffered
    cases isOffered
    exact isSeed
  · intro thrown
    apply triple_ret
    intro store stored
    refine ⟨stored, ?_⟩
    intro offered isOffered
    cases isOffered

theorem deleteUnencrypted_triple :
    Triple
      (fun store => Stored provider seed passwords store ∧
        store.encrypted.isSome = true)
      deleteUnencrypted
      (fun _ => Stored provider seed passwords)
      (Stored provider seed passwords) (Stored provider seed passwords) := by
  apply triple_tryCatch
  · apply triple_perform
    · intro store value after both result
      cases result
      exact both.1.delete both.2
    · intro store both
      exact both.1
    · intro store _ both
      exact both.1
    · intro store extent both
      dsimp only
      split
      · exact both.1
      · exact both.1.delete both.2
  · intro thrown
    apply triple_ret
    intro store stored
    exact stored

theorem checkWalletDatadir_triple :
    Triple (Stored provider seed passwords) checkWalletDatadir
      (fun result store => Stored provider seed passwords store ∧
        ∀ offered ∈ result.2, offered = seed)
      (Stored provider seed passwords) (Stored provider seed passwords) := by
  have nothing : ∀ (state : SeedStore) (ready : Bool),
      Triple
        (fun found => found = state ∧ Stored provider seed passwords found)
        (pure (ready, none) : SeedProgram (Bool × Option Bytes))
        (fun result store => Stored provider seed passwords store ∧
          ∀ offered ∈ result.2, offered = seed)
        (Stored provider seed passwords)
        (Stored provider seed passwords) := by
    intro state ready
    apply triple_ret
    intro found isState
    refine ⟨isState.2, ?_⟩
    intro offered isOffered
    cases isOffered
  apply triple_decideOn
  intro store stored
  split
  · exact nothing store false
  · split
    next legacy =>
      rw [Bool.and_eq_true, Option.isNone_iff_eq_none] at legacy
      have onlyLegacy : ∀ found : SeedStore,
          found = store ∧ Stored provider seed passwords found →
          Stored provider seed passwords found ∧ found.encrypted = none := by
        intro found given
        obtain ⟨rfl, holds⟩ := given
        exact ⟨holds, legacy.2⟩
      apply triple_bind (readUnencrypted_triple.of_stronger onlyLegacy)
      intro read
      apply triple_ret
      intro found holds
      exact holds
    · split
      next both =>
        rw [Bool.and_eq_true] at both
        have alsoEncrypted : ∀ found : SeedStore,
            found = store ∧ Stored provider seed passwords found →
            Stored provider seed passwords found ∧
              found.encrypted.isSome = true := by
          intro found given
          obtain ⟨rfl, holds⟩ := given
          exact ⟨holds, both.2⟩
        apply triple_bind (deleteUnencrypted_triple.of_stronger alsoEncrypted)
        intro _
        apply triple_ret
        intro found holds
        refine ⟨holds, ?_⟩
        intro offered isOffered
        cases isOffered
      · split
        · exact nothing store true
        · exact nothing store false

end Migration

/-! ## The wallet -/

section Wallet

variable {seed : Bytes} {passwords : Set String}

/-- The seed is stored, the dialogs would write nothing else, and the passwords
to try are among the given ones. -/
structure Safe (provider : SecurityProvider) (seed : Bytes)
    (passwords : Set String) (wallet : SeedWallet) : Prop where
  stored : Stored provider seed wallet.passwords wallet.store
  offered : ∀ content ∈ wallet.offered, content = seed
  known : ∀ password ∈ wallet.passwords, password ∈ passwords

/-- The password typed, if any, is among the given ones. -/
def SeedEvent.TypedFrom (passwords : Set String) : SeedEvent → Prop
  | .changePassword pinValue _ => pinValue ∈ passwords
  | .confirmPin _ _ confirmPinValue _ _ _ => confirmPinValue ∈ passwords
  | .checkWalletDatadir _ | .kill => True

variable {wallet : SeedWallet}

theorem Safe.killed (safe : Safe provider seed passwords wallet)
    {store : SeedStore}
    (stored : Stored provider seed wallet.passwords store) :
    Safe provider seed passwords (wallet.killed store) where
  stored := stored
  offered := by
    intro content member
    cases member
  known := safe.known

theorem Safe.offer (safe : Safe provider seed passwords wallet)
    {store : SeedStore} {read : Option Bytes}
    (stored : Stored provider seed wallet.passwords store)
    (isSeed : ∀ content ∈ read, content = seed) :
    Safe provider seed passwords (wallet.offer store read) where
  stored := stored
  offered := by
    intro content member
    rcases List.mem_append.mp member with earlier | now
    · exact safe.offered content earlier
    · exact isSeed content (Option.mem_toList.mp now)
  known := safe.known

theorem Safe.offer_none (safe : Safe provider seed passwords wallet)
    {store : SeedStore}
    (stored : Stored provider seed wallet.passwords store) :
    Safe provider seed passwords (wallet.offer store none) := by
  apply safe.offer stored
  intro content isRead
  cases isRead

theorem Safe.check (safe : Safe provider seed passwords wallet)
    (fates : List Fate) :
    Safe provider seed passwords (wallet.check fates) := by
  have ends := checkWalletDatadir_triple wallet.store fates safe.stored
  unfold SeedWallet.check
  rcases ends.cases with ⟨⟨ready, read⟩, store, rest, result, holds⟩ |
    ⟨error, store, rest, result, holds⟩ | ⟨store, rest, result, holds⟩
  · rw [result]
    exact safe.offer holds.1 holds.2
  · rw [result]
    exact safe.offer_none holds
  · rw [result]
    exact safe.killed holds

/-- `enc_seed.dat` opens under the right password only, so what is read under
any password is the seed. -/
theorem Stored.read_eq (tells : TellsApart provider passwords)
    {known : List String} (included : ∀ password ∈ known, password ∈ passwords)
    {store : SeedStore} (stored : Stored provider seed known store)
    {pinValue : String} (typed : pinValue ∈ passwords) {content : Bytes}
    (reads : readSeedFile provider store .seedName pinValue = .ok content) :
    content = seed := by
  rcases stored with ⟨absent, _⟩ | ⟨password, member, opens⟩
  · have present := Opens.encrypted_isSome reads
    rw [absent] at present
    cases present
  · have same : pinValue = password :=
      tells.password_eq typed (included password member) reads opens
    subst password
    rw [Opens, reads] at opens
    exact Except.ok.inj opens

theorem Safe.changePassword (tells : TellsApart provider passwords)
    (safe : Safe provider seed passwords wallet) {pinValue : String}
    (typed : pinValue ∈ passwords) (fates : List Fate) :
    Safe provider seed passwords
      (wallet.changePassword provider pinValue fates) := by
  have readSeed_triple : Triple
      (Stored provider seed wallet.passwords)
      (readSeed provider .seedName pinValue)
      (fun read store => Stored provider seed wallet.passwords store ∧
        read = seed)
      (Stored provider seed wallet.passwords)
      (Stored provider seed wallet.passwords) := by
    apply triple_reading
    · intro store read stored reads
      exact ⟨stored, stored.read_eq tells safe.known typed reads⟩
    · intro store stored
      exact stored
    · intro store stored
      exact stored
  have ends := readSeed_triple wallet.store fates safe.stored
  unfold SeedWallet.changePassword
  rcases ends.cases with ⟨read, store, rest, result, holds⟩ |
    ⟨error, store, rest, result, holds⟩ | ⟨store, rest, result, holds⟩
  · rw [result]
    apply safe.offer holds.1
    intro content isRead
    cases isRead
    exact holds.2
  · rw [result]
    exact safe.offer_none holds
  · rw [result]
    exact safe.killed holds

theorem Safe.encryptWallet (safe : Safe provider seed passwords wallet)
    {newPinValue confirmPinValue : String}
    (typed : confirmPinValue ∈ passwords)
    (salt : RandomBytes EncryptedSeed.saltLength) (iv : RandomBytes 16)
    (fates : List Fate) :
    Safe provider seed passwords
      (wallet.encryptWallet provider salt iv seed newPinValue confirmPinValue
        fates) := by
  have writes : Triple (Untouched wallet.store)
      (writeSeedFile provider salt iv seed confirmPinValue)
      (fun _ store => Opens provider seed confirmPinValue store ∧
        store.unencrypted = wallet.store.unencrypted)
      (Untouched wallet.store)
      (MovedOrUntouched provider wallet.store seed confirmPinValue) :=
    writeSeedFile_triple
  have ends := writes wallet.store fates (Untouched.refl wallet.store)
  unfold SeedWallet.encryptWallet
  split
  · exact safe
  split
  · exact safe
  rcases ends.cases with ⟨_, store, rest, result, holds⟩ |
    ⟨error, store, rest, result, holds⟩ | ⟨store, rest, result, holds⟩
  · rw [result]
    refine ⟨.inr ⟨confirmPinValue, by simp, holds.1⟩, safe.offered, ?_⟩
    intro password member
    rw [List.mem_singleton.mp member]
    exact typed
  · rw [result]
    exact safe.offer_none (safe.stored.of_untouched holds)
  · rw [result]
    have kept : Stored provider seed (confirmPinValue :: wallet.passwords)
        store := by
      rcases holds with untouched | moved
      · apply (safe.stored.of_untouched untouched).mono
        intro password member
        exact List.mem_cons_of_mem _ member
      · exact .inr ⟨confirmPinValue, by simp, moved.1⟩
    refine ⟨kept, ?_, ?_⟩
    · intro content member
      cases member
    · intro password member
      rcases List.mem_cons.mp member with rfl | earlier
      · exact typed
      · exact safe.known password earlier

theorem Safe.step (tells : TellsApart provider passwords)
    {wallet next : SeedWallet} {event : SeedEvent}
    (safe : Safe provider seed passwords wallet)
    (typed : event.TypedFrom passwords)
    (result : wallet.step provider event = some next) :
    Safe provider seed passwords next := by
  cases event with
  | checkWalletDatadir fates =>
      cases result
      exact safe.check fates
  | changePassword pinValue fates =>
      cases result
      exact safe.changePassword tells typed fates
  | confirmPin index newPinValue confirmPinValue salt iv fates =>
      obtain ⟨content, isOffered, result⟩ := Option.map_eq_some_iff.mp result
      have isSeed := safe.offered content (List.mem_of_getElem? isOffered)
      subst content
      subst next
      exact safe.encryptWallet typed salt iv fates
  | kill =>
      cases result
      exact safe.killed safe.stored

end Wallet

/-! ## A sample provider -/

section Sample

def zeros (length : Nat) : RandomBytes length :=
  ⟨List.replicate length 0, List.length_replicate⟩

def sampleSalt : RandomBytes EncryptedSeed.saltLength :=
  zeros _

def sampleIv : RandomBytes 16 :=
  zeros _

/-- The text `00ff`. -/
def sampleSeed : Bytes :=
  [48, 48, 102, 102]

/-- What the ciphers make of a PIN and the samples above. -/
structure PinSample where
  pin : String
  aesKey : Bytes
  macKey : Bytes
  cipherText : Bytes
  mac : Bytes

def oldPin : PinSample where
  pin := "123456"
  aesKey :=
    [44, 251, 33, 154, 26, 2, 91, 154, 171, 229, 15, 35, 28, 236, 26, 53]
  macKey :=
    [122, 120, 150, 249, 121, 54, 36, 93, 137, 75, 231, 21, 75, 122, 34, 27,
     4, 118, 180, 13, 146, 87, 233, 239, 172, 234, 5, 144, 7, 54, 18, 166]
  cipherText :=
    [161, 124, 49, 163, 235, 191, 207, 40, 193, 62, 172, 235, 27, 241, 4, 106]
  mac :=
    [184, 16, 38, 255, 132, 133, 54, 0, 27, 34, 99, 45, 141, 42, 195, 10, 3,
     5, 74, 76, 160, 15, 226, 92, 142, 232, 18, 87, 143, 59, 79, 192]

def newPin : PinSample where
  pin := "654321"
  aesKey :=
    [177, 76, 113, 189, 52, 84, 56, 84, 66, 42, 85, 72, 229, 223, 13, 122]
  macKey :=
    [230, 49, 246, 162, 144, 116, 232, 231, 202, 218, 76, 179, 252, 198, 12,
     121, 107, 207, 16, 80, 173, 97, 206, 88, 60, 140, 189, 182, 129, 98, 231,
     253]
  cipherText :=
    [17, 138, 229, 182, 152, 147, 49, 140, 20, 168, 36, 86, 195, 135, 38, 77]
  mac :=
    [35, 45, 158, 182, 123, 176, 119, 205, 47, 64, 47, 178, 189, 129, 3, 242,
     27, 182, 204, 146, 74, 32, 20, 186, 254, 150, 170, 238, 5, 83, 220, 196]

def padded (length : Nat) (bytes : Bytes) : Bytes :=
  (bytes ++ List.replicate length 0).take length

/-- The values of the platform on the samples, and stand-ins for them
elsewhere. -/
def pinProvider : SecurityProvider where
  aesEncrypt key iv plaintext :=
    if key = oldPin.aesKey ∧ iv = sampleIv.val ∧ plaintext = sampleSeed then
      oldPin.cipherText
    else if key = newPin.aesKey ∧ iv = sampleIv.val ∧
        plaintext = sampleSeed then
      newPin.cipherText
    else 0 :: plaintext
  aesDecrypt key iv cipherText :=
    if key = oldPin.aesKey ∧ iv = sampleIv.val ∧
        cipherText = oldPin.cipherText then
      some sampleSeed
    else if key = newPin.aesKey ∧ iv = sampleIv.val ∧
        cipherText = newPin.cipherText then
      some sampleSeed
    else if cipherText.head? = some 0 then some cipherText.tail
    else none
  hmacSha256 key data :=
    if key = oldPin.macKey ∧ data = sampleIv.val ++ oldPin.cipherText then
      oldPin.mac
    else if key = newPin.macKey ∧
        data = sampleIv.val ++ newPin.cipherText then
      newPin.mac
    else padded 32 key
  pbkdf2 password salt :=
    if salt = sampleSalt.val ∧ password = oldPin.pin then
      oldPin.aesKey ++ oldPin.macKey
    else if salt = sampleSalt.val ∧ password = newPin.pin then
      newPin.aesKey ++ newPin.macKey
    else
      List.replicate 16 0 ++
        padded 32 (password.toList.map (fun digit => UInt8.ofNat digit.toNat))

def samplePins : Set String :=
  {oldPin.pin, newPin.pin}

theorem pinProvider_sound : pinProvider.Sound where
  aesDecrypt_aesEncrypt := by
    intro key iv plaintext _ _
    have distinct : newPin.cipherText ≠ oldPin.cipherText := by decide
    unfold pinProvider
    dsimp only
    by_cases isOld : key = oldPin.aesKey ∧ iv = sampleIv.val ∧
      plaintext = sampleSeed
    · simp [isOld]
    · by_cases isNew : key = newPin.aesKey ∧ iv = sampleIv.val ∧
        plaintext = sampleSeed
      · simp only [if_neg isOld, if_pos isNew]
        simp [isNew, distinct]
      · have notOld : (0 :: plaintext) ≠ oldPin.cipherText := by
          intro same
          have heads : some 0 = oldPin.cipherText.head? :=
            congrArg List.head? same
          exact absurd heads (by decide)
        have notNew : (0 :: plaintext) ≠ newPin.cipherText := by
          intro same
          have heads : some 0 = newPin.cipherText.head? :=
            congrArg List.head? same
          exact absurd heads (by decide)
        simp [if_neg isOld, if_neg isNew, notOld, notNew]
  length_hmacSha256 := by
    intro key data
    unfold pinProvider
    dsimp only
    split
    · rfl
    · split
      · rfl
      · simp [padded]

def sampleIntegrityKey (pin : String) (salt : Bytes) : Bytes :=
  (AesCbcWithIntegrity.generateKeyFromPassword pinProvider pin
    salt).integrityKey

theorem sampleIntegrityKey_cases (salt : Bytes) :
    sampleIntegrityKey oldPin.pin salt = oldPin.macKey ∧
        sampleIntegrityKey newPin.pin salt = newPin.macKey ∨
      sampleIntegrityKey oldPin.pin salt =
          padded 32 [49, 50, 51, 52, 53, 54] ∧
        sampleIntegrityKey newPin.pin salt =
          padded 32 [54, 53, 52, 51, 50, 49] := by
  by_cases isSample : salt = sampleSalt.val
  · subst salt
    left
    decide +kernel
  · right
    have old : pinProvider.pbkdf2 oldPin.pin salt =
        List.replicate 16 0 ++ padded 32 [49, 50, 51, 52, 53, 54] := by
      simp only [pinProvider, isSample, false_and, if_false]
      decide +kernel
    have new : pinProvider.pbkdf2 newPin.pin salt =
        List.replicate 16 0 ++ padded 32 [54, 53, 52, 51, 50, 49] := by
      simp only [pinProvider, isSample, false_and, if_false]
      decide +kernel
    unfold sampleIntegrityKey AesCbcWithIntegrity.generateKeyFromPassword
    rw [old, new]
    decide +kernel

theorem standIn_of_unknown {key message : Bytes}
    (notOld : key ≠ oldPin.macKey) (notNew : key ≠ newPin.macKey) :
    pinProvider.hmacSha256 key message = padded 32 key := by
  simp [pinProvider, notOld, notNew]

theorem samplePins_tellsApart : TellsApart pinProvider samplePins := by
  have apart : ∀ message salt,
      AesCbcWithIntegrity.generateMac pinProvider message
          (sampleIntegrityKey oldPin.pin salt) ≠
        AesCbcWithIntegrity.generateMac pinProvider message
          (sampleIntegrityKey newPin.pin salt) := by
    intro message salt
    unfold AesCbcWithIntegrity.generateMac
    rcases sampleIntegrityKey_cases salt with ⟨old, new⟩ | ⟨old, new⟩
    · rw [old, new]
      have notOld : newPin.macKey ≠ oldPin.macKey := by decide
      have notNew : oldPin.macKey ≠ newPin.macKey := by decide
      simp only [pinProvider, notOld, notNew, true_and, false_and, if_false]
      split
      · split
        · decide
        · decide
      · split
        · decide
        · decide
    · have oldUnknown := @standIn_of_unknown
        (padded 32 [49, 50, 51, 52, 53, 54]) message (by decide) (by decide)
      have newUnknown := @standIn_of_unknown
        (padded 32 [54, 53, 52, 51, 50, 49]) message (by decide) (by decide)
      rw [old, new, oldUnknown, newUnknown]
      decide
  intro message salt first firstMember second secondMember same
  rcases firstMember with rfl | rfl
  · rcases secondMember with rfl | rfl
    · rfl
    · exact (apart message salt same).elim
  · rcases secondMember with rfl | rfl
    · exact (apart message salt same.symm).elim
    · rfl

end Sample

/-! ## The result -/

section Result

variable {seed : Bytes} {passwords : Set String}

/-- A wallet from which the user gets the seed back. -/
def Recoverable (provider : SecurityProvider) (seed : Bytes)
    (wallet : SeedWallet) : Prop :=
  wallet.store.unencrypted = some seed ∨
    ∃ password ∈ wallet.passwords, Opens provider seed password wallet.store

theorem Safe.recoverable {wallet : SeedWallet}
    (safe : Safe provider seed passwords wallet) :
    Recoverable provider seed wallet := by
  rcases safe.stored with ⟨_, kept⟩ | opens
  · exact .inl kept
  · exact .inr opens

instance (provider : SecurityProvider) (seed : Bytes) (password : String)
    (store : SeedStore) : Decidable (Opens provider seed password store) :=
  inferInstanceAs (Decidable (_ = _))

instance (provider : SecurityProvider) (seed : Bytes) (wallet : SeedWallet) :
    Decidable (Recoverable provider seed wallet) :=
  inferInstanceAs (Decidable (_ ∨ _))

theorem seed_never_lost (tells : TellsApart provider passwords) :
    (∀ seed start events finish, Safe provider seed passwords start →
      (∀ event ∈ events, SeedEvent.TypedFrom passwords event) →
      Runs.exec (SeedWallet.step provider) start events = some finish →
      Recoverable provider seed finish) ∧
    ∀ salt iv seed password store fates,
      (writeSeedFile provider salt iv seed password store fates).Satisfies
        (fun _ after =>
          readSeedFile provider after .seedName password = .ok seed)
        (fun after => after.encrypted = store.encrypted)
        (fun _ => True) := by
  constructor
  · intro seed start events finish safe typed run
    have meets : Runs.StepsMeet (SeedWallet.step provider)
        (fun _ event => event.TypedFrom passwords) start events :=
      Runs.StepsMeet.of_forall start (fun _ => typed)
    apply Safe.recoverable
    refine Runs.invariant_of_stepsMeet ?_ safe meets run
    intro wallet event next safe typed result
    exact safe.step tells typed result
  · intro salt iv seed password store fates
    have writes : Triple (Untouched store)
        (writeSeedFile provider salt iv seed password)
        (fun _ after => Opens provider seed password after ∧
          after.unencrypted = store.unencrypted)
        (Untouched store) (MovedOrUntouched provider store seed password) :=
      writeSeedFile_triple
    apply (writes store fates (Untouched.refl store)).mono
    · intro _ after stored
      exact stored.1
    · intro after untouched
      exact untouched.encrypted
    · intro _ _
      trivial

/-- A legacy seed is encrypted and deleted; a password change is killed when it
has moved the file. -/
def migrationThenChange : List SeedEvent :=
  [.checkWalletDatadir [],
    .confirmPin 0 oldPin.pin oldPin.pin sampleSalt sampleIv [],
    .checkWalletDatadir [],
    .changePassword oldPin.pin [],
    .confirmPin 1 newPin.pin newPin.pin sampleSalt sampleIv
      [.proceeds, .proceeds, .proceeds, .proceeds, .proceeds, .killed 1]]

def legacyWallet : SeedWallet where
  store := { unencrypted := some sampleSeed }
  passwords := []

theorem legacy_seed_never_lost :
    ∃ finish, Runs.exec (SeedWallet.step pinProvider) legacyWallet
        migrationThenChange = some finish ∧
      finish.store.unencrypted = none ∧
      Recoverable pinProvider sampleSeed finish := by
  have ran : (Runs.exec (SeedWallet.step pinProvider) legacyWallet
      migrationThenChange).any
        (fun finish => finish.store.unencrypted = none) = true := by
    decide +kernel
  obtain ⟨finish, run, deleted⟩ := (Option.any_eq_true _ _).mp ran
  refine ⟨finish, run, of_decide_eq_true deleted, ?_⟩
  apply (seed_never_lost samplePins_tellsApart).1 sampleSeed legacyWallet
    migrationThenChange finish
  · refine ⟨.inl ⟨rfl, rfl⟩, ?_, ?_⟩
    · intro content member
      cases member
    · intro password member
      cases member
  · intro event member
    simp only [migrationThenChange, List.mem_cons, List.not_mem_nil,
      or_false] at member
    rcases member with rfl | rfl | rfl | rfl | rfl
    · trivial
    · exact .inl rfl
    · trivial
    · exact .inl rfl
    · exact .inr rfl
  · exact run

/-- Another seed in `seed.dat`, next to the encrypted one. -/
def besideReference : SeedWallet where
  store :=
    (writeSeedFile pinProvider sampleSalt sampleIv sampleSeed oldPin.pin
      { unencrypted := some [102, 102, 48, 48] } []).state
  passwords := [oldPin.pin]

theorem seed_beside_reference_lost :
    pinProvider.Sound ∧ TellsApart pinProvider samplePins ∧
      (∀ password ∈ besideReference.passwords, password ∈ samplePins) ∧
      Opens pinProvider sampleSeed oldPin.pin besideReference.store ∧
      besideReference.store.unencrypted = some [102, 102, 48, 48] ∧
      ∃ finish, Runs.exec (SeedWallet.step pinProvider) besideReference
          [.checkWalletDatadir []] = some finish ∧
        ¬Recoverable pinProvider [102, 102, 48, 48] finish := by
  have ran : (Runs.exec (SeedWallet.step pinProvider) besideReference
      [.checkWalletDatadir []]).any
        (fun finish => ¬Recoverable pinProvider [102, 102, 48, 48] finish) =
      true := by
    decide +kernel
  obtain ⟨finish, run, lost⟩ := (Option.any_eq_true _ _).mp ran
  refine ⟨pinProvider_sound, samplePins_tellsApart, ?_, ?_, ?_, finish, run,
    of_decide_eq_true lost⟩
  · intro password member
    exact .inl (List.mem_singleton.mp member)
  · decide +kernel
  · decide +kernel

end Result

end EclairWallet
