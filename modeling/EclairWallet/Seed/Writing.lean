import Mathlib.Data.Set.Basic
import EclairWallet.Seed.Files

/-!
# Writing the seed

Until the move, a write touches nothing but the temporary file; what is moved
was read back under the new password before.
-/

namespace EclairWallet

open ByteString Crash WalletUtils

variable {provider : SecurityProvider}

/-- The seed files other than the temporary one are as before. -/
structure Untouched (before after : SeedStore) : Prop where
  encrypted : after.encrypted = before.encrypted
  unencrypted : after.unencrypted = before.unencrypted
  datadir : before.datadirExists = true → after.datadirExists = true

/-- `enc_seed.dat` decrypts to the seed under the password. -/
def Opens (provider : SecurityProvider) (seed : Bytes) (password : String)
    (store : SeedStore) : Prop :=
  readSeedFile provider store .seedName password = .ok seed

/-! ## Reading -/

theorem readSeedFile_congr {store other : SeedStore}
    {name otherName : SeedFileName} {password : String}
    (datadir : other.datadirExists = store.datadirExists)
    (file : other.file otherName = store.file name) :
    readSeedFile provider other otherName password =
      readSeedFile provider store name password := by
  rw [readSeedFile, readSeedFile, datadir, file]

/-- A file that could be read is there, holds a salted container, and the mac
of the container is right under the password. -/
theorem readSeedFile_eq_ok {store : SeedStore} {name : SeedFileName}
    {password : String} {seed : Bytes}
    (reads : readSeedFile provider store name password = .ok seed) :
    store.datadirExists = true ∧ ∃ content encryptedSeed salt,
      store.file name = some content ∧
      EncryptedSeed.read content = .ok encryptedSeed ∧
      encryptedSeed.salt = some salt ∧
      AesCbcWithIntegrity.decrypt provider encryptedSeed.civ
        (AesCbcWithIntegrity.generateKeyFromPassword provider password salt) =
          .ok seed := by
  unfold readSeedFile at reads
  split at reads
  next datadir =>
    refine ⟨datadir, ?_⟩
    split at reads
    · cases reads
    next content found =>
      split at reads
      · cases reads
      next encryptedSeed isRead =>
        unfold EncryptedData.decryptWithPassword at reads
        split at reads
        · cases reads
        next salt salted =>
          exact ⟨content, encryptedSeed, salt, found, isRead, salted, reads⟩
  · cases reads

/-- No container has the same mac under two of the passwords. -/
def TellsApart (provider : SecurityProvider) (passwords : Set String) : Prop :=
  ∀ message salt, Set.InjOn
    (fun password => AesCbcWithIntegrity.generateMac provider message
      (AesCbcWithIntegrity.generateKeyFromPassword provider password
        salt).integrityKey)
    passwords

theorem TellsApart.password_eq {passwords : Set String}
    (tells : TellsApart provider passwords) {store : SeedStore}
    {name : SeedFileName} {first second : String} {seed other : Bytes}
    (firstMember : first ∈ passwords) (secondMember : second ∈ passwords)
    (firstReads : readSeedFile provider store name first = .ok seed)
    (secondReads : readSeedFile provider store name second = .ok other) :
    first = second := by
  obtain ⟨_, content, encryptedSeed, salt, found, isRead, salted, opened⟩ :=
    readSeedFile_eq_ok firstReads
  obtain ⟨_, content', encryptedSeed', salt', found', isRead', salted',
    opened'⟩ := readSeedFile_eq_ok secondReads
  have sameContent : content' = content := by
    rw [found] at found'
    exact (Option.some.inj found').symm
  subst content'
  have sameSeed : encryptedSeed' = encryptedSeed := by
    rw [isRead] at isRead'
    exact (Except.ok.inj isRead').symm
  subst encryptedSeed'
  have sameSalt : salt' = salt := by
    rw [salted] at salted'
    exact (Option.some.inj salted').symm
  subst salt'
  have authentic := (AesCbcWithIntegrity.decrypt_eq_ok_iff.mp opened).1
  have authentic' := (AesCbcWithIntegrity.decrypt_eq_ok_iff.mp opened').1
  apply tells _ salt firstMember secondMember
  exact authentic.trans authentic'.symm

/-! ## Writing -/

section Write

variable {before : SeedStore} {seed : Bytes} {password : String}
  {salt : RandomBytes EncryptedSeed.saltLength} {iv : RandomBytes 16}

/-- The states in which a write can be killed. -/
def MovedOrUntouched (provider : SecurityProvider) (before : SeedStore)
    (seed : Bytes) (password : String) (after : SeedStore) : Prop :=
  Untouched before after ∨
    Opens provider seed password after ∧
      after.unencrypted = before.unencrypted

theorem Untouched.refl (store : SeedStore) : Untouched store store :=
  ⟨rfl, rfl, id⟩

theorem Untouched.withTemp {store : SeedStore}
    (untouched : Untouched before store) (temp : Option Bytes) :
    Untouched before { store with temp } :=
  ⟨untouched.encrypted, untouched.unencrypted, untouched.datadir⟩

theorem Untouched.cutTemp {store : SeedStore}
    (untouched : Untouched before store) (bytes : Bytes) (extent : Nat) :
    Untouched before (store.cutTemp bytes extent) := by
  cases extent with
  | zero => exact untouched
  | succ extent => exact untouched.withTemp _

theorem Untouched.withDatadir {store : SeedStore}
    (untouched : Untouched before store) :
    Untouched before { store with datadirExists := true } :=
  ⟨untouched.encrypted, untouched.unencrypted, fun _ => rfl⟩

theorem mkdir_triple :
    Triple (Untouched before) mkdir (fun _ => Untouched before)
      (Untouched before)
      (MovedOrUntouched provider before seed password) := by
  apply triple_tryCatch
  · apply triple_perform
    · intro store value after untouched result
      cases result
      exact untouched.withDatadir
    · intro store untouched
      exact untouched
    · intro store _ untouched
      exact untouched
    · intro store extent untouched
      left
      dsimp only
      split
      · exact untouched
      · exact untouched.withDatadir
  · intro thrown
    apply triple_ret
    intro store untouched
    exact untouched

theorem reading_triple {Value : Type}
    {read : SeedStore → Except Throwable Value} {failure : Throwable} :
    Triple (Untouched before) (Program.perform (.reading read failure))
      (fun value store => Untouched before store ∧ read store = .ok value)
      (Untouched before)
      (MovedOrUntouched provider before seed password) := by
  apply triple_reading
  · intro store value untouched reads
    exact ⟨untouched, reads⟩
  · intro store untouched
    exact untouched
  · intro store untouched
    exact .inl untouched

theorem createDatadir_triple :
    Triple (Untouched before) createDatadir (fun _ => Untouched before)
      (Untouched before)
      (MovedOrUntouched provider before seed password) := by
  apply triple_bind reading_triple
  intro found
  apply Triple.of_stronger _ (fun _ both => both.1)
  split
  · apply triple_ret
    intro store untouched
    exact untouched
  · exact mkdir_triple

theorem writeTemp_triple (bytes : Bytes) :
    Triple (Untouched before) (writeTemp bytes) (fun _ => Untouched before)
      (Untouched before)
      (MovedOrUntouched provider before seed password) := by
  apply triple_perform
  · intro store value after untouched result
    dsimp only at result
    split at result
    · cases result
      exact untouched.withTemp _
    · cases result
  · intro store untouched
    exact untouched
  · intro store extent untouched
    exact untouched.cutTemp bytes extent
  · intro store extent untouched
    exact .inl (untouched.cutTemp bytes extent)

theorem opens_moveTemp {store : SeedStore}
    (reads : readSeedFile provider store .seedNameTemp password = .ok seed) :
    Opens provider seed password store.moveTemp := by
  have same : readSeedFile provider store.moveTemp .seedName password =
      readSeedFile provider store .seedNameTemp password := by
    apply readSeedFile_congr
    · rfl
    · rfl
  exact same.trans reads

theorem move_triple :
    Triple
      (fun store => Untouched before store ∧
        readSeedFile provider store .seedNameTemp password = .ok seed)
      move
      (fun _ store => Opens provider seed password store ∧
        store.unencrypted = before.unencrypted)
      (Untouched before)
      (MovedOrUntouched provider before seed password) := by
  apply triple_perform
  · intro store value after checked result
    dsimp only at result
    split at result
    · cases result
      exact ⟨opens_moveTemp checked.2, checked.1.unencrypted⟩
    · cases result
  · intro store checked
    exact checked.1
  · intro store _ checked
    exact checked.1
  · intro store extent checked
    dsimp only
    split
    · exact .inl checked.1
    · exact .inr ⟨opens_moveTemp checked.2, checked.1.unencrypted⟩

/-- A write that returns has stored the seed; one that throws has touched
nothing; one that is killed has done either. -/
theorem writeSeedFile_triple :
    Triple (Untouched before) (writeSeedFile provider salt iv seed password)
      (fun _ store => Opens provider seed password store ∧
        store.unencrypted = before.unencrypted)
      (Untouched before)
      (MovedOrUntouched provider before seed password) := by
  apply triple_tryCatch
  · apply triple_bind createDatadir_triple
    intro _
    apply triple_bind reading_triple
    intro encryptedSeed
    apply Triple.of_stronger _ (fun _ encrypted => encrypted.1)
    apply triple_bind reading_triple
    intro bytes
    apply Triple.of_stronger _ (fun _ serialized => serialized.1)
    apply triple_bind (writeTemp_triple bytes)
    intro _
    apply triple_bind reading_triple
    intro checkSeed
    split
    next same =>
      rw [AesCbcWithIntegrity.constantTimeEq_iff] at same
      rw [same]
      exact move_triple
    · apply triple_throw
      intro store checked
      exact checked.1
  · intro thrown
    apply triple_throw
    intro store untouched
    exact untouched

theorem writeSeedFile_returns (sound : provider.Sound)
    (keySize : (AesCbcWithIntegrity.generateKeyFromPassword provider password
      salt.val).confidentialityKey.length = 16) (store : SeedStore) :
    ∃ bytes, writeSeedFile provider salt iv seed password store [] =
      ⟨.returned (),
        { store with
          datadirExists := true, encrypted := some bytes, temp := none },
        []⟩ := by
  let encryptedSeed := EncryptedSeed.encrypt provider salt iv seed password
    EncryptedSeed.seedFileVersion1
  let bytes := Layout.serialize encryptedSeed
  let opened := { store with datadirExists := true }
  let written := { opened with temp := some bytes }
  have fits : EncryptedSeed.layout.Fits encryptedSeed := by
    apply EncryptedSeed.fits_encrypt sound
    decide
  have created : createDatadir store [] = ⟨.returned (), opened, []⟩ := by
    obtain ⟨datadir, _, _, _⟩ := store
    cases datadir with
    | false => rfl
    | true => rfl
  have encrypts : encryptSeed provider salt iv seed password opened [] =
      ⟨.returned encryptedSeed, opened, []⟩ := by
    apply reading_undisturbed
    rfl
  have serializes : serializeSeed encryptedSeed opened [] =
      ⟨.returned bytes, opened, []⟩ := by
    apply reading_undisturbed
    exact Layout.write_of_fits fits
  have writes : writeTemp bytes opened [] = ⟨.returned (), written, []⟩ :=
    perform_undisturbed rfl
  have checks : readSeed provider .seedNameTemp password written [] =
      ⟨.returned seed, written, []⟩ := by
    apply reading_undisturbed
    have isRead : EncryptedSeed.read bytes = .ok encryptedSeed :=
      Layout.read_serialize fits
    have opens : encryptedSeed.decryptWithPassword provider password =
        .ok seed :=
      AesCbcWithIntegrity.decrypt_encrypt sound keySize iv seed
    simp [readSeedFile, written, opened, SeedStore.file, isRead, opens]
  have moves : move written [] = ⟨.returned (), written.moveTemp, []⟩ :=
    perform_undisturbed rfl
  refine ⟨bytes, ?_⟩
  apply tryCatch_of_returned
  rw [bind_of_returned created, bind_of_returned encrypts,
    bind_of_returned serializes, bind_of_returned writes,
    bind_of_returned checks,
    if_pos (AesCbcWithIntegrity.constantTimeEq_iff.mpr rfl)]
  exact moves

end Write

end EclairWallet
