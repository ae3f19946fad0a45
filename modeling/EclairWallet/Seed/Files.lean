import EclairWallet.Crypto.Container
import EclairWallet.Library.Crash
import EclairWallet.Library.Runs

/-!
# The seed on disk

`WalletUtils.readSeedFile` and `writeSeedFile`, the migration of
`StartupActivity.checkWalletDatadir`, and the wallet as a process that performs
them, any step of which may fail or be its last.  A written file may be cut
anywhere; a move is atomic.
-/

namespace EclairWallet

open ByteString Crash

/-- `seed.dat`, `enc_seed.dat` and `enc_seed_temp.dat`. -/
inductive SeedFileName where
  | unencryptedSeedName
  | seedName
  | seedNameTemp
  deriving DecidableEq, Repr

/-- The data directory: whether it exists, and the seed files in it. -/
structure SeedStore where
  datadirExists : Bool := true
  unencrypted : Option Bytes := none
  encrypted : Option Bytes := none
  temp : Option Bytes := none
  deriving DecidableEq, Repr

namespace SeedStore

def file (store : SeedStore) : SeedFileName → Option Bytes
  | .unencryptedSeedName => store.unencrypted
  | .seedName => store.encrypted
  | .seedNameTemp => store.temp

/-- What a write of `bytes` to the temporary file leaves when it is cut: the
old file, or a prefix of the new one. -/
def cutTemp (bytes : Bytes) (extent : Nat) (store : SeedStore) : SeedStore :=
  match extent with
  | 0 => store
  | extent + 1 => { store with temp := some (bytes.take extent) }

def moveTemp (store : SeedStore) : SeedStore :=
  { store with encrypted := store.temp, temp := none }

end SeedStore

namespace WalletUtils

def readSeedFile (provider : SecurityProvider) (store : SeedStore)
    (seedFileName : SeedFileName) (password : String) :
    Except Throwable Bytes :=
  if store.datadirExists then
    match store.file seedFileName with
    | none =>
        .error (.runtime "seed file does not exist or can not be read")
    | some fileContent =>
        match EncryptedSeed.read fileContent with
        | .error thrown => .error thrown
        | .ok encryptedSeed =>
            encryptedSeed.decryptWithPassword provider password
  else .error (.runtime "datadir does not exist")

/-! ## The steps of `writeSeedFile` -/

abbrev SeedProgram := Program SeedStore Throwable

/-- `File.mkdir` throws nothing, and its result is not looked at. -/
def mkdir : SeedProgram Unit :=
  Program.tryCatch
    (.perform
      { whole := fun store => .ok ((), { store with datadirExists := true })
        failure := .io
        onFail := fun _ store => store
        onKill := fun extent store =>
          if extent = 0 then store
          else { store with datadirExists := true } })
    (fun _ => pure ())

def createDatadir : SeedProgram Unit :=
  .perform (.reading (fun store => .ok store.datadirExists) .security) >>=
    fun found => if found then pure () else mkdir

def encryptSeed (provider : SecurityProvider)
    (salt : RandomBytes EncryptedSeed.saltLength) (iv : RandomBytes 16)
    (seed : Bytes) (password : String) : SeedProgram EncryptedData :=
  .perform (.reading
    (fun _ => .ok (EncryptedSeed.encrypt provider salt iv seed password
      EncryptedSeed.seedFileVersion1))
    (.generalSecurity "encryption failed"))

def serializeSeed (encryptedSeed : EncryptedData) : SeedProgram Bytes :=
  .perform (.reading (fun _ => EncryptedSeed.write encryptedSeed) .io)

def writeTemp (bytes : Bytes) : SeedProgram Unit :=
  .perform
    { whole := fun store =>
        if store.datadirExists then
          .ok ((), { store with temp := some bytes })
        else .error .io
      failure := .io
      onFail := .cutTemp bytes
      onKill := .cutTemp bytes }

def readSeed (provider : SecurityProvider) (seedFileName : SeedFileName)
    (password : String) : SeedProgram Bytes :=
  .perform (.reading
    (fun store => readSeedFile provider store seedFileName password) .io)

/-- A process killed in the move has moved the file or not. -/
def move : SeedProgram Unit :=
  .perform
    { whole := fun store =>
        if store.temp.isSome then .ok ((), store.moveTemp) else .error .io
      failure := .io
      onFail := fun _ store => store
      onKill := fun extent store =>
        if extent = 0 ∨ store.temp = none then store else store.moveTemp }

/-- What the catch clauses of `writeSeedFile` throw instead. -/
def rethrown : Throwable → Throwable
  | .security => .runtime "could not create datadir"
  | .io => .runtime "could not write seed file"
  | _ => .runtime "could not create seed"

def writeSeedFile (provider : SecurityProvider)
    (salt : RandomBytes EncryptedSeed.saltLength) (iv : RandomBytes 16)
    (seed : Bytes) (password : String) : SeedProgram Unit :=
  Program.tryCatch
    (do
      createDatadir
      let encryptedSeed ← encryptSeed provider salt iv seed password
      let bytes ← serializeSeed encryptedSeed
      writeTemp bytes
      let checkSeed ← readSeed provider .seedNameTemp password
      if AesCbcWithIntegrity.constantTimeEq checkSeed seed then move
      else Program.throw (.generalSecurity ""))
    (fun thrown => Program.throw (rethrown thrown))

end WalletUtils

/-! ## The migration -/

open WalletUtils

/-- `Files.toByteArray` of `seed.dat`. -/
def readUnencrypted : SeedProgram (Option Bytes) :=
  Program.tryCatch
    (.perform (.reading
      (fun store => (store.unencrypted.map Except.ok).getD (.error .io))
      .io) >>= fun seed => pure (some seed))
    (fun _ => pure none)

/-- `File.delete` throws nothing. -/
def deleteUnencrypted : SeedProgram Unit :=
  Program.tryCatch
    (.perform
      { whole := fun store => .ok ((), { store with unencrypted := none })
        failure := .io
        onFail := fun _ store => store
        onKill := fun extent store =>
          if extent = 0 then store else { store with unencrypted := none } })
    (fun _ => pure ())

/-- Whether the node may be started, and the seed that `encryptWallet` is
called with. -/
def checkWalletDatadir : SeedProgram (Bool × Option Bytes) :=
  Program.decideOn (fun store =>
    if !store.datadirExists then pure (false, none)
    else if store.unencrypted.isSome && store.encrypted.isNone then do
      let unencryptedSeed ← readUnencrypted
      pure (false, unencryptedSeed)
    else if store.unencrypted.isSome && store.encrypted.isSome then do
      deleteUnencrypted
      pure (false, none)
    else if store.encrypted.isSome then pure (true, none)
    else pure (false, none))

/-! ## The process -/

/-- `offered` holds the seeds for which the dialogs of `encryptWallet` ask a
new password; a dialog may confirm more than once.  `passwords` is what the user has to try to open `enc_seed.dat`:
the password of the last write that returned, and those of writes that were
killed since. -/
structure SeedWallet where
  store : SeedStore
  offered : List Bytes := []
  passwords : List String

/-- `salt` and `iv` are the random bytes drawn. -/
inductive SeedEvent where
  | checkWalletDatadir (fates : List Fate)
  | changePassword (pinValue : String) (fates : List Fate)
  | confirmPin (offer : Nat) (newPinValue confirmPinValue : String)
      (salt : RandomBytes EncryptedSeed.saltLength) (iv : RandomBytes 16)
      (fates : List Fate)
  | kill

namespace SeedWallet

def pinLength : Nat := 6

/-- Nothing but the files survives the process. -/
def killed (wallet : SeedWallet) (store : SeedStore) : SeedWallet :=
  { wallet with store, offered := [] }

def offer (wallet : SeedWallet) (store : SeedStore) (seed : Option Bytes) :
    SeedWallet :=
  { wallet with store, offered := wallet.offered ++ seed.toList }

def check (wallet : SeedWallet) (fates : List Fate) : SeedWallet :=
  match checkWalletDatadir wallet.store fates with
  | ⟨.returned (_, seed), store, _⟩ => wallet.offer store seed
  | ⟨.thrown _, store, _⟩ => wallet.offer store none
  | ⟨.killed, store, _⟩ => wallet.killed store

/-- `SecuritySettingsActivity.changePassword`, once the old PIN is typed. -/
def changePassword (wallet : SeedWallet) (provider : SecurityProvider)
    (pinValue : String) (fates : List Fate) : SeedWallet :=
  match readSeed provider .seedName pinValue wallet.store fates with
  | ⟨.returned seed, store, _⟩ => wallet.offer store (some seed)
  | ⟨.thrown _, store, _⟩ => wallet.offer store none
  | ⟨.killed, store, _⟩ => wallet.killed store

/-- The second dialog of `encryptWallet` is confirmed. -/
def encryptWallet (wallet : SeedWallet) (provider : SecurityProvider)
    (salt : RandomBytes EncryptedSeed.saltLength) (iv : RandomBytes 16)
    (seed : Bytes) (newPinValue confirmPinValue : String)
    (fates : List Fate) : SeedWallet :=
  if newPinValue.length ≠ pinLength then wallet
  else if newPinValue ≠ confirmPinValue then wallet
  else
    match writeSeedFile provider salt iv seed confirmPinValue wallet.store
        fates with
    | ⟨.returned _, store, _⟩ =>
        { wallet with store, passwords := [confirmPinValue] }
    | ⟨.thrown _, store, _⟩ => wallet.offer store none
    | ⟨.killed, store, _⟩ =>
        { wallet.killed store with
          passwords := confirmPinValue :: wallet.passwords }

def step (provider : SecurityProvider) (wallet : SeedWallet) :
    SeedEvent → Option SeedWallet
  | .checkWalletDatadir fates => some (wallet.check fates)
  | .changePassword pinValue fates =>
      some (wallet.changePassword provider pinValue fates)
  | .confirmPin index newPinValue confirmPinValue salt iv fates =>
      (wallet.offered[index]?).map (fun seed =>
        wallet.encryptWallet provider salt iv seed newPinValue confirmPinValue
          fates)
  | .kill => some (wallet.killed wallet.store)

end SeedWallet

end EclairWallet
