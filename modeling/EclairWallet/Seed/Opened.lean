import EclairWallet.Seed.NeverLost

/-!
# A seed file that opens

What can be read with a password stays readable with it until a new password
is written, and nothing is offered to be written unless it was read.
-/

namespace EclairWallet

open ByteString Crash WalletUtils

variable {provider : SecurityProvider} {seed : Bytes} {password : String}

theorem Opens.of_untouched {before after : SeedStore}
    (opens : Opens provider seed password before)
    (untouched : Untouched before after) :
    Opens provider seed password after := by
  have datadir := (readSeedFile_eq_ok opens).1
  refine Eq.trans ?_ opens
  apply readSeedFile_congr
  · rw [datadir, untouched.datadir datadir]
  · exact untouched.encrypted

theorem Opens.withoutUnencrypted {store : SeedStore}
    (opens : Opens provider seed password store) :
    Opens provider seed password { store with unencrypted := none } := by
  refine Eq.trans ?_ opens
  apply readSeedFile_congr
  · rfl
  · rfl

theorem deleteUnencrypted_opens :
    Triple (Opens provider seed password) deleteUnencrypted
      (fun _ => Opens provider seed password)
      (Opens provider seed password) (Opens provider seed password) := by
  apply triple_tryCatch
  · apply triple_perform
    · intro store value after opens result
      cases result
      exact opens.withoutUnencrypted
    · intro store opens
      exact opens
    · intro store _ opens
      exact opens
    · intro store extent opens
      dsimp only
      split
      · exact opens
      · exact opens.withoutUnencrypted
  · intro thrown
    apply triple_ret
    intro store opens
    exact opens

theorem checkWalletDatadir_opens :
    Triple (Opens provider seed password) checkWalletDatadir
      (fun result store => Opens provider seed password store ∧
        result.2 = none)
      (Opens provider seed password) (Opens provider seed password) := by
  have nothing : ∀ (state : SeedStore) (ready : Bool),
      Triple
        (fun found => found = state ∧ Opens provider seed password found)
        (pure (ready, none) : SeedProgram (Bool × Option Bytes))
        (fun result store => Opens provider seed password store ∧
          result.2 = none)
        (Opens provider seed password) (Opens provider seed password) := by
    intro state ready
    apply triple_ret
    intro found isState
    exact ⟨isState.2, rfl⟩
  apply triple_decideOn
  intro store opens
  have present := opens.encrypted_isSome
  split
  · exact nothing store false
  · split
    next legacy =>
      rw [Bool.and_eq_true, Option.isNone_iff_eq_none] at legacy
      rw [legacy.2] at present
      cases present
    · split
      · apply triple_bind
          (deleteUnencrypted_opens.of_stronger (fun _ given => given.2))
        intro _
        apply triple_ret
        intro found opened
        exact ⟨opened, rfl⟩
      · exact nothing store true

namespace SeedWallet

variable {wallet : SeedWallet}

theorem offered_offer_none (wallet : SeedWallet) (store : SeedStore) :
    (wallet.offer store none).offered = wallet.offered := by
  simp [offer]

theorem check_opens (opens : Opens provider seed password wallet.store)
    (fates : List Fate) :
    Opens provider seed password (wallet.check fates).store ∧
      ∀ content ∈ (wallet.check fates).offered, content ∈ wallet.offered := by
  have ends := checkWalletDatadir_opens wallet.store fates opens
  unfold SeedWallet.check
  rcases ends.cases with ⟨⟨ready, read⟩, store, rest, result, holds⟩ |
    ⟨error, store, rest, result, holds⟩ | ⟨store, rest, result, holds⟩
  · have isNone : read = none := holds.2
    rw [result, isNone]
    refine ⟨holds.1, ?_⟩
    intro content member
    rwa [offered_offer_none] at member
  · rw [result]
    refine ⟨holds, ?_⟩
    intro content member
    rwa [offered_offer_none] at member
  · rw [result]
    refine ⟨holds, ?_⟩
    intro content member
    cases member

theorem changePassword_untouched (provider : SecurityProvider)
    (wallet : SeedWallet) (pinValue : String) (fates : List Fate) :
    Untouched wallet.store
      (wallet.changePassword provider pinValue fates).store := by
  have reads : Triple (Untouched wallet.store)
      (readSeed provider .seedName pinValue)
      (fun _ store => Untouched wallet.store store)
      (Untouched wallet.store) (Untouched wallet.store) := by
    apply triple_reading
    · intro store content untouched _
      exact untouched
    · intro store untouched
      exact untouched
    · intro store untouched
      exact untouched
  have ends := reads wallet.store fates (.refl wallet.store)
  unfold SeedWallet.changePassword
  rcases ends.cases with ⟨content, store, rest, result, untouched⟩ |
    ⟨error, store, rest, result, untouched⟩ | ⟨store, rest, result, untouched⟩
  · rw [result]
    exact untouched
  · rw [result]
    exact untouched
  · rw [result]
    exact untouched

theorem changePassword_offered {pinValue : String}
    (refused : ∀ content, readSeedFile provider wallet.store .seedName
      pinValue ≠ .ok content) (fates : List Fate) :
    ∀ content ∈ (wallet.changePassword provider pinValue fates).offered,
      content ∈ wallet.offered := by
  have reads : Triple (fun store => store = wallet.store)
      (readSeed provider .seedName pinValue)
      (fun _ _ => False) (fun _ => True) (fun _ => True) := by
    apply triple_reading
    · intro store content same isRead
      subst same
      exact refused content isRead
    · intro store _
      trivial
    · intro store _
      trivial
  have ends := reads wallet.store fates rfl
  unfold SeedWallet.changePassword
  rcases ends.cases with ⟨content, store, rest, result, impossible⟩ |
    ⟨error, store, rest, result, _⟩ | ⟨store, rest, result, _⟩
  · exact impossible.elim
  · rw [result]
    intro content member
    rwa [offered_offer_none] at member
  · rw [result]
    intro content member
    cases member

/-- A write that returns leaves a file that opens with the new password, and
one that throws leaves the old file. -/
theorem encryptWallet_store (provider : SecurityProvider)
    (wallet : SeedWallet) {newPinValue confirmPinValue : String}
    (long : newPinValue.length = pinLength)
    (same : newPinValue = confirmPinValue)
    (salt : RandomBytes EncryptedSeed.saltLength) (iv : RandomBytes 16)
    (seed : Bytes) (fates : List Fate) :
    match (writeSeedFile provider salt iv seed confirmPinValue wallet.store
        fates).outcome with
    | .returned _ => Opens provider seed confirmPinValue
        (wallet.encryptWallet provider salt iv seed newPinValue
          confirmPinValue fates).store
    | .thrown _ => Untouched wallet.store
        (wallet.encryptWallet provider salt iv seed newPinValue
          confirmPinValue fates).store
    | .killed => True := by
  have writes : Triple (Untouched wallet.store)
      (writeSeedFile provider salt iv seed confirmPinValue)
      (fun _ store => Opens provider seed confirmPinValue store ∧
        store.unencrypted = wallet.store.unencrypted)
      (Untouched wallet.store)
      (MovedOrUntouched provider wallet.store seed confirmPinValue) :=
    writeSeedFile_triple
  have ends := writes wallet.store fates (.refl wallet.store)
  rw [SeedWallet.encryptWallet, if_neg (not_not.mpr long),
    if_neg (not_not.mpr same)]
  rcases ends.cases with ⟨_, store, rest, result, holds⟩ |
    ⟨error, store, rest, result, untouched⟩ | ⟨store, rest, result, _⟩
  · rw [result]
    exact holds.1
  · rw [result]
    exact untouched
  · rw [result]
    trivial

end SeedWallet

end EclairWallet
