import EclairWallet.Screens.HomeActivity

/-!
# What the handlers change of the balances

A handler either asks for a refresh of the balances, or leaves what they are
read from alone: the channels balance depends on the state and the balance of
the entities in the map, and the on-chain balance on the directions and the
amounts of the on-chain rows.
-/

namespace EclairWallet

open JavaLong

namespace NodeSupervisor

/-! ## The channels balance -/

/-- What an entity adds to the channels balance. -/
def contribution (c : LocalChannel) : Int :=
  if countsInBalance c.state then c.balanceMsat else 0

def contributionOf (c : Option LocalChannel) : Int :=
  (c.map contribution).getD 0

variable {data : ErrorData} {state : ChannelState} {ref : ActorRef}
  {now : Nat} {c written : LocalChannel} {message : ChannelMessage}

theorem contribution_congr (sameState : written.state = c.state)
    (sameBalance : written.balanceMsat = c.balanceMsat) :
    contribution written = contribution c := by
  rw [contribution, contribution, sameState, sameBalance]

theorem contribution_getChannel (state : ChannelState) (ref : ActorRef)
    (now : Nat) :
    contribution (getChannel state ref now) =
      contributionOf (state.channel? ref) := by
  cases found : state.channel? ref with
  | none => simp [getChannel, found, contributionOf, contribution,
      LocalChannel.new]
  | some c => simp [getChannel, found, contributionOf]

theorem getChannelsBalance_eq (state : ChannelState) :
    getChannelsBalance state =
      toLong (state.activeChannelsMap.entries.map
        (fun entry => contribution entry.2)).sum := by
  rw [getChannelsBalance, total_eq, sum_map_filter]
  rfl

theorem getChannelsBalance_split (state : ChannelState) (ref : ActorRef) :
    getChannelsBalance state =
      toLong (contributionOf (state.channel? ref) +
        getChannelsBalance
          { state with
            activeChannelsMap := state.activeChannelsMap.erase ref }) := by
  have erased : (state.activeChannelsMap.erase ref).entries =
      state.activeChannelsMap.entries.kerase ref := rfl
  by_cases known : ref ∈ state.activeChannelsMap.entries.keys
  · obtain ⟨c, before, after, _, entries, rest⟩ :=
      List.exists_of_kerase known
    have found : state.channel? ref = some c := by
      apply AList.mem_lookup_iff.mpr
      simp [entries]
    rw [getChannelsBalance_eq, getChannelsBalance_eq, erased, rest, entries,
      found, toLong_add_toLong]
    simp only [List.map_append, List.map_cons, List.sum_append,
      List.sum_cons, contributionOf, Option.map_some, Option.getD_some,
      Int.add_left_comm]
  · have unknown : state.channel? ref = none :=
      AList.lookup_eq_none.mpr known
    rw [getChannelsBalance_eq, getChannelsBalance_eq, erased,
      List.kerase_of_notMem_keys known, unknown, toLong_add_toLong]
    simp [contributionOf]

theorem getChannelsBalance_put_eq
    (same : contribution c = contributionOf (state.channel? ref)) :
    getChannelsBalance (state.put ref c) = getChannelsBalance state := by
  have erased : (state.put ref c).activeChannelsMap.erase ref =
      state.activeChannelsMap.erase ref := by
    apply AList.ext
    change List.kerase ref (state.put ref c).activeChannelsMap.entries =
      List.kerase ref state.activeChannelsMap.entries
    simp [ChannelState.put, AList.entries_insert]
  rw [getChannelsBalance_split (state.put ref c) ref,
    getChannelsBalance_split state ref, ChannelState.channel?_put_self,
    erased, ← same]
  rfl

theorem getChannelsBalance_change_eq
    (same : contribution c = contributionOf (state.channel? ref)) :
    getChannelsBalance (state.change ref c) = getChannelsBalance state := by
  rw [ChannelState.change]
  split
  · exact getChannelsBalance_put_eq same
  · rfl

theorem getChannelsBalance_save_eq (done next : List ChannelEffect)
    (same : contribution written = contributionOf (state.channel? ref)) :
    getChannelsBalance (save state ref written now done next).state =
      getChannelsBalance state := by
  obtain ⟨sameState, sameBalance, _⟩ :=
    saveLocalChannel_keeps state.channels written now
  exact getChannelsBalance_change_eq
    ((contribution_congr sameState sameBalance).trans same)

/-- Step lemma: a message leaves the channels balance alone, or its handler
asks for a refresh, or it is a change of state that the table refused. -/
theorem balance_told_or_kept (data : ErrorData) (state : ChannelState)
    (now : Nat) (message : ChannelMessage)
    (accepted : ∀ ref previousState currentState currentData,
      message =
        .channelStateChanged ref previousState currentState currentData →
      (onReceive data state now message).thrown = none) :
    .refreshBalance ∈ (onReceive data state now message).effects ∨
      getChannelsBalance (onReceive data state now message).state =
        getChannelsBalance state := by
  have unchanged : ∀ {ref : ActorRef} {c written : LocalChannel},
      state.channel? ref = some c → written.state = c.state →
      written.balanceMsat = c.balanceMsat →
      contribution written = contributionOf (state.channel? ref) := by
    intro ref c written found sameState sameBalance
    rw [found]
    exact contribution_congr sameState sameBalance
  cases message with
  | channelCreated ref temporaryChannelId remoteNodeId =>
      right
      apply getChannelsBalance_put_eq
      exact contribution_getChannel state ref now
  | channelRestored ref channelId remoteNodeId =>
      left
      simp [onReceive, onChannelRestored]
  | channelIdAssigned ref channelId =>
      right
      simp only [onReceive, onChannelIdAssigned]
      cases found : state.channel? ref with
      | none => rfl
      | some c =>
          exact getChannelsBalance_save_eq _ _ (unchanged found rfl rfl)
  | shortChannelIdAssigned ref shortChannelId =>
      right
      simp only [onReceive, onShortChannelIdAssigned]
      cases found : state.channel? ref with
      | none => rfl
      | some c =>
          exact getChannelsBalance_put_eq (unchanged found rfl rfl)
  | channelSignatureReceived ref commitments =>
      simp only [onReceive, onChannelSignatureReceived]
      cases state.channel? ref with
      | none => exact Or.inr rfl
      | some c => exact Or.inl (by simp)
  | terminated ref =>
      simp only [onReceive, onTerminated]
      split
      · exact Or.inr rfl
      · exact Or.inl (by simp)
  | channelFailed ref error =>
      right
      simp only [onReceive, onChannelFailed]
      split
      · apply getChannelsBalance_save_eq
        exact contribution_getChannel state ref now
      · rfl
  | localCommitConfirmed ref refundAtBlock =>
      right
      simp only [onReceive, onLocalCommitConfirmed]
      cases found : state.channel? ref with
      | none => rfl
      | some c =>
          exact getChannelsBalance_save_eq _ _ (unchanged found rfl rfl)
  | channelStateChanged ref previousState currentState currentData =>
      left
      have saved := accepted ref previousState currentState currentData rfl
      simp only [onReceive, onChannelStateChanged, save] at saved ⊢
      rw [if_pos saved]
      simp

end NodeSupervisor

/-! ## The on-chain balance -/

/-- The sums over the on-chain rows are the same. -/
def SameOnchain (before after : Table Payment) : Prop :=
  ∀ direction, DBHelper.rawQueryOnchain after direction =
    DBHelper.rawQueryOnchain before direction

namespace SameOnchain

variable {first second third payments : Table Payment}

theorem refl (payments : Table Payment) : SameOnchain payments payments :=
  fun _ => rfl

theorem trans (left : SameOnchain first second)
    (right : SameOnchain second third) : SameOnchain first third :=
  fun direction => (right direction).trans (left direction)

theorem getOnchainBalance (same : SameOnchain first second)
    (electrumState : Option ElectrumState) :
    App.getOnchainBalance electrumState second =
      App.getOnchainBalance electrumState first := by
  have sums : DBHelper.getOnchainBalanceMsat second =
      DBHelper.getOnchainBalanceMsat first := by
    simp only [DBHelper.getOnchainBalanceMsat, same .received, same .sent]
  simp only [App.getOnchainBalance, sums]

theorem insertOrReplace {p : Payment} (lightning : p.type = .btcLn)
    (spares : ∀ row ∈ payments.rows, row.type = .btcOnchain →
      row.id ≠ some (payments.assigned p)) :
    SameOnchain payments (payments.insertOrReplace p) := by
  intro direction
  have rows : (payments.insertOrReplace p).rows.filter
        (fun row => row.type = .btcOnchain ∧ row.direction = direction) =
      payments.rows.filter
        (fun row => row.type = .btcOnchain ∧ row.direction = direction) := by
    simp only [Table.insertOrReplace, List.filter_append, List.filter_filter,
      Payment.saved_eq, lightning, List.filter_cons, List.filter_nil]
    simp only [reduceCtorEq, false_and, decide_false, Bool.false_eq_true,
      if_false, List.append_nil]
    apply List.filter_congr
    intro row member
    by_cases counts : row.type = .btcOnchain ∧ row.direction = direction
    · have apart : ¬ payments.Conflicts p row := by
        rintro (primary | unique)
        · exact spares row member counts.1 primary
        · simp [lightning, counts.1] at unique
      simp [counts, apart]
    · simp [counts]
  simp only [DBHelper.rawQueryOnchain, rows]

theorem writeBack {reference : String} {p q : Payment}
    (found : DBHelper.getPayment payments reference .btcLn = some p)
    (sameId : q.id = p.id) (sameType : q.type = p.type) :
    SameOnchain payments (DBHelper.insertOrUpdatePayment payments q) := by
  obtain ⟨member, lightning, _⟩ := DBHelper.getPayment_eq_some_iff.mp found
  obtain ⟨id, primary⟩ := DBHelper.exists_id_of_getPayment found
  apply insertOrReplace (sameType.trans lightning)
  intro row rowMember onchain clash
  rw [payments.assigned_of_primary (sameId.trans primary)] at clash
  have equal : row = p :=
    Table.eq_of_primary rowMember member (clash.trans primary.symm)
  rw [equal, lightning] at onchain
  cases onchain

theorem insertNew {p : Payment} (lightning : p.type = .btcLn)
    (new : p.id = none) :
    SameOnchain payments (DBHelper.insertOrUpdatePayment payments p) := by
  apply insertOrReplace lightning
  intro row member _
  exact Table.primary_ne_assigned_of_new new member

end SameOnchain

namespace NodeSupervisor

theorem handleHtlc_sameOnchain (payments : Table Payment) (h : DirectedHtlc)
    (now : Nat) : SameOnchain payments (handleHtlc payments h now).1 := by
  rw [handleHtlc]
  cases found : DBHelper.getPayment payments h.paymentHash .btcLn with
  | none => exact .insertNew rfl rfl
  | some p =>
      dsimp only
      split
      · rw [DBHelper.updatePaymentPending]
        split
        · exact .writeBack found rfl rfl
        · exact .refl payments
      · exact .refl payments

theorem handleHtlcs_sameOnchain (payments : Table Payment) (now : Nat)
    (htlcs : List DirectedHtlc) :
    SameOnchain payments (handleHtlcs payments now htlcs).1 := by
  induction htlcs generalizing payments with
  | nil => exact .refl payments
  | cons h htlcs induction =>
      exact (handleHtlc_sameOnchain payments h now).trans (induction _)

theorem onChannelSignatureSent_sameOnchain (payments : Table Payment)
    (nextRemoteCommit : Option (List DirectedHtlc)) (now : Nat) :
    SameOnchain payments
      (onChannelSignatureSent payments nextRemoteCommit now).state := by
  cases nextRemoteCommit with
  | none => exact .refl payments
  | some htlcs => exact handleHtlcs_sameOnchain payments now htlcs

theorem onPaymentFailed_sameOnchain
    (transformForUser : List PaymentFailure → List PaymentFailure)
    (payments : Table Payment) (event : PaymentFailed) (now : Nat) :
    SameOnchain payments
      (onPaymentFailed transformForUser payments event now).state := by
  rw [onPaymentFailed]
  cases found : DBHelper.getPayment payments event.paymentHash .btcLn with
  | none => exact .refl payments
  | some p =>
      dsimp only
      split
      · exact .refl payments
      · split
        · exact .refl payments
        · simp only [DBHelper.updatePaymentFailed]
          split
          · exact .writeBack found rfl rfl
          · exact .refl payments

theorem onPaymentSucceeded_sameOnchain (payments : Table Payment)
    (event : PaymentSucceeded) (now : Nat) :
    SameOnchain payments (onPaymentSucceeded payments event now).state := by
  rw [onPaymentSucceeded]
  cases found : DBHelper.getPayment payments event.paymentHash .btcLn with
  | none => exact .refl payments
  | some p => exact .writeBack found rfl rfl

end NodeSupervisor

namespace ElectrumSupervisor

theorem onTransactionConfidenceChanged_sameOnchain
    {payments next : Table Payment}
    {event : TransactionConfidenceChanged} {effects : List ElectrumEffect}
    (handled : onTransactionConfidenceChanged payments event =
      some (next, effects)) : SameOnchain payments next := by
  simp only [onTransactionConfidenceChanged, Option.map_eq_some_iff] at handled
  obtain ⟨updated, result, pair⟩ := handled
  cases pair
  cases found : DBHelper.getPayment payments event.txid .btcOnchain with
  | none =>
      simp only [found, Option.some.injEq] at result
      subst result
      exact .refl payments
  | some p =>
      have member := (DBHelper.getPayment_eq_some_iff.mp found).1
      simp only [found, DBHelper.updatePayment, Table.update] at result
      split at result
      · cases result
      · split at result
        · cases result
          intro direction
          simp only [DBHelper.rawQueryOnchain, Table.updatedRows]
          congr 1
          rw [List.filter_map, List.map_map]
          -- the row that is replaced keeps its type, direction and amount
          have replaced : ∀ row ∈ payments.rows, row.id = p.id → row = p := by
            intro row rowMember same
            exact Table.eq_of_primary rowMember member same
          have kept : payments.rows.filter
              ((fun row : Payment => decide (row.type = .btcOnchain ∧
                row.direction = direction)) ∘ fun row =>
                  if Keyed.primary row = Keyed.primary
                      { p with confidenceBlocks := JavaLong.toInt event.depth }
                  then { p with confidenceBlocks := JavaLong.toInt event.depth }
                  else row) =
              payments.rows.filter (fun row => row.type = .btcOnchain ∧
                row.direction = direction) := by
            apply List.filter_congr
            intro row rowMember
            by_cases same : row.id = p.id
            · rw [replaced row rowMember same]
              simp
            · simp [same]
          rw [kept]
          apply List.map_congr_left
          intro row rowMember
          have stored := (List.mem_filter.mp rowMember).1
          by_cases same : row.id = p.id
          · rw [replaced row stored same]
            simp
          · simp [same]
        · cases result

end ElectrumSupervisor

end EclairWallet
