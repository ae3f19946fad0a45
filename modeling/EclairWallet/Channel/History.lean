import EclairWallet.Channel.Writes

/-!
# Channel history across restarts

After a restart the entity of a channel is built anew: its created date is
the time of the restart, its closing error is null, and only the refund height
is copied from the row.  The next write replaces the row as a whole.
-/

namespace EclairWallet

namespace ChannelState

/-- The entity in memory of this channel carries the channel id. -/
def Carries (state : ChannelState) (ref : ActorRef) (channelId : String) :
    Prop :=
  ∃ c, state.channel? ref = some c ∧ c.channelId = some channelId

end ChannelState

namespace ChannelMessage

/-- `ChannelFailed` for the channel with this id. -/
def FailsChannel (state : ChannelState) (channelId : String)
    (message : ChannelMessage) : Prop :=
  message.isChannelFailed = true ∧ state.Carries message.channel channelId

/-- `LocalCommitConfirmed` for the channel with this id. -/
def ConfirmsCommit (state : ChannelState) (channelId : String)
    (message : ChannelMessage) : Prop :=
  message.isLocalCommitConfirmed = true ∧
    state.Carries message.channel channelId

/-- The message keeps the created date, the closing error and the refund
height of the row, but for the one column it is there to set. -/
def KeepsHistory (channelId : String) (message : ChannelMessage)
    (before after : ChannelState) : Prop :=
  ∀ row, DBHelper.getLocalChannel before.channels channelId = some row →
    ∃ kept, DBHelper.getLocalChannel after.channels channelId = some kept ∧
      kept.created = row.created ∧
      (message.FailsChannel before channelId ∨
        kept.closingErrorMessage = row.closingErrorMessage) ∧
      (message.ConfirmsCommit before channelId ∨
        kept.refundAtBlock = row.refundAtBlock)

/-- The entity that will be written in the row's place agrees with the row:
it has the same channel id and the same history. -/
def EntityAgrees (data : ErrorData) (channelId : String)
    (state : ChannelState) (received : ChannelMessage × Nat) : Prop :=
  ∀ row c, DBHelper.getLocalChannel state.channels channelId = some row →
    received.1.written data state received.2 = some c →
    c.channelId ≠ none →
    state.channels.Conflicts c.toLocalChannelRow row →
      c.channelId = some channelId ∧ c.created = row.created ∧
      (received.1.FailsChannel state channelId ∨
        c.closingErrorMessage = row.closingErrorMessage) ∧
      (received.1.ConfirmsCommit state channelId ∨
        c.refundAtBlock = row.refundAtBlock)

/-- Nothing is saved for the restored channel, which stays in the map, and no
row is written in the place of its row. -/
structure Waits (data : ErrorData) (channelId : String) (ref : ActorRef)
    (state : ChannelState) (received : ChannelMessage × Nat) : Prop where
  own : received.1.channel = ref → received.1.saves data = false ∧
    received.1.introduces = false ∧
    received.1 ≠ .terminated received.1.channel
  apart : ∀ row c, DBHelper.getLocalChannel state.channels channelId =
      some row →
    received.1.written data state received.2 = some c → c.channelId ≠ none →
    ¬ state.channels.Conflicts c.toLocalChannelRow row

end ChannelMessage

namespace DBHelper

theorem getLocalChannel_insert_of_apart {channels : Table LocalChannelRow}
    {channelId : String} {row written : LocalChannelRow}
    (found : getLocalChannel channels channelId = some row)
    (apart : ¬ channels.Conflicts written row) :
    getLocalChannel (channels.insertOrReplace written) channelId =
      some row := by
  obtain ⟨member, named⟩ := getLocalChannel_eq_some_iff.mp found
  apply getLocalChannel_eq_some_iff.mpr
  exact ⟨Table.mem_insertOrReplace_iff.mpr (Or.inr ⟨member, apart⟩), named⟩

theorem getLocalChannel_insert_of_conflict {channels : Table LocalChannelRow}
    {channelId : String} {row written : LocalChannelRow}
    (found : getLocalChannel channels channelId = some row)
    (conflicts : channels.Conflicts written row)
    (otherName : written.channelId ≠ some channelId) :
    getLocalChannel (channels.insertOrReplace written) channelId = none := by
  obtain ⟨member, named⟩ := getLocalChannel_eq_some_iff.mp found
  apply getLocalChannel_eq_none_iff.mpr
  intro other stays sameName
  rcases Table.mem_insertOrReplace_iff.mp stays with new | ⟨old, apart⟩
  · subst other
    rw [LocalChannelRow.saved_eq] at sameName
    exact otherName sameName
  · have same : other = row := by
      apply Table.eq_of_unique old member
      simp [sameName, named]
    subst other
    exact apart conflicts

end DBHelper

namespace ChannelState

open ChannelMessage

variable {data : ErrorData} {state : ChannelState} {message : ChannelMessage}
  {now : Nat} {channelId : String}

/-- The history of the written row is the entity's, but for the column the
message sets. -/
theorem history_of_keptColumns {c : LocalChannel} {written : LocalChannelRow}
    (kept : KeptColumns message c written)
    (writes : message.written data state now = some c)
    (named : c.channelId = some channelId) :
    (message.FailsChannel state channelId ∨
        written.closingErrorMessage = c.closingErrorMessage) ∧
      (message.ConfirmsCommit state channelId ∨
        written.refundAtBlock = c.refundAtBlock) := by
  cases message with
  | channelFailed ref error =>
      refine ⟨Or.inl ⟨rfl, ?_⟩, Or.inr (kept.refundAtBlock rfl)⟩
      simp only [ChannelMessage.written, Option.ite_none_right_eq_some,
        Option.some.injEq] at writes
      obtain ⟨_, rfl⟩ := writes
      cases found : state.channel? ref with
      | none => simp [NodeSupervisor.getChannel, found, LocalChannel.new] at named
      | some c =>
          refine ⟨c, found, ?_⟩
          simpa [NodeSupervisor.getChannel, found] using named
  | localCommitConfirmed ref refundAtBlock =>
      refine ⟨Or.inr (kept.closingErrorMessage rfl), Or.inl ⟨rfl, ?_⟩⟩
      exact ⟨c, writes, named⟩
  | _ =>
      exact ⟨Or.inr (kept.closingErrorMessage rfl),
        Or.inr (kept.refundAtBlock rfl)⟩

theorem conflicts_iff_of_keptColumns {c : LocalChannel}
    {written : LocalChannelRow} (kept : KeptColumns message c written)
    (row : LocalChannelRow) :
    state.channels.Conflicts written row ↔
      state.channels.Conflicts c.toLocalChannelRow row := by
  simp [Table.Conflicts, Table.assigned, kept.id, kept.channelId]

theorem exists_row_of_apart {row : LocalChannelRow}
    (found : DBHelper.getLocalChannel state.channels channelId = some row)
    (apart : ∀ c, message.written data state now = some c →
      c.channelId ≠ none →
        ¬ state.channels.Conflicts c.toLocalChannelRow row) :
    ∃ kept, DBHelper.getLocalChannel
        (NodeSupervisor.onReceive data state now message).state.channels
        channelId = some kept ∧
      kept.created = row.created ∧
      kept.closingErrorMessage = row.closingErrorMessage ∧
      kept.refundAtBlock = row.refundAtBlock := by
  cases writes : message.written data state now with
  | none =>
      rcases NodeSupervisor.channels_of_not_written writes with
        same | ⟨before, other, marked, _, _, _, otherFound, replaced⟩
      · exact ⟨row, by rw [same]; exact found, rfl, rfl, rfl⟩
      · by_cases sameId : channelId = other
        · subst other
          have sameRow : marked = row := by
            simpa [found] using otherFound.symm
          subst marked
          refine ⟨{ row with isActive := false, updated := some now }, ?_,
            rfl, rfl, rfl⟩
          rw [replaced]
          exact DBHelper.getLocalChannel_writeBack found rfl rfl
        · refine ⟨row, ?_, rfl, rfl, rfl⟩
          rw [replaced, DBHelper.getLocalChannel_writeBack_of_ne otherFound]
          · exact found
          · rfl
          · rfl
          · exact sameId
  | some c =>
      refine ⟨row, ?_, rfl, rfl, rfl⟩
      cases named : c.channelId with
      | none =>
          rw [NodeSupervisor.channels_of_unnamed writes named]
          exact found
      | some stored =>
          obtain ⟨written, replaced, kept⟩ :=
            NodeSupervisor.channels_of_written writes named
          rw [replaced]
          apply DBHelper.getLocalChannel_insert_of_apart found
          rw [conflicts_iff_of_keptColumns kept]
          exact apart c writes (by simp [named])

theorem keepsHistory_of_apart
    (apart : ∀ row c, DBHelper.getLocalChannel state.channels channelId =
        some row →
      message.written data state now = some c → c.channelId ≠ none →
        ¬ state.channels.Conflicts c.toLocalChannelRow row) :
    KeepsHistory channelId message state
      (NodeSupervisor.onReceive data state now message).state := by
  intro row found
  obtain ⟨kept, stays, created, closing, refund⟩ :=
    exists_row_of_apart found (fun c => apart row c found)
  exact ⟨kept, stays, created, Or.inr closing, Or.inr refund⟩

theorem keepsHistory_of_entityAgrees {c : LocalChannel} {stored : String}
    (writes : message.written data state now = some c)
    (named : c.channelId = some stored)
    (agrees : EntityAgrees data channelId state (message, now)) :
    KeepsHistory channelId message state
      (NodeSupervisor.onReceive data state now message).state := by
  obtain ⟨written, replaced, kept⟩ :=
    NodeSupervisor.channels_of_written writes named
  intro row found
  by_cases conflicts : state.channels.Conflicts written row
  · obtain ⟨sameName, created, closing, refund⟩ := agrees row c found writes
      (by simp [named]) ((conflicts_iff_of_keptColumns kept row).mp conflicts)
    have history := history_of_keptColumns kept writes sameName
    refine ⟨{ written with id := some (state.channels.assigned written) }, ?_,
      ?_, ?_, ?_⟩
    · rw [replaced]
      exact DBHelper.getLocalChannel_insert_self
        (kept.channelId.trans sameName)
    · exact kept.created.trans created
    · rcases history.1 with fails | same
      · exact Or.inl fails
      · exact closing.imp_right (same.trans ·)
    · rcases history.2 with confirms | same
      · exact Or.inl confirms
      · exact refund.imp_right (same.trans ·)
  · refine ⟨row, ?_, rfl, Or.inr rfl, Or.inr rfl⟩
    rw [replaced]
    exact DBHelper.getLocalChannel_insert_of_apart found conflicts

theorem entityAgrees_of_keepsHistory {c : LocalChannel} {stored : String}
    (writes : message.written data state now = some c)
    (named : c.channelId = some stored)
    (keeps : KeepsHistory channelId message state
      (NodeSupervisor.onReceive data state now message).state) :
    EntityAgrees data channelId state (message, now) := by
  obtain ⟨written, replaced, kept⟩ :=
    NodeSupervisor.channels_of_written writes named
  intro row other found sameWrites _ conflicts
  have same : c = other := by simpa [writes] using sameWrites
  subst other
  obtain ⟨after, afterFound, created, closing, refund⟩ := keeps row found
  rw [replaced] at afterFound
  have sameName : c.channelId = some channelId := by
    by_contra otherName
    have gone := DBHelper.getLocalChannel_insert_of_conflict found
      ((conflicts_iff_of_keptColumns kept row).mpr conflicts)
      (by rw [kept.channelId]; exact otherName)
    simp [gone] at afterFound
  rw [DBHelper.getLocalChannel_insert_self (kept.channelId.trans sameName)]
    at afterFound
  simp only [Option.some.injEq] at afterFound
  subst after
  have history := history_of_keptColumns kept writes sameName
  refine ⟨sameName, kept.created.symm.trans created, ?_, ?_⟩
  · rcases history.1 with fails | same
    · exact Or.inl fails
    · exact closing.imp_right (same.symm.trans ·)
  · rcases history.2 with confirms | same
    · exact Or.inl confirms
    · exact refund.imp_right (same.symm.trans ·)

/-- Step lemma: exactly the messages that write an entity agreeing with the
row keep its history. -/
theorem entityAgrees_iff_keepsHistory :
    EntityAgrees data channelId state (message, now) ↔
      KeepsHistory channelId message state
        (NodeSupervisor.onReceive data state now message).state := by
  cases writes : message.written data state now with
  | none =>
      refine iff_of_true ?_ (keepsHistory_of_apart ?_)
      · intro row c _ impossible
        simp [writes] at impossible
      · intro row c _ impossible
        simp [writes] at impossible
  | some c =>
      cases named : c.channelId with
      | none =>
          have absent : ∀ other, message.written data state now = some other →
              other.channelId = none := by
            intro other sameWrites
            have same : c = other := by simpa [writes] using sameWrites
            subst other
            exact named
          refine iff_of_true ?_ (keepsHistory_of_apart ?_)
          · intro row other _ sameWrites present
            exact (present (absent other sameWrites)).elim
          · intro row other _ sameWrites present
            exact (present (absent other sameWrites)).elim
      | some stored =>
          constructor
          · exact keepsHistory_of_entityAgrees writes named
          · exact entityAgrees_of_keepsHistory writes named

/-- The entity in memory is as the restart left it, and so is the history of
the row. -/
structure Unsaved (channelId : String) (ref : ActorRef) (restart : Nat)
    (row : LocalChannelRow) (state : ChannelState) : Prop where
  entity : ∃ c, state.channel? ref = some c ∧ c.channelId = some channelId ∧
    c.created = restart ∧ c.closingErrorMessage = none ∧
    c.refundAtBlock = row.refundAtBlock
  row : ∃ kept, DBHelper.getLocalChannel state.channels channelId =
      some kept ∧ kept.created = row.created ∧
    kept.closingErrorMessage = row.closingErrorMessage ∧
    kept.refundAtBlock = row.refundAtBlock

section Restart

variable {ref : ActorRef} {restart : Nat} {row : LocalChannelRow}

theorem unsaved_channelRestored
    (unknown : state.channel? ref = none)
    (found : DBHelper.getLocalChannel state.channels channelId = some row)
    (remoteNodeId : String) (restart : Nat) :
    Unsaved channelId ref restart row
      (NodeSupervisor.onChannelRestored state ref channelId remoteNodeId
        restart).state := by
  constructor
  · simp [NodeSupervisor.onChannelRestored, found, NodeSupervisor.getChannel,
      unknown, LocalChannel.new]
  · exact ⟨row, found, rfl, rfl, rfl⟩

theorem Unsaved.entity_of_waits (unsaved : Unsaved channelId ref restart row
    state) (waits : Waits data channelId ref state (message, now)) :
    ∃ c, (NodeSupervisor.onReceive data state now message).state.channel?
        ref = some c ∧ c.channelId = some channelId ∧ c.created = restart ∧
      c.closingErrorMessage = none ∧ c.refundAtBlock = row.refundAtBlock := by
  by_cases own : message.channel = ref
  · subst ref
    obtain ⟨notSaving, known, running⟩ := waits.own rfl
    obtain ⟨c, found, columns⟩ := unsaved.entity
    cases message with
    | shortChannelIdAssigned ref shortChannelId =>
        simp only [ChannelMessage.channel] at found
        simp only [NodeSupervisor.onReceive,
          NodeSupervisor.onShortChannelIdAssigned, found]
        exact ⟨_, channel?_put_self state ref _, columns⟩
    | channelSignatureReceived ref commitments =>
        simp only [ChannelMessage.channel] at found
        simp only [NodeSupervisor.onReceive,
          NodeSupervisor.onChannelSignatureReceived, found]
        exact ⟨_, channel?_put_self state ref _, columns⟩
    | channelFailed ref error =>
        have ignored : NodeSupervisor.closingErrorMessage data error =
            none := by
          simpa [ChannelMessage.saves, ChannelMessage.savesAsNamed] using
            notSaving
        simp only [NodeSupervisor.onReceive, NodeSupervisor.onChannelFailed,
          ignored]
        exact ⟨c, found, columns⟩
    | channelCreated ref temporaryChannelId remoteNodeId => cases known
    | channelRestored ref channelId remoteNodeId => cases known
    | channelIdAssigned ref channelId => cases notSaving
    | localCommitConfirmed ref refundAtBlock => cases notSaving
    | channelStateChanged ref previousState currentState currentData =>
        cases notSaving
    | terminated ref => exact (running rfl).elim
  · rw [NodeSupervisor.channel?_of_ne (Ne.symm own)]
    exact unsaved.entity

theorem Unsaved.step (unsaved : Unsaved channelId ref restart row state)
    (waits : Waits data channelId ref state (message, now)) :
    Unsaved channelId ref restart row
      (NodeSupervisor.onReceive data state now message).state := by
  refine ⟨unsaved.entity_of_waits waits, ?_⟩
  obtain ⟨kept, found, created, closing, refund⟩ := unsaved.row
  obtain ⟨after, stays, sameCreated, sameClosing, sameRefund⟩ :=
    exists_row_of_apart found
      (fun c => waits.apart kept c found)
  exact ⟨after, stays, sameCreated.trans created, sameClosing.trans closing,
    sameRefund.trans refund⟩

/-- The first save after a restart keeps the history only of a row created at
the very time of the restart, without a closing error unless the message sets
it. -/
theorem Unsaved.entityAgrees_iff
    (unsaved : Unsaved channelId message.channel restart row state)
    (now : Nat) (saving : message.savesAsNamed data = true) :
    EntityAgrees data channelId state (message, now) ↔
      restart = row.created ∧
        (message.isChannelFailed = true ∨ row.closingErrorMessage = none) := by
  obtain ⟨⟨c, inMemory, named, created, closing, refund⟩, kept, found,
    keptCreated, keptClosing, keptRefund⟩ := unsaved
  have carries : state.Carries message.channel channelId :=
    ⟨c, inMemory, named⟩
  have writes : message.written data state now = some c := by
    cases message with
    | channelFailed ref error =>
        have present : (NodeSupervisor.closingErrorMessage data error).isSome :=
          saving
        simp only [ChannelMessage.channel] at inMemory
        simp [written, present, NodeSupervisor.getChannel, inMemory]
    | localCommitConfirmed ref refundAtBlock => exact inMemory
    | channelStateChanged ref previousState currentState currentData =>
        simp only [ChannelMessage.channel] at inMemory
        simp [written, NodeSupervisor.getChannel, inMemory]
    | _ => cases saving
  have keptNamed := (DBHelper.getLocalChannel_eq_some_iff.mp found).2
  rw [← keptCreated, ← keptClosing]
  constructor
  · intro agrees
    obtain ⟨_, sameCreated, sameClosing, _⟩ := agrees kept c found writes
      (by simp [named]) (Or.inr (by simp [named, keptNamed]))
    refine ⟨created.symm.trans sameCreated, ?_⟩
    rcases sameClosing with fails | same
    · exact Or.inl fails.1
    · exact Or.inr (same.symm.trans closing)
  · intro given other entity otherFound sameWrites _ _
    obtain ⟨asOld, noError⟩ := given
    rw [found, Option.some.injEq] at otherFound
    rw [writes, Option.some.injEq] at sameWrites
    subst other entity
    refine ⟨named, created.trans asOld, ?_,
      Or.inr (refund.trans keptRefund.symm)⟩
    rcases noError with failed | none
    · exact Or.inl ⟨failed, carries⟩
    · exact Or.inr (closing.trans none.symm)

end Restart

/-- Every message of the run keeps the history of the channel's row. -/
def HistoryKept (data : ErrorData) (channelId : String) (state : ChannelState)
    (received : List (ChannelMessage × Nat)) : Prop :=
  ∀ first message now rest before after,
    received = first ++ (message, now) :: rest →
    Runs.exec (step data) state first = some before →
    step data before (message, now) = some after →
    KeepsHistory channelId message before after

/-- A run keeps the history of a row exactly when every entity written in its
place agrees with it; and the first save after a restart does so only for a
row as old as the restart. -/
theorem history_kept_iff (data : ErrorData) (channelId : String) :
    (∀ channels received,
      HistoryKept data channelId (start channels) received ↔
        Runs.StepsMeet (step data) (EntityAgrees data channelId)
          (start channels) received) ∧
    (∀ before row ref remoteNodeId restart between reached message now,
      before.channel? ref = none →
      DBHelper.getLocalChannel before.channels channelId = some row →
      Runs.StepsMeet (step data) (Waits data channelId ref)
        (NodeSupervisor.onChannelRestored before ref channelId remoteNodeId
          restart).state between →
      Runs.exec (step data)
        (NodeSupervisor.onChannelRestored before ref channelId remoteNodeId
          restart).state between = some reached →
      message.channel = ref → message.savesAsNamed data = true →
      (EntityAgrees data channelId reached (message, now) ↔
        restart = row.created ∧ (message.isChannelFailed = true ∨
          row.closingErrorMessage = none))) := by
  constructor
  · intro channels received
    rw [Runs.stepsMeet_iff_forall_split]
    constructor
    · intro kept first given rest before split run
      obtain ⟨message, now⟩ := given
      apply entityAgrees_iff_keepsHistory.mpr
      exact kept first message now rest before _ split run rfl
    · intro agrees first message now rest before after split run result
      simp only [step, Option.some.injEq] at result
      subst after
      exact entityAgrees_iff_keepsHistory.mp
        (agrees first (message, now) rest before split run)
  · intro before row ref remoteNodeId restart between reached message now
      unknown found waits run own saving
    have preserved : ∀ state received next,
        Unsaved channelId ref restart row state →
        Waits data channelId ref state received →
        step data state received = some next →
        Unsaved channelId ref restart row next := by
      intro state received next unsaved waits result
      cases result
      exact unsaved.step waits
    have unsaved := Runs.invariant_of_stepsMeet preserved
      (unsaved_channelRestored unknown found remoteNodeId restart) waits run
    subst ref
    exact unsaved.entityAgrees_iff now saving

/-- A table with one channel, created at time 5 and closed with an error. -/
def storedChannel : Table LocalChannelRow :=
  Table.empty.insertOrReplace
    { channelId := some "channel"
      isActive := true
      created := 5
      closingErrorMessage := some "error" }

/-- A channel restored at the time it was created, which gets its short id and
fails. -/
theorem history_kept_at_once :
    EntityAgrees ⟨fun _ => true, fun _ => ""⟩ "channel"
      (NodeSupervisor.onShortChannelIdAssigned
        (NodeSupervisor.onChannelRestored (start storedChannel) 0 "channel"
          "node" 5).state 0 "short").state
      (.channelFailed 0 (.localError (some none)), 6) := by
  obtain ⟨row, found, age⟩ : ∃ row,
      DBHelper.getLocalChannel storedChannel "channel" = some row ∧
        row.created = 5 :=
    ⟨_, rfl, rfl⟩
  apply ((history_kept_iff _ "channel").2 (start storedChannel) row 0 "node" 5
    [(.shortChannelIdAssigned 0 "short", 5)] _
    (.channelFailed 0 (.localError (some none))) 6 rfl found ?_ rfl rfl
    rfl).mpr
  · exact ⟨age.symm, Or.inl rfl⟩
  · refine ⟨⟨fun _ => ⟨rfl, rfl, by simp⟩, ?_⟩, fun _ _ => trivial⟩
    intro _ _ _ impossible
    cases impossible

theorem history_lost_after_restart :
    ¬ ∀ (data : ErrorData) (channels : Table LocalChannelRow)
        (ref : ActorRef) (channelId remoteNodeId : String) (restart : Nat)
        (received : List (ChannelMessage × Nat)),
      DBHelper.getLocalChannel channels channelId ≠ none →
      HistoryKept data channelId (start channels)
        ((.channelRestored ref channelId remoteNodeId, restart) ::
          received) := by
  intro claim
  have kept := claim ⟨fun _ => true, fun _ => ""⟩ storedChannel 0 "channel"
    "node" 10 [(.channelStateChanged 0 "OFFLINE" "NORMAL" .other, 11)]
    (by decide)
  have agrees : EntityAgrees ⟨fun _ => true, fun _ => ""⟩ "channel"
      (NodeSupervisor.onChannelRestored (start storedChannel) 0 "channel"
        "node" 10).state
      (.channelStateChanged 0 "OFFLINE" "NORMAL" .other, 11) :=
    entityAgrees_iff_keepsHistory.mpr
      (kept [(.channelRestored 0 "channel" "node", 10)] _ 11 [] _ _ rfl rfl
        rfl)
  obtain ⟨row, found, age⟩ : ∃ row,
      DBHelper.getLocalChannel storedChannel "channel" = some row ∧
        row.created = 5 :=
    ⟨_, rfl, rfl⟩
  have unknown : (start storedChannel).channel? 0 = none := rfl
  have unsaved := unsaved_channelRestored unknown found "node" 10
  have created := ((unsaved.entityAgrees_iff 11 rfl).mp agrees).1
  omega

end ChannelState

end EclairWallet
