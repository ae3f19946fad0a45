import EclairWallet.Channel.Supervisor

/-!
# What a message does to the map and to the table

Two specifications cover every handler.  A message either writes one row, the
entity of its channel with some columns set, or marks the row of a terminated
channel, or leaves the table alone; and it touches the map under its own
reference only.
-/

namespace EclairWallet

namespace ChannelMessage

/-- The channel a message is about. -/
def channel : ChannelMessage → ActorRef
  | .channelCreated ref _ _ => ref
  | .channelRestored ref _ _ => ref
  | .channelIdAssigned ref _ => ref
  | .shortChannelIdAssigned ref _ => ref
  | .channelSignatureReceived ref _ => ref
  | .terminated ref => ref
  | .channelFailed ref _ => ref
  | .localCommitConfirmed ref _ => ref
  | .channelStateChanged ref _ _ _ => ref

/-- The entity in memory that the handler will write, under the channel id it
will be stored under. -/
def written (data : ErrorData) (state : ChannelState) (now : Nat) :
    ChannelMessage → Option LocalChannel
  | .channelIdAssigned ref channelId =>
      (state.channel? ref).map (fun c =>
        { c with channelId := some channelId })
  | .channelFailed ref error =>
      if (NodeSupervisor.closingErrorMessage data error).isSome then
        some (NodeSupervisor.getChannel state ref now)
      else none
  | .localCommitConfirmed ref _ => state.channel? ref
  | .channelStateChanged ref _ _ _ =>
      some (NodeSupervisor.getChannel state ref now)
  | _ => none

def isChannelFailed : ChannelMessage → Bool
  | .channelFailed _ _ => true
  | _ => false

def isLocalCommitConfirmed : ChannelMessage → Bool
  | .localCommitConfirmed _ _ => true
  | _ => false

/-- The channel id a message gives to its channel. -/
def givenId : ChannelMessage → Option String
  | .channelCreated _ temporaryChannelId _ => some temporaryChannelId
  | .channelRestored _ channelId _ => some channelId
  | .channelIdAssigned _ channelId => some channelId
  | _ => none

def temporaryId : ChannelMessage → Option String
  | .channelCreated _ temporaryChannelId _ => some temporaryChannelId
  | _ => none

/-- The message puts its channel into the map. -/
def introduces : ChannelMessage → Bool
  | .channelCreated _ _ _ => true
  | .channelRestored _ _ _ => true
  | _ => false

/-- The message saves the entity of its channel under the channel id the
entity has. -/
def savesAsNamed (data : ErrorData) : ChannelMessage → Bool
  | .channelFailed _ error =>
      (NodeSupervisor.closingErrorMessage data error).isSome
  | .localCommitConfirmed _ _ => true
  | .channelStateChanged _ _ _ _ => true
  | _ => false

/-- The message saves the entity of its channel. -/
def saves (data : ErrorData) : ChannelMessage → Bool
  | .channelIdAssigned _ _ => true
  | message => message.savesAsNamed data

variable {message : ChannelMessage}

theorem saves_of_introduces (data : ErrorData)
    (introduces : message.introduces = true) : message.saves data = false := by
  cases message with
  | channelCreated ref temporaryChannelId remoteNodeId => rfl
  | channelRestored ref channelId remoteNodeId => rfl
  | _ => cases introduces

theorem exists_givenId_of_introduces (introduces : message.introduces = true) :
    ∃ channelId, message.givenId = some channelId := by
  cases message with
  | channelCreated ref temporaryChannelId remoteNodeId => exact ⟨_, rfl⟩
  | channelRestored ref channelId remoteNodeId => exact ⟨_, rfl⟩
  | _ => cases introduces

/-- Only the introducing messages and `ChannelIdAssigned` give an id. -/
theorem givenId_eq_none {data : ErrorData}
    (known : message.introduces = false)
    (notSaving : message.saves data = false) : message.givenId = none := by
  cases message with
  | channelCreated ref temporaryChannelId remoteNodeId => cases known
  | channelRestored ref channelId remoteNodeId => cases known
  | channelIdAssigned ref channelId => cases notSaving
  | _ => rfl

theorem givenId_of_temporaryId {channelId : String}
    (temporary : message.temporaryId = some channelId) :
    message.givenId = some channelId := by
  cases message with
  | channelCreated ref temporaryChannelId remoteNodeId => exact temporary
  | _ => cases temporary

theorem temporaryId_eq_none (known : message.introduces = false) :
    message.temporaryId = none := by
  cases message with
  | channelCreated ref temporaryChannelId remoteNodeId => cases known
  | _ => rfl

end ChannelMessage

/-- What a handler keeps of the entity it writes. -/
structure KeptColumns (message : ChannelMessage) (c : LocalChannel)
    (row : LocalChannelRow) : Prop where
  id : row.id = c.id
  channelId : row.channelId = c.channelId
  created : row.created = c.created
  isActive : row.isActive = c.isActive
  closingErrorMessage : message.isChannelFailed = false →
    row.closingErrorMessage = c.closingErrorMessage
  refundAtBlock : message.isLocalCommitConfirmed = false →
    row.refundAtBlock = c.refundAtBlock

namespace NodeSupervisor

variable {data : ErrorData} {state : ChannelState} {message : ChannelMessage}
  {now : Nat} {c : LocalChannel}

@[simp] theorem save_channels_of_unnamed (ref : ActorRef)
    (done next : List ChannelEffect) (unnamed : c.channelId = none) :
    (save state ref c now done next).state.channels = state.channels := by
  simp [save, DBHelper.saveLocalChannel, unnamed]

theorem save_channels_of_named {written : LocalChannel} (ref : ActorRef)
    (done next : List ChannelEffect) {channelId : String}
    (named : c.channelId = some channelId)
    (kept : KeptColumns message c written.toLocalChannelRow) :
    ∃ row, (save state ref written now done next).state.channels =
        state.channels.insertOrReplace row ∧
      KeptColumns message c row := by
  refine ⟨{ written.toLocalChannelRow with updated := some now }, ?_, ?_⟩
  · have writtenNamed : written.channelId = some channelId :=
      kept.channelId.trans named
    simp [save, DBHelper.saveLocalChannel, writtenNamed]
  · constructor
    · exact kept.id
    · exact kept.channelId
    · exact kept.created
    · exact kept.isActive
    · exact kept.closingErrorMessage
    · exact kept.refundAtBlock

theorem setClosing_row (c : LocalChannel) (d : DataClosing) :
    (setClosing c d).toLocalChannelRow =
      { c.toLocalChannelRow with
        closingType := (setClosing c d).closingType } := by
  unfold setClosing
  split <;> rfl

theorem setState_keeps (c : LocalChannel) (currentState : String)
    (currentData : ChannelData) (message : ChannelMessage) :
    KeptColumns message c
      (setState c currentState currentData).toLocalChannelRow := by
  have closing : ∀ d, KeptColumns message c
      (setClosing c d).toLocalChannelRow := by
    intro d
    rw [setClosing_row]
    constructor <;> simp
  cases currentData with
  | closing d =>
      have kept := closing d
      constructor
      · exact kept.id
      · exact kept.channelId
      · exact kept.created
      · exact kept.isActive
      · exact kept.closingErrorMessage
      · exact kept.refundAtBlock
  | hasCommitments commitments =>
      constructor <;> simp [setState, ChannelData.commitments, setCommitments]
  | other => constructor <;> simp [setState, ChannelData.commitments]

theorem channels_of_written (writes : message.written data state now = some c)
    {channelId : String} (named : c.channelId = some channelId) :
    ∃ row, (onReceive data state now message).state.channels =
        state.channels.insertOrReplace row ∧
      KeptColumns message c row := by
  cases message with
  | channelIdAssigned ref assigned =>
      simp only [ChannelMessage.written, Option.map_eq_some_iff] at writes
      obtain ⟨before, found, rfl⟩ := writes
      simp only [onReceive, onChannelIdAssigned, found]
      apply save_channels_of_named ref [] [] named
      constructor <;> simp
  | channelFailed ref error =>
      simp only [ChannelMessage.written, Option.ite_none_right_eq_some,
        Option.some.injEq] at writes
      obtain ⟨present, rfl⟩ := writes
      obtain ⟨text, found⟩ := Option.isSome_iff_exists.mp present
      simp only [onReceive, onChannelFailed, found]
      apply save_channels_of_named ref [] [] named
      constructor <;> simp [ChannelMessage.isChannelFailed]
  | localCommitConfirmed ref refundAtBlock =>
      simp only [ChannelMessage.written] at writes
      simp only [onReceive, onLocalCommitConfirmed, writes]
      apply save_channels_of_named ref [] _ named
      constructor <;> simp [ChannelMessage.isLocalCommitConfirmed]
  | channelStateChanged ref previousState currentState currentData =>
      simp only [ChannelMessage.written, Option.some.injEq] at writes
      subst c
      have kept := setState_keeps (getChannel state ref now) currentState
        currentData (.channelStateChanged ref previousState currentState
          currentData)
      exact save_channels_of_named ref _ _ named kept
  | channelCreated ref temporaryChannelId remoteNodeId => cases writes
  | channelRestored ref channelId remoteNodeId => cases writes
  | shortChannelIdAssigned ref shortChannelId => cases writes
  | channelSignatureReceived ref commitments => cases writes
  | terminated ref => cases writes

theorem channels_of_unnamed (writes : message.written data state now = some c)
    (unnamed : c.channelId = none) :
    (onReceive data state now message).state.channels = state.channels := by
  cases message with
  | channelIdAssigned ref assigned =>
      simp only [ChannelMessage.written, Option.map_eq_some_iff] at writes
      obtain ⟨before, _, rfl⟩ := writes
      cases unnamed
  | channelFailed ref error =>
      simp only [ChannelMessage.written, Option.ite_none_right_eq_some,
        Option.some.injEq] at writes
      obtain ⟨present, rfl⟩ := writes
      obtain ⟨text, found⟩ := Option.isSome_iff_exists.mp present
      simp only [onReceive, onChannelFailed, found]
      exact save_channels_of_unnamed ref [] [] unnamed
  | localCommitConfirmed ref refundAtBlock =>
      simp only [ChannelMessage.written] at writes
      simp only [onReceive, onLocalCommitConfirmed, writes]
      exact save_channels_of_unnamed ref [] _ unnamed
  | channelStateChanged ref previousState currentState currentData =>
      simp only [ChannelMessage.written, Option.some.injEq] at writes
      subst c
      have kept := setState_keeps (getChannel state ref now) currentState
        currentData (.channelStateChanged ref previousState currentState
          currentData)
      exact save_channels_of_unnamed ref _ _ (kept.channelId.trans unnamed)
  | channelCreated ref temporaryChannelId remoteNodeId => cases writes
  | channelRestored ref channelId remoteNodeId => cases writes
  | shortChannelIdAssigned ref shortChannelId => cases writes
  | channelSignatureReceived ref commitments => cases writes
  | terminated ref => cases writes

/-- A message that writes no entity leaves the table alone, unless it marks
the row of the terminated channel. -/
theorem channels_of_not_written
    (writes : message.written data state now = none) :
    (onReceive data state now message).state.channels = state.channels ∨
      ∃ before channelId row, message = .terminated message.channel ∧
        state.channel? message.channel = some before ∧
        before.channelId = some channelId ∧
        DBHelper.getLocalChannel state.channels channelId = some row ∧
        (onReceive data state now message).state.channels =
          state.channels.insertOrReplace
            { row with isActive := false, updated := some now } := by
  cases message with
  | channelCreated ref temporaryChannelId remoteNodeId => exact Or.inl rfl
  | channelRestored ref channelId remoteNodeId => exact Or.inl rfl
  | channelIdAssigned ref channelId =>
      simp only [ChannelMessage.written, Option.map_eq_none_iff] at writes
      simp [onReceive, onChannelIdAssigned, writes]
  | shortChannelIdAssigned ref shortChannelId =>
      left
      simp only [onReceive, onShortChannelIdAssigned]
      split <;> rfl
  | channelSignatureReceived ref commitments =>
      left
      simp only [onReceive, onChannelSignatureReceived]
      split <;> rfl
  | terminated ref =>
      cases found : state.channel? ref with
      | none => simp [onReceive, onTerminated, found]
      | some before =>
          cases named : before.channelId with
          | none =>
              simp [onReceive, onTerminated, found, named,
                DBHelper.channelTerminated]
          | some channelId =>
              cases stored : DBHelper.getLocalChannel state.channels
                  channelId with
              | none =>
                  simp [onReceive, onTerminated, found, named,
                    DBHelper.channelTerminated, stored]
              | some row =>
                  right
                  refine ⟨before, channelId, row, rfl, found, named, stored,
                    ?_⟩
                  simp [onReceive, onTerminated, found, named,
                    DBHelper.channelTerminated, stored]
  | channelFailed ref error =>
      simp only [ChannelMessage.written] at writes
      cases found : closingErrorMessage data error with
      | none => simp [onReceive, onChannelFailed, found]
      | some text => simp [found] at writes
  | localCommitConfirmed ref refundAtBlock =>
      simp only [ChannelMessage.written] at writes
      simp [onReceive, onLocalCommitConfirmed, writes]
  | channelStateChanged ref previousState currentState currentData =>
      cases writes

/-! ## The map -/

theorem channel?_save {written : LocalChannel} {ref : ActorRef}
    (done next : List ChannelEffect) {channelId : String}
    (named : written.channelId = some channelId)
    (found : (state.channel? ref).isSome = true) :
    (save state ref written now done next).state.channel? ref =
      some { written with
        updated := some now
        id := some (state.channels.assigned written.toLocalChannelRow) } := by
  simp only [save, DBHelper.saveLocalChannel_of_named state.channels named]
  exact ChannelState.channel?_change_self found _

theorem channel?_save_of_ne {written : LocalChannel} {ref other : ActorRef}
    (done next : List ChannelEffect) (different : other ≠ ref) :
    (save state ref written now done next).state.channel? other =
      state.channel? other :=
  ChannelState.channel?_change_of_ne different

theorem channel?_of_ne {other : ActorRef}
    (different : other ≠ message.channel) :
    (onReceive data state now message).state.channel? other =
      state.channel? other := by
  cases message with
  | channelCreated ref temporaryChannelId remoteNodeId =>
      exact ChannelState.channel?_put_of_ne different
  | channelRestored ref channelId remoteNodeId =>
      exact ChannelState.channel?_put_of_ne different
  | channelIdAssigned ref channelId =>
      simp only [onReceive, onChannelIdAssigned]
      split
      · exact channel?_save_of_ne [] [] different
      · rfl
  | shortChannelIdAssigned ref shortChannelId =>
      simp only [onReceive, onShortChannelIdAssigned]
      split
      · exact ChannelState.channel?_put_of_ne different
      · rfl
  | channelSignatureReceived ref commitments =>
      simp only [onReceive, onChannelSignatureReceived]
      split
      · exact ChannelState.channel?_put_of_ne different
      · rfl
  | terminated ref =>
      simp only [onReceive, onTerminated]
      split
      · rfl
      · exact AList.lookup_erase_ne different
  | channelFailed ref error =>
      simp only [onReceive, onChannelFailed]
      split
      · exact channel?_save_of_ne [] [] different
      · rfl
  | localCommitConfirmed ref refundAtBlock =>
      simp only [onReceive, onLocalCommitConfirmed]
      split
      · exact channel?_save_of_ne [] _ different
      · rfl
  | channelStateChanged ref previousState currentState currentData =>
      exact (channel?_save_of_ne _ _ different).trans
        (ChannelState.channel?_put_of_ne different)

theorem onReceive_of_introduces (data : ErrorData) (state : ChannelState)
    (now : Nat) (introduces : message.introduces = true) :
    (onReceive data state now message).state.channels = state.channels ∧
    ∃ after, (onReceive data state now message).state.channel?
        message.channel = some after ∧
      after.id = (getChannel state message.channel now).id ∧
      after.channelId = message.givenId ∧
      after.isActive = (getChannel state message.channel now).isActive := by
  cases message with
  | channelCreated ref temporaryChannelId remoteNodeId =>
      exact ⟨rfl, _, ChannelState.channel?_put_self state ref _, rfl, rfl, rfl⟩
  | channelRestored ref channelId remoteNodeId =>
      refine ⟨rfl, _, ChannelState.channel?_put_self state ref _, ?_, ?_, ?_⟩
      · cases DBHelper.getLocalChannel state.channels channelId <;> rfl
      · cases DBHelper.getLocalChannel state.channels channelId <;> rfl
      · cases DBHelper.getLocalChannel state.channels channelId <;> rfl
  | _ => cases introduces

/-- What a saving message does for a channel in the map: one row is written,
and the entity is left with its primary key. -/
theorem onReceive_of_saves (now : Nat)
    (found : state.channel? message.channel = some c)
    (saving : message.saves data = true) {channelId : String}
    (named : message.givenId.or c.channelId = some channelId) :
    ∃ row after, (onReceive data state now message).state.channels =
        state.channels.insertOrReplace row ∧
      (row.id = c.id ∧ row.channelId = some channelId ∧
        row.isActive = c.isActive) ∧
      (onReceive data state now message).state.channel? message.channel =
        some after ∧
      after.id = some (state.channels.assigned row) ∧
      after.channelId = some channelId ∧ after.isActive = c.isActive := by
  cases message with
  | channelIdAssigned ref assigned =>
      simp only [ChannelMessage.channel] at found
      simp only [ChannelMessage.givenId, Option.some_or, Option.some.injEq]
        at named
      subst assigned
      simp only [onReceive, onChannelIdAssigned, found]
      refine ⟨{ c.toLocalChannelRow with
        channelId := some channelId, updated := some now }, _, ?_,
        ⟨rfl, rfl, rfl⟩, channel?_save [] [] rfl (by simp [found]), ?_, rfl,
        rfl⟩
      · simp [save, DBHelper.saveLocalChannel]
      · simp [Table.assigned]
  | channelFailed ref error =>
      simp only [ChannelMessage.channel] at found
      simp only [ChannelMessage.givenId, Option.none_or] at named
      have present : (closingErrorMessage data error).isSome = true := saving
      obtain ⟨text, known⟩ := Option.isSome_iff_exists.mp present
      have entity : getChannel state ref now = c := by
        simp [getChannel, found]
      simp only [onReceive, onChannelFailed, known, entity]
      refine ⟨{ c.toLocalChannelRow with
        closingErrorMessage := text, updated := some now }, _, ?_,
        ⟨rfl, named, rfl⟩,
        channel?_save [] [] named (by simp [found]),
        ?_, named, rfl⟩
      · simp [save, DBHelper.saveLocalChannel, named]
      · simp [Table.assigned]
  | localCommitConfirmed ref refundAtBlock =>
      simp only [ChannelMessage.channel] at found
      simp only [ChannelMessage.givenId, Option.none_or] at named
      simp only [onReceive, onLocalCommitConfirmed, found]
      refine ⟨{ c.toLocalChannelRow with
        refundAtBlock := refundAtBlock, updated := some now }, _, ?_,
        ⟨rfl, named, rfl⟩,
        channel?_save [] _ named (by simp [found]),
        ?_, named, rfl⟩
      · simp [save, DBHelper.saveLocalChannel, named]
      · simp [Table.assigned]
  | channelStateChanged ref previousState currentState currentData =>
      simp only [ChannelMessage.channel] at found
      simp only [ChannelMessage.givenId, Option.none_or] at named
      have entity : getChannel state ref now = c := by
        simp [getChannel, found]
      have kept := setState_keeps c currentState currentData
        (.channelStateChanged ref previousState currentState currentData)
      have stillNamed := kept.channelId.trans named
      simp only [onReceive, onChannelStateChanged, entity]
      refine ⟨{ (setState c currentState currentData).toLocalChannelRow with
        updated := some now }, _, ?_,
        ⟨kept.id, stillNamed, kept.isActive⟩,
        channel?_save _ _ stillNamed (by simp),
        ?_, stillNamed, kept.isActive⟩
      · simp [save, DBHelper.saveLocalChannel, stillNamed]
      · simp [Table.assigned]
  | channelCreated ref temporaryChannelId remoteNodeId => cases saving
  | channelRestored ref channelId remoteNodeId => cases saving
  | shortChannelIdAssigned ref shortChannelId => cases saving
  | channelSignatureReceived ref commitments => cases saving
  | terminated ref => cases saving

theorem onReceive_of_not_saves
    (found : state.channel? message.channel = some c)
    (notSaving : message.saves data = false)
    (known : message.introduces = false)
    (running : message ≠ .terminated message.channel) :
    (onReceive data state now message).state.channels = state.channels ∧
    ∃ after, (onReceive data state now message).state.channel?
        message.channel = some after ∧
      after.id = c.id ∧ after.channelId = c.channelId ∧
      after.isActive = c.isActive := by
  cases message with
  | shortChannelIdAssigned ref shortChannelId =>
      simp only [ChannelMessage.channel] at found
      simp only [onReceive, onShortChannelIdAssigned, found]
      exact ⟨rfl, _, ChannelState.channel?_put_self state ref _, rfl, rfl, rfl⟩
  | channelSignatureReceived ref commitments =>
      simp only [ChannelMessage.channel] at found
      simp only [onReceive, onChannelSignatureReceived, found]
      exact ⟨rfl, _, ChannelState.channel?_put_self state ref _, rfl, rfl, rfl⟩
  | channelFailed ref error =>
      have ignored : closingErrorMessage data error = none := by
        simpa [ChannelMessage.saves, ChannelMessage.savesAsNamed] using
          notSaving
      simp only [onReceive, onChannelFailed, ignored]
      exact ⟨trivial, c, found, rfl, rfl, rfl⟩
  | channelCreated ref temporaryChannelId remoteNodeId => cases known
  | channelRestored ref channelId remoteNodeId => cases known
  | channelIdAssigned ref channelId => cases notSaving
  | localCommitConfirmed ref refundAtBlock => cases notSaving
  | channelStateChanged ref previousState currentState currentData =>
      cases notSaving
  | terminated ref => exact (running rfl).elim

theorem onReceive_terminated {ref : ActorRef} {channelId : String}
    (data : ErrorData) (now : Nat) (found : state.channel? ref = some c)
    (named : c.channelId = some channelId) :
    (onReceive data state now (.terminated ref)).state.channel? ref = none ∧
    (onReceive data state now (.terminated ref)).state.channels =
      match DBHelper.getLocalChannel state.channels channelId with
      | none => state.channels
      | some row => state.channels.insertOrReplace
          { row with isActive := false, updated := some now } := by
  simp only [onReceive, onTerminated, found, named, DBHelper.channelTerminated]
  cases DBHelper.getLocalChannel state.channels channelId with
  | none => exact ⟨AList.lookup_erase ref _, rfl⟩
  | some row => exact ⟨AList.lookup_erase ref _, rfl⟩

theorem mem_rows_terminated_iff {ref : ActorRef} {channelId : String}
    (data : ErrorData) (now : Nat) (found : state.channel? ref = some c)
    (named : c.channelId = some channelId) (other : LocalChannelRow) :
    other ∈
        (onReceive data state now (.terminated ref)).state.channels.rows ↔
      (other ∈ state.channels.rows ∧ other.channelId ≠ some channelId) ∨
        ∃ row ∈ state.channels.rows, row.channelId = some channelId ∧
          other = { row with isActive := false, updated := some now } := by
  rw [(onReceive_terminated data now found named).2]
  cases stored : DBHelper.getLocalChannel state.channels channelId with
  | none =>
      have absent := DBHelper.getLocalChannel_eq_none_iff.mp stored
      constructor
      · exact fun member => Or.inl ⟨member, absent other member⟩
      · rintro (⟨member, _⟩ | ⟨row, member, rowName, _⟩)
        · exact member
        · exact (absent row member rowName).elim
  | some row =>
      obtain ⟨rowMember, rowName⟩ :=
        DBHelper.getLocalChannel_eq_some_iff.mp stored
      have written : DBHelper.getLocalChannel (state.channels.insertOrReplace
            { row with isActive := false, updated := some now }) channelId =
          some { row with isActive := false, updated := some now } :=
        DBHelper.getLocalChannel_writeBack stored rfl rfl
      obtain ⟨marked, _⟩ := DBHelper.getLocalChannel_eq_some_iff.mp written
      by_cases same : other.channelId = some channelId
      · constructor
        · intro member
          refine Or.inr ⟨row, rowMember, rowName, ?_⟩
          apply Table.eq_of_unique member marked
          exact same.trans rowName.symm
        · rintro (⟨_, different⟩ | ⟨own, ownMember, ownName, rfl⟩)
          · exact (different same).elim
          · have equal : own = row :=
              Table.eq_of_unique ownMember rowMember
                (ownName.trans rowName.symm)
            subst own
            exact marked
      · have kept : other ∈ (state.channels.insertOrReplace
              { row with isActive := false, updated := some now }).rows ↔
            other ∈ state.channels.rows := by
          refine Table.mem_insertOrReplace_update_iff rowMember ?_ ?_ ?_
          · rfl
          · rfl
          · simpa [rowName] using same
        rw [kept]
        constructor
        · exact fun member => Or.inl ⟨member, same⟩
        · rintro (⟨member, _⟩ | ⟨own, _, ownName, rfl⟩)
          · exact member
          · exact (same ownName).elim

end NodeSupervisor

end EclairWallet
