import EclairWallet.Payment.Supervisor

/-!
# Channels and their table

The channel entity and the operations of `DBHelper` on the channels table.
The persisted columns are a structure of their own: the transient fields of an
entity never reach the table.
-/

namespace EclairWallet

inductive ClosingType where
  | mutual
  | local
  | remote
  | other
  deriving DecidableEq, Repr

/-- A row of the channels table. -/
structure LocalChannelRow where
  id : Option Nat := none
  channelId : Option String := none
  shortChannelId : Option String := none
  peerNodeId : Option String := none
  peerAddress : Option String := none
  capacityMsat : Int := 0
  balanceMsat : Int := 0
  refundAtBlock : Int := 0
  channelReserveSat : Int := 0
  minimumHtlcAmountMsat : Int := 0
  toSelfDelayBlocks : Int := 0
  fundingTxId : Option String := none
  closingTxId : Option String := none
  closingType : Option ClosingType := none
  closingErrorMessage : Option String := none
  localFeatures : Option String := none
  isActive : Bool
  created : Nat
  updated : Option Nat := none
  deriving DecidableEq, Repr

/-- A channel entity: its columns and its transient fields. -/
structure LocalChannel extends LocalChannelRow where
  state : String := "N/A"
  htlcsInFlightCount : Int := 0
  mainClosingTxs : List String := []
  mainDelayedClosingTx : Option String := none
  deriving DecidableEq, Repr

namespace LocalChannel

/-- `new LocalChannel()`. -/
def new (now : Nat) : LocalChannel :=
  { isActive := true, created := now }

end LocalChannel

instance : Keyed LocalChannelRow (Option String) where
  primary row := row.id
  withPrimary id row := { row with id := some id }
  unique row := row.channelId
  primary_withPrimary := fun _ _ => rfl
  unique_withPrimary := fun _ _ => rfl

namespace LocalChannelRow

@[simp] theorem primary_eq (row : LocalChannelRow) :
    Keyed.primary row = row.id :=
  rfl

@[simp] theorem unique_eq (row : LocalChannelRow) :
    Keyed.unique row = row.channelId :=
  rfl

theorem saved_eq (channels : Table LocalChannelRow) (row : LocalChannelRow) :
    channels.saved row = { row with id := some (channels.assigned row) } :=
  rfl

end LocalChannelRow

/-- What `saveLocalChannel` leaves: the table, the entity, whose primary key
is set, and the exception of a refused write. -/
structure SavedChannel where
  channels : Table LocalChannelRow
  channel : LocalChannel
  thrown : Option JavaException

namespace DBHelper

/-- The row with this channel id. -/
def getLocalChannel (channels : Table LocalChannelRow) (channelId : String) :
    Option LocalChannelRow :=
  channels.find? (some channelId)

/-- A null channel id cannot be bound to the statement. -/
def saveLocalChannel (channels : Table LocalChannelRow)
    (channel : LocalChannel) (now : Nat) : SavedChannel :=
  let channel := { channel with updated := some now }
  match channel.channelId with
  | none =>
      { channels := channels
        channel := channel
        thrown := some .illegalArgument }
  | some _ =>
      let row := channel.toLocalChannelRow
      { channels := channels.insertOrReplace row
        channel := { channel with id := some (channels.assigned row) }
        thrown := none }

/-- The row of a terminated channel is marked as inactive. -/
def channelTerminated (channels : Table LocalChannelRow)
    (channelId : Option String) (now : Nat) :
    Table LocalChannelRow × Option JavaException :=
  match channelId with
  | none => (channels, some .illegalArgument)
  | some channelId =>
      match getLocalChannel channels channelId with
      | none => (channels, none)
      | some row =>
          (channels.insertOrReplace
            { row with isActive := false, updated := some now }, none)

theorem getLocalChannel_eq_some_iff {channels : Table LocalChannelRow}
    {channelId : String} {row : LocalChannelRow} :
    getLocalChannel channels channelId = some row ↔
      row ∈ channels.rows ∧ row.channelId = some channelId := by
  rw [getLocalChannel, Table.find?_eq_some_iff]
  simp

theorem getLocalChannel_eq_none_iff {channels : Table LocalChannelRow}
    {channelId : String} :
    getLocalChannel channels channelId = none ↔
      ∀ row ∈ channels.rows, row.channelId ≠ some channelId := by
  rw [getLocalChannel, Table.find?_eq_none_iff]
  simp

theorem saveLocalChannel_of_named (channels : Table LocalChannelRow)
    {channel : LocalChannel} {channelId : String}
    (named : channel.channelId = some channelId) (now : Nat) :
    saveLocalChannel channels channel now =
      { channels := channels.insertOrReplace
          { channel.toLocalChannelRow with updated := some now }
        channel :=
          { channel with
            updated := some now
            id := some (channels.assigned channel.toLocalChannelRow) }
        thrown := none } := by
  simp [saveLocalChannel, named, Table.assigned]

theorem exists_id_of_getLocalChannel {channels : Table LocalChannelRow}
    {channelId : String} {row : LocalChannelRow}
    (found : getLocalChannel channels channelId = some row) :
    ∃ id, row.id = some id := by
  have member := (getLocalChannel_eq_some_iff.mp found).1
  exact Option.ne_none_iff_exists'.mp (channels.stored row member)

theorem getLocalChannel_insert_self {channels : Table LocalChannelRow}
    {channelId : String} {row : LocalChannelRow}
    (named : row.channelId = some channelId) :
    getLocalChannel (channels.insertOrReplace row) channelId =
      some { row with id := some (channels.assigned row) } := by
  have written := Table.find?_insertOrReplace_self channels row
  rw [LocalChannelRow.unique_eq, named] at written
  exact written

theorem getLocalChannel_writeBack {channels : Table LocalChannelRow}
    {channelId : String} {row written : LocalChannelRow}
    (found : getLocalChannel channels channelId = some row)
    (sameId : written.id = row.id)
    (sameName : written.channelId = row.channelId) :
    getLocalChannel (channels.insertOrReplace written) channelId =
      some written := by
  obtain ⟨id, primary⟩ := exists_id_of_getLocalChannel found
  have named := (getLocalChannel_eq_some_iff.mp found).2
  have assigned : channels.assigned written = id :=
    channels.assigned_of_primary (sameId.trans primary)
  rw [getLocalChannel_insert_self (sameName.trans named), assigned]
  rw [← primary, ← sameId]

/-- Frame rule of a write-back. -/
theorem getLocalChannel_writeBack_of_ne {channels : Table LocalChannelRow}
    {channelId other : String} {row written : LocalChannelRow}
    (found : getLocalChannel channels channelId = some row)
    (sameId : written.id = row.id)
    (sameName : written.channelId = row.channelId)
    (different : other ≠ channelId) :
    getLocalChannel (channels.insertOrReplace written) other =
      getLocalChannel channels other := by
  obtain ⟨member, named⟩ := getLocalChannel_eq_some_iff.mp found
  apply Table.find?_insertOrReplace_update member
  · exact sameId
  · exact sameName
  · simpa [sameName, named] using different

end DBHelper

end EclairWallet
