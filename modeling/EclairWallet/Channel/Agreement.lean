import EclairWallet.Channel.Tracking

/-!
# Channels in memory and in the table

In an orderly session every live channel that was saved has one row of its
own, and a terminated one leaves no active row.
-/

namespace EclairWallet

open Received

/-- The row is the only one stored under this channel id. -/
def OnlyRow (channels : Table LocalChannelRow) (channelId : String)
    (row : LocalChannelRow) : Prop :=
  row ∈ channels.rows ∧ row.channelId = some channelId ∧
    ∀ other ∈ channels.rows, other.channelId = some channelId → other = row

theorem onlyRow_of_mem {channels : Table LocalChannelRow} {channelId : String}
    {row : LocalChannelRow} (member : row ∈ channels.rows)
    (stored : row.channelId = some channelId) :
    OnlyRow channels channelId row := by
  refine ⟨member, stored, ?_⟩
  intro other otherMember otherStored
  apply Table.eq_of_unique otherMember member
  simp [stored, otherStored]

/-- The map and the table agree with the messages of the session. -/
structure Agreement (data : ErrorData) (received : Received)
    (state : ChannelState) : Prop where
  current : ∀ ref c, state.channel? ref = some c →
    c.channelId = currentId received ref
  saved : ∀ ref c, state.channel? ref = some c → SavedIn data received ref →
    ∃ channelId row, c.channelId = some channelId ∧
      OnlyRow state.channels channelId row ∧ row.isActive = true
  distinct : ∀ left right c d, left ≠ right →
    state.channel? left = some c → state.channel? right = some d →
    ∀ row ∈ state.channels.rows, row.channelId = c.channelId →
      row.channelId ≠ d.channelId
  gone : ∀ ref, TerminatedIn received ref → state.channel? ref = none
  inactive : ∀ ref, TerminatedIn received ref →
    ∃ channelId, currentId received ref = some channelId ∧
      (∀ row ∈ state.channels.rows, row.channelId = some channelId →
        OnlyRow state.channels channelId row ∧ row.isActive = false) ∧
      (SavedIn data received ref →
        ∃ row ∈ state.channels.rows, row.channelId = some channelId)
  temporary : ∀ ref channelId, TemporaryIn received ref channelId →
    currentId received ref ≠ some channelId →
    ∀ row ∈ state.channels.rows, row.channelId ≠ some channelId

theorem Tracks.agreement {data : ErrorData}
    {channels : Table LocalChannelRow} {received : Received}
    {state : ChannelState} (tracks : Tracks data channels received state) :
    Agreement data received state := by
  constructor
  · intro ref c found
    exact (tracks.entity ref c found).1
  · intro ref c found isSaved
    obtain ⟨row, member, _, name, active⟩ := tracks.saved ref c found isSaved
    obtain ⟨channelId, current⟩ := tracks.named ref (seen_of_savedIn isSaved)
    have named := (tracks.entity ref c found).1.trans current
    exact ⟨channelId, row, named, onlyRow_of_mem member (name.trans named),
      active⟩
  · intro left right c d different leftFound rightFound row member leftName
      rightName
    have leftSeen := ((tracks.live left).mp (by simp [leftFound])).1
    obtain ⟨channelId, current⟩ := tracks.named left leftSeen
    have rightCurrent : currentId received right = some channelId := by
      rw [← (tracks.entity right d rightFound).1, ← rightName, leftName,
        (tracks.entity left c leftFound).1, current]
    exact different (tracks.apart left right channelId
      (givenIn_of_currentId current) (givenIn_of_currentId rightCurrent))
  · intro ref terminated
    have live := tracks.live ref
    cases found : state.channel? ref with
    | none => rfl
    | some c => simp [found, terminated] at live
  · intro ref terminated
    obtain ⟨channelId, current⟩ :=
      tracks.named ref (seen_of_terminatedIn terminated)
    refine ⟨channelId, current, ?_, ?_⟩
    · intro row member stored
      exact ⟨onlyRow_of_mem member stored,
        tracks.marked ref terminated row member (stored.trans current.symm)⟩
    · intro isSaved
      obtain ⟨row, member, name⟩ := tracks.stored ref terminated isSaved
      exact ⟨row, member, name.trans current⟩
  · intro ref channelId temporary renamed row member stored
    exact renamed (tracks.temporary ref channelId temporary row member stored).1

/-- In every orderly session the map and the table agree. -/
theorem agreement_of_orderly {data : ErrorData}
    {channels : Table LocalChannelRow} {received : Received}
    {state : ChannelState}
    (orderly : Runs.Lawful (Orderly channels) [] received)
    (run : Runs.exec (ChannelState.step data) (ChannelState.start channels)
      received = some state) :
    Agreement data received state :=
  (Tracks.of_lawful orderly run).agreement

/-! ## Sessions -/

def sampleData : ErrorData :=
  { isAsciiPrintable := fun _ => true, toString := fun _ => "" }

/-- Two channels; the first is renamed and terminated. -/
def twoChannels : Received :=
  [(.channelCreated 0 "temporary" "node", 1),
    (.channelStateChanged 0 "WAIT_FOR_INIT_INTERNAL" "WAIT_FOR_OPEN" .other, 2),
    (.channelRestored 1 "stored" "node", 3),
    (.channelIdAssigned 0 "final", 4),
    (.localCommitConfirmed 1 600, 5),
    (.terminated 0, 6)]

theorem agreement_of_twoChannels :
    ∃ state, Runs.exec (ChannelState.step sampleData)
        (ChannelState.start Table.empty) twoChannels = some state ∧
      Agreement sampleData twoChannels state := by
  have orderly : Runs.Lawful (Orderly Table.empty) [] twoChannels := by decide
  refine ⟨_, rfl, ?_⟩
  exact agreement_of_orderly orderly rfl

/-- A channel restored again under another id is renamed in memory only. -/
def restoredTwice : Received :=
  [(.channelRestored 0 "first" "node", 1),
    (.channelStateChanged 0 "OFFLINE" "NORMAL" .other, 2),
    (.channelRestored 0 "second" "node", 3)]

/-- Two channels restored under one id take each other's row. -/
def sharedId : Received :=
  [(.channelRestored 0 "shared" "node", 1),
    (.channelRestored 1 "shared" "node", 2),
    (.channelStateChanged 0 "OFFLINE" "NORMAL" .other, 3),
    (.channelStateChanged 1 "OFFLINE" "NORMAL" .other, 4)]

/-- The temporary id is in the table before the channel is created. -/
def temporaryStored : Received :=
  [(.channelCreated 0 "temporary" "node", 1),
    (.channelIdAssigned 0 "final", 2),
    (.terminated 0, 3)]

def storedTemporary : Table LocalChannelRow :=
  Table.empty.insertOrReplace
    { channelId := some "temporary", isActive := true, created := 0 }

theorem agreement_broken :
    (Runs.Lawful Introduced [] restoredTwice ∧
      ∃ state, Runs.exec (ChannelState.step sampleData)
          (ChannelState.start Table.empty) restoredTwice = some state ∧
        ¬ Agreement sampleData restoredTwice state) ∧
    (Runs.Lawful Introduced [] sharedId ∧
      ∃ state, Runs.exec (ChannelState.step sampleData)
          (ChannelState.start Table.empty) sharedId = some state ∧
        ¬ Agreement sampleData sharedId state) ∧
    (Runs.Lawful Introduced [] temporaryStored ∧
      ∃ state, Runs.exec (ChannelState.step sampleData)
          (ChannelState.start storedTemporary) temporaryStored = some state ∧
        ¬ Agreement sampleData temporaryStored state) := by
  refine ⟨⟨by decide, _, rfl, ?_⟩, ⟨by decide, _, rfl, ?_⟩,
    ⟨by decide, _, rfl, ?_⟩⟩
  · intro agreement
    have isSaved : SavedIn sampleData restoredTwice 0 :=
      ⟨_, List.mem_cons_of_mem _ (List.mem_cons_self ..), rfl, rfl⟩
    obtain ⟨channelId, row, named, only, _⟩ :=
      agreement.saved 0 _ rfl isSaved
    have current : currentId restoredTwice 0 = some channelId :=
      (agreement.current 0 _ rfl).symm.trans named
    have renamed : currentId restoredTwice 0 = some "second" := by decide
    have same : "second" = channelId := by
      simpa [renamed] using current
    subst channelId
    have absent : ∀ other ∈ ((Runs.exec (ChannelState.step sampleData)
        (ChannelState.start Table.empty) restoredTwice).map
          (fun state => state.channels.rows)).getD [],
        other.channelId ≠ some "second" := by
      decide
    exact absent row only.1 only.2.1
  · intro agreement
    obtain ⟨row, member, stored⟩ : ∃ row ∈
        ((Runs.exec (ChannelState.step sampleData)
          (ChannelState.start Table.empty) sharedId).map
            (fun state => state.channels.rows)).getD [],
        row.channelId = some "shared" := by
      decide
    exact agreement.distinct 0 1 _ _ (by decide) rfl rfl row member stored
      stored
  · intro agreement
    have isTemporary : TemporaryIn temporaryStored 0 "temporary" :=
      ⟨_, List.mem_cons_self .., rfl, rfl⟩
    obtain ⟨row, member, stored⟩ : ∃ row ∈
        ((Runs.exec (ChannelState.step sampleData)
          (ChannelState.start storedTemporary) temporaryStored).map
            (fun state => state.channels.rows)).getD [],
        row.channelId = some "temporary" := by
      decide
    exact agreement.temporary 0 "temporary" isTemporary (by decide) row member
      stored

end EclairWallet
