import EclairWallet.Channel.Agreement
import EclairWallet.Channel.Closed
import EclairWallet.Screens.ChannelsList

/-!
# What the channels screen lists

Over any number of lives of the process, the list of active channels has the
running channels of the current life, and the list of inactive ones those that
were terminated in one of the lives.
-/

namespace EclairWallet

open Received ChannelsListFragment

variable {data : ErrorData} {channels : Table LocalChannelRow}
  {received : Received} {state : ChannelState}

/-- One of the lives terminated the channel under this id, at this time. -/
def ClosedInLives (data : ErrorData) (channels : Table LocalChannelRow)
    (lives : List Received) (channelId : String) (now : Nat) : Prop :=
  ∃ first received rest before, lives = first ++ received :: rest ∧
    Runs.exec (life data) channels first = some before ∧
    ClosedIn data before received channelId now

/-- The channel of this reference is in the map under this id. -/
def RunningAs (received : Received) (ref : ActorRef) (channelId : String) :
    Prop :=
  Seen received ref ∧ ¬ TerminatedIn received ref ∧
    currentId received ref = some channelId

theorem Tracks.runningAs_iff (tracks : Tracks data channels received state)
    {ref : ActorRef} {channelId : String} :
    RunningAs received ref channelId ↔
      ∃ c, state.channel? ref = some c ∧ c.channelId = some channelId := by
  rw [RunningAs, ← and_assoc, ← tracks.live ref, Option.isSome_iff_exists]
  constructor
  · rintro ⟨⟨c, found⟩, current⟩
    exact ⟨c, found, (tracks.entity ref c found).1.trans current⟩
  · rintro ⟨c, found, named⟩
    exact ⟨⟨c, found⟩, (tracks.entity ref c found).1.symm.trans named⟩

theorem listedInactive_iff (orderly : OrderlyLife channels received)
    (run : Runs.exec (ChannelState.step data) (ChannelState.start channels)
      received = some state) {channelId : String} {date : Option Nat} :
    ListedInactive state.channels channelId date ↔
      ListedInactive channels channelId date ∨
        ∃ now, date = some now ∧
          ClosedIn data channels received channelId now := by
  have tracks : Tracks data channels received state :=
    Tracks.of_lawful orderly.1 run
  have closings := Closings.of_lawful orderly.1 run
  constructor
  · rintro ⟨row, member, inactive, named, updated⟩
    rcases closings.explained row member inactive with
      initial | ⟨ref, now, ended, current, marked⟩
    · exact Or.inl ⟨row, initial, inactive, named, updated⟩
    · refine Or.inr ⟨now, updated.symm.trans marked, ref, ended,
        current.symm.trans named, ?_⟩
      rcases tracks.origin row member with
        ⟨first, firstMember, firstName⟩ | ⟨other, name, stored, given, saved⟩
      · exact Or.inr ⟨first, firstMember, firstName.trans named⟩
      · have same := tracks.apart other ref name given
          (givenIn_of_currentId (current.symm.trans stored))
        subst other
        exact Or.inl saved
  · intro cause
    rcases cause with ⟨row, member, inactive, named, updated⟩ | ⟨now, rfl,
      closed⟩
    · refine ⟨row, closings.framed row member ?_, inactive, named, updated⟩
      rintro ref name rowName ⟨event, earlier, _, given⟩
      rcases orderly.2 event earlier row member inactive with noId | other
      · rw [noId] at given
        cases given
      · exact (other (rowName.trans given.symm)).elim
    · exact closings.recorded channelId now closed

theorem listedInactive_life {next : Table LocalChannelRow}
    (orderly : OrderlyLife channels received)
    (result : life data channels received = some next) {channelId : String}
    {date : Option Nat} :
    ListedInactive next channelId date ↔
      ListedInactive channels channelId date ∨
        ∃ now, date = some now ∧
          ClosedIn data channels received channelId now := by
  obtain ⟨state, run, rfl⟩ := Option.map_eq_some_iff.mp result
  exact listedInactive_iff orderly run

/-- Run lemma: the inactive rows after any number of lives. -/
theorem listedInactive_lives {lives : List Received}
    {finish : Table LocalChannelRow}
    (orderly : Runs.StepsMeet (life data) OrderlyLife channels lives)
    (run : Runs.exec (life data) channels lives = some finish)
    {channelId : String} {date : Option Nat} :
    ListedInactive finish channelId date ↔
      ListedInactive channels channelId date ∨
        ∃ now, date = some now ∧
          ClosedInLives data channels lives channelId now := by
  have explained : ∀ before received after, OrderlyLife before received →
      life data before received = some after →
      (ListedInactive after channelId date ↔
        ListedInactive before channelId date ∨
          ∃ now, date = some now ∧
            ClosedIn data before received channelId now) :=
    fun _ _ _ orderly result => listedInactive_life orderly result
  rw [Runs.holds_iff_exists_step explained orderly run]
  apply or_congr_right
  constructor
  · rintro ⟨first, received, rest, before, same, reached, now, isDate, closed⟩
    exact ⟨now, isDate, first, received, rest, before, same, reached, closed⟩
  · rintro ⟨now, isDate, first, received, rest, before, same, reached, closed⟩
    exact ⟨first, received, rest, before, same, reached, now, isDate, closed⟩

theorem Tracks.nodup_active (tracks : Tracks data channels received state) :
    ((updateActiveChannelsList state).map
      (fun c => c.channelId)).Nodup := by
  rw [updateActiveChannelsList, List.map_map]
  apply List.Nodup.map_on _ state.activeChannelsMap.nodupKeys.nodup
  rintro ⟨left, c⟩ leftMember ⟨right, d⟩ rightMember sameId
  have leftFound : state.channel? left = some c :=
    AList.mem_lookup_iff.mpr leftMember
  have rightFound : state.channel? right = some d :=
    AList.mem_lookup_iff.mpr rightMember
  have leftSeen := ((tracks.live left).mp (by simp [leftFound])).1
  obtain ⟨channelId, current⟩ := tracks.named left leftSeen
  have rightCurrent : currentId received right = some channelId := by
    rw [← (tracks.entity right d rightFound).1, ← current,
      ← (tracks.entity left c leftFound).1]
    exact sameId.symm
  have same := tracks.apart left right channelId
    (givenIn_of_currentId current) (givenIn_of_currentId rightCurrent)
  subst right
  have equal : c = d := Option.some.inj (leftFound.symm.trans rightFound)
  rw [equal]

theorem not_listedInactive (orderly : OrderlyLife channels received)
    (run : Runs.exec (ChannelState.step data) (ChannelState.start channels)
      received = some state) {ref : ActorRef} {channelId : String}
    (running : RunningAs received ref channelId) {date : Option Nat} :
    ¬ ListedInactive state.channels channelId date := by
  have tracks : Tracks data channels received state :=
    Tracks.of_lawful orderly.1 run
  obtain ⟨_, notTerminated, current⟩ := running
  intro listed
  rcases (listedInactive_iff orderly run).mp listed with
    ⟨row, member, inactive, named, _⟩ | ⟨now, _, other, ended, closed, _⟩
  · obtain ⟨event, earlier, _, given⟩ := givenIn_of_currentId current
    rcases orderly.2 event earlier row member inactive with noId | different
    · rw [noId] at given
      cases given
    · exact different (named.trans given.symm)
  · have same := tracks.apart other ref channelId
      (givenIn_of_currentId closed) (givenIn_of_currentId current)
    subst other
    exact notTerminated ⟨_, ended, rfl⟩

/-- What the two lists show in the last of a number of lives. -/
structure ChannelsListed (data : ErrorData) (channels : Table LocalChannelRow)
    (lives : List Received) (received : Received) (state : ChannelState) :
    Prop where
  active : ∀ channelId,
    (∃ c ∈ updateActiveChannelsList state, c.channelId = some channelId) ↔
      ∃ ref, RunningAs received ref channelId
  inactive : ∀ channelId date,
    (∃ row ∈ updateInactiveChannelsList state,
      row.channelId = some channelId ∧ row.updated = date) ↔
      ListedInactive channels channelId date ∨
        ∃ now, date = some now ∧
          ClosedInLives data channels (lives ++ [received]) channelId now
  once : ((updateActiveChannelsList state).map (fun c => c.channelId) ++
    (updateInactiveChannelsList state).map (fun row => row.channelId)).Nodup
  latestFirst : (updateInactiveChannelsList state).Pairwise
    (fun row other => DBHelper.updatedDesc row other = true)

/-- Over any number of lives of the process, each ended anywhere, the list of
active channels has the ids of the running channels, and the list of inactive
ones those of the channels terminated in one of the lives, each since its
termination, the latest first; no id is listed twice. -/
theorem channels_listed_once {lives : List Received}
    {table : Table LocalChannelRow}
    (orderly : Runs.StepsMeet (life data) OrderlyLife channels
      (lives ++ [received]))
    (earlier : Runs.exec (life data) channels lives = some table)
    (run : Runs.exec (ChannelState.step data) (ChannelState.start table)
      received = some state) :
    ChannelsListed data channels lives received state := by
  have last : OrderlyLife table received :=
    (Runs.stepsMeet_cons_iff.mp (orderly.rest earlier)).1
  have tracks : Tracks data table received state :=
    Tracks.of_lawful last.1 run
  have whole : Runs.exec (life data) channels (lives ++ [received]) =
      some state.channels := by
    apply Runs.exec_append_eq_some_iff.mpr
    exact ⟨table, earlier, by simp [life, run]⟩
  have inactiveMember : ∀ row, row ∈ updateInactiveChannelsList state ↔
      row ∈ state.channels.rows ∧ row.isActive = false :=
    fun _ => DBHelper.mem_getInactiveChannels_iff
  constructor
  · intro channelId
    constructor
    · rintro ⟨c, member, named⟩
      obtain ⟨ref, found⟩ := mem_updateActiveChannelsList_iff.mp member
      exact ⟨ref, tracks.runningAs_iff.mpr ⟨c, found, named⟩⟩
    · rintro ⟨ref, running⟩
      obtain ⟨c, found, named⟩ := tracks.runningAs_iff.mp running
      exact ⟨c, mem_updateActiveChannelsList_iff.mpr ⟨ref, found⟩, named⟩
  · intro channelId date
    rw [← listedInactive_lives orderly whole]
    constructor
    · rintro ⟨row, member, named, updated⟩
      obtain ⟨stored, inactive⟩ := (inactiveMember row).mp member
      exact ⟨row, stored, inactive, named, updated⟩
    · rintro ⟨row, stored, inactive, named, updated⟩
      exact ⟨row, (inactiveMember row).mpr ⟨stored, inactive⟩, named, updated⟩
  · apply List.nodup_append.mpr
    refine ⟨tracks.nodup_active, DBHelper.nodup_getInactiveChannels _, ?_⟩
    intro left leftMember right rightMember same
    subst right
    obtain ⟨c, active, rfl⟩ := List.mem_map.mp leftMember
    obtain ⟨row, inactive, sameId⟩ := List.mem_map.mp rightMember
    obtain ⟨ref, found⟩ := mem_updateActiveChannelsList_iff.mp active
    obtain ⟨stored, isInactive⟩ := (inactiveMember row).mp inactive
    have seen := ((tracks.live ref).mp (by simp [found])).1
    obtain ⟨channelId, current⟩ := tracks.named ref seen
    have named := (tracks.entity ref c found).1.trans current
    have running := tracks.runningAs_iff.mpr ⟨c, found, named⟩
    exact not_listedInactive last run running
      ⟨row, stored, isInactive, sameId.trans named, rfl⟩
  · exact DBHelper.pairwise_getInactiveChannels state.channels

/-- The first life closes one channel and is killed with another running; the
second restores the other and closes it. -/
def twoLives : List Received :=
  [[(.channelCreated 0 "temporary" "node", 1),
    (.channelStateChanged 0 "WAIT_FOR_INIT_INTERNAL" "WAIT_FOR_OPEN" .other, 2),
    (.channelCreated 1 "second" "node", 3),
    (.channelIdAssigned 0 "first", 4),
    (.channelStateChanged 1 "WAIT_FOR_FUNDING_LOCKED" "NORMAL" .other, 5),
    (.terminated 0, 6)],
   [(.channelRestored 0 "second" "node", 7),
    (.channelCreated 1 "third" "node", 8),
    (.terminated 0, 9)]]

theorem twoLives_listed :
    ∃ table state,
      ChannelsListed sampleData Table.empty twoLives
        [(.channelCreated 0 "third" "node", 10)] state ∧
      Runs.exec (life sampleData) Table.empty twoLives = some table ∧
      (updateInactiveChannelsList state).map
        (fun row => (row.channelId, row.updated)) =
          [(some "second", some 9), (some "first", some 6)] := by
  have orderly : Runs.StepsMeet (life sampleData) OrderlyLife Table.empty
      (twoLives ++ [[(.channelCreated 0 "third" "node", 10)]]) := by decide
  refine ⟨_, _, channels_listed_once orderly rfl rfl, rfl, ?_⟩
  decide

end EclairWallet
