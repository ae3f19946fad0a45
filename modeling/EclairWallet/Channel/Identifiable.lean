import EclairWallet.Channel.Writes

/-!
# Channels without an id

Two handlers work on a blank entity when they do not know the channel:
`ChannelStateChanged` puts it into the map and then fails to save it,
`ChannelFailed` fails to save it.
-/

namespace EclairWallet

namespace NodeSupervisor

/-- The lookup by channel id, over the entries in any order.  A null channel
id in the way throws. -/
def getChannelFromId (channelId : String) :
    List (Sigma (fun _ : ActorRef => LocalChannel)) →
      Except JavaException
        (Option (Sigma (fun _ : ActorRef => LocalChannel)))
  | [] => .ok none
  | entry :: entries =>
      match entry.2.channelId with
      | none => .error .nullPointer
      | some own =>
          if own = channelId then .ok (some entry)
          else getChannelFromId channelId entries

theorem getChannelFromId_ok {channelId : String}
    {entries : List (Sigma (fun _ : ActorRef => LocalChannel))}
    (named : ∀ entry ∈ entries, entry.2.channelId ≠ none) :
    ∃ result, getChannelFromId channelId entries = .ok result := by
  induction entries with
  | nil => exact ⟨none, rfl⟩
  | cons entry entries induction =>
      obtain ⟨own, present⟩ :=
        Option.ne_none_iff_exists'.mp (named entry (by simp))
      simp only [getChannelFromId, present]
      split
      · exact ⟨some entry, rfl⟩
      · apply induction
        intro other member
        exact named other (by simp [member])

end NodeSupervisor

namespace ChannelState

/-- Every channel in the map has an id. -/
def AllNamed (state : ChannelState) : Prop :=
  ∀ ref c, state.channel? ref = some c → c.channelId ≠ none

/-- The message is handled without an exception; after it every channel in the
map has an id, every row it saved has one, and no lookup by id throws, in
whatever order the map is read. -/
structure Identified (data : ErrorData) (state : ChannelState)
    (received : ChannelMessage × Nat) : Prop where
  completed :
    (NodeSupervisor.onReceive data state received.2 received.1).thrown = none
  tracked :
    (NodeSupervisor.onReceive data state received.2 received.1).state.AllNamed
  saved : ∀ row ∈
    (NodeSupervisor.onReceive data state received.2
      received.1).state.channels.rows,
    row.channelId = none → row ∈ state.channels.rows
  found : ∀ entries, entries.Perm
      (NodeSupervisor.onReceive data state received.2
        received.1).state.activeChannelsMap.entries →
    ∀ channelId, ∃ result,
      NodeSupervisor.getChannelFromId channelId entries = .ok result

/-- A state change or an error that is recorded is about a channel in the
map. -/
def Known (data : ErrorData) (state : ChannelState)
    (received : ChannelMessage × Nat) : Prop :=
  match received.1 with
  | .channelStateChanged ref _ _ _ => (state.channel? ref).isSome = true
  | .channelFailed ref error =>
      (NodeSupervisor.closingErrorMessage data error).isSome = true →
        (state.channel? ref).isSome = true
  | _ => True

variable {data : ErrorData} {state : ChannelState} {ref : ActorRef}
  {c : LocalChannel} {now : Nat} {message : ChannelMessage}

theorem AllNamed.put (named : AllNamed state) (present : c.channelId ≠ none) :
    AllNamed (state.put ref c) := by
  intro other entity found
  by_cases same : other = ref
  · subst other
    rw [channel?_put_self, Option.some.injEq] at found
    subst entity
    exact present
  · rw [channel?_put_of_ne same] at found
    exact named other entity found

theorem AllNamed.change (named : AllNamed state)
    (present : c.channelId ≠ none) : AllNamed (state.change ref c) := by
  unfold ChannelState.change
  split
  · exact named.put present
  · exact named

theorem AllNamed.getChannel (named : AllNamed state)
    (known : (state.channel? ref).isSome = true) :
    (NodeSupervisor.getChannel state ref now).channelId ≠ none := by
  obtain ⟨entity, found⟩ := Option.isSome_iff_exists.mp known
  rw [NodeSupervisor.getChannel, found]
  exact named ref entity found

theorem AllNamed.entries (named : AllNamed state) :
    ∀ entry ∈ state.activeChannelsMap.entries, entry.2.channelId ≠ none := by
  intro given member
  obtain ⟨ref, entity⟩ := given
  apply named ref entity
  exact AList.mem_lookup_iff.mpr member

theorem save_thrown_iff (done next : List ChannelEffect) :
    (NodeSupervisor.save state ref c now done next).thrown = none ↔
      c.channelId ≠ none := by
  cases present : c.channelId with
  | none => simp [NodeSupervisor.save, DBHelper.saveLocalChannel, present]
  | some channelId =>
      simp [NodeSupervisor.save, DBHelper.saveLocalChannel, present]

theorem AllNamed.save (named : AllNamed state) (present : c.channelId ≠ none)
    (done next : List ChannelEffect) :
    AllNamed (NodeSupervisor.save state ref c now done next).state := by
  obtain ⟨channelId, some⟩ := Option.ne_none_iff_exists'.mp present
  simp only [NodeSupervisor.save,
    DBHelper.saveLocalChannel_of_named state.channels some]
  exact named.change present

theorem mem_of_insert_named {channels : Table LocalChannelRow}
    {written row : LocalChannelRow} (named : written.channelId ≠ none)
    (member : row ∈ (channels.insertOrReplace written).rows)
    (unnamed : row.channelId = none) : row ∈ channels.rows := by
  rcases Table.mem_insertOrReplace_iff.mp member with rfl | ⟨old, _⟩
  · rw [LocalChannelRow.saved_eq] at unnamed
    exact (named unnamed).elim
  · exact old

theorem named_of_saved {row : LocalChannelRow}
    (member : row ∈ (NodeSupervisor.onReceive data state now
      message).state.channels.rows)
    (unnamed : row.channelId = none) : row ∈ state.channels.rows := by
  cases writes : message.written data state now with
  | none =>
      rcases NodeSupervisor.channels_of_not_written writes with
        same | ⟨_, channelId, marked, _, _, _, stored, replaced⟩
      · rw [same] at member
        exact member
      · rw [replaced] at member
        refine mem_of_insert_named ?_ member unnamed
        have name := (DBHelper.getLocalChannel_eq_some_iff.mp stored).2
        simp [name]
  | some c =>
      cases name : c.channelId with
      | none =>
          rw [NodeSupervisor.channels_of_unnamed writes name] at member
          exact member
      | some channelId =>
          obtain ⟨written, replaced, kept⟩ :=
            NodeSupervisor.channels_of_written writes name
          rw [replaced] at member
          refine mem_of_insert_named ?_ member unnamed
          simp [kept.channelId, name]

theorem Identified.of_allNamed
    (completed : (NodeSupervisor.onReceive data state now message).thrown =
      none)
    (tracked : (NodeSupervisor.onReceive data state now
      message).state.AllNamed) :
    Identified data state (message, now) where
  completed := completed
  tracked := tracked
  saved := fun _ => named_of_saved
  found := by
    intro entries sameEntries channelId
    apply NodeSupervisor.getChannelFromId_ok
    intro entry member
    exact tracked.entries entry (sameEntries.mem_iff.mp member)

theorem AllNamed.terminated (named : AllNamed state) :
    (NodeSupervisor.onTerminated state ref now).thrown = none ∧
      AllNamed (NodeSupervisor.onTerminated state ref now).state := by
  have erased : ∀ channels, AllNamed
      { activeChannelsMap := state.activeChannelsMap.erase ref
        channels := channels } := by
    intro channels other entity found
    by_cases same : other = ref
    · subst other
      simp [channel?] at found
    · apply named other entity
      rw [channel?, AList.lookup_erase_ne same] at found
      exact found
  cases found : state.channel? ref with
  | none =>
      simp only [NodeSupervisor.onTerminated, found]
      exact ⟨trivial, erased _⟩
  | some c =>
      obtain ⟨channelId, name⟩ :=
        Option.ne_none_iff_exists'.mp (named ref c found)
      simp only [NodeSupervisor.onTerminated, found, name,
        DBHelper.channelTerminated]
      cases DBHelper.getLocalChannel state.channels channelId with
      | none => exact ⟨rfl, erased _⟩
      | some row => exact ⟨rfl, erased _⟩

/-- Step lemma: a message about a known channel keeps the map named. -/
theorem AllNamed.identified (named : AllNamed state)
    (known : Known data state (message, now)) :
    Identified data state (message, now) := by
  have saved : ∀ {state : ChannelState} {ref : ActorRef} {c : LocalChannel}
      (done next : List ChannelEffect), AllNamed state → c.channelId ≠ none →
      (NodeSupervisor.save state ref c now done next).thrown = none ∧
        AllNamed (NodeSupervisor.save state ref c now done next).state := by
    intro state ref c done next named present
    exact ⟨(save_thrown_iff done next).mpr present,
      named.save present done next⟩
  have handled :
      (NodeSupervisor.onReceive data state now message).thrown = none ∧
        AllNamed (NodeSupervisor.onReceive data state now message).state := by
    cases message with
    | channelCreated ref temporaryChannelId remoteNodeId =>
        exact ⟨rfl, named.put (by simp)⟩
    | channelRestored ref channelId remoteNodeId =>
        refine ⟨rfl, named.put ?_⟩
        cases DBHelper.getLocalChannel state.channels channelId with
        | none => simp
        | some row => simp
    | channelIdAssigned ref channelId =>
        simp only [NodeSupervisor.onReceive,
          NodeSupervisor.onChannelIdAssigned]
        cases found : state.channel? ref with
        | none => exact ⟨rfl, named⟩
        | some c => exact saved [] [] named (by simp)
    | shortChannelIdAssigned ref shortChannelId =>
        simp only [NodeSupervisor.onReceive,
          NodeSupervisor.onShortChannelIdAssigned]
        cases found : state.channel? ref with
        | none => exact ⟨rfl, named⟩
        | some c => exact ⟨rfl, named.put (named ref c found)⟩
    | channelSignatureReceived ref commitments =>
        simp only [NodeSupervisor.onReceive,
          NodeSupervisor.onChannelSignatureReceived]
        cases found : state.channel? ref with
        | none => exact ⟨rfl, named⟩
        | some c => exact ⟨rfl, named.put (named ref c found)⟩
    | terminated ref => exact named.terminated
    | channelFailed ref error =>
        simp only [NodeSupervisor.onReceive, NodeSupervisor.onChannelFailed]
        cases text : NodeSupervisor.closingErrorMessage data error with
        | none => exact ⟨rfl, named⟩
        | some closing =>
            apply saved [] [] named
            exact named.getChannel (known (by simp [text]))
    | localCommitConfirmed ref refundAtBlock =>
        simp only [NodeSupervisor.onReceive,
          NodeSupervisor.onLocalCommitConfirmed]
        cases found : state.channel? ref with
        | none => exact ⟨rfl, named⟩
        | some c => exact saved [] _ named (named ref c found)
    | channelStateChanged ref previousState currentState currentData =>
        have kept := NodeSupervisor.setState_keeps
          (NodeSupervisor.getChannel state ref now) currentState currentData
          (.channelStateChanged ref previousState currentState currentData)
        have present : (NodeSupervisor.getChannel state ref now).channelId ≠
            none := named.getChannel known
        rw [← kept.channelId] at present
        exact saved _ _ (named.put present) present
  exact Identified.of_allNamed handled.1 handled.2

/-- Step lemma: a blank entity cannot be saved. -/
theorem known_of_identified (identified : Identified data state (message, now)) :
    Known data state (message, now) := by
  have blank : ∀ ref, state.channel? ref = none →
      (NodeSupervisor.getChannel state ref now).channelId = none := by
    intro ref unknown
    simp [NodeSupervisor.getChannel, unknown, LocalChannel.new]
  have completed := identified.completed
  cases message with
  | channelFailed ref error =>
      intro present
      by_contra unknown
      have absent : state.channel? ref = none := by simpa using unknown
      obtain ⟨text, closing⟩ := Option.isSome_iff_exists.mp present
      simp only [NodeSupervisor.onReceive, NodeSupervisor.onChannelFailed,
        closing] at completed
      exact (save_thrown_iff [] []).mp completed (blank ref absent)
  | channelStateChanged ref previousState currentState currentData =>
      by_contra unknown
      have absent : state.channel? ref = none := by
        simpa [Known] using unknown
      have kept := NodeSupervisor.setState_keeps
        (NodeSupervisor.getChannel state ref now) currentState currentData
        (.channelStateChanged ref previousState currentState currentData)
      apply (save_thrown_iff _ _).mp completed
      exact kept.channelId.trans (blank ref absent)
  | _ => trivial

/-- A run keeps every tracked channel identifiable, and none of its handlers
fails, exactly when every state change and every recorded error is about a
channel in the map. -/
theorem identifiable_iff (data : ErrorData)
    (channels : Table LocalChannelRow)
    (received : List (ChannelMessage × Nat)) :
    Runs.StepsMeet (step data) (Identified data) (start channels) received ↔
      Runs.StepsMeet (step data) (Known data) (start channels) received := by
  have characterised : ∀ state event, AllNamed state →
      (Identified data state event ↔ Known data state event) := by
    intro state event named
    constructor
    · exact known_of_identified
    · exact named.identified
  have preserved : ∀ state event next, AllNamed state →
      Identified data state event → step data state event = some next →
        AllNamed next := by
    intro state event next _ identified result
    simp only [step, Option.some.injEq] at result
    subst next
    exact identified.tracked
  apply Runs.stepsMeet_iff_of_invariant characterised preserved
  · intro ref c found
    simp at found

/-- A state change for a channel the supervisor was never told about. -/
theorem unknown_channel_not_identifiable :
    ¬ ∀ (data : ErrorData) (channels : Table LocalChannelRow)
        (received : List (ChannelMessage × Nat)),
      Runs.StepsMeet (step data) (Identified data) (start channels)
        received := by
  intro claim
  have identified := (claim ⟨fun _ => true, fun _ => ""⟩ Table.empty
    [(.channelStateChanged 0 "OFFLINE" "NORMAL" .other, 1)]).1
  have known := known_of_identified identified
  cases known

end ChannelState

end EclairWallet
