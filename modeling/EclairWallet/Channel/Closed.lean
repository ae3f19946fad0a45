import EclairWallet.Channel.Tracking

/-!
# Closed channels

Which rows a life of the process leaves inactive: those that were, and those
of the channels terminated in it.  `Closings` is the invariant of the life,
beside `Tracks`; a life starts with the table the one before it left.
-/

namespace EclairWallet

open Received

/-- A row under this id is inactive and was last updated at `date`. -/
def ListedInactive (channels : Table LocalChannelRow) (channelId : String)
    (date : Option Nat) : Prop :=
  ∃ row ∈ channels.rows, row.isActive = false ∧
    row.channelId = some channelId ∧ row.updated = date

/-- The session terminated, at the given time, the channel under this id, and
the channel had a row: one saved in the session or an earlier one. -/
def ClosedIn (data : ErrorData) (channels : Table LocalChannelRow)
    (received : Received) (channelId : String) (now : Nat) : Prop :=
  ∃ ref, (.terminated ref, now) ∈ received ∧
    currentId received ref = some channelId ∧
    (SavedIn data received ref ∨
      ∃ row ∈ channels.rows, row.channelId = some channelId)

/-- The session gives no channel an id that is listed as inactive. -/
def GivesFreshIds (channels : Table LocalChannelRow) (received : Received) :
    Prop :=
  ∀ event ∈ received, ∀ row ∈ channels.rows, row.isActive = false →
    event.1.givenId = none ∨ row.channelId ≠ event.1.givenId

/-- The messages of a life are orderly and give fresh ids. -/
def OrderlyLife (channels : Table LocalChannelRow) (received : Received) :
    Prop :=
  Runs.Lawful (Orderly channels) [] received ∧ GivesFreshIds channels received

instance (channels : Table LocalChannelRow) (received : Received) :
    Decidable (GivesFreshIds channels received) :=
  inferInstanceAs (Decidable (∀ event ∈ received, ∀ row ∈ channels.rows, _))

instance (channels : Table LocalChannelRow) (received : Received) :
    Decidable (OrderlyLife channels received) :=
  inferInstanceAs (Decidable (_ ∧ _))

/-- What a life of the process does to the table. -/
def life (data : ErrorData) (channels : Table LocalChannelRow)
    (received : Received) : Option (Table LocalChannelRow) :=
  (Runs.exec (ChannelState.step data) (ChannelState.start channels)
    received).map (fun state => state.channels)

/-- The rows of a session that started with the table `channels`: those under
no id of a saved or terminated channel are still there, an inactive one was
there or was marked, and what was marked stays so. -/
structure Closings (data : ErrorData) (channels : Table LocalChannelRow)
    (past : Received) (state : ChannelState) : Prop where
  framed : ∀ row ∈ channels.rows,
    (∀ ref channelId, row.channelId = some channelId →
      GivenIn past ref channelId →
      ¬ SavedIn data past ref ∧ ¬ TerminatedIn past ref) →
    row ∈ state.channels.rows
  explained : ∀ row ∈ state.channels.rows, row.isActive = false →
    row ∈ channels.rows ∨
      ∃ ref now, (.terminated ref, now) ∈ past ∧
        row.channelId = currentId past ref ∧ row.updated = some now
  recorded : ∀ channelId now, ClosedIn data channels past channelId now →
    ListedInactive state.channels channelId (some now)

namespace Closings

variable {data : ErrorData} {channels : Table LocalChannelRow}
  {past : Received} {state : ChannelState} {event : ChannelMessage × Nat}

theorem start (data : ErrorData) (channels : Table LocalChannelRow) :
    Closings data channels [] (ChannelState.start channels) := by
  constructor
  · intro row member _
    exact member
  · intro row member _
    exact Or.inl member
  · rintro channelId now ⟨ref, given, _⟩
    cases given

theorem not_terminatedIn (orderly : Orderly channels past event) :
    ¬ TerminatedIn past event.1.channel := by
  rintro ⟨earlier, member, same⟩
  exact orderly.1.2 earlier member same

theorem channel_ne {ref : ActorRef} {now : Nat}
    (orderly : Orderly channels past event)
    (ended : (.terminated ref, now) ∈ past) : event.1.channel ≠ ref := by
  rintro rfl
  exact not_terminatedIn orderly ⟨_, ended, rfl⟩

/-- Messages that leave the framed row alone so far did so before. -/
theorem frame_of_append {row : LocalChannelRow}
    (apart : ∀ ref channelId, row.channelId = some channelId →
      GivenIn (past ++ [event]) ref channelId →
      ¬ SavedIn data (past ++ [event]) ref ∧
        ¬ TerminatedIn (past ++ [event]) ref) :
    ∀ ref channelId, row.channelId = some channelId →
      GivenIn past ref channelId →
      ¬ SavedIn data past ref ∧ ¬ TerminatedIn past ref := by
  intro ref channelId named given
  obtain ⟨notSaved, notTerminated⟩ :=
    apart ref channelId named (givenIn_append.mpr (Or.inl given))
  constructor
  · exact fun saved => notSaved (savedIn_append.mpr (Or.inl saved))
  · exact fun ended => notTerminated (terminatedIn_append.mpr (Or.inl ended))

/-- A row that was marked, or was there, in the table before a message that is
no termination. -/
theorem explained_append {row : LocalChannelRow}
    (closings : Closings data channels past state)
    (orderly : Orderly channels past event)
    (member : row ∈ state.channels.rows) (inactive : row.isActive = false) :
    row ∈ channels.rows ∨
      ∃ ref now, (.terminated ref, now) ∈ past ++ [event] ∧
        row.channelId = currentId (past ++ [event]) ref ∧
        row.updated = some now := by
  rcases closings.explained row member inactive with
    initial | ⟨ref, now, ended, named, date⟩
  · exact Or.inl initial
  · refine Or.inr ⟨ref, now, List.mem_append_left _ ended, ?_, date⟩
    rw [currentId_append, if_neg (channel_ne orderly ended)]
    exact named

theorem closedIn_of_append {channelId : String} {now : Nat}
    (orderly : Orderly channels past event)
    (running : ∀ ref, event.1 ≠ .terminated ref)
    (closed : ClosedIn data channels (past ++ [event]) channelId now) :
    ClosedIn data channels past channelId now ∧
      ∃ ref, ref ≠ event.1.channel ∧ GivenIn past ref channelId := by
  obtain ⟨ref, given, current, hasRow⟩ := closed
  have ended : (.terminated ref, now) ∈ past := by
    rcases List.mem_append.mp given with earlier | last
    · exact earlier
    · rw [List.mem_singleton] at last
      exact (running ref (congrArg Prod.fst last).symm).elim
  have different := channel_ne orderly ended
  rw [currentId_append, if_neg different] at current
  refine ⟨⟨ref, ended, current, ?_⟩, ref, different.symm,
    givenIn_of_currentId current⟩
  rcases hasRow with saved | initial
  · exact Or.inl (by simpa [different] using saved)
  · exact Or.inr initial

/-- A message that leaves the table alone and terminates no channel. -/
theorem of_table_unchanged {next : ChannelState}
    (closings : Closings data channels past state)
    (orderly : Orderly channels past event)
    (running : ∀ ref, event.1 ≠ .terminated ref)
    (table : next.channels = state.channels) :
    Closings data channels (past ++ [event]) next := by
  constructor
  · intro row member apart
    rw [table]
    exact closings.framed row member (frame_of_append apart)
  · intro row member inactive
    rw [table] at member
    exact closings.explained_append orderly member inactive
  · intro channelId now closed
    rw [table]
    exact closings.recorded channelId now
      (closedIn_of_append orderly running closed).1

theorem saving {message : ChannelMessage} {now : Nat} {c : LocalChannel}
    (closings : Closings data channels past state)
    (tracks : Tracks data channels past state)
    (orderly : Orderly channels past (message, now))
    (saves : message.saves data = true)
    (running : ∀ ref, message ≠ .terminated ref)
    (found : state.channel? message.channel = some c) :
    Closings data channels (past ++ [(message, now)])
      (NodeSupervisor.onReceive data state now message).state := by
  have seen := ((tracks.live message.channel).mp (by simp [found])).1
  have entity := tracks.entity message.channel c found
  obtain ⟨old, current⟩ := tracks.named message.channel seen
  have oldGiven := givenIn_of_currentId current
  obtain ⟨name, named⟩ :
      ∃ name, message.givenId.or c.channelId = some name := by
    rw [entity.1, current]
    cases message.givenId with
    | none => exact ⟨old, rfl⟩
    | some given => exact ⟨given, rfl⟩
  have newGiven : GivenIn (past ++ [(message, now)]) message.channel name := by
    apply givenIn_of_currentId
    simp [← entity.1, named]
  obtain ⟨row, _, table, ⟨sameId, rowName, rowActive⟩, _⟩ :=
    NodeSupervisor.onReceive_of_saves now found saves named
  -- the row goes under one id of its channel in place of another
  have stays : ∀ other ∈ state.channels.rows,
      (∀ channelId, other.channelId = some channelId →
        ¬ GivenIn (past ++ [(message, now)]) message.channel channelId) →
      other ∈ (NodeSupervisor.onReceive data state now
        message).state.channels.rows := by
    intro other member notGiven
    rw [table]
    apply tracks.spared found sameId member
    · rw [rowName]
      exact fun same => notGiven name same newGiven
    · rw [entity.1, current]
      exact fun same =>
        notGiven old same (givenIn_append.mpr (Or.inl oldGiven))
  constructor
  · intro other member apart
    apply stays other (closings.framed other member (frame_of_append apart))
    intro channelId otherName given
    apply (apart message.channel channelId otherName given).1
    exact savedIn_append.mpr (Or.inr ⟨rfl, saves⟩)
  · intro other member inactive
    rw [table] at member
    rcases Table.mem_insertOrReplace_iff.mp member with new | ⟨kept, _⟩
    · rw [new, LocalChannelRow.saved_eq] at inactive
      have active : row.isActive = true := rowActive.trans entity.2
      exact absurd inactive (by simp [active])
    · exact closings.explained_append orderly kept inactive
  · intro channelId date closed
    obtain ⟨earlier, ref, different, given⟩ :=
      closedIn_of_append orderly running closed
    obtain ⟨other, member, inactive, otherName, updated⟩ :=
      closings.recorded channelId date earlier
    refine ⟨other, ?_, inactive, otherName, updated⟩
    apply stays other member
    intro own same ownGiven
    have equal : own = channelId :=
      Option.some.inj (same.symm.trans otherName)
    subst own
    exact different (tracks.apart_append orderly.2.2.1 ref message.channel
      channelId (givenIn_append.mpr (Or.inl given)) ownGiven)

theorem terminated {ref : ActorRef} {now : Nat} {c : LocalChannel}
    (closings : Closings data channels past state)
    (tracks : Tracks data channels past state)
    (orderly : Orderly channels past (.terminated ref, now))
    (found : state.channel? ref = some c) :
    Closings data channels (past ++ [(.terminated ref, now)])
      (NodeSupervisor.onReceive data state now (.terminated ref)).state := by
  have live := (tracks.live ref).mp (by simp [found])
  obtain ⟨channelId, current⟩ := tracks.named ref live.1
  have named := (tracks.entity ref c found).1.trans current
  have given := givenIn_of_currentId current
  have rows := NodeSupervisor.mem_rows_terminated_iff data now found named
  constructor
  · intro row member apart
    apply (rows row).mpr
    refine Or.inl ⟨closings.framed row member (frame_of_append apart), ?_⟩
    intro same
    have ended : TerminatedIn (past ++ [(.terminated ref, now)]) ref :=
      terminatedIn_append.mpr (Or.inr rfl)
    exact (apart ref channelId same
      (givenIn_append_terminated.mpr given)).2 ended
  · intro row member inactive
    rcases (rows row).mp member with ⟨kept, _⟩ | ⟨own, _, ownName, rfl⟩
    · rcases closings.explained row kept inactive with
        initial | ⟨other, date, ended, rowName, updated⟩
      · exact Or.inl initial
      · refine Or.inr ⟨other, date, List.mem_append_left _ ended, ?_, updated⟩
        rw [currentId_append_terminated]
        exact rowName
    · refine Or.inr ⟨ref, now, ?_, ?_, rfl⟩
      · exact List.mem_append_right _ (List.mem_singleton_self _)
      · rw [currentId_append_terminated, current]
        exact ownName
  · rintro name date ⟨other, ended, otherCurrent, hasRow⟩
    rw [currentId_append_terminated] at otherCurrent
    rw [savedIn_append_terminated] at hasRow
    rcases List.mem_append.mp ended with earlier | last
    · obtain ⟨row, member, inactive, rowName, updated⟩ :=
        closings.recorded name date ⟨other, earlier, otherCurrent, hasRow⟩
      refine ⟨row, (rows row).mpr (Or.inl ⟨member, ?_⟩), inactive, rowName,
        updated⟩
      rintro same
      have equal : name = channelId :=
        Option.some.inj (rowName.symm.trans same)
      subst name
      exact channel_ne orderly earlier (tracks.apart ref other channelId given
        (givenIn_of_currentId otherCurrent))
    · obtain ⟨rfl, rfl⟩ : other = ref ∧ date = now := by simpa using last
      obtain rfl : name = channelId :=
        Option.some.inj (otherCurrent.symm.trans current)
      -- the row was saved in this life, or is still the one of an earlier one
      obtain ⟨row, member, rowName⟩ :
          ∃ row ∈ state.channels.rows, row.channelId = some name := by
        by_cases isSaved : SavedIn data past other
        · obtain ⟨row, member, _, rowName, _⟩ :=
            tracks.saved other c found isSaved
          exact ⟨row, member, rowName.trans named⟩
        · obtain ⟨row, member, rowName⟩ := hasRow.resolve_left isSaved
          refine ⟨row, closings.framed row member ?_, rowName⟩
          intro own ownId ownName ownGiven
          obtain rfl : ownId = name :=
            Option.some.inj (ownName.symm.trans rowName)
          obtain rfl := tracks.apart own other ownId ownGiven given
          exact ⟨isSaved, live.2⟩
      exact ⟨_, (rows _).mpr (Or.inr ⟨row, member, rowName, rfl⟩), rfl,
        rowName, rfl⟩

theorem step {next : ChannelState}
    (closings : Closings data channels past state)
    (tracks : Tracks data channels past state)
    (orderly : Orderly channels past event)
    (result : ChannelState.step data state event = some next) :
    Closings data channels (past ++ [event]) next := by
  obtain ⟨message, now⟩ := event
  simp only [ChannelState.step, Option.some.injEq] at result
  subst next
  cases introduces : message.introduces with
  | true =>
      apply closings.of_table_unchanged orderly
      · rintro ref rfl
        cases introduces
      · exact (NodeSupervisor.onReceive_of_introduces data state now
          introduces).1
  | false =>
      have seen : Seen past message.channel := by
        by_contra unseen
        have first := orderly.1.1 (by
          intro earlier member same
          exact unseen ⟨earlier, member, same⟩)
        simp [introduces] at first
      obtain ⟨c, found⟩ := Option.isSome_iff_exists.mp
        ((tracks.live message.channel).mpr ⟨seen, not_terminatedIn orderly⟩)
      by_cases ends : message = .terminated message.channel
      · rw [ends] at found orderly ⊢
        exact closings.terminated tracks orderly found
      · have running : ∀ ref, message ≠ .terminated ref := by
          rintro ref rfl
          exact ends rfl
        cases saves : message.saves data with
        | true => exact closings.saving tracks orderly saves running found
        | false =>
            exact closings.of_table_unchanged orderly running
              (NodeSupervisor.onReceive_of_not_saves found saves introduces
                ends).1

theorem of_lawful {received : Received}
    (lawful : Runs.Lawful (Orderly channels) [] received)
    (run : Runs.exec (ChannelState.step data) (ChannelState.start channels)
      received = some state) :
    Closings data channels received state := by
  have preserved : ∀ past state event next,
      (Tracks data channels past state ∧ Closings data channels past state) →
      Orderly channels past event →
      ChannelState.step data state event = some next →
      Tracks data channels (past ++ [event]) next ∧
        Closings data channels (past ++ [event]) next := by
    rintro past state event next ⟨tracks, closings⟩ orderly result
    exact ⟨tracks.step orderly result, closings.step tracks orderly result⟩
  exact (Runs.invariant_of_lawful preserved
    ⟨Tracks.start data channels, start data channels⟩ lawful run).2

end Closings

end EclairWallet
