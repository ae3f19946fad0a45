import EclairWallet.Channel.Session

/-!
# Tracking channels through a session

The invariant `Tracks` compares what the messages say about a channel with the
map and with the table.  There is one step lemma for each kind of message.
-/

namespace EclairWallet

open Received

/-- The invariant of a session that started with the table `channels`. -/
structure Tracks (data : ErrorData) (channels : Table LocalChannelRow)
    (past : Received) (state : ChannelState) : Prop where
  apart : ∀ left right channelId, GivenIn past left channelId →
    GivenIn past right channelId → left = right
  live : ∀ ref, (state.channel? ref).isSome = true ↔
    Seen past ref ∧ ¬ TerminatedIn past ref
  named : ∀ ref, Seen past ref → ∃ channelId,
    currentId past ref = some channelId
  entity : ∀ ref c, state.channel? ref = some c →
    c.channelId = currentId past ref ∧ c.isActive = true
  unsaved : ∀ ref c, state.channel? ref = some c → ¬ SavedIn data past ref →
    c.id = none
  saved : ∀ ref c, state.channel? ref = some c → SavedIn data past ref →
    ∃ row ∈ state.channels.rows, row.id = c.id ∧
      row.channelId = c.channelId ∧ row.isActive = true
  stored : ∀ ref, TerminatedIn past ref → SavedIn data past ref →
    ∃ row ∈ state.channels.rows, row.channelId = currentId past ref
  marked : ∀ ref, TerminatedIn past ref → ∀ row ∈ state.channels.rows,
    row.channelId = currentId past ref → row.isActive = false
  temporary : ∀ ref channelId, TemporaryIn past ref channelId →
    ∀ row ∈ state.channels.rows, row.channelId = some channelId →
      currentId past ref = some channelId ∧ SavedIn data past ref
  origin : ∀ row ∈ state.channels.rows,
    (∃ first ∈ channels.rows, first.channelId = row.channelId) ∨
      ∃ ref channelId, row.channelId = some channelId ∧
        GivenIn past ref channelId ∧ SavedIn data past ref

namespace Tracks

variable {data : ErrorData} {channels : Table LocalChannelRow}
  {past : Received} {state : ChannelState} {event : ChannelMessage × Nat}

theorem start (data : ErrorData) (channels : Table LocalChannelRow) :
    Tracks data channels [] (ChannelState.start channels) := by
  constructor
  · simp [GivenIn]
  · simp [Seen]
  · simp [Seen]
  · simp
  · simp
  · simp
  · simp [TerminatedIn]
  · simp [TerminatedIn]
  · simp [TemporaryIn]
  · intro row member
    exact Or.inl ⟨row, member, rfl⟩

theorem apart_append (tracks : Tracks data channels past state)
    (fresh : event.1.givenId ≠ none → ∀ earlier ∈ past,
      earlier.1.givenId = event.1.givenId →
        earlier.1.channel = event.1.channel) :
    ∀ left right channelId, GivenIn (past ++ [event]) left channelId →
      GivenIn (past ++ [event]) right channelId → left = right := by
  have newApart : ∀ other channelId, GivenIn past other channelId →
      event.1.givenId = some channelId → other = event.1.channel := by
    intro other channelId given same
    obtain ⟨earlier, member, rfl, given⟩ := given
    exact fresh (by simp [same]) earlier member (given.trans same.symm)
  intro left right channelId leftGiven rightGiven
  rw [givenIn_append] at leftGiven rightGiven
  rcases leftGiven with leftOld | ⟨rfl, leftNew⟩
  · rcases rightGiven with rightOld | ⟨rfl, rightNew⟩
    · exact tracks.apart left right channelId leftOld rightOld
    · exact newApart left channelId leftOld rightNew
  · rcases rightGiven with rightOld | ⟨rfl, rightNew⟩
    · exact (newApart right channelId rightOld leftNew).symm
    · rfl

theorem seen_of_savedIn {ref : ActorRef} (saved : SavedIn data past ref) :
    Seen past ref := by
  obtain ⟨earlier, member, same, _⟩ := saved
  exact ⟨earlier, member, same⟩

theorem seen_of_terminatedIn {ref : ActorRef}
    (terminated : TerminatedIn past ref) : Seen past ref := by
  obtain ⟨earlier, member, same⟩ := terminated
  exact ⟨earlier, member, by rw [same]; rfl⟩

theorem seen_of_givenIn {ref : ActorRef} {channelId : String}
    (given : GivenIn past ref channelId) : Seen past ref := by
  obtain ⟨earlier, member, same, _⟩ := given
  exact ⟨earlier, member, same⟩

theorem currentId_ne (tracks : Tracks data channels past state)
    {ref other : ActorRef} {channelId : String} (different : other ≠ ref)
    (current : currentId past ref = some channelId) :
    currentId past other ≠ some channelId := by
  intro same
  exact different (tracks.apart other ref channelId
    (givenIn_of_currentId same) (givenIn_of_currentId current))

theorem of_table_unchanged {next : ChannelState} {c : LocalChannel}
    (tracks : Tracks data channels past state)
    (apart : ∀ left right channelId,
      GivenIn (past ++ [event]) left channelId →
      GivenIn (past ++ [event]) right channelId → left = right)
    (table : next.channels = state.channels)
    (others : ∀ other, other ≠ event.1.channel →
      next.channel? other = state.channel? other)
    (after : next.channel? event.1.channel = some c)
    (notSaving : event.1.saves data = false)
    (running : ¬ TerminatedIn (past ++ [event]) event.1.channel)
    (current : ∃ channelId,
      currentId (past ++ [event]) event.1.channel = some channelId)
    (entity : c.channelId = currentId (past ++ [event]) event.1.channel ∧
      c.isActive = true)
    (unsaved : ¬ SavedIn data past event.1.channel → c.id = none)
    (saved : SavedIn data past event.1.channel →
      ∃ row ∈ state.channels.rows, row.id = c.id ∧
        row.channelId = c.channelId ∧ row.isActive = true)
    (temporary : ∀ channelId,
      TemporaryIn (past ++ [event]) event.1.channel channelId →
      ∀ row ∈ state.channels.rows, row.channelId = some channelId →
        currentId (past ++ [event]) event.1.channel = some channelId ∧
          SavedIn data past event.1.channel) :
    Tracks data channels (past ++ [event]) next := by
  have savedSame : ∀ ref, SavedIn data (past ++ [event]) ref ↔
      SavedIn data past ref := by
    intro ref
    simp [notSaving]
  have notTerminated : ∀ ref, event.1 ≠ .terminated ref := by
    intro ref same
    apply running
    rw [terminatedIn_append, same]
    exact Or.inr rfl
  have earlier : ∀ ref, TerminatedIn (past ++ [event]) ref →
      TerminatedIn past ref ∧ event.1.channel ≠ ref := by
    intro ref terminated
    refine ⟨by simpa [notTerminated] using terminated, ?_⟩
    rintro rfl
    exact running terminated
  constructor
  · exact apart
  · intro ref
    by_cases same : ref = event.1.channel
    · subst ref
      simp [after, running]
    · rw [others ref same, tracks.live ref]
      simp [notTerminated, Ne.symm same]
  · intro ref seen
    by_cases same : ref = event.1.channel
    · subst ref
      exact current
    · have earlier : Seen past ref := by
        simpa [Ne.symm same] using seen
      simpa [Ne.symm same] using tracks.named ref earlier
  · intro ref other found
    by_cases same : ref = event.1.channel
    · subst ref
      have equal : c = other := by simpa [after] using found
      subst other
      exact entity
    · rw [others ref same] at found
      simpa [Ne.symm same] using tracks.entity ref other found
  · intro ref other found notSaved
    rw [savedSame] at notSaved
    by_cases same : ref = event.1.channel
    · subst ref
      have equal : c = other := by simpa [after] using found
      subst other
      exact unsaved notSaved
    · rw [others ref same] at found
      exact tracks.unsaved ref other found notSaved
  · intro ref other found isSaved
    rw [savedSame] at isSaved
    rw [table]
    by_cases same : ref = event.1.channel
    · subst ref
      have equal : c = other := by simpa [after] using found
      subst other
      exact saved isSaved
    · rw [others ref same] at found
      exact tracks.saved ref other found isSaved
  · intro ref terminated isSaved
    rw [savedSame] at isSaved
    rw [table]
    obtain ⟨before, different⟩ := earlier ref terminated
    simpa [different] using tracks.stored ref before isSaved
  · intro ref terminated row member
    rw [table] at member
    obtain ⟨before, different⟩ := earlier ref terminated
    simpa [different] using tracks.marked ref before row member
  · intro ref channelId isTemporary row member stored
    rw [table] at member
    rw [savedSame]
    by_cases same : ref = event.1.channel
    · subst ref
      exact temporary channelId isTemporary row member stored
    · have earlier : TemporaryIn past ref channelId := by
        simpa [Ne.symm same] using isTemporary
      simpa [Ne.symm same] using
        tracks.temporary ref channelId earlier row member stored
  · intro row member
    rw [table] at member
    rcases tracks.origin row member with
      initial | ⟨ref, channelId, stored, given, isSaved⟩
    · exact Or.inl initial
    · exact Or.inr ⟨ref, channelId, stored,
        givenIn_append.mpr (Or.inl given), (savedSame ref).mpr isSaved⟩

theorem introduced {message : ChannelMessage} {now : Nat}
    (tracks : Tracks data channels past state)
    (orderly : Orderly channels past (message, now))
    (introduces : message.introduces = true)
    (unseen : ¬ Seen past message.channel) :
    Tracks data channels (past ++ [(message, now)])
      (NodeSupervisor.onReceive data state now message).state := by
  obtain ⟨_, _, fresh, unstored⟩ := orderly
  have absent : state.channel? message.channel = none := by
    have live := tracks.live message.channel
    cases found : state.channel? message.channel with
    | none => rfl
    | some c => simp [found, unseen] at live
  have notSaved : ¬ SavedIn data past message.channel :=
    fun saved => unseen (seen_of_savedIn saved)
  have running : ¬ TerminatedIn (past ++ [(message, now)]) message.channel := by
    rw [terminatedIn_append]
    intro given
    rcases given with earlier | same
    · exact unseen (seen_of_terminatedIn earlier)
    · have kind : message = .terminated message.channel := same
      rw [kind] at introduces
      cases introduces
  have noTemporary : ∀ channelId,
      TemporaryIn (past ++ [(message, now)]) message.channel channelId →
      ∀ row ∈ state.channels.rows, row.channelId ≠ some channelId := by
    intro channelId isTemporary row member stored
    have given := givenIn_of_temporaryIn isTemporary
    rw [temporaryIn_append] at isTemporary
    rcases isTemporary with earlier | ⟨_, temporary⟩
    · exact unseen (seen_of_givenIn (givenIn_of_temporaryIn earlier))
    · rcases tracks.origin row member with
        ⟨initial, initialMember, sameId⟩ |
        ⟨ref, other, otherStored, otherGiven, _⟩
      · apply unstored (by simp [temporary]) initial initialMember
        exact sameId.trans (stored.trans temporary.symm)
      · have equal : other = channelId := by
          simpa [stored] using otherStored.symm
        subst other
        have same := tracks.apart_append fresh ref message.channel channelId
          (givenIn_append.mpr (Or.inl otherGiven)) given
        subst ref
        exact unseen (seen_of_givenIn otherGiven)
  have notSaving := message.saves_of_introduces data introduces
  obtain ⟨channelId, given⟩ := message.exists_givenId_of_introduces introduces
  obtain ⟨table, after, found, noId, name, active⟩ :=
    NodeSupervisor.onReceive_of_introduces data state now introduces
  have new : NodeSupervisor.getChannel state message.channel now =
      LocalChannel.new now := by
    simp [NodeSupervisor.getChannel, absent]
  rw [new] at noId active
  apply tracks.of_table_unchanged (tracks.apart_append fresh) table
    (fun _ different => NodeSupervisor.channel?_of_ne different) found
    notSaving running
  · exact ⟨channelId, by simp [given]⟩
  · exact ⟨by simp [name, given], active⟩
  · exact fun _ => noId
  · exact fun saved => (notSaved saved).elim
  · intro other isTemporary row member stored
    exact (noTemporary other isTemporary row member stored).elim

theorem repeated {message : ChannelMessage} {now : Nat} {c : LocalChannel}
    (tracks : Tracks data channels past state)
    (orderly : Orderly channels past (message, now))
    (introduces : message.introduces = true)
    (found : state.channel? message.channel = some c) :
    Tracks data channels (past ++ [(message, now)])
      (NodeSupervisor.onReceive data state now message).state := by
  obtain ⟨_, repeats, fresh, unstored⟩ := orderly
  have live := (tracks.live message.channel).mp (by simp [found])
  have sameName : message.givenId = currentId past message.channel := by
    rcases repeats introduces with first | same
    · obtain ⟨earlier, member, sameChannel⟩ := live.1
      exact (first earlier member sameChannel).elim
    · exact same
  have entity := tracks.entity message.channel c found
  have notSaving := message.saves_of_introduces data introduces
  obtain ⟨channelId, given⟩ := message.exists_givenId_of_introduces introduces
  have current := sameName.symm.trans given
  obtain ⟨table, after, afterFound, id, name, active⟩ :=
    NodeSupervisor.onReceive_of_introduces data state now introduces
  have known : NodeSupervisor.getChannel state message.channel now = c := by
    simp [NodeSupervisor.getChannel, found]
  rw [known] at id active
  apply tracks.of_table_unchanged (tracks.apart_append fresh) table
    (fun _ different => NodeSupervisor.channel?_of_ne different) afterFound
    notSaving
  · rw [terminatedIn_append]
    intro given
    rcases given with earlier | same
    · exact live.2 earlier
    · have kind : message = .terminated message.channel := same
      rw [kind] at introduces
      cases introduces
  · exact ⟨channelId, by simp [given]⟩
  · exact ⟨by simp [name, given], active.trans entity.2⟩
  · intro notSaved
    exact id.trans (tracks.unsaved message.channel c found notSaved)
  · intro saved
    rw [id, name, sameName, ← entity.1]
    exact tracks.saved message.channel c found saved
  · intro other isTemporary row member stored
    rw [temporaryIn_append] at isTemporary
    rcases isTemporary with earlier | ⟨_, temporary⟩
    · have old :=
        tracks.temporary message.channel other earlier row member stored
      simp [given, ← current, old.1, old.2]
    · -- A row under the repeated id is no initial row, so it was saved.
      rcases tracks.origin row member with
        ⟨initial, initialMember, sameId⟩ |
        ⟨ref, otherId, otherStored, otherGiven, isSaved⟩
      · apply (unstored (by simp [temporary]) initial initialMember _).elim
        exact sameId.trans (stored.trans temporary.symm)
      · have sameGiven := message.givenId_of_temporaryId temporary
        have equal : otherId = other := by
          simpa [stored] using otherStored.symm
        subst otherId
        have ownGiven : GivenIn past message.channel other :=
          givenIn_of_currentId (sameName.symm.trans sameGiven)
        have same := tracks.apart ref message.channel other otherGiven ownGiven
        subst ref
        exact ⟨by simp [sameGiven], isSaved⟩

theorem changed {message : ChannelMessage} {now : Nat} {c : LocalChannel}
    (tracks : Tracks data channels past state)
    (orderly : Orderly channels past (message, now))
    (known : message.introduces = false)
    (notSaving : message.saves data = false)
    (running : message ≠ .terminated message.channel)
    (found : state.channel? message.channel = some c) :
    Tracks data channels (past ++ [(message, now)])
      (NodeSupervisor.onReceive data state now message).state := by
  obtain ⟨_, _, fresh, _⟩ := orderly
  have noId := message.givenId_eq_none known notSaving
  have noTemporary := message.temporaryId_eq_none known
  have live := (tracks.live message.channel).mp (by simp [found])
  have entity := tracks.entity message.channel c found
  obtain ⟨table, after, afterFound, sameId, sameName, sameActive⟩ :=
    NodeSupervisor.onReceive_of_not_saves found notSaving known running
  apply tracks.of_table_unchanged (tracks.apart_append fresh) table
    (fun _ different => NodeSupervisor.channel?_of_ne different) afterFound
    notSaving
  · rw [terminatedIn_append]
    intro given
    rcases given with earlier | same
    · exact live.2 earlier
    · exact running same
  · simpa [noId] using tracks.named message.channel live.1
  · simp [noId, sameName, sameActive, entity]
  · intro notSaved
    rw [sameId]
    exact tracks.unsaved message.channel c found notSaved
  · intro saved
    rw [sameId, sameName]
    exact tracks.saved message.channel c found saved
  · intro channelId isTemporary row member stored
    have earlier : TemporaryIn past message.channel channelId := by
      simpa [noTemporary] using isTemporary
    simpa [noId] using
      tracks.temporary message.channel channelId earlier row member stored

/-- Saving a channel spares the rows under other ids than its old one and
its new one. -/
theorem spared {ref : ActorRef} {c : LocalChannel} {row other : LocalChannelRow}
    (tracks : Tracks data channels past state)
    (found : state.channel? ref = some c) (sameId : row.id = c.id)
    (member : other ∈ state.channels.rows)
    (notNew : other.channelId ≠ row.channelId)
    (notOld : other.channelId ≠ c.channelId) :
    other ∈ (state.channels.insertOrReplace row).rows := by
  apply Table.mem_insertOrReplace_iff.mpr
  refine Or.inr ⟨member, ?_⟩
  intro given
  rcases given with samePrimary | sameUnique
  · cases primary : c.id with
    | none =>
        have new : Keyed.primary row = none := sameId.trans primary
        exact Table.primary_ne_assigned_of_new new member samePrimary
    | some id =>
        have isSaved : SavedIn data past ref := by
          by_contra notSaved
          have none := tracks.unsaved ref c found notSaved
          simp [primary] at none
        obtain ⟨own, ownMember, ownId, ownName, _⟩ :=
          tracks.saved ref c found isSaved
        have assigned : state.channels.assigned row = id :=
          state.channels.assigned_of_primary (sameId.trans primary)
        have same : other = own := by
          apply Table.eq_of_primary member ownMember
          rw [samePrimary, assigned, LocalChannelRow.primary_eq, ownId, primary]
        subst other
        exact notOld ownName
  · exact notNew sameUnique

theorem replaced {ref : ActorRef} {c : LocalChannel}
    {row other : LocalChannelRow}
    (tracks : Tracks data channels past state)
    (found : state.channel? ref = some c) (sameId : row.id = c.id)
    (isSaved : SavedIn data past ref)
    (member : other ∈ state.channels.rows)
    (old : other.channelId = c.channelId) :
    state.channels.Conflicts row other := by
  obtain ⟨own, ownMember, ownId, ownName, _⟩ :=
    tracks.saved ref c found isSaved
  have same : other = own := by
    apply Table.eq_of_unique member ownMember
    simp [old, ownName]
  subst other
  obtain ⟨id, primary⟩ :=
    Option.ne_none_iff_exists'.mp (state.channels.stored own ownMember)
  left
  rw [primary, state.channels.assigned_of_primary]
  rw [LocalChannelRow.primary_eq, sameId, ← ownId]
  exact primary

/-- What saving the channel of an event does, from a tracked state to the
next one: `row` is stored under `name` in place of the row of `c`. -/
structure Saving (data : ErrorData) (past : Received) (state : ChannelState)
    (event : ChannelMessage × Nat) (next : ChannelState) (c : LocalChannel)
    (row : LocalChannelRow) (name : String) : Prop where
  apart : ∀ left right channelId,
    GivenIn (past ++ [event]) left channelId →
    GivenIn (past ++ [event]) right channelId → left = right
  known : event.1.introduces = false
  saves : event.1.saves data = true
  found : state.channel? event.1.channel = some c
  sameId : row.id = c.id
  rowName : row.channelId = some name
  rowActive : row.isActive = true
  current : currentId (past ++ [event]) event.1.channel = some name
  table : next.channels = state.channels.insertOrReplace row
  others : ∀ other, other ≠ event.1.channel →
    next.channel? other = state.channel? other
  after : ∃ written, next.channel? event.1.channel = some written ∧
    written.id = some (state.channels.assigned row) ∧
    written.channelId = some name ∧ written.isActive = true

namespace Saving

variable {next : ChannelState} {c : LocalChannel} {row : LocalChannelRow}
  {name : String}

theorem notTerminated (saving : Saving data past state event next c row name)
    (ref : ActorRef) : event.1 ≠ .terminated ref := by
  intro same
  have saves := saving.saves
  rw [same] at saves
  cases saves

theorem temporaryIn_iff (saving : Saving data past state event next c row name)
    {ref : ActorRef} {channelId : String} :
    TemporaryIn (past ++ [event]) ref channelId ↔
      TemporaryIn past ref channelId := by
  simp [event.1.temporaryId_eq_none saving.known]

theorem savedIn_of_ne {ref : ActorRef} (different : ref ≠ event.1.channel) :
    SavedIn data (past ++ [event]) ref ↔ SavedIn data past ref := by
  simp [Ne.symm different]

/-- A row under an id given to another channel stays. -/
theorem stays (tracks : Tracks data channels past state)
    (saving : Saving data past state event next c row name) {ref : ActorRef}
    {channelId : String} {other : LocalChannelRow}
    (different : ref ≠ event.1.channel) (given : GivenIn past ref channelId)
    (member : other ∈ state.channels.rows)
    (stored : other.channelId = some channelId) :
    other ∈ next.channels.rows := by
  have otherGiven : GivenIn (past ++ [event]) ref channelId :=
    givenIn_append.mpr (Or.inl given)
  have newGiven := givenIn_of_currentId saving.current
  have entity := (tracks.entity event.1.channel c saving.found).1
  rw [saving.table]
  apply tracks.spared saving.found saving.sameId member
  · rw [stored, saving.rowName]
    rintro equal
    simp only [Option.some.injEq] at equal
    subst channelId
    exact different (saving.apart ref event.1.channel name otherGiven newGiven)
  · rw [stored, entity]
    intro equal
    have oldGiven : GivenIn (past ++ [event]) event.1.channel channelId :=
      givenIn_append.mpr (Or.inl (givenIn_of_currentId equal.symm))
    exact different
      (saving.apart ref event.1.channel channelId otherGiven oldGiven)

theorem current_stays (tracks : Tracks data channels past state)
    (saving : Saving data past state event next c row name) {ref : ActorRef}
    {other : LocalChannelRow} (different : ref ≠ event.1.channel)
    (seen : Seen past ref) (member : other ∈ state.channels.rows)
    (stored : other.channelId = currentId past ref) :
    other ∈ next.channels.rows := by
  obtain ⟨channelId, current⟩ := tracks.named ref seen
  exact stays tracks saving different (givenIn_of_currentId current) member
    (stored.trans current)

theorem live (tracks : Tracks data channels past state)
    (saving : Saving data past state event next c row name) (ref : ActorRef) :
    (next.channel? ref).isSome = true ↔
      Seen (past ++ [event]) ref ∧ ¬ TerminatedIn (past ++ [event]) ref := by
  by_cases same : ref = event.1.channel
  · subst ref
    have running :=
      ((tracks.live event.1.channel).mp (by simp [saving.found])).2
    obtain ⟨written, found, _⟩ := saving.after
    simp [found, saving.notTerminated, running]
  · rw [saving.others ref same, tracks.live ref]
    simp [saving.notTerminated, Ne.symm same]

theorem entity (tracks : Tracks data channels past state)
    (saving : Saving data past state event next c row name) {ref : ActorRef}
    {other : LocalChannel} (found : next.channel? ref = some other) :
    other.channelId = currentId (past ++ [event]) ref ∧
      other.isActive = true := by
  by_cases same : ref = event.1.channel
  · subst ref
    obtain ⟨written, writtenFound, _, writtenName, active⟩ := saving.after
    have equal : written = other := by simpa [writtenFound] using found
    subst other
    exact ⟨writtenName.trans saving.current.symm, active⟩
  · rw [saving.others ref same] at found
    simpa [Ne.symm same] using tracks.entity ref other found

theorem saved (tracks : Tracks data channels past state)
    (saving : Saving data past state event next c row name) {ref : ActorRef}
    {other : LocalChannel} (found : next.channel? ref = some other)
    (isSaved : SavedIn data (past ++ [event]) ref) :
    ∃ own ∈ next.channels.rows, own.id = other.id ∧
      own.channelId = other.channelId ∧ own.isActive = true := by
  by_cases same : ref = event.1.channel
  · subst ref
    obtain ⟨written, writtenFound, writtenId, writtenName, _⟩ := saving.after
    have equal : written = other := by simpa [writtenFound] using found
    subst other
    rw [saving.table]
    refine ⟨_, Table.saved_mem_insertOrReplace state.channels row, ?_⟩
    rw [LocalChannelRow.saved_eq]
    exact ⟨writtenId.symm, saving.rowName.trans writtenName.symm,
      saving.rowActive⟩
  · rw [saving.others ref same] at found
    rw [savedIn_of_ne same] at isSaved
    obtain ⟨own, member, ownId, ownName, ownActive⟩ :=
      tracks.saved ref other found isSaved
    refine ⟨own, ?_, ownId, ownName, ownActive⟩
    apply current_stays tracks saving same (seen_of_savedIn isSaved) member
    exact ownName.trans (tracks.entity ref other found).1

theorem earlier (tracks : Tracks data channels past state)
    (saving : Saving data past state event next c row name) {ref : ActorRef}
    (terminated : TerminatedIn (past ++ [event]) ref) :
    TerminatedIn past ref ∧ ref ≠ event.1.channel := by
  have before : TerminatedIn past ref := by
    simpa [saving.notTerminated] using terminated
  refine ⟨before, ?_⟩
  rintro rfl
  have running :=
    ((tracks.live event.1.channel).mp (by simp [saving.found])).2
  exact running before

theorem stored (tracks : Tracks data channels past state)
    (saving : Saving data past state event next c row name) {ref : ActorRef}
    (terminated : TerminatedIn (past ++ [event]) ref)
    (isSaved : SavedIn data (past ++ [event]) ref) :
    ∃ own ∈ next.channels.rows,
      own.channelId = currentId (past ++ [event]) ref := by
  obtain ⟨before, different⟩ := saving.earlier tracks terminated
  rw [savedIn_of_ne different] at isSaved
  obtain ⟨own, member, ownName⟩ := tracks.stored ref before isSaved
  refine ⟨own, ?_, ?_⟩
  · exact current_stays tracks saving different (seen_of_savedIn isSaved)
      member ownName
  · simpa [Ne.symm different] using ownName

/-- The row that is stored is not that of a terminated channel. -/
theorem marked (tracks : Tracks data channels past state)
    (saving : Saving data past state event next c row name) {ref : ActorRef}
    (terminated : TerminatedIn (past ++ [event]) ref)
    {other : LocalChannelRow} (member : other ∈ next.channels.rows)
    (stored : other.channelId = currentId (past ++ [event]) ref) :
    other.isActive = false := by
  obtain ⟨before, different⟩ := saving.earlier tracks terminated
  rw [saving.table] at member
  rcases Table.mem_insertOrReplace_iff.mp member with new | ⟨oldMember, _⟩
  · have current : currentId (past ++ [event]) ref = some name := by
      rw [← stored, new, LocalChannelRow.saved_eq]
      exact saving.rowName
    exact (different (saving.apart ref event.1.channel name
      (givenIn_of_currentId current)
      (givenIn_of_currentId saving.current))).elim
  · apply tracks.marked ref before other oldMember
    simpa [Ne.symm different] using stored

theorem temporary (tracks : Tracks data channels past state)
    (saving : Saving data past state event next c row name) {ref : ActorRef}
    {channelId : String}
    (isTemporary : TemporaryIn (past ++ [event]) ref channelId)
    {other : LocalChannelRow} (member : other ∈ next.channels.rows)
    (stored : other.channelId = some channelId) :
    currentId (past ++ [event]) ref = some channelId ∧
      SavedIn data (past ++ [event]) ref := by
  have given := givenIn_of_temporaryIn isTemporary
  have newGiven := givenIn_of_currentId saving.current
  rw [saving.table] at member
  rcases Table.mem_insertOrReplace_iff.mp member with new | ⟨oldMember, apart⟩
  · have sameName : name = channelId := by
      rw [new, LocalChannelRow.saved_eq] at stored
      simpa [saving.rowName] using stored
    subst channelId
    have same := saving.apart ref event.1.channel name given newGiven
    subst ref
    refine ⟨saving.current, ?_⟩
    simp [saving.saves]
  · obtain ⟨current, isSaved⟩ := tracks.temporary ref channelId
      (saving.temporaryIn_iff.mp isTemporary) other oldMember stored
    by_cases same : ref = event.1.channel
    · subst ref
      have entity := (tracks.entity event.1.channel c saving.found).1
      have ownRow : other.channelId = c.channelId := by
        rw [stored, entity, current]
      have conflicts := tracks.replaced saving.found saving.sameId isSaved
        oldMember ownRow
      exact (apart conflicts).elim
    · rw [savedIn_of_ne same]
      simpa [Ne.symm same] using And.intro current isSaved

theorem tracks (tracks : Tracks data channels past state)
    (saving : Saving data past state event next c row name) :
    Tracks data channels (past ++ [event]) next := by
  constructor
  · exact saving.apart
  · exact saving.live tracks
  · intro ref seen
    by_cases same : ref = event.1.channel
    · subst ref
      exact ⟨name, saving.current⟩
    · have earlier : Seen past ref := by
        simpa [Ne.symm same] using seen
      simpa [Ne.symm same] using tracks.named ref earlier
  · intro ref other found
    exact saving.entity tracks found
  · intro ref other found notSaved
    by_cases same : ref = event.1.channel
    · subst ref
      simp [saving.saves] at notSaved
    · rw [saving.others ref same] at found
      rw [savedIn_of_ne same] at notSaved
      exact tracks.unsaved ref other found notSaved
  · intro ref other found isSaved
    exact saving.saved tracks found isSaved
  · intro ref terminated isSaved
    exact saving.stored tracks terminated isSaved
  · intro ref terminated other member stored
    exact saving.marked tracks terminated member stored
  · intro ref channelId isTemporary other member stored
    exact saving.temporary tracks isTemporary member stored
  · intro other member
    rw [saving.table] at member
    rcases Table.mem_insertOrReplace_iff.mp member with new | ⟨oldMember, _⟩
    · refine Or.inr ⟨event.1.channel, name, ?_,
        givenIn_of_currentId saving.current, ?_⟩
      · rw [new, LocalChannelRow.saved_eq]
        exact saving.rowName
      · simp [saving.saves]
    · rcases tracks.origin other oldMember with
        initial | ⟨ref, channelId, stored, given, isSaved⟩
      · exact Or.inl initial
      · exact Or.inr ⟨ref, channelId, stored,
          givenIn_append.mpr (Or.inl given), savedIn_append.mpr (Or.inl isSaved)⟩

end Saving

theorem saving {message : ChannelMessage} {now : Nat} {c : LocalChannel}
    (tracks : Tracks data channels past state)
    (orderly : Orderly channels past (message, now))
    (known : message.introduces = false)
    (saves : message.saves data = true)
    (found : state.channel? message.channel = some c) :
    Tracks data channels (past ++ [(message, now)])
      (NodeSupervisor.onReceive data state now message).state := by
  obtain ⟨_, _, fresh, _⟩ := orderly
  have seen := ((tracks.live message.channel).mp (by simp [found])).1
  have entity := tracks.entity message.channel c found
  obtain ⟨old, current⟩ := tracks.named message.channel seen
  obtain ⟨name, named⟩ : ∃ name, message.givenId.or c.channelId = some name := by
    rw [entity.1, current]
    cases message.givenId with
    | none => exact ⟨old, rfl⟩
    | some given => exact ⟨given, rfl⟩
  obtain ⟨row, written, table, ⟨sameId, rowName, rowActive⟩, after, id,
    writtenName, active⟩ :=
    NodeSupervisor.onReceive_of_saves now found saves named
  have step : Saving data past state (message, now)
      (NodeSupervisor.onReceive data state now message).state c row name := by
    constructor
    · exact tracks.apart_append fresh
    · exact known
    · exact saves
    · exact found
    · exact sameId
    · exact rowName
    · exact rowActive.trans entity.2
    · simp [← entity.1, named]
    · exact table
    · exact fun _ different => NodeSupervisor.channel?_of_ne different
    · exact ⟨written, after, id, writtenName, active.trans entity.2⟩
  exact step.tracks tracks

theorem terminated {ref : ActorRef} {now : Nat} {c : LocalChannel}
    (tracks : Tracks data channels past state)
    (found : state.channel? ref = some c) :
    Tracks data channels (past ++ [(.terminated ref, now)])
      (NodeSupervisor.onReceive data state now (.terminated ref)).state := by
  have live := (tracks.live ref).mp (by simp [found])
  have entity := tracks.entity ref c found
  obtain ⟨channelId, current⟩ := tracks.named ref live.1
  have named := entity.1.trans current
  have removed := (NodeSupervisor.onReceive_terminated data now found named).1
  have rows := NodeSupervisor.mem_rows_terminated_iff data now found named
  have others : ∀ other, other ≠ ref →
      (NodeSupervisor.onReceive data state now
        (.terminated ref)).state.channel? other = state.channel? other :=
    fun _ different => NodeSupervisor.channel?_of_ne different
  generalize (NodeSupervisor.onReceive data state now
    (.terminated ref)).state = next at *
  have currentStays : ∀ other row, other ≠ ref → row ∈ state.channels.rows →
      row.channelId = currentId past other → row ∈ next.channels.rows := by
    intro other row different member stored
    refine (rows row).mpr (Or.inl ⟨member, ?_⟩)
    rw [stored]
    exact tracks.currentId_ne different current
  have keepNames : ∀ other ∈ next.channels.rows,
      ∃ old ∈ state.channels.rows, old.channelId = other.channelId := by
    intro other member
    rcases (rows other).mp member with ⟨old, _⟩ | ⟨row, old, _, rfl⟩
    · exact ⟨other, old, rfl⟩
    · exact ⟨row, old, rfl⟩
  have notRef : ∀ other c, next.channel? other = some c → other ≠ ref := by
    rintro other c otherFound rfl
    simp [removed] at otherFound
  constructor
  · simpa only [givenIn_append_terminated] using tracks.apart
  · intro other
    by_cases same : other = ref
    · subst other
      simp [removed]
    · rw [others other same, tracks.live other, seen_append_terminated live.1]
      simp [Ne.symm same]
  · intro other seen
    rw [currentId_append_terminated]
    exact tracks.named other ((seen_append_terminated live.1).mp seen)
  · intro other d otherFound
    rw [others other (notRef other d otherFound)] at otherFound
    rw [currentId_append_terminated]
    exact tracks.entity other d otherFound
  · intro other d otherFound notSaved
    rw [others other (notRef other d otherFound)] at otherFound
    rw [savedIn_append_terminated] at notSaved
    exact tracks.unsaved other d otherFound notSaved
  · intro other d otherFound isSaved
    have different := notRef other d otherFound
    rw [others other different] at otherFound
    rw [savedIn_append_terminated] at isSaved
    obtain ⟨own, member, ownId, ownName, ownActive⟩ :=
      tracks.saved other d otherFound isSaved
    refine ⟨own, ?_, ownId, ownName, ownActive⟩
    apply currentStays other own different member
    exact ownName.trans (tracks.entity other d otherFound).1
  · intro other isTerminated isSaved
    rw [savedIn_append_terminated] at isSaved
    rw [currentId_append_terminated]
    by_cases same : other = ref
    · subst other
      obtain ⟨own, member, _, ownName, _⟩ := tracks.saved ref c found isSaved
      have ownCurrent := ownName.trans named
      rw [current]
      exact ⟨_, (rows _).mpr (Or.inr ⟨own, member, ownCurrent, rfl⟩),
        ownCurrent⟩
    · have earlier : TerminatedIn past other := by
        simpa [Ne.symm same] using isTerminated
      obtain ⟨own, member, ownName⟩ := tracks.stored other earlier isSaved
      refine ⟨own, ?_, ownName⟩
      exact currentStays other own same member ownName
  · intro other isTerminated row member stored
    rw [currentId_append_terminated] at stored
    rcases (rows row).mp member with ⟨old, rowName⟩ | ⟨_, _, _, rfl⟩
    · have different : other ≠ ref := by
        rintro rfl
        exact rowName (stored.trans current)
      have earlier : TerminatedIn past other := by
        simpa [Ne.symm different] using isTerminated
      exact tracks.marked other earlier row old stored
    · rfl
  · intro other name isTemporary row member stored
    obtain ⟨old, oldMember, oldName⟩ := keepNames row member
    rw [savedIn_append_terminated, currentId_append_terminated]
    exact tracks.temporary other name
      (temporaryIn_append_terminated.mp isTemporary) old oldMember
      (oldName.trans stored)
  · intro row member
    obtain ⟨old, oldMember, oldName⟩ := keepNames row member
    rcases tracks.origin old oldMember with
      ⟨first, firstMember, firstName⟩ | ⟨other, name, stored, given, isSaved⟩
    · exact Or.inl ⟨first, firstMember, firstName.trans oldName⟩
    · exact Or.inr ⟨other, name, oldName.symm.trans stored,
        givenIn_append_terminated.mpr given,
        savedIn_append_terminated.mpr isSaved⟩

theorem step {received : ChannelMessage × Nat} {next : ChannelState}
    (tracks : Tracks data channels past state)
    (orderly : Orderly channels past received)
    (result : ChannelState.step data state received = some next) :
    Tracks data channels (past ++ [received]) next := by
  obtain ⟨message, now⟩ := received
  simp only [ChannelState.step, Option.some.injEq] at result
  subst next
  have running : ¬ TerminatedIn past message.channel := by
    intro given
    obtain ⟨earlier, member, same⟩ := given
    exact orderly.1.2 earlier member same
  cases introduces : message.introduces with
  | true =>
      by_cases seen : Seen past message.channel
      · obtain ⟨c, found⟩ := Option.isSome_iff_exists.mp
          ((tracks.live message.channel).mpr ⟨seen, running⟩)
        exact tracks.repeated orderly introduces found
      · exact tracks.introduced orderly introduces seen
  | false =>
      have seen : Seen past message.channel := by
        by_contra unseen
        have first := orderly.1.1 (by
          intro earlier member same
          exact unseen ⟨earlier, member, same⟩)
        simp [introduces] at first
      obtain ⟨c, found⟩ := Option.isSome_iff_exists.mp
        ((tracks.live message.channel).mpr ⟨seen, running⟩)
      by_cases ends : message = .terminated message.channel
      · rw [ends] at found ⊢
        exact tracks.terminated found
      · cases saves : message.saves data with
        | true => exact tracks.saving orderly introduces saves found
        | false => exact tracks.changed orderly introduces saves ends found

theorem of_lawful {received : Received}
    (lawful : Runs.Lawful (Orderly channels) [] received)
    (run : Runs.exec (ChannelState.step data) (ChannelState.start channels)
      received = some state) :
    Tracks data channels received state := by
  have preserved : ∀ past state event next, Tracks data channels past state →
      Orderly channels past event →
      ChannelState.step data state event = some next →
      Tracks data channels (past ++ [event]) next :=
    fun _ _ _ _ tracks orderly result => tracks.step orderly result
  exact Runs.invariant_of_lawful preserved (start data channels) lawful run

end Tracks

end EclairWallet
