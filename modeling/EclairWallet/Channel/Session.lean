import EclairWallet.Channel.Writes

/-!
# Sessions

What the messages received so far say about a channel: its current id, whether
it was saved, whether it was terminated; and which sequences of messages the
node sends.
-/

namespace EclairWallet

/-- The messages received in this session, with their times. -/
abbrev Received := List (ChannelMessage × Nat)

namespace Received

def Seen (past : Received) (ref : ActorRef) : Prop :=
  ∃ event ∈ past, event.1.channel = ref

def TerminatedIn (past : Received) (ref : ActorRef) : Prop :=
  ∃ event ∈ past, event.1 = .terminated ref

def SavedIn (data : ErrorData) (past : Received) (ref : ActorRef) : Prop :=
  ∃ event ∈ past, event.1.channel = ref ∧ event.1.saves data = true

def GivenIn (past : Received) (ref : ActorRef) (channelId : String) : Prop :=
  ∃ event ∈ past, event.1.channel = ref ∧ event.1.givenId = some channelId

def TemporaryIn (past : Received) (ref : ActorRef) (channelId : String) :
    Prop :=
  ∃ event ∈ past, event.1.channel = ref ∧
    event.1.temporaryId = some channelId

/-- The last channel id given to the channel. -/
def currentId (past : Received) (ref : ActorRef) : Option String :=
  past.foldl (fun channelId event =>
    if event.1.channel = ref then event.1.givenId.or channelId
    else channelId) none

variable {data : ErrorData} {past : Received} {event : ChannelMessage × Nat}
  {ref : ActorRef} {channelId : String}

@[simp] theorem seen_append :
    Seen (past ++ [event]) ref ↔ Seen past ref ∨ event.1.channel = ref := by
  simp [Seen, or_and_right, exists_or]

@[simp] theorem terminatedIn_append :
    TerminatedIn (past ++ [event]) ref ↔
      TerminatedIn past ref ∨ event.1 = .terminated ref := by
  simp [TerminatedIn, or_and_right, exists_or]

@[simp] theorem savedIn_append :
    SavedIn data (past ++ [event]) ref ↔
      SavedIn data past ref ∨
        (event.1.channel = ref ∧ event.1.saves data = true) := by
  simp [SavedIn, or_and_right, exists_or]

@[simp] theorem givenIn_append :
    GivenIn (past ++ [event]) ref channelId ↔
      GivenIn past ref channelId ∨
        (event.1.channel = ref ∧ event.1.givenId = some channelId) := by
  simp [GivenIn, or_and_right, exists_or]

@[simp] theorem temporaryIn_append :
    TemporaryIn (past ++ [event]) ref channelId ↔
      TemporaryIn past ref channelId ∨
        (event.1.channel = ref ∧ event.1.temporaryId = some channelId) := by
  simp [TemporaryIn, or_and_right, exists_or]

@[simp] theorem currentId_append :
    currentId (past ++ [event]) ref =
      if event.1.channel = ref then event.1.givenId.or (currentId past ref)
      else currentId past ref := by
  simp [currentId]

theorem givenIn_of_currentId (current : currentId past ref = some channelId) :
    GivenIn past ref channelId := by
  induction past using List.reverseRecOn with
  | nil => simp [currentId] at current
  | append_singleton past event induction =>
      rw [givenIn_append]
      rw [currentId_append] at current
      split at current
      · rename_i same
        cases given : event.1.givenId with
        | none =>
            simp only [given, Option.none_or] at current
            exact Or.inl (induction current)
        | some other =>
            simp only [given, Option.some_or] at current
            exact Or.inr ⟨same, current⟩
      · exact Or.inl (induction current)

theorem givenIn_of_temporaryIn (temporary : TemporaryIn past ref channelId) :
    GivenIn past ref channelId := by
  obtain ⟨event, member, same, given⟩ := temporary
  exact ⟨event, member, same, event.1.givenId_of_temporaryId given⟩

/-! What a termination leaves as it was. -/

section Terminated

variable {other : ActorRef} {now : Nat}

theorem seen_append_terminated (seen : Seen past ref) :
    Seen (past ++ [(.terminated ref, now)]) other ↔ Seen past other := by
  rw [seen_append]
  constructor
  · intro given
    rcases given with earlier | rfl
    · exact earlier
    · exact seen
  · exact Or.inl

theorem savedIn_append_terminated :
    SavedIn data (past ++ [(.terminated ref, now)]) other ↔
      SavedIn data past other := by
  simp [ChannelMessage.saves, ChannelMessage.savesAsNamed]

theorem givenIn_append_terminated :
    GivenIn (past ++ [(.terminated ref, now)]) other channelId ↔
      GivenIn past other channelId := by
  simp [ChannelMessage.givenId]

theorem temporaryIn_append_terminated :
    TemporaryIn (past ++ [(.terminated ref, now)]) other channelId ↔
      TemporaryIn past other channelId := by
  simp [ChannelMessage.temporaryId]

theorem currentId_append_terminated :
    currentId (past ++ [(.terminated ref, now)]) other =
      currentId past other := by
  simp [ChannelMessage.givenId]

end Terminated

end Received

open Received

/-- The first message about a channel introduces it, and none follows its
termination. -/
def Introduced (past : Received) (event : ChannelMessage × Nat) : Prop :=
  ((∀ earlier ∈ past, earlier.1.channel ≠ event.1.channel) →
      event.1.introduces = true) ∧
    ∀ earlier ∈ past, earlier.1 ≠ .terminated event.1.channel

/-- Moreover a later message introduces the channel under its current id only,
no two channels are given one id, and a temporary id is not in the table the
session starts with. -/
def Orderly (channels : Table LocalChannelRow) (past : Received)
    (event : ChannelMessage × Nat) : Prop :=
  Introduced past event ∧
    (event.1.introduces = true →
      (∀ earlier ∈ past, earlier.1.channel ≠ event.1.channel) ∨
        event.1.givenId = currentId past event.1.channel) ∧
    (event.1.givenId ≠ none → ∀ earlier ∈ past,
      earlier.1.givenId = event.1.givenId →
        earlier.1.channel = event.1.channel) ∧
    (event.1.temporaryId ≠ none → ∀ row ∈ channels.rows,
      row.channelId ≠ event.1.temporaryId)

instance (past : Received) (event : ChannelMessage × Nat) :
    Decidable (Introduced past event) :=
  inferInstanceAs (Decidable (_ ∧ _))

instance (channels : Table LocalChannelRow) (past : Received)
    (event : ChannelMessage × Nat) :
    Decidable (Orderly channels past event) :=
  inferInstanceAs (Decidable (_ ∧ _))

end EclairWallet
