import EclairWallet.Channel.Balance
import EclairWallet.Payment.ElectrumSupervisor

/-!
# The balance check before paying

A payment is offered when some channel in state `NORMAL` has a balance above
the amount and the channel reserve.  The balance of a channel whose commitment
was last recorded by `ChannelSignatureReceived` counts the outgoing HTLCs that
are still pending.  The runs here remember, for every channel in the map, the
commitment last recorded and the handler that recorded it.
-/

namespace EclairWallet

open JavaLong

namespace NodeSupervisor

def hasNormalChannelsWithBalance (state : ChannelState)
    (requiredBalanceMsat : Int) : Bool :=
  state.activeChannelsMap.entries.any (fun entry =>
    entry.2.state = "NORMAL" && entry.2.balanceMsat >
      toLong (requiredBalanceMsat +
        satoshi2millisatoshi entry.2.channelReserveSat))

end NodeSupervisor

/-- The commitments last recorded for a channel, and by which handler. -/
structure Recording where
  commitments : Commitments
  bySignature : Bool
  deriving DecidableEq, Repr

namespace Recording

def toLocalMsat (recording : Recording) : Int :=
  recording.commitments.localCommitSpec.toLocalMsat

/-- What the handler adds to the balance. -/
def pendingMsat (recording : Recording) : Int :=
  if recording.bySignature then
    recording.commitments.localCommitSpec.outgoingMsat
  else 0

/-- The amount and the channel reserve. -/
def needed (recording : Recording) (requiredBalanceMsat : Int) : Int :=
  requiredBalanceMsat + recording.commitments.channelReserveSatoshis * 1000

/-- The balance that is recorded. -/
def balanceMsat (recording : Recording) : Int :=
  toLong (recording.toLocalMsat + recording.pendingMsat)

/-- The balance and the reserve of an entity with this recording; a new
entity has none. -/
def figures : Option Recording → Int × Int
  | some recording =>
      (recording.balanceMsat, recording.commitments.channelReserveSatoshis)
  | none => (0, 0)

theorem balanceMsat_of_stateChanged (commitments : Commitments) :
    balanceMsat { commitments, bySignature := false } =
      commitments.localCommitSpec.toLocalMsat := by
  simp only [balanceMsat, toLocalMsat, pendingMsat, Bool.false_eq_true,
    if_false, Int.add_zero]
  exact toLong_of_fits commitments.localCommitSpec.toLocal_fits

end Recording

namespace ChannelMessage

/-- What the message records when its channel is in the map afterwards. -/
def recording : ChannelMessage → Option Recording
  | .channelSignatureReceived _ commitments =>
      some { commitments := commitments, bySignature := true }
  | .channelStateChanged _ _ _ currentData =>
      currentData.commitments.map (fun commitments =>
        { commitments := commitments, bySignature := false })
  | _ => none

end ChannelMessage

/-- The supervisor's state, and the recordings of the channels in the map. -/
structure Observed where
  state : ChannelState
  recorded : ActorRef → Option Recording

namespace Observed

def start (channels : Table LocalChannelRow) : Observed :=
  { state := ChannelState.start channels, recorded := fun _ => none }

/-- A step of the supervisor.  A channel that leaves the map takes its
recording along. -/
def step (data : ErrorData) (observed : Observed)
    (received : ChannelMessage × Nat) : Option Observed :=
  (ChannelState.step data observed.state received).map (fun next =>
    { state := next
      recorded := Function.update observed.recorded received.1.channel
        (if (next.channel? received.1.channel).isSome then
          received.1.recording.or (observed.recorded received.1.channel)
        else none) })

/-- The channel `ref` is in state `NORMAL`. -/
def Normal (observed : Observed) (ref : ActorRef) : Prop :=
  ∃ c, observed.state.channel? ref = some c ∧ c.state = "NORMAL"

/-- Some channel in state `NORMAL` has more than the amount and its reserve
on its own side of the commitment last recorded. -/
def Spendable (observed : Observed) (requiredBalanceMsat : Int) : Prop :=
  ∃ ref recording, observed.Normal ref ∧
    observed.recorded ref = some recording ∧
    recording.needed requiredBalanceMsat < recording.toLocalMsat

def CheckSound (observed : Observed) (requiredBalanceMsat : Int) : Prop :=
  NodeSupervisor.hasNormalChannelsWithBalance observed.state
    requiredBalanceMsat = true → observed.Spendable requiredBalanceMsat

/-- A channel looks good for an amount it cannot pay: no commitment was ever
recorded for it and the amount is negative, or the amount and the reserve
overflow a `long`, or only the pending outgoing HTLCs make up for them. -/
def Misleads (requiredBalanceMsat : Int) : Option Recording → Prop
  | none => toLong requiredBalanceMsat < 0
  | some recording =>
      let needed := recording.needed requiredBalanceMsat
      (¬ Fits needed ∧ toLong needed < recording.balanceMsat) ∨
        (Fits needed ∧ recording.toLocalMsat ≤ needed ∧
          needed < recording.balanceMsat)

/-- Next to a channel in state `NORMAL` that misleads there is one that can
pay. -/
def Covered (observed : Observed) (requiredBalanceMsat : Int) : Prop :=
  ∀ ref, observed.Normal ref →
    Misleads requiredBalanceMsat (observed.recorded ref) →
    observed.Spendable requiredBalanceMsat

/-- The message brings no signature over outgoing HTLCs with an amount. -/
def NothingPending (_ : Observed) (received : ChannelMessage × Nat) : Prop :=
  ∀ ref commitments,
    received.1 = .channelSignatureReceived ref commitments →
    toLong commitments.localCommitSpec.outgoingMsat = 0

/-- The amount is a `long` and not negative, and its sum with the reserve of
each channel in state `NORMAL` is a `long`. -/
structure InRange (observed : Observed) (requiredBalanceMsat : Int) : Prop where
  amount : Fits requiredBalanceMsat
  nonneg : 0 ≤ requiredBalanceMsat
  needed : ∀ ref recording, observed.Normal ref →
    observed.recorded ref = some recording →
    Fits (recording.needed requiredBalanceMsat)

/-- The entities of the map show the recordings, and only they have one. -/
structure Shown (observed : Observed) : Prop where
  figures : ∀ ref c, observed.state.channel? ref = some c →
    (c.balanceMsat, c.channelReserveSat) =
      Recording.figures (observed.recorded ref)
  tracked : ∀ ref, observed.state.channel? ref = none →
    observed.recorded ref = none

end Observed

namespace NodeSupervisor

variable {data : ErrorData} {state : ChannelState} {now : Nat}
  {ref : ActorRef} {c after : LocalChannel}

theorem hasNormalChannelsWithBalance_iff {requiredBalanceMsat : Int} :
    hasNormalChannelsWithBalance state requiredBalanceMsat = true ↔
      ∃ ref c, state.channel? ref = some c ∧ c.state = "NORMAL" ∧
        toLong (requiredBalanceMsat + c.channelReserveSat * 1000) <
          c.balanceMsat := by
  have sum : ∀ reserve, toLong (requiredBalanceMsat +
      satoshi2millisatoshi reserve) =
        toLong (requiredBalanceMsat + reserve * 1000) := by
    intro reserve
    simp [toLong, satoshi2millisatoshi]
  simp only [hasNormalChannelsWithBalance, List.any_eq_true, sum,
    Bool.and_eq_true, decide_eq_true_eq, gt_iff_lt]
  constructor
  · intro given
    obtain ⟨⟨ref, c⟩, member, normal, enough⟩ := given
    exact ⟨ref, c, AList.mem_lookup_iff.mpr member, normal, enough⟩
  · intro given
    obtain ⟨ref, c, found, normal, enough⟩ := given
    exact ⟨⟨ref, c⟩, AList.mem_lookup_iff.mp found, normal, enough⟩

theorem figures_of_save {written : LocalChannel}
    {done next : List ChannelEffect}
    (found : (save state ref written now done next).state.channel? ref =
      some after) :
    (after.balanceMsat, after.channelReserveSat) =
      (written.balanceMsat, written.channelReserveSat) := by
  by_cases known : (state.channel? ref).isSome = true
  · have saved : (save state ref written now done next).state.channel? ref =
        some (DBHelper.saveLocalChannel state.channels written now).channel :=
      ChannelState.channel?_change_self known _
    rw [saved, Option.some.injEq] at found
    subst after
    cases named : written.channelId with
    | none => simp [DBHelper.saveLocalChannel, named]
    | some channelId => simp [DBHelper.saveLocalChannel, named]
  · have unchanged : (save state ref written now done next).state.channel?
        ref = state.channel? ref := by
      simp only [save, ChannelState.change, if_neg known]
      rfl
    rw [unchanged] at found
    simp [found] at known

theorem figures_of_setState (c : LocalChannel) (currentState : String)
    (currentData : ChannelData) :
    ((setState c currentState currentData).balanceMsat,
        (setState c currentState currentData).channelReserveSat) =
      match currentData.commitments with
      | some commitments =>
          (commitments.localCommitSpec.toLocalMsat,
            commitments.channelReserveSatoshis)
      | none => (c.balanceMsat, c.channelReserveSat) := by
  cases currentData with
  | closing d => rfl
  | hasCommitments commitments => rfl
  | other => rfl

/-- Step lemma: the balance and the reserve a message leaves of its channel
are those it records, or those it found. -/
theorem figures_of_onReceive {message : ChannelMessage}
    (found : (onReceive data state now message).state.channel?
      message.channel = some after) :
    (after.balanceMsat, after.channelReserveSat) =
      match message.recording with
      | some recording => Recording.figures (some recording)
      | none =>
          ((getChannel state message.channel now).balanceMsat,
            (getChannel state message.channel now).channelReserveSat) := by
  cases message with
  | channelCreated ref temporaryChannelId remoteNodeId =>
      simp only [onReceive, onChannelCreated, ChannelMessage.channel,
        ChannelState.channel?_put_self, Option.some.injEq] at found
      subst after
      rfl
  | channelRestored ref channelId remoteNodeId =>
      simp only [onReceive, onChannelRestored, ChannelMessage.channel,
        ChannelState.channel?_put_self, Option.some.injEq] at found
      subst after
      cases DBHelper.getLocalChannel state.channels channelId <;> rfl
  | channelIdAssigned ref channelId =>
      simp only [ChannelMessage.channel] at found ⊢
      cases known : state.channel? ref with
      | none => simp [onReceive, onChannelIdAssigned, known] at found
      | some c =>
          simp only [onReceive, onChannelIdAssigned, known] at found
          simpa [getChannel, known, ChannelMessage.recording] using
            figures_of_save found
  | shortChannelIdAssigned ref shortChannelId =>
      simp only [ChannelMessage.channel] at found ⊢
      cases known : state.channel? ref with
      | none => simp [onReceive, onShortChannelIdAssigned, known] at found
      | some c =>
          simp only [onReceive, onShortChannelIdAssigned, known,
            ChannelState.channel?_put_self, Option.some.injEq] at found
          subst after
          simp [getChannel, known, ChannelMessage.recording]
  | channelSignatureReceived ref commitments =>
      simp only [ChannelMessage.channel] at found
      cases known : state.channel? ref with
      | none => simp [onReceive, onChannelSignatureReceived, known] at found
      | some c =>
          simp only [onReceive, onChannelSignatureReceived, known,
            ChannelState.channel?_put_self, Option.some.injEq] at found
          subst after
          simp [ChannelMessage.recording, Recording.figures, outHtlcs_eq,
            toLong_add_toLong, Recording.balanceMsat, Recording.toLocalMsat,
            Recording.pendingMsat, CommitmentSpec.outgoingMsat,
            CommitmentSpec.outgoing]
  | terminated ref =>
      simp only [ChannelMessage.channel] at found ⊢
      have kept : state.channel? ref = some after := by
        simp only [onReceive, onTerminated] at found
        split at found
        · exact found
        · simp [ChannelState.channel?] at found
      simp [getChannel, kept, ChannelMessage.recording]
  | channelFailed ref error =>
      simp only [ChannelMessage.channel] at found ⊢
      cases text : closingErrorMessage data error with
      | none =>
          simp only [onReceive, onChannelFailed, text] at found
          simp [getChannel, found, ChannelMessage.recording]
      | some text' =>
          simp only [onReceive, onChannelFailed, text] at found
          simpa [ChannelMessage.recording] using figures_of_save found
  | localCommitConfirmed ref refundAtBlock =>
      simp only [ChannelMessage.channel] at found ⊢
      cases known : state.channel? ref with
      | none => simp [onReceive, onLocalCommitConfirmed, known] at found
      | some c =>
          simp only [onReceive, onLocalCommitConfirmed, known] at found
          simpa [getChannel, known, ChannelMessage.recording] using
            figures_of_save found
  | channelStateChanged ref previousState currentState currentData =>
      rw [figures_of_save found, figures_of_setState]
      cases carried : currentData.commitments with
      | none => simp [ChannelMessage.recording, carried,
          ChannelMessage.channel]
      | some commitments =>
          have balance := Recording.balanceMsat_of_stateChanged commitments
          simp [ChannelMessage.recording, carried, Recording.figures, balance]

end NodeSupervisor

namespace Observed

variable {data : ErrorData} {observed next : Observed}
  {received : ChannelMessage × Nat} {requiredBalanceMsat : Int}

theorem Shown.start (channels : Table LocalChannelRow) :
    Shown (start channels) := by
  constructor
  · intro ref c found
    simp [Observed.start] at found
  · intro ref _
    rfl

theorem Shown.step (shown : Shown observed)
    (result : step data observed received = some next) : Shown next := by
  obtain ⟨message, now⟩ := received
  simp only [Observed.step, ChannelState.step, Option.map_some,
    Option.some.injEq] at result
  subst next
  constructor
  · intro ref after found
    by_cases same : ref = message.channel
    · subst ref
      have figures := NodeSupervisor.figures_of_onReceive found
      rw [figures]
      simp only [found, Option.isSome_some, if_true, Function.update_self]
      cases message.recording with
      | some recording => rfl
      | none =>
          simp only [Option.none_or, NodeSupervisor.getChannel]
          cases known : observed.state.channel? message.channel with
          | some c => exact shown.figures message.channel c known
          | none =>
              rw [shown.tracked message.channel known]
              rfl
    · rw [NodeSupervisor.channel?_of_ne same] at found
      simp only [Function.update_of_ne same]
      exact shown.figures ref after found
  · intro ref missing
    by_cases same : ref = message.channel
    · subst ref
      simp [missing]
    · rw [NodeSupervisor.channel?_of_ne same] at missing
      simp only [Function.update_of_ne same]
      exact shown.tracked ref missing

/-- The comparison of the check, on the figures of an entity. -/
def Passes (requiredBalanceMsat : Int) (recorded : Option Recording) : Prop :=
  toLong (requiredBalanceMsat + (Recording.figures recorded).2 * 1000) <
    (Recording.figures recorded).1

theorem Shown.check_iff (shown : Shown observed) :
    NodeSupervisor.hasNormalChannelsWithBalance observed.state
        requiredBalanceMsat = true ↔
      ∃ ref, observed.Normal ref ∧
        Passes requiredBalanceMsat (observed.recorded ref) := by
  rw [NodeSupervisor.hasNormalChannelsWithBalance_iff]
  constructor
  · intro given
    obtain ⟨ref, c, found, normal, enough⟩ := given
    refine ⟨ref, ⟨c, found, normal⟩, ?_⟩
    rw [Passes, ← shown.figures ref c found]
    exact enough
  · intro given
    obtain ⟨ref, ⟨c, found, normal⟩, passes⟩ := given
    rw [Passes, ← shown.figures ref c found] at passes
    exact ⟨ref, c, found, normal, passes⟩

theorem passes_of_misleads {recorded : Option Recording}
    (misleads : Misleads requiredBalanceMsat recorded) :
    Passes requiredBalanceMsat recorded := by
  cases recorded with
  | none => simpa [Passes, Recording.figures, Misleads] using misleads
  | some recording =>
      rcases misleads with ⟨_, wrapped⟩ | ⟨fits, _, between⟩
      · exact wrapped
      · rw [← toLong_of_fits fits] at between
        exact between

theorem misleads_or_pays {recorded : Option Recording}
    (passes : Passes requiredBalanceMsat recorded) :
    Misleads requiredBalanceMsat recorded ∨
      ∃ recording, recorded = some recording ∧
        recording.needed requiredBalanceMsat < recording.toLocalMsat := by
  cases recorded with
  | none =>
      left
      simpa [Passes, Recording.figures, Misleads] using passes
  | some recording =>
      by_cases pays : recording.needed requiredBalanceMsat <
          recording.toLocalMsat
      · exact Or.inr ⟨recording, rfl, pays⟩
      · left
        have passes : toLong (recording.needed requiredBalanceMsat) <
            recording.balanceMsat := passes
        by_cases fits : Fits (recording.needed requiredBalanceMsat)
        · rw [toLong_of_fits fits] at passes
          exact Or.inr ⟨fits, not_lt.mp pays, passes⟩
        · exact Or.inl ⟨fits, passes⟩

theorem Shown.checkSound_iff (shown : Shown observed) :
    CheckSound observed requiredBalanceMsat ↔
      Covered observed requiredBalanceMsat := by
  constructor
  · intro sound ref normal misleads
    apply sound
    exact shown.check_iff.mpr ⟨ref, normal, passes_of_misleads misleads⟩
  · intro covered passed
    obtain ⟨ref, normal, passes⟩ := shown.check_iff.mp passed
    rcases misleads_or_pays passes with misleads | ⟨recording, recorded, pays⟩
    · exact covered ref normal misleads
    · exact ⟨ref, recording, normal, recorded, pays⟩

/-- Every recorded balance is the wallet's side of the commitment. -/
def Unlifted (observed : Observed) : Prop :=
  ∀ ref recording, observed.recorded ref = some recording →
    recording.balanceMsat = recording.toLocalMsat

theorem Unlifted.step (unlifted : Unlifted observed)
    (nothing : NothingPending observed received)
    (result : step data observed received = some next) : Unlifted next := by
  obtain ⟨message, now⟩ := received
  simp only [Observed.step, ChannelState.step, Option.map_some,
    Option.some.injEq] at result
  subst next
  intro ref recording recorded
  by_cases same : ref = message.channel
  · subst ref
    simp only [Function.update_self, Option.ite_none_right_eq_some,
      Option.or_eq_some_iff] at recorded
    rcases recorded.2 with fresh | ⟨_, kept⟩
    · cases message with
      | channelSignatureReceived ref commitments =>
          simp only [ChannelMessage.recording, Option.some.injEq] at fresh
          subst recording
          exact (NodeSupervisor.toLong_outgoing_eq_iff _).mpr
            (nothing ref commitments rfl)
      | channelStateChanged ref previousState currentState currentData =>
          simp only [ChannelMessage.recording, Option.map_eq_some_iff]
            at fresh
          obtain ⟨commitments, _, rfl⟩ := fresh
          exact Recording.balanceMsat_of_stateChanged commitments
      | _ => cases fresh
    · exact unlifted _ recording kept
  · simp only [Function.update_of_ne same] at recorded
    exact unlifted ref recording recorded

theorem Unlifted.covered (unlifted : Unlifted observed)
    (inRange : InRange observed requiredBalanceMsat) :
    Covered observed requiredBalanceMsat := by
  intro ref normal misleads
  cases recorded : observed.recorded ref with
  | none =>
      simp only [recorded, Misleads, toLong_of_fits inRange.amount] at misleads
      have nonneg := inRange.nonneg
      omega
  | some recording =>
      have fits := inRange.needed ref recording normal recorded
      have settled := unlifted ref recording recorded
      rw [recorded] at misleads
      rcases misleads with ⟨overflow, _⟩ | ⟨_, above, below⟩
      · exact (overflow fits).elim
      · omega

/-- In every state a run reaches, the check is right about an amount exactly
when a channel that can pay stands next to each that misleads about it.  While
no signature leaves outgoing HTLCs pending, it is right about every amount
whose sums with the reserves are `long`s. -/
theorem balance_check_sound_iff (data : ErrorData) :
    (∀ channels received,
      Runs.Always (step data)
        (fun observed => ∀ requiredBalanceMsat,
          CheckSound observed requiredBalanceMsat ↔
            Covered observed requiredBalanceMsat)
        (Observed.start channels) received) ∧
    ∀ channels received,
      Runs.StepsMeet (step data) NothingPending (Observed.start channels)
        received →
      Runs.Always (step data)
        (fun observed => ∀ requiredBalanceMsat,
          InRange observed requiredBalanceMsat →
          CheckSound observed requiredBalanceMsat)
        (Observed.start channels) received := by
  have shown : ∀ channels first observed,
      Runs.exec (step data) (Observed.start channels) first = some observed →
      Shown observed := by
    intro channels first observed run
    apply Runs.invariant_of_exec _ (Shown.start channels) run
    intro before received next holds result
    exact holds.step result
  constructor
  · intro channels received first rest observed _ run requiredBalanceMsat
    exact (shown channels first observed run).checkSound_iff
  · intro channels received meets first rest observed split run
      requiredBalanceMsat inRange
    have initially : Unlifted (Observed.start channels) := by
      intro ref recording recorded
      cases recorded
    have unlifted : Unlifted observed := by
      apply Runs.always_of_stepsMeet _ initially meets first rest observed
        split run
      intro before received next holds nothing result
      exact holds.step nothing result
    apply (shown channels first observed run).checkSound_iff.mpr
    exact unlifted.covered inRange

/-- A channel comes back to `NORMAL` with 100 msat and an outgoing HTLC of
7 msat pending. -/
def reconnected : ChannelMessage × Nat :=
  (.channelStateChanged 0 "SYNCING" "NORMAL"
    (.hasCommitments ChannelState.pendingCommitments), 1)

theorem check_sound_of_reconnected :
    Runs.Always (step ⟨fun _ => true, fun _ => ""⟩)
      (fun observed => ∀ requiredBalanceMsat,
        InRange observed requiredBalanceMsat →
        CheckSound observed requiredBalanceMsat)
      (Observed.start Table.empty) [reconnected] := by
  apply (balance_check_sound_iff ⟨fun _ => true, fun _ => ""⟩).2
  refine ⟨?_, fun _ _ => trivial⟩
  intro ref commitments isSignature
  cases isSignature

/-- The next signature adds the pending HTLC to the balance. -/
theorem check_passed_by_pending :
    ¬ ∀ observed, Runs.Reachable (step ⟨fun _ => true, fun _ => ""⟩)
        (Observed.start Table.empty) observed →
      ∀ requiredBalanceMsat, CheckSound observed requiredBalanceMsat := by
  intro sound
  have reached : Runs.Reachable (step ⟨fun _ => true, fun _ => ""⟩)
      (Observed.start Table.empty) _ :=
    ⟨[reconnected,
      (.channelSignatureReceived 0 ChannelState.pendingCommitments, 2)], rfl⟩
  obtain ⟨ref, recording, _, recorded, pays⟩ := sound _ reached 103 rfl
  by_cases same : ref = 0
  · subst ref
    cases recorded
    simp [Recording.needed, Recording.toLocalMsat,
      ChannelState.pendingCommitments] at pays
  · change Function.update (Function.update (fun _ => none) 0 _) 0 _ ref =
      some recording at recorded
    rw [Function.update_of_ne same, Function.update_of_ne same] at recorded
    cases recorded

end Observed

end EclairWallet
