import Mathlib.Algebra.Order.BigOperators.Group.List
import Mathlib.Algebra.Ring.Int.Defs
import EclairWallet.Channel.Writes

/-!
# The balance of a channel

Two handlers record the balance of a channel and its number of pending HTLCs
from the local commitment.  One counts the outgoing HTLCs and adds them to the
balance, the other counts all of them and adds none.
-/

namespace EclairWallet

open JavaLong

namespace CommitmentSpec

def outgoing (spec : CommitmentSpec) : List DirectedHtlc :=
  spec.htlcs.filter (fun h => h.direction = .outwards)

def outgoingMsat (spec : CommitmentSpec) : Int :=
  (spec.outgoing.map DirectedHtlc.amountMsat).sum

/-- No HTLC comes in, and those that go out add up to nothing, as a `long`. -/
def Settled (spec : CommitmentSpec) : Prop :=
  (∀ h ∈ spec.htlcs, h.direction = .outwards) ∧ toLong spec.outgoingMsat = 0

instance (spec : CommitmentSpec) : Decidable spec.Settled :=
  inferInstanceAs (Decidable (_ ∧ _))

end CommitmentSpec

namespace NodeSupervisor

theorem outHtlcs_eq (htlcs : List DirectedHtlc) :
    outHtlcs htlcs =
      (((htlcs.filter (fun h => h.direction = .outwards)).length : Int),
        toLong ((htlcs.filter (fun h => h.direction = .outwards)).map
          DirectedHtlc.amountMsat).sum) := by
  induction htlcs with
  | nil => rfl
  | cons h htlcs induction =>
      simp only [outHtlcs, induction]
      by_cases out : h.direction = .outwards
      · simp [out, add_comm _ h.amountMsat, toLong_add_toLong]
      · simp [out]

/-- What `ChannelSignatureReceived` records. -/
def recordedBySignature (spec : CommitmentSpec) : Int × Int :=
  (toLong (spec.toLocalMsat + spec.outgoingMsat), spec.outgoing.length)

/-- What `ChannelStateChanged` records. -/
def recordedByStateChange (spec : CommitmentSpec) : Int × Int :=
  (spec.toLocalMsat, spec.htlcs.length)

theorem toLong_outgoing_eq_iff (spec : CommitmentSpec) :
    toLong (spec.toLocalMsat + spec.outgoingMsat) = spec.toLocalMsat ↔
      toLong spec.outgoingMsat = 0 := by
  have local_ : spec.toLocalMsat = toLong (spec.toLocalMsat + 0) := by
    rw [Int.add_zero, toLong_of_fits spec.toLocal_fits]
  calc
    toLong (spec.toLocalMsat + spec.outgoingMsat) = spec.toLocalMsat ↔
        toLong (spec.toLocalMsat + spec.outgoingMsat) =
          toLong (spec.toLocalMsat + 0) := by rw [← local_]
    _ ↔ toLong spec.outgoingMsat = 0 := toLong_add_right_inj _ _ 0

theorem recorded_eq_iff_settled (spec : CommitmentSpec) :
    recordedBySignature spec = recordedByStateChange spec ↔ spec.Settled := by
  have count : (spec.outgoing.length : Int) = spec.htlcs.length ↔
      ∀ h ∈ spec.htlcs, h.direction = .outwards := by
    rw [Int.natCast_inj, CommitmentSpec.outgoing,
      List.length_filter_eq_length_iff]
    simp
  simp only [recordedBySignature, recordedByStateChange, Prod.mk.injEq, count,
    CommitmentSpec.Settled, toLong_outgoing_eq_iff]
  exact and_comm

variable {data : ErrorData} {state : ChannelState} {now : Nat}
  {ref : ActorRef} {c : LocalChannel}

theorem balance_of_signatureReceived (data : ErrorData) (now : Nat)
    (commitments : Commitments) (found : state.channel? ref = some c) :
    ∃ after, (onReceive data state now (.channelSignatureReceived ref
        commitments)).state = state.put ref after ∧
      after.state = c.state ∧
      (after.balanceMsat, after.htlcsInFlightCount) =
        recordedBySignature commitments.localCommitSpec := by
  simp only [onReceive, onChannelSignatureReceived, found, outHtlcs_eq,
    toLong_add_toLong]
  exact ⟨_, rfl, rfl, rfl⟩

theorem saveLocalChannel_keeps (channels : Table LocalChannelRow)
    (c : LocalChannel) (now : Nat) :
    (DBHelper.saveLocalChannel channels c now).channel.state = c.state ∧
      (DBHelper.saveLocalChannel channels c now).channel.balanceMsat =
        c.balanceMsat ∧
      (DBHelper.saveLocalChannel channels c now).channel.htlcsInFlightCount =
        c.htlcsInFlightCount := by
  cases named : c.channelId with
  | none => simp [DBHelper.saveLocalChannel, named]
  | some channelId => simp [DBHelper.saveLocalChannel, named]

theorem balance_of_stateChanged (data : ErrorData) (state : ChannelState)
    (now : Nat) (ref : ActorRef) (previousState currentState : String)
    {currentData : ChannelData} {commitments : Commitments}
    (carries : currentData.commitments = some commitments) :
    ∃ after, (onReceive data state now (.channelStateChanged ref previousState
        currentState currentData)).state.activeChannelsMap =
        (state.put ref after).activeChannelsMap ∧
      after.state = currentState ∧
      (after.balanceMsat, after.htlcsInFlightCount) =
        recordedByStateChange commitments.localCommitSpec := by
  simp only [onReceive, onChannelStateChanged]
  generalize entity : setState (getChannel state ref now) currentState
    currentData = c
  have set : c.state = currentState ∧
      (c.balanceMsat, c.htlcsInFlightCount) =
        recordedByStateChange commitments.localCommitSpec := by
    subst c
    simp [setState, carries, setCommitments, recordedByStateChange]
  obtain ⟨sameState, sameBalance, sameCount⟩ :=
    saveLocalChannel_keeps (state.put ref c).channels c now
  refine ⟨(DBHelper.saveLocalChannel (state.put ref c).channels c now).channel,
    ?_, ?_, ?_⟩
  · have present : ((state.put ref c).channel? ref).isSome = true := by simp
    simp only [save, ChannelState.change, if_pos present]
    exact AList.insert_insert _
  · exact sameState.trans set.1
  · rw [sameBalance, sameCount]
    exact set.2

/-! ## The total balance -/

/-- Neither in error, nor closing, nor closed. -/
def countsInBalance (state : String) : Bool :=
  ! "ERR_".toList <+: state.toList && state != "CLOSING" && state != "CLOSED"

def getChannelsBalance (state : ChannelState) : Int :=
  total ((state.activeChannelsMap.entries.filter (fun entry =>
    countsInBalance entry.2.state)).map (fun entry => entry.2.balanceMsat))

theorem getChannelsBalance_of_put {state after : ChannelState} {ref : ActorRef}
    {c : LocalChannel}
    (map : after.activeChannelsMap = (state.put ref c).activeChannelsMap)
    (counts : countsInBalance c.state = true) :
    getChannelsBalance after =
      toLong (getChannelsBalance
        { state with
          activeChannelsMap := state.activeChannelsMap.erase ref } +
            c.balanceMsat) := by
  have erased : (state.activeChannelsMap.erase ref).entries =
      state.activeChannelsMap.entries.kerase ref := rfl
  rw [add_comm]
  simp [getChannelsBalance, total_eq, toLong_add_toLong, map,
    ChannelState.put, AList.entries_insert, erased, counts]

theorem getChannelsBalance_order_iff {previousState currentState : String}
    {currentData : ChannelData} {signed commitments : Commitments}
    {signedAt changedAt : Nat} (found : state.channel? ref = some c)
    (carries : currentData.commitments = some commitments)
    (same : signed.localCommitSpec = commitments.localCommitSpec)
    (counts : countsInBalance currentState = true) :
    getChannelsBalance
        (onReceive data
          (onReceive data state changedAt (.channelStateChanged ref
            previousState currentState currentData)).state
          signedAt (.channelSignatureReceived ref signed)).state =
      getChannelsBalance
        (onReceive data
          (onReceive data state signedAt (.channelSignatureReceived ref
            signed)).state
          changedAt (.channelStateChanged ref previousState currentState
            currentData)).state ↔
      toLong signed.localCommitSpec.outgoingMsat = 0 := by
  obtain ⟨changed, changedMap, changedState, changedPair⟩ :=
    balance_of_stateChanged data state changedAt ref previousState currentState
      carries
  generalize (onReceive data state changedAt (.channelStateChanged ref
    previousState currentState currentData)).state = afterChange at *
  obtain ⟨signedEntity, signedMap, _, _⟩ :=
    balance_of_signatureReceived data signedAt signed found
  rw [signedMap]
  have changedFound : afterChange.channel? ref = some changed := by
    rw [ChannelState.channel?, changedMap]
    exact AList.lookup_insert _
  obtain ⟨last, lastMap, lastState, lastPair⟩ :=
    balance_of_signatureReceived data signedAt signed changedFound
  obtain ⟨other, otherMap, otherState, otherPair⟩ :=
    balance_of_stateChanged data (state.put ref signedEntity) changedAt ref
      previousState currentState carries
  have lastPut : (afterChange.put ref last).activeChannelsMap =
      (state.put ref last).activeChannelsMap := by
    rw [ChannelState.put, changedMap]
    exact AList.insert_insert _
  have otherPut : _ = (state.put ref other).activeChannelsMap :=
    otherMap.trans (AList.insert_insert _)
  have lastTotal := getChannelsBalance_of_put lastPut
    (by rw [lastState, changedState]; exact counts)
  have otherTotal := getChannelsBalance_of_put otherPut
    (by rw [otherState]; exact counts)
  rw [lastMap, lastTotal, otherTotal]
  simp only [recordedBySignature, recordedByStateChange, Prod.mk.injEq, same]
    at lastPair otherPair
  have unlifted := toLong_outgoing_eq_iff commitments.localCommitSpec
  rw [lastPair.1, otherPair.1, same, toLong_add_right_inj]
  rwa [toLong_of_fits (fits_toLong _),
    toLong_of_fits commitments.localCommitSpec.toLocal_fits]

end NodeSupervisor

namespace ChannelMessage

/-- The local commitment a message carries. -/
def localSpec : ChannelMessage → Option CommitmentSpec
  | .channelSignatureReceived _ commitments => some commitments.localCommitSpec
  | .channelStateChanged _ _ _ currentData =>
      currentData.commitments.map Commitments.localCommitSpec
  | _ => none

def isSignatureReceived : ChannelMessage → Bool
  | .channelSignatureReceived _ _ => true
  | _ => false

/-- What the handler records of the local commitment. -/
def recorded (message : ChannelMessage) (spec : CommitmentSpec) : Int × Int :=
  if message.isSignatureReceived then NodeSupervisor.recordedBySignature spec
  else NodeSupervisor.recordedByStateChange spec

end ChannelMessage

namespace ChannelState

/-- The run hands the message to its handler, for a channel it can record. -/
def Arrives (data : ErrorData) (state : ChannelState)
    (received : List (ChannelMessage × Nat)) (message : ChannelMessage)
    (spec : CommitmentSpec) : Prop :=
  ∃ first now rest before,
    received = first ++ (message, now) :: rest ∧
    Runs.exec (step data) state first = some before ∧
    message.localSpec = some spec ∧
    (message.isSignatureReceived = true →
      (before.channel? message.channel).isSome = true)

/-- The message is handled in the run, carries `spec`, and leaves `pair` as
the balance and the number of pending HTLCs of its channel. -/
def Records (data : ErrorData) (state : ChannelState)
    (received : List (ChannelMessage × Nat)) (message : ChannelMessage)
    (spec : CommitmentSpec) (pair : Int × Int) : Prop :=
  ∃ first now rest before after c,
    received = first ++ (message, now) :: rest ∧
    Runs.exec (step data) state first = some before ∧
    step data before (message, now) = some after ∧
    message.localSpec = some spec ∧
    after.channel? message.channel = some c ∧
    pair = (c.balanceMsat, c.htlcsInFlightCount)

variable {data : ErrorData} {state : ChannelState}
  {received : List (ChannelMessage × Nat)} {message : ChannelMessage}
  {spec : CommitmentSpec} {pair : Int × Int}

/-- Step lemma: what is recorded depends on the commitment and on which
handler records it. -/
theorem arrives_of_records
    (records : Records data state received message spec pair) :
    Arrives data state received message spec ∧
      pair = message.recorded spec := by
  obtain ⟨first, now, rest, before, after, c, split, run, result, carries,
    found, rfl⟩ := records
  simp only [step, Option.some.injEq] at result
  subst after
  cases message with
  | channelSignatureReceived ref commitments =>
      simp only [ChannelMessage.localSpec, Option.some.injEq] at carries
      subst spec
      cases known : before.channel? ref with
      | none =>
          simp [NodeSupervisor.onReceive,
            NodeSupervisor.onChannelSignatureReceived, known,
            ChannelMessage.channel] at found
      | some entity =>
          obtain ⟨last, map, _, pair⟩ :=
            NodeSupervisor.balance_of_signatureReceived data now commitments
              known
          have same : last = c := by
            simpa [map, ChannelMessage.channel] using found
          subst c
          refine ⟨⟨first, now, rest, before, split, run, rfl, ?_⟩, pair⟩
          intro _
          simp [ChannelMessage.channel, known]
  | channelStateChanged ref previousState currentState currentData =>
      simp only [ChannelMessage.localSpec, Option.map_eq_some_iff] at carries
      obtain ⟨commitments, carries, rfl⟩ := carries
      obtain ⟨last, map, _, pair⟩ :=
        NodeSupervisor.balance_of_stateChanged data before now ref
          previousState currentState carries
      have same : last = c := by
        rw [channel?, map] at found
        simpa [ChannelMessage.channel, put] using found
      subst c
      refine ⟨⟨first, now, rest, before, split, run, ?_, ?_⟩, pair⟩
      · simp [ChannelMessage.localSpec, carries]
      · intro impossible
        cases impossible
  | _ => cases carries

theorem records_of_arrives
    (arrives : Arrives data state received message spec) :
    Records data state received message spec (message.recorded spec) := by
  obtain ⟨first, now, rest, before, split, run, carries, known⟩ := arrives
  cases message with
  | channelSignatureReceived ref commitments =>
      simp only [ChannelMessage.localSpec, Option.some.injEq] at carries
      subst spec
      obtain ⟨entity, found⟩ := Option.isSome_iff_exists.mp (known rfl)
      obtain ⟨last, map, _, pair⟩ :=
        NodeSupervisor.balance_of_signatureReceived data now commitments
          found
      refine ⟨first, now, rest, before, _, last, split, run, rfl, rfl, ?_,
        pair.symm⟩
      simp only [ChannelMessage.channel] at map ⊢
      rw [map]
      exact channel?_put_self before ref last
  | channelStateChanged ref previousState currentState currentData =>
      have fromData := carries
      simp only [ChannelMessage.localSpec, Option.map_eq_some_iff]
        at fromData
      obtain ⟨commitments, fromData, rfl⟩ := fromData
      obtain ⟨last, map, _, pair⟩ :=
        NodeSupervisor.balance_of_stateChanged data before now ref
          previousState currentState fromData
      refine ⟨first, now, rest, before, _, last, split, run, rfl, carries,
        ?_, pair.symm⟩
      rw [channel?, map]
      exact channel?_put_self before ref last
  | _ => cases carries

/-- Run lemma: one function of the commitment gives all that is recorded
exactly when the commitments recorded by both handlers are settled. -/
theorem records_one_function_iff :
    (∃ recorded : CommitmentSpec → Int × Int, ∀ message spec pair,
        Records data state received message spec pair →
        pair = recorded spec) ↔
      ∀ message other spec, Arrives data state received message spec →
        Arrives data state received other spec →
        message.isSignatureReceived = true →
        other.isSignatureReceived = false → spec.Settled := by
  constructor
  · intro given message other spec arrives otherArrives isSigned isChange
    obtain ⟨recorded, agrees⟩ := given
    apply (NodeSupervisor.recorded_eq_iff_settled spec).mp
    have signed := agrees message spec _ (records_of_arrives arrives)
    have changed := agrees other spec _ (records_of_arrives otherArrives)
    simp only [ChannelMessage.recorded, isSigned, if_pos] at signed
    simp only [ChannelMessage.recorded, isChange] at changed
    exact signed.trans changed.symm
  · intro settled
    classical
    -- the signature handler's value where it records the commitment at all
    refine ⟨fun spec =>
      if ∃ message, Arrives data state received message spec ∧
          message.isSignatureReceived = true then
        NodeSupervisor.recordedBySignature spec
      else NodeSupervisor.recordedByStateChange spec, ?_⟩
    intro message spec pair records
    obtain ⟨arrives, rfl⟩ := arrives_of_records records
    cases handler : message.isSignatureReceived with
    | true =>
        have signed : ∃ message, Arrives data state received message spec ∧
            message.isSignatureReceived = true :=
          ⟨message, arrives, handler⟩
        simp [ChannelMessage.recorded, handler, signed]
    | false =>
        by_cases both : ∃ message, Arrives data state received message spec ∧
            message.isSignatureReceived = true
        · obtain ⟨signed, signedArrives, isSigned⟩ := both
          have equal := (NodeSupervisor.recorded_eq_iff_settled spec).mpr
            (settled signed message spec signedArrives arrives isSigned
              handler)
          simp [ChannelMessage.recorded, handler, equal]
        · simp [ChannelMessage.recorded, handler, both]

/-- What the two handlers record in a run is one function of the commitment
exactly when no commitment with pending HTLCs reaches both; and the total
balance forgets which of them came last exactly when the outgoing HTLCs add up
to nothing, as a `long`. -/
theorem one_balance_iff (data : ErrorData) :
    (∀ channels received,
      (∃ recorded : CommitmentSpec → Int × Int, ∀ message spec pair,
          Records data (start channels) received message spec pair →
          pair = recorded spec) ↔
        ∀ message other spec,
          Arrives data (start channels) received message spec →
          Arrives data (start channels) received other spec →
          message.isSignatureReceived = true →
          other.isSignatureReceived = false → spec.Settled) ∧
    ∀ state ref c previousState currentState currentData signed commitments
      signedAt changedAt,
      channel? state ref = some c →
      currentData.commitments = some commitments →
      signed.localCommitSpec = commitments.localCommitSpec →
      NodeSupervisor.countsInBalance currentState = true →
      (NodeSupervisor.getChannelsBalance
          (NodeSupervisor.onReceive data
            (NodeSupervisor.onReceive data state changedAt
              (.channelStateChanged ref previousState currentState
                currentData)).state
            signedAt (.channelSignatureReceived ref signed)).state =
        NodeSupervisor.getChannelsBalance
          (NodeSupervisor.onReceive data
            (NodeSupervisor.onReceive data state signedAt
              (.channelSignatureReceived ref signed)).state
            changedAt (.channelStateChanged ref previousState currentState
              currentData)).state ↔
        toLong signed.localCommitSpec.outgoingMsat = 0) := by
  constructor
  · intro channels received
    exact records_one_function_iff
  · intro state ref c previousState currentState currentData signed
      commitments signedAt changedAt found carries same counts
    exact NodeSupervisor.getChannelsBalance_order_iff found carries same
      counts

/-- Commitments with one HTLC each way. -/
def pendingCommitments : Commitments :=
  { localCommitSpec :=
      { htlcs :=
          [{ direction := .outwards, paymentHash := "out", amountMsat := 7 },
            { direction := .inwards, paymentHash := "in", amountMsat := 5 }]
        toLocalMsat := 100
        totalFunds := 112 }
    channelReserveSatoshis := 0
    htlcMinimumMsat := 1
    remoteLocalFeatures := ""
    toSelfDelay := 144
    fundingTxid := "funding" }

/-- A run in which no commitment reaches both handlers, and the totals of the
two orders on a pending commitment. -/
theorem one_balance_of_pending :
    (∃ recorded : CommitmentSpec → Int × Int, ∀ message spec pair,
      Records ⟨fun _ => true, fun _ => ""⟩ (start Table.empty) []
        message spec pair → pair = recorded spec) ∧
    NodeSupervisor.getChannelsBalance
        (NodeSupervisor.onReceive ⟨fun _ => true, fun _ => ""⟩
          (NodeSupervisor.onReceive ⟨fun _ => true, fun _ => ""⟩
            ((start Table.empty).put 0 (LocalChannel.new 1)) 2
            (.channelStateChanged 0 "NORMAL" "NORMAL"
              (.hasCommitments pendingCommitments))).state
          3 (.channelSignatureReceived 0 pendingCommitments)).state ≠
      NodeSupervisor.getChannelsBalance
        (NodeSupervisor.onReceive ⟨fun _ => true, fun _ => ""⟩
          (NodeSupervisor.onReceive ⟨fun _ => true, fun _ => ""⟩
            ((start Table.empty).put 0 (LocalChannel.new 1)) 3
            (.channelSignatureReceived 0 pendingCommitments)).state
          2 (.channelStateChanged 0 "NORMAL" "NORMAL"
            (.hasCommitments pendingCommitments))).state := by
  obtain ⟨runs, totals⟩ := one_balance_iff ⟨fun _ => true, fun _ => ""⟩
  constructor
  · apply (runs Table.empty []).mpr
    intro message other spec given
    obtain ⟨first, now, rest, before, split, _⟩ := given
    simp at split
  · intro equal
    have none := (totals _ 0 (LocalChannel.new 1) "NORMAL" "NORMAL"
      (.hasCommitments pendingCommitments) pendingCommitments
      pendingCommitments 3 2 rfl rfl rfl (by decide)).mp equal
    cases none

theorem two_balances_recorded :
    ¬ ∃ recorded : CommitmentSpec → Int × Int, ∀ message spec pair,
      Records ⟨fun _ => true, fun _ => ""⟩ (start Table.empty)
        [(.channelCreated 0 "channel" "node", 1),
          (.channelSignatureReceived 0 pendingCommitments, 2),
          (.channelStateChanged 0 "NORMAL" "NORMAL"
            (.hasCommitments pendingCommitments), 3)]
        message spec pair →
      pair = recorded spec := by
  intro given
  obtain ⟨recorded, agrees⟩ := given
  have signed : (107, 1) = recorded pendingCommitments.localCommitSpec := by
    apply agrees (.channelSignatureReceived 0 pendingCommitments)
    exact ⟨[(.channelCreated 0 "channel" "node", 1)], 2, _, _, _, _, rfl, rfl,
      rfl, rfl, rfl, rfl⟩
  have changed : (100, 2) = recorded pendingCommitments.localCommitSpec := by
    apply agrees (.channelStateChanged 0 "NORMAL" "NORMAL"
      (.hasCommitments pendingCommitments))
    exact ⟨[(.channelCreated 0 "channel" "node", 1),
      (.channelSignatureReceived 0 pendingCommitments, 2)], 3, [], _, _, _,
      rfl, rfl, rfl, rfl, rfl, rfl⟩
  have same : ((107, 1) : Int × Int) = (100, 2) := signed.trans changed.symm
  cases same

end ChannelState

end EclairWallet
