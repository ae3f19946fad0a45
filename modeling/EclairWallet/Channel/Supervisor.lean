import Mathlib.Data.List.AList
import EclairWallet.Channel.Entity
import EclairWallet.Library.JavaLong
import EclairWallet.Library.Runs

/-!
# The node supervisor's channel handlers

`NodeSupervisor.onReceive` for the messages that touch the channels map or the
channels table.  An entity in the map is an object: a handler that obtains it
with `getChannel` and changes it changes what the map shows.
-/

namespace EclairWallet

open JavaLong (Fits toLong)

abbrev ActorRef := Nat

/-- The specification of a commitment, as the wallet reads it. -/
structure CommitmentSpec where
  htlcs : List DirectedHtlc
  toLocalMsat : Int
  totalFunds : Int
  toLocal_fits : Fits toLocalMsat := by decide
  deriving DecidableEq, Repr

structure Commitments where
  localCommitSpec : CommitmentSpec
  channelReserveSatoshis : Int
  htlcMinimumMsat : Int
  remoteLocalFeatures : String
  toSelfDelay : Int
  fundingTxid : String
  deriving DecidableEq, Repr

structure LocalCommitPublished where
  commitTx : String
  claimMainDelayedOutputTx : Option String
  deriving DecidableEq, Repr

/-- `DATA_CLOSING`. -/
structure DataClosing where
  commitments : Commitments
  mutualClosePublished : List String
  localCommitPublished : Option LocalCommitPublished
  remoteCommitPublished : Option String
  revokedCommitPublished : List String
  deriving DecidableEq, Repr

/-- The data of a channel state: closing, any other with commitments, or one
without. -/
inductive ChannelData where
  | closing (data : DataClosing)
  | hasCommitments (commitments : Commitments)
  | other
  deriving DecidableEq, Repr

namespace ChannelData

def commitments : ChannelData → Option Commitments
  | .closing data => some data.commitments
  | .hasCommitments commitments => some commitments
  | .other => none

end ChannelData

/-- A local error carries a throwable or null, and its message may be null. -/
inductive ChannelError where
  | localError (t : Option (Option String))
  | remoteError (data : List UInt8)
  | other
  deriving DecidableEq, Repr

inductive ChannelMessage where
  | channelCreated (channel : ActorRef)
      (temporaryChannelId remoteNodeId : String)
  | channelRestored (channel : ActorRef) (channelId remoteNodeId : String)
  | channelIdAssigned (channel : ActorRef) (channelId : String)
  | shortChannelIdAssigned (channel : ActorRef) (shortChannelId : String)
  | channelSignatureReceived (channel : ActorRef) (commitments : Commitments)
  | terminated (actor : ActorRef)
  | channelFailed (channel : ActorRef) (error : ChannelError)
  | localCommitConfirmed (channel : ActorRef) (refundAtBlock : Int)
  | channelStateChanged (channel : ActorRef)
      (previousState currentState : String) (currentData : ChannelData)
  deriving DecidableEq, Repr

structure ClosingChannelNotificationEvent where
  channelId : Option String
  remoteNodeId : Option String
  isLocalClosing : Bool
  balanceAtClosingMsat : Int
  toSelfDelayBlocks : Int
  deriving DecidableEq, Repr

inductive ChannelEffect where
  | refreshBalance
  | refreshChannels
  | watch (channel : ActorRef)
  | closingNotification (event : ClosingChannelNotificationEvent)
  deriving DecidableEq, Repr

/-- What the channel handlers call in `eclair-core` on the bytes of an
error. -/
structure ErrorData where
  isAsciiPrintable : List UInt8 → Bool
  toString : List UInt8 → String

structure ChannelState where
  activeChannelsMap : AList (fun _ : ActorRef => LocalChannel)
  channels : Table LocalChannelRow

namespace ChannelState

/-- A new process: the map is empty. -/
def start (channels : Table LocalChannelRow) : ChannelState :=
  { activeChannelsMap := ∅, channels := channels }

def channel? (state : ChannelState) (ref : ActorRef) : Option LocalChannel :=
  state.activeChannelsMap.lookup ref

/-- `activeChannelsMap.put`. -/
def put (state : ChannelState) (ref : ActorRef) (c : LocalChannel) :
    ChannelState :=
  { state with activeChannelsMap := state.activeChannelsMap.insert ref c }

/-- The entity obtained for `ref` was changed to `c`. -/
def change (state : ChannelState) (ref : ActorRef) (c : LocalChannel) :
    ChannelState :=
  if (state.channel? ref).isSome then state.put ref c else state

@[simp] theorem channel?_start (channels : Table LocalChannelRow)
    (ref : ActorRef) : (start channels).channel? ref = none :=
  rfl

@[simp] theorem channel?_put_self (state : ChannelState) (ref : ActorRef)
    (c : LocalChannel) : (state.put ref c).channel? ref = some c :=
  AList.lookup_insert _

theorem channel?_put_of_ne {state : ChannelState} {ref other : ActorRef}
    {c : LocalChannel} (different : other ≠ ref) :
    (state.put ref c).channel? other = state.channel? other :=
  AList.lookup_insert_ne different

theorem channel?_change_self {state : ChannelState} {ref : ActorRef}
    (found : (state.channel? ref).isSome = true) (c : LocalChannel) :
    (state.change ref c).channel? ref = some c := by
  unfold change
  rw [if_pos found]
  exact channel?_put_self state ref c

theorem channel?_change_of_ne {state : ChannelState} {ref other : ActorRef}
    {c : LocalChannel} (different : other ≠ ref) :
    (state.change ref c).channel? other = state.channel? other := by
  unfold change
  split
  · exact channel?_put_of_ne different
  · rfl

@[simp] theorem put_channels (state : ChannelState) (ref : ActorRef)
    (c : LocalChannel) : (state.put ref c).channels = state.channels :=
  rfl

end ChannelState

namespace WalletUtils

/-- Decoding as US-ASCII replaces every other byte. -/
def toAscii (bytes : List UInt8) : String :=
  String.ofList (bytes.map (fun byte =>
    if byte < 128 then Char.ofNat byte.toNat else Char.ofNat 0xFFFD))

end WalletUtils

namespace NodeSupervisor

def getChannel (state : ChannelState) (ref : ActorRef) (now : Nat) :
    LocalChannel :=
  (state.channel? ref).getD (LocalChannel.new now)

/-- Save the entity of `ref`.  The effects in `done` happened before the
write, those in `next` happen unless it is refused. -/
def save (state : ChannelState) (ref : ActorRef) (c : LocalChannel)
    (now : Nat) (done next : List ChannelEffect) :
    Handled ChannelState ChannelEffect :=
  let saved := DBHelper.saveLocalChannel state.channels c now
  { state :=
      { state.change ref saved.channel with channels := saved.channels }
    effects := if saved.thrown = none then done ++ next else done
    thrown := saved.thrown }

def onChannelCreated (state : ChannelState) (ref : ActorRef)
    (temporaryChannelId remoteNodeId : String) (now : Nat) :
    Handled ChannelState ChannelEffect :=
  let c :=
    { getChannel state ref now with
      channelId := some temporaryChannelId
      peerNodeId := some remoteNodeId }
  { state := state.put ref c
    effects := [.watch ref, .refreshChannels] }

/-- The columns the node sends only once are restored from the table. -/
def onChannelRestored (state : ChannelState) (ref : ActorRef)
    (channelId remoteNodeId : String) (now : Nat) :
    Handled ChannelState ChannelEffect :=
  let c :=
    { getChannel state ref now with
      channelId := some channelId
      peerNodeId := some remoteNodeId }
  let c :=
    match DBHelper.getLocalChannel state.channels channelId with
    | some channelInDB => { c with refundAtBlock := channelInDB.refundAtBlock }
    | none => c
  { state := state.put ref c
    effects := [.watch ref, .refreshBalance, .refreshChannels] }

def onChannelIdAssigned (state : ChannelState) (ref : ActorRef)
    (channelId : String) (now : Nat) : Handled ChannelState ChannelEffect :=
  match state.channel? ref with
  | some c => save state ref { c with channelId := some channelId } now [] []
  | none => { state := state }

def onShortChannelIdAssigned (state : ChannelState) (ref : ActorRef)
    (shortChannelId : String) : Handled ChannelState ChannelEffect :=
  match state.channel? ref with
  | some c =>
      { state := state.put ref { c with shortChannelId := some shortChannelId } }
  | none => { state := state }

/-- The loop over the HTLCs of the local commitment: how many are outgoing and
what they add up to. -/
def outHtlcs : List DirectedHtlc → Int × Int
  | [] => (0, 0)
  | h :: htlcs =>
      let (count, amount) := outHtlcs htlcs
      if h.direction = .outwards then
        (count + 1, toLong (amount + h.amountMsat))
      else (count, amount)

def onChannelSignatureReceived (state : ChannelState) (ref : ActorRef)
    (commitments : Commitments) : Handled ChannelState ChannelEffect :=
  match state.channel? ref with
  | some c =>
      let spec := commitments.localCommitSpec
      let (htlcsCount, outHtlcsAmount) := outHtlcs spec.htlcs
      { state := state.put ref
          { c with
            channelReserveSat := commitments.channelReserveSatoshis
            minimumHtlcAmountMsat := commitments.htlcMinimumMsat
            htlcsInFlightCount := htlcsCount
            balanceMsat := toLong (spec.toLocalMsat + outHtlcsAmount)
            capacityMsat := spec.totalFunds }
        effects := [.refreshBalance, .refreshChannels] }
  | none => { state := state }

/-- The channel leaves the map only if the table could be updated. -/
def onTerminated (state : ChannelState) (ref : ActorRef) (now : Nat) :
    Handled ChannelState ChannelEffect :=
  let (channels, thrown) :=
    match state.channel? ref with
    | some c => DBHelper.channelTerminated state.channels c.channelId now
    | none => (state.channels, none)
  match thrown with
  | some _ => { state := state, thrown := thrown }
  | none =>
      { state :=
          { activeChannelsMap := state.activeChannelsMap.erase ref
            channels := channels }
        effects := [.refreshBalance, .refreshChannels] }

/-- The text stored for an error, null when the message is ignored. -/
def closingErrorMessage (data : ErrorData) :
    ChannelError → Option (Option String)
  | .localError t => t
  | .remoteError bytes =>
      if data.isAsciiPrintable bytes then some (some (WalletUtils.toAscii bytes))
      else some (some (data.toString bytes))
  | .other => none

def onChannelFailed (data : ErrorData) (state : ChannelState)
    (ref : ActorRef) (error : ChannelError) (now : Nat) :
    Handled ChannelState ChannelEffect :=
  match closingErrorMessage data error with
  | some message =>
      save state ref
        { getChannel state ref now with closingErrorMessage := message } now
        [] []
  | none => { state := state }

def onLocalCommitConfirmed (state : ChannelState) (ref : ActorRef)
    (refundAtBlock : Int) (now : Nat) : Handled ChannelState ChannelEffect :=
  match state.channel? ref with
  | some c =>
      save state ref { c with refundAtBlock := refundAtBlock } now []
        [.refreshChannels]
  | none => { state := state }

/-- The closing type and the closing transactions of an entity. -/
def setClosing (c : LocalChannel) (d : DataClosing) : LocalChannel :=
  match d.mutualClosePublished, d.localCommitPublished,
      d.remoteCommitPublished, d.revokedCommitPublished with
  | first :: rest, none, none, [] =>
      { c with
        closingType := some .mutual
        mainClosingTxs := first :: rest }
  | [], none, some commitTx, [] =>
      { c with
        closingType := some .remote
        mainClosingTxs := [commitTx] }
  | [], some published, none, [] =>
      { c with
        closingType := some .local
        mainClosingTxs := [published.commitTx]
        mainDelayedClosingTx := published.claimMainDelayedOutputTx }
  | _, _, _, _ => { c with closingType := some .other }

/-- No notification when the state goes straight from
`WAIT_FOR_INIT_INTERNAL` to `CLOSING`, nor from `CLOSING` to `CLOSED`. -/
def closingNotifications (c : LocalChannel) (previousState currentState : String)
    (d : DataClosing) : List ChannelEffect :=
  if currentState ≠ "CLOSED" ∧ previousState ≠ "WAIT_FOR_INIT_INTERNAL" then
    [.closingNotification
      { channelId := c.channelId
        remoteNodeId := c.peerNodeId
        isLocalClosing := c.closingType = some .local
        balanceAtClosingMsat := d.commitments.localCommitSpec.toLocalMsat
        toSelfDelayBlocks := c.toSelfDelayBlocks }]
  else []

def setCommitments (c : LocalChannel) (commitments : Commitments) :
    LocalChannel :=
  { c with
    localFeatures := some commitments.remoteLocalFeatures
    toSelfDelayBlocks := commitments.toSelfDelay
    htlcsInFlightCount := commitments.localCommitSpec.htlcs.length
    channelReserveSat := commitments.channelReserveSatoshis
    minimumHtlcAmountMsat := commitments.htlcMinimumMsat
    fundingTxId := some commitments.fundingTxid
    balanceMsat := commitments.localCommitSpec.toLocalMsat
    capacityMsat := commitments.localCommitSpec.totalFunds }

/-- The entity as `ChannelStateChanged` saves it. -/
def setState (c : LocalChannel) (currentState : String)
    (currentData : ChannelData) : LocalChannel :=
  let c :=
    match currentData with
    | .closing d => setClosing c d
    | _ => c
  let c := { c with state := currentState }
  match currentData.commitments with
  | some commitments => setCommitments c commitments
  | none => c

def onChannelStateChanged (state : ChannelState) (ref : ActorRef)
    (previousState currentState : String) (currentData : ChannelData)
    (now : Nat) : Handled ChannelState ChannelEffect :=
  let c := getChannel state ref now
  let posted :=
    match currentData with
    | .closing d =>
        closingNotifications (setClosing c d) previousState currentState d
    | _ => []
  let c := setState c currentState currentData
  save (state.put ref c) ref c now posted [.refreshBalance, .refreshChannels]

/-- `onReceive` on the messages about channels. -/
def onReceive (data : ErrorData) (state : ChannelState) (now : Nat) :
    ChannelMessage → Handled ChannelState ChannelEffect
  | .channelCreated ref temporaryChannelId remoteNodeId =>
      onChannelCreated state ref temporaryChannelId remoteNodeId now
  | .channelRestored ref channelId remoteNodeId =>
      onChannelRestored state ref channelId remoteNodeId now
  | .channelIdAssigned ref channelId =>
      onChannelIdAssigned state ref channelId now
  | .shortChannelIdAssigned ref shortChannelId =>
      onShortChannelIdAssigned state ref shortChannelId
  | .channelSignatureReceived ref commitments =>
      onChannelSignatureReceived state ref commitments
  | .terminated ref => onTerminated state ref now
  | .channelFailed ref error => onChannelFailed data state ref error now
  | .localCommitConfirmed ref refundAtBlock =>
      onLocalCommitConfirmed state ref refundAtBlock now
  | .channelStateChanged ref previousState currentState currentData =>
      onChannelStateChanged state ref previousState currentState currentData
        now

end NodeSupervisor

namespace ChannelState

/-- The supervisor receives the message at the given time.  An exception
restarts the actor; the map is static and survives it. -/
def step (data : ErrorData) (state : ChannelState)
    (received : ChannelMessage × Nat) : Option ChannelState :=
  some (NodeSupervisor.onReceive data state received.2 received.1).state

end ChannelState

end EclairWallet
