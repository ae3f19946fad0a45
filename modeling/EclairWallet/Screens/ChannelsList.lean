import Mathlib.Data.List.Sort
import EclairWallet.Channel.Identifiable

/-!
# The channels screen

`ChannelsListFragment` with its two lists, the screen of one channel,
`ChannelDetailsActivity`, and `CloseChannelDialog`, from which a channel is
closed.
-/

namespace EclairWallet

namespace DBHelper

/-- `ORDER BY updated DESC`; a null date is smaller than any other. -/
def updatedDesc (row other : LocalChannelRow) : Bool :=
  match row.updated, other.updated with
  | _, none => true
  | none, some _ => false
  | some date, some earlier => earlier ≤ date

def getInactiveChannels (channels : Table LocalChannelRow) :
    List LocalChannelRow :=
  (channels.rows.filter (fun row => row.isActive = false)).insertionSort
    (fun row other => updatedDesc row other = true)

theorem mem_getInactiveChannels_iff {channels : Table LocalChannelRow}
    {row : LocalChannelRow} :
    row ∈ getInactiveChannels channels ↔
      row ∈ channels.rows ∧ row.isActive = false := by
  rw [getInactiveChannels, List.mem_insertionSort, List.mem_filter,
    decide_eq_true_eq]

theorem nodup_getInactiveChannels (channels : Table LocalChannelRow) :
    ((getInactiveChannels channels).map
      (fun row => row.channelId)).Nodup := by
  have kept : ((channels.rows.filter (fun row => row.isActive = false)).map
      (fun row => row.channelId)).Nodup :=
    channels.uniques.sublist (List.filter_sublist.map _)
  exact ((List.perm_insertionSort _ _).map _).nodup_iff.mpr kept

theorem updatedDesc_total (row other : LocalChannelRow) :
    updatedDesc row other = true ∨ updatedDesc other row = true := by
  cases date : row.updated <;> cases earlier : other.updated <;>
    simp [updatedDesc, date, earlier, Nat.le_total]

theorem updatedDesc_trans {first second third : LocalChannelRow}
    (before : updatedDesc first second = true)
    (after : updatedDesc second third = true) :
    updatedDesc first third = true := by
  cases one : first.updated <;> cases two : second.updated <;>
    cases three : third.updated <;>
    simp_all [updatedDesc]
  exact Nat.le_trans after before

theorem pairwise_getInactiveChannels (channels : Table LocalChannelRow) :
    (getInactiveChannels channels).Pairwise
      (fun row other => updatedDesc row other = true) := by
  have : Std.Total (fun row other => updatedDesc row other = true) :=
    ⟨updatedDesc_total⟩
  have : IsTrans LocalChannelRow
      (fun row other => updatedDesc row other = true) :=
    ⟨fun _ _ _ => updatedDesc_trans⟩
  exact List.pairwise_insertionSort _ _

end DBHelper

namespace ChannelsListFragment

def updateInactiveChannelsList (state : ChannelState) : List LocalChannelRow :=
  DBHelper.getInactiveChannels state.channels

/-- The values of the map; its order is not specified. -/
def updateActiveChannelsList (state : ChannelState) : List LocalChannel :=
  state.activeChannelsMap.entries.map Sigma.snd

theorem mem_updateActiveChannelsList_iff {state : ChannelState}
    {c : LocalChannel} :
    c ∈ updateActiveChannelsList state ↔
      ∃ ref, state.channel? ref = some c := by
  rw [updateActiveChannelsList, List.mem_map]
  constructor
  · rintro ⟨⟨ref, own⟩, member, rfl⟩
    exact ⟨ref, AList.mem_lookup_iff.mpr member⟩
  · rintro ⟨ref, found⟩
    exact ⟨⟨ref, c⟩, AList.mem_lookup_iff.mp found, rfl⟩

end ChannelsListFragment

/-- The messages that close a channel: `CMD_CLOSE` and `CMD_FORCECLOSE`. -/
inductive CloseCommand where
  | close
  | forceClose
  deriving DecidableEq, Repr

/-- The dialog and its checkbox. -/
structure CloseChannelDialog where
  actor : Option ActorRef
  mutualAllowed : Bool
  forceAllowed : Bool
  isChecked : Bool
  isEnabled : Bool
  isVisible : Bool
  isShowing : Bool := false
  deriving DecidableEq, Repr

namespace CloseChannelDialog

/-- With force close as the only way, the checkbox is checked and stays so. -/
def new (actor : Option ActorRef) (mutualAllowed forceAllowed : Bool) :
    CloseChannelDialog :=
  if !mutualAllowed && forceAllowed then
    { actor := actor
      mutualAllowed := mutualAllowed
      forceAllowed := forceAllowed
      isChecked := true
      isEnabled := false
      isVisible := true }
  else
    { actor := actor
      mutualAllowed := mutualAllowed
      forceAllowed := forceAllowed
      isChecked := false
      isEnabled := true
      isVisible := forceAllowed }

section New

variable (actor : Option ActorRef) (mutualAllowed forceAllowed : Bool)

@[simp] theorem new_actor :
    (new actor mutualAllowed forceAllowed).actor = actor := by
  cases mutualAllowed <;> cases forceAllowed <;> rfl

@[simp] theorem new_mutualAllowed :
    (new actor mutualAllowed forceAllowed).mutualAllowed = mutualAllowed := by
  cases mutualAllowed <;> cases forceAllowed <;> rfl

@[simp] theorem new_forceAllowed :
    (new actor mutualAllowed forceAllowed).forceAllowed = forceAllowed := by
  cases mutualAllowed <;> cases forceAllowed <;> rfl

@[simp] theorem new_isShowing :
    (new actor mutualAllowed forceAllowed).isShowing = false := by
  cases mutualAllowed <;> cases forceAllowed <;> rfl

end New

def command (dialog : CloseChannelDialog) : CloseCommand :=
  if dialog.isChecked then .forceClose else .close

end CloseChannelDialog

/-- The channel as each of its uses in `setupView` finds it, in their order.
The node supervisor writes the same object on its own thread. -/
structure ChannelReads where
  isActive : LocalChannel
  branch : LocalChannel
  text : LocalChannel
  mutualAllowed : LocalChannel
  forceAllowed : LocalChannel
  mutualButton : LocalChannel
  forceButton : LocalChannel
  channelId : LocalChannel
  deriving DecidableEq, Repr

/-- Nothing is written between the uses. -/
def ChannelReads.same (channel : LocalChannel) : ChannelReads where
  isActive := channel
  branch := channel
  text := channel
  mutualAllowed := channel
  forceAllowed := channel
  mutualButton := channel
  forceButton := channel
  channelId := channel

/-- `ChannelDetailsActivity`: the id it was opened with, what it displays,
whether its close button is visible, and its dialog. -/
structure ChannelDetailsActivity where
  mChannelId : String
  isActive : Bool := false
  channelId : Option String := none
  state : Option String := none
  closeButton : Bool := false
  mCloseChannelDialog : Option CloseChannelDialog := none
  isResumed : Bool := false
  isFinishing : Bool := false
  deriving DecidableEq, Repr

namespace ChannelDetailsActivity

def STATE_MUTUAL_CLOSE : List String :=
  ["WAIT_FOR_INIT_INTERNAL", "WAIT_FOR_OPEN_CHANNEL",
    "WAIT_FOR_ACCEPT_CHANNEL", "WAIT_FOR_FUNDING_INTERNAL",
    "WAIT_FOR_FUNDING_CREATED", "WAIT_FOR_FUNDING_SIGNED", "NORMAL"]

def STATE_FORCE_CLOSE : List String :=
  ["WAIT_FOR_FUNDING_CONFIRMED", "WAIT_FOR_FUNDING_LOCKED", "NORMAL",
    "SHUTDOWN", "NEGOTIATING", "OFFLINE", "SYNCING"]

def finish (screen : ChannelDetailsActivity) : ChannelDetailsActivity :=
  { screen with isFinishing := true }

/-- An inactive channel leaves the dialog and the button, which is no longer
visible, as they are. -/
def setupView (screen : ChannelDetailsActivity) (reads : ChannelReads)
    (actorRef : Option ActorRef) : ChannelDetailsActivity :=
  let screen :=
    { screen with
      isActive := reads.isActive.isActive
      channelId := reads.channelId.channelId }
  if reads.branch.isActive then
    { screen with
      state := some reads.text.state
      mCloseChannelDialog :=
        some (CloseChannelDialog.new actorRef
          (STATE_MUTUAL_CLOSE.contains reads.mutualAllowed.state)
          (STATE_FORCE_CLOSE.contains reads.forceAllowed.state))
      closeButton :=
        STATE_MUTUAL_CLOSE.contains reads.mutualButton.state ||
          STATE_FORCE_CLOSE.contains reads.forceButton.state }
  else screen

/-- The channel is looked up in the map, in the order in which its entries are
visited, then in the table, whose rows carry no transient field. -/
def lookUpChannel (screen : ChannelDetailsActivity) (state : ChannelState)
    (entries : List (Sigma (fun _ : ActorRef => LocalChannel))) :
    Option (LocalChannel × Option ActorRef) :=
  match NodeSupervisor.getChannelFromId screen.mChannelId entries with
  | .error _ => none
  | .ok (some activeChannel) => some (activeChannel.2, some activeChannel.1)
  | .ok none =>
      (DBHelper.getLocalChannel state.channels screen.mChannelId).map
        (fun channelDB => ({ toLocalChannelRow := channelDB }, none))

def refreshChannel (screen : ChannelDetailsActivity) (state : ChannelState)
    (entries : List (Sigma (fun _ : ActorRef => LocalChannel)))
    (reads : ChannelReads) : ChannelDetailsActivity :=
  match screen.lookUpChannel state entries with
  | some (_, actorRef) => setupView screen reads actorRef
  | none => screen.finish

/-- The dialog is shown, hidden or its checkbox is used. -/
def setDialog (screen : ChannelDetailsActivity)
    (change : CloseChannelDialog → CloseChannelDialog) :
    ChannelDetailsActivity :=
  { screen with mCloseChannelDialog := screen.mCloseChannelDialog.map change }

end ChannelDetailsActivity

/-- The node supervisor with one details screen over it.  `received` and `sent`
record the messages the supervisor received and the commands the dialog
sent. -/
structure ChannelDetailsState where
  node : ChannelState
  screen : ChannelDetailsActivity
  received : List (ChannelMessage × Nat) := []
  sent : List (ActorRef × CloseCommand) := []
  isCrashed : Bool := false

inductive ChannelDetailsEvent where
  | receive (message : ChannelMessage) (now : Nat)
  | onNewIntent (channelId : String)
  | onResume (initialised : Bool)
      (entries : List (Sigma (fun _ : ActorRef => LocalChannel)))
      (reads : ChannelReads)
  | onPause
  | clickCloseButton
  | clickCheckbox
  | clickCancel
  | clickClose

namespace ChannelDetailsState

open ChannelDetailsActivity

def start (channels : Table LocalChannelRow) (channelId : String) :
    ChannelDetailsState :=
  { node := ChannelState.start channels
    screen := { mChannelId := channelId } }

def withScreen (state : ChannelDetailsState)
    (screen : ChannelDetailsActivity) : ChannelDetailsState :=
  { state with screen := screen }

/-- The dialog in front of the screen. -/
def dialog? (state : ChannelDetailsState) : Option CloseChannelDialog :=
  state.screen.mCloseChannelDialog.bind (fun dialog =>
    if dialog.isShowing then some dialog else none)

/-- The listener of the dialog's close button.  Without an actor it throws. -/
def closeConfirmed (state : ChannelDetailsState)
    (dialog : CloseChannelDialog) : ChannelDetailsState :=
  match dialog.actor with
  | none => { state with isCrashed := true }
  | some actor =>
      { state with
        sent := state.sent ++ [(actor, dialog.command)]
        screen := (state.screen.setDialog
          (fun dialog => { dialog with isShowing := false })).finish }

/-- One event.  The screen takes touches while it is resumed, its dialog while
it is shown, and then the screen below takes none. -/
def step (data : ErrorData) (state : ChannelDetailsState) :
    ChannelDetailsEvent → Option ChannelDetailsState
  | .receive message now =>
      some { state with
        node := (NodeSupervisor.onReceive data state.node now message).state
        received := state.received ++ [(message, now)] }
  | .onNewIntent channelId =>
      if state.screen.isResumed = false ∧ state.screen.isFinishing = false then
        some (state.withScreen { state.screen with mChannelId := channelId })
      else none
  | .onResume initialised entries reads =>
      if state.screen.isResumed = false ∧ state.screen.isFinishing = false ∧
          entries.Perm state.node.activeChannelsMap.entries then
        let screen := { state.screen with isResumed := true }
        if initialised then
          some (state.withScreen
            (screen.refreshChannel state.node entries reads))
        else some (state.withScreen screen)
      else none
  | .onPause =>
      if state.screen.isResumed then
        some (state.withScreen
          { state.screen.setDialog
              (fun dialog => { dialog with isShowing := false }) with
            isResumed := false })
      else none
  | .clickCloseButton =>
      if state.screen.isResumed = true ∧ state.dialog? = none ∧
          state.screen.isActive = true ∧ state.screen.closeButton = true then
        some (state.withScreen (state.screen.setDialog
          (fun dialog => { dialog with isShowing := true })))
      else none
  | .clickCheckbox =>
      match state.dialog? with
      | some dialog =>
          if dialog.isEnabled = true ∧ dialog.isVisible = true then
            some (state.withScreen (state.screen.setDialog
              (fun dialog => { dialog with isChecked := !dialog.isChecked })))
          else none
      | none => none
  | .clickCancel =>
      match state.dialog? with
      | some _ =>
          some (state.withScreen (state.screen.setDialog
            (fun dialog => { dialog with isShowing := false })))
      | none => none
  | .clickClose =>
      match state.dialog? with
      | some dialog => some (state.closeConfirmed dialog)
      | none => none

end ChannelDetailsState

end EclairWallet
