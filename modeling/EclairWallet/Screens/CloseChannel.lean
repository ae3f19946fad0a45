import EclairWallet.Channel.Agreement
import EclairWallet.Screens.ChannelsList

/-!
# The channel that is closed

Between the moment a channel is displayed and the tap that closes it, the node
goes on: channels change their state, get other ids, end.  The command goes to
the channel that is displayed, and is one that the displayed state allows, as
long as no message is handled while the screen reads the channel it displays.
-/

namespace EclairWallet

open Received

namespace CloseCommand

/-- The channel states in which the screen offers the command. -/
def states : CloseCommand → List String
  | .close => ChannelDetailsActivity.STATE_MUTUAL_CLOSE
  | .forceClose => ChannelDetailsActivity.STATE_FORCE_CLOSE

end CloseCommand

namespace NodeSupervisor

theorem getChannelFromId_some {channelId : String}
    {entries : List (Sigma (fun _ : ActorRef => LocalChannel))}
    {entry : Sigma (fun _ : ActorRef => LocalChannel)}
    (found : getChannelFromId channelId entries = .ok (some entry)) :
    entry ∈ entries ∧ entry.2.channelId = some channelId := by
  induction entries with
  | nil => cases found
  | cons first rest ih =>
      rw [getChannelFromId] at found
      cases named : first.2.channelId with
      | none =>
          rw [named] at found
          cases found
      | some own =>
          simp only [named] at found
          by_cases same : own = channelId
          · rw [if_pos same] at found
            cases found
            exact ⟨List.mem_cons_self, named.trans (congrArg some same)⟩
          · rw [if_neg same] at found
            obtain ⟨member, isNamed⟩ := ih found
            exact ⟨List.mem_cons_of_mem _ member, isNamed⟩

end NodeSupervisor

namespace CloseChannelDialog

/-- The checkbox is checked only where force close is allowed, and always
where it is the only way. -/
structure Sound (dialog : CloseChannelDialog) : Prop where
  checked : dialog.isChecked = true → dialog.forceAllowed = true
  visible : dialog.isVisible = true → dialog.forceAllowed = true
  onlyWay : dialog.mutualAllowed = false → dialog.forceAllowed = true →
    dialog.isChecked = true ∧ dialog.isEnabled = false

theorem sound_new (actor : Option ActorRef) (mutualAllowed forceAllowed : Bool) :
    (new actor mutualAllowed forceAllowed).Sound := by
  cases mutualAllowed <;> cases forceAllowed <;>
    constructor <;> simp [new]

theorem Sound.check {dialog : CloseChannelDialog} (sound : dialog.Sound)
    (enabled : dialog.isEnabled = true) (visible : dialog.isVisible = true) :
    Sound { dialog with isChecked := !dialog.isChecked } := by
  have force := sound.visible visible
  constructor
  · exact fun _ => force
  · exact fun _ => force
  · intro noMutual _
    obtain ⟨_, disabled⟩ := sound.onlyWay noMutual force
    simp [enabled] at disabled

theorem Sound.show {dialog : CloseChannelDialog} (sound : dialog.Sound)
    (isShowing : Bool) :
    Sound { dialog with isShowing := isShowing } :=
  ⟨sound.checked, sound.visible, sound.onlyWay⟩

end CloseChannelDialog

namespace ChannelDetailsState

open ChannelDetailsActivity

/-- The dialog was built from what the screen displays: its actor is the
channel with the displayed id, and it allows what the displayed state does. -/
structure BuiltFrom (received : Received) (screen : ChannelDetailsActivity)
    (dialog : CloseChannelDialog) : Prop where
  displayed : ∃ state, screen.state = some state ∧
    dialog.mutualAllowed = STATE_MUTUAL_CLOSE.contains state ∧
    dialog.forceAllowed = STATE_FORCE_CLOSE.contains state
  actor : ∀ actor, dialog.actor = some actor →
    ∃ channelId, screen.channelId = some channelId ∧
      GivenIn received actor channelId
  noActor : dialog.actor = none →
    dialog.mutualAllowed = false ∧ dialog.forceAllowed = false
  button : screen.closeButton =
    (dialog.mutualAllowed || dialog.forceAllowed)

/-- The invariant of a run over a session that started with the table
`channels`. -/
structure Inv (data : ErrorData) (channels : Table LocalChannelRow)
    (state : ChannelDetailsState) : Prop where
  tracks : Tracks data channels state.received state.node
  sound : ∀ dialog, state.screen.mCloseChannelDialog = some dialog →
    dialog.Sound
  built : ∀ dialog, state.screen.mCloseChannelDialog = some dialog →
    state.screen.isActive = true →
    BuiltFrom state.received state.screen dialog
  showing : ∀ dialog, state.screen.mCloseChannelDialog = some dialog →
    dialog.isShowing = true →
    state.screen.isResumed = true ∧ state.screen.isActive = true ∧
      state.screen.closeButton = true
  running : state.isCrashed = false

/-- The messages the supervisor receives are orderly, and it handles none while
the screen reads the channel it has found. -/
def Allowed (channels : Table LocalChannelRow) (state : ChannelDetailsState) :
    ChannelDetailsEvent → Prop
  | .receive message now => Orderly channels state.received (message, now)
  | .onResume _ entries reads =>
      ∀ found ∈ state.screen.lookUpChannel state.node entries,
        reads = .same found.1
  | _ => True

instance (channels : Table LocalChannelRow) (state : ChannelDetailsState)
    (event : ChannelDetailsEvent) : Decidable (Allowed channels state event) :=
  match event with
  | .receive message now =>
      inferInstanceAs (Decidable (Orderly channels state.received (message, now)))
  | .onResume _ entries reads =>
      inferInstanceAs (Decidable
        (∀ found ∈ state.screen.lookUpChannel state.node entries,
          reads = .same found.1))
  | .onNewIntent _ | .onPause | .clickCloseButton
  | .clickCheckbox | .clickCancel | .clickClose => .isTrue trivial

/-- The command goes to the one channel that was given the displayed id, and
the displayed state allows it. -/
structure AsDisplayed (state : ChannelDetailsState)
    (command : ActorRef × CloseCommand) : Prop where
  channel : ∃ channelId, state.screen.channelId = some channelId ∧
    GivenIn state.received command.1 channelId ∧
    ∀ other, GivenIn state.received other channelId → other = command.1
  allowed : ∃ displayed ∈ command.2.states,
    state.screen.state = some displayed

variable {data : ErrorData} {channels : Table LocalChannelRow}
  {state next : ChannelDetailsState} {event : ChannelDetailsEvent}

theorem inv_start (data : ErrorData) (channels : Table LocalChannelRow)
    (channelId : String) : Inv data channels (start channels channelId) := by
  constructor
  · exact Tracks.start data channels
  · rintro dialog ⟨⟩
  · rintro dialog ⟨⟩
  · rintro dialog ⟨⟩
  · rfl

theorem dialog?_eq_some_iff {dialog : CloseChannelDialog} :
    state.dialog? = some dialog ↔
      state.screen.mCloseChannelDialog = some dialog ∧
        dialog.isShowing = true := by
  rw [dialog?, Option.bind_eq_some_iff]
  constructor
  · rintro ⟨own, isOwn, shown⟩
    obtain ⟨showing, same⟩ := Option.ite_none_right_eq_some.mp shown
    cases same
    exact ⟨isOwn, showing⟩
  · rintro ⟨isOwn, showing⟩
    exact ⟨dialog, isOwn, by simp [showing]⟩

/-- What the screen displays stays the dialog's when another message comes. -/
theorem BuiltFrom.receive {received : Received}
    {screen : ChannelDetailsActivity} {dialog : CloseChannelDialog}
    (built : BuiltFrom received screen dialog)
    (event : ChannelMessage × Nat) :
    BuiltFrom (received ++ [event]) screen dialog where
  displayed := built.displayed
  actor := by
    intro actor isActor
    obtain ⟨channelId, shown, given⟩ := built.actor actor isActor
    exact ⟨channelId, shown, givenIn_append.mpr (Or.inl given)⟩
  noActor := built.noActor
  button := built.button

theorem Inv.setDialog (inv : Inv data channels state)
    {change : CloseChannelDialog → CloseChannelDialog}
    (keeps : ∀ dialog, (change dialog).actor = dialog.actor ∧
      (change dialog).mutualAllowed = dialog.mutualAllowed ∧
      (change dialog).forceAllowed = dialog.forceAllowed)
    (sound : ∀ dialog, state.screen.mCloseChannelDialog = some dialog →
      (change dialog).Sound)
    (showing : ∀ dialog, state.screen.mCloseChannelDialog = some dialog →
      (change dialog).isShowing = true →
      state.screen.isResumed = true ∧ state.screen.isActive = true ∧
        state.screen.closeButton = true) :
    Inv data channels (state.withScreen (state.screen.setDialog change)) where
  tracks := inv.tracks
  sound := by
    intro dialog isDialog
    obtain ⟨before, isBefore, rfl⟩ := Option.map_eq_some_iff.mp isDialog
    exact sound before isBefore
  built := by
    intro dialog isDialog active
    obtain ⟨before, isBefore, rfl⟩ := Option.map_eq_some_iff.mp isDialog
    obtain ⟨sameActor, sameMutual, sameForce⟩ := keeps before
    have built := inv.built before isBefore active
    constructor
    · rw [sameMutual, sameForce]
      exact built.displayed
    · rw [sameActor]
      exact built.actor
    · rw [sameActor, sameMutual, sameForce]
      exact built.noActor
    · rw [sameMutual, sameForce]
      exact built.button
  showing := by
    intro dialog isDialog shown
    obtain ⟨before, isBefore, rfl⟩ := Option.map_eq_some_iff.mp isDialog
    exact showing before isBefore shown
  running := inv.running

theorem Inv.hideDialog (inv : Inv data channels state) :
    Inv data channels (state.withScreen (state.screen.setDialog
      (fun dialog => { dialog with isShowing := false }))) := by
  apply inv.setDialog
  · exact fun _ => ⟨rfl, rfl, rfl⟩
  · exact fun dialog isDialog => (inv.sound dialog isDialog).show false
  · rintro dialog _ ⟨⟩

theorem Inv.setResumed (inv : Inv data channels state)
    (hidden : ∀ dialog, state.screen.mCloseChannelDialog = some dialog →
      dialog.isShowing = false) (isResumed : Bool) :
    Inv data channels
      (state.withScreen { state.screen with isResumed := isResumed }) where
  tracks := inv.tracks
  sound := inv.sound
  built := by
    intro dialog isDialog active
    have built := inv.built dialog isDialog active
    exact ⟨built.displayed, built.actor, built.noActor, built.button⟩
  showing := by
    intro dialog isDialog shown
    have notShown := hidden dialog isDialog
    simp [notShown] at shown
  running := inv.running

theorem Inv.onNewIntent (inv : Inv data channels state) (channelId : String) :
    Inv data channels
      (state.withScreen { state.screen with mChannelId := channelId }) where
  tracks := inv.tracks
  sound := inv.sound
  built := by
    intro dialog isDialog active
    have built := inv.built dialog isDialog active
    exact ⟨built.displayed, built.actor, built.noActor, built.button⟩
  showing := inv.showing
  running := inv.running

theorem Inv.finish (inv : Inv data channels state) :
    Inv data channels (state.withScreen state.screen.finish) where
  tracks := inv.tracks
  sound := inv.sound
  built := by
    intro dialog isDialog active
    have built := inv.built dialog isDialog active
    exact ⟨built.displayed, built.actor, built.noActor, built.button⟩
  showing := inv.showing
  running := inv.running

theorem Inv.setupView (inv : Inv data channels state)
    (hidden : ∀ dialog, state.screen.mCloseChannelDialog = some dialog →
      dialog.isShowing = false)
    {channel : LocalChannel} {actorRef : Option ActorRef}
    (actor : ∀ actor, actorRef = some actor → ∃ channelId,
      channel.channelId = some channelId ∧
        GivenIn state.received actor channelId)
    (noActor : actorRef = none →
      STATE_MUTUAL_CLOSE.contains channel.state = false ∧
        STATE_FORCE_CLOSE.contains channel.state = false) :
    Inv data channels
      (state.withScreen
        (state.screen.setupView (.same channel) actorRef)) := by
  cases active : channel.isActive with
  | true =>
      simp only [ChannelDetailsActivity.setupView, ChannelReads.same, active,
        if_true]
      constructor
      · exact inv.tracks
      · rintro dialog ⟨⟩
        exact CloseChannelDialog.sound_new _ _ _
      · rintro dialog ⟨⟩ _
        constructor
        · refine ⟨channel.state, rfl, ?_, ?_⟩
          · exact CloseChannelDialog.new_mutualAllowed _ _ _
          · exact CloseChannelDialog.new_forceAllowed _ _ _
        · intro own isActor
          rw [CloseChannelDialog.new_actor] at isActor
          exact actor own isActor
        · intro absent
          rw [CloseChannelDialog.new_actor] at absent
          rw [CloseChannelDialog.new_mutualAllowed,
            CloseChannelDialog.new_forceAllowed]
          exact noActor absent
        · rw [CloseChannelDialog.new_mutualAllowed,
            CloseChannelDialog.new_forceAllowed]
          rfl
      · rintro dialog ⟨⟩ shown
        rw [CloseChannelDialog.new_isShowing] at shown
        cases shown
      · exact inv.running
  | false =>
      simp only [ChannelDetailsActivity.setupView, ChannelReads.same, active,
        Bool.false_eq_true, if_false]
      constructor
      · exact inv.tracks
      · exact inv.sound
      · rintro dialog _ ⟨⟩
      · intro dialog isDialog shown
        have notShown := hidden dialog isDialog
        simp [notShown] at shown
      · exact inv.running

/-- What is found in the map has the actor that was given its id, and what is
found in the table has no actor and no state. -/
theorem Inv.lookUpChannel (inv : Inv data channels state)
    {entries : List (Sigma (fun _ : ActorRef => LocalChannel))}
    (visited : entries.Perm state.node.activeChannelsMap.entries)
    {channel : LocalChannel} {actorRef : Option ActorRef}
    (found : state.screen.lookUpChannel state.node entries =
      some (channel, actorRef)) :
    (∀ actor, actorRef = some actor → ∃ channelId,
      channel.channelId = some channelId ∧
        GivenIn state.received actor channelId) ∧
    (actorRef = none →
      STATE_MUTUAL_CLOSE.contains channel.state = false ∧
        STATE_FORCE_CLOSE.contains channel.state = false) := by
  unfold ChannelDetailsActivity.lookUpChannel at found
  split at found
  · cases found
  · rename_i entry inEntries
    cases found
    obtain ⟨member, named⟩ := NodeSupervisor.getChannelFromId_some inEntries
    have inMap : state.node.channel? entry.1 = some entry.2 :=
      AList.mem_lookup_iff.mpr (visited.mem_iff.mp member)
    constructor
    · rintro actor ⟨⟩
      refine ⟨_, named, givenIn_of_currentId ?_⟩
      rw [← (inv.tracks.entity entry.1 entry.2 inMap).1]
      exact named
    · rintro ⟨⟩
  · obtain ⟨channelDB, _, same⟩ := Option.map_eq_some_iff.mp found
    cases same
    constructor
    · rintro actor ⟨⟩
    · intro _
      -- a row carries no state
      simp [STATE_MUTUAL_CLOSE, STATE_FORCE_CLOSE]

theorem Inv.refreshChannel (inv : Inv data channels state)
    (hidden : ∀ dialog, state.screen.mCloseChannelDialog = some dialog →
      dialog.isShowing = false)
    {entries : List (Sigma (fun _ : ActorRef => LocalChannel))}
    (visited : entries.Perm state.node.activeChannelsMap.entries)
    {reads : ChannelReads}
    (undisturbed : ∀ found ∈ state.screen.lookUpChannel state.node entries,
      reads = .same found.1) :
    Inv data channels (state.withScreen
      (state.screen.refreshChannel state.node entries reads)) := by
  rw [ChannelDetailsActivity.refreshChannel]
  split
  · rename_i channel actorRef found
    rw [undisturbed _ found]
    obtain ⟨actor, noActor⟩ := inv.lookUpChannel visited found
    exact inv.setupView hidden actor noActor
  · exact inv.finish

theorem Inv.asDisplayed (inv : Inv data channels state)
    {dialog : CloseChannelDialog} (shown : state.dialog? = some dialog)
    {actor : ActorRef} (isActor : dialog.actor = some actor) :
    AsDisplayed state (actor, dialog.command) := by
  obtain ⟨isDialog, isShowing⟩ := dialog?_eq_some_iff.mp shown
  obtain ⟨_, active, button⟩ := inv.showing dialog isDialog isShowing
  have built := inv.built dialog isDialog active
  have sound := inv.sound dialog isDialog
  constructor
  · obtain ⟨channelId, displayed, given⟩ := built.actor actor isActor
    refine ⟨channelId, displayed, given, ?_⟩
    intro other otherGiven
    exact inv.tracks.apart other actor channelId otherGiven given
  · obtain ⟨displayed, isDisplayed, mutually, forcibly⟩ := built.displayed
    refine ⟨displayed, ?_, isDisplayed⟩
    rw [CloseChannelDialog.command]
    cases checked : dialog.isChecked with
    | true =>
        have allowed := sound.checked checked
        simpa [CloseCommand.states, allowed] using forcibly.symm
    | false =>
        -- unchecked, force close is not the only way; the button is visible
        have allowed : dialog.mutualAllowed = true := by
          by_contra notMutual
          rw [Bool.not_eq_true] at notMutual
          have isForce : dialog.forceAllowed = true := by
            simpa [button, notMutual] using built.button
          have isChecked := (sound.onlyWay notMutual isForce).1
          simp [checked] at isChecked
        simpa [CloseCommand.states, allowed] using mutually.symm

theorem Inv.exists_actor (inv : Inv data channels state)
    {dialog : CloseChannelDialog} (shown : state.dialog? = some dialog) :
    ∃ actor, dialog.actor = some actor := by
  obtain ⟨isDialog, isShowing⟩ := dialog?_eq_some_iff.mp shown
  obtain ⟨_, active, button⟩ := inv.showing dialog isDialog isShowing
  have built := inv.built dialog isDialog active
  cases absent : dialog.actor with
  | none =>
      obtain ⟨noMutual, noForce⟩ := built.noActor absent
      have hidden := built.button
      simp [button, noMutual, noForce] at hidden
  | some actor => exact ⟨actor, rfl⟩

theorem Inv.hidden (inv : Inv data channels state)
    (notResumed : state.screen.isResumed = false) :
    ∀ dialog, state.screen.mCloseChannelDialog = some dialog →
      dialog.isShowing = false := by
  intro dialog isDialog
  by_contra shown
  rw [Bool.not_eq_false] at shown
  have resumed := (inv.showing dialog isDialog shown).1
  simp [notResumed] at resumed

/-- The commands of a step. -/
def SendsAsDisplayed (data : ErrorData) (state : ChannelDetailsState)
    (event : ChannelDetailsEvent) : Prop :=
  ∀ next, step data state event = some next →
    next.isCrashed = false ∧
      (next.sent = state.sent ∨
        ∃ command, next.sent = state.sent ++ [command] ∧
          AsDisplayed state command)

/-- Step lemma: the invariant is kept, and what is sent is as displayed. -/
theorem Inv.step (inv : Inv data channels state)
    (allowed : Allowed channels state event)
    (result : step data state event = some next) :
    Inv data channels next ∧
      (next.sent = state.sent ∨
        ∃ command, next.sent = state.sent ++ [command] ∧
          AsDisplayed state command) := by
  cases event with
  | receive message now =>
      cases result
      refine ⟨⟨inv.tracks.step allowed rfl, inv.sound, ?_, inv.showing,
        inv.running⟩, Or.inl rfl⟩
      intro dialog isDialog active
      exact (inv.built dialog isDialog active).receive (message, now)
  | onNewIntent channelId =>
      obtain ⟨_, same⟩ := Option.ite_none_right_eq_some.mp result
      cases same
      exact ⟨inv.onNewIntent channelId, Or.inl rfl⟩
  | onResume initialised entries reads =>
      obtain ⟨⟨notResumed, _, visited⟩, same⟩ :=
        Option.ite_none_right_eq_some.mp result
      have hidden := inv.hidden notResumed
      have resumed := inv.setResumed hidden true
      cases initialised with
      | true =>
          cases same
          exact ⟨resumed.refreshChannel hidden visited allowed, Or.inl rfl⟩
      | false =>
          cases same
          exact ⟨resumed, Or.inl rfl⟩
  | onPause =>
      obtain ⟨_, same⟩ := Option.ite_none_right_eq_some.mp result
      cases same
      refine ⟨inv.hideDialog.setResumed ?_ false, Or.inl rfl⟩
      intro dialog isDialog
      obtain ⟨before, _, rfl⟩ := Option.map_eq_some_iff.mp isDialog
      rfl
  | clickCloseButton =>
      obtain ⟨⟨resumed, _, active, button⟩, same⟩ :=
        Option.ite_none_right_eq_some.mp result
      cases same
      refine ⟨?_, Or.inl rfl⟩
      apply inv.setDialog
      · exact fun _ => ⟨rfl, rfl, rfl⟩
      · exact fun dialog isDialog => (inv.sound dialog isDialog).show true
      · exact fun _ _ _ => ⟨resumed, active, button⟩
  | clickCheckbox =>
      cases shown : state.dialog? with
      | none => simp [ChannelDetailsState.step, shown] at result
      | some own =>
          simp only [ChannelDetailsState.step, shown] at result
          obtain ⟨⟨enabled, visible⟩, same⟩ :=
            Option.ite_none_right_eq_some.mp result
          cases same
          obtain ⟨isOwn, isShowing⟩ := dialog?_eq_some_iff.mp shown
          refine ⟨?_, Or.inl rfl⟩
          apply inv.setDialog
          · exact fun _ => ⟨rfl, rfl, rfl⟩
          · intro dialog isDialog
            obtain rfl : own = dialog :=
              Option.some.inj (isOwn.symm.trans isDialog)
            exact (inv.sound own isOwn).check enabled visible
          · intro dialog isDialog isShown
            exact inv.showing dialog isDialog isShown
  | clickCancel =>
      cases shown : state.dialog? with
      | none => simp [ChannelDetailsState.step, shown] at result
      | some own =>
          simp only [ChannelDetailsState.step, shown] at result
          cases result
          exact ⟨inv.hideDialog, Or.inl rfl⟩
  | clickClose =>
      cases shown : state.dialog? with
      | none => simp [ChannelDetailsState.step, shown] at result
      | some dialog =>
          simp only [ChannelDetailsState.step, shown] at result
          obtain ⟨actor, isActor⟩ := inv.exists_actor shown
          simp only [closeConfirmed, isActor, Option.some.injEq] at result
          subst next
          have closed := inv.hideDialog.finish
          refine ⟨⟨closed.tracks, closed.sound, closed.built, closed.showing,
            closed.running⟩, Or.inr ⟨_, rfl, inv.asDisplayed shown isActor⟩⟩

/-- In every interleaving of the node's messages with the screen's coming and
going and its taps, in which no message is handled while the screen reads what
it displays, each command goes to the one channel that was given the displayed
id, the displayed state allows it, and the dialog never lacks its channel. -/
theorem channel_closed_as_displayed (data : ErrorData)
    {channels : Table LocalChannelRow} {channelId : String}
    {events : List ChannelDetailsEvent}
    (orderly : Runs.StepsMeet (step data) (Allowed channels)
      (start channels channelId) events) :
    Runs.StepsMeet (step data) (SendsAsDisplayed data)
      (start channels channelId) events := by
  have characterised : ∀ state event, Inv data channels state →
      ((Allowed channels state event ∧ SendsAsDisplayed data state event) ↔
        Allowed channels state event) := by
    intro state event inv
    refine ⟨And.left, fun allowed => ⟨allowed, ?_⟩⟩
    intro next result
    obtain ⟨kept, sends⟩ := inv.step allowed result
    exact ⟨kept.running, sends⟩
  have preserved : ∀ state event next, Inv data channels state →
      (Allowed channels state event ∧ SendsAsDisplayed data state event) →
      step data state event = some next → Inv data channels next :=
    fun _ _ _ inv good result => (inv.step good.1 result).1
  have meets := (Runs.stepsMeet_iff_of_invariant characterised preserved
    (inv_start data channels channelId)).mpr orderly
  exact meets.mono (fun _ _ good => good.2)

/-- The node after its first messages: a channel was restored and is
operational. -/
def sampleNode : ChannelState :=
  (NodeSupervisor.onReceive sampleData
    (NodeSupervisor.onReceive sampleData (ChannelState.start Table.empty) 1
      (.channelRestored 0 "stored" "node")).state 2
    (.channelStateChanged 0 "OFFLINE" "NORMAL" .other)).state

def sampleReads : ChannelReads :=
  .same ((sampleNode.channel? 0).getD (.new 0))

/-- The channel is displayed, its peer goes offline, and the user closes it by
force. -/
def closedAfterChange : List ChannelDetailsEvent :=
  [.receive (.channelRestored 0 "stored" "node") 1,
    .receive (.channelStateChanged 0 "OFFLINE" "NORMAL" .other) 2,
    .onResume true sampleNode.activeChannelsMap.entries sampleReads,
    .receive (.channelStateChanged 0 "NORMAL" "OFFLINE" .other) 3,
    .clickCloseButton, .clickCheckbox, .clickClose]

theorem closedAfterChange_as_displayed :
    Runs.StepsMeet (step sampleData) (SendsAsDisplayed sampleData)
      (start Table.empty "stored") closedAfterChange ∧
    ∃ finish, Runs.exec (step sampleData) (start Table.empty "stored")
        closedAfterChange = some finish ∧
      finish.sent = [(0, .forceClose)] := by
  have orderly : Runs.StepsMeet (step sampleData) (Allowed Table.empty)
      (start Table.empty "stored") closedAfterChange := by decide
  exact ⟨channel_closed_as_displayed sampleData orderly, _, rfl, rfl⟩

/-- OFFLINE is displayed, and NORMAL is read for the dialog: the node becomes
operational in between. -/
def disturbedReads : ChannelReads :=
  let offline := { (sampleNode.channel? 0).getD (.new 0) with
    state := "OFFLINE" }
  { sampleReads with text := offline }

example : (Runs.exec (step sampleData) (start Table.empty "stored")
    [.receive (.channelRestored 0 "stored" "node") 1,
      .receive (.channelStateChanged 0 "OFFLINE" "NORMAL" .other) 2,
      .onResume true sampleNode.activeChannelsMap.entries disturbedReads,
      .clickCloseButton, .clickClose]).map
      (fun finish => (finish.screen.state, finish.sent)) =
    some (some "OFFLINE", [(0, .close)]) := by
  decide

end ChannelDetailsState

end EclairWallet
