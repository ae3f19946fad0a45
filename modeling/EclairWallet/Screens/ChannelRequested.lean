import EclairWallet.Screens.OpenChannel

/-!
# A channel is requested as it was checked

While its dialog is shown, a tap waits with the form it was accepted with,
because nothing below the dialog can be touched.  A callback that confirms the
PIN on such a dialog requests what was checked, and the screen is finished.
-/

namespace EclairWallet

open JavaNumber (parseLong)

open Runs

/-- Both conversions read the amount alike. -/
def OpenChannelLibrary.Documented (library : OpenChannelLibrary) : Prop :=
  ∀ text, library.convertStringAmountToSat text =
    (library.convertStringAmountToMsat text).map
      (fun amountMsat => amountMsat.tdiv 1000)

/-- The checks of `confirmOpenChannel`. -/
structure CheckedForm.Passed (library : OpenChannelLibrary)
    (form : CheckedForm) : Prop where
  minimum : OpenChannelState.minFunding ≤ form.amountMsat
  maximum : form.amountMsat < OpenChannelState.maxFunding library
  affordable : form.amountMsat.tdiv 1000 ≤ form.onchainBalanceSat
  fees : 0 < form.feesSatPerByte

/-- The request is for the amount and at the fee rate of the form. -/
def CheckedForm.AsksFor (library : OpenChannelLibrary) (form : CheckedForm)
    (request : OpenChannelRequest) : Prop :=
  request.fundingSat = form.amountMsat.tdiv 1000 ∧
    request.fundingTxFeeratePerKw = library.feerateByte2Kw form.feesSatPerByte

namespace OpenChannelState

variable {library : OpenChannelLibrary} {state next : OpenChannelState}
  {event : OpenChannelEvent}

/-- Before a request its tap was accepted with a form that passed the checks,
and the PIN was confirmed where it was required. -/
def Justified (library : OpenChannelLibrary) (before : List OpenChannelEntry)
    (tap : Nat) (request : OpenChannelRequest) : Prop :=
  ∃ form pinRequired, .accepted tap form pinRequired ∈ before ∧
    form.Passed library ∧ form.AsksFor library request ∧
    (pinRequired = true → .confirmed tap ∈ before)

/-- The node is asked for a request right after the peer has answered for it
that it is connected. -/
def AskedWhenConnected (log : List OpenChannelEntry) : Prop :=
  ∀ before request after, log = before ++ .asked request :: after →
    ∃ result, before.getLast? = some (.connectAnswered request result) ∧
      (result = some "connected" ∨ result = some "already connected")

/-- At most one request is made, for the node of the screen and as it was
checked, and the node is asked for it at most once, when it is connected to the
peer. -/
structure RequestedAsChecked (library : OpenChannelLibrary)
    (state : OpenChannelState) : Prop where
  once : state.log.countP OpenChannelEntry.isRequested ≤ 1
  justified : ∀ before tap request after,
    state.log = before ++ .requested tap request :: after →
    Justified library before tap request
  node : ∀ tap request, .requested tap request ∈ state.log →
    (state.remoteNodeURI.map NodeURI.nodeId) = some request.nodeId
  asked : (state.log.filterMap OpenChannelEntry.asked?).length +
    state.opening.length ≤ state.log.countP OpenChannelEntry.isRequested
  connected : AskedWhenConnected state.log
  requested : ∀ request,
    .asked request ∈ state.log ∨
      (∃ opening ∈ state.opening, opening.request = request) →
    ∃ tap, .requested tap request ∈ state.log

/-- A callback that confirms the PIN fires while its dialog is shown. -/
def ConfirmsShown (state : OpenChannelState) : OpenChannelEvent → Prop
  | .timerFires index initialised pin =>
      ∀ prompt ∈ state.prompts[index]?, initialised = true →
        prompt.dialog.mPinValue = pin → prompt.dialog.showing = true
  | _ => True

instance (state : OpenChannelState) :
    ∀ event, Decidable (state.ConfirmsShown event)
  | .timerFires _ _ _ => inferInstanceAs (Decidable (∀ prompt ∈ _, _))
  | .processNodeURIFinish _ | .editCapacity _ _ | .editFees _ | .pickFees _
  | .tapOpen _ _ | .cancelOpenChannel | .pressKey _ _ | .cancelDialog _
  | .pause | .runBody _ | .connectCompletes _ _ => .isTrue trivial

/-! ## The invariant -/

/-- The fields hold the form. -/
structure Holds (library : OpenChannelLibrary) (state : OpenChannelState)
    (form : CheckedForm) : Prop where
  amount : library.convertStringAmountToMsat state.capacityValue =
    some form.amountMsat
  fees : parseLong library.digits state.feesValue = some form.feesSatPerByte
  node : state.remoteNodeURI.isSome = true

/-- The tap was accepted with what the fields hold. -/
def Awaits (library : OpenChannelLibrary) (state : OpenChannelState)
    (tap : Nat) : Prop :=
  state.finished = false ∧ ∃ form, .accepted tap form true ∈ state.log ∧
    form.Passed library ∧ state.Holds library form

theorem Awaits.mono {tap : Nat} (awaits : Awaits library state tap)
    (finished : next.finished = state.finished)
    (log : ∀ entry ∈ state.log, entry ∈ next.log)
    (capacity : next.capacityValue = state.capacityValue)
    (fees : next.feesValue = state.feesValue)
    (node : next.remoteNodeURI = state.remoteNodeURI) :
    Awaits library next tap := by
  obtain ⟨running, form, accepted, passed, holds⟩ := awaits
  refine ⟨finished.trans running, form, log _ accepted, passed, ?_⟩
  constructor
  · rw [capacity]
    exact holds.amount
  · rw [fees]
    exact holds.fees
  · rw [node]
    exact holds.node

structure Inv (library : OpenChannelLibrary) (state : OpenChannelState) :
    Prop where
  checked : RequestedAsChecked library state
  unfinished : state.finished = false →
    state.log.countP OpenChannelEntry.isRequested = 0
  last : ∀ index prompt, state.prompts[index]? = some prompt →
    prompt.dialog.showing = true → index + 1 = state.prompts.length
  awaits : ∀ prompt ∈ state.prompts, prompt.dialog.showing = true →
    state.Awaits library prompt.tap
  reads : state.readsURI = true → state.remoteNodeURI = none

theorem not_shown_of_touchable (touchable : state.touchable = true) :
    ∀ prompt ∈ state.prompts, prompt.dialog.showing = false := by
  intro prompt member
  simp only [OpenChannelState.touchable, dialogShown, Bool.and_eq_true,
    Bool.not_eq_true', List.any_eq_false] at touchable
  exact Bool.eq_false_iff.mpr (touchable.2 prompt member)

theorem unfinished_of_touchable (touchable : state.touchable = true) :
    state.finished = false := by
  simp only [OpenChannelState.touchable, Bool.and_eq_true,
    Bool.not_eq_true'] at touchable
  exact touchable.1

theorem formUsable_iff :
    state.formUsable = true ↔
      state.touchable = true ∧ state.remoteNodeURI.isSome = true := by
  simp [formUsable]

/-- What is shown of the form and the error does not matter; neither do the
fields when no dialog is shown. -/
theorem Inv.of_same (inv : Inv library state)
    (log : next.log = state.log) (prompts : next.prompts = state.prompts)
    (opening : next.opening = state.opening)
    (finished : next.finished = state.finished)
    (reads : next.readsURI = state.readsURI)
    (node : next.remoteNodeURI = state.remoteNodeURI)
    (fields : next.capacityValue = state.capacityValue ∧
        next.feesValue = state.feesValue ∨
      ∀ prompt ∈ state.prompts, prompt.dialog.showing = false) :
    Inv library next where
  checked :=
    { once := by rw [log]; exact inv.checked.once
      justified := by rw [log]; exact inv.checked.justified
      node := by rw [log, node]; exact inv.checked.node
      asked := by rw [log, opening]; exact inv.checked.asked
      connected := by rw [log]; exact inv.checked.connected
      requested := by rw [log, opening]; exact inv.checked.requested }
  unfinished := by rw [finished, log]; exact inv.unfinished
  last := by rw [prompts]; exact inv.last
  awaits := by
    rw [prompts]
    intro prompt member shown
    rcases fields with ⟨sameCapacity, sameFees⟩ | hidden
    · apply (inv.awaits prompt member shown).mono finished _ sameCapacity
        sameFees node
      rw [log]
      exact fun entry member => member
    · rw [hidden prompt member] at shown
      cases shown
  reads := by rw [reads, node]; exact inv.reads

/-! ## Dialogs -/

theorem setDialog_prompts {index : Nat} {prompt : OpenChannelPrompt}
    (found : state.prompts[index]? = some prompt) (dialog : PinDialog)
    (other : Nat) :
    (state.setDialog index prompt dialog).prompts[other]? =
      if other = index then some { prompt with dialog := dialog }
      else state.prompts[other]? := by
  have bound : index < state.prompts.length :=
    (List.getElem?_eq_some_iff.mp found).1
  rw [setDialog, List.getElem?_set]
  by_cases same : index = other
  · subst other
    simp [bound]
  · rw [if_neg same, if_neg (Ne.symm same)]

theorem Inv.setDialog {index : Nat} {prompt : OpenChannelPrompt}
    {dialog : PinDialog} (inv : Inv library state)
    (found : state.prompts[index]? = some prompt)
    (calmer : dialog.showing = true → prompt.dialog.showing = true) :
    Inv library (state.setDialog index prompt dialog) where
  checked := ⟨inv.checked.once, inv.checked.justified, inv.checked.node,
    inv.checked.asked, inv.checked.connected, inv.checked.requested⟩
  unfinished := inv.unfinished
  last := by
    intro other shownPrompt member shown
    have sameLength :
        (state.setDialog index prompt dialog).prompts.length =
          state.prompts.length := by
      simp [OpenChannelState.setDialog]
    rw [setDialog_prompts found] at member
    rw [sameLength]
    split at member
    next same =>
      subst other
      cases member
      exact inv.last index prompt found (calmer shown)
    · exact inv.last other shownPrompt member shown
  awaits := by
    intro shownPrompt member shown
    obtain ⟨other, bound, rfl⟩ := List.mem_iff_getElem.mp member
    have isThere := List.getElem?_eq_getElem bound
    rw [setDialog_prompts found] at isThere
    split at isThere
    next same =>
      have isPrompt := Option.some.inj isThere
      rw [← isPrompt] at shown ⊢
      have waiting :=
        inv.awaits prompt (List.mem_of_getElem? found) (calmer shown)
      exact waiting.mono rfl (fun _ member => member) rfl rfl rfl
    · have waiting := inv.awaits _ (List.mem_of_getElem? isThere) shown
      exact waiting.mono rfl (fun _ member => member) rfl rfl rfl
  reads := inv.reads

theorem Inv.none_shown {index : Nat} {prompt : OpenChannelPrompt}
    {dialog : PinDialog} (inv : Inv library state)
    (found : state.prompts[index]? = some prompt)
    (shown : prompt.dialog.showing = true)
    (dismissed : dialog.showing = false) :
    ∀ other ∈ (state.setDialog index prompt dialog).prompts,
      other.dialog.showing = false := by
  intro otherPrompt member
  obtain ⟨other, bound, rfl⟩ := List.mem_iff_getElem.mp member
  have isThere := List.getElem?_eq_getElem bound
  rw [setDialog_prompts found] at isThere
  split at isThere
  · have isPrompt := Option.some.inj isThere
    rw [← isPrompt]
    exact dismissed
  next different =>
    rw [Bool.eq_false_iff]
    intro otherShown
    have last := inv.last index prompt found shown
    have alsoLast := inv.last other _ isThere otherShown
    omega

/-! ## Requests -/

theorem countP_record (state : OpenChannelState) (entry : OpenChannelEntry)
    (counted : OpenChannelEntry → Bool) :
    (state.record entry).log.countP counted =
      state.log.countP counted + if counted entry then 1 else 0 := by
  simp [record, List.countP_append, List.countP_cons]

theorem eq_last_or_earlier {log before after : List OpenChannelEntry}
    {last entry : OpenChannelEntry}
    (split : log ++ [last] = before ++ entry :: after) :
    before = log ∧ entry = last ∨ ∃ rest, log = before ++ entry :: rest := by
  rcases List.eq_nil_or_concat after with rfl | ⟨rest, final, rfl⟩
  · left
    obtain ⟨same, isLast⟩ := List.append_inj' split rfl
    exact ⟨same.symm, (List.singleton_inj.mp isLast).symm⟩
  · right
    have whole : log ++ [last] = (before ++ entry :: rest) ++ [final] := by
      simpa using split
    exact ⟨rest, (List.append_inj' whole rfl).1⟩

theorem AskedWhenConnected.append {log : List OpenChannelEntry}
    {entry : OpenChannelEntry} (connected : AskedWhenConnected log)
    (now : ∀ request, entry = .asked request →
      ∃ result, log.getLast? = some (.connectAnswered request result) ∧
        (result = some "connected" ∨ result = some "already connected")) :
    AskedWhenConnected (log ++ [entry]) := by
  intro before request after split
  rcases eq_last_or_earlier split with ⟨rfl, isEntry⟩ | ⟨rest, isLog⟩
  · exact now request isEntry.symm
  · exact connected before request rest isLog

/-- An entry that is no request.  When it asks the node, the peer has just
answered that it is connected, and a request was made for which the node was
not asked before. -/
theorem Inv.record {entry : OpenChannelEntry} (inv : Inv library state)
    (notRequested : entry.isRequested = false)
    (asked : ((state.record entry).log.filterMap
        OpenChannelEntry.asked?).length + state.opening.length ≤
      state.log.countP OpenChannelEntry.isRequested)
    (known : ∀ request, entry = .asked request →
      (∃ tap, .requested tap request ∈ state.log) ∧
      ∃ result, state.log.getLast? = some (.connectAnswered request result) ∧
        (result = some "connected" ∨ result = some "already connected")) :
    Inv library (state.record entry) where
  checked :=
    { once := by
        rw [countP_record, notRequested]
        exact inv.checked.once
      justified := by
        intro before tap request after split
        rcases eq_last_or_earlier split with ⟨_, isEntry⟩ | ⟨rest, isLog⟩
        · rw [← isEntry] at notRequested
          cases notRequested
        · exact inv.checked.justified before tap request rest isLog
      node := by
        intro tap request member
        rcases (mem_record state entry _).mp member with earlier | now
        · exact inv.checked.node tap request earlier
        · rw [← now] at notRequested
          cases notRequested
      asked := by
        rw [countP_record, notRequested]
        exact asked
      connected := inv.checked.connected.append
        (fun request isAsked => (known request isAsked).2)
      requested := by
        intro request pending
        have earlier : ∃ tap, .requested tap request ∈ state.log := by
          rcases pending with member | opening
          · rcases (mem_record state entry _).mp member with earlier | now
            · exact inv.checked.requested request (.inl earlier)
            · exact (known request now.symm).1
          · exact inv.checked.requested request (.inr opening)
        obtain ⟨tap, member⟩ := earlier
        exact ⟨tap, (mem_record state entry _).mpr (.inl member)⟩ }
  unfinished := by
    intro running
    rw [countP_record, notRequested]
    exact inv.unfinished running
  last := inv.last
  awaits := by
    intro prompt member shown
    refine (inv.awaits prompt member shown).mono rfl ?_ rfl rfl rfl
    intro other earlier
    exact (mem_record state entry other).mpr (.inl earlier)
  reads := inv.reads

theorem Inv.record_form {entry : OpenChannelEntry} (inv : Inv library state)
    (notRequested : entry.isRequested = false)
    (notAsked : entry.asked? = none) : Inv library (state.record entry) := by
  apply inv.record notRequested
  · have same : (state.record entry).log.filterMap OpenChannelEntry.asked? =
        state.log.filterMap OpenChannelEntry.asked? := by
      simp [OpenChannelState.record, List.filterMap_append, notAsked]
    rw [same]
    exact inv.checked.asked
  · intro request isAsked
    rw [isAsked] at notAsked
    cases notAsked

theorem readRequest_of_holds (documented : library.Documented)
    {form : CheckedForm} (holds : state.Holds library form) :
    ∃ request, readRequest library state = some request ∧
      form.AsksFor library request ∧
      state.remoteNodeURI.map NodeURI.nodeId = some request.nodeId := by
  obtain ⟨uri, isNode⟩ := Option.isSome_iff_exists.mp holds.node
  have funding : library.convertStringAmountToSat state.capacityValue =
      some (form.amountMsat.tdiv 1000) := by
    rw [documented, holds.amount, Option.map_some]
  let request : OpenChannelRequest :=
    { nodeId := uri.nodeId
      fundingSat := form.amountMsat.tdiv 1000
      fundingTxFeeratePerKw := library.feerateByte2Kw form.feesSatPerByte }
  refine ⟨request, ?_, ⟨rfl, rfl⟩, ?_⟩
  · simp [readRequest, funding, holds.fees, isNode, request]
  · rw [isNode, Option.map_some]

theorem Inv.doOpenChannel (documented : library.Documented)
    (inv : Inv library state) {tap : Nat} {form : CheckedForm}
    {pinRequired : Bool} (running : state.finished = false)
    (hidden : ∀ prompt ∈ state.prompts, prompt.dialog.showing = false)
    (accepted : .accepted tap form pinRequired ∈ state.log)
    (confirmed : pinRequired = true → .confirmed tap ∈ state.log)
    (passed : form.Passed library) (holds : state.Holds library form) :
    Inv library (state.doOpenChannel library tap) := by
  obtain ⟨request, reads, asks, node⟩ := readRequest_of_holds documented holds
  have fresh := inv.unfinished running
  let opening : OpeningChannel := { request := request }
  have result : state.doOpenChannel library tap =
      ({ state with opening := state.opening ++ [opening] }.record
        (.requested tap request)).goToHome := by
    rw [OpenChannelState.doOpenChannel, reads]
  have noRequest : ∀ other earlier, .requested other earlier ∉ state.log := by
    intro other earlier member
    exact List.countP_eq_zero.mp fresh _ member rfl
  rw [result]
  constructor
  · constructor
    · simp [OpenChannelState.record, goToHome, List.countP_append, fresh,
        OpenChannelEntry.isRequested]
    · intro before other earlier after split
      rcases eq_last_or_earlier split with ⟨rfl, same⟩ | ⟨rest, isLog⟩
      · obtain ⟨rfl, rfl⟩ := OpenChannelEntry.requested.inj same
        exact ⟨form, pinRequired, accepted, passed, asks, confirmed⟩
      · apply absurd _ (noRequest other earlier)
        have whole : state.log = before ++ .requested other earlier :: rest :=
          isLog
        simp [whole]
    · intro other earlier member
      rcases List.mem_append.mp member with old | now
      · exact absurd old (noRequest other earlier)
      · obtain ⟨rfl, rfl⟩ := OpenChannelEntry.requested.inj
          (List.mem_singleton.mp now)
        exact node
    · have before := inv.checked.asked
      have noneAsked : [OpenChannelEntry.requested tap request].filterMap
          OpenChannelEntry.asked? = [] := rfl
      have oneRequest : [OpenChannelEntry.requested tap request].countP
          OpenChannelEntry.isRequested = 1 := rfl
      simp only [OpenChannelState.record, goToHome, List.filterMap_append,
        List.length_append, List.countP_append, noneAsked, oneRequest,
        List.length_singleton, List.append_nil]
      omega
    · apply inv.checked.connected.append
      intro earlier isAsked
      cases isAsked
    · intro earlier known
      have unasked : .asked earlier ∉ state.log ∧
          ¬∃ opening ∈ state.opening, opening.request = earlier := by
        constructor
        · intro member
          obtain ⟨other, requested⟩ :=
            inv.checked.requested earlier (.inl member)
          exact noRequest other earlier requested
        · intro opening
          obtain ⟨other, requested⟩ :=
            inv.checked.requested earlier (.inr opening)
          exact noRequest other earlier requested
      rcases known with member | ⟨other, member, isRequest⟩
      · rcases List.mem_append.mp member with old | now
        · exact absurd old unasked.1
        · cases List.mem_singleton.mp now
      · rcases List.mem_append.mp member with old | now
        · exact absurd ⟨other, old, isRequest⟩ unasked.2
        · rw [List.mem_singleton.mp now] at isRequest
          have same : earlier = request := isRequest.symm
          subst same
          exact ⟨tap, List.mem_append_right _ (by simp)⟩
  · intro stillRunning
    cases stillRunning
  · exact inv.last
  · intro prompt member shown
    rw [hidden prompt member] at shown
    cases shown
  · exact inv.reads

/-! ## Steps -/

theorem checkAmount_eq_passed {amount : List Char} {amountMsat : Int}
    {onchainBalanceSat : Int}
    (checks : checkAmount library amount onchainBalanceSat =
      some (amountMsat, none)) :
    library.convertStringAmountToMsat amount = some amountMsat ∧
      minFunding ≤ amountMsat ∧ amountMsat < maxFunding library ∧
      amountMsat.tdiv 1000 ≤ onchainBalanceSat := by
  rw [checkAmount, Option.map_eq_some_iff] at checks
  obtain ⟨read, isRead, checks⟩ := checks
  split at checks
  · cases checks
  next inRange =>
    split at checks
    · cases checks
    next affordable =>
      cases checks
      rw [not_or, Int.not_lt, Int.not_le] at inRange
      exact ⟨isRead, inRange.1, inRange.2, Int.not_lt.mp affordable⟩

theorem Inv.acceptForm (documented : library.Documented)
    (inv : Inv library state) (usable : state.formUsable = true)
    {form : CheckedForm} (passed : form.Passed library)
    (holds : state.Holds library form) (pinRequired : Bool) :
    Inv library (state.acceptForm library form pinRequired) := by
  have touchable := (formUsable_iff.mp usable).1
  have hidden := not_shown_of_touchable touchable
  have running := unfinished_of_touchable touchable
  have calm : Inv library { state with error := none }.disableForm :=
    inv.of_same rfl rfl rfl rfl rfl rfl (.inl ⟨rfl, rfl⟩)
  have accepted : Inv library ({ state with error := none }.disableForm.record
      (.accepted state.taps form pinRequired)) :=
    calm.record_form rfl rfl
  have isAccepted : .accepted state.taps form pinRequired ∈
      ({ state with error := none }.disableForm.record
        (.accepted state.taps form pinRequired)).log :=
    (mem_record _ _ _).mpr (.inr rfl)
  unfold OpenChannelState.acceptForm
  split
  next required =>
    subst required
    refine
      { checked := ⟨accepted.checked.once, accepted.checked.justified,
          accepted.checked.node, accepted.checked.asked,
          accepted.checked.connected, accepted.checked.requested⟩
        unfinished := accepted.unfinished
        last := ?_
        awaits := ?_
        reads := accepted.reads }
    · intro index prompt member shown
      rcases Nat.lt_or_ge index state.prompts.length with earlier | later
      · have old : state.prompts[index]? = some prompt := by
          rw [← member]
          exact (List.getElem?_append_left earlier).symm
        rw [hidden prompt (List.mem_of_getElem? old)] at shown
        cases shown
      · have bound := (List.getElem?_eq_some_iff.mp member).1
        simp only [List.length_append, List.length_singleton] at bound ⊢
        have same : ({ state with error := none }.disableForm.record
            (.accepted state.taps form true)).prompts = state.prompts := rfl
        rw [same] at bound ⊢
        omega
    · intro prompt member shown
      rcases List.mem_append.mp member with old | now
      · rw [hidden prompt old] at shown
        cases shown
      · rw [List.mem_singleton.mp now]
        exact ⟨running, form, isAccepted, passed, ⟨holds.amount, holds.fees,
          holds.node⟩⟩
  next notRequired =>
    apply accepted.doOpenChannel documented running hidden isAccepted
    · intro required
      exact absurd required notRequired
    · exact passed
    · exact ⟨holds.amount, holds.fees, holds.node⟩

theorem Inv.showError (inv : Inv library state) (error : OpenChannelError) :
    Inv library (state.showError error) :=
  inv.of_same rfl rfl rfl rfl rfl rfl (.inl ⟨rfl, rfl⟩)

theorem Inv.enableForm (inv : Inv library state) :
    Inv library state.enableForm :=
  inv.of_same rfl rfl rfl rfl rfl rfl (.inl ⟨rfl, rfl⟩)

theorem Inv.confirmOpenChannel (documented : library.Documented)
    (inv : Inv library state) (usable : state.formUsable = true)
    (onchainBalanceSat : Int) (pinRequired : Bool) :
    Inv library (state.confirmOpenChannel library onchainBalanceSat
      pinRequired) := by
  unfold OpenChannelState.confirmOpenChannel
  split
  · exact inv.showError _
  · exact inv.showError _
  next amountMsat checks =>
    obtain ⟨isAmount, minimum, maximum, affordable⟩ :=
      checkAmount_eq_passed checks
    split
    · exact inv.showError _
    next feesSatPerByte isFees =>
      split
      · exact inv.showError _
      next positive =>
        apply inv.acceptForm documented usable
        · exact ⟨minimum, maximum, affordable, Int.not_le.mp positive⟩
        · exact ⟨isAmount, isFees, (formUsable_iff.mp usable).2⟩

theorem Inv.onPinConfirm (documented : library.Documented)
    (inv : Inv library state) {index : Nat} {prompt : OpenChannelPrompt}
    (found : state.prompts[index]? = some prompt) {initialised : Bool}
    {pin : List Char}
    (inTime : initialised = true → prompt.dialog.mPinValue = pin →
      prompt.dialog.showing = true) :
    Inv library (state.onPinConfirm library index prompt initialised pin) := by
  have dismissed : Inv library (state.setDialog index prompt
      prompt.dialog.fire.dismiss) := by
    apply inv.setDialog found
    intro shown
    cases shown
  unfold OpenChannelState.onPinConfirm
  dsimp only
  split
  next isInitialised =>
    split
    next correct =>
      have shown := inTime isInitialised correct
      obtain ⟨running, form, accepted, passed, holds⟩ :=
        inv.awaits prompt (List.mem_of_getElem? found) shown
      have confirmed : Inv library ((state.setDialog index prompt
          prompt.dialog.fire.dismiss).record (.confirmed prompt.tap)) :=
        dismissed.record_form rfl rfl
      apply confirmed.doOpenChannel documented running
        (inv.none_shown found shown rfl)
      · exact (mem_record _ _ _).mpr (.inl accepted)
      · intro _
        exact (mem_record _ _ _).mpr (.inr rfl)
      · exact passed
      · exact ⟨holds.amount, holds.fees, holds.node⟩
    · exact (dismissed.showError _).enableForm
  · have fired : Inv library (state.setDialog index prompt
        prompt.dialog.fire) := by
      apply inv.setDialog found
      exact id
    exact (fired.showError _).enableForm

theorem Inv.onPause (inv : Inv library state) : Inv library state.onPause := by
  unfold OpenChannelState.onPause
  split
  next prompt found =>
    apply inv.setDialog found
    intro shown
    cases shown
  · exact inv

theorem Inv.eraseOpening (inv : Inv library state) (index : Nat) :
    Inv library { state with opening := state.opening.eraseIdx index } where
  checked :=
    { once := inv.checked.once
      justified := inv.checked.justified
      node := inv.checked.node
      asked := by
        have shorter := List.length_eraseIdx_le state.opening index
        have counted := inv.checked.asked
        change _ + (state.opening.eraseIdx index).length ≤ _
        exact (Nat.add_le_add_left shorter _).trans counted
      connected := inv.checked.connected
      requested := by
        intro request pending
        apply inv.checked.requested request
        rcases pending with member | ⟨other, member, isRequest⟩
        · exact .inl member
        · exact .inr ⟨other, List.mem_of_mem_eraseIdx member, isRequest⟩ }
  unfinished := inv.unfinished
  last := inv.last
  awaits := by
    intro prompt member shown
    exact (inv.awaits prompt member shown).mono rfl (fun _ earlier => earlier)
      rfl rfl rfl
  reads := inv.reads

/-- The node is asked in place of an opening that leaves the list. -/
theorem Inv.connectCompletes (inv : Inv library state) {index : Nat}
    {opening : OpeningChannel} (found : state.opening[index]? = some opening)
    (result : Option String) :
    Inv library (state.connectCompletes index opening result) := by
  have answered : Inv library
      ({ state with opening := state.opening.eraseIdx index }.record
        (.connectAnswered opening.request result)) :=
    (inv.eraseOpening index).record_form rfl rfl
  unfold OpenChannelState.connectCompletes
  dsimp only
  split
  next connected =>
    apply answered.record
    · rfl
    · have bound := (List.getElem?_eq_some_iff.mp found).1
      have counted := inv.checked.asked
      have shorter := List.length_eraseIdx_of_lt bound
      simp only [OpenChannelState.record, List.filterMap_append,
        List.length_append, List.countP_append, shorter] at counted ⊢
      simp only [List.filterMap_cons, List.filterMap_nil,
        OpenChannelEntry.asked?, List.countP_singleton,
        OpenChannelEntry.isRequested, List.length_nil, List.length_singleton,
        Bool.false_eq_true, if_false]
      omega
    · intro request isAsked
      cases isAsked
      constructor
      · obtain ⟨tap, requested⟩ := inv.checked.requested opening.request
          (.inr ⟨opening, List.mem_of_getElem? found, rfl⟩)
        exact ⟨tap, (mem_record _ _ _).mpr (.inl requested)⟩
      · exact ⟨result, by simp [OpenChannelState.record], connected⟩
  · exact answered

theorem Inv.runBody (inv : Inv library state) {index : Nat}
    {opening : OpeningChannel} (found : state.opening[index]? = some opening) :
    Inv library { state with
      opening := state.opening.set index
        { opening with connecting := true } } where
  checked :=
    { once := inv.checked.once
      justified := inv.checked.justified
      node := inv.checked.node
      asked := by
        have counted := inv.checked.asked
        change _ + (state.opening.set index _).length ≤ _
        rw [List.length_set]
        exact counted
      connected := inv.checked.connected
      requested := by
        intro request pending
        apply inv.checked.requested request
        rcases pending with member | ⟨other, member, isRequest⟩
        · exact .inl member
        · rcases List.mem_or_eq_of_mem_set member with old | now
          · exact .inr ⟨other, old, isRequest⟩
          · subst now
            exact .inr ⟨opening, List.mem_of_getElem? found, isRequest⟩ }
  unfinished := inv.unfinished
  last := inv.last
  awaits := by
    intro prompt member shown
    exact (inv.awaits prompt member shown).mono rfl (fun _ earlier => earlier)
      rfl rfl rfl
  reads := inv.reads

theorem Inv.goToHome (inv : Inv library state)
    (touchable : state.touchable = true) : Inv library state.goToHome where
  checked := ⟨inv.checked.once, inv.checked.justified, inv.checked.node,
    inv.checked.asked, inv.checked.connected, inv.checked.requested⟩
  unfinished := by
    intro running
    cases running
  last := inv.last
  awaits := by
    intro prompt member shown
    rw [not_shown_of_touchable touchable prompt member] at shown
    cases shown
  reads := inv.reads

theorem Inv.processNodeURIFinish (inv : Inv library state)
    (reading : state.readsURI = true) (uri : Option NodeURI) :
    Inv library { state with readsURI := false, remoteNodeURI := uri } where
  checked :=
    { once := inv.checked.once
      justified := inv.checked.justified
      node := by
        intro tap request member
        have known := inv.checked.node tap request member
        rw [inv.reads reading] at known
        cases known
      asked := inv.checked.asked
      connected := inv.checked.connected
      requested := inv.checked.requested }
  unfinished := inv.unfinished
  last := inv.last
  awaits := by
    intro prompt member shown
    obtain ⟨_, form, _, _, holds⟩ := inv.awaits prompt member shown
    have node := holds.node
    rw [inv.reads reading] at node
    cases node
  reads := by
    intro stillReading
    cases stillReading

theorem Inv.editCapacity (inv : Inv library state)
    (usable : state.formUsable = true) (text : List Char)
    (onchainBalanceSat : Int) :
    Inv library (state.editCapacity library text onchainBalanceSat) := by
  have hidden := not_shown_of_touchable (formUsable_iff.mp usable).1
  unfold OpenChannelState.editCapacity
  dsimp only
  split
  · exact inv.of_same rfl rfl rfl rfl rfl rfl (.inr hidden)
  · exact inv.of_same rfl rfl rfl rfl rfl rfl (.inr hidden)

theorem Inv.pickFees (inv : Inv library state)
    (usable : state.formUsable = true) (feerates : FeeratesPerKB) :
    Inv library (state.pickFees feerates) := by
  have hidden := not_shown_of_touchable (formUsable_iff.mp usable).1
  unfold OpenChannelState.pickFees
  split
  · exact inv.of_same rfl rfl rfl rfl rfl rfl (.inr hidden)
  · exact inv.of_same rfl rfl rfl rfl rfl rfl (.inr hidden)
  · exact inv.of_same rfl rfl rfl rfl rfl rfl (.inr hidden)
  · exact inv.of_same rfl rfl rfl rfl rfl rfl (.inr hidden)

theorem Inv.step (documented : library.Documented) (inv : Inv library state)
    (inTime : state.ConfirmsShown event)
    (result : state.step library event = some next) : Inv library next := by
  cases event with
  | processNodeURIFinish uri =>
      obtain ⟨reading, rfl⟩ := Option.ite_some_none_eq_some.mp result
      exact inv.processNodeURIFinish reading uri
  | editCapacity text onchainBalanceSat =>
      obtain ⟨usable, rfl⟩ := Option.ite_some_none_eq_some.mp result
      exact inv.editCapacity (Bool.and_eq_true_iff.mp usable).1 text _
  | editFees text =>
      obtain ⟨usable, rfl⟩ := Option.ite_some_none_eq_some.mp result
      have hidden := not_shown_of_touchable (formUsable_iff.mp usable).1
      exact inv.of_same rfl rfl rfl rfl rfl rfl (.inr hidden)
  | pickFees feerates =>
      obtain ⟨usable, rfl⟩ := Option.ite_some_none_eq_some.mp result
      exact inv.pickFees usable feerates
  | tapOpen onchainBalanceSat pinRequired =>
      obtain ⟨usable, rfl⟩ := Option.ite_some_none_eq_some.mp result
      exact inv.confirmOpenChannel documented
        (Bool.and_eq_true_iff.mp usable).1 onchainBalanceSat pinRequired
  | cancelOpenChannel =>
      obtain ⟨touchable, rfl⟩ := Option.ite_some_none_eq_some.mp result
      exact inv.goToHome touchable
  | pressKey index key =>
      obtain ⟨prompt, found, result⟩ := Option.bind_eq_some_iff.mp result
      obtain ⟨shown, rfl⟩ := Option.ite_some_none_eq_some.mp result
      apply inv.setDialog found
      intro _
      exact shown
  | cancelDialog index =>
      obtain ⟨prompt, found, result⟩ := Option.bind_eq_some_iff.mp result
      obtain ⟨shown, rfl⟩ := Option.ite_some_none_eq_some.mp result
      apply Inv.enableForm
      apply inv.setDialog found
      intro _
      exact shown
  | timerFires index initialised pin =>
      obtain ⟨prompt, found, result⟩ := Option.bind_eq_some_iff.mp result
      obtain ⟨pending, rfl⟩ := Option.ite_some_none_eq_some.mp result
      exact inv.onPinConfirm documented found (inTime prompt found)
  | pause =>
      cases result
      exact inv.onPause
  | runBody index =>
      obtain ⟨opening, found, rfl⟩ := Option.map_eq_some_iff.mp result
      exact inv.runBody found
  | connectCompletes index answer =>
      obtain ⟨opening, found, result⟩ := Option.bind_eq_some_iff.mp result
      obtain ⟨connecting, rfl⟩ := Option.ite_some_none_eq_some.mp result
      exact inv.connectCompletes found answer

theorem inv_onCreate (feerates : FeeratesPerKB) :
    Inv library (onCreate feerates) where
  checked :=
    { once := Nat.zero_le 1
      justified := by
        intro before tap request after split
        have impossible := congrArg List.length split
        simp [onCreate] at impossible
      node := by
        intro tap request member
        cases member
      asked := Nat.le_refl 0
      connected := by
        intro before request after split
        have impossible := congrArg List.length split
        simp [onCreate] at impossible
      requested := by
        intro request pending
        rcases pending with member | ⟨opening, member, _⟩
        · cases member
        · cases member }
  unfinished := by
    intro _
    rfl
  last := by
    intro index prompt member
    cases member
  awaits := by
    intro prompt member
    cases member
  reads := by
    intro _
    rfl

/-! ## The result -/

/-- However the form is edited, the dialogs are typed in, cancelled or
dismissed, and the connections complete: when every callback that confirms the
PIN fires on a dialog that is shown, the screen requests at most one channel,
as it was checked. -/
theorem channel_requested_as_checked (documented : library.Documented)
    (feerates : FeeratesPerKB) (events : List OpenChannelEvent)
    (finish : OpenChannelState)
    (run : exec (step library) (onCreate feerates) events = some finish)
    (inTime : StepsMeet (step library) ConfirmsShown (onCreate feerates)
      events) :
    RequestedAsChecked library finish := by
  have kept : Inv library finish := by
    apply invariant_of_stepsMeet _ (inv_onCreate feerates) inTime run
    intro state event next inv confirms result
    exact inv.step documented confirms result
  exact kept.checked

/-- Amounts in satoshi, and as many satoshi for 1000 units of weight as for
250 bytes. -/
def sampleLibrary : OpenChannelLibrary where
  digits := JavaNumber.asciiDigit
  convertStringAmountToMsat text :=
    (parseLong JavaNumber.asciiDigit text).map (fun sat => sat * 1000)
  convertStringAmountToSat text := parseLong JavaNumber.asciiDigit text
  feerateByte2Kw fees := fees * 250
  maxFundingSatoshis := 16777216

theorem sampleLibrary_documented : sampleLibrary.Documented := by
  intro text
  have cancels : (fun amountMsat : Int => amountMsat.tdiv 1000) ∘
      (fun sat => sat * 1000) = id := by
    funext sat
    exact Int.mul_tdiv_cancel sat (by decide)
  change parseLong _ text = ((parseLong _ text).map _).map _
  rw [Option.map_map, cancels, Option.map_id, id_eq]

def sampleFeerates : FeeratesPerKB :=
  { blocks72 := 1000, blocks12 := 5000, blocks2 := 20000 }

/-- The form is filled in and accepted, and six digits are typed. -/
def typedPin : List OpenChannelEvent :=
  [.processNodeURIFinish (some { nodeId := "node", address := "host:9735" }),
    .editCapacity ['2', '0', '0', '0', '0', '0'] 500000,
    .editFees ['1', '2'],
    .tapOpen 500000 true] ++
  ['1', '2', '3', '4', '5', '6'].map (fun digit =>
    .pressKey 0 (.digit digit))

def samplePin : List Char := ['1', '2', '3', '4', '5', '6']

/-- The PIN is confirmed once, and the peer connects. -/
def requestedOnce : List OpenChannelEvent :=
  typedPin ++
    [.timerFires 0 true samplePin, .runBody 0,
      .connectCompletes 0 (some "connected")]

theorem requestedOnce_as_checked :
    ∃ finish, exec (step sampleLibrary) (onCreate sampleFeerates)
        requestedOnce = some finish ∧
      RequestedAsChecked sampleLibrary finish := by
  have runs : (exec (step sampleLibrary) (onCreate sampleFeerates)
      requestedOnce).isSome = true := by decide
  obtain ⟨finish, run⟩ := Option.isSome_iff_exists.mp runs
  exact ⟨finish, run, channel_requested_as_checked sampleLibrary_documented
    sampleFeerates requestedOnce finish run (by decide)⟩

/-- The last digit is typed twice, and both callbacks confirm the PIN. -/
def requestedTwice : List OpenChannelEvent :=
  typedPin ++
    [.pressKey 0 .backspace, .pressKey 0 (.digit '6'),
      .timerFires 0 true samplePin, .timerFires 0 true samplePin]

example : (exec (step sampleLibrary) (onCreate sampleFeerates)
    requestedTwice).any (fun finish =>
      finish.log.countP OpenChannelEntry.isRequested = 2) = true := by
  decide

end OpenChannelState

end EclairWallet
