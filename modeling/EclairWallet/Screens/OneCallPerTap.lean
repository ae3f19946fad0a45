import Mathlib.Data.List.Nodup
import Mathlib.Data.List.Perm.Subperm
import EclairWallet.Screens.ConfirmPayment

/-!
# One call for each tap

A tap is spent once its payment was executed or handed to the executor.  The
invariant `Guarded` says that no tap is spent twice and that a dialog whose tap
is spent can do nothing more.  It is kept as long as no other callback of a
dialog is pending when one of them confirms the PIN.
-/

namespace EclairWallet

namespace ConfirmEntry

/-- The calls made for a tap. -/
def callsOf (log : List ConfirmEntry) (tap : Nat) : Nat :=
  log.countP (fun entry => entry.calledTap = some tap)

/-- Every call for a tap that required the PIN comes after a confirmation that
belongs to the tap. -/
def PinFirst (log : List ConfirmEntry) : Prop :=
  ∀ first tap call rest, log = first ++ .called tap call :: rest →
    .accepted tap true ∈ log → .confirmed tap ∈ first

@[simp] theorem callsOf_append (log : List ConfirmEntry)
    (entry : ConfirmEntry) (tap : Nat) :
    callsOf (log ++ [entry]) tap =
      callsOf log tap + if entry.calledTap = some tap then 1 else 0 := by
  simp [callsOf, List.countP_append, List.countP_cons]

/-- An entry that is no call keeps the order, unless it makes the PIN required
for a tap that was called before. -/
theorem PinFirst.append {log : List ConfirmEntry} {entry : ConfirmEntry}
    (ordered : PinFirst log) (noCall : entry.calledTap = none)
    (fresh : ∀ tap call, .called tap call ∈ log → entry ≠ .accepted tap true) :
    PinFirst (log ++ [entry]) := by
  intro first tap call rest split required
  rcases List.append_eq_append_iff.mp split with
    ⟨middle, firstSplit, restSplit⟩ | ⟨middle, logSplit, restSplit⟩
  · cases middle with
    | nil =>
        simp only [List.nil_append, List.cons.injEq] at restSplit
        rw [restSplit.1] at noCall
        cases noCall
    | cons head middle =>
        simp at restSplit
  · cases middle with
    | nil =>
        simp only [List.nil_append, List.cons.injEq] at restSplit
        rw [← restSplit.1] at noCall
        cases noCall
    | cons head middle =>
        simp only [List.cons_append, List.cons.injEq] at restSplit
        obtain ⟨rfl, _⟩ := restSplit
        have member : .called tap call ∈ log := by simp [logSplit]
        rcases List.mem_append.mp required with old | new
        · exact ordered first tap call middle logSplit old
        · simp only [List.mem_singleton] at new
          exact (fresh tap call member new.symm).elim

theorem PinFirst.append_called {log : List ConfirmEntry} {tap : Nat}
    {call : MoneyCall} (ordered : PinFirst log)
    (confirmed : .accepted tap true ∈ log → .confirmed tap ∈ log) :
    PinFirst (log ++ [.called tap call]) := by
  intro first other otherCall rest split required
  have requiredBefore : .accepted other true ∈ log := by
    simpa using required
  rcases List.append_eq_append_iff.mp split with
    ⟨middle, firstSplit, restSplit⟩ | ⟨middle, logSplit, restSplit⟩
  · cases middle with
    | nil =>
        simp only [List.nil_append, List.cons.injEq,
          ConfirmEntry.called.injEq] at restSplit
        obtain ⟨⟨rfl, rfl⟩, _⟩ := restSplit
        simpa [firstSplit] using confirmed requiredBefore
    | cons head middle =>
        simp at restSplit
  · cases middle with
    | nil =>
        simp only [List.nil_append, List.cons.injEq,
          ConfirmEntry.called.injEq] at restSplit
        obtain ⟨⟨rfl, rfl⟩, _⟩ := restSplit
        have same : log = first := by simpa using logSplit
        subst same
        exact confirmed requiredBefore
    | cons head middle =>
        simp only [List.cons_append, List.cons.injEq] at restSplit
        obtain ⟨rfl, _⟩ := restSplit
        exact ordered first other otherCall middle logSplit requiredBefore

/-- When no tap has two calls and every called tap was accepted, there are no
more calls than accepted taps. -/
theorem calls_le {log : List ConfirmEntry} {taps : Nat}
    (once : ∀ tap, callsOf log tap ≤ 1)
    (known : ∀ tap, 0 < callsOf log tap → tap < taps) :
    log.countP (fun entry => entry.calledTap.isSome) ≤ taps := by
  have count : ∀ tap, (log.filterMap calledTap).count tap = callsOf log tap := by
    intro tap
    rw [List.count_filterMap]
    unfold callsOf
    congr 1
    funext entry
    rw [Bool.eq_iff_iff]
    simp
  have nodup : (log.filterMap calledTap).Nodup := by
    apply List.nodup_iff_count_le_one.mpr
    intro tap
    rw [count]
    exact once tap
  have inside : log.filterMap calledTap ⊆ List.range taps := by
    intro tap member
    apply List.mem_range.mpr
    apply known
    rw [← count]
    exact List.count_pos_iff.mpr member
  have bound := (List.subperm_of_subset nodup inside).length_le
  rwa [List.length_range, List.length_filterMap_eq_countP] at bound

end ConfirmEntry

open ConfirmEntry

namespace ConfirmState

/-- Calls made for the tap and payments handed to the executor for it. -/
def spent (state : ConfirmState) (tap : Nat) : Nat :=
  callsOf state.log tap + state.queued.countP (fun body => body.1 = tap)

/-- The invariant. -/
structure Guarded (state : ConfirmState) : Prop where
  promptTaps : ∀ prompt ∈ state.prompts, prompt.tap < state.taps
  distinct : (state.prompts.map PinPrompt.tap).Nodup
  acceptedTaps : ∀ tap pinRequired, .accepted tap pinRequired ∈ state.log →
    tap < state.taps
  spentTaps : ∀ tap, 0 < state.spent tap → tap < state.taps
  once : ∀ tap, state.spent tap ≤ 1
  spare : ∀ prompt ∈ state.prompts,
    state.spent prompt.tap = 0 ∨ prompt.dialog.Exhausted
  confirmed : ∀ tap, 0 < state.spent tap → .accepted tap true ∈ state.log →
    .confirmed tap ∈ state.log
  ordered : PinFirst state.log

namespace Guarded

theorem of_prompts {state next : ConfirmState} (guarded : state.Guarded)
    (sameLog : next.log = state.log) (sameQueued : next.queued = state.queued)
    (sameTaps : next.prompts.map PinPrompt.tap =
      state.prompts.map PinPrompt.tap)
    (calmer : ∀ after ∈ next.prompts, ∃ before ∈ state.prompts,
      after.tap = before.tap ∧
        (before.dialog.Exhausted → after.dialog.Exhausted)) :
    next.Guarded := by
  have taps : next.taps = state.taps := by simp [taps, sameLog]
  have spent : ∀ tap, next.spent tap = state.spent tap := by
    intro tap
    simp [ConfirmState.spent, sameLog, sameQueued]
  constructor
  · intro after member
    obtain ⟨before, beforeMember, sameTap, _⟩ := calmer after member
    rw [sameTap, taps]
    exact guarded.promptTaps before beforeMember
  · rw [sameTaps]
    exact guarded.distinct
  · rw [sameLog, taps]
    exact guarded.acceptedTaps
  · simpa only [spent, taps] using guarded.spentTaps
  · simpa only [spent] using guarded.once
  · intro after member
    obtain ⟨before, beforeMember, sameTap, exhausted⟩ := calmer after member
    rw [spent, sameTap]
    exact (guarded.spare before beforeMember).imp_right exhausted
  · simpa only [spent, sameLog] using guarded.confirmed
  · rw [sameLog]
    exact guarded.ordered

theorem of_same {state next : ConfirmState} (guarded : state.Guarded)
    (sameLog : next.log = state.log) (sameQueued : next.queued = state.queued)
    (samePrompts : next.prompts = state.prompts) : next.Guarded := by
  apply guarded.of_prompts sameLog sameQueued
  · rw [samePrompts]
  · rw [samePrompts]
    intro after member
    exact ⟨after, member, rfl, id⟩

theorem setDialog {state : ConfirmState} {index : Nat} {prompt : PinPrompt}
    {dialog : PinDialog} (guarded : state.Guarded)
    (found : state.prompts[index]? = some prompt)
    (calmer : prompt.dialog.Exhausted → dialog.Exhausted) :
    (state.setDialog index prompt dialog).Guarded := by
  have member := List.mem_of_getElem? found
  obtain ⟨inBounds, rfl⟩ := List.getElem?_eq_some_iff.mp found
  apply guarded.of_prompts
  · rfl
  · rfl
  · apply List.ext_getElem?
    intro other
    simp only [ConfirmState.setDialog, List.getElem?_map, List.getElem?_set]
    by_cases sameIndex : index = other
    · subst other
      simp [inBounds]
    · simp [sameIndex]
  · intro after afterMember
    rcases List.mem_or_eq_of_mem_set afterMember with old | new
    · exact ⟨after, old, rfl, id⟩
    · subst after
      exact ⟨_, member, rfl, calmer⟩

theorem accept {state : ConfirmState} (guarded : state.Guarded)
    (pinRequired : Bool) :
    (state.record (.accepted state.taps pinRequired)).Guarded := by
  have taps : (state.record (.accepted state.taps pinRequired)).taps =
      state.taps + 1 := by
    simp [ConfirmState.taps, record, List.countP_append, isAccepted]
  have spent : ∀ tap,
      (state.record (.accepted state.taps pinRequired)).spent tap =
        state.spent tap := by
    intro tap
    simp [ConfirmState.spent, record, calledTap]
  constructor
  · intro prompt member
    have bound := guarded.promptTaps prompt member
    omega
  · exact guarded.distinct
  · intro tap required member
    rw [taps]
    rcases List.mem_append.mp member with old | new
    · have bound := guarded.acceptedTaps tap required old
      omega
    · simp only [List.mem_singleton, ConfirmEntry.accepted.injEq] at new
      omega
  · intro tap isSpent
    rw [spent] at isSpent
    have bound := guarded.spentTaps tap isSpent
    omega
  · simpa only [spent] using guarded.once
  · simpa only [spent, record_prompts] using guarded.spare
  · intro tap isSpent required
    rw [spent] at isSpent
    have bound := guarded.spentTaps tap isSpent
    apply List.mem_append_left
    apply guarded.confirmed tap isSpent
    rcases List.mem_append.mp required with old | new
    · exact old
    · simp only [List.mem_singleton, ConfirmEntry.accepted.injEq] at new
      omega
  · apply guarded.ordered.append rfl
    intro tap call member same
    simp only [ConfirmEntry.accepted.injEq] at same
    have isSpent : 0 < state.spent tap := by
      have called : 0 < callsOf state.log tap :=
        List.countP_pos_iff.mpr ⟨_, member, by simp [calledTap]⟩
      unfold ConfirmState.spent
      omega
    have bound := guarded.spentTaps tap isSpent
    omega

theorem confirm {state : ConfirmState} (guarded : state.Guarded) (tap : Nat) :
    (state.record (.confirmed tap)).Guarded := by
  have taps : (state.record (.confirmed tap)).taps = state.taps := by
    simp [ConfirmState.taps, record, List.countP_append, isAccepted]
  have spent : ∀ other,
      (state.record (.confirmed tap)).spent other = state.spent other := by
    intro other
    simp [ConfirmState.spent, record, calledTap]
  have acceptedSame : ∀ other required,
      .accepted other required ∈ (state.record (.confirmed tap)).log →
        .accepted other required ∈ state.log := by
    intro other required member
    simpa [record] using member
  constructor
  · rw [taps]
    exact guarded.promptTaps
  · exact guarded.distinct
  · intro other required member
    rw [taps]
    exact guarded.acceptedTaps other required (acceptedSame other required member)
  · simpa only [spent, taps] using guarded.spentTaps
  · simpa only [spent] using guarded.once
  · simpa only [spent, record_prompts] using guarded.spare
  · intro other isSpent required
    rw [spent] at isSpent
    apply List.mem_append_left
    exact guarded.confirmed other isSpent (acceptedSame other true required)
  · apply guarded.ordered.append rfl
    intro other call _ same
    cases same

theorem showPinDialog {state : ConfirmState} (guarded : state.Guarded)
    {tap : Nat} (payment : MoneyCall) (known : tap < state.taps)
    (fresh : ∀ prompt ∈ state.prompts, prompt.tap ≠ tap)
    (unspent : state.spent tap = 0) :
    (state.showPinDialog tap payment).Guarded := by
  constructor
  · intro prompt member
    rcases List.mem_append.mp member with old | new
    · exact guarded.promptTaps prompt old
    · simp only [List.mem_singleton] at new
      subst prompt
      exact known
  · have apart : tap ∉ state.prompts.map PinPrompt.tap := by
      intro member
      obtain ⟨prompt, promptMember, same⟩ := List.mem_map.mp member
      exact fresh prompt promptMember same
    simp only [ConfirmState.showPinDialog, List.map_append, List.map_cons,
      List.map_nil]
    simpa using guarded.distinct.concat apart
  · exact guarded.acceptedTaps
  · exact guarded.spentTaps
  · exact guarded.once
  · intro prompt member
    rcases List.mem_append.mp member with old | new
    · exact guarded.spare prompt old
    · simp only [List.mem_singleton] at new
      subst prompt
      exact Or.inl unspent
  · exact guarded.confirmed
  · exact guarded.ordered

/-- Spending a tap once, from a state in which it is confirmed where it must
be and its dialog can do nothing more. -/
theorem spend {state next : ConfirmState} (guarded : state.Guarded) {tap : Nat}
    (known : tap < state.taps) (unspent : state.spent tap = 0)
    (exhausted : ∀ prompt ∈ state.prompts, prompt.tap = tap →
      prompt.dialog.Exhausted)
    (samePrompts : next.prompts = state.prompts)
    (sameTaps : next.taps = state.taps)
    (sameAccepted : ∀ other required, .accepted other required ∈ next.log ↔
      .accepted other required ∈ state.log)
    (sameConfirmed : ∀ other, .confirmed other ∈ state.log →
      .confirmed other ∈ next.log)
    (spent : ∀ other, next.spent other =
      state.spent other + if other = tap then 1 else 0)
    (confirmed : .accepted tap true ∈ state.log → .confirmed tap ∈ state.log)
    (ordered : PinFirst next.log) : next.Guarded := by
  constructor
  · rw [samePrompts, sameTaps]
    exact guarded.promptTaps
  · rw [samePrompts]
    exact guarded.distinct
  · intro other required member
    rw [sameTaps]
    exact guarded.acceptedTaps other required
      ((sameAccepted other required).mp member)
  · intro other isSpent
    rw [sameTaps]
    rw [spent] at isSpent
    by_cases same : other = tap
    · subst other
      exact known
    · apply guarded.spentTaps other
      simpa [same] using isSpent
  · intro other
    rw [spent]
    by_cases same : other = tap
    · subst other
      simp [unspent]
    · simpa [same] using guarded.once other
  · rw [samePrompts]
    intro prompt member
    by_cases same : prompt.tap = tap
    · exact Or.inr (exhausted prompt member same)
    · rw [spent]
      simpa [same] using guarded.spare prompt member
  · intro other isSpent required
    have before := (sameAccepted other true).mp required
    apply sameConfirmed
    by_cases same : other = tap
    · subst other
      exact confirmed before
    · apply guarded.confirmed other _ before
      rw [spent] at isSpent
      simpa [same] using isSpent
  · exact ordered

theorem execute {state : ConfirmState} (guarded : state.Guarded) {tap : Nat}
    (rowFree : Bool) (payment : MoneyCall) (known : tap < state.taps)
    (unspent : state.spent tap = 0)
    (exhausted : ∀ prompt ∈ state.prompts, prompt.tap = tap →
      prompt.dialog.Exhausted)
    (confirmed : .accepted tap true ∈ state.log → .confirmed tap ∈ state.log) :
    (state.execute tap rowFree payment).Guarded := by
  cases payment with
  | sendLNPayment amountMsat =>
      cases rowFree with
      | false => exact guarded
      | true =>
          refine guarded.spend known unspent exhausted ?_ ?_ ?_ ?_ ?_ confirmed
            ?_
          · rfl
          · rfl
          · exact fun _ _ => Iff.rfl
          · exact fun _ member => member
          · intro other
            simp [ConfirmState.spent, ConfirmState.execute, sendLNPayment,
              closeAndGoHome, List.countP_append, List.countP_cons,
              Nat.add_assoc, eq_comm]
          · exact guarded.ordered
  | sendBitcoinPayment amountSat feesPerKw emptyWallet =>
      refine guarded.spend known unspent exhausted ?_ ?_ ?_ ?_ ?_ confirmed ?_
      · rfl
      · simp [ConfirmState.execute, sendBitcoinPayment, closeAndGoHome, record,
          ConfirmState.taps, List.countP_append, isAccepted]
      · intro other required
        simp [ConfirmState.execute, sendBitcoinPayment, closeAndGoHome, record]
      · intro other member
        exact List.mem_append_left _ member
      · intro other
        simp [ConfirmState.spent, ConfirmState.execute, sendBitcoinPayment,
          closeAndGoHome, record, calledTap, eq_comm]
        omega
      · exact guarded.ordered.append_called confirmed

theorem runBody {state : ConfirmState} {index : Nat} {body : Nat × Int}
    (guarded : state.Guarded) (found : state.queued[index]? = some body) :
    (state.runBody index body).Guarded := by
  have member := List.mem_of_getElem? found
  have permutation : (body :: state.queued.eraseIdx index).Perm
      state.queued := by
    obtain ⟨inBounds, rfl⟩ := List.getElem?_eq_some_iff.mp found
    exact List.getElem_cons_eraseIdx_perm inBounds
  have taps : (state.runBody index body).taps = state.taps := by
    simp [ConfirmState.runBody, ConfirmState.taps, List.countP_append,
      isAccepted]
  have spent : ∀ tap,
      (state.runBody index body).spent tap = state.spent tap := by
    intro tap
    have count := permutation.countP_eq (fun queued => queued.1 = tap)
    simp only [List.countP_cons, decide_eq_true_eq] at count
    simp only [ConfirmState.spent, ConfirmState.runBody, record_log,
      record_queued, callsOf_append, calledTap, Option.some.injEq]
    omega
  have isSpent : 0 < state.spent body.1 := by
    have queued : 0 < state.queued.countP (fun other => other.1 = body.1) :=
      List.countP_pos_iff.mpr ⟨body, member, by simp⟩
    unfold ConfirmState.spent
    omega
  have acceptedSame : ∀ other required,
      .accepted other required ∈ (state.runBody index body).log →
        .accepted other required ∈ state.log := by
    intro other required accepted
    simpa [ConfirmState.runBody] using accepted
  constructor
  · rw [taps]
    exact guarded.promptTaps
  · exact guarded.distinct
  · intro other required accepted
    rw [taps]
    exact guarded.acceptedTaps other required
      (acceptedSame other required accepted)
  · simpa only [spent, taps] using guarded.spentTaps
  · simpa only [spent] using guarded.once
  · intro prompt promptMember
    rw [spent]
    exact guarded.spare prompt promptMember
  · intro other otherSpent required
    rw [spent] at otherSpent
    apply List.mem_append_left
    exact guarded.confirmed other otherSpent (acceptedSame other true required)
  · exact guarded.ordered.append_called (guarded.confirmed body.1 isSpent)

theorem confirmPayment {state : ConfirmState} (guarded : state.Guarded)
    (inputs : TapInputs) : (state.confirmPayment inputs).Guarded := by
  unfold ConfirmState.confirmPayment
  split
  · exact guarded
  · have processing :
        ({ state with isProcessingPayment := true } : ConfirmState).Guarded :=
      guarded.of_same rfl rfl rfl
    have accepted := processing.accept inputs.pinRequired
    have fresh : ∀ prompt ∈ state.prompts, prompt.tap ≠ state.taps := by
      intro prompt member
      have bound := guarded.promptTaps prompt member
      omega
    have unspent : (({ state with isProcessingPayment := true } :
        ConfirmState).record (.accepted state.taps inputs.pinRequired)).spent
          state.taps = 0 := by
      have notSpent : ¬ 0 < state.spent state.taps := by
        intro isSpent
        have bound := guarded.spentTaps state.taps isSpent
        omega
      have same : (({ state with isProcessingPayment := true } :
          ConfirmState).record (.accepted state.taps inputs.pinRequired)).spent
            state.taps = state.spent state.taps := by
        simp [ConfirmState.spent, calledTap]
      omega
    have known : state.taps < (({ state with isProcessingPayment := true } :
        ConfirmState).record
          (.accepted state.taps inputs.pinRequired)).taps := by
      simp [ConfirmState.taps, List.countP_append, isAccepted]
    simp only
    split
    · exact accepted
    · split
      · exact accepted.of_same rfl rfl rfl
      · rename_i payment _
        split
        · exact accepted.showPinDialog payment known fresh unspent
        · rename_i notRequired
          have executed := accepted.execute inputs.rowFree payment known unspent
            (by
              intro prompt member same
              exact (fresh prompt member same).elim)
            (by
              intro required
              simp only [record_log, List.mem_append, List.mem_singleton,
                ConfirmEntry.accepted.injEq] at required
              rcases required with old | ⟨_, same⟩
              · have bound := guarded.acceptedTaps state.taps true old
                omega
              · simp [← same] at notRequired)
          exact executed.of_same rfl rfl rfl

/-- A callback that confirms leaves its dialog with nothing more to do when no
other callback is pending. -/
theorem onPinConfirm {state : ConfirmState} {index : Nat} {prompt : PinPrompt}
    (guarded : state.Guarded) (found : state.prompts[index]? = some prompt)
    (pending : 0 < prompt.dialog.timers) (initialised : Bool)
    (pin : List Char) (rowFree : Bool)
    (alone : initialised = true → prompt.dialog.mPinValue = pin →
      prompt.dialog.timers ≤ 1) :
    (state.onPinConfirm index prompt initialised pin rowFree).Guarded := by
  have notExhausted : ¬ prompt.dialog.Exhausted := by
    intro exhausted
    have none := exhausted.2
    omega
  have progress : ∀ dialog, (state.setDialog index prompt dialog).Guarded :=
    fun dialog => guarded.setDialog found
      (fun exhausted => (notExhausted exhausted).elim)
  have member := List.mem_of_getElem? found
  unfold ConfirmState.onPinConfirm
  simp only
  split
  · rename_i ready
    split
    · rename_i correct
      have last := alone ready correct
      have exhausted : prompt.dialog.fire.dismiss.Exhausted := by
        refine ⟨rfl, ?_⟩
        simp only [PinDialog.dismiss, PinDialog.fire]
        omega
      have unspent : state.spent prompt.tap = 0 := by
        rcases guarded.spare prompt member with zero | done
        · exact zero
        · exact (notExhausted done).elim
      have confirmed := (progress prompt.dialog.fire.dismiss).confirm prompt.tap
      apply confirmed.execute
      · have bound := guarded.promptTaps prompt member
        simpa [ConfirmState.taps, ConfirmState.setDialog, List.countP_append,
          isAccepted] using bound
      · simpa [ConfirmState.spent, ConfirmState.setDialog, calledTap] using
          unspent
      · intro other otherMember sameTap
        have inBounds := (List.getElem?_eq_some_iff.mp found).1
        have own := List.mem_set inBounds
          { prompt with dialog := prompt.dialog.fire.dismiss }
        have same := List.inj_on_of_nodup_map
          (progress prompt.dialog.fire.dismiss).distinct otherMember own sameTap
        subst other
        exact exhausted
      · simp
    · exact (progress _).of_same rfl rfl rfl
  · exact (progress _).of_same rfl rfl rfl

end Guarded

/-- When a callback confirms the PIN, no other callback of its dialog is
pending. -/
def ConfirmsAlone (state : ConfirmState) : ConfirmEvent → Prop
  | .timerFires index initialised pin _ =>
      ∀ prompt, state.prompts[index]? = some prompt → initialised = true →
        prompt.dialog.mPinValue = pin → prompt.dialog.timers ≤ 1
  | _ => True

instance (state : ConfirmState) :
    ∀ event, Decidable (state.ConfirmsAlone event)
  | .timerFires index initialised pin _ =>
      match found : state.prompts[index]? with
      | none => .isTrue (by simp [ConfirmsAlone, found])
      | some prompt =>
          decidable_of_iff (initialised = true →
              prompt.dialog.mPinValue = pin → prompt.dialog.timers ≤ 1)
            (by simp [ConfirmsAlone, found])
  | .invoiceRead _ => .isTrue trivial
  | .tapSend _ => .isTrue trivial
  | .pressKey _ _ => .isTrue trivial
  | .cancelDialog _ => .isTrue trivial
  | .amountChanged _ _ => .isTrue trivial
  | .pause => .isTrue trivial
  | .runBody _ => .isTrue trivial

theorem guarded_step {state next : ConfirmState} {event : ConfirmEvent}
    (guarded : state.Guarded) (alone : state.ConfirmsAlone event)
    (result : step state event = some next) : next.Guarded := by
  cases event with
  | invoiceRead invoice =>
      simp only [step, Option.some.injEq] at result
      subst next
      exact guarded.of_same rfl rfl rfl
  | tapSend inputs =>
      simp only [step, Option.ite_none_left_eq_some, Option.some.injEq]
        at result
      obtain ⟨_, rfl⟩ := result
      exact guarded.confirmPayment inputs
  | pressKey index key =>
      simp only [step, Option.bind_eq_some_iff, Option.ite_none_right_eq_some,
        Option.some.injEq] at result
      obtain ⟨prompt, found, showing, rfl⟩ := result
      apply guarded.setDialog found
      intro exhausted
      simp [exhausted.1] at showing
  | cancelDialog index =>
      simp only [step, Option.bind_eq_some_iff, Option.ite_none_right_eq_some,
        Option.some.injEq] at result
      obtain ⟨prompt, found, _, rfl⟩ := result
      have dismissed := guarded.setDialog found PinDialog.Exhausted.dismiss
      exact dismissed.of_same rfl rfl rfl
  | timerFires index initialised pin rowFree =>
      simp only [step, Option.bind_eq_some_iff, Option.ite_none_right_eq_some,
        Option.some.injEq] at result
      obtain ⟨prompt, found, pending, rfl⟩ := result
      exact guarded.onPinConfirm found pending initialised pin rowFree
        (alone prompt found)
  | amountChanged amountMsat onchainBalanceSat =>
      simp only [step, Option.ite_none_left_eq_some, Option.some.injEq]
        at result
      obtain ⟨_, rfl⟩ := result
      unfold ConfirmState.amountChanged
      split
      · split
        · exact guarded.of_same rfl rfl rfl
        · exact guarded
      · exact guarded
  | pause =>
      simp only [step, Option.some.injEq] at result
      subst next
      unfold onPause
      split
      · rename_i prompt found
        exact guarded.setDialog found PinDialog.Exhausted.dismiss
      · exact guarded
  | runBody index =>
      simp only [step, Option.map_eq_some_iff] at result
      obtain ⟨body, found, rfl⟩ := result
      exact guarded.runBody found

/-- The screen as it is opened. -/
def start (goToFrag : Bool) : ConfirmState :=
  { goToFrag := goToFrag }

theorem guarded_start (goToFrag : Bool) : (start goToFrag).Guarded := by
  constructor <;>
    simp [start, spent, callsOf, PinFirst]

theorem guarded_of_confirmsAlone {goToFrag : Bool}
    {events : List ConfirmEvent} {state : ConfirmState}
    (alone : Runs.StepsMeet step ConfirmsAlone (start goToFrag) events)
    (run : Runs.exec step (start goToFrag) events = some state) :
    state.Guarded := by
  have preserved : ∀ state event next, Guarded state →
      ConfirmsAlone state event → step state event = some next →
      Guarded next :=
    fun _ _ _ guarded alone result => guarded_step guarded alone result
  exact Runs.invariant_of_stepsMeet preserved (guarded_start goToFrag) alone run

/-- At most one call for each accepted tap, no tap called twice, and the PIN
first where it is required. -/
structure OneCallPerTap (state : ConfirmState) : Prop where
  total : state.log.countP (fun entry => entry.calledTap.isSome) ≤ state.taps
  each : ∀ tap, callsOf state.log tap ≤ 1
  pinFirst : PinFirst state.log

theorem Guarded.oneCallPerTap {state : ConfirmState}
    (guarded : state.Guarded) : state.OneCallPerTap := by
  have called : ∀ tap, callsOf state.log tap ≤ state.spent tap :=
    fun tap => Nat.le_add_right _ _
  have once : ∀ tap, callsOf state.log tap ≤ 1 :=
    fun tap => Nat.le_trans (called tap) (guarded.once tap)
  constructor
  · apply calls_le once
    intro tap isCalled
    exact guarded.spentTaps tap (Nat.lt_of_lt_of_le isCalled (called tap))
  · exact once
  · exact guarded.ordered

theorem step_timerFires_correct {state : ConfirmState} {index : Nat}
    {prompt : PinPrompt} (found : state.prompts[index]? = some prompt)
    (pending : 0 < prompt.dialog.timers) :
    ∃ next, step state
        (.timerFires index true prompt.dialog.mPinValue true) = some next ∧
      next.prompts[index]? =
        some { prompt with dialog := prompt.dialog.fire.dismiss } ∧
      ∃ sent queued, next.log = state.log ++ sent ∧
        next.queued = state.queued ++ queued ∧
        1 ≤ callsOf sent prompt.tap +
          queued.countP (fun body => body.1 = prompt.tap) := by
  have inBounds := (List.getElem?_eq_some_iff.mp found).1
  refine ⟨state.onPinConfirm index prompt true prompt.dialog.mPinValue true,
    ?_, ?_, ?_⟩
  · simp [step, found, pending]
  · cases payment : prompt.payment <;>
      simp [ConfirmState.onPinConfirm, ConfirmState.execute, payment,
        sendLNPayment, sendBitcoinPayment, closeAndGoHome, setDialog, inBounds,
        PinDialog.fire]
  · cases payment : prompt.payment with
    | sendLNPayment amountMsat =>
        refine ⟨[.confirmed prompt.tap], [(prompt.tap, amountMsat)], ?_, ?_, ?_⟩
        · simp [ConfirmState.onPinConfirm, ConfirmState.execute, payment,
            sendLNPayment, closeAndGoHome, setDialog, PinDialog.fire]
        · simp [ConfirmState.onPinConfirm, ConfirmState.execute, payment,
            sendLNPayment, closeAndGoHome, setDialog, PinDialog.fire]
        · simp [callsOf, calledTap]
    | sendBitcoinPayment amountSat feesPerKw emptyWallet =>
        refine ⟨[.confirmed prompt.tap, .called prompt.tap
          (.sendBitcoinPayment amountSat feesPerKw emptyWallet)], [], ?_, ?_,
          ?_⟩
        · simp [ConfirmState.onPinConfirm, ConfirmState.execute, payment,
            sendBitcoinPayment, closeAndGoHome, setDialog, PinDialog.fire]
        · simp [ConfirmState.onPinConfirm, ConfirmState.execute, payment,
            sendBitcoinPayment, closeAndGoHome, setDialog, PinDialog.fire]
        · simp [callsOf, calledTap]

theorem exists_run_of_queued (state : ConfirmState) :
    ∃ events finish, Runs.exec step state events = some finish ∧
      ∀ tap, callsOf finish.log tap = state.spent tap := by
  induction length : state.queued.length generalizing state with
  | zero =>
      have none : state.queued = [] := List.length_eq_zero_iff.mp length
      exact ⟨[], state, rfl, by simp [spent, none]⟩
  | succ count induction =>
      obtain ⟨body, rest, queued⟩ :=
        List.exists_cons_of_length_eq_add_one length
      have shorter : (state.runBody 0 body).queued.length = count := by
        simp [ConfirmState.runBody, queued] at length ⊢
        exact length
      obtain ⟨events, finish, run, calls⟩ :=
        induction (state.runBody 0 body) shorter
      refine ⟨.runBody 0 :: events, finish, ?_, ?_⟩
      · rw [Runs.exec_cons_eq_some_iff]
        exact ⟨_, by simp [step, queued], run⟩
      · intro tap
        rw [calls]
        simp [spent, ConfirmState.runBody, queued, calledTap,
          List.countP_cons]
        omega

/-- Confirming while another callback is pending leads to a second call for
the tap. -/
theorem exists_second_call {state : ConfirmState} {index : Nat}
    {pin : List Char}
    (notAlone : ¬ state.ConfirmsAlone (.timerFires index true pin true)) :
    ∃ events finish tap, Runs.exec step state
        (.timerFires index true pin true :: events) = some finish ∧
      2 ≤ callsOf finish.log tap := by
  simp only [ConfirmsAlone, forall_const, not_forall, Nat.not_le]
    at notAlone
  obtain ⟨prompt, found, rfl, twice⟩ := notAlone
  obtain ⟨first, firstResult, firstFound, firstSent, firstQueued, firstLog,
    firstQueue, firstOne⟩ := step_timerFires_correct found (by omega)
  obtain ⟨second, secondResult, _, secondSent, secondQueued, secondLog,
    secondQueue, secondOne⟩ := step_timerFires_correct firstFound (by
      simp only [PinDialog.dismiss, PinDialog.fire]
      omega)
  obtain ⟨events, finish, run, calls⟩ := exists_run_of_queued second
  refine ⟨.timerFires index true prompt.dialog.mPinValue true :: events,
    finish, prompt.tap, ?_, ?_⟩
  · rw [Runs.exec_cons_eq_some_iff]
    refine ⟨first, firstResult, ?_⟩
    rw [Runs.exec_cons_eq_some_iff]
    exact ⟨second, secondResult, run⟩
  · rw [calls]
    simp only [spent, secondLog, firstLog, secondQueue, firstQueue, callsOf,
      List.countP_append] at firstOne secondOne ⊢
    omega

/-- Runs in which callbacks confirm alone make at most one call for each tap;
a callback that does not leads to two. -/
theorem one_call_per_tap (state : ConfirmState) :
    (∀ goToFrag events,
      Runs.StepsMeet step ConfirmsAlone (start goToFrag) events →
      Runs.exec step (start goToFrag) events = some state →
      state.OneCallPerTap) ∧
    (∀ (index : Nat) (pin : List Char),
      ¬ state.ConfirmsAlone (.timerFires index true pin true) →
      ∃ events finish tap, Runs.exec step state
          (.timerFires index true pin true :: events) = some finish ∧
        2 ≤ callsOf finish.log tap) := by
  constructor
  · intro goToFrag events alone run
    exact (guarded_of_confirmsAlone alone run).oneCallPerTap
  · intro index pin notAlone
    exact exists_second_call notAlone

/-! ## Six digits, twice -/

def sampleInputs : TapInputs :=
  { hasActiveChannels := true
    amount := some 1000
    onchainBalanceSat := 5000
    feesPerKw := some 250
    emptyWallet := false
    pinRequired := true
    rowFree := true }

def samplePin : List Char := ['1', '2', '3', '4', '5', '6']

/-- One tap, and the six digits of the PIN. -/
def tapAndPin : List ConfirmEvent :=
  .invoiceRead (.onchain none) :: .tapSend sampleInputs ::
    samplePin.map (fun digit => .pressKey 0 (.digit digit))

/-- The PIN is typed and confirmed by the first callback. -/
def confirmedOnce : List ConfirmEvent :=
  tapAndPin ++ [.timerFires 0 true samplePin true]

/-- The last digit is erased and typed again before the callback fires. -/
def confirmedTwice : List ConfirmEvent :=
  tapAndPin ++ [.pressKey 0 .backspace, .pressKey 0 (.digit '6'),
    .timerFires 0 true samplePin true, .timerFires 0 true samplePin true]

theorem one_call_when_confirmed_once :
    ∃ state, Runs.exec step (start true) confirmedOnce = some state ∧
      state.OneCallPerTap := by
  have alone : Runs.StepsMeet step ConfirmsAlone (start true)
      confirmedOnce := by
    decide
  exact ⟨_, rfl, (one_call_per_tap _).1 true confirmedOnce alone rfl⟩

theorem two_calls_when_confirmed_twice :
    ¬ ∀ goToFrag events state,
      Runs.exec step (start goToFrag) events = some state →
        state.OneCallPerTap := by
  intro claim
  have calls : (Runs.exec step (start true) confirmedTwice).map
      (fun state => callsOf state.log 0) = some 2 := by
    decide
  obtain ⟨state, run, count⟩ := Option.map_eq_some_iff.mp calls
  have bound := (claim true confirmedTwice state run).each 0
  omega

end ConfirmState

end EclairWallet
