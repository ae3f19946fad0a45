import EclairWallet.Library.Runs
import EclairWallet.Screens.PinDialog

/-!
# One PIN entry

The keys, the posted callbacks and the dismissal of one dialog, in any order.
A callback is posted when the entry is completed, and hands over what is typed
when it fires.
-/

namespace EclairWallet

/-- A call of `onPinConfirm`: the value it is given, the value displayed when
its callback was posted, and whether the dialog is still there. -/
structure PinConfirmation where
  pinValue : List Char
  completed : List Char
  showing : Bool
  deriving DecidableEq, Repr

/-- The dialog with the values displayed when its pending callbacks were
posted, oldest first, and the calls made so far. -/
structure PinEntry where
  dialog : PinDialog := {}
  posted : List (List Char) := []
  confirmations : List PinConfirmation := []
  deriving DecidableEq, Repr

inductive PinEvent where
  | press (key : PinKey)
  | fire
  | dismiss
  deriving DecidableEq, Repr

namespace PinEntry

/-- Callbacks have one delay, so they fire in the order they were posted. -/
def step (entry : PinEntry) : PinEvent → Option PinEntry
  | .press key =>
      let dialog := entry.dialog.press key
      some { entry with
        dialog := dialog
        posted :=
          if entry.dialog.timers < dialog.timers then
            entry.posted ++ [dialog.mPinValue]
          else entry.posted }
  | .fire =>
      match entry.posted with
      | [] => none
      | completed :: posted =>
          some
            { dialog := entry.dialog.fire
              posted := posted
              confirmations := entry.confirmations ++
                [{ pinValue := entry.dialog.mPinValue
                   completed := completed
                   showing := entry.dialog.showing }] }
  | .dismiss => some { entry with dialog := entry.dialog.dismiss }

/-- A new dialog. -/
def start : PinEntry :=
  {}

/-- The entry is within its length, the display shows it, and one callback is
pending for each completed value that was posted. -/
structure Displayed (entry : PinEntry) : Prop where
  length : entry.dialog.mPinValue.length ≤ PinDialog.pinLength
  display : entry.dialog.mPinDisplay = entry.dialog.mPinValue.length
  posted : ∀ completed ∈ entry.posted, completed.length = PinDialog.pinLength
  timers : entry.dialog.timers = entry.posted.length

/-- At most one call was made, with the six characters displayed when the
entry was completed, while the dialog was there. -/
def ConfirmedOnce (entry : PinEntry) : Prop :=
  entry.confirmations.length ≤ 1 ∧
    ∀ confirmation ∈ entry.confirmations,
      confirmation.pinValue = confirmation.completed ∧
        confirmation.pinValue.length = PinDialog.pinLength ∧
        confirmation.showing = true

/-- A callback fires on the entry it was posted for: the dialog is there, the
typed value is still the completed one, and no callback fired before. -/
def FiresInTime (entry : PinEntry) (event : PinEvent) : Prop :=
  event = .fire → entry.dialog.showing = true ∧
    entry.posted.head? = some entry.dialog.mPinValue ∧
    entry.confirmations = []

instance (entry : PinEntry) (event : PinEvent) :
    Decidable (entry.FiresInTime event) :=
  inferInstanceAs (Decidable (_ → _))

variable {entry next : PinEntry} {event : PinEvent}

theorem displayed_start : Displayed start :=
  { length := Nat.zero_le _
    display := rfl
    posted := by simp [start]
    timers := rfl }

/-- The dialog displays what is typed, and a completed entry posts one
callback. -/
structure Redisplayed (before after : PinDialog) : Prop where
  showing : after.showing = before.showing
  display : after.mPinDisplay = after.mPinValue.length
  length : after.mPinValue.length ≤ PinDialog.pinLength
  timers : after.timers =
    if after.mPinValue.length = PinDialog.pinLength then before.timers + 1
    else before.timers

theorem redisplayed_setDisplay (dialog : PinDialog) (mPinValue : List Char)
    (bounded : mPinValue.length ≤ PinDialog.pinLength) :
    Redisplayed dialog
      ({ dialog with mPinValue := mPinValue }.setDisplay mPinValue.length) :=
  { showing := rfl
    display := rfl
    length := bounded
    timers := rfl }

theorem press_cases (dialog : PinDialog) (key : PinKey)
    (bounded : dialog.mPinValue.length ≤ PinDialog.pinLength) :
    dialog.press key = dialog ∨ Redisplayed dialog (dialog.press key) := by
  cases key with
  | digit val =>
      by_cases accepted : dialog.mPinValue = [] ∨
          dialog.mPinValue.length ≠ PinDialog.pinLength
      · right
        rw [PinDialog.press, if_pos accepted]
        apply redisplayed_setDisplay
        rw [List.length_append, List.length_singleton]
        rcases accepted with none | short
        · simp [none, PinDialog.pinLength]
        · omega
      · left
        rw [PinDialog.press, if_neg accepted]
  | backspace =>
      by_cases typed : 0 < dialog.mPinValue.length
      · right
        rw [PinDialog.press, if_pos typed]
        apply redisplayed_setDisplay
        rw [List.length_dropLast]
        omega
      · left
        rw [PinDialog.press, if_neg typed]
  | clear =>
      right
      exact redisplayed_setDisplay dialog [] (Nat.zero_le _)

theorem Displayed.step (displayed : Displayed entry)
    (result : entry.step event = some next) : Displayed next := by
  cases event with
  | press key =>
      simp only [PinEntry.step, Option.some.injEq] at result
      subst next
      rcases press_cases entry.dialog key displayed.length with
        same | redisplayed
      · simp only [same, Nat.lt_irrefl, if_false]
        exact displayed
      · by_cases completed :
            (entry.dialog.press key).mPinValue.length = PinDialog.pinLength
        · have posts : (entry.dialog.press key).timers =
              entry.dialog.timers + 1 := by
            rw [redisplayed.timers, if_pos completed]
          constructor
          · exact redisplayed.length
          · exact redisplayed.display
          · simp only [posts, Nat.lt_add_one, if_true, List.mem_append,
              List.mem_singleton]
            intro value given
            rcases given with earlier | rfl
            · exact displayed.posted value earlier
            · exact completed
          · simp [posts, displayed.timers]
        · have quiet : (entry.dialog.press key).timers =
              entry.dialog.timers := by
            rw [redisplayed.timers, if_neg completed]
          constructor
          · exact redisplayed.length
          · exact redisplayed.display
          · simpa [quiet] using displayed.posted
          · simpa [quiet] using displayed.timers
  | fire =>
      cases posted : entry.posted with
      | nil => simp [PinEntry.step, posted] at result
      | cons completed rest =>
          simp only [PinEntry.step, posted, Option.some.injEq] at result
          subst next
          obtain ⟨length, display, lengths, timers⟩ := displayed
          rw [posted] at lengths timers
          constructor
          · exact length
          · exact display
          · intro value member
            exact lengths value (by simp [member])
          · simp [PinDialog.fire, timers]
  | dismiss =>
      simp only [PinEntry.step, Option.some.injEq] at result
      subst next
      obtain ⟨length, display, lengths, timers⟩ := displayed
      exact ⟨length, display, lengths, timers⟩

/-- Step lemma: exactly the callbacks that fire in time keep the calls right. -/
theorem confirmedOnce_step_iff (displayed : Displayed entry)
    (result : entry.step event = some next) :
    ConfirmedOnce next ↔ ConfirmedOnce entry ∧ FiresInTime entry event := by
  cases event with
  | press key =>
      simp only [PinEntry.step, Option.some.injEq] at result
      subst next
      simp [ConfirmedOnce, FiresInTime]
  | dismiss =>
      simp only [PinEntry.step, Option.some.injEq] at result
      subst next
      simp [ConfirmedOnce, FiresInTime]
  | fire =>
      cases posted : entry.posted with
      | nil => simp [PinEntry.step, posted] at result
      | cons completed rest =>
          simp only [PinEntry.step, posted, Option.some.injEq] at result
          subst next
          have whole : completed.length = PinDialog.pinLength :=
            displayed.posted completed (by simp [posted])
          constructor
          · intro given
            obtain ⟨once, right⟩ := given
            simp only [List.length_append, List.length_singleton] at once
            have none : entry.confirmations = [] := by
              apply List.eq_nil_of_length_eq_zero
              omega
            have last := right
              { pinValue := entry.dialog.mPinValue
                completed := completed
                showing := entry.dialog.showing } (by simp)
            refine ⟨?_, ?_⟩
            · simp [ConfirmedOnce, none]
            · intro _
              refine ⟨last.2.2, ?_, none⟩
              simpa [posted] using last.1.symm
          · intro given
            obtain ⟨_, inTime⟩ := given
            obtain ⟨showing, head, none⟩ := inTime rfl
            have same : completed = entry.dialog.mPinValue := by
              simpa [posted] using head
            simp only [ConfirmedOnce, none, List.nil_append,
              List.length_singleton, List.mem_singleton]
            refine ⟨Nat.le_refl _, ?_⟩
            rintro confirmation rfl
            exact ⟨same.symm, by rw [← same]; exact whole, showing⟩

theorem confirmedOnce_run_iff {events : List PinEvent}
    (displayed : Displayed entry)
    (run : Runs.exec step entry events = some next) :
    ConfirmedOnce next ↔
      ConfirmedOnce entry ∧ Runs.StepsMeet step FiresInTime entry events := by
  induction events generalizing entry with
  | nil =>
      simp only [Runs.exec_nil, Option.some.injEq] at run
      subst next
      simp [Runs.StepsMeet]
  | cons event events induction =>
      obtain ⟨middle, result, run⟩ := Runs.exec_cons_eq_some_iff.mp run
      rw [induction (displayed.step result) run,
        confirmedOnce_step_iff displayed result, and_assoc,
        Runs.stepsMeet_cons_iff]
      simp [result]

/-! ## An undisturbed entry -/

/-- Keys are pressed on a dialog that is there and has no callback pending or
fired, and the dialog is not dismissed while one is pending. -/
def Undisturbed (entry : PinEntry) : PinEvent → Prop
  | .press _ => entry.dialog.showing = true ∧ entry.posted = [] ∧
      entry.confirmations = []
  | .fire => True
  | .dismiss => entry.posted = []

/-- A pending callback is the only one, posted for what is typed. -/
def Calm (entry : PinEntry) : Prop :=
  entry.posted = [] ∨
    entry.posted = [entry.dialog.mPinValue] ∧
      entry.dialog.showing = true ∧ entry.confirmations = []

theorem Calm.firesInTime (calm : Calm entry)
    (result : entry.step event = some next) : FiresInTime entry event := by
  rintro rfl
  rcases calm with none | ⟨posted, showing, first⟩
  · simp [step, none] at result
  · exact ⟨showing, by simp [posted], first⟩

theorem Calm.step (calm : Calm entry) (displayed : Displayed entry)
    (undisturbed : entry.Undisturbed event)
    (result : entry.step event = some next) : Calm next := by
  cases event with
  | press key =>
      obtain ⟨showing, none, first⟩ := undisturbed
      simp only [PinEntry.step, Option.some.injEq] at result
      subst next
      rcases press_cases entry.dialog key displayed.length with
        same | redisplayed
      · left
        simp [same, none]
      · by_cases posts :
            entry.dialog.timers < (entry.dialog.press key).timers
        · right
          simp [posts, none, first, redisplayed.showing, showing]
        · left
          simp [posts, none]
  | fire =>
      rcases calm with none | ⟨posted, _, _⟩
      · simp [PinEntry.step, none] at result
      · simp only [PinEntry.step, posted, Option.some.injEq] at result
        subst next
        exact Or.inl rfl
  | dismiss =>
      simp only [PinEntry.step, Option.some.injEq] at result
      subst next
      exact Or.inl undisturbed

theorem firesInTime_of_undisturbed {events : List PinEvent}
    (displayed : Displayed entry) (calm : Calm entry)
    (undisturbed : Runs.StepsMeet step Undisturbed entry events)
    (run : Runs.exec step entry events = some next) :
    Runs.StepsMeet step FiresInTime entry events := by
  induction events generalizing entry with
  | nil => trivial
  | cons event events induction =>
      obtain ⟨middle, result, run⟩ := Runs.exec_cons_eq_some_iff.mp run
      refine ⟨calm.firesInTime result, ?_⟩
      intro other same
      have equal : middle = other := by simpa [result] using same
      subst other
      apply induction (displayed.step result)
      · exact calm.step displayed undisturbed.1 result
      · exact undisturbed.2 middle result
      · exact run

/-- In every run the entry stays within six characters and is displayed as
typed; the PIN is confirmed at most once and as completed exactly when every
callback fires in time, which they do when the entry is undisturbed. -/
theorem pin_confirmed_as_completed_iff (events : List PinEvent)
    (entry : PinEntry) (run : Runs.exec step start events = some entry) :
    entry.dialog.mPinValue.length ≤ 6 ∧
    entry.dialog.mPinDisplay = entry.dialog.mPinValue.length ∧
    (ConfirmedOnce entry ↔ Runs.StepsMeet step FiresInTime start events) ∧
    (Runs.StepsMeet step Undisturbed start events → ConfirmedOnce entry) := by
  have displayed : Displayed entry :=
    Runs.invariant_of_exec
      (fun _ _ _ holds result => Displayed.step holds result)
      displayed_start run
  have once : ConfirmedOnce start := by
    simp [ConfirmedOnce, start]
  have exact := confirmedOnce_run_iff displayed_start run
  simp only [once, true_and] at exact
  refine ⟨displayed.length, displayed.display, exact, ?_⟩
  intro undisturbed
  apply exact.mpr
  exact firesInTime_of_undisturbed displayed_start (Or.inl rfl) undisturbed
    run

/-- Six keys. -/
def sixKeys : List PinEvent :=
  ['1', '2', '3', '4', '5', '6'].map (fun val => .press (.digit val))

theorem pin_confirmed_undisturbed :
    ConfirmedOnce
      { dialog :=
          { mPinValue := ['1', '2', '3', '4', '5', '6'], mPinDisplay := 6 }
        confirmations :=
          [{ pinValue := ['1', '2', '3', '4', '5', '6']
             completed := ['1', '2', '3', '4', '5', '6']
             showing := true }] } :=
  (pin_confirmed_as_completed_iff (sixKeys ++ [.fire]) _ rfl).2.2.1.mpr
    (by decide)

/-- The last character is taken back before the callback fires. -/
theorem pin_confirmed_edited :
    ¬ ∀ (events : List PinEvent) (entry : PinEntry),
      Runs.exec step start events = some entry → ConfirmedOnce entry := by
  intro claim
  have once := claim (sixKeys ++ [.press .backspace, .fire]) _ rfl
  have right := once.2 _ (List.mem_singleton.mpr rfl)
  cases right.1

end PinEntry

end EclairWallet
