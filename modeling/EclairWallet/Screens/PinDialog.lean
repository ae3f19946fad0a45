import Mathlib.Data.List.Basic

/-!
# The PIN dialog

The dialog confirms by itself: whenever the display reaches six characters it
posts a delayed callback.  Nothing removes a posted callback, neither another
key nor the dismissal of the dialog, and the callback reads the typed value
when it fires.
-/

namespace EclairWallet

/-- `timers` counts the posted callbacks that have not fired. -/
structure PinDialog where
  mPinValue : List Char := []
  mPinDisplay : Nat := 0
  showing : Bool := true
  timers : Nat := 0
  deriving DecidableEq, Repr

inductive PinKey where
  | digit (val : Char)
  | backspace
  | clear
  deriving DecidableEq, Repr

namespace PinDialog

/-- `Constants.PIN_LENGTH`. -/
def pinLength : Nat := 6

/-- `mPinDisplay.setText` with so many placeholders, and its text watcher. -/
def setDisplay (dialog : PinDialog) (length : Nat) : PinDialog :=
  { dialog with
    mPinDisplay := length
    timers := if length = pinLength then dialog.timers + 1 else dialog.timers }

def press (dialog : PinDialog) : PinKey → PinDialog
  | .digit val =>
      if dialog.mPinValue = [] ∨ dialog.mPinValue.length ≠ pinLength then
        let mPinValue := dialog.mPinValue ++ [val]
        { dialog with mPinValue := mPinValue }.setDisplay mPinValue.length
      else dialog
  | .backspace =>
      if 0 < dialog.mPinValue.length then
        let mPinValue := dialog.mPinValue.dropLast
        { dialog with mPinValue := mPinValue }.setDisplay mPinValue.length
      else dialog
  | .clear => { dialog with mPinValue := [] }.setDisplay 0

def dismiss (dialog : PinDialog) : PinDialog :=
  { dialog with showing := false }

/-- One posted callback is taken off the queue. -/
def fire (dialog : PinDialog) : PinDialog :=
  { dialog with timers := dialog.timers - 1 }

/-- Neither a key nor a callback can come from the dialog any more. -/
def Exhausted (dialog : PinDialog) : Prop :=
  dialog.showing = false ∧ dialog.timers = 0

instance (dialog : PinDialog) : Decidable dialog.Exhausted :=
  inferInstanceAs (Decidable (_ ∧ _))

theorem Exhausted.dismiss {dialog : PinDialog} (exhausted : dialog.Exhausted) :
    dialog.dismiss.Exhausted :=
  ⟨rfl, exhausted.2⟩

end PinDialog

end EclairWallet
