import EclairWallet.Library.JavaNumber
import EclairWallet.Library.JavaLong
import EclairWallet.Library.Runs

/-!
# The fee label of the send screen

The fee rate can be typed, or picked with a button that goes around the three
estimates.  Beside the field the screen shows which rating the rate has.  The
listener of the field corrects the label when the typed number is none of the
estimates, and leaves it alone when the number is the estimate of another
rating.
-/

namespace EclairWallet

open JavaNumber (CharacterDigit parseLong valueOf)

/-- `Globals.feeratesPerKB()`, by the number of blocks to wait. -/
structure FeeratesPerKB where
  blocks72 : Int
  blocks12 : Int
  blocks2 : Int

namespace App

def estimateSlowFees (feerates : FeeratesPerKB) : Int :=
  max (feerates.blocks72.tdiv 1000) 1

def estimateMediumFees (feerates : FeeratesPerKB) : Int :=
  max (feerates.blocks12.tdiv 1000) (estimateSlowFees feerates)

def estimateFastFees (feerates : FeeratesPerKB) : Int :=
  max (feerates.blocks2.tdiv 1000) (estimateMediumFees feerates)

variable (feerates : FeeratesPerKB)

theorem one_le_estimateSlowFees : 1 ≤ estimateSlowFees feerates :=
  Int.le_max_right _ _

theorem estimateSlowFees_le_medium :
    estimateSlowFees feerates ≤ estimateMediumFees feerates :=
  Int.le_max_right _ _

theorem estimateMediumFees_le_fast :
    estimateMediumFees feerates ≤ estimateFastFees feerates :=
  Int.le_max_right _ _

end App

inductive FeeRating where
  | slow
  | medium
  | fast
  | custom
  deriving DecidableEq

inductive FeesWarning where
  | verylow
  | veryhigh
  deriving DecidableEq

/-- The part of the send screen that is about the fee: the rating the activity
holds and the one its layout was last given, the text of the field, and the
warning, if one is visible. -/
structure FeeForm where
  feeRatingState : FeeRating
  bindingRatingState : FeeRating
  feesValue : List Char
  feesWarning : Option FeesWarning
  deriving DecidableEq

inductive FeeEvent where
  | setupOnchainPaymentForm
  | pickFees
  /-- The characters from `start` to `stop` are replaced. -/
  | edit (start stop : Nat) (inserted : List Char)

namespace FeeForm

/-- The longest text the field holds. -/
def maxLength : Nat := 6

/-- What `onCreate` leaves. -/
def onCreate : FeeForm where
  feeRatingState := .fast
  bindingRatingState := .fast
  feesValue := []
  feesWarning := none

variable (digits : CharacterDigit) (feerates : FeeratesPerKB)

open App

/-- `mBinding.setFeeRatingState(feeRatingState)`. -/
def setFeeRatingState (form : FeeForm) : FeeForm :=
  { form with bindingRatingState := form.feeRatingState }

/-- The rating after the listener has read a number. -/
def rateFees (feesSatPerByte : Int) (form : FeeForm) : FeeForm :=
  if feesSatPerByte ≠ estimateSlowFees feerates ∧
      feesSatPerByte ≠ estimateMediumFees feerates ∧
      feesSatPerByte ≠ estimateFastFees feerates then
    setFeeRatingState { form with feeRatingState := .custom }
  else
    form

def warnFees (feesSatPerByte : Int) : Option FeesWarning :=
  if feesSatPerByte ≤ (estimateSlowFees feerates).tdiv 2 then
    some .verylow
  else if JavaLong.toLong (estimateFastFees feerates * 2) ≤
      feesSatPerByte then
    some .veryhigh
  else
    none

/-- The listener of the field. -/
def onTextChanged (form : FeeForm) : FeeForm :=
  match parseLong digits form.feesValue with
  | none => form
  | some feesSatPerByte =>
      { rateFees feerates feesSatPerByte form with
        feesWarning := warnFees feerates feesSatPerByte }

/-- The field keeps what fits and notifies its listener. -/
def setText (text : List Char) (form : FeeForm) : FeeForm :=
  onTextChanged digits feerates
    { form with feesValue := text.take maxLength }

def setFeesToDefault (form : FeeForm) : FeeForm :=
  setFeeRatingState
    (setText digits feerates (valueOf (estimateFastFees feerates))
      { form with feeRatingState := .fast })

def pickFees (form : FeeForm) : FeeForm :=
  match form.feeRatingState with
  | .slow =>
      setFeeRatingState
        (setText digits feerates (valueOf (estimateMediumFees feerates))
          { form with feeRatingState := .medium })
  | .medium =>
      setFeeRatingState
        (setText digits feerates (valueOf (estimateFastFees feerates))
          { form with feeRatingState := .fast })
  | .fast =>
      setFeeRatingState
        (setText digits feerates (valueOf (estimateSlowFees feerates))
          { form with feeRatingState := .slow })
  | .custom => setFeesToDefault digits feerates form

/-- The text of the field after a replacement. -/
def edited (form : FeeForm) (start stop : Nat) (inserted : List Char) :
    List Char :=
  form.feesValue.take start ++ inserted ++ form.feesValue.drop stop

/-- The field's filters let through digits only, and no more than fit. -/
def CanEdit (form : FeeForm) (start stop : Nat) (inserted : List Char) :
    Prop :=
  start ≤ stop ∧ stop ≤ form.feesValue.length ∧
    (start < stop ∨ inserted ≠ []) ∧
    inserted.all Char.isDigit = true ∧
    (form.edited start stop inserted).length ≤ maxLength

instance (form : FeeForm) (start stop : Nat) (inserted : List Char) :
    Decidable (form.CanEdit start stop inserted) :=
  inferInstanceAs (Decidable (_ ∧ _))

def step (form : FeeForm) : FeeEvent → Option FeeForm
  | .setupOnchainPaymentForm => some (setFeesToDefault digits feerates form)
  | .pickFees => some (pickFees digits feerates form)
  | .edit start stop inserted =>
      if form.CanEdit start stop inserted then
        some (onTextChanged digits feerates
          { form with feesValue := form.edited start stop inserted })
      else
        none

/-! ## What a step shows -/

/-- The number is one of the three estimates. -/
def IsEstimate (fee : Int) : Prop :=
  fee = estimateSlowFees feerates ∨ fee = estimateMediumFees feerates ∨
    fee = estimateFastFees feerates

instance (fee : Int) : Decidable (IsEstimate feerates fee) :=
  inferInstanceAs (Decidable (_ ∨ _))

/-- The estimate that a rating stands for. -/
def estimate : FeeRating → Option Int
  | .slow => some (estimateSlowFees feerates)
  | .medium => some (estimateMediumFees feerates)
  | .fast => some (estimateFastFees feerates)
  | .custom => none

/-- The label tells the truth about the number in the field. -/
def Truthful (form : FeeForm) : Prop :=
  ∀ fee, parseLong digits form.feesValue = some fee →
    (∀ rated, estimate feerates form.bindingRatingState = some rated →
      fee = rated) ∧
    (¬ IsEstimate feerates fee → form.bindingRatingState = .custom)

/-- If the text reads as one of the estimates, that is the estimate of the
rating. -/
def Rated (rating : FeeRating) (text : List Char) : Prop :=
  ∀ fee, parseLong digits text = some fee → IsEstimate feerates fee →
    ∀ rated, estimate feerates rating = some rated → fee = rated

/-- The rating the button goes to. -/
def picked : FeeRating → FeeRating
  | .slow => .medium
  | .medium => .fast
  | .fast => .slow
  | .custom => .fast

/-- The text the field shows for the estimate of a rating. -/
def estimateText (rating : FeeRating) : List Char :=
  match estimate feerates rating with
  | some rated => (valueOf rated).take maxLength
  | none => []

/-- The step puts no other rating's estimate into the field. -/
def Harmless (form : FeeForm) : FeeEvent → Prop
  | .setupOnchainPaymentForm =>
      Rated digits feerates .fast (estimateText feerates .fast)
  | .pickFees =>
      Rated digits feerates (picked form.feeRatingState)
        (estimateText feerates (picked form.feeRatingState))
  | .edit start stop inserted =>
      form.CanEdit start stop inserted →
        Rated digits feerates form.bindingRatingState
          (form.edited start stop inserted)

variable {digits feerates}

/-! ## The listener -/

/-- The rating that the listener leaves when it finds `rating` and reads
`text`. -/
def listened (digits : CharacterDigit) (feerates : FeeratesPerKB)
    (rating : FeeRating) (text : List Char) : FeeRating :=
  match parseLong digits text with
  | none => rating
  | some fee => if IsEstimate feerates fee then rating else .custom

theorem rateFees_of_isEstimate {fee : Int} {form : FeeForm}
    (isEstimate : IsEstimate feerates fee) :
    rateFees feerates fee form = form := by
  rw [rateFees, if_neg]
  intro given
  obtain ⟨notSlow, notMedium, notFast⟩ := given
  rcases isEstimate with slow | medium | fast
  · exact notSlow slow
  · exact notMedium medium
  · exact notFast fast

theorem rateFees_of_not_isEstimate {fee : Int} {form : FeeForm}
    (other : ¬ IsEstimate feerates fee) :
    rateFees feerates fee form = { form with
      feeRatingState := .custom
      bindingRatingState := .custom } := by
  simp only [IsEstimate, not_or] at other
  rw [rateFees, if_pos other]
  rfl

theorem onTextChanged_cases (digits : CharacterDigit)
    (feerates : FeeratesPerKB) (form : FeeForm) :
    (onTextChanged digits feerates form).feesValue = form.feesValue ∧
      (onTextChanged digits feerates form).bindingRatingState =
        listened digits feerates form.bindingRatingState form.feesValue ∧
      (onTextChanged digits feerates form).feeRatingState =
        listened digits feerates form.feeRatingState form.feesValue := by
  unfold onTextChanged listened
  cases parseLong digits form.feesValue with
  | none => exact ⟨rfl, rfl, rfl⟩
  | some fee =>
      by_cases isEstimate : IsEstimate feerates fee
      · simp [rateFees_of_isEstimate isEstimate, isEstimate]
      · simp [rateFees_of_not_isEstimate isEstimate, isEstimate]

theorem truthful_iff_rated {form : FeeForm} {rating : FeeRating}
    (left : form.bindingRatingState =
      listened digits feerates rating form.feesValue) :
    Truthful digits feerates form ↔
      Rated digits feerates rating form.feesValue := by
  constructor
  · intro truthful fee number isEstimate rated same
    have kept : form.bindingRatingState = rating := by
      simp [left, listened, number, isEstimate]
    apply (truthful fee number).1
    rw [kept, same]
  · intro agrees fee number
    by_cases isEstimate : IsEstimate feerates fee
    · have kept : form.bindingRatingState = rating := by
        simp [left, listened, number, isEstimate]
      refine ⟨?_, fun other => absurd isEstimate other⟩
      intro rated same
      rw [kept] at same
      exact agrees fee number isEstimate rated same
    · have custom : form.bindingRatingState = .custom := by
        simp [left, listened, number, isEstimate]
      refine ⟨?_, fun _ => custom⟩
      intro rated same
      simp [custom, estimate] at same

/-- The rating button and the default write an estimate and then show the
rating that the listener has left. -/
theorem truthful_pick_iff {form : FeeForm} {rating : FeeRating} {rated : Int}
    (same : estimate feerates rating = some rated) :
    Truthful digits feerates (setFeeRatingState
        (setText digits feerates (valueOf rated)
          { form with feeRatingState := rating })) ↔
      Rated digits feerates rating (estimateText feerates rating) := by
  obtain ⟨text, _, held⟩ := onTextChanged_cases digits feerates { form with
      feeRatingState := rating, feesValue := (valueOf rated).take maxLength }
  have written : estimateText feerates rating =
      (valueOf rated).take maxLength := by
    rw [estimateText, same]
  rw [written]
  have left : listened digits feerates rating
        ((valueOf rated).take maxLength) =
      (setFeeRatingState (setText digits feerates (valueOf rated)
        { form with feeRatingState := rating })).bindingRatingState :=
    held.symm
  have shown : (setFeeRatingState (setText digits feerates (valueOf rated)
        { form with feeRatingState := rating })).feesValue =
      (valueOf rated).take maxLength := text
  rw [← shown] at left ⊢
  exact truthful_iff_rated left.symm

theorem truthful_edited_iff {form : FeeForm} {text : List Char} :
    Truthful digits feerates
        (onTextChanged digits feerates { form with feesValue := text }) ↔
      Rated digits feerates form.bindingRatingState text := by
  obtain ⟨same, shown, _⟩ :=
    onTextChanged_cases digits feerates { form with feesValue := text }
  have left : (onTextChanged digits feerates
        { form with feesValue := text }).bindingRatingState =
      listened digits feerates form.bindingRatingState
        (onTextChanged digits feerates
          { form with feesValue := text }).feesValue := by
    rw [shown, same]
  rw [truthful_iff_rated left, same]

theorem pickFees_eq (digits : CharacterDigit) (feerates : FeeratesPerKB)
    (form : FeeForm) :
    ∃ rated, estimate feerates (picked form.feeRatingState) = some rated ∧
      pickFees digits feerates form =
        setFeeRatingState (setText digits feerates (valueOf rated)
          { form with feeRatingState := picked form.feeRatingState }) := by
  unfold pickFees
  cases form.feeRatingState with
  | slow => exact ⟨_, rfl, rfl⟩
  | medium => exact ⟨_, rfl, rfl⟩
  | fast => exact ⟨_, rfl, rfl⟩
  | custom => exact ⟨_, rfl, rfl⟩

theorem harmless_iff_truthful {form next : FeeForm} {event : FeeEvent}
    (result : step digits feerates form event = some next) :
    Harmless digits feerates form event ↔ Truthful digits feerates next := by
  cases event with
  | setupOnchainPaymentForm =>
      simp only [step, Option.some.injEq] at result
      subst next
      exact (truthful_pick_iff rfl).symm
  | pickFees =>
      simp only [step, Option.some.injEq] at result
      subst next
      obtain ⟨rated, same, picks⟩ := pickFees_eq digits feerates form
      rw [picks]
      exact (truthful_pick_iff same).symm
  | edit start stop inserted =>
      simp only [step, Option.ite_none_right_eq_some,
        Option.some.injEq] at result
      obtain ⟨canEdit, rfl⟩ := result
      rw [truthful_edited_iff]
      constructor
      · intro harmless
        exact harmless canEdit
      · intro agrees _
        exact agrees

theorem harmless_of_step_eq_none {form : FeeForm} {event : FeeEvent}
    (result : step digits feerates form event = none) :
    Harmless digits feerates form event := by
  cases event with
  | setupOnchainPaymentForm => cases result
  | pickFees => cases result
  | edit start stop inserted =>
      intro canEdit
      simp [step, canEdit] at result

/-! ## Estimates that fit into the field -/

/-- An estimate of at most six digits is shown as it is, so that picking it is
harmless. -/
theorem rated_estimateText {rating : FeeRating}
    (short : estimateFastFees feerates < 10 ^ maxLength) :
    Rated digits feerates rating (estimateText feerates rating) := by
  intro fee number _ rated same
  have slow := one_le_estimateSlowFees feerates
  have medium := estimateSlowFees_le_medium feerates
  have fast := estimateMediumFees_le_fast feerates
  have range : 1 ≤ rated ∧ rated ≤ estimateFastFees feerates := by
    cases rating with
    | slow => cases same; omega
    | medium => cases same; omega
    | fast => cases same; omega
    | custom => cases same
  have size : (valueOf rated).length ≤ maxLength :=
    JavaNumber.length_valueOf_le (by omega) (by decide) (by omega)
  have bound : rated ≤ 2 ^ 63 - 1 := by
    simp only [maxLength] at short
    omega
  have read : parseLong digits (valueOf rated) = some rated :=
    JavaNumber.parse_valueOf (by omega) bound
  rw [estimateText, same] at number
  simp only [List.take_of_length_le size] at number
  rw [read] at number
  exact (Option.some.inj number).symm

theorem harmless_pickFees {form : FeeForm}
    (short : estimateFastFees feerates < 10 ^ maxLength) :
    Harmless digits feerates form .pickFees ∧
      Harmless digits feerates form .setupOnchainPaymentForm :=
  ⟨rated_estimateText short, rated_estimateText short⟩

theorem truthful_onCreate : Truthful digits feerates onCreate := by
  intro fee number
  simp [onCreate, parseLong, JavaNumber.parse, JavaNumber.readSome] at number

/-- The label is truthful throughout a run exactly when no step puts another
rating's estimate into the field. -/
theorem label_truthful_iff (digits : CharacterDigit)
    (feerates : FeeratesPerKB) (events : List FeeEvent) :
    Runs.Always (step digits feerates) (Truthful digits feerates) onCreate
        events ↔
      Runs.StepsMeet (step digits feerates) (Harmless digits feerates)
        onCreate events := by
  apply Runs.always_iff_stepsMeet _ _ truthful_onCreate
  · intro form event next _ result
    exact harmless_iff_truthful result
  · intro form event result
    exact harmless_of_step_eq_none result

/-- With the estimates 10, 20 and 30, the number 10 is typed under the label
of the fast rating. -/
theorem label_keeps_fast :
    ¬ ∀ (digits : CharacterDigit) (feerates : FeeratesPerKB)
        (events : List FeeEvent),
      Runs.Always (step digits feerates) (Truthful digits feerates) onCreate
        events := by
  intro claim
  have always := claim JavaNumber.asciiDigit ⟨10000, 20000, 30000⟩
    [.setupOnchainPaymentForm, .edit 0 1 ['1']]
  have run : Runs.exec (step JavaNumber.asciiDigit ⟨10000, 20000, 30000⟩)
      onCreate [.setupOnchainPaymentForm, .edit 0 1 ['1']] =
        some ⟨.fast, .fast, ['1', '0'], none⟩ := by
    decide
  have truthful := always [.setupOnchainPaymentForm, .edit 0 1 ['1']] []
    _ rfl run
  have impossible : (10 : Int) = 30 :=
    (truthful 10 (by decide)).1 30 (by decide)
  omega

end FeeForm

end EclairWallet
