import EclairWallet.Schedule.RowsApart
import EclairWallet.Schedule.SummaryPurchase

/-!
# When the summary of a regular payment throws

The defaults of a scan are not what the summary can show: an empty amount is
no number, month zero has no name, and an empty day leaves the word behind it
to be read as one.
-/

namespace EclairWallet

open AndroidJson JavaNumber
open JavaText (firstWord)

namespace SummaryPurchaseFragment

variable (platform : Platform)

/-- A month that has a name. -/
def IsMonth (m : Int) : Prop :=
  1 ≤ m ∧ m ≤ 12

instance (m : Int) : Decidable (IsMonth m) :=
  inferInstanceAs (Decidable (_ ∧ _))

/-- The first word of the day, padded, is a number. -/
def DayReads (day : String) : Prop :=
  firstWord day ≠ [] ∧
    (JavaNumber.parseInt platform.digits (padDay (firstWord day))).isSome = true

/-- What a forwarded payment needs to be summarised. -/
structure Summarisable (payment : RegularPayment) : Prop where
  amount : ∃ value,
    platform.coercions.parseDouble payment.amount = some (.finite value)
  cost : payment.immediateCost.IsFinite
  month : payment.scheduleType ≠ "1" → payment.frequency ≠ "1" →
    IsMonth payment.paymentMonth
  day : payment.scheduleType ≠ "1" → payment.frequency ≠ "2" →
    DayReads platform payment.paymentDate

variable {platform}

/-! ## Months and days -/

theorem isMonth_getMonth (today : Calendar) (day : Int) :
    IsMonth (getMonth today day) := by
  have bound := today.month.isLt
  unfold getMonth IsMonth
  split
  · dsimp only
    split
    · omega
    · omega
  · dsimp only
    split
    · omega
    · omega

theorem elementAt_eq_ok_iff {array : List String} {index : Int}
    {element : String} :
    elementAt array index = .ok element ↔
      0 ≤ index ∧ array[index.toNat]? = some element := by
  unfold elementAt
  split
  · simp only [reduceCtorEq, false_iff, not_and]
    omega
  · rename_i nonneg
    cases array[index.toNat]? with
    | none => simp
    | some found =>
        simp only [Except.ok.injEq, Option.some.injEq, iff_and_self]
        omega

theorem exists_getMonthInString_iff {m : Int} :
    (∃ month, getMonthInString m = .ok month) ↔ IsMonth m := by
  simp only [getMonthInString, elementAt_eq_ok_iff, exists_and_left,
    ← Option.isSome_iff_exists, isSome_getElem?]
  simp only [monthName, List.length_cons, List.length_nil, IsMonth]
  omega

/-- The text is a day followed by the word of. -/
def Joined (day dayy : String) : Prop :=
  ∃ tail : String,
    dayy = day ++ String.ofList (' ' :: ['o', 'f'] ++ ' ' :: tail.toList)

theorem Joined.split {day dayy : String} (joined : Joined day dayy) :
    ∃ rest, JavaText.splitString ' ' (JavaText.trim dayy) =
      String.ofList (if firstWord day = [] then ['o', 'f']
        else firstWord day) :: rest := by
  obtain ⟨tail, rfl⟩ := joined
  apply JavaText.exists_splitString_joined
  rw [List.forall_mem_cons, List.forall_mem_singleton]
  exact ⟨by decide, by decide⟩

theorem parseInt_of : JavaNumber.parseInt platform.digits ['o', 'f'] =
    none := by
  have noDigit : platform.digits.digit 'o' = none :=
    platform.digits.digit_of_isAlpha 'o' (by decide)
  simp [JavaNumber.parseInt, parse, readSome, readDigits, noDigit]

theorem padDay_of : padDay ['o', 'f'] = ['o', 'f'] := by decide

theorem valueOf_natCast (value : Nat) :
    valueOf (value : Int) = Nat.toDigits 10 value := by
  rw [valueOf, if_neg (by omega), Int.natAbs_natCast]

theorem firstWord_valueOf (value : Nat) :
    firstWord (String.ofList (valueOf value)) = Nat.toDigits 10 value := by
  rw [valueOf_natCast]
  apply JavaText.firstWord_of_stay
  intro char member
  exact JavaText.isTrimmed_of_isDigit (isDigit_of_mem_toDigits member)

theorem parseInt_padDay {value : Nat} (bound : value < 2 ^ 31) :
    JavaNumber.parseInt platform.digits (padDay (Nat.toDigits 10 value)) =
      some (value : Int) := by
  have isDigit : ∀ char ∈ Nat.toDigits 10 value, char.isDigit = true :=
    fun _ => isDigit_of_mem_toDigits
  have fits : (value : Int) ≤ 2 ^ 31 - 1 := by omega
  rw [padDay, JavaNumber.parseInt]
  split
  · have denotes : Nat.ofDigitChars 10 ('0' :: Nat.toDigits 10 value) 0 =
        value := by
      rw [Nat.ofDigitChars_cons]
      exact Nat.ofDigitChars_ten_toDigits
    rw [parse_of_digits (List.cons_ne_nil _ _)
      (List.forall_mem_cons.mpr ⟨rfl, isDigit⟩) (by rw [denotes]; exact fits),
      denotes]
  · have denotes : Nat.ofDigitChars 10 (Nat.toDigits 10 value) 0 = value :=
      Nat.ofDigitChars_ten_toDigits
    rw [parse_of_digits Nat.toDigits_ne_nil isDigit
      (by rw [denotes]; exact fits), denotes]

theorem dayReads_valueOf {value : Nat} (bound : value < 2 ^ 31) :
    DayReads platform (String.ofList (valueOf value)) := by
  constructor
  · rw [firstWord_valueOf]
    exact Nat.toDigits_ne_nil
  · rw [firstWord_valueOf, parseInt_padDay bound]
    rfl

theorem dayReads_of_mem_days {day : String} (member : day ∈ days) :
    DayReads platform day := by
  obtain ⟨index, inRange, rfl⟩ := List.mem_map.mp member
  have bound : index < 28 := List.mem_range.mp inRange
  exact dayReads_valueOf (by omega)

theorem exists_parseInt_of_mem_days (platform : Platform) {day : String}
    (member : day ∈ days) :
    ∃ value, parseInt platform day.toList = .ok value := by
  obtain ⟨index, inRange, rfl⟩ := List.mem_map.mp member
  have bound : index < 28 := List.mem_range.mp inRange
  have read : JavaNumber.parseInt platform.digits
      (valueOf (index + 1 : Nat)) = some ((index + 1 : Nat) : Int) :=
    parse_valueOf (by omega) (by omega)
  exact ⟨_, by rw [parseInt, String.toList_ofList, read]⟩

theorem dayReads_one : DayReads platform "1" :=
  @dayReads_valueOf platform 1 (by decide)

/-! ## What is shown -/

/-- What the fragment shows can be confirmed: the day is a number unless the
schedule is annual, which has a month. -/
structure Confirmable (platform : Platform) (payment : RegularPayment)
    (dayy : String) (mm : Int) : Prop where
  day : ∃ day, Joined day dayy ∧
    (payment.frequency = "2" ∨ DayReads platform day)
  month : payment.frequency = "2" → IsMonth mm

theorem joined_of_toList {day dayy : String} (tail : List Char)
    (chars : dayy.toList = day.toList ++ ' ' :: 'o' :: 'f' :: ' ' :: tail) :
    Joined day dayy := by
  refine ⟨String.ofList tail, String.toList_inj.mp ?_⟩
  rw [chars]
  simp

theorem Confirmable.of_monthly {payment : RegularPayment} {day dayy : String}
    (monthly : payment.frequency = "1") (joined : Joined day dayy)
    (reads : DayReads platform day) (mm : Int) :
    Confirmable platform payment dayy mm := by
  refine ⟨⟨day, joined, .inr reads⟩, ?_⟩
  intro annual
  rw [monthly] at annual
  exact absurd annual (by decide)

theorem exists_staticInitially (today : Calendar) (payment : RegularPayment)
    (amtBtc : String) :
    ∃ shown, staticInitially today payment amtBtc = .ok shown ∧
      Confirmable platform payment shown.dayy shown.mm := by
  unfold staticInitially
  split
  · rename_i monthly
    refine ⟨_, rfl, Confirmable.of_monthly monthly ?_ dayReads_one 0⟩
    exact joined_of_toList "every month".toList (by simp)
  · have isMonth := isMonth_getMonth today 1
    obtain ⟨month, named⟩ := exists_getMonthInString_iff.mpr isMonth
    simp only [named]
    refine ⟨_, rfl, ⟨"1", ?_, .inr dayReads_one⟩, fun _ => isMonth⟩
    exact joined_of_toList ("the ".toList ++ month.toList) (by simp)

theorem exists_staticPicked (today : Calendar) (payment : RegularPayment)
    (amtBtc : String) {newval : Nat} (inRange : newval < days.length) :
    ∃ shown, staticPicked platform today payment amtBtc newval = .ok shown ∧
      Confirmable platform payment shown.dayy shown.mm := by
  have picked : elementAt days newval = .ok days[newval] := by
    apply elementAt_eq_ok_iff.mpr
    simp [inRange]
  have reads : DayReads platform days[newval] :=
    dayReads_of_mem_days (List.getElem_mem inRange)
  unfold staticPicked
  split
  · rename_i monthly
    simp only [picked]
    refine ⟨_, rfl, Confirmable.of_monthly monthly ?_ reads 0⟩
    exact joined_of_toList "every month".toList (by simp)
  · obtain ⟨mmm, read⟩ :=
      exists_parseInt_of_mem_days platform (List.getElem_mem inRange)
    have isMonth := isMonth_getMonth today mmm
    obtain ⟨month, named⟩ := exists_getMonthInString_iff.mpr isMonth
    simp only [picked, bind, Except.bind, read, named]
    refine ⟨_, rfl, ⟨days[newval], ?_, .inr reads⟩, fun _ => isMonth⟩
    exact joined_of_toList ("the ".toList ++ month.toList) (by simp)

theorem exists_dynamicShown_iff {payment : RegularPayment}
    {amtBtc immediateCost costly : String} {inWords : String → String} :
    (∃ shown, dynamicShown platform payment amtBtc immediateCost costly
        inWords = .ok shown) ↔
      (payment.frequency ≠ "1" → IsMonth payment.paymentMonth) := by
  unfold dynamicShown
  split
  · rename_i monthly
    simp [monthly]
  · rename_i annual
    rw [← exists_getMonthInString_iff]
    cases getMonthInString payment.paymentMonth with
    | error thrown => simp [annual, bind, Except.bind]
    | ok month => simp [annual, bind, Except.bind, pure, Except.pure]

theorem dynamicShown_shows {payment : RegularPayment}
    {amtBtc immediateCost costly : String} {inWords : String → String}
    {shown : Shown}
    (result : dynamicShown platform payment amtBtc immediateCost costly
      inWords = .ok shown) :
    Joined payment.paymentDate shown.dayy ∧
      (payment.frequency = "2" → shown.mm = payment.paymentMonth) := by
  unfold dynamicShown at result
  split at result
  · rename_i monthly
    cases result
    refine ⟨joined_of_toList "the every month".toList (by simp), ?_⟩
    intro annual
    rw [monthly] at annual
    exact absurd annual (by decide)
  · cases named : getMonthInString payment.paymentMonth with
    | error thrown =>
        simp only [named, bind, Except.bind, reduceCtorEq] at result
    | ok month =>
        simp only [named, bind, Except.bind, pure, Except.pure,
          Except.ok.injEq] at result
        subst shown
        refine ⟨?_, fun _ => rfl⟩
        exact joined_of_toList ("the ".toList ++ (inWords month).toList)
          (by simp)

/-! ## The view -/

theorem exists_plainText_iff {value : JavaDouble} :
    (∃ text, plainText platform value = .ok text) ↔ value.IsFinite := by
  cases value with
  | finite value => exact ⟨fun _ => trivial, fun _ => ⟨_, rfl⟩⟩
  | infinite negative => simp [plainText, JavaDouble.IsFinite]
  | nan => simp [plainText, JavaDouble.IsFinite]

theorem exists_amount_iff {amount : String} :
    (∃ value text, parseDouble platform amount = .ok value ∧
        plainText platform value = .ok text) ↔
      ∃ value,
        platform.coercions.parseDouble amount = some (.finite value) := by
  unfold parseDouble
  cases platform.coercions.parseDouble amount with
  | none => simp
  | some value =>
      cases value with
      | finite value => simp [plainText]
      | infinite negative => simp [plainText]
      | nan => simp [plainText]

theorem bind_eq_ok_iff {First Second : Type}
    {first : Except JavaException First}
    {rest : First → Except JavaException Second} {result : Second} :
    (first >>= rest) = .ok result ↔
      ∃ value, first = .ok value ∧ rest value = .ok result := by
  cases first with
  | error thrown => simp [bind, Except.bind]
  | ok value => simp [bind, Except.bind]

theorem onCreateView_eq_ok_iff {today : Calendar} {payment : RegularPayment}
    {summary : Summary} :
    onCreateView platform today payment = .ok summary ↔
      ∃ amt amtBtc immediateCost shown,
        parseDouble platform payment.amount = .ok amt ∧
        plainText platform amt = .ok amtBtc ∧
        plainText platform payment.immediateCost = .ok immediateCost ∧
        initiallyShown platform today payment amtBtc immediateCost =
          .ok shown ∧
        summary = {
          payment, amtBtc, immediateCost, s := shown.s, dayy := shown.dayy
          mm := shown.mm, monthInt := 0, pending := [] } := by
  unfold onCreateView
  simp only [bind_eq_ok_iff, exists_and_left, pure, Except.pure,
    Except.ok.injEq]
  constructor
  · intro given
    obtain ⟨amt, parsed, amtBtc, written, immediateCost, cost, shown, shows,
      same⟩ := given
    exact ⟨amt, parsed, amtBtc, written, immediateCost, cost, shown, shows,
      same.symm⟩
  · intro given
    obtain ⟨amt, parsed, amtBtc, written, immediateCost, cost, shown, shows,
      same⟩ := given
    exact ⟨amt, parsed, amtBtc, written, immediateCost, cost, shown, shows,
      same.symm⟩

/-- The invariant of a fragment that was created. -/
structure Inv (platform : Platform) (payment : RegularPayment)
    (summary : Summary) : Prop where
  same : summary.payment = payment
  confirmable : Confirmable platform payment summary.dayy summary.mm
  answered : summary.pending ≠ [] → IsMonth summary.monthInt

theorem Summarisable.exists_dynamicShown {payment : RegularPayment}
    (summarisable : Summarisable platform payment)
    (dynamic : payment.scheduleType ≠ "1")
    (amtBtc immediateCost costly : String) (inWords : String → String) :
    ∃ shown, dynamicShown platform payment amtBtc immediateCost costly
        inWords = .ok shown ∧
      Confirmable platform payment shown.dayy shown.mm := by
  obtain ⟨shown, result⟩ := (@exists_dynamicShown_iff platform payment amtBtc
    immediateCost costly inWords).mpr (summarisable.month dynamic)
  obtain ⟨joined, mm⟩ := dynamicShown_shows result
  refine ⟨shown, result, ⟨payment.paymentDate, joined, ?_⟩, ?_⟩
  · by_cases annual : payment.frequency = "2"
    · exact .inl annual
    · exact .inr (summarisable.day dynamic annual)
  · intro annual
    rw [mm annual]
    apply summarisable.month dynamic
    rw [annual]
    decide

theorem Summarisable.exists_onCreateView {payment : RegularPayment}
    (summarisable : Summarisable platform payment) (today : Calendar) :
    ∃ summary, onCreateView platform today payment = .ok summary ∧
      Inv platform payment summary := by
  obtain ⟨amt, amtBtc, parsed, written⟩ :=
    exists_amount_iff.mpr summarisable.amount
  obtain ⟨immediateCost, cost⟩ :=
    (@exists_plainText_iff platform _).mpr summarisable.cost
  have shows : ∃ shown,
      initiallyShown platform today payment amtBtc immediateCost =
        .ok shown ∧ Confirmable platform payment shown.dayy shown.mm := by
    unfold initiallyShown
    split
    · exact exists_staticInitially today payment amtBtc
    · rename_i dynamic
      exact summarisable.exists_dynamicShown dynamic _ _ _ _
  obtain ⟨shown, result, confirmable⟩ := shows
  refine ⟨_, onCreateView_eq_ok_iff.mpr
    ⟨amt, amtBtc, immediateCost, shown, parsed, written, cost, result, rfl⟩,
    rfl, confirmable, ?_⟩
  intro pending
  exact absurd rfl pending

/-! ## The confirm action -/

/-- Confirming throws when the day is no number and has to be one. -/
theorem exists_confirm_iff {today : Calendar} {summary : Summary}
    {day : String} (joined : Joined day summary.dayy) :
    (∃ next, confirm platform today summary = .ok next) ↔
      (summary.payment.frequency = "2" ∨ DayReads platform day) := by
  obtain ⟨rest, pieces⟩ := joined.split
  unfold confirm
  rw [pieces]
  by_cases annual : summary.payment.frequency = "2"
  · simp [annual, bind, Except.bind, pure, Except.pure]
  · simp only [annual, false_or, DayReads]
    by_cases blank : firstWord day = []
    · simp [blank, padDay_of, parseInt, parseInt_of, bind, Except.bind,
        Except.map]
    · cases read : JavaNumber.parseInt platform.digits
          (padDay (firstWord day)) with
      | none =>
          simp [blank, parseInt, read, bind, Except.bind, Except.map]
      | some value =>
          simp [blank, parseInt, read, bind, Except.bind, Except.map, pure,
            Except.pure]

theorem confirm_changes {today : Calendar} {summary next : Summary}
    (result : confirm platform today summary = .ok next) :
    ∃ monthInt pending, next = { summary with monthInt, pending } ∧
      (summary.payment.frequency = "2" ∧ monthInt = summary.mm ∨
        IsMonth monthInt) := by
  unfold confirm at result
  split at result
  · cases result
  · rename_i first rest _
    by_cases annual : summary.payment.frequency = "2"
    · simp only [annual, if_true, bind, Except.bind, pure, Except.pure,
        Except.ok.injEq] at result
      exact ⟨_, _, result.symm, .inl ⟨annual, rfl⟩⟩
    · cases read : parseInt platform (padDay first.toList) with
      | error thrown =>
          simp only [annual, if_false, read, bind, Except.bind, Except.map,
            reduceCtorEq] at result
      | ok value =>
          simp only [annual, if_false, read, bind, Except.bind, Except.map,
            pure, Except.pure, Except.ok.injEq] at result
          exact ⟨_, _, result.symm, .inr (isMonth_getMonth today value)⟩

theorem Inv.exists_confirm {payment : RegularPayment} {summary : Summary}
    (inv : Inv platform payment summary) (today : Calendar) :
    ∃ next, confirm platform today summary = .ok next ∧
      Inv platform payment next := by
  obtain ⟨day, joined, reads⟩ := inv.confirmable.day
  rw [← inv.same] at reads
  obtain ⟨next, result⟩ :=
    (@exists_confirm_iff platform today summary day joined).mpr reads
  refine ⟨next, result, ?_⟩
  obtain ⟨monthInt, pending, rfl, month⟩ := confirm_changes result
  refine ⟨inv.same, inv.confirmable, fun _ => ?_⟩
  rcases month with ⟨annual, rfl⟩ | isMonth
  · rw [inv.same] at annual
    exact inv.confirmable.month annual
  · exact isMonth

/-! ## Whole runs -/

theorem Inv.exists_onValChange {payment : RegularPayment} {summary : Summary}
    (summarisable : Summarisable platform payment)
    (inv : Inv platform payment summary) (today : Calendar) {newval : Nat}
    (inRange : newval < days.length) :
    ∃ next, onValChange platform today newval summary = .ok next ∧
      Inv platform payment next := by
  obtain ⟨rfl, _, answered⟩ := inv
  have shows : ∃ shown,
      pickedShown platform today summary.payment summary.amtBtc
          summary.immediateCost newval = .ok shown ∧
        Confirmable platform summary.payment shown.dayy shown.mm := by
    unfold pickedShown
    split
    · exact exists_staticPicked today summary.payment summary.amtBtc inRange
    · rename_i dynamic
      exact summarisable.exists_dynamicShown dynamic _ _ _ _
  obtain ⟨shown, result, confirmable⟩ := shows
  exact ⟨_, bind_eq_ok_iff.mpr ⟨shown, result, rfl⟩, rfl, confirmable,
    answered⟩

/-- The month of an answered purchase has a name: what makes an answer throw
is that it can be read when the fragment has no activity. -/
theorem exists_onResponse_iff {summary : Summary}
    (isMonth : IsMonth summary.monthInt) (day : String)
    (jsonObject : JSONObject) :
    (∃ opened, onResponse platform summary day jsonObject = .ok opened) ↔
      (summary.attached = true ∨ readAnswer platform jsonObject = none) := by
  obtain ⟨month, named⟩ := exists_getMonthInString_iff.mpr isMonth
  unfold onResponse
  cases read : readAnswer platform jsonObject with
  | none => simp
  | some answer =>
      cases attached : summary.attached with
      | true =>
          simp only [withActivity, attached, named, if_true, true_or, iff_true]
          split
          · exact ⟨_, rfl⟩
          · split <;> exact ⟨_, rfl⟩
      | false =>
          simp only [withActivity, attached, named, Bool.false_eq_true,
            if_false, reduceCtorEq, or_false, iff_false]
          rintro ⟨opened, result⟩
          split at result
          · cases result
          · split at result <;> cases result

theorem handle_response {summary next : Summary} {jsonObject : JSONObject}
    (result : handle platform summary (.response jsonObject) = .ok next) :
    next = { summary with pending := summary.pending.tail } := by
  cases waiting : summary.pending with
  | nil =>
      simp only [handle, waiting, Except.ok.injEq] at result
      rw [← result, List.tail_nil, ← waiting]
  | cons day pending =>
      simp only [handle, waiting] at result
      obtain ⟨_, _, same⟩ := bind_eq_ok_iff.mp result
      rw [← Except.ok.inj same, List.tail_cons]

theorem handle_of_step {summary next : Summary} {event : Event}
    (result : step platform summary event = some next) :
    handle platform summary event = .ok next := by
  unfold step at result
  split at result
  · cases handled : handle platform summary event with
    | error thrown => simp [handled, Except.toOption] at result
    | ok reached =>
        rw [handled] at result
        rw [Option.some.inj result]
  · cases result

theorem Inv.exists_handle {payment : RegularPayment} {summary : Summary}
    (summarisable : Summarisable platform payment)
    (inv : Inv platform payment summary) {event : Event}
    (canHappen : CanHappen summary event)
    (attached : summary.attached = true) :
    ∃ next, handle platform summary event = .ok next := by
  cases event with
  | valChange today newval =>
      obtain ⟨next, handled, _⟩ :=
        inv.exists_onValChange summarisable today canHappen.2
      exact ⟨next, handled⟩
  | confirm today =>
      obtain ⟨next, handled, _⟩ := inv.exists_confirm today
      exact ⟨next, handled⟩
  | response jsonObject =>
      cases waiting : summary.pending with
      | nil => exact absurd waiting canHappen
      | cons day pending =>
          have isMonth : IsMonth summary.monthInt := by
            apply inv.answered
            simp [waiting]
          obtain ⟨opened, answered⟩ := (@exists_onResponse_iff platform _
            isMonth day jsonObject).mpr (.inl attached)
          refine ⟨{ summary with pending := pending }, ?_⟩
          simp only [handle, waiting]
          exact bind_eq_ok_iff.mpr ⟨opened, answered, rfl⟩
  | detach => exact ⟨_, rfl⟩

theorem Inv.step {payment : RegularPayment} {summary next : Summary}
    (summarisable : Summarisable platform payment)
    (inv : Inv platform payment summary) {event : Event}
    (result : step platform summary event = some next) :
    Inv platform payment next := by
  have handled := handle_of_step result
  cases event with
  | valChange today newval =>
      have canHappen : CanHappen summary (.valChange today newval) := by
        by_contra cannot
        simp [SummaryPurchaseFragment.step, cannot] at result
      obtain ⟨reached, same, holds⟩ :=
        inv.exists_onValChange summarisable today canHappen.2
      rw [Except.ok.inj (handled.symm.trans same)]
      exact holds
  | confirm today =>
      obtain ⟨reached, same, holds⟩ := inv.exists_confirm today
      rw [Except.ok.inj (handled.symm.trans same)]
      exact holds
  | response jsonObject =>
      rw [handle_response handled]
      refine ⟨inv.same, inv.confirmable, ?_⟩
      intro pending
      apply inv.answered
      intro none
      simp [none] at pending
  | detach =>
      cases handled
      exact ⟨inv.same, inv.confirmable, inv.answered⟩

theorem safe_of_summarisable {payment : RegularPayment}
    (summarisable : Summarisable platform payment) :
    Safe platform payment := by
  intro today
  obtain ⟨summary, created, initially⟩ :=
    summarisable.exists_onCreateView today
  refine ⟨summary, created, ?_⟩
  intro events reached event run canHappen attached
  have inv : Inv platform payment reached := by
    apply Runs.invariant_of_exec _ initially run
    intro before event next holds result
    exact holds.step summarisable result
  exact inv.exists_handle summarisable canHappen attached

/-- What the view and one confirmation need is all that is needed. -/
theorem summarisable_of_safe {payment : RegularPayment}
    (safe : Safe platform payment) : Summarisable platform payment := by
  obtain ⟨summary, created, runs⟩ := safe ⟨1, 0⟩
  obtain ⟨amt, amtBtc, immediateCost, shown, parsed, written, cost, shows,
    same⟩ := onCreateView_eq_ok_iff.mp created
  refine ⟨exists_amount_iff.mp ⟨amt, amtBtc, parsed, written⟩,
    exists_plainText_iff.mp ⟨immediateCost, cost⟩, ?_, ?_⟩
  · intro dynamic annual
    rw [initiallyShown, if_neg dynamic] at shows
    exact exists_dynamicShown_iff.mp ⟨shown, shows⟩ annual
  · intro dynamic monthly
    rw [initiallyShown, if_neg dynamic] at shows
    have joined : Joined payment.paymentDate summary.dayy := by
      rw [same]
      exact (dynamicShown_shows shows).1
    have frequency : summary.payment.frequency ≠ "2" := by
      rw [same]
      exact monthly
    have attached : summary.attached = true := by rw [same]
    have confirmed : ∃ next, confirm platform ⟨1, 0⟩ summary = .ok next :=
      runs [] summary (.confirm ⟨1, 0⟩) (Runs.exec_nil _) attached attached
    exact ((exists_confirm_iff joined).mp confirmed).resolve_left frequency

theorem safe_iff_summarisable {payment : RegularPayment} :
    Safe platform payment ↔ Summarisable platform payment :=
  ⟨summarisable_of_safe, safe_of_summarisable⟩

/-! ## Elements of an answer -/

open NewRegularPaymentFragment (textOf frequencyOf inherited forwardedAt
  readImmediateCost readPaymentMonth)

/-- The type of the schedule that is forwarded for an object at an index. -/
def forwardedType (coercions : Coercions) (elements : List Json)
    (index : Nat) (json : JSONObject) : String :=
  (json.getString coercions "schedule_type").getD
    (inherited coercions elements index)

/-- What the object at an index of an answer needs to be summarised. -/
structure Sound (platform : Platform) (elements : List Json) (index : Nat)
    (json : JSONObject) : Prop where
  amount : ∃ value, platform.coercions.parseDouble
    (textOf platform.coercions json "amount") = some (.finite value)
  cost : ∀ cost, readImmediateCost platform.coercions json = some cost →
    cost.IsFinite
  month : forwardedType platform.coercions elements index json ≠ "1" →
    frequencyOf platform.coercions json ≠ "1" →
    ∀ m, readPaymentMonth platform.coercions json = some m → IsMonth m
  day : forwardedType platform.coercions elements index json ≠ "1" →
    frequencyOf platform.coercions json ≠ "2" →
    DayReads platform (textOf platform.coercions json "payment_day")

theorem summarisable_iff_sound {elements : List Json} {index : Nat}
    {json : JSONObject} {payment : RegularPayment}
    (found : elements[index]? = some (.object json))
    (forwarded : forwardedAt platform.coercions elements index =
      some payment) :
    Summarisable platform payment ↔ Sound platform elements index json := by
  obtain ⟨_, json', immediateCost, paymentMonth, object, cost, month, rfl⟩ :=
    (NewRegularPaymentFragment.forwardedAt_eq_some_iff found).mp forwarded
  cases object
  constructor
  · intro summarisable
    refine ⟨summarisable.amount, ?_, ?_, summarisable.day⟩
    · intro other same
      rw [cost, Option.some.injEq] at same
      subst other
      exact summarisable.cost
    · intro dynamic annual m same
      rw [month, Option.some.injEq] at same
      subst m
      exact summarisable.month dynamic annual
  · intro sound
    exact ⟨sound.amount, sound.cost immediateCost cost,
      fun dynamic annual => sound.month dynamic annual paymentMonth month,
      sound.day⟩

/-- The summary of an accepted element never throws exactly when the element
is sound. -/
theorem accepted_safe_iff {platform : Platform} {elements : List Json}
    {index : Nat} {json : JSONObject} {payment : RegularPayment}
    (found : elements[index]? = some (.object json))
    (forwarded : forwardedAt platform.coercions elements index =
      some payment) :
    Safe platform payment ↔ Sound platform elements index json := by
  rw [safe_iff_summarisable]
  exact summarisable_iff_sound found forwarded

/-- A monthly payment of 5 on the second day. -/
def monthlyPayment : JSONObject :=
  [("amount", .string "5"), ("frequency", .string "1"),
    ("payment_day", .string "2"), ("schedule_type", .string "2")]

theorem monthly_payment_safe :
    Safe Platform.wholePlatform { NewRegularPaymentFragment.initial with
      amount := "5", frequency := "1", paymentDate := "2"
      scheduleType := "2" } := by
  have found : [Json.object monthlyPayment][0]? =
      some (.object monthlyPayment) := rfl
  apply (accepted_safe_iff found rfl).mpr
  refine ⟨⟨5, rfl⟩, ?_, ?_, ?_⟩
  · intro cost same
    cases same
    trivial
  · intro _ annual
    exact absurd rfl annual
  · intro _ _
    exact ⟨by decide, by decide⟩

/-- The empty object is accepted, and its amount is no number. -/
theorem empty_object_throws :
    ¬ ∀ (platform : Platform) (elements : List Json) (index : Nat)
        (payment : RegularPayment),
      forwardedAt platform.coercions elements index = some payment →
      Safe platform payment := by
  intro claim
  have forwarded : forwardedAt Platform.wholePlatform.coercions [.object []] 0 =
      some NewRegularPaymentFragment.initial := rfl
  obtain ⟨summary, created, _⟩ :=
    claim Platform.wholePlatform [.object []] 0 _ forwarded ⟨1, 0⟩
  have thrown : onCreateView Platform.wholePlatform ⟨1, 0⟩
      NewRegularPaymentFragment.initial = .error .illegalArgument := rfl
  rw [thrown] at created
  cases created

end SummaryPurchaseFragment

end EclairWallet
