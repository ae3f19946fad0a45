import EclairWallet.Schedule.NewRegularPayment

/-!
# What an element of the answer leaves to the next ones

Two answers that agree at an index need not forward the same fields there.  An
element without a `schedule_type` takes the type of an element before it, and
an element the loop cannot read keeps it from those behind.
-/

namespace EclairWallet

open AndroidJson

namespace NewRegularPaymentFragment

variable (coercions : Coercions)

/-- The texts of the arguments, with their keys in the answer. -/
def stringFields (payment : RegularPayment) : List (String × String) :=
  [("_id", payment.id), ("service_name", payment.serviceName),
    ("amount", payment.amount), ("frequency", payment.frequency),
    ("payment_day", payment.paymentDate), ("qr_code", payment.qrCode),
    ("schedule_type", payment.scheduleType),
    ("schedule_id", payment.scheduleId), ("note", payment.note)]

/-- Each field whose key is missing has its default. -/
def TakesDefaults (json : JSONObject) (payment : RegularPayment) : Prop :=
  (∀ field ∈ stringFields payment,
      json.has field.1 = false → field.2 = "") ∧
    (json.has "immediate_cost" = false →
      payment.immediateCost = .finite 0) ∧
    (json.has "payment_month" = false → payment.paymentMonth = 0)

/-- What is forwarded at the index is the same for both arrays, and takes its
defaults. -/
def Apart (elements others : List Json) (index : Nat) : Prop :=
  forwardedAt coercions elements index = forwardedAt coercions others index ∧
    ∀ element json payment, elements[index]? = some element →
      element.toObject = some json →
      forwardedAt coercions elements index = some payment →
      TakesDefaults json payment

/-- The loop gets to the index. -/
def Reaches (elements : List Json) (index : Nat) : Prop :=
  ∀ earlier ∈ elements.take index, Readable coercions earlier

/-- The type an element at the index would take over. -/
def inherited (elements : List Json) (index : Nat) : String :=
  lastScheduleType coercions "" (elements.take index)

/-- If the element can be read, the loop gets to it in both arrays or in
neither; if it gets there, the element names its type or no type was named
before. -/
def Independent (elements others : List Json) (index : Nat)
    (element : Json) : Prop :=
  Readable coercions element →
    (Reaches coercions elements index ↔ Reaches coercions others index) ∧
      (Reaches coercions elements index →
        (scheduleType coercions element).isSome = true ∨
          (inherited coercions elements index = "" ∧
            inherited coercions others index = ""))

variable {coercions}

theorem forwardedAt_eq_some_iff {elements : List Json} {index : Nat}
    {element : Json} {payment : RegularPayment}
    (found : elements[index]? = some element) :
    forwardedAt coercions elements index = some payment ↔
      Reaches coercions elements index ∧
        ReadAs coercions (inherited coercions elements index) element
          payment := by
  rw [forwardedAt, forward_getElem?_eq_some_iff, found]
  simp only [Option.some.injEq, exists_eq_left', initial]
  exact Iff.rfl

theorem ReadAs.of_named {before other : String} {element : Json}
    {payment : RegularPayment}
    (named : (scheduleType coercions element).isSome = true)
    (read : ReadAs coercions before element payment) :
    ReadAs coercions other element payment := by
  obtain ⟨json, immediateCost, paymentMonth, object, cost, month, rfl⟩ := read
  refine ⟨json, immediateCost, paymentMonth, object, cost, month, ?_⟩
  rw [scheduleType, object, Option.bind_some] at named
  obtain ⟨type, text⟩ := Option.isSome_iff_exists.mp named
  simp [fieldsOf, text]

theorem textOf_of_missing {json : JSONObject} {key : String}
    (missing : json.has key = false) : textOf coercions json key = "" := by
  rw [textOf, JSONObject.getString_of_not_has coercions (by simp [missing]),
    Option.getD_none]

theorem frequencyOf_of_missing {json : JSONObject}
    (missing : json.has "frequency" = false) :
    frequencyOf coercions json = "" := by
  rw [frequencyOf, textOf_of_missing missing, ite_self]

/-- The type of the schedule is the one field that may miss its default. -/
theorem takesDefaults_iff {before : String} {element : Json}
    {json : JSONObject} {payment : RegularPayment}
    (object : element.toObject = some json)
    (read : ReadAs coercions before element payment) :
    TakesDefaults json payment ↔
      (scheduleType coercions element).isSome = true ∨ before = "" := by
  have names : (scheduleType coercions element).isSome =
      json.has "schedule_type" := by
    rw [scheduleType, object, Option.bind_some, JSONObject.isSome_getString]
  rw [names]
  obtain ⟨json', immediateCost, paymentMonth, object', cost, month, rfl⟩ :=
    read
  rw [object, Option.some.injEq] at object'
  subst json'
  have kept : json.has "schedule_type" = false →
      (fieldsOf coercions before json immediateCost
        paymentMonth).scheduleType = before := by
    intro missing
    rw [fieldsOf, JSONObject.getString_of_not_has coercions (by simp [missing]),
      Option.getD_none]
  constructor
  · intro given
    obtain ⟨texts, _, _⟩ := given
    cases missing : json.has "schedule_type" with
    | true => exact .inl rfl
    | false =>
        right
        rw [← kept missing]
        exact texts ("schedule_type", _) (by simp [stringFields]) missing
  · intro default
    refine ⟨?_, ?_, ?_⟩
    · simp only [stringFields, List.forall_mem_cons, List.not_mem_nil,
        false_imp_iff, implies_true, and_true]
      refine ⟨textOf_of_missing, textOf_of_missing, textOf_of_missing,
        frequencyOf_of_missing, textOf_of_missing, textOf_of_missing, ?_,
        textOf_of_missing, textOf_of_missing⟩
      intro missing
      rw [kept missing]
      simpa [missing] using default
    · intro missing
      rw [readImmediateCost, if_neg (by simp [missing]),
        Option.some.injEq] at cost
      exact cost.symm
    · intro missing
      rw [readPaymentMonth, if_neg (by simp [missing]),
        Option.some.injEq] at month
      exact month.symm

theorem forwardedAt_of_unreadable {elements : List Json} {index : Nat}
    {element : Json} (found : elements[index]? = some element)
    (unreadable : ¬ Readable coercions element) :
    forwardedAt coercions elements index = none := by
  apply Option.eq_none_iff_forall_ne_some.mpr
  intro payment forwarded
  obtain ⟨_, read⟩ := (forwardedAt_eq_some_iff found).mp forwarded
  exact unreadable (exists_readAs_iff.mp ⟨payment, read⟩)

theorem isSome_forwardedAt_iff {elements : List Json} {index : Nat}
    {element : Json} (found : elements[index]? = some element)
    (readable : Readable coercions element) :
    (forwardedAt coercions elements index).isSome = true ↔
      Reaches coercions elements index := by
  rw [Option.isSome_iff_exists]
  constructor
  · intro given
    obtain ⟨payment, forwarded⟩ := given
    exact ((forwardedAt_eq_some_iff found).mp forwarded).1
  · intro reaches
    obtain ⟨payment, read⟩ :=
      (@exists_readAs_iff coercions (inherited coercions elements index)
        element).mpr readable
    exact ⟨payment, (forwardedAt_eq_some_iff found).mpr ⟨reaches, read⟩⟩

theorem apart_of_none {elements others : List Json} {index : Nat}
    (missed : forwardedAt coercions elements index = none)
    (missedOther : forwardedAt coercions others index = none) :
    Apart coercions elements others index := by
  refine ⟨by rw [missed, missedOther], ?_⟩
  intro element json payment _ _ forwarded
  rw [missed] at forwarded
  cases forwarded

/-- Two arrays that both get to the element forward it alike when it names its
type, and when neither has a type to pass on. -/
theorem apart_of_reaches {elements others : List Json} {index : Nat}
    {element : Json} (found : elements[index]? = some element)
    (foundOther : others[index]? = some element)
    (readable : Readable coercions element)
    (reaches : Reaches coercions elements index)
    (reachesOther : Reaches coercions others index)
    (separate : (scheduleType coercions element).isSome = true ∨
      (inherited coercions elements index = "" ∧
        inherited coercions others index = "")) :
    Apart coercions elements others index := by
  obtain ⟨payment, read⟩ :=
    (@exists_readAs_iff coercions (inherited coercions elements index)
      element).mpr readable
  have readOther : ReadAs coercions (inherited coercions others index) element
      payment := by
    rcases separate with named | ⟨empty, emptyOther⟩
    · exact read.of_named named
    · rw [emptyOther, ← empty]
      exact read
  have forwarded : forwardedAt coercions elements index = some payment :=
    (forwardedAt_eq_some_iff found).mpr ⟨reaches, read⟩
  have forwardedOther : forwardedAt coercions others index = some payment :=
    (forwardedAt_eq_some_iff foundOther).mpr ⟨reachesOther, readOther⟩
  refine ⟨by rw [forwarded, forwardedOther], ?_⟩
  intro element' json payment' found' object forwarded'
  rw [found, Option.some.injEq] at found'
  subst element'
  rw [forwarded, Option.some.injEq] at forwarded'
  subst payment'
  apply (takesDefaults_iff object read).mpr
  exact separate.imp id And.left

/-- Arrays that agree at an index forward the same fields there, with their
defaults, exactly when the element does not depend on those before it. -/
theorem apart_iff {coercions : Coercions} {elements others : List Json}
    {index : Nat} {element : Json}
    (found : elements[index]? = some element)
    (foundOther : others[index]? = some element) :
    Apart coercions elements others index ↔
      Independent coercions elements others index element := by
  constructor
  · intro given readable
    obtain ⟨same, defaults⟩ := given
    have reach : Reaches coercions elements index ↔
        Reaches coercions others index := by
      rw [← isSome_forwardedAt_iff found readable, same,
        isSome_forwardedAt_iff foundOther readable]
    refine ⟨reach, ?_⟩
    intro reaches
    obtain ⟨payment, forwarded⟩ := Option.isSome_iff_exists.mp
      ((isSome_forwardedAt_iff found readable).mpr reaches)
    obtain ⟨_, read⟩ := (forwardedAt_eq_some_iff found).mp forwarded
    obtain ⟨_, readOther⟩ :=
      (forwardedAt_eq_some_iff foundOther).mp (same ▸ forwarded)
    obtain ⟨json, object, _⟩ := readable
    have takes := defaults element json payment found object forwarded
    cases named : (scheduleType coercions element).isSome with
    | true => exact .inl rfl
    | false =>
        right
        have own := (takesDefaults_iff object read).mp takes
        have other := (takesDefaults_iff object readOther).mp takes
        simpa [named] using And.intro own other
  · intro independent
    by_cases readable : Readable coercions element
    · obtain ⟨reach, separate⟩ := independent readable
      by_cases reaches : Reaches coercions elements index
      · exact apart_of_reaches found foundOther readable reaches
          (reach.mp reaches) (separate reaches)
      · have missed : forwardedAt coercions elements index = none := by
          rw [← Option.not_isSome_iff_eq_none,
            isSome_forwardedAt_iff found readable]
          exact reaches
        have missedOther : forwardedAt coercions others index = none := by
          rw [← Option.not_isSome_iff_eq_none,
            isSome_forwardedAt_iff foundOther readable, ← reach]
          exact reaches
        exact apart_of_none missed missedOther
    · exact apart_of_none (forwardedAt_of_unreadable found readable)
        (forwardedAt_of_unreadable foundOther readable)

theorem second_apart :
    Apart .wholeNumbers
      [.object [("schedule_type", .string "1")],
        .object [("schedule_type", .string "2")]]
      [.object [], .object [("schedule_type", .string "2")]] 1 := by
  apply (apart_iff rfl rfl).mpr
  intro _
  have reaches : ∀ members : JSONObject,
      members.has "immediate_cost" = false →
      members.has "payment_month" = false →
      ∀ earlier ∈ [Json.object members], Readable .wholeNumbers earlier := by
    intro members noCost noMonth earlier member
    rw [List.mem_singleton] at member
    subst earlier
    exact ⟨members, rfl, by simp [readImmediateCost, noCost],
      by simp [readPaymentMonth, noMonth]⟩
  refine ⟨?_, fun _ => .inl rfl⟩
  exact iff_of_true (reaches [("schedule_type", .string "1")] rfl rfl)
    (reaches [] rfl rfl)

/-- A second element without a type is forwarded with that of the first. -/
theorem schedule_type_leaks :
    ¬ ∀ (coercions : Coercions) (elements others : List Json) (index : Nat)
        (element : Json), elements[index]? = some element →
      others[index]? = some element →
      Apart coercions elements others index := by
  intro claim
  obtain ⟨same, _⟩ := claim .wholeNumbers
    [.object [("schedule_type", .string "1")], .object []]
    [.object [], .object []] 1 (.object []) rfl rfl
  have first : forwardedAt .wholeNumbers
      [.object [("schedule_type", .string "1")], .object []] 1 =
        some { initial with scheduleType := "1" } := rfl
  have second : forwardedAt .wholeNumbers [.object [], .object []] 1 =
      some initial := rfl
  rw [first, second] at same
  have impossible : { initial with scheduleType := "1" } ≠ initial := by
    decide
  exact impossible (Option.some.inj same)

end NewRegularPaymentFragment

end EclairWallet
