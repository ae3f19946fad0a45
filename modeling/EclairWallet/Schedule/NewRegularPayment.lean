import EclairWallet.Library.AndroidJson

/-!
# The scan of a regular payment

The server answers the scan of an invoice with an array, and the fragment
opens a summary for each element.  The variables that hold the fields are
declared before the loop.  Every branch for a missing key sets its own field,
but for `schedule_type`, whose branch sets the frequency: the type of the
element before stays.
-/

namespace EclairWallet

open AndroidJson

/-- The arguments of a summary, which are also the variables of the loop. -/
structure RegularPayment where
  id : String
  serviceName : String
  immediateCost : JavaDouble
  amount : String
  frequency : String
  paymentDate : String
  qrCode : String
  scheduleType : String
  scheduleId : String
  paymentMonth : Int
  note : String
  deriving DecidableEq

namespace NewRegularPaymentFragment

variable (coercions : Coercions)

/-- The variables before the loop.  The loop assigns those without an initial
value before it reads them. -/
def initial : RegularPayment where
  id := ""
  serviceName := ""
  immediateCost := .finite 0
  amount := ""
  frequency := ""
  paymentDate := ""
  qrCode := ""
  scheduleType := ""
  scheduleId := ""
  paymentMonth := 0
  note := ""

def readString (json : JSONObject) (key : String) : Option String :=
  if json.has key then json.getString coercions key else some ""

def readImmediateCost (json : JSONObject) : Option JavaDouble :=
  if json.has "immediate_cost" then
    if json.isNull "immediate_cost" then some (.finite 0)
    else json.getDouble coercions "immediate_cost"
  else some (.finite 0)

def readPaymentMonth (json : JSONObject) : Option Int :=
  if json.has "payment_month" then json.getInt coercions "payment_month"
  else some 0

/-- The frequency and the type of the schedule. -/
def readSchedule (values : RegularPayment) (json : JSONObject) :
    Option (String × String) := do
  let frequency ← readString coercions json "frequency"
  if json.has "schedule_type" then
    let scheduleType ← json.getString coercions "schedule_type"
    return (frequency, scheduleType)
  else
    -- the branch sets the frequency again
    return ("", values.scheduleType)

/-- One turn of the loop: the variables after it, or the exception that ends
it. -/
def readElement (values : RegularPayment) (element : Json) :
    Option RegularPayment := do
  let json ← element.toObject
  let id ← readString coercions json "_id"
  let serviceName ← readString coercions json "service_name"
  let immediateCost ← readImmediateCost coercions json
  let paymentMonth ← readPaymentMonth coercions json
  let paymentDate ← readString coercions json "payment_day"
  let qrCode ← readString coercions json "qr_code"
  let amount ← readString coercions json "amount"
  let (frequency, scheduleType) ← readSchedule coercions values json
  let scheduleId ← readString coercions json "schedule_id"
  let note ← readString coercions json "note"
  return {
    id, serviceName, immediateCost, amount, frequency, paymentDate, qrCode,
    scheduleType, scheduleId, paymentMonth, note }

/-- The summaries the loop opens, with their arguments.  An exception leaves
those opened before it. -/
def forward (values : RegularPayment) : List Json → List RegularPayment
  | [] => []
  | element :: rest =>
      match readElement coercions values element with
      | none => []
      | some payment => payment :: forward payment rest

/-- What an answer of the server leads to. -/
structure Response where
  toast : Option String := none
  forwarded : List RegularPayment := []

def onResponse (jo : JSONObject) : Response :=
  if jo.isNull "status" then { toast := some "Server Busy" }
  else
    match jo.getString coercions "status", jo.getBoolean coercions "error" with
    | some status, some error =>
        if !error then
          if coercions.equalsIgnoreCase status "success" then
            match jo.getJSONArray "response" with
            | none => {}
            | some elements =>
                { forwarded := forward coercions initial elements }
          else { toast := some status }
        else { toast := some status }
    | _, _ => {}

/-- What is forwarded for element `index` of an array. -/
def forwardedAt (elements : List Json) (index : Nat) :
    Option RegularPayment :=
  (forward coercions initial elements)[index]?

/-! ## What an element determines -/

/-- The loop gets through the element. -/
def Readable (element : Json) : Prop :=
  ∃ json, element.toObject = some json ∧
    (readImmediateCost coercions json).isSome = true ∧
    (readPaymentMonth coercions json).isSome = true

/-- The type of the schedule that an element names. -/
def scheduleType (element : Json) : Option String :=
  element.toObject.bind (fun json => json.getString coercions "schedule_type")

/-- The type that the last of the elements that names one names, or `before`
if none does. -/
def lastScheduleType (before : String) (elements : List Json) : String :=
  elements.foldl
    (fun last element => (scheduleType coercions element).getD last) before

/-- The text of a member, or the default. -/
def textOf (json : JSONObject) (key : String) : String :=
  (json.getString coercions key).getD ""

/-- The frequency that is forwarded. -/
def frequencyOf (json : JSONObject) : String :=
  if json.has "schedule_type" then textOf coercions json "frequency" else ""

/-- The fields for an object, given its cost and month, after an element of
type `before`. -/
def fieldsOf (before : String) (json : JSONObject) (immediateCost : JavaDouble)
    (paymentMonth : Int) : RegularPayment where
  id := textOf coercions json "_id"
  serviceName := textOf coercions json "service_name"
  immediateCost := immediateCost
  amount := textOf coercions json "amount"
  frequency := frequencyOf coercions json
  paymentDate := textOf coercions json "payment_day"
  qrCode := textOf coercions json "qr_code"
  scheduleType := (json.getString coercions "schedule_type").getD before
  scheduleId := textOf coercions json "schedule_id"
  paymentMonth := paymentMonth
  note := textOf coercions json "note"

theorem readString_eq (json : JSONObject) (key : String) :
    readString coercions json key = some (textOf coercions json key) := by
  unfold readString textOf
  split
  · rename_i has
    obtain ⟨text, found⟩ := JSONObject.getString_of_has coercions has
    rw [found, Option.getD_some]
  · rename_i missing
    rw [JSONObject.getString_of_not_has coercions missing, Option.getD_none]

theorem readSchedule_eq (values : RegularPayment) (json : JSONObject) :
    readSchedule coercions values json =
      some (frequencyOf coercions json,
        (json.getString coercions "schedule_type").getD
          values.scheduleType) := by
  unfold readSchedule frequencyOf
  rw [readString_eq]
  split
  · rename_i has
    obtain ⟨text, found⟩ := JSONObject.getString_of_has coercions has
    simp [found]
  · rename_i missing
    simp [JSONObject.getString_of_not_has coercions missing]

/-- What an element is forwarded as after an element of type `before`. -/
def ReadAs (before : String) (element : Json) (payment : RegularPayment) :
    Prop :=
  ∃ json immediateCost paymentMonth, element.toObject = some json ∧
    readImmediateCost coercions json = some immediateCost ∧
    readPaymentMonth coercions json = some paymentMonth ∧
    payment = fieldsOf coercions before json immediateCost paymentMonth

variable {coercions}

/-- A turn of the loop depends on the turns before it through the type of the
schedule alone. -/
theorem readElement_eq_some_iff {values payment : RegularPayment}
    {element : Json} :
    readElement coercions values element = some payment ↔
      ReadAs coercions values.scheduleType element payment := by
  simp only [readElement, Option.bind_eq_bind, Option.bind_eq_some_iff,
    readString_eq, readSchedule_eq, Option.some.injEq, Option.pure_def,
    exists_eq_left']
  constructor
  · intro given
    obtain ⟨json, object, immediateCost, cost, paymentMonth, month, rfl⟩ :=
      given
    exact ⟨json, immediateCost, paymentMonth, object, cost, month, rfl⟩
  · intro given
    obtain ⟨json, immediateCost, paymentMonth, object, cost, month, rfl⟩ :=
      given
    exact ⟨json, object, immediateCost, cost, paymentMonth, month, rfl⟩

theorem exists_readAs_iff {before : String} {element : Json} :
    (∃ payment, ReadAs coercions before element payment) ↔
      Readable coercions element := by
  constructor
  · intro given
    obtain ⟨payment, json, immediateCost, paymentMonth, object, cost, month, _⟩
      := given
    exact ⟨json, object, by simp [cost], by simp [month]⟩
  · intro given
    obtain ⟨json, object, hasCost, hasMonth⟩ := given
    obtain ⟨immediateCost, cost⟩ := Option.isSome_iff_exists.mp hasCost
    obtain ⟨paymentMonth, month⟩ := Option.isSome_iff_exists.mp hasMonth
    exact ⟨_, json, immediateCost, paymentMonth, object, cost, month, rfl⟩

theorem readElement_eq_none_iff {values : RegularPayment} {element : Json} :
    readElement coercions values element = none ↔
      ¬ Readable coercions element := by
  rw [← @exists_readAs_iff coercions values.scheduleType]
  simp only [← readElement_eq_some_iff, ← Option.isSome_iff_exists,
    Option.not_isSome_iff_eq_none]

theorem ReadAs.scheduleType_eq {before : String} {element : Json}
    {payment : RegularPayment}
    (read : ReadAs coercions before element payment) :
    payment.scheduleType = (scheduleType coercions element).getD before := by
  obtain ⟨json, immediateCost, paymentMonth, object, _, _, rfl⟩ := read
  simp [scheduleType, object, fieldsOf]

/-- What the loop forwards for an element is read from that element, after the
last type named before it, provided the loop gets there. -/
theorem forward_getElem?_eq_some_iff {elements : List Json} {index : Nat}
    {values payment : RegularPayment} :
    (forward coercions values elements)[index]? = some payment ↔
      (∀ earlier ∈ elements.take index, Readable coercions earlier) ∧
        ∃ element, elements[index]? = some element ∧
          ReadAs coercions (lastScheduleType coercions values.scheduleType
            (elements.take index)) element payment := by
  induction elements generalizing index values with
  | nil => simp [forward]
  | cons head rest induction =>
      cases read : readElement coercions values head with
      | none =>
          have unreadable := readElement_eq_none_iff.mp read
          rw [forward, read]
          simp only [List.getElem?_nil, reduceCtorEq, false_iff, not_and]
          intro before
          cases index with
          | zero =>
              intro given
              obtain ⟨element, found, readAs⟩ := given
              cases found
              exact unreadable (exists_readAs_iff.mp ⟨payment, readAs⟩)
          | succ index =>
              exact absurd (before head (by simp)) unreadable
      | some first =>
          have readAs := readElement_eq_some_iff.mp read
          rw [forward, read]
          cases index with
          | zero =>
              simp only [List.getElem?_cons_zero, Option.some.injEq,
                List.take_zero, List.not_mem_nil, false_imp_iff,
                implies_true, true_and, exists_eq_left', lastScheduleType,
                List.foldl_nil, ← readElement_eq_some_iff, read]
          | succ index =>
              have readable : Readable coercions head :=
                exists_readAs_iff.mp ⟨first, readAs⟩
              simp only [List.getElem?_cons_succ, induction,
                List.take_succ_cons, List.forall_mem_cons, readable,
                true_and, readAs.scheduleType_eq, lastScheduleType,
                List.foldl_cons]

end NewRegularPaymentFragment

end EclairWallet
