import EclairWallet.Library.JavaText
import EclairWallet.Library.Runs
import EclairWallet.Payment.Supervisor
import EclairWallet.Schedule.NewRegularPayment

/-!
# The summary of a regular payment

The fragment shows what `NewRegularPaymentFragment` forwards, lets the user
pick a day, and posts the purchase.  A schedule of type 1 is static: the day
is the picked one.  Any other is dynamic: day and month are those of the
answer.  A `NumberFormatException` is an `illegalArgument` here, as in Java.
-/

namespace EclairWallet

open AndroidJson JavaNumber

/-- `Calendar.getInstance()`, with the months counted from zero. -/
structure Calendar where
  dayOfMonth : Nat
  month : Fin 12

namespace SummaryPurchaseFragment

/-- What the fragment takes from the Java library. -/
structure Platform where
  coercions : Coercions
  digits : CharacterDigit
  /-- `BigDecimal.valueOf(..).toPlainString()` of a finite `double`. -/
  toPlainString : Rat → String

/-- A platform that knows whole numbers only. -/
def Platform.wholePlatform : Platform where
  coercions := .wholeNumbers
  digits := asciiDigit
  toPlainString value := String.ofList (valueOf value.num) ++ ".0"

/-- The fields of the fragment and the values its listeners captured.
`pending` holds the day of each posted purchase that is not answered, and
`attached` whether the fragment has an activity. -/
structure Summary where
  payment : RegularPayment
  amtBtc : String
  immediateCost : String
  s : String
  dayy : String
  mm : Int
  monthInt : Int
  pending : List String
  attached : Bool := true

/-- What the view model is given, and the month beside it. -/
structure Shown where
  s : String
  dayy : String
  mm : Int

/-- The arguments of `ConfirmationFragment`. -/
structure ConfirmationArguments where
  invoiceId : String
  frequency : String
  amount : String
  month : String
  day : String
  notification : String

/-- What an answer puts in the place of the fragment, if anything. -/
inductive Opened where
  | nothing
  | confirmation (arguments : ConfirmationArguments)
  | paymentSuccessRegular (date : String)

variable (platform : Platform)

/-! ## The fragment -/

def getMonth (today : Calendar) (day : Int) : Int :=
  if day < today.dayOfMonth then
    let month : Int := today.month + 2
    if month = 13 then 1 else month
  else
    let month : Int := today.month + 1
    if month = 13 then 1 else month

def monthName : List String :=
  ["January", "February", "March", "April", "May", "June", "July", "August",
    "September", "October", "November", "December"]

/-- `array[index]`. -/
def elementAt (array : List String) (index : Int) :
    Except JavaException String :=
  if index < 0 then .error .arrayIndexOutOfBounds
  else
    match array[index.toNat]? with
    | none => .error .arrayIndexOutOfBounds
    | some element => .ok element

def getMonthInString (m : Int) : Except JavaException String :=
  elementAt monthName (m - 1)

def parseDouble (text : String) : Except JavaException JavaDouble :=
  match platform.coercions.parseDouble text with
  | none => .error .illegalArgument
  | some value => .ok value

def parseInt (text : List Char) : Except JavaException Int :=
  match JavaNumber.parseInt platform.digits text with
  | none => .error .illegalArgument
  | some value => .ok value

/-- `BigDecimal.valueOf(value).toPlainString()`. -/
def plainText : JavaDouble → Except JavaException String
  | .finite value => .ok (platform.toPlainString value)
  | .infinite _ => .error .illegalArgument
  | .nan => .error .illegalArgument

/-- The days that the picker shows. -/
def days : List String :=
  (List.range 28).map (fun (i : Nat) => String.ofList (valueOf (i + 1 : Nat)))

def staticText (note amtBtc gap frequency : String) : String :=
  "Summary of Purchase \n\nPayment Name= " ++ note ++ gap ++ "Cost = " ++
    amtBtc ++ "\n Frequency = " ++ frequency ++ " \n\n "

/-- The text for a service, with the immediate cost if `costly`. -/
def dynamicText (serviceName immediateCost amtBtc : String) (costly : Bool) :
    String :=
  "Summary of Purchase \n\n Name – Service " ++ serviceName ++
    (if costly then " \n Immediate Payment Cost = " ++ immediateCost else "") ++
    " \n\n\n\nCost = " ++ amtBtc ++ "\n Frequency = monthly\n\n"

/-- A static schedule, before the user has picked a day. -/
def staticInitially (today : Calendar) (payment : RegularPayment)
    (amtBtc : String) : Except JavaException Shown :=
  if payment.frequency = "1" then
    .ok {
      s := staticText payment.note amtBtc " \n\n " "monthly"
      dayy := "1 of every month"
      mm := 0 }
  else do
    let m := getMonth today 1
    let month ← getMonthInString m
    return {
      s := staticText payment.note amtBtc " \n\n " "annually"
      dayy := "1 of the " ++ month
      mm := m }

/-- A static schedule for the picked day. -/
def staticPicked (today : Calendar) (payment : RegularPayment)
    (amtBtc : String) (newval : Nat) : Except JavaException Shown :=
  if payment.frequency = "1" then do
    let day ← elementAt days newval
    return {
      s := staticText payment.note amtBtc " \n\n " "monthly"
      dayy := day ++ " of every month"
      mm := 0 }
  else do
    let m ← elementAt days newval
    let mmm ← parseInt platform m.toList
    let m1 := getMonth today mmm
    let month ← getMonthInString m1
    return {
      s := staticText payment.note amtBtc " \n\n  " "annually"
      dayy := m ++ " of the " ++ month
      mm := m1 }

/-- A dynamic schedule.  The service `costly` has an immediate cost in the
text of an annual one, and `inWords` writes the month. -/
def dynamicShown (payment : RegularPayment) (amtBtc immediateCost : String)
    (costly : String) (inWords : String → String) :
    Except JavaException Shown :=
  if payment.frequency = "1" then
    .ok {
      s := dynamicText payment.serviceName immediateCost amtBtc
        (platform.coercions.equalsIgnoreCase payment.serviceName "A")
      dayy := payment.paymentDate ++ " of the every month"
      mm := 0 }
  else do
    let month ← getMonthInString payment.paymentMonth
    return {
      s := dynamicText payment.serviceName immediateCost amtBtc
        (platform.coercions.equalsIgnoreCase payment.serviceName costly)
      dayy := payment.paymentDate ++ " of the " ++ inWords month
      mm := payment.paymentMonth }

/-- What `onCreateView` shows. -/
def initiallyShown (today : Calendar) (payment : RegularPayment)
    (amtBtc immediateCost : String) : Except JavaException Shown :=
  if payment.scheduleType = "1" then staticInitially today payment amtBtc
  else
    dynamicShown platform payment amtBtc immediateCost
      "Blast Off Subscription" id

/-- What `onValChange` shows.  The month of a dynamic schedule is a number
after the user has touched the picker. -/
def pickedShown (today : Calendar) (payment : RegularPayment)
    (amtBtc immediateCost : String) (newval : Nat) :
    Except JavaException Shown :=
  if payment.scheduleType = "1" then
    staticPicked platform today payment amtBtc newval
  else
    dynamicShown platform payment amtBtc immediateCost "A"
      (fun _ => String.ofList (valueOf payment.paymentMonth))

def onCreateView (today : Calendar) (payment : RegularPayment) :
    Except JavaException Summary := do
  let amt ← parseDouble platform payment.amount
  let amtBtc ← plainText platform amt
  let immediateCost ← plainText platform payment.immediateCost
  let shown ← initiallyShown platform today payment amtBtc immediateCost
  return {
    payment, amtBtc, immediateCost, s := shown.s, dayy := shown.dayy
    mm := shown.mm, monthInt := 0, pending := [] }

def onValChange (today : Calendar) (newval : Nat) (summary : Summary) :
    Except JavaException Summary := do
  let shown ← pickedShown platform today summary.payment summary.amtBtc
    summary.immediateCost newval
  return { summary with s := shown.s, dayy := shown.dayy, mm := shown.mm }

/-- `text.length()`, in UTF-16. -/
def length (text : List Char) : Nat :=
  (text.map (fun char => if char.toNat < 65536 then 1 else 2)).sum

/-- The day as it is posted: two characters, unless it has more. -/
def padDay (day : List Char) : List Char :=
  if length day ≠ 2 then '0' :: day else day

/-- The parameters of the post are the day, the month and fields of the
payment.  The exception of a short `md` is caught, and nothing is posted. -/
def confirm (today : Calendar) (summary : Summary) :
    Except JavaException Summary :=
  match JavaText.splitString ' ' (JavaText.trim summary.dayy) with
  | [] => .error .arrayIndexOutOfBounds
  | first :: rest => do
      let day := padDay first.toList
      let monthInt ←
        if summary.payment.frequency = "2" then pure summary.mm
        else (parseInt platform day).map (getMonth today)
      let posted := if 3 ≤ rest.length then [String.ofList day] else []
      return { summary with
        monthInt := monthInt
        pending := summary.pending ++ posted }

/-- The message of an answer, empty when the answer is an error, and its
response.  A null stands for a `JSONException`, which is caught. -/
def readAnswer (jsonObject : JSONObject) : Option (String × String) := do
  let error ← jsonObject.getBoolean platform.coercions "error"
  let message ← (if error then some ""
    else jsonObject.getString platform.coercions "message")
  let response ← jsonObject.getString platform.coercions "response"
  return (message, response)

/-- Without an activity there is nothing to open a page or a toast with. -/
def withActivity (summary : Summary) (opened : Opened) :
    Except JavaException Opened :=
  if summary.attached then .ok opened else .error .nullPointer

/-- The answer to the posted purchase of a day. -/
def onResponse (summary : Summary) (day : String) (jsonObject : JSONObject) :
    Except JavaException Opened :=
  match readAnswer platform jsonObject with
  | none => .ok .nothing
  | some (message, response) =>
      if message = "success" then do
        let month ← getMonthInString summary.monthInt
        withActivity summary (.confirmation {
          invoiceId := response
          frequency := summary.payment.frequency
          amount :=
            if summary.immediateCost = "0.0" then summary.amtBtc
            else summary.immediateCost
          month
          day
          notification := summary.payment.note })
      else if message = "fail" then
        withActivity summary (.paymentSuccessRegular response)
      else withActivity summary .nothing

/-! ## Runs of the fragment -/

/-- The fragment is detached when another page has replaced it, or when its
activity ends. -/
inductive Event where
  | valChange (today : Calendar) (newval : Nat)
  | confirm (today : Calendar)
  | response (jsonObject : JSONObject)
  | detach

/-- The user sees the fragment while it is attached, the picker offers its
days, and an answer needs a question. -/
def CanHappen (summary : Summary) : Event → Prop
  | .valChange _ newval => summary.attached = true ∧ newval < days.length
  | .confirm _ => summary.attached = true
  | .response _ => summary.pending ≠ []
  | .detach => True

instance (summary : Summary) : DecidablePred (CanHappen summary)
  | .valChange _ newval => inferInstanceAs (Decidable
      (summary.attached = true ∧ newval < days.length))
  | .confirm _ => inferInstanceAs (Decidable (summary.attached = true))
  | .response _ => inferInstanceAs (Decidable (summary.pending ≠ []))
  | .detach => .isTrue trivial

def handle (summary : Summary) : Event → Except JavaException Summary
  | .valChange today newval => onValChange platform today newval summary
  | .confirm today => confirm platform today summary
  | .response jsonObject =>
      match summary.pending with
      | [] => .ok summary
      | day :: pending => do
          let _ ← onResponse platform summary day jsonObject
          return { summary with pending := pending }
  | .detach => .ok { summary with attached := false }

/-- An exception ends the application, and with it the run. -/
def step (summary : Summary) (event : Event) : Option Summary :=
  if CanHappen summary event then (handle platform summary event).toOption
  else none

/-- Neither creating the view throws, nor anything that happens to it while it
is attached. -/
def Safe (payment : RegularPayment) : Prop :=
  ∀ today, ∃ summary, onCreateView platform today payment = .ok summary ∧
    ∀ events reached event,
      Runs.exec (step platform) summary events = some reached →
      CanHappen reached event → reached.attached = true →
      ∃ next, handle platform reached event = .ok next

end SummaryPurchaseFragment

end EclairWallet
