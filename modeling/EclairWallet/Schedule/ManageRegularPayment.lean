import EclairWallet.Library.Runs
import EclairWallet.Payment.InvoiceId
import EclairWallet.Schedule.SummaryPurchase
import Mathlib.Logic.Function.Basic

/-!
# Managing the schedules

The list of schedules, the details that a tap on a row opens, and the question
before a schedule is cancelled.  A row is bound to a recycled view holder,
whose texts stay when an exception ends the binding.
-/

namespace EclairWallet

open AndroidJson

variable (platform : SummaryPurchaseFragment.Platform)

/-! ## The rows -/

namespace ManageRegularPaymentAdapter

/-- A view holder and the position it was last bound to. -/
structure MyViewHolder where
  position : Option Nat := none
  sceduleId : String := "ABCDXYZ123"
  status : String := "ABCDXYZ123"
  deriving DecidableEq, Repr

def amountText (data : JSONObject) : Option String := do
  let regularAmount ← data.getString platform.coercions "regular_amount"
  let amt ← platform.coercions.parseDouble regularAmount
  (SummaryPurchaseFragment.plainText platform amt).toOption

/-- The row of a payment: its amount and the date under a key. -/
def showPayment (data : JSONObject) (key : String) (holder : MyViewHolder) :
    MyViewHolder :=
  match amountText platform data, data.getString platform.coercions key with
  | some amtBtc, some datetime =>
      match (JavaText.splitString 'T' datetime)[0]? with
      -- the amount is set before the date is looked at
      | none => { holder with sceduleId := amtBtc }
      | some date => { holder with sceduleId := amtBtc, status := date }
  | _, _ => holder

def statusText (flag : Int) : String :=
  if flag = 1 then "Active" else if flag = 2 then "Inactive" else "Cancelled"

/-- The row of a schedule: its id and its status. -/
def showSchedule (data : JSONObject) (holder : MyViewHolder) : MyViewHolder :=
  match data.getInt platform.coercions "status",
      data.getString platform.coercions "schedule_id" with
  | some flag, some scheduleId =>
      { holder with sceduleId := scheduleId, status := statusText flag }
  | _, _ => holder

def onBindViewHolder (list : List Json) (holder : MyViewHolder)
    (position : Nat) : MyViewHolder :=
  match list[position]?.bind Json.toObject with
  | none => holder
  | some data =>
      if data.has "regular_amount" ∧ data.has "actual_payment_date" ∧
          data.has "payment_date" then
        showPayment platform data "actual_payment_date" holder
      else if data.has "regular_amount" ∧ data.has "payment_date" then
        showPayment platform data "payment_date" holder
      else showSchedule platform data holder

end ManageRegularPaymentAdapter

/-! ## The fragments -/

/-- The arguments of `InviceScheduleDetailsFragment`. -/
structure ScheduleArguments where
  scheduleId : String
  status : Int
  deriving DecidableEq, Repr

namespace ManageRegularPamentFragment

open ManageRegularPaymentAdapter (MyViewHolder onBindViewHolder)

/-- The rows of the answer, if it is a success. -/
def onResponse (jo : JSONObject) : Option (List Json) := do
  let status ← jo.getString platform.coercions "status"
  let error ← jo.getBoolean platform.coercions "error"
  if error = false ∧
      platform.coercions.equalsIgnoreCase status "success" = true then
    jo.getJSONArray "message"
  else none

/-- What a tap on a row hands over. -/
def onClick (list : List Json) (position : Nat) : Option ScheduleArguments := do
  let jo ← list[position]?.bind Json.toObject
  let scheduleId ← jo.getString platform.coercions "schedule_id"
  let status ← jo.getInt platform.coercions "status"
  return { scheduleId, status }

end ManageRegularPamentFragment

namespace InviceScheduleDetailsFragment

def urlGetScheduleDetails : String :=
  Constants.baseUrl ++ "/invoice/getschedulestsdetails/"

def urlCancelPayment : String :=
  Constants.baseUrl ++ "/invoice/cancelpayment/"

def requestUrl (base scheduleId : String) : Except JavaException String :=
  formatUrl (base ++ scheduleId)

/-- The button that cancels is gone for a schedule that has been cancelled. -/
def showsCancel (arguments : ScheduleArguments) : Bool :=
  arguments.status ≠ 3

end InviceScheduleDetailsFragment

/-! ## The screens -/

open ManageRegularPaymentAdapter (MyViewHolder onBindViewHolder)
open InviceScheduleDetailsFragment (requestUrl urlGetScheduleDetails
  urlCancelPayment showsCancel)

/-- The list with its view holders, the details that were opened, the question
that is asked, and the addresses the cancelling requests went to. -/
structure ManageScreens where
  list : List Json := []
  holders : Nat → MyViewHolder := fun _ => {}
  details : List ScheduleArguments := []
  dialog : Option ScheduleArguments := none
  requests : List String := []

/-- Which of the opened details is on top is left to the fragment manager: any
of them may be clicked. -/
inductive ManageEvent where
  | response (jo : JSONObject)
  | bind (holder position : Nat)
  | click (holder : Nat)
  | cancel (index : Nat)
  | yes
  | no

namespace ManageScreens

/-- A fragment that has its answer has a list with view holders of its own. -/
def showList (screens : ManageScreens) (list : List Json) : ManageScreens :=
  { screens with list, holders := fun _ => {} }

/-- The recycler view notes the position before it calls the adapter. -/
def bind (screens : ManageScreens) (holder position : Nat) : ManageScreens :=
  let bound :=
    { screens.holders holder with position := some position }
  { screens with
    holders := Function.update screens.holders holder
      (onBindViewHolder platform screens.list bound position) }

/-- Creating the details asks for them. -/
def openDetails (screens : ManageScreens) (arguments : ScheduleArguments) :
    Except JavaException ManageScreens := do
  let _ ← requestUrl urlGetScheduleDetails arguments.scheduleId
  return { screens with details := screens.details ++ [arguments] }

/-- An exception of reading the element is caught. -/
def click (screens : ManageScreens) (position : Nat) :
    Except JavaException ManageScreens :=
  match ManageRegularPamentFragment.onClick platform screens.list position with
  | none => .ok screens
  | some arguments => screens.openDetails arguments

def yes (screens : ManageScreens) (arguments : ScheduleArguments) :
    Except JavaException ManageScreens := do
  let url ← requestUrl urlCancelPayment arguments.scheduleId
  return { screens with dialog := none, requests := screens.requests ++ [url] }

/-- An exception that is not caught ends the application, and with it the
run. -/
def step (screens : ManageScreens) : ManageEvent → Option ManageScreens
  | .response jo =>
      some (((ManageRegularPamentFragment.onResponse platform jo).map
        screens.showList).getD screens)
  | .bind holder position =>
      if position < screens.list.length then
        some (screens.bind platform holder position)
      else none
  | .click holder =>
      (screens.holders holder).position.bind (fun position =>
        (screens.click platform position).toOption)
  | .cancel index =>
      screens.details[index]?.bind (fun arguments =>
        if screens.dialog = none ∧ showsCancel arguments = true then
          some { screens with dialog := some arguments }
        else none)
  | .yes =>
      screens.dialog.bind (fun arguments =>
        (screens.yes arguments).toOption)
  | .no => screens.dialog.map (fun _ => { screens with dialog := none })

end ManageScreens

end EclairWallet
