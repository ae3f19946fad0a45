import EclairWallet.Library.JavaFormat
import EclairWallet.Payment.SendScreen

/-!
# The invoice id of a payment

The send screen joins the invoice, the text about the next payment, a note and
a flag with commas, in one column of the row.  Three screens and the
supervisor split it again.
-/

namespace EclairWallet

open JavaCase (DefaultLocale)

/-! ## Writers -/

/-- The extras of the intent that opens the send screen. -/
structure SendPaymentExtras where
  invoice : String
  d : Option String := none
  notification : Option String := none
  deriving DecidableEq, Repr

/-- The extras of a caller that packs: the next payment and the note in one of
them. -/
def putExtras (invoiceId nextPayment note : String)
    (notification : Option String) : SendPaymentExtras where
  invoice := "lightning:" ++ invoiceId
  d := some (nextPayment ++ "," ++ note)
  notification := notification

def ConfirmationFragment.confirm (invoiceId paymentDesc note : String) :
    SendPaymentExtras :=
  putExtras invoiceId paymentDesc note none

def NotificationActivity.onClick (invoiceId paymentDate serviceName : String) :
    SendPaymentExtras :=
  putExtras invoiceId ("Your Next Payment Date is " ++ paymentDate)
    serviceName (some "notification")

namespace SendPaymentActivity

def lightningPrefixes : List String :=
  ["lightning:", "lightning://"]

/-- Remove the first of the prefixes that the lower-cased text starts with. -/
def removePrefix (locale : DefaultLocale) (invoiceAsString : String) : String :=
  match lightningPrefixes.find? (fun scheme =>
      scheme.toList.isPrefixOf
        (locale.toLowerCase invoiceAsString.toList)) with
  | some scheme =>
      String.ofList (invoiceAsString.toList.drop scheme.length)
  | none => invoiceAsString

theorem removePrefix_of_colon {locale : DefaultLocale} {text : String}
    {front rest : List Char} (split : text.toList = front ++ rest)
    (size : front.length = "lightning:".length)
    (colon : "lightning:".toList <+: locale.toLowerCase text.toList) :
    removePrefix locale text = String.ofList rest := by
  have found : lightningPrefixes.find? (fun listed =>
      listed.toList.isPrefixOf (locale.toLowerCase text.toList)) =
      some "lightning:" := by
    rw [lightningPrefixes, List.find?_cons_of_pos]
    exact List.isPrefixOf_iff_prefix.mpr colon
  rw [removePrefix, found]
  simp only [split, ← size, List.drop_left]

/-- The longer prefix is found only where the shorter one is. -/
theorem removePrefix_of_no_colon {locale : DefaultLocale} {text : String}
    (other : ¬ "lightning:".toList <+: locale.toLowerCase text.toList) :
    removePrefix locale text = text := by
  have colonFirst : ∀ listed ∈ lightningPrefixes,
      "lightning:".toList <+: listed.toList := by
    decide
  have none : lightningPrefixes.find? (fun listed =>
      listed.toList.isPrefixOf (locale.toLowerCase text.toList)) = none := by
    apply List.find?_eq_none.mpr
    intro listed member starts
    apply other
    exact (colonFirst listed member).trans
      (List.isPrefixOf_iff_prefix.mp starts)
  rw [removePrefix, none]

/-- `onCreate`, with the invoice that is read later. -/
def onCreate (locale : DefaultLocale) (extras : SendPaymentExtras)
    (request : PaymentRequest) : Screen where
  request := request
  invoiceAsString := removePrefix locale (JavaText.trim extras.invoice)
  goToFrag := (extras.d.map JavaText.trim).getD ""
  notification := (extras.notification.map JavaText.trim).getD ""

end SendPaymentActivity

/-! ## Readers -/

namespace Constants

def baseUrl : String := "http://51.158.68.20:4000"

def urlOk : String := baseUrl ++ "/invoice/paymentupdates/"

end Constants

/-- The address of a request, which the screens format twice. -/
def formatUrl (text : String) : Except JavaException String :=
  match JavaFormat.formatTwice text with
  | some url => .ok url
  | none => .error .illegalArgument

theorem formatUrl_eq_self_iff {text : String} :
    formatUrl text = .ok text ↔ '%' ∉ text.toList := by
  rw [← JavaFormat.formatTwice_eq_self_iff, formatUrl]
  split <;> simp [*]

/-- The ids of the device and of its registration (`null` if it has none). -/
structure Device where
  deviceId : String
  regId : String
  deviceId_plain : '%' ∉ deviceId.toList
  regId_plain : '%' ∉ regId.toList

/-- The text of the address that an outcome of a payment is reported to. -/
def Device.paymentUpdate (device : Device) (invoiceId outcome : String) :
    String :=
  Constants.urlOk ++ invoiceId ++ "/" ++ device.deviceId ++ "/" ++
    device.regId ++ outcome

/-- The report names the invoice unless that has a percent sign. -/
theorem Device.formatUrl_paymentUpdate_iff (device : Device)
    (invoiceId : String) {outcome : String} (plain : '%' ∉ outcome.toList) :
    formatUrl (device.paymentUpdate invoiceId outcome) =
        .ok (device.paymentUpdate invoiceId outcome) ↔
      '%' ∉ invoiceId.toList := by
  have url : '%' ∉ Constants.urlOk.toList := by decide
  have idPlain := device.deviceId_plain
  have regPlain := device.regId_plain
  rw [formatUrl_eq_self_iff, Device.paymentUpdate]
  simp [url, plain, idPlain, regPlain]

namespace PaymentSuccessActivity

/-- What the screen takes from the invoice id: nothing, or the invoice, the
text shown, the address of its report, and whether it opens the home screen as
after a notification. -/
inductive Shown where
  | plain
  | paid (invoiceId nextPayment url : String) (notification : Bool)
  deriving DecidableEq, Repr

def onCreate (device : Device) (data : Option String) :
    Except JavaException Shown :=
  match data with
  | none => .error .nullPointer
  | some data =>
      if data = "A" then .ok .plain
      else
        let my := JavaText.splitString ',' data
        match my with
        | invoiceId :: nextPayment :: _ => do
            let url ← formatUrl (device.paymentUpdate invoiceId "/0")
            return .paid invoiceId nextPayment url (my.length = 4)
        | _ => .error .arrayIndexOutOfBounds

end PaymentSuccessActivity

namespace PaymentFailureActivity

structure Shown where
  invoiceId : String
  url : String
  notification : Bool
  deriving DecidableEq, Repr

def onCreate (device : Device) (data : Option String) :
    Except JavaException Shown :=
  match data with
  | none => .error .nullPointer
  | some data =>
      let my := JavaText.splitString ',' data
      match my with
      | [] => .error .arrayIndexOutOfBounds
      | invoiceId :: _ => do
          let url ← formatUrl (device.paymentUpdate invoiceId "/1")
          return {
            invoiceId := invoiceId
            url := url
            notification := invoiceId ≠ "A" ∧ my.length = 4 }

end PaymentFailureActivity

namespace LNPaymentDetailsActivity

/-- The values of the two fields; the next payment is hidden when none. -/
structure Shown where
  desc : Option String
  next : Option String
  notification : Bool
  deriving DecidableEq, Repr

/-- The part of `onStart` that reads the invoice id.  An exception is caught
and closes the screen. -/
def onStart (p : Payment) : Except JavaException Shown :=
  match p.invoiceId with
  | none => .error .nullPointer
  | some data =>
      if data = "A" then
        .ok { desc := p.description, next := none, notification := false }
      else
        match JavaText.splitString ',' data with
        | [_, next, desc, _] =>
            .ok { desc := some desc, next := some next, notification := true }
        | _ :: next :: _ =>
            .ok
              { desc := p.description, next := some next
                notification := false }
        | _ => .error .arrayIndexOutOfBounds

end LNPaymentDetailsActivity

end EclairWallet
