import EclairWallet.Payment.InvoiceId
import EclairWallet.Schedule.SummaryPurchase

/-!
# The confirmation of a regular payment

The answer to a posted purchase opens this page.  It tells the day of the next
payment, and hands the invoice over to the send screen.
-/

namespace EclairWallet

namespace ConfirmationFragment

open SummaryPurchaseFragment (Platform ConfirmationArguments parseInt
  getMonthInString)

/-- The fields of the fragment, with the text of the amount. -/
structure Page where
  invoiceId : String
  btAmount : String
  paymentDesc : String
  note : String
  deriving DecidableEq, Repr

variable (platform : Platform)

/-- On the day of the payment itself, the month is the next one unless the
schedule is annual. -/
def onCreateView (today : Calendar) (arguments : ConfirmationArguments) :
    Except JavaException Page := do
  let dayy ← parseInt platform arguments.day.toList
  let month ←
    if dayy = today.dayOfMonth then
      if arguments.frequency = "2" then pure arguments.month
      else
        let m : Int := today.month + 2
        getMonthInString (if m = 13 then 1 else m)
    else pure arguments.month
  return {
    invoiceId := arguments.invoiceId
    btAmount :=
      "The amount due to be paid today is: " ++ arguments.amount ++ "BTC"
    paymentDesc :=
      "Your next Payment will be on " ++ month ++ " " ++ arguments.day
    note := arguments.notification }

/-- What the page hands over. -/
def Page.confirm (page : Page) : SendPaymentExtras :=
  ConfirmationFragment.confirm page.invoiceId page.paymentDesc page.note

end ConfirmationFragment

end EclairWallet
