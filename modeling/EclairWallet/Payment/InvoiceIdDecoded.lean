import EclairWallet.Payment.FailureRecorded
import EclairWallet.Payment.InvoiceId

/-!
# What the readers recover from an invoice id

The parts survive when none of them is changed by `trim`, when the invoice has
no percent sign and, with the flag, when no part holds a comma.  Without the
flag no screen reads the note: the details screen shows the description of the
row, which is the invoice.
-/

namespace EclairWallet

open JavaCase (DefaultLocale)
open JavaText

/-- What a caller packs.  An invoice has no comma. -/
structure PackedParts where
  invoice : String
  nextPayment : String
  note : String
  notification : Bool
  commaFree : ',' ∉ invoice.toList

namespace PackedParts

def extras (parts : PackedParts) : SendPaymentExtras :=
  putExtras parts.invoice parts.nextPayment parts.note
    (if parts.notification then some "notification" else none)

/-- The invoice id that is written. -/
def invoiceId (parts : PackedParts) : String :=
  trimEnd parts.invoice ++ "," ++
    (trimStart parts.nextPayment ++ "," ++ trimEnd parts.note) ++
    (if parts.notification then "," ++ "notification" else "")

/-- `trim` changes no part. -/
structure Trimmed (parts : PackedParts) : Prop where
  invoice : trimEnd parts.invoice = parts.invoice
  nextPayment : trimStart parts.nextPayment = parts.nextPayment
  note : trimEnd parts.note = parts.note

/-- With the flag, the note has no comma; without it, the note is the
invoice. -/
def NoteReadable (parts : PackedParts) : Prop :=
  if parts.notification then
    ',' ∉ parts.note.toList ∧ parts.invoice ≠ "A"
  else
    parts.note = parts.invoice ∧
      (parts.invoice ≠ "" ∨ parts.nextPayment ≠ "")

instance (parts : PackedParts) : Decidable parts.NoteReadable :=
  inferInstanceAs (Decidable
    (if parts.notification = true then
      ',' ∉ parts.note.toList ∧ parts.invoice ≠ "A"
    else
      parts.note = parts.invoice ∧
        (parts.invoice ≠ "" ∨ parts.nextPayment ≠ "")))

structure Readable (parts : PackedParts) : Prop where
  trimmed : parts.Trimmed
  invoice : '%' ∉ parts.invoice.toList
  nextPayment : ',' ∉ parts.nextPayment.toList
  note : parts.NoteReadable

end PackedParts

/-- Where the invoice id of a lightning row comes from. -/
inductive InvoiceIdOrigin where
  | packed (parts : PackedParts)
  | plain
  | unknownHtlc

theorem singleton_comma : String.singleton ',' = "," := by
  decide

namespace SendPaymentActivity

theorem removePrefix_lightning (locale : DefaultLocale) (invoice : String) :
    removePrefix locale ("lightning:" ++ invoice) = invoice := by
  have split : ("lightning:" ++ invoice).toList =
      "lightning:".toList ++ invoice.toList := String.toList_append
  have colon : "lightning:".toList <+:
      locale.toLowerCase ("lightning:" ++ invoice).toList := by
    rw [split]
    exact locale.keeps _ _ (by decide)
  rw [removePrefix_of_colon split String.length_toList colon,
    String.ofList_toList]

variable (locale : DefaultLocale) (parts : PackedParts)
  (request : PaymentRequest)

theorem onCreate_invoiceAsString :
    (onCreate locale parts.extras request).invoiceAsString =
      trimEnd parts.invoice := by
  have colon : isTrimmed ':' = false := by decide
  have scheme : trimStart "lightning" ++ String.singleton ':' =
      "lightning:" := by decide
  have joined : "lightning:" ++ parts.invoice =
      "lightning" ++ String.singleton ':' ++ parts.invoice := by
    apply String.toList_inj.mp
    simp
  have trimmed : trim ("lightning:" ++ parts.invoice) =
      "lightning:" ++ trimEnd parts.invoice := by
    rw [joined, trim_append _ _ colon, scheme]
  simp only [onCreate, PackedParts.extras, putExtras]
  rw [trimmed, removePrefix_lightning]

theorem onCreate_goToFrag :
    (onCreate locale parts.extras request).goToFrag =
      trimStart parts.nextPayment ++ "," ++ trimEnd parts.note := by
  have comma : isTrimmed ',' = false := by decide
  have trimmed := trim_append parts.nextPayment parts.note comma
  rw [singleton_comma] at trimmed
  simp only [onCreate, PackedParts.extras, putExtras, Option.map_some,
    Option.getD_some]
  exact trimmed

theorem onCreate_notification :
    (onCreate locale parts.extras request).notification =
      if parts.notification then "notification" else "" := by
  have stays : trim "notification" = "notification" := by decide
  cases flag : parts.notification with
  | false => simp [onCreate, PackedParts.extras, putExtras, flag]
  | true => simp [onCreate, PackedParts.extras, putExtras, flag, stays]

theorem newPayment_packed (amountMsat : Int) (now : Nat) :
    (newPayment locale (onCreate locale parts.extras request) amountMsat
        now).invoiceId = some parts.invoiceId ∧
      (newPayment locale (onCreate locale parts.extras request) amountMsat
        now).description = some (trimEnd parts.invoice) := by
  have packed : (onCreate locale parts.extras request).goToFrag ≠ "" := by
    intro empty
    rw [onCreate_goToFrag] at empty
    have none := congrArg String.toList empty
    simp at none
  constructor
  · simp only [newPayment, if_neg packed]
    rw [onCreate_invoiceAsString, onCreate_goToFrag, onCreate_notification,
      PackedParts.invoiceId]
    cases parts.notification with
    | false => simp
    | true => simp [String.append_assoc]
  · simp only [newPayment, if_neg packed, onCreate_invoiceAsString]

theorem newPayment_plain (invoice : String) (amountMsat : Int) (now : Nat) :
    (newPayment locale (onCreate locale { invoice := invoice } request)
      amountMsat now).invoiceId = some "A" :=
  rfl

end SendPaymentActivity

/-! ## The pieces -/

namespace PackedParts

variable (parts : PackedParts)

theorem comma_not_mem_invoice : ',' ∉ (trimEnd parts.invoice).toList := by
  intro member
  rw [trimEnd, String.toList_ofList] at member
  exact parts.commaFree ((List.rdropWhile_prefix _ _).subset member)

/-- With the flag the pieces end with it, and none is dropped. -/
theorem splitString_flagged (flag : parts.notification = true) :
    splitString ',' parts.invoiceId =
      trimEnd parts.invoice ::
        (splitAll ',' (trimStart parts.nextPayment) ++
          (splitAll ',' (trimEnd parts.note) ++ ["notification"])) := by
  have word : splitAll ',' "notification" = ["notification"] :=
    splitAll_of_not_mem (by decide)
  have joined : parts.invoiceId =
      trimEnd parts.invoice ++ String.singleton ',' ++
        (trimStart parts.nextPayment ++ String.singleton ',' ++
          (trimEnd parts.note ++ String.singleton ',' ++ "notification")) := by
    rw [invoiceId, if_pos flag, singleton_comma]
    simp only [String.append_assoc]
  rw [joined, splitString_append, splitAll_append, splitAll_append, word,
    splitAll_of_not_mem parts.comma_not_mem_invoice]
  have regrouped : trimEnd parts.invoice ::
      (splitAll ',' (trimStart parts.nextPayment) ++
        (splitAll ',' (trimEnd parts.note) ++ ["notification"])) =
      (trimEnd parts.invoice ::
        (splitAll ',' (trimStart parts.nextPayment) ++
          splitAll ',' (trimEnd parts.note))) ++ ["notification"] := by
    simp
  rw [List.singleton_append, regrouped]
  exact List.rdropWhile_concat_neg _ _ _ (by decide)

theorem splitString_unflagged (flag : parts.notification = false) :
    splitString ',' parts.invoiceId =
      (trimEnd parts.invoice ::
        (splitAll ',' (trimStart parts.nextPayment) ++
          splitAll ',' (trimEnd parts.note))).rdropWhile
        (fun piece => piece = "") := by
  have joined : parts.invoiceId =
      trimEnd parts.invoice ++ String.singleton ',' ++
        (trimStart parts.nextPayment ++ String.singleton ',' ++
          trimEnd parts.note) := by
    rw [invoiceId, flag, singleton_comma]
    simp
  rw [joined, splitString_append, splitAll_append,
    splitAll_of_not_mem parts.comma_not_mem_invoice, List.singleton_append]

theorem first_piece {first : String} {rest : List String}
    (pieces : splitString ',' parts.invoiceId = first :: rest) :
    first = trimEnd parts.invoice := by
  cases flag : parts.notification with
  | true =>
      rw [parts.splitString_flagged flag, List.cons.injEq] at pieces
      exact pieces.1.symm
  | false =>
      rw [parts.splitString_unflagged flag] at pieces
      have start := List.rdropWhile_prefix (fun piece => decide (piece = ""))
        (trimEnd parts.invoice ::
          (splitAll ',' (trimStart parts.nextPayment) ++
            splitAll ',' (trimEnd parts.note)))
      rw [pieces, List.cons_prefix_cons] at start
      exact start.1

theorem invoiceId_ne_plain : parts.invoiceId ≠ "A" := by
  intro same
  have comma : ',' ∈ parts.invoiceId.toList := by
    simp [invoiceId]
  rw [same] at comma
  simp at comma

end PackedParts

/-! ## The rows -/

/-- The lightning rows: those of the writers, and what becomes of them when a
later write keeps the id and the description (a retry, a pending or a paid
payment, an assigned key) or when the payment fails. -/
inductive Written : InvoiceIdOrigin → Payment → Prop where
  | packed (locale : DefaultLocale) (parts : PackedParts)
      (request : PaymentRequest) (amountMsat : Int) (now : Nat) :
      Written (.packed parts)
        (SendPaymentActivity.newPayment locale
          (SendPaymentActivity.onCreate locale parts.extras request) amountMsat
          now)
  | plain (locale : DefaultLocale) (invoice : String) (request : PaymentRequest)
      (amountMsat : Int) (now : Nat) :
      Written .plain
        (SendPaymentActivity.newPayment locale
          (SendPaymentActivity.onCreate locale { invoice := invoice } request)
          amountMsat now)
  | unknownHtlc (h : DirectedHtlc) (now : Nat) :
      Written .unknownHtlc (NodeSupervisor.unknownHtlcPayment h now)
  | kept {origin : InvoiceIdOrigin} {p q : Payment} (before : Written origin p)
      (invoiceId : q.invoiceId = p.invoiceId)
      (description : q.description = p.description) : Written origin q
  | failed {origin : InvoiceIdOrigin} {p : Payment} {data first : String}
      {rest : List String} (before : Written origin p)
      (invoiceId : p.invoiceId = some data)
      (pieces : splitString ',' data = first :: rest) (now : Nat) :
      Written origin
        { p with
          description := some first
          status := some .failed
          updated := some now }

/-- The id and, for a packed payment, the description. -/
def InvoiceIdOrigin.Holds : InvoiceIdOrigin → Payment → Prop
  | .packed parts, p =>
      p.invoiceId = some parts.invoiceId ∧
        p.description = some (trimEnd parts.invoice)
  | .plain, p => p.invoiceId = some "A"
  | .unknownHtlc, p => p.invoiceId = none

theorem Written.holds {origin : InvoiceIdOrigin} {p : Payment}
    (written : Written origin p) : origin.Holds p := by
  induction written with
  | packed locale parts request amountMsat now =>
      exact SendPaymentActivity.newPayment_packed locale parts request
        amountMsat now
  | plain locale invoice request amountMsat now =>
      exact SendPaymentActivity.newPayment_plain locale request invoice
        amountMsat now
  | unknownHtlc h now => rfl
  | kept before invoiceId description induction =>
      rename_i origin p q
      cases origin with
      | packed parts =>
          exact ⟨invoiceId.trans induction.1, description.trans induction.2⟩
      | plain => exact invoiceId.trans induction
      | unknownHtlc => exact invoiceId.trans induction
  | failed before invoiceId pieces now induction =>
      rename_i origin p data first rest
      cases origin with
      | packed parts =>
          refine ⟨induction.1, ?_⟩
          have same : data = parts.invoiceId :=
            Option.some.inj (invoiceId.symm.trans induction.1)
          rw [same] at pieces
          exact congrArg some (parts.first_piece pieces)
      | plain => exact induction
      | unknownHtlc => exact induction

/-! ## What is recovered -/

/-- The three screens show exactly what was packed, two of them report the
outcome under its invoice, and the supervisor posts a failure under it. -/
structure PackedParts.Recovered (parts : PackedParts) (p : Payment) : Prop where
  success : ∀ device : Device,
    PaymentSuccessActivity.onCreate device p.invoiceId =
      .ok (.paid parts.invoice parts.nextPayment
        (device.paymentUpdate parts.invoice "/0") parts.notification)
  failure : ∀ device : Device,
    PaymentFailureActivity.onCreate device p.invoiceId =
      .ok
        { invoiceId := parts.invoice
          url := device.paymentUpdate parts.invoice "/1"
          notification := parts.notification }
  details : LNPaymentDetailsActivity.onStart p =
    .ok
      { desc := some parts.note
        next := some parts.nextPayment
        notification := parts.notification }
  supervisor : ∀ transformForUser payments event now,
    DBHelper.getPayment payments event.paymentHash .btcLn = some p →
      ∃ posted,
        .postFailed posted ∈ (NodeSupervisor.onPaymentFailed transformForUser
          payments event now).effects ∧
        posted.paymentDescription = some parts.invoice

/-- Nothing was packed: nothing is thrown, and no screen takes the branch of a
notification. -/
structure Payment.ReadAsPlain (p : Payment) : Prop where
  success : ∀ device,
    PaymentSuccessActivity.onCreate device p.invoiceId = .ok .plain
  failure : ∀ device, ∃ shown,
    PaymentFailureActivity.onCreate device p.invoiceId = .ok shown ∧
      shown.notification = false
  details : ∃ shown, LNPaymentDetailsActivity.onStart p = .ok shown ∧
    shown.notification = false
  supervisor : ∀ transformForUser payments event now,
    DBHelper.getPayment payments event.paymentHash .btcLn = some p →
      (NodeSupervisor.onPaymentFailed transformForUser payments event
        now).thrown = none

namespace InvoiceIdOrigin

def Decoded : InvoiceIdOrigin → Payment → Prop
  | .packed parts, p => parts.Recovered p
  | .plain, p => p.ReadAsPlain
  | .unknownHtlc, p => p.ReadAsPlain

/-- The rows the readers can read. -/
def Decodable : InvoiceIdOrigin → Prop
  | .packed parts => parts.Readable
  | .plain => True
  | .unknownHtlc => False

end InvoiceIdOrigin

/-! ## Two pieces or more -/

section

variable {p : Payment} {data first second : String} {rest : List String}

/-- A device that no token was given to. -/
def Device.unregistered : Device where
  deviceId := "0123456789abcdef"
  regId := "null"
  deviceId_plain := by decide
  regId_plain := by decide

theorem PaymentSuccessActivity.onCreate_of_pieces (device : Device)
    (notPlain : data ≠ "A")
    (pieces : splitString ',' data = first :: second :: rest) :
    onCreate device (some data) =
      (formatUrl (device.paymentUpdate first "/0")).map
        (fun url => .paid first second url (rest.length = 2)) := by
  simp only [onCreate, notPlain, pieces, if_false]
  cases formatUrl (device.paymentUpdate first "/0") with
  | error => rfl
  | ok url => simp [Except.map]

theorem PaymentSuccessActivity.recovers_iff (notPlain : data ≠ "A")
    (pieces : splitString ',' data = first :: second :: rest)
    (invoice next : String) (flag : Bool) :
    (∀ device : Device, onCreate device (some data) =
        .ok (.paid invoice next (device.paymentUpdate invoice "/0") flag)) ↔
      first = invoice ∧ second = next ∧ '%' ∉ invoice.toList ∧
        decide (rest.length = 2) = flag := by
  constructor
  · intro given
    have paid := given .unregistered
    rw [onCreate_of_pieces .unregistered notPlain pieces] at paid
    cases formatted : formatUrl (Device.unregistered.paymentUpdate first "/0")
    with
    | error =>
        rw [formatted] at paid
        cases paid
    | ok url =>
        rw [formatted] at paid
        injection paid with paid
        injection paid with sameInvoice sameNext sameUrl sameFlag
        rw [sameUrl, ← sameInvoice] at formatted
        have percent := (Device.unregistered.formatUrl_paymentUpdate_iff first
          (by decide)).mp formatted
        exact ⟨sameInvoice, sameNext, sameInvoice ▸ percent, sameFlag⟩
  · intro given device
    obtain ⟨rfl, rfl, percent, rfl⟩ := given
    rw [onCreate_of_pieces device notPlain pieces,
      (device.formatUrl_paymentUpdate_iff first (by decide)).mpr percent]
    rfl

theorem PaymentFailureActivity.onCreate_of_pieces (device : Device)
    (percent : '%' ∉ first.toList)
    (pieces : splitString ',' data = first :: rest) :
    onCreate device (some data) =
      .ok
        { invoiceId := first
          url := device.paymentUpdate first "/1"
          notification := first ≠ "A" ∧ rest.length = 3 } := by
  have plain : '%' ∉ "/1".toList := by decide
  have formatted := (device.formatUrl_paymentUpdate_iff first plain).mpr
    percent
  simp only [onCreate, pieces, formatted]
  simp

theorem LNPaymentDetailsActivity.onStart_of_pieces
    (invoiceId : p.invoiceId = some data) (notPlain : data ≠ "A")
    (pieces : splitString ',' data = first :: second :: rest) :
    onStart p =
      .ok
        { desc := if rest.length = 2 then rest.head? else p.description
          next := some second
          notification := rest.length = 2 } := by
  match rest, pieces with
  | [], pieces | [_], pieces | [_, _], pieces | _ :: _ :: _ :: _, pieces =>
      simp [onStart, invoiceId, notPlain, pieces]

end

namespace PackedParts

variable {parts : PackedParts} {p : Payment} {data : String}

theorem recovered_iff_of_pieces {first second : String} {rest : List String}
    (invoiceId : p.invoiceId = some data) (notPlain : data ≠ "A")
    (pieces : splitString ',' data = first :: second :: rest) :
    parts.Recovered p ↔
      first = parts.invoice ∧ second = parts.nextPayment ∧
      '%' ∉ parts.invoice.toList ∧
      decide (rest.length = 2) = parts.notification ∧
      (parts.notification = true → parts.invoice ≠ "A") ∧
      (if rest.length = 2 then rest.head? else p.description) =
        some parts.note := by
  have success := PaymentSuccessActivity.recovers_iff notPlain pieces
    parts.invoice parts.nextPayment parts.notification
  have details := LNPaymentDetailsActivity.onStart_of_pieces invoiceId notPlain
    pieces
  rw [← invoiceId] at success
  constructor
  · intro given
    obtain ⟨paid, failed, shown, _⟩ := given
    obtain ⟨sameInvoice, sameNext, percent, sameFlag⟩ := success.mp paid
    have failedSo := failed .unregistered
    rw [invoiceId, PaymentFailureActivity.onCreate_of_pieces .unregistered
      (sameInvoice ▸ percent) pieces] at failedSo
    rw [details] at shown
    injection failedSo with failedSo
    injection shown with shown
    injection failedSo with _ _ flagged
    injection shown with sameNote
    refine ⟨sameInvoice, sameNext, percent, sameFlag, ?_, sameNote⟩
    intro flag
    rw [flag] at flagged
    rw [← sameInvoice]
    exact (of_decide_eq_true flagged).1
  · intro given
    obtain ⟨rfl, rfl, percent, sameFlag, known, sameNote⟩ := given
    constructor
    · exact success.mpr ⟨rfl, rfl, percent, sameFlag⟩
    · intro device
      rw [invoiceId, PaymentFailureActivity.onCreate_of_pieces device percent
        pieces]
      cases flagged : parts.notification with
      | false =>
          have length : rest.length ≠ 2 := by simpa [flagged] using sameFlag
          simp [length]
      | true =>
          have length : rest.length = 2 := by simpa [flagged] using sameFlag
          simp [length, known flagged]
    · rw [details, sameFlag, sameNote]
    · intro transformForUser payments event now found
      rw [NodeSupervisor.onPaymentFailed_of_pieces transformForUser found
        invoiceId pieces now]
      exact ⟨_, List.mem_cons_self, rfl⟩

theorem exists_pieces_of_recovered (invoiceId : p.invoiceId = some data)
    (recovered : parts.Recovered p) :
    ∃ first second rest, splitString ',' data = first :: second :: rest := by
  have success := recovered.success .unregistered
  rw [invoiceId] at success
  match pieces : splitString ',' data with
  | [] | [_] =>
      simp only [PaymentSuccessActivity.onCreate, pieces] at success
      split at success
      · injection success with impossible
        cases impossible
      · cases success
  | first :: second :: rest => exact ⟨first, second, rest, rfl⟩

/-- With the flag every part is recovered exactly when there are four
pieces. -/
theorem recovered_iff_of_flagged (invoiceId : p.invoiceId =
    some parts.invoiceId) (flag : parts.notification = true) :
    parts.Recovered p ↔ parts.Readable := by
  obtain ⟨second, others, nextPieces⟩ := List.exists_cons_of_ne_nil
    (splitAll_ne_nil ',' (trimStart parts.nextPayment))
  have pieces := parts.splitString_flagged flag
  rw [nextPieces, List.cons_append] at pieces
  rw [recovered_iff_of_pieces invoiceId parts.invoiceId_ne_plain pieces]
  constructor
  · intro given
    obtain ⟨sameInvoice, sameNext, percent, length, known, sameNote⟩ := given
    rw [flag, decide_eq_true_eq] at length
    have notePieces := List.length_pos_of_ne_nil
      (splitAll_ne_nil ',' (trimEnd parts.note))
    simp only [List.length_append, List.length_singleton] at length
    have none : others = [] := List.eq_nil_of_length_eq_zero (by omega)
    have oneNote : (splitAll ',' (trimEnd parts.note)).length = 1 := by omega
    have nextApart : ',' ∉ (trimStart parts.nextPayment).toList := by
      apply not_mem_of_length_splitAll
      rw [nextPieces, none]
      rfl
    have noteApart := not_mem_of_length_splitAll oneNote
    rw [splitAll_of_not_mem nextApart, none] at nextPieces
    have nextKept : trimStart parts.nextPayment = parts.nextPayment :=
      (List.cons.inj nextPieces).1.trans sameNext
    rw [splitAll_of_not_mem noteApart, none] at sameNote
    have noteKept : trimEnd parts.note = parts.note := by
      simpa using sameNote
    refine ⟨⟨sameInvoice, nextKept, noteKept⟩, percent, ?_, ?_⟩
    · rw [← nextKept]
      exact nextApart
    · rw [NoteReadable, if_pos flag]
      refine ⟨?_, known flag⟩
      rw [← noteKept]
      exact noteApart
  · intro given
    obtain ⟨⟨invoiceKept, nextKept, noteKept⟩, percent, nextApart,
      noteReadable⟩ := given
    rw [NoteReadable, if_pos flag] at noteReadable
    rw [nextKept, splitAll_of_not_mem nextApart] at nextPieces
    injection nextPieces with same none
    subst others
    rw [noteKept, splitAll_of_not_mem noteReadable.1, flag]
    refine ⟨invoiceKept, same.symm, percent, ?_, fun _ => noteReadable.2, ?_⟩
    · simp
    · simp

theorem second_piece {first second : String} {rest : List String}
    (flag : parts.notification = false)
    (split : splitString ',' parts.invoiceId = first :: second :: rest) :
    ',' ∉ second.toList ∧
      (',' ∉ (trimStart parts.nextPayment).toList →
        second = trimStart parts.nextPayment) := by
  have start := List.rdropWhile_prefix (fun piece => decide (piece = ""))
    (trimEnd parts.invoice ::
      (splitAll ',' (trimStart parts.nextPayment) ++
        splitAll ',' (trimEnd parts.note)))
  rw [← parts.splitString_unflagged flag, split,
    List.cons_prefix_cons] at start
  constructor
  · have member := start.2.subset List.mem_cons_self
    rcases List.mem_append.mp member with inNext | inNote
    · exact not_mem_of_mem_splitAll inNext
    · exact not_mem_of_mem_splitAll inNote
  · intro apart
    rw [splitAll_of_not_mem apart, List.singleton_append,
      List.cons_prefix_cons] at start
    exact start.2.1

/-- Without the flag the note is read only in the place of the description. -/
theorem readable_of_unflagged
    (invoiceId : p.invoiceId = some parts.invoiceId)
    (description : p.description = some (trimEnd parts.invoice))
    (flag : parts.notification = false) (recovered : parts.Recovered p) :
    parts.Readable := by
  obtain ⟨first, second, rest, split⟩ :=
    exists_pieces_of_recovered invoiceId recovered
  obtain ⟨sameInvoice, sameNext, percent, length, _, sameNote⟩ :=
    (recovered_iff_of_pieces invoiceId parts.invoiceId_ne_plain
      split).mp recovered
  have invoiceKept : trimEnd parts.invoice = parts.invoice :=
    (parts.first_piece split).symm.trans sameInvoice
  rw [flag, decide_eq_false_iff_not] at length
  rw [if_neg length, description, invoiceKept, Option.some.injEq] at sameNote
  have noteKept : trimEnd parts.note = parts.note := by
    rw [← sameNote]
    exact invoiceKept
  obtain ⟨nextApart, sameStart⟩ := second_piece flag split
  rw [sameNext] at nextApart sameStart
  have startApart : ',' ∉ (trimStart parts.nextPayment).toList := by
    intro member
    rw [trimStart, String.toList_ofList] at member
    exact nextApart ((List.dropWhile_suffix _).subset member)
  have nextKept : trimStart parts.nextPayment = parts.nextPayment :=
    (sameStart startApart).symm
  refine ⟨⟨invoiceKept, nextKept, noteKept⟩, percent, nextApart, ?_⟩
  simp only [NoteReadable, flag, Bool.false_eq_true, if_false]
  refine ⟨sameNote.symm, ?_⟩
  -- with both texts empty, all pieces are empty and are dropped
  by_contra none
  simp only [not_or, not_not] at none
  obtain ⟨noInvoice, noNext⟩ := none
  have noNote : parts.note = "" := sameNote.symm.trans noInvoice
  have empty : splitAll ',' "" = [""] := by decide
  rw [parts.splitString_unflagged flag, invoiceKept, nextKept, noteKept,
    noInvoice, noNext, noNote, empty] at split
  simp [List.rdropWhile] at split

theorem recovered_of_unflagged
    (invoiceId : p.invoiceId = some parts.invoiceId)
    (description : p.description = some (trimEnd parts.invoice))
    (flag : parts.notification = false) (readable : parts.Readable) :
    parts.Recovered p := by
  obtain ⟨⟨invoiceKept, nextKept, noteKept⟩, percent, nextApart,
    noteReadable⟩ := readable
  simp only [NoteReadable, flag, Bool.false_eq_true, if_false] at noteReadable
  obtain ⟨sameNote, nonempty⟩ := noteReadable
  have pieces := parts.splitString_unflagged flag
  have noteApart : ',' ∉ parts.note.toList := by
    rw [sameNote]
    exact parts.commaFree
  rw [invoiceKept, nextKept, noteKept, splitAll_of_not_mem nextApart,
    splitAll_of_not_mem noteApart, sameNote] at pieces
  by_cases noInvoice : parts.invoice = ""
  · have next : parts.nextPayment ≠ "" :=
      nonempty.resolve_left (fun some => some noInvoice)
    have split : splitString ',' parts.invoiceId =
        parts.invoice :: parts.nextPayment :: [] := by
      rw [pieces, noInvoice]
      simp [List.rdropWhile, next]
    apply (recovered_iff_of_pieces invoiceId parts.invoiceId_ne_plain
      split).mpr
    simp [flag, description, invoiceKept, percent, sameNote]
  · have split : splitString ',' parts.invoiceId =
        parts.invoice :: parts.nextPayment :: [parts.invoice] := by
      rw [pieces]
      simp [List.rdropWhile, noInvoice]
    apply (recovered_iff_of_pieces invoiceId parts.invoiceId_ne_plain
      split).mpr
    simp [flag, description, invoiceKept, percent, sameNote]

end PackedParts

theorem Payment.readAsPlain_of_plain {p : Payment}
    (data : p.invoiceId = some "A") : p.ReadAsPlain := by
  have pieces : splitString ',' "A" = ["A"] := by decide
  constructor
  · intro device
    rw [data]
    rfl
  · intro device
    rw [data, PaymentFailureActivity.onCreate_of_pieces device (by decide)
      pieces]
    exact ⟨_, rfl, by simp⟩
  · refine ⟨{ desc := p.description, next := none, notification := false },
      ?_, rfl⟩
    simp [LNPaymentDetailsActivity.onStart, data]
  · intro transformForUser payments event now found
    rw [NodeSupervisor.onPaymentFailed_of_pieces transformForUser found data
      pieces now]

/-- The readers recover what was packed, and throw nothing, exactly on the
readable rows. -/
theorem decoded_iff {origin : InvoiceIdOrigin} {p : Payment}
    (written : Written origin p) : origin.Decoded p ↔ origin.Decodable := by
  have holds := written.holds
  cases origin with
  | packed parts =>
      obtain ⟨invoiceId, description⟩ := holds
      cases flag : parts.notification with
      | true => exact PackedParts.recovered_iff_of_flagged invoiceId flag
      | false =>
          constructor
          · exact PackedParts.readable_of_unflagged invoiceId description flag
          · exact PackedParts.recovered_of_unflagged invoiceId description flag
  | plain =>
      have data : p.invoiceId = some "A" := holds
      exact iff_of_true (Payment.readAsPlain_of_plain data) trivial
  | unknownHtlc =>
      have null : p.invoiceId = none := holds
      refine iff_of_false ?_ id
      intro decoded
      have success := decoded.success .unregistered
      rw [null] at success
      cases success

/-! ## A note with a comma -/

def sampleInvoiceRequest : PaymentRequest where
  chainPrefix := "lntb"
  paymentHash := "hash"
  nodeId := "node"
  amountMsat := some 1000
  description := .inl "coffee"

/-- A payment from the notification screen. -/
def notified (serviceName : String) : PackedParts where
  invoice := "lntb1invoice"
  nextPayment := "Your Next Payment Date is 2018-10-01"
  note := serviceName
  notification := true
  commaFree := by decide

theorem notified_extras (serviceName : String) :
    (notified serviceName).extras =
      NotificationActivity.onClick "lntb1invoice" "2018-10-01" serviceName := by
  have text : "Your Next Payment Date is " ++ "2018-10-01" =
      "Your Next Payment Date is 2018-10-01" := by decide
  rw [NotificationActivity.onClick, text]
  simp only [PackedParts.extras, notified, if_true]

theorem decoded_without_comma :
    (InvoiceIdOrigin.packed (notified "Gym")).Decoded
      (SendPaymentActivity.newPayment .ascii
        (SendPaymentActivity.onCreate .ascii
          (NotificationActivity.onClick "lntb1invoice" "2018-10-01" "Gym")
          sampleInvoiceRequest) 1000 0) := by
  rw [← notified_extras]
  exact (decoded_iff
    (.packed .ascii (notified "Gym") sampleInvoiceRequest 1000 0)).mpr
      ⟨⟨by decide, by decide, by decide⟩, by decide, by decide, by decide⟩

/-- With a comma in the name of the service there are five pieces, and the
screens take the branch without a notification. -/
theorem invoice_id_not_decoded :
    ¬ ∀ (origin : InvoiceIdOrigin) (p : Payment), Written origin p →
      origin.Decoded p := by
  intro claim
  have decoded := claim _ _
    (.packed .ascii (notified "Gym, pool") sampleInvoiceRequest 1000 0)
  have invoiceId := (SendPaymentActivity.newPayment_packed .ascii
    (notified "Gym, pool") sampleInvoiceRequest 1000 0).1
  have readable := (PackedParts.recovered_iff_of_flagged invoiceId rfl).mp
    decoded
  have noComma := readable.note
  revert noComma
  decide

/-- A percent sign in the invoice is the start of a specifier, and formatting
throws. -/
example : PaymentSuccessActivity.onCreate .unregistered
    (some "lntb1%,Your Next Payment Date is 2018-10-01,Gym,notification") =
      .error .illegalArgument := by
  decide +kernel

end EclairWallet
