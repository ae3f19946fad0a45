import EclairWallet.Schedule.SummaryPurchase

/-!
# The list of notifications

A view holder keeps the listener of the last binding that came to its end.
The listener has captured the invoice and the date, and reads the name of the
service from the adapter, where the last binding that found a name left it.
-/

namespace EclairWallet

open AndroidJson
open SummaryPurchaseFragment (Platform)

namespace NotificationAdapter

variable (platform : Platform) {size : Nat}

/-- The arguments of `OnItemClick.onClick`. -/
structure Callback where
  invoiceId : String
  paymentDate : String
  serviceName : String
  deriving DecidableEq

/-- A view holder: the position it was last bound to, its texts, and the
invoice and the date that the listener of its button has captured. -/
structure MyViewHolder (size : Nat) where
  position : Option (Fin size) := none
  service : String := ""
  date : String := ""
  amount : String := ""
  listener : Option (String × String) := none

structure Adapter (size : Nat) where
  serviceName : String := ""
  holders : Nat → MyViewHolder size := fun _ => {}

inductive Event (size : Nat) where
  | bind (holder : Nat) (position : Fin size)
  | click (holder : Nat)

def setHolder (adapter : Adapter size) (holder : Nat)
    (view : MyViewHolder size) : Adapter size :=
  { adapter with holders := Function.update adapter.holders holder view }

/-! ## The adapter -/

def getMonth (m : Int) : Int :=
  if m = 12 then 1 else m + 1

/-- The months of the summary are spelled alike. -/
def getMonthInString (m : Int) : Option String :=
  (SummaryPurchaseFragment.getMonthInString m).toOption

/-- The name that a notification gives for its service: the note, or the name
proper. -/
def nameOf (service : JSONObject) : Option String :=
  if service.has "note" then service.getString platform.coercions "note"
  else if service.has "service_name" then
    service.getString platform.coercions "service_name"
  else none

/-- The amount in the row, and the pieces of the date. -/
def readTexts (data : JSONObject) : Option (String × List String) := do
  let regularAmount ← data.getString platform.coercions "regular_amount"
  let amt ← platform.coercions.parseDouble regularAmount
  let amtBtc ← (SummaryPurchaseFragment.plainText platform amt).toOption
  let paymentDate ← data.getString platform.coercions "payment_date"
  return (amtBtc, JavaText.splitString 'T' paymentDate)

/-- What the listener captures: the invoice, and the next month with the day
of the date. -/
def readListener (data : JSONObject) (date : String) :
    Option (String × String) := do
  let invoiceId ← data.getString platform.coercions "invoice_id"
  let day := JavaText.splitString '-' date
  let month ← day[1]?
  let m ← JavaNumber.parseInt platform.digits month.toList
  let monthString ← getMonthInString (getMonth m)
  let dayOfMonth ← day[2]?
  return (invoiceId, monthString ++ " " ++ dayOfMonth)

/-- What is read of one element before an exception: the object of the service
at least, then the texts, then what the listener captures. -/
def onBindViewHolder (list : List Json) (adapter : Adapter size)
    (holder : Nat) (position : Fin size) : Adapter size :=
  match list[position.val]?.bind Json.toObject with
  | none => adapter
  | some data =>
      match data.getJSONObject "schedule_parent_id" with
      | none => adapter
      | some service =>
          -- a name stays until an element with a name is bound
          let named := { adapter with
            serviceName :=
              (nameOf platform service).getD adapter.serviceName }
          match readTexts platform data with
          | none => named
          | some (amount, pieces) =>
              -- the service is set before the first piece is looked at
              let view := { named.holders holder with
                service := named.serviceName }
              match pieces[0]? with
              | none => setHolder named holder view
              | some date =>
                  let view := { view with date, amount }
                  match readListener platform data date with
                  | none => setHolder named holder view
                  | some listener =>
                      setHolder named holder { view with listener }

/-- The recycler view notes the position before it calls the adapter. -/
def handle (list : List Json) (adapter : Adapter size) :
    Event size → Adapter size
  | .bind holder position =>
      onBindViewHolder platform list
        (setHolder adapter holder
          { adapter.holders holder with position := some position })
        holder position
  | .click _ => adapter

def run (list : List Json) (events : List (Event size)) : Adapter size :=
  events.foldl (handle platform list) {}

/-- The call a click on the button makes, if there is a listener. -/
def clicked (adapter : Adapter size) (holder : Nat) : Option Callback :=
  (adapter.holders holder).listener.map (fun captured =>
    ⟨captured.1, captured.2, adapter.serviceName⟩)

/-! ## What an element stands for -/

/-- The object of an element and that of its service. -/
def objectsAt (list : List Json) (position : Fin size) :
    Option (JSONObject × JSONObject) := do
  let data ← list[position.val]?.bind Json.toObject
  let service ← data.getJSONObject "schedule_parent_id"
  return (data, service)

/-- The name of the service that an element names. -/
def nameAt (list : List Json) (position : Fin size) : Option String :=
  (objectsAt list position).bind (fun objects => nameOf platform objects.2)

/-- The invoice and the date of an element whose binding comes to its end. -/
def listenerAt (list : List Json) (position : Fin size) :
    Option (String × String) := do
  let (data, _) ← objectsAt list position
  let (_, pieces) ← readTexts platform data
  let date ← pieces[0]?
  readListener platform data date

/-- What a click on the row of an element should pass. -/
def own (list : List Json) (position : Fin size) : Option Callback :=
  (listenerAt platform list position).map (fun captured =>
    ⟨captured.1, captured.2, (nameAt platform list position).getD ""⟩)

variable {platform}

/-! ## One binding -/

/-- A binding leaves the name of the element, or that before it; it touches
its own view holder only, which stays where it is and has the listener of the
element, or that before it. -/
theorem onBindViewHolder_cases (list : List Json) (adapter : Adapter size)
    (holder : Nat) (position : Fin size) :
    ∃ view, onBindViewHolder platform list adapter holder position =
        { serviceName :=
            (nameAt platform list position).getD adapter.serviceName
          holders := Function.update adapter.holders holder view } ∧
      view.position = (adapter.holders holder).position ∧
      view.listener = (listenerAt platform list position).or
        (adapter.holders holder).listener := by
  have untouched : Function.update adapter.holders holder
      (adapter.holders holder) = adapter.holders :=
    Function.update_eq_self holder adapter.holders
  unfold onBindViewHolder nameAt listenerAt objectsAt
  cases list[position.val]?.bind Json.toObject with
  | none => exact ⟨adapter.holders holder, by rw [untouched]; rfl, rfl, rfl⟩
  | some data =>
      simp only [Option.bind_eq_bind, Option.bind_some]
      cases data.getJSONObject "schedule_parent_id" with
      | none =>
          exact ⟨adapter.holders holder, by rw [untouched]; rfl, rfl, rfl⟩
      | some service =>
          simp only [Option.bind_some, Option.pure_def]
          cases readTexts platform data with
          | none => exact ⟨adapter.holders holder, by rw [untouched], rfl, rfl⟩
          | some texts =>
              simp only [Option.bind_some]
              cases texts.2[0]? with
              | none => exact ⟨_, rfl, rfl, rfl⟩
              | some date =>
                  simp only [Option.bind_some]
                  cases readListener platform data date with
                  | none => exact ⟨_, rfl, rfl, rfl⟩
                  | some listener => exact ⟨_, rfl, rfl, rfl⟩

theorem handle_bind_cases (list : List Json) (adapter : Adapter size)
    (holder : Nat) (position : Fin size) :
    ∃ view, handle platform list adapter (.bind holder position) =
        { serviceName :=
            (nameAt platform list position).getD adapter.serviceName
          holders := Function.update adapter.holders holder view } ∧
      view.position = some position ∧
      view.listener = (listenerAt platform list position).or
        (adapter.holders holder).listener := by
  obtain ⟨view, result, stays, listens⟩ :=
    @onBindViewHolder_cases platform size list
      (setHolder adapter holder
        { adapter.holders holder with position := some position })
      holder position
  refine ⟨view, ?_, ?_, ?_⟩
  · rw [handle, result, setHolder, Function.update_idem]
  · simp only [stays, setHolder, Function.update_self]
  · simp only [listens, setHolder, Function.update_self]

/-! ## Runs -/

/-- The name an event leaves in the adapter. -/
def namedBy (platform : Platform) (list : List Json) :
    Event size → Option String
  | .bind _ position => nameAt platform list position
  | .click _ => none

/-- The name that was bound last. -/
def lastNamed (platform : Platform) (list : List Json)
    (past : List (Event size)) : String :=
  (past.reverse.findSome? (namedBy platform list)).getD ""

/-- The listener an event leaves in a view holder. -/
def listenedBy (platform : Platform) (list : List Json) (holder : Nat) :
    Event size → Option (String × String)
  | .bind bound position =>
      if bound = holder then listenerAt platform list position else none
  | .click _ => none

theorem run_snoc (list : List Json) (past : List (Event size))
    (event : Event size) :
    run platform list (past ++ [event]) =
      handle platform list (run platform list past) event := by
  simp [run, List.foldl_append]

theorem run_serviceName (list : List Json) (past : List (Event size)) :
    (run platform list past).serviceName = lastNamed platform list past := by
  induction past using List.reverseRecOn with
  | nil => rfl
  | append_singleton past event induction =>
      rw [run_snoc, lastNamed, List.reverse_append, List.reverse_singleton,
        List.singleton_append, List.findSome?_cons]
      cases event with
      | bind holder position =>
          obtain ⟨view, result, _, _⟩ :=
            @handle_bind_cases platform size list (run platform list past)
              holder position
          rw [result, induction, namedBy, lastNamed]
          cases nameAt platform list position with
          | none => rfl
          | some name => rfl
      | click holder => exact induction

theorem run_listener (list : List Json) (past : List (Event size))
    (holder : Nat) :
    ((run platform list past).holders holder).listener =
      past.reverse.findSome? (listenedBy platform list holder) := by
  induction past using List.reverseRecOn with
  | nil => rfl
  | append_singleton past event induction =>
      rw [run_snoc, List.reverse_append, List.reverse_singleton,
        List.singleton_append, List.findSome?_cons]
      cases event with
      | bind bound position =>
          obtain ⟨view, result, _, listens⟩ :=
            @handle_bind_cases platform size list (run platform list past)
              bound position
          rw [result, listenedBy]
          by_cases same : bound = holder
          · subst bound
            simp only [Function.update_self, listens, induction, if_true]
            cases listenerAt platform list position with
            | none => rfl
            | some listener => rfl
          · simp only [Function.update_of_ne (Ne.symm same), induction,
              if_neg same]
      | click clickedHolder => exact induction

/-- The element that a view holder shows was bound to it last, so that its
listener is there if it has one. -/
theorem run_position {list : List Json} {past : List (Event size)}
    {holder : Nat} {position : Fin size}
    (showing : ((run platform list past).holders holder).position =
      some position) :
    ((run platform list past).holders holder).listener =
      (listenerAt platform list position).or
        ((run platform list past).holders holder).listener := by
  induction past using List.reverseRecOn with
  | nil => cases showing
  | append_singleton past event induction =>
      rw [run_snoc] at showing ⊢
      cases event with
      | bind bound position' =>
          obtain ⟨view, result, shows, listens⟩ :=
            @handle_bind_cases platform size list (run platform list past)
              bound position'
          rw [result] at showing ⊢
          by_cases same : bound = holder
          · subst bound
            simp only [Function.update_self, shows,
              Option.some.injEq] at showing ⊢
            subst position'
            rw [listens]
            cases listenerAt platform list position with
            | none => rfl
            | some listener => rfl
          · simp only [Function.update_of_ne (Ne.symm same)] at showing ⊢
            exact induction showing
      | click clickedHolder => exact induction showing

/-! ## Taps -/

/-- The property holds of every tap of the run on a row, of what happened
before it, and of the element that the row shows. -/
def EveryTap (platform : Platform) (list : List Json)
    (events : List (Event size))
    (property : List (Event size) → Nat → Fin size → Prop) : Prop :=
  ∀ past holder rest position, events = past ++ .click holder :: rest →
    ((run platform list past).holders holder).position = some position →
    property past holder position

/-- The tap passes what its element stands for, or nothing if the element
stands for nothing. -/
def Shown (platform : Platform) (list : List Json) (past : List (Event size))
    (holder : Nat) (position : Fin size) : Prop :=
  clicked (run platform list past) holder = own platform list position

/-- The name bound last is that of the element, if the element is complete;
if not, no complete element was ever bound to its view holder. -/
def Undisturbed (platform : Platform) (list : List Json)
    (past : List (Event size)) (holder : Nat) (position : Fin size) : Prop :=
  if (listenerAt platform list position).isSome then
    lastNamed platform list past = (nameAt platform list position).getD ""
  else
    ∀ earlier, Event.bind holder earlier ∈ past →
      listenerAt platform list earlier = none

theorem findSome?_listenedBy_eq_none_iff {list : List Json}
    {past : List (Event size)} {holder : Nat} :
    past.reverse.findSome? (listenedBy platform list holder) = none ↔
      ∀ earlier, Event.bind holder earlier ∈ past →
        listenerAt platform list earlier = none := by
  simp only [List.findSome?_eq_none_iff, List.mem_reverse]
  constructor
  · intro silent earlier member
    simpa [listenedBy] using silent _ member
  · intro silent event member
    cases event with
    | bind bound earlier =>
        rw [listenedBy]
        split
        · rename_i same
          subst bound
          exact silent earlier member
        · rfl
    | click clickedHolder => rfl

/-- A tap is right exactly when nothing disturbed it. -/
theorem shown_iff_undisturbed {list : List Json} {past : List (Event size)}
    {holder : Nat} {position : Fin size}
    (showing : ((run platform list past).holders holder).position =
      some position) :
    Shown platform list past holder position ↔
      Undisturbed platform list past holder position := by
  have last := run_position showing
  rw [Shown, clicked, own, run_serviceName, Undisturbed]
  cases complete : listenerAt platform list position with
  | none =>
      rw [if_neg (by simp), Option.map_none, Option.map_eq_none_iff,
        run_listener]
      exact findSome?_listenedBy_eq_none_iff
  | some captured =>
      rw [complete, Option.some_or] at last
      rw [last, if_pos (by simp)]
      simp

/-- Every tap of every run passes what its row shows exactly when nothing
disturbs one. -/
theorem tapped_iff (platform : Platform) (list : List Json)
    (events : List (Event list.length)) :
    EveryTap platform list events (Shown platform list) ↔
      EveryTap platform list events (Undisturbed platform list) := by
  constructor
  · intro shown past holder rest position split showing
    exact (shown_iff_undisturbed showing).mp
      (shown past holder rest position split showing)
  · intro undisturbed past holder rest position split showing
    exact (shown_iff_undisturbed showing).mpr
      (undisturbed past holder rest position split showing)

/-- A complete notification of an invoice of a service. -/
def notification (invoiceId serviceName : String) : Json :=
  .object [("schedule_parent_id",
      .object [("service_name", .string serviceName)]),
    ("regular_amount", .string "1"),
    ("payment_date", .string "2019-01-05T"),
    ("invoice_id", .string invoiceId)]

/-- Two rows are bound, and the first one is tapped: its invoice is passed
under the name of the second. -/
theorem first_row_under_second_name :
    ¬ ∀ (platform : Platform) (list : List Json)
        (events : List (Event list.length)),
      EveryTap platform list events (Shown platform list) := by
  intro claim
  have shown := claim .wholePlatform
    [notification "a" "A", notification "b" "B"]
    [.bind 0 0, .bind 1 1, .click 0] [.bind 0 0, .bind 1 1] 0 [] 0 rfl rfl
  have passed : clicked (run .wholePlatform
      [notification "a" "A", notification "b" "B"]
      [.bind 0 0, .bind 1 1] : Adapter 2) 0 =
        some ⟨"a", "February 05", "B"⟩ := by
    decide
  have expected : own .wholePlatform
      [notification "a" "A", notification "b" "B"] (0 : Fin 2) =
        some ⟨"a", "February 05", "A"⟩ := by
    decide
  have same := (passed.symm.trans shown).trans expected
  exact absurd same (by decide)

end NotificationAdapter

end EclairWallet
