import EclairWallet.Schedule.ManageRegularPayment
import EclairWallet.Schedule.SummarySafe

/-!
# The schedule that is cancelled

A row that can be clicked was bound to its own element, without an exception
unless the element is that of a payment.  So the request that cancels goes to
a schedule the user clicked, and the row showed its id and its status.
-/

namespace EclairWallet

open AndroidJson
open ManageRegularPaymentAdapter (MyViewHolder onBindViewHolder showPayment
  showSchedule statusText)
open ManageRegularPamentFragment (onClick)
open InviceScheduleDetailsFragment (requestUrl urlCancelPayment showsCancel)
open SummaryPurchaseFragment (Platform bind_eq_ok_iff)

variable {platform : Platform}

/-- The row is that of the schedule. -/
def ScheduleArguments.ShownBy (arguments : ScheduleArguments)
    (view : MyViewHolder) : Prop :=
  view.sceduleId = arguments.scheduleId ∧
    view.status = statusText arguments.status

/-- The element at a position is not that of a payment. -/
def IsSchedule (list : List Json) (position : Nat) : Prop :=
  ∀ data, list[position]?.bind Json.toObject = some data →
    ¬ (data.has "regular_amount" ∧ data.has "payment_date")

/-! ## One binding -/

/-- What a click would hand over is what the binding has shown. -/
theorem shownBy_onBindViewHolder {list : List Json} {position : Nat}
    {arguments : ScheduleArguments}
    (clicked : onClick platform list position = some arguments)
    (isSchedule : IsSchedule list position) (holder : MyViewHolder) :
    arguments.ShownBy (onBindViewHolder platform list holder position) := by
  obtain ⟨data, found, read⟩ := Option.bind_eq_some_iff.mp clicked
  obtain ⟨scheduleId, named, read⟩ := Option.bind_eq_some_iff.mp read
  obtain ⟨status, flagged, same⟩ := Option.bind_eq_some_iff.mp read
  cases same
  have schedule := isSchedule data found
  have apart : ¬ (data.has "regular_amount" ∧
      data.has "actual_payment_date" ∧ data.has "payment_date") :=
    fun payment => schedule ⟨payment.1, payment.2.2⟩
  simp only [onBindViewHolder, found, if_neg apart, if_neg schedule,
    showSchedule, named, flagged]
  exact ⟨rfl, rfl⟩

theorem position_onBindViewHolder (list : List Json) (holder : MyViewHolder)
    (position : Nat) :
    (onBindViewHolder platform list holder position).position =
      holder.position := by
  have payment : ∀ data key,
      (showPayment platform data key holder).position = holder.position := by
    intro data key
    unfold showPayment
    split
    · split <;> rfl
    · rfl
  have schedule : ∀ data,
      (showSchedule platform data holder).position = holder.position := by
    intro data
    unfold showSchedule
    split <;> rfl
  unfold onBindViewHolder
  split
  · rfl
  · split
    · exact payment _ _
    · split
      · exact payment _ _
      · exact schedule _

namespace ManageScreens

variable {screens next : ManageScreens} {event : ManageEvent}

/-! ## One step -/

/-- What each event does when it can happen. -/
inductive Steps (platform : Platform) (screens : ManageScreens) :
    ManageEvent → ManageScreens → Prop where
  | lists (jo : JSONObject) (list : List Json) :
      Steps platform screens (.response jo) (screens.showList list)
  | refuses (jo : JSONObject) : Steps platform screens (.response jo) screens
  | binds (holder position : Nat) :
      Steps platform screens (.bind holder position)
        (screens.bind platform holder position)
  | opens {holder position : Nat} {arguments : ScheduleArguments}
      (bound : (screens.holders holder).position = some position)
      (clicked : onClick platform screens.list position = some arguments) :
      Steps platform screens (.click holder)
        { screens with details := screens.details ++ [arguments] }
  | ignores (holder : Nat) : Steps platform screens (.click holder) screens
  | asks {index : Nat} {arguments : ScheduleArguments}
      (opened : screens.details[index]? = some arguments)
      (visible : showsCancel arguments = true) :
      Steps platform screens (.cancel index)
        { screens with dialog := some arguments }
  | sends {arguments : ScheduleArguments} {url : String}
      (asked : screens.dialog = some arguments)
      (formatted : requestUrl urlCancelPayment arguments.scheduleId =
        .ok url) :
      Steps platform screens .yes
        { screens with
          dialog := none, requests := screens.requests ++ [url] }
  | declines : Steps platform screens .no { screens with dialog := none }

theorem toOption_eq_some_iff {Value : Type}
    {result : Except JavaException Value} {value : Value} :
    result.toOption = some value ↔ result = .ok value := by
  cases result with
  | error thrown => simp [Except.toOption]
  | ok found => simp [Except.toOption]

theorem steps_of_step (result : step platform screens event = some next) :
    Steps platform screens event next := by
  cases event with
  | response jo =>
      rw [step, Option.some.injEq] at result
      subst next
      cases ManageRegularPamentFragment.onResponse platform jo with
      | none => exact .refuses jo
      | some list => exact .lists jo list
  | bind holder position =>
      obtain ⟨_, same⟩ := Option.ite_none_right_eq_some.mp result
      cases same
      exact .binds holder position
  | click holder =>
      obtain ⟨position, bound, handled⟩ := Option.bind_eq_some_iff.mp result
      rw [toOption_eq_some_iff, ManageScreens.click] at handled
      cases clicked : onClick platform screens.list position with
      | none =>
          simp only [clicked, Except.ok.injEq] at handled
          subst next
          exact .ignores holder
      | some arguments =>
          simp only [clicked] at handled
          obtain ⟨_, _, same⟩ := bind_eq_ok_iff.mp handled
          cases same
          exact .opens bound clicked
  | cancel index =>
      obtain ⟨arguments, opened, handled⟩ := Option.bind_eq_some_iff.mp result
      obtain ⟨⟨_, visible⟩, same⟩ := Option.ite_none_right_eq_some.mp handled
      cases same
      exact .asks opened visible
  | yes =>
      obtain ⟨arguments, asked, handled⟩ := Option.bind_eq_some_iff.mp result
      rw [toOption_eq_some_iff] at handled
      obtain ⟨url, formatted, same⟩ := bind_eq_ok_iff.mp handled
      cases same
      exact .sends asked formatted
  | no =>
      obtain ⟨_, _, same⟩ := Option.map_eq_some_iff.mp result
      cases same
      exact .declines

/-! ## The invariant -/

/-- Every row that is bound shows its schedule, and the question is about a
schedule whose details were opened and that can be cancelled. -/
structure Inv (platform : Platform) (screens : ManageScreens) :
    Prop where
  shown : ∀ holder position arguments,
    (screens.holders holder).position = some position →
    onClick platform screens.list position = some arguments →
    IsSchedule screens.list position →
    arguments.ShownBy (screens.holders holder)
  asked : ∀ arguments, screens.dialog = some arguments →
    arguments ∈ screens.details ∧ showsCancel arguments = true

theorem inv_start : Inv platform {} := by
  constructor
  · intro holder position arguments bound
    cases bound
  · intro arguments asked
    cases asked

theorem Inv.showList (inv : Inv platform screens) (list : List Json) :
    Inv platform (screens.showList list) := by
  constructor
  · intro holder position arguments bound
    cases bound
  · exact inv.asked

theorem Inv.bind (inv : Inv platform screens) (holder position : Nat) :
    Inv platform (screens.bind platform holder position) := by
  constructor
  · intro other index arguments bound clicked isSchedule
    by_cases same : other = holder
    · subst other
      simp only [ManageScreens.bind, Function.update_self,
        position_onBindViewHolder, Option.some.injEq] at bound ⊢
      subst index
      exact shownBy_onBindViewHolder clicked isSchedule _
    · simp only [ManageScreens.bind, Function.update_of_ne same] at bound ⊢
      exact inv.shown other index arguments bound clicked isSchedule
  · exact inv.asked

theorem Inv.step (inv : Inv platform screens)
    (result : step platform screens event = some next) :
    Inv platform next := by
  cases steps_of_step result with
  | lists jo list => exact inv.showList list
  | refuses jo => exact inv
  | binds holder position => exact inv.bind holder position
  | opens bound clicked =>
      refine ⟨inv.shown, ?_⟩
      intro arguments asked
      obtain ⟨opened, visible⟩ := inv.asked arguments asked
      exact ⟨List.mem_append_left _ opened, visible⟩
  | ignores holder => exact inv
  | asks opened visible =>
      refine ⟨inv.shown, ?_⟩
      intro arguments asked
      cases asked
      exact ⟨List.mem_of_getElem? opened, visible⟩
  | sends asked formatted =>
      refine ⟨inv.shown, ?_⟩
      intro arguments impossible
      cases impossible
  | declines =>
      refine ⟨inv.shown, ?_⟩
      intro arguments impossible
      cases impossible

/-! ## Where requests and details come from -/

/-- The user answers the question with yes, and a request goes out after so
many others. -/
def SendsRequest (index : Nat) (url : String) (screens : ManageScreens)
    (event : ManageEvent) : Prop :=
  event = .yes ∧ screens.requests.length = index ∧
    ∃ arguments, screens.dialog = some arguments ∧
      requestUrl urlCancelPayment arguments.scheduleId = .ok url

/-- The user clicks a row, and the details are opened. -/
def OpensDetails (platform : Platform)
    (arguments : ScheduleArguments) (screens : ManageScreens)
    (event : ManageEvent) : Prop :=
  ∃ holder position, event = .click holder ∧
    (screens.holders holder).position = some position ∧
    onClick platform screens.list position = some arguments

theorem request_explained {index : Nat} {url : String}
    (result : step platform screens event = some next)
    (sent : next.requests[index]? = some url) :
    screens.requests[index]? = some url ∨
      SendsRequest index url screens event := by
  cases steps_of_step result with
  | sends asked formatted =>
      rw [List.getElem?_append] at sent
      split at sent
      · exact .inl sent
      · rename_i late
        rw [List.getElem?_singleton] at sent
        obtain ⟨last, same⟩ := Option.ite_none_right_eq_some.mp sent
        cases same
        exact .inr ⟨rfl, by omega, _, asked, formatted⟩
  | lists => exact .inl sent
  | refuses => exact .inl sent
  | binds => exact .inl sent
  | opens => exact .inl sent
  | ignores => exact .inl sent
  | asks => exact .inl sent
  | declines => exact .inl sent

theorem details_explained {arguments : ScheduleArguments}
    (result : step platform screens event = some next)
    (opened : arguments ∈ next.details) :
    arguments ∈ screens.details ∨
      OpensDetails platform arguments screens event := by
  cases steps_of_step result with
  | opens bound clicked =>
      rcases List.mem_append.mp opened with before | last
      · exact .inl before
      · obtain rfl := List.mem_singleton.mp last
        exact .inr ⟨_, _, rfl, bound, clicked⟩
  | lists => exact .inl opened
  | refuses => exact .inl opened
  | binds => exact .inl opened
  | ignores => exact .inl opened
  | asks => exact .inl opened
  | sends => exact .inl opened
  | declines => exact .inl opened

theorem requestUrl_of_plain {base scheduleId : String}
    (absent : '%' ∉ base.toList) (plain : '%' ∉ scheduleId.toList) :
    requestUrl base scheduleId = .ok (base ++ scheduleId) := by
  apply formatUrl_eq_self_iff.mpr
  rw [String.toList_append, List.mem_append]
  exact fun either => either.elim absent plain

/-- Every request that cancels is sent when the user answers yes to a question
about a schedule, after a click on the row of that schedule, whose status was
not 3 by then; and the row showed it, unless it is that of a payment. -/
theorem cancelled_as_shown {events : List ManageEvent}
    {reached : ManageScreens} {index : Nat} {url : String}
    (run : Runs.exec (step platform) {} events = some reached)
    (sent : reached.requests[index]? = some url) :
    ∃ first holder middle rest before asking position arguments,
      events = first ++ .click holder :: middle ++ .yes :: rest ∧
      Runs.exec (step platform) {} first = some before ∧
      (before.holders holder).position = some position ∧
      onClick platform before.list position = some arguments ∧
      arguments.status ≠ 3 ∧
      (IsSchedule before.list position →
        arguments.ShownBy (before.holders holder)) ∧
      Runs.exec (step platform) {} (first ++ .click holder :: middle) =
        some asking ∧
      asking.dialog = some arguments ∧ asking.requests.length = index ∧
      requestUrl urlCancelPayment arguments.scheduleId = .ok url ∧
      ('%' ∉ arguments.scheduleId.toList →
        url = urlCancelPayment ++ arguments.scheduleId) := by
  have preserved : ∀ before event next, Inv platform before →
      step platform before event = some next → Inv platform next :=
    fun _ _ _ inv result => inv.step result
  have requests := Runs.exists_origin preserved
    (fun _ _ _ _ result => request_explained result) inv_start run sent
  obtain ⟨early, _, rest, asking, rfl, asked, rfl, count, arguments, dialog,
    formatted⟩ := requests.resolve_left (by simp)
  have inv := Runs.invariant_of_exec preserved inv_start asked
  obtain ⟨opened, visible⟩ := inv.asked arguments dialog
  have details := Runs.exists_origin preserved
    (fun _ _ _ _ result => details_explained result) inv_start asked opened
  obtain ⟨first, _, middle, before, rfl, clicking, holder, position, rfl,
    bound, clicked⟩ := details.resolve_left (by simp)
  have shown := (Runs.invariant_of_exec preserved inv_start clicking).shown
    holder position arguments bound clicked
  have address : '%' ∉ arguments.scheduleId.toList →
      url = urlCancelPayment ++ arguments.scheduleId := by
    intro plain
    have absent : '%' ∉ urlCancelPayment.toList := by decide
    rw [requestUrl_of_plain absent plain, Except.ok.injEq] at formatted
    exact formatted.symm
  exact ⟨first, holder, middle, rest, before, asking, position, arguments,
    rfl, clicking, bound, clicked, by simpa [showsCancel] using visible, shown,
    asked, dialog, count, formatted, address⟩

/-! ## A schedule that is cancelled -/

def activeSchedule : JSONObject :=
  [("schedule_id", .string "s1"), ("status", .integer 1)]

def scheduleAnswer : JSONObject :=
  [("status", .string "success"), ("error", .bool false),
    ("message", .array [.object activeSchedule])]

/-- The list of the schedule, once its row is bound. -/
def shownSchedule : ManageScreens where
  list := [.object activeSchedule]
  holders := Function.update (fun _ => {}) 0
    { position := some 0, sceduleId := "s1", status := "Active" }

theorem scheduleAnswer_lists :
    Runs.exec (step .wholePlatform) {} [.response scheduleAnswer, .bind 0 0] =
      some shownSchedule := by
  have success : Platform.wholePlatform.coercions.equalsIgnoreCase "success"
      "success" = true := decide_eq_true rfl
  have read : ManageRegularPamentFragment.onResponse .wholePlatform
      scheduleAnswer = some [.object activeSchedule] := if_pos ⟨rfl, success⟩
  rw [Runs.exec_cons, step, read]
  rfl

theorem shownSchedule_cancelled :
    Runs.exec (step .wholePlatform) shownSchedule [.click 0, .cancel 0, .yes] =
      some { shownSchedule with
        details := [⟨"s1", 1⟩]
        requests :=
          ["http://51.158.68.20:4000/invoice/cancelpayment/s1"] } := by
  have plain : '%' ∉ "s1".toList := by decide
  have details :
      requestUrl InviceScheduleDetailsFragment.urlGetScheduleDetails "s1" =
        .ok (InviceScheduleDetailsFragment.urlGetScheduleDetails ++ "s1") :=
    requestUrl_of_plain (by decide) plain
  have cancels : requestUrl urlCancelPayment "s1" =
      .ok (urlCancelPayment ++ "s1") :=
    requestUrl_of_plain (by decide) plain
  have opens : shownSchedule.openDetails ⟨"s1", 1⟩ =
      .ok { shownSchedule with details := [⟨"s1", 1⟩] } := by
    rw [openDetails, details]
    rfl
  have clicked : step .wholePlatform shownSchedule (.click 0) =
      some { shownSchedule with details := [⟨"s1", 1⟩] } := by
    change (shownSchedule.openDetails ⟨"s1", 1⟩).toOption = _
    rw [opens]
    rfl
  rw [Runs.exec_cons, clicked, Option.bind_some, Runs.exec_cons]
  change Runs.exec (step .wholePlatform) { shownSchedule with
    details := [⟨"s1", 1⟩]
    dialog := some ⟨"s1", 1⟩ } [.yes] = _
  rw [Runs.exec_cons]
  change ((ManageScreens.yes _ ⟨"s1", 1⟩).toOption.bind _) = _
  rw [ManageScreens.yes, cancels]
  rfl

/-- The row is bound and clicked, and the schedule is cancelled. -/
theorem activeSchedule_cancelled :
    ∃ first holder middle rest before asking position arguments,
      [.response scheduleAnswer, .bind 0 0] ++ [.click 0, .cancel 0, .yes] =
        first ++ .click holder :: middle ++ .yes :: rest ∧
      Runs.exec (step .wholePlatform) {} first = some before ∧
      (before.holders holder).position = some position ∧
      onClick .wholePlatform before.list position = some arguments ∧
      arguments.status ≠ 3 ∧
      (IsSchedule before.list position →
        arguments.ShownBy (before.holders holder)) ∧
      Runs.exec (step .wholePlatform) {} (first ++ .click holder :: middle) =
        some asking ∧
      asking.dialog = some arguments ∧ asking.requests.length = 0 ∧
      requestUrl urlCancelPayment arguments.scheduleId =
        .ok "http://51.158.68.20:4000/invoice/cancelpayment/s1" ∧
      ('%' ∉ arguments.scheduleId.toList →
        "http://51.158.68.20:4000/invoice/cancelpayment/s1" =
          urlCancelPayment ++ arguments.scheduleId) :=
  cancelled_as_shown (Runs.exec_append_eq_some_iff.mpr
    ⟨shownSchedule, scheduleAnswer_lists, shownSchedule_cancelled⟩) rfl

end ManageScreens

end EclairWallet
