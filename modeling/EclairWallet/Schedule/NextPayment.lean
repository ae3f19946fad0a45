import EclairWallet.Schedule.Confirmation
import EclairWallet.Schedule.SummarySafe
import Mathlib.Data.Prod.Lex
import Mathlib.Order.Bounds.Basic

/-!
# The next payment that is announced

A day that repeats in every period which has it falls on dates that are
ordered by their period first.  The confirmation page names the month of the
first date after today, for a schedule that is not annual, when the month it
names has this day.  It reads the day once more, also where the summary did not
need it.
-/

namespace EclairWallet

/-! ## Days that repeat -/

section Repeating

variable {Day : Type} [LinearOrder Day] {Has : Nat → Day → Prop}

/-- How many periods ahead a day first comes after a day of this period, among
the periods that have it. -/
def IsNextPeriod (Has : Nat → Day → Prop) (today day : Day) (ahead : Nat) :
    Prop :=
  IsLeast { periods : Nat |
    Has periods day ∧ toLex (0, today) < toLex (periods, day) } ahead

theorem isNextPeriod_zero {today day : Day} (later : today < day) :
    IsNextPeriod Has today day 0 ↔ Has 0 day := by
  constructor
  · exact fun next => next.1.1
  · intro has
    refine ⟨⟨has, Prod.Lex.toLex_lt_toLex.mpr (.inr ⟨rfl, later⟩)⟩, ?_⟩
    intro periods _
    exact Nat.zero_le periods

theorem isNextPeriod_one {today day : Day} (past : day ≤ today) :
    IsNextPeriod Has today day 1 ↔ Has 1 day := by
  constructor
  · exact fun next => next.1.1
  · intro has
    refine ⟨⟨has, Prod.Lex.toLex_lt_toLex.mpr (.inl Nat.one_pos)⟩, ?_⟩
    rintro periods ⟨_, after⟩
    rcases Prod.Lex.toLex_lt_toLex.mp after with ahead | ⟨_, later⟩
    · exact ahead
    · exact absurd later past.not_gt

end Repeating

namespace SummaryPurchaseFragment

open AndroidJson JavaNumber
open JavaText (firstWord isTrimmed)

variable {platform : Platform}

/-! ## What is on display -/

/-- A nonempty text without anything to trim. -/
def isWord (text : List Char) : Bool :=
  !text.isEmpty && text.all (fun char => !isTrimmed char)

theorem isWord_iff {text : List Char} :
    isWord text = true ↔
      text ≠ [] ∧ ∀ char ∈ text, isTrimmed char = false := by
  simp [isWord]

/-- The text is a day, the word of, and words behind it that some spaces
separate. -/
def Worded (day : String) (spaces : Nat) (dayy : String) : Prop :=
  ∃ tail last,
    dayy = day ++ String.ofList (' ' :: ['o', 'f'] ++ ' ' :: (tail ++ [last])) ∧
      tail.count ' ' = spaces ∧ isTrimmed last = false

theorem Worded.joined {day dayy : String} {spaces : Nat}
    (worded : Worded day spaces dayy) : Joined day dayy := by
  obtain ⟨tail, last, rfl, _, _⟩ := worded
  exact ⟨String.ofList (tail ++ [last]), by rw [String.toList_ofList]⟩

theorem worded_of_toList {day dayy : String} (front : List Char)
    {word : List Char}
    (chars : dayy.toList =
      day.toList ++ ' ' :: 'o' :: 'f' :: ' ' :: (front ++ word))
    (isWord : isWord word = true) :
    Worded day (front.count ' ') dayy := by
  obtain ⟨nonempty, stay⟩ := isWord_iff.mp isWord
  obtain ⟨word, last, rfl⟩ :=
    (List.eq_nil_or_concat word).resolve_left nonempty
  rw [List.concat_eq_append] at chars stay
  have noSpace : word.count ' ' = 0 := by
    apply List.count_eq_zero.mpr
    intro member
    have stays := stay ' ' (List.mem_append_left _ member)
    rw [JavaText.isTrimmed_space] at stays
    cases stays
  refine ⟨front ++ word, last, ?_, ?_, stay last (by simp)⟩
  · apply String.toList_inj.mp
    rw [chars]
    simp
  · rw [List.count_append, noSpace, Nat.add_zero]

/-- What the fragment shows: the picked day of a static schedule, the day of
the answer otherwise. -/
def Displays (platform : Platform) (payment : RegularPayment)
    (dayy : String) : Prop :=
  ∃ day spaces, Worded day spaces dayy ∧ 1 ≤ spaces ∧
    (payment.scheduleType = "1" → DayReads platform day) ∧
    (payment.scheduleType ≠ "1" →
      day = payment.paymentDate ∧ (payment.frequency ≠ "1" → spaces = 1))

theorem isWord_month {m : Int} {month : String}
    (named : getMonthInString m = .ok month) :
    isWord month.toList = true := by
  have member : month ∈ monthName :=
    List.mem_of_getElem? (elementAt_eq_ok_iff.mp named).2
  have words : monthName.all (fun month => isWord month.toList) = true := by
    decide
  exact List.all_eq_true.mp words month member

theorem isWord_monthly : isWord "month".toList = true := by decide

theorem isWord_number {m : Int} (isMonth : IsMonth m) :
    isWord (valueOf m) = true := by
  obtain ⟨low, _⟩ := isMonth
  obtain ⟨value, rfl⟩ := Int.eq_ofNat_of_zero_le (by omega : 0 ≤ m)
  rw [valueOf_natCast]
  refine isWord_iff.mpr ⟨Nat.toDigits_ne_nil, ?_⟩
  intro char member
  exact JavaText.isTrimmed_of_isDigit (isDigit_of_mem_toDigits member)

theorem staticInitially_displays {today : Calendar}
    {payment : RegularPayment} {amtBtc : String} {shown : Shown}
    (static : payment.scheduleType = "1")
    (result : staticInitially today payment amtBtc = .ok shown) :
    Displays platform payment shown.dayy := by
  unfold staticInitially at result
  split at result
  · cases result
    refine ⟨"1", 1, ?_, le_rfl, fun _ => dayReads_one, absurd static⟩
    exact worded_of_toList "every ".toList (by simp) isWord_monthly
  · obtain ⟨month, named, shows⟩ := bind_eq_ok_iff.mp result
    cases shows
    refine ⟨"1", 1, ?_, le_rfl, fun _ => dayReads_one, absurd static⟩
    exact worded_of_toList "the ".toList (by simp) (isWord_month named)

theorem staticPicked_displays {today : Calendar} {payment : RegularPayment}
    {amtBtc : String} {newval : Nat} {shown : Shown}
    (static : payment.scheduleType = "1")
    (result : staticPicked platform today payment amtBtc newval = .ok shown) :
    Displays platform payment shown.dayy := by
  have reads : ∀ {day}, elementAt days newval = .ok day →
      DayReads platform day := by
    intro day picked
    exact dayReads_of_mem_days
      (List.mem_of_getElem? (elementAt_eq_ok_iff.mp picked).2)
  unfold staticPicked at result
  split at result
  · obtain ⟨day, picked, shows⟩ := bind_eq_ok_iff.mp result
    cases shows
    refine ⟨day, 1, ?_, le_rfl, fun _ => reads picked, absurd static⟩
    exact worded_of_toList "every ".toList (by simp) isWord_monthly
  · obtain ⟨day, picked, read⟩ := bind_eq_ok_iff.mp result
    obtain ⟨mmm, _, inWords⟩ := bind_eq_ok_iff.mp read
    obtain ⟨month, named, shows⟩ := bind_eq_ok_iff.mp inWords
    cases shows
    refine ⟨day, 1, ?_, le_rfl, fun _ => reads picked, absurd static⟩
    exact worded_of_toList "the ".toList (by simp) (isWord_month named)

theorem dynamicShown_displays {payment : RegularPayment}
    {amtBtc immediateCost costly : String} {inWords : String → String}
    {shown : Shown} (dynamic : payment.scheduleType ≠ "1")
    (words : ∀ month, getMonthInString payment.paymentMonth = .ok month →
      isWord (inWords month).toList = true)
    (result : dynamicShown platform payment amtBtc immediateCost costly
      inWords = .ok shown) :
    Displays platform payment shown.dayy := by
  unfold dynamicShown at result
  split at result
  · rename_i monthly
    cases result
    refine ⟨payment.paymentDate, 2, ?_, by omega,
      fun static => absurd static dynamic,
      fun _ => ⟨rfl, fun annual => absurd monthly annual⟩⟩
    exact worded_of_toList "the every ".toList (by simp) isWord_monthly
  · obtain ⟨month, named, shows⟩ := bind_eq_ok_iff.mp result
    cases shows
    refine ⟨payment.paymentDate, 1, ?_, le_rfl,
      fun static => absurd static dynamic, fun _ => ⟨rfl, fun _ => rfl⟩⟩
    exact worded_of_toList "the ".toList (by simp) (words month named)

theorem onCreateView_displays {today : Calendar} {payment : RegularPayment}
    {summary : Summary}
    (created : onCreateView platform today payment = .ok summary) :
    summary.payment = payment ∧ summary.pending = [] ∧
      Displays platform payment summary.dayy := by
  obtain ⟨amt, amtBtc, immediateCost, shown, _, _, _, shows, rfl⟩ :=
    onCreateView_eq_ok_iff.mp created
  refine ⟨rfl, rfl, ?_⟩
  unfold initiallyShown at shows
  split at shows
  · rename_i static
    exact staticInitially_displays static shows
  · rename_i dynamic
    exact dynamicShown_displays dynamic (fun _ => isWord_month) shows

theorem onCreateView_attached {today : Calendar} {payment : RegularPayment}
    {summary : Summary}
    (created : onCreateView platform today payment = .ok summary) :
    summary.attached = true := by
  obtain ⟨amt, amtBtc, immediateCost, shown, _, _, _, _, rfl⟩ :=
    onCreateView_eq_ok_iff.mp created
  rfl

theorem onValChange_displays {today : Calendar} {newval : Nat}
    {summary next : Summary}
    (result : onValChange platform today newval summary = .ok next) :
    next = { summary with s := next.s, dayy := next.dayy, mm := next.mm } ∧
      Displays platform summary.payment next.dayy := by
  obtain ⟨shown, shows, same⟩ := bind_eq_ok_iff.mp result
  cases same
  refine ⟨rfl, ?_⟩
  unfold pickedShown at shows
  split at shows
  · rename_i static
    exact staticPicked_displays static shows
  · rename_i dynamic
    refine dynamicShown_displays dynamic ?_ shows
    intro month named
    rw [String.toList_ofList]
    exact isWord_number (exists_getMonthInString_iff.mp ⟨month, named⟩)

/-! ## What is posted -/

/-- The words of the text: the first one of the day if it has one, and at
least the two joined to it. -/
theorem Worded.split {day dayy : String} {spaces : Nat}
    (worded : Worded day spaces dayy) :
    ∃ rest, JavaText.splitString ' ' (JavaText.trim dayy) =
        String.ofList (if firstWord day = [] then ['o', 'f']
          else firstWord day) :: rest ∧
      rest.length = spaces + 1 +
        (if firstWord day = [] then 0
          else (day.toList.dropWhile isTrimmed).count ' ' + 1) := by
  obtain ⟨rest, pieces⟩ := worded.joined.split
  refine ⟨rest, pieces, ?_⟩
  obtain ⟨tail, last, rfl, rfl, ends⟩ := worded
  have stay : ∀ char ∈ ['o', 'f'], isTrimmed char = false :=
    (isWord_iff.mp (by decide)).2
  have counted := JavaText.length_splitString_joined day tail stay ends
  rw [pieces, List.length_cons] at counted
  omega

theorem confirm_of_words {today : Calendar} {summary : Summary}
    {first : String} {rest : List String}
    (pieces : JavaText.splitString ' ' (JavaText.trim summary.dayy) =
      first :: rest) :
    confirm platform today summary =
      (if summary.payment.frequency = "2" then .ok summary.mm
        else (parseInt platform (padDay first.toList)).map
          (getMonth today)) >>= fun monthInt =>
        .ok { summary with
          monthInt := monthInt
          pending := summary.pending ++
            if 3 ≤ rest.length then [String.ofList (padDay first.toList)]
            else [] } := by
  rw [confirm, pieces]
  by_cases annual : summary.payment.frequency = "2"
  · simp only [annual, if_true]
    rfl
  · simp only [annual, if_false]
    rfl

/-- Confirming posts the first word of the day, and computes the month from it
unless the schedule is annual. -/
theorem confirm_posts {today : Calendar} {summary next : Summary}
    {day : String} {spaces : Nat} (worded : Worded day spaces summary.dayy)
    (present : firstWord day ≠ []) (apart : 1 ≤ spaces)
    (result : confirm platform today summary = .ok next) :
    next = { summary with
        monthInt := next.monthInt
        pending := summary.pending ++
          [String.ofList (padDay (firstWord day))] } ∧
      (summary.payment.frequency ≠ "2" →
        ∃ value, parseInt platform (padDay (firstWord day)) = .ok value ∧
          next.monthInt = getMonth today value) := by
  obtain ⟨rest, pieces, counted⟩ := worded.split
  rw [if_neg present] at pieces counted
  have long : 3 ≤ rest.length := by omega
  rw [confirm_of_words pieces] at result
  obtain ⟨monthInt, month, same⟩ := bind_eq_ok_iff.mp result
  rw [String.toList_ofList, if_pos long] at same
  cases same
  refine ⟨rfl, ?_⟩
  intro other
  rw [if_neg other, String.toList_ofList] at month
  cases read : parseInt platform (padDay (firstWord day)) with
  | error thrown => simp [read, Except.map] at month
  | ok value =>
      rw [read] at month
      exact ⟨value, rfl, (Except.ok.inj month).symm⟩

theorem confirm_blank {today : Calendar} {summary next : Summary}
    {day : String} (worded : Worded day 1 summary.dayy)
    (blank : firstWord day = [])
    (result : confirm platform today summary = .ok next) :
    next = { summary with monthInt := next.monthInt } := by
  obtain ⟨rest, pieces, counted⟩ := worded.split
  rw [if_pos blank] at pieces counted
  have short : ¬ 3 ≤ rest.length := by omega
  rw [confirm_of_words pieces] at result
  obtain ⟨monthInt, month, same⟩ := bind_eq_ok_iff.mp result
  rw [if_neg short, List.append_nil] at same
  cases same
  rfl

/-- The day of the answer is a number, for an annual schedule too, if it has a
word to be posted. -/
def Readable (platform : Platform) (payment : RegularPayment) : Prop :=
  payment.scheduleType ≠ "1" → payment.frequency = "2" →
    firstWord payment.paymentDate ≠ [] →
    DayReads platform payment.paymentDate

theorem DayReads.exists_parseInt {day : String}
    (reads : DayReads platform day) :
    ∃ value, parseInt platform (padDay (firstWord day)) = .ok value := by
  obtain ⟨value, read⟩ := Option.isSome_iff_exists.mp reads.2
  exact ⟨value, by rw [parseInt, read]⟩

/-- A day on display has a number, or it belongs to an annual schedule and has
no word. -/
theorem reads_or_blank {payment : RegularPayment} {day : String}
    (summarisable : Summarisable platform payment)
    (readable : Readable platform payment)
    (static : payment.scheduleType = "1" → DayReads platform day)
    (dynamic : payment.scheduleType ≠ "1" → day = payment.paymentDate) :
    DayReads platform day ∨
      payment.scheduleType ≠ "1" ∧ payment.frequency = "2" ∧
        firstWord day = [] := by
  by_cases type : payment.scheduleType = "1"
  · exact .inl (static type)
  · obtain rfl := dynamic type
    by_cases annual : payment.frequency = "2"
    · by_cases blank : firstWord payment.paymentDate = []
      · exact .inr ⟨type, annual, blank⟩
      · exact .inl (readable type annual blank)
    · exact .inl (summarisable.day type annual)

/-- What a confirmation does to the purchases and to the month: nothing is
posted for an annual schedule, or a day that is a number. -/
theorem confirm_posts_number {payment : RegularPayment} {today : Calendar}
    {summary next : Summary} (summarisable : Summarisable platform payment)
    (readable : Readable platform payment)
    (same : summary.payment = payment)
    (displays : Displays platform payment summary.dayy)
    (result : confirm platform today summary = .ok next) :
    payment.frequency = "2" ∧
        next = { summary with monthInt := next.monthInt } ∨
      ∃ day value,
        next = { summary with
          monthInt := next.monthInt, pending := summary.pending ++ [day] } ∧
        parseInt platform day.toList = .ok value ∧
        (payment.frequency ≠ "2" → next.monthInt = getMonth today value) := by
  obtain ⟨day, spaces, worded, apart, static, dynamic⟩ := displays
  rcases reads_or_blank summarisable readable static
    (fun type => (dynamic type).1) with reads | ⟨type, annual, blank⟩
  · obtain ⟨posted, month⟩ := confirm_posts worded reads.1 apart result
    obtain ⟨value, read⟩ := reads.exists_parseInt
    refine .inr ⟨_, value, posted, by rw [String.toList_ofList, read], ?_⟩
    intro other
    rw [← same] at other
    obtain ⟨found, again, monthInt⟩ := month other
    rw [read] at again
    cases again
    exact monthInt
  · have single : spaces = 1 := by
      apply (dynamic type).2
      rw [annual]
      decide
    subst spaces
    exact .inl ⟨annual, confirm_blank worded blank result⟩

/-! ## Whole runs -/

/-- The purchases are confirmed on this day only. -/
def ConfirmsOn (today : Calendar) : Event → Prop
  | .confirm day => day = today
  | .valChange _ _ => True
  | .response _ => True
  | .detach => True

/-- The invariant of the posted purchases: their days are numbers. -/
structure Posted (platform : Platform) (payment : RegularPayment)
    (summary : Summary) : Prop where
  same : summary.payment = payment
  displays : Displays platform payment summary.dayy
  reads : ∀ day ∈ summary.pending,
    ∃ value, parseInt platform day.toList = .ok value

/-- The month belongs to the purchase that was posted last. -/
def Latest (platform : Platform) (today : Calendar) (summary : Summary) :
    Prop :=
  ∀ day, summary.pending.getLast? = some day →
    ∃ value, parseInt platform day.toList = .ok value ∧
      summary.monthInt = getMonth today value

theorem Posted.of_created {payment : RegularPayment} {today : Calendar}
    {summary : Summary}
    (created : onCreateView platform today payment = .ok summary) :
    Posted platform payment summary := by
  obtain ⟨same, nothing, displays⟩ := onCreateView_displays created
  exact ⟨same, displays, by simp [nothing]⟩

theorem Posted.step {payment : RegularPayment} {summary next : Summary}
    {event : Event} (summarisable : Summarisable platform payment)
    (readable : Readable platform payment)
    (posted : Posted platform payment summary)
    (result : step platform summary event = some next) :
    Posted platform payment next := by
  have handled := handle_of_step result
  cases event with
  | valChange today newval =>
      obtain ⟨same, displays⟩ := onValChange_displays handled
      rw [posted.same] at displays
      rw [same]
      exact ⟨posted.same, displays, posted.reads⟩
  | confirm today =>
      rw [handle] at handled
      rcases confirm_posts_number summarisable readable posted.same
        posted.displays handled with ⟨_, same⟩ | ⟨day, value, same, read, _⟩
      · rw [same]
        exact ⟨posted.same, posted.displays, posted.reads⟩
      · rw [same]
        refine ⟨posted.same, posted.displays, ?_⟩
        intro other member
        rcases List.mem_append.mp member with before | last
        · exact posted.reads other before
        · obtain rfl := List.mem_singleton.mp last
          exact ⟨value, read⟩
  | response jsonObject =>
      rw [handle_response handled]
      refine ⟨posted.same, posted.displays, ?_⟩
      intro day member
      exact posted.reads day (List.mem_of_mem_tail member)
  | detach =>
      cases handled
      exact ⟨posted.same, posted.displays, posted.reads⟩

theorem Latest.step {payment : RegularPayment} {today : Calendar}
    {summary next : Summary} {event : Event}
    (summarisable : Summarisable platform payment)
    (other : payment.frequency ≠ "2")
    (posted : Posted platform payment summary)
    (latest : Latest platform today summary)
    (sameDay : ConfirmsOn today event)
    (result : step platform summary event = some next) :
    Latest platform today next := by
  have handled := handle_of_step result
  have readable : Readable platform payment :=
    fun _ annual => absurd annual other
  cases event with
  | valChange day newval =>
      rw [(onValChange_displays handled).1]
      exact latest
  | confirm day =>
      obtain rfl : day = today := sameDay
      rw [handle] at handled
      rcases confirm_posts_number summarisable readable posted.same
        posted.displays handled with ⟨annual, _⟩ | ⟨day, value, same, read,
        month⟩
      · exact absurd annual other
      · rw [same]
        intro found last
        rw [List.getLast?_concat, Option.some.injEq] at last
        subst found
        exact ⟨value, read, month other⟩
  | response jsonObject =>
      rw [handle_response handled]
      intro day last
      apply latest day
      cases waiting : summary.pending with
      | nil => simp [waiting] at last
      | cons first pending =>
          simp only [waiting, List.tail_cons] at last
          rw [List.getLast?_cons, last]
          rfl
  | detach =>
      cases handled
      exact latest

/-! ## The page -/

/-- The month some months ahead, counted from one. -/
def monthAhead (today : Calendar) (ahead : Nat) : Int :=
  (today.month + ahead) % 12 + 1

theorem isMonth_monthAhead (today : Calendar) (ahead : Nat) :
    IsMonth (monthAhead today ahead) := by
  unfold monthAhead IsMonth
  omega

/-- The month is this one from today on, and the next one for earlier days. -/
theorem getMonth_eq (today : Calendar) (day : Int) :
    getMonth today day =
      monthAhead today (if day < today.dayOfMonth then 1 else 0) := by
  unfold getMonth monthAhead
  dsimp only
  split
  · split <;> omega
  · split <;> omega

/-- How many days a month has, counted from one. -/
def lengthOfMonth (leapYear : Bool) (month : Int) : Int :=
  if month = 2 then if leapYear then 29 else 28
  else if month = 4 ∨ month = 6 ∨ month = 9 ∨ month = 11 then 30
  else 31

/-- The month some months ahead has the day; `leapYear` tells whether its year
is one. -/
def HasDay (today : Calendar) (leapYear : Nat → Bool) (ahead : Nat)
    (day : Int) : Prop :=
  1 ≤ day ∧ day ≤ lengthOfMonth (leapYear ahead) (monthAhead today ahead)

instance (today : Calendar) (leapYear : Nat → Bool) (ahead : Nat)
    (day : Int) : Decidable (HasDay today leapYear ahead day) :=
  inferInstanceAs (Decidable (_ ∧ _))

theorem hasDay_of_le {today : Calendar} {leapYear : Nat → Bool} {ahead : Nat}
    {day : Int} (positive : 1 ≤ day) (inEvery : day ≤ 28) :
    HasDay today leapYear ahead day := by
  refine ⟨positive, inEvery.trans ?_⟩
  unfold lengthOfMonth
  split
  · split <;> decide
  · split <;> decide

theorem getString_of_readAnswer {jsonObject : JSONObject}
    {message response : String}
    (read : readAnswer platform jsonObject = some (message, response)) :
    jsonObject.getString platform.coercions "response" = some response := by
  simp only [readAnswer, Option.bind_eq_bind, Option.bind_eq_some_iff] at read
  obtain ⟨error, _, text, _, found, isResponse, same⟩ := read
  cases same
  exact isResponse

theorem onResponse_opens {summary : Summary} {day : String}
    {jsonObject : JSONObject} {arguments : ConfirmationArguments}
    (answered : onResponse platform summary day jsonObject =
      .ok (.confirmation arguments)) :
    jsonObject.getString platform.coercions "response" =
        some arguments.invoiceId ∧
      getMonthInString summary.monthInt = .ok arguments.month ∧
      arguments.day = day ∧
      arguments.frequency = summary.payment.frequency ∧
      arguments.notification = summary.payment.note := by
  unfold onResponse at answered
  split at answered
  · cases answered
  next message response read =>
    split at answered
    · obtain ⟨month, named, opens⟩ := bind_eq_ok_iff.mp answered
      unfold withActivity at opens
      split at opens
      · cases opens
        exact ⟨getString_of_readAnswer read, named, rfl, rfl, rfl⟩
      · cases opens
    · unfold withActivity at answered
      split at answered <;> split at answered <;> cases answered

/-- The page that names a month. -/
def pageNaming (arguments : ConfirmationArguments) (month : String) :
    ConfirmationFragment.Page where
  invoiceId := arguments.invoiceId
  btAmount :=
    "The amount due to be paid today is: " ++ arguments.amount ++ "BTC"
  paymentDesc :=
    "Your next Payment will be on " ++ month ++ " " ++ arguments.day
  note := arguments.notification

theorem onCreateView_of_read {today : Calendar}
    {arguments : ConfirmationArguments} {value : Int}
    (read : parseInt platform arguments.day.toList = .ok value) :
    ConfirmationFragment.onCreateView platform today arguments =
      (if value = today.dayOfMonth ∧ arguments.frequency ≠ "2" then
        getMonthInString (monthAhead today 1)
      else .ok arguments.month).map (pageNaming arguments) := by
  have next : (if (today.month : Int) + 2 = 13 then 1
      else (today.month : Int) + 2) = monthAhead today 1 := by
    unfold monthAhead
    split <;> omega
  simp only [ConfirmationFragment.onCreateView, read, bind, Except.bind, next]
  by_cases here : value = today.dayOfMonth
  · by_cases annual : arguments.frequency = "2"
    · simp only [here, annual, if_true, ne_eq, not_true, and_false, if_false]
      rfl
    · simp only [here, annual, if_true, ne_eq, not_false_iff, and_true,
        if_false]
      cases getMonthInString (monthAhead today 1) <;> rfl
  · simp only [here, if_false, false_and]
    rfl

theorem exists_page_iff {today : Calendar}
    {arguments : ConfirmationArguments} :
    (∃ page, ConfirmationFragment.onCreateView platform today arguments =
        .ok page) ↔
      ∃ value, parseInt platform arguments.day.toList = .ok value := by
  constructor
  · intro created
    obtain ⟨page, created⟩ := created
    obtain ⟨value, read, _⟩ := bind_eq_ok_iff.mp created
    exact ⟨value, read⟩
  · intro number
    obtain ⟨value, read⟩ := number
    rw [onCreateView_of_read read]
    split
    · obtain ⟨month, next⟩ :=
        exists_getMonthInString_iff.mpr (isMonth_monthAhead today 1)
      rw [next]
      exact ⟨_, rfl⟩
    · exact ⟨_, rfl⟩

/-- The page names this month for later days of it, and the next one
otherwise: that of the first date after today if it has the day. -/
theorem page_of_month {today : Calendar} {arguments : ConfirmationArguments}
    {value : Int}
    (read : parseInt platform arguments.day.toList = .ok value)
    (other : arguments.frequency ≠ "2")
    (named : getMonthInString (getMonth today value) = .ok arguments.month)
    (leapYear : Nat → Bool) :
    ∃ ahead month,
      ConfirmationFragment.onCreateView platform today arguments =
        .ok (pageNaming arguments month) ∧
      (IsNextPeriod (HasDay today leapYear) (today.dayOfMonth : Int) value
          ahead ↔
        HasDay today leapYear ahead value) ∧
      getMonthInString (monthAhead today ahead) = .ok month := by
  rw [getMonth_eq] at named
  rw [onCreateView_of_read read]
  by_cases here : value = today.dayOfMonth
  · obtain ⟨month, next⟩ :=
      exists_getMonthInString_iff.mpr (isMonth_monthAhead today 1)
    rw [if_pos ⟨here, other⟩, next]
    exact ⟨1, month, rfl, isNextPeriod_one here.le, next⟩
  · rw [if_neg (fun both => here both.1)]
    by_cases past : value < today.dayOfMonth
    · rw [if_pos past] at named
      exact ⟨1, _, rfl, isNextPeriod_one past.le, named⟩
    · rw [if_neg past] at named
      have later : (today.dayOfMonth : Int) < value := by omega
      exact ⟨0, _, rfl, isNextPeriod_zero later, named⟩

/-- A schedule that is not annual: the answer to the purchase that was posted
last opens a page that hands its invoice over with the first date of the day
after today, exactly when the month it names has this day, as every month has
the days from 1 to 28. -/
theorem next_payment_announced {payment : RegularPayment}
    {opened today : Calendar} {summary reached : Summary}
    {events : List Event} {day : String} {jsonObject : JSONObject}
    {arguments : ConfirmationArguments}
    (summarisable : Summarisable platform payment)
    (other : payment.frequency ≠ "2")
    (created : onCreateView platform opened payment = .ok summary)
    (sameDay : ∀ event ∈ events, ConfirmsOn today event)
    (run : Runs.exec (step platform) summary events = some reached)
    (last : reached.pending.getLast? = some day)
    (answered : onResponse platform reached day jsonObject =
      .ok (.confirmation arguments)) (leapYear : Nat → Bool) :
    ∃ page value ahead month invoiceId,
      ConfirmationFragment.onCreateView platform today arguments = .ok page ∧
      jsonObject.getString platform.coercions "response" = some invoiceId ∧
      parseInt platform day.toList = .ok value ∧
      (1 ≤ value → value ≤ 28 →
        IsNextPeriod (HasDay today leapYear) (today.dayOfMonth : Int) value
          ahead) ∧
      (IsNextPeriod (HasDay today leapYear) (today.dayOfMonth : Int) value
          ahead ↔
        HasDay today leapYear ahead value) ∧
      getMonthInString (monthAhead today ahead) = .ok month ∧
      page.confirm = ConfirmationFragment.confirm invoiceId
        ("Your next Payment will be on " ++ month ++ " " ++ day)
        payment.note := by
  have readable : Readable platform payment :=
    fun _ annual => absurd annual other
  have initially : Posted platform payment summary ∧
      Latest platform today summary := by
    refine ⟨Posted.of_created created, ?_⟩
    intro day last
    rw [(onCreateView_displays created).2.1] at last
    cases last
  have meets : Runs.StepsMeet (step platform)
      (fun _ event => ConfirmsOn today event) summary events :=
    Runs.StepsMeet.of_forall summary
      (fun _ event member => sameDay event member)
  have preserved : ∀ before event next,
      (Posted platform payment before ∧ Latest platform today before) →
      ConfirmsOn today event → step platform before event = some next →
      Posted platform payment next ∧ Latest platform today next := by
    rintro before event next ⟨posted, latest⟩ onDay result
    exact ⟨posted.step summarisable readable result,
      latest.step summarisable other posted onDay result⟩
  obtain ⟨posted, latest⟩ :=
    Runs.invariant_of_stepsMeet preserved initially meets run
  obtain ⟨value, read, month⟩ := latest day last
  obtain ⟨invoice, named, rfl, frequency, note⟩ := onResponse_opens answered
  rw [month] at named
  rw [posted.same] at frequency note
  rw [← frequency] at other
  obtain ⟨ahead, month, opens, next, names⟩ :=
    page_of_month read other named leapYear
  refine ⟨_, value, ahead, month, _, opens, invoice, read,
    fun positive inEvery => next.mpr (hasDay_of_le positive inEvery), next,
    names, ?_⟩
  rw [← note]
  rfl

/-- A monthly payment whose day the user picks. -/
def pickedMonthly : RegularPayment :=
  { NewRegularPaymentFragment.initial with
    amount := "5", frequency := "1", scheduleType := "1" }

theorem pickedMonthly_summarisable :
    Summarisable Platform.wholePlatform pickedMonthly := by
  refine ⟨⟨5, rfl⟩, trivial, ?_, ?_⟩
  · intro dynamic
    exact absurd rfl dynamic
  · intro dynamic
    exact absurd rfl dynamic

/-- The answer with an invoice. -/
def invoiceAnswer : JSONObject :=
  [("error", .bool false), ("message", .string "success"),
    ("response", .string "lnbc1")]

/-- What the summary of it shows at first. -/
def pickedSummary : Summary where
  payment := pickedMonthly
  amtBtc := "5.0"
  immediateCost := "0.0"
  s := staticText "" "5.0" " \n\n " "monthly"
  dayy := "1 of every month"
  mm := 0
  monthInt := 0
  pending := []

/-- On the tenth of May the fifth is picked, which is in June again. -/
theorem fifthPicked_announced :
    ∃ page value ahead month invoiceId,
      ConfirmationFragment.onCreateView Platform.wholePlatform ⟨10, 4⟩
        ⟨"lnbc1", "1", "5.0", "June", "05", ""⟩ = .ok page ∧
      invoiceAnswer.getString Platform.wholePlatform.coercions "response" =
        some invoiceId ∧
      parseInt Platform.wholePlatform "05".toList = .ok value ∧
      (1 ≤ value → value ≤ 28 →
        IsNextPeriod (HasDay ⟨10, 4⟩ (fun _ => false)) (10 : Int) value
          ahead) ∧
      (IsNextPeriod (HasDay ⟨10, 4⟩ (fun _ => false)) (10 : Int) value
          ahead ↔
        HasDay ⟨10, 4⟩ (fun _ => false) ahead value) ∧
      getMonthInString (monthAhead ⟨10, 4⟩ ahead) = .ok month ∧
      page.confirm = ConfirmationFragment.confirm invoiceId
        ("Your next Payment will be on " ++ month ++ " " ++ "05") "" := by
  have sameDay : ∀ event ∈ [Event.valChange ⟨10, 4⟩ 4, .confirm ⟨10, 4⟩],
      ConfirmsOn ⟨10, 4⟩ event := by
    intro event member
    rcases List.mem_cons.mp member with rfl | member
    · trivial
    · obtain rfl := List.mem_singleton.mp member
      rfl
  have created : onCreateView Platform.wholePlatform ⟨10, 4⟩ pickedMonthly =
      .ok pickedSummary := rfl
  have run : Runs.exec (step Platform.wholePlatform) pickedSummary
      [.valChange ⟨10, 4⟩ 4, .confirm ⟨10, 4⟩] =
    some { pickedSummary with
      dayy := "5 of every month", monthInt := 6, pending := ["05"] } := rfl
  exact next_payment_announced pickedMonthly_summarisable (by decide) created
    sameDay run rfl rfl (fun _ => false)

/-- An answer that is overtaken by another confirmation announces a date that
has passed: the fifth of May, on the tenth. -/
def overtaken : List Event :=
  [.valChange ⟨10, 4⟩ 4, .confirm ⟨10, 4⟩, .valChange ⟨10, 4⟩ 19,
    .confirm ⟨10, 4⟩]

example : ∃ reached arguments page,
    Runs.exec (step Platform.wholePlatform) pickedSummary overtaken =
      some reached ∧
    reached.pending = ["05", "20"] ∧
    onResponse Platform.wholePlatform reached "05" invoiceAnswer =
      .ok (.confirmation arguments) ∧
    ConfirmationFragment.onCreateView Platform.wholePlatform ⟨10, 4⟩
      arguments = .ok page ∧
    page.paymentDesc = "Your next Payment will be on May 05" :=
  ⟨_, _, _, rfl, rfl, rfl, rfl, rfl⟩

/-- April has no 31: on the tenth of it, the page names it nevertheless. -/
example : ConfirmationFragment.onCreateView Platform.wholePlatform ⟨10, 3⟩
      ⟨"lnbc1", "1", "5.0", "April", "31", ""⟩ =
    .ok (pageNaming ⟨"lnbc1", "1", "5.0", "April", "31", ""⟩ "April") ∧
    ¬ HasDay ⟨10, 3⟩ (fun _ => false) 0 31 :=
  ⟨rfl, by decide⟩

/-! ## Creating the page -/

/-- No answer opens a page that throws. -/
def ConfirmationSafe (platform : Platform) (payment : RegularPayment) :
    Prop :=
  ∀ opened today summary events reached day jsonObject arguments,
    onCreateView platform opened payment = .ok summary →
    Runs.exec (step platform) summary events = some reached →
    day ∈ reached.pending →
    onResponse platform reached day jsonObject =
      .ok (.confirmation arguments) →
    ∃ page,
      ConfirmationFragment.onCreateView platform today arguments = .ok page

theorem confirmationSafe_of_readable {payment : RegularPayment}
    (summarisable : Summarisable platform payment)
    (readable : Readable platform payment) :
    ConfirmationSafe platform payment := by
  intro opened today summary events reached day jsonObject arguments created
    run member answered
  have posted : Posted platform payment reached := by
    apply Runs.invariant_of_exec _ (Posted.of_created created) run
    intro before event next holds result
    exact holds.step summarisable readable result
  obtain ⟨_, _, rfl, _, _⟩ := onResponse_opens answered
  exact exists_page_iff.mpr (posted.reads _ member)

theorem onResponse_invoiceAnswer {summary : Summary}
    (isMonth : IsMonth summary.monthInt) (attached : summary.attached = true)
    (day : String) :
    ∃ arguments, onResponse platform summary day invoiceAnswer =
      .ok (.confirmation arguments) := by
  obtain ⟨month, named⟩ := exists_getMonthInString_iff.mpr isMonth
  refine ⟨{
    invoiceId := "lnbc1"
    frequency := summary.payment.frequency
    amount :=
      if summary.immediateCost = "0.0" then summary.amtBtc
      else summary.immediateCost
    month, day
    notification := summary.payment.note }, ?_⟩
  have read : readAnswer platform invoiceAnswer =
      some ("success", "lnbc1") := rfl
  simp only [onResponse, read, if_true, named, withActivity, attached]
  rfl

theorem readable_of_confirmationSafe {payment : RegularPayment}
    (summarisable : Summarisable platform payment)
    (safe : ConfirmationSafe platform payment) :
    Readable platform payment := by
  intro dynamic annual present
  obtain ⟨summary, created, inv⟩ := summarisable.exists_onCreateView ⟨1, 0⟩
  obtain ⟨_, nothing, displays⟩ := onCreateView_displays created
  obtain ⟨day, spaces, worded, apart, _, same⟩ := displays
  obtain rfl := (same dynamic).1
  obtain ⟨next, confirmed, holds⟩ := inv.exists_confirm ⟨1, 0⟩
  obtain ⟨posts, _⟩ := confirm_posts worded present apart confirmed
  have pending : next.pending =
      [String.ofList (padDay (firstWord payment.paymentDate))] := by
    rw [posts, nothing]
    rfl
  have isMonth : IsMonth next.monthInt := holds.answered (by simp [pending])
  have shown : summary.attached = true := onCreateView_attached created
  have attached : next.attached = true := by
    rw [posts]
    exact shown
  obtain ⟨arguments, answered⟩ :=
    @onResponse_invoiceAnswer platform next isMonth attached
      (String.ofList (padDay (firstWord payment.paymentDate)))
  have run : Runs.exec (step platform) summary [.confirm ⟨1, 0⟩] =
      some next := by
    simp [step, CanHappen, shown, handle, confirmed, Except.toOption]
  obtain ⟨page, opens⟩ := safe ⟨1, 0⟩ ⟨1, 0⟩ summary _ next _ invoiceAnswer
    arguments created run (by simp [pending]) answered
  obtain ⟨value, read⟩ := exists_page_iff.mp ⟨page, opens⟩
  obtain ⟨_, _, sameDay, _, _⟩ := onResponse_opens answered
  rw [sameDay, String.toList_ofList, parseInt] at read
  refine ⟨present, ?_⟩
  cases number : JavaNumber.parseInt platform.digits
      (padDay (firstWord payment.paymentDate)) with
  | none => simp [number] at read
  | some value => rfl

/-- The page reads the day of an annual schedule as well, which the summary
does not: no page throws exactly when that day is a number or is never
posted. -/
theorem confirmation_safe_iff {payment : RegularPayment}
    (summarisable : Summarisable platform payment) :
    ConfirmationSafe platform payment ↔ Readable platform payment :=
  ⟨readable_of_confirmationSafe summarisable,
    confirmationSafe_of_readable summarisable⟩

/-- An annual payment on an ordinal day: the summary is safe, the page is
not. -/
def ordinalDay : RegularPayment :=
  { NewRegularPaymentFragment.initial with
    amount := "5", frequency := "2", paymentDate := "2nd"
    scheduleType := "2", paymentMonth := 3 }

theorem ordinalDay_throws :
    Safe Platform.wholePlatform ordinalDay ∧
      ¬ ConfirmationSafe Platform.wholePlatform ordinalDay := by
  have summarisable : Summarisable Platform.wholePlatform ordinalDay := by
    refine ⟨⟨5, rfl⟩, trivial, fun _ _ => by decide, ?_⟩
    intro _ monthly
    exact absurd rfl monthly
  refine ⟨safe_of_summarisable summarisable, ?_⟩
  intro safe
  have reads := (confirmation_safe_iff summarisable).mp safe
    (by decide) rfl (by decide)
  exact absurd reads.2 (by decide)

end SummaryPurchaseFragment

end EclairWallet
