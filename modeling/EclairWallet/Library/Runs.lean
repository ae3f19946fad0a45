/-!
# Runs of an event-driven component

A component is a partial step function: `step state event` is `none` when the
event cannot happen in that state.  A run executes a list of events in order.
The two rules at the end carry a step lemma to whole runs, once for every
event and once for the runs whose steps all meet a condition on the state
before the step.
-/

namespace EclairWallet.Runs

universe u v

variable {State : Type u} {Event : Type v}

/-- Execute the events in order, stopping as soon as one cannot happen. -/
def exec (step : State → Event → Option State) :
    State → List Event → Option State
  | state, [] => some state
  | state, event :: events =>
      (step state event).bind (fun next => exec step next events)

/-- Every step of the run meets `condition` in the state before the step. -/
def StepsMeet (step : State → Event → Option State)
    (condition : State → Event → Prop) : State → List Event → Prop
  | _, [] => True
  | state, event :: events =>
      condition state event ∧
        ∀ next, step state event = some next →
          StepsMeet step condition next events

/-- A state some run reaches from `start`. -/
def Reachable (step : State → Event → Option State)
    (start state : State) : Prop :=
  ∃ events, exec step start events = some state

variable {step : State → Event → Option State}

@[simp] theorem exec_nil (state : State) : exec step state [] = some state :=
  rfl

@[simp] theorem exec_cons (state : State) (event : Event)
    (events : List Event) :
    exec step state (event :: events) =
      (step state event).bind (fun next => exec step next events) :=
  rfl

theorem exec_cons_eq_some_iff {state finish : State} {event : Event}
    {events : List Event} :
    exec step state (event :: events) = some finish ↔
      ∃ next, step state event = some next ∧
        exec step next events = some finish := by
  simp [Option.bind_eq_some_iff]

theorem exec_append (state : State) (first second : List Event) :
    exec step state (first ++ second) =
      (exec step state first).bind (fun next => exec step next second) := by
  induction first generalizing state with
  | nil => simp
  | cons event first induction =>
      cases result : step state event with
      | none => simp [result]
      | some next => simp [result, induction next]

theorem exec_append_eq_some_iff {state finish : State}
    {first second : List Event} :
    exec step state (first ++ second) = some finish ↔
      ∃ middle, exec step state first = some middle ∧
        exec step middle second = some finish := by
  rw [exec_append, Option.bind_eq_some_iff]

theorem Reachable.refl (state : State) : Reachable step state state :=
  ⟨[], rfl⟩

theorem Reachable.tail {start state next : State} {event : Event}
    (reachable : Reachable step start state)
    (result : step state event = some next) :
    Reachable step start next := by
  obtain ⟨events, run⟩ := reachable
  refine ⟨events ++ [event], ?_⟩
  rw [exec_append, run]
  simp [result]

theorem stepsMeet_cons_iff {condition : State → Event → Prop}
    {state : State} {event : Event} {events : List Event} :
    StepsMeet step condition state (event :: events) ↔
      condition state event ∧
        ∀ next, step state event = some next →
          StepsMeet step condition next events :=
  Iff.rfl

/-- Whether a concrete run meets a decidable condition can be computed. -/
instance StepsMeet.decidable {condition : State → Event → Prop}
    [∀ state event, Decidable (condition state event)] :
    ∀ (state : State) (events : List Event),
      Decidable (StepsMeet step condition state events)
  | _, [] => .isTrue trivial
  | state, event :: events =>
      match result : step state event with
      | none => decidable_of_iff (condition state event)
          (by simp [stepsMeet_cons_iff, result])
      | some next =>
          have : Decidable (StepsMeet step condition next events) :=
            StepsMeet.decidable next events
          decidable_of_iff (condition state event ∧
              StepsMeet step condition next events)
            (by simp [stepsMeet_cons_iff, result])

theorem StepsMeet.rest {condition : State → Event → Prop}
    {state middle : State} {first second : List Event}
    (meets : StepsMeet step condition state (first ++ second))
    (run : exec step state first = some middle) :
    StepsMeet step condition middle second := by
  induction first generalizing state with
  | nil =>
      simp only [exec_nil, Option.some.injEq] at run
      subst middle
      exact meets
  | cons event first induction =>
      obtain ⟨next, result, run⟩ := exec_cons_eq_some_iff.mp run
      exact induction (meets.2 next result) run

theorem StepsMeet.first {condition : State → Event → Prop}
    {state : State} {first second : List Event}
    (meets : StepsMeet step condition state (first ++ second)) :
    StepsMeet step condition state first := by
  induction first generalizing state with
  | nil => trivial
  | cons event first induction =>
      refine ⟨meets.1, ?_⟩
      intro next result
      exact induction (meets.2 next result)

theorem StepsMeet.mono {condition weak : State → Event → Prop}
    {state : State} {events : List Event}
    (meets : StepsMeet step condition state events)
    (weaker : ∀ state event, condition state event → weak state event) :
    StepsMeet step weak state events := by
  induction events generalizing state with
  | nil => trivial
  | cons event events induction =>
      refine ⟨weaker state event meets.1, ?_⟩
      intro next result
      exact induction (meets.2 next result)

theorem StepsMeet.and {left right : State → Event → Prop} {state : State}
    {events : List Event} (first : StepsMeet step left state events)
    (second : StepsMeet step right state events) :
    StepsMeet step (fun state event => left state event ∧ right state event)
      state events := by
  induction events generalizing state with
  | nil => trivial
  | cons event events induction =>
      refine ⟨⟨first.1, second.1⟩, ?_⟩
      intro next result
      exact induction (first.2 next result) (second.2 next result)

theorem StepsMeet.of_forall {condition : State → Event → Prop}
    {events : List Event} (state : State)
    (always : ∀ state event, event ∈ events → condition state event) :
    StepsMeet step condition state events := by
  induction events generalizing state with
  | nil => trivial
  | cons event events induction =>
      refine ⟨always state event (by simp), ?_⟩
      intro next _
      exact induction next (fun state event member =>
        always state event (by simp [member]))

/-- A run meets a condition when each of its events meets it in the state the
run has reached before. -/
theorem stepsMeet_iff_forall_split {condition : State → Event → Prop}
    {state : State} {events : List Event} :
    StepsMeet step condition state events ↔
      ∀ first event rest before, events = first ++ event :: rest →
        exec step state first = some before → condition before event := by
  constructor
  · rintro meets first event rest before rfl run
    exact (meets.rest run).1
  · intro always
    induction events generalizing state with
    | nil => trivial
    | cons event events induction =>
        refine ⟨always [] event events state rfl rfl, ?_⟩
        intro next result
        apply induction
        intro first later rest before split run
        apply always (event :: first) later rest before
        · simp [split]
        · exact exec_cons_eq_some_iff.mpr ⟨next, result, run⟩

theorem invariant_of_stepsMeet {condition : State → Event → Prop}
    {invariant : State → Prop}
    (preserved : ∀ state event next, invariant state →
      condition state event → step state event = some next → invariant next)
    {start finish : State} {events : List Event}
    (initially : invariant start)
    (meets : StepsMeet step condition start events)
    (run : exec step start events = some finish) :
    invariant finish := by
  induction events generalizing start with
  | nil =>
      simp only [exec_nil, Option.some.injEq] at run
      subst finish
      exact initially
  | cons event events induction =>
      obtain ⟨next, result, run⟩ := exec_cons_eq_some_iff.mp run
      exact induction (preserved start event next initially meets.1 result)
        (meets.2 next result) run

/-- Under an invariant kept by the good steps, a run is good throughout
exactly when its steps meet the condition that characterises the good ones. -/
theorem stepsMeet_iff_of_invariant {condition good : State → Event → Prop}
    {invariant : State → Prop}
    (characterised : ∀ state event, invariant state →
      (good state event ↔ condition state event))
    (preserved : ∀ state event next, invariant state → good state event →
      step state event = some next → invariant next)
    {start : State} {events : List Event} (initially : invariant start) :
    StepsMeet step good start events ↔
      StepsMeet step condition start events := by
  induction events generalizing start with
  | nil => exact Iff.rfl
  | cons event events induction =>
      rw [stepsMeet_cons_iff, stepsMeet_cons_iff,
        characterised start event initially]
      apply and_congr_right
      intro meets
      apply forall_congr'
      intro next
      apply imp_congr_right
      intro result
      apply induction
      exact preserved start event next initially
        ((characterised start event initially).mpr meets) result

theorem invariant_of_exec {invariant : State → Prop}
    (preserved : ∀ state event next, invariant state →
      step state event = some next → invariant next)
    {start finish : State} {events : List Event}
    (initially : invariant start)
    (run : exec step start events = some finish) :
    invariant finish := by
  have meets : StepsMeet step (fun _ _ => True) start events :=
    StepsMeet.of_forall start (fun _ _ _ => trivial)
  apply invariant_of_stepsMeet _ initially meets run
  intro state event next holds _ result
  exact preserved state event next holds result

theorem Reachable.invariant {invariant : State → Prop}
    (preserved : ∀ state event next, invariant state →
      step state event = some next → invariant next)
    {start state : State} (initially : invariant start)
    (reachable : Reachable step start state) : invariant state := by
  obtain ⟨events, run⟩ := reachable
  exact invariant_of_exec preserved initially run

/-- Every state of the run has the property. -/
def Always (step : State → Event → Option State) (property : State → Prop)
    (state : State) (events : List Event) : Prop :=
  ∀ first rest middle, events = first ++ rest →
    exec step state first = some middle → property middle

theorem always_of_stepsMeet {condition : State → Event → Prop}
    {invariant : State → Prop}
    (preserved : ∀ state event next, invariant state →
      condition state event → step state event = some next → invariant next)
    {state : State} {events : List Event} (initially : invariant state)
    (meets : StepsMeet step condition state events) :
    Always step invariant state events := by
  rintro first rest middle rfl run
  exact invariant_of_stepsMeet preserved initially meets.first run

/-- A property holds in every state of a run exactly when each step meets a
condition that characterises the steps keeping it. -/
theorem always_iff_stepsMeet {property : State → Prop}
    {condition : State → Event → Prop}
    (characterised : ∀ state event next, property state →
      step state event = some next → (condition state event ↔ property next))
    (vacuous : ∀ state event, step state event = none →
      condition state event)
    {state : State} {events : List Event} (initially : property state) :
    Always step property state events ↔
      StepsMeet step condition state events := by
  constructor
  · intro always
    apply stepsMeet_iff_forall_split.mpr
    intro first event rest before split run
    cases result : step before event with
    | none => exact vacuous before event result
    | some next =>
        have holds : property before :=
          always first (event :: rest) before split run
        apply (characterised before event next holds result).mpr
        apply always (first ++ [event]) rest next
        · simp [split]
        · rw [exec_append, run]
          simp [result]
  · intro meets
    apply always_of_stepsMeet _ initially meets
    intro before event next holds met result
    exact (characterised before event next holds result).mp met

/-! ## Events judged by the events before them -/

/-- Each event is allowed after the events before it; `past` holds those
before the list. -/
def Lawful (allowed : List Event → Event → Prop) :
    List Event → List Event → Prop
  | _, [] => True
  | past, event :: events =>
      allowed past event ∧ Lawful allowed (past ++ [event]) events

instance Lawful.decidable {allowed : List Event → Event → Prop}
    [∀ past event, Decidable (allowed past event)] :
    ∀ past events, Decidable (Lawful allowed past events)
  | _, [] => .isTrue trivial
  | past, event :: events =>
      have : Decidable (Lawful allowed (past ++ [event]) events) :=
        Lawful.decidable (past ++ [event]) events
      inferInstanceAs (Decidable (_ ∧ _))

/-- An invariant of the state and of the events so far. -/
theorem invariant_of_lawful {allowed : List Event → Event → Prop}
    {invariant : List Event → State → Prop}
    (preserved : ∀ past state event next, invariant past state →
      allowed past event → step state event = some next →
      invariant (past ++ [event]) next)
    {past events : List Event} {start finish : State}
    (initially : invariant past start)
    (lawful : Lawful allowed past events)
    (run : exec step start events = some finish) :
    invariant (past ++ events) finish := by
  induction events generalizing past start with
  | nil =>
      simp only [exec_nil, Option.some.injEq] at run
      subst finish
      simpa using initially
  | cons event events induction =>
      obtain ⟨next, result, run⟩ := exec_cons_eq_some_iff.mp run
      have holds := preserved past start event next initially lawful.1 result
      have rest := induction holds lawful.2 run
      simpa using rest

/-! ## Relations between earlier and later states -/

/-- `related` holds between any state of the run and any later one. -/
def Throughout (step : State → Event → Option State)
    (related : State → State → Prop) (state : State) (events : List Event) :
    Prop :=
  ∀ first second third middle finish,
    events = first ++ second ++ third →
    exec step state first = some middle →
    exec step middle second = some finish →
    related middle finish

theorem Throughout.tail {related : State → State → Prop}
    {state next : State} {event : Event} {events : List Event}
    (throughout : Throughout step related state (event :: events))
    (result : step state event = some next) :
    Throughout step related next events := by
  intro first second third middle finish split firstRun secondRun
  apply throughout (event :: first) second third middle finish
  · simp [split]
  · exact exec_cons_eq_some_iff.mpr ⟨next, result, firstRun⟩
  · exact secondRun

/-- A preorder on states holds throughout a run exactly when each step meets
a condition that characterises the steps inside the preorder. -/
theorem throughout_iff_stepsMeet {invariant : State → Prop}
    {related : State → State → Prop} {condition : State → Event → Prop}
    (refl : ∀ state, related state state)
    (trans : ∀ first second third, related first second →
      related second third → related first third)
    (preserved : ∀ state event next, invariant state →
      step state event = some next → invariant next)
    (characterised : ∀ state event next, invariant state →
      step state event = some next →
      (condition state event ↔ related state next))
    (vacuous : ∀ state event, step state event = none →
      condition state event)
    {state : State} {events : List Event} (initially : invariant state) :
    Throughout step related state events ↔
      StepsMeet step condition state events := by
  induction events generalizing state with
  | nil =>
      constructor
      · intro _
        trivial
      · intro _ first second third middle finish split firstRun secondRun
        obtain ⟨rfl, rfl, rfl⟩ : first = [] ∧ second = [] ∧ third = [] := by
          simpa using split.symm
        simp only [exec_nil, Option.some.injEq] at firstRun secondRun
        subst middle
        subst finish
        exact refl state
  | cons event events induction =>
      constructor
      · intro throughout
        cases result : step state event with
        | none =>
            refine ⟨vacuous state event result, ?_⟩
            intro next impossible
            simp [result] at impossible
        | some next =>
            refine ⟨?_, ?_⟩
            · apply (characterised state event next initially result).mpr
              apply throughout [] [event] events state next rfl rfl
              simp [result]
            · intro other same
              have : next = other := by simpa [result] using same
              subst other
              exact (induction (preserved state event next initially
                result)).mp (throughout.tail result)
      · intro meets first second third middle finish split firstRun secondRun
        cases first with
        | cons head first =>
            obtain ⟨rfl, restSplit⟩ : event = head ∧
                events = first ++ second ++ third := by
              simpa using split
            obtain ⟨next, result, firstRun⟩ :=
              exec_cons_eq_some_iff.mp firstRun
            have later := (induction (preserved state event next initially
              result)).mpr (meets.2 next result)
            exact later first second third middle finish restSplit firstRun
              secondRun
        | nil =>
            simp only [exec_nil, Option.some.injEq] at firstRun
            subst middle
            cases second with
            | nil =>
                simp only [exec_nil, Option.some.injEq] at secondRun
                subst finish
                exact refl state
            | cons head second =>
                obtain ⟨rfl, restSplit⟩ : event = head ∧
                    events = [] ++ second ++ third := by
                  simpa using split
                obtain ⟨next, result, secondRun⟩ :=
                  exec_cons_eq_some_iff.mp secondRun
                have later := (induction (preserved state event next
                  initially result)).mpr (meets.2 next result)
                have stepRelated :=
                  (characterised state event next initially result).mp
                    meets.1
                exact trans state next finish stepRelated
                  (later [] second third next finish restSplit rfl
                    secondRun)

theorem throughout_of_stepsMeet {invariant : State → Prop}
    {related : State → State → Prop} {condition : State → Event → Prop}
    (refl : ∀ state, related state state)
    (trans : ∀ first second third, related first second →
      related second third → related first third)
    (preserved : ∀ state event next, invariant state →
      step state event = some next → invariant next)
    (inside : ∀ state event next, invariant state → condition state event →
      step state event = some next → related state next)
    {state : State} {events : List Event} (initially : invariant state)
    (meets : StepsMeet step condition state events) :
    Throughout step related state events := by
  have stays : StepsMeet step
      (fun before event => ∀ next, step before event = some next →
        related before next) state events := by
    induction events generalizing state with
    | nil => trivial
    | cons event events induction =>
        refine ⟨?_, ?_⟩
        · intro next result
          exact inside state event next initially meets.1 result
        · intro next result
          exact induction (preserved state event next initially result)
            (meets.2 next result)
  apply (throughout_iff_stepsMeet refl trans preserved _ _ initially).mpr stays
  · intro before event next _ result
    constructor
    · intro stay
      exact stay next result
    · intro related other same
      simp only [result, Option.some.injEq] at same
      subst other
      exact related
  · intro before event impossible next result
    simp [impossible] at result

/-! ## Where a property came from -/

/-- What holds at the end of a run held at its start, or one of its steps
brought it about. -/
theorem exists_origin {invariant property : State → Prop}
    {brings : State → Event → Prop}
    (preserved : ∀ state event next, invariant state →
      step state event = some next → invariant next)
    (explained : ∀ state event next, invariant state →
      step state event = some next → property next →
      property state ∨ brings state event)
    {start finish : State} {events : List Event} (initially : invariant start)
    (run : exec step start events = some finish) (holds : property finish) :
    property start ∨
      ∃ first event rest before, events = first ++ event :: rest ∧
        exec step start first = some before ∧ brings before event := by
  induction events generalizing start with
  | nil =>
      simp only [exec_nil, Option.some.injEq] at run
      subst finish
      exact .inl holds
  | cons event events induction =>
      obtain ⟨next, result, run⟩ := exec_cons_eq_some_iff.mp run
      rcases induction (preserved start event next initially result) run with
        early | ⟨first, later, rest, before, split, firstRun, brought⟩
      · rcases explained start event next initially result early with
          earlier | brought
        · exact .inl earlier
        · exact .inr ⟨[], event, events, start, rfl, rfl, brought⟩
      · refine .inr ⟨event :: first, later, rest, before, ?_, ?_, brought⟩
        · simp [split]
        · exact exec_cons_eq_some_iff.mpr ⟨next, result, firstRun⟩

/-- When each step of a run says exactly when it adds a property, so does the
run. -/
theorem holds_iff_exists_step {property : State → Prop}
    {condition brings : State → Event → Prop}
    (explained : ∀ state event next, condition state event →
      step state event = some next →
      (property next ↔ property state ∨ brings state event))
    {start finish : State} {events : List Event}
    (meets : StepsMeet step condition start events)
    (run : exec step start events = some finish) :
    property finish ↔
      property start ∨
        ∃ first event rest before, events = first ++ event :: rest ∧
          exec step start first = some before ∧ brings before event := by
  induction events generalizing start with
  | nil =>
      cases run
      simp
  | cons event events ih =>
      obtain ⟨next, result, rest⟩ := exec_cons_eq_some_iff.mp run
      obtain ⟨met, later⟩ := stepsMeet_cons_iff.mp meets
      rw [ih (later next result) rest,
        explained start event next met result, or_assoc]
      apply or_congr_right
      constructor
      · intro given
        rcases given with now | ⟨first, other, others, before, same, reached,
          brought⟩
        · exact ⟨[], event, events, start, rfl, rfl, now⟩
        · refine ⟨event :: first, other, others, before, ?_, ?_, brought⟩
          · rw [same, List.cons_append]
          · exact exec_cons_eq_some_iff.mpr ⟨next, result, reached⟩
      · rintro ⟨first, other, others, before, same, reached, brought⟩
        cases first with
        | nil =>
            cases reached
            obtain ⟨rfl, rfl⟩ := List.cons.inj same
            exact Or.inl brought
        | cons head tail =>
            obtain ⟨rfl, rfl⟩ := List.cons.inj same
            obtain ⟨middle, moved, reached⟩ :=
              exec_cons_eq_some_iff.mp reached
            have equal : middle = next := by simpa [result] using moved.symm
            subst middle
            exact Or.inr ⟨tail, other, others, before, rfl, reached, brought⟩

end EclairWallet.Runs
