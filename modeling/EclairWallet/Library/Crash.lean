/-!
# Programs that may fail or be killed at any step

A program performs actions on a state.  What becomes of each action is not up
to the program: it proceeds, it throws after it came a certain way, or the
process is killed when it has come that far.  A triple says in which states a
program can return, throw, and be killed.
-/

namespace EclairWallet.Crash

/-- What becomes of one action; `extent` tells how far it came. -/
inductive Fate where
  | proceeds
  | fails (extent : Nat)
  | killed (extent : Nat)
  deriving DecidableEq, Repr

inductive Outcome (Error Value : Type) where
  | returned (value : Value)
  | thrown (error : Error)
  | killed
  deriving DecidableEq, Repr

/-- How a program ended, the state it left, and the fates it did not meet. -/
structure Ended (State Error Value : Type) where
  outcome : Outcome Error Value
  state : State
  fates : List Fate
  deriving DecidableEq, Repr

/-- A program meets the fates in order; when there are no more, it
proceeds. -/
def Program (State Error Value : Type) : Type :=
  State → List Fate → Ended State Error Value

/-- One action: what it does when it proceeds, what it throws when it fails,
and the states it leaves when it is interrupted. -/
structure Action (State Error Value : Type) where
  whole : State → Except Error (Value × State)
  failure : Error
  onFail : Nat → State → State
  onKill : Nat → State → State

/-- An action that leaves the state alone. -/
def Action.reading {State Error Value : Type}
    (read : State → Except Error Value) (failure : Error) :
    Action State Error Value where
  whole state := (read state).map (fun value => (value, state))
  failure := failure
  onFail _ state := state
  onKill _ state := state

namespace Program

variable {State Error Value Other : Type}

def ret (value : Value) : Program State Error Value :=
  fun state fates => ⟨.returned value, state, fates⟩

def throw (error : Error) : Program State Error Value :=
  fun state fates => ⟨.thrown error, state, fates⟩

def bind (program : Program State Error Value)
    (next : Value → Program State Error Other) :
    Program State Error Other :=
  fun state fates =>
    match program state fates with
    | ⟨.returned value, after, rest⟩ => next value after rest
    | ⟨.thrown error, after, rest⟩ => ⟨.thrown error, after, rest⟩
    | ⟨.killed, after, rest⟩ => ⟨.killed, after, rest⟩

instance : Monad (Program State Error) where
  pure := ret
  bind := bind

def tryCatch (program : Program State Error Value)
    (handler : Error → Program State Error Value) :
    Program State Error Value :=
  fun state fates =>
    match program state fates with
    | ⟨.returned value, after, rest⟩ => ⟨.returned value, after, rest⟩
    | ⟨.thrown error, after, rest⟩ => handler error after rest
    | ⟨.killed, after, rest⟩ => ⟨.killed, after, rest⟩

/-- What the program decides on the state it finds. -/
def decideOn (choose : State → Program State Error Value) :
    Program State Error Value :=
  fun state fates => choose state state fates

def perform (action : Action State Error Value) : Program State Error Value
  | state, .fails extent :: rest =>
      ⟨.thrown action.failure, action.onFail extent state, rest⟩
  | state, .killed extent :: rest =>
      ⟨.killed, action.onKill extent state, rest⟩
  | state, fates =>
      match action.whole state with
      | .ok (value, after) => ⟨.returned value, after, fates.tail⟩
      | .error error => ⟨.thrown error, state, fates.tail⟩

end Program

variable {State Error Value Other : Type}

/-- What holds of the ways in which a program can end. -/
def Ended.Satisfies (ended : Ended State Error Value)
    (returned : Value → State → Prop) (thrown killed : State → Prop) : Prop :=
  match ended.outcome with
  | .returned value => returned value ended.state
  | .thrown _ => thrown ended.state
  | .killed => killed ended.state

theorem Ended.Satisfies.cases {ended : Ended State Error Value}
    {returned : Value → State → Prop} {thrown killed : State → Prop}
    (satisfies : ended.Satisfies returned thrown killed) :
    (∃ value after rest, ended = ⟨.returned value, after, rest⟩ ∧
        returned value after) ∨
      (∃ error after rest, ended = ⟨.thrown error, after, rest⟩ ∧
        thrown after) ∨
      ∃ after rest, ended = ⟨.killed, after, rest⟩ ∧ killed after := by
  obtain ⟨outcome, after, rest⟩ := ended
  cases outcome with
  | returned value => exact .inl ⟨value, after, rest, rfl, satisfies⟩
  | thrown error => exact .inr (.inl ⟨error, after, rest, rfl, satisfies⟩)
  | killed => exact .inr (.inr ⟨after, rest, rfl, satisfies⟩)

theorem Ended.Satisfies.mono {ended : Ended State Error Value}
    {returned weakReturned : Value → State → Prop}
    {thrown weakThrown killed weakKilled : State → Prop}
    (satisfies : ended.Satisfies returned thrown killed)
    (returns : ∀ value state, returned value state → weakReturned value state)
    (throws : ∀ state, thrown state → weakThrown state)
    (dies : ∀ state, killed state → weakKilled state) :
    ended.Satisfies weakReturned weakThrown weakKilled := by
  rcases satisfies.cases with ⟨value, after, rest, rfl, holds⟩ |
    ⟨error, after, rest, rfl, holds⟩ | ⟨after, rest, rfl, holds⟩
  · exact returns value after holds
  · exact throws after holds
  · exact dies after holds

/-- From any state with `pre`, whatever the fates. -/
def Triple (pre : State → Prop) (program : Program State Error Value)
    (returned : Value → State → Prop) (thrown killed : State → Prop) : Prop :=
  ∀ state fates, pre state →
    (program state fates).Satisfies returned thrown killed

variable {pre : State → Prop} {program : Program State Error Value}
  {returned : Value → State → Prop} {thrown killed : State → Prop}

theorem triple_ret {value : Value}
    (holds : ∀ state, pre state → returned value state) :
    Triple pre (pure value : Program State Error Value) returned thrown
      killed := by
  intro state fates initially
  exact holds state initially

theorem triple_throw {error : Error}
    (holds : ∀ state, pre state → thrown state) :
    Triple pre (Program.throw error : Program State Error Value) returned
      thrown killed := by
  intro state fates initially
  exact holds state initially

theorem triple_bind {middle : Value → State → Prop}
    {next : Value → Program State Error Other}
    {finish : Other → State → Prop}
    (first : Triple pre program middle thrown killed)
    (later : ∀ value, Triple (middle value) (next value) finish thrown
      killed) :
    Triple pre (program >>= next) finish thrown killed := by
  intro state fates initially
  change (Program.bind program next state fates).Satisfies _ _ _
  rw [Program.bind]
  rcases (first state fates initially).cases with
    ⟨value, after, rest, result, holds⟩ | ⟨error, after, rest, result, holds⟩ |
    ⟨after, rest, result, holds⟩
  · rw [result]
    exact later value after rest holds
  · rw [result]
    exact holds
  · rw [result]
    exact holds

theorem triple_tryCatch {caught : State → Prop}
    {handler : Error → Program State Error Value}
    (first : Triple pre program returned caught killed)
    (handled : ∀ error, Triple caught (handler error) returned thrown
      killed) :
    Triple pre (program.tryCatch handler) returned thrown killed := by
  intro state fates initially
  rw [Program.tryCatch]
  rcases (first state fates initially).cases with
    ⟨value, after, rest, result, holds⟩ | ⟨error, after, rest, result, holds⟩ |
    ⟨after, rest, result, holds⟩
  · rw [result]
    exact holds
  · rw [result]
    exact handled error after rest holds
  · rw [result]
    exact holds

theorem triple_decideOn {choose : State → Program State Error Value}
    (chosen : ∀ state, pre state →
      Triple (fun found => found = state ∧ pre found) (choose state) returned
        thrown killed) :
    Triple pre (Program.decideOn choose) returned thrown killed := by
  intro state fates initially
  exact chosen state initially state fates ⟨rfl, initially⟩

theorem triple_perform {action : Action State Error Value}
    (proceeds : ∀ state value after, pre state →
      action.whole state = .ok (value, after) → returned value after)
    (refused : ∀ state, pre state → thrown state)
    (fails : ∀ state extent, pre state → thrown (action.onFail extent state))
    (dies : ∀ state extent, pre state →
      killed (action.onKill extent state)) :
    Triple pre (Program.perform action) returned thrown killed := by
  have goesOn : ∀ state fates, pre state →
      (match action.whole state with
        | .ok (value, after) =>
            (⟨.returned value, after, fates⟩ : Ended State Error Value)
        | .error error => ⟨.thrown error, state, fates⟩).Satisfies returned
          thrown killed := by
    intro state fates initially
    cases result : action.whole state with
    | ok pair => exact proceeds state pair.1 pair.2 initially result
    | error error => exact refused state initially
  intro state fates initially
  cases fates with
  | nil => exact goesOn state [] initially
  | cons fate rest =>
      cases fate with
      | proceeds => exact goesOn state rest initially
      | fails extent => exact fails state extent initially
      | killed extent => exact dies state extent initially

theorem triple_reading {read : State → Except Error Value} {failure : Error}
    (proceeds : ∀ state value, pre state → read state = .ok value →
      returned value state)
    (fails : ∀ state, pre state → thrown state)
    (dies : ∀ state, pre state → killed state) :
    Triple pre (Program.perform (Action.reading read failure)) returned thrown
      killed := by
  apply triple_perform
  · intro state value after initially result
    change (read state).map _ = _ at result
    cases reads : read state with
    | error error =>
        rw [reads] at result
        cases result
    | ok found =>
        rw [reads] at result
        cases result
        exact proceeds state value initially reads
  · exact fails
  · intro state _ initially
    exact fails state initially
  · intro state _ initially
    exact dies state initially

theorem Triple.of_stronger {strong : State → Prop}
    (triple : Triple pre program returned thrown killed)
    (stronger : ∀ state, strong state → pre state) :
    Triple strong program returned thrown killed := by
  intro state fates initially
  exact triple state fates (stronger state initially)

/-! ## Runs step by step -/

section Steps

variable {state after : State} {fates rest : List Fate} {value : Value}
  {error : Error} {next : Value → Program State Error Other}
  {handler : Error → Program State Error Other}

theorem perform_cases {action : Action State Error Value}
    (performs : program = Program.perform action) (state : State)
    (fates : List Fate) :
    (∃ extent, fates[0]? = some (.fails extent) ∧
        program state fates =
          ⟨.thrown action.failure, action.onFail extent state, fates.tail⟩) ∨
      (∃ extent, fates[0]? = some (.killed extent) ∧
        program state fates =
          ⟨.killed, action.onKill extent state, fates.tail⟩) ∨
      ((fates[0]? = none ∨ fates[0]? = some .proceeds) ∧
        program state fates =
          match action.whole state with
          | .ok (value, after) => ⟨.returned value, after, fates.tail⟩
          | .error error => ⟨.thrown error, state, fates.tail⟩) := by
  subst program
  cases fates with
  | nil => exact .inr (.inr ⟨.inl rfl, rfl⟩)
  | cons fate rest =>
      cases fate with
      | proceeds => exact .inr (.inr ⟨.inr rfl, rfl⟩)
      | fails extent => exact .inl ⟨extent, rfl, rfl⟩
      | killed extent => exact .inr (.inl ⟨extent, rfl, rfl⟩)

/-- A block under a handler goes on with its next step, hands what was thrown
to the handler, or ends with the process. -/
theorem tryCatch_bind_of_returned
    (result : program state fates = ⟨.returned value, after, rest⟩) :
    (program >>= next).tryCatch handler state fates =
      (next value).tryCatch handler after rest := by
  change (Program.bind program next).tryCatch handler state fates = _
  simp only [Program.tryCatch, Program.bind, result]

theorem tryCatch_bind_of_thrown
    (result : program state fates = ⟨.thrown error, after, rest⟩) :
    (program >>= next).tryCatch handler state fates =
      handler error after rest := by
  change (Program.bind program next).tryCatch handler state fates = _
  simp only [Program.tryCatch, Program.bind, result]

theorem tryCatch_bind_of_killed
    (result : program state fates = ⟨.killed, after, rest⟩) :
    (program >>= next).tryCatch handler state fates =
      ⟨.killed, after, rest⟩ := by
  change (Program.bind program next).tryCatch handler state fates = _
  simp only [Program.tryCatch, Program.bind, result]

/-- A handler is idle when another one before it returns. -/
theorem tryCatch_of_handled (program : Program State Error Other)
    (value : Other) :
    (program.tryCatch (fun _ => pure value)).tryCatch handler =
      program.tryCatch (fun _ => pure value) := by
  funext state fates
  unfold Program.tryCatch
  cases program state fates with
  | mk outcome after rest =>
      cases outcome with
      | returned value => rfl
      | thrown error => rfl
      | killed => rfl

end Steps

/-! ## Undisturbed runs -/

section Undisturbed

variable {state after : State} {fates rest : List Fate} {value : Value}

theorem bind_of_returned {next : Value → Program State Error Other}
    (result : program state fates = ⟨.returned value, after, rest⟩) :
    (program >>= next) state fates = next value after rest := by
  change Program.bind program next state fates = _
  rw [Program.bind, result]

theorem tryCatch_of_returned {handler : Error → Program State Error Value}
    (result : program state fates = ⟨.returned value, after, rest⟩) :
    program.tryCatch handler state fates = ⟨.returned value, after, rest⟩ := by
  rw [Program.tryCatch, result]

theorem perform_undisturbed {action : Action State Error Value}
    (result : action.whole state = .ok (value, after)) :
    Program.perform action state [] = ⟨.returned value, after, []⟩ := by
  simp [Program.perform, result]

theorem reading_undisturbed {read : State → Except Error Value}
    {failure : Error} (result : read state = .ok value) :
    Program.perform (Action.reading read failure) state [] =
      ⟨.returned value, state, []⟩ := by
  apply perform_undisturbed
  simp [Action.reading, result, Except.map]

end Undisturbed

end EclairWallet.Crash
