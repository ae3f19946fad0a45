import EclairWallet.Library.Runs

/-!
# Work that runs out

Some events of a component need nothing from outside: a message that waits is
handled, a timer fires.  When each of them uses up some of the work in progress
they come to an end by themselves, in whatever order they happen.
-/

namespace EclairWallet.Runs

universe u v

variable {State : Type u} {Event : Type v}

/-- Every event of the list is one of the component's own. -/
def AllInternal (internal : Event → Prop) (events : List Event) : Prop :=
  ∀ event ∈ events, internal event

/-- Nothing is left that could happen by itself. -/
def Settled (step : State → Event → Option State) (internal : Event → Prop)
    (state : State) : Prop :=
  ∀ event, internal event → step state event = none

/-- Each of the component's own events uses up some of the work. -/
def UsesUp (step : State → Event → Option State) (internal : Event → Prop)
    (work : State → Nat) : Prop :=
  ∀ state event next, internal event → step state event = some next →
    work next < work state

variable {step : State → Event → Option State} {internal : Event → Prop}
  {work : State → Nat}

theorem AllInternal.nil : AllInternal internal [] := by
  intro event member
  cases member

theorem AllInternal.cons {event : Event} {events : List Event}
    (first : internal event) (rest : AllInternal internal events) :
    AllInternal internal (event :: events) := by
  intro other member
  rcases List.mem_cons.mp member with rfl | later
  · exact first
  · exact rest other later

/-- A run of the component's own events is no longer than the work at its
start. -/
theorem UsesUp.length_le (usesUp : UsesUp step internal work)
    {state finish : State} {events : List Event}
    (own : AllInternal internal events)
    (run : exec step state events = some finish) :
    events.length + work finish ≤ work state := by
  induction events generalizing state with
  | nil =>
      cases run
      simp
  | cons event events induction =>
      obtain ⟨next, result, rest⟩ := exec_cons_eq_some_iff.mp run
      have less := usesUp state event next (own event (by simp)) result
      have bound := induction
        (fun other member => own other (by simp [member])) rest
      rw [List.length_cons]
      omega

/-- From every state the component settles by itself. -/
theorem UsesUp.exists_settled (usesUp : UsesUp step internal work)
    (state : State) :
    ∃ events finish, AllInternal internal events ∧
      exec step state events = some finish ∧
      Settled step internal finish := by
  generalize size : work state = bound
  induction bound using Nat.strongRecOn generalizing state with
  | ind bound induction =>
      by_cases active : ∃ event next, internal event ∧
          step state event = some next
      · obtain ⟨event, next, own, result⟩ := active
        have less : work next < bound := by
          rw [← size]
          exact usesUp state event next own result
        obtain ⟨events, finish, rest, run, settled⟩ :=
          induction (work next) less next rfl
        exact ⟨event :: events, finish, .cons own rest,
          exec_cons_eq_some_iff.mpr ⟨next, result, run⟩, settled⟩
      · refine ⟨[], state, .nil, rfl, ?_⟩
        intro event own
        cases result : step state event with
        | none => rfl
        | some next => exact absurd ⟨event, next, own, result⟩ active

theorem invariant_of_internal {invariant : State → Prop}
    (preserved : ∀ state event next, internal event → invariant state →
      step state event = some next → invariant next)
    {state finish : State} {events : List Event}
    (own : AllInternal internal events) (initially : invariant state)
    (run : exec step state events = some finish) : invariant finish := by
  have kept : ∀ state event next, invariant state → internal event →
      step state event = some next → invariant next := by
    intro state event next holds own result
    exact preserved state event next own holds result
  have meets : StepsMeet step (fun _ event => internal event) state events :=
    StepsMeet.of_forall state (fun _ event member => own event member)
  exact invariant_of_stepsMeet kept initially meets run

end EclairWallet.Runs
