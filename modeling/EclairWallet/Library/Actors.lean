import Mathlib.Data.List.Perm.Basic
import EclairWallet.Library.Runs

/-!
# Actors with a stack of behaviours

An actor reads its mailbox one message at a time and handles it with the
behaviour on top of its stack.  `become` replaces that behaviour, `unbecome`
drops it and falls back on the original one.  A scheduled message is a timer
first and a message in the mailbox once the timer has fired.
-/

namespace EclairWallet.Actors

universe u v w

inductive Effect (β : Type u) (μ : Type v) (ε : Type w) where
  | scheduleOnce (message : μ)
  | become (behaviour : β)
  | unbecome
  | call (event : ε)

/-- An entry of an actor's log: a message with the behaviour it met, or a call
out of the actor. -/
inductive Entry (β : Type u) (μ : Type v) (ε : Type w) where
  | received (behaviour : β) (message : μ)
  | called (event : ε)
  deriving DecidableEq

/-- The log has the newest entry first. -/
structure Actor (β : Type u) (μ : Type v) (ε : Type w) where
  behaviours : List β := []
  mailbox : List μ := []
  timers : List μ := []
  log : List (Entry β μ ε) := []
  deriving DecidableEq

/-- What another party, a timer or the dispatcher does to the actor. -/
inductive Event (μ : Type v) where
  | send (message : μ)
  | fire (timer : Nat)
  | process
  deriving DecidableEq

/-- The actor's own events: nobody sends it anything. -/
def Event.Internal {μ : Type v} : Event μ → Prop
  | .send _ => False
  | .fire _ => True
  | .process => True

section

variable {β : Type u} {μ : Type v} {ε : Type w}

namespace Actor

/-- The behaviour that handles the next message. -/
def behaviour (original : β) (actor : Actor β μ ε) : β :=
  actor.behaviours.headD original

def perform (original : β) (actor : Actor β μ ε) :
    Effect β μ ε → Actor β μ ε
  | .scheduleOnce message =>
      { actor with timers := actor.timers ++ [message] }
  | .become behaviour =>
      { actor with behaviours := behaviour :: actor.behaviours.tail }
  | .unbecome =>
      match actor.behaviours with
      | _ :: second :: rest => { actor with behaviours := second :: rest }
      | _ => { actor with behaviours := [original] }
  | .call event => { actor with log := .called event :: actor.log }

/-- The actor takes `message` out of its mailbox, leaving `mailbox`. -/
def receive (original : β) (handle : β → μ → List (Effect β μ ε))
    (actor : Actor β μ ε) (message : μ) (mailbox : List μ) : Actor β μ ε :=
  let behaviour := actor.behaviour original
  (handle behaviour message).foldl (perform original)
    { actor with
      mailbox := mailbox
      log := .received behaviour message :: actor.log }

def step (original : β) (handle : β → μ → List (Effect β μ ε))
    (actor : Actor β μ ε) : Event μ → Option (Actor β μ ε)
  | .send message => some { actor with mailbox := actor.mailbox ++ [message] }
  | .fire timer =>
      match actor.timers[timer]? with
      | some message =>
          some { actor with
            timers := actor.timers.eraseIdx timer
            mailbox := actor.mailbox ++ [message] }
      | none => none
  | .process =>
      match actor.mailbox with
      | message :: mailbox =>
          some (actor.receive original handle message mailbox)
      | [] => none

/-- How often `message` is on its way: its timer runs, or it waits in the
mailbox. -/
def outstanding [DecidableEq μ] (message : μ) (actor : Actor β μ ε) : Nat :=
  actor.timers.count message + actor.mailbox.count message

variable {original : β} {handle : β → μ → List (Effect β μ ε)}
  {actor next : Actor β μ ε}

@[simp] theorem mailbox_foldl_perform (original : β)
    (effects : List (Effect β μ ε)) (actor : Actor β μ ε) :
    (effects.foldl (perform original) actor).mailbox = actor.mailbox := by
  induction effects generalizing actor with
  | nil => rfl
  | cons effect effects induction =>
      rw [List.foldl_cons, induction]
      cases effect with
      | unbecome =>
          simp only [perform]
          split <;> rfl
      | _ => rfl

theorem step_fire_eq_some_iff {timer : Nat} :
    actor.step original handle (.fire timer) = some next ↔
      ∃ message, actor.timers[timer]? = some message ∧
        next = { actor with
          timers := actor.timers.eraseIdx timer
          mailbox := actor.mailbox ++ [message] } := by
  simp only [step]
  cases found : actor.timers[timer]? with
  | none => simp
  | some message => simp [eq_comm]

theorem step_process_eq_some_iff :
    actor.step original handle .process = some next ↔
      ∃ message mailbox, actor.mailbox = message :: mailbox ∧
        next = actor.receive original handle message mailbox := by
  simp only [step]
  cases found : actor.mailbox with
  | nil => simp
  | cons message mailbox =>
      constructor
      · intro result
        exact ⟨message, mailbox, rfl, (Option.some.inj result).symm⟩
      · intro given
        obtain ⟨_, _, ⟨⟩, rfl⟩ := given
        rfl

theorem log_suffix_foldl_perform (effects : List (Effect β μ ε))
    (actor : Actor β μ ε) :
    actor.log <:+ (effects.foldl (perform original) actor).log := by
  induction effects generalizing actor with
  | nil => exact List.suffix_refl _
  | cons effect effects induction =>
      refine List.IsSuffix.trans ?_ (induction _)
      cases effect with
      | call event => exact List.suffix_cons _ _
      | unbecome =>
          simp only [perform]
          split <;> exact List.suffix_refl _
      | _ => exact List.suffix_refl _

theorem log_suffix_of_step {event : Event μ}
    (result : actor.step original handle event = some next) :
    actor.log <:+ next.log := by
  cases event with
  | send message =>
      simp only [step, Option.some.injEq] at result
      subst next
      exact List.suffix_refl _
  | fire timer =>
      obtain ⟨message, _, rfl⟩ := step_fire_eq_some_iff.mp result
      exact List.suffix_refl _
  | process =>
      obtain ⟨message, mailbox, _, rfl⟩ := step_process_eq_some_iff.mp result
      refine List.IsSuffix.trans ?_ (log_suffix_foldl_perform _ _)
      exact List.suffix_cons _ _

theorem log_suffix_of_exec {events : List (Event μ)}
    (run : Runs.exec (step original handle) actor events = some next) :
    actor.log <:+ next.log := by
  have preserved : ∀ (earlier : Actor β μ ε) event later,
      actor.log <:+ earlier.log →
      step original handle earlier event = some later →
        actor.log <:+ later.log := by
    intro earlier event later suffix result
    exact suffix.trans (log_suffix_of_step result)
  exact Runs.invariant_of_exec preserved (List.suffix_refl _) run

theorem outstanding_fire [DecidableEq μ] {timer : Nat} {fired : μ}
    (found : actor.timers[timer]? = some fired) (message : μ) :
    ({ actor with
        timers := actor.timers.eraseIdx timer
        mailbox := actor.mailbox ++ [fired] } : Actor β μ ε).outstanding
        message =
      actor.outstanding message := by
  obtain ⟨bound, rfl⟩ := List.getElem?_eq_some_iff.mp found
  have split := (List.getElem_cons_eraseIdx_perm bound).count_eq message
  rw [List.count_cons] at split
  simp only [outstanding, List.count_append, List.count_singleton]
  omega

theorem outstanding_send [DecidableEq μ] {message sent : μ}
    (different : sent ≠ message) :
    ({ actor with mailbox := actor.mailbox ++ [sent] } :
        Actor β μ ε).outstanding message =
      actor.outstanding message := by
  simp [outstanding, List.count_append, different]

theorem exists_head {message : μ} (waits : message ∈ actor.mailbox) :
    ∃ events next rest, (∀ event ∈ events, event.Internal) ∧
      Runs.exec (step original handle) actor events = some next ∧
      next.mailbox = message :: rest := by
  generalize found : actor.mailbox = mailbox at waits
  induction mailbox generalizing actor with
  | nil => cases waits
  | cons first mailbox induction =>
      rcases List.mem_cons.mp waits with rfl | later
      · exact ⟨[], actor, mailbox, by simp, rfl, found⟩
      · have processed : step original handle actor .process =
            some (actor.receive original handle first mailbox) :=
          step_process_eq_some_iff.mpr ⟨first, mailbox, found, rfl⟩
        have remaining :
            (actor.receive original handle first mailbox).mailbox =
              mailbox := by
          simp [receive]
        obtain ⟨events, next, rest, internal, run, head⟩ :=
          induction remaining later
        refine ⟨.process :: events, next, rest, ?_, ?_, head⟩
        · intro event member
          rcases List.mem_cons.mp member with rfl | inRest
          · trivial
          · exact internal event inRest
        · exact Runs.exec_cons_eq_some_iff.mpr ⟨_, processed, run⟩

/-- An outstanding message is delivered by the actor's own events. -/
theorem exists_delivery [DecidableEq μ] {message : μ}
    (outstanding : 0 < actor.outstanding message) :
    ∃ events next rest, (∀ event ∈ events, event.Internal) ∧
      Runs.exec (step original handle) actor events = some next ∧
      next.mailbox = message :: rest := by
  by_cases waits : message ∈ actor.mailbox
  · exact exists_head waits
  · have running : message ∈ actor.timers := by
      apply List.count_pos_iff.mp
      have none : actor.mailbox.count message = 0 :=
        List.count_eq_zero.mpr waits
      simp only [Actor.outstanding] at outstanding
      omega
    obtain ⟨timer, found⟩ := List.mem_iff_getElem?.mp running
    generalize delivered : ({ actor with
        timers := actor.timers.eraseIdx timer
        mailbox := actor.mailbox ++ [message] } : Actor β μ ε) = after
    have fired : step original handle actor (.fire timer) = some after :=
      step_fire_eq_some_iff.mpr ⟨message, found, delivered.symm⟩
    have waitsAfter : message ∈ after.mailbox := by
      subst after
      simp
    obtain ⟨events, next, rest, internal, run, head⟩ :=
      @exists_head _ _ _ original handle _ _ waitsAfter
    refine ⟨.fire timer :: events, next, rest, ?_, ?_, head⟩
    · intro event member
      rcases List.mem_cons.mp member with rfl | inRest
      · trivial
      · exact internal event inRest
    · exact Runs.exec_cons_eq_some_iff.mpr ⟨_, fired, run⟩

end Actor

end

end EclairWallet.Actors
