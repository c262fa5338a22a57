import Mathlib.Data.List.Infix

/-!
# Runs of a state machine

A total step function takes a state and an event to the next state, and a run
folds it over a list of events.  `Along` speaks of every step of a run, by the
state before the step and its event; `Always` speaks of every state the run
reaches.  An invariant that the permitted steps keep is what links the two.
-/

namespace Run

variable {State Event : Type*} (step : State → Event → State)

/-- The state after a list of events. -/
def after (start : State) (events : List Event) : State :=
  events.foldl step start

@[simp] theorem after_nil (start : State) : after step start [] = start := rfl

@[simp] theorem after_cons
    (start : State)
    (event : Event)
    (events : List Event) :
    after step start (event :: events) =
      after step (step start event) events := rfl

theorem after_append
    (start : State)
    (first second : List Event) :
    after step start (first ++ second) =
      after step (after step start first) second :=
  List.foldl_append

/-- A property of every step of a run. -/
def Along
    (permitted : State → Event → Prop)
    (start : State)
    (events : List Event) : Prop :=
  ∀ before event, before ++ [event] <+: events →
    permitted (after step start before) event

/-- A property of every state of a run, its start and its end included. -/
def Always
    (holds : State → Prop)
    (start : State)
    (events : List Event) : Prop :=
  ∀ before, before <+: events → holds (after step start before)

/-- How many steps of a run are marked. -/
def tally (marked : State → Event → Bool) : State → List Event → Nat
  | _, [] => 0
  | state, event :: events =>
      (marked state event).toNat + tally marked (step state event) events

variable {step}
variable {permitted allowed : State → Event → Prop}
variable {holds invariant : State → Prop}
variable {start : State} {event : Event} {events : List Event}

theorem along_nil : Along step permitted start [] := by
  intro before event isPrefix
  exact absurd (List.prefix_nil.mp isPrefix) (List.append_ne_nil_of_right_ne_nil
    _ (List.cons_ne_nil _ _))

theorem along_cons :
    Along step permitted start (event :: events) ↔
      permitted start event ∧
        Along step permitted (step start event) events := by
  constructor
  · intro along
    refine ⟨along [] event ⟨events, rfl⟩, ?_⟩
    intro before later isPrefix
    exact along (event :: before) later
      (List.cons_prefix_cons.mpr ⟨rfl, isPrefix⟩)
  · rintro ⟨first, rest⟩ before later isPrefix
    cases before with
    | nil =>
        have same := (List.cons_prefix_cons.mp isPrefix).1
        rw [same]
        exact first
    | cons head tail =>
        obtain ⟨same, isPrefix⟩ := List.cons_prefix_cons.mp isPrefix
        rw [same]
        exact rest tail later isPrefix

/-- A run goes on where its first part has ended. -/
theorem along_append {second : List Event} :
    Along step permitted start (events ++ second) ↔
      Along step permitted start events ∧
        Along step permitted (after step start events) second := by
  induction events generalizing start with
  | nil => exact ⟨fun along => ⟨along_nil, along⟩, And.right⟩
  | cons event events inductionHypothesis =>
      rw [List.cons_append, along_cons, along_cons, inductionHypothesis,
        and_assoc]
      rfl

/-- Events that every state permits. -/
theorem along_of_forall_mem
    (always : ∀ event ∈ events, ∀ state, permitted state event) :
    Along step permitted start events := by
  intro before event isPrefix
  refine always event (isPrefix.subset ?_) _
  exact List.mem_append_right before List.mem_cons_self

theorem always_nil : Always step holds start [] ↔ holds start := by
  constructor
  · intro always
    exact always [] (List.prefix_refl [])
  · intro first before isPrefix
    rw [List.prefix_nil.mp isPrefix]
    exact first

theorem always_cons :
    Always step holds start (event :: events) ↔
      holds start ∧ Always step holds (step start event) events := by
  constructor
  · intro always
    refine ⟨always [] (List.nil_prefix), ?_⟩
    intro before isPrefix
    exact always (event :: before) (List.cons_prefix_cons.mpr ⟨rfl, isPrefix⟩)
  · rintro ⟨first, rest⟩ before isPrefix
    cases before with
    | nil => exact first
    | cons head tail =>
        obtain ⟨same, isPrefix⟩ := List.cons_prefix_cons.mp isPrefix
        rw [same]
        exact rest tail isPrefix

/-- What holds of every state holds after every step. -/
theorem Always.along_next (always : Always step holds start events) :
    Along step (fun state event => holds (step state event)) start events := by
  intro before event isPrefix
  have next := always (before ++ [event]) isPrefix
  rwa [after_append] at next

/-- An invariant kept by the permitted steps holds throughout a run of them. -/
theorem Along.always
    (kept : ∀ state event, invariant state → permitted state event →
      invariant (step state event))
    (initially : invariant start)
    (along : Along step permitted start events) :
    Always step invariant start events := by
  induction events generalizing start with
  | nil => exact always_nil.mpr initially
  | cons event events inductionHypothesis =>
      obtain ⟨first, rest⟩ := along_cons.mp along
      exact always_cons.mpr ⟨initially,
        inductionHypothesis (kept start event initially first) rest⟩

/-- What each event of a run keeps holds at its end. -/
theorem after_of_forall_mem
    (holds : State → Prop)
    (kept : ∀ event ∈ events, ∀ state, holds state →
      holds (step state event))
    (initially : holds start) :
    holds (after step start events) := by
  induction events generalizing start with
  | nil => exact initially
  | cons event events inductionHypothesis =>
      apply inductionHypothesis
      · intro later isLater
        exact kept later (List.mem_cons_of_mem event isLater)
      · exact kept event List.mem_cons_self start initially

/-- Two conditions on steps that agree where an invariant holds, which the
steps they permit keep, permit the same runs. -/
theorem along_congr
    (agree : ∀ state event, invariant state →
      (permitted state event ↔ allowed state event))
    (kept : ∀ state event, invariant state → permitted state event →
      invariant (step state event))
    (initially : invariant start) :
    Along step permitted start events ↔ Along step allowed start events := by
  induction events generalizing start with
  | nil => exact ⟨fun _ => along_nil, fun _ => along_nil⟩
  | cons event events inductionHypothesis =>
      rw [along_cons, along_cons, ← agree start event initially]
      apply and_congr_right
      intro first
      exact inductionHypothesis (kept start event initially first)

/-- A measure that grows with the marked steps counts them. -/
theorem measure_after
    {marked : State → Event → Bool}
    (measure : State → Nat)
    (grows : ∀ state event,
      measure (step state event) = measure state + (marked state event).toNat)
    (start : State)
    (events : List Event) :
    measure (after step start events) =
      measure start + tally step marked start events := by
  induction events generalizing start with
  | nil => rfl
  | cons event events inductionHypothesis =>
      rw [after_cons, inductionHypothesis, grows, tally, Nat.add_assoc]

end Run
