import Mathlib.Data.List.Basic

/-!
# Runs of event-driven systems

A system is a function which takes a state and an event to the next state.
An event that is not enabled leaves the state as it is, so every list of
events is a run.

`run_invariant` packages the induction over a run once.  `EveryStep` states
a property of every step of a run, and `run_guarded` is the induction for
invariants that only guarded steps preserve.

A recorded run keeps a list of what its steps did, so that a guard can speak
of the past; `everyStep_recorded` says that the list changes no step.
-/

namespace ChatBackend.Foundation.EventRuns

variable {State Event : Type}

/-- The state after all events. -/
def run (step : State → Event → State) (start : State)
    (events : List Event) : State :=
  events.foldl step start

/-- Every step of the run has a property of its state and its event. -/
def EveryStep
    (step : State → Event → State)
    (property : State → Event → Prop) : State → List Event → Prop
  | _, [] => True
  | state, event :: rest =>
      property state event ∧
        EveryStep step property (step state event) rest

variable {step : State → Event → State}

@[simp]
theorem run_nil (start : State) : run step start [] = start :=
  rfl

@[simp]
theorem run_cons (start : State) (event : Event) (rest : List Event) :
    run step start (event :: rest) =
      run step (step start event) rest :=
  rfl

theorem run_append (start : State) (first second : List Event) :
    run step start (first ++ second) =
      run step (run step start first) second :=
  List.foldl_append

/-- What every step preserves, every run preserves. -/
theorem run_invariant
    (invariant : State → Prop)
    (preserved :
      ∀ state event, invariant state → invariant (step state event))
    {start : State} (initially : invariant start)
    (events : List Event) :
    invariant (run step start events) := by
  induction events generalizing start with
  | nil => exact initially
  | cons event rest induction =>
      exact induction (preserved start event initially)

/-- What every guarded step preserves, every guarded run preserves. -/
theorem run_guarded
    {invariant : State → Prop} {guard : State → Event → Prop}
    (preserved :
      ∀ state event, invariant state → guard state event →
        invariant (step state event))
    {start : State} (initially : invariant start)
    {events : List Event}
    (guarded : EveryStep step guard start events) :
    invariant (run step start events) := by
  induction events generalizing start with
  | nil => exact initially
  | cons event rest induction =>
      exact
        induction (preserved start event initially guarded.1)
          guarded.2

/-- A guard on every step, with an invariant of the guarded steps. -/
theorem everyStep_of_guarded
    {invariant : State → Prop}
    {guard property : State → Event → Prop}
    (preserved :
      ∀ state event, invariant state → guard state event →
        invariant (step state event))
    (implied :
      ∀ state event, invariant state → guard state event →
        property state event)
    {start : State} (initially : invariant start)
    {events : List Event}
    (guarded : EveryStep step guard start events) :
    EveryStep step property start events := by
  induction events generalizing start with
  | nil => trivial
  | cons event rest induction =>
      exact
        ⟨implied start event initially guarded.1,
          induction (preserved start event initially guarded.1)
            guarded.2⟩

/-- What an invariant implies of a step holds of every step. -/
theorem everyStep_of_invariant
    (invariant : State → Prop) {property : State → Event → Prop}
    (preserved :
      ∀ state event, invariant state → invariant (step state event))
    (implied :
      ∀ state event, invariant state → property state event)
    {start : State} (initially : invariant start) (events : List Event) :
    EveryStep step property start events := by
  induction events generalizing start with
  | nil => trivial
  | cons event rest induction =>
      exact
        ⟨implied start event initially,
          induction (preserved start event initially)⟩

/--
If the invariant decides the property of a step by its guard, the property
holds of every step of exactly the guarded runs.
-/
theorem everyStep_iff_guarded
    {invariant : State → Prop}
    {guard property : State → Event → Prop}
    (preserved :
      ∀ state event, invariant state → guard state event →
        invariant (step state event))
    (decided :
      ∀ state event, invariant state →
        (property state event ↔ guard state event))
    {start : State} (initially : invariant start) (events : List Event) :
    EveryStep step property start events ↔
      EveryStep step guard start events := by
  induction events generalizing start with
  | nil => exact Iff.rfl
  | cons event rest induction =>
      simp only [EveryStep, decided start event initially]
      exact
        and_congr_right fun guarded =>
          induction (preserved start event initially guarded)

/-- The same for runs in which every step is as it is assumed to be. -/
theorem everyStep_iff_assumed
    {invariant : State → Prop}
    {assumed guard property : State → Event → Prop}
    (preserved :
      ∀ state event, invariant state → assumed state event →
        guard state event → invariant (step state event))
    (decided :
      ∀ state event, invariant state → assumed state event →
        (property state event ↔ guard state event))
    {start : State} (initially : invariant start) {events : List Event}
    (assumption : EveryStep step assumed start events) :
    EveryStep step property start events ↔
      EveryStep step guard start events := by
  induction events generalizing start with
  | nil => exact Iff.rfl
  | cons event rest induction =>
      simp only [EveryStep, decided start event initially assumption.1]
      exact
        and_congr_right fun guarded =>
          induction
            (preserved start event initially assumption.1 guarded)
            assumption.2

/-- A run whose steps all have a property, cut in two. -/
theorem everyStep_append
    {property : State → Event → Prop} (start : State)
    (first second : List Event) :
    EveryStep step property start (first ++ second) ↔
      EveryStep step property start first ∧
        EveryStep step property (run step start first) second := by
  induction first generalizing start with
  | nil => simp [EveryStep]
  | cons event rest induction =>
      simp only [List.cons_append, EveryStep, run_cons, and_assoc,
        induction]

/-- A property which does not depend on the state holds of every step. -/
theorem everyStep_of_forall
    {property : State → Event → Prop} {events : List Event}
    (holds : ∀ state, ∀ event ∈ events, property state event)
    (start : State) :
    EveryStep step property start events := by
  induction events generalizing start with
  | nil => trivial
  | cons event rest induction =>
      exact
        ⟨holds start event (by simp),
          induction
            (fun state later member =>
              holds state later (List.mem_cons_of_mem _ member))
            (step start event)⟩

/--
What is never regained once it is lost holds after every step exactly if it
holds at the end.
-/
theorem everyStep_iff_run
    {holds : State → Prop}
    (earlier : ∀ state event, holds (step state event) → holds state)
    {start : State} (initially : holds start) (events : List Event) :
    EveryStep step (fun state event => holds (step state event)) start
        events ↔
      holds (run step start events) := by
  have backwards :
      ∀ (rest : List Event) (state : State),
        holds (run step state rest) → holds state := by
    intro rest
    induction rest with
    | nil => exact fun _ last => last
    | cons event rest induction =>
        exact fun state last => earlier state event (induction _ last)
  induction events generalizing start with
  | nil => exact ⟨fun _ => initially, fun _ => trivial⟩
  | cons event rest induction =>
      rw [EveryStep, run_cons]
      constructor
      · rintro ⟨next, later⟩
        exact (induction next).mp later
      · intro last
        have next := backwards rest _ last
        exact ⟨next, (induction next).mpr last⟩

/-! ## Recorded runs -/

/-- A state with what the steps before it have recorded, newest first. -/
structure Recorded (State Entry : Type) where
  state : State
  entries : List Entry := []

/-- A step which also records what it does. -/
def recordedStep
    {Entry : Type} (step : State → Event → State)
    (record : State → Event → List Entry)
    (recorded : Recorded State Entry) (event : Event) :
    Recorded State Entry where
  state := step recorded.state event
  entries := record recorded.state event ++ recorded.entries

/-- A property of the steps is the same with and without the record. -/
theorem everyStep_recorded
    {Entry : Type} {record : State → Event → List Entry}
    {property : State → Event → Prop} (start : Recorded State Entry)
    (events : List Event) :
    EveryStep (recordedStep step record)
        (fun recorded event => property recorded.state event) start
        events ↔
      EveryStep step property start.state events := by
  induction events generalizing start with
  | nil => exact Iff.rfl
  | cons event rest induction =>
      exact and_congr_right fun _ => induction _

end ChatBackend.Foundation.EventRuns
