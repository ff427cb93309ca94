import Mathlib.Logic.Relation

/-!
# Runs of a partial step function

A concurrent program is given by an executable step function whose label resolves
every choice of the scheduler and the environment.  This file provides the states
reached from an initial predicate, reachability along steps that all satisfy a
side condition, and the induction rules used to establish invariants.
-/

namespace TransitionSystem

variable {State Label : Type*}

/-- States reached by steps which all satisfy `Allowed` in the state they leave. -/
inductive ReachableUnder (step : State → Label → Option State) (Init : State → Prop)
    (Allowed : State → Label → Prop) : State → Prop where
  | init {state : State} (initial : Init state) : ReachableUnder step Init Allowed state
  | next {state : State} {label : Label} {after : State}
      (reached : ReachableUnder step Init Allowed state) (allowed : Allowed state label)
      (taken : step state label = some after) : ReachableUnder step Init Allowed after

/-- States reached by arbitrary steps. -/
abbrev Reachable (step : State → Label → Option State) (Init : State → Prop) : State → Prop :=
  ReachableUnder step Init fun _ _ => True

/-- Zero or more further steps which all satisfy `Allowed`. -/
inductive StepsUnder (step : State → Label → Option State) (Allowed : State → Label → Prop)
    (start : State) : State → Prop where
  | refl : StepsUnder step Allowed start start
  | next {state : State} {label : Label} {after : State}
      (steps : StepsUnder step Allowed start state) (allowed : Allowed state label)
      (taken : step state label = some after) : StepsUnder step Allowed start after

variable {step : State → Label → Option State} {Init : State → Prop}
  {Allowed : State → Label → Prop}

theorem ReachableUnder.reachable {state : State}
    (reached : ReachableUnder step Init Allowed state) : Reachable step Init state := by
  induction reached with
  | init initial => exact .init initial
  | next _ _ taken ih => exact .next ih trivial taken

/-- Invariant rule: what holds initially and is kept by every allowed step holds of every
reached state.  The step case may use that the state it starts from is itself reached. -/
theorem ReachableUnder.invariant {state : State}
    (reached : ReachableUnder step Init Allowed state) (Invariant : State → Prop)
    (base : ∀ state, Init state → Invariant state)
    (preserved : ∀ state label after, ReachableUnder step Init Allowed state →
      Invariant state → Allowed state label → step state label = some after → Invariant after) :
    Invariant state := by
  induction reached with
  | init initial => exact base _ initial
  | next reached allowed taken ih => exact preserved _ _ _ reached ih allowed taken

theorem ReachableUnder.extend {start state : State}
    (reached : ReachableUnder step Init Allowed start)
    (steps : StepsUnder step Allowed start state) : ReachableUnder step Init Allowed state := by
  induction steps with
  | refl => exact reached
  | next _ allowed taken ih => exact .next ih allowed taken

theorem StepsUnder.reachable {start state : State} (steps : StepsUnder step Allowed start state)
    (reached : Reachable step Init start) : Reachable step Init state := by
  induction steps with
  | refl => exact reached
  | next _ _ taken ih => exact .next ih trivial taken

/-- Invariant rule for the steps that follow a reached state. -/
theorem StepsUnder.invariant {start state : State}
    (steps : StepsUnder step Allowed start state) (Invariant : State → Prop)
    (reached : Reachable step Init start) (base : Invariant start)
    (preserved : ∀ state label after, Reachable step Init state →
      Invariant state → Allowed state label → step state label = some after → Invariant after) :
    Invariant state := by
  induction steps with
  | refl => exact base
  | next steps allowed taken ih => exact preserved _ _ _ (steps.reachable reached) ih allowed taken

/-- A step in front of further steps. -/
theorem StepsUnder.precede {start middle state : State} {label : Label}
    (allowed : Allowed start label) (taken : step start label = some middle)
    (steps : StepsUnder step Allowed middle state) : StepsUnder step Allowed start state := by
  induction steps with
  | refl => exact .next .refl allowed taken
  | next _ laterAllowed laterTaken ih => exact .next ih laterAllowed laterTaken

/-- A run to a state, with the steps it took and the states it left, the latest first. -/
inductive Run (step : State → Label → Option State) (Init : State → Prop) :
    List (State × Label) → State → Prop where
  | init {state : State} (initial : Init state) : Run step Init [] state
  | next {past : List (State × Label)} {state : State} {label : Label} {after : State}
      (run : Run step Init past state) (taken : step state label = some after) :
      Run step Init ((state, label) :: past) after

theorem ReachableUnder.exists_run {state : State}
    (reached : ReachableUnder step Init Allowed state) : ∃ past, Run step Init past state := by
  induction reached with
  | init initial => exact ⟨[], .init initial⟩
  | next _ _ taken ih =>
      rcases ih with ⟨past, run⟩
      exact ⟨_, run.next taken⟩

/-- The steps of a run are steps from reachable states. -/
theorem Run.step_of_mem {past : List (State × Label)} {state middle : State} {label : Label}
    (run : Run step Init past state) (mem : (middle, label) ∈ past) :
    Reachable step Init middle ∧ ∃ after, step middle label = some after := by
  have reached : Reachable step Init state ∧ ∀ taken ∈ past,
      Reachable step Init taken.1 ∧ ∃ after, step taken.1 taken.2 = some after := by
    clear mem
    induction run with
    | init initial => exact ⟨.init initial, by simp⟩
    | next run taken ih =>
        exact ⟨.next ih.1 trivial taken, List.forall_mem_cons.mpr ⟨⟨ih.1, _, taken⟩, ih.2⟩⟩
  exact reached.2 _ mem

/-- Take the listed steps in order, as long as each passes a check in the state it leaves. -/
def execute (step : State → Label → Option State) (check : State → Label → Bool) :
    List Label → State → Option State
  | [], state => some state
  | label :: labels, state =>
      if check state label then (step state label).bind (execute step check labels) else none

theorem execute_append (check : State → Label → Bool) (first second : List Label) (state : State) :
    execute step check (first ++ second) state =
      (execute step check first state).bind (execute step check second) := by
  induction first generalizing state with
  | nil => rfl
  | cons label labels ih =>
      simp only [List.cons_append, execute]
      split
      · cases step state label with
        | none => rfl
        | some next => exact ih next
      · rfl

theorem stepsUnder_of_execute {check : State → Label → Bool} {labels : List Label}
    {start state : State} (sound : ∀ state label, check state label = true → Allowed state label)
    (executed : execute step check labels start = some state) :
    StepsUnder step Allowed start state := by
  induction labels generalizing start with
  | nil =>
      simp only [execute, Option.some.injEq] at executed
      exact executed ▸ .refl
  | cons label labels ih =>
      simp only [execute] at executed
      split at executed
      · next checked =>
        rcases Option.bind_eq_some_iff.mp executed with ⟨next, taken, rest⟩
        exact (ih rest).precede (sound _ _ checked) taken
      · cases executed

/-- A goal that holds at the end of an executed list of checked steps holds in a reached state. -/
theorem exists_reachableUnder_of_execute {start : State}
    (reached : ReachableUnder step Init Allowed start) (check : State → Label → Bool)
    (sound : ∀ state label, check state label = true → Allowed state label)
    (labels : List Label) (goal : State → Bool)
    (attained : (execute step check labels start).any goal = true) :
    ∃ state, ReachableUnder step Init Allowed state ∧ goal state = true := by
  rcases (Option.any_eq_true _ _).mp attained with ⟨state, executed, holds⟩
  exact ⟨state, reached.extend (stepsUnder_of_execute sound executed), holds⟩

theorem exists_reachable_of_execute {start : State} (reached : Reachable step Init start)
    (labels : List Label) (goal : State → Bool)
    (attained : (execute step (fun _ _ => true) labels start).any goal = true) :
    ∃ state, Reachable step Init state ∧ goal state = true :=
  exists_reachableUnder_of_execute reached _ (fun _ _ _ => trivial) labels goal attained

end TransitionSystem
