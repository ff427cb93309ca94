import Mathlib.Order.Defs.Unbundled

/-!
# Programs whose effects survive their failure

A program in `EStateM` that fails leaves the state as it was at the failure.  This file
provides rules for two kinds of facts about such programs: that every run, failed or not,
relates its final state to the one it started in, and that a log in the state accounts for
whether a run has failed.
-/

namespace Fallible

variable {Error State Entry Value Other : Type}

/-- The state a run ends in. -/
def finalState (program : EStateM Error State Value) (state : State) : State :=
  match program.run state with
  | .ok _ after | .error _ after => after

def succeeds (program : EStateM Error State Value) (state : State) : Bool :=
  match program.run state with
  | .ok _ _ => true
  | .error _ _ => false

/-- Run a program for its effects only. -/
def attempt (program : EStateM Error State Value) : EStateM Error State Unit :=
  fun state => .ok () (finalState program state)

theorem run_attempt (program : EStateM Error State Value) (state : State) :
    (attempt program).run state = .ok () (finalState program state) := rfl

section Runs

variable {program : EStateM Error State Value} {next : Value → EStateM Error State Other}
  {state after : State} {value : Value} {error : Error}

theorem finalState_of_ok (run : program.run state = .ok value after) :
    finalState program state = after := by
  simp [finalState, run]

theorem finalState_of_error (run : program.run state = .error error after) :
    finalState program state = after := by
  simp [finalState, run]

theorem succeeds_of_ok (run : program.run state = .ok value after) :
    succeeds program state = true := by
  simp [succeeds, run]

theorem succeeds_of_error (run : program.run state = .error error after) :
    succeeds program state = false := by
  simp [succeeds, run]

theorem finalState_bind_of_ok (run : program.run state = .ok value after) :
    finalState (program >>= next) state = finalState (next value) after := by
  simp [finalState, run]

theorem finalState_bind_of_error (run : program.run state = .error error after) :
    finalState (program >>= next) state = after := by
  simp [finalState, run]

theorem succeeds_bind_of_ok (run : program.run state = .ok value after) :
    succeeds (program >>= next) state = succeeds (next value) after := by
  simp [succeeds, run]

theorem succeeds_bind_of_error (run : program.run state = .error error after) :
    succeeds (program >>= next) state = false := by
  simp [succeeds, run]

theorem exists_of_bind_ok {result : Other} (run : (program >>= next).run state = .ok result after) :
    ∃ value middle, program.run state = .ok value middle ∧
      (next value).run middle = .ok result after := by
  rw [EStateM.run_bind] at run
  split at run
  · next value middle first => exact ⟨value, middle, first, run⟩
  · cases run

theorem finalState_congr {other : EStateM Error State Value} {start : State}
    (same : program.run state = other.run start) :
    finalState program state = finalState other start := by
  simp [finalState, same]

theorem succeeds_congr {other : EStateM Error State Value} {start : State}
    (same : program.run state = other.run start) :
    succeeds program state = succeeds other start := by
  simp [succeeds, same]

theorem finalState_bind_pure (program : EStateM Error State Value) (make : Value → Other)
    (state : State) :
    finalState (program >>= fun value => (pure (make value) : EStateM Error State Other)) state =
      finalState program state := by
  cases run : program.run state with
  | ok value after =>
      rw [finalState_bind_of_ok run, finalState_of_ok run]
      rfl
  | error error after => rw [finalState_bind_of_error run, finalState_of_error run]

theorem succeeds_bind_pure (program : EStateM Error State Value) (make : Value → Other)
    (state : State) :
    succeeds (program >>= fun value => (pure (make value) : EStateM Error State Other)) state =
      succeeds program state := by
  cases run : program.run state with
  | ok value after =>
      rw [succeeds_bind_of_ok run, succeeds_of_ok run]
      rfl
  | error error after => rw [succeeds_bind_of_error run, succeeds_of_error run]

theorem finalState_bind_throw (program : EStateM Error State Value) (error : Error)
    (state : State) :
    finalState (program >>= fun _ => (throw error : EStateM Error State Other)) state =
      finalState program state := by
  cases run : program.run state with
  | ok value after =>
      rw [finalState_bind_of_ok run, finalState_of_ok run]
      rfl
  | error error after => rw [finalState_bind_of_error run, finalState_of_error run]

theorem succeeds_bind_throw (program : EStateM Error State Value) (error : Error)
    (state : State) :
    succeeds (program >>= fun _ => (throw error : EStateM Error State Other)) state = false := by
  cases run : program.run state with
  | ok value after =>
      rw [succeeds_bind_of_ok run]
      rfl
  | error error after => rw [succeeds_bind_of_error run]

end Runs

/-! ### Related states -/

/-- Every run ends in a state related to the one it started in. -/
def Keeps (relation : State → State → Prop) (program : EStateM Error State Value) : Prop :=
  ∀ state, relation state (finalState program state)

namespace Keeps

variable {relation : State → State → Prop} {program other : EStateM Error State Value}
  {next : Value → EStateM Error State Other}

theorem pure [Std.Refl relation] (value : Value) :
    Keeps relation (Pure.pure value : EStateM Error State Value) :=
  fun state => Std.Refl.refl state

theorem throw [Std.Refl relation] (error : Error) :
    Keeps relation (MonadExcept.throw error : EStateM Error State Value) :=
  fun state => Std.Refl.refl state

theorem bind [IsTrans State relation] (first : Keeps relation program)
    (rest : ∀ value, Keeps relation (next value)) : Keeps relation (program >>= next) := by
  intro state
  have kept := first state
  cases run : program.run state with
  | ok value after =>
      rw [finalState_of_ok run] at kept
      rw [finalState_bind_of_ok run]
      exact IsTrans.trans _ _ _ kept (rest value after)
  | error error after =>
      rw [finalState_of_error run] at kept
      rw [finalState_bind_of_error run]
      exact kept

theorem ite {condition : Prop} [Decidable condition] (holds : Keeps relation program)
    (fails : Keeps relation other) :
    Keeps relation (if condition then program else other) := by
  split
  · exact holds
  · exact fails

theorem attempt (keeps : Keeps relation program) : Keeps relation (Fallible.attempt program) :=
  keeps

end Keeps

/-! ### Accounts of failures -/

/-- A run only adds to the log, and it has failed exactly if it added a failure. -/
def Accounts (log : State → List Entry) (failure : Entry → Bool)
    (program : EStateM Error State Value) : Prop :=
  ∀ state, ∃ entries, log (finalState program state) = entries ++ log state ∧
    succeeds program state = !entries.any failure

namespace Accounts

variable {log : State → List Entry} {failure : Entry → Bool}
  {program other : EStateM Error State Value} {next : Value → EStateM Error State Other}

theorem pure (value : Value) :
    Accounts log failure (Pure.pure value : EStateM Error State Value) :=
  fun _ => ⟨[], rfl, rfl⟩

theorem bind (first : Accounts log failure program)
    (rest : ∀ value, Accounts log failure (next value)) :
    Accounts log failure (program >>= next) := by
  intro state
  rcases first state with ⟨entries, added, outcome⟩
  cases run : program.run state with
  | ok value after =>
      rw [finalState_of_ok run] at added
      rw [succeeds_of_ok run] at outcome
      rcases rest value after with ⟨later, laterAdded, laterOutcome⟩
      refine ⟨later ++ entries, ?_, ?_⟩
      · rw [finalState_bind_of_ok run, laterAdded, added, List.append_assoc]
      · have clean : entries.any failure = false := by simpa using outcome.symm
        rw [succeeds_bind_of_ok run, laterOutcome, List.any_append, clean, Bool.or_false]
  | error error after =>
      rw [finalState_of_error run] at added
      rw [succeeds_of_error run] at outcome
      exact ⟨entries, by rw [finalState_bind_of_error run, added],
        by rw [succeeds_bind_of_error run, outcome]⟩

theorem ite {condition : Prop} [Decidable condition] (holds : Accounts log failure program)
    (fails : Accounts log failure other) :
    Accounts log failure (if condition then program else other) := by
  split
  · exact holds
  · exact fails

end Accounts

end Fallible
