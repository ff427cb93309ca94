import RobotManager.Library.Fallible
import Mathlib.Data.List.Basic

/-!
# Pre- and postconditions of programs that can fail

A triple states what a run of a program in `EStateM` establishes from every state that satisfies
its precondition, with one postcondition for success and one for failure, since the effects of
a failed run stay.  A log whose entries are warranted by what was logged before them is the
invariant these triples are used for.
-/

namespace Fallible

variable {Error State Value Other : Type}

/-- From a state satisfying `pre`, success establishes `post` and failure establishes `failed`. -/
def Triple (pre : State → Prop) (program : EStateM Error State Value)
    (post : Value → State → Prop) (failed : Error → State → Prop) : Prop :=
  ∀ state, pre state →
    match program.run state with
    | .ok value after => post value after
    | .error error after => failed error after

namespace Triple

variable {pre : State → Prop} {program other : EStateM Error State Value}
  {post : Value → State → Prop} {failed : Error → State → Prop}
  {next : Value → EStateM Error State Other} {finish : Other → State → Prop}

theorem pure {value : Value} (implies : ∀ state, pre state → post value state) :
    Triple pre (Pure.pure value : EStateM Error State Value) post failed :=
  implies

theorem throw {error : Error} (implies : ∀ state, pre state → failed error state) :
    Triple pre (MonadExcept.throw error : EStateM Error State Value) post failed :=
  implies

theorem bind (first : Triple pre program post failed)
    (rest : ∀ value, Triple (post value) (next value) finish failed) :
    Triple pre (program >>= next) finish failed := by
  intro state holds
  have reached := first state holds
  cases run : program.run state with
  | ok value after =>
      simp only [run] at reached
      simp only [EStateM.run_bind, run]
      exact rest value after reached
  | error error after =>
      simp only [run] at reached
      simp only [EStateM.run_bind, run]
      exact reached

theorem ite {condition : Prop} [Decidable condition]
    (holds : condition → Triple pre program post failed)
    (fails : ¬ condition → Triple pre other post failed) :
    Triple pre (if condition then program else other) post failed := by
  split
  · next isTrue => exact holds isTrue
  · next isFalse => exact fails isFalse

/-- A fact that holds of the program's input alone may be assumed. -/
theorem assuming {fact : Prop} (triple : fact → Triple pre program post failed) :
    Triple (fun state => fact ∧ pre state) program post failed :=
  fun state holds => triple holds.1 state holds.2

theorem consequence {stronger : State → Prop} {weaker : Value → State → Prop}
    {failedWeaker : Error → State → Prop} (triple : Triple pre program post failed)
    (strengthen : ∀ state, stronger state → pre state)
    (weaken : ∀ value state, post value state → weaker value state)
    (weakenFailed : ∀ error state, failed error state → failedWeaker error state) :
    Triple stronger program weaker failedWeaker := by
  intro state holds
  have reached := triple state (strengthen state holds)
  cases run : program.run state with
  | ok value after =>
      simp only [run] at reached
      exact weaken value after reached
  | error error after =>
      simp only [run] at reached
      exact weakenFailed error after reached

theorem strengthen {stronger : State → Prop} (triple : Triple pre program post failed)
    (implies : ∀ state, stronger state → pre state) : Triple stronger program post failed :=
  triple.consequence implies (fun _ _ => id) fun _ _ => id

theorem weaken {weaker : Value → State → Prop} (triple : Triple pre program post failed)
    (implies : ∀ value state, post value state → weaker value state) :
    Triple pre program weaker failed :=
  triple.consequence (fun _ => id) implies fun _ _ => id

/-- Two triples of one program hold together. -/
theorem and {otherPre : State → Prop} {otherPost : Value → State → Prop}
    {otherFailed : Error → State → Prop} (first : Triple pre program post failed)
    (second : Triple otherPre program otherPost otherFailed) :
    Triple (fun state => pre state ∧ otherPre state) program
      (fun value state => post value state ∧ otherPost value state)
      fun error state => failed error state ∧ otherFailed error state := by
  rintro state ⟨holds, otherHolds⟩
  have reached := first state holds
  have otherReached := second state otherHolds
  cases run : program.run state with
  | ok value after =>
      simp only [run] at reached otherReached
      exact ⟨reached, otherReached⟩
  | error error after =>
      simp only [run] at reached otherReached
      exact ⟨reached, otherReached⟩

theorem trivial : Triple pre program (fun _ _ => True) fun _ _ => True := by
  intro state _
  cases program.run state with
  | ok | error => exact True.intro

theorem attempt {established : State → Prop}
    (triple : Triple pre program (fun _ => established) fun _ => established) :
    Triple pre (Fallible.attempt program) (fun _ => established) failed := by
  intro state holds
  have reached := triple state holds
  rw [run_attempt]
  cases run : program.run state with
  | ok value after =>
      simp only [run] at reached
      rwa [finalState_of_ok run]
  | error error after =>
      simp only [run] at reached
      rwa [finalState_of_error run]

theorem outcome {established unsettled : State → Prop}
    (triple : Triple pre program (fun _ => established) fun _ => unsettled) {state : State}
    (holds : pre state) :
    if succeeds program state then established (Fallible.finalState program state)
    else unsettled (Fallible.finalState program state) := by
  have reached := triple state holds
  cases run : program.run state with
  | ok value after =>
      simp only [run] at reached
      rw [succeeds_of_ok run, finalState_of_ok run]
      exact reached
  | error error after =>
      simp only [run] at reached
      rw [succeeds_of_error run, finalState_of_error run]
      exact reached

/-- What success and failure both establish holds in the final state. -/
theorem finalState {established : State → Prop}
    (triple : Triple pre program (fun _ => established) fun _ => established) {state : State}
    (holds : pre state) : established (Fallible.finalState program state) := by
  have attempted : Triple pre (Fallible.attempt program) (fun _ => established)
    fun _ _ => False := triple.attempt
  exact attempted state holds

end Triple

end Fallible

/-! ### Logs -/

/-- Every entry of a log, the latest first, is warranted by the entries before it. -/
def Backed {Entry : Type} (warrant : Entry → List Entry → Prop) (log : List Entry) : Prop :=
  ∀ entry earlier, entry :: earlier <:+ log → warrant entry earlier

namespace Backed

variable {Entry : Type} {warrant : Entry → List Entry → Prop} {log : List Entry}

theorem nil : Backed warrant [] := by
  intro entry earlier suffix
  cases List.suffix_nil.mp suffix

theorem cons_iff {entry : Entry} :
    Backed warrant (entry :: log) ↔ warrant entry log ∧ Backed warrant log := by
  refine ⟨fun backed => ⟨backed entry log (List.suffix_refl _), ?_⟩, ?_⟩
  · exact fun later earlier suffix =>
      backed later earlier (suffix.trans (List.suffix_cons entry log))
  · rintro ⟨warranted, backed⟩ later earlier suffix
    rcases List.suffix_cons_iff.mp suffix with same | suffix
    · cases same
      exact warranted
    · exact backed later earlier suffix

/-- A log may be extended by entries that what is behind them warrants. -/
theorem append {newer : List Entry} (backed : Backed warrant log)
    (warranted : ∀ entry between, entry :: between <:+ newer → warrant entry (between ++ log)) :
    Backed warrant (newer ++ log) := by
  induction newer with
  | nil => exact backed
  | cons entry between ih =>
      refine cons_iff.mpr ⟨warranted entry between (List.suffix_refl _), ih ?_⟩
      exact fun later earlier suffix =>
        warranted later earlier (suffix.trans (List.suffix_cons entry between))

end Backed
