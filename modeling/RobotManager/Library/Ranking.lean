import Mathlib.Order.Basic
import RobotManager.Library.TransitionSystem

/-!
# Ranked step functions

A rank that no step raises and that every counted step lowers bounds how many counted steps a run
takes.  When a state that has not reached its goal always enables a counted step, every run can be
continued to the goal by counted steps alone.
-/

namespace TransitionSystem

variable {State Label : Type*}

/-- A rank of the states that satisfy an invariant.  Until the goal is reached, a step that counts
lowers it. -/
structure Descent (step : State → Label → Option State) (Invariant Goal : State → Prop)
    (counted : Label → Bool) where
  rank : State → ℕ
  kept : ∀ {state label after}, Invariant state → step state label = some after → Invariant after
  progress : ∀ {state}, Invariant state → Goal state ∨ ∃ label after, counted label = true ∧
    step state label = some after ∧ rank after < rank state

/-- A rank that all steps that count lower, and that no other step raises. -/
structure Ranking (step : State → Label → Option State) (Invariant Goal : State → Prop)
    (counted : Label → Bool) where
  rank : State → ℕ
  kept : ∀ {state label after}, Invariant state → step state label = some after → Invariant after
  notRaised : ∀ {state label after}, Invariant state → step state label = some after →
    rank after ≤ rank state
  lowered : ∀ {state label after}, Invariant state → counted label = true →
    step state label = some after → rank after < rank state
  progress : ∀ {state}, Invariant state → Goal state ∨
    ∃ label, counted label = true ∧ (step state label).isSome = true

variable {step : State → Label → Option State} {Invariant Goal : State → Prop}
  {counted : Label → Bool}

/-- From every state of the invariant, counted steps alone lead to the goal. -/
theorem Descent.exists_execute_goal (descent : Descent step Invariant Goal counted) {start : State}
    (holds : Invariant start) : ∃ labels state, (∀ label ∈ labels, counted label = true) ∧
      execute step (fun _ _ => true) labels start = some state ∧ Invariant state ∧
      Goal state := by
  induction measure : descent.rank start using Nat.strongRecOn generalizing start with
  | ind rank ih =>
      subst measure
      rcases descent.progress holds with goal | ⟨label, next, counts, taken, smaller⟩
      · exact ⟨[], start, by simp, rfl, holds, goal⟩
      rcases ih _ smaller (descent.kept holds taken) rfl with
        ⟨labels, state, all, executed, reached⟩
      refine ⟨label :: labels, state, List.forall_mem_cons.mpr ⟨counts, all⟩, ?_, reached⟩
      simp [execute, taken, executed]

def Ranking.descent (ranking : Ranking step Invariant Goal counted) :
    Descent step Invariant Goal counted where
  rank := ranking.rank
  kept := ranking.kept
  progress := by
    intro state holds
    rcases ranking.progress holds with goal | ⟨label, counts, enabled⟩
    · exact Or.inl goal
    rcases Option.isSome_iff_exists.mp enabled with ⟨after, taken⟩
    exact Or.inr ⟨label, after, counts, taken, ranking.lowered holds counts taken⟩

theorem Ranking.invariant_of_execute (ranking : Ranking step Invariant Goal counted)
    {labels : List Label} {start state : State} (holds : Invariant start)
    (executed : execute step (fun _ _ => true) labels start = some state) : Invariant state := by
  induction labels generalizing start with
  | nil =>
      cases executed
      exact holds
  | cons label labels ih =>
      rcases Option.bind_eq_some_iff.mp executed with ⟨next, taken, rest⟩
      exact ih (ranking.kept holds taken) rest

/-- A run takes no more counted steps than its rank goes down. -/
theorem Ranking.countP_add_rank_le (ranking : Ranking step Invariant Goal counted)
    {labels : List Label} {start state : State} (holds : Invariant start)
    (executed : execute step (fun _ _ => true) labels start = some state) :
    labels.countP counted + ranking.rank state ≤ ranking.rank start := by
  induction labels generalizing start with
  | nil =>
      cases executed
      simp
  | cons label labels ih =>
      rcases Option.bind_eq_some_iff.mp executed with ⟨next, taken, rest⟩
      have later := ih (ranking.kept holds taken) rest
      cases counts : counted label with
      | false =>
          have first := ranking.notRaised holds taken
          rw [List.countP_cons_of_neg (by simp [counts])]
          omega
      | true =>
          have first := ranking.lowered holds counts taken
          rw [List.countP_cons_of_pos counts]
          omega

end TransitionSystem
