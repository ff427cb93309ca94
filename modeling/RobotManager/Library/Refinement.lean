import RobotManager.Library.TransitionSystem

/-!
# Refinement of one step function by another

A system with more state refines a system with less when every one of its steps shows as one step
of the other or as none.  What holds of all runs of the smaller system then holds of the runs of
the larger one.
-/

namespace TransitionSystem

variable {Concrete ConcreteLabel Abstract AbstractLabel : Type*}

/-- Every step of the concrete system is seen as an allowed step of the abstract one, or is not
seen at all.  Only steps from reached states count. -/
structure Refinement (concrete : Concrete → ConcreteLabel → Option Concrete)
    (ConcreteInit : Concrete → Prop) (abstract : Abstract → AbstractLabel → Option Abstract)
    (AbstractInit : Abstract → Prop) (Allowed : Abstract → AbstractLabel → Prop) where
  view : Concrete → Abstract
  init : ∀ {state}, ConcreteInit state → AbstractInit (view state)
  next : ∀ {state label after}, Reachable concrete ConcreteInit state →
    concrete state label = some after → view after = view state ∨
      ∃ seen, Allowed (view state) seen ∧ abstract (view state) seen = some (view after)

namespace Refinement

variable {concrete : Concrete → ConcreteLabel → Option Concrete} {ConcreteInit : Concrete → Prop}
  {abstract : Abstract → AbstractLabel → Option Abstract} {AbstractInit : Abstract → Prop}
  {Allowed : Abstract → AbstractLabel → Prop}

theorem reached (refinement : Refinement concrete ConcreteInit abstract AbstractInit Allowed)
    {state : Concrete} (reached : Reachable concrete ConcreteInit state) :
    ReachableUnder abstract AbstractInit Allowed (refinement.view state) := by
  induction reached with
  | init initial => exact .init (refinement.init initial)
  | next reached _ taken ih =>
      rcases refinement.next reached taken with same | ⟨seen, allowed, step⟩
      · rw [same]
        exact ih
      · exact ih.next allowed step

end Refinement

end TransitionSystem
