import Mathlib.Data.List.Forall2

/-!
# Programs of checks

A program in `Except` is a sequence of checks, each of which yields a value or ends the program
with an error.  This file states when such programs succeed: what a sequence, a rejection and a
pass over a list have computed if they end without an error.
-/

namespace Checked

universe u v

variable {Error : Type u} {Value Other : Type v}

theorem bind_eq_ok_iff {program : Except Error Value} {next : Value → Except Error Other}
    {result : Other} :
    (program >>= next) = .ok result ↔ ∃ value, program = .ok value ∧ next value = .ok result := by
  cases program with
  | error error => simp [bind, Except.bind]
  | ok value => simp [bind, Except.bind]

theorem pure_eq_ok_iff {value result : Value} :
    (pure value : Except Error Value) = .ok result ↔ value = result := by
  simp [pure, Except.pure]

/-- End the program if the condition holds. -/
def reject (condition : Prop) [Decidable condition] (error : Error) : Except Error PUnit :=
  if condition then .error error else .ok ⟨⟩

theorem reject_eq_ok_iff {condition : Prop} [Decidable condition] {error : Error}
    {done : PUnit.{v + 1}} : reject condition error = .ok done ↔ ¬condition := by
  unfold reject
  split
  · next holds => simp [holds]
  · next fails => simp [fails]

/-- A pass over a list succeeds if it does on each item, and yields the items' results in order. -/
theorem mapM_eq_ok_iff {check : Value → Except Error Other} {values : List Value}
    {results : List Other} :
    values.mapM check = .ok results ↔
      List.Forall₂ (fun value result => check value = .ok result) values results := by
  induction values generalizing results with
  | nil => cases results <;> simp [pure_eq_ok_iff]
  | cons value values ih =>
      rw [List.mapM_cons, bind_eq_ok_iff]
      constructor
      · rintro ⟨first, passed, rest⟩
        rw [bind_eq_ok_iff] at rest
        rcases rest with ⟨others, othersPassed, same⟩
        rw [pure_eq_ok_iff] at same
        subst same
        exact .cons passed (ih.mp othersPassed)
      · intro passed
        cases passed with
        | cons first others =>
            refine ⟨_, first, ?_⟩
            rw [bind_eq_ok_iff]
            exact ⟨_, ih.mpr others, rfl⟩

/-- What a check ensures of its result holds of every result of the pass. -/
theorem forall_mem_of_forall₂ {check : Value → Except Error Other} {holds : Other → Prop}
    {values : List Value} {results : List Other}
    (passed : List.Forall₂ (fun value result => check value = .ok result) values results)
    (ensures : ∀ value result, check value = .ok result → holds result) :
    ∀ result ∈ results, holds result := by
  induction passed with
  | nil => simp
  | cons first _ ih => exact List.forall_mem_cons.mpr ⟨ensures _ _ first, ih⟩

/-- Every result comes from one of the values. -/
theorem exists_mem_of_forall₂ {related : Value → Other → Prop} {values : List Value}
    {results : List Other} (all : List.Forall₂ related values results) {result : Other}
    (mem : result ∈ results) : ∃ value ∈ values, related value result := by
  induction all with
  | nil => cases mem
  | cons first _ ih =>
      rcases List.mem_cons.mp mem with rfl | later
      · exact ⟨_, List.mem_cons_self, first⟩
      · rcases ih later with ⟨value, inside, holds⟩
        exact ⟨value, List.mem_cons_of_mem _ inside, holds⟩

/-- A program whose result passes a check has a result. -/
theorem exists_of_any {program : Except Error Value} {check : Value → Bool}
    (passes : program.toOption.any check = true) :
    ∃ value, program = .ok value ∧ check value = true := by
  cases program with
  | error error => simp [Except.toOption] at passes
  | ok value => exact ⟨value, rfl, by simpa [Except.toOption] using passes⟩

end Checked
