import Mathlib.Data.List.Basic

/-!
# Pairs joined by a separator

Two nonempty lists written one after the other with a separator in between.  Which pairs
can be read back depends on where else the separator occurs.
-/

namespace SeparatedPair

variable {Symbol : Type*} {separator : Symbol} {front back : List Symbol}

/-- A pair can be read back in one way only. -/
def Unique (separator : Symbol) (front back : List Symbol) : Prop :=
  ∀ otherFront otherBack, otherFront ≠ [] → otherBack ≠ [] →
    otherFront ++ separator :: otherBack = front ++ separator :: back →
    otherFront = front ∧ otherBack = back

/-- The separator may only open the front part and close the back part. -/
def Apart (separator : Symbol) (front back : List Symbol) : Prop :=
  separator ∉ front.tail ∧ separator ∉ back.dropLast

theorem Apart.unique (apart : Apart separator front back) : Unique separator front back := by
  rcases apart with ⟨frontApart, backApart⟩
  intro otherFront otherBack frontNonempty backNonempty joined
  rcases List.append_eq_append_iff.mp joined with ⟨between, split, rest⟩ | ⟨between, split, rest⟩
  · cases between with
    | nil =>
        rw [List.nil_append, List.cons.injEq] at rest
        exact ⟨by simpa using split.symm, rest.2⟩
    | cons symbol between =>
        rw [List.cons_append, List.cons.injEq] at rest
        rcases rest with ⟨rfl, _⟩
        rcases List.exists_cons_of_ne_nil frontNonempty with ⟨head, tail, rfl⟩
        exact absurd (by simp [split]) frontApart
  · cases between with
    | nil =>
        rw [List.nil_append, List.cons.injEq] at rest
        exact ⟨by simpa using split, rest.2.symm⟩
    | cons symbol between =>
        rw [List.cons_append, List.cons.injEq] at rest
        rcases rest with ⟨rfl, rfl⟩
        have occurs : separator ∈ (between ++ separator :: otherBack).dropLast := by
          rw [List.dropLast_append_of_ne_nil (List.cons_ne_nil _ _),
            List.dropLast_cons_of_ne_nil backNonempty]
          simp
        exact absurd occurs backApart

theorem Unique.apart (frontNonempty : front ≠ []) (backNonempty : back ≠ [])
    (unique : Unique separator front back) : Apart separator front back := by
  constructor
  · intro occurs
    rcases List.exists_cons_of_ne_nil frontNonempty with ⟨head, tail, rfl⟩
    rcases List.append_of_mem occurs with ⟨left, right, split⟩
    obtain rfl : tail = left ++ separator :: right := split
    have same := unique (head :: left) (right ++ separator :: back) (by simp) (by simp)
      (by simp)
    simpa using same.1
  · intro occurs
    rcases List.append_of_mem occurs with ⟨left, right, split⟩
    rcases List.eq_nil_or_concat back with rfl | ⟨init, last, rfl⟩
    · exact backNonempty rfl
    rw [List.concat_eq_append, List.dropLast_concat] at split
    subst split
    have same := unique (front ++ separator :: left) (right ++ [last]) (by simp) (by simp) (by simp)
    simpa using same.1

theorem unique_iff (frontNonempty : front ≠ []) (backNonempty : back ≠ []) :
    Unique separator front back ↔ Apart separator front back :=
  ⟨Unique.apart frontNonempty backNonempty, Apart.unique⟩

end SeparatedPair
