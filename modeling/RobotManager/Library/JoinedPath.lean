import Mathlib.Data.List.Basic

/-!
# Paths of keys

Keys written one after the other with a separator in between.  If no key contains the separator,
the path determines its keys.
-/

namespace JoinedPath

variable {Symbol : Type*} {separator : Symbol} {keys : List (List Symbol)}

def joined (separator : Symbol) (keys : List (List Symbol)) : List Symbol :=
  [separator].intercalate keys

/-- No key contains the separator. -/
def Apart (separator : Symbol) (keys : List (List Symbol)) : Prop := ∀ key ∈ keys, separator ∉ key

theorem joined_injective [DecidableEq Symbol] {left right : List (List Symbol)}
    (leftApart : Apart separator left) (rightApart : Apart separator right)
    (leftGiven : left ≠ []) (rightGiven : right ≠ [])
    (same : joined separator left = joined separator right) : left = right := by
  calc left = (joined separator left).splitOn separator :=
        (List.splitOn_intercalate separator leftApart leftGiven).symm
    _ = (joined separator right).splitOn separator := by rw [same]
    _ = right := List.splitOn_intercalate separator rightApart rightGiven

theorem joined_append_singleton (nonempty : keys ≠ []) (key : List Symbol) :
    joined separator (keys ++ [key]) = joined separator keys ++ separator :: key := by
  induction keys with
  | nil => exact absurd rfl nonempty
  | cons first keys ih =>
      cases keys with
      | nil => simp [joined, List.intercalate_cons_cons]
      | cons second keys =>
          have later := ih (List.cons_ne_nil _ _)
          simp only [joined, List.cons_append, List.intercalate_cons_cons] at later ⊢
          rw [later]
          simp

theorem joined_ne_nil (nonempty : keys ≠ []) (given : ∀ key ∈ keys, key ≠ []) :
    joined separator keys ≠ [] := by
  cases keys with
  | nil => exact absurd rfl nonempty
  | cons first keys =>
      have some := given first List.mem_cons_self
      cases keys with
      | nil => simpa [joined] using some
      | cons second keys => simp [joined, List.intercalate_cons_cons]

end JoinedPath
