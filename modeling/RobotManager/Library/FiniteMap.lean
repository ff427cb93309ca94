import Mathlib.Data.List.AList

/-!
# Finite maps

Hash maps whose iteration order is not observable are modelled by Mathlib's
association lists with distinct keys.  This file adds the operations of a mutable
map that `AList` does not name: insertion that keeps an existing entry, in-place
modification through an iterator, and the number of entries.
-/

/-- A finite map from `Key` to `Value`. -/
abbrev FiniteMap (Key Value : Type*) := AList (fun _ : Key => Value)

namespace FiniteMap

variable {Key Value : Type*} [DecidableEq Key]

/-- Insert unless the key is already present. -/
def emplace (key : Key) (value : Value) (map : FiniteMap Key Value) : FiniteMap Key Value :=
  if key ∈ map then map else map.insert key value

/-- Apply `change` to the value stored under `key`, if there is one. -/
def modify (key : Key) (change : Value → Value) (map : FiniteMap Key Value) :
    FiniteMap Key Value :=
  match map.lookup key with
  | none => map
  | some value => map.insert key (change value)

def size (map : FiniteMap Key Value) : ℕ := map.entries.length

theorem lookup_insert_eq (key other : Key) (value : Value) (map : FiniteMap Key Value) :
    (AList.insert key value map).lookup other =
      if other = key then some value else map.lookup other := by
  by_cases same : other = key
  · subst same
    simp
  · simp [same, AList.lookup_insert_ne same]

theorem lookup_erase_eq (key other : Key) (map : FiniteMap Key Value) :
    (AList.erase key map).lookup other = if other = key then none else map.lookup other := by
  by_cases same : other = key
  · subst same
    simp
  · simp [same, AList.lookup_erase_ne same]

theorem emplace_of_lookup_none {key : Key} {map : FiniteMap Key Value} (value : Value)
    (absent : map.lookup key = none) : map.emplace key value = map.insert key value := by
  rw [emplace, if_neg (AList.lookup_eq_none.mp absent)]

@[simp]
theorem lookup_modify (key other : Key) (change : Value → Value) (map : FiniteMap Key Value) :
    (map.modify key change).lookup other =
      if other = key then (map.lookup key).map change else map.lookup other := by
  unfold modify
  cases found : map.lookup key with
  | none =>
      by_cases same : other = key
      · subst same
        simp [found]
      · simp [same]
  | some value => simpa using lookup_insert_eq key other (change value) map

theorem modify_of_lookup_none {key : Key} {map : FiniteMap Key Value} (change : Value → Value)
    (absent : map.lookup key = none) : map.modify key change = map := by
  simp [modify, absent]

theorem lookup_modify_of_none {key other : Key} {change : Value → Value}
    {map : FiniteMap Key Value} (absent : map.lookup other = none) :
    (map.modify key change).lookup other = none := by
  rw [lookup_modify]
  split
  · next same =>
    subst same
    simp [absent]
  · exact absent

theorem modify_modify (key : Key) (first second : Value → Value) (map : FiniteMap Key Value) :
    (map.modify key first).modify key second =
      map.modify key fun value => second (first value) := by
  cases found : map.lookup key with
  | none => simp [modify, found]
  | some value => simp [modify, found, AList.insert_insert]

theorem mem_entries_iff {key : Key} {value : Value} {map : FiniteMap Key Value} :
    (⟨key, value⟩ : Sigma fun _ : Key => Value) ∈ map.entries ↔ map.lookup key = some value := by
  rw [← AList.mem_lookup_iff, Option.mem_def]

theorem mem_of_lookup {key : Key} {value : Value} {map : FiniteMap Key Value}
    (found : map.lookup key = some value) : key ∈ map :=
  AList.lookup_isSome.mp (by simp [found])

theorem exists_lookup_of_mem {key : Key} {map : FiniteMap Key Value} (present : key ∈ map) :
    ∃ value, map.lookup key = some value :=
  Option.isSome_iff_exists.mp (AList.lookup_isSome.mpr present)

/-! ### Counting entries -/

/-- The number of entries whose value passes a check. -/
def count (check : Value → Bool) (map : FiniteMap Key Value) : ℕ :=
  map.entries.countP fun entry => check entry.2

omit [DecidableEq Key] in
theorem size_eq_count (map : FiniteMap Key Value) : map.size = map.count fun _ => true := by
  simp [size, count]

omit [DecidableEq Key] in
theorem count_le_size (check : Value → Bool) (map : FiniteMap Key Value) :
    map.count check ≤ map.size :=
  List.countP_le_length

/-- The entry that is found counts as one. -/
theorem count_erase {check : Value → Bool} {key : Key} {value : Value} {map : FiniteMap Key Value}
    (found : map.lookup key = some value) :
    map.count check = FiniteMap.count check (map.erase key) + if check value then 1 else 0 := by
  have present : key ∈ map.entries.keys := mem_of_lookup found
  rcases List.exists_of_kerase present with ⟨stored, front, back, _, entries, erased⟩
  obtain rfl : stored = value := by
    have mem : (⟨key, stored⟩ : Sigma fun _ : Key => Value) ∈ map.entries := by
      rw [entries]
      simp
    exact Option.some.inj ((mem_entries_iff.mp mem).symm.trans found)
  have rest : (AList.erase key map).entries = front ++ back := erased
  simp only [count, entries, rest, List.countP_append, List.countP_cons]
  omega

theorem count_insert_of_none {check : Value → Bool} {key : Key} {map : FiniteMap Key Value}
    (value : Value) (absent : map.lookup key = none) :
    FiniteMap.count check (map.insert key value) =
      map.count check + if check value then 1 else 0 := by
  have fresh : key ∉ map := AList.lookup_eq_none.mp absent
  rw [count, AList.entries_insert_of_notMem fresh, List.countP_cons, count]

/-- Changing a value counts the new one for the old one. -/
theorem count_modify {check : Value → Bool} {key : Key} {value : Value} {map : FiniteMap Key Value}
    (change : Value → Value) (found : map.lookup key = some value) :
    (map.modify key change).count check + (if check value then 1 else 0) =
      map.count check + if check (change value) then 1 else 0 := by
  have modified : map.modify key change = map.insert key (change value) := by
    simp [modify, found]
  have entries : (AList.insert key (change value) map).entries =
      ⟨key, change value⟩ :: (AList.erase key map).entries := rfl
  rw [modified, count_erase found, count, entries, List.countP_cons, count]
  dsimp only
  omega

/-- A change that never stops a value from passing the check does not lower the count. -/
theorem count_le_count_modify {check : Value → Bool} {change : Value → Value} {key : Key}
    {map : FiniteMap Key Value}
    (kept : ∀ value, map.lookup key = some value → check value = true →
      check (change value) = true) : map.count check ≤ (map.modify key change).count check := by
  cases found : map.lookup key with
  | none => rw [modify_of_lookup_none change found]
  | some value =>
      have counted : (map.modify key change).count check + (if check value then 1 else 0) =
          map.count check + if check (change value) then 1 else 0 := count_modify change found
      cases passed : check value with
      | false =>
          simp only [passed, Bool.false_eq_true, if_false] at counted
          omega
      | true =>
          simp only [passed, kept value found passed, if_true] at counted
          omega

@[simp]
theorem size_modify (key : Key) (change : Value → Value) (map : FiniteMap Key Value) :
    (map.modify key change).size = map.size := by
  cases found : map.lookup key with
  | none => rw [modify_of_lookup_none change found]
  | some value =>
      have counted : (map.modify key change).count (fun _ => true) + 1 =
          map.count (fun _ => true) + 1 := count_modify change found
      simpa [size_eq_count] using counted

theorem size_erase {key : Key} {value : Value} {map : FiniteMap Key Value}
    (found : map.lookup key = some value) :
    map.size = FiniteMap.size (map.erase key) + 1 := by
  rw [size_eq_count, size_eq_count]
  exact count_erase found

theorem size_insert_of_none {key : Key} {map : FiniteMap Key Value} (value : Value)
    (absent : map.lookup key = none) : FiniteMap.size (map.insert key value) = map.size + 1 := by
  rw [size_eq_count, size_eq_count]
  exact count_insert_of_none value absent

end FiniteMap
