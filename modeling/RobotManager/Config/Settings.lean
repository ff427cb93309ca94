import RobotManager.Library.Checked
import RobotManager.Library.FiniteMap
import RobotManager.Library.NumberText
import RobotManager.Types.Robot
import RobotManager.Types.Status

/-!
# Settings of a configuration document

The flattened document of `config_document.h` and the functions of `config_loader.cc` that read
one setting of it.
-/

namespace RobotManager

open Checked

/-- The settings of a document by their paths, and the paths of its sections.  Only membership in
`mappings` matters. -/
structure ConfigDocument where
  scalars : FiniteMap String String := ∅
  lists : FiniteMap String (List String) := ∅
  mappings : List String := []

def configError (message : String) : Status :=
  ⟨.invalidArgument, "configuration: " ++ message, 0⟩

def requiredScalar (document : ConfigDocument) (key : String) : StatusOr String :=
  match document.scalars.lookup key with
  | none => .error (configError ("missing required setting '" ++ key ++ "'"))
  | some value =>
      if value = "" then .error (configError ("missing required setting '" ++ key ++ "'"))
      else .ok value

def parseBool (document : ConfigDocument) (key : String) : StatusOr Bool := do
  let value ← requiredScalar document key
  if value = "true" then .ok true
  else if value = "false" then .ok false
  else .error (configError ("setting '" ++ key ++ "' must be true or false"))

def parseInt (document : ConfigDocument) (key : String) : StatusOr ℤ := do
  let value ← requiredScalar document key
  let text := NumberText.cString value.toList
  let parsed := NumberText.strtol text
  if parsed.rangeError ∨ parsed.rest = text ∨ parsed.rest ≠ [] ∨ parsed.value < -2 ^ 31 ∨
      2 ^ 31 - 1 < parsed.value then
    .error (configError ("setting '" ++ key ++ "' must be an integer"))
  else .ok parsed.value

def parseIntScalar (value key : String) : StatusOr ℤ :=
  parseInt { scalars := FiniteMap.emplace key value ∅ } key

def parseDouble (value : List Char) (key : String) : StatusOr Double :=
  let text := NumberText.cString value
  let parsed := NumberText.strtod text
  if parsed.rangeError ∨ parsed.rest = text ∨ parsed.rest ≠ [] ∨ parsed.value.isFinite = false then
    .error (configError ("setting '" ++ key ++ "' must be a finite number"))
  else .ok parsed.value

/-- The bounds on the two sides of the only colon. -/
def parseRange (value key : String) : StatusOr JointLimit :=
  match value.toList.dropWhile (fun symbol => symbol ≠ ':') with
  | [] => .error (configError ("setting '" ++ key ++ "' must use min:max"))
  | _ :: upper =>
      if ':' ∈ upper then .error (configError ("setting '" ++ key ++ "' must use min:max"))
      else do
        let minimum ← parseDouble (value.toList.takeWhile fun symbol => symbol ≠ ':') key
        let maximum ← parseDouble upper key
        if maximum ≤ minimum then
          .error (configError ("setting '" ++ key ++ "' must have min < max"))
        else .ok ⟨minimum, maximum⟩

def optionalList (document : ConfigDocument) (key : String) : StatusOr (List String) :=
  match document.lists.lookup key with
  | none =>
      if key ∈ document.mappings ∨ key ∈ document.scalars then
        .error (configError ("setting '" ++ key ++ "' must be a scalar list"))
      else .ok []
  | some values =>
      if values = [] then .error (configError ("list '" ++ key ++ "' must not be empty"))
      else .ok values

/-! ### What is read -/

section Reading

variable {document : ConfigDocument} {key : String}

/-- A setting that must be given is read if it is there and not empty. -/
theorem given_eq_ok_iff {found : Option String} {missing : Status} {value : String} :
    (match found with
      | none => .error missing
      | some stored => if stored = "" then .error missing else .ok stored : StatusOr String) =
        .ok value ↔ found = some value ∧ value ≠ "" := by
  cases found with
  | none => simp
  | some stored =>
      by_cases empty : stored = ""
      · subst empty
        simp
      · simp only [empty, if_false, Except.ok.injEq, Option.some.injEq]
        constructor
        · rintro rfl
          exact ⟨rfl, empty⟩
        · exact And.left

theorem requiredScalar_eq_ok_iff {value : String} :
    requiredScalar document key = .ok value ↔
      document.scalars.lookup key = some value ∧ value ≠ "" :=
  given_eq_ok_iff

theorem mem_scalars_of_parseInt {number : ℤ} (parsed : parseInt document key = .ok number) :
    key ∈ document.scalars := by
  rcases bind_eq_ok_iff.mp parsed with ⟨value, required, _⟩
  exact FiniteMap.mem_of_lookup (requiredScalar_eq_ok_iff.mp required).1

theorem requiredScalar_congr {other : ConfigDocument}
    (same : document.scalars.lookup key = other.scalars.lookup key) :
    requiredScalar document key = requiredScalar other key := by
  unfold requiredScalar
  rw [same]

theorem parseBool_congr {other : ConfigDocument}
    (same : document.scalars.lookup key = other.scalars.lookup key) :
    parseBool document key = parseBool other key := by
  unfold parseBool
  rw [requiredScalar_congr same]

/-- Only the text of a setting matters for the number it stands for. -/
theorem parseInt_congr {other : ConfigDocument}
    (same : document.scalars.lookup key = other.scalars.lookup key) :
    parseInt document key = parseInt other key := by
  unfold parseInt
  rw [requiredScalar_congr same]

theorem parseIntScalar_of_lookup {value : String}
    (found : document.scalars.lookup key = some value) :
    parseIntScalar value key = parseInt document key := by
  apply parseInt_congr
  rw [found]
  exact AList.lookup_insert _

theorem parseBool_eq_ok_iff {flag : Bool} :
    parseBool document key = .ok flag ↔
      document.scalars.lookup key = some (if flag then "true" else "false") := by
  rw [parseBool, bind_eq_ok_iff]
  constructor
  · rintro ⟨value, required, read⟩
    rw [requiredScalar_eq_ok_iff] at required
    split at read
    · next isTrue =>
      cases read
      simp [required.1, isTrue]
    · split at read
      · next isFalse =>
        cases read
        simp [required.1, isFalse]
      · cases read
  · intro found
    refine ⟨_, requiredScalar_eq_ok_iff.mpr ⟨found, ?_⟩, ?_⟩
    · cases flag <;> decide
    · cases flag <;> simp

theorem optionalList_eq_ok_iff {values : List String} :
    optionalList document key = .ok values ↔
      (document.lists.lookup key = some values ∧ values ≠ []) ∨
        (values = [] ∧ document.lists.lookup key = none ∧
          ¬(key ∈ document.mappings ∨ key ∈ document.scalars)) := by
  unfold optionalList
  cases found : document.lists.lookup key with
  | none =>
      dsimp only
      split
      · next present => simp [present]
      · next absent => simp [absent, eq_comm]
  | some stored =>
      dsimp only
      split
      · next empty =>
        subst empty
        simp
      · next nonempty =>
        constructor
        · intro read
          cases read
          exact .inl ⟨rfl, nonempty⟩
        · rintro (⟨same, _⟩ | ⟨_, absent, _⟩)
          · cases same
            rfl
          · cases absent

end Reading

section Ranges

variable {value key : String} {limit : JointLimit}

theorem isFinite_of_parseDouble {text : List Char} {number : Double}
    (parsed : parseDouble text key = .ok number) : number.isFinite = true := by
  unfold parseDouble at parsed
  dsimp only at parsed
  split at parsed
  · cases parsed
  · next accepted =>
    cases parsed
    simp only [not_or, Bool.not_eq_false] at accepted
    exact accepted.2.2.2

theorem exists_of_parseRange (parsed : parseRange value key = .ok limit) :
    ∃ lower upper, parseDouble lower key = .ok limit.minimumDeg ∧
      parseDouble upper key = .ok limit.maximumDeg ∧ ¬limit.maximumDeg ≤ limit.minimumDeg := by
  unfold parseRange at parsed
  split at parsed
  · cases parsed
  · next upper _ =>
    split at parsed
    · cases parsed
    · rcases bind_eq_ok_iff.mp parsed with ⟨minimum, lowerParsed, rest⟩
      rcases bind_eq_ok_iff.mp rest with ⟨maximum, upperParsed, ordered⟩
      split at ordered
      · cases ordered
      · next notLe =>
        cases ordered
        exact ⟨_, _, lowerParsed, upperParsed, notLe⟩

/-- The bounds of a range are finite numbers, so that not being at or above means being below. -/
theorem lt_of_parseRange (parsed : parseRange value key = .ok limit) :
    limit.minimumDeg < limit.maximumDeg := by
  rcases exists_of_parseRange parsed with ⟨lower, upper, lowerParsed, upperParsed, notLe⟩
  exact Double.lt_of_not_le (isFinite_of_parseDouble lowerParsed)
    (isFinite_of_parseDouble upperParsed) notLe

end Ranges

end RobotManager
