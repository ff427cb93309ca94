import RobotManager.Config.LoadedConfig

/-!
# Documents as trees

The tree that the YAML library delivers and `ReadMapping` of `config_loader.cc`, which flattens it
into a document.
-/

namespace RobotManager

open Checked

/-- What the library reports of a node besides its content. -/
structure YamlMarks where
  anchor : Bool := false
  reference : Bool := false
  tag : Bool := false
deriving DecidableEq

def YamlMarks.any (marks : YamlMarks) : Bool := marks.anchor || marks.reference || marks.tag

/-- The key of an entry; `marks` tells of anchors and references of the key and of the value. -/
structure YamlKey where
  name : String
  keyTag : Bool := false
  marks : YamlMarks := {}
deriving DecidableEq

inductive YamlNode where
  | mapping (entries : List (YamlKey × YamlNode))
  | sequence (items : List (YamlMarks × YamlNode))
  | scalar (value : String)
  | null

abbrev YamlEntries := List (YamlKey × YamlNode)

/-- Entries are taken one by one, the ones of a section before the ones that follow it. -/
theorem YamlEntries.induction {motive : YamlEntries → Prop} (nil : motive [])
    (leaf : ∀ key value entries, (∀ inner, value ≠ .mapping inner) → motive entries →
      motive ((key, value) :: entries))
    (nested : ∀ key inner entries, motive inner → motive entries →
      motive ((key, .mapping inner) :: entries)) : ∀ entries, motive entries
  | [] => nil
  | (key, .mapping inner) :: entries =>
      nested key inner entries (YamlEntries.induction nil leaf nested inner)
        (YamlEntries.induction nil leaf nested entries)
  | (key, .sequence items) :: entries =>
      leaf key (.sequence items) entries (by simp) (YamlEntries.induction nil leaf nested entries)
  | (key, .scalar value) :: entries =>
      leaf key (.scalar value) entries (by simp) (YamlEntries.induction nil leaf nested entries)
  | (key, .null) :: entries =>
      leaf key .null entries (by simp) (YamlEntries.induction nil leaf nested entries)

def childPath (start key : String) : String := if start = "" then key else start ++ "." ++ key

/-- The loop over the items of a sequence. -/
def readItems (path : String) : List (YamlMarks × YamlNode) → StatusOr (List String)
  | [] => .ok []
  | (marks, .scalar value) :: items =>
      if marks.any then .error (configError ("setting '" ++ path ++ "' must be a scalar list"))
      else do
        let values ← readItems path items
        .ok (value :: values)
  | _ :: _ => .error (configError ("setting '" ++ path ++ "' must be a scalar list"))

mutual

/-- The loop over the entries of a mapping. -/
def readEntries : YamlEntries → String → ConfigDocument → StatusOr ConfigDocument
  | [], _, document => .ok document
  | (key, value) :: entries, start, document =>
      if key.name = "" ∨ '.' ∈ key.name.toList ∨ key.marks.any ∨ key.keyTag then
        .error (configError ("unsupported key or YAML reference at '" ++ start ++ "'"))
      else
        let path := childPath start key.name
        if path ∈ document.scalars ∨ path ∈ document.lists ∨ path ∈ document.mappings then
          .error (configError ("duplicate key '" ++ path ++ "'"))
        else do
          let after ← readValue value path document
          readEntries entries start after
termination_by structural entries => entries

/-- The value of an entry.  On one that is a mapping, `ReadMapping` gets straight to its loop. -/
def readValue : YamlNode → String → ConfigDocument → StatusOr ConfigDocument
  | .mapping entries, path, document =>
      readEntries entries path { document with mappings := path :: document.mappings }
  | .sequence items, path, document => do
      let values ← readItems path items
      .ok { document with lists := document.lists.insert path values }
  | .scalar value, path, document =>
      .ok { document with scalars := document.scalars.emplace path value }
  | .null, path, _ => .error (configError ("setting '" ++ path ++ "' must not be null"))
termination_by structural node => node

end

def readMapping (node : YamlNode) (start : String) (document : ConfigDocument) :
    StatusOr ConfigDocument :=
  match node with
  | .mapping entries => readEntries entries start document
  | _ => .error (configError ("expected a mapping at '" ++ start ++ "'"))

end RobotManager
