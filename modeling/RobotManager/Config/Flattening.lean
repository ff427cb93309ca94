import Mathlib.Data.List.Induction
import RobotManager.Config.YamlTree
import RobotManager.Library.JoinedPath

/-!
# Flattening loses nothing

`ReadMapping` accepts exactly the trees whose mappings give every key once, as a plain name, and
whose sequences are lists of plain scalars.  Each node of such a tree gets a path of its own, from
which its keys can be read off again, so the document determines the tree up to the order in which
siblings stand.
-/

namespace RobotManager

open Checked JoinedPath

/-! ### Trees that can be flattened -/

structure YamlKey.Plain (key : YamlKey) : Prop where
  nonempty : key.name ≠ ""
  noDot : '.' ∉ key.name.toList
  unmarked : key.marks.any = false
  untagged : key.keyTag = false

/-- Keys are plain and differ from their siblings, sequences hold plain scalars, nothing is null. -/
inductive YamlNode.WellFormed : YamlNode → Prop where
  | mapping {entries : YamlEntries} (unique : (entries.map fun entry => entry.1.name).Nodup)
      (plain : ∀ entry ∈ entries, entry.1.Plain)
      (values : ∀ entry ∈ entries, YamlNode.WellFormed entry.2) :
      YamlNode.WellFormed (.mapping entries)
  | sequence {items : List (YamlMarks × YamlNode)}
      (plain : ∀ item ∈ items, item.1.any = false ∧ ∃ value, item.2 = .scalar value) :
      YamlNode.WellFormed (.sequence items)
  | scalar (value : String) : YamlNode.WellFormed (.scalar value)

theorem YamlMarks.eq_of_any_eq_false {marks : YamlMarks} (unmarked : marks.any = false) :
    marks = {} := by
  cases marks
  simpa [YamlMarks.any, and_assoc] using unmarked

theorem wellFormed_nil : YamlNode.WellFormed (.mapping []) :=
  .mapping (by simp) (by simp) (by simp)

theorem wellFormed_cons_iff {key : YamlKey} {value : YamlNode} {entries : YamlEntries} :
    YamlNode.WellFormed (.mapping ((key, value) :: entries)) ↔
      key.Plain ∧ value.WellFormed ∧ (∀ entry ∈ entries, entry.1.name ≠ key.name) ∧
        YamlNode.WellFormed (.mapping entries) := by
  constructor
  · intro wellFormed
    cases wellFormed with
    | mapping unique plain values =>
        rw [List.map_cons, List.nodup_cons] at unique
        rw [List.forall_mem_cons] at plain values
        refine ⟨plain.1, values.1, ?_, .mapping unique.2 plain.2 values.2⟩
        intro entry mem same
        exact unique.1 (List.mem_map.mpr ⟨entry, mem, same⟩)
  · rintro ⟨keyPlain, valueWellFormed, fresh, wellFormed⟩
    cases wellFormed with
    | mapping unique plain values =>
        apply YamlNode.WellFormed.mapping
        · rw [List.map_cons, List.nodup_cons]
          refine ⟨?_, unique⟩
          intro mem
          rcases List.mem_map.mp mem with ⟨entry, entryMem, same⟩
          exact fresh entry entryMem same
        · exact List.forall_mem_cons.mpr ⟨keyPlain, plain⟩
        · exact List.forall_mem_cons.mpr ⟨valueWellFormed, values⟩

/-! ### What a document stores -/

/-- An entry of a document. -/
inductive Setting where
  | mapping
  | list (values : List String)
  | scalar (value : String)

def ConfigDocument.Holds (document : ConfigDocument) (path : String) : Setting → Prop
  | .mapping => path ∈ document.mappings
  | .list values => document.lists.lookup path = some values
  | .scalar value => document.scalars.lookup path = some value

theorem ConfigDocument.present_iff {document : ConfigDocument} {path : String} :
    document.Present path ↔ ∃ setting, document.Holds path setting := by
  constructor
  · rintro (scalar | list | mapping)
    · rcases FiniteMap.exists_lookup_of_mem scalar with ⟨value, found⟩
      exact ⟨.scalar value, found⟩
    · rcases FiniteMap.exists_lookup_of_mem list with ⟨values, found⟩
      exact ⟨.list values, found⟩
    · exact ⟨.mapping, mapping⟩
  · rintro ⟨setting, holds⟩
    cases setting with
    | mapping => exact .inr (.inr holds)
    | list values => exact .inr (.inl (FiniteMap.mem_of_lookup holds))
    | scalar value => exact .inl (FiniteMap.mem_of_lookup holds)

/-- The document with one more entry. -/
def ConfigDocument.put (document : ConfigDocument) (path : String) : Setting → ConfigDocument
  | .mapping => { document with mappings := path :: document.mappings }
  | .list values => { document with lists := document.lists.insert path values }
  | .scalar value => { document with scalars := document.scalars.emplace path value }

theorem ConfigDocument.holds_put_iff {document : ConfigDocument} {path other : String}
    {setting stored : Setting} (absent : ¬document.Present path) :
    (document.put path setting).Holds other stored ↔
      document.Holds other stored ∨ (other = path ∧ stored = setting) := by
  have noScalar : document.scalars.lookup path = none :=
    AList.lookup_eq_none.mpr fun mem => absent (.inl mem)
  have noList : document.lists.lookup path = none :=
    AList.lookup_eq_none.mpr fun mem => absent (.inr (.inl mem))
  cases setting with
  | mapping => cases stored <;> simp [ConfigDocument.put, ConfigDocument.Holds, or_comm]
  | list values =>
      cases stored <;>
        simp only [ConfigDocument.put, ConfigDocument.Holds, FiniteMap.lookup_insert_eq] <;> grind
  | scalar value =>
      cases stored <;>
        simp only [ConfigDocument.put, ConfigDocument.Holds,
          FiniteMap.emplace_of_lookup_none _ noScalar, FiniteMap.lookup_insert_eq] <;> grind

theorem ConfigDocument.present_put_iff {document : ConfigDocument} {path other : String}
    {setting : Setting} (absent : ¬document.Present path) :
    (document.put path setting).Present other ↔ document.Present other ∨ other = path := by
  simp only [ConfigDocument.present_iff, ConfigDocument.holds_put_iff absent]
  grind

/-- What a document stores for a node; for a mapping only that it is one. -/
inductive YamlNode.Stored : YamlNode → Setting → Prop where
  | mapping (entries : YamlEntries) : YamlNode.Stored (.mapping entries) .mapping
  | sequence (values : List String) :
      YamlNode.Stored (.sequence (values.map fun value => ({}, .scalar value))) (.list values)
  | scalar (value : String) : YamlNode.Stored (.scalar value) (.scalar value)

theorem YamlNode.Stored.functional {node : YamlNode} {first second : Setting}
    (firstStored : node.Stored first) (secondStored : node.Stored second) : first = second := by
  cases firstStored with
  | mapping entries => cases secondStored with | mapping => rfl
  | scalar value => cases secondStored with | scalar => rfl
  | sequence values =>
      generalize same : YamlNode.sequence (values.map fun value => ({}, .scalar value)) = node
        at secondStored
      cases secondStored with
      | mapping => cases same
      | scalar => cases same
      | sequence others =>
          have texts : values = others := by
            apply List.map_injective_iff.mpr _ (YamlNode.sequence.inj same)
            intro value other equal
            simpa using equal
          rw [texts]

theorem YamlNode.Stored.wellFormed {node : YamlNode} {setting : Setting}
    (stored : node.Stored setting) (leaf : ∀ entries, node ≠ .mapping entries) :
    node.WellFormed := by
  cases stored with
  | mapping entries => exact absurd rfl (leaf entries)
  | scalar value => exact .scalar value
  | sequence values =>
      apply YamlNode.WellFormed.sequence
      intro item mem
      rcases List.mem_map.mp mem with ⟨value, _, rfl⟩
      exact ⟨rfl, value, rfl⟩

theorem YamlNode.WellFormed.exists_stored {node : YamlNode} (wellFormed : node.WellFormed) :
    ∃ setting, node.Stored setting := by
  cases wellFormed with
  | mapping => exact ⟨.mapping, .mapping _⟩
  | scalar value => exact ⟨.scalar value, .scalar value⟩
  | sequence plain =>
      next items =>
      have texts : ∃ values : List String,
          items = values.map fun value => (({} : YamlMarks), YamlNode.scalar value) := by
        induction items with
        | nil => exact ⟨[], rfl⟩
        | cons item items ih =>
            rw [List.forall_mem_cons] at plain
            rcases ih plain.2 with ⟨values, rfl⟩
            rcases plain.1 with ⟨unmarked, value, isScalar⟩
            refine ⟨value :: values, ?_⟩
            rw [List.map_cons, ← isScalar, ← YamlMarks.eq_of_any_eq_false unmarked]
      rcases texts with ⟨values, rfl⟩
      exact ⟨.list values, .sequence values⟩

/-- The contents of a node that is not a mapping are stored in full. -/
theorem YamlNode.Stored.unique {left right : YamlNode} {setting : Setting}
    (leftStored : left.Stored setting) (rightStored : right.Stored setting)
    (leaf : ∀ entries, left ≠ .mapping entries) : left = right := by
  cases leftStored with
  | mapping entries => exact absurd rfl (leaf entries)
  | sequence values => cases rightStored with | sequence => rfl
  | scalar value => cases rightStored with | scalar => rfl

/-! ### Reading one entry -/

theorem readItems_eq_ok_iff {path : String} {items : List (YamlMarks × YamlNode)}
    {values : List String} :
    readItems path items = .ok values ↔
      items = values.map fun value => ({}, .scalar value) := by
  fun_induction readItems path items generalizing values with
  | case1 => cases values <;> simp
  | case2 marks value items marked =>
      constructor
      · intro read
        cases read
      · intro same
        cases values with
        | nil => cases same
        | cons first values =>
            cases same
            simp [YamlMarks.any] at marked
  | case3 marks value items unmarked ih =>
      have plain : marks = {} := YamlMarks.eq_of_any_eq_false (by simpa using unmarked)
      cases values with
      | nil => simp [bind_eq_ok_iff]
      | cons first values => simp [bind_eq_ok_iff, ih, plain, and_comm]
  | case4 item items notScalar =>
      cases values with
      | nil => simp
      | cons first values =>
          simp only [reduceCtorEq, List.map_cons, List.cons.injEq, false_iff, not_and]
          intro same
          exact absurd same (notScalar _ _)

theorem readValue_eq_ok_iff {value : YamlNode} {path : String}
    {document after : ConfigDocument} (leaf : ∀ inner, value ≠ .mapping inner) :
    readValue value path document = .ok after ↔
      ∃ setting, value.Stored setting ∧ document.put path setting = after := by
  cases value with
  | mapping inner => exact absurd rfl (leaf inner)
  | sequence items =>
      simp only [readValue, bind_eq_ok_iff, readItems_eq_ok_iff, Except.ok.injEq]
      constructor
      · rintro ⟨values, rfl, rfl⟩
        exact ⟨.list values, .sequence values, rfl⟩
      · rintro ⟨setting, stored, rfl⟩
        cases stored with
        | sequence values => exact ⟨values, rfl, rfl⟩
  | scalar value =>
      simp only [readValue, Except.ok.injEq]
      constructor
      · rintro rfl
        exact ⟨.scalar value, .scalar value, rfl⟩
      · rintro ⟨setting, stored, rfl⟩
        cases stored with
        | scalar => rfl
  | null =>
      simp only [readValue, reduceCtorEq, false_iff, not_exists, not_and]
      intro setting stored
      cases stored

theorem readEntries_cons_eq_ok_iff {key : YamlKey} {value : YamlNode} {entries : YamlEntries}
    {start : String} {document after : ConfigDocument} :
    readEntries ((key, value) :: entries) start document = .ok after ↔
      key.Plain ∧ ¬document.Present (childPath start key.name) ∧
        ∃ between, readValue value (childPath start key.name) document = .ok between ∧
          readEntries entries start between = .ok after := by
  rw [readEntries]
  split
  · next refused =>
    simp only [reduceCtorEq, false_iff, not_and]
    intro plain
    simp [plain.nonempty, plain.noDot, plain.unmarked, plain.untagged] at refused
  · next admitted =>
    have plain : key.Plain := by
      simp only [not_or, Bool.not_eq_true] at admitted
      exact ⟨admitted.1, admitted.2.1, admitted.2.2.1, admitted.2.2.2⟩
    dsimp only
    split
    · next present =>
      simp only [reduceCtorEq, false_iff, not_and]
      intro _ absent
      exact absurd present absent
    · next absent =>
      rw [bind_eq_ok_iff]
      constructor
      · intro read
        exact ⟨plain, absent, read⟩
      · rintro ⟨_, _, read⟩
        exact read

/-! ### Paths -/

/-- The path of the node that is found under the keys, one after the other. -/
def keyPath (keys : List String) : String := keys.foldl childPath ""

theorem keyPath_append_singleton (keys : List String) (key : String) :
    keyPath (keys ++ [key]) = childPath (keyPath keys) key := by
  simp [keyPath]

/-- Keys that name a node of a tree that can be flattened. -/
def PlainKeys (keys : List String) : Prop := ∀ key ∈ keys, key ≠ "" ∧ '.' ∉ key.toList

theorem toList_keyPath {keys : List String} (plain : PlainKeys keys) :
    (keyPath keys).toList = joined '.' (keys.map String.toList) := by
  induction keys using List.reverseRecOn with
  | nil => rfl
  | append_singleton keys key ih =>
      have shorter : (keyPath keys).toList = joined '.' (keys.map String.toList) :=
        ih fun other mem => plain other (List.mem_append_left _ mem)
      rw [keyPath_append_singleton, childPath]
      by_cases first : keys = []
      · subst first
        simp [keyPath, joined]
      · have given : ∀ key ∈ keys.map String.toList, key ≠ [] := by
          intro text mem
          rcases List.mem_map.mp mem with ⟨other, otherMem, rfl⟩
          simpa using (plain other (List.mem_append_left _ otherMem)).1
        have someText : joined '.' (keys.map String.toList) ≠ [] :=
          joined_ne_nil (by simpa using first) given
        have nonempty : keyPath keys ≠ "" := by
          intro empty
          rw [← shorter, empty] at someText
          exact someText rfl
        rw [if_neg nonempty, List.map_append, List.map_singleton,
          joined_append_singleton (by simpa using first), ← shorter]
        simp

theorem keyPath_injective {left right : List String} (leftPlain : PlainKeys left)
    (rightPlain : PlainKeys right) (leftGiven : left ≠ []) (rightGiven : right ≠ [])
    (same : keyPath left = keyPath right) : left = right := by
  have apart : ∀ {keys : List String}, PlainKeys keys → Apart '.' (keys.map String.toList) := by
    intro keys plain text mem
    rcases List.mem_map.mp mem with ⟨key, keyMem, rfl⟩
    exact (plain key keyMem).2
  have texts : left.map String.toList = right.map String.toList := by
    apply joined_injective (apart leftPlain) (apart rightPlain) (by simpa using leftGiven)
      (by simpa using rightGiven)
    rw [← toList_keyPath leftPlain, same, toList_keyPath rightPlain]
  exact List.map_injective_iff.mpr (fun _ _ => String.toList_inj.mp) texts

theorem PlainKeys.append {left right : List String} (leftPlain : PlainKeys left)
    (rightPlain : PlainKeys right) : PlainKeys (left ++ right) := by
  intro key mem
  rcases List.mem_append.mp mem with inLeft | inRight
  · exact leftPlain key inLeft
  · exact rightPlain key inRight

theorem keyPath_append_injective {start left right : List String} (startPlain : PlainKeys start)
    (leftPlain : PlainKeys left) (rightPlain : PlainKeys right) (leftGiven : left ≠ [])
    (rightGiven : right ≠ []) (same : keyPath (start ++ left) = keyPath (start ++ right)) :
    left = right := by
  have sameKeys : start ++ left = start ++ right :=
    keyPath_injective (startPlain.append leftPlain) (startPlain.append rightPlain)
      (by simp [leftGiven]) (by simp [rightGiven]) same
  exact List.append_cancel_left sameKeys

/-! ### The nodes of a tree -/

mutual

/-- The nodes below a mapping with the keys that lead to them, in the order of the document. -/
def nodes : YamlEntries → List (List String × YamlNode)
  | [] => []
  | (key, value) :: entries =>
      ([key.name], value) :: (nodesInside value).map (fun node => (key.name :: node.1, node.2)) ++
        nodes entries
termination_by structural entries => entries

def nodesInside : YamlNode → List (List String × YamlNode)
  | .mapping entries => nodes entries
  | .sequence _ => []
  | .scalar _ => []
  | .null => []
termination_by structural node => node

end

theorem nodesInside_leaf {value : YamlNode} (leaf : ∀ inner, value ≠ .mapping inner) :
    nodesInside value = [] := by
  cases value with
  | mapping inner => exact absurd rfl (leaf inner)
  | sequence items => rfl
  | scalar value => rfl
  | null => rfl

theorem mem_nodes_cons_iff {key : YamlKey} {value found : YamlNode} {entries : YamlEntries}
    {keys : List String} :
    (keys, found) ∈ nodes ((key, value) :: entries) ↔
      (keys = [key.name] ∧ found = value) ∨
        (∃ inside, (inside, found) ∈ nodesInside value ∧ keys = key.name :: inside) ∨
          (keys, found) ∈ nodes entries := by
  simp only [nodes, List.cons_append, List.mem_cons, List.mem_append, List.mem_map, Prod.mk.injEq,
    Prod.exists]
  grind

/-- Keys lead from an entry of the mapping to the node. -/
theorem exists_entry_of_mem_nodes {entries : YamlEntries} {keys : List String} {found : YamlNode}
    (mem : (keys, found) ∈ nodes entries) :
    ∃ entry ∈ entries, ∃ inside, keys = entry.1.name :: inside := by
  induction entries with
  | nil => cases mem
  | cons entry entries ih =>
      rcases mem_nodes_cons_iff.mp mem with ⟨rfl, _⟩ | ⟨inside, _, rfl⟩ | later
      · exact ⟨entry, List.mem_cons_self, [], rfl⟩
      · exact ⟨entry, List.mem_cons_self, inside, rfl⟩
      · rcases ih later with ⟨other, otherMem, head⟩
        exact ⟨other, List.mem_cons_of_mem _ otherMem, head⟩

theorem ne_nil_of_mem_nodes {entries : YamlEntries} {keys : List String} {found : YamlNode}
    (mem : (keys, found) ∈ nodes entries) : keys ≠ [] := by
  rcases exists_entry_of_mem_nodes mem with ⟨entry, _, inside, rfl⟩
  exact List.cons_ne_nil _ _

theorem mem_nodes_of_mem {entries : YamlEntries} {entry : YamlKey × YamlNode}
    (mem : entry ∈ entries) : ([entry.1.name], entry.2) ∈ nodes entries := by
  induction entries with
  | nil => cases mem
  | cons first entries ih =>
      apply mem_nodes_cons_iff.mpr
      rcases List.mem_cons.mp mem with rfl | later
      · exact .inl ⟨rfl, rfl⟩
      · exact .inr (.inr (ih later))

theorem YamlKey.Plain.singleton {key : YamlKey} (plain : key.Plain) : PlainKeys [key.name] := by
  intro other mem
  rw [List.mem_singleton.mp mem]
  exact ⟨plain.nonempty, plain.noDot⟩

theorem plainKeys_of_mem_nodes {entries : YamlEntries} {keys : List String} {found : YamlNode}
    (wellFormed : YamlNode.WellFormed (.mapping entries)) (mem : (keys, found) ∈ nodes entries) :
    PlainKeys keys := by
  induction entries using YamlEntries.induction generalizing keys found with
  | nil => cases mem
  | leaf key value entries leaf ih =>
      rcases wellFormed_cons_iff.mp wellFormed with ⟨plain, _, _, rest⟩
      rcases mem_nodes_cons_iff.mp mem with ⟨rfl, _⟩ | ⟨inside, insideMem, _⟩ | later
      · exact plain.singleton
      · rw [nodesInside_leaf leaf] at insideMem
        cases insideMem
      · exact ih rest later
  | nested key inner entries ihInner ih =>
      rcases wellFormed_cons_iff.mp wellFormed with ⟨plain, innerWellFormed, _, rest⟩
      rcases mem_nodes_cons_iff.mp mem with ⟨rfl, _⟩ | ⟨inside, insideMem, rfl⟩ | later
      · exact plain.singleton
      · exact plain.singleton.append (ihInner innerWellFormed insideMem)
      · exact ih rest later

theorem keys_nodes_cons (key : YamlKey) (value : YamlNode) (entries : YamlEntries) :
    (nodes ((key, value) :: entries)).map Prod.fst =
      [key.name] :: ((nodesInside value).map Prod.fst).map (key.name :: ·) ++
        (nodes entries).map Prod.fst := by
  simp [nodes, Function.comp_def]

theorem nodup_keys_cons {key : YamlKey} {value : YamlNode} {entries : YamlEntries}
    (fresh : ∀ entry ∈ entries, entry.1.name ≠ key.name)
    (insideGiven : [] ∉ (nodesInside value).map Prod.fst)
    (insideNodup : ((nodesInside value).map Prod.fst).Nodup)
    (restNodup : ((nodes entries).map Prod.fst).Nodup) :
    ((nodes ((key, value) :: entries)).map Prod.fst).Nodup := by
  have heads : ∀ keys ∈ (nodes entries).map Prod.fst, keys.head? ≠ some key.name := by
    intro keys mem
    rcases List.mem_map.mp mem with ⟨⟨_, found⟩, nodeMem, rfl⟩
    rcases exists_entry_of_mem_nodes nodeMem with ⟨entry, entryMem, inside, isKeys⟩
    dsimp only
    rw [isKeys]
    simpa using fresh entry entryMem
  rw [keys_nodes_cons, List.cons_append, List.nodup_cons, List.nodup_append, List.mem_append,
    not_or]
  refine ⟨⟨?_, ?_⟩, insideNodup.map List.cons_injective, restNodup, ?_⟩
  · intro mem
    rcases List.mem_map.mp mem with ⟨inside, insideMem, same⟩
    rw [(List.cons.inj same).2] at insideMem
    exact insideGiven insideMem
  · intro mem
    exact heads _ mem rfl
  · rintro keys mem _ otherMem rfl
    rcases List.mem_map.mp mem with ⟨inside, _, rfl⟩
    exact heads _ otherMem rfl

/-- Different nodes are found under different keys. -/
theorem nodup_keys_of_wellFormed {entries : YamlEntries}
    (wellFormed : YamlNode.WellFormed (.mapping entries)) :
    ((nodes entries).map Prod.fst).Nodup := by
  induction entries using YamlEntries.induction with
  | nil => simp [nodes]
  | leaf key value entries leaf ih =>
      rcases wellFormed_cons_iff.mp wellFormed with ⟨_, _, fresh, rest⟩
      apply nodup_keys_cons fresh _ _ (ih rest)
      · simp [nodesInside_leaf leaf]
      · simp [nodesInside_leaf leaf]
  | nested key inner entries ihInner ih =>
      rcases wellFormed_cons_iff.mp wellFormed with ⟨_, innerWellFormed, fresh, rest⟩
      have insideNodup : ((nodesInside (.mapping inner)).map Prod.fst).Nodup :=
        ihInner innerWellFormed
      apply nodup_keys_cons fresh _ insideNodup (ih rest)
      intro mem
      rcases List.mem_map.mp mem with ⟨node, nodeMem, isNil⟩
      exact ne_nil_of_mem_nodes nodeMem isNil

/-- Different nodes of a tree that can be flattened have different paths. -/
theorem nodup_paths_of_wellFormed {entries : YamlEntries}
    (wellFormed : YamlNode.WellFormed (.mapping entries)) :
    ((nodes entries).map fun node => keyPath node.1).Nodup := by
  have paths : (nodes entries).map (fun node => keyPath node.1) =
      ((nodes entries).map Prod.fst).map keyPath := by
    simp [Function.comp_def]
  rw [paths]
  apply (nodup_keys_of_wellFormed wellFormed).map_on
  intro left leftMem right rightMem same
  rcases List.mem_map.mp leftMem with ⟨⟨_, leftFound⟩, leftNode, rfl⟩
  rcases List.mem_map.mp rightMem with ⟨⟨_, rightFound⟩, rightNode, rfl⟩
  exact keyPath_injective (plainKeys_of_mem_nodes wellFormed leftNode)
    (plainKeys_of_mem_nodes wellFormed rightNode) (ne_nil_of_mem_nodes leftNode)
    (ne_nil_of_mem_nodes rightNode) same

/-! ### Reading all entries -/

/-- The document gets an entry for each node, under the path of its keys. -/
theorem holds_of_readEntries {entries : YamlEntries} {start : List String}
    {document after : ConfigDocument}
    (read : readEntries entries (keyPath start) document = .ok after) (path : String)
    (setting : Setting) :
    after.Holds path setting ↔ document.Holds path setting ∨
      ∃ keys found, (keys, found) ∈ nodes entries ∧ path = keyPath (start ++ keys) ∧
        found.Stored setting := by
  induction entries using YamlEntries.induction generalizing start document after with
  | nil =>
      cases read
      simp [nodes]
  | leaf key value entries leaf ih =>
      rcases readEntries_cons_eq_ok_iff.mp read with ⟨_, absent, between, readFirst, readRest⟩
      rcases (readValue_eq_ok_iff leaf).mp readFirst with ⟨stored, isStored, rfl⟩
      rw [ih readRest, ConfigDocument.holds_put_iff absent, ← keyPath_append_singleton, or_assoc]
      apply or_congr_right
      simp only [mem_nodes_cons_iff, nodesInside_leaf leaf, List.not_mem_nil, false_and,
        exists_false, false_or]
      constructor
      · rintro (⟨rfl, rfl⟩ | ⟨keys, found, mem, same, foundStored⟩)
        · exact ⟨[key.name], value, .inl ⟨rfl, rfl⟩, rfl, isStored⟩
        · exact ⟨keys, found, .inr mem, same, foundStored⟩
      · rintro ⟨keys, found, ⟨rfl, rfl⟩ | mem, same, foundStored⟩
        · exact .inl ⟨same, foundStored.functional isStored⟩
        · exact .inr ⟨keys, found, mem, same, foundStored⟩
  | nested key inner entries ihInner ih =>
      rcases readEntries_cons_eq_ok_iff.mp read with ⟨_, absent, between, readFirst, readRest⟩
      rw [← keyPath_append_singleton] at absent readFirst
      have innerRead : readEntries inner (keyPath (start ++ [key.name]))
          (document.put (keyPath (start ++ [key.name])) .mapping) = .ok between := readFirst
      rw [ih readRest, ihInner innerRead, ConfigDocument.holds_put_iff absent, or_assoc, or_assoc]
      apply or_congr_right
      simp only [mem_nodes_cons_iff, nodesInside]
      constructor
      · rintro (⟨rfl, rfl⟩ | ⟨inside, found, mem, rfl, stored⟩ | ⟨keys, found, mem, rfl, stored⟩)
        · exact ⟨[key.name], .mapping inner, .inl ⟨rfl, rfl⟩, rfl, .mapping inner⟩
        · exact ⟨key.name :: inside, found, .inr (.inl ⟨inside, mem, rfl⟩), by simp, stored⟩
        · exact ⟨keys, found, .inr (.inr mem), rfl, stored⟩
      · rintro ⟨keys, found, ⟨rfl, rfl⟩ | ⟨inside, mem, rfl⟩ | mem, rfl, stored⟩
        · exact .inl ⟨rfl, stored.functional (.mapping inner)⟩
        · exact .inr (.inl ⟨inside, found, mem, by simp, stored⟩)
        · exact .inr (.inr ⟨keys, found, mem, rfl, stored⟩)

theorem present_mono_of_readEntries {entries : YamlEntries} {start : List String}
    {document after : ConfigDocument} {path : String}
    (read : readEntries entries (keyPath start) document = .ok after)
    (present : document.Present path) : after.Present path := by
  rcases ConfigDocument.present_iff.mp present with ⟨setting, holds⟩
  exact ConfigDocument.present_iff.mpr
    ⟨setting, (holds_of_readEntries read path setting).mpr (.inl holds)⟩

theorem present_cases_of_readEntries {entries : YamlEntries} {start : List String}
    {document after : ConfigDocument} {path : String}
    (read : readEntries entries (keyPath start) document = .ok after)
    (present : after.Present path) :
    document.Present path ∨
      ∃ keys found, (keys, found) ∈ nodes entries ∧ path = keyPath (start ++ keys) := by
  rcases ConfigDocument.present_iff.mp present with ⟨setting, holds⟩
  rcases (holds_of_readEntries read path setting).mp holds with given | ⟨keys, found, mem, same, _⟩
  · exact .inl (ConfigDocument.present_iff.mpr ⟨setting, given⟩)
  · exact .inr ⟨keys, found, mem, same⟩

/-- If the path of a key is taken and those of the entries are not, no entry has the key. -/
theorem fresh_of_clear {entries : YamlEntries} {start : List String} {document : ConfigDocument}
    {name : String} (taken : document.Present (keyPath (start ++ [name])))
    (clear : ∀ keys found, (keys, found) ∈ nodes entries →
      ¬document.Present (keyPath (start ++ keys))) :
    ∀ entry ∈ entries, entry.1.name ≠ name := by
  intro entry mem same
  apply clear _ _ (mem_nodes_of_mem mem)
  rw [same]
  exact taken

/-- Below another key the nodes have other paths. -/
theorem keyPath_ne_of_fresh {entries : YamlEntries} {start keys inside : List String}
    {found : YamlNode} {name : String} (startPlain : PlainKeys start)
    (wellFormed : YamlNode.WellFormed (.mapping entries))
    (fresh : ∀ entry ∈ entries, entry.1.name ≠ name) (plain : PlainKeys (name :: inside))
    (mem : (keys, found) ∈ nodes entries) :
    keyPath (start ++ keys) ≠ keyPath (start ++ name :: inside) := by
  intro same
  rcases exists_entry_of_mem_nodes mem with ⟨entry, entryMem, others, rfl⟩
  have heads : entry.1.name :: others = name :: inside :=
    keyPath_append_injective startPlain (plainKeys_of_mem_nodes wellFormed mem) plain
      (List.cons_ne_nil _ _) (List.cons_ne_nil _ _) same
  exact fresh entry entryMem (List.cons.inj heads).1

/-- A tree that is read can be flattened, and the document had none of its paths. -/
theorem wellFormed_of_readEntries {entries : YamlEntries} {start : List String}
    {document after : ConfigDocument}
    (read : readEntries entries (keyPath start) document = .ok after) :
    YamlNode.WellFormed (.mapping entries) ∧ ∀ keys found, (keys, found) ∈ nodes entries →
      ¬document.Present (keyPath (start ++ keys)) := by
  induction entries using YamlEntries.induction generalizing start document after with
  | nil => exact ⟨wellFormed_nil, by simp [nodes]⟩
  | leaf key value entries leaf ih =>
      rcases readEntries_cons_eq_ok_iff.mp read with ⟨plain, absent, between, readFirst, readRest⟩
      rcases (readValue_eq_ok_iff leaf).mp readFirst with ⟨setting, stored, rfl⟩
      rw [← keyPath_append_singleton] at absent readRest
      rcases ih readRest with ⟨wellFormed, clear⟩
      have kept : ∀ path, document.Present path ∨ path = keyPath (start ++ [key.name]) →
          (document.put (keyPath (start ++ [key.name])) setting).Present path :=
        fun path given => (ConfigDocument.present_put_iff absent).mpr given
      have fresh : ∀ entry ∈ entries, entry.1.name ≠ key.name :=
        fresh_of_clear (kept _ (.inr rfl)) clear
      refine ⟨wellFormed_cons_iff.mpr ⟨plain, stored.wellFormed leaf, fresh, wellFormed⟩, ?_⟩
      intro keys found mem present
      rcases mem_nodes_cons_iff.mp mem with ⟨rfl, _⟩ | ⟨inside, insideMem, _⟩ | later
      · exact absent present
      · rw [nodesInside_leaf leaf] at insideMem
        cases insideMem
      · exact clear keys found later (kept _ (.inl present))
  | nested key inner entries ihInner ih =>
      rcases readEntries_cons_eq_ok_iff.mp read with ⟨plain, absent, between, readFirst, readRest⟩
      rw [← keyPath_append_singleton] at absent readFirst
      have innerRead : readEntries inner (keyPath (start ++ [key.name]))
          (document.put (keyPath (start ++ [key.name])) .mapping) = .ok between := readFirst
      rcases ihInner innerRead with ⟨innerWellFormed, innerClear⟩
      rcases ih readRest with ⟨wellFormed, clear⟩
      have kept : ∀ path, document.Present path ∨ path = keyPath (start ++ [key.name]) →
          between.Present path := fun path given =>
        present_mono_of_readEntries innerRead ((ConfigDocument.present_put_iff absent).mpr given)
      have fresh : ∀ entry ∈ entries, entry.1.name ≠ key.name :=
        fresh_of_clear (kept _ (.inr rfl)) clear
      refine ⟨wellFormed_cons_iff.mpr ⟨plain, innerWellFormed, fresh, wellFormed⟩, ?_⟩
      intro keys found mem present
      rcases mem_nodes_cons_iff.mp mem with ⟨rfl, _⟩ | ⟨inside, insideMem, rfl⟩ | later
      · exact absent present
      · apply innerClear inside found insideMem
        rw [List.append_assoc]
        exact (ConfigDocument.present_put_iff absent).mpr (.inl present)
      · exact clear keys found later (kept _ (.inl present))

/-- A tree that can be flattened is read into any document that has none of its paths. -/
theorem exists_readEntries {entries : YamlEntries} {start : List String}
    {document : ConfigDocument} (startPlain : PlainKeys start)
    (wellFormed : YamlNode.WellFormed (.mapping entries))
    (clear : ∀ keys found, (keys, found) ∈ nodes entries →
      ¬document.Present (keyPath (start ++ keys))) :
    ∃ after, readEntries entries (keyPath start) document = .ok after := by
  induction entries using YamlEntries.induction generalizing start document with
  | nil => exact ⟨document, rfl⟩
  | leaf key value entries leaf ih =>
      rcases wellFormed_cons_iff.mp wellFormed with ⟨plain, valueWellFormed, fresh, rest⟩
      rcases valueWellFormed.exists_stored with ⟨setting, stored⟩
      have absent : ¬document.Present (keyPath (start ++ [key.name])) :=
        clear _ _ (mem_nodes_of_mem List.mem_cons_self)
      have restClear : ∀ keys found, (keys, found) ∈ nodes entries →
          ¬(document.put (keyPath (start ++ [key.name])) setting).Present
            (keyPath (start ++ keys)) := by
        intro keys found mem present
        rcases (ConfigDocument.present_put_iff absent).mp present with given | same
        · exact clear keys found (mem_nodes_cons_iff.mpr (.inr (.inr mem))) given
        · exact keyPath_ne_of_fresh startPlain rest fresh plain.singleton mem same
      rcases ih startPlain rest restClear with ⟨after, read⟩
      rw [keyPath_append_singleton] at absent read
      exact ⟨after, readEntries_cons_eq_ok_iff.mpr
        ⟨plain, absent, _, (readValue_eq_ok_iff leaf).mpr ⟨setting, stored, rfl⟩, read⟩⟩
  | nested key inner entries ihInner ih =>
      rcases wellFormed_cons_iff.mp wellFormed with ⟨plain, innerWellFormed, fresh, rest⟩
      have absent : ¬document.Present (keyPath (start ++ [key.name])) :=
        clear _ _ (mem_nodes_of_mem List.mem_cons_self)
      have innerClear : ∀ keys found, (keys, found) ∈ nodes inner →
          ¬(document.put (keyPath (start ++ [key.name])) .mapping).Present
            (keyPath (start ++ [key.name] ++ keys)) := by
        intro keys found mem present
        rw [List.append_assoc] at present
        rcases (ConfigDocument.present_put_iff absent).mp present with given | same
        · exact clear _ found (mem_nodes_cons_iff.mpr (.inr (.inl ⟨keys, mem, rfl⟩))) given
        · have single : key.name :: keys = [key.name] :=
            keyPath_append_injective startPlain
              (plain.singleton.append (plainKeys_of_mem_nodes innerWellFormed mem))
              plain.singleton (List.cons_ne_nil _ _) (List.cons_ne_nil _ _) same
          exact ne_nil_of_mem_nodes mem (List.cons.inj single).2
      rcases ihInner (startPlain.append plain.singleton) innerWellFormed innerClear with
        ⟨between, innerRead⟩
      have restClear : ∀ keys found, (keys, found) ∈ nodes entries →
          ¬between.Present (keyPath (start ++ keys)) := by
        intro keys found mem present
        rcases present_cases_of_readEntries innerRead present with earlier | inInner
        · rcases (ConfigDocument.present_put_iff absent).mp earlier with given | same
          · exact clear keys found (mem_nodes_cons_iff.mpr (.inr (.inr mem))) given
          · exact keyPath_ne_of_fresh startPlain rest fresh plain.singleton mem same
        · rcases inInner with ⟨inside, other, insideMem, same⟩
          rw [List.append_assoc] at same
          exact keyPath_ne_of_fresh startPlain rest fresh
            (plain.singleton.append (plainKeys_of_mem_nodes innerWellFormed insideMem)) mem same
      rcases ih startPlain rest restClear with ⟨after, read⟩
      rw [keyPath_append_singleton] at absent innerRead
      exact ⟨after, readEntries_cons_eq_ok_iff.mpr ⟨plain, absent, between, innerRead, read⟩⟩

/-! ### Reading the tree back -/

mutual

/-- The same tree up to the order of siblings. -/
inductive YamlNode.Same : YamlNode → YamlNode → Prop where
  | refl (node : YamlNode) : YamlNode.Same node node
  | mapping {left middle right : YamlEntries} (same : SameEntries left middle)
      (order : middle.Perm right) : YamlNode.Same (.mapping left) (.mapping right)

inductive SameEntries : YamlEntries → YamlEntries → Prop where
  | nil : SameEntries [] []
  | cons {key : YamlKey} {value other : YamlNode} {left right : YamlEntries}
      (sameValue : YamlNode.Same value other) (same : SameEntries left right) :
      SameEntries ((key, value) :: left) ((key, other) :: right)

end

/-- Under the keys stands a node for which a document stores the setting. -/
def Shows (entries : YamlEntries) (keys : List String) (setting : Setting) : Prop :=
  ∃ found, (keys, found) ∈ nodes entries ∧ found.Stored setting

theorem mem_nodes_iff {entries : YamlEntries} {keys : List String} {found : YamlNode} :
    (keys, found) ∈ nodes entries ↔ ∃ entry ∈ entries, (keys = [entry.1.name] ∧ found = entry.2) ∨
      ∃ inside, (inside, found) ∈ nodesInside entry.2 ∧ keys = entry.1.name :: inside := by
  induction entries with
  | nil => simp [nodes]
  | cons entry entries ih => rw [mem_nodes_cons_iff, ih, List.exists_mem_cons_iff, or_assoc]

theorem shows_congr_of_perm {left right : YamlEntries} (order : left.Perm right)
    (keys : List String) (setting : Setting) :
    Shows left keys setting ↔ Shows right keys setting := by
  simp only [Shows, mem_nodes_iff, order.mem_iff]

theorem YamlNode.WellFormed.perm {left right : YamlEntries}
    (wellFormed : YamlNode.WellFormed (.mapping left)) (order : left.Perm right) :
    YamlNode.WellFormed (.mapping right) := by
  cases wellFormed with
  | mapping unique plain values =>
      apply YamlNode.WellFormed.mapping
      · exact (order.map _).nodup_iff.mp unique
      · intro entry mem
        exact plain entry (order.mem_iff.mpr mem)
      · intro entry mem
        exact values entry (order.mem_iff.mpr mem)

/-- Below the first key the document has the nodes of its value. -/
theorem shows_inside_iff {key : YamlKey} {inner entries : YamlEntries}
    (wellFormed : YamlNode.WellFormed (.mapping ((key, .mapping inner) :: entries)))
    (inside : List String) (setting : Setting) :
    Shows inner inside setting ↔
      inside ≠ [] ∧ Shows ((key, .mapping inner) :: entries) (key.name :: inside) setting := by
  rcases wellFormed_cons_iff.mp wellFormed with ⟨_, _, fresh, _⟩
  constructor
  · rintro ⟨found, mem, stored⟩
    exact ⟨ne_nil_of_mem_nodes mem, found,
      mem_nodes_cons_iff.mpr (.inr (.inl ⟨inside, mem, rfl⟩)), stored⟩
  · rintro ⟨nonempty, found, mem, stored⟩
    rcases mem_nodes_cons_iff.mp mem with ⟨same, _⟩ | ⟨others, othersMem, same⟩ | later
    · exact absurd (List.cons.inj same).2 nonempty
    · rw [(List.cons.inj same).2]
      exact ⟨found, othersMem, stored⟩
    · rcases exists_entry_of_mem_nodes later with ⟨entry, entryMem, others, same⟩
      exact absurd (List.cons.inj same).1.symm (fresh entry entryMem)

/-- The nodes that are not below the first key are those of the other entries. -/
theorem shows_rest_iff {key : YamlKey} {value : YamlNode} {entries : YamlEntries}
    (wellFormed : YamlNode.WellFormed (.mapping ((key, value) :: entries)))
    (keys : List String) (setting : Setting) :
    Shows entries keys setting ↔
      keys.head? ≠ some key.name ∧ Shows ((key, value) :: entries) keys setting := by
  rcases wellFormed_cons_iff.mp wellFormed with ⟨_, _, fresh, _⟩
  constructor
  · rintro ⟨found, mem, stored⟩
    refine ⟨?_, found, mem_nodes_cons_iff.mpr (.inr (.inr mem)), stored⟩
    rcases exists_entry_of_mem_nodes mem with ⟨entry, entryMem, others, rfl⟩
    simpa using fresh entry entryMem
  · rintro ⟨other, found, mem, stored⟩
    rcases mem_nodes_cons_iff.mp mem with ⟨rfl, _⟩ | ⟨inside, _, rfl⟩ | later
    · exact absurd rfl other
    · exact absurd rfl other
    · exact ⟨found, later, stored⟩

theorem YamlKey.Plain.eq_of_name {left right : YamlKey} (leftPlain : left.Plain)
    (rightPlain : right.Plain) (same : left.name = right.name) : left = right := by
  have sameTag : left.keyTag = right.keyTag := leftPlain.untagged.trans rightPlain.untagged.symm
  have sameMarks : left.marks = right.marks :=
    (YamlMarks.eq_of_any_eq_false leftPlain.unmarked).trans
      (YamlMarks.eq_of_any_eq_false rightPlain.unmarked).symm
  cases left
  cases right
  simp_all

/-- An entry of one tree is found in every tree that shows the same, among other entries. -/
theorem exists_counterpart {key : YamlKey} {value : YamlNode} {left right : YamlEntries}
    {setting : Setting} (stored : value.Stored setting)
    (leftWellFormed : YamlNode.WellFormed (.mapping ((key, value) :: left)))
    (rightWellFormed : YamlNode.WellFormed (.mapping right))
    (same : ∀ keys setting, Shows ((key, value) :: left) keys setting ↔ Shows right keys setting) :
    ∃ found rest, ((key, found) :: rest).Perm right ∧ found.Stored setting := by
  rcases (same [key.name] setting).mp ⟨value, mem_nodes_of_mem List.mem_cons_self, stored⟩ with
    ⟨found, mem, foundStored⟩
  rcases mem_nodes_iff.mp mem with
    ⟨⟨other, node⟩, entryMem, ⟨single, isNode⟩ | ⟨inside, insideMem, below⟩⟩
  · cases rightWellFormed with
    | mapping unique plain values =>
        have sameKey : key = other :=
          (wellFormed_cons_iff.mp leftWellFormed).1.eq_of_name (plain _ entryMem)
            (List.cons.inj single).1
        subst sameKey
        rcases List.append_of_mem entryMem with ⟨front, back, rfl⟩
        rw [isNode] at foundStored
        exact ⟨node, front ++ back, List.perm_middle.symm, foundStored⟩
  · cases node with
    | mapping inner => exact absurd (List.cons.inj below).2.symm (ne_nil_of_mem_nodes insideMem)
    | sequence items => cases insideMem
    | scalar value => cases insideMem
    | null => cases insideMem

theorem exists_same_of_shows {left right : YamlEntries}
    (leftWellFormed : YamlNode.WellFormed (.mapping left))
    (rightWellFormed : YamlNode.WellFormed (.mapping right))
    (same : ∀ keys setting, Shows left keys setting ↔ Shows right keys setting) :
    ∃ middle, SameEntries left middle ∧ middle.Perm right := by
  induction left using YamlEntries.induction generalizing right with
  | nil =>
      cases right with
      | nil => exact ⟨[], .nil, .nil⟩
      | cons entry right =>
          rcases (wellFormed_cons_iff.mp rightWellFormed).2.1.exists_stored with ⟨setting, stored⟩
          rcases (same [entry.1.name] setting).mpr
            ⟨entry.2, mem_nodes_of_mem List.mem_cons_self, stored⟩ with ⟨found, mem, _⟩
          cases mem
  | leaf key value left leaf ih =>
      rcases wellFormed_cons_iff.mp leftWellFormed with ⟨_, valueWellFormed, _, leftRest⟩
      rcases valueWellFormed.exists_stored with ⟨setting, stored⟩
      rcases exists_counterpart stored leftWellFormed rightWellFormed same with
        ⟨found, rest, order, foundStored⟩
      obtain rfl : value = found := stored.unique foundStored leaf
      have orderedWellFormed := rightWellFormed.perm order.symm
      have restSame : ∀ keys setting, Shows left keys setting ↔ Shows rest keys setting := by
        intro keys setting
        rw [shows_rest_iff leftWellFormed, shows_rest_iff orderedWellFormed, same,
          shows_congr_of_perm order]
      rcases ih leftRest (wellFormed_cons_iff.mp orderedWellFormed).2.2.2 restSame with
        ⟨middle, sameMiddle, middleOrder⟩
      exact ⟨(key, value) :: middle, .cons (.refl value) sameMiddle,
        (middleOrder.cons _).trans order⟩
  | nested key inner left ihInner ih =>
      rcases wellFormed_cons_iff.mp leftWellFormed with ⟨_, innerWellFormed, _, leftRest⟩
      rcases exists_counterpart (.mapping inner) leftWellFormed rightWellFormed same with
        ⟨found, rest, order, foundStored⟩
      cases foundStored with
      | mapping other =>
      have orderedWellFormed := rightWellFormed.perm order.symm
      rcases wellFormed_cons_iff.mp orderedWellFormed with ⟨_, otherWellFormed, _, rightRest⟩
      have innerSame : ∀ keys setting, Shows inner keys setting ↔ Shows other keys setting := by
        intro keys setting
        rw [shows_inside_iff leftWellFormed, shows_inside_iff orderedWellFormed, same,
          shows_congr_of_perm order]
      have restSame : ∀ keys setting, Shows left keys setting ↔ Shows rest keys setting := by
        intro keys setting
        rw [shows_rest_iff leftWellFormed, shows_rest_iff orderedWellFormed, same,
          shows_congr_of_perm order]
      rcases ihInner innerWellFormed otherWellFormed innerSame with
        ⟨inside, sameInside, insideOrder⟩
      rcases ih leftRest rightRest restSame with ⟨middle, sameMiddle, middleOrder⟩
      exact ⟨(key, .mapping other) :: middle,
        .cons (.mapping sameInside insideOrder) sameMiddle, (middleOrder.cons _).trans order⟩

/-! ### Documents and trees -/

theorem ConfigDocument.not_holds_empty (path : String) (setting : Setting) :
    ¬({} : ConfigDocument).Holds path setting := by
  cases setting <;> simp [ConfigDocument.Holds]

theorem readMapping_eq_ok_iff {root : YamlNode} {document : ConfigDocument} :
    readMapping root "" {} = .ok document ↔
      ∃ entries, root = .mapping entries ∧ readEntries entries (keyPath []) {} = .ok document := by
  cases root with
  | mapping entries => simp [readMapping, keyPath]
  | sequence items => simp [readMapping]
  | scalar value => simp [readMapping]
  | null => simp [readMapping]

theorem exists_readMapping_iff {root : YamlNode} :
    (∃ document, readMapping root "" {} = .ok document) ↔
      (∃ entries, root = .mapping entries) ∧ root.WellFormed := by
  have absent : ∀ path, ¬({} : ConfigDocument).Present path := by
    intro path present
    rcases ConfigDocument.present_iff.mp present with ⟨setting, holds⟩
    exact ConfigDocument.not_holds_empty path setting holds
  have plain : PlainKeys [] := by simp [PlainKeys]
  constructor
  · rintro ⟨document, read⟩
    rcases readMapping_eq_ok_iff.mp read with ⟨entries, rfl, readAll⟩
    exact ⟨⟨entries, rfl⟩, (wellFormed_of_readEntries readAll).1⟩
  · rintro ⟨⟨entries, rfl⟩, wellFormed⟩
    rcases exists_readEntries plain wellFormed fun keys _ _ => absent _ with ⟨document, readAll⟩
    exact ⟨document, readMapping_eq_ok_iff.mpr ⟨entries, rfl, readAll⟩⟩

theorem holds_of_readMapping {entries : YamlEntries} {document : ConfigDocument}
    (read : readMapping (.mapping entries) "" {} = .ok document) (path : String)
    (setting : Setting) :
    document.Holds path setting ↔
      ∃ keys found, (keys, found) ∈ nodes entries ∧ path = keyPath keys ∧ found.Stored setting := by
  have readAll : readEntries entries (keyPath []) {} = .ok document := read
  simpa [ConfigDocument.not_holds_empty] using holds_of_readEntries readAll path setting

/-- What one tree shows, a tree with the same document shows as well. -/
theorem shows_of_same_holds {left right : YamlEntries} {document other : ConfigDocument}
    (read : readMapping (.mapping left) "" {} = .ok document)
    (otherRead : readMapping (.mapping right) "" {} = .ok other)
    (same : document.Holds = other.Holds) {keys : List String} {setting : Setting}
    (shown : Shows left keys setting) : Shows right keys setting := by
  rcases shown with ⟨found, mem, stored⟩
  have holds : document.Holds (keyPath keys) setting :=
    (holds_of_readMapping read _ _).mpr ⟨keys, found, mem, rfl, stored⟩
  rw [same] at holds
  rcases (holds_of_readMapping otherRead _ _).mp holds with
    ⟨others, counterpart, otherMem, samePath, otherStored⟩
  have leftWellFormed := (exists_readMapping_iff.mp ⟨document, read⟩).2
  have rightWellFormed := (exists_readMapping_iff.mp ⟨other, otherRead⟩).2
  obtain rfl : keys = others :=
    keyPath_injective (plainKeys_of_mem_nodes leftWellFormed mem)
      (plainKeys_of_mem_nodes rightWellFormed otherMem) (ne_nil_of_mem_nodes mem)
      (ne_nil_of_mem_nodes otherMem) samePath
  exact ⟨counterpart, otherMem, otherStored⟩

/-- Trees with the same document are the same. -/
theorem same_of_same_holds {left right : YamlNode} {document other : ConfigDocument}
    (read : readMapping left "" {} = .ok document)
    (otherRead : readMapping right "" {} = .ok other) (same : document.Holds = other.Holds) :
    left.Same right := by
  rcases exists_readMapping_iff.mp ⟨document, read⟩ with ⟨⟨entries, rfl⟩, leftWellFormed⟩
  rcases exists_readMapping_iff.mp ⟨other, otherRead⟩ with ⟨⟨others, rfl⟩, rightWellFormed⟩
  have shown : ∀ keys setting, Shows entries keys setting ↔ Shows others keys setting := by
    intro keys setting
    exact ⟨shows_of_same_holds read otherRead same, shows_of_same_holds otherRead read same.symm⟩
  rcases exists_same_of_shows leftWellFormed rightWellFormed shown with ⟨middle, sameEntries, order⟩
  exact .mapping sameEntries order

/-- A tree is read if and only if it can be flattened.  Every node then gets a path of its own, and
what the document holds determines the tree. -/
theorem flattening_loses_nothing :
    (∀ root, (∃ document, readMapping root "" {} = .ok document) ↔
      (∃ entries, root = .mapping entries) ∧ root.WellFormed) ∧
    (∀ entries document, readMapping (.mapping entries) "" {} = .ok document →
      ((nodes entries).map fun node => keyPath node.1).Nodup ∧
        ∀ path setting, document.Holds path setting ↔
          ∃ keys found, (keys, found) ∈ nodes entries ∧ path = keyPath keys ∧
            found.Stored setting) ∧
    ∃ rebuild : (String → Setting → Prop) → YamlNode, ∀ root document,
      readMapping root "" {} = .ok document → (rebuild document.Holds).Same root := by
  refine ⟨fun root => exists_readMapping_iff, ?_, ?_⟩
  · intro entries document read
    have wellFormed := (exists_readMapping_iff.mp ⟨document, read⟩).2
    exact ⟨nodup_paths_of_wellFormed wellFormed, holds_of_readMapping read⟩
  · have pick : ∀ holds : String → Setting → Prop, ∃ tree : YamlNode, ∀ root document,
        readMapping root "" {} = .ok document → document.Holds = holds → tree.Same root := by
      intro holds
      by_cases given : ∃ tree document,
          readMapping tree "" {} = .ok document ∧ document.Holds = holds
      · rcases given with ⟨tree, document, read, isHolds⟩
        refine ⟨tree, ?_⟩
        intro root other otherRead otherHolds
        exact same_of_same_holds read otherRead (isHolds.trans otherHolds.symm)
      · refine ⟨.null, ?_⟩
        intro root document read isHolds
        exact absurd ⟨root, document, read, isHolds⟩ given
    choose rebuild rebuilds using pick
    exact ⟨rebuild, fun root document read => rebuilds document.Holds root document read rfl⟩

end RobotManager
