import Mathlib.Data.List.Perm.Basic
import ModuleBundler.Proofs.Linking.Shadowing
import ModuleBundler.Proofs.Script.Mentions

/-!
# Names that do not get in each other's way

The body of a factory declares the names of its module, with those of imports as constants, and
temporary constants. What linking inserts refers to the parameters `require` and `exports` and to
temporary constants. Nobody checks that these names differ from those of the module: they do if the
module has no name of a temporary constant that is needed, and declares none of the parameters that
are used.

## Main definitions

* `Insertion.declaredNames`, `Insertion.parameters` — the names that a statement declares, and the
  parameters that it refers to.
* `Group.Hygienic` — names that do not get in each other's way.
* `Avoids` — the module does without the names that linking uses.
* `NamesDetermined` — what may be said of the names in linked code.

## Main results

* `temporary_injective` — temporary constants have different names.
* `Group.bodyNames_groups_perm` — what the body of a factory declares.
* `namesDetermined_of_analyzeChars` — linked code is hygienic if and only if the module avoids the
  names that linking uses.
* `exists_not_hygienic` — there are modules that do not.
-/

namespace ModuleBundler.Linking

open Script Text

/-! ### The names of inserted statements -/

/-- The function that loads modules. -/
def requireFunction : Name :=
  "require".toList

/-- The parameters of a factory. -/
def factoryParameters : List Name :=
  [requireFunction, "module".toList, exportsObject]

/-- The names that the target of a declaration declares. -/
def Target.names : Target → List Name
  | name localName => [localName]
  | temporary index => [Linking.temporary index]
  | pattern entries => entries.map ImportedName.localName

/-- The names that a statement declares. -/
def Insertion.declaredNames : Insertion → List Name
  | declare target _ => target.names
  | evaluate _ | assign _ _ | copyAll _ | openDefault | closeDefault => []

/-- The parameters that a value refers to. -/
def Value.parameters : Value → List Name
  | name _ | temporary _ => []
  | required _ => [requireFunction]
  | member object _ => object.parameters

/-- The parameters that a statement refers to. -/
def Insertion.parameters : Insertion → List Name
  | evaluate value | declare _ value => value.parameters
  | assign _ value => exportsObject :: value.parameters
  | copyAll _ => [exportsObject, requireFunction]
  | openDefault => [exportsObject]
  | closeDefault => []

/-- The names of temporary constants differ, as their numbers do. -/
theorem temporary_injective : Function.Injective temporary := by
  intro i j h
  have hdigits : Nat.toDigits 10 i = Nat.toDigits 10 j := List.append_cancel_left h
  rw [← Nat.ofDigitChars_ten_toDigits (n := i), hdigits, Nat.ofDigitChars_ten_toDigits]

/-- No temporary constant has the name of a parameter. -/
theorem temporary_notMem_factoryParameters (index : Nat) :
    temporary index ∉ factoryParameters := by
  intro h
  have hhead : (temporary index).head? ∈ factoryParameters.map List.head? := List.mem_map_of_mem h
  rw [show (temporary index).head? = some '_' from rfl] at hhead
  revert hhead
  decide

namespace Group

variable {next : Nat} {item : Item} {items : List Item}

/-- The names of the temporary constants of a group that is numbered from zero. -/
def temporaryNames (group : Group) : List Name :=
  (List.range group.temporaries).map temporary

/-- The names that the inserted statements declare. -/
def insertedNames (group : Group) : List Name :=
  group.statements.flatMap Insertion.declaredNames

/-- The names that the body of a factory declares: those of declarations that stay, and those of
inserted statements. -/
def bodyNames (group : Group) (items : List Item) : List Name :=
  items.flatMap Item.ownNames ++ group.insertedNames

/-- Those of them that may be declared once only; inserted statements declare constants. -/
def bodyLexicalNames (group : Group) (items : List Item) : List Name :=
  items.flatMap Item.ownLexicalNames ++ group.insertedNames

/-! ### What a body declares -/

/-- Deferred exports declare nothing. -/
theorem insertedNames_eq (group : Group) :
    group.insertedNames = group.insertions.flatMap Insertion.declaredNames := by
  have hdeferred : (group.deferred.map deferredAssignment).flatMap Insertion.declaredNames = [] :=
    List.flatMap_eq_nil_iff.mpr fun insertion hmem => by
      obtain ⟨entry, -, rfl⟩ := List.mem_map.mp hmem
      rfl
  rw [insertedNames, statements, List.flatMap_append, hdeferred, List.append_nil]

theorem insertedNames_append (first second : Group) :
    (first.append second).insertedNames = first.insertedNames ++ second.insertedNames := by
  rw [insertedNames_eq, insertions_append, List.flatMap_append, ← insertedNames_eq,
    ← insertedNames_eq]

/-- An import declares its names, behind a temporary constant if it needs one. -/
theorem declaredNames_importStatements_perm (next : Nat) (specifier : Name)
    (clause : ImportClause) :
    ((importStatements next specifier clause).1.flatMap Insertion.declaredNames).Perm
      (clause.localNames ++
        (List.range' next (importStatements next specifier clause).2).map temporary) := by
  obtain ⟨defaultName, moduleName, named⟩ := clause
  rcases defaultName with _ | defaultName <;> rcases moduleName with _ | moduleName <;>
    rcases named with _ | ⟨entry, named⟩ <;>
    simp only [importStatements, ImportClause.localNames, Insertion.declaredNames, Target.names,
      List.flatMap_cons, List.flatMap_nil, Option.toList, List.map_nil, List.map_cons,
      List.range'_zero, List.range'_one, List.append_nil, List.nil_append, List.isEmpty_nil,
      List.isEmpty_cons, if_true, Bool.false_eq_true, if_false, List.cons_append]
  all_goals first | exact .refl _ | exact (List.perm_append_singleton _ _).symm

/-- In the place of an item, its imported names are declared, and the temporary constants that it
needs. -/
theorem insertedNames_ofItem_perm : (ofItem next item).insertedNames.Perm
    (item.importedNames ++ (List.range' next (ofItem next item).temporaries).map temporary) := by
  rw [insertedNames_eq]
  match item with
  | .statement _ _ => exact .refl _
  | .exporting ⟨_, .all _ none⟩ | .exporting ⟨_, .all _ (some _)⟩ => exact .refl _
  | .exporting ⟨_, .names _⟩ | .exporting ⟨_, .declaration _ _⟩ => exact .refl _
  | .importing ⟨span, phase, specifier, clause⟩ =>
    have hinsertions : (ofItem next (.importing ⟨span, phase, specifier, clause⟩)).insertions =
        (importStatements next specifier clause).1 := List.flatMap_singleton ..
    rw [hinsertions]
    exact declaredNames_importStatements_perm next specifier clause
  | .exporting ⟨_, .fromModule specifier entries⟩ =>
    have hassigned : (entries.map fun entry => Insertion.assign entry.exported
        (.member (.temporary next) entry.localName)).flatMap Insertion.declaredNames = [] := by
      refine List.flatMap_eq_nil_iff.mpr fun insertion hmem => ?_
      obtain ⟨entry, -, rfl⟩ := List.mem_map.mp hmem
      rfl
    show ((fromStatements next specifier entries ++ []).flatMap _).Perm [temporary next]
    rw [List.append_nil, fromStatements, List.flatMap_cons, hassigned]
    exact .refl _
  | .exporting ⟨span, .defaultValue valueSpan node⟩ =>
    show ((ofDefault span.start valueSpan node).insertions.flatMap _).Perm
      ([] ++ (List.range' next (ofDefault span.start valueSpan node).temporaries).map _)
    unfold ofDefault
    split
    · split <;> exact .refl _
    · exact .refl _

/-- Inserted statements declare the imported names and the temporary constants, each as often as
the items import them and need them. -/
theorem insertedNames_groups_perm : (groups next items).insertedNames.Perm
    (items.flatMap Item.importedNames ++
      (List.range' next (groups next items).temporaries).map temporary) := by
  induction items generalizing next with
  | nil => exact .refl _
  | cons item items ih =>
    set first := ofItem next item with hfirst
    set rest := groups (next + first.temporaries) items with hrest
    have htemporaries : (List.range' next (first.temporaries + rest.temporaries)).map temporary =
        (List.range' next first.temporaries).map temporary ++
          (List.range' (next + first.temporaries) rest.temporaries).map temporary := by
      rw [← List.map_append, List.range'_append_1]
    show (first.append rest).insertedNames.Perm
      ((item :: items).flatMap Item.importedNames ++
        (List.range' next (first.temporaries + rest.temporaries)).map temporary)
    rw [insertedNames_append, htemporaries, List.flatMap_cons]
    refine (insertedNames_ofItem_perm.append ih).trans ?_
    rw [List.append_assoc, List.append_assoc]
    refine List.Perm.append_left _ ?_
    rw [← List.append_assoc, ← List.append_assoc]
    exact List.perm_append_comm.append_right _

theorem insertedNames_perm (items : List Item) : (groups 0 items).insertedNames.Perm
    (items.flatMap Item.importedNames ++ (groups 0 items).temporaryNames) := by
  rw [temporaryNames, List.range_eq_range']
  exact insertedNames_groups_perm

/-- **What the body of a factory declares**: the names that the module declares, and the temporary
constants. -/
theorem bodyNames_groups_perm (items : List Item) : ((groups 0 items).bodyNames items).Perm
    (items.flatMap Item.declaredNames ++ (groups 0 items).temporaryNames) := by
  refine ((insertedNames_perm items).append_left _).trans ?_
  rw [← List.append_assoc]
  exact (List.perm_append_comm.trans (List.flatMap_append_perm items _ _)).append_right _

theorem bodyLexicalNames_groups_perm (items : List Item) :
    ((groups 0 items).bodyLexicalNames items).Perm
      (items.flatMap Item.lexicalNames ++ (groups 0 items).temporaryNames) := by
  refine ((insertedNames_perm items).append_left _).trans ?_
  rw [← List.append_assoc]
  exact (List.perm_append_comm.trans (List.flatMap_append_perm items _ _)).append_right _

theorem nodup_temporaryNames (group : Group) : group.temporaryNames.Nodup :=
  List.nodup_range.map temporary_injective

/-! ### What inserted statements refer to -/

/-- The parameters that inserted statements refer to. -/
def parameters (group : Group) : List Name :=
  group.statements.flatMap Insertion.parameters

end Group

/-- A value refers to no parameter but the function that loads modules. -/
theorem Value.eq_of_mem_parameters {value : Value} {name : Name} (h : name ∈ value.parameters) :
    name = requireFunction := by
  induction value with
  | name | temporary => exact absurd h List.not_mem_nil
  | required => exact List.mem_singleton.mp h
  | member _ _ ih => exact ih h

theorem exportsObject_ne_requireFunction : exportsObject ≠ requireFunction := by
  decide

theorem Value.exportsObject_notMem_parameters (value : Value) :
    exportsObject ∉ value.parameters := fun h =>
  exportsObject_ne_requireFunction (Value.eq_of_mem_parameters h)

namespace Insertion

theorem eq_of_mem_parameters {insertion : Insertion} {name : Name}
    (h : name ∈ insertion.parameters) : name = requireFunction ∨ name = exportsObject := by
  cases insertion with
  | evaluate | declare => exact .inl (Value.eq_of_mem_parameters h)
  | assign => exact (List.mem_cons.mp h).symm.imp_left Value.eq_of_mem_parameters
  | copyAll => simpa [parameters, or_comm] using h
  | openDefault => exact .inr (List.mem_singleton.mp h)
  | closeDefault => exact absurd h List.not_mem_nil

/-- What refers to the exports writes one of them, or copies some. -/
theorem exportsObject_mem_parameters_iff {insertion : Insertion} :
    exportsObject ∈ insertion.parameters ↔
      (∃ name, insertion.exported? = some name) ∨ ∃ specifier, insertion = copyAll specifier := by
  cases insertion with
  | evaluate value | declare _ value =>
    simpa [parameters, exported?] using value.exportsObject_notMem_parameters
  | assign | copyAll | openDefault | closeDefault => simp [parameters, exported?]

end Insertion

namespace Group

variable {next : Nat} {item : Item} {items : List Item} {group : Group}

theorem mem_parameters_iff {name : Name} :
    name ∈ group.parameters ↔ (∃ insertion ∈ group.insertions, name ∈ insertion.parameters) ∨
      ∃ entry ∈ group.deferred, name ∈ (deferredAssignment entry).parameters := by
  simp [parameters, statements]

/-- Deferred exports load nothing. -/
theorem requireFunction_mem_parameters_iff : requireFunction ∈ group.parameters ↔
    ∃ insertion ∈ group.insertions, requireFunction ∈ insertion.parameters := by
  rw [mem_parameters_iff]
  refine or_iff_left ?_
  rintro ⟨entry, -, h⟩
  have hsame : requireFunction = exportsObject := List.mem_singleton.mp h
  exact exportsObject_ne_requireFunction hsame.symm

/-- What stands in the place of an item loads a module if the item refers to one. -/
theorem exists_requires_ofItem_iff :
    (∃ insertion ∈ (ofItem next item).insertions, requireFunction ∈ insertion.parameters) ↔
      (ofItem next item).specifiers ≠ [] := by
  match item with
  | .statement _ _ => simp [ofItem, insertions, empty]
  | .exporting ⟨_, .all _ none⟩ =>
    simp [ofItem, ofExport, insertions, Insertion.parameters]
  | .exporting ⟨_, .all _ (some _)⟩ =>
    simp [ofItem, ofExport, insertions, Insertion.parameters, Value.parameters]
  | .exporting ⟨_, .names _⟩ | .exporting ⟨_, .declaration _ _⟩ =>
    simp [ofItem, ofExport, insertions]
  | .exporting ⟨_, .fromModule _ _⟩ =>
    simp [ofItem, ofExport, insertions, fromStatements, Insertion.parameters, Value.parameters]
  | .importing ⟨_, _, specifier, defaultName, moduleName, named⟩ =>
    rcases defaultName with _ | defaultName <;> rcases moduleName with _ | moduleName <;>
      rcases named with _ | ⟨entry, named⟩ <;>
      simp [ofItem, ofImport, importStatements, insertions, Insertion.parameters, Value.parameters]
  | .exporting ⟨span, .defaultValue valueSpan node⟩ =>
    have hnone : requireFunction ≠ exportsObject := exportsObject_ne_requireFunction.symm
    simp only [ofItem, ofExport, ofDefault, insertions]
    split
    · split <;> simp [Insertion.parameters, hnone]
    · simp [Insertion.parameters, hnone]

/-- Inserted statements load modules if the items refer to any. -/
theorem requireFunction_mem_parameters_groups_iff :
    requireFunction ∈ (groups next items).parameters ↔ (groups next items).specifiers ≠ [] := by
  rw [requireFunction_mem_parameters_iff]
  induction items generalizing next with
  | nil => simp [groups, insertions, empty]
  | cons item items ih =>
    have hspecifiers : (groups next (item :: items)).specifiers ≠ [] ↔
        (ofItem next item).specifiers ≠ [] ∨
          (groups (next + (ofItem next item).temporaries) items).specifiers ≠ [] := by
      rw [groups, append, ne_eq, List.append_eq_nil_iff, not_and_or]
    rw [hspecifiers, ← exists_requires_ofItem_iff, ← ih, groups, insertions_append]
    simp [or_and_right, exists_or]

/-- Deferred exports copy nothing. -/
theorem copyAll_mem_statements_iff {specifier : Name} :
    .copyAll specifier ∈ group.statements ↔ .copyAll specifier ∈ group.insertions := by
  simp [statements, deferredAssignment]

/-- What refers to the exports are statements that write one of them and those that copy some. -/
theorem exportsObject_mem_parameters_iff : exportsObject ∈ group.parameters ↔
    group.exportedNames ≠ [] ∨ ∃ specifier, .copyAll specifier ∈ group.insertions := by
  have hnames : group.exportedNames ≠ [] ↔
      ∃ insertion ∈ group.statements, ∃ name, insertion.exported? = some name := by
    simp [exportedNames, Option.ne_none_iff_exists']
  have hcopies : (∃ specifier, .copyAll specifier ∈ group.insertions) ↔
      ∃ insertion ∈ group.statements, ∃ specifier, insertion = .copyAll specifier := by
    simp [← copyAll_mem_statements_iff]
  rw [hnames, hcopies, parameters, List.mem_flatMap]
  simp only [Insertion.exportsObject_mem_parameters_iff, and_or_left, exists_or]

/-- Inserted statements refer to the exports if the items export something. -/
theorem exportsObject_mem_parameters_groups_iff :
    exportsObject ∈ (groups next items).parameters ↔
      items.flatMap Item.exportedNames ≠ [] ∨
        ∃ specifier span, .exporting ⟨span, .all specifier none⟩ ∈ items := by
  have hnil : (groups next items).exportedNames = [] ↔ items.flatMap Item.exportedNames = [] := by
    rw [← List.length_eq_zero_iff, ← List.length_eq_zero_iff, exportedNames_groups_perm.length_eq]
  rw [exportsObject_mem_parameters_iff, ne_eq, hnil]
  simp only [copyAll_mem_insertions_groups]

/-! ### Hygiene -/

/-- The names in the body of a factory do not get in each other's way: temporary constants have
names of their own that the module does not use, no constant, variable of a block or class is called
as a parameter, what is inserted refers to the parameters, and no name is declared twice. -/
structure Hygienic (group : Group) (items : List Item) : Prop where
  distinct : group.temporaryNames.Nodup
  fresh : ∀ name ∈ group.temporaryNames, ∀ item ∈ items, ¬item.Mentions name
  free : ∀ name ∈ factoryParameters, name ∉ group.bodyLexicalNames items
  refers : ∀ name ∈ group.parameters, name ∉ group.bodyNames items
  once : (group.bodyNames items).Nodup

end Group

/-- The module does without the names that linking uses: it mentions no temporary constant that is
needed, declares no parameter in a way that hides it, and does not declare at all `require` if it
refers to other modules, and `exports` if it exports something. -/
structure Avoids (items : List Item) : Prop where
  temporaries : ∀ index < (groups 0 items).temporaries, ∀ item ∈ items,
    ¬item.Mentions (temporary index)
  lexical : ∀ name ∈ factoryParameters, name ∉ items.flatMap Item.lexicalNames
  required : (groups 0 items).specifiers ≠ [] →
    requireFunction ∉ items.flatMap Item.declaredNames
  exported : (items.flatMap Item.exportedNames ≠ [] ∨
      ∃ specifier span, .exporting ⟨span, .all specifier none⟩ ∈ items) →
    exportsObject ∉ items.flatMap Item.declaredNames

namespace Group

variable {items : List Item} {name : Name}

theorem mem_temporaryNames_iff {group : Group} :
    name ∈ group.temporaryNames ↔ ∃ index < group.temporaries, temporary index = name := by
  simp [temporaryNames]

theorem notMem_temporaryNames {group : Group} (h : name ∈ factoryParameters) :
    name ∉ group.temporaryNames := by
  intro hmem
  obtain ⟨index, -, rfl⟩ := mem_temporaryNames_iff.mp hmem
  exact temporary_notMem_factoryParameters index h

/-- Of the parameters, the body declares those that the module declares. -/
theorem mem_bodyNames_iff (h : name ∈ factoryParameters) :
    name ∈ (groups 0 items).bodyNames items ↔ name ∈ items.flatMap Item.declaredNames := by
  rw [(bodyNames_groups_perm items).mem_iff, List.mem_append,
    or_iff_left (notMem_temporaryNames h)]

theorem mem_bodyLexicalNames_iff (h : name ∈ factoryParameters) :
    name ∈ (groups 0 items).bodyLexicalNames items ↔ name ∈ items.flatMap Item.lexicalNames := by
  rw [(bodyLexicalNames_groups_perm items).mem_iff, List.mem_append,
    or_iff_left (notMem_temporaryNames h)]

theorem requireFunction_mem_factoryParameters : requireFunction ∈ factoryParameters := by
  decide

theorem exportsObject_mem_factoryParameters : exportsObject ∈ factoryParameters := by
  decide

/-- Inserted statements refer to `require` and `exports` only. -/
theorem eq_of_mem_parameters {group : Group} (h : name ∈ group.parameters) :
    name = requireFunction ∨ name = exportsObject := by
  obtain ⟨insertion, -, hname⟩ := List.mem_flatMap.mp h
  exact Insertion.eq_of_mem_parameters hname

/-- No name is declared twice, if the module declares none twice and mentions no temporary
constant: what it declares it mentions. -/
theorem nodup_bodyNames (hnodup : (items.flatMap Item.declaredNames).Nodup)
    (hfresh : ∀ name ∈ (groups 0 items).temporaryNames, ∀ item ∈ items, ¬item.Mentions name) :
    ((groups 0 items).bodyNames items).Nodup := by
  rw [(bodyNames_groups_perm items).nodup_iff]
  refine hnodup.append (nodup_temporaryNames _) fun name hdeclared htemporary => ?_
  obtain ⟨item, hitem, hname⟩ := List.mem_flatMap.mp hdeclared
  exact hfresh name htemporary item hitem (Item.mentions_of_mem_declaredNames hname)

/-- A module whose names differ is linked hygienically if and only if it avoids the names that
linking uses. -/
theorem hygienic_iff_avoids (hnodup : (items.flatMap Item.declaredNames).Nodup) :
    (groups 0 items).Hygienic items ↔ Avoids items where
  mp h := {
    temporaries index hindex := h.fresh _ (mem_temporaryNames_iff.mpr ⟨index, hindex, rfl⟩)
    lexical name hname := (mem_bodyLexicalNames_iff hname).not.mp (h.free name hname)
    required hspecifiers :=
      (mem_bodyNames_iff requireFunction_mem_factoryParameters).not.mp
        (h.refers _ (requireFunction_mem_parameters_groups_iff.mpr hspecifiers))
    exported hexports :=
      (mem_bodyNames_iff exportsObject_mem_factoryParameters).not.mp
        (h.refers _ (exportsObject_mem_parameters_groups_iff.mpr hexports)) }
  mpr h :=
    have hfresh : ∀ name ∈ (groups 0 items).temporaryNames, ∀ item ∈ items,
        ¬item.Mentions name := by
      intro name hname
      obtain ⟨index, hindex, rfl⟩ := mem_temporaryNames_iff.mp hname
      exact h.temporaries index hindex
    { distinct := nodup_temporaryNames _
      fresh := hfresh
      free name hname := (mem_bodyLexicalNames_iff hname).not.mpr (h.lexical name hname)
      refers name hname := by
        rcases eq_of_mem_parameters hname with rfl | rfl
        · exact (mem_bodyNames_iff requireFunction_mem_factoryParameters).not.mpr
            (h.required (requireFunction_mem_parameters_groups_iff.mp hname))
        · exact (mem_bodyNames_iff exportsObject_mem_factoryParameters).not.mpr
            (h.exported (exportsObject_mem_parameters_groups_iff.mp hname))
      once := nodup_bodyNames hnodup hfresh }

end Group

/-- What may be said of the names in linked code: temporary constants differ, the body declares them
and what the module declares, and this is hygienic exactly if the module avoids the names that
linking uses. -/
structure NamesDetermined (items : List Item) : Prop where
  distinct : (groups 0 items).temporaryNames.Nodup
  declared : ((groups 0 items).bodyNames items).Perm
    (items.flatMap Item.declaredNames ++ (groups 0 items).temporaryNames)
  hygienic_iff : (items.flatMap Item.declaredNames).Nodup →
    ((groups 0 items).Hygienic items ↔ Avoids items)

/-- **Hygiene**: the names in linked code do not get in each other's way, if and only if the module
avoids those that linking uses. -/
theorem namesDetermined_of_analyzeChars {source code : List Char} {specifiers : List Name}
    (h : analyzeChars source = .ok (specifiers, code)) :
    ∃ items, Links source items specifiers code ∧ NamesDetermined items := by
  obtain ⟨items, hlinks⟩ := analyzeChars_eq_ok_iff.mp h
  exact ⟨items, hlinks,
    { distinct := Group.nodup_temporaryNames _
      declared := Group.bodyNames_groups_perm items
      hygienic_iff := Group.hygienic_iff_avoids }⟩

/-! ### Modules that use the names -/

/-- A module with a constant that has the name of a temporary constant. -/
def clashingSource : List Char :=
  "const __minipack_import_0 = 1;\nimport a, { b } from './x.js';\n".toList

/-- The items of the module. -/
def clashingItems : List Item :=
  [.statement ⟨0, 30⟩ (.mk (.variableList .constant) [.mk .declarator
      [.mk (.identifier (temporary 0)) [], .mk (.literal (.number ['1'])) []]]),
    .importing ⟨⟨31, 61⟩, none, "./x.js".toList, some ['a'], none, [⟨['b'], ['b']⟩]⟩]

theorem links_clashingSource : Links clashingSource clashingItems ["./x.js".toList]
    (linkedCode clashingSource (groups 0 clashingItems)) where
  parsed := by decide +kernel
  unphased := rfl
  specifiers_eq := rfl
  code_eq := rfl
  accepted := exists_eq_ok_of_isOk (by decide +kernel)

theorem analyzeChars_clashingSource : analyzeChars clashingSource =
    .ok (["./x.js".toList], linkedCode clashingSource (groups 0 clashingItems)) :=
  analyzeChars_eq_ok_iff.mpr ⟨clashingItems, links_clashingSource⟩

/-- The names in the linked code of the module are determined. -/
theorem namesDetermined_clashing :
    analyzeChars clashingSource =
        .ok (["./x.js".toList], linkedCode clashingSource (groups 0 clashingItems)) ∧
      ∃ items, Links clashingSource items ["./x.js".toList]
        (linkedCode clashingSource (groups 0 clashingItems)) ∧ NamesDetermined items :=
  ⟨analyzeChars_clashingSource, namesDetermined_of_analyzeChars analyzeChars_clashingSource⟩

/-- A module that calls an import as the function that loads modules. -/
def shadowingSource : List Char :=
  "import require from './x.js';\n".toList

/-- The items of the module. -/
def shadowingItems : List Item :=
  [.importing ⟨⟨0, 29⟩, none, "./x.js".toList, some requireFunction, none, []⟩]

theorem links_shadowingSource : Links shadowingSource shadowingItems ["./x.js".toList]
    (linkedCode shadowingSource (groups 0 shadowingItems)) where
  parsed := by decide +kernel
  unphased := rfl
  specifiers_eq := rfl
  code_eq := rfl
  accepted := exists_eq_ok_of_isOk (by decide +kernel)

theorem analyzeChars_shadowingSource : analyzeChars shadowingSource =
    .ok (["./x.js".toList], linkedCode shadowingSource (groups 0 shadowingItems)) :=
  analyzeChars_eq_ok_iff.mpr ⟨shadowingItems, links_shadowingSource⟩

/-- There are modules whose names differ and that are not linked hygienically: a temporary constant
may have the name of a constant of the module, and a constant may be called as a parameter that its
value refers to. -/
theorem exists_not_hygienic :
    (∃ source specifiers code items, Links source items specifiers code ∧
      analyzeChars source = .ok (specifiers, code) ∧
        (items.flatMap Item.declaredNames).Nodup ∧ ¬(groups 0 items).Hygienic items ∧
          ∃ name ∈ (groups 0 items).temporaryNames, name ∈ items.flatMap Item.declaredNames) ∧
    ∃ source specifiers code items, Links source items specifiers code ∧
      analyzeChars source = .ok (specifiers, code) ∧
        (items.flatMap Item.declaredNames).Nodup ∧ ¬(groups 0 items).Hygienic items ∧
          ∃ name ∈ (groups 0 items).parameters, name ∈ (groups 0 items).bodyLexicalNames items := by
  constructor
  · have htwice : ¬((groups 0 clashingItems).bodyNames clashingItems).Nodup := by decide
    exact ⟨clashingSource, _, _, clashingItems, links_clashingSource, analyzeChars_clashingSource,
      by decide, fun h => htwice h.once, temporary 0, by decide, by decide⟩
  · have hparameter : requireFunction ∈ (groups 0 shadowingItems).parameters := by decide
    have hhidden : requireFunction ∈ (groups 0 shadowingItems).bodyLexicalNames shadowingItems := by
      decide
    exact ⟨shadowingSource, _, _, shadowingItems, links_shadowingSource,
      analyzeChars_shadowingSource, by decide,
      fun h => h.free _ Group.requireFunction_mem_factoryParameters hhidden,
      requireFunction, hparameter, hhidden⟩

end ModuleBundler.Linking
