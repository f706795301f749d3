import Mathlib.Data.List.Nodup
import Mathlib.Data.List.Pairwise
import ModuleBundler.Linking.Analysis
import ModuleBundler.Proofs.Script.BoundNames

/-!
# Every export is written once

What a module exports under a name is a name of its own, a name of another module, all of another
module, or a value that has no name. Linked code writes each exported name exactly once, and writes
nothing else but copies: in the place of the item where the value is at hand, and behind the body of
the module where it is a name of the module, which has its value only then.

## Main definitions

* `Origin`, `Item.Exports` — what a module exports, and under which names.
* `Group.statements`, `Group.exportedNames` — the inserted statements in the order of the code, and
  the names that they write.
* `Group.Realizes` — how the statements of a group write an export.

## Main results

* `Group.exportedNames_groups_perm` — what is written are the exported names, each as often as the
  items export it.
* `realizes_groups` — each export is written with what it stands for.
-/

namespace ModuleBundler.Script

/-- What an exported name stands for. -/
inductive Origin where
  /-- A name of the module itself. -/
  | binding (localName : Name)
  /-- A name that another module exports. -/
  | imported (specifier name : Name)
  /-- All that another module exports. -/
  | wholeModule (specifier : Name)
  /-- The value of an expression, or a function or class without a name, that stands at a span. -/
  | value (span : Span) (node : Node)

/-- The item exports something under a name. A default export of a function or class with a name
exports that name; of anything else, a value. Copies of all exports of another module have no name
of their own. -/
inductive Item.Exports : Item → Name → Origin → Prop
  | listed {span : Span} {entries : List ExportedName} {entry : ExportedName}
    (hmem : entry ∈ entries) :
    Exports (.exporting ⟨span, .names entries⟩) entry.exported (.binding entry.localName)
  | declared {span : Span} {start : Nat} {node : Node} {name : Name} (h : node.Declares name) :
    Exports (.exporting ⟨span, .declaration start node⟩) name (.binding name)
  | reexported {span : Span} {specifier : Name} {entries : List ExportedName}
    {entry : ExportedName} (hmem : entry ∈ entries) :
    Exports (.exporting ⟨span, .fromModule specifier entries⟩) entry.exported
      (.imported specifier entry.localName)
  | wholeModule {span : Span} {specifier name : Name} :
    Exports (.exporting ⟨span, .all specifier (some name)⟩) name (.wholeModule specifier)
  | namedDefault {span valueSpan : Span} {node : Node} {name : Name}
    (hdeclaration : Linking.Group.isDeclaration node) (h : node.Declares name) :
    Exports (.exporting ⟨span, .defaultValue valueSpan node⟩) defaultName (.binding name)
  | defaultValue {span valueSpan : Span} {node : Node}
    (h : Linking.Group.isDeclaration node → ∀ name, ¬node.Declares name) :
    Exports (.exporting ⟨span, .defaultValue valueSpan node⟩) defaultName (.value valueSpan node)

/-- The names of the module that an item exports, in the order of the source. -/
def Item.localExports : Item → List ExportedName
  | .exporting ⟨_, .names entries⟩ => entries
  | .exporting ⟨_, .declaration _ node⟩ => node.declaredNames.map fun name => ⟨name, name⟩
  | .exporting ⟨_, .defaultValue _ node⟩ =>
    if Linking.Group.isDeclaration node then node.declaredNames.map fun name => ⟨name, defaultName⟩
    else []
  | _ => []

/-- A function or class declares one name at most. -/
theorem Node.exists_declaredNames_eq {node : Node} (h : Linking.Group.isDeclaration node) :
    ∃ name : Option Name, node.declaredNames = name.toList := by
  obtain ⟨kind, children⟩ := node
  cases kind <;> try contradiction
  all_goals
    cases children with
    | nil => exact ⟨none, rfl⟩
    | cons name rest => exact ⟨name.identifier?, rfl⟩

/-- The exported names of an item are the names under which it exports something. -/
theorem Item.mem_exportedNames_iff {item : Item} {name : Name} :
    name ∈ item.exportedNames ↔ ∃ origin, item.Exports name origin := by
  constructor
  · intro h
    match item with
    | .exporting ⟨span, .all specifier exported⟩ =>
      obtain rfl : exported = some name := Option.mem_toList.mp h
      exact ⟨_, .wholeModule⟩
    | .exporting ⟨span, .fromModule specifier entries⟩ =>
      obtain ⟨entry, hmem, rfl⟩ := List.mem_map.mp h
      exact ⟨_, .reexported hmem⟩
    | .exporting ⟨span, .names entries⟩ =>
      obtain ⟨entry, hmem, rfl⟩ := List.mem_map.mp h
      exact ⟨_, .listed hmem⟩
    | .exporting ⟨span, .declaration start node⟩ =>
      exact ⟨_, .declared (Node.mem_declaredNames_iff.mp h)⟩
    | .exporting ⟨span, .defaultValue valueSpan node⟩ =>
      obtain rfl : name = defaultName := List.mem_singleton.mp h
      by_cases hnamed : Linking.Group.isDeclaration node ∧ ∃ name, node.Declares name
      · obtain ⟨hdeclaration, name, hname⟩ := hnamed
        exact ⟨_, .namedDefault hdeclaration hname⟩
      · exact ⟨_, .defaultValue fun hdeclaration name hname => hnamed ⟨hdeclaration, name, hname⟩⟩
  · rintro ⟨origin, h⟩
    cases h with
    | listed hmem => exact List.mem_map_of_mem hmem
    | declared h => exact Node.mem_declaredNames_iff.mpr h
    | reexported hmem => exact List.mem_map_of_mem hmem
    | wholeModule => exact List.mem_singleton_self name
    | namedDefault | defaultValue => exact List.mem_singleton_self _

/-- An item that exports no name twice exports one thing under each name. -/
theorem Item.Exports.unique_of_nodup {item : Item} {name : Name} {origin other : Origin}
    (hnodup : item.exportedNames.Nodup) (h : item.Exports name origin)
    (h' : item.Exports name other) : origin = other := by
  cases h with
  | @listed span entries entry hmem =>
    generalize hname : entry.exported = name at h'
    cases h' with
    | listed hmem' => rw [List.inj_on_of_nodup_map hnodup hmem hmem' hname]
  | declared _ =>
    cases h'
    rfl
  | @reexported span specifier entries entry hmem =>
    generalize hname : entry.exported = name at h'
    cases h' with
    | reexported hmem' => rw [List.inj_on_of_nodup_map hnodup hmem hmem' hname]
  | wholeModule =>
    cases h'
    rfl
  | namedDefault hdeclaration hname =>
    cases h' with
    | namedDefault _ hname' =>
      obtain ⟨only, honly⟩ := Node.exists_declaredNames_eq hdeclaration
      rw [← Node.mem_declaredNames_iff, honly, Option.mem_toList] at hname hname'
      rw [Option.mem_unique hname hname']
    | defaultValue hnone => exact absurd hname (hnone hdeclaration _)
  | defaultValue hnone =>
    cases h' with
    | namedDefault hdeclaration hname => exact absurd hname (hnone hdeclaration _)
    | defaultValue _ => rfl

/-- If no name is exported twice, one thing is exported under each name. -/
theorem Item.Exports.unique {items : List Item} {item item' : Item} {name : Name}
    {origin other : Origin} (hnodup : (items.flatMap Item.exportedNames).Nodup)
    (hmem : item ∈ items) (hmem' : item' ∈ items) (h : item.Exports name origin)
    (h' : item'.Exports name other) : origin = other := by
  obtain ⟨hitems, hdisjoint⟩ := List.nodup_flatMap.mp hnodup
  by_cases heq : item = item'
  · subst heq
    exact h.unique_of_nodup (hitems item hmem) h'
  · have hsymm : Std.Symm (Function.onFun List.Disjoint Item.exportedNames) :=
      ⟨fun _ _ h _ hmem hmem' => h hmem' hmem⟩
    exact (hdisjoint.forall hmem hmem' heq (Item.mem_exportedNames_iff.mpr ⟨_, h⟩)
      (Item.mem_exportedNames_iff.mpr ⟨_, h'⟩)).elim

end ModuleBundler.Script

namespace ModuleBundler.Linking

open Script Text

/-! ### What inserted statements write -/

/-- The name of an export that the statement writes. -/
def Insertion.exported? : Insertion → Option Name
  | assign exported _ => some exported
  | openDefault => some Script.defaultName
  | evaluate _ | declare _ _ | copyAll _ | closeDefault => none

namespace Group

variable {next : Nat} {item : Item} {items : List Item} {first second : Group}

/-- The statements in the places of the items, in the order of the code. -/
def insertions (group : Group) : List Insertion :=
  group.replacements.flatMap Replacement.insertions

/-- All inserted statements, in the order of the code: the deferred ones are behind the body. -/
def statements (group : Group) : List Insertion :=
  group.insertions ++ group.deferred.map deferredAssignment

/-- The names of exports that are written, in the order of the code. -/
def exportedNames (group : Group) : List Name :=
  group.statements.filterMap Insertion.exported?

theorem insertions_append :
    (first.append second).insertions = first.insertions ++ second.insertions :=
  List.flatMap_append

theorem filterMap_exported?_deferred (entries : List ExportedName) :
    (entries.map deferredAssignment).filterMap Insertion.exported? =
      entries.map ExportedName.exported := by
  induction entries with
  | nil => rfl
  | cons entry entries ih => exact congrArg (entry.exported :: ·) ih

theorem exportedNames_eq (group : Group) :
    group.exportedNames = group.insertions.filterMap Insertion.exported? ++
      group.deferred.map ExportedName.exported := by
  rw [exportedNames, statements, List.filterMap_append, filterMap_exported?_deferred]

theorem exportedNames_append_perm :
    (first.append second).exportedNames.Perm (first.exportedNames ++ second.exportedNames) := by
  simp only [exportedNames_eq, insertions_append, List.filterMap_append]
  show (_ ++ (first.deferred ++ second.deferred).map ExportedName.exported).Perm _
  rw [List.map_append, List.append_assoc, List.append_assoc]
  refine List.Perm.append_left _ ?_
  rw [← List.append_assoc, ← List.append_assoc]
  exact List.perm_append_comm.append_right _

/-! ### Single items -/

/-- The deferred exports of an item are those of names of the module. -/
theorem deferred_ofItem : (ofItem next item).deferred = item.localExports := by
  match item with
  | .importing _ | .statement _ _ => rfl
  | .exporting ⟨_, .all _ none⟩ | .exporting ⟨_, .all _ (some _)⟩ => rfl
  | .exporting ⟨_, .fromModule _ _⟩ | .exporting ⟨_, .names _⟩ => rfl
  | .exporting ⟨_, .declaration _ _⟩ => rfl
  | .exporting ⟨span, .defaultValue valueSpan node⟩ =>
    show (ofDefault span.start valueSpan node).deferred = if isDeclaration node then _ else _
    unfold ofDefault
    split
    · next h =>
      obtain ⟨only, honly⟩ := Node.exists_declaredNames_eq h
      rw [honly]
      cases only <;> rfl
    · rfl

/-- The names that an import declares are no exports. -/
theorem filterMap_exported?_importStatements (specifier : Name) (clause : ImportClause) :
    (importStatements next specifier clause).1.filterMap Insertion.exported? = [] := by
  obtain ⟨defaultName, moduleName, named⟩ := clause
  rcases defaultName with _ | defaultName <;> rcases moduleName with _ | moduleName <;>
    rcases named with _ | ⟨entry, named⟩ <;> rfl

theorem filterMap_exported?_fromStatements (specifier : Name) (entries : List ExportedName) :
    (fromStatements next specifier entries).filterMap Insertion.exported? =
      entries.map ExportedName.exported := by
  rw [fromStatements, List.filterMap_cons_none (by rfl), List.filterMap_map]
  exact congrFun (List.filterMap_eq_map (f := ExportedName.exported)) entries

/-- Each item is written under the names under which it exports. -/
theorem exportedNames_ofItem : (ofItem next item).exportedNames = item.exportedNames := by
  match item with
  | .statement _ _ => rfl
  | .exporting ⟨_, .all _ none⟩ | .exporting ⟨_, .all _ (some _)⟩ => rfl
  | .importing ⟨_, _, specifier, clause⟩ =>
    rw [exportedNames_eq]
    show ([_].flatMap _).filterMap _ ++ [] = []
    rw [List.append_nil, List.flatMap_singleton]
    exact filterMap_exported?_importStatements specifier clause
  | .exporting ⟨_, .fromModule specifier entries⟩ =>
    rw [exportedNames_eq]
    show ([_].flatMap _).filterMap _ ++ [] = _
    rw [List.append_nil, List.flatMap_singleton]
    exact filterMap_exported?_fromStatements specifier entries
  | .exporting ⟨_, .names entries⟩ => exact filterMap_exported?_deferred entries
  | .exporting ⟨_, .declaration _ node⟩ =>
    rw [exportedNames_eq]
    show [] ++ (node.declaredNames.map _).map _ = node.declaredNames
    rw [List.nil_append, List.map_map]
    exact List.map_id _
  | .exporting ⟨span, .defaultValue valueSpan node⟩ =>
    show (ofDefault span.start valueSpan node).exportedNames = [Script.defaultName]
    unfold ofDefault
    split
    · split <;> rfl
    · rfl

/-- What is written are the exported names, each as often as the items export it. -/
theorem exportedNames_groups_perm :
    (groups next items).exportedNames.Perm (items.flatMap Item.exportedNames) := by
  induction items generalizing next with
  | nil => exact List.Perm.refl _
  | cons item items ih =>
    refine exportedNames_append_perm.trans ?_
    rw [exportedNames_ofItem, List.flatMap_cons]
    exact ih.append_left _

/-- The deferred exports are those of names of the module, in the order of the source. -/
theorem deferred_groups : (groups next items).deferred = items.flatMap Item.localExports := by
  induction items generalizing next with
  | nil => rfl
  | cons item items ih =>
    show (ofItem next item).deferred ++ _ = _
    rw [deferred_ofItem, ih, List.flatMap_cons]

/-! ### Temporary constants -/

end Group

/-! ### How exports are written -/

/-- Linked code writes what the origin stands for under the name, in the place of the item with the
span or behind the body. The value of a default export stands behind what is inserted. -/
def Group.Realizes (group : Group) (span : Span) (name : Name) : Origin → Prop
  | .binding localName => ⟨localName, name⟩ ∈ group.deferred
  | .imported specifier imported =>
    ∃ index statements,
      ⟨span, .declare (.temporary index) (.required specifier) :: statements⟩ ∈
          group.replacements ∧
        .assign name (.member (.temporary index) imported) ∈ statements
  | .wholeModule specifier => ⟨span, [.assign name (.required specifier)]⟩ ∈ group.replacements
  | .value valueSpan _ =>
    name = Script.defaultName ∧ ⟨⟨span.start, valueSpan.start⟩, [.openDefault]⟩ ∈ group.replacements

variable {next : Nat} {item : Item} {items : List Item} {group larger : Group} {span : Span}
  {name : Name} {origin : Origin}

theorem Group.Realizes.mono (h : group.Realizes span name origin)
    (hreplacements : group.replacements ⊆ larger.replacements)
    (hdeferred : group.deferred ⊆ larger.deferred) : larger.Realizes span name origin := by
  cases origin with
  | binding localName => exact hdeferred h
  | imported specifier imported =>
    obtain ⟨index, statements, hmem, hassign⟩ := h
    exact ⟨index, statements, hreplacements hmem, hassign⟩
  | wholeModule specifier => exact hreplacements h
  | value => exact ⟨h.1, hreplacements h.2⟩

end ModuleBundler.Linking
