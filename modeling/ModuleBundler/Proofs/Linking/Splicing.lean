import ModuleBundler.Proofs.Linking.Analysis
import ModuleBundler.Proofs.Linking.Exports
import ModuleBundler.Proofs.Text.Edit

/-!
# What linking leaves of the source

Items that follow each other in a source are replaced by edits that do so too: an import or export
is replaced as a whole or from its start up to what it keeps, and an item that ends behind what it
keeps may be closed there. So linked code is the source with exactly these stretches replaced, and
deferred exports behind it.

## Main definitions

* `Item.Placed` — items that contain what they keep.
* `ItemsInOrder` — items that follow each other in a source.
* `SplicesFaithfully` — what linking leaves of a source.

## Main results

* `inOrder_edits_groups` — the edits of items in order are in order.
* `splicesFaithfully` — linked code is the source with the stretches of the edits replaced.
-/

namespace ModuleBundler.Script

/-- What the export keeps stands inside a span. -/
def Exports.Inside (span : Span) : Exports → Prop
  | .declaration start _ => span.start ≤ start ∧ start ≤ span.stop
  | .defaultValue value _ =>
    span.start ≤ value.start ∧ value.start ≤ value.stop ∧ value.stop ≤ span.stop
  | .all _ _ | .fromModule _ _ | .names _ => True

/-- The item ends behind its start, and what it keeps stands inside it. -/
def Item.Placed : Item → Prop
  | .importing declaration => declaration.span.start ≤ declaration.span.stop
  | .exporting ⟨span, exports⟩ => span.start ≤ span.stop ∧ exports.Inside span
  | .statement span _ => span.start ≤ span.stop

/-- The items follow each other without overlap, from a position on up to the end of a source of the
given length. -/
def ItemsInOrder (length : Nat) : (position : Nat) → List Item → Prop
  | position, [] => position ≤ length
  | position, item :: items =>
    position ≤ item.span.start ∧ item.Placed ∧ ItemsInOrder length item.span.stop items

theorem ItemsInOrder.placed {length position : Nat} {items : List Item}
    (h : ItemsInOrder length position items) : ∀ item ∈ items, item.Placed := by
  induction items generalizing position with
  | nil => exact List.forall_mem_nil _
  | cons item items ih => exact List.forall_mem_cons.mpr ⟨h.2.1, ih h.2.2⟩

/-- Is the item neither an import nor an export? -/
def Item.IsStatement (item : Item) : Prop :=
  ∃ span node, item = .statement span node

end ModuleBundler.Script

namespace ModuleBundler.Linking

open Script Text

variable {next length position : Nat} {item : Item} {items : List Item}

namespace Group

theorem edits_append (first second : Group) :
    (first.append second).edits = first.edits ++ second.edits :=
  List.map_append

/-- A single edit inside a span is in order. -/
theorem inOrder_edits_singleton {start stop : Nat} {insertions : List Insertion} {span : Span}
    {specifiers : List Name} {deferred : List ExportedName} {temporaries : Nat}
    (hstart : span.start ≤ start) (hle : start ≤ stop) (hstop : stop ≤ span.stop) :
    InOrder span.stop span.start
      (edits ⟨specifiers, [⟨⟨start, stop⟩, insertions⟩], deferred, temporaries⟩) :=
  ⟨hstart, hle, hstop⟩

/-- A default export is edited in front of what it keeps, and perhaps right behind it. -/
theorem inOrder_edits_ofDefault {span value : Span} {node : Node}
    (h : (Exports.defaultValue value node).Inside span) :
    InOrder span.stop span.start (ofDefault span.start value node).edits := by
  obtain ⟨hstart, hle, hstop⟩ := h
  unfold ofDefault
  split
  · split
    · exact ⟨Nat.le_refl _, hstart, Nat.le_trans hle hstop⟩
    · exact ⟨Nat.le_refl _, hstart, hle, Nat.le_refl _, hstop⟩
  · exact ⟨Nat.le_refl _, hstart, Nat.le_trans hle hstop⟩

/-- The edits of an item are in order, and inside the item. -/
theorem inOrder_edits_ofItem (h : item.Placed) :
    InOrder item.span.stop item.span.start (ofItem next item).edits := by
  match item with
  | .statement _ _ => exact h
  | .importing _ => exact inOrder_edits_singleton (Nat.le_refl _) h (Nat.le_refl _)
  | .exporting ⟨_, .all _ none⟩ | .exporting ⟨_, .all _ (some _)⟩ =>
    exact inOrder_edits_singleton (Nat.le_refl _) h.1 (Nat.le_refl _)
  | .exporting ⟨_, .fromModule _ _⟩ | .exporting ⟨_, .names _⟩ =>
    exact inOrder_edits_singleton (Nat.le_refl _) h.1 (Nat.le_refl _)
  | .exporting ⟨_, .declaration _ _⟩ => exact inOrder_edits_singleton (Nat.le_refl _) h.2.1 h.2.2
  | .exporting ⟨_, .defaultValue _ _⟩ => exact inOrder_edits_ofDefault h.2

end Group

/-- The edits of items that follow each other do so too. -/
theorem inOrder_edits_groups (h : ItemsInOrder length position items) :
    InOrder length position (groups next items).edits := by
  induction items generalizing next position with
  | nil => exact h
  | cons item items ih =>
    obtain ⟨hstart, hplaced, hrest⟩ := h
    rw [groups, Group.edits_append]
    exact (Group.inOrder_edits_ofItem hplaced |>.of_le hstart).append (ih hrest)

/-- Statements are linked to nothing. -/
theorem groups_of_isStatement (h : ∀ item ∈ items, item.IsStatement) :
    groups next items = .empty := by
  induction items generalizing next with
  | nil => rfl
  | cons item items ih =>
    obtain ⟨⟨span, node, rfl⟩, hrest⟩ := List.forall_mem_cons.mp h
    rw [groups, ih hrest]
    rfl

theorem linkedCode_empty (source : List Char) : linkedCode source .empty = source := by
  show withDeferred (splice [] source) [] = source
  simp [withDeferred, splice_nil, deferredAssignments]

/-- What linking leaves of a source. -/
structure SplicesFaithfully (source : List Char) (items : List Item) : Prop where
  /-- The edits are in order and inside the source, so that what stands between them is a part of
  it. -/
  inOrder : InOrder source.length 0 (groups 0 items).edits
  /-- The body of the code is the source with the stretches of the edits replaced. Behind it are the
  deferred exports, each on a line, and nothing else; if there are some and the body does not end
  with a line, a line break is in between. -/
  code : ∃ body separator, Spliced 0 (groups 0 items).edits source body ∧
    linkedCode source (groups 0 items) =
      body ++ separator ++ ((items.flatMap Item.localExports).flatMap fun entry =>
        assignExport entry.exported entry.localName ++ ['\n']) ∧
    (separator = ['\n'] ∨ separator = []) ∧
    (separator = ['\n'] ↔ items.flatMap Item.localExports ≠ [] ∧ body ≠ [] ∧
      body.getLast? ≠ some '\n')
  /-- A source without imports and exports stays as it is, and an analysis gives it back with no
  specifiers. -/
  unchanged : (∀ item ∈ items, item.IsStatement) →
    linkedCode source (groups 0 items) = source ∧ (groups 0 items).specifiers = [] ∧
      ∀ specifiers code, Links source items specifiers code → specifiers = [] ∧ code = source

/-- **Linked code is the source with exactly the stretches of the edits replaced**, and with the
deferred exports behind it, for items that follow each other in the source. -/
theorem splicesFaithfully {source : List Char} {items : List Item}
    (h : ItemsInOrder source.length 0 items) : SplicesFaithfully source items where
  inOrder := inOrder_edits_groups h
  code := by
    let body := splice (groups 0 items).edits source
    let separator : List Char :=
      if (groups 0 items).deferred = [] ∨ body = [] ∨ body.getLast? = some '\n' then [] else ['\n']
    have hspliced : Spliced 0 (groups 0 items).edits source body :=
      spliced_splice (inOrder_edits_groups h)
    have hcode : linkedCode source (groups 0 items) =
        body ++ separator ++ deferredAssignments (groups 0 items).deferred := rfl
    have hdeferred : (groups 0 items).deferred = items.flatMap Item.localExports :=
      Group.deferred_groups
    refine ⟨body, separator, hspliced, ?_, ?_, ?_⟩
    · rw [hcode, hdeferred]
      rfl
    · by_cases hnone : (groups 0 items).deferred = [] ∨ body = [] ∨ body.getLast? = some '\n'
      · exact .inr (if_pos hnone)
      · exact .inl (if_neg hnone)
    · rw [← hdeferred]
      by_cases hnone : (groups 0 items).deferred = [] ∨ body = [] ∨ body.getLast? = some '\n'
      · simp only [separator, if_pos hnone]
        grind
      · simp only [separator, if_neg hnone]
        grind
  unchanged hstatements := by
    have hgroup : groups 0 items = .empty := groups_of_isStatement hstatements
    have hcode : linkedCode source (groups 0 items) = source := by
      rw [hgroup, linkedCode_empty]
    have hspecifiers : (groups 0 items).specifiers = [] := by rw [hgroup]; rfl
    exact ⟨hcode, hspecifiers, fun specifiers code hlinks =>
      ⟨hlinks.specifiers_eq.trans hspecifiers, hlinks.code_eq.trans hcode⟩⟩

/-- A class without a name as the default export, and a declaration that is exported. -/
def classAndConstant : List Char :=
  "export default class \x7b\x7d\n\nexport const a = 1;".toList

/-- The items of this source. -/
def classAndConstantItems : List Item :=
  [.exporting ⟨⟨0, 23⟩, .defaultValue ⟨15, 23⟩ (.mk .classDefinition [.absent, .absent])⟩,
    .exporting ⟨⟨25, 44⟩, .declaration 32 (.mk (.variableList .constant)
      [.mk .declarator [.mk (.identifier ['a']) [], .mk (.literal (.number ['1'])) []]])⟩]

/-- The class is closed behind its end, and the constant keeps its declaration. -/
theorem splicesFaithfully_classAndConstant :
    ItemsInOrder classAndConstant.length 0 classAndConstantItems ∧
      SplicesFaithfully classAndConstant classAndConstantItems ∧
      linkedCode classAndConstant (groups 0 classAndConstantItems) =
        "exports.default = class \x7b\x7d;\n\nconst a = 1;\nexports.a = a;\n".toList := by
  have horder : ItemsInOrder classAndConstant.length 0 classAndConstantItems := by
    have hlength : classAndConstant.length = 44 := by decide +kernel
    rw [hlength]
    simp [ItemsInOrder, Item.Placed, Exports.Inside, classAndConstantItems, Item.span]
  exact ⟨horder, splicesFaithfully horder, by decide +kernel⟩

end ModuleBundler.Linking
