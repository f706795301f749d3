import ModuleBundler.Proofs.Linking.Apart
import ModuleBundler.Proofs.Linking.BindableNames
import ModuleBundler.Proofs.Linking.Transcript

/-!
# Linked code item by item

Linked code is read as the items of the module were: each of them becomes statements of its own, one
behind the other, and the deferred exports follow. What linking inserts ends itself wherever it
stands. What it keeps of the source ends in the source, but there it may do so only by what stands
behind it: a statement without a semicolon goes on where the next line starts with a parenthesis. So
the items keep their boundaries if the texts that are kept are set apart, and a copy of all exports
of a module behind a statement without a semicolon is what breaks them.

## Main definitions

* `IsGroup` — the statements of the text that an item becomes, on its own.
* `LinkedItem`, `LinkedItems` — items that are linked as statements one behind the other.
* `KeepsBoundaries` — the code is read as these statements, item by item.

## Main results

* `exists_linkedBody` — linked code is read so wherever it is the body of a function.
* `keepsBoundaries` — linked code keeps the boundaries of items that are set apart.
* `not_keepsBoundaries_merged` — other items may be merged.
-/

namespace ModuleBundler.Linking

open Script Text

variable {condition condition' : Prop}
  {after text text' gap source chars code : List Char} {follow : List Char → Prop} {node : Node}
  {nodes nodes' : List Node} {next position : Nat} {item : Item} {items : List Item}

/-! ### Several statements -/

/-- Wherever the text stands in a body, it is these statements if the condition holds, and otherwise
one of them cannot be read. -/
def StandAllIf (condition : Prop) (text : List Char) (nodes : List Node) : Prop :=
  ∀ ⦃after condition' chars rest⦄, BodyIf after condition' chars rest →
    BodyIf after (condition ∧ condition') (text ++ chars) (nodes ++ rest)

theorem StandsIf.all (h : StandsIf Fresh condition text node) : StandAllIf condition text [node] :=
  fun _ _ _ _ hrest => .statement h (hrest.fresh blank_nil) hrest

theorem standAllIf_blank (h : Blank gap) : StandAllIf True gap [] := by
  intro after condition' chars rest hrest
  rw [true_and]
  exact hrest.blank h

theorem standAllIf_nil (hc : condition) : StandAllIf condition [] [] := by
  rw [eq_true hc]
  exact standAllIf_blank blank_nil

namespace StandAllIf

theorem append (h : StandAllIf condition text nodes) (h' : StandAllIf condition' text' nodes') :
    StandAllIf (condition ∧ condition') (text ++ text') (nodes ++ nodes') := by
  intro _ _ _ _ hrest
  rw [and_assoc, List.append_assoc, List.append_assoc]
  exact h (h' hrest)

theorem append_blank (h : StandAllIf condition text nodes) (hgap : Blank gap) :
    StandAllIf condition (text ++ gap) nodes := by
  have hmore := h.append (standAllIf_blank hgap)
  rwa [and_true, List.append_nil] at hmore

/-- The text is read as the statements on its own. -/
theorem parseScript (h : StandAllIf condition text nodes) (hc : condition)
    (hsettled : Node.anyUnsettled nodes = false) :
    Script.parseScript (factory text) = .ok [factoryTree nodes] := by
  have hbody := h (BodyIf.last_factory blank_nil.ends)
  rw [List.append_nil] at hbody
  exact hbody.parseScript ⟨hc, trivial⟩ hsettled

end StandAllIf

/-- Whole insertions stand one behind the other with blanks between them. -/
theorem standAllIf_insertions {insertions : List Insertion} (h : ∀ i ∈ insertions, i.IsWhole)
    (hgap : Blank gap) : StandAllIf (∀ i ∈ insertions, i.Writable)
      (List.intercalate gap (insertions.map Insertion.text)) (insertions.map Insertion.tree) := by
  induction insertions with
  | nil => exact standAllIf_nil (List.forall_mem_nil _)
  | cons insertion insertions ih =>
    obtain ⟨hfirst, hrest⟩ := List.forall_mem_cons.mp h
    have hfirst := (Insertion.standsIf hfirst).all
    cases insertions with
    | nil => simpa using hfirst
    | cons second insertions =>
      have hmore := (hfirst.append_blank hgap).append (ih hrest)
      rw [← List.forall_mem_cons] at hmore
      rw [List.map_cons, List.map_cons, List.map_cons, List.intercalate_cons_cons]
      exact hmore

/-- Insertions start a line if the first one does. -/
theorem opensLine_insertions {first : Insertion} {more : List Insertion}
    (h : ∀ i ∈ first :: more, i.IsWhole) (hcopy : ∀ specifier, first ≠ .copyAll specifier)
    (hgap : Blank gap) (hbody : BodyIf after condition chars nodes) :
    OpensLine (List.intercalate gap ((first :: more).map Insertion.text) ++ chars) := by
  obtain ⟨hfirst, hmore⟩ := List.forall_mem_cons.mp h
  have hopens {tail : List Char} (htail : Fresh tail) : OpensLine (first.text ++ tail) :=
    (Insertion.standsIf hfirst).opensLine htail (Insertion.opensLine hfirst hcopy)
  cases more with
  | nil => simpa using hopens (hbody.fresh blank_nil)
  | cons second more =>
    have hrest := ((standAllIf_insertions hmore hgap) hbody).blank hgap
    rw [List.map_cons, List.map_cons, List.intercalate_cons_cons, List.append_assoc,
      List.append_assoc]
    exact hopens (hrest.fresh blank_nil)

/-- A whole insertion ends with a semicolon. -/
theorem Insertion.endsClosed {insertion : Insertion} (h : insertion.IsWhole) :
    EndsClosed insertion.text := by
  have hclosed : EndsClosed [';'] := rfl
  cases insertion with
  | evaluate | declare | assign => exact hclosed.append _
  | copyAll => exact EndsClosed.append (show EndsClosed ");".toList by decide) _
  | openDefault | closeDefault => exact h.elim

theorem endsClosed_insertions {first : Insertion} {more : List Insertion}
    (h : ∀ i ∈ first :: more, i.IsWhole) :
    EndsClosed (List.intercalate gap ((first :: more).map Insertion.text)) := by
  induction more generalizing first with
  | nil => simpa using Insertion.endsClosed (h first List.mem_cons_self)
  | cons second more ih =>
    rw [List.map_cons, List.map_cons, List.intercalate_cons_cons]
    exact (ih (List.forall_mem_cons.mp h).2).append _

theorem endsInside_insertions {insertions : List Insertion} (h : ∀ i ∈ insertions, i.IsWhole) :
    EndsInside (List.intercalate gap (insertions.map Insertion.text)) := by
  cases insertions with
  | nil => rfl
  | cons first more => exact .of_endsClosed (endsClosed_insertions h)

/-- The assignment of a deferred export, as a tree. -/
def deferredTree (entry : ExportedName) : Node :=
  assignTree entry.exported (.name entry.localName)

/-! ### What an item becomes -/

/-- The nodes are the statements of an item: those of its own text. An item that keeps a text of the
source is one statement. A statement, and a declaration behind what exports it, have the text that
they have in the source; a list of names becomes nothing. -/
structure IsGroup (source : List Char) (next : Nat) (item : Item) (nodes : List Node) : Prop where
  reads : parseScript (factory (ownText source next item)) = .ok [factoryTree nodes]
  single : item.keepsText → ∃ node, nodes = [node]
  bare : ∀ span ∈ item.bareSpan?, ownText source next item = span.text source
  listed : item.isList → nodes = []

/-- The groups of statements are those of the items, whose temporary constants are numbered from
`next` on. -/
inductive Grouped (source : List Char) : (next : Nat) → List Item → List (List Node) → Prop
  | done {next : Nat} : Grouped source next [] []
  | item {next : Nat} {item : Item} {items : List Item} {nodes : List Node}
    {groups : List (List Node)} (hgroup : IsGroup source next item nodes)
    (hrest : Grouped source (next + (Group.ofItem next item).temporaries) items groups) :
    Grouped source next (item :: items) (nodes :: groups)

/-- The body of a factory consists of the groups of the items, in their order, and of an assignment
for each deferred export behind them. -/
def KeepsBoundaries (source : List Char) (items : List Item) (code : List Char) : Prop :=
  ∃ groups, Grouped source 0 items groups ∧
    parseScript (factory code) =
      .ok [factoryTree (groups.flatten ++ (items.flatMap Item.localExports).map deferredTree)]

/-! ### Items that keep nothing -/

/-- Names of another module are exported by whole statements. -/
theorem isWhole_fromStatements {specifier : Name} {names : List ExportedName} :
    ∀ i ∈ Group.fromStatements next specifier names, i.IsWhole := by
  have hheld : Bindable (temporary next) := bindable_temporary next
  refine List.forall_mem_cons.mpr ⟨⟨List.forall_mem_singleton.mpr hheld, bindable_require _⟩, ?_⟩
  exact List.forall_mem_map.mpr fun _ _ => hheld

/-- Names are imported by whole statements. -/
theorem isWhole_importStatements {clause : ImportClause} {specifier : Name}
    (h : ∀ name ∈ clause.localNames, Bindable name) :
    ∀ i ∈ (Group.importStatements next specifier clause).1, i.IsWhole := by
  obtain ⟨hnames, hnamed⟩ := List.forall_mem_append.mp h
  obtain ⟨hdefault, hmodule⟩ := List.forall_mem_append.mp hnames
  have hrequire : Bindable (Value.required specifier).root := bindable_require specifier
  have hheld : Bindable (temporary next) := bindable_temporary next
  unfold Group.importStatements
  split
  · exact List.forall_mem_singleton.mpr ⟨hrequire, rfl⟩
  · next name hname _ _ =>
    rw [hname] at hdefault
    exact List.forall_mem_singleton.mpr ⟨hdefault, hrequire⟩
  · next name _ hname _ =>
    rw [hname] at hmodule
    exact List.forall_mem_singleton.mpr ⟨hmodule, hrequire⟩
  · exact List.forall_mem_singleton.mpr ⟨hnamed, hrequire⟩
  · have hhold : (Insertion.declare (.temporary next) (.required specifier)).IsWhole :=
      ⟨List.forall_mem_singleton.mpr hheld, hrequire⟩
    have hread {name : Name} {value : Value} (hname : Bindable name)
        (hvalue : Bindable value.root) : (Insertion.declare (.name name) value).IsWhole :=
      ⟨List.forall_mem_singleton.mpr hname, hvalue⟩
    refine List.forall_mem_append.mpr ⟨List.forall_mem_append.mpr
      ⟨List.forall_mem_cons.mpr ⟨hhold, ?_⟩, ?_⟩, ?_⟩
    · exact List.forall_mem_map.mpr fun name hmem => hread (hdefault name hmem) hheld
    · exact List.forall_mem_map.mpr fun name hmem => hread (hmodule name hmem) hheld
    · split
      · exact List.forall_mem_nil _
      · exact List.forall_mem_singleton.mpr ⟨hnamed, hheld⟩

/-- An import declares a constant first, or evaluates the module. -/
theorem exists_importStatements (next : Nat) (specifier : Name) (clause : ImportClause) :
    ∃ first more, (Group.importStatements next specifier clause).1 = first :: more ∧
      ∀ specifier, first ≠ .copyAll specifier := by
  unfold Group.importStatements
  split
  all_goals exact ⟨_, _, rfl, nofun⟩

/-- An item that keeps nothing is replaced by whole statements; a list of names, by none. The first
one copies the exports of a module only if the item does. -/
theorem exists_replacement (hkeeps : item.keepsText = false) (hnames : item.NamesBindable) :
    ∃ insertions, (Group.ofItem next item).replacements = [⟨item.span, insertions⟩] ∧
      (∀ i ∈ insertions, i.IsWhole) ∧ (item.isList → insertions = []) ∧
        (item.isList = false → item.copiesAll = false → ∃ first more, insertions = first :: more ∧
          ∀ specifier, first ≠ .copyAll specifier) := by
  match item with
  | .importing _ =>
    exact ⟨_, rfl, isWhole_importStatements hnames.imported, nofun,
      fun _ _ => exists_importStatements ..⟩
  | .exporting ⟨_, .all specifier none⟩ =>
    exact ⟨[.copyAll specifier], rfl, List.forall_mem_singleton.mpr trivial, nofun, nofun⟩
  | .exporting ⟨_, .all specifier (some name)⟩ =>
    exact ⟨[.assign name (.required specifier)], rfl,
      List.forall_mem_singleton.mpr (bindable_require specifier), nofun,
      fun _ _ => ⟨_, _, rfl, nofun⟩⟩
  | .exporting ⟨_, .fromModule _ _⟩ =>
    exact ⟨_, rfl, isWhole_fromStatements, nofun, fun _ _ => ⟨_, _, rfl, nofun⟩⟩
  | .exporting ⟨_, .names _⟩ => exact ⟨[], rfl, List.forall_mem_nil _, fun _ => rfl, nofun⟩

/-! ### One item -/

/-- What an item becomes is these statements in front of the rest of a body, if they can be read;
there a line must start if the item keeps a text that ends with its line. -/
structure LinkedItem (source : List Char) (next : Nat) (item : Item) (items : List Item)
    (reads : Prop) (nodes : List Node) : Prop where
  stands ⦃after : List Char⦄ ⦃condition : Prop⦄ ⦃behind : List Char⦄ ⦃nodes' : List Node⦄
    (hbehind : BodyIf after condition behind nodes')
    (hline : ownText source next item ≠ [] → LineBehind source item items → StartsLine behind) :
    BodyIf after (reads ∧ condition) (ownText source next item ++ behind) (nodes ++ nodes') ∧
      (item.isList = false → itemOpensLine source item →
        OpensLine (ownText source next item ++ behind))
  endsInside : EndsInside (ownText source next item)

theorem startsLine_factoryTail : StartsLine factoryTail where
  apart := rfl
  token := ⟨_, rfl, ⟨rfl, .inr rfl⟩, nofun⟩

/-- A kept text that stands where it is linked is the one statement of its item. -/
theorem isGroup_of_keepsText (hplaced : item.Placed) (hkeeps : item.keepsText)
    (hstands : StandsIf follow condition (ownText source next item) node)
    (htail : follow factoryTail) (hc : condition) (hsettled : Node.anyUnsettled [node] = false) :
    IsGroup source next item [node] where
  reads := (BodyIf.statement hstands htail (BodyIf.last_factory blank_nil.ends)).parseScript
    ⟨hc, trivial⟩ hsettled
  single _ := ⟨node, rfl⟩
  bare _ := ownText_of_mem_bareSpan? hplaced
  listed hlist := by cases hkeeps.symm.trans (Item.keepsText_of_isList hlist)

/-- An item that keeps a text is a statement if the text is. -/
theorem Stands.exists_linkedItem (h : Stands condition source item items) (next : Nat)
    (hplaced : item.Placed) (hkeeps : item.keepsText) :
    ∃ node, LinkedItem source next item items condition [node] ∧
      (condition → Node.anyUnsettled [node] = false → IsGroup source next item [node]) := by
  have hown : ownText source next item = ownText source 0 item := ownText_of_keepsText hkeeps next
  have hopens (hopens : itemOpensLine source item) := opensLine_ownText hplaced hkeeps hopens next
  cases h with
  | @itself node hstands hends =>
    rw [← hown] at hstands hends
    refine ⟨node, ⟨fun _ _ behind _ hbehind _ => ?_, hends⟩, isGroup_of_keepsText hplaced hkeeps
      hstands ((BodyIf.last_factory blank_nil.ends).fresh blank_nil)⟩
    have hfresh : Fresh behind := hbehind.fresh blank_nil
    exact ⟨.statement hstands hfresh hbehind, fun _ h => hstands.opensLine hfresh (hopens h)⟩
  | @line node hstands hends hline =>
    rw [← hown] at hstands hends
    refine ⟨node, ⟨fun _ _ behind _ hbehind hstarts => ?_, hends⟩, isGroup_of_keepsText hplaced
      hkeeps hstands startsLine_factoryTail⟩
    have hfollow : StartsLine behind := hstarts hstands.ne_nil hline
    exact ⟨.statement hstands hfollow hbehind, fun _ h => hstands.opensLine hfollow (hopens h)⟩

/-- What an item becomes is the group of the item if it can be read; a text that it keeps can be if
the condition holds. -/
theorem exists_linkedItem (next : Nat) (hplaced : item.Placed) (hnames : item.NamesBindable)
    (hstands : item.keepsText → Stands condition source item items) :
    ∃ reads nodes, LinkedItem source next item items reads nodes ∧
      (reads → item.keepsText → condition) ∧
      (reads → Node.anyUnsettled nodes = false → IsGroup source next item nodes) := by
  cases hkeeps : item.keepsText with
  | true =>
    obtain ⟨node, hlinked, hgroup⟩ := (hstands hkeeps).exists_linkedItem next hplaced hkeeps
    exact ⟨condition, [node], hlinked, fun hc _ => hc, hgroup⟩
  | false =>
    obtain ⟨insertions, hreplaced, hwhole, hlist, hhead⟩ := exists_replacement hkeeps hnames
    have hown : ownText source next item = _ := ownText_of_replacements hreplaced
    have hstands := standAllIf_insertions hwhole blank_space
    refine ⟨_, _, ⟨fun _ _ _ _ hbehind _ => ⟨hown ▸ hstands hbehind, fun hlist' hopens => ?_⟩,
      hown ▸ endsInside_insertions hwhole⟩, nofun, fun hc hsettled => ?_⟩
    · have hcopy : item.copiesAll = false := copiesAll_of_itemOpensLine hkeeps hopens
      obtain ⟨first, more, rfl, hfirst⟩ := hhead hlist' hcopy
      rw [hown]
      exact opensLine_insertions hwhole hfirst blank_space hbehind
    · refine ⟨hown ▸ hstands.parseScript hc hsettled, fun h => absurd h (by simp [hkeeps]),
        fun span => ownText_of_mem_bareSpan? hplaced, fun h => ?_⟩
      rw [hlist h, List.map_nil]

theorem anyUnsettled_append (nodes nodes' : List Node) : Node.anyUnsettled (nodes ++ nodes') =
    (Node.anyUnsettled nodes || Node.anyUnsettled nodes') := by
  induction nodes with
  | nil => rfl
  | cons node nodes ih =>
    rw [List.cons_append, Node.anyUnsettled, Node.anyUnsettled, ih, Bool.or_assoc]

/-- Blanks are kept in front of an item, which is edited apart from what stands behind it. -/
theorem spliceFrom_item {lead rest : List Char} {later : List Edit}
    (hstart : item.span.start = position + lead.length)
    (hstop : item.span.stop = item.span.start + text.length) (hplaced : item.Placed)
    (hlater : InOrder (item.span.stop + rest.length) item.span.stop later) :
    spliceFrom position ((Group.ofItem next item).edits ++ later) (lead ++ (text ++ rest)) =
      lead ++ (spliceFrom item.span.start (Group.ofItem next item).edits text ++
        spliceFrom item.span.stop later rest) := by
  have hown : InOrder (item.span.start + text.length) item.span.start
      (Group.ofItem next item).edits := hstop ▸ Group.inOrder_edits_ofItem hplaced
  have hall : InOrder (item.span.stop + rest.length) item.span.start
      ((Group.ofItem next item).edits ++ later) := (hstop ▸ hown).append hlater
  have hlead : InOrder (position + lead.length) position [] := Nat.le_add_right _ _
  rw [hstart] at hall
  rw [hstop] at hlater ⊢
  rw [← spliceFrom_append hown hlater rest, hstart]
  exact spliceFrom_append hlead hall (text ++ rest)

/-! ### Items one behind the other -/

/-- The first item is edited apart from those behind it. -/
theorem spliceFrom_groups {lead rest : List Char}
    (hstart : item.span.start = position + lead.length)
    (hstop : item.span.stop = item.span.start + text.length) (hplaced : item.Placed)
    (hrest : LaidOut item.span.stop rest items) :
    spliceFrom position (groups next (item :: items)).edits (lead ++ (text ++ rest)) =
      lead ++ (spliceFrom item.span.start (Group.ofItem next item).edits text ++
        spliceFrom item.span.stop
          (groups (next + (Group.ofItem next item).temporaries) items).edits rest) := by
  rw [groups, Group.edits_append]
  exact spliceFrom_item hstart hstop hplaced (inOrder_edits_groups (hrest.itemsInOrder rfl))

/-- What stands behind all statements of items: the rest of a body, which starts a line if the gap
in front of it does. -/
structure Concludes (after : List Char) (condition : Prop) (front gap final : List Char)
    (nodes : List Node) : Prop where
  body : BodyIf after condition final nodes
  opens : OpensLine final
  starts : front ≠ [] → StartsApart gap → StartsLine final

/-- The items from a position on are linked as the text in front of the gap: as these statements,
one behind the other, if they can be read. -/
structure LinkedItems (source : List Char) (position : Nat) (items : List Item)
    (front gap : List Char) (reads : Prop) (trees : List (List Node)) : Prop where
  isGap : Gap gap []
  endsInside : EndsInside front
  /-- Where a line starts behind an item in the source, one does in linked code. -/
  lines ⦃previous : Item⦄ (hstop : previous.span.stop = position)
    (hline : LineBehind source previous items) : front = [] ∧ StartsApart gap ∨
      ∃ lead more, front = lead ++ more ∧ Blank lead ∧ lead.any isLineBreak ∧ StartsApart lead
  stands ⦃after : List Char⦄ ⦃condition : Prop⦄ ⦃final : List Char⦄ ⦃nodes : List Node⦄
    (hfinal : Concludes after condition front gap final nodes) :
    BodyIf after (reads ∧ condition) (front ++ final) (trees.flatten ++ nodes) ∧
      ((∀ next ∈ (items.dropWhile Item.isList).head?, itemOpensLine source next) →
        OpensLine (front ++ final))

theorem startsApart_append_of_ne_nil {front : List Char} (h : StartsApart front) (hne : front ≠ [])
    (rest : List Char) : StartsApart (front ++ rest) := by
  obtain ⟨c, cs, rfl⟩ := List.exists_cons_of_ne_nil hne
  exact h

theorem ne_nil_of_any_isLineBreak {lead : List Char} (h : lead.any isLineBreak) : lead ≠ [] := by
  rintro rfl
  contradiction

namespace LinkedItems

variable {front lead : List Char} {reads reads' : Prop} {trees : List (List Node)}
  (hlines : ∀ ⦃previous : Item⦄, previous.span.stop = position →
    LineBehind source previous (item :: items) → lead.any isLineBreak ∧ StartsApart lead)
  (hitem : LinkedItem source next item items reads nodes) (hlead : Blank lead)

include hlines hitem hlead

/-- An item that becomes nothing in front of nothing is a part of the gap. -/
theorem skip (h : LinkedItems source item.span.stop items [] gap reads' trees)
    (hnil : ownText source next item = []) :
    LinkedItems source position (item :: items) [] (lead ++ gap) (reads ∧ reads')
      (nodes :: trees) where
  isGap := h.isGap.prepend hlead
  endsInside := rfl
  lines _ hstop hline := by
    obtain ⟨hbreak, hapart⟩ := hlines hstop hline
    exact .inl ⟨rfl, startsApart_append_of_ne_nil hapart (ne_nil_of_any_isLineBreak hbreak) _⟩
  stands _ _ _ _ hfinal := by
    obtain ⟨hbody, -⟩ := h.stands ⟨hfinal.body, hfinal.opens, fun hne => absurd rfl hne⟩
    obtain ⟨hread, -⟩ := hitem.stands hbody fun hne => absurd hnil hne
    rw [hnil] at hread
    refine ⟨?_, fun _ => hfinal.opens⟩
    simpa only [List.flatten_cons, List.append_assoc, List.nil_append, and_assoc] using hread

/-- Other items stand one behind the other. -/
theorem cons (h : LinkedItems source item.span.stop items front gap reads' trees)
    (hne : ownText source next item ++ front ≠ []) :
    LinkedItems source position (item :: items) (lead ++ (ownText source next item ++ front)) gap
      (reads ∧ reads') (nodes :: trees) where
  isGap := h.isGap
  endsInside := (hitem.endsInside.append h.endsInside).prepend hne lead
  lines _ hstop hline := by
    obtain ⟨hbreak, hapart⟩ := hlines hstop hline
    exact .inr ⟨lead, _, rfl, hlead, hbreak, hapart⟩
  stands _ _ final _ hfinal := by
    have hfront : lead ++ (ownText source next item ++ front) ≠ [] :=
      List.append_ne_nil_of_right_ne_nil _ hne
    obtain ⟨hbody, hopens⟩ :=
      h.stands ⟨hfinal.body, hfinal.opens, fun _ => hfinal.starts hfront⟩
    have hstarts (hline : LineBehind source item items) : StartsLine (front ++ final) := by
      obtain ⟨rfl, hapart⟩ | ⟨lead, more, rfl, hblank, hbreak, hapart⟩ := h.lines rfl hline
      · exact hfinal.starts hfront hapart
      · have hopens := hopens hline.opens
        rw [List.append_assoc] at hopens ⊢
        exact startsLine_of_opensLine hblank hbreak
          (startsApart_append_of_ne_nil hapart (ne_nil_of_any_isLineBreak hbreak) _) hopens
    obtain ⟨hread, hfirst⟩ := hitem.stands hbody fun _ => hstarts
    refine ⟨?_, fun hnext => ?_⟩
    · simpa only [List.flatten_cons, List.append_assoc, and_assoc] using hread.blank hlead
    · rw [List.append_assoc, List.append_assoc]
      refine OpensLine.blank ?_ hlead
      cases hlist : item.isList with
      | true =>
        rw [List.dropWhile_cons_of_pos hlist] at hnext
        rw [ownText_of_isList hlist]
        exact hopens hnext
      | false =>
        rw [List.dropWhile_cons_of_neg (by simp [hlist])] at hnext
        exact hfirst hlist (hnext item rfl)

end LinkedItems

/-- The line starts in the text in front of the next item. -/
theorem LineBehind.lead {previous : Item} {lead rest : List Char}
    (h : LineBehind source previous (item :: items))
    (hdrop : source.drop previous.span.stop = lead ++ rest)
    (hstart : item.span.start = previous.span.stop + lead.length) :
    lead.any isLineBreak ∧ StartsApart lead := by
  have hbreak := h.breaks item rfl
  rw [Span.text, hdrop, hstart, Nat.add_sub_cancel_left, List.take_left] at hbreak
  have hapart := h.apart
  rw [hdrop] at hapart
  obtain ⟨c, cs, rfl⟩ := List.exists_cons_of_ne_nil (ne_nil_of_any_isLineBreak hbreak)
  exact ⟨hbreak, hapart⟩

/-- The edits of items that are laid out in a text make groups of it. It can be read only if each
text that is kept can be. -/
theorem exists_linkedItems {conditions : Item → List Item → Prop} {before : List Char} (next : Nat)
    (h : LaidOut position text items) (hsource : source = before ++ text)
    (hposition : before.length = position) (hnames : ∀ item ∈ items, item.NamesBindable)
    (hstand : AllKept (fun item behind => Stands (conditions item behind) source item behind)
      items) : ∃ front gap reads trees,
      spliceFrom position (groups next items).edits text = front ++ gap ∧
      LinkedItems source position items front gap reads trees ∧
      (reads → AllKept conditions items) ∧
      (reads → Node.anyUnsettled trees.flatten = false → Grouped source next items trees) := by
  -- By induction from the last item on: where a line starts depends on what becomes of those behind.
  induction h generalizing before next with
  | @done position gap hgap =>
    refine ⟨[], gap, True, [], rfl, ⟨hgap, rfl, fun previous hstop hline => .inl ⟨rfl, ?_⟩,
      fun _ _ _ _ hfinal => ⟨?_, fun _ => hfinal.opens⟩⟩, fun _ => trivial, fun _ _ => .done⟩
    · have hapart := hline.apart
      rwa [hsource, List.drop_left' (hposition.trans hstop.symm)] at hapart
    · simpa using hfinal.body
  | @item position lead text rest item items hlead hstart hstop hplaced hrest ih =>
    obtain ⟨hname, hnames⟩ := List.forall_mem_cons.mp hnames
    obtain ⟨hend, hstand⟩ := hstand
    have hbefore : item.span.start = (before ++ lead).length := by
      rw [hstart, List.length_append, hposition]
    have hbehind : (before ++ lead ++ text).length = item.span.stop := by
      rw [List.length_append, ← hbefore, hstop]
    have hsource' : source = before ++ lead ++ text ++ rest := by simp [hsource]
    have htext : item.span.text source = text := by
      rw [hsource', List.append_assoc]
      exact Span.text_append hbefore hstop
    have hlines ⦃previous : Item⦄ (hprevious : previous.span.stop = position)
        (hline : LineBehind source previous (item :: items)) :
        lead.any isLineBreak ∧ StartsApart lead := by
      have hdrop : source.drop previous.span.stop = lead ++ (text ++ rest) := by
        rw [hsource, List.drop_left' (hposition.trans hprevious.symm)]
      exact hline.lead hdrop (hprevious ▸ hstart)
    obtain ⟨front, gap, reads', trees, hspliced, hlinked, hkept, hgrouped⟩ :=
      ih _ hsource' hbehind hnames hstand
    obtain ⟨reads, nodes, hitem, hkeeps, hgroup⟩ := exists_linkedItem next hplaced hname hend
    have hown : spliceFrom item.span.start (Group.ofItem next item).edits text =
        ownText source next item := by rw [ownText, htext]
    have hgrouped' (hc : reads ∧ reads')
        (hsettled : Node.anyUnsettled (nodes :: trees).flatten = false) :
        Grouped source next (item :: items) (nodes :: trees) := by
      rw [List.flatten_cons, anyUnsettled_append, Bool.or_eq_false_iff] at hsettled
      exact .item (hgroup hc.1 hsettled.1) (hgrouped hc.2 hsettled.2)
    rw [spliceFrom_groups hstart hstop hplaced hrest, hown, hspliced]
    by_cases hnil : ownText source next item ++ front = []
    · obtain ⟨hown, rfl⟩ := List.append_eq_nil_iff.mp hnil
      exact ⟨[], lead ++ gap, _, nodes :: trees, by simp [hown],
        hlinked.skip hlines hitem hlead hown, fun hc => ⟨hkeeps hc.1, hkept hc.2⟩, hgrouped'⟩
    · exact ⟨_, gap, _, nodes :: trees, by simp, hlinked.cons hlines hitem hlead hnil,
        fun hc => ⟨hkeeps hc.1, hkept hc.2⟩, hgrouped'⟩

/-! ### The end of the body -/

section Ending

variable {front tail : List Char} {names : List ExportedName}

theorem ClosesBody.opensLine (h : ClosesBody after ('\n' :: tail)) (hgap : EndsBlank gap) :
    OpensLine (gap ++ '\n' :: tail) := by
  intro lead hlead
  obtain ⟨next, hnext, hkind, -⟩ := h.append hlead hgap
  rw [firstKind?_eq_some.mpr ⟨next, hnext, hkind⟩]
  rfl

/-- The brace that closes a body starts a line. -/
theorem ClosesBody.startsLine (h : ClosesBody after ('\n' :: tail)) (hgap : EndsBlank gap)
    (hapart : StartsApart gap) : StartsLine (gap ++ '\n' :: tail) := by
  obtain ⟨next, hnext, hkind, -⟩ := h.append blank_nil hgap
  refine ⟨?_, next, hnext, ⟨?_, .inr ?_⟩, ?_⟩
  · cases gap with
    | nil => rfl
    | cons c gap => exact hapart
  all_goals
    rw [hkind]
    first | rfl | nofun

/-- The lines of deferred exports, without a line break behind the last one. -/
theorem deferredAssignments_eq (hnames : names ≠ []) : deferredAssignments names =
    List.intercalate ['\n'] ((names.map deferredAssignment).map Insertion.text) ++ ['\n'] := by
  induction names with
  | nil => exact absurd rfl hnames
  | cons entry names ih =>
    cases names with
    | nil => simp [deferredAssignments]
    | cons second names =>
      have hcons : deferredAssignments (entry :: second :: names) =
          (deferredAssignment entry).text ++ ['\n'] ++ deferredAssignments (second :: names) := rfl
      rw [hcons, ih (List.cons_ne_nil _ _)]
      simp only [List.map_cons, List.intercalate_cons_cons, List.append_assoc]

/-- In front of the deferred exports the gap at the end of the items is closed, and the line is
ended if it was not. -/
theorem exists_separator (hgap : Gap gap []) (hends : EndsInside front) (hnames : names ≠ []) :
    ∃ separator, withDeferred (front ++ gap) names =
        front ++ (gap ++ separator ++ deferredAssignments names) ∧
      Blank (gap ++ separator) ∧ (front ≠ [] → StartsApart gap →
        (gap ++ separator).any isLineBreak ∧ StartsApart (gap ++ separator)) := by
  unfold withDeferred
  split_ifs with hends'
  · have hlast (hnil : gap ≠ []) : gap.getLast? = some '\n' := by
      rw [List.getLast?_append_of_ne_nil _ hnil] at hends'
      exact (hends'.resolve_left hnames).resolve_left (List.append_ne_nil_of_right_ne_nil _ hnil)
    refine ⟨[], by simp, ?_, fun hfront hapart => ?_⟩
    · rw [List.append_nil]
      by_cases hnil : gap = []
      · exact hgap.blank (.inr (.inl hnil))
      · exact hgap.blank (.inr (.inr (hlast hnil)))
    · have hnil : gap ≠ [] := by
        rintro rfl
        rw [List.append_nil] at hends'
        exact hends.getLast?_ne ((hends'.resolve_left hnames).resolve_left hfront)
      rw [List.append_nil]
      exact ⟨List.any_eq_true.mpr ⟨_, List.mem_of_getLast? (hlast hnil), rfl⟩, hapart⟩
  · refine ⟨['\n'], by simp, hgap.ends.append_lineBreak, fun _ hapart => ⟨?_, ?_⟩⟩
    · rw [List.any_append]
      exact Bool.or_true _
    · cases gap with
      | nil => rfl
      | cons c gap => exact hapart

/-- **What ends a body.** Behind the gap at the end of the items stand the deferred exports; all
that stands behind these, or behind the items if there are none, is a line break or a part of the
gap. -/
theorem exists_ending (hgap : Gap gap []) (hends : EndsInside front)
    (hnames : ∀ entry ∈ names, Bindable entry.localName) : ∃ last trail,
      withDeferred (front ++ gap) names = front ++ last ++ trail ∧ EndsInside (front ++ last) ∧
      EndsBlank trail ∧ ∀ ⦃after tail gap'⦄, ClosesBody after ('\n' :: tail) → EndsBlank gap' →
        gap' <+: trail →
          Concludes after (∀ i ∈ names.map deferredAssignment, i.Writable) front gap
            (last ++ (gap' ++ '\n' :: tail)) (names.map deferredTree) := by
  have hwhole : ∀ i ∈ names.map deferredAssignment, i.IsWhole := List.forall_mem_map.mpr hnames
  have hlines {after tail gap' : List Char} (hclose : ClosesBody after ('\n' :: tail))
      (hgap' : EndsBlank gap') : BodyIf after (∀ i ∈ names.map deferredAssignment, i.Writable)
        (List.intercalate ['\n'] ((names.map deferredAssignment).map Insertion.text) ++
          (gap' ++ '\n' :: tail)) (names.map deferredTree) := by
    have hbody := standAllIf_insertions hwhole blank_lineBreak (BodyIf.last hclose hgap')
    have htrees : (names.map deferredAssignment).map Insertion.tree = names.map deferredTree :=
      List.map_map
    rwa [and_true, List.append_nil, htrees] at hbody
  by_cases hnone : names = []
  · subst hnone
    refine ⟨[], gap, by simp [withDeferred, deferredAssignments], by simpa using hends, hgap.ends,
      fun _ _ gap' hclose hgap' hprefix => ⟨hlines hclose hgap', hclose.opensLine hgap',
        fun _ hapart => hclose.startsLine hgap' ?_⟩⟩
    obtain ⟨rest, rfl⟩ := hprefix
    cases gap' with
    | nil => rfl
    | cons c gap' => exact hapart
  · obtain ⟨separator, hcode, hblank, hstarts⟩ := exists_separator hgap hends hnone
    obtain ⟨entry, more, rfl⟩ := List.exists_cons_of_ne_nil hnone
    set lines := List.intercalate ['\n'] (((entry :: more).map deferredAssignment).map
      Insertion.text)
    have hclosed : EndsClosed lines := endsClosed_insertions hwhole
    refine ⟨gap ++ separator ++ lines, ['\n'], ?_, ?_, blank_lineBreak.ends,
      fun _ _ gap' hclose hgap' _ => ?_⟩
    · rw [hcode, deferredAssignments_eq hnone]
      simp only [lines, List.append_assoc]
    · exact .of_endsClosed ((hclosed.append _).append _)
    · have hcopy (specifier : Name) : deferredAssignment entry ≠ .copyAll specifier :=
        Insertion.noConfusion
      have hopens : OpensLine (lines ++ (gap' ++ '\n' :: _)) :=
        opensLine_insertions hwhole hcopy blank_lineBreak (BodyIf.last hclose hgap')
      rw [List.append_assoc]
      refine ⟨(hlines hclose hgap').blank hblank, hopens.blank hblank, fun hfront hapart => ?_⟩
      obtain ⟨hbreak, hapart⟩ := hstarts hfront hapart
      exact startsLine_of_opensLine hblank hbreak
        (startsApart_append_of_ne_nil hapart (ne_nil_of_any_isLineBreak hbreak) _)
        (hopens.blank hblank)

end Ending

/-! ### The whole module -/

theorem factoryTree_injective (h : factoryTree nodes = factoryTree nodes') : nodes = nodes' := by
  simpa [factoryTree, functionTree] using h

/-- Code that starts with `#!` is no body of a factory. -/
theorem not_parseScript_factory_shebang {more : List Char} {trees : List Node} :
    parseScript (factory ('#' :: '!' :: more)) ≠ .ok trees := by
  have herror : ∃ fault, scanToken .script ('\n' :: ('#' :: '!' :: more) ++ factoryTail) =
      .error fault := ⟨_, rfl⟩
  obtain ⟨fault, herror⟩ := herror
  exact not_parseScript_factory_of_error herror

/-- **Linked code is read item by item**, if each text that is kept stands under a condition where
it is linked, and wherever it stands as the body of a function, with or without the blanks at its
end. -/
theorem exists_linkedBody {conditions : Item → List Item → Prop} {specifiers : List Name}
    (hlinks : Links source items specifiers code)
    (hstand : AllKept (fun item behind => Stands (conditions item behind) source item behind)
      items) : ∃ kept trail reads trees, code = kept ++ trail ∧ EndsInside kept ∧
      EndsBlank trail ∧
      (∀ ⦃after tail gap⦄, ClosesBody after ('\n' :: tail) → EndsBlank gap → gap <+: trail →
        BodyIf after reads (kept ++ (gap ++ '\n' :: tail))
          (trees.flatten ++ (items.flatMap Item.localExports).map deferredTree)) ∧
      (reads → AllKept conditions items) ∧
      (reads → Node.anyUnsettled trees.flatten = false → Grouped source 0 items trees) := by
  obtain ⟨line, hsource, hline, hlaid⟩ := exists_laidOut hlinks.parsed
  obtain ⟨read, haccepted⟩ := hlinks.accepted
  have hnames := namesBindable_of_parseModule hlinks.parsed
  have hlinked : code = withDeferred (splice (groups 0 items).edits source)
      (items.flatMap Item.localExports) := by
    rw [hlinks.code_eq, linkedCode, Group.deferred_groups]
  -- The first line stays where it is, since all items stand behind it.
  have hbody : splice (groups 0 items).edits source =
      line ++ spliceFrom line.length (groups 0 items).edits (skipShebang source) := by
    have hline' : InOrder (0 + line.length) 0 [] := Nat.le_add_right 0 line.length
    have hedits : InOrder (line.length + (skipShebang source).length) (0 + line.length)
        (groups 0 items).edits :=
      (Nat.zero_add line.length).symm ▸ inOrder_edits_groups (hlaid.itemsInOrder rfl)
    have hkept := spliceFrom_append hline' hedits (skipShebang source)
    rw [← hsource, Nat.zero_add] at hkept
    exact hkept
  obtain rfl | ⟨more, rfl⟩ := hline
  · have hexports : ∀ entry ∈ items.flatMap Item.localExports, Bindable entry.localName := by
      intro entry hmem
      obtain ⟨item, hitem, hentry⟩ := List.mem_flatMap.mp hmem
      exact (hnames item hitem).exported entry hentry
    obtain ⟨front, gap, reads, trees, hspliced, hitems, hkept, hgrouped⟩ :=
      exists_linkedItems 0 hlaid hsource rfl hnames hstand
    obtain ⟨last, trail, hcode, hends, htrail, hconcludes⟩ :=
      exists_ending hitems.isGap hitems.endsInside hexports
    let writable : Prop :=
      ∀ i ∈ (items.flatMap Item.localExports).map deferredAssignment, i.Writable
    refine ⟨front ++ last, trail, reads ∧ writable, trees, ?_, hends, htrail,
      fun _ _ _ hclose hgap hprefix => ?_, fun hc => hkept hc.1, fun hc => hgrouped hc.1⟩
    · rw [hlinked, hbody, List.nil_append, hspliced, hcode]
    · rw [List.append_assoc]
      exact (hitems.stands (hconcludes hclose hgap hprefix)).1
  · rw [hlinked, hbody] at haccepted
    exact absurd haccepted not_parseScript_factory_shebang

/-- These conditions hold if the module is linked, and its code keeps the boundaries of the
items. -/
theorem allKept_and_keepsBoundaries {conditions : Item → List Item → Prop}
    {specifiers : List Name} (hlinks : Links source items specifiers code)
    (hstand : AllKept (fun item behind => Stands (conditions item behind) source item behind)
      items) :
    AllKept conditions items ∧ KeepsBoundaries source items code := by
  obtain ⟨read, haccepted⟩ := hlinks.accepted
  obtain ⟨kept, trail, reads, trees, rfl, -, htrail, hbody, hkept, hgrouped⟩ :=
    exists_linkedBody hlinks hstand
  have hread := hbody closesBody_factoryTail htrail List.prefix_rfl
  rw [← List.append_assoc] at hread
  obtain ⟨hc, rfl, hsettled⟩ := BodyIf.of_parseScript hread haccepted
  rw [anyUnsettled_append, Bool.or_eq_false_iff] at hsettled
  exact ⟨hkept hc, trees, hgrouped hc hsettled.1, haccepted⟩

/-- What is set apart stands where it is linked. -/
theorem SetApart.stands (h : SetApart source items) (hplaced : ∀ item ∈ items, item.Placed) :
    AllKept (fun item behind => Stands True source item behind) items :=
  h.imp fun item hmem _ ⟨_, happart⟩ => happart.stands (hplaced item hmem) staysIf_bodyFlags

/-- **Linked code keeps the boundaries of the items** of the module, if what it keeps of the source
is set apart: the body of its factory consists of the statements that each item becomes on its own,
one behind the other, and of the deferred exports. -/
theorem keepsBoundaries {specifiers : List Name} (hitems : parseModule source = .ok items)
    (hcode : analyzeChars source = .ok (specifiers, code))
    (happart : SetApart source items) :
    KeepsBoundaries source items code := by
  obtain ⟨items', hlinks⟩ := analyzeChars_eq_ok_iff.mp hcode
  obtain rfl := Except.ok.inj (hitems.symm.trans hlinks.parsed)
  have hplaced := (itemsInOrder_of_parseModule hitems).placed
  exact (allKept_and_keepsBoundaries hlinks (happart.stands hplaced)).2

/-! ### Statements with and without a semicolon -/

/-- A module with an import, two statements without semicolons, the second of which starts with an
operator, a constant with one, a copy of all exports of another module, an export of the constant
and a default export without a name. -/
def apartSource : List Char :=
  "import d from './y.js'\na\n!b\nconst f = d;\nexport * from './x.js'\n".toList ++
    "export \x7b f \x7d\nexport default function () \x7b\x7d\n".toList

/-- The expression as a statement. -/
def evaluateTree (node : Node) : Node :=
  .mk .expressionStatement [node]

/-- A function without a name that does nothing. -/
def anonymousTree : Node :=
  .mk (.function Parser.plainForm) [.absent, .mk .parameters [], .mk .functionBody []]

/-- The declaration of a constant with the value of a name. -/
def constantTree (target value : Name) : Node :=
  .mk (.variableList .constant) [.mk .declarator [nameTree target, nameTree value]]

/-- The items of the module. -/
def apartItems : List Item :=
  [.importing ⟨⟨0, 22⟩, none, "./y.js".toList, ⟨some ['d'], none, []⟩⟩,
    .statement ⟨23, 24⟩ (evaluateTree (nameTree ['a'])),
    .statement ⟨25, 27⟩ (evaluateTree (.mk (.unary .not) [nameTree ['b']])),
    .statement ⟨28, 40⟩ (constantTree ['f'] ['d']),
    .exporting ⟨⟨41, 63⟩, .all "./x.js".toList none⟩,
    .exporting ⟨⟨64, 76⟩, .names [⟨['f'], ['f']⟩]⟩,
    .exporting ⟨⟨77, 106⟩, .defaultValue ⟨92, 106⟩ anonymousTree⟩]

/-- Its linked code. -/
def apartCode : List Char :=
  "const d = require(\"./y.js\").default;\na\n!b\nconst f = d;\n".toList ++
    (copyAllText "./x.js".toList ++
      "\n\nexports.default = function () \x7b\x7d;\nexports.f = f;\n".toList)

/-- What is assigned to the default export. -/
def defaultTree : Node :=
  .mk (.assign none) [(exportMember Script.defaultName).tree, anonymousTree]

/-- The statements without semicolons stand in front of lines that go on with nothing. -/
theorem setApart_apart : SetApart apartSource apartItems := by
  have hname : IsOpen Parser.Reads.bodyFlags ['a'] (evaluateTree (nameTree ['a'])) := by
    refine ⟨⟨rfl, rfl, ?_⟩, rfl, ⟨'a', rfl, by decide⟩, by decide⟩
    decide +kernel
  have hnot : IsOpen Parser.Reads.bodyFlags ['!', 'b']
      (evaluateTree (.mk (.unary .not) [nameTree ['b']])) := by
    refine ⟨⟨rfl, rfl, ?_⟩, rfl, ⟨'b', rfl, by decide⟩, by decide⟩
    decide +kernel
  have hconstant : IsOpen Parser.Reads.bodyFlags "const f = d".toList
      (constantTree ['f'] ['d']) := by
    refine ⟨⟨rfl, rfl, ?_⟩, rfl, ⟨'d', rfl, by decide⟩, by decide⟩
    decide +kernel
  have hdefault : IsOpen Parser.Reads.bodyFlags
      "exports.default = function () \x7b\x7d".toList (evaluateTree defaultTree) := by
    refine ⟨⟨rfl, rfl, ?_⟩, rfl, ⟨'\x7d', rfl, by decide⟩, by decide⟩
    decide +kernel
  refine ⟨nofun, fun _ => ⟨_, .inr ⟨hname, ?_, ?_, ?_⟩⟩, fun _ => ⟨_, .inr ⟨hnot, ?_, ?_, ?_⟩⟩,
    fun _ => ⟨_, .inl (.semicolon hconstant blank_nil rfl)⟩, nofun, nofun,
    fun _ => ⟨_, hdefault⟩, trivial⟩
  all_goals decide +kernel

theorem keepsBoundaries_apart : parseModule apartSource = .ok apartItems ∧
    analyzeChars apartSource = .ok (["./y.js".toList, "./x.js".toList], apartCode) ∧
      SetApart apartSource apartItems ∧ KeepsBoundaries apartSource apartItems apartCode := by
  have hitems : parseModule apartSource = .ok apartItems := by decide +kernel
  have hcode : analyzeChars apartSource =
      .ok (["./y.js".toList, "./x.js".toList], apartCode) := by decide +kernel
  exact ⟨hitems, hcode, setApart_apart, keepsBoundaries hitems hcode setApart_apart⟩

/-- A constant without a semicolon in front of a copy of all exports of another module. -/
def mergedSource : List Char :=
  "const f = g\nexport * from './x.js'\n".toList

/-- The items of the module. -/
def mergedItems : List Item :=
  [.statement ⟨0, 11⟩ (constantTree ['f'] ['g']),
    .exporting ⟨⟨12, 34⟩, .all "./x.js".toList none⟩]

/-- Its linked code. -/
def mergedCode : List Char :=
  linkedCode mergedSource (groups 0 mergedItems)

/-- The declaration of a constant, whose value is a call of what the constant should have been. -/
def mergedTree : Node :=
  let called : Node := .mk .call [nameTree ['g'], .mk (.arguments false) [copierTree]]
  let value : Node :=
    .mk .call [called, .mk (.arguments false) [(Value.required "./x.js".toList).tree]]
  .mk (.variableList .constant) [.mk .declarator [nameTree ['f'], value]]

/-- **Without a semicolon the constant is merged** with the export behind it: the analysis succeeds,
but the body is a single statement, while the export becomes one on its own. -/
theorem not_keepsBoundaries_merged : parseModule mergedSource = .ok mergedItems ∧
    analyzeChars mergedSource = .ok (["./x.js".toList], mergedCode) ∧
      parseScript (factory mergedCode) = .ok [factoryTree [mergedTree]] ∧
        ¬KeepsBoundaries mergedSource mergedItems mergedCode := by
  have hread : parseScript (factory mergedCode) = .ok [factoryTree [mergedTree]] := by
    decide +kernel
  have hcopy : parseScript (factory (copyAllText "./x.js".toList)) =
      .ok [factoryTree [copyAllTree "./x.js".toList]] := by decide +kernel
  refine ⟨by decide +kernel, by decide +kernel, hread, ?_⟩
  rintro ⟨trees, hgrouped, hbody⟩
  have hflat : trees.flatten ++ [] = [mergedTree] :=
    factoryTree_injective (List.singleton_inj.mp (Except.ok.inj (hbody.symm.trans hread)))
  cases hgrouped with
  | item hconstant hrest =>
    cases hrest with
    | item hexport hnone =>
      cases hnone
      obtain ⟨node, rfl⟩ := hconstant.single rfl
      -- The constant is the one statement, so nothing is left for the export.
      rw [List.append_nil, List.flatten_cons, List.flatten_singleton] at hflat
      obtain ⟨-, rfl⟩ := List.cons.inj hflat
      have hempty := hexport.reads.symm.trans hcopy
      cases factoryTree_injective (List.singleton_inj.mp (Except.ok.inj hempty))

end ModuleBundler.Linking
