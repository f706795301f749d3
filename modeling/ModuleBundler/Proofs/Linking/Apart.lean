import ModuleBundler.Proofs.Linking.Alone
import ModuleBundler.Proofs.Linking.Layout
import ModuleBundler.Proofs.Linking.Standing

/-!
# Items that are set apart

What linking keeps of an item is read in linked code with other things around it than in the source.
It ends where it ended if it has a brace or a semicolon of its own at its end. Without one it ends
with its line, if what stands on the next line goes on with no expression. What that is follows from
the kind of the next item: of all that linking inserts, only the copy of all exports of a module,
which starts with a parenthesis, goes on with an expression in front of it.

## Main definitions

* `ownText` — the text that an item becomes.
* `EndsItself`, `IsOpen` — texts that end with a brace or a semicolon, and those that lack one.
* `LineBehind` — items behind which a line starts that goes on with nothing.
* `SetApart` — modules whose kept texts end in front of what is linked behind them.

## Main results

* `EndsItself.runs`, `IsOpen.runs` — such texts are statements wherever they stand, or in front of
  such a line.
* `endsItself_anonymous` — a default export without a name gets its semicolon from linking.
* `StandsApart.stands` — what stands apart is a statement where it is linked.
-/

namespace ModuleBundler.Script

open Linking

/-- Does a text of the source stay when the item is linked? -/
def Item.keepsText : Item → Bool
  | .statement _ _ | .exporting ⟨_, .declaration _ _⟩ | .exporting ⟨_, .defaultValue _ _⟩ => true
  | .importing _ | .exporting _ => false

/-- Is the item a list of names of the module, which are exported? -/
def Item.isList : Item → Bool
  | .exporting ⟨_, .names _⟩ => true
  | _ => false

/-- Does the item export all that another module exports? -/
def Item.copiesAll : Item → Bool
  | .exporting ⟨_, .all _ none⟩ => true
  | _ => false

theorem Item.keepsText_of_isList {item : Item} (h : item.isList) : item.keepsText = false := by
  match item with
  | .exporting ⟨_, .names _⟩ => rfl

/-- What stays of an item that is a statement, or that exports a declaration by its names. -/
def Item.bareSpan? : Item → Option Span
  | .statement span _ => some span
  | .exporting ⟨span, .declaration start _⟩ => some ⟨start, span.stop⟩
  | .exporting ⟨span, .defaultValue value node⟩ =>
    if Group.isDeclaration node ∧ node.declaredNames ≠ [] then
      some ⟨value.start, span.stop⟩
    else none
  | .importing _ | .exporting _ => none

/-- The function or class without a name that an item exports as its default. -/
def Item.anonymousSpan? : Item → Option Span
  | .exporting ⟨span, .defaultValue value node⟩ =>
    if Group.isDeclaration node ∧ node.declaredNames = [] ∧ value.stop = span.stop then some value
    else none
  | .importing _ | .statement _ _ | .exporting _ => none

/-- The end of a span from a position in it on. -/
theorem Span.drop_text {start middle stop : Nat} (h : start ≤ middle) (source : List Char) :
    (text ⟨start, stop⟩ source).drop (middle - start) = text ⟨middle, stop⟩ source := by
  have hlength : stop - start - (middle - start) = stop - middle := by omega
  show ((source.drop start).take (stop - start)).drop (middle - start) = _
  rw [List.drop_take, List.drop_drop, hlength, Nat.add_sub_cancel' h]
  rfl

/-- What stands at a span between two stretches. -/
theorem Span.text_append {before text after : List Char} {span : Span}
    (hstart : span.start = before.length) (hstop : span.stop = span.start + text.length) :
    span.text (before ++ (text ++ after)) = text := by
  rw [Span.text, hstart, List.drop_left, hstop, hstart, Nat.add_sub_cancel_left, List.take_left]

end ModuleBundler.Script

namespace ModuleBundler.Linking

open Script Text

variable {condition : Prop} {source text gap lead tail chars : List Char} {node : Node}
  {next : Nat} {item : Item} {items : List Item} {insertion : Insertion} {value : Span}
  {follow : List Char → Prop} {flags : Flags}

/-! ### What an item becomes -/

/-- The text that stands in place of an item. -/
def ownText (source : List Char) (next : Nat) (item : Item) : List Char :=
  spliceFrom item.span.start (Group.ofItem next item).edits (item.span.text source)

/-- A text that is kept has no temporary constants in it. -/
theorem ownText_of_keepsText (h : item.keepsText) (next : Nat) :
    ownText source next item = ownText source 0 item := by
  match item with
  | .statement _ _ | .exporting ⟨_, .declaration _ _⟩ | .exporting ⟨_, .defaultValue _ _⟩ => rfl

/-- A text that is replaced as a whole. -/
theorem ownText_of_replacements {insertions : List Insertion}
    (h : (Group.ofItem next item).replacements = [⟨item.span, insertions⟩]) :
    ownText source next item = List.intercalate [' '] (insertions.map Insertion.text) := by
  have hedits : (Group.ofItem next item).edits =
      [⟨item.span.start, item.span.stop, List.intercalate [' '] (insertions.map Insertion.text)⟩] :=
    congrArg (List.map Replacement.edit) h
  have hnone : (item.span.text source).drop (item.span.stop - item.span.start) = [] :=
    List.drop_of_length_le (List.length_take_le _ _)
  rw [ownText, hedits]
  simp [spliceFrom, hnone]

/-- A list of names becomes nothing. -/
theorem ownText_of_isList (h : item.isList) : ownText source next item = [] := by
  match item with
  | .exporting ⟨span, .names names⟩ =>
    have hreplaced : (Group.ofItem next (.exporting ⟨span, .names names⟩)).replacements =
        [⟨span, []⟩] := rfl
    exact ownText_of_replacements hreplaced

/-- What is removed at the start of a span leaves the rest of it. -/
theorem spliceFrom_head {start middle stop : Nat} (h : start ≤ middle) (source : List Char) :
    spliceFrom start [⟨start, middle, []⟩] (Span.text ⟨start, stop⟩ source) =
      Span.text ⟨middle, stop⟩ source := by
  simp [spliceFrom, Span.drop_text h]

/-- A statement stays as it is, and a declaration that is exported by its names stays without what
stands in front of it. -/
theorem ownText_of_mem_bareSpan? {span : Span} (hplaced : item.Placed)
    (h : span ∈ item.bareSpan?) : ownText source next item = span.text source := by
  match item with
  | .statement _ _ =>
    obtain rfl := Option.some.inj h
    rfl
  | .exporting ⟨_, .declaration _ _⟩ =>
    obtain rfl := Option.some.inj h
    exact spliceFrom_head hplaced.2.1 source
  | .exporting ⟨whole, .defaultValue value node⟩ =>
    simp only [Item.bareSpan?, Option.mem_def, Option.ite_none_right_eq_some] at h
    obtain ⟨⟨hdeclaration, hnames⟩, h⟩ := h
    obtain rfl := Option.some.inj h
    obtain ⟨name, names, hnames⟩ := List.exists_cons_of_ne_nil hnames
    have hedits : (Group.ofItem next (.exporting ⟨whole, .defaultValue value node⟩)).edits =
        [⟨whole.start, value.start, []⟩] := by
      show (Group.ofDefault whole.start value node).edits = _
      rw [Group.ofDefault, if_pos hdeclaration, hnames]
      rfl
    rw [ownText, hedits]
    exact spliceFrom_head hplaced.2.1 source

/-- All other texts that are kept are assigned to the default export. -/
theorem exists_ownText_openDefault (hkeeps : item.keepsText) (hbare : item.bareSpan? = none) :
    ∃ rest, ownText source next item = Insertion.openDefault.text ++ rest := by
  match item with
  | .exporting ⟨whole, .defaultValue value node⟩ =>
    have hedits : ∃ edits,
        (Group.ofItem next (.exporting ⟨whole, .defaultValue value node⟩)).edits =
          ⟨whole.start, value.start, Insertion.openDefault.text⟩ :: edits := by
      show ∃ edits, (Group.ofDefault whole.start value node).edits = _
      rw [Group.ofDefault]
      split_ifs with hdeclaration
      · have hnames : node.declaredNames = [] := by
          by_contra hnames
          rw [Item.bareSpan?, if_pos ⟨hdeclaration, hnames⟩] at hbare
          contradiction
        rw [hnames]
        exact ⟨_, rfl⟩
      · exact ⟨_, rfl⟩
    obtain ⟨edits, hedits⟩ := hedits
    refine ⟨spliceFrom value.start edits ((whole.text source).drop (value.start - whole.start)), ?_⟩
    show spliceFrom whole.start _ (whole.text source) = _
    rw [hedits]
    simp [spliceFrom]

/-- A function or class without a name stands between what linking puts around it. -/
theorem ownText_of_mem_anonymousSpan? (hplaced : item.Placed) (h : value ∈ item.anonymousSpan?) :
    ownText source next item =
      Insertion.openDefault.text ++ (value.text source ++ Insertion.closeDefault.text) := by
  match item with
  | .exporting ⟨whole, .defaultValue span node⟩ =>
    simp only [Item.anonymousSpan?, Option.mem_def, Option.ite_none_right_eq_some] at h
    obtain ⟨⟨hdeclaration, hnames, hstop⟩, h⟩ := h
    obtain rfl := Option.some.inj h
    have hedits : (Group.ofItem next (.exporting ⟨whole, .defaultValue span node⟩)).edits =
        [⟨whole.start, span.start, Insertion.openDefault.text⟩,
          ⟨span.stop, span.stop, Insertion.closeDefault.text⟩] := by
      show (Group.ofDefault whole.start span node).edits = _
      rw [Group.ofDefault, if_pos hdeclaration, hnames]
      simp [Group.edits, Replacement.edit]
    have hvalue : (whole.text source).drop (span.start - whole.start) = span.text source := by
      obtain ⟨start, stop⟩ := span
      obtain ⟨start', stop'⟩ := whole
      obtain rfl : stop = stop' := hstop
      exact Span.drop_text hplaced.2.1 source
    have hlength : (span.text source).length ≤ span.stop - span.start := List.length_take_le _ _
    rw [ownText, hedits]
    show spliceFrom whole.start _ (whole.text source) = _
    simp [spliceFrom, hvalue, List.take_of_length_le hlength, List.drop_of_length_le hlength]

/-! ### Texts that are kept -/

/-- The text does not end with a blank. -/
def EndsInside (text : List Char) : Prop :=
  text.getLast?.all fun c => !isBlank c

instance : Decidable (EndsInside text) :=
  inferInstanceAs (Decidable (_ = _))

theorem EndsInside.append {text' : List Char} (h : EndsInside text) (h' : EndsInside text') :
    EndsInside (text ++ text') := by
  by_cases hnil : text' = []
  · rwa [hnil, List.append_nil]
  · rwa [EndsInside, List.getLast?_append_of_ne_nil _ hnil]

theorem EndsInside.prepend (h : EndsInside text) (hne : text ≠ []) (front : List Char) :
    EndsInside (front ++ text) := by
  rwa [EndsInside, List.getLast?_append_of_ne_nil _ hne]

theorem EndsInside.of_endsClosed (h : EndsClosed text) : EndsInside text := by
  obtain ⟨c, hlast, hfinal⟩ := Option.any_eq_true _ _ |>.mp h
  rw [EndsInside, hlast]
  simp only [isFinal, Bool.or_eq_true, beq_iff_eq] at hfinal
  obtain rfl | rfl := hfinal <;> rfl

theorem EndsInside.getLast?_ne (h : EndsInside text) : text.getLast? ≠ some '\n' := by
  intro hlast
  rw [EndsInside, hlast] at h
  contradiction

/-- The text is one statement on its own that has no semicolon at its end, and to which one
belongs. -/
structure IsOpen (flags : Flags) (text : List Char) (node : Node) : Prop where
  reads : ReadsAlone flags text node
  ending : node.ending = .semicolon
  endsOpen : EndsOpen text
  endsInside : EndsInside text

/-- The text is one statement on its own, which ends with a brace or with a semicolon. -/
inductive EndsItself (flags : Flags) : (text : List Char) → (node : Node) → Prop
  | brace {text : List Char} {node : Node} (h : ReadsAlone flags text node)
    (hending : node.ending = .brace) : EndsItself flags text node
  | semicolon {text gap : List Char} {node : Node} (h : IsOpen flags text node) (hgap : Blank gap)
    (hapart : StartsApart (gap ++ [';'])) : EndsItself flags (text ++ (gap ++ [';'])) node

/-- **A text that ends itself is one statement wherever it stands.** -/
theorem EndsItself.runs (h : EndsItself flags text node) : Runs flags Fresh text node := by
  cases h with
  | brace hreads hending => exact hreads.runs_of_brace hending
  | semicolon hopen hgap hapart =>
    exact hopen.reads.runs_of_semicolon hopen.ending hopen.endsOpen hgap hapart

/-- It parts itself from what stands behind it. -/
theorem EndsItself.endsClosed (h : EndsItself flags text node) : EndsClosed text := by
  cases h with
  | brace hreads hending => exact hreads.endsClosed_of_brace hending
  | semicolon hopen hgap hapart =>
    have hclosed : EndsClosed [';'] := rfl
    exact (hclosed.append _).append _

/-- **A text without a semicolon is one statement where its line ends.** -/
theorem IsOpen.runs (h : IsOpen flags text node) : Runs flags StartsLine text node :=
  h.reads.runs_of_line h.ending h.endsOpen

/-- **A default export without a name ends itself**: linking puts a semicolon behind it. -/
theorem endsItself_anonymous (hplaced : item.Placed) (h : value ∈ item.anonymousSpan?)
    (hopen : IsOpen flags (Insertion.openDefault.text ++ value.text source) node) :
    EndsItself flags (ownText source next item) node := by
  have hclose : Insertion.closeDefault.text = [] ++ [';'] := rfl
  rw [ownText_of_mem_anonymousSpan? hplaced h, ← List.append_assoc, hclose]
  exact .semicolon hopen blank_nil rfl

/-! ### Lines -/

/-- Can a token of the kind start a line behind a statement without a semicolon? It goes on with no
expression, and is no semicolon itself. -/
def opensLine (kind : TokenKind) : Bool :=
  !kind.goesOn && kind != .punct .semicolon

/-- Behind all blanks the text starts with such a token. -/
def OpensLine (chars : List Char) : Prop :=
  ∀ lead, Blank lead → (firstKind? (lead ++ chars)).any opensLine

theorem OpensLine.blank (h : OpensLine chars) (hgap : Blank gap) : OpensLine (gap ++ chars) := by
  intro lead hlead
  rw [← List.append_assoc]
  exact h (lead ++ gap) (hlead.append hgap)

/-- A text that stands somewhere starts there with its first token. -/
theorem StandsIf.opensLine (h : StandsIf follow condition text node) (htail : follow tail)
    (hfirst : (firstKind? text).any opensLine) : OpensLine (text ++ tail) := by
  intro lead hlead
  rwa [h.starts hlead htail]

/-- Behind blanks with a line break in them such a token starts a line. -/
theorem startsLine_of_opensLine (hgap : Blank gap) (hbreak : gap.any isLineBreak)
    (hapart : StartsApart (gap ++ chars)) (h : OpensLine (gap ++ chars)) :
    StartsLine (gap ++ chars) := by
  have hkind : (firstKind? (gap ++ chars)).any Linking.opensLine := h [] blank_nil
  rw [Option.any_eq_true] at hkind
  obtain ⟨kind, hkind, hopens⟩ := hkind
  obtain ⟨first, hfirst, rfl⟩ := firstKind?_eq_some.mp hkind
  rw [Linking.opensLine, Bool.and_eq_true, Bool.not_eq_true', bne_iff_ne] at hopens
  have hnewline : first.token.newline = true := hgap.newline_of_scanToken hbreak hfirst
  exact ⟨hapart, first, hfirst, ⟨hopens.1, .inl hnewline⟩, hopens.2⟩

theorem firstKind?_of_scanToken {first : Lexeme}
    (h : scanToken .script ([] ++ (text ++ [])) = .ok first) :
    firstKind? text = some first.token.kind := by
  rw [List.nil_append, List.append_nil] at h
  exact firstKind?_eq_some.mpr ⟨first, h, rfl⟩

/-- **All that linking inserts starts a line**, but for the copies of all exports of a module. -/
theorem Insertion.opensLine (hwhole : insertion.IsWhole)
    (h : ∀ specifier, insertion ≠ .copyAll specifier) :
    (firstKind? insertion.text).any opensLine := by
  cases insertion with
  | evaluate value =>
    obtain ⟨newline, hscan⟩ := exists_scanToken_evaluate blank_nil hwhole.1 []
    rw [hwhole.2] at hscan
    rw [firstKind?_of_scanToken hscan]
    rfl
  | declare target value =>
    obtain ⟨newline, hscan⟩ := exists_scanToken_declare blank_nil target.text value.text []
    rw [Insertion.text, firstKind?_of_scanToken hscan]
    rfl
  | assign exported value =>
    obtain ⟨newline, hscan⟩ := exists_scanToken_assign blank_nil exported value.text []
    rw [Insertion.text, firstKind?_of_scanToken hscan]
    rfl
  | copyAll specifier => exact absurd rfl (h specifier)
  | openDefault | closeDefault => exact hwhole.elim

/-- So does what is assigned to the default export. -/
theorem opensLine_openDefault (rest : List Char) :
    (firstKind? (Insertion.openDefault.text ++ rest)).any opensLine := by
  have htext : Insertion.openDefault.text = "exports.default = ".toList := by decide
  have hscan : scanToken .script ("exports.default = ".toList ++ rest) =
      .ok (lexeme ⟨"exports.default = ".toList ++ rest, false⟩ (.word none)
        (".default = ".toList ++ rest) exportsObject false) := rfl
  rw [htext, firstKind?_eq_some.mpr ⟨_, hscan, rfl⟩]
  rfl

/-! ### Items one behind the other -/

/-- Does the item start a line when it is linked? All that linking inserts does, but for the copies
of all exports of a module; a text that is kept with nothing put in front of it may do so by its
first token. -/
def itemOpensLine (source : List Char) (item : Item) : Bool :=
  match item.bareSpan? with
  | some span => (firstKind? (span.text source)).any opensLine
  | none => !item.copiesAll

theorem copiesAll_of_itemOpensLine (hkeeps : item.keepsText = false)
    (h : itemOpensLine source item) : item.copiesAll = false := by
  match item with
  | .exporting ⟨_, .all _ none⟩ => exact absurd h Bool.false_ne_true
  | .importing _ | .exporting ⟨_, .all _ (some _)⟩ => rfl
  | .exporting ⟨_, .fromModule _ _⟩ | .exporting ⟨_, .names _⟩ => rfl

/-- Another line starts behind the item in the source, and the next item that becomes something goes
on with nothing when it is linked there. -/
structure LineBehind (source : List Char) (item : Item) (items : List Item) : Prop where
  apart : StartsApart (source.drop item.span.stop)
  breaks : ∀ next ∈ items.head?,
    (Span.text ⟨item.span.stop, next.span.start⟩ source).any isLineBreak
  opens : ∀ next ∈ (items.dropWhile Item.isList).head?, itemOpensLine source next

/-- The text that an item keeps is one statement on its own, which ends in front of what is linked
behind it. It ends itself, for which the semicolon of a default export without a name is put there
by linking; or it lacks a semicolon, and a line starts behind it. -/
def StandsApart (flags : Flags) (source : List Char) (item : Item) (items : List Item)
    (node : Node) : Prop :=
  match item.anonymousSpan? with
  | some value => IsOpen flags (Insertion.openDefault.text ++ value.text source) node
  | none => EndsItself flags (ownText source 0 item) node ∨
      IsOpen flags (ownText source 0 item) node ∧ LineBehind source item items

/-- Each item that keeps a text of the source is related so to the items behind it. -/
def AllKept (related : Item → List Item → Prop) : List Item → Prop
  | [] => True
  | item :: items => (item.keepsText → related item items) ∧ AllKept related items

/-- Every text that is kept of the source stands apart. -/
def SetApart (source : List Char) (items : List Item) : Prop :=
  AllKept (fun item behind => ∃ node, StandsApart Parser.Reads.bodyFlags source item behind node)
    items

theorem AllKept.imp {related related' : Item → List Item → Prop} (h : AllKept related items)
    (himp : ∀ item ∈ items, ∀ behind, related item behind → related' item behind) :
    AllKept related' items := by
  induction items with
  | nil => trivial
  | cons item items ih =>
    obtain ⟨hfirst, hrest⟩ := List.forall_mem_cons.mp himp
    exact ⟨fun hkeeps => hfirst items (h.1 hkeeps), ih h.2 hrest⟩

theorem AllKept.of_append {related : Item → List Item → Prop} {before behind : List Item}
    (h : AllKept related (before ++ item :: behind)) (hkeeps : item.keepsText) :
    related item behind := by
  induction before with
  | nil => exact h.1 hkeeps
  | cons first before ih => exact ih h.2

/-- What the item keeps is a statement in front of what is linked behind it if the condition holds,
and otherwise cannot be read there. -/
inductive Stands (condition : Prop) (source : List Char) (item : Item) (items : List Item) : Prop
  | itself {node : Node} (h : StandsIf Fresh condition (ownText source 0 item) node)
    (hends : EndsInside (ownText source 0 item))
  | line {node : Node} (h : StandsIf StartsLine condition (ownText source 0 item) node)
    (hends : EndsInside (ownText source 0 item)) (hline : LineBehind source item items)

/-- **What stands apart stands where it is linked**, if it stays a statement there. -/
theorem StandsApart.stands (h : StandsApart flags source item items node) (hplaced : item.Placed)
    (hstays : StaysIf condition flags (Parted (ownText source 0 item)) (ownText source 0 item)
      node) : Stands condition source item items := by
  have hends : EndsItself flags (ownText source 0 item) node ∨
      IsOpen flags (ownText source 0 item) node ∧ LineBehind source item items := by
    unfold StandsApart at h
    split at h
    · next value hvalue => exact .inl (endsItself_anonymous hplaced hvalue h)
    · exact h
  obtain hitself | ⟨hopen, hline⟩ := hends
  · exact .itself (hitself.runs.standsIf fresh_nil
      (hstays.mono fun _ _ => hitself.endsClosed.parted)) (.of_endsClosed hitself.endsClosed)
  · exact .line (hopen.runs.standsIf startsLine_nil
      (hstays.mono fun _ htail => htail.apart.parted hopen.endsOpen.ne_nil)) hopen.endsInside hline

/-- A text that is kept starts a line if its item does. -/
theorem opensLine_ownText (hplaced : item.Placed) (hkeeps : item.keepsText)
    (hopens : itemOpensLine source item) (next : Nat) :
    (firstKind? (ownText source next item)).any opensLine := by
  unfold itemOpensLine at hopens
  split at hopens
  · next span hspan => rwa [ownText_of_mem_bareSpan? hplaced hspan]
  · next hbare =>
    obtain ⟨rest, hown⟩ := exists_ownText_openDefault hkeeps hbare
    rw [hown]
    exact opensLine_openDefault rest

end ModuleBundler.Linking
