import ModuleBundler.Proofs.Script.Postcondition
import ModuleBundler.Script.Grammar.Target

/-!
# Trees that do not wait

The operator `await`, the statement `for await` and the declaration `await using` make the code
around them wait. They may do so in asynchronous functions, which run on their own; all other code
should be *free* of them. Where `await` is a name, parsers come to such trees only.

## Main definitions

* `Node.Awaits`, `Node.AwaitFree` — trees that wait outside of asynchronous functions, and trees
  that do not.
* `Node.StandsIn` — the trees that stand in a tree outside of asynchronous functions.
* `Context.AwaitFree` — contexts in which `await` is a name.

## Main results

* `Node.awaitFree_of_settled?` — a pattern waits only if its literal does.
-/

namespace ModuleBundler.Script

/-! ### Trees -/

/-- Does a tree of the kind make the code around it wait? -/
def NodeKind.awaits : NodeKind → Bool
  | .await | .forOfStatement true | .variableList .awaitUsing => true
  | _ => false

/-- May the parts of a tree of the kind wait on their own? -/
def NodeKind.mayAwait : NodeKind → Bool
  | .function form => form.isAsync
  | .staticBlock => true
  | _ => false

namespace Node

/-- The tree waits outside of asynchronous functions and static blocks. -/
inductive Awaits : Node → Prop
  | here {kind : NodeKind} {children : List Node} (h : kind.awaits = true) :
    Awaits (mk kind children)
  | part {kind : NodeKind} {children : List Node} {child : Node} (hkind : kind.mayAwait = false)
    (hmem : child ∈ children) (h : Awaits child) : Awaits (mk kind children)

/-- The tree stands in the other one, outside of asynchronous functions and static blocks. -/
inductive StandsIn (node : Node) : Node → Prop
  | whole : StandsIn node node
  | part {kind : NodeKind} {children : List Node} {child : Node} (hkind : kind.mayAwait = false)
    (hmem : child ∈ children) (h : StandsIn node child) : StandsIn node (mk kind children)

/-- The tree does not wait, except in asynchronous functions and static blocks. -/
def AwaitFree (node : Node) : Prop :=
  ¬node.Awaits

variable {kind : NodeKind} {children : List Node} {node : Node}

theorem awaitFree_mk_iff : (mk kind children).AwaitFree ↔
    kind.awaits = false ∧ (kind.mayAwait = true ∨ ∀ child ∈ children, child.AwaitFree) := by
  constructor
  · intro h
    refine ⟨Bool.eq_false_iff.mpr fun hkind => h (.here hkind), ?_⟩
    by_cases hmay : kind.mayAwait = true
    · exact .inl hmay
    · exact .inr fun child hmem hawaits => h (.part (Bool.eq_false_iff.mpr hmay) hmem hawaits)
  · rintro ⟨hkind, hparts⟩ hawaits
    cases hawaits with
    | here h => rw [hkind] at h; contradiction
    | part hmay hmem h =>
      rcases hparts with hmay' | hparts
      · rw [hmay] at hmay'; contradiction
      · exact hparts _ hmem h

/-- A tree that does not wait itself is free if its parts are. -/
theorem AwaitFree.of_parts (hkind : kind.awaits = false)
    (h : ∀ child ∈ children, child.AwaitFree) : (mk kind children).AwaitFree :=
  awaitFree_mk_iff.mpr ⟨hkind, .inr h⟩

/-- A tree that does not wait and has no parts is free. -/
theorem AwaitFree.leaf (hkind : kind.awaits = false) : (mk kind []).AwaitFree :=
  .of_parts hkind fun _ h => absurd h List.not_mem_nil

/-- A function is free if it is asynchronous or its parts are. -/
theorem AwaitFree.function {form : FunctionForm}
    (h : form.isAsync = false → ∀ child ∈ children, child.AwaitFree) :
    (mk (.function form) children).AwaitFree := by
  refine awaitFree_mk_iff.mpr ⟨rfl, ?_⟩
  by_cases hasync : form.isAsync = true
  · exact .inl hasync
  · exact .inr (h (Bool.eq_false_iff.mpr hasync))

/-- The parts of a free tree are free, if they may not wait on their own. -/
theorem AwaitFree.parts (h : (mk kind children).AwaitFree) (hkind : kind.mayAwait = false) :
    ∀ child ∈ children, child.AwaitFree := by
  have hparts := (awaitFree_mk_iff.mp h).2
  rwa [hkind, or_iff_right Bool.false_ne_true] at hparts

/-- No tree that waits stands in a free one. -/
theorem AwaitFree.not_standsIn {tree : Node} (h : tree.AwaitFree) (hawaits : node.Awaits) :
    ¬node.StandsIn tree := by
  intro hstands
  induction hstands with
  | whole => exact h hawaits
  | part hkind hmem _ ih => exact ih (h.parts hkind _ hmem)

theorem AwaitFree.absent : Node.absent.AwaitFree :=
  .leaf rfl

/-! ### Patterns -/

/-- A list whose first tree is read as a pattern, in front of others that are: its trees are free,
if those of the source are. -/
theorem awaitFree_of_settled_cons {first? : Option Node} {rest? : Option (List Node)}
    {first : Node} {rest patterns : List Node} (build : Node → Node)
    (heq : (first?.bind fun first => rest?.bind fun rest => some (build first :: rest)) =
      some patterns)
    (hfirst : ∀ pattern, first? = some pattern → first.AwaitFree → (build pattern).AwaitFree)
    (hrest : ∀ patterns, rest? = some patterns → (∀ node ∈ rest, node.AwaitFree) →
      ∀ pattern ∈ patterns, pattern.AwaitFree)
    (hfree : ∀ node ∈ first :: rest, node.AwaitFree) : ∀ pattern ∈ patterns, pattern.AwaitFree := by
  simp only [Option.bind_eq_some_iff, Option.some.injEq] at heq
  obtain ⟨pattern, hpattern, others, hothers, rfl⟩ := heq
  rw [List.forall_mem_cons] at hfree ⊢
  exact ⟨hfirst pattern hpattern hfree.1, hrest others hothers hfree.2⟩

/-- What a literal is as a pattern is free if the literal is, and so are members and elements. -/
theorem awaitFree_of_settled_all (use : PatternUse) :
    (∀ node pattern, settled? use node = some pattern → node.AwaitFree → pattern.AwaitFree) ∧
    (∀ trailingComma members patterns,
      settledMembers? use trailingComma members = some patterns →
        (∀ node ∈ members, node.AwaitFree) → ∀ pattern ∈ patterns, pattern.AwaitFree) ∧
    (∀ trailingComma elements patterns,
      settledElements? use trailingComma elements = some patterns →
        (∀ node ∈ elements, node.AwaitFree) → ∀ pattern ∈ patterns, pattern.AwaitFree) := by
  apply Node.settled?.mutual_induct use
  case case17 =>
    intro _ isStatic key target value rest htarget hrest patterns heq
    refine awaitFree_of_settled_cons _ heq (fun pattern hpattern => ?_) hrest
    have hfree := htarget pattern hpattern
    simp +contextual [awaitFree_mk_iff, NodeKind.mayAwait, NodeKind.awaits, hfree]
  case case18 =>
    intro _ isStatic key value rest hplain hvalue hrest patterns heq
    rw [settledMembers?] at heq
    · refine awaitFree_of_settled_cons _ heq (fun pattern hpattern => ?_) hrest
      have hfree := hvalue pattern hpattern
      simp +contextual [awaitFree_mk_iff, NodeKind.mayAwait, NodeKind.awaits, hfree]
    · exact hplain
  case case24 =>
    intro _ target value rest htarget hrest patterns heq
    refine awaitFree_of_settled_cons _ heq (fun pattern hpattern => ?_) hrest
    have hfree := htarget pattern hpattern
    simp +contextual [awaitFree_mk_iff, NodeKind.mayAwait, NodeKind.awaits, hfree]
  case case25 =>
    intro _ element rest hlast habsent hdefault helement hrest patterns heq
    rw [settledElements?] at heq
    · exact awaitFree_of_settled_cons id heq helement hrest
    · exact hlast
    · exact habsent
    · exact hdefault
  all_goals
    simp +contextual [settled?, settledMembers?, settledElements?, awaitFree_mk_iff,
      NodeKind.mayAwait, NodeKind.awaits]

theorem awaitFree_of_settled? {use : PatternUse} {node pattern : Node}
    (h : settled? use node = some pattern) (hfree : node.AwaitFree) : pattern.AwaitFree :=
  (awaitFree_of_settled_all use).1 node pattern h hfree

theorem awaitFree_of_settledElements? {use : PatternUse} {trailingComma : Bool}
    {elements patterns : List Node}
    (h : settledElements? use trailingComma elements = some patterns)
    (hfree : ∀ node ∈ elements, node.AwaitFree) : ∀ pattern ∈ patterns, pattern.AwaitFree :=
  (awaitFree_of_settled_all use).2.2 trailingComma elements patterns h hfree

end Node

/-! ### Contexts -/

/-- The word `await` is a name, and where it is, the rules of the grammar come to free trees. -/
structure Context.AwaitFree (context : Context) : Prop where
  flags : context.flags.allowAwait = false
  rules : ∀ rule flags cursor node next, flags.allowAwait = false →
    context.rules rule flags cursor = .ok (node, next) → node.AwaitFree

theorem Context.AwaitFree.withFlags {context : Context} {change : Flags → Flags}
    (h : context.AwaitFree) (hchange : (change context.flags).allowAwait = false) :
    (context.withFlags change).AwaitFree where
  flags := hchange
  rules := h.rules

namespace Parser

variable {α : Type} {parser : Parser α} {post : α → Prop}

/-- Where the word `await` is a name, what the parser comes to has the property. -/
abbrev Yields (parser : Parser α) (post : α → Prop) : Prop :=
  parser.Ensures Context.AwaitFree post

/-- Where the word `await` is a name, the parser comes to free trees. -/
abbrev YieldsFree (parser : Parser Node) : Prop :=
  parser.Yields Node.AwaitFree

/-- The rules of the grammar yield free trees. -/
theorem yieldsFree_call (rule : Rule) : (call rule).YieldsFree :=
  fun context cursor node next h hrun => h.rules rule context.flags cursor node next h.flags hrun

/-- Other flags make no difference, if `await` stays a name. -/
theorem Ensures.withNames {change : Flags → Flags} (h : parser.Yields post)
    (hchange : ∀ flags : Flags, flags.allowAwait = false → (change flags).allowAwait = false) :
    (Parser.withFlags change parser).Yields post :=
  .withFlags h fun _ hcontext => hcontext.withFlags (hchange _ hcontext.flags)

theorem Ensures.withIn (h : parser.Yields post) : (Parser.withIn parser).Yields post :=
  .withNames h fun _ hflags => hflags

theorem Ensures.withoutIn (h : parser.Yields post) : (Parser.withoutIn parser).Yields post :=
  .withNames h fun _ hflags => hflags

theorem Ensures.withOperatorWords {allowAwait allowYield : Bool} (h : parser.Yields post)
    (hname : allowAwait = false) :
    (Parser.withOperatorWords allowAwait allowYield parser).Yields post :=
  .withNames h fun _ _ => hname

end Parser

end ModuleBundler.Script
