import ModuleBundler.Proofs.Linking.Boundaries
import ModuleBundler.Proofs.Script.Rename.Statement

/-!
# Modules that wait

Outside of functions a module may wait for values, and the body of a factory may not. That a
statement is none where `await` becomes a name can be seen from its text: behind each word `await`
stands, on the same line, a token that can follow no name; or the statement is a loop that starts
with the words `for await`. A module with such an item is refused, if all texts that are kept of it
are set apart: the item is no statement in the body of a factory, whatever is linked around it.

Other modules that wait are linked if their code has a meaning in which `await` is a name. Nothing
in it waits then, and what waits in the module does not stand in the factory as what it is in the
module: `await (x)` becomes a call.

## Main definitions

* `AwaitsPlainly`, `OpensWaitingLoop` — texts of which this can be seen.
* `WaitsPlainly` — texts of statements that wait, and of which this can be seen.
* `WaitsApart` — items that wait plainly, with texts that are set apart.
* `FactoryAwaitFree` — factories that do not wait.

## Main results

* `WaitsPlainly.exists_error` — what waits plainly is no statement where `await` is a name.
* `exists_error_of_waitsApart` — modules with an item that waits plainly are refused.
* `exists_awaiting_module` — there are modules that wait and are linked.
* `factoryAwaitFree_of_analyzeChars` — the factory of a module that is linked does not wait.
-/

namespace ModuleBundler.Script

open Text

variable {goal : Goal} {chars text gap lead tail : List Char} {node : Node} {name : Name}

/-! ### Words in a text -/

/-- A word without escapes stands in the text as it is. -/
theorem here_eq_of_word {next : Lexeme} {keyword : Option Keyword}
    (h : scanToken goal chars = .ok next) (hkind : next.token.kind = .word keyword)
    (hescaped : next.token.escaped = false) : next.here = next.token.text ++ next.rest := by
  obtain ⟨place, -, hnext⟩ := exists_skipTrivia_of_scanToken h
  have hhere : next.here = place.chars := (tokenAt_suffix hnext).1
  unfold tokenAt at hnext
  split at hnext
  · obtain rfl := Except.ok.inj hnext
    contradiction
  · next c cs hchars =>
    -- Only the first way to read a token comes to a word.
    split_ifs at hnext
    · split at hnext
      · next scanned hscanned =>
        obtain rfl := Except.ok.inj hnext
        exact (hhere.trans hchars).trans (eq_append_of_scanName hscanned hescaped)
      · contradiction
    · split at hnext
      · next number _ =>
        obtain rfl := Except.ok.inj hnext
        have hnumber : (if number.big then TokenKind.bigint else .number) = .word keyword := hkind
        split at hnumber <;> contradiction
      · contradiction
    · obtain ⟨string, -, rfl⟩ := Except.map_eq_ok_iff.mp hnext
      contradiction
    · obtain ⟨piece, -, rfl⟩ := Except.map_eq_ok_iff.mp hnext
      contradiction
    · split at hnext
      · obtain rfl := Except.ok.inj hnext
        contradiction
      · contradiction
    · split at hnext
      · obtain rfl := Except.ok.inj hnext
        contradiction
      · contradiction

theorem eq_await_of_keywordOf? (h : keywordOf? name = some .await_) : name = "await".toList := by
  have htable : ∀ entry ∈ keywords, entry.2 = .await_ → entry.1 = "await".toList := by decide
  obtain ⟨entry, hentry, hkeyword⟩ := Option.map_eq_some_iff.mp h
  have hfound := List.find?_some hentry
  have hname : entry.1 = name := beq_iff_eq.mp hfound
  rw [← hname, htable entry (List.mem_of_find?_eq_some hentry) hkeyword]

/-- The word `await`, if it is written without escapes. -/
theorem Cursor.At.here_eq_await {cursor : Cursor} (h : cursor.At goal chars)
    (hkind : cursor.token.kind = .word (some .await_)) (hescaped : cursor.token.escaped = false) :
    cursor.next.here = "await".toList ++ cursor.next.rest := by
  obtain ⟨-, hkeyword⟩ := h.genuine.fits.word hkind
  have hname : cursor.next.token.text = "await".toList := eq_await_of_keywordOf? hkeyword.symm
  rw [here_eq_of_word h.next hkind hescaped, hname]

/-! ### Words that wait plainly -/

/-- Behind each word `await` in the text stands, on the same line, a token that can follow no name.
It does not end the text where a brace or a semicolon does. -/
def AwaitsPlainly (text : List Char) : Prop :=
  ∀ rest, "await".toList ++ rest <:+ text → ∃ next, scanToken .script rest = .ok next ∧
    next.token.kind.blocks ∧ next.token.newline = false ∧ (next.rest = [] → ¬EndsClosed text)

theorem awaitsPlainly_iff : AwaitsPlainly text ↔ ∀ suffix ∈ text.tails,
    "await".toList <+: suffix → (scanToken .script (suffix.drop 5)).toOption.any fun next =>
      next.token.kind.blocks && !next.token.newline &&
        (next.rest != [] || !decide (EndsClosed text)) := by
  simp only [List.mem_tails, Option.any_eq_true, Except.toOption_eq_some_iff]
  constructor
  · rintro h suffix hsuffix ⟨rest, rfl⟩
    obtain ⟨next, hnext, hblocks, hline, hopen⟩ := h rest hsuffix
    refine ⟨next, hnext, ?_⟩
    by_cases hrest : next.rest = [] <;> simp_all
  · intro h rest hrest
    obtain ⟨next, hnext, hplain⟩ := h _ hrest (List.prefix_append ..)
    simp only [Bool.and_eq_true, Bool.not_eq_true', Bool.or_eq_true, bne_iff_ne] at hplain
    exact ⟨next, hnext, hplain.1.1, hplain.1.2, fun hnil => by simpa [hnil] using hplain.2⟩

instance : Decidable (AwaitsPlainly text) :=
  decidable_of_iff _ awaitsPlainly_iff.symm

/-- The token is the same in front of more text. -/
theorem AwaitsPlainly.exists_scanToken {rest : List Char} (h : AwaitsPlainly text)
    (hrest : "await".toList ++ rest <:+ text) (hparted : Parted text tail) :
    ∃ next, scanToken .script (rest ++ tail) = .ok next ∧ next.token.kind.blocks ∧
      next.token.newline = false := by
  obtain ⟨next, hnext, hblocks, hline, hopen⟩ := h rest hrest
  have hgenuine : Cursor.Genuine .script ⟨next, rest⟩ := Cursor.genuine_of_scanToken hnext
  have hne : next.here ≠ [] := by
    intro hnil
    have hkind : next.token.kind = .endOfSource := hgenuine.fits.ends.mpr hnil
    rw [hkind] at hblocks
    contradiction
  have hhere : next.here <:+ text :=
    hgenuine.here_suffix.trans ((List.suffix_append _ rest).trans hrest)
  refine ⟨next.extend tail, scanToken_extend tail hnext ⟨hne, ?_⟩ (.inr ?_), hblocks, hline⟩
  · exact hparted.parts.imp_left fun hclosed => hclosed.of_suffix hhere hne
  · by_cases hend : next.rest = []
    · exact .inr (hparted.parts.resolve_left (hopen hend))
    · exact .inl hend

/-- **The words of a plain text stand in front of such tokens**, whatever stands around it. -/
theorem AwaitsPlainly.guarded {start last : Cursor} (h : AwaitsPlainly text)
    (hparted : Parted text tail) (hlead : Blank lead)
    (hstart : start.At .script (lead ++ (text ++ tail))) (hlast : last.At .script tail) :
    Passage.Guarded ⟨.script, last⟩ start := by
  intro wait hreach hkind hescaped next hadvance hnext
  have hwait : wait.At .script wait.behind := hreach.at_word (hstart.behind ▸ hstart) hkind
  have hhere : wait.next.here = "await".toList ++ wait.next.rest :=
    hwait.here_eq_await hkind hescaped
  have hinside : wait.next.here <:+ text ++ tail :=
    (hreach.suffix hstart.aligned).trans (hlead.here_suffix hstart.next)
  obtain ⟨second, hsecond, rfl⟩ := Except.map_eq_ok_iff.mp hadvance
  -- The text ends behind the word, as the target does not stand in front of it.
  obtain ⟨rest, hrest⟩ : tail <:+ wait.next.rest := by
    rw [← hlast.behind]
    exact hnext.behind_suffix (Cursor.genuine_of_scanToken hsecond)
  have hsuffix : "await".toList ++ rest <:+ text := by
    obtain ⟨front, hfront⟩ := hinside
    rw [hhere, ← hrest, ← List.append_assoc, ← List.append_assoc] at hfront
    exact ⟨front, by simpa using List.append_cancel_right hfront⟩
  obtain ⟨second', hsecond', hblocks, hline⟩ := h.exists_scanToken hsuffix hparted
  rw [hrest] at hsecond'
  obtain rfl := Except.ok.inj (hsecond.symm.trans hsecond')
  exact ⟨hblocks, hline⟩

/-! ### Loops that wait -/

/-- The text starts with the words `for await`. -/
inductive OpensWaitingLoop : (text : List Char) → Prop
  | mk {gap rest : List Char} (hgap : Blank gap) (hends : EndsName gap) (hne : gap ≠ [])
    (hends' : EndsName rest) (hne' : rest ≠ []) :
    OpensWaitingLoop ("for".toList ++ (gap ++ ("await".toList ++ rest)))

theorem EndsName.append {rest : List Char} (h : EndsName rest) (hne : rest ≠ [])
    (tail : List Char) : EndsName (rest ++ tail) := by
  obtain ⟨c, rest, rfl⟩ := List.exists_cons_of_ne_nil hne
  exact h

/-- A loop is none if `await` is a name and the second word. -/
theorem Parser.Fails.forStatement {context : Context} {first second : Lexeme}
    (hname : context.flags.allowAwait = false) (h : scanToken context.goal chars = .ok first)
    (hfor : first.token.kind = .word (some .for_)) (hescaped : first.token.escaped = false)
    (hsecond : scanToken context.goal first.rest = .ok second)
    (hawait : second.token.kind = .word (some .await_)) :
    Parser.forStatement.Fails context chars := by
  refine (Reads.expectKeyword h hfor hescaped hsecond).bind_fails fun cursor hcursor => ?_
  obtain rfl : second = cursor.next := Except.ok.inj (hsecond.symm.trans hcursor.next)
  cases htaken : (Parser.eatKeyword .await_).run context cursor with
  | error fault => exact ⟨fault, by rw [run_bind, htaken]⟩
  | ok outcome =>
    obtain ⟨taken, next⟩ := outcome
    obtain ⟨rfl, -⟩ | ⟨-, hne, -⟩ := eatKeyword_eq_ok htaken
    · refine ⟨.unexpectedToken, ?_⟩
      rw [run_bind, htaken]
      show Parser.run (if (true && !context.flags.allowAwait) = true then _ else _) _ _ = _
      rw [hname]
      rfl
    · exact absurd hawait hne

variable {place : Place} {width depth : Nat} {flags : Flags}

/-- **A loop that waits is none where `await` is a name.** -/
theorem OpensWaitingLoop.fails (h : OpensWaitingLoop text) (hname : flags.allowAwait = false)
    (hlead : Blank lead) :
    (Parser.statement place).Fails (ruleContext .script width flags depth)
      (lead ++ (text ++ tail)) := by
  cases h with
  | @mk gap rest hgap hends hne hends' hne' =>
    have hfirst : EndsName (gap ++ ("await".toList ++ (rest ++ tail))) := hends.append hne _
    have hfor : IsIdentifierName "for".toList := ⟨by decide, List.all_eq_true.mp (by decide)⟩
    have hawait : IsIdentifierName "await".toList := ⟨by decide, List.all_eq_true.mp (by decide)⟩
    obtain ⟨newline, hscan⟩ := hlead.exists_scanToken_word hfor hfirst
    obtain ⟨newline', hscan'⟩ := hgap.exists_scanToken_word hawait (hends'.append hne' tail)
    have hstatement {depth : Nat} : (Parser.statementRule place).Fails
        (ruleContext .script width flags depth)
        (lead ++ ("for".toList ++ (gap ++ ("await".toList ++ (rest ++ tail))))) := by
      refine (Parser.Reads.peek hscan).bind_fails ?_
      exact Parser.Fails.forStatement hname hscan rfl rfl hscan' rfl
    simp only [List.append_assoc]
    cases depth with
    | zero => exact fun _ _ => ⟨_, rfl⟩
    | succ depth => exact fun _ hcursor => hstatement hcursor

/-! ### Statements that wait plainly -/

/-- The text of a statement that waits, of which this can be seen. -/
inductive WaitsPlainly (text : List Char) (node : Node) : Prop
  | operator (hawaits : node.Awaits) (hplain : AwaitsPlainly text)
  | loop (hopens : OpensWaitingLoop text)

/-- **What waits plainly is no statement where `await` is a name**, whatever stands around it. -/
theorem WaitsPlainly.exists_error {start last : Cursor} (h : WaitsPlainly text node)
    (hparted : Parted text tail) (hlead : Blank lead)
    (hstart : start.At .script (lead ++ (text ++ tail))) (hlast : last.At .script tail)
    (hrun : (Parser.statement place).run (ruleContext .script width flags depth) start =
      .ok (node, last)) :
    ∃ fault, (Parser.statement place).run (ruleContext .script width flags.named depth) start =
      .error fault := by
  cases h with
  | operator hawaits hplain =>
    exact exists_error_of_awaits hawaits
      (hplain.guarded hparted hlead hstart hlast) hrun
  | loop hopens => exact hopens.fails rfl hlead hstart

end ModuleBundler.Script

namespace ModuleBundler.Linking

open Script Text

variable {source text : List Char} {node : Node} {item : Item} {items : List Item}
  {follow : List Char → Prop}

/-! ### Items that wait -/

/-- What is allowed in the body of a factory, with `await` as an operator. -/
def waitingFlags : Flags :=
  { Parser.Reads.bodyFlags with allowAwait := true }

/-- With `await` as an operator, what the item keeps is a statement that is set apart. Something
that waits in the module stands in it, and its text shows that it waits. -/
structure WaitsApart (source : List Char) (item : Item) (items : List Item) : Prop where
  stands : ∃ node, StandsApart waitingFlags source item items node ∧
    ∃ part ∈ item.nodes, part.Awaits ∧ part.StandsIn node
  plain : AwaitsPlainly (ownText source 0 item) ∨ OpensWaitingLoop (ownText source 0 item)

/-- **What waits plainly is no statement of a factory.** -/
theorem staysIf_waitsPlainly (h : WaitsPlainly text node) :
    StaysIf False waitingFlags (Parted text) text node :=
  fun _ _ _ _ _ _ hlead hparted hstart hlast hrun =>
    ⟨False.elim, fun _ => h.exists_error hparted hlead hstart hlast hrun⟩

theorem WaitsApart.stands_false (h : WaitsApart source item items) (hplaced : item.Placed) :
    Stands False source item items := by
  obtain ⟨node, hstands, part, -, hawaits, hpart⟩ := h.stands
  have hnode : node.Awaits := by
    by_contra hfree
    exact Node.AwaitFree.not_standsIn hfree hawaits hpart
  refine hstands.stands hplaced (staysIf_waitsPlainly ?_)
  obtain hplain | hopens := h.plain
  · exact .operator hnode hplain
  · exact .loop hopens

/-- Such an item is a statement, or exports a declaration or a value. -/
theorem WaitsApart.keepsText (h : WaitsApart source item items) : item.keepsText := by
  obtain ⟨-, -, part, hpart, -⟩ := h.stands
  match item with
  | .statement _ _ | .exporting ⟨_, .declaration _ _⟩ | .exporting ⟨_, .defaultValue _ _⟩ => rfl
  | .importing _ | .exporting ⟨_, .all _ _⟩ | .exporting ⟨_, .fromModule _ _⟩
  | .exporting ⟨_, .names _⟩ => contradiction

/-! ### Modules that are refused -/

/-- An analysis of a module without phased imports fails only for its linked code. -/
theorem exists_unlinkable {failure : AnalysisError} (hitems : parseModule source = .ok items)
    (hunphased : phasedImport? items = none) (h : analyzeChars source = .error failure) :
    ∃ fault, failure = .unlinkable fault := by
  cases hscript : parseScript (factory (linkedCode source (groups 0 items))) with
  | ok nodes =>
    have hlinks : Links source items (groups 0 items).specifiers _ :=
      ⟨hitems, hunphased, rfl, rfl, nodes, hscript⟩
    rw [analyzeChars_eq_ok_iff.mpr ⟨items, hlinks⟩] at h
    contradiction
  | error fault =>
    simp only [analyzeChars, hitems, hunphased, hscript, Except.mapError, bind, Except.bind] at h
    exact ⟨fault, (Except.error.inj h).symm⟩

/-- **A module that waits plainly is refused**, if what it keeps of the source is set apart: each
text is a statement where `await` is a name, or it waits plainly, and one does. -/
theorem exists_error_of_waitsApart (hitems : parseModule source = .ok items)
    (happart : AllKept (fun item behind =>
      (∃ node, StandsApart Parser.Reads.bodyFlags source item behind node) ∨
        WaitsApart source item behind) items)
    (hwaits : ∃ before item behind, items = before ++ item :: behind ∧
      WaitsApart source item behind) :
    ∃ failure, analyzeChars source = .error failure ∧
      (phasedImport? items = none → ∃ fault, failure = .unlinkable fault) := by
  cases hanalysis : analyzeChars source with
  | error failure =>
    exact ⟨failure, rfl, fun hunphased => exists_unlinkable hitems hunphased hanalysis⟩
  | ok outcome =>
    obtain ⟨specifiers, code⟩ := outcome
    obtain ⟨items', hlinks⟩ := analyzeChars_eq_ok_iff.mp hanalysis
    obtain rfl := Except.ok.inj (hitems.symm.trans hlinks.parsed)
    have hplaced := (itemsInOrder_of_parseModule hitems).placed
    have hstand : AllKept (fun item behind =>
        Stands (¬WaitsApart source item behind) source item behind) items := by
      refine happart.imp fun item hmem behind happart => ?_
      by_cases hwaits : WaitsApart source item behind
      · rw [eq_false (not_not.mpr hwaits)]
        exact hwaits.stands_false (hplaced item hmem)
      · obtain ⟨node, hstands⟩ := happart.resolve_right hwaits
        rw [eq_true hwaits]
        exact hstands.stands (hplaced item hmem) staysIf_bodyFlags
    have hnone := (allKept_and_keepsBoundaries hlinks hstand).1
    obtain ⟨before, item, behind, rfl, hwaits⟩ := hwaits
    exact absurd hwaits (hnone.of_append hwaits.keepsText)

/-! ### A module that is refused -/

/-- A module that waits in a constant, in a loop and in its default export, with an import and a
statement that does not wait. -/
def refusedSource : List Char :=
  "import \x7b load \x7d from './y.js'\nconst first = await load();\n".toList ++
    "for await (const part of first) \x7b load(part); \x7d\nload(first)\n".toList ++
      "export default await first\n".toList

/-- A call of `load`. -/
def loadTree (arguments : List Node) : Node :=
  .mk .call [nameTree "load".toList, .mk (.arguments false) arguments]

/-- The constant. -/
def constantWaits : Node :=
  .mk (.variableList .constant)
    [.mk .declarator [nameTree "first".toList, .mk .await [loadTree []]]]

/-- The loop. -/
def loopWaits : Node :=
  .mk (.forOfStatement true)
    [.mk (.variableList .constant) [.mk .declarator [nameTree "part".toList, .absent]],
      nameTree "first".toList,
      .mk .block [evaluateTree (loadTree [nameTree "part".toList])]]

/-- The value of the default export. -/
def valueWaits : Node :=
  .mk .await [nameTree "first".toList]

/-- The items of the module. -/
def refusedItems : List Item :=
  [.importing ⟨⟨0, 29⟩, none, "./y.js".toList, ⟨none, none, [⟨"load".toList, "load".toList⟩]⟩⟩,
    .statement ⟨30, 57⟩ constantWaits,
    .statement ⟨58, 105⟩ loopWaits,
    .statement ⟨106, 117⟩ (evaluateTree (loadTree [nameTree "first".toList])),
    .exporting ⟨⟨118, 144⟩, .defaultValue ⟨133, 144⟩ valueWaits⟩]

theorem parseModule_refusedSource : parseModule refusedSource = .ok refusedItems := by
  decide +kernel

theorem awaits_valueWaits : valueWaits.Awaits :=
  .here rfl

/-- What is assigned to the default export waits for its value. -/
theorem waitsApart_default :
    WaitsApart refusedSource (.exporting ⟨⟨118, 144⟩, .defaultValue ⟨133, 144⟩ valueWaits⟩) [] := by
  have hopen : IsOpen waitingFlags "exports.default = await first".toList
      (evaluateTree (.mk (.assign none) [(exportMember Script.defaultName).tree, valueWaits])) := by
    refine ⟨⟨rfl, rfl, ?_⟩, rfl, ⟨'t', rfl, by decide⟩, by decide⟩
    decide +kernel
  refine ⟨⟨_, .inr ⟨hopen, ?_⟩, valueWaits, List.mem_singleton_self _, awaits_valueWaits, ?_⟩,
    .inl ?_⟩
  · refine ⟨?_, nofun, nofun⟩
    decide +kernel
  · exact .part rfl (List.mem_singleton_self _) (.part rfl (.tail _ (.head _)) .whole)
  · decide +kernel

/-- The constant, the loop and the default export wait, and the statement stands apart. -/
theorem waitsApart_refused : AllKept (fun item behind =>
    (∃ node, StandsApart Parser.Reads.bodyFlags refusedSource item behind node) ∨
      WaitsApart refusedSource item behind) refusedItems := by
  have hconstant : IsOpen waitingFlags "const first = await load()".toList constantWaits := by
    refine ⟨⟨rfl, rfl, ?_⟩, rfl, ⟨')', rfl, by decide⟩, by decide⟩
    decide +kernel
  have hloop : ReadsAlone waitingFlags
      "for await (const part of first) \x7b load(part); \x7d".toList loopWaits := by
    refine ⟨rfl, rfl, ?_⟩
    decide +kernel
  have hcall : IsOpen Parser.Reads.bodyFlags "load(first)".toList
      (evaluateTree (loadTree [nameTree "first".toList])) := by
    refine ⟨⟨rfl, rfl, ?_⟩, rfl, ⟨')', rfl, by decide⟩, by decide⟩
    decide +kernel
  have hspace (rest : List Char) : EndsName (' ' :: rest) := endsName_cons (by decide) (by decide)
  have hopens : OpensWaitingLoop ("for".toList ++ ([' '] ++ ("await".toList ++
      ' ' :: "(const part of first) \x7b load(part); \x7d".toList))) :=
    .mk blank_space (hspace []) (List.cons_ne_nil _ _) (hspace _) (List.cons_ne_nil _ _)
  refine ⟨nofun, fun _ => .inr ⟨⟨_, .inl (.semicolon hconstant blank_nil rfl), _,
    List.mem_singleton_self _, ?_, .whole⟩, .inl ?_⟩, fun _ => .inr ⟨⟨_, .inl (.brace hloop rfl), _,
      List.mem_singleton_self _, .here rfl, .whole⟩, .inr hopens⟩,
    fun _ => .inl ⟨_, .inr ⟨hcall, ?_, ?_, ?_⟩⟩, fun _ => .inr waitsApart_default, trivial⟩
  · exact .part rfl (.head _) (.part rfl (.tail _ (.head _)) (.here rfl))
  · decide +kernel
  all_goals decide +kernel

/-- The module is refused. -/
theorem exists_error_refused : parseModule refusedSource = .ok refusedItems ∧
    ∃ fault, analyzeChars refusedSource = .error (.unlinkable fault) := by
  obtain ⟨failure, hfailure, hunlinkable⟩ := exists_error_of_waitsApart parseModule_refusedSource
    waitsApart_refused ⟨refusedItems.take 4, _, [], rfl, waitsApart_default⟩
  obtain ⟨fault, rfl⟩ := hunlinkable rfl
  exact ⟨parseModule_refusedSource, fault, hfailure⟩

/-! ### A module that waits and is linked -/

/-- A module that waits for a value in parentheses. -/
def awaitingSource : List Char :=
  "await (x);\n".toList

/-- The statement of the module: `await` with its operand. -/
def awaitingStatement : Node :=
  .mk .expressionStatement [.mk .await [.mk (.parenthesized false) [.mk (.identifier ['x']) []]]]

/-- The items of the module. -/
def awaitingItems : List Item :=
  [.statement ⟨0, 10⟩ awaitingStatement]

theorem links_awaitingSource : Links awaitingSource awaitingItems [] awaitingSource where
  parsed := by decide +kernel
  unphased := rfl
  specifiers_eq := rfl
  code_eq := by decide +kernel
  accepted := exists_eq_ok_of_isOk (by decide +kernel)

theorem analyzeChars_awaitingSource : analyzeChars awaitingSource = .ok ([], awaitingSource) :=
  analyzeChars_eq_ok_iff.mpr ⟨awaitingItems, links_awaitingSource⟩

/-- There are modules that wait at their top, in the operator `await` of a statement, and that are
linked: the code stays as it is. -/
theorem exists_awaiting_module :
    ∃ source specifiers code items span operand, Links source items specifiers code ∧
      analyzeChars source = .ok (specifiers, code) ∧ code = source ∧
        .statement span (.mk .expressionStatement [.mk .await [operand]]) ∈ items :=
  ⟨awaitingSource, [], awaitingSource, awaitingItems, ⟨0, 10⟩, _, links_awaitingSource,
    analyzeChars_awaitingSource, rfl, List.mem_singleton_self _⟩

/-! ### Factories of modules that are linked -/

/-- The factory consists of trees that do not wait, and nothing that waits in the module stands in
one of them. -/
structure FactoryAwaitFree (items : List Item) (nodes : List Node) : Prop where
  free : ∀ node ∈ nodes, node.AwaitFree
  replaced : ∀ item ∈ items, ∀ part ∈ item.nodes, part.Awaits → ∀ node ∈ nodes, ¬part.StandsIn node

/-- **Nothing waits in a factory**: the factory of a module that is linked is a script that waits
in asynchronous functions and static blocks only. -/
theorem factoryAwaitFree_of_analyzeChars {source code : List Char} {specifiers : List Name}
    (h : analyzeChars source = .ok (specifiers, code)) :
    ∃ items nodes, Links source items specifiers code ∧ parseScript (factory code) = .ok nodes ∧
      FactoryAwaitFree items nodes := by
  obtain ⟨items, hlinks⟩ := analyzeChars_eq_ok_iff.mp h
  obtain ⟨nodes, hnodes⟩ := hlinks.accepted
  have hfree : ∀ node ∈ nodes, node.AwaitFree := awaitFree_of_parseScript hnodes
  exact ⟨items, nodes, hlinks, hnodes, hfree, fun _ _ _ _ hawaits node hmem =>
    (hfree node hmem).not_standsIn hawaits⟩

end ModuleBundler.Linking
