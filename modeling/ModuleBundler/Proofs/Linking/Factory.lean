import ModuleBundler.Linking.Analysis
import ModuleBundler.Proofs.Script.Expressions

/-!
# Statements as the body of a factory

Linked code must be the body of a function with three parameters. If the code can be read as
statements inside of a function, up to the brace that closes it, then the function around it is read
as a script.

## Main definitions

* `factoryTree` — the tree of a factory.
* `ClosesBody` — texts that start with the brace that closes a body.

## Main results

* `parseScript_factory` — statements are the body of a factory.
-/

namespace ModuleBundler.Script.Parser

variable {goal : Goal} {width depth : Nat} {flags : Flags} {context : Context}
  {chars between rest : List Char} {nodes : List Node} {node : Node}
  {first next second third : Lexeme}

/-- Parameters between commas are read like other nodes, but without a comma behind the last. -/
theorem Separated.reads_patternItems {close : Punct} {item last : Parser Node}
    (h : Separated close item context chars nodes rest) (hcomma : close ≠ .comma)
    (hwidth : nodes.length ≤ context.width) :
    (patternItems close item last).Reads context chars nodes rest := by
  refine .loop ?_
  suffices hrounds : ∀ (fuel : Nat) (reversed : List Node), nodes.length ≤ fuel →
      (rounds _ fuel reversed).Reads context chars (reversed.reverse ++ nodes) rest from
    hrounds (context.width + 1) [] (by omega)
  clear hwidth
  induction h with
  | last hnext hopen hspread hitem hsecond hclose =>
    intro fuel reversed hfuel
    obtain ⟨fuel, rfl⟩ : ∃ n, fuel = n + 1 := ⟨fuel - 1, by simp at hfuel; omega⟩
    refine .rounds_inr (.bind (.atPunct_of_ne hnext hopen) (.ite_neg Bool.false_ne_true ?_))
    refine .bind (.atPunct_of_ne hnext hspread) (.ite_neg Bool.false_ne_true (.bind hitem ?_))
    refine .bind (.eatPunct_of_ne hsecond ?_) (.ite_neg Bool.false_ne_true ?_)
    · rw [hclose]
      simpa using hcomma
    · refine .bind (.atPunct_of_eq hsecond hclose) (.ite_pos rfl ?_)
      rw [← List.reverse_cons]
      exact .pure
  | @more chars between rest node nodes next second hnext hopen hspread hitem hsecond hcomma' hrest
      ih =>
    intro fuel reversed hfuel
    obtain ⟨fuel, rfl⟩ : ∃ n, fuel = n + 1 := ⟨fuel - 1, by simp at hfuel; omega⟩
    obtain ⟨third, hthird⟩ := hrest.exists_scanToken
    have hmore := ih fuel (node :: reversed) (by simpa using hfuel)
    rw [List.reverse_cons, List.append_assoc, List.singleton_append] at hmore
    refine .rounds_inl (.bind (.atPunct_of_ne hnext hopen) (.ite_neg Bool.false_ne_true ?_)) hmore
    refine .bind (.atPunct_of_ne hnext hspread) (.ite_neg Bool.false_ne_true (.bind hitem ?_))
    exact .bind (.eatPunct_of_eq hsecond hcomma' hthird) (.ite_pos rfl .pure)

namespace Reads

/-! ### Functions -/

/-- A name is a pattern without a default value. -/
theorem bindingElement_of_name (h : scanToken goal chars = .ok first)
    (hname : first.token.kind = .word none) (hnext : scanToken goal first.rest = .ok next)
    (hassign : next.token.kind ≠ .punct (.assign none)) :
    bindingElement.Reads (ruleContext goal width flags (depth + 1)) chars
      (.mk (.identifier first.token.text) []) first.rest := by
  have hbinding : Parser.binding.Reads (ruleContext goal width flags (depth + 1)) chars
      (.mk (.identifier first.token.text) []) first.rest := by
    refine .call (.bind (.eatPunct_of_ne h (by simp [hname])) (.ite_neg Bool.false_ne_true ?_))
    refine .bind (.eatPunct_of_ne h (by simp [hname])) (.ite_neg Bool.false_ne_true ?_)
    exact .identifier h hname hnext
  exact .bind hbinding (.bind (.eatPunct_of_ne hnext hassign) (.ite_neg Bool.false_ne_true .pure))

/-- What is allowed in the body of a function that is neither asynchronous nor a generator. -/
def bodyFlags : Flags where
  allowIn := true
  allowYield := false
  allowAwait := false
  allowReturn := true

theorem functionBody (h : scanToken goal chars = .ok first)
    (hopen : first.token.kind = .punct .openBrace)
    (hsecond : scanToken goal first.rest = .ok second)
    (hstatements : Repeated (Parser.atPunct .closeBrace) (Parser.statement .list)
      (ruleContext goal width bodyFlags depth) first.rest nodes between)
    (hwidth : nodes.length ≤ width) (hclose : scanToken goal between = .ok next)
    (hkind : next.token.kind = .punct .closeBrace) (hnext : scanToken goal next.rest = .ok third) :
    (Parser.functionBody plainForm).Reads (ruleContext goal width flags depth) chars
      (.mk .functionBody nodes) next.rest :=
  .withFlags (.bind (.expectPunct h hopen hsecond)
    (.bind (hstatements.reads hwidth) (.bind (.expectPunct hclose hkind hnext) .pure)))

theorem parameters (h : scanToken goal chars = .ok first)
    (hopen : first.token.kind = .punct .openParen)
    (hnames : ∀ flags, Separated .closeParen bindingElement (ruleContext goal width flags depth)
      first.rest nodes between)
    (hwidth : nodes.length ≤ width) (hclose : scanToken goal between = .ok next)
    (hkind : next.token.kind = .punct .closeParen) (hnext : scanToken goal next.rest = .ok third) :
    (Parser.parameters plainForm).Reads (ruleContext goal width flags depth) chars
      (.mk .parameters nodes) next.rest := by
  obtain ⟨second, hsecond⟩ := (hnames flags).exists_scanToken
  exact .withFlags (.withFlags (.bind (.expectPunct h hopen hsecond)
    (.bind ((hnames _).reads_patternItems (by decide) hwidth)
      (.bind (.expectPunct hclose hkind hnext) .pure))))

/-- A function without a name that is neither asynchronous nor a generator. -/
theorem functionRule {parameters body : Node} {afterParameters : List Char}
    (h : scanToken goal chars = .ok first) (hfunction : first.token.kind = .word (some .function_))
    (hescaped : first.token.escaped = false) (hsecond : scanToken goal first.rest = .ok second)
    (hopen : second.token.kind = .punct .openParen)
    (hparameters : (Parser.parameters plainForm).Reads (ruleContext goal width flags depth)
      first.rest parameters afterParameters)
    (hbody : (Parser.functionBody plainForm).Reads (ruleContext goal width flags depth)
      afterParameters body rest) :
    (Parser.functionRule functionName).Reads (ruleContext goal width flags depth) chars
      (.mk (.function plainForm) [.absent, parameters, body]) rest := by
  refine .bind (.eatKeyword_of_ne h (by simp [hfunction])) ?_
  refine .bind (.expectKeyword h hfunction hescaped hsecond) ?_
  refine .bind (.eatPunct_of_ne hsecond (by simp [hopen])) ?_
  refine .bind (.bind (.atPunct_of_eq hsecond hopen) (.ite_pos rfl .pure)) ?_
  exact .bind hparameters (.bind hbody .pure)

/-- An expression in parentheses, which is no spread element. -/
theorem parenthesized (h : scanToken goal chars = .ok first)
    (hopen : first.token.kind = .punct .openParen)
    (hsecond : scanToken goal first.rest = .ok second)
    (hfirst : second.token.kind ≠ .punct .closeParen ∧ second.token.kind ≠ .punct .ellipsis)
    (hitem : Parser.assignment.Reads
      (ruleContext goal width { flags with allowIn := true } depth) first.rest node between)
    (hspread : isSpread node = false) (hclose : scanToken goal between = .ok next)
    (hkind : next.token.kind = .punct .closeParen) (hnext : scanToken goal next.rest = .ok third)
    (hwidth : 1 ≤ width) :
    primary.Reads (ruleContext goal width flags depth) chars (.mk (.parenthesized false) [node])
      next.rest := by
  have hread : parenthesizedItem.Reads (ruleContext goal width flags depth) first.rest node
      between :=
    .bind (.atPunct_of_ne hsecond hfirst.2) (.ite_neg Bool.false_ne_true (.withFlags hitem))
  have hlist : Separated .closeParen parenthesizedItem (ruleContext goal width flags depth)
      first.rest [node] between := .last hsecond hfirst.1 hfirst.2 hread hclose hkind
  refine .bind (.peek h) ?_
  rw [hopen]
  show Parser.parenthesized.Reads _ _ _ _
  refine .bind (.expectPunct h hopen hsecond) (.bind (hlist.reads (by decide) hwidth) ?_)
  refine .bind (.expectPunct hclose hkind hnext) ?_
  have hhead : ([node].isEmpty || false || [node].any isSpread) = false := by simp [hspread]
  rw [hhead]
  exact .ite_neg Bool.false_ne_true .pure

/-! ### Statements -/

/-- An expression statement that starts with a parenthesis. -/
theorem expressionStatement (h : (Parser.assignment).Reads
      (ruleContext goal width { flags with allowIn := true } depth) chars node rest)
    (hnext : scanToken goal rest = .ok next) (hkind : next.token.kind = .punct .semicolon)
    (hsecond : scanToken goal next.rest = .ok second) :
    Parser.expressionStatement.Reads (ruleContext goal width flags depth) chars
      (.mk .expressionStatement [node]) next.rest := by
  have hexpression : expression.Reads (ruleContext goal width { flags with allowIn := true } depth)
      chars node rest :=
    .bind h (.bind (.atPunct_of_ne hnext (by simp [hkind])) (.ite_neg Bool.false_ne_true .pure))
  exact .bind (.withFlags hexpression)
    (.bind (.endStatement_of_semicolon hnext hkind hsecond) .pure)

end Reads

end ModuleBundler.Script.Parser

namespace ModuleBundler.Linking

open Script

variable {code tail last : List Char} {nodes : List Node} {width depth : Nat} {flags : Flags}

/-! ### Texts -/

/-- A whole text is read from its start. -/
theorem parseText_of_reads {α : Type} {goal : Goal} {parser : Parser α} {chars rest : List Char}
    {a : α} {first : Lexeme} (hshebang : skipShebang chars = chars)
    (h : scanToken goal chars = .ok first)
    (hread : parser.Reads (topContext goal chars.length) chars a rest) :
    parseText goal parser chars = .ok a := by
  have hstart : Cursor.At goal chars ⟨first, chars⟩ := ⟨h, rfl⟩
  obtain ⟨last, -, hrun⟩ := hread hstart
  simp only [parseText, startCursor, hshebang, h, Except.map, bind, Except.bind, hrun]
  rfl

/-! ### Factories -/

/-- A name as a tree. -/
def nameTree (name : Name) : Node :=
  .mk (.identifier name) []

/-- The parameters of a factory. -/
def parameterTrees : List Node :=
  ["require".toList, "module".toList, "exports".toList].map nameTree

/-- The function whose body the statements are, as a tree. -/
def functionTree (nodes : List Node) : Node :=
  .mk (.function Parser.plainForm)
    [.absent, .mk .parameters parameterTrees, .mk .functionBody nodes]

/-- The tree of the factory whose body the statements are. -/
def factoryTree (nodes : List Node) : Node :=
  .mk .expressionStatement [.mk (.parenthesized false) [functionTree nodes]]

theorem anyUnsettled_factoryTree (nodes : List Node) :
    Node.anyUnsettled [factoryTree nodes] = Node.anyUnsettled nodes := by
  simp [Node.anyUnsettled, Node.hasUnsettled, factoryTree, functionTree, parameterTrees, nameTree,
    Node.absent]

/-- What stands behind the function of a factory. -/
def factoryEnd : List Char :=
  ");".toList

/-- What stands behind the body of a factory. -/
def factoryTail : List Char :=
  "\n\x7d);".toList

/-- The text starts with the brace that closes a body, in front of the given text. -/
def ClosesBody (after chars : List Char) : Prop :=
  ∃ next, scanToken .script chars = .ok next ∧ next.token.kind = .punct .closeBrace ∧
    next.rest = after

section Tokens

theorem scanToken_function (tail : List Char) :
    scanToken .script ("function (require, module, exports) \x7b".toList ++ tail) =
      .ok (lexeme ⟨"function (require, module, exports) \x7b".toList ++ tail, false⟩
        (.word (some .function_)) (" (require, module, exports) \x7b".toList ++ tail)
        "function".toList false) :=
  rfl

theorem scanToken_closeParameters (tail : List Char) : scanToken .script (") \x7b".toList ++ tail) =
    .ok (lexeme ⟨") \x7b".toList ++ tail, false⟩ (.punct .closeParen) (" \x7b".toList ++ tail) []
      false) :=
  rfl

end Tokens

theorem separated_parameters : Parser.Separated .closeParen Parser.bindingElement
    (ruleContext .script width flags (depth + 1))
    ("require, module, exports) \x7b".toList ++ tail) parameterTrees (") \x7b".toList ++ tail) := by
  have hrequire : scanToken .script ("require, module, exports) \x7b".toList ++ tail) =
      .ok (lexeme ⟨"require, module, exports) \x7b".toList ++ tail, false⟩ (.word none)
        (", module, exports) \x7b".toList ++ tail) "require".toList false) := rfl
  have hcomma : scanToken .script (", module, exports) \x7b".toList ++ tail) =
      .ok (lexeme ⟨", module, exports) \x7b".toList ++ tail, false⟩ (.punct .comma)
        (" module, exports) \x7b".toList ++ tail) [] false) := rfl
  have hmodule : scanToken .script (" module, exports) \x7b".toList ++ tail) =
      .ok (lexeme ⟨"module, exports) \x7b".toList ++ tail, false⟩ (.word none)
        (", exports) \x7b".toList ++ tail) "module".toList false) := rfl
  have hcomma' : scanToken .script (", exports) \x7b".toList ++ tail) =
      .ok (lexeme ⟨", exports) \x7b".toList ++ tail, false⟩ (.punct .comma)
        (" exports) \x7b".toList ++ tail) [] false) := rfl
  have hexports : scanToken .script (" exports) \x7b".toList ++ tail) =
      .ok (lexeme ⟨"exports) \x7b".toList ++ tail, false⟩ (.word none)
        (") \x7b".toList ++ tail) "exports".toList false) := rfl
  have hclose := scanToken_closeParameters tail
  refine .more hrequire nofun nofun (.bindingElement_of_name hrequire rfl hcomma nofun) hcomma
    rfl ?_
  refine .more hmodule nofun nofun (.bindingElement_of_name hmodule rfl hcomma' nofun) hcomma'
    rfl ?_
  exact .last hexports nofun nofun (.bindingElement_of_name hexports rfl hclose nofun) hclose rfl

section Body

variable {first : Lexeme} (hfirst : scanToken .script tail = .ok first)
  (hbody : Parser.Repeated (Parser.atPunct .closeBrace) (Parser.statement .list)
    (ruleContext .script width Parser.Reads.bodyFlags (depth + 1)) tail nodes last)
  (hwidth : 3 ≤ width) (hcount : nodes.length ≤ width)

include hfirst hbody hwidth hcount

/-- Statements up to the brace that closes them are the body of a function. -/
theorem reads_function {after : List Char} {next : Lexeme} (hlast : ClosesBody after last)
    (hnext : scanToken .script after = .ok next) :
    (Parser.functionRule Parser.functionName).Reads (ruleContext .script width flags (depth + 1))
      ("function (require, module, exports) \x7b".toList ++ tail) (functionTree nodes) after := by
  obtain ⟨close, hclose, hkind, rfl⟩ := hlast
  have hopen : scanToken .script (" (require, module, exports) \x7b".toList ++ tail) =
      .ok (lexeme ⟨"(require, module, exports) \x7b".toList ++ tail, false⟩ (.punct .openParen)
        ("require, module, exports) \x7b".toList ++ tail) [] false) := rfl
  have hopenBody : scanToken .script (" \x7b".toList ++ tail) =
      .ok (lexeme ⟨"\x7b".toList ++ tail, false⟩ (.punct .openBrace) tail [] false) := rfl
  exact .functionRule (scanToken_function tail) rfl rfl hopen rfl
    (.parameters hopen rfl (fun _ => separated_parameters) hwidth (scanToken_closeParameters tail)
      rfl hopenBody)
    (.functionBody hopenBody rfl hfirst hbody hcount hclose hkind hnext)

/-- The function in parentheses is a statement. -/
theorem reads_factory (hlast : ClosesBody factoryEnd last) : (Parser.statement .list).Reads
    (ruleContext .script width flags (depth + 10))
    ("(function (require, module, exports) \x7b".toList ++ tail) (factoryTree nodes) [] := by
  have hfunction := scanToken_function tail
  have hopen : scanToken .script ("(function (require, module, exports) \x7b".toList ++ tail) =
      .ok (lexeme ⟨"(function (require, module, exports) \x7b".toList ++ tail, false⟩
        (.punct .openParen) ("function (require, module, exports) \x7b".toList ++ tail) [] false) :=
    rfl
  have hclose : scanToken .script ");".toList =
      .ok (lexeme ⟨");".toList, false⟩ (.punct .closeParen) ";".toList [] false) := rfl
  have hend : scanToken .script ";".toList =
      .ok (lexeme ⟨";".toList, false⟩ (.punct .semicolon) [] [] false) := rfl
  have hprimary (flags : Flags) : Parser.primary.Reads (ruleContext .script width flags (depth + 1))
      ("function (require, module, exports) \x7b".toList ++ tail) (functionTree nodes)
      ");".toList :=
    .bind (.peek hfunction) (reads_function hfirst hbody hwidth hcount hlast hclose)
  have hitem (flags : Flags) : Parser.assignment.Reads (ruleContext .script width flags (depth + 5))
      ("function (require, module, exports) \x7b".toList ++ tail) (functionTree nodes)
      ");".toList :=
    .call (.assignmentRule_of_primary hfunction rfl
      (.atNamedArrow_false hfunction (.atIdentifier_of_reserved hfunction rfl rfl)) (hprimary flags)
      hclose rfl nofun)
  have hgrouped (flags : Flags) : Parser.primary.Reads (ruleContext .script width flags (depth + 5))
      ("(function (require, module, exports) \x7b".toList ++ tail)
      (.mk (.parenthesized false) [functionTree nodes]) ";".toList :=
    .parenthesized hopen rfl hfunction ⟨nofun, nofun⟩ (hitem _) rfl hclose rfl hend (by omega)
  have hexpression (flags : Flags) : Parser.assignment.Reads
      (ruleContext .script width flags (depth + 9))
      ("(function (require, module, exports) \x7b".toList ++ tail)
      (.mk (.parenthesized false) [functionTree nodes]) ";".toList :=
    .call (.assignmentRule_of_primary hopen rfl
      (.atNamedArrow_false hopen (.atIdentifier_of_not_word hopen nofun)) (hgrouped flags) hend
      rfl nofun)
  exact .call (.bind (.peek hopen) (.expressionStatement (hexpression _) hend rfl rfl))

end Body

section Script

variable {first : Lexeme} (hdepth : 8 * ((factory code).length + 2) = depth + 10)
  (hfirst : scanToken .script ('\n' :: code ++ factoryTail) = .ok first)
  (hbody : Parser.Repeated (Parser.atPunct .closeBrace) (Parser.statement .list)
    (ruleContext .script (factory code).length Parser.Reads.bodyFlags (depth + 1))
    ('\n' :: code ++ factoryTail) nodes last)
  (hlast : ClosesBody factoryEnd last)
  (hcount : nodes.length ≤ (factory code).length)

include hdepth hfirst hbody hlast hcount

/-- If the code is read as statements inside of a function, then the function around it is read as a
statement. -/
theorem parseText_factory :
    parseText .script (Parser.repeatUntil Parser.atEnd (Parser.statement .list)) (factory code) =
      .ok [factoryTree nodes] := by
  have htext : factory code =
      "(function (require, module, exports) \x7b".toList ++ ('\n' :: code ++ factoryTail) := rfl
  have hopen : scanToken .script (factory code) = .ok (lexeme ⟨factory code, false⟩
      (.punct .openParen) ("function (require, module, exports) \x7b".toList ++
        ('\n' :: code ++ factoryTail)) [] false) := rfl
  have hlength : 3 ≤ (factory code).length := by
    rw [htext, List.length_append]
    exact Nat.le_add_right_of_le (by decide)
  have hstatement : (Parser.statement .list).Reads (topContext .script (factory code).length)
      (factory code) (factoryTree nodes) [] := by
    rw [topContext, hdepth]
    exact reads_factory hfirst hbody hlength hcount hlast
  have hprogram : (Parser.repeatUntil Parser.atEnd (Parser.statement .list)).Reads
      (topContext .script (factory code).length) (factory code) [factoryTree nodes] [] := by
    have hrepeated : Parser.Repeated Parser.atEnd (Parser.statement .list)
        (topContext .script (factory code).length) (factory code) [factoryTree nodes] [] :=
      .more (.bind (.peek hopen) .pure) hstatement (.done (.bind (.peek rfl) .pure))
    refine hrepeated.reads ?_
    show 1 ≤ (factory code).length
    omega
  exact parseText_of_reads rfl hopen hprogram

/-- **Statements are the body of a factory**: if the code is read as statements inside of a
function, then the function around it is read as a script. -/
theorem parseScript_factory (hsettled : Node.anyUnsettled nodes = false) :
    parseScript (factory code) = .ok [factoryTree nodes] := by
  have hsettled' : Node.anyUnsettled [factoryTree nodes] = false := by
    rw [anyUnsettled_factoryTree, hsettled]
  rw [parseScript, parseText_factory hdepth hfirst hbody hlast hcount]
  show (if Node.anyUnsettled [factoryTree nodes] = true then _ else _) = _
  rw [hsettled']
  rfl

end Script

end ModuleBundler.Linking
