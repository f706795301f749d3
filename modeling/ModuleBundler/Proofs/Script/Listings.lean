import ModuleBundler.Proofs.Json.Literal

/-!
# Literals with a comma behind each item

A literal may have a comma behind its last item, too. Then each item is read up to its own comma.

## Main definitions

* `Parser.Terminated` — texts of items with a comma behind each.

## Main results

* `Parser.Terminated.reads` — such a text is read as its items.
* `Parser.Reads.primary_of_array`, `Parser.Reads.primary_of_object` — literals of such items.
* `Parser.Reads.literalMember_of_numeral` — a member of an object whose name is a number.
-/

namespace ModuleBundler.Script.Parser

open Json

variable {goal : Goal} {width depth : Nat} {flags : Flags} {context : Context}
  {chars between rest : List Char} {nodes : List Node} {node : Node} {close : Punct}
  {item : Parser Node} {first next second third : Lexeme}

/-- The text up to the rest writes nodes with a comma behind each, and the rest starts with the
closing punctuator. -/
inductive Terminated (close : Punct) (item : Parser Node) (context : Context) :
    (chars : List Char) → List Node → (rest : List Char) → Prop
  | done {chars : List Char} {next : Lexeme} (hnext : scanToken context.goal chars = .ok next)
    (hclose : next.token.kind = .punct close) : Terminated close item context chars [] chars
  | more {chars between rest : List Char} {node : Node} {nodes : List Node} {next second : Lexeme}
    (hnext : scanToken context.goal chars = .ok next) (hopen : next.token.kind ≠ .punct close)
    (hitem : item.Reads context chars node between)
    (hsecond : scanToken context.goal between = .ok second)
    (hcomma : second.token.kind = .punct .comma)
    (hrest : Terminated close item context second.rest nodes rest) :
    Terminated close item context chars (node :: nodes) rest

namespace Terminated

theorem exists_scanToken (h : Terminated close item context chars nodes rest) :
    ∃ next, scanToken context.goal chars = .ok next := by
  cases h with
  | done hnext | more hnext => exact ⟨_, hnext⟩

/-- Such a text is read as the nodes. -/
protected theorem reads (h : Terminated close item context chars nodes rest)
    (hwidth : nodes.length ≤ context.width) :
    (commaSeparated close item).Reads context chars (nodes, !nodes.isEmpty) rest := by
  refine .loop ?_
  suffices hrounds : ∀ (fuel : Nat) (reversed : List Node), nodes.length < fuel →
      (rounds _ fuel reversed).Reads context chars
        (reversed.reverse ++ nodes, !(reversed.isEmpty && nodes.isEmpty)) rest from
    hrounds (context.width + 1) [] (by omega)
  clear hwidth
  induction h with
  | done hnext hclose =>
    intro fuel reversed hfuel
    obtain ⟨fuel, rfl⟩ : ∃ n, fuel = n + 1 := ⟨fuel - 1, by omega⟩
    rw [List.append_nil, List.isEmpty_nil, Bool.and_true]
    exact .rounds_inr (.bind (.atPunct_of_eq hnext hclose) (.ite_pos rfl .pure))
  | @more chars between rest node nodes next second hnext hopen hitem hsecond hcomma hrest ih =>
    intro fuel reversed hfuel
    obtain ⟨fuel, rfl⟩ : ∃ n, fuel = n + 1 := ⟨fuel - 1, by omega⟩
    obtain ⟨third, hthird⟩ := hrest.exists_scanToken
    have hmore := ih fuel (node :: reversed) (by simpa using hfuel)
    rw [List.reverse_cons, List.append_assoc, List.singleton_append, List.isEmpty_cons,
      Bool.false_and] at hmore
    rw [List.isEmpty_cons, Bool.and_false]
    refine .rounds_inl (.bind (.atPunct_of_ne hnext hopen) (.ite_neg Bool.false_ne_true ?_)) hmore
    exact .bind hitem (.bind (.eatPunct_of_eq hsecond hcomma hthird) (.ite_pos rfl .pure))

end Terminated

namespace Reads

/-- An array with a comma behind each item. -/
theorem primary_of_array (h : scanToken goal chars = .ok first)
    (hopen : first.token.kind = .punct .openBracket)
    (hitems : Terminated .closeBracket arrayItem (ruleContext goal width flags depth) first.rest
      nodes between) (hne : nodes ≠ [])
    (hwidth : nodes.length ≤ width) (hclose : scanToken goal between = .ok next)
    (hkind : next.token.kind = .punct .closeBracket)
    (hnext : scanToken goal next.rest = .ok third) :
    primary.Reads (ruleContext goal width flags depth) chars (.mk (.array true) nodes)
      next.rest := by
  obtain ⟨second, hsecond⟩ := hitems.exists_scanToken
  have hlist := hitems.reads hwidth
  rw [List.isEmpty_eq_false_iff.mpr hne] at hlist
  refine .bind (.peek h) ?_
  rw [hopen]
  exact .bind (.expectPunct h hopen hsecond)
    (.bind hlist (.bind (.expectPunct hclose hkind hnext) .pure))

/-- An object with a comma behind each member. -/
theorem primary_of_object (h : scanToken goal chars = .ok first)
    (hopen : first.token.kind = .punct .openBrace)
    (hmembers : Terminated .closeBrace literalMember (ruleContext goal width flags depth) first.rest
      nodes between) (hne : nodes ≠ [])
    (hwidth : nodes.length ≤ width) (hclose : scanToken goal between = .ok next)
    (hkind : next.token.kind = .punct .closeBrace) (hnext : scanToken goal next.rest = .ok third) :
    primary.Reads (ruleContext goal width flags depth) chars (.mk (.object true) nodes)
      next.rest := by
  obtain ⟨second, hsecond⟩ := hmembers.exists_scanToken
  have hlist := hmembers.reads hwidth
  rw [List.isEmpty_eq_false_iff.mpr hne] at hlist
  refine .bind (.peek h) ?_
  rw [hopen]
  exact .bind (.expectPunct h hopen hsecond)
    (.bind hlist (.bind (.expectPunct hclose hkind hnext) .pure))

/-- An element of an array. -/
theorem arrayItem_of_assignment (h : scanToken goal chars = .ok first)
    (hfirst : first.token.kind ≠ .punct .comma ∧ first.token.kind ≠ .punct .ellipsis)
    (hitem : Parser.assignment.Reads (ruleContext goal width { flags with allowIn := true } depth)
      chars node rest) :
    arrayItem.Reads (ruleContext goal width flags depth) chars node rest := by
  refine .bind (.atPunct_of_ne h hfirst.1) (.ite_neg Bool.false_ne_true (.withFlags ?_))
  exact .bind (.eatPunct_of_ne h hfirst.2) (.ite_neg Bool.false_ne_true hitem)

/-- A member of an object whose name is a number. -/
theorem literalMember_of_numeral (h : scanToken goal chars = .ok first)
    (hnumber : first.token.kind = .number) (hsecond : scanToken goal first.rest = .ok second)
    (hcolon : second.token.kind = .punct .colon) (hthird : scanToken goal second.rest = .ok third)
    (hvalue : Parser.assignment.Reads (ruleContext goal width { flags with allowIn := true } depth)
      second.rest node rest) :
    literalMember.Reads (ruleContext goal width flags depth) chars
      (.mk (.member .valued false) [numberLiteral first.token.text, node]) rest := by
  have hword (keyword : Option Keyword) : first.token.kind ≠ .word keyword := by
    rw [hnumber]
    exact nofun
  have hpeek : peekSecond.Reads (ruleContext goal width flags depth) chars none chars :=
    .peekSecond_of_not_word h hword
  have hhead : memberHead.Reads (ruleContext goal width flags depth) chars .plain chars := by
    refine .bind hpeek (.bind (.peek h) ?_)
    rw [hnumber]
    exact .pure
  have hkey : memberName.Reads (ruleContext goal width flags depth) chars
      (numberLiteral first.token.text) first.rest := by
    refine .bind (.peek h) ?_
    rw [hnumber]
    exact .bind (.advance h hsecond) .pure
  refine .bind (.eatPunct_of_ne h (by simp [hnumber])) (.ite_neg Bool.false_ne_true ?_)
  refine .bind hhead (.bind hpeek ?_)
  refine .bind (.atIdentifier_of_not_word h hword) (.ite_neg (by simp) (.bind hkey ?_))
  refine .bind (.atPunct_of_ne hsecond (by simp [hcolon])) (.ite_neg Bool.false_ne_true ?_)
  exact .bind (.expectPunct hsecond hcolon hthird) (.bind (.withFlags hvalue) .pure)

end Reads

end ModuleBundler.Script.Parser
