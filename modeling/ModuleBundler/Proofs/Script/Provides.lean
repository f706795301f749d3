import ModuleBundler.Proofs.Script.Links
import ModuleBundler.Proofs.Script.Progress

/-!
# What parsers make of genuine tokens

A parser *provides* a property in a context if whatever it comes to from a genuine cursor has the
property. So, unlike a postcondition alone, it may rely on what is known of tokens: an identifier is
read as a name, and this is no reserved word.

## Main definitions

* `Parser.Provides` — what a parser comes to from genuine cursors has a property.

## Main results

* `Parser.Provides.bind`, `Parser.Provides.loop` — sequences and loops.
* `Parser.Provides.identifier` — identifiers are names.
-/

namespace ModuleBundler.Script.Parser

variable {α β σ : Type} {parser other : Parser α} {context : Context} {post post' : α → Prop}
  {goal : Goal} {width depth : Nat} {cursor last : Cursor}

/-- Whatever the parser comes to from a genuine cursor has the property. -/
def Provides (parser : Parser α) (context : Context) (post : α → Prop) : Prop :=
  context.Sound → ∀ ⦃cursor a next⦄, cursor.Genuine context.goal →
    parser.run context cursor = .ok (a, next) → post a

/-- Reading an identifier comes to the name of the next token, which is no reserved word. -/
theorem identifier_eq_ok {node : Node} (h : identifier.run context cursor = .ok (node, last)) :
    node = .mk (.identifier cursor.token.text) [] ∧ cursor.token.kind.isIdentifier := by
  obtain ⟨isIdentifier, between, hat, h⟩ := bind_eq_ok_iff.mp h
  have hsame : between = cursor ∧ isIdentifier = cursor.token.kind.isIdentifier := by
    obtain ⟨token, looked, hpeek, hat⟩ := bind_eq_ok_iff.mp hat
    obtain ⟨rfl, rfl⟩ := Prod.mk.inj (Except.ok.inj hpeek)
    unfold TokenKind.isIdentifier
    split at hat
    all_goals
      next heq =>
        obtain ⟨rfl, rfl⟩ := Prod.mk.inj (Except.ok.inj hat)
        simp [heq]
  obtain ⟨rfl, rfl⟩ := hsame
  split at h
  · next hidentifier =>
    obtain ⟨_, h⟩ := Still.rejectOperatorWord.exists_of_bind h
    obtain ⟨token, looked, hpeek, h⟩ := bind_eq_ok_iff.mp h
    obtain ⟨rfl, rfl⟩ := Prod.mk.inj (Except.ok.inj hpeek)
    obtain ⟨_, behind, -, h⟩ := bind_eq_ok_iff.mp h
    obtain ⟨rfl, -⟩ := Prod.mk.inj (Except.ok.inj h)
    exact ⟨rfl, hidentifier⟩
  · cases h

namespace Provides

/-! ### Sequences and choices -/

protected theorem pure {a : α} (h : post a) : (Pure.pure a : Parser α).Provides context post := by
  intro _ cursor b next _ hrun
  obtain ⟨rfl, -⟩ := Prod.mk.inj (Except.ok.inj hrun)
  exact h

theorem mono (h : parser.Provides context post) (hpost : ∀ a, post a → post' a) :
    parser.Provides context post' :=
  fun hsound _ _ _ hgenuine hrun => hpost _ (h hsound hgenuine hrun)

protected theorem bind {next : α → Parser β} {post' : β → Prop} (h : parser.Provides context post)
    (hnext : ∀ a, post a → (next a).Provides context post') :
    (parser >>= next).Provides context post' := by
  intro hsound cursor b last hgenuine hrun
  obtain ⟨a, between, hfirst, hrest⟩ := bind_eq_ok_iff.mp hrun
  have hbetween := (parser.forward hsound hfirst).genuine hgenuine
  exact hnext a (h hsound hgenuine hfirst) hsound hbetween hrest

/-- What comes first does not matter. -/
theorem after {next : α → Parser β} {post' : β → Prop}
    (hnext : ∀ a, (next a).Provides context post') : (parser >>= next).Provides context post' := by
  have htrivial : parser.Provides context fun _ => True := fun _ _ _ _ _ _ => trivial
  exact htrivial.bind fun a _ => hnext a

theorem fail {fault : Fault} : (Parser.fail fault : Parser α).Provides context post :=
  fun _ _ _ _ _ hrun => by contradiction

/-- Nothing is read behind a fault. -/
theorem fail_bind {fault : Fault} {next : β → Parser α} :
    (Parser.fail fault >>= next).Provides context post :=
  fun _ _ _ _ _ hrun => by cases hrun

theorem unexpected : (Parser.unexpected : Parser α).Provides context post :=
  .fail

theorem ite {condition : Prop} [Decidable condition]
    (h : condition → parser.Provides context post)
    (hother : ¬condition → other.Provides context post) :
    (if condition then parser else other).Provides context post := by
  split
  · exact h ‹_›
  · exact hother ‹_›

/-- What follows a check may rely on it, as the parser fails without it. -/
theorem need {condition : Prop} [Decidable condition] {next : Unit → Parser α} {fault : Fault}
    (h : condition → (next ()).Provides context post) :
    (if condition then next () else Parser.fail fault >>= next).Provides context post :=
  .ite h fun _ => .fail_bind

theorem reject {condition : Prop} [Decidable condition] {next : Unit → Parser α} {fault : Fault}
    (h : ¬condition → (next ()).Provides context post) :
    (if condition then Parser.fail fault >>= next else next ()).Provides context post :=
  .ite (fun _ => .fail_bind) h

/-- What follows a choice may rely on what both parsers provide. -/
theorem either {condition : Prop} [Decidable condition] {next : α → Parser β} {post' : β → Prop}
    (h : parser.Provides context post) (hother : other.Provides context post)
    (hnext : ∀ a, post a → (next a).Provides context post') :
    (if condition then parser >>= next else other >>= next).Provides context post' :=
  .ite (fun _ => h.bind hnext) fun _ => hother.bind hnext

theorem withFlags {change : Flags → Flags} (h : parser.Provides (context.withFlags change) post) :
    (Parser.withFlags change parser).Provides context post :=
  fun hsound _ _ _ hgenuine hrun => h (hsound.withFlags change) hgenuine hrun

/-- A rule provides what it does at all smaller depths. -/
theorem call {rule : Rule} {flags : Flags} {post : Node → Prop}
    (h : ∀ smaller, depth = smaller + 1 →
      (grammar rule).Provides (ruleContext goal width flags smaller) post) :
    (Parser.call rule).Provides (ruleContext goal width flags depth) post := by
  intro _ cursor node next hgenuine hrun
  cases depth with
  | zero => cases hrun
  | succ smaller =>
    exact h smaller rfl (Context.sound_ruleContext goal width flags smaller) hgenuine hrun

theorem withExtent (h : parser.Provides context post) :
    parser.withExtent.Provides context fun outcome => post outcome.1 := by
  intro hsound cursor outcome next hgenuine hrun
  exact h hsound hgenuine (withExtent_eq_ok hrun).1

theorem withDistance (h : parser.Provides context post) :
    parser.withDistance.Provides context fun outcome => post outcome.1 := by
  intro hsound cursor outcome next hgenuine hrun
  exact h hsound hgenuine (withDistance_eq_ok hrun).1

/-! ### Loops and lists -/

theorem rounds {body : σ → Parser (σ ⊕ α)} {invariant : σ → Prop} (fuel : Nat) {state : σ}
    (hbody : ∀ state, invariant state → (body state).Provides context (Sum.elim invariant post))
    (h : invariant state) : (Parser.rounds body fuel state).Provides context post := by
  induction fuel generalizing state with
  | zero => exact .fail
  | succ fuel ih =>
    refine (hbody state h).bind fun outcome houtcome => ?_
    cases outcome with
    | inl state' => exact ih houtcome
    | inr a => exact .pure houtcome

/-- A loop provides what holds of its result, if every round keeps an invariant. -/
theorem loop {body : σ → Parser (σ ⊕ α)} (invariant : σ → Prop) {state : σ}
    (hbody : ∀ state, invariant state → (body state).Provides context (Sum.elim invariant post))
    (h : invariant state) : (Parser.loop body state).Provides context post :=
  fun hsound _ _ _ hgenuine hrun => rounds (context.width + 1) hbody h hsound hgenuine hrun

theorem forall_mem_reverse {as : List α} (h : ∀ a ∈ as, post a) : ∀ a ∈ as.reverse, post a :=
  fun a hmem => h a (List.mem_reverse.mp hmem)

theorem repeatUntil {stop : Parser Bool} {item : Parser Node} {post : Node → Prop}
    (h : item.Provides context post) :
    (Parser.repeatUntil stop item).Provides context fun nodes => ∀ node ∈ nodes, post node := by
  refine .loop (fun reversed => ∀ node ∈ reversed, post node) (fun reversed hreversed => ?_)
    (List.forall_mem_nil _)
  refine .after fun _ => .ite (fun _ => .pure (forall_mem_reverse hreversed)) fun _ => ?_
  exact .bind h fun node hnode => .pure (List.forall_mem_cons.mpr ⟨hnode, hreversed⟩)

theorem nameList {item : Parser α} (h : item.Provides context post) :
    (Parser.nameList item).Provides context fun names => ∀ name ∈ names, post name := by
  refine .loop (fun reversed => ∀ name ∈ reversed, post name) (fun reversed hreversed => ?_)
    (List.forall_mem_nil _)
  refine .after fun _ => .ite (fun _ => .pure (forall_mem_reverse hreversed)) fun _ => ?_
  refine .bind h fun name hname => .after fun _ => ?_
  have hmore : ∀ other ∈ name :: reversed, post other :=
    List.forall_mem_cons.mpr ⟨hname, hreversed⟩
  exact .ite (fun _ => .pure hmore) fun _ => .after fun _ => .pure (forall_mem_reverse hmore)

theorem patternItems {close : Punct} {item rest : Parser Node} {post : Node → Prop}
    (h : item.Provides context post) (hrest : (restElement rest).Provides context post) :
    (Parser.patternItems close item rest).Provides context fun nodes =>
      ∀ node ∈ nodes, post node := by
  refine .loop (fun reversed => ∀ node ∈ reversed, post node) (fun reversed hreversed => ?_)
    (List.forall_mem_nil _)
  refine .after fun _ => .ite (fun _ => .pure (forall_mem_reverse hreversed)) fun _ => ?_
  refine .after fun _ => .ite (fun _ => ?_) fun _ => .bind h fun node hnode => ?_
  · refine .bind hrest fun last hlast => .after fun _ => .need fun _ => ?_
    exact .pure (forall_mem_reverse (List.forall_mem_cons.mpr ⟨hlast, hreversed⟩))
  · have hmore : ∀ other ∈ node :: reversed, post other :=
      List.forall_mem_cons.mpr ⟨hnode, hreversed⟩
    refine .after fun _ => .ite (fun _ => .pure hmore) fun _ => .after fun _ => .need fun _ => ?_
    exact .pure (forall_mem_reverse hmore)

/-! ### Names -/

/-- A word in a genuine token is a name and tells its keyword. -/
theorem peek : Parser.peek.Provides context fun token => ∀ {keyword : Option Keyword},
    token.kind = .word keyword →
      IsIdentifierName token.text ∧ keyword = keywordOf? token.text := by
  intro _ cursor token next hgenuine hrun
  obtain ⟨rfl, -⟩ := Prod.mk.inj (Except.ok.inj hrun)
  exact hgenuine.fits.word

/-- An identifier is a name and no reserved word. -/
theorem identifier : Parser.identifier.Provides context fun node => ∃ name,
    node = .mk (.identifier name) [] ∧ IsIdentifierName name ∧
      (TokenKind.word (keywordOf? name)).isIdentifier := by
  intro _ cursor node next hgenuine hrun
  obtain ⟨rfl, hidentifier⟩ := identifier_eq_ok hrun
  obtain ⟨keyword, hkind⟩ := TokenKind.exists_word_of_isIdentifier hidentifier
  obtain ⟨hname, rfl⟩ := hgenuine.fits.word hkind
  exact ⟨_, rfl, hname, hkind ▸ hidentifier⟩

theorem bindingName : Parser.bindingName.Provides context fun name =>
    IsIdentifierName name ∧ (TokenKind.word (keywordOf? name)).isIdentifier := by
  intro _ cursor name next hgenuine hrun
  obtain ⟨token, looked, hpeek, hrun⟩ := bind_eq_ok_iff.mp hrun
  obtain ⟨rfl, rfl⟩ := Prod.mk.inj (Except.ok.inj hpeek)
  obtain ⟨node, behind, hread, hrun⟩ := bind_eq_ok_iff.mp hrun
  obtain ⟨rfl, -⟩ := Prod.mk.inj (Except.ok.inj hrun)
  obtain ⟨-, hidentifier⟩ := identifier_eq_ok hread
  obtain ⟨keyword, hkind⟩ := TokenKind.exists_word_of_isIdentifier hidentifier
  obtain ⟨hname, rfl⟩ := hgenuine.fits.word hkind
  exact ⟨hname, hkind ▸ hidentifier⟩

end Provides

end ModuleBundler.Script.Parser
