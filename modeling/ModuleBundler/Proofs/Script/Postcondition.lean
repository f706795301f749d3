import ModuleBundler.Script.Grammar.Token

/-!
# What parsers come to

A parser *ensures* a property in some contexts if whatever it comes to there has the property. A
sequence of parsers ensures what its last one does when it may rely on what those before it ensure,
and a loop what every round keeps.

## Main definitions

* `Parser.Ensures` — what a parser comes to in contexts of a kind has a property.

## Main results

* `Parser.Ensures.bind`, `Parser.Ensures.loop` — sequences and loops.
* `Parser.Ensures.commaSeparated`, `Parser.Ensures.repeatUntil` — lists.
-/

namespace ModuleBundler.Script.Parser

variable {α β σ : Type} {pre pre' : Context → Prop} {post : α → Prop} {parser : Parser α}

/-- Whatever the parser comes to in such contexts has the property. -/
def Ensures (parser : Parser α) (pre : Context → Prop) (post : α → Prop) : Prop :=
  ∀ ⦃context cursor a next⦄, pre context → parser.run context cursor = .ok (a, next) → post a

namespace Ensures

/-! ### Sequences -/

protected theorem pure {a : α} (h : post a) : (Pure.pure a : Parser α).Ensures pre post := by
  intro context cursor b next _ hrun
  obtain ⟨rfl, -⟩ := Prod.mk.inj (Except.ok.inj hrun)
  exact h

theorem mono {post' : α → Prop} (h : parser.Ensures pre post) (hpost : ∀ a, post a → post' a) :
    parser.Ensures pre post' := fun _ _ _ _ hpre hrun =>
  hpost _ (h hpre hrun)

protected theorem bind {next : α → Parser β} {post' : β → Prop} (h : parser.Ensures pre post)
    (hnext : ∀ a, post a → (next a).Ensures pre post') : (parser >>= next).Ensures pre post' := by
  intro context cursor b last hpre hrun
  rw [run_bind] at hrun
  split at hrun
  · next a between heq => exact hnext a (h hpre heq) hpre hrun
  · contradiction

/-- What comes first does not matter. -/
theorem after {next : α → Parser β} {post' : β → Prop}
    (hnext : ∀ a, (next a).Ensures pre post') : (parser >>= next).Ensures pre post' := by
  have htrivial : parser.Ensures pre fun _ => True := fun _ _ _ _ _ _ => trivial
  exact htrivial.bind fun a _ => hnext a

/-! ### Faults -/

theorem fail {fault : Fault} : (Parser.fail fault : Parser α).Ensures pre post :=
  fun _ _ _ _ _ hrun => nomatch hrun

/-- Nothing is read behind a fault. -/
theorem fail_bind {fault : Fault} {next : β → Parser α} :
    (Parser.fail fault >>= next).Ensures pre post :=
  fun _ _ _ _ _ hrun => nomatch hrun

theorem unexpected : (Parser.unexpected : Parser α).Ensures pre post :=
  .fail

/-! ### Choices -/

section Choice

variable {condition : Prop} [Decidable condition] {other : Parser α}

theorem ite (h : condition → parser.Ensures pre post)
    (hother : ¬condition → other.Ensures pre post) :
    (if condition then parser else other).Ensures pre post := by
  split
  · exact h ‹_›
  · exact hother ‹_›

/-- What follows may rely on the condition, as the parser fails without it. -/
theorem need {next : Unit → Parser α} {fault : Fault}
    (h : condition → (next ()).Ensures pre post) :
    (if condition then next () else Parser.fail fault >>= next).Ensures pre post :=
  .ite h fun _ => .fail_bind

theorem reject {next : Unit → Parser α} {fault : Fault}
    (h : ¬condition → (next ()).Ensures pre post) :
    (if condition then Parser.fail fault >>= next else next ()).Ensures pre post :=
  .ite (fun _ => .fail_bind) h

/-- What follows a choice may rely on what both parsers ensure. -/
theorem either {next : α → Parser β} {post' : β → Prop} (h : parser.Ensures pre post)
    (hother : other.Ensures pre post) (hnext : ∀ a, post a → (next a).Ensures pre post') :
    (if condition then parser >>= next else other >>= next).Ensures pre post' :=
  .ite (fun _ => h.bind hnext) fun _ => hother.bind hnext

end Choice

/-! ### Contexts -/

/-- The flags are those of a context of the kind. -/
theorem flags : Parser.flags.Ensures pre fun flags =>
    ∃ context, pre context ∧ context.flags = flags := by
  intro context cursor flags next hpre hrun
  obtain ⟨rfl, -⟩ := Prod.mk.inj (Except.ok.inj hrun)
  exact ⟨context, hpre, rfl⟩

theorem withFlags {change : Flags → Flags} (h : parser.Ensures pre' post)
    (hpre : ∀ context, pre context → pre' (context.withFlags change)) :
    (Parser.withFlags change parser).Ensures pre post := fun context _ _ _ hcontext hrun =>
  h (hpre context hcontext) hrun

/-- What a parser ensures everywhere it ensures where other things are allowed. -/
theorem withAnyFlags {change : Flags → Flags} (h : parser.Ensures (fun _ => True) post) :
    (Parser.withFlags change parser).Ensures pre post :=
  .withFlags h fun _ _ => trivial

/-- How much is read is no part of what the parser comes to. -/
theorem withExtent (h : parser.Ensures pre post) :
    parser.withExtent.Ensures pre fun outcome => post outcome.1 := by
  rintro context cursor ⟨a, length⟩ next hpre hrun
  replace hrun : (parser.run context cursor).map
      (fun outcome => ((outcome.1, cursor.extent outcome.2), outcome.2)) =
        .ok ((a, length), next) := hrun
  cases hparser : parser.run context cursor with
  | error fault => rw [hparser] at hrun; contradiction
  | ok outcome =>
    rw [hparser] at hrun
    obtain ⟨⟨rfl, -⟩, rfl⟩ := by simpa [Except.map] using hrun
    exact h hpre hparser

/-! ### Loops -/

theorem rounds {body : σ → Parser (σ ⊕ α)} {invariant : σ → Prop} (fuel : Nat) {state : σ}
    (hbody : ∀ state, invariant state → (body state).Ensures pre (Sum.elim invariant post))
    (h : invariant state) : (Parser.rounds body fuel state).Ensures pre post := by
  induction fuel generalizing state with
  | zero => exact .fail
  | succ fuel ih =>
    refine (hbody state h).bind fun outcome houtcome => ?_
    cases outcome with
    | inl state' => exact ih houtcome
    | inr a => exact .pure houtcome

/-- A loop ensures what holds of its result, if every round keeps an invariant. -/
theorem loop {body : σ → Parser (σ ⊕ α)} (invariant : σ → Prop) {state : σ}
    (hbody : ∀ state, invariant state → (body state).Ensures pre (Sum.elim invariant post))
    (h : invariant state) : (Parser.loop body state).Ensures pre post :=
  fun context _ _ _ hpre hrun => rounds (context.width + 1) hbody h hpre hrun

/-! ### Lists -/

variable {property : Node → Prop} {item : Parser Node}

/-- The items of a list are read in reverse order. -/
theorem forall_mem_reverse {nodes : List Node} (h : ∀ node ∈ nodes, property node) :
    ∀ node ∈ nodes.reverse, property node := fun node hmem =>
  h node (List.mem_reverse.mp hmem)

/-- All items of a list have the property that each item ensures. -/
theorem repeatUntil {stop : Parser Bool} (h : item.Ensures pre property) :
    (Parser.repeatUntil stop item).Ensures pre fun nodes => ∀ node ∈ nodes, property node := by
  refine .loop (fun reversed => ∀ node ∈ reversed, property node) (fun reversed hreversed => ?_)
    (by simp)
  refine .after fun _ => .ite (fun _ => .pure (forall_mem_reverse hreversed)) fun _ => ?_
  exact .bind h fun node hnode => .pure (List.forall_mem_cons.mpr ⟨hnode, hreversed⟩)

theorem commaSeparated {close : Punct} (h : item.Ensures pre property) :
    (Parser.commaSeparated close item).Ensures pre fun outcome =>
      ∀ node ∈ outcome.1, property node := by
  refine .loop (fun reversed => ∀ node ∈ reversed, property node) (fun reversed hreversed => ?_)
    (by simp)
  refine .after fun _ => .ite (fun _ => .pure (forall_mem_reverse hreversed)) fun _ => ?_
  refine .bind h fun node hnode => ?_
  have hmore : ∀ other ∈ node :: reversed, property other :=
    List.forall_mem_cons.mpr ⟨hnode, hreversed⟩
  refine .after fun _ => .ite (fun _ => .pure hmore) fun _ => ?_
  exact .after fun _ => .ite (fun _ => .pure (forall_mem_reverse hmore)) fun _ => .after fun _ =>
    .pure (forall_mem_reverse hmore)

end Ensures

end ModuleBundler.Script.Parser
