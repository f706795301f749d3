import ModuleBundler.Proofs.Script.Expressions
import ModuleBundler.Proofs.Script.Extend.Token
import ModuleBundler.Proofs.Script.Fails

/-!
# Reading in front of more text

A parser that comes to a closing brace at the end of a text does the same in front of more text: all
tokens up to the brace are the same there. So it is with every place at which two texts are parted.

## Main definitions

* `Simulation.extension` — reading a text side by side with a longer one.

## Main results

* `Context.extends_ruleContext` — a longer text is read with more depth.
* `Parser.reads_extend` — a parser reads in front of more text as without it.
-/

namespace ModuleBundler.Script

variable {goal : Goal} {chars tail : List Char} {cursor target : Cursor}
  {width width' depth depth' : Nat} {flags : Flags} {p : Punct}

/-! ### Rules at a depth -/

namespace Context

/-- The rules go forward at every depth. -/
theorem sound_ruleContext (goal : Goal) (width : Nat) (flags : Flags) (depth : Nat) :
    (ruleContext goal width flags depth).Sound := by
  induction depth generalizing flags with
  | zero =>
    intro rule flags cursor node next h
    have hfail : Except.error Fault.nestedTooDeep = Except.ok (node, next) := h
    contradiction
  | succ depth ih =>
    intro rule flags cursor node next h
    have hrun : (grammar rule).run (ruleContext goal width flags depth) cursor = .ok (node, next) :=
      h
    have hreach := (grammar rule).forward (ih flags) hrun
    exact hreach

/-- At a larger depth and in a longer text, the rules come to the same. -/
theorem extends_ruleContext (simulation : Simulation goal target) (hwidth : width ≤ width')
    (hdepth : depth ≤ depth') :
    (ruleContext goal width flags depth).Extends simulation
      (ruleContext goal width' flags depth') := by
  induction depth generalizing flags depth' with
  | zero =>
    refine ⟨rfl, rfl, hwidth, fun _ node next h => ?_⟩
    have hfail : Except.error Fault.nestedTooDeep = Except.ok (node, next) := h
    contradiction
  | succ depth ih =>
    obtain ⟨depth', rfl⟩ : ∃ n, depth' = n + 1 := ⟨depth' - 1, by omega⟩
    refine ⟨rfl, rfl, hwidth, fun {rule flags c d} hrelated => ?_⟩
    have hsound := sound_ruleContext goal width flags depth
    have hextends : (ruleContext goal width flags depth).Extends simulation
        (ruleContext goal width' flags depth') := ih (Nat.le_of_succ_le_succ hdepth)
    have hfollows := (grammar rule).transport hsound hextends hrelated
    exact hfollows

end Context

/-! ### Cursors in front of more text -/

/-- What is read again is no punctuator or word any more. -/
theorem Lexeme.ne_of_reread {current next : Lexeme} {way : Rereading}
    (h : current.reread way = .ok next) :
    (∀ p, next.token.kind ≠ .punct p) ∧ ∀ keyword, next.token.kind ≠ .word keyword := by
  unfold reread at h
  dsimp only at h
  split_ifs at h
  split at h
  all_goals
    obtain ⟨_, -, rfl⟩ := Except.map_eq_ok_iff.mp h
    exact ⟨nofun, nofun⟩

theorem Rereading.exists_punct_of_applies {way : Rereading} {kind : TokenKind}
    (h : way.applies kind) : ∃ p, kind = .punct p := by
  unfold applies at h
  split at h
  all_goals first | contradiction | exact ⟨_, rfl⟩

/-- At the end of a text there is no token. -/
theorem scanToken_nil (goal : Goal) :
    scanToken goal [] = .ok (lexeme ⟨[], false⟩ .endOfSource [] [] false) :=
  rfl

namespace Cursor

/-- The same with more text behind it. -/
def extend (cursor : Cursor) (tail : List Char) : Cursor :=
  ⟨cursor.next.extend tail, cursor.behind ++ tail⟩

/-- A token that nothing is read again as is reached by passing over the token in front of it. -/
theorem Reaches.at_kind (isKind : TokenKind → Prop)
    (hreread : ∀ ⦃current next : Lexeme⦄ ⦃way⦄, current.reread way = .ok next →
      ¬isKind next.token.kind)
    (h : cursor.Reaches goal target) (hcursor : isKind cursor.token.kind →
      cursor.At goal cursor.behind) (hkind : isKind target.token.kind) :
    target.At goal target.behind := by
  induction h with
  | refl => exact hcursor hkind
  | step hstep _ ih =>
    refine ih (fun hnext => ?_) hkind
    cases hstep with
    | advance h =>
      obtain ⟨next, hlexeme, rfl⟩ := Except.map_eq_ok_iff.mp h
      exact ⟨hlexeme, rfl⟩
    | reread way h =>
      obtain ⟨next, hlexeme, rfl⟩ := Except.map_eq_ok_iff.mp h
      exact absurd hnext (hreread hlexeme)

/-- Punctuators are reached so. -/
theorem Reaches.at_punct (h : cursor.Reaches goal target)
    (hcursor : ∀ p, cursor.token.kind = .punct p → cursor.At goal cursor.behind)
    (hkind : target.token.kind = .punct p) : target.At goal target.behind :=
  h.at_kind (fun kind => ∃ p, kind = .punct p)
    (fun _ _ _ hreread hkind => hkind.elim (Lexeme.ne_of_reread hreread).1)
    (fun hkind => hkind.elim hcursor) ⟨p, hkind⟩

/-- So are words. -/
theorem Reaches.at_word {keyword : Option Keyword} (h : cursor.Reaches goal target)
    (hcursor : cursor.At goal cursor.behind) (hkind : target.token.kind = .word keyword) :
    target.At goal target.behind :=
  h.at_kind (· = .word keyword) (fun _ _ _ hreread => (Lexeme.ne_of_reread hreread).2 keyword)
    (fun _ => hcursor) hkind

/-- A cursor at a punctuator has come there by passing over the token in front of it. -/
theorem Reaches.at_behind (h : cursor.Reaches goal target)
    (hcursor : cursor.At goal cursor.behind) (hkind : target.token.kind = .punct p) :
    target.At goal target.behind :=
  h.at_punct (fun _ _ => hcursor) hkind

/-- A token in front of another one has something behind it, or it is sealed. -/
theorem Reaches.isSealed_or_bounded (h : cursor.Reaches goal target)
    (hparted : Parted target.next.here tail) (hsealed : target.token.kind.isSealed) :
    cursor.token.kind.isSealed ∨ Bounded cursor.next.rest tail := by
  cases h with
  | refl => exact .inl hsealed
  | step hstep hreach =>
    cases hstep with
    | advance h =>
      refine .inr (.inl fun hrest => hparted.ne_nil ?_)
      obtain ⟨next, hnext, rfl⟩ := Except.map_eq_ok_iff.mp h
      rw [hrest, scanToken_nil] at hnext
      obtain rfl := Except.ok.inj hnext
      have hsuffix := hreach.suffix List.suffix_rfl
      exact List.suffix_nil.mp hsuffix
    | reread way h =>
      obtain ⟨next, hnext, rfl⟩ := Except.map_eq_ok_iff.mp h
      unfold Lexeme.reread at hnext
      dsimp only at hnext
      split_ifs at hnext with happlies
      obtain ⟨_, hpunct⟩ := Rereading.exists_punct_of_applies happlies
      exact .inl (congrArg TokenKind.isSealed hpunct)

/-- A cursor in front of a place that parts two texts is a cursor in front of more text. -/
theorem Reaches.at_extend (h : cursor.Reaches goal target) (hcursor : cursor.At goal chars)
    (hsealed : target.token.kind.isSealed) (hparted : Parted target.next.here tail) :
    (cursor.extend tail).At goal (chars ++ tail) where
  next := scanToken_extend tail hcursor.next (hparted.suffix (h.suffix hcursor.aligned))
    (h.isSealed_or_bounded hparted hsealed)
  behind := by rw [extend, hcursor.behind]

end Cursor

namespace Cursor

variable {next : Cursor} (tail)

theorem distance_extend : (cursor.extend tail).distance (next.extend tail) =
    cursor.distance next := by
  simp only [distance, extend, Lexeme.extend, List.length_append]
  omega

theorem extent_extend : (cursor.extend tail).extent (next.extend tail) = cursor.extent next := by
  simp only [extent, extend, Lexeme.extend, List.length_append]
  omega

section Steps

variable (hsealed : target.token.kind.isSealed) (hparted : Parted target.next.here tail)
  (hreach : next.Reaches goal target)

include hsealed hparted hreach

/-- A step towards a place that parts two texts is a step in front of more text. -/
theorem advance_extend (h : cursor.advance goal = .ok next) :
    (cursor.extend tail).advance goal = .ok (next.extend tail) := by
  obtain ⟨lexeme, hlexeme, rfl⟩ := Except.map_eq_ok_iff.mp h
  obtain ⟨hrest, -⟩ := scanToken_suffix hlexeme
  have hhere : Parted lexeme.here tail := hparted.suffix (hreach.suffix hrest)
  have hmore := scanToken_extend tail hlexeme hhere (hreach.isSealed_or_bounded hparted hsealed)
  exact (congrArg (Except.map _) hmore).trans rfl

theorem reread_extend {way : Rereading} (h : cursor.reread way = .ok next) :
    (cursor.extend tail).reread way = .ok (next.extend tail) := by
  obtain ⟨lexeme, hlexeme, rfl⟩ := Except.map_eq_ok_iff.mp h
  obtain ⟨hsame, hrest⟩ := Lexeme.reread_suffix hlexeme
  have hhere : Parted lexeme.here tail := hparted.suffix (hreach.suffix hrest)
  have hmore := Lexeme.reread_extend tail hlexeme (hsame ▸ hhere.ne_nil)
    (hreach.isSealed_or_bounded hparted hsealed)
  exact (congrArg (Except.map _) hmore).trans rfl

end Steps

end Cursor

theorem TokenKind.ne_word_of_isSealed {kind : TokenKind} (h : kind.isSealed)
    (keyword : Option Keyword) : kind ≠ .word keyword := by
  rintro rfl
  contradiction

/-- Reading a text up to a place that parts it from another one side by side with both texts. -/
def Simulation.extension (goal : Goal) (target : Cursor) (tail : List Char)
    (hsealed : target.token.kind.isSealed) (hparted : Parted target.next.here tail) :
    Simulation goal target where
  Related c d := d = c.extend tail
  token_eq h := h ▸ rfl
  advance h hadvance hreach :=
    ⟨_, h ▸ Cursor.advance_extend tail hsealed hparted hreach hadvance, rfl⟩
  reread h hreread hreach :=
    ⟨_, h ▸ Cursor.reread_extend tail hsealed hparted hreach hreread, rfl⟩
  distance_eq h h' := h ▸ h' ▸ Cursor.distance_extend tail
  extent_eq h h' := h ▸ h' ▸ Cursor.extent_extend tail
  target_ne_word := TokenKind.ne_word_of_isSealed hsealed

/-- **A parser reads in front of more text as without it**, if it comes to a punctuator at a place
that parts the two texts. -/
theorem Parser.reads_extend {α : Type} {parser : Parser α} {a : α}
    (hcursor : cursor.At goal chars)
    (h : parser.run (ruleContext goal width flags depth) cursor = .ok (a, target))
    (hkind : target.token.kind = .punct p) (hparted : Parted target.next.here tail)
    (hwidth : width ≤ width') (hdepth : depth ≤ depth') :
    parser.Reads (ruleContext goal width' flags depth') (chars ++ tail) a
      (target.behind ++ tail) := by
  have hreach : cursor.Reaches goal target :=
    parser.forward (Context.sound_ruleContext goal width flags depth) h
  have htarget : target.At goal target.behind := hreach.at_behind (hcursor.behind ▸ hcursor) hkind
  have hsealed : target.token.kind.isSealed := congrArg TokenKind.isSealed hkind
  let simulation := Simulation.extension goal target tail hsealed hparted
  obtain ⟨_, hrun, rfl⟩ := parser.transport (Context.sound_ruleContext goal width flags depth)
    (Context.extends_ruleContext simulation hwidth hdepth) (c := cursor) rfl a target h (.refl _)
  intro start hstart
  obtain rfl := hstart.unique (hreach.at_extend hcursor hsealed hparted)
  have hlast := (Cursor.Reaches.refl target).at_extend htarget hsealed hparted
  exact ⟨target.extend tail, hlast, hrun⟩

end ModuleBundler.Script
