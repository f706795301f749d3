import Mathlib.Data.List.Find
import ModuleBundler.Proofs.Script.Extend.Literal

/-!
# Tokens in front of more text

A token of a text is read in front of more text as without it if the two texts are parted, unless it
is the last one and could go on there. What has a mark of its own at its end cannot go on, and a
punctuator does not go on behind a closing brace or a semicolon.

## Main definitions

* `Lexeme.extend` — a token in front of more text.

## Main results

* `scanToken_extend`, `Lexeme.reread_extend` — a token is read in front of more text as without it.
-/

namespace ModuleBundler.Script

open Text

variable {goal : Goal} {chars : List Char} (tail : List Char)

/-! ### Tokens -/

section Tokens

variable {place : Rest} {next : Lexeme}

/-- The same with more text behind it. -/
def Lexeme.extend (lexeme : Lexeme) (tail : List Char) : Lexeme :=
  { lexeme with
    here := lexeme.here ++ tail
    rest := lexeme.rest ++ tail }

/-- The longest punctuator at the start of a text, the point behind a question mark apart. -/
theorem punctAt?_eq_find? (h : ¬['?', '.'] <+: chars) :
    punctAt? chars = (punctuators.find? fun entry => entry.1.isPrefixOf chars).map fun entry =>
      (entry.2, entry.1.length) := by
  unfold punctAt?
  split
  · exact absurd (List.prefix_append ['?', '.'] _) h
  · exact absurd List.prefix_rfl h
  · rfl

/-- A question mark and a point are one punctuator at the end of a text and in front of a
separator. -/
theorem punctAt?_optionalDot (h : StartsApart tail) :
    punctAt? ('?' :: '.' :: tail) = some (.optionalDot, 2) := by
  cases tail with
  | nil => rfl
  | cons c tail =>
    have hdigit := eq_false_of_isSeparator isDigit_separators h.cons
    rw [punctAt?, if_neg (Bool.eq_false_iff.mp hdigit)]

/-- No punctuator goes on behind the place that parts two texts. -/
theorem punctAt?_append (h : Parted chars tail) : punctAt? (chars ++ tail) = punctAt? chars := by
  by_cases hpoint : ['?', '.'] <+: chars
  · obtain ⟨rest, rfl⟩ := hpoint
    cases rest with
    | nil =>
      obtain hclosed | hapart := h.parts
      · exact absurd hclosed (by decide)
      · exact punctAt?_optionalDot tail hapart
    | cons c rest => rfl
  · have hpoint' : ¬['?', '.'] <+: chars ++ tail := fun hfront =>
      hpoint (h.prefix_of_append (by decide) hfront)
    have hall : ∀ entry ∈ punctuators, isSolid entry.1 := by decide
    rw [punctAt?_eq_find? hpoint, punctAt?_eq_find? hpoint']
    refine congrArg (Option.map _) (List.find?_congr fun entry hentry => Bool.eq_iff_iff.mpr ?_)
    rw [List.isPrefixOf_iff_prefix, List.isPrefixOf_iff_prefix]
    exact ⟨h.prefix_of_append (hall entry hentry), fun hfront =>
      hfront.trans (List.prefix_append chars tail)⟩

theorem length_le_of_punctAt? {p : Punct} {length : Nat} (h : punctAt? chars = some (p, length)) :
    length ≤ chars.length := by
  unfold punctAt? at h
  split at h
  · split_ifs at h <;> cases h <;> simp
  · cases h
    rfl
  · obtain ⟨entry, hentry, heq⟩ := Option.map_eq_some_iff.mp h
    have hstarts := List.find?_some hentry
    have hfront : entry.1 <+: chars := List.isPrefixOf_iff_prefix.mp hstarts
    rw [← (Prod.mk.inj heq).2]
    exact hfront.length_le

/-- Does the punctuator end a statement? -/
def Punct.isFinal : Punct → Bool
  | .semicolon | .closeBrace => true
  | _ => false

/-- A punctuator that ends a statement is a single character. -/
theorem eq_one_of_punctAt? {p : Punct} {length : Nat} {c : Char}
    (h : punctAt? (c :: chars) = some (p, length)) (hp : p.isFinal) :
    Script.isFinal c ∧ length = 1 ∧ (p = .semicolon → c = ';') := by
  have htable : ∀ entry ∈ punctuators, entry.2.isFinal →
      entry.1.head?.any Script.isFinal ∧ entry.1.length = 1 ∧
        (entry.2 = .semicolon → entry.1 = [';']) := by decide
  unfold punctAt? at h
  split at h
  · split_ifs at h <;> cases h <;> contradiction
  · cases h
    contradiction
  · obtain ⟨entry, hentry, heq⟩ := Option.map_eq_some_iff.mp h
    obtain ⟨rfl, rfl⟩ := Prod.mk.inj heq
    obtain ⟨hfinal, hlength, hsemicolon⟩ := htable entry (List.mem_of_find?_eq_some hentry) hp
    have hstarts := List.find?_some hentry
    have hfront : entry.1 <+: c :: chars := List.isPrefixOf_iff_prefix.mp hstarts
    obtain ⟨d, hd⟩ := List.length_eq_one_iff.mp hlength
    rw [hd] at hfront hfinal hsemicolon
    obtain rfl := (List.cons_prefix_cons.mp hfront).1
    exact ⟨hfinal, hlength, fun hp => (List.cons.inj (hsemicolon hp)).1⟩

/-- The text of a punctuator that ends a statement. -/
theorem here_eq_of_isFinal {p : Punct} (h : scanToken goal chars = .ok next)
    (hkind : next.token.kind = .punct p) (hp : p.isFinal) :
    ∃ c, isFinal c ∧ next.here = c :: next.rest ∧ (p = .semicolon → c = ';') := by
  obtain ⟨place, -, hnext⟩ := exists_skipTrivia_of_scanToken h
  have hhere : next.here = place.chars := (tokenAt_suffix hnext).1
  unfold tokenAt at hnext
  split at hnext
  · obtain rfl := Except.ok.inj hnext
    contradiction
  · next c cs hchars =>
    -- Only the last way to read a token comes to a punctuator.
    split_ifs at hnext
    · split at hnext
      · obtain rfl := Except.ok.inj hnext
        contradiction
      · contradiction
    · split at hnext
      · next number _ =>
        obtain rfl := Except.ok.inj hnext
        have hnumber : (if number.big then TokenKind.bigint else .number) = .punct p := hkind
        split at hnumber <;> contradiction
      · contradiction
    · obtain ⟨text, -, rfl⟩ := Except.map_eq_ok_iff.mp hnext
      contradiction
    · obtain ⟨piece, -, rfl⟩ := Except.map_eq_ok_iff.mp hnext
      contradiction
    · split at hnext
      · obtain rfl := Except.ok.inj hnext
        contradiction
      · contradiction
    · split at hnext
      · next punct length hpunct =>
        obtain rfl := Except.ok.inj hnext
        obtain rfl : punct = p := TokenKind.punct.inj hkind
        obtain ⟨hfinal, rfl, hsemicolon⟩ := eq_one_of_punctAt? hpunct hp
        exact ⟨c, hfinal, hhere.trans hchars, hsemicolon⟩
      · contradiction

/-- Does a token of the kind end with a mark of its own, or at a place where no punctuator goes
on? -/
def TokenKind.isSealed : TokenKind → Bool
  | .punct _ | .string _ | .template _ _ => true
  | _ => false

/-- A point in front of a digit starts a number. At the place that parts two texts there is no
digit. -/
theorem Parted.head?_any_append {c : Char} {tail : List Char} (h : Parted (c :: chars) tail)
    (hc : c = '.') : (chars ++ tail).head?.any Char.isDigit = chars.head?.any Char.isDigit := by
  cases chars with
  | cons d ds => rfl
  | nil =>
    obtain hclosed | hapart := h.parts
    · rw [hc] at hclosed
      exact absurd hclosed (show ¬EndsClosed ['.'] by decide)
    · cases tail with
      | nil => rfl
      | cons d tail => exact eq_false_of_isSeparator isDigit_separators hapart.cons

theorem tokenAt_extend (h : tokenAt place = .ok next) (hparted : Parted place.chars tail)
    (hrest : next.token.kind.isSealed ∨ Bounded next.rest tail) :
    tokenAt (place.extend tail) = .ok (next.extend tail) := by
  obtain ⟨chars, newline⟩ := place
  obtain ⟨c, cs, rfl⟩ := List.exists_cons_of_ne_nil hparted.ne_nil
  have hpoint : (c = '.' ∧ ((cs ++ tail).head?.any Char.isDigit) = true) ↔
      (c = '.' ∧ (cs.head?.any Char.isDigit) = true) := by
    refine and_congr_right fun hc => ?_
    rw [hparted.head?_any_append hc]
  simp only [tokenAt, Rest.extend, List.cons_append, hpoint] at h ⊢
  split_ifs at h ⊢
  · split at h
    · next name hname =>
      obtain rfl := Except.ok.inj h
      have hmore := scanName_extend tail hname (hrest.resolve_left Bool.false_ne_true)
      rw [List.cons_append] at hmore
      rw [hmore]
      rfl
    · contradiction
  · split at h
    · next number hnumber =>
      obtain rfl := Except.ok.inj h
      have hopen : ¬(if number.big then TokenKind.bigint else .number).isSealed := by
        split <;> exact Bool.false_ne_true
      have hmore :=
        scanNumber_extend tail hnumber (hrest.resolve_left hopen) (List.cons_ne_nil c cs)
      rw [List.cons_append] at hmore
      rw [hmore]
      rfl
    · contradiction
  · next hquote =>
    obtain ⟨text, htext, rfl⟩ := Except.map_eq_ok_iff.mp h
    have hmark : endsEscape c := by
      obtain rfl | rfl := hquote <;> rfl
    rw [scanString_extend tail hmark htext]
    rfl
  · obtain ⟨piece, hpiece, rfl⟩ := Except.map_eq_ok_iff.mp h
    rw [scanTemplate_extend tail hpiece]
    rfl
  · split at h
    · next name hname =>
      obtain rfl := Except.ok.inj h
      rw [scanName_extend tail hname (hrest.resolve_left Bool.false_ne_true)]
      rfl
    · contradiction
  · split at h
    · next punct length hpunct =>
      obtain rfl := Except.ok.inj h
      have hmore := punctAt?_append tail hparted
      rw [List.cons_append] at hmore
      have hlength : length - 1 ≤ cs.length :=
        Nat.sub_le_of_le_add (length_le_of_punctAt? hpunct)
      rw [hmore, hpunct]
      dsimp only
      rw [List.drop_append_of_le_length hlength]
      rfl
    · contradiction

/-- **A token is read in front of more text as without it.** -/
theorem scanToken_extend (h : scanToken goal chars = .ok next) (hparted : Parted next.here tail)
    (hrest : next.token.kind.isSealed ∨ Bounded next.rest tail) :
    scanToken goal (chars ++ tail) = .ok (next.extend tail) := by
  obtain ⟨place, hplace, hnext⟩ := exists_skipTrivia_of_scanToken h
  rw [(tokenAt_suffix hnext).1] at hparted
  rw [scanToken, skipTrivia_extend tail hplace hparted]
  exact tokenAt_extend tail hnext hparted hrest

theorem Lexeme.reread_extend {current : Lexeme} {way : Rereading}
    (h : current.reread way = .ok next) (hne : current.here ≠ [])
    (hrest : next.token.kind.isSealed ∨ Bounded next.rest tail) :
    (current.extend tail).reread way = .ok (next.extend tail) := by
  have hdrop : (current.here ++ tail).drop 1 = current.here.drop 1 ++ tail :=
    List.drop_append_of_le_length (List.length_pos_iff.mpr hne)
  simp only [reread, extend, hdrop] at h ⊢
  split_ifs at h ⊢
  cases way with
  | regex =>
    obtain ⟨rest, hscan, rfl⟩ := Except.map_eq_ok_iff.mp h
    dsimp only
    rw [scanRegex_extend tail hscan (hrest.resolve_left Bool.false_ne_true)]
    rfl
  | template =>
    obtain ⟨piece, hpiece, rfl⟩ := Except.map_eq_ok_iff.mp h
    dsimp only
    rw [scanTemplate_extend tail hpiece]
    rfl

end Tokens

end ModuleBundler.Script
