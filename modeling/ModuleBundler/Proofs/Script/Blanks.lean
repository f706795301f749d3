import ModuleBundler.Proofs.Script.Names
import ModuleBundler.Proofs.Script.Suffix

/-!
# Blanks between tokens

Blanks and comments between two tokens are passed over, whatever stands behind them. What a module
passes over a script passes over too; the comments that only scripts have are tokens in a module.
The last comment of a text may have no end of its own. Then the next line ends it.

## Main definitions

* `Blank` — texts that are passed over.
* `EndsBlank` — texts that are passed over if a line ends behind them.
* `Gap` — texts between two tokens of a module, or behind the last one.

## Main results

* `exists_gap` — what a module passes over is a gap.
* `Blank.newline_of_scanToken` — the token behind a line break starts a line.
* `EndsBlank.of_concat` — a blank at the end of a line does not matter.
-/

namespace ModuleBundler.Script

open Text

variable {goal : Goal} {gap gap' chars tail : List Char} {trivia : Trivia} {newline : Bool}
  {rest : Rest} {c : Char}

/-- Skipping over a gap leads from one kind of skipping to another, whatever stands behind it. -/
def Leads (trivia : Trivia) (gap : List Char) (trivia' : Trivia) : Prop :=
  ∀ newline, ∃ newline', ∀ tail,
    skipTrivia .script trivia (gap ++ tail) newline = skipTrivia .script trivia' tail newline'

/-- The text is passed over, whatever stands behind it. -/
def Blank (gap : List Char) : Prop :=
  Leads .blank gap .blank

/-- The text is passed over with the line break behind it. -/
def EndsBlank (gap : List Char) : Prop :=
  ∀ newline tail,
    skipTrivia .script .blank (gap ++ '\n' :: tail) newline = skipTrivia .script .blank tail true

/-! ### Steps -/

theorem Leads.refl (trivia : Trivia) : Leads trivia [] trivia :=
  fun newline => ⟨newline, fun _ => rfl⟩

theorem Leads.append {trivia' trivia'' : Trivia} (h : Leads trivia gap trivia')
    (h' : Leads trivia' gap' trivia'') : Leads trivia (gap ++ gap') trivia'' := by
  intro newline
  obtain ⟨newline', hfirst⟩ := h newline
  obtain ⟨newline'', hsecond⟩ := h' newline'
  exact ⟨newline'', fun tail => by rw [List.append_assoc, hfirst, hsecond]⟩

theorem blank_nil : Blank [] :=
  .refl .blank

theorem Blank.append (h : Blank gap) (h' : Blank gap') : Blank (gap ++ gap') :=
  Leads.append h h'

theorem blank_lineBreak : Blank ['\n'] :=
  fun _ => ⟨true, fun _ => rfl⟩

theorem blank_space : Blank [' '] :=
  fun newline => ⟨newline, fun _ => rfl⟩

/-! ### Line breaks -/

/-- A line break is noticed exactly where one is passed over. -/
theorem newline_of_skipTrivia (h : skipTrivia goal trivia chars newline = .ok rest) :
    ∃ gap, chars = gap ++ rest.chars ∧ rest.newline = (newline || gap.any isLineBreak) := by
  have hslash : isLineBreak '/' = false := by decide
  have hstar : isLineBreak '*' = false := by decide
  fun_induction skipTrivia goal trivia chars newline with
  | case1 cs newline ih | case2 cs newline ih | case12 cs newline ih =>
    obtain ⟨gap, rfl, hnewline⟩ := ih h
    exact ⟨_ :: _ :: gap, rfl, by simp [hnewline, hslash, hstar]⟩
  | case3 cs newline _ ih =>
    obtain ⟨gap, rfl, hnewline⟩ := ih h
    exact ⟨'<' :: '!' :: '-' :: '-' :: gap, rfl, by rw [hnewline]; rfl⟩
  | case5 cs newline _ ih =>
    obtain ⟨gap, rfl, hnewline⟩ := ih h
    exact ⟨'-' :: '-' :: '>' :: gap, rfl, by rw [hnewline]; rfl⟩
  | case7 c cs newline _ _ _ _ hbreak ih | case10 c cs newline hbreak ih =>
    obtain ⟨gap, rfl, hnewline⟩ := ih h
    exact ⟨c :: gap, rfl, by simp [hnewline, hbreak]⟩
  | case8 c cs newline _ _ _ _ hbreak _ ih | case11 c cs newline hbreak ih =>
    obtain ⟨gap, rfl, hnewline⟩ := ih h
    exact ⟨c :: gap, rfl, by simp [hnewline, hbreak]⟩
  | case13 c cs newline _ ih =>
    obtain ⟨gap, rfl, hnewline⟩ := ih h
    exact ⟨c :: gap, rfl, by rw [hnewline, List.any_cons, Bool.or_assoc]⟩
  | case14 => contradiction
  | case4 | case6 | case9 | case15 | case16 =>
    obtain rfl := Except.ok.inj h
    exact ⟨[], rfl, (Bool.or_false _).symm⟩

/-- Blanks with a line break in them start a line. -/
theorem Blank.skipTrivia_eq (h : Blank gap) (newline : Bool) (tail : List Char) :
    skipTrivia .script .blank (gap ++ tail) newline =
      skipTrivia .script .blank tail (newline || gap.any isLineBreak) := by
  obtain ⟨newline', hskip⟩ := h newline
  -- In front of a character that is no blank, all of the gap is passed over, and nothing else.
  obtain ⟨front, hfront, hnewline⟩ := newline_of_skipTrivia (hskip ['a'])
  obtain rfl := List.append_cancel_right hfront
  rw [hskip, ← show newline' = _ from hnewline]

/-- The token behind blanks with a line break in them starts a line. -/
theorem Blank.newline_of_scanToken {next : Lexeme} (h : Blank gap) (hbreak : gap.any isLineBreak)
    (hnext : scanToken .script (gap ++ tail) = .ok next) : next.token.newline = true := by
  obtain ⟨place, hplace, htoken⟩ := exists_skipTrivia_of_scanToken hnext
  rw [h.skipTrivia_eq, hbreak] at hplace
  obtain ⟨front, -, hnewline⟩ := newline_of_skipTrivia hplace
  rw [(tokenAt_suffix htoken).2.1, hnewline]
  rfl

/-! ### Tokens behind blanks -/

theorem Blank.exists_scanToken (h : Blank gap)
    (hchars : ∀ newline, skipTrivia .script .blank chars newline = .ok ⟨chars, newline⟩) :
    ∃ newline, scanToken .script (gap ++ chars) = tokenAt ⟨chars, newline⟩ := by
  obtain ⟨newline, hskip⟩ := h false
  refine ⟨newline, ?_⟩
  rw [scanToken, hskip, hchars]
  rfl

/-- Behind blanks a name is read as a word. -/
theorem Blank.exists_scanToken_word {name : Name} (h : Blank gap) (hname : IsIdentifierName name)
    (htail : EndsName tail) : ∃ newline, scanToken .script (gap ++ (name ++ tail)) =
      .ok (lexeme ⟨name ++ tail, newline⟩ (.word (keywordOf? name)) tail name false) := by
  have hskip (newline : Bool) : skipTrivia .script .blank (name ++ tail) newline =
      .ok ⟨name ++ tail, newline⟩ := by
    cases name with
    | nil => exact hname.elim
    | cons c name => exact skipTrivia_of_isNameStart hname.1
  obtain ⟨newline, hscan⟩ := h.exists_scanToken hskip
  exact ⟨newline, hscan.trans (tokenAt_word hname htail)⟩

/-- The token behind blanks stands in the text behind them. -/
theorem Blank.here_suffix {next : Lexeme} (h : Blank gap)
    (hnext : scanToken .script (gap ++ tail) = .ok next) : next.here <:+ tail := by
  obtain ⟨place, hplace, htoken⟩ := exists_skipTrivia_of_scanToken hnext
  rw [h.skipTrivia_eq] at hplace
  rw [(tokenAt_suffix htoken).1]
  exact skipTrivia_suffix hplace

/-! ### What a module passes over -/

theorem blank_singleton (h : isLineBreak c ∨ isSpace c) : Blank [c] := by
  have hne (d : Char) (hbreak : isLineBreak d = false) (hspace : isSpace d = false) : c ≠ d := by
    rintro rfl
    simp [hbreak, hspace] at h
  intro newline
  refine ⟨isLineBreak c || newline, fun tail => ?_⟩
  rw [List.singleton_append, skipTrivia]
  · cases hbreak : isLineBreak c with
    | true => rfl
    | false =>
      rw [if_neg Bool.false_ne_true, if_pos (h.resolve_left (by simp [hbreak]))]
      rfl
  all_goals exact fun _ hc => absurd hc (hne _ (by decide) (by decide))

theorem leads_line_singleton : Leads .line [c] (if isLineBreak c then .blank else .line) := by
  intro newline
  refine ⟨isLineBreak c || newline, fun tail => ?_⟩
  rw [List.singleton_append, skipTrivia]
  cases isLineBreak c <;> rfl

/-- What a module passes over in front of a text: a gap behind which nothing is left open, or, at
the end of the source, one that may end with a comment up to the end of the line. -/
inductive Passes (trivia : Trivia) (gap : List Char) (rest : List Char) : Prop
  | closed (h : Leads trivia gap .blank)
  | left_open (h : Leads trivia gap .line) (hrest : rest = [])
    (hlast : gap.getLast? ≠ some '\n') (hne : trivia = .line ∨ gap ≠ [])

theorem Passes.prepend {front rest : List Char} {trivia' : Trivia} (h : Leads trivia front trivia')
    (hne : front ≠ []) (hlast : trivia' = .line → front.getLast? ≠ some '\n')
    (hpasses : Passes trivia' gap rest) : Passes trivia (front ++ gap) rest := by
  cases hpasses with
  | closed hgap => exact .closed (h.append hgap)
  | left_open hgap hrest hend hopen =>
    refine .left_open (h.append hgap) hrest ?_ (.inr (by simp [hne]))
    by_cases hnil : gap = []
    · rw [hnil, List.append_nil]
      exact hlast (hopen.resolve_right (not_not_intro hnil))
    · rwa [List.getLast?_append_of_ne_nil _ hnil]

/-- A comment goes on behind a character that is no part of its closing mark. -/
theorem leads_block_cons (h : Leads .block gap trivia) (hne : gap ≠ [])
    (hclose : ∀ tail, c = '*' → gap = '/' :: tail → False) : Leads .block (c :: gap) trivia := by
  obtain ⟨d, gap, rfl⟩ := List.exists_cons_of_ne_nil hne
  intro newline
  obtain ⟨newline', hgap⟩ := h (newline || isLineBreak c)
  refine ⟨newline', fun tail => ?_⟩
  rw [List.cons_append, skipTrivia, hgap]
  rintro tail hc heq
  exact hclose gap hc (by rw [(List.cons.inj heq).1])

theorem not_leads_block_nil (htrivia : trivia ≠ .block) : ¬Leads .block [] trivia := by
  intro h
  obtain ⟨newline', hgap⟩ := h false
  cases trivia with
  | block => exact htrivia rfl
  | blank | line => exact nomatch hgap []

/-- What a module passes over in front of a token a script passes over too. -/
theorem exists_passes (h : skipTrivia .module trivia chars newline = .ok rest) :
    ∃ gap, chars = gap ++ rest.chars ∧ Passes trivia gap rest.chars := by
  fun_induction skipTrivia .module trivia chars newline with
  | case1 cs newline ih =>
    obtain ⟨gap, rfl, hgap⟩ := ih h
    have hmark : Leads .blank ['/', '/'] .line := fun newline => ⟨newline, fun _ => rfl⟩
    exact ⟨['/', '/'] ++ gap, rfl, hgap.prepend hmark (by simp) (by simp)⟩
  | case2 cs newline ih =>
    obtain ⟨gap, rfl, hgap⟩ := ih h
    have hmark : Leads .blank ['/', '*'] .block := fun newline => ⟨newline, fun _ => rfl⟩
    exact ⟨['/', '*'] ++ gap, rfl, hgap.prepend hmark (by simp) (by simp)⟩
  | case7 c cs newline _ _ _ _ hbreak ih =>
    obtain ⟨gap, rfl, hgap⟩ := ih h
    exact ⟨[c] ++ gap, rfl, hgap.prepend (blank_singleton (.inl hbreak)) (by simp) (by simp)⟩
  | case8 c cs newline _ _ _ _ _ hspace ih =>
    obtain ⟨gap, rfl, hgap⟩ := ih h
    exact ⟨[c] ++ gap, rfl, hgap.prepend (blank_singleton (.inr hspace)) (by simp) (by simp)⟩
  | case10 c cs newline hbreak ih =>
    obtain ⟨gap, rfl, hgap⟩ := ih h
    have hleads : Leads .line [c] (if isLineBreak c then .blank else .line) := leads_line_singleton
    rw [if_pos hbreak] at hleads
    exact ⟨[c] ++ gap, rfl, hgap.prepend hleads (by simp) (by simp)⟩
  | case11 c cs newline hbreak ih =>
    obtain ⟨gap, rfl, hgap⟩ := ih h
    have hleads : Leads .line [c] (if isLineBreak c then .blank else .line) := leads_line_singleton
    rw [if_neg hbreak] at hleads
    refine ⟨[c] ++ gap, rfl, hgap.prepend hleads (by simp) fun _ hlast => hbreak ?_⟩
    obtain rfl := Option.some.inj hlast
    rfl
  | case12 cs newline ih =>
    obtain ⟨gap, rfl, hgap⟩ := ih h
    have hmark : Leads .block ['*', '/'] .blank := fun newline => ⟨newline, fun _ => rfl⟩
    exact ⟨['*', '/'] ++ gap, rfl, hgap.prepend hmark (by simp) (by simp)⟩
  | case13 c cs newline hclose ih =>
    obtain ⟨gap, rfl, hgap⟩ := ih h
    have hmore (tail : List Char) (hc : c = '*') (hgap : gap = '/' :: tail) : False :=
      hclose (tail ++ rest.chars) hc (by rw [hgap, List.cons_append])
    refine ⟨c :: gap, rfl, ?_⟩
    cases hgap with
    | closed hleads =>
      have hne : gap ≠ [] := fun hnil => not_leads_block_nil (by simp) (hnil ▸ hleads)
      exact .closed (leads_block_cons hleads hne hmore)
    | left_open hleads hrest hlast hopen =>
      have hne : gap ≠ [] := hopen.resolve_left (by simp)
      refine .left_open (leads_block_cons hleads hne hmore) hrest ?_ (.inr (by simp))
      rwa [List.getLast?_cons_of_ne_nil hne]
  | case14 => contradiction
  | case16 newline =>
    obtain rfl := Except.ok.inj h
    exact ⟨[], rfl, .left_open (.refl .line) rfl (by simp) (.inl rfl)⟩
  | case3 | case5 => simp_all
  | case4 | case6 | case9 | case15 =>
    obtain rfl := Except.ok.inj h
    exact ⟨[], rfl, .closed (.refl .blank)⟩

/-- What stands in front of a rest is passed over in front of a line break. It is passed over in
front of everything else if there is a rest, or if no comment is left open at the end. -/
structure Gap (gap rest : List Char) : Prop where
  ends : EndsBlank gap
  blank : rest ≠ [] ∨ gap = [] ∨ gap.getLast? = some '\n' → Blank gap

theorem Blank.ends (h : Blank gap) : EndsBlank gap := by
  intro newline tail
  obtain ⟨newline', hskip⟩ := h newline
  rw [hskip]
  rfl

/-- A line ends behind such a text. -/
theorem EndsBlank.append_lineBreak (h : EndsBlank gap) : Blank (gap ++ ['\n']) :=
  fun newline => ⟨true, fun tail => by rw [List.append_assoc]; exact h newline tail⟩

theorem Gap.prepend (h : Gap gap' []) (hgap : Blank gap) : Gap (gap ++ gap') [] where
  ends newline tail := by
    obtain ⟨newline', hskip⟩ := hgap newline
    rw [List.append_assoc, hskip]
    exact h.ends newline' tail
  blank hlast := by
    refine hgap.append (h.blank ?_)
    by_cases hnil : gap' = []
    · exact .inr (.inl hnil)
    · rw [List.getLast?_append_of_ne_nil _ hnil] at hlast
      simpa [hnil] using hlast

/-- **What a module passes over is a gap** between its tokens. -/
theorem exists_gap (h : skipTrivia .module .blank chars newline = .ok rest) :
    ∃ gap, chars = gap ++ rest.chars ∧ Gap gap rest.chars := by
  obtain ⟨gap, hchars, hgap⟩ := exists_passes h
  refine ⟨gap, hchars, ?_⟩
  cases hgap with
  | closed hleads => exact ⟨Blank.ends hleads, fun _ => hleads⟩
  | left_open hleads hrest hlast hopen =>
    refine ⟨fun newline tail => ?_, fun h => ?_⟩
    · obtain ⟨newline', hskip⟩ := hleads newline
      rw [hskip]
      rfl
    · obtain hne | hnil | hend := h
      · exact absurd hrest hne
      · exact absurd hnil (hopen.resolve_left (by simp))
      · exact absurd hend hlast

/-! ### Blanks at the end of a line -/

/-- A mark without the character stands in front of it, if it stands at the start of the text. -/
theorem exists_of_append_cons_eq {front mark behind rest : List Char} (hc : c ∉ mark)
    (h : front ++ c :: behind = mark ++ rest) : ∃ more, front = mark ++ more := by
  obtain ⟨more, hmark, hrest⟩ | ⟨more, hfront, -⟩ := List.append_eq_append_iff.mp h
  · cases more with
    | nil => exact ⟨[], by rw [hmark, List.append_nil, List.append_nil]⟩
    | cons d more =>
      obtain ⟨rfl, -⟩ := List.cons.inj hrest
      exact absurd (hmark ▸ List.mem_append_right _ List.mem_cons_self) hc
  · exact ⟨more, hfront⟩

/-- A blank is part of no mark of a comment. -/
theorem notMem_mark (hc : isBlank c) {mark : List Char} (hmark : mark.all fun d => !isBlank d) :
    c ∉ mark := by
  intro hmem
  have hnot := List.all_eq_true.mp hmark c hmem
  rw [hc] at hnot
  contradiction

/-- A character that starts neither a blank nor a comment starts none in front of a blank either. -/
theorem skipTrivia_append_cons {d : Char} {cs behind : List Char} (hc : isBlank c)
    (hline : ∀ more, d = '/' → cs = '/' :: more → False)
    (hblock : ∀ more, d = '/' → cs = '*' :: more → False)
    (hopen : ∀ more, d = '<' → cs = '!' :: '-' :: '-' :: more → False)
    (hclose : ∀ more, d = '-' → cs = '-' :: '>' :: more → False)
    (hbreak : ¬isLineBreak d) (hspace : ¬isSpace d) (newline : Bool) :
    skipTrivia .script .blank (d :: (cs ++ c :: behind)) newline =
      .ok ⟨d :: (cs ++ c :: behind), newline⟩ := by
  rw [skipTrivia, if_neg hbreak, if_neg hspace]
  · intro rest hd heq
    have hnot : c ∉ ['/'] := notMem_mark hc (by decide)
    obtain ⟨more, hcs⟩ := exists_of_append_cons_eq hnot heq
    exact hline more hd hcs
  · intro rest hd heq
    have hnot : c ∉ ['*'] := notMem_mark hc (by decide)
    obtain ⟨more, hcs⟩ := exists_of_append_cons_eq hnot heq
    exact hblock more hd hcs
  · intro rest hd heq
    have hnot : c ∉ ['!', '-', '-'] := notMem_mark hc (by decide)
    obtain ⟨more, hcs⟩ := exists_of_append_cons_eq hnot heq
    exact hopen more hd hcs
  · intro rest hd heq
    have hnot : c ∉ ['-', '>'] := notMem_mark hc (by decide)
    obtain ⟨more, hcs⟩ := exists_of_append_cons_eq hnot heq
    exact hclose more hd hcs

/-- A comment goes on behind a character that does not close it, if no slash is put there. -/
theorem skipTrivia_block_append_cons {d e : Char} {cs behind : List Char} (he : e ∉ ['/'])
    (hclose : ∀ more, d = '*' → cs = '/' :: more → False) (newline : Bool) :
    skipTrivia .script .block (d :: (cs ++ e :: behind)) newline =
      skipTrivia .script .block (cs ++ e :: behind) (newline || isLineBreak d) := by
  rw [skipTrivia]
  intro rest hd heq
  obtain ⟨more, hcs⟩ := exists_of_append_cons_eq he heq
  exact hclose more hd hcs

/-- Where all of a text is passed over, all of it is without the blank in front of its end. -/
theorem skipTrivia_concat (hc : isBlank c)
    (h : skipTrivia .script trivia (chars ++ [c, '\n']) newline = .ok ⟨[], true⟩)
    (tail : List Char) : skipTrivia .script trivia (chars ++ '\n' :: tail) newline =
      skipTrivia .script .blank tail true := by
  fun_induction skipTrivia .script trivia chars newline with
  | case1 cs newline ih | case2 cs newline ih | case12 cs newline ih => exact ih h
  | case3 cs newline _ ih => exact ih h
  | case4 _ _ hgoal => exact absurd rfl hgoal
  | case5 cs newline hline ih =>
    rw [List.cons_append, List.cons_append, List.cons_append, skipTrivia, if_pos hline] at h ⊢
    exact ih h
  | case6 cs newline hline =>
    rw [List.cons_append, List.cons_append, List.cons_append, skipTrivia, if_neg hline] at h
    cases h
  | case7 d cs newline _ _ _ _ hbreak ih =>
    have hblank : Blank [d] := blank_singleton (.inl hbreak)
    have hskip (tail : List Char) := hblank.skipTrivia_eq newline tail
    simp only [List.any_cons, hbreak, List.any_nil, Bool.or_false, Bool.or_true] at hskip
    exact (hskip _).trans (ih ((hskip _).symm.trans h))
  | case8 d cs newline _ _ _ _ hbreak hspace ih =>
    have hblank : Blank [d] := blank_singleton (.inr hspace)
    have hskip (tail : List Char) := hblank.skipTrivia_eq newline tail
    simp only [List.any_cons, hbreak, List.any_nil, Bool.or_false] at hskip
    exact (hskip _).trans (ih ((hskip _).symm.trans h))
  | case9 d cs newline hline hblock hopen hclose hbreak hspace =>
    rw [List.cons_append, skipTrivia_append_cons hc hline hblock hopen hclose hbreak hspace] at h
    cases h
  | case10 d cs newline hbreak ih =>
    rw [List.cons_append, skipTrivia, if_pos hbreak] at h ⊢
    exact ih h
  | case11 d cs newline hbreak ih =>
    rw [List.cons_append, skipTrivia, if_neg hbreak] at h ⊢
    exact ih h
  | case13 d cs newline hclose ih =>
    rw [List.cons_append, skipTrivia_block_append_cons (notMem_mark hc (by decide)) hclose] at h
    rw [List.cons_append, skipTrivia_block_append_cons (by decide) hclose]
    exact ih h
  | case14 newline =>
    rw [List.nil_append, skipTrivia] at h
    · cases h
    · rintro rest rfl
      contradiction
  | case15 | case16 => rfl

theorem EndsBlank.of_concat (h : EndsBlank (gap ++ [c])) (hc : isBlank c) : EndsBlank gap := by
  intro newline tail
  refine skipTrivia_concat hc ?_ tail
  have hall := h newline []
  rwa [List.append_assoc] at hall

end ModuleBundler.Script
