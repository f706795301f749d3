import ModuleBundler.Script.Scan

/-!
# Names in a text

A name that is written without escapes is a word, up to the first character that cannot belong to
it. A letter or number that can start no name starts no token at all. A point in front of either is
a token of its own.

## Main definitions

* `IsIdentifierName` — names that can be written without escapes.
* `EndsName` — what can stand behind a name.

## Main results

* `scanToken_word` — such a name is read as a word.
* `scanToken_stray` — letters and numbers that start no name cannot be read.
* `scanToken_dot` — a point in front of a name is a punctuator.
-/

namespace ModuleBundler.Script

open Text

variable {goal : Goal} {name rest tail : List Char} {c : Char} {newline : Bool}

/-- A name that can be written without escapes. -/
def IsIdentifierName : Name → Prop
  | [] => False
  | c :: cs => isNameStart c ∧ ∀ d ∈ cs, isNamePart d

/-- A name ends in front of the text. -/
def EndsName (rest : List Char) : Prop :=
  ∀ c, rest.head? = some c → isNamePart c = false ∧ c ≠ '\\'

/-! ### Characters of names -/

theorem isIdentifierPart_of_isIdentifierStart (h : isIdentifierStart c) : isIdentifierPart c := by
  unfold isIdentifierPart
  by_cases hascii : c.toNat < 0x80
  · have halpha : c.isAlpha := by simpa [isIdentifierStart, hascii] using h
    simp [hascii, Char.isAlphanum, halpha]
  · simp [hascii, h]

theorem isNamePart_of_isNameStart (h : isNameStart c) : isNamePart c := by
  simp only [isNameStart, Bool.or_eq_true, beq_iff_eq] at h
  obtain (h | rfl) | rfl := h
  · rw [isNamePart, isIdentifierPart_of_isIdentifierStart h, Bool.true_or]
  · decide
  · decide

theorem ne_of_isNamePart {d : Char} (h : isNamePart c) (hd : isNamePart d = false) : c ≠ d := by
  rintro rfl
  cases h.symm.trans hd

theorem endsName_cons (h : isNamePart c = false) (hescape : c ≠ '\\') : EndsName (c :: rest) := by
  intro d hd
  obtain rfl := Option.some.inj hd
  exact ⟨h, hescape⟩

/-- The code points of blanks and line breaks. -/
def blanks : List Nat :=
  [0x9, 0xA, 0xB, 0xC, 0xD, 0x20, 0x85, 0xA0, 0x1680, 0x2000, 0x2001, 0x2002, 0x2003, 0x2004,
    0x2005, 0x2006, 0x2007, 0x2008, 0x2009, 0x200A, 0x200B, 0x2028, 0x2029, 0x202F, 0x205F,
    0x3000, 0xFEFF]

theorem blanks_spec : ∀ n ∈ blanks,
    isNameStart (Char.ofNat n) = false ∧ isAlphanumeric (Char.ofNat n) = false := by
  decide +kernel

theorem mem_blanks (h : isLineBreak c ∨ isSpace c) : c.toNat ∈ blanks := by
  simp only [isLineBreak, isSpace, Bool.or_eq_true, Bool.and_eq_true, decide_eq_true_eq,
    beq_iff_eq, ← Char.toNat_inj, Char.reduceToNat] at h
  simp only [blanks, List.mem_cons, List.not_mem_nil, or_false]
  omega

/-- What is no blank and starts no comment is not passed over. -/
theorem skipTrivia_of_notMem_blanks (hblank : c.toNat ∉ blanks)
    (hcomment : c ≠ '/' ∧ c ≠ '<' ∧ c ≠ '-') :
    skipTrivia goal .blank (c :: tail) newline = .ok ⟨c :: tail, newline⟩ := by
  obtain ⟨hslash, hless, hminus⟩ := hcomment
  have hbreak : isLineBreak c = false := by
    rw [Bool.eq_false_iff]
    exact fun h => hblank (mem_blanks (.inl h))
  have hspace : isSpace c = false := by
    rw [Bool.eq_false_iff]
    exact fun h => hblank (mem_blanks (.inr h))
  rw [skipTrivia, hbreak, hspace]
  · rfl
  · exact fun _ h => absurd h hslash
  · exact fun _ h => absurd h hslash
  · exact fun _ h => absurd h hless
  · exact fun _ h => absurd h hminus

/-! ### Words -/

theorem ne_backslash_of_isNamePart (h : isNamePart c) : c ≠ '\\' :=
  ne_of_isNamePart h (by decide)

theorem nameTail_append (h : ∀ c ∈ name, isNamePart c) (hrest : EndsName rest) :
    nameTail 0 (name ++ rest) = some ⟨name, rest, false⟩ := by
  induction name with
  | nil =>
    cases rest with
    | nil => rfl
    | cons c rest =>
      obtain ⟨hpart, hescape⟩ := hrest c rfl
      rw [List.nil_append, nameTail, if_neg (Bool.eq_false_iff.mp hpart)]
      exact hescape
  | cons c name ih =>
    obtain ⟨hc, hname⟩ := List.forall_mem_cons.mp h
    rw [List.cons_append, nameTail, if_pos hc, ih hname]
    · rfl
    · exact ne_backslash_of_isNamePart hc

theorem scanName_append (h : IsIdentifierName name) (hrest : EndsName rest) :
    scanName (name ++ rest) = some ⟨name, rest, false⟩ := by
  cases name with
  | nil => exact h.elim
  | cons c name =>
    obtain ⟨hstart, hname⟩ := h
    rw [List.cons_append, scanName, if_pos hstart, nameTail_append hname hrest]
    · rfl
    · exact ne_backslash_of_isNamePart (isNamePart_of_isNameStart hstart)

theorem eq_append_of_nameTail {skip : Nat} {chars : List Char} {scanned : ScannedName}
    (h : nameTail skip chars = some scanned) (hskip : skip = 0)
    (hescaped : scanned.escaped = false) : chars = scanned.name ++ scanned.rest := by
  fun_induction nameTail skip chars generalizing scanned with
  | case1 | case6 =>
    obtain rfl := Option.some.inj h
    rfl
  | case2 => contradiction
  | case3 =>
    obtain ⟨more, -, rfl⟩ := Option.map_eq_some_iff.mp h
    contradiction
  | case4 => contradiction
  | case5 c cs _ _ ih =>
    obtain ⟨more, hmore, rfl⟩ := Option.map_eq_some_iff.mp h
    exact congrArg (c :: ·) (ih hmore rfl hescaped)

/-- A name without escapes stands in the text as it is. -/
theorem eq_append_of_scanName {chars : List Char} {scanned : ScannedName}
    (h : scanName chars = some scanned) (hescaped : scanned.escaped = false) :
    chars = scanned.name ++ scanned.rest := by
  unfold scanName at h
  split at h
  · split at h
    · obtain ⟨more, -, rfl⟩ := Option.map_eq_some_iff.mp h
      contradiction
    · contradiction
  · split at h
    · obtain ⟨more, hmore, rfl⟩ := Option.map_eq_some_iff.mp h
      exact congrArg _ (eq_append_of_nameTail hmore rfl hescaped)
    · contradiction
  · contradiction

theorem notMem_blanks_of_isNameStart (h : isNameStart c) : c.toNat ∉ blanks := fun hblank => by
  have hspec := (blanks_spec _ hblank).1
  rw [Char.ofNat_toNat] at hspec
  cases hspec.symm.trans h

theorem skipTrivia_of_isNameStart (h : isNameStart c) :
    skipTrivia goal .blank (c :: tail) newline = .ok ⟨c :: tail, newline⟩ :=
  have hpart := isNamePart_of_isNameStart h
  skipTrivia_of_notMem_blanks (notMem_blanks_of_isNameStart h)
    ⟨ne_of_isNamePart hpart (by decide), ne_of_isNamePart hpart (by decide),
      ne_of_isNamePart hpart (by decide)⟩

theorem tokenAt_word (h : IsIdentifierName name) (hrest : EndsName rest) :
    tokenAt ⟨name ++ rest, newline⟩ =
      .ok (lexeme ⟨name ++ rest, newline⟩ (.word (keywordOf? name)) rest name false) := by
  have hscan := scanName_append h hrest
  cases name with
  | nil => exact h.elim
  | cons c name =>
    rw [List.cons_append] at hscan ⊢
    rw [tokenAt]
    dsimp only
    rw [if_pos (.inl h.1), hscan]

/-- **A name is read as a word**, up to the first character that cannot belong to it. -/
theorem scanToken_word (h : IsIdentifierName name) (hrest : EndsName rest) :
    scanToken goal (name ++ rest) =
      .ok (lexeme ⟨name ++ rest, false⟩ (.word (keywordOf? name)) rest name false) := by
  have htoken : tokenAt ⟨name ++ rest, false⟩ = _ := tokenAt_word h hrest
  cases name with
  | nil => exact h.elim
  | cons c name =>
    rw [List.cons_append] at htoken ⊢
    rw [scanToken, skipTrivia_of_isNameStart h.1]
    exact htoken

/-! ### Strays -/

/-- No spelling of a punctuator starts outside of the first block of characters. -/
theorem punctuators_ascii :
    ∀ entry ∈ punctuators, entry.1.head?.any (fun c => c.toNat < 0x80) := by
  decide

theorem punctAt?_eq_none (hascii : ¬c.toNat < 0x80) : punctAt? (c :: tail) = none := by
  have hquestion : c ≠ '?' := by
    rintro rfl
    exact hascii (by decide)
  unfold punctAt?
  split
  · rename_i h
    exact absurd (List.cons.inj h).1 hquestion
  · rename_i h
    exact absurd (List.cons.inj h).1 hquestion
  · rw [Option.map_eq_none_iff, List.find?_eq_none]
    rintro ⟨spelling, punct⟩ hentry hspelled
    have hhead := punctuators_ascii _ hentry
    cases spelling with
    | nil => cases hhead
    | cons d spelling =>
      simp only [List.isPrefixOf, Bool.and_eq_true, beq_iff_eq] at hspelled
      exact hascii (hspelled.1 ▸ of_decide_eq_true hhead)

/-- A letter or number that starts no name cannot be read. -/
theorem scanToken_stray (hascii : ¬c.toNat < 0x80) (h : isAlphanumeric c)
    (hstart : isNameStart c = false) :
    scanToken goal (c :: tail) = .error .unexpectedCharacter := by
  have hne (d : Char) (hd : d.toNat < 0x80) : c ≠ d := by
    rintro rfl
    exact hascii hd
  have hblank : c.toNat ∉ blanks := fun hblank => by
    have hspec := (blanks_spec _ hblank).2
    rw [Char.ofNat_toNat] at hspec
    cases hspec.symm.trans h
  have hdigit : c.isDigit = false := by
    rw [Bool.eq_false_iff]
    intro hdigit
    have hbounds : 48 ≤ c.toNat ∧ c.toNat ≤ 57 := Char.isDigit_iff_toNat.mp hdigit
    omega
  rw [scanToken, skipTrivia_of_notMem_blanks hblank
    ⟨hne _ (by decide), hne _ (by decide), hne _ (by decide)⟩]
  show tokenAt ⟨c :: tail, false⟩ = _
  rw [tokenAt]
  dsimp only
  rw [if_neg (by simp [hstart, hne]), if_neg (by simp [hdigit, hne]), if_neg (by simp [hne]),
    if_neg (hne _ (by decide)), if_neg (hne _ (by decide)), punctAt?_eq_none hascii]

/-! ### Points -/

/-- A point that neither a point nor a digit follows is a punctuator of its own. -/
theorem scanToken_dot (hpoint : c ≠ '.') (hdigit : c.isDigit = false) :
    scanToken goal ('.' :: c :: tail) =
      .ok (lexeme ⟨'.' :: c :: tail, false⟩ (.punct .dot) (c :: tail) [] false) := by
  have hpunct : punctAt? ('.' :: c :: tail) = some (.dot, 1) := by
    simp [punctAt?, punctuators, List.isPrefixOf, hpoint.symm]
  show tokenAt ⟨'.' :: c :: tail, false⟩ = _
  rw [tokenAt]
  dsimp only
  rw [if_neg (by decide), if_neg (by simp [hdigit]), if_neg (by decide), if_neg (by decide),
    if_neg (by decide), hpunct]
  rfl

end ModuleBundler.Script
