import ModuleBundler.Proofs.Script.Extend.Escape
import ModuleBundler.Proofs.Script.Tokens

/-!
# Names, numbers and quoted texts in front of more text

A name, a number and the flags of a regular expression end in front of the first character that
cannot belong to them. If there is one, in the text or behind it, then they are read in front of
more text as without it. A string and a piece of a template end with a mark of their own, and so are
always read the same.

## Main results

* `scanName_extend`, `scanNumber_extend`, `scanString_extend`, `scanTemplate_extend`,
  `scanRegex_extend` — what is read in front of more text.
-/

namespace ModuleBundler.Script

open Text

variable {chars : List Char} {skip : Nat} {c : Char} (tail : List Char)

/-! ### Names -/

/-- The same with more text behind it. -/
def ScannedName.extend (name : ScannedName) (tail : List Char) : ScannedName :=
  { name with rest := name.rest ++ tail }

/-- No name goes on with a separator. -/
theorem nameTail_separated {tail : List Char} (h : StartsApart tail) :
    nameTail 0 tail = some ⟨[], tail, false⟩ := by
  cases tail with
  | nil => rfl
  | cons c tail =>
    have hpart := isNamePart_of_isSeparator h.cons
    rw [nameTail, if_neg (Bool.eq_false_iff.mp hpart)]
    rintro rfl
    exact absurd h.cons (by decide)

theorem nameTail_extend {name : ScannedName} (h : nameTail skip chars = some name)
    (hskip : skip ≤ chars.length) (hrest : Bounded name.rest tail) :
    nameTail skip (chars ++ tail) = some (name.extend tail) := by
  fun_induction nameTail skip chars generalizing name with
  | case1 =>
    obtain rfl := Option.some.inj h
    obtain rfl := Nat.le_zero.mp hskip
    exact nameTail_separated (hrest.resolve_left fun hne => hne rfl)
  | case2 _ _ _ ih => exact ih h (Nat.le_of_succ_le_succ hskip) hrest
  | case3 cs c length hescape ih =>
    obtain ⟨more, hmore, rfl⟩ := Option.map_eq_some_iff.mp h
    rw [List.cons_append, nameTail, nameEscape?_append hescape]
    dsimp only
    rw [ih hmore (length_le_of_nameEscape? hescape) hrest]
    rfl
  | case4 => contradiction
  | case5 c cs hescape hpart ih =>
    obtain ⟨more, hmore, rfl⟩ := Option.map_eq_some_iff.mp h
    rw [List.cons_append, nameTail, if_pos hpart, ih hmore (Nat.zero_le _) hrest]
    · rfl
    · exact hescape
  | case6 c cs hescape hpart =>
    obtain rfl := Option.some.inj h
    rw [List.cons_append, nameTail, if_neg hpart]
    · rfl
    · exact hescape

theorem scanName_extend {name : ScannedName} (h : scanName chars = some name)
    (hrest : Bounded name.rest tail) : scanName (chars ++ tail) = some (name.extend tail) := by
  unfold scanName at h
  split at h
  · next cs =>
    split at h
    · next c length hescape =>
      obtain ⟨more, hmore, rfl⟩ := Option.map_eq_some_iff.mp h
      rw [List.cons_append, scanName, nameEscape?_append hescape]
      dsimp only
      rw [nameTail_extend tail hmore (length_le_of_nameEscape? hescape) hrest]
      rfl
    · contradiction
  · next c cs hescape =>
    split_ifs at h with hstart
    obtain ⟨more, hmore, rfl⟩ := Option.map_eq_some_iff.mp h
    rw [List.cons_append, scanName, if_pos hstart,
      nameTail_extend tail hmore (Nat.zero_le _) hrest]
    · rfl
    · exact hescape
  · contradiction

/-! ### Numbers -/

section Numbers

variable {isDigit : Char → Bool} {split : Split} {number : ScannedNumber}
  (hdigits : ∀ n ∈ separators, isDigit (Char.ofNat n) = false)

/-- The same with more text behind it. -/
def Split.extend (split : Split) (tail : List Char) : Split :=
  { split with rest := split.rest ++ tail }

/-- The same with more text behind it. -/
def ScannedNumber.extend (number : ScannedNumber) (tail : List Char) : ScannedNumber :=
  { number with rest := number.rest ++ tail }

theorem ne_separator (hbetween : ∀ second rest, c = '_' → chars = second :: rest → False)
    (hlast : c = '_' → chars = [] → False) : c ≠ '_' := by
  intro hc
  cases chars with
  | nil => exact hlast hc rfl
  | cons second rest => exact hbetween second rest hc rfl

include hdigits in
/-- No digits go on with a separator. -/
theorem moreDigits_separated {tail : List Char} (h : StartsApart tail) :
    moreDigits isDigit tail = some (.none tail) := by
  cases tail with
  | nil => rfl
  | cons c tail =>
    have hdigit := eq_false_of_isSeparator hdigits h.cons
    rw [moreDigits_cons (ne_of_isSeparator h.cons (by decide)),
      if_neg (Bool.eq_false_iff.mp hdigit)]

include hdigits in
theorem moreDigits_extend (h : moreDigits isDigit chars = some split)
    (hrest : Bounded split.rest tail) :
    moreDigits isDigit (chars ++ tail) = some (split.extend tail) := by
  fun_induction moreDigits isDigit chars generalizing split with
  | case1 c cs hdigit ih =>
    obtain ⟨more, hmore, rfl⟩ := Option.map_eq_some_iff.mp h
    rw [List.cons_append, List.cons_append, moreDigits, if_pos hdigit, ih hmore hrest]
    rfl
  | case2 | case3 => contradiction
  | case4 c cs hseparator hlast hdigit ih =>
    obtain ⟨more, hmore, rfl⟩ := Option.map_eq_some_iff.mp h
    rw [List.cons_append, moreDigits_cons (ne_separator hseparator hlast), if_pos hdigit,
      ih hmore hrest]
    rfl
  | case5 c cs hseparator hlast hdigit =>
    obtain rfl := Option.some.inj h
    rw [List.cons_append, moreDigits_cons (ne_separator hseparator hlast), if_neg hdigit]
    rfl
  | case6 =>
    obtain rfl := Option.some.inj h
    exact moreDigits_separated hdigits (hrest.resolve_left fun hne => hne rfl)

include hdigits in
theorem takeDigits_extend (h : takeDigits isDigit chars = some split)
    (hrest : Bounded split.rest tail) :
    takeDigits isDigit (chars ++ tail) = some (split.extend tail) := by
  unfold takeDigits at h
  split at h
  · next c cs =>
    split_ifs at h with hdigit
    obtain ⟨more, hmore, rfl⟩ := Option.map_eq_some_iff.mp h
    rw [List.cons_append, takeDigits, if_pos hdigit, moreDigits_extend tail hdigits hmore hrest]
    rfl
  · contradiction

theorem isDigit_separators : ∀ n ∈ separators, Char.isDigit (Char.ofNat n) = false := by
  decide +kernel

/-- No exponent starts with a separator. -/
theorem takeExponent_separated {tail : List Char} (h : StartsApart tail) :
    takeExponent tail = some (.none tail) := by
  match tail with
  | [] => rfl
  | [c] | c :: second :: rest =>
    have hletter : ¬(c = 'e' ∨ c = 'E') := by
      rintro (rfl | rfl)
      all_goals exact absurd h.cons (by decide)
    simp only [takeExponent, if_neg hletter]

theorem takeExponent_extend (h : takeExponent chars = some split)
    (hrest : Bounded split.rest tail) :
    takeExponent (chars ++ tail) = some (split.extend tail) := by
  unfold takeExponent at h
  split at h
  · next e sign rest =>
    split_ifs at h with hletter hsign
    · obtain ⟨digits, hdigits, rfl⟩ := Option.map_eq_some_iff.mp h
      simp only [List.cons_append, takeExponent, if_pos hletter, if_pos hsign,
        takeDigits_extend tail isDigit_separators hdigits hrest]
      rfl
    · obtain ⟨digits, hdigits, rfl⟩ := Option.map_eq_some_iff.mp h
      have hmore := takeDigits_extend tail isDigit_separators hdigits hrest
      rw [List.cons_append] at hmore
      simp only [List.cons_append, takeExponent, if_pos hletter, if_neg hsign, hmore]
      rfl
    · obtain rfl := Option.some.inj h
      simp only [List.cons_append, takeExponent, if_neg hletter]
      rfl
  · next e =>
    split_ifs at h with hletter
    obtain rfl := Option.some.inj h
    cases tail with
    | nil => simp [takeExponent, hletter, Split.extend]
    | cons second tail => simp [takeExponent, hletter, Split.extend, Split.none]
  · obtain rfl := Option.some.inj h
    exact takeExponent_separated (hrest.resolve_left fun hne => hne rfl)

/-- A fraction in front of a separator is an exponent in front of it. -/
theorem takeFraction_separated {tail : List Char} (h : StartsApart tail) :
    takeFraction tail = some (.none tail) := by
  cases tail with
  | nil => rfl
  | cons c tail =>
    rw [takeFraction_cons (ne_of_isSeparator h.cons (by decide)), takeExponent_separated h]

theorem takeFraction_extend (h : takeFraction chars = some split)
    (hrest : Bounded split.rest tail) :
    takeFraction (chars ++ tail) = some (split.extend tail) := by
  unfold takeFraction at h
  split at h
  · next c rest =>
    split_ifs at h with hdigit
    · obtain ⟨digits, hdigits, h⟩ := Option.bind_eq_some_iff.mp h
      obtain ⟨exponent, hexponent, rfl⟩ := Option.map_eq_some_iff.mp h
      have hsuffix : exponent.rest <:+ digits.rest := takeExponent_suffix hexponent
      have hdigitsRest : Bounded digits.rest tail := hrest.of_suffix hsuffix
      have hmore := takeDigits_extend tail isDigit_separators hdigits hdigitsRest
      rw [List.cons_append] at hmore
      have hpower := takeExponent_extend tail hexponent hrest
      simp only [List.cons_append, takeFraction, if_pos hdigit, hmore, Option.bind_some]
      rw [Split.extend, hpower]
      rfl
    · obtain ⟨exponent, hexponent, rfl⟩ := Option.map_eq_some_iff.mp h
      have hpower := takeExponent_extend tail hexponent hrest
      rw [List.cons_append] at hpower
      simp only [List.cons_append, takeFraction, if_neg hdigit, hpower]
      rfl
  · obtain rfl := Option.some.inj h
    have hapart : StartsApart tail := hrest.resolve_left fun hne => hne rfl
    cases tail with
    | nil => rfl
    | cons c tail =>
      have hdigit := eq_false_of_isSeparator isDigit_separators hapart.cons
      simp only [List.cons_append, List.nil_append, takeFraction,
        if_neg (Bool.eq_false_iff.mp hdigit), takeExponent_separated hapart]
      rfl
  · next hpoint hlast =>
    cases chars with
    | nil =>
      obtain rfl := Option.some.inj h
      exact takeFraction_separated (hrest.resolve_left fun hne => hne rfl)
    | cons c rest =>
      have hc : c ≠ '.' := by
        rintro rfl
        cases rest with
        | nil => exact hlast rfl
        | cons second rest => exact hpoint second rest rfl
      rw [← takeExponent_extend tail h hrest, List.cons_append, takeFraction_cons hc]

theorem Split.whole_extend (hrest : Bounded split.rest tail) :
    (split.extend tail).whole = split.whole.extend tail := by
  obtain ⟨taken, rest⟩ := split
  cases rest with
  | nil =>
    have hapart : StartsApart tail := hrest.resolve_left fun hne => hne rfl
    cases tail with
    | nil => rfl
    | cons c tail =>
      have hc : c ≠ 'n' := ne_of_isSeparator hapart.cons (by decide)
      simp [whole, extend, hc, ScannedNumber.extend]
  | cons c cs =>
    by_cases hc : c = 'n'
    · subst hc
      rfl
    · simp [whole, extend, hc, ScannedNumber.extend]

theorem Split.withFraction_extend (h : split.withFraction = some number)
    (hrest : Bounded number.rest tail) :
    (split.extend tail).withFraction = some (number.extend tail) := by
  obtain ⟨fraction, hfraction, rfl⟩ := Option.map_eq_some_iff.mp h
  rw [withFraction, extend, takeFraction_extend tail hfraction hrest]
  rfl

include hdigits in
theorem basedNumber?_extend {start : List Char} (h : basedNumber? isDigit start chars = some number)
    (hrest : Bounded number.rest tail) :
    basedNumber? isDigit start (chars ++ tail) = some (number.extend tail) := by
  obtain ⟨digits, hdigits', rfl⟩ := Option.map_eq_some_iff.mp h
  have hafter : Bounded (digits.after start).rest tail :=
    hrest.of_suffix (digits.after start).whole_suffix
  have hdigitsRest : Bounded digits.rest tail := hafter
  rw [basedNumber?, takeDigits_extend tail hdigits hdigits' hdigitsRest]
  exact congrArg some (Split.whole_extend tail hafter)

theorem decimalNumber?_extend (h : decimalNumber? chars = some number)
    (hrest : Bounded number.rest tail) :
    decimalNumber? (chars ++ tail) = some (number.extend tail) := by
  obtain ⟨digits, hdigits, h⟩ := Option.bind_eq_some_iff.mp h
  have hdigitsRest : Bounded digits.rest tail := by
    refine hrest.of_suffix ?_
    split_ifs at h
    · obtain rfl := Option.some.inj h
      exact digits.whole_suffix
    · exact Split.withFraction_suffix h
  -- The mark of a whole number of any size is no separator.
  have hmark : (digits.rest ++ tail).head? = some 'n' ↔ digits.rest.head? = some 'n' := by
    obtain hne | hapart := hdigitsRest
    · rw [List.head?_append_of_ne_nil _ hne]
    · cases hrest' : digits.rest with
      | cons c rest => rfl
      | nil =>
        refine iff_of_false (fun hhead => ?_) (nomatch ·)
        obtain ⟨tail, rfl⟩ := List.head?_eq_some_iff.mp hhead
        exact absurd hapart.cons (by decide)
  rw [decimalNumber?, takeDigits_extend tail isDigit_separators hdigits hdigitsRest,
    Option.bind_some, Split.extend]
  simp only [hmark]
  split_ifs at h ⊢
  · obtain rfl := Option.some.inj h
    exact congrArg some (Split.whole_extend tail hdigitsRest)
  · exact Split.withFraction_extend tail h hrest

theorem zeroNumber?_extend (h : zeroNumber? chars = some number)
    (hrest : Bounded number.rest tail) :
    zeroNumber? (chars ++ tail) = some (number.extend tail) := by
  have hdrop : Bounded (chars.drop (chars.takeWhile Char.isDigit).length) tail := by
    refine hrest.of_suffix ?_
    simp only [zeroNumber?] at h
    split_ifs at h
    · obtain rfl := Option.some.inj h
      exact List.suffix_rfl
    · exact Split.withFraction_suffix h
  have hlength : (chars.takeWhile Char.isDigit).length ≤ chars.length :=
    (List.takeWhile_prefix _).length_le
  simp only [zeroNumber?, takeWhile_append_of_bounded isDigit_separators hdrop,
    List.drop_append_of_le_length hlength] at h ⊢
  split_ifs at h ⊢
  · obtain rfl := Option.some.inj h
    rfl
  · exact Split.withFraction_extend tail h hrest

/-- A zero that a separator follows starts a decimal number. -/
theorem readNumber_zero_separated {tail : List Char} (h : StartsApart tail) :
    readNumber ('0' :: tail) = decimalNumber? ('0' :: tail) := by
  cases tail with
  | nil => rfl
  | cons c tail =>
    have hne {d : Char} (hd : isSeparator d = false) : c ≠ d := ne_of_isSeparator h.cons hd
    have hdigit := eq_false_of_isSeparator isDigit_separators h.cons
    rw [readNumber, if_neg (not_or.mpr ⟨hne (by decide), hne (by decide)⟩),
      if_neg (not_or.mpr ⟨hne (by decide), hne (by decide)⟩),
      if_neg (not_or.mpr ⟨hne (by decide), hne (by decide)⟩),
      if_neg (Bool.eq_false_iff.mp hdigit), if_neg (hne (by decide))]

theorem readNumber_extend (h : readNumber chars = some number) (hrest : Bounded number.rest tail)
    (hne : chars ≠ []) : readNumber (chars ++ tail) = some (number.extend tail) := by
  unfold readNumber at h
  split at h
  · next c cs =>
    rw [List.cons_append, List.cons_append, readNumber]
    split_ifs at h ⊢
    iterate 3 exact basedNumber?_extend tail (by decide +kernel) h hrest
    · exact zeroNumber?_extend tail h hrest
    · exact decimalNumber?_extend tail h hrest
  · next cs => exact Split.withFraction_extend tail h hrest
  · next hzero hpoint =>
    obtain ⟨c, cs, rfl⟩ := List.exists_cons_of_ne_nil hne
    have hc' : c ≠ '.' := by
      rintro rfl
      exact hpoint cs rfl
    by_cases hc : c = '0'
    · subst hc
      cases cs with
      | cons second cs => exact absurd rfl (hzero second cs)
      | nil =>
        rw [← decimalNumber?_extend tail h hrest]
        obtain hrest | hapart := hrest
        · obtain rfl : (⟨['0'], [], false⟩ : ScannedNumber) = number := Option.some.inj h
          contradiction
        · exact readNumber_zero_separated hapart
    · rw [List.cons_append, readNumber_cons hc hc', ← List.cons_append]
      exact decimalNumber?_extend tail h hrest

theorem scanNumber_extend (h : scanNumber chars = some number) (hrest : Bounded number.rest tail)
    (hne : chars ≠ []) : scanNumber (chars ++ tail) = some (number.extend tail) := by
  have hread' := readNumber_of_scanNumber h
  have hread := readNumber_extend tail hread' hrest hne
  cases hcons : number.rest with
  | cons c cs =>
    simp only [scanNumber, hread', hcons] at h
    simp only [scanNumber, hread, ScannedNumber.extend, hcons, List.cons_append]
    split_ifs at h ⊢
    rfl
  | nil =>
    have hapart : StartsApart tail := hrest.resolve_left fun hne => hne hcons
    cases tail with
    | nil => simpa [ScannedNumber.extend] using h
    | cons c tail =>
      have hstart : (isNameStart c || c.isDigit || c == '\\') = false :=
        eq_false_of_isSeparator (p := fun c => isNameStart c || c.isDigit || c == '\\')
          (by decide +kernel) hapart.cons
      simp [scanNumber, hread, ScannedNumber.extend, hcons, hstart]

end Numbers

/-! ### Delimited texts -/

section Delimited

variable {mark : Char}

/-- The same with more text behind it. -/
def ScannedText.extend (text : ScannedText) (tail : List Char) : ScannedText :=
  { text with rest := text.rest ++ tail }

/-- The same with more text behind it. -/
def ScannedTemplate.extend (piece : ScannedTemplate) (tail : List Char) : ScannedTemplate :=
  { piece with rest := piece.rest ++ tail }

/-- A string ends with its mark. -/
theorem mem_of_scanString {text : ScannedText} (h : scanString mark skip chars = .ok text) :
    mark ∈ chars := by
  fun_induction scanString mark skip chars generalizing text with
  | case1 | case5 | case6 => contradiction
  | case2 _ _ _ ih => exact List.mem_cons_of_mem _ (ih h)
  | case3 => exact List.mem_cons_self
  | case4 _ _ _ _ ih | case7 _ _ _ _ _ ih =>
    obtain ⟨more, hmore, -⟩ := Except.map_eq_ok_iff.mp h
    exact List.mem_cons_of_mem _ (ih hmore)

theorem scanString_extend {text : ScannedText} (hmark : endsEscape mark)
    (h : scanString mark skip chars = .ok text) :
    scanString mark skip (chars ++ tail) = .ok (text.extend tail) := by
  fun_induction scanString mark skip chars generalizing text with
  | case1 | case5 | case6 => contradiction
  | case2 _ _ _ ih => exact ih h
  | case3 cs =>
    obtain rfl := Except.ok.inj h
    rw [List.cons_append, scanString, if_pos rfl]
    rfl
  | case4 cs escape hescape hne ih =>
    obtain ⟨more, hmore, rfl⟩ := Except.map_eq_ok_iff.mp h
    rw [List.cons_append, scanString, if_neg hne, if_pos rfl,
      textEscape?_append (mem_of_scanString hmore) hmark, hescape]
    dsimp only
    rw [ih hmore]
    rfl
  | case7 c cs hne hescape hbreak ih =>
    obtain ⟨more, hmore, rfl⟩ := Except.map_eq_ok_iff.mp h
    rw [List.cons_append, scanString, if_neg hne, if_neg hescape, if_neg hbreak, ih hmore]
    rfl

/-- A piece of a template ends with its mark or the sign in front of a substitution. -/
theorem exists_mem_of_scanTemplate {piece : ScannedTemplate}
    (h : scanTemplate skip chars = .ok piece) : ∃ mark ∈ chars, endsEscape mark := by
  fun_induction scanTemplate skip chars generalizing piece with
  | case1 => contradiction
  | case2 _ _ _ ih | case5 _ _ _ _ _ ih | case7 _ _ _ _ _ ih =>
    obtain ⟨mark, hmem, hmark⟩ := ih h
    exact ⟨mark, List.mem_cons_of_mem _ hmem, hmark⟩
  | case3 | case4 => exact ⟨_, List.mem_cons_self, rfl⟩
  | case6 _ _ _ _ ih =>
    obtain ⟨more, hmore, -⟩ := Except.map_eq_ok_iff.mp h
    obtain ⟨mark, hmem, hmark⟩ := ih hmore
    exact ⟨mark, List.mem_cons_of_mem _ hmem, hmark⟩

theorem scanTemplate_extend {piece : ScannedTemplate} (h : scanTemplate skip chars = .ok piece) :
    scanTemplate skip (chars ++ tail) = .ok (piece.extend tail) := by
  fun_induction scanTemplate skip chars generalizing piece with
  | case1 => contradiction
  | case2 _ _ _ ih => exact ih h
  | case3 cs =>
    obtain rfl := Except.ok.inj h
    rfl
  | case4 cs hopen =>
    obtain rfl := Except.ok.inj h
    rw [List.cons_append, scanTemplate, if_pos rfl]
    · rfl
    · exact fun _ hmark => absurd hmark (by decide)
  | case5 cs escape hescape hopen hne ih =>
    obtain ⟨mark, hmem, hmark⟩ := exists_mem_of_scanTemplate h
    rw [List.cons_append, scanTemplate, if_neg hne, if_pos rfl, textEscape?_append hmem hmark,
      hescape]
    · exact ih h
    · exact fun _ hmark => absurd hmark (by decide)
  | case6 cs hescape hopen hne ih =>
    obtain ⟨more, hmore, rfl⟩ := Except.map_eq_ok_iff.mp h
    obtain ⟨mark, hmem, hmark⟩ := exists_mem_of_scanTemplate hmore
    rw [List.cons_append, scanTemplate, if_neg hne, if_pos rfl, textEscape?_append hmem hmark,
      hescape]
    · dsimp only
      rw [ih hmore]
      rfl
    · exact fun _ hmark => absurd hmark (by decide)
  | case7 c cs hopen hne hescape ih =>
    obtain ⟨mark, hmem, -⟩ := exists_mem_of_scanTemplate h
    rw [List.cons_append, scanTemplate, if_neg hne, if_neg hescape]
    · exact ih h
    · intro rest hc heq
      obtain ⟨d, ds, rfl⟩ := List.exists_cons_of_ne_nil (List.ne_nil_of_mem hmem)
      exact hopen ds hc (by rw [(List.cons.inj heq).1])

theorem regexBody_extend {inClass : Bool} {rest : List Char}
    (h : regexBody inClass chars = some rest) :
    regexBody inClass (chars ++ tail) = some (rest ++ tail) := by
  fun_induction regexBody inClass chars with
  | case1 | case2 | case4 => contradiction
  | case3 inClass c cs hbreak ih =>
    rw [List.cons_append, List.cons_append, regexBody, if_neg hbreak]
    exact ih h
  | case5 inClass c cs hescape hbreak hend =>
    obtain rfl := Option.some.inj h
    rw [List.cons_append, regexBody, if_neg hbreak, if_pos hend]
    rintro _ _ rfl
    exact absurd hend.1 (by decide)
  | case6 inClass c cs hescape hbreak hend ih =>
    rw [List.cons_append, regexBody, if_neg hbreak, if_neg hend]
    · exact ih h
    · intro second rest hc heq
      cases cs with
      | nil => contradiction
      | cons d ds => exact hescape d ds hc rfl

theorem scanRegex_extend {rest : List Char} (h : scanRegex chars = .ok rest)
    (hrest : Bounded rest tail) :
    scanRegex (chars ++ tail) = .ok (rest ++ tail) := by
  unfold scanRegex at h
  split at h
  · contradiction
  · next body hbody =>
    dsimp only at h
    split_ifs at h with hflags
    obtain rfl := Except.ok.inj h
    have hlength : (body.takeWhile isFlagChar).length ≤ body.length :=
      (List.takeWhile_prefix _).length_le
    have hsame : (body ++ tail).takeWhile isFlagChar = body.takeWhile isFlagChar :=
      takeWhile_append_of_bounded (by decide +kernel) hrest
    simp only [scanRegex, regexBody_extend tail hbody, hsame,
      List.drop_append_of_le_length hlength, if_pos hflags]

end Delimited

end ModuleBundler.Script
