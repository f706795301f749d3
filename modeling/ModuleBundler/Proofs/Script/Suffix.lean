import Mathlib.Data.List.Infix
import Mathlib.Tactic.SplitIfs
import ModuleBundler.Proofs.Except
import ModuleBundler.Proofs.Script.Reads

/-!
# What is left of a text

Whatever is read, what is left behind it is the end of the text. So every cursor that follows
another one stands at the end of the text at which the other one stands.

## Main results

* `scanToken_suffix`, `Lexeme.reread_suffix` — what is left behind a token.
* `Cursor.Reaches.suffix` — what is left at a cursor that follows.
-/

namespace ModuleBundler.Script

open Text

variable {goal : Goal} {chars tail : List Char} {skip : Nat} {c : Char}

theorem suffix_cons_of_suffix (h : tail <:+ chars) : tail <:+ c :: chars :=
  h.trans (List.suffix_cons c chars)

/-! ### Blanks and names -/

theorem skipTrivia_suffix {trivia : Trivia} {newline : Bool} {rest : Rest}
    (h : skipTrivia goal trivia chars newline = .ok rest) : rest.chars <:+ chars := by
  fun_induction skipTrivia goal trivia chars newline with
  | case1 _ _ ih | case2 _ _ ih | case12 _ _ ih =>
    exact suffix_cons_of_suffix (suffix_cons_of_suffix (ih h))
  | case3 _ _ _ ih => exact (ih h).trans (List.suffix_append ['<', '!', '-', '-'] _)
  | case5 _ _ _ ih => exact (ih h).trans (List.suffix_append ['-', '-', '>'] _)
  | case7 _ _ _ _ _ _ _ _ ih | case8 _ _ _ _ _ _ _ _ _ ih | case10 _ _ _ _ ih
  | case11 _ _ _ _ ih | case13 _ _ _ _ ih => exact suffix_cons_of_suffix (ih h)
  | case14 => contradiction
  | case4 | case6 | case9 | case15 | case16 =>
    obtain rfl := Except.ok.inj h
    exact List.suffix_rfl

@[simp] theorem ScannedName.rest_after (name : ScannedName) (c : Char) (escaped : Bool) :
    (name.after c escaped).rest = name.rest :=
  rfl

theorem nameTail_suffix {name : ScannedName} (h : nameTail skip chars = some name) :
    name.rest <:+ chars := by
  fun_induction nameTail skip chars generalizing name with
  | case1 | case6 =>
    obtain rfl := Option.some.inj h
    exact List.suffix_rfl
  | case2 _ _ _ ih => exact suffix_cons_of_suffix (ih h)
  | case4 => contradiction
  | case3 _ _ _ _ ih | case5 _ _ _ _ ih =>
    obtain ⟨tail, htail, rfl⟩ := Option.map_eq_some_iff.mp h
    rw [ScannedName.rest_after]
    exact suffix_cons_of_suffix (ih htail)

theorem scanName_suffix {name : ScannedName} (h : scanName chars = some name) :
    name.rest <:+ chars := by
  unfold scanName at h
  split at h
  · split at h
    · obtain ⟨tail, htail, rfl⟩ := Option.map_eq_some_iff.mp h
      rw [ScannedName.rest_after]
      exact suffix_cons_of_suffix (nameTail_suffix htail)
    · contradiction
  · split_ifs at h
    obtain ⟨tail, htail, rfl⟩ := Option.map_eq_some_iff.mp h
    rw [ScannedName.rest_after]
    exact suffix_cons_of_suffix (nameTail_suffix htail)
  · contradiction

/-! ### Numbers -/

section Numbers

variable {isDigit : Char → Bool} {split : Split} {number : ScannedNumber}

@[simp] theorem Split.rest_after (split : Split) (front : List Char) :
    (split.after front).rest = split.rest :=
  rfl

theorem moreDigits_suffix (h : moreDigits isDigit chars = some split) : split.rest <:+ chars := by
  fun_induction moreDigits isDigit chars generalizing split with
  | case1 _ _ _ ih =>
    obtain ⟨more, hmore, rfl⟩ := Option.map_eq_some_iff.mp h
    rw [Split.rest_after]
    exact suffix_cons_of_suffix (suffix_cons_of_suffix (ih hmore))
  | case2 | case3 => contradiction
  | case4 _ _ _ _ _ ih =>
    obtain ⟨more, hmore, rfl⟩ := Option.map_eq_some_iff.mp h
    rw [Split.rest_after]
    exact suffix_cons_of_suffix (ih hmore)
  | case5 | case6 =>
    obtain rfl := Option.some.inj h
    exact List.suffix_rfl

theorem takeDigits_suffix (h : takeDigits isDigit chars = some split) : split.rest <:+ chars := by
  unfold takeDigits at h
  split at h
  · split_ifs at h
    obtain ⟨more, hmore, rfl⟩ := Option.map_eq_some_iff.mp h
    rw [Split.rest_after]
    exact suffix_cons_of_suffix (moreDigits_suffix hmore)
  · contradiction

theorem takeExponent_suffix (h : takeExponent chars = some split) : split.rest <:+ chars := by
  unfold takeExponent at h
  split at h
  · split_ifs at h
    · obtain ⟨digits, hdigits, rfl⟩ := Option.map_eq_some_iff.mp h
      rw [Split.rest_after]
      exact suffix_cons_of_suffix (suffix_cons_of_suffix (takeDigits_suffix hdigits))
    · obtain ⟨digits, hdigits, rfl⟩ := Option.map_eq_some_iff.mp h
      rw [Split.rest_after]
      exact suffix_cons_of_suffix (takeDigits_suffix hdigits)
    · obtain rfl := Option.some.inj h
      exact List.suffix_rfl
  · split_ifs at h
    obtain rfl := Option.some.inj h
    exact List.suffix_rfl
  · obtain rfl := Option.some.inj h
    exact List.suffix_rfl

theorem takeFraction_suffix (h : takeFraction chars = some split) : split.rest <:+ chars := by
  unfold takeFraction at h
  split at h
  · split_ifs at h
    · obtain ⟨digits, hdigits, h⟩ := Option.bind_eq_some_iff.mp h
      obtain ⟨exponent, hexponent, rfl⟩ := Option.map_eq_some_iff.mp h
      rw [Split.rest_after]
      exact suffix_cons_of_suffix
        ((takeExponent_suffix hexponent).trans (takeDigits_suffix hdigits))
    · obtain ⟨exponent, hexponent, rfl⟩ := Option.map_eq_some_iff.mp h
      rw [Split.rest_after]
      exact suffix_cons_of_suffix (takeExponent_suffix hexponent)
  · obtain rfl := Option.some.inj h
    exact List.nil_suffix
  · exact takeExponent_suffix h

theorem Split.whole_suffix (split : Split) : split.whole.rest <:+ split.rest := by
  unfold whole
  split
  · next rest heq =>
    rw [heq]
    exact List.suffix_cons 'n' rest
  · exact List.suffix_rfl

theorem Split.withFraction_suffix (h : split.withFraction = some number) :
    number.rest <:+ split.rest := by
  obtain ⟨fraction, hfraction, rfl⟩ := Option.map_eq_some_iff.mp h
  exact takeFraction_suffix hfraction

theorem basedNumber?_suffix {start : List Char}
    (h : basedNumber? isDigit start chars = some number) : number.rest <:+ chars := by
  obtain ⟨digits, hdigits, rfl⟩ := Option.map_eq_some_iff.mp h
  have hdigits := takeDigits_suffix hdigits
  exact (digits.after start).whole_suffix.trans hdigits

theorem decimalNumber?_suffix (h : decimalNumber? chars = some number) : number.rest <:+ chars := by
  obtain ⟨digits, hdigits, h⟩ := Option.bind_eq_some_iff.mp h
  refine List.IsSuffix.trans ?_ (takeDigits_suffix hdigits)
  split_ifs at h
  · obtain rfl := Option.some.inj h
    exact digits.whole_suffix
  · exact Split.withFraction_suffix h

theorem zeroNumber?_suffix (h : zeroNumber? chars = some number) : number.rest <:+ chars := by
  refine List.IsSuffix.trans ?_ (List.drop_suffix (chars.takeWhile Char.isDigit).length chars)
  unfold zeroNumber? at h
  dsimp only at h
  split_ifs at h
  · obtain rfl := Option.some.inj h
    exact List.suffix_rfl
  · exact Split.withFraction_suffix h

theorem readNumber_suffix (h : readNumber chars = some number) : number.rest <:+ chars := by
  unfold readNumber at h
  split at h
  · split_ifs at h
    iterate 3 exact suffix_cons_of_suffix (suffix_cons_of_suffix (basedNumber?_suffix h))
    · exact zeroNumber?_suffix h
    · exact decimalNumber?_suffix h
  · exact Split.withFraction_suffix h
  · exact decimalNumber?_suffix h

theorem readNumber_of_scanNumber (h : scanNumber chars = some number) :
    readNumber chars = some number := by
  unfold scanNumber at h
  split at h
  · next number' heq =>
    rw [heq]
    split at h
    · split_ifs at h
      exact h
    · exact h
  · contradiction

end Numbers

/-! ### Delimited texts -/

theorem scanString_suffix {mark : Char} {text : ScannedText}
    (h : scanString mark skip chars = .ok text) : text.rest <:+ chars := by
  fun_induction scanString mark skip chars generalizing text with
  | case1 | case5 | case6 => contradiction
  | case2 _ _ _ ih => exact suffix_cons_of_suffix (ih h)
  | case3 =>
    obtain rfl := Except.ok.inj h
    exact List.suffix_cons ..
  | case4 _ _ _ _ ih | case7 _ _ _ _ _ ih =>
    obtain ⟨more, hmore, rfl⟩ := Except.map_eq_ok_iff.mp h
    have hsuffix := ih hmore
    exact suffix_cons_of_suffix hsuffix

theorem scanTemplate_suffix {piece : ScannedTemplate} (h : scanTemplate skip chars = .ok piece) :
    piece.rest <:+ chars := by
  fun_induction scanTemplate skip chars generalizing piece with
  | case1 => contradiction
  | case2 _ _ _ ih | case5 _ _ _ _ _ ih | case7 _ _ _ _ _ ih => exact suffix_cons_of_suffix (ih h)
  | case3 cs =>
    obtain rfl := Except.ok.inj h
    exact List.suffix_append ['$', '\x7b'] cs
  | case4 =>
    obtain rfl := Except.ok.inj h
    exact List.suffix_cons ..
  | case6 _ _ _ _ ih =>
    obtain ⟨more, hmore, rfl⟩ := Except.map_eq_ok_iff.mp h
    have hsuffix := ih hmore
    exact suffix_cons_of_suffix hsuffix

theorem regexBody_suffix {inClass : Bool} (h : regexBody inClass chars = some tail) :
    tail <:+ chars := by
  fun_induction regexBody inClass chars with
  | case1 | case2 | case4 => contradiction
  | case3 _ _ _ _ ih => exact suffix_cons_of_suffix (suffix_cons_of_suffix (ih h))
  | case5 =>
    obtain rfl := Option.some.inj h
    exact List.suffix_cons ..
  | case6 _ _ _ _ _ _ ih => exact suffix_cons_of_suffix (ih h)

theorem scanRegex_suffix (h : scanRegex chars = .ok tail) : tail <:+ chars := by
  unfold scanRegex at h
  split at h
  · contradiction
  · next rest hbody =>
    dsimp only at h
    split_ifs at h
    obtain rfl := Except.ok.inj h
    exact (List.drop_suffix _ rest).trans (regexBody_suffix hbody)

/-! ### Tokens -/

section Tokens

variable {place : Rest} {next : Lexeme}

/-- A token leaves the end of the text at which it starts. -/
theorem tokenAt_suffix (h : tokenAt place = .ok next) :
    next.here = place.chars ∧ next.token.newline = place.newline ∧ next.rest <:+ place.chars := by
  unfold tokenAt at h
  split at h
  · next heq =>
    obtain rfl := Except.ok.inj h
    exact ⟨rfl, rfl, List.nil_suffix⟩
  · next c cs heq =>
    rw [heq]
    split_ifs at h
    · split at h
      · next name hname =>
        obtain rfl := Except.ok.inj h
        exact ⟨heq, rfl, scanName_suffix hname⟩
      · contradiction
    · split at h
      · next number hnumber =>
        obtain rfl := Except.ok.inj h
        exact ⟨heq, rfl, readNumber_suffix (readNumber_of_scanNumber hnumber)⟩
      · contradiction
    · obtain ⟨text, htext, rfl⟩ := Except.map_eq_ok_iff.mp h
      exact ⟨heq, rfl, suffix_cons_of_suffix (scanString_suffix htext)⟩
    · obtain ⟨piece, hpiece, rfl⟩ := Except.map_eq_ok_iff.mp h
      exact ⟨heq, rfl, suffix_cons_of_suffix (scanTemplate_suffix hpiece)⟩
    · split at h
      · next name hname =>
        obtain rfl := Except.ok.inj h
        exact ⟨heq, rfl, suffix_cons_of_suffix (scanName_suffix hname)⟩
      · contradiction
    · split at h
      · next punct length _ =>
        obtain rfl := Except.ok.inj h
        exact ⟨heq, rfl, suffix_cons_of_suffix (List.drop_suffix _ cs)⟩
      · contradiction

theorem exists_skipTrivia_of_scanToken (h : scanToken goal chars = .ok next) :
    ∃ place, skipTrivia goal .blank chars false = .ok place ∧ tokenAt place = .ok next :=
  Except.bind_eq_ok_iff.mp h

theorem scanToken_suffix (h : scanToken goal chars = .ok next) :
    next.rest <:+ next.here ∧ next.here <:+ chars := by
  obtain ⟨place, hplace, hnext⟩ := exists_skipTrivia_of_scanToken h
  obtain ⟨hhere, -, hrest⟩ := tokenAt_suffix hnext
  rw [hhere]
  exact ⟨hrest, skipTrivia_suffix hplace⟩

theorem Lexeme.reread_suffix {current : Lexeme} {way : Rereading}
    (h : current.reread way = .ok next) : next.here = current.here ∧ next.rest <:+ next.here := by
  unfold reread at h
  dsimp only at h
  split_ifs at h
  split at h
  · obtain ⟨rest, hrest, rfl⟩ := Except.map_eq_ok_iff.mp h
    exact ⟨rfl, (scanRegex_suffix hrest).trans (List.drop_suffix ..)⟩
  · obtain ⟨piece, hpiece, rfl⟩ := Except.map_eq_ok_iff.mp h
    exact ⟨rfl, (scanTemplate_suffix hpiece).trans (List.drop_suffix ..)⟩

end Tokens

/-! ### Cursors -/

namespace Cursor

variable {cursor later : Cursor}

/-- What is left behind the next token is the end of the text that starts at this token. -/
def Aligned (cursor : Cursor) : Prop :=
  cursor.next.rest <:+ cursor.next.here

theorem At.aligned (h : cursor.At goal chars) : cursor.Aligned :=
  (scanToken_suffix h.next).1

theorem Step.suffix (h : Step goal cursor later) (haligned : cursor.Aligned) :
    later.Aligned ∧ later.next.here <:+ cursor.next.here := by
  cases h with
  | advance h =>
    obtain ⟨next, hnext, rfl⟩ := Except.map_eq_ok_iff.mp h
    obtain ⟨hrest, hhere⟩ := scanToken_suffix hnext
    exact ⟨hrest, hhere.trans haligned⟩
  | reread way h =>
    obtain ⟨next, hnext, rfl⟩ := Except.map_eq_ok_iff.mp h
    obtain ⟨hhere, hrest⟩ := Lexeme.reread_suffix hnext
    exact ⟨hrest, hhere ▸ List.suffix_rfl⟩

/-- A cursor that follows stands at the end of the text. -/
theorem Reaches.suffix (h : cursor.Reaches goal later) (haligned : cursor.Aligned) :
    later.next.here <:+ cursor.next.here := by
  induction h with
  | refl => exact List.suffix_rfl
  | step hstep _ ih =>
    obtain ⟨haligned', hsuffix⟩ := hstep.suffix haligned
    exact (ih haligned').trans hsuffix

end Cursor

end ModuleBundler.Script
