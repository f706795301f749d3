import ModuleBundler.Proofs.Script.Blanks
import ModuleBundler.Proofs.Script.Names

/-!
# Cursors of a text

A cursor that was reached by reading is *genuine*: its next token is the one that stands behind the
blanks behind the last token, and if it is a word, its name is a name and tells its keyword. Every
cursor that follows a genuine one is genuine, so what a parser passes over is a part of the text: up
to the end of the last token, with a gap in front of the next one.

## Main definitions

* `Cursor.Genuine` — cursors that were reached by reading.
* `Cursor.Passes` — the cursors that follow a cursor behind at least one token.

## Main results

* `Cursor.Reaches.genuine` — what follows a genuine cursor is genuine.
* `Cursor.Reaches.exists_gap` — the text between two cursors.
-/

namespace ModuleBundler.Script

open Text

variable {goal : Goal} {chars cs : List Char} {skip : Nat} {isAllowed : Char → Bool}

/-! ### Names that are read -/

theorem isAllowed_of_nameEscape? {c : Char} {length : Nat}
    (h : nameEscape? isAllowed cs = some (c, length)) : isAllowed c := by
  unfold nameEscape? at h
  split at h
  · split at h
    · split_ifs at h with hallowed
      obtain ⟨rfl, -⟩ := Prod.mk.inj (Option.some.inj h)
      exact hallowed
    · contradiction
  · contradiction

theorem isNamePart_of_nameTail {name : ScannedName} (h : nameTail skip chars = some name) :
    ∀ c ∈ name.name, isNamePart c := by
  fun_induction nameTail skip chars generalizing name with
  | case1 | case6 =>
    obtain rfl := Option.some.inj h
    exact List.forall_mem_nil _
  | case2 _ _ _ ih => exact ih h
  | case4 => contradiction
  | case3 _ _ _ hescape ih =>
    obtain ⟨tail, htail, rfl⟩ := Option.map_eq_some_iff.mp h
    exact List.forall_mem_cons.mpr ⟨isAllowed_of_nameEscape? hescape, ih htail⟩
  | case5 _ _ _ hpart ih =>
    obtain ⟨tail, htail, rfl⟩ := Option.map_eq_some_iff.mp h
    exact List.forall_mem_cons.mpr ⟨hpart, ih htail⟩

/-- The name of a word is a name, however it is written. -/
theorem isIdentifierName_of_scanName {name : ScannedName} (h : scanName chars = some name) :
    IsIdentifierName name.name := by
  unfold scanName at h
  split at h
  · split at h
    · next hescape =>
      obtain ⟨tail, htail, rfl⟩ := Option.map_eq_some_iff.mp h
      exact ⟨isAllowed_of_nameEscape? hescape, isNamePart_of_nameTail htail⟩
    · contradiction
  · split_ifs at h with hstart
    obtain ⟨tail, htail, rfl⟩ := Option.map_eq_some_iff.mp h
    exact ⟨hstart, isNamePart_of_nameTail htail⟩
  · contradiction

/-- What is known of a token at the start of a text. -/
structure Token.Fits (token : Token) (here : List Char) : Prop where
  word : ∀ {keyword : Option Keyword}, token.kind = .word keyword →
    IsIdentifierName token.text ∧ keyword = keywordOf? token.text
  ends : token.kind = .endOfSource ↔ here = []

theorem Token.Fits.of_kind {token : Token} {here : List Char}
    (hword : ∀ keyword, token.kind ≠ .word keyword) (hkind : token.kind ≠ .endOfSource)
    (hne : here ≠ []) : token.Fits here :=
  ⟨fun h => absurd h (hword _), iff_of_false hkind hne⟩

theorem fits_tokenAt {place : Rest} {next : Lexeme} (h : tokenAt place = .ok next) :
    next.token.Fits next.here := by
  unfold tokenAt at h
  split at h
  · next heq =>
    obtain rfl := Except.ok.inj h
    exact ⟨nofun, iff_of_true rfl heq⟩
  · next c cs heq =>
    have hne : place.chars ≠ [] := heq ▸ List.cons_ne_nil c cs
    split_ifs at h
    · split at h
      · next name hname =>
        obtain rfl := Except.ok.inj h
        refine ⟨fun hkind => ⟨isIdentifierName_of_scanName hname, ?_⟩, iff_of_false nofun hne⟩
        exact (TokenKind.word.inj hkind).symm
      · contradiction
    · split at h
      · obtain rfl := Except.ok.inj h
        refine .of_kind (fun keyword => ?_) ?_ hne
        all_goals
          simp only [lexeme]
          split <;> simp
      · contradiction
    · obtain ⟨text, -, rfl⟩ := Except.map_eq_ok_iff.mp h
      exact .of_kind nofun nofun hne
    · obtain ⟨piece, -, rfl⟩ := Except.map_eq_ok_iff.mp h
      exact .of_kind nofun nofun hne
    · split at h
      · obtain rfl := Except.ok.inj h
        exact .of_kind nofun nofun hne
      · contradiction
    · split at h
      · obtain rfl := Except.ok.inj h
        exact .of_kind nofun nofun hne
      · contradiction

namespace Cursor

variable {first second middle last : Cursor}

/-! ### Genuine cursors -/

/-- The next token is the one behind the last token. -/
structure Genuine (goal : Goal) (cursor : Cursor) : Prop where
  /-- Between the last token and the next one, there are only blanks. -/
  passed : ∃ newline, skipTrivia goal .blank cursor.behind false = .ok ⟨cursor.next.here, newline⟩
  aligned : cursor.Aligned
  fits : cursor.token.Fits cursor.next.here

theorem genuine_of_scanToken {next : Lexeme} (h : scanToken goal chars = .ok next) :
    Genuine goal ⟨next, chars⟩ := by
  obtain ⟨place, hplace, hnext⟩ := exists_skipTrivia_of_scanToken h
  obtain ⟨hhere, -, hrest⟩ := tokenAt_suffix hnext
  refine ⟨⟨place.newline, ?_⟩, (scanToken_suffix h).1, fits_tokenAt hnext⟩
  show skipTrivia goal .blank chars false = .ok ⟨next.here, place.newline⟩
  rw [hhere]
  exact hplace

theorem At.genuine (h : first.At goal chars) : first.Genuine goal := by
  obtain ⟨next, behind⟩ := first
  obtain ⟨hnext, rfl⟩ := h
  exact genuine_of_scanToken hnext

theorem Genuine.here_suffix (h : first.Genuine goal) : first.next.here <:+ first.behind := by
  obtain ⟨newline, hpassed⟩ := h.passed
  exact skipTrivia_suffix hpassed

theorem Step.genuine (h : Step goal first second) (hfirst : first.Genuine goal) :
    second.Genuine goal := by
  cases h with
  | advance h =>
    obtain ⟨next, hnext, rfl⟩ := Except.map_eq_ok_iff.mp h
    exact genuine_of_scanToken hnext
  | reread way h =>
    obtain ⟨next, hnext, rfl⟩ := Except.map_eq_ok_iff.mp h
    obtain ⟨hhere, hrest⟩ := Lexeme.reread_suffix hnext
    obtain ⟨newline, hpassed⟩ := hfirst.passed
    have hne : first.next.here ≠ [] := by
      unfold Lexeme.reread at hnext
      dsimp only at hnext
      split_ifs at hnext with happlies
      intro hnil
      rw [show first.next.token.kind = .endOfSource from hfirst.fits.ends.mpr hnil] at happlies
      cases way <;> contradiction
    refine ⟨⟨newline, hhere ▸ hpassed⟩, hrest, ?_⟩
    unfold Lexeme.reread at hnext
    dsimp only at hnext
    split_ifs at hnext
    split at hnext
    all_goals
      obtain ⟨_, -, rfl⟩ := Except.map_eq_ok_iff.mp hnext
      exact .of_kind nofun nofun hne

/-- What follows a genuine cursor is genuine. -/
theorem Reaches.genuine (h : first.Reaches goal last) (hfirst : first.Genuine goal) :
    last.Genuine goal := by
  induction h with
  | refl => exact hfirst
  | step hstep _ ih => exact ih (hstep.genuine hfirst)

/-- What is left behind the last token only gets shorter. -/
theorem Reaches.behind_suffix (h : first.Reaches goal last) (hfirst : first.Genuine goal) :
    last.behind <:+ first.behind := by
  induction h with
  | refl => exact List.suffix_rfl
  | step hstep _ ih =>
    refine (ih (hstep.genuine hfirst)).trans ?_
    cases hstep with
    | advance h =>
      obtain ⟨next, -, rfl⟩ := Except.map_eq_ok_iff.mp h
      exact List.IsSuffix.trans hfirst.aligned hfirst.here_suffix
    | reread way h =>
      obtain ⟨next, -, rfl⟩ := Except.map_eq_ok_iff.mp h
      exact List.suffix_rfl

/-! ### Passing over tokens -/

/-- The second cursor follows the first one, with a token between them. -/
def Passes (goal : Goal) (first last : Cursor) : Prop :=
  ∃ middle second, first.Reaches goal middle ∧ middle.advance goal = .ok second ∧
    second.Reaches goal last

theorem passes_of_advance (h : first.advance goal = .ok second) : first.Passes goal second :=
  ⟨first, second, .refl first, h, .refl second⟩

theorem Passes.trans_reaches (h : first.Passes goal middle) (h' : middle.Reaches goal last) :
    first.Passes goal last := by
  obtain ⟨start, second, hstart, hadvance, hrest⟩ := h
  exact ⟨start, second, hstart, hadvance, hrest.trans h'⟩

theorem Reaches.trans_passes (h : first.Reaches goal middle) (h' : middle.Passes goal last) :
    first.Passes goal last := by
  obtain ⟨start, second, hstart, hrest⟩ := h'
  exact ⟨start, second, h.trans hstart, hrest⟩

/-- A word is the first token that is passed over. -/
theorem Passes.exists_advance {keyword : Option Keyword} (h : first.Passes goal last)
    (hword : first.token.kind = .word keyword) :
    ∃ second, first.advance goal = .ok second ∧ second.Reaches goal last := by
  obtain ⟨middle, second, hreach, hadvance, hrest⟩ := h
  cases hreach with
  | refl => exact ⟨second, hadvance, hrest⟩
  | step hstep hmiddle =>
    exact ⟨_, hstep.advance_of_word hword, hmiddle.trans (.step (.advance hadvance) hrest)⟩

/-- What is left behind a token in between is a part of what starts at the first cursor. -/
theorem Passes.behind_suffix (h : first.Passes goal last) (hfirst : first.Genuine goal) :
    last.behind <:+ first.next.here := by
  obtain ⟨middle, second, hmiddle, hadvance, hrest⟩ := h
  have hgenuine : middle.Genuine goal := hmiddle.genuine hfirst
  have hbehind : last.behind <:+ second.behind :=
    hrest.behind_suffix (Step.genuine (.advance hadvance) hgenuine)
  obtain ⟨next, -, rfl⟩ := Except.map_eq_ok_iff.mp hadvance
  exact hbehind.trans (List.IsSuffix.trans hgenuine.aligned (hmiddle.suffix hfirst.aligned))

/-- A cursor that follows another one stands at the same place, or behind a token. -/
theorem Reaches.same_or_passes (h : first.Reaches goal last) :
    last.next.here = first.next.here ∧ last.behind = first.behind ∨ first.Passes goal last := by
  induction h with
  | refl => exact .inl ⟨rfl, rfl⟩
  | step hstep hrest ih =>
    cases hstep with
    | advance h => exact .inr ((passes_of_advance h).trans_reaches hrest)
    | reread way h =>
      obtain ⟨hhere, hbehind⟩ | hpasses := ih
      · obtain ⟨next, hnext, rfl⟩ := Except.map_eq_ok_iff.mp h
        exact .inl ⟨hhere.trans (Lexeme.reread_suffix hnext).1, hbehind⟩
      · exact .inr ((Step.reread way h).reaches.trans_passes hpasses)

/-! ### Texts between cursors -/

theorem Genuine.exists_gap (h : first.Genuine .module) :
    ∃ gap, first.behind = gap ++ first.next.here ∧ Gap gap first.next.here := by
  obtain ⟨newline, hpassed⟩ := h.passed
  exact Script.exists_gap hpassed

/-- **The text between two cursors** goes up to the end of the last token, and a gap follows. -/
theorem Reaches.exists_gap (h : first.Reaches .module last) (hfirst : first.Genuine .module) :
    ∃ text gap, first.next.here = text ++ (gap ++ last.next.here) ∧
      text.length = first.extent last ∧ Gap gap last.next.here := by
  have hlast := h.genuine hfirst
  obtain ⟨hhere, hbehind⟩ | hpasses := h.same_or_passes
  · refine ⟨[], [], hhere.symm, ?_, fun _ _ => rfl, fun _ => blank_nil⟩
    have hle : first.next.here.length ≤ first.behind.length := hfirst.here_suffix.length_le
    rw [extent, hbehind, List.length_nil]
    omega
  · obtain ⟨gap, hgap, hblank⟩ := hlast.exists_gap
    obtain ⟨text, htext⟩ := hpasses.behind_suffix hfirst
    refine ⟨text, gap, by rw [← htext, hgap], ?_, hblank⟩
    rw [extent, ← htext, List.length_append]
    omega

end Cursor

end ModuleBundler.Script
