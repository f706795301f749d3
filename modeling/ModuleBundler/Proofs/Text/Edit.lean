import ModuleBundler.Text.Edit

/-!
# Texts with edits carried out

Edits of a text are *in order* if each of them starts where the one before it has stopped, or behind
that, and stops inside the text. Then the text falls into stretches that are kept and stretches that
are replaced, by turns; each edit replaces the stretch that it names, and everything else is copied.

## Main definitions

* `Text.InOrder` — edits that follow each other without overlap.
* `Text.Spliced` — a text and the same text with its edits carried out.

## Main results

* `Text.spliced_splice` — edits in order are carried out as they say.
-/

namespace ModuleBundler.Text

/-- The edits follow each other without overlap, from a position on up to the end of a text of the
given length. -/
def InOrder (length : Nat) : (position : Nat) → List Edit → Prop
  | position, [] => position ≤ length
  | position, edit :: edits =>
    position ≤ edit.start ∧ edit.start ≤ edit.stop ∧ InOrder length edit.stop edits

/-- A part of a text that starts at a position, and the same part with edits carried out: each edit
has its replacement in place of the characters between its ends, and all other characters are
there. -/
inductive Spliced : (position : Nat) → List Edit → (text result : List Char) → Prop
  | done (position : Nat) (text : List Char) : Spliced position [] text text
  | edit {position : Nat} {kept removed text result : List Char} {edit : Edit} {edits : List Edit}
    (hstart : edit.start = position + kept.length) (hstop : edit.stop = edit.start + removed.length)
    (hrest : Spliced edit.stop edits text result) :
    Spliced position (edit :: edits) (kept ++ removed ++ text) (kept ++ edit.replacement ++ result)

/-! ### Edits in order -/

namespace InOrder

variable {length position stop : Nat} {edits first second : List Edit}

theorem le_length (h : InOrder length position edits) : position ≤ length := by
  induction edits generalizing position with
  | nil => exact h
  | cons edit edits ih =>
    obtain ⟨hstart, hstop, hrest⟩ := h
    have := ih hrest
    omega

/-- Edits that are in order from a position on are so from each position before it. -/
theorem of_le (h : InOrder length position edits) (hle : stop ≤ position) :
    InOrder length stop edits := by
  cases edits with
  | nil => exact Nat.le_trans hle h
  | cons edit edits => exact ⟨Nat.le_trans hle h.1, h.2⟩

/-- Edits up to a position, and edits from there on. -/
theorem append (h : InOrder stop position first) (h' : InOrder length stop second) :
    InOrder length position (first ++ second) := by
  induction first generalizing position with
  | nil => exact h'.of_le h
  | cons edit edits ih => exact ⟨h.1, h.2.1, ih h.2.2⟩

end InOrder

/-! ### Splicing -/

/-- Edits in order are carried out on the part of a text that starts at a position. -/
theorem spliced_spliceFrom {position : Nat} {edits : List Edit} {text : List Char}
    (h : InOrder (position + text.length) position edits) :
    Spliced position edits text (spliceFrom position edits text) := by
  induction edits generalizing position text with
  | nil => exact .done position text
  | cons edit edits ih =>
    obtain ⟨hstart, hstop, hrest⟩ := h
    have hle := hrest.le_length
    -- What is kept, what is removed, and what is left of the text.
    have htext : text = text.take (edit.start - position) ++
        (text.drop (edit.start - position)).take (edit.stop - edit.start) ++
          text.drop (edit.stop - position) := by
      rw [List.append_assoc, show text.drop (edit.stop - position) =
        (text.drop (edit.start - position)).drop (edit.stop - edit.start) by
          rw [List.drop_drop]; congr 1; omega, List.take_append_drop, List.take_append_drop]
    have hleft : edit.stop + (text.drop (edit.stop - position)).length =
        position + text.length := by
      rw [List.length_drop]
      omega
    have hspliced : Spliced edit.stop edits (text.drop (edit.stop - position))
        (spliceFrom edit.stop edits (text.drop (edit.stop - position))) :=
      ih (by rw [hleft]; exact hrest)
    have hkept : edit.start = position + (text.take (edit.start - position)).length := by
      rw [List.length_take]
      omega
    have hremoved : edit.stop = edit.start +
        ((text.drop (edit.start - position)).take (edit.stop - edit.start)).length := by
      rw [List.length_take, List.length_drop]
      omega
    have hedit := Spliced.edit hkept hremoved hspliced
    rwa [← htext] at hedit

/-- **Edits in order are carried out as they say.** -/
theorem spliced_splice {edits : List Edit} {text : List Char} (h : InOrder text.length 0 edits) :
    Spliced 0 edits text (splice edits text) :=
  spliced_spliceFrom (by rwa [Nat.zero_add])

/-- Edits behind a stretch of a text leave the stretch as it is. -/
theorem spliceFrom_behind {position : Nat} {edits : List Edit} {text : List Char}
    (h : ∀ edit ∈ edits.head?, position + text.length ≤ edit.start ∧ edit.start ≤ edit.stop)
    (rest : List Char) : spliceFrom position edits (text ++ rest) =
      text ++ spliceFrom (position + text.length) edits rest := by
  cases edits with
  | nil => rfl
  | cons edit edits =>
    obtain ⟨hstart, hstop⟩ := h edit rfl
    have htake : (text ++ rest).take (edit.start - position) =
        text ++ rest.take (edit.start - (position + text.length)) := by
      rw [List.take_append, List.take_of_length_le (by omega)]
      congr 2
      omega
    have hdrop : (text ++ rest).drop (edit.stop - position) =
        rest.drop (edit.stop - (position + text.length)) := by
      rw [List.drop_append, List.drop_of_length_le (by omega), List.nil_append]
      congr 1
      omega
    simp only [spliceFrom, htake, hdrop, List.append_assoc]

/-- Edits of a text and of what stands behind it are carried out apart. -/
theorem spliceFrom_append {position length : Nat} {first second : List Edit} {text : List Char}
    (h : InOrder (position + text.length) position first)
    (h' : InOrder length (position + text.length) second) (rest : List Char) :
    spliceFrom position (first ++ second) (text ++ rest) =
      spliceFrom position first text ++ spliceFrom (position + text.length) second rest := by
  induction first generalizing position text with
  | nil =>
    refine spliceFrom_behind (fun edit hedit => ?_) rest
    cases second with
    | nil => cases hedit
    | cons edit' second =>
      obtain rfl := Option.some.inj hedit
      exact ⟨h'.1, h'.2.1⟩
  | cons edit first ih =>
    obtain ⟨hstart, hstop, hrest⟩ := h
    have hle := hrest.le_length
    have hlength : edit.stop + (text.drop (edit.stop - position)).length =
        position + text.length := by
      rw [List.length_drop]
      omega
    have hmore : spliceFrom edit.stop (first ++ second)
        (text.drop (edit.stop - position) ++ rest) =
          spliceFrom edit.stop first (text.drop (edit.stop - position)) ++
            spliceFrom (edit.stop + (text.drop (edit.stop - position)).length) second rest :=
      ih (hlength ▸ hrest) (hlength ▸ h')
    rw [hlength] at hmore
    simp only [List.cons_append, spliceFrom, List.append_assoc]
    rw [List.take_append_of_le_length (by omega), List.drop_append_of_le_length (by omega), hmore]

/-- Without edits a text stays as it is. -/
theorem splice_nil (text : List Char) : splice [] text = text :=
  rfl

end ModuleBundler.Text
