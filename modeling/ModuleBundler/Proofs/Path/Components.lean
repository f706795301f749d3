import ModuleBundler.Path.Basic
import Mathlib.Data.List.Basic

/-!
# The components of a text

The components of a path depend on the pieces of its text only, and a text that is written from
components has these components again: the pieces of pieces joined by slashes are the pieces.

## Main definitions

* `Path.front` — the components that pieces mean, the first piece being in front.
* `Component.Plain` — components that are written and read as one piece: steps to the parent, and
  names that a path can have.

## Main results

* `Path.components_eq_front` — the components of a path are those of the pieces of its text.
* `Path.components_ofComponents` — plain components behind the root, or plain components alone, are
  read back from the path that is written from them.
* `Path.plain_of_mem_components` — every component but the root and a point in front is plain.
-/

namespace ModuleBundler

namespace Path

/-! ### Pieces -/

theorem pieces_ne_nil (cs : List Char) : pieces cs ≠ [] := by
  cases cs with
  | nil => simp [pieces]
  | cons c cs =>
    rw [pieces]
    split_ifs
    · simp
    · split <;> simp

theorem pieces_slash (cs : List Char) : pieces ('/' :: cs) = [] :: pieces cs := by
  simp [pieces]

theorem pieces_cons {c : Char} (hc : c ≠ '/') {cs piece : List Char} {rest : List (List Char)}
    (h : pieces cs = piece :: rest) : pieces (c :: cs) = (c :: piece) :: rest := by
  simp [pieces, hc, h]

theorem slash_notMem_of_mem_pieces {cs piece : List Char} (h : piece ∈ pieces cs) :
    '/' ∉ piece := by
  induction cs generalizing piece with
  | nil => simp_all [pieces]
  | cons c cs ih =>
    by_cases hc : c = '/'
    · rw [hc, pieces_slash, List.mem_cons] at h
      rcases h with rfl | h
      · exact List.not_mem_nil
      · exact ih h
    · obtain ⟨first, rest, hcs⟩ := List.exists_cons_of_ne_nil (pieces_ne_nil cs)
      rw [pieces_cons hc hcs, List.mem_cons] at h
      rcases h with rfl | h
      · have hfirst : '/' ∉ first := ih (hcs ▸ List.mem_cons_self)
        simp [Ne.symm hc, hfirst]
      · exact ih (hcs ▸ List.mem_cons_of_mem _ h)

theorem pieces_of_notMem {cs : List Char} (h : '/' ∉ cs) : pieces cs = [cs] := by
  induction cs with
  | nil => rfl
  | cons c cs ih =>
    obtain ⟨hc, hcs⟩ := not_or.mp (List.mem_cons.not.mp h)
    exact pieces_cons (Ne.symm hc) (ih hcs)

/-- A slash separates the pieces before it from those behind it. -/
theorem pieces_append (first second : List Char) :
    pieces (first ++ '/' :: second) = pieces first ++ pieces second := by
  induction first with
  | nil => exact pieces_slash second
  | cons c cs ih =>
    by_cases hc : c = '/'
    · rw [hc, pieces_slash, List.cons_append, pieces_slash, ih, List.cons_append]
    · obtain ⟨piece, rest, hcs⟩ := List.exists_cons_of_ne_nil (pieces_ne_nil cs)
      rw [hcs, List.cons_append] at ih
      rw [List.cons_append, pieces_cons hc ih, pieces_cons hc hcs, List.cons_append]

theorem pieces_append_slash {piece : List Char} (h : '/' ∉ piece) (cs : List Char) :
    pieces (piece ++ '/' :: cs) = piece :: pieces cs := by
  rw [pieces_append, pieces_of_notMem h, List.singleton_append]

/-- Pieces without slashes are read back from the text that joins them by slashes. -/
theorem pieces_intercalate {ps : List (List Char)} (hne : ps ≠ []) (h : ∀ piece ∈ ps, '/' ∉ piece) :
    pieces (List.intercalate ['/'] ps) = ps := by
  induction ps with
  | nil => exact absurd rfl hne
  | cons first rest ih =>
    have hfirst : '/' ∉ first := h first List.mem_cons_self
    cases rest with
    | nil => rw [List.intercalate_singleton, pieces_of_notMem hfirst]
    | cons second rest =>
      rw [List.intercalate_cons_cons, List.append_assoc, List.singleton_append,
        pieces_append_slash hfirst,
        ih (List.cons_ne_nil _ _) fun piece hp => h piece (List.mem_cons_of_mem _ hp)]

/-! ### Components of pieces -/

/-- The components that the pieces of a text mean, the first piece being in front. -/
def front : List (List Char) → List Component
  | [] :: piece :: rest => .root :: (piece :: rest).filterMap component?
  | ['.'] :: rest => .current :: rest.filterMap component?
  | ps => ps.filterMap component?

theorem map_fst_locate (offset : Nat) (ps : List (List Char)) :
    (locate offset ps).map Prod.fst = ps.filterMap component? := by
  induction ps generalizing offset with
  | nil => rfl
  | cons piece rest ih =>
    cases h : component? piece <;> simp [locate, h, ih]

theorem front_of_ne {piece : List Char} (hnil : piece ≠ []) (hpoint : piece ≠ ['.'])
    (rest : List (List Char)) :
    front (piece :: rest) = (piece :: rest).filterMap component? := by
  unfold front
  split <;> simp_all

/-- The components of a path are those of the pieces of its text. -/
theorem components_eq_front (path : Path) : path.components = front (pieces path.chars) := by
  obtain ⟨chars⟩ := path
  unfold components located
  dsimp only
  split
  next cs =>
    obtain ⟨piece, rest, hcs⟩ := List.exists_cons_of_ne_nil (pieces_ne_nil cs)
    simp [pieces_slash, map_fst_locate, hcs, front]
  next => rfl
  next cs =>
    have hcs : pieces ('.' :: '/' :: cs) = ['.'] :: pieces cs :=
      pieces_cons (by decide) (pieces_slash cs)
    simp [hcs, map_fst_locate, front]
  next hslash hpoint hstep =>
    rw [map_fst_locate]
    cases chars with
    | nil => rfl
    | cons c cs =>
      have hc : c ≠ '/' := fun hc => hslash cs (hc ▸ rfl)
      obtain ⟨piece, rest, hcs⟩ := List.exists_cons_of_ne_nil (pieces_ne_nil cs)
      rw [pieces_cons hc hcs, front_of_ne (List.cons_ne_nil _ _)]
      -- a first piece that is a point leaves nothing, or a slash, behind the point
      rintro hfirst
      obtain ⟨rfl, rfl⟩ := List.cons.inj hfirst
      cases cs with
      | nil => exact hpoint rfl
      | cons d ds =>
        by_cases hd : d = '/'
        · exact hstep ds (hd ▸ rfl)
        · obtain ⟨other, others, hds⟩ := List.exists_cons_of_ne_nil (pieces_ne_nil ds)
          rw [pieces_cons hd hds] at hcs
          exact List.cons_ne_nil _ _ (List.cons.inj hcs).1

/-! ### Plain components -/

end Path

/-- A component that is written and read as one piece: a step to the parent, or a name that is not
empty, has no slash and is not made of one or two points. -/
inductive Component.Plain : Component → Prop
  | parent : Plain .parent
  | name {chars : List Char} (hnil : chars ≠ []) (hslash : '/' ∉ chars) (hpoint : chars ≠ ['.'])
      (hpoints : chars ≠ ['.', '.']) : Plain (.name chars)

namespace Component.Plain

variable {component : Component}

theorem ne_root (h : component.Plain) : component ≠ .root := by
  cases h <;> simp

theorem slash_notMem (h : component.Plain) : '/' ∉ Path.textOf component := by
  cases h with
  | parent => decide
  | name _ hslash => exact hslash

theorem textOf_ne_nil (h : component.Plain) : Path.textOf component ≠ [] := by
  cases h with
  | parent => decide
  | name hnil => exact hnil

theorem textOf_ne_point (h : component.Plain) : Path.textOf component ≠ ['.'] := by
  cases h with
  | parent => decide
  | name _ _ hpoint => exact hpoint

theorem component?_textOf (h : component.Plain) :
    Path.component? (Path.textOf component) = some component := by
  cases h with
  | parent => rfl
  | name =>
    simp only [Path.textOf]
    unfold Path.component?
    split <;> simp_all

end Component.Plain

namespace Path

theorem plain_of_component? {piece : List Char} {component : Component} (hslash : '/' ∉ piece)
    (h : component? piece = some component) : component.Plain := by
  unfold component? at h
  split at h
  · cases h
  · cases h
  · cases h
    exact .parent
  · cases h
    exact .name ‹_› hslash ‹_› ‹_›

theorem plain_of_mem_filterMap {ps : List (List Char)} (hslash : ∀ piece ∈ ps, '/' ∉ piece)
    {component : Component} (h : component ∈ ps.filterMap component?) : component.Plain := by
  obtain ⟨piece, hp, hc⟩ := List.mem_filterMap.mp h
  exact plain_of_component? (hslash piece hp) hc

theorem filterMap_map_textOf {components : List Component} (h : ∀ c ∈ components, c.Plain) :
    (components.map textOf).filterMap component? = components := by
  induction components with
  | nil => rfl
  | cons c cs ih =>
    rw [List.map_cons, List.filterMap_cons_some (h c List.mem_cons_self).component?_textOf,
      ih fun d hd => h d (List.mem_cons_of_mem _ hd)]

/-- The components of a path are plain, but for the root or a point in front. -/
theorem components_cases (path : Path) :
    (∃ rest, path.components = .root :: rest ∧ ∀ c ∈ rest, c.Plain) ∨
      (∃ rest, path.components = .current :: rest ∧ ∀ c ∈ rest, c.Plain) ∨
      ∀ c ∈ path.components, c.Plain := by
  have hslash : ∀ piece ∈ pieces path.chars, '/' ∉ piece := fun _ => slash_notMem_of_mem_pieces
  rw [components_eq_front]
  unfold front
  split
  next piece rest hps =>
    rw [hps] at hslash
    refine .inl ⟨_, rfl, fun c hc => plain_of_mem_filterMap (fun p hp => ?_) hc⟩
    exact hslash p (List.mem_cons_of_mem _ hp)
  next rest hps =>
    rw [hps] at hslash
    refine .inr (.inl ⟨_, rfl, fun c hc => plain_of_mem_filterMap (fun p hp => ?_) hc⟩)
    exact hslash p (List.mem_cons_of_mem _ hp)
  next => exact .inr (.inr fun c hc => plain_of_mem_filterMap hslash hc)

/-- The text of components is that of their texts between slashes, but for the root alone. -/
theorem ofComponents_of_ne {components : List Component} (h : components ≠ [.root]) :
    ofComponents components = ⟨List.intercalate ['/'] (components.map textOf)⟩ := by
  unfold ofComponents
  split
  next => exact absurd rfl h
  next => rfl

/-- The pieces of a path that is written from components are their texts. -/
theorem pieces_ofComponents {components : List Component} (hne : components ≠ [])
    (hroot : components ≠ [.root]) (h : ∀ c ∈ components, '/' ∉ textOf c) :
    pieces (ofComponents components).chars = components.map textOf := by
  rw [ofComponents_of_ne hroot]
  exact pieces_intercalate (by simpa using hne) (by simpa using h)

theorem ne_root_of_plain {components : List Component} (h : ∀ c ∈ components, c.Plain) :
    components ≠ [.root] := by
  rintro rfl
  exact (h .root List.mem_cons_self).ne_root rfl

theorem slash_notMem_root_cons {components : List Component} (h : ∀ c ∈ components, c.Plain) :
    ∀ c ∈ Component.root :: components, '/' ∉ textOf c := by
  intro c hc
  rcases List.mem_cons.mp hc with rfl | hc
  · exact List.not_mem_nil
  · exact (h c hc).slash_notMem

/-- Plain components are read back from the path that is written from them. -/
theorem components_ofComponents {components : List Component} (h : ∀ c ∈ components, c.Plain) :
    (ofComponents components).components = components := by
  cases components with
  | nil => rfl
  | cons c cs =>
    have hc : c.Plain := h c List.mem_cons_self
    rw [components_eq_front, pieces_ofComponents (List.cons_ne_nil _ _) (ne_root_of_plain h)
      fun d hd => (h d hd).slash_notMem, List.map_cons,
      front_of_ne hc.textOf_ne_nil hc.textOf_ne_point, ← List.map_cons, filterMap_map_textOf h]

/-- The root and plain components behind it are read back from the path that is written from
them. -/
theorem components_ofComponents_root {components : List Component}
    (h : ∀ c ∈ components, c.Plain) :
    (ofComponents (.root :: components)).components = .root :: components := by
  cases components with
  | nil => rfl
  | cons c cs =>
    rw [components_eq_front, pieces_ofComponents (List.cons_ne_nil _ _) (by simp)
      (slash_notMem_root_cons h), List.map_cons, List.map_cons]
    change Component.root :: ((c :: cs).map textOf).filterMap component? = _
    rw [filterMap_map_textOf h]

/-- The pieces of a path that is written from the root and names are nothing, for the root, and the
names. -/
theorem pieces_ofComponents_root {names : List (List Char)} (hne : names ≠ [])
    (h : ∀ name ∈ names, (Component.name name).Plain) :
    pieces (ofComponents (.root :: names.map .name)).chars = [] :: names := by
  have hplain : ∀ c ∈ names.map Component.name, c.Plain := by simpa using h
  rw [pieces_ofComponents (List.cons_ne_nil _ _) (by simpa using hne)
    (slash_notMem_root_cons hplain), List.map_cons, List.map_map]
  exact congrArg (List.cons []) (List.map_id names)

theorem isAbsolute_iff_head?_components (path : Path) :
    path.isAbsolute = true ↔ path.components.head? = some .root := by
  obtain ⟨chars⟩ := path
  unfold isAbsolute components located
  dsimp only
  split
  next => simp
  next => simp
  next => simp
  next hslash _ _ =>
    have hhead : chars.head? ≠ some '/' := by
      cases chars with
      | nil => simp
      | cons c cs => exact fun h => hslash cs (by simp_all)
    have hplain : ∀ c ∈ (pieces chars).filterMap component?, c.Plain := fun c hc =>
      plain_of_mem_filterMap (fun _ => slash_notMem_of_mem_pieces) hc
    rw [map_fst_locate]
    simp only [hhead, decide_false, Bool.false_eq_true, false_iff]
    intro h
    exact (hplain _ (List.mem_of_mem_head? h)).ne_root rfl

/-- The components of an absolute path are the root and plain components behind it. -/
theorem components_of_isAbsolute {path : Path} (h : path.isAbsolute) :
    ∃ rest, path.components = .root :: rest ∧ ∀ c ∈ rest, c.Plain := by
  rw [isAbsolute_iff_head?_components] at h
  rcases path.components_cases with hroot | ⟨rest, hrest, -⟩ | hc
  · exact hroot
  · simp [hrest] at h
  · exact absurd rfl (hc _ (List.mem_of_mem_head? h)).ne_root

/-- The components of another path are plain, but for a point in front. -/
theorem components_of_not_isAbsolute {path : Path} (h : path.isAbsolute = false) :
    (∃ rest, path.components = .current :: rest ∧ ∀ c ∈ rest, c.Plain) ∨
      ∀ c ∈ path.components, c.Plain := by
  rw [Bool.eq_false_iff, ne_eq, isAbsolute_iff_head?_components] at h
  rcases path.components_cases with ⟨rest, hrest, -⟩ | hcurrent
  · simp [hrest] at h
  · exact hcurrent

end Path

end ModuleBundler
