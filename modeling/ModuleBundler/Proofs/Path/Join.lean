import ModuleBundler.Proofs.Path.Resolution

/-!
# Canonical form across a join

A relative path behind another path adds its components behind those of the other path, whether or
not a slash ends the other one; only the point in front gets lost. Reading the components of a
joined path onto a stack is therefore reading those of the two paths, one behind the other, and the
first path may be brought into canonical form before or after the join.

A path is seen from a working directory by *completing* its text: its components are put behind the
directory, one after the other, and the slash that ends it is kept. Two slashes in front stay two
slashes. None of this is left in the canonical form.

## Main definitions

* `Path.steps` — the components of a path without the root or the point in front.
* `Path.complete?` — the text that a path means in a working directory.
* `Path.ResolvesFrom` — how paths and specifiers are resolved, seen from a working directory.

## Main results

* `Path.located_join`, `Path.components_join` — the components of a joined path.
* `Path.normalize_join_normalize` — canonical form commutes with a join.
* `Path.absolute?_eq_complete?` — the absolute form is the canonical form of the completed text.
* `Path.resolvesFrom` — resolution from an absolute working directory.
-/

namespace ModuleBundler.Path

/-! ### Components behind a slash -/

theorem locate_append (offset : Nat) (ps qs : List (List Char)) :
    locate offset (ps ++ qs) =
      locate offset ps ++ locate (offset + (ps.flatMap (· ++ ['/'])).length) qs := by
  induction ps generalizing offset with
  | nil => rfl
  | cons piece rest ih =>
    have hstop : offset + piece.length + 1 + (rest.flatMap (· ++ ['/'])).length =
        offset + ((piece :: rest).flatMap (· ++ ['/'])).length := by
      rw [List.flatMap_cons, List.length_append, List.length_append, List.length_singleton]
      omega
    simp only [List.cons_append, locate, ih, hstop, List.append_assoc]

/-- A slash behind each piece of a text gives the text with a slash behind it. -/
theorem flatMap_pieces (cs : List Char) : (pieces cs).flatMap (· ++ ['/']) = cs ++ ['/'] := by
  induction cs with
  | nil => rfl
  | cons c cs ih =>
    by_cases hc : c = '/'
    · rw [hc, pieces_slash, List.flatMap_cons, ih]
      rfl
    · obtain ⟨piece, rest, hcs⟩ := List.exists_cons_of_ne_nil (pieces_ne_nil cs)
      rw [hcs, List.flatMap_cons] at ih
      rw [pieces_cons hc hcs, List.flatMap_cons, List.cons_append, List.cons_append, ih,
        List.cons_append]

/-- What stands behind a slash is located behind that slash. -/
theorem locate_pieces_append (offset : Nat) (first second : List Char) :
    locate offset (pieces (first ++ '/' :: second)) =
      locate offset (pieces first) ++ locate (offset + first.length + 1) (pieces second) := by
  rw [pieces_append, locate_append, flatMap_pieces, List.length_append, List.length_singleton,
    Nat.add_assoc]

/-- A text without a slash or a point of its own in front has the components of its pieces. -/
theorem located_eq_locate {cs : List Char} (hslash : ∀ rest, cs ≠ '/' :: rest)
    (hpoint : cs ≠ ['.']) (hstep : ∀ rest, cs ≠ '.' :: '/' :: rest) :
    located ⟨cs⟩ = locate 0 (pieces cs) := by
  unfold located
  dsimp only
  split
  next rest => exact absurd rfl (hslash rest)
  next => exact absurd rfl hpoint
  next rest => exact absurd rfl (hstep rest)
  next => rfl

theorem located_append_slash {first : List Char} (hne : first ≠ []) (second : List Char) :
    located ⟨first ++ '/' :: second⟩ =
      located ⟨first⟩ ++ locate (first.length + 1) (pieces second) := by
  obtain ⟨c, cs, rfl⟩ := List.exists_cons_of_ne_nil hne
  by_cases hslash : c = '/'
  · subst hslash
    change (Component.root, 1) :: locate 1 (pieces (cs ++ '/' :: second)) = _
    rw [locate_pieces_append, Nat.add_comm 1, List.length_cons]
    rfl
  cases cs with
  | nil =>
    by_cases hpoint : c = '.'
    · rw [hpoint]
      rfl
    · rw [located_eq_locate (by simp [hslash]) (by simp [hpoint]) (by simp [hpoint]),
        located_eq_locate (by simp [hslash]) (by simp [hpoint]) (by simp [hpoint]),
        locate_pieces_append, Nat.zero_add]
  | cons d ds =>
    by_cases hstep : c = '.' ∧ d = '/'
    · obtain ⟨rfl, rfl⟩ := hstep
      change (Component.current, 1) :: locate 2 (pieces (ds ++ '/' :: second)) = _
      rw [locate_pieces_append, Nat.add_comm 2, List.length_cons, List.length_cons]
      rfl
    · rw [located_eq_locate (by simp [hslash]) (by simp) (by simpa using hstep),
        located_eq_locate (by simp [hslash]) (by simp) (by simpa using hstep),
        locate_pieces_append, Nat.zero_add]

/-! ### Components of a join -/

/-- The components of a path without the root or the point in front. -/
def steps (path : Path) : List Component :=
  (pieces path.chars).filterMap component?

theorem plain_of_mem_steps {path : Path} {component : Component} (h : component ∈ path.steps) :
    component.Plain :=
  plain_of_mem_filterMap (fun _ => slash_notMem_of_mem_pieces) h

/-- The components of a path are its steps, behind the root, behind a point or alone. -/
theorem components_eq_steps (path : Path) :
    path.components = .root :: path.steps ∨ path.components = .current :: path.steps ∨
      path.components = path.steps := by
  rw [components_eq_front, steps]
  generalize pieces path.chars = ps
  unfold front
  split
  next => exact .inl rfl
  next => exact .inr (.inl rfl)
  next => exact .inr (.inr rfl)

/-- The components of an absolute path are the root and its steps. -/
theorem components_eq_root_cons {path : Path} (h : path.isAbsolute) :
    path.components = .root :: path.steps := by
  rw [isAbsolute_iff_head?_components] at h
  rcases path.components_eq_steps with hsteps | hsteps | hsteps
  · exact hsteps
  · rw [hsteps] at h
    cases h
  · rw [hsteps] at h
    exact absurd rfl (plain_of_mem_steps (List.mem_of_mem_head? h)).ne_root

/-- A relative path behind another path is located behind the slash that separates them. -/
theorem located_join {first second : Path} (hne : first.chars ≠ [])
    (h : second.isAbsolute = false) :
    (first.join second).located = first.located ++
      locate ((first.join second).chars.length - second.chars.length) (pieces second.chars) := by
  obtain ⟨chars⟩ := first
  by_cases hlast : chars.getLast? = some '/'
  · -- the slash is there: the text before it is the one that the rest is put behind
    obtain ⟨before, rfl⟩ := List.getLast?_eq_some_iff.mp hlast
    have hjoin : (⟨before ++ ['/']⟩ : Path).join second = ⟨before ++ '/' :: second.chars⟩ := by
      simp [join, h]
    have hoffset : (before ++ '/' :: second.chars).length - second.chars.length =
        before.length + 1 := by
      rw [List.length_append, List.length_cons]
      omega
    rw [hjoin, hoffset]
    cases before with
    | nil => rfl
    | cons c cs =>
      rw [located_append_slash (List.cons_ne_nil c cs), located_append_slash
        (List.cons_ne_nil c cs)]
      exact congrArg (· ++ _) (List.append_nil _).symm
  · have hjoin : (⟨chars⟩ : Path).join second = ⟨chars ++ '/' :: second.chars⟩ := by
      simp [join, h, hlast, show chars ≠ [] from hne]
    have hoffset : (chars ++ '/' :: second.chars).length - second.chars.length =
        chars.length + 1 := by
      rw [List.length_append, List.length_cons]
      omega
    rw [hjoin, hoffset, located_append_slash hne]

/-- A relative path behind another path adds its steps. -/
theorem components_join {first second : Path} (hne : first.chars ≠ [])
    (h : second.isAbsolute = false) :
    (first.join second).components = first.components ++ second.steps := by
  rw [components, located_join hne h, List.map_append, map_fst_locate]
  rfl

/-- A path behind nothing is that path. -/
theorem join_of_nil {first : Path} (h : first.chars = []) (second : Path) :
    first.join second = second := by
  simp [join, h]

theorem join_of_isAbsolute (first : Path) {second : Path} (h : second.isAbsolute) :
    first.join second = second :=
  if_pos h

/-! ### Canonical form of a join -/

/-- A relative path is read as its steps. -/
theorem foldl_components {path : Path} (h : path.isAbsolute = false) (stack : List Component) :
    path.components.foldl pushComponent stack = path.steps.foldl pushComponent stack := by
  rcases path.components_eq_steps with hsteps | hsteps | hsteps
  · have habsolute : path.isAbsolute := by
      rw [isAbsolute_iff_head?_components, hsteps]
      rfl
    exact absurd habsolute (Bool.eq_false_iff.mp h)
  · rw [hsteps, List.foldl_cons, pushComponent_current]
  · rw [hsteps]

/-- A path that a relative path is put behind is read first, and the relative path behind it. -/
theorem foldl_components_join (first : Path) {second : Path} (h : second.isAbsolute = false)
    (stack : List Component) :
    (first.join second).components.foldl pushComponent stack =
      second.components.foldl pushComponent (first.components.foldl pushComponent stack) := by
  by_cases hne : first.chars = []
  · obtain ⟨chars⟩ := first
    obtain rfl : chars = [] := hne
    rw [join_of_nil rfl]
    rfl
  · rw [components_join hne h, List.foldl_append, foldl_components h]

theorem normalize_join (first : Path) {second : Path} (h : second.isAbsolute = false) :
    (first.join second).normalize = ofComponents
      (second.components.foldl pushComponent
        (first.components.foldl pushComponent [])).reverse := by
  rw [normalize, canonical, foldl_components_join first h []]

/-- **Canonical form commutes with a join.** Steps to the parent in the second path undo the same
names, whether those of the first path have been undone before or not. -/
theorem normalize_join_normalize (first second : Path) :
    (first.normalize.join second).normalize = (first.join second).normalize := by
  cases h : second.isAbsolute with
  | true => rw [join_of_isAbsolute _ h, join_of_isAbsolute _ h]
  | false =>
    have hfirst : first.normalize.components.foldl pushComponent [] =
        first.components.foldl pushComponent [] := by
      rw [components_normalize, canonical, first.settled_components.foldl_reverse]
    rw [normalize_join _ h, normalize_join _ h, hfirst]

/-- The canonical form of a join depends on the components of the second path only. -/
theorem normalize_join_congr (first : Path) {second other : Path}
    (h : second.components = other.components) :
    (first.join second).normalize = (first.join other).normalize := by
  have habsolute : second.isAbsolute = other.isAbsolute := by
    rw [Bool.eq_iff_iff, isAbsolute_iff_head?_components, isAbsolute_iff_head?_components, h]
  cases hsecond : second.isAbsolute with
  | true =>
    rw [join_of_isAbsolute _ hsecond, join_of_isAbsolute _ (habsolute ▸ hsecond), normalize,
      normalize, h]
  | false => rw [normalize_join _ hsecond, normalize_join _ (habsolute ▸ hsecond), h]

/-- The absolute form of a path is the canonical form of the path behind the working directory. -/
theorem absolute?_eq_normalize_join (directory : Path) {path : Path} (hne : path.chars ≠ []) :
    absolute? directory path = some (directory.join path).normalize := by
  rw [absolute?, if_neg hne]
  split_ifs with habsolute
  · rw [join_of_isAbsolute _ habsolute]
  · rw [normalize_join _ (Bool.eq_false_iff.mpr habsolute), canonical, List.foldl_append]

/-! ### Completion in a working directory -/

/-- What the steps of a path are put behind: two slashes if it starts with two slashes and no more,
the root for another absolute path, and the working directory for a relative one. -/
def base (directory path : Path) : Path :=
  match path.chars with
  | '/' :: '/' :: '/' :: _ => root
  | '/' :: '/' :: _ => ⟨['/', '/']⟩
  | '/' :: _ => root
  | _ => directory

/-- A path with a component behind it. -/
def extend (path : Path) (component : Component) : Path :=
  path.join ⟨textOf component⟩

/-- The text that a path means in a working directory: its steps behind its base, and the slash that
ends it. The empty path means nothing. -/
def complete? (directory path : Path) : Option Path :=
  if path.chars = [] then none
  else
    let extended := path.steps.foldl extend (base directory path)
    if path.chars.getLast? = some '/' then some (extended.join ⟨[]⟩) else some extended

/-- The text of a plain component is a relative path. -/
theorem isAbsolute_textOf {component : Component} (h : component.Plain) :
    (⟨textOf component⟩ : Path).isAbsolute = false := by
  rw [Bool.eq_false_iff, ne_eq, isAbsolute_iff_exists_chars]
  rintro ⟨cs, hcs : textOf component = '/' :: cs⟩
  exact h.slash_notMem (hcs ▸ List.mem_cons_self)

theorem steps_textOf {component : Component} (h : component.Plain) :
    (⟨textOf component⟩ : Path).steps = [component] := by
  rw [steps, pieces_of_notMem h.slash_notMem, List.filterMap_cons_some h.component?_textOf]
  rfl

theorem chars_ne_nil_of_isAbsolute {path : Path} (h : path.isAbsolute) : path.chars ≠ [] := by
  obtain ⟨cs, hcs⟩ := isAbsolute_iff_exists_chars.mp h
  rw [hcs]
  exact List.cons_ne_nil _ _

/-- Plain components that an absolute path is extended by are its last components. -/
theorem components_foldl_extend {path : Path} {components : List Component} (h : path.isAbsolute)
    (hc : ∀ c ∈ components, c.Plain) :
    (components.foldl extend path).isAbsolute ∧
      (components.foldl extend path).components = path.components ++ components := by
  induction components generalizing path with
  | nil => exact ⟨h, (List.append_nil _).symm⟩
  | cons c cs ih =>
    have hplain : c.Plain := hc c List.mem_cons_self
    have hextend : (path.extend c).components = path.components ++ [c] := by
      rw [extend, components_join (chars_ne_nil_of_isAbsolute h) (isAbsolute_textOf hplain),
        steps_textOf hplain]
    have hextended : (path.extend c).isAbsolute := isAbsolute_join h _
    obtain ⟨habsolute, hcomponents⟩ := ih hextended fun d hd => hc d (List.mem_cons_of_mem _ hd)
    exact ⟨habsolute, hcomponents.trans (by rw [hextend, List.append_assoc]; rfl)⟩

/-- An absolute path is completed behind the root. -/
theorem base_of_isAbsolute (directory : Path) {path : Path} (h : path.isAbsolute) :
    (base directory path).isAbsolute ∧ (base directory path).components = [.root] := by
  obtain ⟨cs, hcs⟩ := isAbsolute_iff_exists_chars.mp h
  unfold base
  split
  next => exact ⟨rfl, rfl⟩
  next => exact ⟨rfl, rfl⟩
  next => exact ⟨rfl, rfl⟩
  next hslash => exact absurd hcs (hslash cs)

theorem base_of_not_isAbsolute (directory : Path) {path : Path} (h : path.isAbsolute = false) :
    base directory path = directory := by
  rw [Bool.eq_false_iff, ne_eq, isAbsolute_iff_exists_chars] at h
  unfold base
  split
  next hcs => exact absurd ⟨_, hcs⟩ h
  next hcs => exact absurd ⟨_, hcs⟩ h
  next hcs => exact absurd ⟨_, hcs⟩ h
  next => rfl

theorem isAbsolute_base {directory : Path} (h : directory.isAbsolute) (path : Path) :
    (base directory path).isAbsolute := by
  cases hp : path.isAbsolute with
  | true => exact (base_of_isAbsolute directory hp).1
  | false => rwa [base_of_not_isAbsolute directory hp]

/-- Putting nothing behind an absolute path adds no component. -/
theorem components_join_nil {path : Path} (h : path.isAbsolute) :
    (path.join ⟨[]⟩).components = path.components := by
  rw [components_join (chars_ne_nil_of_isAbsolute h) rfl]
  exact List.append_nil _

/-- The completed path has the components of its base and its own steps. -/
theorem components_complete? {directory path completed : Path} (hd : directory.isAbsolute)
    (h : complete? directory path = some completed) :
    completed.components = (base directory path).components ++ path.steps := by
  obtain ⟨habsolute, hcomponents⟩ := components_foldl_extend (isAbsolute_base hd path)
    fun c hc => plain_of_mem_steps hc
  unfold complete? at h
  split_ifs at h
  · cases h
    rw [components_join_nil habsolute, hcomponents]
  · cases h
    exact hcomponents

/-- **The absolute form is the canonical form of the completed text.** Neither the two slashes in
front nor the slash at the end is left of it. -/
theorem absolute?_eq_complete? {directory : Path} (hd : directory.isAbsolute) (path : Path) :
    absolute? directory path = (complete? directory path).map normalize := by
  by_cases hnil : path.chars = []
  · rw [absolute?, complete?, if_pos hnil, if_pos hnil]
    rfl
  obtain ⟨completed, hcompleted⟩ : ∃ completed, complete? directory path = some completed := by
    unfold complete?
    split_ifs <;> exact ⟨_, rfl⟩
  have hcomponents := components_complete? hd hcompleted
  rw [hcompleted, Option.map_some, absolute?_eq_normalize_join directory hnil]
  congr 1
  cases habsolute : path.isAbsolute with
  | true =>
    rw [join_of_isAbsolute _ habsolute, normalize, normalize, hcomponents,
      (base_of_isAbsolute directory habsolute).2, components_eq_root_cons habsolute]
    rfl
  | false =>
    rw [normalize_join _ habsolute, foldl_components habsolute, normalize, canonical, hcomponents,
      base_of_not_isAbsolute directory habsolute, List.foldl_append]

/-! ### Resolution -/

/-- How paths and specifiers are resolved, seen from a working directory. -/
structure ResolvesFrom (directory : Path) : Prop where
  /-- The first path of a join may be brought into canonical form before. -/
  commutes : ∀ first second : Path,
    (first.normalize.join second).normalize = (first.join second).normalize
  /-- The absolute form of a path that is not empty is that of a join. -/
  absolute : ∀ path : Path, path.chars ≠ [] →
    absolute? directory path = some (directory.join path).normalize
  /-- The absolute form is the canonical form of the completed text. -/
  completes : ∀ path : Path, absolute? directory path = (complete? directory path).map normalize
  /-- The empty path alone has no absolute form. -/
  refuses : ∀ path : Path, absolute? directory path = none ↔ path.chars = []
  /-- The absolute form is absolute and its own absolute form. -/
  settles : ∀ path result : Path, absolute? directory path = some result →
    result.isAbsolute ∧ absolute? directory result = some result
  /-- A specifier refers to an absolute path in canonical form. -/
  resolves : ∀ importer : Path, importer.isAbsolute → importer.IsCanonical → ∀ specifier : String,
    (importer.resolve specifier).isAbsolute ∧ (importer.resolve specifier).IsCanonical
  /-- Specifiers with equal components refer to the same path. -/
  spelled : ∀ (importer : Path) (specifier other : String),
    (ofString specifier).components = (ofString other).components →
      importer.resolve specifier = importer.resolve other

/-- **Resolution commutes with canonical form.** -/
theorem resolvesFrom {directory : Path} (h : directory.isAbsolute) : directory.ResolvesFrom where
  commutes := normalize_join_normalize
  absolute _ := absolute?_eq_normalize_join directory
  completes := absolute?_eq_complete? h
  refuses path := by
    constructor
    · intro hnone
      by_contra hne
      rw [absolute?_eq_normalize_join directory hne] at hnone
      cases hnone
    · exact fun hnil => if_pos hnil
  settles path result hresult := by
    obtain ⟨hcanonical, habsolute⟩ := absolute?_spec h hresult
    refine ⟨habsolute, ?_⟩
    rw [absolute?_eq_normalize_join directory (chars_ne_nil_of_isAbsolute habsolute),
      join_of_isAbsolute _ habsolute, hcanonical]
  resolves importer himporter _ specifier :=
    ⟨isAbsolute_resolve himporter specifier, isCanonical_resolve importer specifier⟩
  spelled importer _ _ hsame := normalize_join_congr importer.directory hsame

theorem resolvesFrom_work :
    (ofString "/work/app").isAbsolute ∧ (ofString "/work/app").ResolvesFrom ∧
      complete? (ofString "/work/app") (ofString "./lib/../../shared/") =
        some (ofString "/work/app/lib/../../shared/") ∧
      absolute? (ofString "/work/app") (ofString "./lib/../../shared/") =
        some (ofString "/work/shared") :=
  ⟨by decide, resolvesFrom (by decide), by decide, by decide⟩

end ModuleBundler.Path
