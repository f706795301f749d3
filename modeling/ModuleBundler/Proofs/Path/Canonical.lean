import ModuleBundler.Path.Canonical
import ModuleBundler.Proofs.Path.Components

/-!
# Canonical paths are fixed

Reading components onto a stack leaves a *settled* stack: names above steps to the parent, or names
above the root. A settled stack is read back as it is, and the path that is written from it has
these components. Hence bringing a path into canonical form twice is the same as doing it once, and
two canonical paths with equal components are the same text.

## Main definitions

* `Path.Settled` — stacks of canonical components, the last one on top.
* `Path.IsCanonical` — paths that are in canonical form.
* `Path.Distinct` — paths of which no two name the same file.

## Main results

* `Path.settled_foldl` — every stack that components are read onto is settled.
* `Path.isCanonical_normalize` — the canonical form is canonical.
* `Path.absolute?_spec` — the absolute form of a path is canonical and absolute.
* `Path.IsCanonical.eq_of_same` — canonical paths that name the same file are equal.
-/

namespace ModuleBundler.Path

/-! ### Settled stacks -/

/-- A stack of canonical components, the last one on top: names above the root, or names above steps
to the parent. -/
inductive Settled : List Component → Prop
  | nil : Settled []
  | root : Settled [.root]
  | parent {stack : List Component} (h : ∀ c ∈ stack, c = .parent) : Settled (.parent :: stack)
  | name {chars : List Char} {stack : List Component} (hname : (Component.name chars).Plain)
      (h : Settled stack) : Settled (.name chars :: stack)

theorem pushComponent_current (stack : List Component) :
    pushComponent stack .current = stack := by
  cases stack <;> rfl

/-- Reading a plain component keeps a stack settled. -/
theorem Settled.pushComponent {stack : List Component} {component : Component}
    (h : Settled stack) (hc : component.Plain) : Settled (pushComponent stack component) := by
  cases hc with
  | name hnil hslash hpoint hpoints =>
    exact .name (.name hnil hslash hpoint hpoints) h
  | parent =>
    cases h with
    | nil => exact .parent (by simp)
    | root => exact .root
    | parent hp => exact .parent (by simpa using hp)
    | name _ h => exact h

/-- Every stack that plain components are read onto is settled. -/
theorem settled_foldl {stack components : List Component} (h : Settled stack)
    (hc : ∀ c ∈ components, c.Plain) : Settled (components.foldl Path.pushComponent stack) := by
  induction components generalizing stack with
  | nil => exact h
  | cons c cs ih =>
    exact ih (h.pushComponent (hc c List.mem_cons_self)) fun d hd =>
      hc d (List.mem_cons_of_mem _ hd)

/-- The root stays below plain components. -/
theorem getLast?_foldl_root {stack components : List Component}
    (h : stack.getLast? = some .root) (hc : ∀ c ∈ components, c.Plain) :
    (components.foldl Path.pushComponent stack).getLast? = some .root := by
  induction components generalizing stack with
  | nil => exact h
  | cons c cs ih =>
    refine ih ?_ fun d hd => hc d (List.mem_cons_of_mem _ hd)
    obtain ⟨below, rfl⟩ := List.getLast?_eq_some_iff.mp h
    cases hc c List.mem_cons_self with
    | name => simp [Path.pushComponent, List.getLast?_cons]
    | parent =>
      cases below with
      | nil => rfl
      | cons d below => cases d <;> simp_all [Path.pushComponent, List.getLast?_cons]

/-- The components of a path are read onto a settled stack. -/
theorem settled_components (path : Path) :
    Settled (path.components.foldl Path.pushComponent []) := by
  rcases path.components_cases with ⟨rest, h, hc⟩ | ⟨rest, h, hc⟩ | hc
  · rw [h]
    change Settled (rest.foldl Path.pushComponent [.root])
    exact settled_foldl .root hc
  · rw [h]
    change Settled (rest.foldl Path.pushComponent [])
    exact settled_foldl .nil hc
  · exact settled_foldl .nil hc

/-- A settled stack is read back as it is. -/
theorem Settled.foldl_reverse {stack : List Component} (h : Settled stack) :
    stack.reverse.foldl Path.pushComponent [] = stack := by
  induction h with
  | nil => rfl
  | root => rfl
  | @parent stack hp =>
    -- below a step to the parent there are such steps only, so nothing is undone
    have ih : stack.reverse.foldl Path.pushComponent [] = stack := by
      induction stack with
      | nil => rfl
      | cons c stack ih =>
        obtain rfl : c = .parent := hp c List.mem_cons_self
        have hstack := fun d hd => hp d (List.mem_cons_of_mem _ hd)
        rw [List.reverse_cons, List.foldl_append, ih hstack]
        cases stack with
        | nil => rfl
        | cons d stack => rw [hstack d List.mem_cons_self]; rfl
    rw [List.reverse_cons, List.foldl_append, ih]
    cases stack with
    | nil => rfl
    | cons d stack => rw [hp d List.mem_cons_self]; rfl
  | name _ _ ih => rw [List.reverse_cons, List.foldl_append, ih]; rfl

theorem Settled.plain_or_root {stack : List Component} (h : Settled stack) :
    (∀ c ∈ stack, c.Plain) ∨ ∃ below, stack = below ++ [.root] ∧ ∀ c ∈ below, c.Plain := by
  induction h with
  | nil => exact .inl (by simp)
  | root => exact .inr ⟨[], rfl, by simp⟩
  | parent hp =>
    refine .inl fun c hc => ?_
    rcases List.mem_cons.mp hc with rfl | hc
    · exact .parent
    · exact hp c hc ▸ .parent
  | name hname _ ih =>
    rcases ih with ih | ⟨below, rfl, ih⟩
    · exact .inl (List.forall_mem_cons.mpr ⟨hname, ih⟩)
    · exact .inr ⟨_ :: below, rfl, List.forall_mem_cons.mpr ⟨hname, ih⟩⟩

/-- The path that is written from a settled stack has its components. -/
theorem Settled.components_ofComponents {stack : List Component} (h : Settled stack) :
    (ofComponents stack.reverse).components = stack.reverse := by
  rcases h.plain_or_root with hc | ⟨below, rfl, hc⟩
  · exact Path.components_ofComponents (by simpa using hc)
  · rw [List.reverse_append]
    exact components_ofComponents_root (by simpa using hc)

/-- Above the root there are names only. -/
theorem Settled.exists_names {stack above : List Component} (h : Settled stack)
    (habove : stack = above ++ [.root]) :
    ∃ names : List (List Char), above = names.map .name ∧
      ∀ name ∈ names, (Component.name name).Plain := by
  induction above generalizing stack with
  | nil => exact ⟨[], rfl, by simp⟩
  | cons c above ih =>
    cases h with
    | nil => cases habove
    | root => simp at habove
    | parent hp =>
      obtain ⟨-, rfl⟩ := List.cons.inj habove
      exact absurd (hp .root (by simp)) (by simp)
    | @name chars _ hname h =>
      obtain ⟨rfl, hbelow⟩ := List.cons.inj habove
      obtain ⟨names, rfl, hnames⟩ := ih h hbelow
      exact ⟨chars :: names, rfl, List.forall_mem_cons.mpr ⟨hname, hnames⟩⟩

/-! ### Canonical paths -/

/-- A path in canonical form. -/
def IsCanonical (path : Path) : Prop :=
  path.normalize = path

theorem components_normalize (path : Path) :
    path.normalize.components = canonical path.components :=
  path.settled_components.components_ofComponents

theorem isCanonical_ofComponents {stack : List Component} (h : Settled stack) :
    (ofComponents stack.reverse).IsCanonical := by
  rw [IsCanonical, normalize, h.components_ofComponents, canonical, h.foldl_reverse]

/-- The canonical form is canonical. -/
theorem isCanonical_normalize (path : Path) : path.normalize.IsCanonical :=
  isCanonical_ofComponents path.settled_components

/-- Canonical paths that name the same file are equal. -/
theorem IsCanonical.eq_of_same {first second : Path} (hf : first.IsCanonical)
    (hs : second.IsCanonical) (h : first.same second) : first = second := by
  have hcomponents : first.components = second.components := by simpa [same] using h
  calc first = first.normalize := hf.symm
    _ = second.normalize := by rw [normalize, normalize, hcomponents]
    _ = second := hs

/-- A canonical absolute path is written from the root and names. -/
theorem IsCanonical.exists_names {path : Path} (h : path.IsCanonical) (ha : path.isAbsolute) :
    ∃ names : List (List Char), path = ofComponents (.root :: names.map .name) ∧
      ∀ name ∈ names, (Component.name name).Plain := by
  obtain ⟨rest, hrest, hc⟩ := components_of_isAbsolute ha
  have hroot : (path.components.foldl Path.pushComponent []).getLast? = some .root := by
    rw [hrest, List.foldl_cons]
    exact getLast?_foldl_root (rfl : (Path.pushComponent [] .root).getLast? = some .root) hc
  obtain ⟨above, habove⟩ := List.getLast?_eq_some_iff.mp hroot
  obtain ⟨names, hnames, hplain⟩ := path.settled_components.exists_names habove
  refine ⟨names.reverse, ?_, by simpa using hplain⟩
  calc path = path.normalize := h.symm
    _ = ofComponents (.root :: names.reverse.map .name) := by
      rw [normalize, canonical, habove, hnames, List.reverse_append, List.map_reverse]
      rfl

theorem same_self (path : Path) : path.same path := by
  simp [same]

theorem same_comm (first second : Path) : first.same second = second.same first := by
  simp [same, eq_comm]

/-- Paths of which no two name the same file. -/
def Distinct (paths : List Path) : Prop :=
  paths.Pairwise fun first second => ¬ first.same second

instance (paths : List Path) : Decidable (Distinct paths) :=
  inferInstanceAs (Decidable (paths.Pairwise _))

theorem distinct_singleton (path : Path) : Distinct [path] :=
  List.pairwise_singleton _ path

theorem distinct_cons {path : Path} {paths : List Path} :
    Distinct (path :: paths) ↔ (∀ other ∈ paths, ¬ path.same other) ∧ Distinct paths :=
  List.pairwise_cons

theorem distinct_append {paths others : List Path} :
    Distinct (paths ++ others) ↔ Distinct paths ∧ Distinct others ∧
      ∀ path ∈ paths, ∀ other ∈ others, ¬ path.same other :=
  List.pairwise_append

theorem distinct_reverse {paths : List Path} : Distinct paths.reverse ↔ Distinct paths := by
  simp only [Distinct, List.pairwise_reverse, same_comm]

theorem Distinct.nodup {paths : List Path} (h : Distinct paths) : paths.Nodup := by
  refine List.Pairwise.imp (fun {first second} hsame (heq : first = second) => hsame ?_) h
  rw [heq]
  exact same_self second

/-- Canonical paths name different files if they are different. -/
theorem distinct_of_nodup {paths : List Path} (hcanonical : ∀ path ∈ paths, path.IsCanonical)
    (h : paths.Nodup) : Distinct paths :=
  h.imp_of_mem fun hfirst hsecond hne hsame =>
    hne ((hcanonical _ hfirst).eq_of_same (hcanonical _ hsecond) hsame)

/-- The canonical form of an absolute path is absolute. -/
theorem isAbsolute_normalize {path : Path} (h : path.isAbsolute) : path.normalize.isAbsolute := by
  obtain ⟨rest, hrest, hc⟩ := components_of_isAbsolute h
  rw [isAbsolute_iff_head?_components, components_normalize, canonical, List.head?_reverse, hrest]
  change (rest.foldl Path.pushComponent [.root]).getLast? = some .root
  exact getLast?_foldl_root rfl hc

/-- What is read behind an absolute path is read onto a settled stack above the root. -/
theorem settled_components_append {directory path : Path} (hd : directory.isAbsolute)
    (hp : path.isAbsolute = false) :
    Settled ((directory.components ++ path.components).foldl Path.pushComponent []) ∧
      ((directory.components ++ path.components).foldl Path.pushComponent []).getLast? =
        some .root := by
  obtain ⟨rest, hrest, hplain⟩ := components_of_isAbsolute hd
  have hstack : Settled (rest.foldl Path.pushComponent [.root]) := settled_foldl .root hplain
  have hroot := getLast?_foldl_root (rfl : [Component.root].getLast? = some .root) hplain
  rw [hrest, List.foldl_append, List.foldl_cons]
  rcases components_of_not_isAbsolute hp with ⟨more, hmore, hc⟩ | hc
  · rw [hmore, List.foldl_cons, pushComponent_current]
    exact ⟨settled_foldl hstack hc, getLast?_foldl_root hroot hc⟩
  · exact ⟨settled_foldl hstack hc, getLast?_foldl_root hroot hc⟩

/-- The absolute form of a path is canonical and absolute. -/
theorem absolute?_spec {directory path absolute : Path} (hd : directory.isAbsolute)
    (h : absolute? directory path = some absolute) :
    absolute.IsCanonical ∧ absolute.isAbsolute := by
  unfold absolute? at h
  split_ifs at h with hnil habsolute
  · cases h
    exact ⟨isCanonical_normalize path, isAbsolute_normalize habsolute⟩
  · cases h
    obtain ⟨hstack, hroot⟩ := settled_components_append hd (Bool.eq_false_iff.mpr habsolute)
    refine ⟨isCanonical_ofComponents hstack, ?_⟩
    rw [isAbsolute_iff_head?_components, canonical, hstack.components_ofComponents,
      List.head?_reverse, hroot]

end ModuleBundler.Path
