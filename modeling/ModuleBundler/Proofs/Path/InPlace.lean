import ModuleBundler.Proofs.Path.Join

/-!
# Canonical form in place

A path can be brought into canonical form without a stack, on its text alone: every component is
joined to the path that has been written so far, and a step to the parent looks at the last
component of that path and takes it off. The text that is written in this way is, at every point,
the text of the stack that has been read so far. This needs the text to end with its last component:
then what is taken off is the component and the slash before it, and nothing else.

## Main definitions

* `Path.enter` — a written path, one component further.
* `Path.Closed` — paths whose text ends with their last component.
* `Path.Tidy` — paths whose text has no slash and no point too many.
* `Path.Canonicalized` — what the canonical form of a path is.

## Main results

* `Path.parent?_extend` — a component that is joined is taken off again.
* `Path.enter_ofComponents` — one component, on the text and on the stack.
* `Path.foldl_enter_eq_normalize` — the text that is written in place is the canonical form.
* `Path.canonicalized` — the canonical form of every path.
-/

namespace ModuleBundler.Path

/-! ### Writing in place -/

/-- A written path, one component further. A step to the parent takes off a last name, stays at the
root, and is written where there is nothing to take off. -/
def enter (path : Path) : Component → Path
  | .root => path.join root
  | .current => path
  | .parent =>
    match path.components.getLast? with
    | some (.name _) => path.parent?.getD path
    | some .root => path
    | _ => path.extend .parent
  | .name chars => path.extend (.name chars)

/-! ### Joining a component and taking it off -/

/-- The position behind the last component of a path. -/
def stop (located : List (Component × Nat)) : Nat :=
  (located.getLast?.map Prod.snd).getD 0

/-- A path whose text ends with its last component. -/
def Closed (path : Path) : Prop :=
  stop path.located = path.chars.length

/-- A path without its last component ends behind the component before it. -/
theorem parent?_of_located {path : Path} {before : List (Component × Nat)}
    {component : Component} {last : Nat} (h : path.located = before ++ [(component, last)])
    (hne : component ≠ .root) : path.parent? = some ⟨path.chars.take (stop before)⟩ := by
  rw [parent?, h, List.reverse_concat]
  rcases before.eq_nil_or_concat with rfl | ⟨front, ⟨previous, position⟩, rfl⟩
  · cases component <;> first | exact absurd rfl hne | rfl
  · rw [List.concat_eq_append, List.reverse_concat, stop, List.getLast?_concat]
    cases component <;> first | exact absurd rfl hne | rfl

theorem locate_pieces_textOf (offset : Nat) {component : Component} (hc : component.Plain) :
    locate offset (pieces (textOf component)) =
      [(component, offset + (textOf component).length)] := by
  rw [pieces_of_notMem hc.slash_notMem, locate, hc.component?_textOf]
  rfl

/-- A component that is joined stands last, up to the end of the text. -/
theorem located_extend (path : Path) {component : Component} (hc : component.Plain) :
    (path.extend component).located =
      path.located ++ [(component, (path.extend component).chars.length)] := by
  by_cases hne : path.chars = []
  · obtain ⟨chars⟩ := path
    obtain rfl : chars = [] := hne
    have hslash : ∀ rest, textOf component ≠ '/' :: rest := fun rest h =>
      hc.slash_notMem (h ▸ List.mem_cons_self)
    have hstep : ∀ rest, textOf component ≠ '.' :: '/' :: rest := fun rest h =>
      hc.slash_notMem (h ▸ List.mem_cons_of_mem _ List.mem_cons_self)
    rw [extend, join_of_nil rfl, located_eq_locate hslash hc.textOf_ne_point hstep,
      locate_pieces_textOf 0 hc, Nat.zero_add]
    rfl
  · have hlength : (textOf component).length ≤ (path.extend component).chars.length := by
      unfold extend join
      split_ifs <;> simp only [List.length_append, List.length_cons] <;> omega
    change (path.join ⟨textOf component⟩).located = _
    rw [located_join hne (isAbsolute_textOf hc), locate_pieces_textOf _ hc]
    exact congrArg (fun last => path.located ++ [(component, last)]) (Nat.sub_add_cancel hlength)

theorem closed_extend (path : Path) {component : Component} (hc : component.Plain) :
    (path.extend component).Closed := by
  rw [Closed, located_extend path hc, stop, List.getLast?_concat]
  rfl

/-- A path with a component behind it begins with the text of the path. -/
theorem take_length_extend (path : Path) {component : Component} (hc : component.Plain) :
    (path.extend component).chars.take path.chars.length = path.chars := by
  rw [extend, join, if_neg (Bool.eq_false_iff.mp (isAbsolute_textOf hc))]
  split_ifs <;> exact List.take_left

/-- A component that is joined is taken off again. -/
theorem parent?_extend {path : Path} {component : Component} (h : path.Closed)
    (hc : component.Plain) : (path.extend component).parent? = some path := by
  rw [parent?_of_located (located_extend path hc) hc.ne_root, h, take_length_extend path hc]

/-! ### The text of a stack -/

theorem intercalate_concat {ps : List (List Char)} (hne : ps ≠ []) (piece : List Char) :
    List.intercalate ['/'] (ps ++ [piece]) = List.intercalate ['/'] ps ++ '/' :: piece := by
  induction ps with
  | nil => exact absurd rfl hne
  | cons first rest ih =>
    cases rest with
    | nil =>
      change List.intercalate ['/'] [first, piece] = _
      rw [List.intercalate_cons_cons, List.intercalate_singleton, List.intercalate_singleton,
        List.append_assoc, List.singleton_append]
    | cons second rest =>
      rw [List.cons_append, List.cons_append, List.intercalate_cons_cons,
        List.intercalate_cons_cons, ← List.cons_append, ih (List.cons_ne_nil _ _)]
      simp only [List.append_assoc]

theorem concat_ne_root (components : List Component) {last : Component} (h : last.Plain) :
    components ++ [last] ≠ [.root] := by
  intro heq
  have hmem : last ∈ [Component.root] := heq ▸ List.mem_append_right _ List.mem_cons_self
  exact h.ne_root (List.mem_singleton.mp hmem)

/-- The text of components that end with a plain one does not end with a slash. -/
theorem getLast?_ofComponents (components : List Component) {last : Component} (h : last.Plain) :
    ∃ c, (ofComponents (components ++ [last])).chars.getLast? = some c ∧ c ≠ '/' := by
  obtain ⟨before, hbefore⟩ : ∃ before,
      (ofComponents (components ++ [last])).chars = before ++ textOf last := by
    rw [ofComponents_of_ne (concat_ne_root components h), List.map_append]
    cases components with
    | nil =>
      refine ⟨[], ?_⟩
      change List.intercalate ['/'] [textOf last] = textOf last
      exact List.intercalate_singleton
    | cons c cs =>
      refine ⟨List.intercalate ['/'] ((c :: cs).map textOf) ++ ['/'], ?_⟩
      rw [List.append_assoc, List.singleton_append]
      exact intercalate_concat (List.cons_ne_nil _ _) (textOf last)
  obtain ⟨front, c, hc⟩ := (textOf last).eq_nil_or_concat.resolve_left h.textOf_ne_nil
  refine ⟨c, ?_, fun hslash => h.slash_notMem ?_⟩
  · rw [hbefore, hc, List.concat_eq_append, ← List.append_assoc, List.getLast?_concat]
  · rw [hc, hslash, List.concat_eq_append]
    exact List.mem_append_right _ List.mem_cons_self

/-- A plain component behind the text of components that end with a plain one. -/
theorem extend_ofComponents_concat (components : List Component) {last component : Component}
    (h : last.Plain) (hc : component.Plain) :
    (ofComponents (components ++ [last])).extend component =
      ofComponents (components ++ [last] ++ [component]) := by
  obtain ⟨c, hlast, hslash⟩ := getLast?_ofComponents components h
  have hjoin : ¬ ((ofComponents (components ++ [last])).chars = [] ∨
      (ofComponents (components ++ [last])).chars.getLast? = some '/') := by
    rintro (hnil | hend)
    · rw [hnil] at hlast
      cases hlast
    · rw [hlast] at hend
      exact hslash (Option.some.inj hend)
  rw [extend, join, if_neg (Bool.eq_false_iff.mp (isAbsolute_textOf hc)), if_neg hjoin,
    ofComponents_of_ne (concat_ne_root components h),
    ofComponents_of_ne (concat_ne_root (components ++ [last]) hc)]
  have htexts : (components ++ [last] ++ [component]).map textOf =
      (components ++ [last]).map textOf ++ [textOf component] := List.map_append
  rw [htexts, intercalate_concat (by simp)]

/-- A plain component behind the text of a stack is on top of the stack. -/
theorem Settled.extend_ofComponents {stack : List Component} {component : Component}
    (h : Settled stack) (hc : component.Plain) :
    (ofComponents stack.reverse).extend component = ofComponents (component :: stack).reverse := by
  rw [List.reverse_cons]
  cases h with
  | nil =>
    rw [List.reverse_nil, ofComponents_of_ne (concat_ne_root [] hc)]
    exact (join_of_nil rfl _).trans (congrArg Path.mk List.intercalate_singleton.symm)
  | root =>
    rw [List.reverse_singleton, ofComponents_of_ne (concat_ne_root [.root] hc), extend, join,
      if_neg (Bool.eq_false_iff.mp (isAbsolute_textOf hc)), if_pos (.inr rfl)]
    exact congrArg Path.mk (intercalate_concat (List.cons_ne_nil [] []) (textOf component)).symm
  | @parent stack =>
    rw [List.reverse_cons]
    exact extend_ofComponents_concat stack.reverse .parent hc
  | @name chars stack hname =>
    rw [List.reverse_cons]
    exact extend_ofComponents_concat stack.reverse hname hc

/-! ### One component and all components -/

theorem settled_of_forall_parent {stack : List Component} (h : ∀ c ∈ stack, c = .parent) :
    Settled stack := by
  cases stack with
  | nil => exact .nil
  | cons c stack =>
    obtain rfl : c = .parent := h c List.mem_cons_self
    exact .parent fun d hd => h d (List.mem_cons_of_mem _ hd)

/-- The text of a stack ends with the component on top. -/
theorem Settled.closed {stack : List Component} (h : Settled stack) :
    (ofComponents stack.reverse).Closed := by
  cases h with
  | nil => rfl
  | root => rfl
  | @parent stack hp =>
    have hstack : Settled stack := settled_of_forall_parent hp
    rw [← hstack.extend_ofComponents .parent]
    exact closed_extend _ .parent
  | name hname h =>
    rw [← h.extend_ofComponents hname]
    exact closed_extend _ hname

/-- **One component, on the text and on the stack.** -/
theorem Settled.enter_ofComponents {stack : List Component} {component : Component}
    (h : Settled stack) (hc : component.Plain) :
    (ofComponents stack.reverse).enter component =
      ofComponents (Path.pushComponent stack component).reverse := by
  cases hc with
  | name hnil hslash hpoint hpoints =>
    exact h.extend_ofComponents (.name hnil hslash hpoint hpoints)
  | parent =>
    rw [enter, h.components_ofComponents, List.getLast?_reverse]
    cases h with
    | nil => rfl
    | root => rfl
    | parent hp => exact (Settled.parent hp).extend_ofComponents .parent
    | name hname h =>
      change (ofComponents _).parent?.getD _ = _
      rw [← h.extend_ofComponents hname, parent?_extend h.closed hname]
      rfl

/-- All components, on the text and on the stack. -/
theorem Settled.foldl_enter {stack components : List Component} (h : Settled stack)
    (hc : ∀ c ∈ components, c.Plain) :
    components.foldl enter (ofComponents stack.reverse) =
      ofComponents (components.foldl Path.pushComponent stack).reverse := by
  induction components generalizing stack with
  | nil => rfl
  | cons c cs ih =>
    have hplain : c.Plain := hc c List.mem_cons_self
    rw [List.foldl_cons, h.enter_ofComponents hplain]
    exact ih (h.pushComponent hplain) fun d hd => hc d (List.mem_cons_of_mem _ hd)

/-- **The text that is written in place is the canonical form.** -/
theorem foldl_enter_eq_normalize (path : Path) :
    path.components.foldl enter ⟨[]⟩ = path.normalize := by
  rw [normalize, canonical]
  rcases path.components_cases with ⟨rest, h, hc⟩ | ⟨rest, h, hc⟩ | hc
  · rw [h]
    exact Settled.root.foldl_enter hc
  · rw [h, List.foldl_cons, List.foldl_cons, pushComponent_current]
    exact Settled.nil.foldl_enter hc
  · exact Settled.nil.foldl_enter hc

/-! ### The canonical form -/

/-- A path whose text has no slash and no point too many: no two slashes stand together, no slash
stands at the end, the root alone excepted, and no piece is a point. -/
structure Tidy (path : Path) : Prop where
  single : ¬ ['/', '/'] <:+: path.chars
  trailing : path.chars.getLast? = some '/' → path = root
  pointless : ['.'] ∉ pieces path.chars

/-- A text is tidy if no piece behind the first is empty and no piece is a point. -/
theorem tidy_of_pieces {path : Path} (hempty : [] ∉ (pieces path.chars).tail)
    (hpoint : ['.'] ∉ pieces path.chars) : path.Tidy := by
  have hslash : ∀ before behind, path.chars = before ++ '/' :: behind →
      [] ∉ pieces behind := by
    intro before behind hchars hmem
    obtain ⟨first, rest, hfirst⟩ := List.exists_cons_of_ne_nil (pieces_ne_nil before)
    rw [hchars, pieces_append, hfirst] at hempty
    exact hempty (List.mem_append_right rest hmem)
  refine ⟨?_, ?_, hpoint⟩
  · rintro ⟨before, behind, hchars⟩
    refine hslash before ('/' :: behind) ?_ ?_
    · rw [← hchars]
      simp
    · rw [pieces_slash]
      exact List.mem_cons_self
  · intro hlast
    obtain ⟨before, hchars⟩ := List.getLast?_eq_some_iff.mp hlast
    exact absurd List.mem_cons_self (hslash before [] hchars)

theorem notMem_map_textOf {components : List Component} (h : ∀ c ∈ components, c.Plain) :
    [] ∉ components.map textOf ∧ ['.'] ∉ components.map textOf := by
  constructor
  · intro hmem
    obtain ⟨c, hc, hnil⟩ := List.mem_map.mp hmem
    exact (h c hc).textOf_ne_nil hnil
  · intro hmem
    obtain ⟨c, hc, hpoint⟩ := List.mem_map.mp hmem
    exact (h c hc).textOf_ne_point hpoint

/-- The text of plain components is tidy. -/
theorem tidy_ofComponents {components : List Component} (h : ∀ c ∈ components, c.Plain) :
    (ofComponents components).Tidy := by
  cases components with
  | nil => exact tidy_of_pieces (by decide) (by decide)
  | cons c cs =>
    have hpieces := pieces_ofComponents (List.cons_ne_nil _ _) (ne_root_of_plain h)
      fun d hd => (h d hd).slash_notMem
    obtain ⟨hempty, hpoint⟩ := notMem_map_textOf h
    refine tidy_of_pieces ?_ (hpieces ▸ hpoint)
    rw [hpieces]
    exact fun hmem => hempty (List.mem_of_mem_tail hmem)

/-- The text of the root and plain components behind it is tidy. -/
theorem tidy_ofComponents_root {components : List Component} (h : ∀ c ∈ components, c.Plain) :
    (ofComponents (.root :: components)).Tidy := by
  cases components with
  | nil => exact ⟨fun h => absurd h.length_le (by decide), fun _ => rfl, by decide⟩
  | cons c cs =>
    have hpieces := pieces_ofComponents (List.cons_ne_nil .root (c :: cs)) (by simp)
      (slash_notMem_root_cons h)
    obtain ⟨hempty, hpoint⟩ := notMem_map_textOf h
    refine tidy_of_pieces (hpieces ▸ hempty) ?_
    rw [hpieces]
    exact fun hmem => hpoint (List.mem_of_ne_of_mem (by decide) hmem)

/-- The text of a settled stack is tidy. -/
theorem Settled.tidy {stack : List Component} (h : Settled stack) :
    (ofComponents stack.reverse).Tidy := by
  rcases h.plain_or_root with hc | ⟨below, rfl, hc⟩
  · exact tidy_ofComponents (by simpa using hc)
  · rw [List.reverse_append]
    exact tidy_ofComponents_root (by simpa using hc)

/-- Plain components that are read onto plain components leave plain components. -/
theorem forall_plain_foldl {stack components : List Component} (h : ∀ c ∈ stack, c.Plain)
    (hc : ∀ c ∈ components, c.Plain) : ∀ c ∈ components.foldl pushComponent stack, c.Plain := by
  induction components generalizing stack with
  | nil => exact h
  | cons d ds ih =>
    refine ih ?_ fun c hd => hc c (List.mem_cons_of_mem _ hd)
    have hpush : pushComponent stack d = d :: stack ∨ pushComponent stack d ⊆ stack := by
      unfold pushComponent
      split
      next => exact .inr fun _ => id
      next => exact .inr (List.subset_cons_self _ _)
      next => exact .inr fun _ => id
      next => exact .inl rfl
    rcases hpush with hpush | hpush
    · rw [hpush]
      exact List.forall_mem_cons.mpr ⟨hc d List.mem_cons_self, h⟩
    · exact fun c hmem => h c (hpush hmem)

/-- A stack of plain components is made of names above steps to the parent. -/
theorem Settled.exists_parents {stack : List Component} (h : Settled stack)
    (hc : ∀ c ∈ stack, c.Plain) :
    ∃ (count : Nat) (names : List (List Char)),
      stack.reverse = List.replicate count .parent ++ names.map .name := by
  induction h with
  | nil => exact ⟨0, [], rfl⟩
  | root => exact absurd rfl (hc .root List.mem_cons_self).ne_root
  | @parent stack hp =>
    refine ⟨stack.length + 1, [], ?_⟩
    have hstack : stack = List.replicate stack.length .parent := List.eq_replicate_iff.mpr ⟨rfl, hp⟩
    rw [List.map_nil, List.append_nil, ← List.reverse_replicate, List.replicate_succ, ← hstack]
  | @name chars stack _ _ ih =>
    obtain ⟨count, names, hnames⟩ := ih fun c hmem => hc c (List.mem_cons_of_mem _ hmem)
    refine ⟨count, names ++ [chars], ?_⟩
    rw [List.reverse_cons, hnames, List.map_append, List.append_assoc]
    rfl

/-- The canonical components of a relative path are plain. -/
theorem forall_plain_canonical {path : Path} (h : path.isAbsolute = false) :
    ∀ c ∈ path.components.foldl pushComponent [], c.Plain := by
  rw [foldl_components h]
  exact forall_plain_foldl (fun _ hmem => absurd hmem List.not_mem_nil) fun _ => plain_of_mem_steps

/-- The canonical form is absolute if and only if the path is. -/
theorem isAbsolute_normalize_eq (path : Path) : path.normalize.isAbsolute = path.isAbsolute := by
  cases h : path.isAbsolute with
  | true => exact isAbsolute_normalize h
  | false =>
    rw [Bool.eq_false_iff, ne_eq, isAbsolute_iff_head?_components, components_normalize, canonical]
    intro hhead
    have hmem := List.mem_reverse.mp (List.mem_of_mem_head? hhead)
    exact absurd rfl (forall_plain_canonical h _ hmem).ne_root

/-- What the canonical form of a path is. -/
structure Canonicalized (path : Path) : Prop where
  /-- Its components are those that are left on the stack. -/
  read : path.normalize.components = canonical path.components
  /-- It is the text that is written in place. -/
  written : path.components.foldl enter ⟨[]⟩ = path.normalize
  /-- It is absolute if and only if the path is. -/
  absolute : path.normalize.isAbsolute = path.isAbsolute
  /-- In an absolute path there are names only. -/
  names : path.isAbsolute → ∃ names : List (List Char),
    path.normalize.components = .root :: names.map .name
  /-- In a relative path there are names behind steps to the parent. -/
  parents : path.isAbsolute = false → ∃ (count : Nat) (names : List (List Char)),
    path.normalize.components = List.replicate count .parent ++ names.map .name
  /-- Its text has no slash and no point too many. -/
  tidy : path.normalize.Tidy
  /-- It is its own canonical form. -/
  settled : path.normalize.normalize = path.normalize
  /-- It depends on the components of the path only. -/
  determined : ∀ other : Path, other.components = path.components →
    other.normalize = path.normalize

/-- **The canonical form of every path.** -/
theorem canonicalized (path : Path) : path.Canonicalized where
  read := path.components_normalize
  written := path.foldl_enter_eq_normalize
  absolute := path.isAbsolute_normalize_eq
  names h := by
    obtain ⟨names, hnames, hplain⟩ :=
      path.isCanonical_normalize.exists_names (isAbsolute_normalize h)
    refine ⟨names, ?_⟩
    rw [hnames, components_ofComponents_root (by simpa using hplain)]
  parents h := by
    rw [components_normalize, canonical]
    exact path.settled_components.exists_parents (forall_plain_canonical h)
  tidy := path.settled_components.tidy
  settled := path.isCanonical_normalize
  determined other h := by rw [normalize, normalize, h]

example : (ofString "/a/./b/../..//c/").normalize = ofString "/c" ∧
    (ofString "a/../../b/.").normalize = ofString "../b" := by
  decide

end ModuleBundler.Path
