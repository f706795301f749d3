import ModuleBundler.Proofs.Path.InPlace

/-!
# The path around a file

The path without its last component is the text up to the end of the component before. Cutting a
text there cuts its pieces and nothing else: the components of the shorter text are the first ones
of the longer, each where it was. So the parent of a path has the components of the path but the
last, however the path is spelled.

## Main results

* `Path.located_take` — a text that is cut behind a component has the components up to it.
* `Path.exists_parent?` — the components of the parent.
-/

namespace ModuleBundler.Path

/-! ### Cutting a text -/

/-- A text that is cut behind a piece has the pieces up to it. -/
theorem exists_pieces_take {cs : List Char} {front back : List (List Char)}
    (h : pieces cs = front ++ back) (hne : front ≠ []) :
    ∃ n, (front.flatMap (· ++ ['/'])).length = n + 1 ∧ pieces (cs.take n) = front := by
  have hslash : ∀ piece ∈ front, '/' ∉ piece := fun piece hpiece =>
    slash_notMem_of_mem_pieces (h ▸ List.mem_append_left back hpiece)
  let text := List.intercalate ['/'] front
  have hpieces : pieces text = front := pieces_intercalate hne hslash
  have htext : front.flatMap (· ++ ['/']) = text ++ ['/'] := by
    rw [← flatMap_pieces, hpieces]
  have hcs : cs ++ ['/'] = text ++ '/' :: back.flatMap (· ++ ['/']) := by
    rw [← flatMap_pieces, h, List.flatMap_append, htext, List.append_assoc, List.singleton_append]
  refine ⟨text.length, by rw [htext, List.length_append, List.length_singleton], ?_⟩
  have hle : text.length ≤ cs.length := by
    have hlength := congrArg List.length hcs
    simp only [List.length_append, List.length_cons, List.length_nil] at hlength
    omega
  have htake : cs.take text.length = text := by
    have hmore : (cs ++ ['/']).take text.length = cs.take text.length :=
      List.take_append_of_le_length hle
    rw [← hmore, hcs, List.take_left]
  rw [htake, hpieces]

theorem stop_cons (first : Component × Nat) {located : List (Component × Nat)}
    (hne : located ≠ []) : stop (first :: located) = stop located := by
  rw [stop, stop, List.getLast?_cons_of_ne_nil hne]

/-- The first components of pieces are those of the first pieces, and end where these do. -/
theorem exists_locate_eq {offset : Nat} {ps : List (List Char)}
    {before behind : List (Component × Nat)} (h : locate offset ps = before ++ behind)
    (hne : before ≠ []) :
    ∃ front back, ps = front ++ back ∧ front ≠ [] ∧ locate offset front = before ∧
      stop before + 1 = offset + (front.flatMap (· ++ ['/'])).length := by
  induction ps generalizing offset before with
  | nil => exact absurd (List.append_eq_nil_iff.mp h.symm).1 hne
  | cons piece rest ih =>
    have hlength (front : List (List Char)) : offset + piece.length + 1 +
        (front.flatMap (· ++ ['/'])).length =
          offset + ((piece :: front).flatMap (· ++ ['/'])).length := by
      rw [List.flatMap_cons, List.length_append, List.length_append, List.length_singleton]
      omega
    rw [locate] at h
    cases hpiece : component? piece with
    | none =>
      rw [hpiece] at h
      obtain ⟨front, back, rfl, -, hfront, hstop⟩ := ih h hne
      refine ⟨piece :: front, back, rfl, List.cons_ne_nil _ _, ?_, by rw [hstop, hlength]⟩
      rw [locate, hpiece]
      exact hfront
    | some component =>
      rw [hpiece] at h
      obtain ⟨first, before, rfl⟩ := List.exists_cons_of_ne_nil hne
      obtain ⟨rfl, hrest⟩ := List.cons.inj h
      by_cases hbefore : before = []
      · subst hbefore
        refine ⟨[piece], rest, rfl, List.cons_ne_nil _ _, ?_, (hlength []).symm ▸ rfl⟩
        rw [locate, hpiece]
        rfl
      · obtain ⟨front, back, rfl, -, hfront, hstop⟩ := ih hrest hbefore
        refine ⟨piece :: front, back, rfl, List.cons_ne_nil _ _, ?_, ?_⟩
        · rw [locate, hpiece, hfront]
          rfl
        · rw [stop_cons _ hbefore, hstop, hlength]

/-- Cut behind a component, the text behind an offset has the components up to it. -/
theorem exists_locate_take {offset : Nat} {cs : List Char}
    {before behind : List (Component × Nat)} (h : locate offset (pieces cs) = before ++ behind)
    (hne : before ≠ []) :
    ∃ n, stop before = offset + n ∧ locate offset (pieces (cs.take n)) = before := by
  obtain ⟨front, back, hpieces, hfront, hlocate, hstop⟩ := exists_locate_eq h hne
  obtain ⟨n, hlength, htake⟩ := exists_pieces_take hpieces hfront
  exact ⟨n, by omega, by rw [htake, hlocate]⟩

/-- **A text that is cut behind a component has the components up to it.** -/
theorem located_take {path : Path} {before behind : List (Component × Nat)}
    (h : path.located = before ++ behind) :
    (⟨path.chars.take (stop before)⟩ : Path).located = before := by
  by_cases hne : before = []
  · rw [hne]
    rfl
  obtain ⟨chars⟩ := path
  unfold located at h
  dsimp only at h ⊢
  split at h
  next cs =>
    -- the root stays in front
    obtain ⟨first, more, rfl⟩ := List.exists_cons_of_ne_nil hne
    obtain ⟨rfl, hrest⟩ := List.cons.inj h
    by_cases hmore : more = []
    · rw [hmore]
      rfl
    · obtain ⟨n, hstop, htake⟩ := exists_locate_take hrest hmore
      rw [stop_cons _ hmore, hstop, Nat.add_comm 1, List.take_succ_cons]
      exact congrArg _ htake
  next =>
    obtain ⟨first, more, rfl⟩ := List.exists_cons_of_ne_nil hne
    obtain ⟨rfl, hrest⟩ := List.cons.inj h
    obtain ⟨rfl, rfl⟩ := List.append_eq_nil_iff.mp hrest.symm
    rfl
  next cs =>
    -- so does a point
    obtain ⟨first, more, rfl⟩ := List.exists_cons_of_ne_nil hne
    obtain ⟨rfl, hrest⟩ := List.cons.inj h
    by_cases hmore : more = []
    · rw [hmore]
      rfl
    · obtain ⟨n, hstop, htake⟩ := exists_locate_take hrest hmore
      rw [stop_cons _ hmore, hstop, Nat.add_comm 2, List.take_succ_cons, List.take_succ_cons]
      exact congrArg _ htake
  next hslash hpoint hstep =>
    obtain ⟨n, hstop, htake⟩ := exists_locate_take h hne
    rw [hstop, Nat.zero_add]
    refine (located_eq_locate (fun rest hcut => ?_) (fun hcut => ?_)
      fun rest hcut => ?_).trans htake
    · have hwhole := List.take_append_drop n chars
      rw [hcut] at hwhole
      exact hslash _ hwhole.symm
    · -- a point alone has no component
      rw [hcut] at htake
      exact hne htake.symm
    · have hwhole := List.take_append_drop n chars
      rw [hcut] at hwhole
      exact hstep _ hwhole.symm

/-! ### The parent -/

/-- The parent of a path has the components of the path but the last. -/
theorem exists_parent? {path : Path} {before : List Component} {last : Component}
    (h : path.components = before ++ [last]) (hne : last ≠ .root) :
    ∃ parent, path.parent? = some parent ∧ parent.components = before := by
  obtain ⟨front, back, hlocated, rfl, hback⟩ := List.map_eq_append_iff.mp h
  obtain ⟨⟨component, position⟩, rest, rfl, rfl, hrest⟩ := List.map_eq_cons_iff.mp hback
  obtain rfl := List.map_eq_nil_iff.mp hrest
  exact ⟨_, parent?_of_located hlocated hne, congrArg (List.map Prod.fst) (located_take hlocated)⟩

example : (ofString "./a/.//b/").parent? = some (ofString "./a") ∧
    (ofString "b").parent? = some (ofString "") := by
  decide

end ModuleBundler.Path
