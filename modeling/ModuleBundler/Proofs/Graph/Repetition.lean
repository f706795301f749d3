import ModuleBundler.Proofs.Graph.WellFormed

/-!
# Building a file again finds nothing new

A traversal that builds a file again for every import, and one that builds it once, visit the same
program. The specifiers of a later copy of a file refer to what the specifiers of its first copy
have been mapped to already, so all that is built for them are copies as well. Hence the traversal
without copies can wait while a later copy is followed, and both are at the same place otherwise;
in particular they meet the same first file that cannot be prepared.

## Main definitions

* `Workshop.Condenses` — traversals that differ by later copies only.

## Main results

* `Workshop.Condenses.step` — every step of the traversal with copies is a step of the other one, or
  none.
* `Workshop.graph_onChain_condenses` — the graphs without copies and with them.
-/

namespace ModuleBundler

/-- What the specifiers that have been followed refer to has been built. -/
theorem Asset.Mapped.resolve_mem {traversal : Traversal} {asset : Asset} {count i : Nat}
    (h : asset.Mapped traversal.built count) (hi : i < count) {specifier : String}
    (hspecifier : asset.specifiers[i]? = some specifier) :
    asset.path.resolve specifier ∈ traversal.files := by
  have htake : specifier ∈ asset.specifiers.take count := by
    refine List.mem_of_getElem? (i := i) ?_
    rw [List.getElem?_take_of_lt hi, hspecifier]
  have hkey : specifier ∈ asset.mapping.map Prod.fst := by
    rw [h.keys]
    exact List.mem_eraseDups.mpr htake
  obtain ⟨entry, hentry, rfl⟩ := List.mem_map.mp hkey
  obtain ⟨target, htarget, -, hpath⟩ := h.targets entry hentry
  exact Traversal.mem_files_iff.mpr ⟨target, htarget, hpath⟩

namespace Workshop

variable {workshop : Workshop} {reuse : Reuse} {entry : Path}

/-! ### Files -/

/-- What the assets of a file say is determined by the file. -/
theorem Coherent.analysis_unique {traversal other : Traversal} (h : workshop.Coherent traversal)
    (hother : workshop.Coherent other) {first second : Asset} (hfirst : first ∈ traversal.built)
    (hsecond : second ∈ other.built) (hpath : first.path = second.path) :
    first.specifiers = second.specifiers ∧ first.code = second.code := by
  have hprepared := h.prepared first hfirst
  rw [hpath, hother.prepared second hsecond] at hprepared
  have heq := Except.ok.inj hprepared
  exact ⟨congrArg Linking.Analysis.specifiers heq.symm, congrArg Linking.Analysis.code heq.symm⟩

/-- A file that has been built can be prepared. -/
theorem Coherent.exists_prepare {traversal : Traversal} (h : workshop.Coherent traversal)
    {path : Path} (hpath : path ∈ traversal.files) :
    ∃ analysis, (workshop.prepare path).result = .ok analysis := by
  obtain ⟨asset, hasset, rfl⟩ := Traversal.mem_files_iff.mp hpath
  exact ⟨_, h.prepared asset hasset⟩

/-- An asset is found for the files that have been built and for no others. -/
theorem Coherent.find?_eq_none_iff {traversal : Traversal} (h : workshop.Coherent traversal)
    {path : Path} (hpath : path.IsCanonical) :
    traversal.progress.find? path = none ↔ path ∉ traversal.files := by
  rw [h.known, Option.map_eq_none_iff, List.find?_eq_none, Traversal.mem_files_iff]
  constructor
  · rintro hnone ⟨asset, hasset, rfl⟩
    exact hnone asset hasset (Path.same_self _)
  · intro hnone asset hasset hsame
    exact hnone ⟨asset, hasset, (h.canonical asset hasset).1.eq_of_same hpath hsame⟩

section Files

variable {finished : List Asset} {visit : Visit} {rest : List Visit} {followed : Nat}
  {progress : Progress} {reads : List Path}

/-- Where every file is built once, following a specifier builds the file that it refers to unless
it is there. -/
theorem Coherent.exists_step_byPath
    (h : workshop.Coherent ⟨finished, visit :: rest, followed, progress, reads⟩)
    {specifier : String} (hspecifier : visit.asset.specifiers[followed]? = some specifier)
    {analysis : Linking.Analysis}
    (hprepare : (workshop.prepare (visit.asset.path.resolve specifier)).result = .ok analysis) :
    ∃ after, workshop.Step .byPath ⟨finished, visit :: rest, followed, progress, reads⟩ after ∧
      after.finished = finished ∧ after.followed = followed + 1 ∧
      after.files =
        if visit.asset.path.resolve specifier ∈
          (Traversal.mk finished (visit :: rest) followed progress reads).files
        then (Traversal.mk finished (visit :: rest) followed progress reads).files
        else (Traversal.mk finished (visit :: rest) followed progress reads).files ++
          [visit.asset.path.resolve specifier] := by
  have hnone := h.find?_eq_none_iff (Path.isCanonical_resolve visit.asset.path specifier)
  by_cases hmem : visit.asset.path.resolve specifier ∈
      (Traversal.mk finished (visit :: rest) followed progress reads).files
  · obtain ⟨id, hfind⟩ := Option.ne_none_iff_exists'.mp fun hfind => hnone.mp hfind hmem
    refine ⟨_, .reuse hspecifier hfind, rfl, rfl, ?_⟩
    rw [if_pos hmem]
    exact files_record
  · refine ⟨_, .build hspecifier (hnone.mpr hmem) hprepare rfl, rfl, rfl, ?_⟩
    rw [if_neg hmem]
    exact files_build

end Files

/-! ### Traversals without copies -/

/-- The second traversal is where the first one is, without the later copies of files. While a later
copy is followed it waits in front of the next file. -/
structure Condenses (copies once : Traversal) : Prop where
  finished : once.finished.map Asset.path = (copies.finished.map Asset.path).eraseDups
  files : once.files = copies.files.eraseDups
  first : ∀ visit ∈ copies.pending.head?, visit.asset.path ∉ copies.finished.map Asset.path →
    once.followed = copies.followed
  later : ∀ visit ∈ copies.pending.head?, visit.asset.path ∈ copies.finished.map Asset.path →
    once.followed = 0

/-- Where the first copy of a file is followed, the same file is followed in both traversals. -/
theorem Condenses.exists_head {finished : List Asset} {visit : Visit} {rest : List Visit}
    {followed : Nat} {progress : Progress} {reads : List Path} {once : Traversal}
    (h : Condenses ⟨finished, visit :: rest, followed, progress, reads⟩ once)
    (hfirst : visit.asset.path ∉ finished.map Asset.path) :
    ∃ finished' visit' rest' progress' reads', visit'.asset.path = visit.asset.path ∧
      once = ⟨finished', visit' :: rest', followed, progress', reads'⟩ := by
  obtain ⟨finished', pending', followed', progress', reads'⟩ := once
  obtain rfl : followed' = followed := h.first visit rfl hfirst
  have hfiles := h.files
  rw [files_mk, files_mk, List.eraseDups_append, ← h.finished, List.append_cancel_left_eq,
    List.map_cons, List.removeAll, List.filter_cons_of_pos (by simpa using hfirst),
    List.eraseDups_cons] at hfiles
  obtain ⟨visit', rest', rfl, hpath, -⟩ := List.map_eq_cons_iff.mp hfiles
  exact ⟨_, _, _, _, _, hpath, rfl⟩

section Simulation

variable {copies once after : Traversal} {visit : Visit} {rest : List Visit}

/-- What the specifiers of a later copy refer to has been built. -/
theorem Coherent.resolve_mem_of_later (h : workshop.Coherent copies) (hmapped : copies.Mapped)
    (hpending : copies.pending = visit :: rest)
    (hlater : visit.asset.path ∈ copies.finished.map Asset.path) {i : Nat} {specifier : String}
    (hspecifier : visit.asset.specifiers[i]? = some specifier) :
    visit.asset.path.resolve specifier ∈ copies.files := by
  obtain ⟨asset, hasset, hpath⟩ := List.mem_map.mp hlater
  have hbuilt : asset.bare ∈ copies.built :=
    List.mem_map_of_mem (List.mem_append_left _ hasset)
  have hvisit : visit.asset.bare ∈ copies.built :=
    List.mem_map_of_mem (List.mem_append_right _ (by simp [hpending]))
  have hspecifiers : asset.specifiers = visit.asset.specifiers :=
    (h.analysis_unique h hbuilt hvisit hpath).1
  rw [← hspecifiers] at hspecifier
  rw [← hpath]
  exact (hmapped.finished asset hasset).resolve_mem
    (List.getElem?_eq_some_iff.mp hspecifier).1 hspecifier

/-- Following a specifier is a step of the traversal without copies while the first copy of a file
is followed, and none later. -/
theorem Condenses.follow (h : Condenses copies once) (hcopies : workshop.Coherent copies)
    (hmapped : copies.Mapped) (honce : workshop.Coherent once)
    (hpending : copies.pending = visit :: rest) {specifier : String}
    (hspecifier : visit.asset.specifiers[copies.followed]? = some specifier)
    {analysis : Linking.Analysis}
    (hprepare : (workshop.prepare (visit.asset.path.resolve specifier)).result = .ok analysis)
    (hfinished : after.finished = copies.finished)
    (hfollowed : after.followed = copies.followed + 1)
    (hhead : ∀ other ∈ after.pending.head?, other.asset.path = visit.asset.path)
    (hfiles : after.files.eraseDups =
      (copies.files ++ [visit.asset.path.resolve specifier]).eraseDups) :
    ∃ next, Relation.ReflTransGen (workshop.Step .byPath) once next ∧ Condenses after next := by
  by_cases hlater : visit.asset.path ∈ copies.finished.map Asset.path
  · -- a later copy finds nothing new, and the other traversal waits
    have hmem := hcopies.resolve_mem_of_later hmapped hpending hlater hspecifier
    rw [eraseDups_concat, if_pos hmem] at hfiles
    refine ⟨once, .refl, by rw [hfinished, h.finished], by rw [hfiles, h.files],
      fun other hother hfirst => ?_, fun other hother _ => ?_⟩
    · rw [hfinished, hhead other hother] at hfirst
      exact absurd hlater hfirst
    · exact h.later visit (by simp [hpending]) hlater
  · obtain ⟨finished, pending, followed, progress, reads⟩ := copies
    obtain rfl : pending = visit :: rest := hpending
    obtain ⟨finished', visit', rest', progress', reads', hpath, rfl⟩ := h.exists_head hlater
    have hspecifiers : visit'.asset.specifiers = visit.asset.specifiers :=
      (honce.analysis_unique hcopies Traversal.bare_mem_built Traversal.bare_mem_built hpath).1
    rw [← hpath] at hprepare hfiles
    obtain ⟨next, hstep, hnext, hcount, hbuilt⟩ :=
      honce.exists_step_byPath (hspecifiers ▸ hspecifier) hprepare
    refine ⟨next, .single hstep, ?_, ?_, fun _ _ _ => hcount.trans hfollowed.symm,
      fun other hother hmem => ?_⟩
    · rw [hnext, hfinished]
      exact h.finished
    · simp only [hbuilt, h.files, hfiles, eraseDups_concat, List.mem_eraseDups]
    · rw [hfinished, hhead other hother] at hmem
      exact absurd hmem hlater

/-- Every step of the traversal with copies is a step of the other one, or none. -/
theorem Condenses.step (h : Condenses copies once) (hcopies : workshop.Coherent copies)
    (hmapped : copies.Mapped) (honce : workshop.Coherent once)
    (hstep : workshop.Step .onChain copies after) :
    ∃ next, Relation.ReflTransGen (workshop.Step .byPath) once next ∧ Condenses after next := by
  cases hstep with
  | @reuse finished visit rest followed progress reads specifier id hspecifier hfind =>
    obtain ⟨target, htarget, -, hpath⟩ := hcopies.exists_of_find?_eq_some List.mem_cons_self
      (Path.isCanonical_resolve _ _) hfind
    have hmem := Traversal.mem_files_iff.mpr ⟨target, htarget, hpath⟩
    obtain ⟨analysis, hprepare⟩ := hcopies.exists_prepare hmem
    refine h.follow hcopies hmapped honce rfl hspecifier hprepare rfl rfl ?_ ?_
    · rintro _ ⟨⟩
      rfl
    · rw [eraseDups_concat, if_pos hmem]
      exact congrArg List.eraseDups files_record
  | @build finished visit rest followed progress reads specifier analysis asset hspecifier hfind
      hprepare hasset =>
    refine h.follow hcopies hmapped honce rfl hspecifier hprepare rfl rfl ?_ ?_
    · rintro _ ⟨⟩
      rfl
    · subst hasset
      exact congrArg List.eraseDups files_build
  | @finish finished visit rest followed progress reads hdone =>
    by_cases hlater : visit.asset.path ∈ finished.map Asset.path
    · have hcount : once.followed = 0 := h.later visit rfl hlater
      refine ⟨once, .refl, ?_, ?_, fun _ _ _ => hcount, fun _ _ _ => hcount⟩
      · rw [List.map_append, List.map_singleton, eraseDups_concat, if_pos hlater]
        exact h.finished
      · rw [h.files]
        exact congrArg List.eraseDups files_finish.symm
    · obtain ⟨finished', visit', rest', progress', reads', hpath, rfl⟩ := h.exists_head hlater
      have hspecifiers : visit'.asset.specifiers = visit.asset.specifiers :=
        (honce.analysis_unique hcopies Traversal.bare_mem_built Traversal.bare_mem_built hpath).1
      have hfinished := h.finished
      have hfiles := h.files
      dsimp only at hfinished
      refine ⟨_, .single (.finish (hspecifiers ▸ hdone)), ?_, ?_, fun _ _ _ => rfl,
        fun _ _ _ => rfl⟩
      · simp only [List.map_append, List.map_singleton, eraseDups_concat, if_neg hlater, hfinished,
          hpath]
      · exact (files_finish.trans hfiles).trans (congrArg List.eraseDups files_finish.symm)

end Simulation

/-- Traversals from one entry meet: for every one with copies there is one without. -/
theorem Reached.exists_condenses {copies : Traversal} (h : workshop.Reached .onChain entry copies)
    (hcanonical : entry.IsCanonical) (habsolute : entry.isAbsolute) :
    ∃ once, workshop.Reached .byPath entry once ∧ Condenses copies once := by
  induction h with
  | @opening analysis hprepare =>
    exact ⟨_, .opening hprepare, rfl, rfl, fun _ _ _ => rfl, fun _ _ _ => rfl⟩
  | step hbefore hstep ih =>
    obtain ⟨once, hreached, hcondenses⟩ := ih
    obtain ⟨next, hrun, hnext⟩ := hcondenses.step (hbefore.coherent hcanonical habsolute)
      (hbefore.mapped hcanonical habsolute) (hreached.coherent hcanonical habsolute) hstep
    exact ⟨next, hreached.run hrun, hnext⟩

/-! ### Graphs without copies -/

/-- What a build comes to that builds every file once, and one that builds it again for its imports:
the same failure, or assets of the same files, of which the first copies come in the same order. -/
inductive Condensed : Except Failure (List Asset) → Except Failure (List Asset) → Prop
  | ok {copies assets : List Asset}
      (paths : assets.map Asset.path = (copies.map Asset.path).eraseDups)
      (contents : ∀ copy ∈ copies, ∀ asset ∈ assets, copy.path.same asset.path →
        copy.code = asset.code ∧ copy.specifiers = asset.specifiers) :
      Condensed (.ok copies) (.ok assets)
  | error (failure : Failure) : Condensed (.error failure) (.error failure)

/-- Where the traversal with copies is stuck, it follows the first copy of a file, and the other one
follows the same file. -/
theorem Condenses.exists_head_of_stuck {finished : List Asset} {visit : Visit} {rest : List Visit}
    {followed : Nat} {progress : Progress} {reads : List Path} {once : Traversal}
    {specifier : String} {failure : Failure}
    (h : Condenses ⟨finished, visit :: rest, followed, progress, reads⟩ once)
    (hcopies : workshop.Coherent ⟨finished, visit :: rest, followed, progress, reads⟩)
    (hmapped : (Traversal.mk finished (visit :: rest) followed progress reads).Mapped)
    (hspecifier : visit.asset.specifiers[followed]? = some specifier)
    (hprepare : (workshop.prepare (visit.asset.path.resolve specifier)).result = .error failure) :
    ∃ finished' visit' rest' progress' reads', visit'.asset.path = visit.asset.path ∧
      once = ⟨finished', visit' :: rest', followed, progress', reads'⟩ := by
  refine h.exists_head fun hlater => ?_
  obtain ⟨analysis, hanalysis⟩ :=
    hcopies.exists_prepare (hcopies.resolve_mem_of_later hmapped rfl hlater hspecifier)
  rw [hprepare] at hanalysis
  cases hanalysis

/-- Where the traversal with copies ends, the other one does. -/
theorem Condenses.settles {copies once : Traversal} (h : Condenses copies once)
    (hcopies : workshop.Coherent copies) (hmapped : copies.Mapped)
    (honce : workshop.Coherent once) {outcome : Except Failure (List Asset)} {reads : List Path}
    (hsettles : workshop.Settles .onChain copies outcome reads) :
    ∃ outcome' reads', workshop.Settles .byPath once outcome' reads' ∧
      Condensed outcome outcome' := by
  cases hsettles with
  | @done finished followed progress =>
    obtain ⟨finished', pending', followed', progress', reads'⟩ := once
    have hfinished : finished'.map Asset.path = (finished.map Asset.path).eraseDups := h.finished
    have hfiles := h.files
    rw [files_mk, files_mk, List.map_nil, List.append_nil, ← hfinished,
      List.append_right_eq_self, List.map_eq_nil_iff] at hfiles
    subst hfiles
    refine ⟨_, _, .done, .ok hfinished fun copy hcopy asset hasset hsame => ?_⟩
    have hfirst : copy.bare ∈ (Traversal.mk finished [] followed progress reads).built := by
      simpa [Traversal.built, Traversal.queue] using List.mem_map_of_mem (f := Asset.bare) hcopy
    have hsecond : asset.bare ∈ (Traversal.mk finished' [] followed' progress' reads').built := by
      simpa [Traversal.built, Traversal.queue] using List.mem_map_of_mem (f := Asset.bare) hasset
    have hpath : copy.path = asset.path :=
      (hcopies.canonical _ hfirst).1.eq_of_same (honce.canonical _ hsecond).1 hsame
    exact (hcopies.analysis_unique honce hfirst hsecond hpath).symm
  | @stuck finished visit rest followed progress reads specifier failure hspecifier hfind
      hprepare =>
    obtain ⟨finished', visit', rest', progress', reads', hpath, rfl⟩ :=
      h.exists_head_of_stuck hcopies hmapped hspecifier hprepare
    have hspecifiers : visit'.asset.specifiers = visit.asset.specifiers :=
      (honce.analysis_unique hcopies Traversal.bare_mem_built Traversal.bare_mem_built hpath).1
    have hnone : Reuse.byPath.find? progress' visit' (visit'.asset.path.resolve specifier) = none := by
      refine (honce.find?_eq_none_iff (Path.isCanonical_resolve _ _)).mpr fun hmem => ?_
      obtain ⟨analysis, hanalysis⟩ := honce.exists_prepare hmem
      rw [hpath, hprepare] at hanalysis
      cases hanalysis
    refine ⟨_, _, .stuck (hspecifiers ▸ hspecifier) hnone (hpath ▸ hprepare), ?_⟩
    rw [hpath]
    exact .error _

/-- **Building files again does not change what is built.** The graph with every file built once
fails for the same reason as the one in which files are built again, or consists of the first copies
of its files in the same order. -/
theorem graph_onChain_condenses (workshop : Workshop) {directory : Path}
    (hdirectory : directory.isAbsolute) (path : Path) :
    Condensed (workshop.graph .onChain directory path).result
      (workshop.graph .byPath directory path).result := by
  cases habsolute : Path.absolute? directory path with
  | none =>
    rw [(graph_of_absolute?_eq_none habsolute).1, (graph_of_absolute?_eq_none habsolute).1]
    exact .error _
  | some entry =>
    cases hprepare : (workshop.prepare entry).result with
    | error failure =>
      rw [(graph_of_prepare_eq_error habsolute hprepare).1,
        (graph_of_prepare_eq_error habsolute hprepare).1]
      exact .error _
    | ok analysis =>
      obtain ⟨hcanonical, hroot⟩ := Path.absolute?_spec hdirectory habsolute
      obtain ⟨copies, hcopies, hcopiesSettle⟩ :=
        exists_settles_graph .onChain hdirectory habsolute hprepare
      obtain ⟨once, honce, honceSettle⟩ :=
        exists_settles_graph .byPath hdirectory habsolute hprepare
      obtain ⟨traversal, hreached, hcondenses⟩ := hcopies.exists_condenses hcanonical hroot
      obtain ⟨outcome, reads, hsettles, hcondensed⟩ :=
        hcondenses.settles (hcopies.coherent hcanonical hroot) (hcopies.mapped hcanonical hroot)
          (hreached.coherent hcanonical hroot) hcopiesSettle
      rw [(honceSettle.unique_of_reached honce hreached hsettles).1]
      exact hcondensed

theorem graph_onChain_condenses_pair :
    Path.root.isAbsolute ∧ Condensed (.ok pairCopies) (.ok pairAssets) :=
  ⟨rfl, graph_onChain_condenses pair (show Path.root.isAbsolute from rfl) (.ofString "a")⟩

end Workshop

end ModuleBundler
