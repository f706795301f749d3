import ModuleBundler.Proofs.Graph.Coherence
import ModuleBundler.Proofs.Storage.Capacity

/-!
# The graph is what the traversal comes to

The assets of a graph are computed level by level, and the number of levels is bounded by the size
of the storage. Here this is taken apart into the steps of a traversal: following one specifier is a
step, following all specifiers of an asset or of a level is a run of steps. The bound is never met,
since every file on a chain is a different file of the storage.

## Main results

* `Workshop.Coherent.length_chain_le` — no chain is longer than the storage is large.
* `Workshop.graph_of_absolute?_eq_none`, `Workshop.graph_of_prepare_eq_error` — what the graph is
  when its entry cannot be built.
* `Workshop.exists_settles_graph` — otherwise a traversal is reached from the entry that comes to
  what the graph is, and asks for the same files.
-/

namespace ModuleBundler.Workshop

variable {workshop : Workshop} {reuse : Reuse} {entry : Path}

/-! ### The length of chains -/

/-- No chain is longer than the storage is large. -/
theorem Coherent.length_chain_le {traversal : Traversal} (h : workshop.Coherent traversal)
    {visit : Visit} (hvisit : visit ∈ traversal.pending) :
    visit.chain.length ≤ workshop.storage.size := by
  have hlinked := h.linked visit hvisit
  have hbuilt : ∀ path ∈ visit.chain.map Prod.fst,
      ∃ asset ∈ traversal.built, asset.path = path := by
    intro path hpath
    obtain ⟨link, hlink, rfl⟩ := List.mem_map.mp hpath
    obtain ⟨asset, hasset, heq, -⟩ := hlinked.links link hlink
    exact ⟨asset, hasset, heq⟩
  rw [← List.length_map Prod.fst]
  refine Storage.length_le_size hlinked.distinct.nodup (fun path hpath => ?_) fun path hpath => ?_
  · obtain ⟨asset, hasset, rfl⟩ := hbuilt path hpath
    exact h.canonical asset hasset
  · obtain ⟨asset, hasset, rfl⟩ := hbuilt path hpath
    obtain ⟨source, -, hsource, -⟩ := result_prepare_eq_ok.mp (h.prepared asset hasset)
    exact ⟨source, hsource⟩

/-! ### Following one specifier -/

section Follow

variable {visit : Visit} {progress : Progress} {specifier : String}

theorem follow_of_some (workshop : Workshop) {id : AssetId}
    (h : reuse.find? progress visit (visit.asset.path.resolve specifier) = some id) :
    (workshop.follow reuse visit progress specifier).result = .ok (id, none, progress) ∧
      (workshop.follow reuse visit progress specifier).reads = [] := by
  unfold follow
  dsimp only
  rw [Attempt.result_log_bind, Attempt.reads_log_bind, h]
  exact ⟨rfl, rfl⟩

theorem follow_of_none (workshop : Workshop)
    (h : reuse.find? progress visit (visit.asset.path.resolve specifier) = none) :
    (workshop.follow reuse visit progress specifier).result =
        ((workshop.prepare (visit.asset.path.resolve specifier)).result.mapError
          (.importing specifier visit.asset.path)).map (fun analysis =>
            let asset := stamp progress.numbering (visit.asset.path.resolve specifier) analysis
            (asset.id, some (visitOf visit.chain asset),
              progress.add progress.numbering.next.2 asset)) ∧
      (workshop.follow reuse visit progress specifier).reads =
        (workshop.prepare (visit.asset.path.resolve specifier)).reads := by
  have hbuild : Attempt.result (ExceptT.adapt (.importing specifier visit.asset.path)
      (workshop.build progress.numbering (visit.asset.path.resolve specifier))) =
        ((workshop.prepare (visit.asset.path.resolve specifier)).result.map fun analysis =>
          (stamp progress.numbering (visit.asset.path.resolve specifier) analysis,
            progress.numbering.next.2)).mapError (.importing specifier visit.asset.path) := by
    rw [Attempt.result_adapt, result_build]
  unfold follow
  dsimp only
  rw [Attempt.result_log_bind, Attempt.reads_log_bind, h]
  dsimp only
  cases hprepare : (workshop.prepare (visit.asset.path.resolve specifier)).result with
  | error failure =>
    rw [hprepare] at hbuild
    rw [Attempt.result_bind_of_error hbuild, Attempt.reads_bind_of_error hbuild,
      Attempt.reads_adapt, reads_build_eq_reads_prepare]
    exact ⟨rfl, rfl⟩
  | ok analysis =>
    rw [hprepare] at hbuild
    rw [Attempt.result_bind_of_ok hbuild, Attempt.reads_bind_of_ok hbuild, Attempt.reads_adapt,
      reads_build_eq_reads_prepare]
    exact ⟨rfl, List.append_nil _⟩

/-- A visit whose specifiers before the next one refer to the assets of a mapping. -/
def withMapping (visit : Visit) (mapping : Mapping) : Visit :=
  { visit with asset.mapping := mapping }

theorem find?_withMapping (mapping : Mapping) (path : Path) :
    reuse.find? progress (withMapping visit mapping) path = reuse.find? progress visit path := by
  cases reuse <;> rfl

variable {finished : List Asset} {rest : List Visit} {followed : Nat} {mapping : Mapping}
  {reads : List Path}

/-- Following a specifier is a step. -/
theorem step_of_follow {id : AssetId} {child : Option Visit} {after : Progress}
    (hspecifier : visit.asset.specifiers[followed]? = some specifier)
    (h : (workshop.follow reuse visit progress specifier).result = .ok (id, child, after)) :
    workshop.Step reuse ⟨finished, withMapping visit mapping :: rest, followed, progress, reads⟩
      ⟨finished, withMapping visit (mapping.insert specifier id) :: (rest ++ child.toList),
        followed + 1, after, reads ++ (workshop.follow reuse visit progress specifier).reads⟩ := by
  cases hfind : reuse.find? progress visit (visit.asset.path.resolve specifier) with
  | some known =>
    obtain ⟨hresult, hreads⟩ := follow_of_some workshop hfind
    rw [hresult] at h
    cases h
    rw [hreads, Option.toList_none, List.append_nil, List.append_nil]
    exact .reuse hspecifier ((find?_withMapping mapping _).trans hfind)
  | none =>
    obtain ⟨hresult, hreads⟩ := follow_of_none workshop hfind
    cases hprepare : (workshop.prepare (visit.asset.path.resolve specifier)).result with
    | error failure =>
      rw [hresult, hprepare] at h
      cases h
    | ok analysis =>
      rw [hresult, hprepare] at h
      cases h
      rw [hreads]
      exact .build hspecifier ((find?_withMapping mapping _).trans hfind) hprepare rfl

/-- A specifier that cannot be followed ends the traversal. -/
theorem settles_of_follow {failure : Failure}
    (hspecifier : visit.asset.specifiers[followed]? = some specifier)
    (h : (workshop.follow reuse visit progress specifier).result = .error failure) :
    workshop.Settles reuse ⟨finished, withMapping visit mapping :: rest, followed, progress, reads⟩
      (.error failure) (reads ++ (workshop.follow reuse visit progress specifier).reads) := by
  cases hfind : reuse.find? progress visit (visit.asset.path.resolve specifier) with
  | some known =>
    rw [(follow_of_some _ hfind).1] at h
    cases h
  | none =>
    obtain ⟨hresult, hreads⟩ := follow_of_none workshop hfind
    cases hprepare : (workshop.prepare (visit.asset.path.resolve specifier)).result with
    | ok analysis =>
      rw [hresult, hprepare] at h
      cases h
    | error cause =>
      rw [hresult, hprepare] at h
      cases h
      rw [hreads]
      exact .stuck hspecifier ((find?_withMapping mapping _).trans hfind) hprepare

end Follow

/-! ### Following all specifiers of an asset -/

/-- A traversal that ends in a failure after some steps. -/
def Fails (workshop : Workshop) (reuse : Reuse) (start : Traversal) (failure : Failure)
    (reads : List Path) : Prop :=
  ∃ traversal, Relation.ReflTransGen (workshop.Step reuse) start traversal ∧
    workshop.Settles reuse traversal (.error failure) reads

theorem Fails.of_run {start next : Traversal} {failure : Failure} {reads : List Path}
    (hrun : Relation.ReflTransGen (workshop.Step reuse) start next)
    (h : workshop.Fails reuse next failure reads) : workshop.Fails reuse start failure reads := by
  obtain ⟨traversal, hmore, hsettles⟩ := h
  exact ⟨traversal, hrun.trans hmore, hsettles⟩

section FollowAll

variable {visit : Visit} {finished : List Asset}

/-- Following specifiers is a run of steps. -/
theorem run_of_followAll {specifiers before : List String} {mapping mapping' : Mapping}
    {rest children : List Visit} {progress after : Progress} {reads : List Path}
    (hspecifiers : visit.asset.specifiers = before ++ specifiers)
    (h : (workshop.followAll reuse visit specifiers mapping progress).result =
      .ok (mapping', children, after)) :
    Relation.ReflTransGen (workshop.Step reuse)
      ⟨finished, withMapping visit mapping :: rest, before.length, progress, reads⟩
      ⟨finished, withMapping visit mapping' :: (rest ++ children), visit.asset.specifiers.length,
        after, reads ++ (workshop.followAll reuse visit specifiers mapping progress).reads⟩ := by
  induction specifiers generalizing before mapping rest children progress reads with
  | nil =>
    cases h
    rw [hspecifiers]
    simpa [followAll] using Relation.ReflTransGen.refl
  | cons specifier specifiers ih =>
    have hnext : visit.asset.specifiers[before.length]? = some specifier := by simp [hspecifiers]
    rw [followAll] at h ⊢
    obtain ⟨⟨id, child, progress'⟩, hfollow, h⟩ := Attempt.result_bind_eq_ok.mp h
    obtain ⟨⟨mapping'', children', after'⟩, hall, h⟩ := Attempt.result_bind_eq_ok.mp h
    cases h
    rw [Attempt.reads_bind_of_ok hfollow, Attempt.reads_bind_of_ok hall, Attempt.reads_pure,
      List.append_nil, ← List.append_assoc, ← List.append_assoc]
    have hbefore : visit.asset.specifiers = (before ++ [specifier]) ++ specifiers := by
      simp [hspecifiers]
    have hlength : before.length + 1 = (before ++ [specifier]).length := by simp
    refine .head (step_of_follow hnext hfollow) ?_
    rw [hlength]
    exact ih hbefore hall

/-- Specifiers that cannot all be followed end the traversal. -/
theorem fails_of_followAll {specifiers before : List String} {mapping : Mapping}
    {rest : List Visit} {progress : Progress} {reads : List Path} {failure : Failure}
    (hspecifiers : visit.asset.specifiers = before ++ specifiers)
    (h : (workshop.followAll reuse visit specifiers mapping progress).result = .error failure) :
    workshop.Fails reuse
      ⟨finished, withMapping visit mapping :: rest, before.length, progress, reads⟩ failure
      (reads ++ (workshop.followAll reuse visit specifiers mapping progress).reads) := by
  induction specifiers generalizing before mapping rest progress reads with
  | nil => cases h
  | cons specifier specifiers ih =>
    have hnext : visit.asset.specifiers[before.length]? = some specifier := by simp [hspecifiers]
    rw [followAll] at h ⊢
    rcases Attempt.result_bind_eq_error.mp h with hfollow | ⟨⟨id, child, progress'⟩, hfollow, h⟩
    · rw [Attempt.reads_bind_of_error hfollow]
      exact ⟨_, .refl, settles_of_follow hnext hfollow⟩
    · rcases Attempt.result_bind_eq_error.mp h with hall | ⟨⟨mapping', children, after⟩, -, h⟩
      · rw [Attempt.reads_bind_of_ok hfollow, Attempt.reads_bind_of_error hall,
          ← List.append_assoc]
        have hbefore : visit.asset.specifiers = (before ++ [specifier]) ++ specifiers := by
          simp [hspecifiers]
        have hlength : before.length + 1 = (before ++ [specifier]).length := by simp
        refine .of_run (.single (step_of_follow hnext hfollow)) ?_
        rw [hlength]
        exact ih hbefore hall
      · cases h

/-- The chain of what is built for a specifier is one file longer. -/
theorem length_chain_of_follow {specifier : String} {progress after : Progress} {id : AssetId}
    {child : Visit} (h : (workshop.follow reuse visit progress specifier).result =
      .ok (id, some child, after)) : child.chain.length = visit.chain.length + 1 := by
  cases hfind : reuse.find? progress visit (visit.asset.path.resolve specifier) with
  | some known =>
    rw [(follow_of_some _ hfind).1] at h
    cases h
  | none =>
    rw [(follow_of_none _ hfind).1] at h
    cases hprepare : (workshop.prepare (visit.asset.path.resolve specifier)).result with
    | error failure =>
      rw [hprepare] at h
      cases h
    | ok analysis =>
      rw [hprepare] at h
      cases h
      rfl

theorem length_chain_of_followAll {specifiers : List String} {mapping mapping' : Mapping}
    {progress after : Progress} {children : List Visit}
    (h : (workshop.followAll reuse visit specifiers mapping progress).result =
      .ok (mapping', children, after)) :
    ∀ child ∈ children, child.chain.length = visit.chain.length + 1 := by
  induction specifiers generalizing mapping progress children with
  | nil =>
    cases h
    simp
  | cons specifier specifiers ih =>
    rw [followAll] at h
    obtain ⟨⟨id, first, progress'⟩, hfollow, h⟩ := Attempt.result_bind_eq_ok.mp h
    obtain ⟨⟨mapping'', children', after'⟩, hall, h⟩ := Attempt.result_bind_eq_ok.mp h
    cases h
    intro child hchild
    rcases List.mem_append.mp hchild with hchild | hchild
    · rw [Option.mem_toList.mp hchild] at hfollow
      exact length_chain_of_follow hfollow
    · exact ih hall child hchild

end FollowAll

/-! ### Levels -/

section Level

variable {visits : List Visit} {progress : Progress}

/-- Following all specifiers of an asset finishes it. -/
theorem run_of_followAll_self {visit : Visit} {finished : List Asset} {mapping : Mapping}
    {rest children : List Visit} {after : Progress} {reads : List Path}
    (h : (workshop.followAll reuse visit visit.asset.specifiers visit.asset.mapping
      progress).result = .ok (mapping, children, after)) :
    Relation.ReflTransGen (workshop.Step reuse) ⟨finished, visit :: rest, 0, progress, reads⟩
      ⟨finished ++ [{ visit.asset with mapping := mapping }], rest ++ children, 0, after, reads ++
        (workshop.followAll reuse visit visit.asset.specifiers visit.asset.mapping
          progress).reads⟩ := by
  have hrun : Relation.ReflTransGen (workshop.Step reuse)
      ⟨finished, visit :: rest, 0, progress, reads⟩
      ⟨finished, withMapping visit mapping :: (rest ++ children), visit.asset.specifiers.length,
        after, reads ++ (workshop.followAll reuse visit visit.asset.specifiers visit.asset.mapping
          progress).reads⟩ := run_of_followAll (List.nil_append visit.asset.specifiers).symm h
  exact hrun.tail (.finish (by simp [withMapping]))

/-- Following all specifiers of a level is a run of steps. -/
theorem run_of_level {finished assets : List Asset} {later next : List Visit} {after : Progress}
    {reads : List Path}
    (h : (workshop.level reuse visits progress).result = .ok (assets, next, after)) :
    Relation.ReflTransGen (workshop.Step reuse)
      ⟨finished, visits ++ later, 0, progress, reads⟩
      ⟨finished ++ assets, later ++ next, 0, after,
        reads ++ (workshop.level reuse visits progress).reads⟩ := by
  induction visits generalizing finished later assets next progress reads with
  | nil =>
    cases h
    simpa [level] using Relation.ReflTransGen.refl
  | cons visit visits ih =>
    rw [level] at h ⊢
    obtain ⟨⟨mapping, children, progress'⟩, hall, h⟩ := Attempt.result_bind_eq_ok.mp h
    obtain ⟨⟨assets', more, after'⟩, hlevel, h⟩ := Attempt.result_bind_eq_ok.mp h
    cases h
    rw [Attempt.reads_bind_of_ok hall, Attempt.reads_bind_of_ok hlevel, Attempt.reads_pure,
      List.append_nil]
    have hfirst : Relation.ReflTransGen (workshop.Step reuse)
        ⟨finished, visit :: (visits ++ later), 0, progress, reads⟩ _ := run_of_followAll_self hall
    rw [List.append_assoc] at hfirst
    have hrun := hfirst.trans (ih hlevel)
    simpa [List.append_assoc] using hrun

/-- A level that cannot be followed ends the traversal. -/
theorem fails_of_level {finished : List Asset} {later : List Visit} {reads : List Path}
    {failure : Failure} (h : (workshop.level reuse visits progress).result = .error failure) :
    workshop.Fails reuse ⟨finished, visits ++ later, 0, progress, reads⟩ failure
      (reads ++ (workshop.level reuse visits progress).reads) := by
  induction visits generalizing finished later progress reads with
  | nil => cases h
  | cons visit visits ih =>
    rw [level] at h ⊢
    rcases Attempt.result_bind_eq_error.mp h with hall | ⟨⟨mapping, children, progress'⟩, hall, h⟩
    · rw [Attempt.reads_bind_of_error hall]
      exact fails_of_followAll (List.nil_append visit.asset.specifiers).symm hall
    · rcases Attempt.result_bind_eq_error.mp h with hlevel | ⟨⟨assets, more, after⟩, -, h⟩
      · rw [Attempt.reads_bind_of_ok hall, Attempt.reads_bind_of_error hlevel, ← List.append_assoc]
        have hfirst : Relation.ReflTransGen (workshop.Step reuse)
            ⟨finished, visit :: (visits ++ later), 0, progress, reads⟩ _ :=
          run_of_followAll_self hall
        rw [List.append_assoc] at hfirst
        exact .of_run hfirst (ih hlevel)
      · cases h

/-- The chains of a level are one file longer than those of the level before. -/
theorem length_chain_of_level {assets : List Asset} {next : List Visit} {after : Progress}
    (h : (workshop.level reuse visits progress).result = .ok (assets, next, after)) :
    ∀ child ∈ next, ∃ visit ∈ visits, child.chain.length = visit.chain.length + 1 := by
  induction visits generalizing assets next progress with
  | nil =>
    cases h
    simp
  | cons visit visits ih =>
    rw [level] at h
    obtain ⟨⟨mapping, children, progress'⟩, hall, h⟩ := Attempt.result_bind_eq_ok.mp h
    obtain ⟨⟨assets', more, after'⟩, hlevel, h⟩ := Attempt.result_bind_eq_ok.mp h
    cases h
    intro child hchild
    rcases List.mem_append.mp hchild with hchild | hchild
    · exact ⟨visit, List.mem_cons_self, length_chain_of_followAll hall child hchild⟩
    · obtain ⟨importer, himporter, hlength⟩ := ih hlevel child hchild
      exact ⟨importer, List.mem_cons_of_mem _ himporter, hlength⟩

end Level

/-- Where no chain is longer than a bound, the levels that are left to that bound are what the
traversal comes to. -/
theorem exists_settles_levels {bound fuel : Nat} {visits : List Visit} {progress : Progress}
    {finished : List Asset} {reads : List Path}
    (hbound : ∀ traversal, Relation.ReflTransGen (workshop.Step reuse)
      ⟨finished, visits, 0, progress, reads⟩ traversal →
        ∀ visit ∈ traversal.pending, visit.chain.length ≤ bound)
    (hfuel : ∀ visit ∈ visits, bound < visit.chain.length + fuel) :
    ∃ traversal, Relation.ReflTransGen (workshop.Step reuse)
        ⟨finished, visits, 0, progress, reads⟩ traversal ∧
      workshop.Settles reuse traversal
        ((workshop.levels reuse fuel visits progress).result.map (finished ++ ·))
        (reads ++ (workshop.levels reuse fuel visits progress).reads) := by
  induction fuel generalizing visits progress finished reads with
  | zero =>
    cases visits with
    | nil =>
      refine ⟨_, .refl, ?_⟩
      simpa [levels, Except.map] using Settles.done
    | cons visit visits =>
      -- the bound would be met by a chain that is longer than it
      have hle := hbound _ .refl visit List.mem_cons_self
      have hlt := hfuel visit List.mem_cons_self
      omega
  | succ fuel ih =>
    cases visits with
    | nil =>
      refine ⟨_, .refl, ?_⟩
      simpa [levels, Except.map] using Settles.done
    | cons visit visits =>
      rw [levels]
      · cases hlevel : (workshop.level reuse (visit :: visits) progress).result with
        | error failure =>
          rw [Attempt.result_bind_of_error hlevel, Attempt.reads_bind_of_error hlevel]
          have hfails : workshop.Fails reuse
              ⟨finished, (visit :: visits) ++ [], 0, progress, reads⟩ failure _ :=
            fails_of_level hlevel
          rw [List.append_nil] at hfails
          exact hfails
        | ok outcome =>
          obtain ⟨assets, next, after⟩ := outcome
          have hrun : Relation.ReflTransGen (workshop.Step reuse)
              ⟨finished, (visit :: visits) ++ [], 0, progress, reads⟩
              ⟨finished ++ assets, [] ++ next, 0, after, _⟩ := run_of_level hlevel
          rw [List.append_nil, List.nil_append] at hrun
          have hnext : ∀ child ∈ next, bound < child.chain.length + fuel := by
            intro child hchild
            obtain ⟨importer, himporter, hlength⟩ := length_chain_of_level hlevel child hchild
            have := hfuel importer himporter
            omega
          obtain ⟨traversal, hmore, hsettles⟩ :=
            ih (fun traversal hmore => hbound traversal (hrun.trans hmore)) hnext
          refine ⟨traversal, hrun.trans hmore, ?_⟩
          rw [Attempt.result_bind_of_ok hlevel, Attempt.reads_bind_of_ok hlevel]
          dsimp only
          cases hlevels : (workshop.levels reuse fuel next after).result with
          | error failure =>
            rw [Attempt.result_bind_of_error hlevels, Attempt.reads_bind_of_error hlevels,
              ← List.append_assoc]
            rw [hlevels] at hsettles
            exact hsettles
          | ok more =>
            rw [Attempt.result_bind_of_ok hlevels, Attempt.reads_bind_of_ok hlevels,
              Attempt.result_pure, Attempt.reads_pure, List.append_nil, ← List.append_assoc]
            rw [hlevels] at hsettles
            simpa [Except.map, List.append_assoc] using hsettles
      · simp

/-! ### The graph -/

/-- The empty path is no entry. -/
theorem graph_of_absolute?_eq_none {directory path : Path}
    (h : Path.absolute? directory path = none) :
    (workshop.graph reuse directory path).result = .error (.unreadable path .emptyPath) ∧
      (workshop.graph reuse directory path).reads = [] := by
  unfold graph
  rw [h]
  exact ⟨rfl, rfl⟩

/-- An entry that cannot be prepared is the only file that is asked for. -/
theorem graph_of_prepare_eq_error {directory path : Path} {failure : Failure}
    (h : Path.absolute? directory path = some entry)
    (hprepare : (workshop.prepare entry).result = .error failure) :
    (workshop.graph reuse directory path).result = .error failure ∧
      (workshop.graph reuse directory path).reads = (workshop.prepare entry).reads := by
  have hbuild : (workshop.build .start entry).result = .error failure := by
    rw [result_build, hprepare]
    rfl
  unfold graph
  rw [h]
  dsimp only
  rw [Attempt.result_log_bind, Attempt.reads_log_bind, Attempt.result_bind_of_error hbuild,
    Attempt.reads_bind_of_error hbuild, reads_build_eq_reads_prepare]
  exact ⟨rfl, rfl⟩

/-- **The graph is what the traversal comes to.** If its entry can be prepared, a traversal is
reached from the entry that comes to what the graph is, and asks for the same files. -/
theorem exists_settles_graph (reuse : Reuse) {directory path : Path}
    {analysis : Linking.Analysis} (hdirectory : directory.isAbsolute)
    (h : Path.absolute? directory path = some entry)
    (hprepare : (workshop.prepare entry).result = .ok analysis) :
    ∃ traversal, workshop.Reached reuse entry traversal ∧
      workshop.Settles reuse traversal (workshop.graph reuse directory path).result
        (workshop.graph reuse directory path).reads := by
  obtain ⟨hcanonical, habsolute⟩ := Path.absolute?_spec hdirectory h
  have hopening : workshop.Reached reuse entry (workshop.opening entry analysis) :=
    .opening hprepare
  have hbuild : (workshop.build .start entry).result =
      .ok (stamp .start entry analysis, Numbering.start.next.2) := by
    rw [result_build, hprepare]
    rfl
  have hbound : ∀ traversal, Relation.ReflTransGen (workshop.Step reuse)
      (workshop.opening entry analysis) traversal →
        ∀ visit ∈ traversal.pending, visit.chain.length ≤ workshop.storage.size :=
    fun traversal hrun visit hvisit =>
      ((hopening.run hrun).coherent hcanonical habsolute).length_chain_le hvisit
  have hfuel : ∀ visit ∈ [visitOf [] (stamp .start entry analysis)],
      workshop.storage.size < visit.chain.length + (workshop.storage.size + 1) := by
    intro visit _
    omega
  obtain ⟨traversal, hrun, hsettles⟩ := exists_settles_levels hbound hfuel
  refine ⟨traversal, hopening.run hrun, ?_⟩
  unfold graph
  rw [h]
  dsimp only
  rw [Attempt.result_log_bind, Attempt.reads_log_bind, Attempt.result_bind_of_ok hbuild,
    Attempt.reads_bind_of_ok hbuild, reads_build_eq_reads_prepare]
  dsimp only
  cases hlevels : (workshop.levels reuse (workshop.storage.size + 1)
      [visitOf [] (stamp .start entry analysis)]
      (Progress.start.add Numbering.start.next.2 (stamp .start entry analysis))).result with
  | error failure =>
    rw [Attempt.result_bind_of_error hlevels, Attempt.reads_bind_of_error hlevels]
    rw [hlevels] at hsettles
    exact hsettles
  | ok assets =>
    rw [Attempt.result_bind_of_ok hlevels, Attempt.reads_bind_of_ok hlevels,
      Attempt.result_log_bind, Attempt.reads_log_bind, Attempt.result_pure, Attempt.reads_pure,
      List.append_nil]
    rw [hlevels] at hsettles
    exact hsettles

/-- A graph is the assets of a traversal that is reached from its entry and has finished all of
them. -/
theorem exists_reached_of_graph_eq_ok {directory path : Path} {assets : List Asset}
    (hdirectory : directory.isAbsolute)
    (h : (workshop.graph reuse directory path).result = .ok assets) :
    ∃ entry, Path.absolute? directory path = some entry ∧ ∃ traversal : Traversal,
      workshop.Reached reuse entry traversal ∧ workshop.Coherent traversal ∧
        traversal.pending = [] ∧ traversal.finished = assets ∧
        traversal.reads = (workshop.graph reuse directory path).reads := by
  cases habsolute : Path.absolute? directory path with
  | none =>
    rw [(graph_of_absolute?_eq_none habsolute).1] at h
    cases h
  | some entry =>
    refine ⟨entry, rfl, ?_⟩
    cases hprepare : (workshop.prepare entry).result with
    | error failure =>
      rw [(graph_of_prepare_eq_error habsolute hprepare).1] at h
      cases h
    | ok analysis =>
      obtain ⟨traversal, hreached, hsettles⟩ :=
        exists_settles_graph reuse hdirectory habsolute hprepare
      obtain ⟨hentry, hroot⟩ := Path.absolute?_spec hdirectory habsolute
      refine ⟨traversal, hreached, hreached.coherent hentry hroot, ?_⟩
      rw [h] at hsettles
      generalize (workshop.graph reuse directory path).reads = reads at hsettles ⊢
      cases hsettles with
      | done => exact ⟨rfl, rfl, rfl⟩

end ModuleBundler.Workshop
