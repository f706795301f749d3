import ModuleBundler.Proofs.Graph.Traversal
import ModuleBundler.Proofs.Path.Resolution

/-!
# What every traversal keeps

Whatever has been followed, the assets that have been built are numbered in order, each of them is
what its file was prepared to, the table of known files gives the first asset for every path, and
the chain of every unfinished asset names different files that have been built.

## Main definitions

* `Traversal.built` — the assets of a traversal as they were built.
* `Visit.Linked`, `Workshop.Coherent` — what every traversal keeps.

## Main results

* `Workshop.Step.built_cases` — a step builds one asset or none.
* `Workshop.Reached.coherent` — every traversal that is reached from an entry is coherent.
-/

namespace ModuleBundler

/-- An asset as it was built, before its specifiers were followed. -/
def Asset.bare (asset : Asset) : Asset :=
  { asset with mapping := [] }

/-- The assets of a traversal as they were built. -/
def Traversal.built (traversal : Traversal) : List Asset :=
  traversal.queue.map Asset.bare

theorem Traversal.built_of_pending_eq_nil {traversal : Traversal} (h : traversal.pending = []) :
    traversal.built = traversal.finished.map Asset.bare := by
  simp [built, queue, h]

theorem Traversal.files_of_pending_eq_nil {traversal : Traversal} (h : traversal.pending = []) :
    traversal.files = traversal.finished.map Asset.path := by
  simp [files, queue, h]

theorem Traversal.map_path_built (traversal : Traversal) :
    traversal.built.map Asset.path = traversal.files := by
  rw [built, files, List.map_map]
  rfl

theorem Traversal.mem_files_iff {traversal : Traversal} {path : Path} :
    path ∈ traversal.files ↔ ∃ asset ∈ traversal.built, asset.path = path := by
  rw [← map_path_built, List.mem_map]

theorem Traversal.bare_mem_built {finished : List Asset} {visit : Visit} {rest : List Visit}
    {followed : Nat} {progress : Progress} {reads : List Path} :
    visit.asset.bare ∈ (Traversal.mk finished (visit :: rest) followed progress reads).built := by
  simp [built, queue]

/-- What is kept of the chain of an asset: it starts with the asset, and it names different files
that have been built. -/
structure Visit.Linked (built : List Asset) (visit : Visit) : Prop where
  head : visit.chain.head? = some (visit.asset.path, visit.asset.id)
  links : ∀ link ∈ visit.chain, ∃ asset ∈ built, asset.path = link.1 ∧ asset.id = link.2
  distinct : Path.Distinct (visit.chain.map Prod.fst)

theorem Visit.Linked.mono {built : List Asset} {visit : Visit} (h : visit.Linked built)
    (more : List Asset) : visit.Linked (built ++ more) where
  head := h.head
  links link hlink := by
    obtain ⟨asset, hasset, hpath⟩ := h.links link hlink
    exact ⟨asset, List.mem_append_left _ hasset, hpath⟩
  distinct := h.distinct

theorem Visit.Linked.child {built : List Asset} {visit : Visit} (h : visit.Linked built)
    {asset : Asset} (hfresh : ∀ link ∈ visit.chain, ¬ link.1.same asset.path) :
    (Workshop.visitOf visit.chain asset).Linked (built ++ [asset]) where
  head := rfl
  links link hlink := by
    rcases List.mem_cons.mp hlink with rfl | hlink
    · exact ⟨asset, by simp, rfl, rfl⟩
    · exact (h.mono [asset]).links link hlink
  distinct := by
    refine Path.distinct_cons.mpr ⟨fun other hother => ?_, h.distinct⟩
    obtain ⟨link, hlink, rfl⟩ := List.mem_map.mp hother
    rw [Path.same_comm]
    exact hfresh link hlink

/-- From the entry on, the chain of an asset ends with its file. -/
theorem Visit.Linked.getLast?_reverse {built : List Asset} {visit : Visit}
    (h : visit.Linked built) :
    (visit.chain.map Prod.fst).reverse.getLast? = some visit.asset.path := by
  rw [List.getLast?_reverse, List.head?_map, h.head, Option.map_some]

namespace Workshop

/-- What every traversal keeps. -/
structure Coherent (workshop : Workshop) (traversal : Traversal) : Prop where
  ids : traversal.built.map Asset.id = (List.range traversal.built.length).map AssetId.nth
  numbering : traversal.progress.numbering.allocated = UInt32.ofNat traversal.built.length
  canonical : ∀ asset ∈ traversal.built, asset.path.IsCanonical ∧ asset.path.isAbsolute
  prepared : ∀ asset ∈ traversal.built,
    (workshop.prepare asset.path).result = .ok ⟨asset.specifiers, asset.code⟩
  known : ∀ path, traversal.progress.find? path =
    (traversal.built.find? (·.path.same path)).map Asset.id
  linked : ∀ visit ∈ traversal.pending, visit.Linked traversal.built

variable {workshop : Workshop} {reuse : Reuse} {entry : Path}

/-! ### What a step builds -/

theorem built_record (finished : List Asset) (visit : Visit) (rest : List Visit)
    (followed followed' : Nat) (progress : Progress) (reads : List Path) (specifier : String)
    (id : AssetId) :
    (Traversal.mk finished (visit.record specifier id :: rest) followed' progress reads).built =
      (Traversal.mk finished (visit :: rest) followed progress reads).built := by
  simp [Traversal.built, Traversal.queue, Visit.record, Asset.bare]

theorem built_build (finished : List Asset) (visit : Visit) (rest : List Visit)
    (followed followed' : Nat) (progress progress' : Progress) (reads reads' : List Path)
    (specifier : String) {asset : Asset} (hasset : asset.bare = asset) :
    (Traversal.mk finished
      (visit.record specifier asset.id :: (rest ++ [visitOf visit.chain asset])) followed' progress'
        reads').built =
      (Traversal.mk finished (visit :: rest) followed progress reads).built ++ [asset] := by
  rw [← hasset]
  simp [Traversal.built, Traversal.queue, Visit.record, visitOf, Asset.bare]

theorem built_finish (finished : List Asset) (visit : Visit) (rest : List Visit)
    (followed followed' : Nat) (progress : Progress) (reads : List Path) :
    (Traversal.mk (finished ++ [visit.asset]) rest followed' progress reads).built =
      (Traversal.mk finished (visit :: rest) followed progress reads).built := by
  simp [Traversal.built, Traversal.queue]

theorem files_mk (finished : List Asset) (pending : List Visit) (followed : Nat)
    (progress : Progress) (reads : List Path) :
    (Traversal.mk finished pending followed progress reads).files =
      finished.map Asset.path ++ pending.map fun visit => visit.asset.path := by
  simp [Traversal.files, Traversal.queue]

section Files

variable {finished : List Asset} {visit : Visit} {rest : List Visit} {followed followed' : Nat}
  {progress progress' : Progress} {reads reads' : List Path} {specifier : String} {id : AssetId}

theorem files_record :
    (Traversal.mk finished (visit.record specifier id :: rest) followed' progress' reads').files =
      (Traversal.mk finished (visit :: rest) followed progress reads).files := by
  rw [files_mk, files_mk]
  rfl

theorem files_build {asset : Asset} :
    (Traversal.mk finished (visit.record specifier id :: (rest ++ [visitOf visit.chain asset]))
      followed' progress' reads').files =
      (Traversal.mk finished (visit :: rest) followed progress reads).files ++ [asset.path] := by
  simp [files_mk, Visit.record, visitOf]

theorem files_finish :
    (Traversal.mk (finished ++ [visit.asset]) rest followed' progress' reads').files =
      (Traversal.mk finished (visit :: rest) followed progress reads).files := by
  simp [files_mk]

end Files

/-- A step keeps what has been built and adds one asset at most. -/
theorem Step.built_cases {before after : Traversal} (h : workshop.Step reuse before after) :
    after.built = before.built ∨ ∃ asset, after.built = before.built ++ [asset] := by
  cases h with
  | reuse => exact .inl (built_record ..)
  | build _ _ _ hasset => exact .inr ⟨_, built_build _ _ _ _ _ _ _ _ _ _ (by rw [hasset]; rfl)⟩
  | finish => exact .inl (built_finish ..)

/-- The entry is built first. -/
theorem Reached.head?_files {traversal : Traversal} (h : workshop.Reached reuse entry traversal) :
    traversal.files.head? = some entry := by
  induction h with
  | opening => rfl
  | step _ hstep ih =>
    rw [← Traversal.map_path_built] at ih ⊢
    rcases hstep.built_cases with hbuilt | ⟨asset, hbuilt⟩
    · rw [hbuilt, ih]
    · rw [hbuilt, List.map_append, List.head?_append, ih, Option.some_or]

/-! ### What is known -/

/-- The table of known files after one more asset: the asset is found under its path, unless another
one is. -/
theorem find?_add (progress : Progress) (numbering : Numbering) (asset : Asset) (path : Path) :
    (progress.add numbering asset).find? path =
      (progress.find? path).or (if asset.path.same path then some asset.id else none) := by
  have hsame : asset.path.same path = true ↔ path.components = asset.path.components := by
    simp [Path.same, eq_comm]
  unfold Progress.add Progress.find?
  dsimp only
  split_ifs with hknown hpath hpath
  · rw [hsame.mp hpath]
    obtain ⟨id, hid⟩ := Option.isSome_iff_exists.mp hknown
    rw [hid, Option.some_or]
  · rw [Option.or_none]
  · rw [List.lookup_append, List.lookup_cons, beq_iff_eq.mpr (hsame.mp hpath)]
  · rw [List.lookup_append, List.lookup_cons, beq_eq_false_iff_ne.mpr fun h => hpath (hsame.mpr h)]
    rfl

/-- Where no asset is found for a specifier, what it refers to is not on the chain. -/
theorem Coherent.fresh {traversal : Traversal} (h : workshop.Coherent traversal) {visit : Visit}
    (hvisit : visit ∈ traversal.pending) {path : Path}
    (hfind : reuse.find? traversal.progress visit path = none) :
    ∀ link ∈ visit.chain, ¬ link.1.same path := by
  intro link hlink hsame
  cases reuse with
  | onChain =>
    have hnone := Option.map_eq_none_iff.mp hfind
    exact List.find?_eq_none.mp hnone link hlink hsame
  | byPath =>
    obtain ⟨asset, hasset, hpath, -⟩ := (h.linked visit hvisit).links link hlink
    have hnone : (traversal.built.find? (·.path.same path)).map Asset.id = none :=
      (h.known path).symm.trans hfind
    exact List.find?_eq_none.mp (Option.map_eq_none_iff.mp hnone) asset hasset (hpath ▸ hsame)

/-! ### Numbers -/

/-- The number of an asset is its place among those that have been built. -/
theorem Coherent.id_getElem {traversal : Traversal} (h : workshop.Coherent traversal) {i : Nat}
    (hi : i < traversal.built.length) : traversal.built[i].id = .nth i := by
  have hlength : i < (traversal.built.map Asset.id).length := by rwa [List.length_map]
  have hid : (traversal.built.map Asset.id)[i] = .nth i := by
    simp only [h.ids, List.getElem_map, List.getElem_range]
  rwa [List.getElem_map] at hid

/-- The asset with a number is the one at this place. -/
theorem Coherent.getElem?_index {traversal : Traversal} (h : workshop.Coherent traversal)
    (hcount : traversal.built.length < UInt32.size) {asset : Asset}
    (hasset : asset ∈ traversal.built) :
    traversal.built[asset.id.index]? = some asset := by
  obtain ⟨i, hi, rfl⟩ := List.mem_iff_getElem.mp hasset
  rw [h.id_getElem hi, AssetId.index_nth (Nat.lt_trans hi hcount), List.getElem?_eq_getElem hi]

/-- When no asset is left to finish, the number of an asset is its place. -/
theorem Coherent.index_getElem_finished {traversal : Traversal} (h : workshop.Coherent traversal)
    (hpending : traversal.pending = []) (hcount : traversal.finished.length < UInt32.size) {i : Nat}
    (hi : i < traversal.finished.length) : traversal.finished[i].id.index = i := by
  have hbuilt := Traversal.built_of_pending_eq_nil hpending
  have hlt : i < traversal.built.length := by rwa [hbuilt, List.length_map]
  have hid := h.id_getElem hlt
  simp only [hbuilt, List.getElem_map, Asset.bare] at hid
  rw [hid, AssetId.index_nth (Nat.lt_trans hi hcount)]

/-- What is built next takes the number behind those that have been built. -/
theorem Coherent.id_stamp {traversal : Traversal} (h : workshop.Coherent traversal) (path : Path)
    (analysis : Linking.Analysis) :
    (stamp traversal.progress.numbering path analysis).id = .nth traversal.built.length := by
  rw [stamp, h.numbering, AssetId.nth]

/-! ### What a step keeps -/

/-- What is kept does not hang on how much has been followed. -/
theorem Coherent.congr {before after : Traversal} (h : workshop.Coherent before)
    (hbuilt : after.built = before.built) (hprogress : after.progress = before.progress)
    (hlinked : ∀ visit ∈ after.pending, visit.Linked before.built) : workshop.Coherent after where
  ids := by rw [hbuilt]; exact h.ids
  numbering := by rw [hbuilt, hprogress]; exact h.numbering
  canonical := by rw [hbuilt]; exact h.canonical
  prepared := by rw [hbuilt]; exact h.prepared
  known := by rw [hbuilt, hprogress]; exact h.known
  linked := by rw [hbuilt]; exact hlinked

/-- One more asset keeps what is kept, if it takes the next number and its file was not on the
chain that leads to it. -/
theorem Coherent.add {before after : Traversal} (h : workshop.Coherent before) {path : Path}
    {analysis : Linking.Analysis} (hpath : path.IsCanonical ∧ path.isAbsolute)
    (hprepare : (workshop.prepare path).result = .ok analysis)
    (hbuilt : after.built = before.built ++ [stamp before.progress.numbering path analysis])
    (hprogress : after.progress = before.progress.add before.progress.numbering.next.2
      (stamp before.progress.numbering path analysis))
    (hlinked : ∀ visit ∈ after.pending, visit.Linked after.built) : workshop.Coherent after where
  ids := by
    rw [hbuilt, List.map_append, h.ids, List.length_append, List.length_singleton,
      List.range_succ, List.map_append, List.map_singleton, List.map_singleton, stamp,
      h.numbering, AssetId.nth]
  numbering := by
    rw [hbuilt, hprogress, List.length_append, List.length_singleton, UInt32.ofNat_add,
      ← h.numbering]
    rfl
  canonical := by
    rw [hbuilt]
    exact List.forall_mem_append.mpr ⟨h.canonical, by simpa [stamp] using hpath⟩
  prepared := by
    rw [hbuilt]
    exact List.forall_mem_append.mpr ⟨h.prepared, by simpa [stamp] using hprepare⟩
  known other := by
    rw [hbuilt, hprogress, find?_add, h.known, List.find?_append, Option.map_or,
      List.find?_singleton]
    split_ifs <;> rfl
  linked := hlinked

/-- A step keeps what is kept. -/
theorem Coherent.step {before after : Traversal} (h : workshop.Coherent before)
    (hstep : workshop.Step reuse before after) : workshop.Coherent after := by
  cases hstep with
  | @reuse finished visit rest followed progress reads specifier id hspecifier hfind =>
    refine h.congr (built_record ..) rfl fun other hother => ?_
    rcases List.mem_cons.mp hother with rfl | hother
    · have hlinked := h.linked visit List.mem_cons_self
      exact ⟨hlinked.head, hlinked.links, hlinked.distinct⟩
    · exact h.linked other (List.mem_cons_of_mem _ hother)
  | @build finished visit rest followed progress reads specifier analysis asset hspecifier hfind
      hprepare hasset =>
    have hvisit := h.linked visit List.mem_cons_self
    have habsolute : visit.asset.path.isAbsolute :=
      (h.canonical visit.asset.bare Traversal.bare_mem_built).2
    have hpath : asset.path = visit.asset.path.resolve specifier := by rw [hasset]; rfl
    have hfresh : ∀ link ∈ visit.chain, ¬ link.1.same asset.path := by
      rw [hpath]
      exact h.fresh List.mem_cons_self hfind
    subst hasset
    refine h.add ⟨Path.isCanonical_resolve _ _, Path.isAbsolute_resolve habsolute _⟩ hprepare
      (built_build _ _ _ _ _ _ _ _ _ _ rfl) rfl fun other hother => ?_
    rw [built_build _ _ _ followed _ progress _ reads _ _ rfl]
    rcases List.mem_cons.mp hother with rfl | hother
    · have hlinked := hvisit.mono
        [stamp progress.numbering (visit.asset.path.resolve specifier) analysis]
      exact ⟨hlinked.head, hlinked.links, hlinked.distinct⟩
    rcases List.mem_append.mp hother with hother | hother
    · exact (h.linked other (List.mem_cons_of_mem _ hother)).mono _
    · rw [List.mem_singleton.mp hother]
      exact hvisit.child hfresh
  | @finish finished visit rest followed progress reads hdone =>
    exact h.congr (built_finish ..) rfl fun other hother =>
      h.linked other (List.mem_cons_of_mem _ hother)

/-- The traversal of which nothing but the entry has been built keeps it. -/
theorem coherent_opening {analysis : Linking.Analysis} (hcanonical : entry.IsCanonical)
    (habsolute : entry.isAbsolute) (hprepare : (workshop.prepare entry).result = .ok analysis) :
    workshop.Coherent (workshop.opening entry analysis) := by
  have hnothing : workshop.Coherent ⟨[], [], 0, .start, []⟩ :=
    ⟨rfl, rfl, by simp [Traversal.built, Traversal.queue],
      by simp [Traversal.built, Traversal.queue], fun _ => rfl, by simp⟩
  refine hnothing.add ⟨hcanonical, habsolute⟩ hprepare rfl rfl fun visit hvisit => ?_
  rw [List.mem_singleton.mp hvisit]
  refine ⟨rfl, fun link hlink => ?_, Path.distinct_singleton _⟩
  rw [List.mem_singleton.mp hlink]
  exact ⟨_, List.mem_singleton_self _, rfl, rfl⟩

/-- Every traversal that is reached from an entry is coherent. -/
theorem Reached.coherent {traversal : Traversal} (h : workshop.Reached reuse entry traversal)
    (hcanonical : entry.IsCanonical) (habsolute : entry.isAbsolute) :
    workshop.Coherent traversal := by
  induction h with
  | opening hprepare => exact coherent_opening hcanonical habsolute hprepare
  | step _ hstep ih => exact ih.step hstep

end Workshop

end ModuleBundler
