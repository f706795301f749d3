import Mathlib.Data.List.Induction
import Mathlib.Order.Bounds.Basic
import ModuleBundler.Proofs.Graph.Chains
import ModuleBundler.Proofs.Graph.Repetition

/-!
# Files that are built once are found breadth first

When every file is built once, the files of the assets are the least set that holds the entry and
what its members import. The chain of an asset is a shortest one to its file: a file is built for
the first asset that imports it, and the chains come in order.

## Main definitions

* `Workshop.Distance` — the least number of imports that lead to a file.
* `Workshop.Spanned` — what a traversal keeps of its files when every file is built once.
* `Workshop.BreadthFirst` — assets of all needed files, in the order of their distance.

## Main results

* `Workshop.Reached.reads_eq_files` — the files that are asked for are those that are built.
* `Workshop.Reached.exists_spanned` — every traversal that builds files once keeps it.
* `Workshop.graph_breadthFirst` — the assets of every such graph.
-/

namespace ModuleBundler.Workshop

variable {workshop : Workshop} {reuse : Reuse} {entry : Path}

/-! ### Files that are asked for -/

/-- Every file is asked for once for each asset that is built from it. -/
theorem Reached.reads_eq_files (hsilent : workshop.analyzer.Silent) {traversal : Traversal}
    (h : workshop.Reached reuse entry traversal) : traversal.reads = traversal.files := by
  induction h with
  | opening => exact reads_prepare hsilent entry
  | step _ hstep ih =>
    cases hstep with
    | reuse => exact ih.trans files_record.symm
    | @build _ visit _ _ _ _ specifier _ asset _ _ _ hasset =>
      have hpath : asset.path = visit.asset.path.resolve specifier := by rw [hasset]; rfl
      rw [reads_prepare hsilent, ← hpath]
      exact (congrArg (· ++ [asset.path]) ih).trans files_build.symm
    | finish => exact ih.trans files_finish.symm

/-! ### What a traversal keeps of its files -/

/-- What a traversal that builds every file once keeps of its files: none is there twice, what the
specifiers that have been followed refer to is there, and no finished asset imports a file that was
built for a later one. -/
structure Spanned (workshop : Workshop) (entry : Path) (traversal : Traversal)
    (done ahead : List (List Nat)) : Prop where
  nodup : traversal.files.Nodup
  complete : ∀ chain position, Followed traversal.followed done ahead chain position →
    ∀ file, workshop.destination? entry (chain ++ [position]) = some file →
      file ∈ traversal.files
  first : ∀ chain position file, chain ++ [position] ∈ done ++ ahead →
    workshop.destination? entry (chain ++ [position]) = some file →
      ∀ other ∈ done, Before other chain →
        ∀ i, workshop.destination? entry (other ++ [i]) ≠ some file

namespace Spanned

variable {finished : List Asset} {visit : Visit} {rest : List Visit} {followed : Nat}
  {progress progress' : Progress} {reads reads' : List Path} {done others : List (List Nat)}
  {chain : List Nat} {specifier : String} {id : AssetId}
  (h : workshop.Spanned entry ⟨finished, visit :: rest, followed, progress, reads⟩ done
    (chain :: others))
  (hcharted : workshop.Charted entry ⟨finished, visit :: rest, followed, progress, reads⟩ done
    (chain :: others))
  (hcoherent : workshop.Coherent ⟨finished, visit :: rest, followed, progress, reads⟩)

include h hcharted hcoherent

/-- A specifier that refers to a file that is there. -/
theorem record (hspecifier : visit.asset.specifiers[followed]? = some specifier)
    (hmem : visit.asset.path.resolve specifier ∈
      (Traversal.mk finished (visit :: rest) followed progress reads).files) :
    workshop.Spanned entry
      ⟨finished, visit.record specifier id :: rest, followed + 1, progress', reads'⟩ done
        (chain :: others) := by
  have hfiles : (Traversal.mk finished (visit.record specifier id :: rest) (followed + 1) progress'
      reads').files = (Traversal.mk finished (visit :: rest) followed progress reads).files :=
    files_record
  refine ⟨hfiles ▸ h.nodup, fun first position hfollowed file hfile => ?_, h.first⟩
  rw [hfiles]
  rcases hfollowed.of_succ others with hbefore | ⟨rfl, rfl⟩
  · exact h.complete first position hbefore file hfile
  · rw [hcharted.destination?_next hcoherent, hcoherent.importAt?_of_specifier hspecifier] at hfile
    cases hfile
    exact hmem

/-- A file that is built for a specifier is imported by no asset that is finished. -/
theorem build (hspecifier : visit.asset.specifiers[followed]? = some specifier) {asset : Asset}
    (hpath : asset.path = visit.asset.path.resolve specifier)
    (hmem : asset.path ∉ (Traversal.mk finished (visit :: rest) followed progress reads).files) :
    workshop.Spanned entry
      ⟨finished, visit.record specifier id :: (rest ++ [visitOf visit.chain asset]), followed + 1,
        progress', reads'⟩ done (chain :: (others ++ [chain ++ [followed]])) := by
  have hnext : workshop.destination? entry (chain ++ [followed]) = some asset.path := by
    rw [hcharted.destination?_next hcoherent, hcoherent.importAt?_of_specifier hspecifier, hpath]
  have hfiles : (Traversal.mk finished
      (visit.record specifier id :: (rest ++ [visitOf visit.chain asset])) (followed + 1) progress'
        reads').files =
      (Traversal.mk finished (visit :: rest) followed progress reads).files ++ [asset.path] :=
    files_build
  have happend : done ++ chain :: (others ++ [chain ++ [followed]]) =
      (done ++ chain :: others) ++ [chain ++ [followed]] := by simp
  refine ⟨?_, fun first position hfollowed file hfile => ?_,
    fun first position file hfirst hfile other hother hbefore i hi => ?_⟩
  · rw [hfiles]
    refine List.nodup_append.mpr ⟨h.nodup, List.nodup_singleton _, ?_⟩
    rintro file hfile _ hlast rfl
    exact hmem (List.mem_singleton.mp hlast ▸ hfile)
  · rw [hfiles]
    rcases hfollowed.of_succ others with hbefore | ⟨rfl, rfl⟩
    · exact List.mem_append_left _ (h.complete first position hbefore file hfile)
    · rw [hnext] at hfile
      cases hfile
      exact List.mem_append_right _ (List.mem_singleton_self _)
  · rw [happend] at hfirst
    rcases List.mem_append.mp hfirst with hfirst | hlast
    · exact h.first first position file hfirst hfile other hother hbefore i hi
    · rw [List.mem_singleton.mp hlast, hnext] at hfile
      cases hfile
      exact hmem (h.complete other i (Or.inl hother) _ hi)

/-- A finished asset has no specifier behind those that have been followed, and no chain goes on
from a later one. -/
theorem finish (hdone : visit.asset.specifiers[followed]? = none) :
    workshop.Spanned entry ⟨finished ++ [visit.asset], rest, 0, progress', reads'⟩
      (done ++ [chain]) others := by
  have hfiles : (Traversal.mk (finished ++ [visit.asset]) rest 0 progress' reads').files =
      (Traversal.mk finished (visit :: rest) followed progress reads).files :=
    files_finish
  have happend : done ++ [chain] ++ others = done ++ chain :: others := by simp
  refine ⟨hfiles ▸ h.nodup, fun first position hfollowed file hfile => ?_,
    fun first position file hfirst hfile other hother hbefore i hi => ?_⟩
  · rw [hfiles]
    rcases hfollowed.of_finish followed with hbefore | ⟨rfl, hle⟩
    · exact h.complete first position hbefore file hfile
    · rw [hcharted.destination?_next hcoherent, hcoherent.importAt?_eq_none hdone hle] at hfile
      cases hfile
  · rw [happend] at hfirst
    rcases List.mem_append.mp hother with hold | hlast
    · exact h.first first position file hfirst hfile other hold hbefore i hi
    · obtain rfl := List.mem_singleton.mp hlast
      -- the asset that is finished now comes behind all assets that chains go on from
      rcases hcharted.origin first position hfirst with hold | ⟨hhead, -⟩
      · have hafter := (List.pairwise_append.mp hcharted.ordered).2.2 first hold other
          List.mem_cons_self
        exact Std.Asymm.asymm _ _ hbefore hafter
      · cases hhead
        exact Std.Irrefl.irrefl _ hbefore

end Spanned

/-- A step keeps what is kept of the files. -/
theorem exists_spanned_of_step {before after : Traversal} {done ahead : List (List Nat)}
    (hcoherent : workshop.Coherent before) (hcharted : workshop.Charted entry before done ahead)
    (h : workshop.Spanned entry before done ahead) (hstep : workshop.Step .byPath before after) :
    ∃ done' ahead', workshop.Charted entry after done' ahead' ∧
      workshop.Spanned entry after done' ahead' := by
  cases hstep with
  | reuse hspecifier hfind =>
    obtain ⟨chain, others, rfl⟩ := hcharted.exists_head
    obtain ⟨target, htarget, -, hpath⟩ := hcoherent.exists_of_find?_eq_some List.mem_cons_self
      (Path.isCanonical_resolve _ _) hfind
    exact ⟨done, _, hcharted.record, h.record hcharted hcoherent hspecifier
      (Traversal.mem_files_iff.mpr ⟨target, htarget, hpath⟩)⟩
  | @build _ visit _ _ _ _ specifier _ asset hspecifier hfind _ hasset =>
    obtain ⟨chain, others, rfl⟩ := hcharted.exists_head
    have hpath : asset.path = visit.asset.path.resolve specifier := by rw [hasset]; rfl
    have hmem := (hcoherent.find?_eq_none_iff (Path.isCanonical_resolve _ _)).mp hfind
    exact ⟨done, _, hcharted.build hcoherent hspecifier hfind hpath,
      h.build hcharted hcoherent hspecifier hpath (hpath ▸ hmem)⟩
  | finish hdone =>
    obtain ⟨chain, others, rfl⟩ := hcharted.exists_head
    exact ⟨_, others, hcharted.finish hcoherent, h.finish hcharted hcoherent hdone⟩

/-- Every traversal that builds files once keeps what is kept of its files. -/
theorem Reached.exists_spanned {traversal : Traversal}
    (h : workshop.Reached .byPath entry traversal) (hcanonical : entry.IsCanonical)
    (habsolute : entry.isAbsolute) :
    ∃ done ahead, workshop.Charted entry traversal done ahead ∧
      workshop.Spanned entry traversal done ahead := by
  induction h with
  | @opening analysis hprepare =>
    refine ⟨[], [[]], .opening analysis, List.nodup_singleton _, ?_, ?_⟩
    · rintro chain position (hmem | ⟨-, hlt⟩)
      · exact absurd hmem List.not_mem_nil
      · exact absurd hlt (Nat.not_lt_zero _)
    · intro chain position file hmem
      simp at hmem
  | step hbefore hstep ih =>
    obtain ⟨done, ahead, hcharted, hspanned⟩ := ih
    exact exists_spanned_of_step (hbefore.coherent hcanonical habsolute) hcharted hspanned hstep

/-! ### Distances -/

/-- The least number of imports that lead from the entry to a file. -/
def Distance (workshop : Workshop) (entry file : Path) (distance : Nat) : Prop :=
  IsLeast {n | ∃ chain : List Nat, chain.length = n ∧
    workshop.destination? entry chain = some file} distance

theorem Distance.unique {file : Path} {n m : Nat} (h : workshop.Distance entry file n)
    (h' : workshop.Distance entry file m) : n = m :=
  IsLeast.unique h h'

/-- What is closed under imports holds the ends of all chains. -/
theorem mem_of_destination?_eq_some {files : Set Path} (hentry : entry ∈ files)
    (hclosed : ∀ file ∈ files, ∀ other, workshop.Imports file other → other ∈ files)
    {chain : List Nat} {file : Path} (h : workshop.destination? entry chain = some file) :
    file ∈ files := by
  induction chain using List.reverseRecOn generalizing file with
  | nil =>
    rw [destination?_nil, Option.some.injEq] at h
    exact h ▸ hentry
  | append_singleton chain position ih =>
    obtain ⟨importer, himporter, himport⟩ :=
      Option.bind_eq_some_iff.mp ((destination?_concat ..).symm.trans h)
    exact hclosed importer (ih himporter) file ⟨position, himport⟩

section Finished

variable {traversal : Traversal} {done : List (List Nat)}

/-- For every chain there is one of an asset that ends at the same file and is not longer. -/
theorem Spanned.exists_chain (h : workshop.Spanned entry traversal done [])
    (hcoherent : workshop.Coherent traversal)
    (hcharted : workshop.Charted entry traversal done []) {chain : List Nat} {file : Path}
    (hfile : workshop.destination? entry chain = some file) :
    ∃ shortest ∈ done, workshop.destination? entry shortest = some file ∧
      shortest.length ≤ chain.length := by
  induction chain using List.reverseRecOn generalizing file with
  | nil => exact ⟨[], by simpa using hcharted.nil_mem, hfile, le_rfl⟩
  | append_singleton chain position ih =>
    obtain ⟨importer, himporter, himport⟩ :=
      Option.bind_eq_some_iff.mp ((destination?_concat ..).symm.trans hfile)
    obtain ⟨other, hother, hend, hle⟩ := ih himporter
    have hnext : workshop.destination? entry (other ++ [position]) = some file := by
      rw [destination?_concat, hend, Option.bind_some, himport]
    have hmem : file ∈ traversal.files := h.complete other position (Or.inl hother) file hnext
    obtain ⟨shortest, hshortest, hlast⟩ := hcharted.exists_destination hcoherent hmem
    refine ⟨shortest, by simpa using hshortest, hlast, ?_⟩
    rcases List.eq_nil_or_concat shortest with rfl | ⟨first, last, rfl⟩
    · exact Nat.zero_le _
    rw [List.concat_eq_append] at hshortest hlast ⊢
    simp only [List.length_append, List.length_singleton]
    -- an asset with a shorter chain would have imported the file before
    by_contra hlt
    have hbefore : Before other first := .of_length_lt (by omega)
    exact h.first first last file hshortest hlast other hother hbefore position hnext

/-- The chain of an asset is a shortest one to its file. -/
theorem Spanned.distance (h : workshop.Spanned entry traversal done [])
    (hcoherent : workshop.Coherent traversal)
    (hcharted : workshop.Charted entry traversal done []) {chain : List Nat} (hchain : chain ∈ done)
    {file : Path} (hfile : workshop.destination? entry chain = some file) :
    workshop.Distance entry file chain.length := by
  refine ⟨⟨chain, rfl, hfile⟩, ?_⟩
  rintro _ ⟨other, rfl, hother⟩
  obtain ⟨shortest, hshortest, hend, hle⟩ := h.exists_chain hcoherent hcharted hother
  have hnodup : (done.map (workshop.destination? entry)).Nodup := by
    have hmap := hcharted.map_destination? hcoherent
    rw [List.append_nil] at hmap
    rw [hmap]
    exact h.nodup.map (Option.some_injective Path)
  rwa [List.inj_on_of_nodup_map hnodup hshortest hchain (hend.trans hfile.symm)] at hle

theorem Spanned.distance_getElem (h : workshop.Spanned entry traversal done [])
    (hcoherent : workshop.Coherent traversal)
    (hcharted : workshop.Charted entry traversal done []) {i : Nat}
    (hi : i < traversal.finished.length) (hdone : i < done.length) :
    workshop.Distance entry traversal.finished[i].path done[i].length :=
  h.distance hcoherent hcharted (List.getElem_mem hdone) (hcharted.destination?_getElem hi hdone)

/-- The chain before the last import of an asset is that of the first asset that imports its
file. -/
theorem Spanned.exists_parent (h : workshop.Spanned entry traversal done [])
    (hcharted : workshop.Charted entry traversal done []) {chain : List Nat} {position i : Nat}
    {file : Path} (hi : done[i]? = some (chain ++ [position]))
    (hfile : workshop.destination? entry (chain ++ [position]) = some file) :
    ∃ j < i, done[j]? = some chain ∧
      ∀ k < j, ∀ other, done[k]? = some other → ∀ position,
        workshop.destination? entry (other ++ [position]) ≠ some file := by
  have hordered := hcharted.ordered
  rw [List.append_nil, List.pairwise_iff_getElem] at hordered
  have hmem : chain ++ [position] ∈ done ++ [] := by simpa using List.mem_of_getElem? hi
  obtain ⟨hilt, hichain⟩ := List.getElem?_eq_some_iff.mp hi
  have hdone : chain ∈ done := (hcharted.origin chain position hmem).resolve_right (by simp)
  obtain ⟨j, hj, hjchain⟩ := List.mem_iff_getElem.mp hdone
  refine ⟨j, ?_, by rw [List.getElem?_eq_getElem hj, hjchain], fun k hk other hother => ?_⟩
  · by_contra hle
    rcases Nat.eq_or_lt_of_le (Nat.le_of_not_lt hle) with rfl | hlt
    · rw [hjchain] at hichain
      simp at hichain
    · have hbefore := hordered i j hilt hj hlt
      rw [hichain, hjchain] at hbefore
      have hle := length_le_of_before hbefore
      simp at hle
  · obtain ⟨hklt, rfl⟩ := List.getElem?_eq_some_iff.mp hother
    have hbefore : Before done[k] chain := hjchain ▸ hordered k j hklt hj hk
    exact h.first chain position file hmem hfile done[k] (List.getElem_mem hklt) hbefore

/-- What lies at a distance was built for the first asset that imports it, which is one import
nearer. -/
theorem Spanned.exists_importer (h : workshop.Spanned entry traversal done [])
    (hcoherent : workshop.Coherent traversal)
    (hcharted : workshop.Charted entry traversal done []) {i n : Nat}
    (hi : i < traversal.finished.length)
    (hn : workshop.Distance entry traversal.finished[i].path (n + 1)) :
    ∃ (j : Nat) (hj : j < traversal.finished.length), j < i ∧
      workshop.Distance entry traversal.finished[j].path n ∧
      workshop.Imports traversal.finished[j].path traversal.finished[i].path ∧
      ∀ (k : Nat) (hk : k < traversal.finished.length), k < j →
        ¬ workshop.Imports traversal.finished[k].path traversal.finished[i].path := by
  have hlength := hcharted.length_done
  have hdone : i < done.length := hlength ▸ hi
  have hfile := hcharted.destination?_getElem hi hdone
  have hsucc := hn.unique (h.distance_getElem hcoherent hcharted hi hdone)
  obtain hnil | ⟨chain, position, hchain⟩ := List.eq_nil_or_concat done[i]
  · simp [hnil] at hsucc
  rw [List.concat_eq_append] at hchain
  rw [hchain] at hfile hsucc
  obtain ⟨j, hj, hjchain, hfirst⟩ := h.exists_parent hcharted
    (by rw [List.getElem?_eq_getElem hdone, hchain]) hfile
  obtain ⟨hjdone, rfl⟩ := List.getElem?_eq_some_iff.mp hjchain
  have hjlt : j < traversal.finished.length := hlength ▸ hjdone
  have hlast := hcharted.destination?_getElem hjlt hjdone
  refine ⟨j, hjlt, hj, ?_, ⟨position, ?_⟩, ?_⟩
  · have hn : n = done[j].length := by simpa using hsucc
    exact hn ▸ h.distance_getElem hcoherent hcharted hjlt hjdone
  · rwa [destination?_concat, hlast, Option.bind_some] at hfile
  · rintro k hk hlt ⟨other, himport⟩
    have hkdone : k < done.length := hlength ▸ hk
    refine hfirst k hlt done[k] (List.getElem?_eq_getElem hkdone) other ?_
    rw [destination?_concat, hcharted.destination?_getElem hk hkdone, Option.bind_some, himport]

/-- The files are the least set that holds the entry and what its members import. -/
theorem Spanned.isLeast_files (h : workshop.Spanned entry traversal done [])
    (hcoherent : workshop.Coherent traversal)
    (hcharted : workshop.Charted entry traversal done []) :
    IsLeast {files : Set Path | entry ∈ files ∧
      ∀ file ∈ files, ∀ other, workshop.Imports file other → other ∈ files}
      {file | file ∈ traversal.files} := by
  refine ⟨⟨?_, ?_⟩, fun files hclosed file hfile => ?_⟩
  · have hmap := List.mem_map_of_mem (f := workshop.destination? entry) hcharted.nil_mem
    rw [hcharted.map_destination? hcoherent, destination?_nil] at hmap
    simpa using hmap
  · rintro file hfile other ⟨position, himport⟩
    obtain ⟨chain, hchain, hend⟩ := hcharted.exists_destination hcoherent hfile
    rw [List.append_nil] at hchain
    refine h.complete chain position (Or.inl hchain) other ?_
    rw [destination?_concat, hend, Option.bind_some, himport]
  · obtain ⟨chain, -, hend⟩ := hcharted.exists_destination hcoherent hfile
    exact mem_of_destination?_eq_some hclosed.1 hclosed.2 hend

end Finished

/-! ### The assets of a graph -/

/-- Assets of all needed files, one for each, in the order of their distance from the entry. What a
file other than the entry was built for is the first asset that imports it. -/
structure BreadthFirst (workshop : Workshop) (entry : Path) (assets : List Asset) : Prop where
  index : ∀ (i : Nat) (hi : i < assets.length), assets[i].id.index = i
  distinct : Path.Distinct (assets.map Asset.path)
  least : IsLeast {files : Set Path | entry ∈ files ∧
    ∀ file ∈ files, ∀ other, workshop.Imports file other → other ∈ files}
    {file | file ∈ assets.map Asset.path}
  reached : ∀ asset ∈ assets, ∃ n, workshop.Distance entry asset.path n
  ordered : assets.Pairwise fun first second => ∀ n m, workshop.Distance entry first.path n →
    workshop.Distance entry second.path m → n ≤ m
  importer : ∀ (i : Nat) (hi : i < assets.length) (n : Nat),
    workshop.Distance entry assets[i].path (n + 1) →
      ∃ (j : Nat) (hj : j < assets.length), j < i ∧ workshop.Distance entry assets[j].path n ∧
        workshop.Imports assets[j].path assets[i].path ∧
        ∀ (k : Nat) (hk : k < assets.length), k < j →
          ¬ workshop.Imports assets[k].path assets[i].path

/-- No file is there twice, however its path is written. -/
theorem Spanned.distinct_files {traversal : Traversal} {done ahead : List (List Nat)}
    (h : workshop.Spanned entry traversal done ahead) (hcoherent : workshop.Coherent traversal) :
    Path.Distinct traversal.files := by
  refine Path.distinct_of_nodup (fun file hfile => ?_) h.nodup
  obtain ⟨asset, hasset, rfl⟩ := Traversal.mem_files_iff.mp hfile
  exact (hcoherent.canonical asset hasset).1

/-- The assets of a traversal that has finished all of them and builds every file once. -/
theorem Spanned.breadthFirst {traversal : Traversal} {done : List (List Nat)}
    (h : workshop.Spanned entry traversal done []) (hcoherent : workshop.Coherent traversal)
    (hcharted : workshop.Charted entry traversal done []) (hpending : traversal.pending = [])
    (hcount : traversal.finished.length < UInt32.size) :
    workshop.BreadthFirst entry traversal.finished := by
  have hfiles := Traversal.files_of_pending_eq_nil hpending
  have hlength := hcharted.length_done
  have hdistinct := h.distinct_files hcoherent
  refine ⟨fun i hi => hcoherent.index_getElem_finished hpending hcount hi, hfiles ▸ hdistinct,
    hfiles ▸ h.isLeast_files hcoherent hcharted, fun asset hasset => ?_,
    List.pairwise_iff_getElem.mpr fun i j hi hj hlt n m hn hm => ?_,
    fun i hi n hn => h.exists_importer hcoherent hcharted hi hn⟩
  · obtain ⟨i, hi, rfl⟩ := List.mem_iff_getElem.mp hasset
    exact ⟨_, h.distance_getElem hcoherent hcharted hi (hlength ▸ hi)⟩
  · have hordered := hcharted.ordered
    rw [List.append_nil, List.pairwise_iff_getElem] at hordered
    have hbefore := hordered i j (hlength ▸ hi) (hlength ▸ hj) hlt
    rw [hn.unique (h.distance_getElem hcoherent hcharted hi (hlength ▸ hi)),
      hm.unique (h.distance_getElem hcoherent hcharted hj (hlength ▸ hj))]
    exact length_le_of_before hbefore

/-- **Files that are built once are found breadth first.** -/
theorem graph_breadthFirst {directory path : Path} {assets : List Asset}
    (hdirectory : directory.isAbsolute)
    (h : (workshop.graph .byPath directory path).result = .ok assets)
    (hcount : assets.length < UInt32.size) :
    ∃ entry, Path.absolute? directory path = some entry ∧
      workshop.BreadthFirst entry assets ∧
      (workshop.analyzer.Silent →
        (workshop.graph .byPath directory path).reads = assets.map Asset.path) := by
  obtain ⟨entry, hentry, traversal, hreached, hcoherent, hpending, rfl, hreads⟩ :=
    exists_reached_of_graph_eq_ok hdirectory h
  obtain ⟨hcanonical, habsolute⟩ := Path.absolute?_spec hdirectory hentry
  obtain ⟨done, ahead, hcharted, hspanned⟩ := hreached.exists_spanned hcanonical habsolute
  obtain rfl : ahead = [] := hcharted.ahead_eq_nil hpending
  refine ⟨entry, hentry,
    hspanned.breadthFirst hcoherent hcharted hpending hcount, fun hsilent => ?_⟩
  rw [← hreads, hreached.reads_eq_files hsilent, Traversal.files_of_pending_eq_nil hpending]

theorem graph_breadthFirst_pair :
    Path.root.isAbsolute ∧ pairAssets.length < UInt32.size ∧ pair.analyzer.Silent ∧
      ∃ entry, Path.absolute? .root (.ofString "a") = some entry ∧
        pair.BreadthFirst entry pairAssets ∧
        (pair.graph .byPath .root (.ofString "a")).reads = pairAssets.map Asset.path := by
  have hsilent : pair.analyzer.Silent := fun _ _ => rfl
  obtain ⟨entry, hentry, hbreadth, hreads⟩ :=
    graph_breadthFirst rfl result_graph_byPath_pair (by decide)
  exact ⟨rfl, by decide, hsilent, entry, hentry, hbreadth, hreads hsilent⟩

end ModuleBundler.Workshop
