import ModuleBundler.Proofs.Graph.ChainCount
import ModuleBundler.Proofs.Storage.FileTree

/-!
# Numbers run out

The counter that numbers are taken from has 32 bits, and nothing checks whether there is a number
left. Behind the last number the counter starts again, so two assets of one build have the same
number as soon as there are more assets than numbers.

When every file is built once, there are no more assets than files. When files are built again there
are as many as simple chains of imports, and few files have many: thirty-three modules of which each
one imports the next one and exports what that one exports have more of them than there are numbers.

## Main definitions

* `Numbering.Overflows` — the counter has come to its end.
* `Workshop.Draws` — the places of the counter at which numbers are taken.
* `Workshop.Numbered` — what is true of the numbers of a traversal.
* `Workshop.nested` — thirty-three modules that need more assets than there are numbers.

## Main results

* `Workshop.Reached.exists_overflows_iff` — when the counter overflows.
* `Workshop.graph_numbered` — when the numbers of a build run out, and what bounds its assets.
* `Workshop.Row.runs_out` — they run out for files in a long enough row.
* `Workshop.exists_number_repeated` — the numbers of a build may run out.
-/

namespace ModuleBundler

/-! ### The end of the counter -/

/-- The counter has come to its end: to take one more number does not raise it by one. -/
def Numbering.Overflows (numbering : Numbering) : Prop :=
  numbering.next.2.allocated.toNat ≠ numbering.allocated.toNat + 1

theorem Numbering.overflows_iff {numbering : Numbering} :
    numbering.Overflows ↔ numbering.allocated.toNat + 1 = UInt32.size := by
  have hlt := numbering.allocated.toNat_lt
  have hnext : numbering.next.2.allocated.toNat = (numbering.allocated.toNat + 1) % 2 ^ 32 :=
    UInt32.toNat_add ..
  rw [Overflows, hnext]
  change _ ↔ numbering.allocated.toNat + 1 = 2 ^ 32
  omega

/-- Behind the last number the first one comes again. -/
theorem AssetId.index_nth_eq_mod (n : Nat) : (AssetId.nth n).index = n % UInt32.size :=
  UInt32.toNat_ofNat

/-- The first numbers are different, until all of them have been handed out. -/
theorem AssetId.nodup_map_nth_iff {n : Nat} :
    ((List.range n).map AssetId.nth).Nodup ↔ n ≤ UInt32.size := by
  constructor
  · intro h
    by_contra hlt
    rw [Nat.not_le] at hlt
    have hsame : AssetId.nth 0 = AssetId.nth UInt32.size := rfl
    have hplaces := List.inj_on_of_nodup_map h (List.mem_range.mpr (Nat.zero_lt_of_lt hlt))
      (List.mem_range.mpr hlt) hsame
    cases hplaces
  · intro h
    refine List.nodup_range.map_on fun i hi j hj heq => ?_
    rw [List.mem_range] at hi hj
    rw [← AssetId.index_nth (hi.trans_le h), heq, AssetId.index_nth (hj.trans_le h)]

namespace Workshop

variable {workshop : Workshop} {reuse : Reuse} {entry : Path}

/-! ### Taking numbers -/

/-- The places of the counter at which numbers are taken on the way to a traversal: its start for
the entry, and where a step finds it that builds an asset. -/
inductive Draws (workshop : Workshop) (reuse : Reuse) (entry : Path) : Numbering → Traversal → Prop
  | entry {analysis : Linking.Analysis} (h : (workshop.prepare entry).result = .ok analysis) :
      Draws workshop reuse entry .start (workshop.opening entry analysis)
  | build {before after : Traversal} (h : workshop.Reached reuse entry before)
      (hstep : workshop.Step reuse before after)
      (hbuilt : before.built.length < after.built.length) :
      Draws workshop reuse entry before.progress.numbering after
  | later {numbering : Numbering} {before after : Traversal}
      (h : Draws workshop reuse entry numbering before)
      (hstep : workshop.Step reuse before after) : Draws workshop reuse entry numbering after

theorem Step.length_built_le {before after : Traversal} (h : workshop.Step reuse before after) :
    before.built.length ≤ after.built.length := by
  rcases h.built_cases with hsame | ⟨asset, hmore⟩
  · rw [hsame]
  · simp [hmore]

section Places

variable (hcanonical : entry.IsCanonical) (habsolute : entry.isAbsolute)

include hcanonical habsolute

/-- Where a number is taken, the counter says how many assets were built before. -/
theorem Draws.exists_place {numbering : Numbering} {traversal : Traversal}
    (h : workshop.Draws reuse entry numbering traversal) :
    ∃ i < traversal.built.length, numbering.allocated = UInt32.ofNat i := by
  induction h with
  | entry => exact ⟨0, Nat.one_pos, rfl⟩
  | build hbefore _ hbuilt => exact ⟨_, hbuilt, (hbefore.coherent hcanonical habsolute).numbering⟩
  | later _ hstep ih =>
    obtain ⟨i, hi, heq⟩ := ih
    exact ⟨i, hi.trans_le hstep.length_built_le, heq⟩

/-- A number is taken for every asset. -/
theorem Reached.draws {traversal : Traversal} (h : workshop.Reached reuse entry traversal) {i : Nat}
    (hi : i < traversal.built.length) :
    workshop.Draws reuse entry ⟨UInt32.ofNat i⟩ traversal := by
  induction h with
  | opening hprepare =>
    obtain rfl : i = 0 := Nat.lt_one_iff.mp hi
    exact .entry hprepare
  | @step before after hbefore hstep ih =>
    by_cases hlt : i < before.built.length
    · exact .later (ih hlt) hstep
    -- the asset is the one that the step builds, so the counter stands at its place
    rcases hstep.built_cases with hsame | ⟨asset, hmore⟩
    · exact absurd (hsame ▸ hi) hlt
    · have hlength : after.built.length = before.built.length + 1 := by simp [hmore]
      obtain rfl : i = before.built.length := by omega
      rw [← (hbefore.coherent hcanonical habsolute).numbering]
      exact .build hbefore hstep (by omega)

/-- The counter overflows for the asset that takes the last number, and not before. -/
theorem Reached.exists_overflows_iff {traversal : Traversal}
    (h : workshop.Reached reuse entry traversal) :
    (∃ numbering, workshop.Draws reuse entry numbering traversal ∧ numbering.Overflows) ↔
      UInt32.size ≤ traversal.built.length := by
  constructor
  · rintro ⟨numbering, hdraws, hoverflows⟩
    obtain ⟨i, hi, hplace⟩ := hdraws.exists_place hcanonical habsolute
    have hmod : numbering.allocated.toNat = i % UInt32.size := by
      rw [hplace]
      exact UInt32.toNat_ofNat
    have hlast := Numbering.overflows_iff.mp hoverflows
    have hle := Nat.mod_le i UInt32.size
    omega
  · intro hle
    have hlt : UInt32.size - 1 < traversal.built.length := Nat.lt_of_lt_of_le (by decide) hle
    exact ⟨_, h.draws hcanonical habsolute hlt, Numbering.overflows_iff.mpr rfl⟩

end Places

/-! ### What is true of the numbers -/

/-- What is true of the numbers of a traversal of a tree of files. -/
structure Numbered (workshop : Workshop) (reuse : Reuse) (entry : Path) (tree : FileTree)
    (traversal : Traversal) : Prop where
  /-- The assets are numbered in the order in which they are built; behind the last number the first
  one comes again. -/
  index : ∀ (i : Nat) (h : i < traversal.built.length),
    traversal.built[i].id.index = i % UInt32.size
  /-- The counter says how many assets there are, as long as it can. -/
  allocated : traversal.progress.numbering.allocated.toNat =
    traversal.built.length % UInt32.size
  /-- No two assets have the same number as long as there are no more assets than numbers. -/
  nodup_iff : (traversal.built.map Asset.id).Nodup ↔ traversal.built.length ≤ UInt32.size
  /-- The counter overflows for the asset that takes the last number, and not before. -/
  overflows_iff : (∃ numbering, workshop.Draws reuse entry numbering traversal ∧
    numbering.Overflows) ↔ UInt32.size ≤ traversal.built.length
  /-- When every file is built once there are no more assets than files. -/
  byPath : reuse = .byPath → traversal.built.length ≤ tree.fileCount
  /-- When files are built again there are as many assets as simple chains of imports: every asset
  stands for one, and in the end every chain has an asset. -/
  onChain : reuse = .onChain → ∃ chains : List (List Nat), chains.Nodup ∧
    chains.length = traversal.built.length ∧ (∀ chain ∈ chains, workshop.Simple entry chain) ∧
    (traversal.pending = [] → ∀ chain, workshop.Simple entry chain → chain ∈ chains)
  /-- There are no more assets than sequences of positions that are shorter than there are files. -/
  bound : ∀ width, workshop.Narrow width →
    traversal.built.length ≤ ∑ length ∈ Finset.range tree.fileCount, width ^ length

theorem Reached.numbered {tree : FileTree} (htree : workshop.storage = .memory tree)
    {traversal : Traversal} (h : workshop.Reached reuse entry traversal)
    (hcanonical : entry.IsCanonical) (habsolute : entry.isAbsolute) :
    workshop.Numbered reuse entry tree traversal where
  index i hi := by
    rw [(h.coherent hcanonical habsolute).id_getElem hi, AssetId.index_nth_eq_mod]
  allocated := by
    rw [(h.coherent hcanonical habsolute).numbering]
    exact UInt32.toNat_ofNat
  nodup_iff := by
    rw [(h.coherent hcanonical habsolute).ids, AssetId.nodup_map_nth_iff]
  overflows_iff := h.exists_overflows_iff hcanonical habsolute
  byPath := by
    rintro rfl
    rw [Traversal.built, List.length_map]
    exact h.length_queue_le htree hcanonical habsolute
  onChain := by
    rintro rfl
    obtain ⟨done, ahead, hcharted, hexhausted⟩ := h.exists_exhausted hcanonical habsolute
    refine ⟨done ++ ahead, hcharted.ordered.nodup,
      hcharted.length_eq (h.coherent hcanonical habsolute), hcharted.simple,
      fun hpending chain hsimple => ?_⟩
    obtain rfl : ahead = [] := hcharted.ahead_eq_nil hpending
    exact List.mem_append_left _ (hexhausted.mem_done hcharted hsimple)
  bound width hwidth := h.length_built_le htree hwidth hcanonical habsolute

/-- The assets of a graph are numbered in their order. -/
theorem map_id_of_graph_eq_ok {directory path : Path} {assets : List Asset}
    (hdirectory : directory.isAbsolute)
    (h : (workshop.graph reuse directory path).result = .ok assets) :
    assets.map Asset.id = (List.range assets.length).map AssetId.nth := by
  obtain ⟨entry, -, traversal, -, hcoherent, hpending, rfl, -⟩ :=
    exists_reached_of_graph_eq_ok hdirectory h
  have hids := hcoherent.ids
  rwa [Traversal.built_of_pending_eq_nil hpending, List.map_map, List.length_map] at hids

/-- The assets of a graph have different numbers if and only if there are enough of these. -/
theorem nodup_ids_iff_of_graph_eq_ok {directory path : Path} {assets : List Asset}
    (hdirectory : directory.isAbsolute)
    (h : (workshop.graph reuse directory path).result = .ok assets) :
    (assets.map Asset.id).Nodup ↔ assets.length ≤ UInt32.size := by
  rw [map_id_of_graph_eq_ok hdirectory h, AssetId.nodup_map_nth_iff]

/-- **When the numbers of a build run out, and what bounds its assets.** -/
theorem graph_numbered (tree : FileTree) (rules : List Rule) (analyzer : Analyzer) (reuse : Reuse)
    {directory path entry : Path} {analysis : Linking.Analysis} (hdirectory : directory.isAbsolute)
    (hentry : Path.absolute? directory path = some entry)
    (hprepare : (Workshop.prepare ⟨.memory tree, rules, analyzer⟩ entry).result = .ok analysis) :
    let workshop : Workshop := ⟨.memory tree, rules, analyzer⟩
    (∃ last, workshop.Reached reuse entry last ∧
      workshop.Settles reuse last (workshop.graph reuse directory path).result
        (workshop.graph reuse directory path).reads) ∧
    (∀ traversal, workshop.Reached reuse entry traversal →
      workshop.Numbered reuse entry tree traversal) ∧
    ∀ assets, (workshop.graph reuse directory path).result = .ok assets →
      ((assets.map Asset.id).Nodup ↔ assets.length ≤ UInt32.size) := by
  intro workshop
  obtain ⟨hcanonical, habsolute⟩ := Path.absolute?_spec hdirectory hentry
  exact ⟨exists_settles_graph reuse hdirectory hentry hprepare,
    fun traversal h => h.numbered rfl hcanonical habsolute,
    fun assets h => nodup_ids_iff_of_graph_eq_ok hdirectory h⟩

theorem graph_numbered_pair :
    Path.root.isAbsolute ∧ ∃ entry, Path.absolute? .root (.ofString "a") = some entry ∧
      (∃ analysis, (pair.prepare entry).result = .ok analysis) ∧
      (∀ traversal, pair.Reached .onChain entry traversal → pair.Numbered .onChain entry
        (.ofList [(.ofString "/a", "./b"), (.ofString "/b", "./a")]) traversal) ∧
      ((pairCopies.map Asset.id).Nodup ↔ pairCopies.length ≤ UInt32.size) := by
  have hentry : Path.absolute? .root (.ofString "a") = some (.ofString "/a") := rfl
  have hprepare : (pair.prepare (.ofString "/a")).result = .ok ⟨["./b", "./b"], "./b"⟩ := rfl
  obtain ⟨-, hnumbered, hnodup⟩ := graph_numbered
    (.ofList [(.ofString "/a", "./b"), (.ofString "/b", "./a")]) [] pair.analyzer .onChain rfl
    hentry hprepare
  exact ⟨rfl, _, hentry, ⟨_, hprepare⟩, hnumbered, hnodup _ result_graph_onChain_pair⟩

/-! ### Few files that need too many numbers -/

/-- The numbers of a graph run out, and the counter overflows, if its entry is the first file of a
row that has more sequences of positions than there are numbers. -/
theorem Row.runs_out {file : Nat → Path} {width depth : Nat} (h : workshop.Row file width depth)
    (hlong : UInt32.size < ∑ length ∈ Finset.range (depth + 1), width ^ length)
    {directory path : Path} {assets : List Asset} (hdirectory : directory.isAbsolute)
    (habsolute : Path.absolute? directory path = some (file 0))
    (hgraph : (workshop.graph .onChain directory path).result = .ok assets) :
    UInt32.size < assets.length ∧ ¬ (assets.map Asset.id).Nodup ∧
      ∃ last numbering, workshop.Reached .onChain (file 0) last ∧ last.finished = assets ∧
        workshop.Draws .onChain (file 0) numbering last ∧ numbering.Overflows := by
  have hcount : UInt32.size < assets.length :=
    hlong.trans_le (h.sum_le_length hdirectory habsolute hgraph)
  have hrepeated : ¬ (assets.map Asset.id).Nodup := fun hnodup =>
    hcount.not_ge ((nodup_ids_iff_of_graph_eq_ok hdirectory hgraph).mp hnodup)
  obtain ⟨entry, hentry, last, hreached, -, hpending, hfinished, -⟩ :=
    exists_reached_of_graph_eq_ok hdirectory hgraph
  obtain rfl : entry = file 0 := Option.some.inj (hentry.symm.trans habsolute)
  obtain ⟨hcanonical, hroot⟩ := Path.absolute?_spec hdirectory hentry
  have hbuilt : UInt32.size ≤ last.built.length := by
    rw [Traversal.built_of_pending_eq_nil hpending, List.length_map, hfinished]
    exact hcount.le
  obtain ⟨numbering, hdraws, hoverflows⟩ :=
    (hreached.exists_overflows_iff hcanonical hroot).mpr hbuilt
  exact ⟨hcount, hrepeated, last, numbering, hreached, hfinished, hdraws, hoverflows⟩

end Workshop

/-- A text with specifiers is analyzed to these and some code. -/
theorem Linking.exists_analyze_eq_ok {source : String} {specifiers : List String}
    (h : (analyze source).toOption.map Analysis.specifiers = some specifiers) :
    ∃ code, analyze source = .ok ⟨specifiers, code⟩ := by
  cases hresult : analyze source with
  | error error => simp [hresult, Except.toOption] at h
  | ok analysis =>
    obtain rfl : analysis.specifiers = specifiers := by
      simpa [hresult, Except.toOption] using h
    exact ⟨analysis.code, rfl⟩

/-- What the analyzer for modules makes of a text. -/
theorem Analyzer.value_modules {source : String} {analysis : Linking.Analysis}
    (h : Linking.analyze source = .ok analysis) (path : Path) :
    (Analyzer.modules path source).value = .ok analysis := by
  rw [Analyzer.modules, h]
  rfl

namespace Workshop

/-- A module that imports the one in the directory beside it and exports what that one exports. -/
def relay : String :=
  "import './d/m.js';\nexport * from './d/m.js';\n"

/-- The path of the module in so many directories. -/
def nestedFile (depth : Nat) : Path :=
  ⟨(List.replicate depth "/d".toList).flatten ++ "/m.js".toList⟩

/-- What it says: the innermost module is empty. -/
def nestedText (depth : Nat) : String :=
  if depth < 32 then relay else ""

/-- Thirty-three modules in nested directories. -/
def nestedTree : FileTree :=
  .ofList ((List.range 33).map fun depth => (nestedFile depth, nestedText depth))

/-- A workshop of these modules. -/
def nested : Workshop :=
  ⟨.memory nestedTree, [], .modules⟩

theorem length_components_nestedFile :
    ∀ depth < 33, (nestedFile depth).components.length = depth + 2 := by
  decide +kernel

theorem not_same_nestedFile {i j : Nat} (hij : i < j) (hj : j < 33) :
    ¬ (nestedFile i).same (nestedFile j) := by
  intro hsame
  have hcomponents : (nestedFile i).components = (nestedFile j).components := by
    simpa [Path.same] using hsame
  have hlength := congrArg List.length hcomponents
  rw [length_components_nestedFile i (hij.trans hj), length_components_nestedFile j hj] at hlength
  omega

theorem resolve_nestedFile :
    ∀ depth < 32, (nestedFile depth).resolve "./d/m.js" = nestedFile (depth + 1) := by
  decide +kernel

theorem specifiers_relay : (Linking.analyze relay).toOption.map Linking.Analysis.specifiers =
    some ["./d/m.js", "./d/m.js"] := by
  decide +kernel

theorem specifiers_empty :
    (Linking.analyze "").toOption.map Linking.Analysis.specifiers = some [] := by
  decide +kernel

theorem read_nestedFile {depth : Nat} (h : depth < 33) :
    nestedTree.read (nestedFile depth) = .ok (nestedText depth) := by
  refine FileTree.read_ofList ?_ (List.mem_map_of_mem (List.mem_range.mpr h))
  rw [List.map_map]
  refine List.pairwise_map.mpr (List.pairwise_lt_range.imp_of_mem fun _ hj hij => ?_)
  exact not_same_nestedFile hij (List.mem_range.mp hj)

theorem exists_analyze_nestedText (depth : Nat) :
    ∃ code, Linking.analyze (nestedText depth) =
      .ok ⟨if depth < 32 then ["./d/m.js", "./d/m.js"] else [], code⟩ := by
  unfold nestedText
  split_ifs
  · exact Linking.exists_analyze_eq_ok specifiers_relay
  · exact Linking.exists_analyze_eq_ok specifiers_empty

theorem exists_prepare_nestedFile {depth : Nat} (h : depth < 33) :
    ∃ code, (nested.prepare (nestedFile depth)).result =
      .ok ⟨if depth < 32 then ["./d/m.js", "./d/m.js"] else [], code⟩ := by
  obtain ⟨code, hanalysis⟩ := exists_analyze_nestedText depth
  exact ⟨code, result_prepare_eq_ok.mpr
    ⟨_, _, read_nestedFile h, rfl, Analyzer.value_modules hanalysis _⟩⟩

/-- Each of them imports the next one twice, and nothing else. -/
theorem importAt?_nestedFile {depth : Nat} (h : depth < 33) (position : Nat) :
    nested.importAt? (nestedFile depth) position =
      if depth < 32 ∧ position < 2 then some (nestedFile (depth + 1)) else none := by
  obtain ⟨code, hprepare⟩ := exists_prepare_nestedFile h
  rw [importAt?, hprepare]
  dsimp only
  split_ifs with hdepth himport himport
  · obtain hposition | hposition : position = 0 ∨ position = 1 := by omega
    all_goals
      rw [hposition, ← resolve_nestedFile depth hdepth]
      rfl
  · rw [List.getElem?_eq_none (by simp; omega), Option.map_none]
  · exact absurd himport.1 hdepth
  · rfl

theorem row_nested : nested.Row nestedFile 2 32 where
  distinct i j hij hj := not_same_nestedFile hij (Nat.lt_succ_of_le hj)
  imports depth hdepth position hposition := by
    rw [importAt?_nestedFile (hdepth.trans (Nat.lt_succ_self 32)), if_pos ⟨hdepth, hposition⟩]

theorem absolute?_nestedFile :
    Path.absolute? .root (.ofString "/m.js") = some (nestedFile 0) := by
  decide +kernel

theorem exists_graph_nested :
    ∃ assets, (nested.graph .onChain .root (.ofString "/m.js")).result = .ok assets := by
  have hentry : nestedFile 0 ∈ {file | ∃ depth < 33, file = nestedFile depth} :=
    ⟨0, by decide, rfl⟩
  refine exists_graph_eq_ok rfl absolute?_nestedFile hentry ?_ ?_
  · rintro _ ⟨depth, hdepth, rfl⟩
    obtain ⟨code, hprepare⟩ := exists_prepare_nestedFile hdepth
    exact ⟨_, hprepare⟩
  · rintro _ ⟨depth, hdepth, rfl⟩ other ⟨position, himport⟩
    rw [importAt?_nestedFile hdepth] at himport
    split_ifs at himport with hinner
    cases himport
    exact ⟨depth + 1, by omega, rfl⟩

/-- **The numbers of a build may run out.** Thirty-three modules need more assets than there are
numbers: the counter overflows, and different assets have the same number. -/
theorem exists_number_repeated :
    ∃ assets, (nested.graph .onChain .root (.ofString "/m.js")).result = .ok assets ∧
      UInt32.size < assets.length ∧ ¬ (assets.map Asset.id).Nodup ∧
      ∃ last numbering, nested.Reached .onChain (nestedFile 0) last ∧ last.finished = assets ∧
        nested.Draws .onChain (nestedFile 0) numbering last ∧ numbering.Overflows := by
  obtain ⟨assets, hgraph⟩ := exists_graph_nested
  have hlong : UInt32.size < ∑ length ∈ Finset.range 33, 2 ^ length := by decide +kernel
  exact ⟨assets, hgraph, row_nested.runs_out hlong rfl absolute?_nestedFile hgraph⟩

end Workshop

end ModuleBundler
