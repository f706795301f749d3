import Mathlib.Algebra.BigOperators.Group.Finset.Basic
import Mathlib.Data.Finset.Prod
import Mathlib.Data.Finset.Union
import ModuleBundler.Proofs.Graph.SimpleChains
import ModuleBundler.Proofs.Graph.Termination

/-!
# How many assets a build has

Every asset stands at the end of a simple chain of imports. A chain visits no more files than the
tree holds, and in each of them it goes on from one of so many specifiers, so the chains are no more
than the sequences of positions that are shorter than there are files.

The bound is met. When each of the files in a row imports the next one at all positions and files
are built again, every sequence of positions is a simple chain.

## Main definitions

* `chainsOf`, `chainsWithin` — the sequences of positions of one length, and below a length.
* `Workshop.Narrow` — no file has more specifiers than the width.
* `Workshop.Row` — files in a row, each of which imports the next one several times.

## Main results

* `card_chainsWithin` — how many sequences of positions there are.
* `Workshop.Reached.length_built_le` — what bounds the assets of a traversal.
* `Workshop.exists_graph_eq_ok` — files that can all be prepared have a graph.
* `Workshop.Row.sum_le_length` — how many assets the first file of a row needs.
-/

namespace ModuleBundler

/-! ### Sequences of positions -/

/-- The sequences of one length of positions below a width. -/
def chainsOf (width : Nat) : Nat → Finset (List Nat)
  | 0 => {[]}
  | length + 1 => (Finset.range width ×ˢ chainsOf width length).image fun link => link.1 :: link.2

/-- The sequences of positions below a width that are shorter than a bound. -/
def chainsWithin (width bound : Nat) : Finset (List Nat) :=
  (Finset.range bound).biUnion (chainsOf width)

theorem mem_chainsOf {width length : Nat} {chain : List Nat} :
    chain ∈ chainsOf width length ↔
      chain.length = length ∧ ∀ position ∈ chain, position < width := by
  induction length generalizing chain with
  | zero => cases chain <;> simp [chainsOf]
  | succ length ih =>
    cases chain with
    | nil => simp [chainsOf]
    | cons position chain => simp [chainsOf, ih, and_left_comm]

theorem card_chainsOf (width length : Nat) : (chainsOf width length).card = width ^ length := by
  induction length with
  | zero => rfl
  | succ length ih =>
    have hinj : Function.Injective fun link : Nat × List Nat => link.1 :: link.2 := by
      rintro ⟨first, rest⟩ ⟨other, more⟩ heq
      obtain ⟨rfl, rfl⟩ := List.cons.inj heq
      rfl
    rw [chainsOf, Finset.card_image_of_injective _ hinj, Finset.card_product, Finset.card_range, ih,
      pow_succ']

theorem mem_chainsWithin {width bound : Nat} {chain : List Nat} :
    chain ∈ chainsWithin width bound ↔
      chain.length < bound ∧ ∀ position ∈ chain, position < width := by
  simp [chainsWithin, mem_chainsOf]

/-- Sequences of different lengths are different. -/
theorem card_chainsWithin (width bound : Nat) :
    (chainsWithin width bound).card = ∑ length ∈ Finset.range bound, width ^ length := by
  rw [chainsWithin, Finset.card_biUnion]
  · exact Finset.sum_congr rfl fun length _ => card_chainsOf width length
  · intro first _ second _ hne
    refine Finset.disjoint_left.mpr fun chain hfirst hsecond => hne ?_
    exact (mem_chainsOf.mp hfirst).1.symm.trans (mem_chainsOf.mp hsecond).1

namespace Workshop

variable {workshop : Workshop} {reuse : Reuse} {entry : Path}

/-! ### Where a chain leads -/

theorem destination?_cons (file : Path) (position : Nat) (positions : List Nat) :
    workshop.destination? file (position :: positions) =
      (workshop.importAt? file position).bind (workshop.destination? · positions) := by
  rw [destination?, walk?, Option.bind_assoc]
  refine Option.bind_congr fun next _ => ?_
  cases hwalk : workshop.walk? next positions with
  | none => simp [destination?, hwalk]
  | some files =>
    rw [destination?, hwalk, Option.map_some, Option.bind_some, Option.bind_some,
      List.getLast?_cons_of_ne_nil (ne_nil_of_walk?_eq_some hwalk)]

/-- A file that imports another one at a position can be prepared and has as many specifiers. -/
theorem exists_prepare_of_importAt? {file next : Path} {position : Nat}
    (h : workshop.importAt? file position = some next) :
    ∃ analysis, (workshop.prepare file).result = .ok analysis ∧
      position < analysis.specifiers.length := by
  unfold importAt? at h
  split at h
  next analysis hprepare =>
    obtain ⟨specifier, hspecifier, -⟩ := Option.map_eq_some_iff.mp h
    exact ⟨analysis, hprepare, (List.getElem?_eq_some_iff.mp hspecifier).1⟩
  next => cases h

/-- A chain visits one file for every position and one more. -/
theorem length_of_walk? {file : Path} {positions : List Nat} {files : List Path}
    (h : workshop.walk? file positions = some files) : files.length = positions.length + 1 := by
  induction positions generalizing file files with
  | nil =>
    cases h
    rfl
  | cons position positions ih =>
    obtain ⟨next, rest, -, hrest, rfl⟩ := walk?_cons_eq_some.mp h
    rw [List.length_cons, ih hrest, List.length_cons]

/-- All files on a chain but the last one have been prepared. -/
theorem exists_prepare_of_mem_walk? {file last : Path} {positions : List Nat} {files : List Path}
    (h : workshop.walk? file positions = some files)
    (hlast : workshop.destination? file positions = some last)
    (hprepare : ∃ analysis, (workshop.prepare last).result = .ok analysis) :
    ∀ other ∈ files, ∃ analysis, (workshop.prepare other).result = .ok analysis := by
  induction positions generalizing file files with
  | nil =>
    cases h
    cases hlast
    simpa using hprepare
  | cons position positions ih =>
    obtain ⟨next, rest, himport, hrest, rfl⟩ := walk?_cons_eq_some.mp h
    rw [destination?_cons, himport, Option.bind_some] at hlast
    obtain ⟨analysis, hanalysis, -⟩ := exists_prepare_of_importAt? himport
    exact List.forall_mem_cons.mpr ⟨⟨analysis, hanalysis⟩, ih hrest hlast⟩

/-- No file has more specifiers than the width. -/
def Narrow (workshop : Workshop) (width : Nat) : Prop :=
  ∀ file analysis, (workshop.prepare file).result = .ok analysis →
    analysis.specifiers.length ≤ width

/-- Every position on a chain is that of a specifier. -/
theorem Narrow.lt_of_walk? {width : Nat} (hwidth : workshop.Narrow width) {file : Path}
    {positions : List Nat} {files : List Path}
    (h : workshop.walk? file positions = some files) :
    ∀ position ∈ positions, position < width := by
  induction positions generalizing file files with
  | nil => simp
  | cons position positions ih =>
    obtain ⟨next, rest, himport, hrest, -⟩ := walk?_cons_eq_some.mp h
    obtain ⟨analysis, hanalysis, hlt⟩ := exists_prepare_of_importAt? himport
    exact List.forall_mem_cons.mpr ⟨hlt.trans_le (hwidth file analysis hanalysis), ih hrest⟩

/-! ### The bound -/

/-- Every traversal that is reached from an entry has chains for all of its assets. -/
theorem Reached.exists_charted {traversal : Traversal}
    (h : workshop.Reached reuse entry traversal) (hcanonical : entry.IsCanonical)
    (habsolute : entry.isAbsolute) :
    ∃ done ahead, workshop.Charted entry traversal done ahead := by
  cases reuse with
  | byPath =>
    obtain ⟨done, ahead, hcharted, -⟩ := h.exists_spanned hcanonical habsolute
    exact ⟨done, ahead, hcharted⟩
  | onChain =>
    obtain ⟨done, ahead, hcharted, -⟩ := h.exists_exhausted hcanonical habsolute
    exact ⟨done, ahead, hcharted⟩

section Tree

variable {tree : FileTree} (htree : workshop.storage = .memory tree) {width : Nat}
  (hwidth : workshop.Narrow width)

include htree hwidth

/-- A simple chain to a file that has been built is shorter than the tree has files. -/
theorem Simple.mem_chainsWithin {chain : List Nat} {last : Path}
    (h : workshop.Simple entry chain) (hlast : workshop.destination? entry chain = some last)
    (hprepare : ∃ analysis, (workshop.prepare last).result = .ok analysis) :
    chain ∈ chainsWithin width tree.fileCount := by
  obtain ⟨files, hwalk, hdistinct⟩ := h
  refine ModuleBundler.mem_chainsWithin.mpr ⟨?_, hwidth.lt_of_walk? hwalk⟩
  rw [Nat.lt_iff_add_one_le, ← length_of_walk? hwalk]
  refine FileTree.length_le_fileCount hdistinct fun file hfile => ?_
  obtain ⟨analysis, hanalysis⟩ := exists_prepare_of_mem_walk? hwalk hlast hprepare file hfile
  obtain ⟨source, -, hsource, -⟩ := result_prepare_eq_ok.mp hanalysis
  rw [htree] at hsource
  exact ⟨source, hsource⟩

/-- The assets of a traversal are no more than the sequences of positions. -/
theorem Reached.length_built_le {traversal : Traversal}
    (h : workshop.Reached reuse entry traversal) (hcanonical : entry.IsCanonical)
    (habsolute : entry.isAbsolute) :
    traversal.built.length ≤ ∑ length ∈ Finset.range tree.fileCount, width ^ length := by
  have hcoherent := h.coherent hcanonical habsolute
  obtain ⟨done, ahead, hcharted⟩ := h.exists_charted hcanonical habsolute
  have hsubset : (done ++ ahead).toFinset ⊆ chainsWithin width tree.fileCount := by
    intro chain hchain
    rw [List.mem_toFinset] at hchain
    have hend := List.mem_map_of_mem (f := workshop.destination? entry) hchain
    rw [hcharted.map_destination? hcoherent] at hend
    obtain ⟨file, hfile, hend⟩ := List.mem_map.mp hend
    obtain ⟨asset, hasset, rfl⟩ := Traversal.mem_files_iff.mp hfile
    exact (hcharted.simple chain hchain).mem_chainsWithin htree hwidth hend.symm
      ⟨_, hcoherent.prepared asset hasset⟩
  calc traversal.built.length
      = (done ++ ahead).toFinset.card := by
        rw [List.toFinset_card_of_nodup hcharted.ordered.nodup, hcharted.length_eq hcoherent]
    _ ≤ (chainsWithin width tree.fileCount).card := Finset.card_le_card hsubset
    _ = ∑ length ∈ Finset.range tree.fileCount, width ^ length := card_chainsWithin ..

end Tree

/-! ### Graphs that do not fail -/

/-- Files that can all be prepared and that import no other ones have a graph. -/
theorem exists_graph_eq_ok {directory path : Path} (hdirectory : directory.isAbsolute)
    (habsolute : Path.absolute? directory path = some entry) {files : Set Path}
    (hentry : entry ∈ files)
    (hprepare : ∀ file ∈ files, ∃ analysis, (workshop.prepare file).result = .ok analysis)
    (hclosed : ∀ file ∈ files, ∀ other, workshop.Imports file other → other ∈ files) :
    ∃ assets, (workshop.graph reuse directory path).result = .ok assets := by
  obtain ⟨analysis, hanalysis⟩ := hprepare entry hentry
  obtain ⟨traversal, hreached, hsettles⟩ :=
    exists_settles_graph reuse hdirectory habsolute hanalysis
  obtain ⟨hcanonical, hroot⟩ := Path.absolute?_spec hdirectory habsolute
  have hcoherent := hreached.coherent hcanonical hroot
  generalize (workshop.graph reuse directory path).result = outcome at hsettles ⊢
  generalize (workshop.graph reuse directory path).reads = reads at hsettles
  cases hsettles with
  | done => exact ⟨_, rfl⟩
  | @stuck finished visit rest followed progress reads specifier failure hspecifier _ hfailure =>
    obtain ⟨done, ahead, hcharted⟩ := hreached.exists_charted hcanonical hroot
    obtain ⟨chain, -, hend⟩ := hcharted.exists_destination hcoherent
      (Traversal.mem_files_iff.mpr ⟨_, Traversal.bare_mem_built, rfl⟩)
    have hfile : visit.asset.path ∈ files := mem_of_destination?_eq_some hentry hclosed hend
    have hother := hclosed _ hfile _ ⟨followed, hcoherent.importAt?_of_specifier hspecifier⟩
    obtain ⟨other, hok⟩ := hprepare _ hother
    rw [hok] at hfailure
    cases hfailure

/-! ### Files in a row -/

/-- Files in a row, so many of them behind the first one, each of which imports the next one at all
positions below a width. -/
structure Row (workshop : Workshop) (file : Nat → Path) (width depth : Nat) : Prop where
  distinct : ∀ i j, i < j → j ≤ depth → ¬ (file i).same (file j)
  imports : ∀ n < depth, ∀ position < width,
    workshop.importAt? (file n) position = some (file (n + 1))

namespace Row

variable {file : Nat → Path} {width depth : Nat} (h : workshop.Row file width depth)

include h

/-- A chain goes on from file to file. -/
theorem walk? {start : Nat} {chain : List Nat} (hdepth : start + chain.length ≤ depth)
    (hwidth : ∀ position ∈ chain, position < width) :
    workshop.walk? (file start) chain =
      some ((List.range' start (chain.length + 1)).map file) := by
  induction chain generalizing start with
  | nil => rfl
  | cons position chain ih =>
    obtain ⟨hposition, hrest⟩ := List.forall_mem_cons.mp hwidth
    rw [List.length_cons] at hdepth
    rw [List.length_cons, List.range'_succ, List.map_cons, Workshop.walk?,
      h.imports start (by omega) position hposition, Option.bind_some, ih (by omega) hrest,
      Option.map_some]

theorem simple {chain : List Nat} (hchain : chain ∈ chainsWithin width (depth + 1)) :
    workshop.Simple (file 0) chain := by
  obtain ⟨hlt, hwidth⟩ := mem_chainsWithin.mp hchain
  refine ⟨_, h.walk? (by omega) hwidth, List.pairwise_map.mpr ?_⟩
  refine (List.pairwise_lt_range' 1).imp_of_mem fun {i j} _ hj hij => ?_
  refine h.distinct i j hij ?_
  rw [List.mem_range'_1] at hj
  omega

/-- **The bound is met.** When files are built again, the first file of a row needs an asset for
every sequence of positions. -/
theorem sum_le_length {directory path : Path} {assets : List Asset}
    (hdirectory : directory.isAbsolute) (habsolute : Path.absolute? directory path = some (file 0))
    (hgraph : (workshop.graph .onChain directory path).result = .ok assets) :
    ∑ length ∈ Finset.range (depth + 1), width ^ length ≤ assets.length := by
  obtain ⟨entry, hentry, traversal, hreached, hcoherent, hpending, rfl, -⟩ :=
    exists_reached_of_graph_eq_ok hdirectory hgraph
  obtain rfl : entry = file 0 := Option.some.inj (hentry.symm.trans habsolute)
  obtain ⟨hcanonical, hroot⟩ := Path.absolute?_spec hdirectory hentry
  obtain ⟨done, ahead, hcharted, hexhausted⟩ := hreached.exists_exhausted hcanonical hroot
  obtain rfl : ahead = [] := hcharted.ahead_eq_nil hpending
  have hsubset : chainsWithin width (depth + 1) ⊆ done.toFinset := fun chain hchain =>
    List.mem_toFinset.mpr (hexhausted.mem_done hcharted (h.simple hchain))
  calc ∑ length ∈ Finset.range (depth + 1), width ^ length
      = (chainsWithin width (depth + 1)).card := (card_chainsWithin ..).symm
    _ ≤ done.toFinset.card := Finset.card_le_card hsubset
    _ ≤ done.length := done.toFinset_card_le
    _ = traversal.finished.length := hcharted.length_done

end Row

end Workshop

end ModuleBundler
