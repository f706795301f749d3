import ModuleBundler.Proofs.Association
import ModuleBundler.Proofs.Graph.Run

/-!
# What the assets of a graph are

The specifiers of an asset are mapped one after the other, so that at every moment the finished
assets are mapped completely, the one that is being followed up to the specifier that comes next,
and all others not at all. What a specifier is mapped to has been built, from the path that the
specifier refers to.

## Main definitions

* `Asset.Mapped` — assets of which the first specifiers are mapped.
* `Traversal.Mapped` — what every traversal keeps of the mappings.
* `Workshop.WellFormed` — what the assets of a graph are.

## Main results

* `Workshop.Reached.mapped` — every traversal that is reached from an entry keeps it.
* `Workshop.graph_wellFormed` — the assets of every graph are well formed.
-/

namespace ModuleBundler

/-! ### Keys -/

/-- One more entry is a new one, or is dropped with the repetitions. -/
theorem eraseDups_concat {α : Type} [DecidableEq α] (xs : List α) (x : α) :
    (xs ++ [x]).eraseDups = if x ∈ xs then xs.eraseDups else xs.eraseDups ++ [x] := by
  rw [List.eraseDups_append]
  by_cases h : x ∈ xs <;> simp [List.removeAll, List.eraseDups_cons, h]

/-! ### Mapped specifiers -/

/-- An asset of which the first specifiers are mapped, each to an asset that was built from the path
that it refers to. -/
structure Asset.Mapped (built : List Asset) (asset : Asset) (count : Nat) : Prop where
  keys : asset.mapping.map Prod.fst = (asset.specifiers.take count).eraseDups
  targets : ∀ entry ∈ asset.mapping, ∃ target ∈ built,
    target.id = entry.2 ∧ target.path = asset.path.resolve entry.1

namespace Asset.Mapped

variable {built : List Asset} {asset : Asset} {count : Nat}

theorem mono (h : asset.Mapped built count) (more : List Asset) :
    asset.Mapped (built ++ more) count where
  keys := h.keys
  targets entry hentry := by
    obtain ⟨target, htarget, hid, hpath⟩ := h.targets entry hentry
    exact ⟨target, List.mem_append_left _ htarget, hid, hpath⟩

/-- Without any specifier nothing is mapped. -/
theorem zero (h : asset.mapping = []) : asset.Mapped built 0 where
  keys := by simp [h]
  targets := by simp [h]

/-- When no specifier is left, all of them are mapped. -/
theorem all (h : asset.Mapped built count) (hdone : asset.specifiers[count]? = none) :
    asset.Mapped built asset.specifiers.length where
  keys := by
    rw [h.keys, List.take_length, List.take_of_length_le (List.getElem?_eq_none_iff.mp hdone)]
  targets := h.targets

/-- One more specifier is mapped. -/
theorem record {visit : Visit} {specifier : String} {target : Asset}
    (h : visit.asset.Mapped built count)
    (hspecifier : visit.asset.specifiers[count]? = some specifier)
    (htarget : target ∈ built) (hpath : target.path = visit.asset.path.resolve specifier) :
    (visit.record specifier target.id).asset.Mapped built (count + 1) where
  keys := by
    have htake : visit.asset.specifiers.take (count + 1) =
        visit.asset.specifiers.take count ++ [specifier] := by
      rw [List.take_add_one, hspecifier, Option.toList_some]
    show (Association.put specifier target.id visit.asset.mapping).map Prod.fst =
      (visit.asset.specifiers.take (count + 1)).eraseDups
    simp only [Association.map_fst_put, h.keys, htake, eraseDups_concat, List.mem_eraseDups]
  targets entry hentry := by
    rcases Association.mem_put hentry with rfl | hentry
    · exact ⟨target, htarget, rfl, hpath⟩
    · exact h.targets entry hentry

end Asset.Mapped

/-- What every traversal keeps of the mappings of its assets. -/
structure Traversal.Mapped (traversal : Traversal) : Prop where
  finished : ∀ asset ∈ traversal.finished, asset.Mapped traversal.built asset.specifiers.length
  head : ∀ visit ∈ traversal.pending.head?,
    visit.asset.Mapped traversal.built traversal.followed
  later : ∀ visit ∈ traversal.pending.tail, visit.asset.mapping = []

namespace Workshop

variable {workshop : Workshop} {reuse : Reuse} {entry : Path}

/-- An asset that is used again because it is on the chain stands there with the path that is asked
for. -/
theorem Coherent.mem_chain_of_find?_eq_some {traversal : Traversal}
    (h : workshop.Coherent traversal) {visit : Visit} (hvisit : visit ∈ traversal.pending)
    {path : Path} {id : AssetId} (hpath : path.IsCanonical)
    (hfind : Reuse.onChain.find? traversal.progress visit path = some id) :
    (path, id) ∈ visit.chain := by
  obtain ⟨link, hlink, rfl⟩ := Option.map_eq_some_iff.mp hfind
  have hmem := List.mem_of_find?_eq_some hlink
  have hsame : link.1.same path := by simpa using List.find?_some hlink
  obtain ⟨asset, hasset, heq, -⟩ := (h.linked visit hvisit).links link hmem
  have hcanonical : link.1.IsCanonical := heq ▸ (h.canonical asset hasset).1
  rw [← hcanonical.eq_of_same hpath hsame]
  exact hmem

/-- An asset that is used again was built from the path that is asked for. -/
theorem Coherent.exists_of_find?_eq_some {traversal : Traversal} (h : workshop.Coherent traversal)
    {visit : Visit} (hvisit : visit ∈ traversal.pending) {path : Path} {id : AssetId}
    (hpath : path.IsCanonical) (hfind : reuse.find? traversal.progress visit path = some id) :
    ∃ target ∈ traversal.built, target.id = id ∧ target.path = path := by
  cases reuse with
  | onChain =>
    have hlink := h.mem_chain_of_find?_eq_some hvisit hpath hfind
    obtain ⟨target, htarget, heq, hid⟩ := (h.linked visit hvisit).links _ hlink
    exact ⟨target, htarget, hid, heq⟩
  | byPath =>
    have hknown : (traversal.built.find? (·.path.same path)).map Asset.id = some id :=
      (h.known path).symm.trans hfind
    obtain ⟨target, htarget, rfl⟩ := Option.map_eq_some_iff.mp hknown
    have hmem := List.mem_of_find?_eq_some htarget
    have hsame : target.path.same path := by simpa using List.find?_some htarget
    exact ⟨target, hmem, rfl, (h.canonical target hmem).1.eq_of_same hpath hsame⟩

/-- A step keeps what is kept of the mappings. -/
theorem mapped_of_step {before after : Traversal} (hcoherent : workshop.Coherent before)
    (h : before.Mapped) (hstep : workshop.Step reuse before after) : after.Mapped := by
  cases hstep with
  | @reuse finished visit rest followed progress reads specifier id hspecifier hfind =>
    obtain ⟨target, htarget, rfl, hpath⟩ := hcoherent.exists_of_find?_eq_some List.mem_cons_self
      (Path.isCanonical_resolve _ _) hfind
    have hbuilt := built_record finished visit rest followed (followed + 1) progress reads specifier
      target.id
    have hhead := (h.head visit rfl).record hspecifier htarget hpath
    rw [← hbuilt] at hhead
    refine ⟨fun asset hasset => ?_, ?_, h.later⟩
    · exact hbuilt ▸ h.finished asset hasset
    · rintro _ ⟨⟩
      exact hhead
  | @build finished visit rest followed progress reads specifier analysis asset hspecifier hfind
      hprepare hasset =>
    have hbuilt := built_build finished visit rest followed (followed + 1) progress
      (progress.add progress.numbering.next.2 asset) reads
      (reads ++ (workshop.prepare (visit.asset.path.resolve specifier)).reads) specifier
      (show asset.bare = asset by rw [hasset]; rfl)
    have hpath : asset.path = visit.asset.path.resolve specifier := by rw [hasset]; rfl
    have hmapping : asset.mapping = [] := by rw [hasset]; rfl
    have hhead := ((h.head visit rfl).mono [asset]).record hspecifier
      (List.mem_append_right _ List.mem_cons_self) hpath
    rw [← hbuilt] at hhead
    refine ⟨fun other hother => ?_, ?_, fun other hother => ?_⟩
    · exact hbuilt ▸ (h.finished other hother).mono [asset]
    · rintro _ ⟨⟩
      exact hhead
    · rcases List.mem_append.mp hother with hother | hother
      · exact h.later other hother
      · rw [List.mem_singleton.mp hother]
        exact hmapping
  | @finish finished visit rest followed progress reads hdone =>
    have hbuilt := built_finish finished visit rest followed 0 progress reads
    refine ⟨fun asset hasset => ?_, fun other hother => ?_, fun other hother => ?_⟩
    · rw [hbuilt]
      rcases List.mem_append.mp hasset with hasset | hasset
      · exact h.finished asset hasset
      · rw [List.mem_singleton.mp hasset]
        exact (h.head visit rfl).all hdone
    · exact .zero (h.later other (List.mem_of_mem_head? hother))
    · exact h.later other (List.mem_of_mem_tail hother)

/-- Every traversal that is reached from an entry keeps what is kept of the mappings. -/
theorem Reached.mapped {traversal : Traversal} (h : workshop.Reached reuse entry traversal)
    (hcanonical : entry.IsCanonical) (habsolute : entry.isAbsolute) : traversal.Mapped := by
  induction h with
  | opening =>
    refine ⟨fun _ hasset => absurd hasset List.not_mem_nil, ?_,
      fun _ hvisit => absurd hvisit List.not_mem_nil⟩
    rintro _ ⟨⟩
    exact .zero rfl
  | step hbefore hstep ih => exact mapped_of_step (hbefore.coherent hcanonical habsolute) ih hstep

/-! ### The assets of a graph -/

/-- What the assets of a graph are: numbered in order, with the entry first, each one under a
canonical path, prepared from the file at that path, and with all of its specifiers mapped to assets
of the graph, each to one from the path that it refers to. -/
structure WellFormed (workshop : Workshop) (entry : Path) (assets : List Asset) : Prop where
  ne_nil : assets ≠ []
  index : ∀ (i : Nat) (h : i < assets.length), assets[i].id.index = i
  canonical : ∀ asset ∈ assets, asset.path.isAbsolute ∧ asset.path.normalize = asset.path
  entry : (assets.map Asset.path).head? = some entry
  prepared : ∀ asset ∈ assets, ∃ source text,
    workshop.storage.content asset.path = .ok source ∧
      (Rule.transform workshop.rules asset.path source).result = .ok text ∧
      (workshop.analyzer asset.path text).value = .ok ⟨asset.specifiers, asset.code⟩
  keys : ∀ asset ∈ assets, asset.mapping.map Prod.fst = asset.specifiers.eraseDups
  targets : ∀ asset ∈ assets, ∀ specifier id, (specifier, id) ∈ asset.mapping →
    ∃ h : id.index < assets.length, assets[id.index].path = asset.path.resolve specifier

/-- **The assets of every graph are well formed**, as long as there are numbers left for them. The
directory that a program works in is always absolute. -/
theorem graph_wellFormed {directory path : Path} {assets : List Asset}
    (hdirectory : directory.isAbsolute)
    (h : (workshop.graph reuse directory path).result = .ok assets)
    (hcount : assets.length < UInt32.size) :
    ∃ entry, Path.absolute? directory path = some entry ∧ workshop.WellFormed entry assets := by
  obtain ⟨entry, hentry, traversal, hreached, hcoherent, hpending, rfl, -⟩ :=
    exists_reached_of_graph_eq_ok hdirectory h
  obtain ⟨hcanonical, habsolute⟩ := Path.absolute?_spec hdirectory hentry
  have hmapped := hreached.mapped hcanonical habsolute
  have hbuilt := Traversal.built_of_pending_eq_nil hpending
  have hmem : ∀ asset ∈ traversal.finished, asset.bare ∈ traversal.built := fun asset hasset =>
    hbuilt ▸ List.mem_map_of_mem hasset
  have hhead : (traversal.finished.map Asset.path).head? = some entry := by
    have hfirst := hreached.head?_files
    rwa [← Traversal.map_path_built, hbuilt, List.map_map] at hfirst
  refine ⟨entry, hentry, ?_, fun i hi => hcoherent.index_getElem_finished hpending hcount hi,
    fun asset hasset => ?_, hhead, fun asset hasset => ?_, fun asset hasset => ?_,
    fun asset hasset specifier id hmapping => ?_⟩
  · rintro hnil
    simp [hnil] at hhead
  · have hpath := hcoherent.canonical asset.bare (hmem asset hasset)
    exact ⟨hpath.2, hpath.1⟩
  · exact result_prepare_eq_ok.mp (hcoherent.prepared asset.bare (hmem asset hasset))
  · rw [(hmapped.finished asset hasset).keys, List.take_length]
  · obtain ⟨target, htarget, rfl, hpath⟩ := (hmapped.finished asset hasset).targets _ hmapping
    have hplace := hcoherent.getElem?_index (by rwa [hbuilt, List.length_map]) htarget
    obtain ⟨hi, heq⟩ := List.getElem?_eq_some_iff.mp hplace
    have hlt : target.id.index < traversal.finished.length := by
      rwa [hbuilt, List.length_map] at hi
    simp only [hbuilt, List.getElem_map] at heq
    refine ⟨hlt, ?_⟩
    rw [← heq] at hpath
    exact hpath

/-- A workshop of two files that import each other, each of them twice. -/
def pair : Workshop where
  storage := .memory (.ofList [(.ofString "/a", "./b"), (.ofString "/b", "./a")])
  rules := []
  analyzer := fun _ source => return .ok ⟨[source, source], source⟩

/-- The assets of these files when the second file is built for each import; the first one is on the
chain of both. -/
def pairCopies : List Asset :=
  [⟨⟨0⟩, .ofString "/a", "./b", ["./b", "./b"], [("./b", ⟨2⟩)]⟩,
    ⟨⟨1⟩, .ofString "/b", "./a", ["./a", "./a"], [("./a", ⟨0⟩)]⟩,
    ⟨⟨2⟩, .ofString "/b", "./a", ["./a", "./a"], [("./a", ⟨0⟩)]⟩]

/-- The assets of these files when each of them is built once. -/
def pairAssets : List Asset :=
  [⟨⟨0⟩, .ofString "/a", "./b", ["./b", "./b"], [("./b", ⟨1⟩)]⟩,
    ⟨⟨1⟩, .ofString "/b", "./a", ["./a", "./a"], [("./a", ⟨0⟩)]⟩]

theorem result_graph_onChain_pair :
    (pair.graph .onChain .root (.ofString "a")).result = .ok pairCopies :=
  rfl

theorem result_graph_byPath_pair :
    (pair.graph .byPath .root (.ofString "a")).result = .ok pairAssets :=
  rfl

theorem graph_wellFormed_pair :
    Path.root.isAbsolute ∧ pairCopies.length < UInt32.size ∧
      ∃ entry, Path.absolute? .root (.ofString "a") = some entry ∧
        pair.WellFormed entry pairCopies :=
  ⟨rfl, by decide, graph_wellFormed rfl result_graph_onChain_pair (by decide)⟩

end Workshop

end ModuleBundler
