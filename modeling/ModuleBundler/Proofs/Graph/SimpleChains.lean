import Mathlib.Data.List.Induction
import ModuleBundler.Proofs.Graph.Chains

/-!
# Files that are built again stand for the simple chains

When a file is built again for every import that does not lead back to the chain, the assets are in
order the ends of all simple chains of imports from the entry. A specifier that leads back is mapped
to an asset on the chain, and every other one to the asset that was built for it.

## Main definitions

* `Workshop.Exhausted` — what a traversal keeps of its chains when files are built again.
* `Workshop.Enumerated` — assets that stand for all simple chains.

## Main results

* `Workshop.Reached.exists_exhausted` — every such traversal keeps it.
* `Workshop.graph_enumerated` — the assets of every such graph stand for all simple chains.
-/

namespace ModuleBundler

/-! ### What the numbers stand for -/

/-- The number of the asset at the end of a chain. -/
def AssetId.StandsFor (chains : List (List Nat)) (id : AssetId) (chain : List Nat) : Prop :=
  ∃ i : Nat, chains[i]? = some chain ∧ id = .nth i

theorem AssetId.StandsFor.mono {chains : List (List Nat)} {id : AssetId} {chain : List Nat}
    (h : id.StandsFor chains chain) (more : List (List Nat)) :
    id.StandsFor (chains ++ more) chain := by
  obtain ⟨i, hi, hid⟩ := h
  exact ⟨i, by rw [List.getElem?_append_left (List.getElem?_eq_some_iff.mp hi).1, hi], hid⟩

/-- An asset at the end of a chain that is mapped to assets on this chain, and to those that were
built for its own specifiers. -/
def Asset.Leads (chains : List (List Nat)) (chain : List Nat) (asset : Asset) : Prop :=
  ∀ entry ∈ asset.mapping, ∃ target, entry.2.StandsFor chains target ∧
    (target <+: chain ∨ ∃ position, asset.specifiers[position]? = some entry.1 ∧
      target = chain ++ [position])

theorem Asset.Leads.mono {chains : List (List Nat)} {chain : List Nat} {asset : Asset}
    (h : asset.Leads chains chain) (more : List (List Nat)) :
    asset.Leads (chains ++ more) chain := by
  intro entry hentry
  obtain ⟨target, hstands, htarget⟩ := h entry hentry
  exact ⟨target, hstands.mono more, htarget⟩

/-- One more specifier is mapped. -/
theorem Asset.Leads.record {chains : List (List Nat)} {chain : List Nat} {visit : Visit}
    (h : visit.asset.Leads chains chain) {specifier : String} {id : AssetId} {target : List Nat}
    (hstands : id.StandsFor chains target)
    (htarget : target <+: chain ∨ ∃ position,
      visit.asset.specifiers[position]? = some specifier ∧ target = chain ++ [position]) :
    (visit.record specifier id).asset.Leads chains chain := by
  intro entry hentry
  rcases Association.mem_put hentry with rfl | hentry
  · exact ⟨target, hstands, htarget⟩
  · exact h entry hentry

/-- A visit whose chain names the assets at the ends of the chains up to its own. -/
def Visit.Descends (chains : List (List Nat)) (chain : List Nat) (visit : Visit) : Prop :=
  ∀ link ∈ visit.chain, ∃ other, link.2.StandsFor chains other ∧ other <+: chain

theorem Visit.Descends.mono {chains : List (List Nat)} {chain : List Nat} {visit : Visit}
    (h : visit.Descends chains chain) (more : List (List Nat)) :
    visit.Descends (chains ++ more) chain := by
  intro link hlink
  obtain ⟨other, hstands, hfront⟩ := h link hlink
  exact ⟨other, hstands.mono more, hfront⟩

/-- The visit of an asset that is built for a specifier goes on from the visit before it. -/
theorem Visit.Descends.child {chains : List (List Nat)} {chain : List Nat} {visit : Visit}
    (h : visit.Descends chains chain) {asset : Asset} {position : Nat}
    (hstands : asset.id.StandsFor chains (chain ++ [position])) :
    (Workshop.visitOf visit.chain asset).Descends chains (chain ++ [position]) := by
  intro link hlink
  rcases List.mem_cons.mp hlink with rfl | hlink
  · exact ⟨_, hstands, List.prefix_rfl⟩
  · obtain ⟨other, hother, hfront⟩ := h link hlink
    exact ⟨other, hother, hfront.trans (List.prefix_append chain [position])⟩

namespace Workshop

variable {workshop : Workshop} {entry : Path}

/-! ### What a traversal keeps of its chains -/

/-- What a traversal that builds files again keeps of its chains: for every specifier that has been
followed there is an asset if the chain is simple, and the numbers in chains and mappings are those
of assets on the chain or right behind it. -/
structure Exhausted (workshop : Workshop) (entry : Path) (traversal : Traversal)
    (done ahead : List (List Nat)) : Prop where
  complete : ∀ chain position, Followed traversal.followed done ahead chain position →
    workshop.Simple entry (chain ++ [position]) → chain ++ [position] ∈ done ++ ahead
  finished : List.Forall₂ (Asset.Leads (done ++ ahead)) done traversal.finished
  pending : List.Forall₂ (fun chain visit =>
    visit.Descends (done ++ ahead) chain ∧ visit.asset.Leads (done ++ ahead) chain)
      ahead traversal.pending

namespace Exhausted

variable {finished : List Asset} {visit : Visit} {rest : List Visit} {followed : Nat}
  {progress progress' : Progress} {reads reads' : List Path} {done others : List (List Nat)}
  {chain : List Nat} {specifier : String} {id : AssetId}
  (h : workshop.Exhausted entry ⟨finished, visit :: rest, followed, progress, reads⟩ done
    (chain :: others))
  (hcharted : workshop.Charted entry ⟨finished, visit :: rest, followed, progress, reads⟩ done
    (chain :: others))
  (hcoherent : workshop.Coherent ⟨finished, visit :: rest, followed, progress, reads⟩)

include h hcharted hcoherent

/-- A specifier that leads back to the chain. The chain behind it is not simple. -/
theorem record (hspecifier : visit.asset.specifiers[followed]? = some specifier)
    (hlink : (visit.asset.path.resolve specifier, id) ∈ visit.chain) :
    workshop.Exhausted entry
      ⟨finished, visit.record specifier id :: rest, followed + 1, progress', reads'⟩ done
        (chain :: others) := by
  obtain _ | ⟨⟨hdescends, hleads⟩, hrest⟩ := h.pending
  obtain ⟨target, hstands, hfront⟩ := hdescends _ hlink
  refine ⟨fun first position hfollowed hsimple => ?_, h.finished,
    .cons ⟨hdescends, hleads.record hstands (.inl hfront)⟩ hrest⟩
  rcases hfollowed.of_succ others with hbefore | ⟨rfl, rfl⟩
  · exact h.complete first position hbefore hsimple
  · obtain ⟨next, hnext, hfresh⟩ := hcharted.exists_import_of_simple hcoherent hsimple
    rw [hcoherent.importAt?_of_specifier hspecifier] at hnext
    cases hnext
    exact absurd (Path.same_self _) (hfresh _ hlink)

/-- An asset that is built for a specifier stands for the chain behind it. -/
theorem build (hspecifier : visit.asset.specifiers[followed]? = some specifier)
    {analysis : Linking.Analysis} {asset : Asset}
    (hasset : asset = stamp progress.numbering (visit.asset.path.resolve specifier) analysis) :
    workshop.Exhausted entry
      ⟨finished, visit.record specifier asset.id :: (rest ++ [visitOf visit.chain asset]),
        followed + 1, progress', reads'⟩ done (chain :: (others ++ [chain ++ [followed]])) := by
  have hid : asset.id = .nth (done ++ chain :: others).length := by
    rw [hasset, hcharted.length_eq hcoherent]
    exact hcoherent.id_stamp _ _
  have happend : done ++ chain :: (others ++ [chain ++ [followed]]) =
      (done ++ chain :: others) ++ [chain ++ [followed]] := by simp
  have hstands : asset.id.StandsFor ((done ++ chain :: others) ++ [chain ++ [followed]])
      (chain ++ [followed]) := ⟨_, List.getElem?_concat_length, hid⟩
  obtain _ | ⟨⟨hdescends, hleads⟩, hrest⟩ := h.pending
  refine ⟨fun first position hfollowed hsimple => ?_, ?_, ?_⟩
  · rw [happend]
    rcases hfollowed.of_succ others with hbefore | ⟨rfl, rfl⟩
    · exact List.mem_append_left _ (h.complete first position hbefore hsimple)
    · exact List.mem_append_right _ (List.mem_singleton_self _)
  · rw [happend]
    exact h.finished.imp fun _ _ hother => hother.mono _
  · rw [happend]
    refine .cons ⟨hdescends.mono _, (hleads.mono _).record hstands
      (.inr ⟨followed, hspecifier, rfl⟩)⟩ ?_
    refine List.rel_append (hrest.imp fun _ _ hother => ⟨hother.1.mono _, hother.2.mono _⟩) ?_
    refine .cons ⟨(hdescends.mono _).child hstands, fun entry hentry => ?_⟩ .nil
    rw [visitOf, hasset] at hentry
    exact absurd hentry List.not_mem_nil

/-- A finished asset has no specifier behind those that have been followed. -/
theorem finish (hdone : visit.asset.specifiers[followed]? = none) :
    workshop.Exhausted entry ⟨finished ++ [visit.asset], rest, 0, progress', reads'⟩
      (done ++ [chain]) others := by
  have happend : done ++ [chain] ++ others = done ++ chain :: others := by simp
  obtain _ | ⟨⟨-, hleads⟩, hrest⟩ := h.pending
  refine ⟨fun first position hfollowed hsimple => ?_, ?_, happend ▸ hrest⟩
  · rw [happend]
    rcases hfollowed.of_finish followed with hbefore | ⟨rfl, hle⟩
    · exact h.complete first position hbefore hsimple
    · obtain ⟨next, hnext, -⟩ := hcharted.exists_import_of_simple hcoherent hsimple
      rw [hcoherent.importAt?_eq_none hdone hle] at hnext
      cases hnext
  · rw [happend]
    exact List.rel_append h.finished (.cons hleads .nil)

end Exhausted

/-- Of the traversal of which nothing but the entry has been built no specifier has been
followed. -/
theorem exhausted_opening (analysis : Linking.Analysis) :
    workshop.Exhausted entry (workshop.opening entry analysis) [] [[]] := by
  refine ⟨?_, .nil, .cons ⟨?_, ?_⟩ .nil⟩
  · rintro chain position (hmem | ⟨-, hlt⟩)
    · exact absurd hmem List.not_mem_nil
    · exact absurd hlt (Nat.not_lt_zero _)
  · intro link hlink
    rw [List.mem_singleton.mp hlink]
    exact ⟨[], ⟨0, rfl, rfl⟩, List.prefix_rfl⟩
  · intro entry hentry
    exact absurd hentry List.not_mem_nil

/-- A step keeps what is kept of the chains. -/
theorem exists_exhausted_of_step {before after : Traversal} {done ahead : List (List Nat)}
    (hcoherent : workshop.Coherent before) (hcharted : workshop.Charted entry before done ahead)
    (h : workshop.Exhausted entry before done ahead) (hstep : workshop.Step .onChain before after) :
    ∃ done' ahead', workshop.Charted entry after done' ahead' ∧
      workshop.Exhausted entry after done' ahead' := by
  cases hstep with
  | reuse hspecifier hfind =>
    obtain ⟨chain, others, rfl⟩ := hcharted.exists_head
    have hlink := hcoherent.mem_chain_of_find?_eq_some List.mem_cons_self
      (Path.isCanonical_resolve _ _) hfind
    exact ⟨done, _, hcharted.record, h.record hcharted hcoherent hspecifier hlink⟩
  | build hspecifier hfind hprepare hasset =>
    obtain ⟨chain, others, rfl⟩ := hcharted.exists_head
    exact ⟨done, _, hcharted.build hcoherent hspecifier hfind (by rw [hasset]; rfl),
      h.build hcharted hcoherent hspecifier hasset⟩
  | finish hdone =>
    obtain ⟨chain, others, rfl⟩ := hcharted.exists_head
    exact ⟨_, others, hcharted.finish hcoherent, h.finish hcharted hcoherent hdone⟩

/-- Every traversal that builds files again keeps what is kept of its chains. -/
theorem Reached.exists_exhausted {traversal : Traversal}
    (h : workshop.Reached .onChain entry traversal) (hcanonical : entry.IsCanonical)
    (habsolute : entry.isAbsolute) :
    ∃ done ahead, workshop.Charted entry traversal done ahead ∧
      workshop.Exhausted entry traversal done ahead := by
  induction h with
  | @opening analysis hprepare =>
    exact ⟨[], [[]], .opening analysis, exhausted_opening analysis⟩
  | step hbefore hstep ih =>
    obtain ⟨done, ahead, hcharted, hexhausted⟩ := ih
    exact exists_exhausted_of_step (hbefore.coherent hcanonical habsolute) hcharted hexhausted hstep

/-- When no asset is left to finish, every simple chain has one. -/
theorem Exhausted.mem_done {traversal : Traversal} {done : List (List Nat)}
    (h : workshop.Exhausted entry traversal done [])
    (hcharted : workshop.Charted entry traversal done []) {chain : List Nat}
    (hsimple : workshop.Simple entry chain) : chain ∈ done := by
  induction chain using List.reverseRecOn with
  | nil => simpa using hcharted.nil_mem
  | append_singleton chain position ih =>
    simpa using h.complete chain position (Or.inl (ih hsimple.of_concat)) hsimple

/-! ### The assets of a graph -/

/-- Assets that stand for all simple chains of imports from the entry, in the order of the chains:
each of them is the file at the end of its chain, and its specifiers are mapped to assets on its
chain, or to those right behind it. -/
structure Enumerated (workshop : Workshop) (entry : Path) (assets : List Asset)
    (chains : List (List Nat)) : Prop where
  index : ∀ (i : Nat) (h : i < assets.length), assets[i].id.index = i
  ordered : chains.Pairwise Before
  mem_iff : ∀ chain, chain ∈ chains ↔ workshop.Simple entry chain
  destination : chains.map (workshop.destination? entry) = assets.map fun asset => some asset.path
  targets : List.Forall₂ (fun chain asset => ∀ specifier id, (specifier, id) ∈ asset.mapping →
    ∃ target, chains[id.index]? = some target ∧ (target <+: chain ∨
      ∃ position, asset.specifiers[position]? = some specifier ∧ target = chain ++ [position]))
    chains assets

/-- **Files that are built again stand for the simple chains of imports.** -/
theorem graph_enumerated {directory path : Path} {assets : List Asset}
    (hdirectory : directory.isAbsolute)
    (h : (workshop.graph .onChain directory path).result = .ok assets)
    (hcount : assets.length < UInt32.size) :
    ∃ entry, Path.absolute? directory path = some entry ∧
      ∃ chains, workshop.Enumerated entry assets chains := by
  obtain ⟨entry, hentry, traversal, hreached, hcoherent, hpending, rfl, -⟩ :=
    exists_reached_of_graph_eq_ok hdirectory h
  obtain ⟨hcanonical, habsolute⟩ := Path.absolute?_spec hdirectory hentry
  obtain ⟨done, ahead, hcharted, hexhausted⟩ := hreached.exists_exhausted hcanonical habsolute
  obtain rfl : ahead = [] := hcharted.ahead_eq_nil hpending
  have hlength := hcharted.length_done
  have hordered := hcharted.ordered
  have hsimple := hcharted.simple
  have hfinished := hexhausted.finished
  rw [List.append_nil] at hordered hsimple hfinished
  refine ⟨entry, hentry, done, fun i hi => hcoherent.index_getElem_finished hpending hcount hi,
    hordered, fun chain => ⟨hsimple chain, hexhausted.mem_done hcharted⟩, hcharted.finished, ?_⟩
  refine hfinished.imp fun chain asset hleads specifier id hmapping => ?_
  obtain ⟨target, ⟨i, hi, rfl⟩, htarget⟩ := hleads _ hmapping
  have hlt : i < UInt32.size := by
    have hbound := (List.getElem?_eq_some_iff.mp hi).1
    omega
  exact ⟨target, by rw [AssetId.index_nth hlt, hi], htarget⟩

theorem graph_enumerated_pair :
    Path.root.isAbsolute ∧ pairCopies.length < UInt32.size ∧
      ∃ entry, Path.absolute? .root (.ofString "a") = some entry ∧
        ∃ chains, pair.Enumerated entry pairCopies chains :=
  ⟨rfl, by decide, graph_enumerated rfl result_graph_onChain_pair (by decide)⟩

/-- The second file may be reached by either import of the first one, but not go back to it. -/
example : pair.Simple (.ofString "/a") [1] ∧ ¬ pair.Simple (.ofString "/a") [1, 0] := by
  decide +kernel

end Workshop

end ModuleBundler
