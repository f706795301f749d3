import ModuleBundler.Proofs.Graph.BreadthFirst
import ModuleBundler.Proofs.Graph.Origins

/-!
# Which assets are reached

A program that runs a bundle starts with the first asset and goes from asset to asset by what their
specifiers are mapped to. When every file is built once, it can reach all assets. When files are
built again, it never reaches the assets behind a specifier that is repeated later: what is mapped
for a specifier that leads back is on the chain already, so that nothing leads to them. All other
assets are reached.

## Main definitions

* `Reachable` — the assets that are reached from the first one.
* `Alive` — assets that come from the first one by last specifiers only.
* `Workshop.Connected` — which assets of a graph are reached.

## Main results

* `Wired.reachable_iff_alive` — what is reached when files are built again.
* `Workshop.graph_connected` — which assets of every graph are reached.
-/

namespace ModuleBundler

/-! ### What is reached -/

/-- The asset at an index is reached from the first one by what assets are mapped to. -/
inductive Reachable (assets : List Asset) : Nat → Prop
  | entry : Reachable assets 0
  | follow {i : Nat} {asset : Asset} {specifier : String} {id : AssetId} (h : Reachable assets i)
      (hasset : assets[i]? = some asset) (hmapped : (specifier, id) ∈ asset.mapping) :
      Reachable assets id.index

/-- An asset that comes from the first one by last specifiers only: for it and for every asset that
it comes from, what it was built for is the last of equal specifiers. -/
def Alive (assets : List Asset) (origins : Origins) (i : Nat) : Prop :=
  ∀ k j position, OnBranch origins i k → origins[k]? = some (some (j, position)) →
    ∃ asset, assets[j]? = some asset ∧ asset.MentionsLast position

theorem Alive.of_onBranch {assets : List Asset} {origins : Origins} {i k : Nat}
    (h : Alive assets origins i) (hbranch : OnBranch origins i k) : Alive assets origins k :=
  fun last j position hlast horigin => h last j position (hbranch.trans hlast) horigin

/-- Under different keys the value of a key is found where it stands. -/
theorem Association.lookup_eq_some_iff_mem {κ α : Type} [DecidableEq κ] {entries : List (κ × α)}
    (h : (entries.map Prod.fst).Nodup) {key : κ} {value : α} :
    entries.lookup key = some value ↔ (key, value) ∈ entries := by
  induction entries with
  | nil => simp
  | cons entry entries ih =>
    obtain ⟨first, old⟩ := entry
    rw [List.map_cons, List.nodup_cons] at h
    by_cases hkey : key = first
    · subst hkey
      have hnot : (key, value) ∉ entries := by
        intro hmem
        exact h.1 (List.mem_map.mpr ⟨_, hmem, rfl⟩)
      simp [hnot, eq_comm]
    · simp [List.lookup_cons, beq_false_of_ne hkey, hkey, ih h.2]

theorem nodup_eraseDups {α : Type} [DecidableEq α] (xs : List α) : xs.eraseDups.Nodup := by
  induction xs using List.reverseRecOn with
  | nil => exact List.nodup_nil
  | append_singleton xs x ih =>
    rw [eraseDups_concat]
    split_ifs with hmem
    · exact ih
    · refine List.nodup_append.mpr ⟨ih, List.nodup_singleton x, ?_⟩
      rintro other hother _ hlast rfl
      rw [List.mem_singleton.mp hlast] at hother
      exact hmem (List.mem_eraseDups.mp hother)

/-- Where nothing is there twice, every value has one place. -/
theorem place_unique {α : Type} {xs : List α} (h : xs.Nodup) {i j : Nat} {x : α}
    (hi : xs[i]? = some x) (hj : xs[j]? = some x) : i = j :=
  (List.getElem?_inj (List.getElem?_eq_some_iff.mp hi).1 h).mp (hi.trans hj.symm)

theorem rel_of_getElem? {α β : Type} {r : α → β → Prop} {xs : List α} {ys : List β}
    (h : List.Forall₂ r xs ys) {i : Nat} {x : α} {y : β} (hx : xs[i]? = some x)
    (hy : ys[i]? = some y) : r x y := by
  obtain ⟨hi, rfl⟩ := List.getElem?_eq_some_iff.mp hx
  obtain ⟨hj, rfl⟩ := List.getElem?_eq_some_iff.mp hy
  exact h.get hi hj

/-! ### Assets that are wired along their chains -/

/-- Assets at the ends of different chains, each of them mapped to assets on its chain and, by the
last of equal specifiers, to those right behind it. -/
structure Wired (assets : List Asset) (origins : Origins) (chains : List (List Nat)) : Prop where
  nodup : chains.Nodup
  first : chains[0]? = some []
  origins : List.Forall₂ (ComesFrom chains) origins chains
  importer : ∀ (k : Nat) (chain : List Nat) (position : Nat),
    chains[k]? = some (chain ++ [position]) →
      ∃ (j : Nat) (asset : Asset) (specifier : String), chains[j]? = some chain ∧
        assets[j]? = some asset ∧ asset.specifiers[position]? = some specifier
  targets : ∀ (i : Nat) (asset : Asset) (chain : List Nat), assets[i]? = some asset →
    chains[i]? = some chain → ∀ specifier id, (specifier, id) ∈ asset.mapping →
      ∃ target, chains[id.index]? = some target ∧ (target <+: chain ∨
        ∃ position, LastAt asset.specifiers position specifier ∧ target = chain ++ [position])
  mapped : ∀ (j k : Nat) (asset : Asset) (chain : List Nat) (position : Nat) (specifier : String),
    assets[j]? = some asset → chains[j]? = some chain → chains[k]? = some (chain ++ [position]) →
      LastAt asset.specifiers position specifier →
        ∃ id, (specifier, id) ∈ asset.mapping ∧ id.index = k

namespace Wired

variable {assets : List Asset} {origins : Origins} {chains : List (List Nat)}
  (h : Wired assets origins chains)

include h

/-- Every chain belongs to one asset. -/
theorem eq_of_chain_eq {i j : Nat} {chain : List Nat} (hi : chains[i]? = some chain)
    (hj : chains[j]? = some chain) : i = j :=
  place_unique h.nodup hi hj

/-- What is recorded of an asset fits its chain. -/
theorem comesFrom {i : Nat} {origin : Option (Nat × Nat)} {chain : List Nat}
    (horigin : origins[i]? = some origin) (hchain : chains[i]? = some chain) :
    ComesFrom chains origin chain :=
  rel_of_getElem? h.origins horigin hchain

theorem exists_origin {i : Nat} {chain : List Nat} (hchain : chains[i]? = some chain) :
    ∃ origin, origins[i]? = some origin := by
  have hlt := (List.getElem?_eq_some_iff.mp hchain).1
  rw [← h.origins.length_eq] at hlt
  exact ⟨_, List.getElem?_eq_getElem hlt⟩

/-- The asset at the end of a chain that goes on comes from the one before it. -/
theorem origin_concat {k : Nat} {chain : List Nat} {position : Nat}
    (hchain : chains[k]? = some (chain ++ [position])) :
    ∃ j, chains[j]? = some chain ∧ origins[k]? = some (some (j, position)) := by
  obtain ⟨origin, horigin⟩ := h.exists_origin hchain
  have hcomes := h.comesFrom horigin hchain
  rcases origin with _ | ⟨j, last⟩
  · exact absurd hcomes (by simp [ComesFrom])
  · obtain ⟨parent, hparent, heq⟩ := hcomes
    obtain ⟨rfl, hlast⟩ := List.append_inj' heq rfl
    obtain rfl := (List.cons.inj hlast).1
    exact ⟨j, hparent, horigin⟩

/-- The assets on the chain of an asset are those that it comes from. -/
theorem onBranch_of_isPrefix {i k : Nat} {chain first : List Nat} (hi : chains[i]? = some chain)
    (hk : chains[k]? = some first) (hfirst : first <+: chain) : OnBranch origins i k := by
  induction chain using List.reverseRecOn generalizing i with
  | nil =>
    obtain rfl := List.prefix_nil.mp hfirst
    obtain rfl := h.eq_of_chain_eq hi hk
    exact .self i
  | append_singleton chain position ih =>
    rcases List.prefix_concat_iff.mp hfirst with heq | hfirst
    · rw [← heq] at hi
      obtain rfl := h.eq_of_chain_eq hi hk
      exact .self i
    · obtain ⟨j, hj, horigin⟩ := h.origin_concat hi
      exact .parent horigin (ih hj hfirst)

/-- What is reached comes from the first asset by last specifiers. A specifier that leads back is
mapped to an asset that the importer comes from itself. -/
theorem alive_of_reachable (hcount : assets.length = chains.length) {i : Nat}
    (hreachable : Reachable assets i) : Alive assets origins i := by
  induction hreachable with
  | entry =>
    obtain ⟨origin, horigin⟩ := h.exists_origin h.first
    have hcomes := h.comesFrom horigin h.first
    have hnone : origin = none := by
      rcases origin with _ | ⟨j, position⟩
      · rfl
      · obtain ⟨parent, -, heq⟩ := hcomes
        simp at heq
    intro k j position hbranch hk
    cases hbranch with
    | self => simp [horigin, hnone] at hk
    | parent hparent => simp [horigin, hnone] at hparent
  | @follow i asset specifier id _ hasset hmapped ih =>
    have hlt : i < chains.length := hcount ▸ (List.getElem?_eq_some_iff.mp hasset).1
    have hchain := List.getElem?_eq_getElem hlt
    obtain ⟨target, htarget, hfront | ⟨position, hlast, rfl⟩⟩ :=
      h.targets i asset _ hasset hchain specifier id hmapped
    · exact ih.of_onBranch (h.onBranch_of_isPrefix hchain htarget hfront)
    · obtain ⟨j, hj, horigin⟩ := h.origin_concat htarget
      obtain rfl := h.eq_of_chain_eq hchain hj
      intro k parent last hbranch hk
      cases hbranch with
      | self =>
        rw [horigin, Option.some.injEq, Option.some.injEq, Prod.mk.injEq] at hk
        obtain ⟨rfl, rfl⟩ := hk
        exact ⟨asset, hasset, specifier, hlast⟩
      | parent hparent hrest =>
        rw [horigin, Option.some.injEq, Option.some.injEq, Prod.mk.injEq] at hparent
        obtain ⟨rfl, rfl⟩ := hparent
        exact ih k parent last hrest hk

/-- What comes from the first asset by last specifiers is reached along its chain. -/
theorem reachable_of_alive {i : Nat} {chain : List Nat} (hchain : chains[i]? = some chain)
    (halive : Alive assets origins i) : Reachable assets i := by
  induction chain using List.reverseRecOn generalizing i with
  | nil =>
    obtain rfl := h.eq_of_chain_eq hchain h.first
    exact .entry
  | append_singleton chain position ih =>
    obtain ⟨j, hj, horigin⟩ := h.origin_concat hchain
    obtain ⟨asset, hasset, specifier, hlast⟩ := halive i j position (.self i) horigin
    obtain ⟨id, hmapped, rfl⟩ := h.mapped j i asset chain position specifier hasset hj hchain hlast
    have hparent : Reachable assets j :=
      ih hj (halive.of_onBranch (.parent horigin (.self j)))
    exact hparent.follow hasset hmapped

/-- **What is reached when files are built again.** -/
theorem reachable_iff_alive (hcount : assets.length = chains.length) {i : Nat}
    (hi : i < assets.length) : Reachable assets i ↔ Alive assets origins i :=
  ⟨h.alive_of_reachable hcount,
    h.reachable_of_alive (List.getElem?_eq_getElem (hcount ▸ hi))⟩

/-- An asset that does not come from the first one by last specifiers is behind a repetition. -/
theorem not_alive_iff {i : Nat} :
    ¬ Alive assets origins i ↔ ∃ k j position asset, OnBranch origins i k ∧
      origins[k]? = some (some (j, position)) ∧ assets[j]? = some asset ∧
      asset.Repeats position := by
  constructor
  · intro hnot
    simp only [Alive, not_forall] at hnot
    obtain ⟨k, j, position, hbranch, horigin, hlast⟩ := hnot
    have hlt : k < chains.length := by
      rw [← h.origins.length_eq]
      exact (List.getElem?_eq_some_iff.mp horigin).1
    have hk := List.getElem?_eq_getElem hlt
    obtain ⟨parent, hparent, heq⟩ := h.comesFrom horigin hk
    obtain ⟨i, asset, specifier, hi, hasset, hspecifier⟩ := h.importer k parent position (heq ▸ hk)
    obtain rfl := h.eq_of_chain_eq hparent hi
    rcases Asset.mentionsLast_or_repeats hspecifier with hmentions | hrepeats
    · exact absurd ⟨asset, hasset, hmentions⟩ hlast
    · exact ⟨k, j, position, asset, hbranch, horigin, hasset, hrepeats⟩
  · rintro ⟨k, j, position, asset, hbranch, horigin, hasset, hrepeats⟩ halive
    obtain ⟨other, hother, hlast⟩ := halive k j position hbranch horigin
    obtain rfl := Option.some.inj (hasset.symm.trans hother)
    exact hlast.not_repeats hrepeats

end Wired

namespace Workshop

variable {workshop : Workshop} {reuse : Reuse} {entry : Path}

/-! ### Finished traversals -/

/-- Whether a chain is simple hangs on the file behind its last position only. -/
theorem Simple.of_importAt?_eq {file : Path} {positions : List Nat} {i j : Nat}
    (h : workshop.Simple file (positions ++ [i]))
    (hsame : ∀ other, workshop.destination? file positions = some other →
      workshop.importAt? other j = workshop.importAt? other i) :
    workshop.Simple file (positions ++ [j]) := by
  obtain ⟨files, hwalk, hdistinct⟩ := h
  refine ⟨files, ?_, hdistinct⟩
  rw [walk?_concat] at hwalk ⊢
  obtain ⟨before, hbefore, hnext⟩ := Option.bind_eq_some_iff.mp hwalk
  obtain ⟨next, himport, rfl⟩ := Option.map_eq_some_iff.mp hnext
  obtain ⟨last, hlast, hfile⟩ := Option.bind_eq_some_iff.mp himport
  have hend : workshop.destination? file positions = some last := by
    rw [destination?, hbefore, Option.bind_some, hlast]
  rw [hbefore, Option.bind_some, hlast, Option.bind_some, hsame last hend, hfile, Option.map_some]

section Finished

variable {traversal : Traversal} {done : List (List Nat)} {origins : Origins}

theorem Coherent.importAt?_of_mem_finished (h : workshop.Coherent traversal)
    (hpending : traversal.pending = []) {asset : Asset} (hasset : asset ∈ traversal.finished)
    (position : Nat) : workshop.importAt? asset.path position =
      asset.specifiers[position]?.map asset.path.resolve := by
  have hbuilt : asset.bare ∈ traversal.built := by
    rw [Traversal.built_of_pending_eq_nil hpending]
    exact List.mem_map_of_mem hasset
  exact h.importAt?_path hbuilt position

namespace Charted

variable (h : workshop.Charted entry traversal done [])

include h

theorem nodup : done.Nodup := by
  have hordered := h.ordered
  rw [List.append_nil] at hordered
  refine hordered.imp fun {first second} hbefore heq => ?_
  subst heq
  exact Std.Irrefl.irrefl _ hbefore

/-- The empty chain is the first one. -/
theorem getElem?_zero : done[0]? = some [] := by
  have hmem : [] ∈ done := by simpa using h.nil_mem
  have hordered := h.ordered
  rw [List.append_nil, List.pairwise_iff_getElem] at hordered
  obtain ⟨i, hi, hnil⟩ := List.mem_iff_getElem.mp hmem
  rcases Nat.eq_zero_or_pos i with rfl | hpos
  · rw [List.getElem?_eq_getElem hi, hnil]
  · have hbefore := hordered 0 i (Nat.lt_trans hpos hi) hi hpos
    rw [hnil] at hbefore
    exact absurd hbefore List.not_shortlex_nil_right

theorem destination?_of_getElem? {i : Nat} {chain : List Nat} {asset : Asset}
    (hchain : done[i]? = some chain) (hasset : traversal.finished[i]? = some asset) :
    workshop.destination? entry chain = some asset.path := by
  obtain ⟨hi, rfl⟩ := List.getElem?_eq_some_iff.mp hchain
  obtain ⟨hlt, rfl⟩ := List.getElem?_eq_some_iff.mp hasset
  exact h.destination?_getElem hlt hi

theorem exists_asset {i : Nat} {chain : List Nat} (hchain : done[i]? = some chain) :
    ∃ asset, traversal.finished[i]? = some asset := by
  have hlt := (List.getElem?_eq_some_iff.mp hchain).1
  rw [h.length_done] at hlt
  exact ⟨_, List.getElem?_eq_getElem hlt⟩

/-- The chain of an asset goes on from that of an asset that imports its file. -/
theorem exists_importer (hcoherent : workshop.Coherent traversal)
    (hpending : traversal.pending = []) {k : Nat} {chain : List Nat} {position : Nat}
    (hchain : done[k]? = some (chain ++ [position])) :
    ∃ (j : Nat) (importer : Asset) (specifier : String), done[j]? = some chain ∧
      traversal.finished[j]? = some importer ∧ importer.specifiers[position]? = some specifier ∧
      workshop.destination? entry (chain ++ [position]) =
        some (importer.path.resolve specifier) := by
  have hmem : chain ∈ done := by
    have horigin := h.origin chain position (by simpa using List.mem_of_getElem? hchain)
    exact horigin.resolve_right (by simp)
  obtain ⟨j, hj⟩ := List.mem_iff_getElem?.mp hmem
  obtain ⟨importer, himporter⟩ := h.exists_asset hj
  have himport : workshop.destination? entry (chain ++ [position]) =
      importer.specifiers[position]?.map importer.path.resolve := by
    rw [destination?_concat, h.destination?_of_getElem? hj himporter, Option.bind_some,
      hcoherent.importAt?_of_mem_finished hpending (List.mem_of_getElem? himporter)]
  obtain ⟨asset, hasset⟩ := h.exists_asset hchain
  have hend := h.destination?_of_getElem? hchain hasset
  obtain ⟨specifier, hspecifier, -⟩ := Option.map_eq_some_iff.mp (himport.symm.trans hend)
  refine ⟨j, importer, specifier, hj, himporter, hspecifier, ?_⟩
  rw [himport, hspecifier, Option.map_some]

end Charted

/-- A specifier is mapped to what stands under it. -/
theorem lookup_mapping_iff (hmapped : traversal.Mapped) {asset : Asset}
    (hasset : asset ∈ traversal.finished) {specifier : String} {id : AssetId} :
    asset.mapping.lookup specifier = some id ↔ (specifier, id) ∈ asset.mapping := by
  refine Association.lookup_eq_some_iff_mem ?_
  rw [(hmapped.finished asset hasset).keys]
  exact nodup_eraseDups _

/-- When all assets are finished, they are wired along their chains. -/
theorem Rooted.wired (h : workshop.Rooted entry traversal origins done [])
    (hcharted : workshop.Charted entry traversal done [])
    (hexhausted : workshop.Exhausted entry traversal done [])
    (hcoherent : workshop.Coherent traversal) (hmapped : traversal.Mapped)
    (hpending : traversal.pending = []) (hcount : traversal.finished.length < UInt32.size) :
    Wired traversal.finished origins done := by
  have hindex : ∀ {k : Nat} {chain : List Nat}, done[k]? = some chain →
      (AssetId.nth k).index = k := by
    intro k chain hk
    have hlt := (List.getElem?_eq_some_iff.mp hk).1
    rw [hcharted.length_done] at hlt
    exact AssetId.index_nth (Nat.lt_trans hlt hcount)
  have horigins := h.origins
  have hmaps := h.finished
  have hleads := hexhausted.finished
  have hsimple := hcharted.simple
  rw [List.append_nil] at horigins hmaps hleads hsimple
  refine ⟨hcharted.nodup, hcharted.getElem?_zero, horigins, fun k chain position hk => ?_,
    fun i asset chain hasset hchain specifier id hmem => ?_,
    fun j k asset chain position specifier hasset hj hk hlast => ?_⟩
  · obtain ⟨j, asset, specifier, hj, hasset, hspecifier, -⟩ :=
      hcharted.exists_importer hcoherent hpending hk
    exact ⟨j, asset, specifier, hj, hasset, hspecifier⟩
  · obtain ⟨target, ⟨k, hk, rfl⟩, htarget⟩ := rel_of_getElem? hleads hchain hasset _ hmem
    refine ⟨target, by rw [hindex hk, hk], ?_⟩
    rcases htarget with hfront | ⟨position, hspecifier, rfl⟩
    · exact .inl hfront
    · -- a repeated specifier imports the same file, so the chain behind its last position is simple
      obtain ⟨last, -, hlast⟩ := exists_lastAt hspecifier
      have hbehind : workshop.Simple entry (chain ++ [last]) := by
        refine (hsimple _ (List.mem_of_getElem? hk)).of_importAt?_eq fun other hother => ?_
        rw [hcharted.destination?_of_getElem? hchain hasset, Option.some.injEq] at hother
        rw [← hother, hcoherent.importAt?_of_mem_finished hpending (List.mem_of_getElem? hasset),
          hcoherent.importAt?_of_mem_finished hpending (List.mem_of_getElem? hasset), hspecifier,
          hlast.1]
      obtain ⟨id, hlookup, i', hi', rfl⟩ :=
        rel_of_getElem? hmaps hchain hasset last specifier hlast hbehind
      rw [(lookup_mapping_iff hmapped (List.mem_of_getElem? hasset)).mpr hmem] at hlookup
      have hsame : k = i' := by
        have hindices := congrArg AssetId.index (Option.some.inj hlookup)
        rwa [hindex hk, hindex hi'] at hindices
      subst hsame
      exact .inr ⟨last, hlast, Option.some.inj (hk.symm.trans hi')⟩
  · obtain ⟨id, hlookup, i, hi, rfl⟩ := rel_of_getElem? hmaps hj hasset position specifier hlast
      (hsimple _ (List.mem_of_getElem? hk))
    refine ⟨_, (lookup_mapping_iff hmapped (List.mem_of_getElem? hasset)).mp hlookup, ?_⟩
    rw [hindex hi, place_unique hcharted.nodup hi hk]

/-- When every file is built once, all assets are reached along their chains. -/
theorem Spanned.reachable (h : workshop.Spanned entry traversal done [])
    (hcharted : workshop.Charted entry traversal done []) (hcoherent : workshop.Coherent traversal)
    (hmapped : traversal.Mapped) (hpending : traversal.pending = [])
    (hcount : traversal.finished.length < UInt32.size) {i : Nat} {chain : List Nat}
    (hchain : done[i]? = some chain) : Reachable traversal.finished i := by
  have hbuilt := Traversal.built_of_pending_eq_nil hpending
  induction chain using List.reverseRecOn generalizing i with
  | nil =>
    obtain rfl := place_unique hcharted.nodup hchain hcharted.getElem?_zero
    exact .entry
  | append_singleton chain position ih =>
    obtain ⟨j, importer, specifier, hj, himporter, hspecifier, hend⟩ :=
      hcharted.exists_importer hcoherent hpending hchain
    obtain ⟨asset, hasset⟩ := hcharted.exists_asset hchain
    have hpath : asset.path = importer.path.resolve specifier :=
      Option.some.inj ((hcharted.destination?_of_getElem? hchain hasset).symm.trans hend)
    have hparts := hmapped.finished importer (List.mem_of_getElem? himporter)
    have hkey : specifier ∈ importer.mapping.map Prod.fst := by
      rw [hparts.keys, List.take_length]
      exact List.mem_eraseDups.mpr (List.mem_of_getElem? hspecifier)
    obtain ⟨⟨key, id⟩, hentry, rfl⟩ := List.mem_map.mp hkey
    obtain ⟨target, htarget, rfl, htargetPath⟩ := hparts.targets _ hentry
    have hplace := hcoherent.getElem?_index (by rwa [hbuilt, List.length_map]) htarget
    have hfile : traversal.files[target.id.index]? = some asset.path := by
      rw [← Traversal.map_path_built, List.getElem?_map, hplace, Option.map_some, htargetPath,
        hpath]
    have hown : traversal.files[i]? = some asset.path := by
      rw [Traversal.files_of_pending_eq_nil hpending, List.getElem?_map, hasset, Option.map_some]
    -- the file is built once, hence what the specifier is mapped to is the asset
    have hsame : target.id.index = i := place_unique h.nodup hfile hown
    exact hsame ▸ (ih hj).follow himporter hentry

end Finished

/-! ### The assets of a graph -/

/-- Which assets of a graph are reached: all if every file is built once, or if no asset repeats a
specifier; else those that come from the first asset by last specifiers only, and none that comes
from the earlier one of two equal specifiers. -/
structure Connected (reuse : Reuse) (assets : List Asset) (origins : Origins) : Prop where
  all : (reuse = .byPath ∨ ∀ asset ∈ assets, asset.specifiers.Nodup) →
    ∀ i < assets.length, Reachable assets i
  reachable_iff : reuse = .onChain → ∀ i < assets.length,
    (Reachable assets i ↔ Alive assets origins i)
  dead_iff : reuse = .onChain → ∀ i < assets.length, (¬ Reachable assets i ↔
    ∃ k j position asset, OnBranch origins i k ∧ origins[k]? = some (some (j, position)) ∧
      assets[j]? = some asset ∧ asset.Repeats position)

/-- **Which assets of every graph are reached.** -/
theorem graph_connected {directory path : Path} {assets : List Asset}
    (hdirectory : directory.isAbsolute)
    (h : (workshop.graph reuse directory path).result = .ok assets)
    (hcount : assets.length < UInt32.size) :
    ∃ entry, Path.absolute? directory path = some entry ∧
      ∃ traversal origins, workshop.Grown reuse entry traversal origins ∧
        traversal.pending = [] ∧ traversal.finished = assets ∧ Connected reuse assets origins := by
  obtain ⟨entry, hentry, traversal, hreached, hcoherent, hpending, rfl, -⟩ :=
    exists_reached_of_graph_eq_ok hdirectory h
  obtain ⟨hcanonical, habsolute⟩ := Path.absolute?_spec hdirectory hentry
  obtain ⟨origins, hgrown⟩ := hreached.exists_grown
  have hmapped := hreached.mapped hcanonical habsolute
  refine ⟨entry, hentry, traversal, origins, hgrown, hpending, rfl, ?_⟩
  cases reuse with
  | byPath =>
    obtain ⟨done, ahead, hcharted, hspanned⟩ := hreached.exists_spanned hcanonical habsolute
    obtain rfl : ahead = [] := hcharted.ahead_eq_nil hpending
    refine ⟨fun _ i hi => ?_, by simp, by simp⟩
    have hdone : i < done.length := hcharted.length_done ▸ hi
    exact hspanned.reachable hcharted hcoherent hmapped hpending hcount
      (List.getElem?_eq_getElem hdone)
  | onChain =>
    obtain ⟨done, ahead, hcharted, hexhausted, hrooted⟩ :=
      hgrown.exists_rooted hcanonical habsolute
    obtain rfl : ahead = [] := hcharted.ahead_eq_nil hpending
    have hwired := hrooted.wired hcharted hexhausted hcoherent hmapped hpending hcount
    have hreachable : ∀ i < traversal.finished.length,
        (Reachable traversal.finished i ↔ Alive traversal.finished origins i) :=
      fun i hi => hwired.reachable_iff_alive hcharted.length_done.symm hi
    refine ⟨fun hall i hi => ?_, fun _ i hi => hreachable i hi,
      fun _ i hi => (not_congr (hreachable i hi)).trans hwired.not_alive_iff⟩
    have hnodup := hall.resolve_left (by simp)
    rw [hreachable i hi]
    by_contra hdead
    obtain ⟨k, j, position, asset, -, -, hasset, hrepeats⟩ := hwired.not_alive_iff.mp hdead
    exact Asset.not_repeats_of_nodup (hnodup asset (List.mem_of_getElem? hasset)) hrepeats

/-- Two files that import each other twice: the second file is built for both imports, but only its
last copy is reached. -/
theorem graph_connected_pair :
    Path.root.isAbsolute ∧ pairCopies.length < UInt32.size ∧
      ∃ entry, Path.absolute? .root (.ofString "a") = some entry ∧
        ∃ traversal origins, pair.Grown .onChain entry traversal origins ∧
          traversal.pending = [] ∧ traversal.finished = pairCopies ∧
          Connected .onChain pairCopies origins :=
  ⟨rfl, by decide, graph_connected rfl result_graph_onChain_pair (by decide)⟩

end Workshop

end ModuleBundler
