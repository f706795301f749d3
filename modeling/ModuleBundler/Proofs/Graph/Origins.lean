import ModuleBundler.Proofs.Graph.SimpleChains

/-!
# Where assets come from

An asset is built for a specifier at a position of another asset, from which it comes. When files
are built again, an asset is built for every specifier that does not lead back to the chain; but a
specifier that is repeated is mapped to the last of its assets only.

## Main definitions

* `LastAt`, `Asset.MentionsLast`, `Asset.Repeats` — the last of several equal specifiers.
* `Workshop.Grown` — a traversal with the table of where its assets come from.
* `OnBranch` — an asset and those that it comes from.
* `Workshop.Rooted` — what a traversal that builds files again keeps of this table.

## Main results

* `Workshop.Reached.exists_grown` — every traversal has such a table.
* `Workshop.Grown.exists_rooted` — the last of equal specifiers decides what they are mapped to.
-/

namespace ModuleBundler

/-! ### The last of equal specifiers -/

/-- The specifier stands at the position and at none behind it. -/
def LastAt (specifiers : List String) (position : Nat) (specifier : String) : Prop :=
  specifiers[position]? = some specifier ∧
    ∀ later, position < later → specifiers[later]? ≠ some specifier

/-- The position is the last one of an asset with its specifier. -/
def Asset.MentionsLast (asset : Asset) (position : Nat) : Prop :=
  ∃ specifier, LastAt asset.specifiers position specifier

/-- The specifier at a position of an asset is repeated behind it. -/
def Asset.Repeats (asset : Asset) (position : Nat) : Prop :=
  ∃ specifier later, asset.specifiers[position]? = some specifier ∧ position < later ∧
    asset.specifiers[later]? = some specifier

section Specifiers

variable {specifiers : List String} {position : Nat} {specifier other : String}

/-- Behind one more specifier, it is the last of its kind, and those of other kinds stay. -/
theorem LastAt.of_concat (h : LastAt (specifiers ++ [other]) position specifier) :
    position = specifiers.length ∧ specifier = other ∨
      specifier ≠ other ∧ LastAt specifiers position specifier := by
  obtain ⟨hat, hlast⟩ := h
  have hend : (specifiers ++ [other])[specifiers.length]? = some other :=
    List.getElem?_concat_length
  have hlt : position < specifiers.length + 1 := by
    have hbound := (List.getElem?_eq_some_iff.mp hat).1
    simpa using hbound
  by_cases hposition : position = specifiers.length
  · subst hposition
    exact .inl ⟨rfl, Option.some.inj (hat.symm.trans hend)⟩
  · have hbefore : position < specifiers.length := by omega
    have hne : specifier ≠ other := by
      rintro rfl
      exact hlast specifiers.length hbefore hend
    refine .inr ⟨hne, ?_, fun later hlater => ?_⟩
    · rwa [List.getElem?_append_left hbefore] at hat
    · intro hother
      have hbound := (List.getElem?_eq_some_iff.mp hother).1
      refine hlast later hlater ?_
      rwa [List.getElem?_append_left hbound]

/-- Every specifier stands somewhere for the last time. -/
theorem exists_lastAt (h : specifiers[position]? = some specifier) :
    ∃ last, position ≤ last ∧ LastAt specifiers last specifier := by
  by_contra hnone
  have hagain : ∀ n, ∃ later, n ≤ later ∧ position ≤ later ∧
      specifiers[later]? = some specifier := by
    intro n
    induction n with
    | zero => exact ⟨position, Nat.zero_le _, le_rfl, h⟩
    | succ n ih =>
      obtain ⟨later, hn, hposition, hlater⟩ := ih
      have hnot : ¬ LastAt specifiers later specifier := fun hlast =>
        hnone ⟨later, hposition, hlast⟩
      simp only [LastAt, hlater, true_and, ne_eq, not_forall, not_not] at hnot
      obtain ⟨next, hnext, heq⟩ := hnot
      exact ⟨next, by omega, by omega, heq⟩
  obtain ⟨later, hlength, -, hlater⟩ := hagain specifiers.length
  have hbound := (List.getElem?_eq_some_iff.mp hlater).1
  omega

/-- A position with a specifier is the last one with it, or the specifier is repeated. -/
theorem Asset.mentionsLast_or_repeats {asset : Asset}
    (h : asset.specifiers[position]? = some specifier) :
    asset.MentionsLast position ∨ asset.Repeats position := by
  obtain ⟨last, hle, hlast⟩ := exists_lastAt h
  by_cases heq : position = last
  · exact .inl ⟨specifier, heq ▸ hlast⟩
  · exact .inr ⟨specifier, last, h, by omega, hlast.1⟩

theorem Asset.MentionsLast.not_repeats {asset : Asset} (h : asset.MentionsLast position) :
    ¬ asset.Repeats position := by
  rintro ⟨specifier, later, hat, hlt, hlater⟩
  obtain ⟨last, hlast, hnone⟩ := h
  obtain rfl := Option.some.inj (hlast.symm.trans hat)
  exact hnone later hlt hlater

/-- Where no specifier is repeated, every position is the last one. -/
theorem Asset.not_repeats_of_nodup {asset : Asset} (h : asset.specifiers.Nodup) :
    ¬ asset.Repeats position := by
  rintro ⟨specifier, later, hat, hlt, hlater⟩
  obtain ⟨hposition, rfl⟩ := List.getElem?_eq_some_iff.mp hat
  obtain ⟨hbound, heq⟩ := List.getElem?_eq_some_iff.mp hlater
  have hsame := (List.Nodup.getElem_inj_iff h).mp heq
  omega

end Specifiers

/-! ### Where assets come from -/

/-- Where an asset comes from: nowhere if it is the first one, else from the asset at an index, for
the specifier at a position. -/
abbrev Origins := List (Option (Nat × Nat))

/-- An asset and those that it comes from, up to the first one. -/
inductive OnBranch (origins : Origins) : Nat → Nat → Prop
  | self (i : Nat) : OnBranch origins i i
  | parent {i j k position : Nat} (h : origins[i]? = some (some (j, position)))
      (hrest : OnBranch origins j k) : OnBranch origins i k

theorem OnBranch.trans {origins : Origins} {i j k : Nat} (h : OnBranch origins i j)
    (h' : OnBranch origins j k) : OnBranch origins i k := by
  induction h with
  | self => exact h'
  | parent horigin _ ih => exact .parent horigin (ih h')

/-- An asset stands at the end of a chain that goes on from that of the asset that it comes from. -/
def ComesFrom (chains : List (List Nat)) (origin : Option (Nat × Nat)) (chain : List Nat) : Prop :=
  match origin with
  | none => chain = []
  | some (j, position) => ∃ parent, chains[j]? = some parent ∧ chain = parent ++ [position]

theorem ComesFrom.mono {chains : List (List Nat)} {origin : Option (Nat × Nat)} {chain : List Nat}
    (h : ComesFrom chains origin chain) (more : List (List Nat)) :
    ComesFrom (chains ++ more) origin chain := by
  cases origin with
  | none => exact h
  | some pair =>
    obtain ⟨parent, hparent, hchain⟩ := h
    have hbound := (List.getElem?_eq_some_iff.mp hparent).1
    exact ⟨parent, by rw [List.getElem?_append_left hbound, hparent], hchain⟩

namespace Workshop

/-- A traversal with the table of where its assets come from: one that is built comes from the asset
whose specifiers are being followed. -/
inductive Grown (workshop : Workshop) (reuse : Reuse) (entry : Path) : Traversal → Origins → Prop
  | opening {analysis : Linking.Analysis} (h : (workshop.prepare entry).result = .ok analysis) :
      Grown workshop reuse entry (workshop.opening entry analysis) [none]
  | keep {before after : Traversal} {origins : Origins}
      (h : Grown workshop reuse entry before origins) (hstep : workshop.Step reuse before after)
      (hbuilt : after.built = before.built) : Grown workshop reuse entry after origins
  | build {before after : Traversal} {origins : Origins} {asset : Asset}
      (h : Grown workshop reuse entry before origins) (hstep : workshop.Step reuse before after)
      (hbuilt : after.built = before.built ++ [asset]) :
      Grown workshop reuse entry after
        (origins ++ [some (before.finished.length, before.followed)])

variable {workshop : Workshop} {reuse : Reuse} {entry : Path}

theorem Grown.reached {traversal : Traversal} {origins : Origins}
    (h : workshop.Grown reuse entry traversal origins) :
    workshop.Reached reuse entry traversal := by
  induction h with
  | opening h => exact .opening h
  | keep _ hstep _ ih | build _ hstep _ ih => exact .step ih hstep

/-- Every traversal has such a table. -/
theorem Reached.exists_grown {traversal : Traversal} (h : workshop.Reached reuse entry traversal) :
    ∃ origins, workshop.Grown reuse entry traversal origins := by
  induction h with
  | opening h => exact ⟨_, .opening h⟩
  | step _ hstep ih =>
    obtain ⟨origins, hgrown⟩ := ih
    rcases hstep.built_cases with hbuilt | ⟨asset, hbuilt⟩
    · exact ⟨origins, hgrown.keep hstep hbuilt⟩
    · exact ⟨_, hgrown.build hstep hbuilt⟩

/-! ### The last of equal specifiers decides -/

/-- The last of equal specifiers, if the chain behind it is simple, is mapped to the asset at the
end of that chain. -/
def MapsLast (workshop : Workshop) (entry : Path) (chains : List (List Nat)) (chain : List Nat)
    (specifiers : List String) (mapping : Mapping) : Prop :=
  ∀ position specifier, LastAt specifiers position specifier →
    workshop.Simple entry (chain ++ [position]) →
      ∃ id, mapping.lookup specifier = some id ∧ id.StandsFor chains (chain ++ [position])

theorem MapsLast.mono {chains : List (List Nat)} {chain : List Nat} {specifiers : List String}
    {mapping : Mapping} (h : workshop.MapsLast entry chains chain specifiers mapping)
    (more : List (List Nat)) :
    workshop.MapsLast entry (chains ++ more) chain specifiers mapping := by
  intro position specifier hlast hsimple
  obtain ⟨id, hlookup, hstands⟩ := h position specifier hlast hsimple
  exact ⟨id, hlookup, hstands.mono more⟩

/-- One more specifier is mapped, to the asset at the end of the chain behind it if that is
simple. -/
theorem MapsLast.insert {chains : List (List Nat)} {chain : List Nat} {specifiers : List String}
    {mapping : Mapping} {specifier : String} {id : AssetId}
    (h : workshop.MapsLast entry chains chain specifiers mapping)
    (hid : workshop.Simple entry (chain ++ [specifiers.length]) →
      id.StandsFor chains (chain ++ [specifiers.length])) :
    workshop.MapsLast entry chains chain (specifiers ++ [specifier])
      (mapping.insert specifier id) := by
  intro position other hlast hsimple
  rcases hlast.of_concat with ⟨rfl, rfl⟩ | ⟨hne, hlast⟩
  · exact ⟨id, Association.lookup_put_self _ _ _, hid hsimple⟩
  · obtain ⟨target, hlookup, hstands⟩ := h position other hlast hsimple
    exact ⟨target, (Association.lookup_put_of_ne hne id mapping).trans hlookup, hstands⟩

/-- What a traversal that builds files again keeps of its table and of its mappings: each asset
stands at the end of a chain that goes on from that of the asset that it comes from, and the last of
equal specifiers decides what they are mapped to. -/
structure Rooted (workshop : Workshop) (entry : Path) (traversal : Traversal) (origins : Origins)
    (done ahead : List (List Nat)) : Prop where
  origins : List.Forall₂ (ComesFrom (done ++ ahead)) origins (done ++ ahead)
  finished : List.Forall₂ (fun chain asset =>
    workshop.MapsLast entry (done ++ ahead) chain asset.specifiers asset.mapping)
      done traversal.finished
  head : ∀ chain ∈ ahead.head?, ∀ visit ∈ traversal.pending.head?,
    workshop.MapsLast entry (done ++ ahead) chain
      (visit.asset.specifiers.take traversal.followed) visit.asset.mapping

/-- Of the traversal of which nothing but the entry has been built no specifier has been
followed. -/
theorem rooted_opening (analysis : Linking.Analysis) :
    workshop.Rooted entry (workshop.opening entry analysis) [none] [] [[]] := by
  refine ⟨.cons rfl .nil, .nil, ?_⟩
  intro chain _ visit _ position specifier hlast
  have hnone := hlast.1
  rw [show (workshop.opening entry analysis).followed = 0 from rfl, List.take_zero] at hnone
  exact absurd hnone (by simp)

namespace Rooted

variable {finished : List Asset} {visit : Visit} {rest : List Visit} {followed : Nat}
  {progress progress' : Progress} {reads reads' : List Path} {origins : Origins}
  {done others : List (List Nat)} {chain : List Nat} {specifier : String} {id : AssetId}
  (h : workshop.Rooted entry ⟨finished, visit :: rest, followed, progress, reads⟩ origins done
    (chain :: others))

include h

/-- One more specifier of the asset that is followed is mapped. -/
theorem mapsLast_record {chains more : List (List Nat)} (hchains : chains = done ++ chain :: others)
    (hspecifier : visit.asset.specifiers[followed]? = some specifier)
    (hid : workshop.Simple entry (chain ++ [followed]) →
      id.StandsFor (chains ++ more) (chain ++ [followed])) :
    workshop.MapsLast entry (chains ++ more) chain
      ((visit.record specifier id).asset.specifiers.take (followed + 1))
      (visit.record specifier id).asset.mapping := by
  have hlength : (visit.asset.specifiers.take followed).length = followed := by
    have hbound := (List.getElem?_eq_some_iff.mp hspecifier).1
    rw [List.length_take]
    omega
  have htake : visit.asset.specifiers.take (followed + 1) =
      visit.asset.specifiers.take followed ++ [specifier] := by
    rw [List.take_add_one, hspecifier, Option.toList_some]
  have hhead := (hchains ▸ h.head chain rfl visit rfl).mono more
  show workshop.MapsLast entry (chains ++ more) chain (visit.asset.specifiers.take (followed + 1))
    (visit.asset.mapping.insert specifier id)
  rw [htake]
  refine hhead.insert fun hsimple => ?_
  rw [hlength] at hsimple ⊢
  exact hid hsimple

/-- A specifier that leads back to the chain. The chain behind it is not simple. -/
theorem record
    (hcharted : workshop.Charted entry ⟨finished, visit :: rest, followed, progress, reads⟩ done
      (chain :: others))
    (hcoherent : workshop.Coherent ⟨finished, visit :: rest, followed, progress, reads⟩)
    (hspecifier : visit.asset.specifiers[followed]? = some specifier)
    (hlink : (visit.asset.path.resolve specifier, id) ∈ visit.chain) :
    workshop.Rooted entry
      ⟨finished, visit.record specifier id :: rest, followed + 1, progress', reads'⟩ origins done
        (chain :: others) := by
  have hnot : ¬ workshop.Simple entry (chain ++ [followed]) := by
    intro hsimple
    obtain ⟨next, hnext, hfresh⟩ := hcharted.exists_import_of_simple hcoherent hsimple
    rw [hcoherent.importAt?_of_specifier hspecifier] at hnext
    cases hnext
    exact hfresh _ hlink (Path.same_self _)
  refine ⟨h.origins, h.finished, ?_⟩
  rintro _ ⟨⟩ _ ⟨⟩
  have hid : workshop.Simple entry (chain ++ [followed]) →
      id.StandsFor (done ++ chain :: others ++ []) (chain ++ [followed]) :=
    fun hsimple => absurd hsimple hnot
  have hmaps := h.mapsLast_record rfl hspecifier hid
  rwa [List.append_nil] at hmaps

/-- An asset that is built for a specifier comes from the asset that is followed. -/
theorem build
    (hcharted : workshop.Charted entry ⟨finished, visit :: rest, followed, progress, reads⟩ done
      (chain :: others))
    (hcoherent : workshop.Coherent ⟨finished, visit :: rest, followed, progress, reads⟩)
    (hspecifier : visit.asset.specifiers[followed]? = some specifier)
    {analysis : Linking.Analysis} {asset : Asset}
    (hasset : asset = stamp progress.numbering (visit.asset.path.resolve specifier) analysis) :
    workshop.Rooted entry
      ⟨finished, visit.record specifier asset.id :: (rest ++ [visitOf visit.chain asset]),
        followed + 1, progress', reads'⟩ (origins ++ [some (finished.length, followed)]) done
        (chain :: (others ++ [chain ++ [followed]])) := by
  have hid : asset.id = .nth (done ++ chain :: others).length := by
    rw [hasset, hcharted.length_eq hcoherent]
    exact hcoherent.id_stamp _ _
  have happend : done ++ chain :: (others ++ [chain ++ [followed]]) =
      (done ++ chain :: others) ++ [chain ++ [followed]] := by simp
  have hstands : asset.id.StandsFor ((done ++ chain :: others) ++ [chain ++ [followed]])
      (chain ++ [followed]) := ⟨_, List.getElem?_concat_length, hid⟩
  have hcomes : ComesFrom (done ++ chain :: others) (some (finished.length, followed))
      (chain ++ [followed]) := by
    refine ⟨chain, ?_, rfl⟩
    rw [← hcharted.length_done, List.getElem?_append_right le_rfl, Nat.sub_self]
    rfl
  refine ⟨?_, ?_, ?_⟩
  · rw [happend]
    exact List.rel_append (h.origins.imp fun _ _ hother => hother.mono _)
      (.cons (hcomes.mono _) .nil)
  · rw [happend]
    exact h.finished.imp fun _ _ hother => hother.mono _
  · rintro _ ⟨⟩ _ ⟨⟩
    rw [happend]
    exact h.mapsLast_record rfl hspecifier fun _ => hstands

/-- A finished asset has no specifier behind those that have been followed. -/
theorem finish (hdone : visit.asset.specifiers[followed]? = none) :
    workshop.Rooted entry ⟨finished ++ [visit.asset], rest, 0, progress', reads'⟩ origins
      (done ++ [chain]) others := by
  have happend : done ++ [chain] ++ others = done ++ chain :: others := by simp
  have hall : visit.asset.specifiers.take followed = visit.asset.specifiers :=
    List.take_of_length_le (List.getElem?_eq_none_iff.mp hdone)
  have hhead := h.head chain rfl visit rfl
  rw [hall] at hhead
  refine ⟨?_, ?_, ?_⟩
  · rw [happend]
    exact h.origins
  · rw [happend]
    exact List.rel_append h.finished (.cons hhead .nil)
  · -- Of the next asset no specifier has been followed.
    intro next _ other _ position specifier hlast
    rw [List.take_zero] at hlast
    exact absurd hlast.1 (by simp)

end Rooted

/-- Every traversal that builds files again keeps what is kept of its table and its mappings. -/
theorem Grown.exists_rooted {traversal : Traversal} {origins : Origins}
    (h : workshop.Grown .onChain entry traversal origins) (hcanonical : entry.IsCanonical)
    (habsolute : entry.isAbsolute) :
    ∃ done ahead, workshop.Charted entry traversal done ahead ∧
      workshop.Exhausted entry traversal done ahead ∧
      workshop.Rooted entry traversal origins done ahead := by
  induction h with
  | @opening analysis hprepare =>
    exact ⟨[], [[]], .opening analysis, exhausted_opening analysis, rooted_opening analysis⟩
  | @keep before after origins hbefore hstep hbuilt ih =>
    obtain ⟨done, ahead, hcharted, hexhausted, hrooted⟩ := ih
    have hcoherent := hbefore.reached.coherent hcanonical habsolute
    cases hstep with
    | reuse hspecifier hfind =>
      obtain ⟨chain, others, rfl⟩ := hcharted.exists_head
      have hlink := hcoherent.mem_chain_of_find?_eq_some List.mem_cons_self
        (Path.isCanonical_resolve _ _) hfind
      exact ⟨done, _, hcharted.record, hexhausted.record hcharted hcoherent hspecifier hlink,
        hrooted.record hcharted hcoherent hspecifier hlink⟩
    | @build _ _ _ followed progress reads _ _ asset _ _ _ hasset =>
      rw [built_build _ _ _ followed _ progress _ reads _ _ (by rw [hasset]; rfl)] at hbuilt
      simp at hbuilt
    | finish hdone =>
      obtain ⟨chain, others, rfl⟩ := hcharted.exists_head
      exact ⟨_, others, hcharted.finish hcoherent, hexhausted.finish hcharted hcoherent hdone,
        hrooted.finish hdone⟩
  | @build before after origins built hbefore hstep hbuilt ih =>
    obtain ⟨done, ahead, hcharted, hexhausted, hrooted⟩ := ih
    have hcoherent := hbefore.reached.coherent hcanonical habsolute
    cases hstep with
    | @reuse _ _ _ followed =>
      rw [built_record _ _ _ followed] at hbuilt
      simp at hbuilt
    | build hspecifier hfind hprepare hasset =>
      obtain ⟨chain, others, rfl⟩ := hcharted.exists_head
      exact ⟨done, _, hcharted.build hcoherent hspecifier hfind (by rw [hasset]; rfl),
        hexhausted.build hcharted hcoherent hspecifier hasset,
        hrooted.build hcharted hcoherent hspecifier hasset⟩
    | @finish _ _ _ followed =>
      rw [built_finish _ _ _ followed] at hbuilt
      simp at hbuilt

end Workshop

end ModuleBundler
