import Mathlib.Data.List.Shortlex
import ModuleBundler.Proofs.Graph.WellFormed

/-!
# Chains of imports

A chain of imports is given by the positions of the specifiers that are followed, one in each file.
It is simple if it visits no file twice. Chains are ordered by their length first and by their
positions then.

Every asset that a traversal has built stands at the end of a simple chain, and the chains come in
their order: they are the chain of the asset that was followed, and the position in it.

## Main definitions

* `Workshop.importAt?`, `Workshop.Imports` — what a file imports.
* `Workshop.walk?`, `Workshop.destination?` — the files on a chain, and the last one.
* `Workshop.Simple` — chains that visit no file twice.
* `Workshop.Before` — the order of chains.
* `Workshop.Charted` — the chains of the assets of a traversal.

## Main results

* `Workshop.Charted.record`, `Workshop.Charted.build`, `Workshop.Charted.finish` — what a step does
  to the chains.
-/

namespace ModuleBundler.Workshop

variable {workshop : Workshop} {reuse : Reuse} {entry : Path}

/-! ### Imports -/

/-- The file that the specifier at a position of a file refers to. -/
def importAt? (workshop : Workshop) (file : Path) (position : Nat) : Option Path :=
  match (workshop.prepare file).result with
  | .ok analysis => analysis.specifiers[position]?.map file.resolve
  | .error _ => none

/-- Does a specifier of a file refer to the other one? -/
def Imports (workshop : Workshop) (file other : Path) : Prop :=
  ∃ position, workshop.importAt? file position = some other

theorem Coherent.importAt?_path {traversal : Traversal} (h : workshop.Coherent traversal)
    {asset : Asset} (hasset : asset ∈ traversal.built) (position : Nat) :
    workshop.importAt? asset.path position =
      asset.specifiers[position]?.map asset.path.resolve := by
  rw [importAt?, h.prepared asset hasset]

section Head

variable {finished : List Asset} {visit : Visit} {rest : List Visit} {followed : Nat}
  {progress : Progress} {reads : List Path}

/-- The asset that is followed imports what its specifiers refer to. -/
theorem Coherent.importAt?_of_specifier
    (h : workshop.Coherent ⟨finished, visit :: rest, followed, progress, reads⟩) {position : Nat}
    {specifier : String} (hspecifier : visit.asset.specifiers[position]? = some specifier) :
    workshop.importAt? visit.asset.path position = some (visit.asset.path.resolve specifier) := by
  have hbare := h.importAt?_path Traversal.bare_mem_built position
  rwa [Asset.bare, hspecifier] at hbare

/-- Behind its last specifier it imports nothing. -/
theorem Coherent.importAt?_eq_none
    (h : workshop.Coherent ⟨finished, visit :: rest, followed, progress, reads⟩)
    (hdone : visit.asset.specifiers[followed]? = none) {position : Nat}
    (hle : followed ≤ position) :
    workshop.importAt? visit.asset.path position = none := by
  have hbare := h.importAt?_path Traversal.bare_mem_built position
  have hnone : visit.asset.specifiers[position]? = none :=
    List.getElem?_eq_none ((List.getElem?_eq_none_iff.mp hdone).trans hle)
  rwa [Asset.bare, hnone] at hbare

end Head

/-! ### Chains -/

/-- The files that a chain of imports visits, from a file on. -/
def walk? (workshop : Workshop) (file : Path) : List Nat → Option (List Path)
  | [] => some [file]
  | position :: positions =>
    (workshop.importAt? file position).bind fun next =>
      (walk? workshop next positions).map (file :: ·)

/-- The file at the end of a chain of imports. -/
def destination? (workshop : Workshop) (file : Path) (positions : List Nat) : Option Path :=
  (workshop.walk? file positions).bind List.getLast?

/-- A chain of imports that visits no file twice. -/
def Simple (workshop : Workshop) (file : Path) (positions : List Nat) : Prop :=
  ∃ files, workshop.walk? file positions = some files ∧ Path.Distinct files

instance (workshop : Workshop) (file : Path) (positions : List Nat) :
    Decidable (workshop.Simple file positions) :=
  match h : workshop.walk? file positions with
  | some files => decidable_of_iff (Path.Distinct files) (by simp [Simple, h])
  | none => .isFalse (by simp [Simple, h])

theorem walk?_cons_eq_some {file : Path} {position : Nat} {positions : List Nat}
    {files : List Path} : workshop.walk? file (position :: positions) = some files ↔
      ∃ next rest, workshop.importAt? file position = some next ∧
        workshop.walk? next positions = some rest ∧ files = file :: rest := by
  simp only [walk?, Option.bind_eq_some_iff, Option.map_eq_some_iff, exists_and_left,
    eq_comm (a := files)]

theorem ne_nil_of_walk?_eq_some {file : Path} {positions : List Nat} {files : List Path}
    (h : workshop.walk? file positions = some files) : files ≠ [] := by
  cases positions with
  | nil =>
    cases h
    exact List.cons_ne_nil _ _
  | cons position positions =>
    obtain ⟨next, rest, -, -, rfl⟩ := walk?_cons_eq_some.mp h
    exact List.cons_ne_nil _ _

/-- One more import goes on from the last file. -/
theorem walk?_concat (file : Path) (positions : List Nat) (position : Nat) :
    workshop.walk? file (positions ++ [position]) =
      (workshop.walk? file positions).bind fun files =>
        (files.getLast?.bind (workshop.importAt? · position)).map fun next => files ++ [next] := by
  induction positions generalizing file with
  | nil => cases h : workshop.importAt? file position <;> simp [walk?, h]
  | cons first positions ih =>
    rw [List.cons_append, walk?, walk?]
    cases workshop.importAt? file first with
    | none => rfl
    | some next =>
      rw [Option.bind_some, Option.bind_some, ih]
      cases hwalk : workshop.walk? next positions with
      | none => rfl
      | some files =>
        have hlast : (file :: files).getLast? = files.getLast? :=
          List.getLast?_cons_of_ne_nil (ne_nil_of_walk?_eq_some hwalk)
        rw [Option.bind_some, Option.map_some, Option.bind_some, hlast]
        cases files.getLast?.bind (workshop.importAt? · position) <;> rfl

theorem destination?_nil (file : Path) : workshop.destination? file [] = some file := rfl

theorem destination?_concat (file : Path) (positions : List Nat) (position : Nat) :
    workshop.destination? file (positions ++ [position]) =
      (workshop.destination? file positions).bind (workshop.importAt? · position) := by
  rw [destination?, destination?, walk?_concat]
  cases workshop.walk? file positions with
  | none => rfl
  | some files =>
    rw [Option.bind_some, Option.bind_some]
    cases files.getLast?.bind (workshop.importAt? · position) <;> simp

theorem simple_nil (file : Path) : workshop.Simple file [] :=
  ⟨_, rfl, Path.distinct_singleton file⟩

/-- A chain that is simple is simple up to its last import. -/
theorem Simple.of_concat {file : Path} {positions : List Nat} {position : Nat}
    (h : workshop.Simple file (positions ++ [position])) : workshop.Simple file positions := by
  obtain ⟨files, hwalk, hdistinct⟩ := h
  rw [walk?_concat] at hwalk
  obtain ⟨before, hbefore, hwalk⟩ := Option.bind_eq_some_iff.mp hwalk
  obtain ⟨next, -, rfl⟩ := Option.map_eq_some_iff.mp hwalk
  exact ⟨before, hbefore, (Path.distinct_append.mp hdistinct).1⟩

/-! ### The order of chains -/

/-- Chains in order: shorter ones first, and those of one length by their positions. -/
abbrev Before : List Nat → List Nat → Prop :=
  List.Shortlex (· < ·)

/-- What decides the order of two chains of one length decides it for all chains that go on from
them. -/
theorem lex_append {first second : List Nat} (h : List.Lex (· < ·) first second)
    (hlength : first.length = second.length) (more others : List Nat) :
    List.Lex (· < ·) (first ++ more) (second ++ others) := by
  induction h with
  | nil => cases hlength
  | cons _ ih => exact .cons (ih (Nat.succ.inj hlength))
  | rel h => exact .rel h

/-- Chains that go on from chains in order are in order. -/
theorem before_concat {first second : List Nat} (h : Before first second) (i j : Nat) :
    Before (first ++ [i]) (second ++ [j]) := by
  rcases List.shortlex_def.mp h with hlength | ⟨hlength, hlex⟩
  · exact .of_length_lt (by simpa using hlength)
  · exact .of_lex (by simpa using hlength) (lex_append hlex hlength [i] [j])

/-- Chains that go on from one chain are in the order of their last positions. -/
theorem before_concat_self (positions : List Nat) {i j : Nat} (h : i < j) :
    Before (positions ++ [i]) (positions ++ [j]) :=
  .append_left ((List.shortlex_singleton_iff i j).mpr h) positions

theorem length_le_of_before {first second : List Nat} (h : Before first second) :
    first.length ≤ second.length := by
  rcases List.shortlex_def.mp h with hlength | ⟨hlength, -⟩
  · exact hlength.le
  · exact hlength.le

/-! ### What has been followed -/

/-- The specifier at a position of the asset with a chain has been followed: those of finished
assets have, and so many of the next asset. -/
def Followed (count : Nat) (done ahead : List (List Nat)) (chain : List Nat) (position : Nat) :
    Prop :=
  chain ∈ done ∨ ahead.head? = some chain ∧ position < count

namespace Followed

variable {count position : Nat} {done others : List (List Nat)} {chain first : List Nat}

theorem next (count : Nat) (done others : List (List Nat)) (chain : List Nat) :
    Followed (count + 1) done (chain :: others) chain count :=
  Or.inr ⟨rfl, Nat.lt_succ_self count⟩

theorem succ (h : Followed count done (chain :: others) first position)
    (more : List (List Nat)) : Followed (count + 1) done (chain :: more) first position :=
  Or.imp_right (And.imp_right Nat.lt_succ_of_lt) h

/-- After one more specifier, what has been followed was so before or is this one. -/
theorem of_succ (h : Followed (count + 1) done (chain :: others) first position)
    (more : List (List Nat)) :
    Followed count done (chain :: more) first position ∨ first = chain ∧ position = count := by
  rcases h with hdone | ⟨hhead, hlt⟩
  · exact .inl (Or.inl hdone)
  rcases Nat.lt_succ_iff_lt_or_eq.mp hlt with hlt | rfl
  · exact .inl (Or.inr ⟨hhead, hlt⟩)
  · exact .inr ⟨(Option.some.inj hhead).symm, rfl⟩

theorem finish (h : Followed count done (chain :: others) first position) :
    Followed 0 (done ++ [chain]) others first position := by
  rcases h with hdone | ⟨hhead, -⟩
  · exact Or.inl (List.mem_append_left _ hdone)
  · cases hhead
    exact Or.inl (List.mem_append_right _ (List.mem_singleton_self _))

/-- After an asset is finished, what has been followed was so before or is behind it. -/
theorem of_finish (h : Followed 0 (done ++ [chain]) others first position) (count : Nat) :
    Followed count done (chain :: others) first position ∨ first = chain ∧ count ≤ position := by
  rcases h with hmem | ⟨-, hlt⟩
  · rcases List.mem_append.mp hmem with hdone | hlast
    · exact .inl (Or.inl hdone)
    · obtain rfl := List.mem_singleton.mp hlast
      rcases Nat.lt_or_ge position count with hlt | hle
      · exact .inl (Or.inr ⟨rfl, hlt⟩)
      · exact .inr ⟨rfl, hle⟩
  · exact absurd hlt (Nat.not_lt_zero _)

end Followed

/-! ### The chains of a traversal -/

/-- The chains of the assets of a traversal: of those that are finished and of the others. They are
simple and come in order, and each of them but the empty one goes on from an asset at a specifier
that has been followed. -/
structure Charted (workshop : Workshop) (entry : Path) (traversal : Traversal)
    (done ahead : List (List Nat)) : Prop where
  finished : done.map (workshop.destination? entry) =
    traversal.finished.map fun asset => some asset.path
  pending : ahead.map (workshop.walk? entry) =
    traversal.pending.map fun visit => some (visit.chain.map Prod.fst).reverse
  simple : ∀ chain ∈ done ++ ahead, workshop.Simple entry chain
  nil_mem : [] ∈ done ++ ahead
  ordered : (done ++ ahead).Pairwise Before
  origin : ∀ chain position, chain ++ [position] ∈ done ++ ahead →
    Followed traversal.followed done ahead chain position

namespace Charted

section Destinations

variable {traversal : Traversal} {done ahead : List (List Nat)}

/-- The chains end at the files of the assets. -/
theorem map_destination? (h : workshop.Charted entry traversal done ahead)
    (hcoherent : workshop.Coherent traversal) :
    (done ++ ahead).map (workshop.destination? entry) = traversal.files.map some := by
  have hahead : ahead.map (workshop.destination? entry) =
      traversal.pending.map fun visit => some visit.asset.path := by
    have hbind : ahead.map (workshop.destination? entry) =
        (ahead.map (workshop.walk? entry)).map (Option.bind · List.getLast?) := by
      rw [List.map_map]
      rfl
    rw [hbind, h.pending, List.map_map]
    exact List.map_congr_left fun visit hvisit => (hcoherent.linked visit hvisit).getLast?_reverse
  rw [List.map_append, h.finished, hahead]
  simp [Traversal.files, Traversal.queue, Function.comp_def]

/-- Every asset has one chain. -/
theorem length_eq (h : workshop.Charted entry traversal done ahead)
    (hcoherent : workshop.Coherent traversal) :
    (done ++ ahead).length = traversal.built.length := by
  have hlength := congrArg List.length (h.map_destination? hcoherent)
  rwa [List.length_map, ← Traversal.map_path_built, List.length_map, List.length_map] at hlength

theorem length_done (h : workshop.Charted entry traversal done ahead) :
    done.length = traversal.finished.length := by
  have hlength := congrArg List.length h.finished
  rwa [List.length_map, List.length_map] at hlength

/-- A file that has been built is at the end of a chain. -/
theorem exists_destination (h : workshop.Charted entry traversal done ahead)
    (hcoherent : workshop.Coherent traversal) {file : Path} (hfile : file ∈ traversal.files) :
    ∃ chain ∈ done ++ ahead, workshop.destination? entry chain = some file :=
  List.mem_map.mp (h.map_destination? hcoherent ▸ List.mem_map_of_mem hfile)

/-- The chain of a finished asset ends at its file. -/
theorem destination?_getElem (h : workshop.Charted entry traversal done ahead) {i : Nat}
    (hi : i < traversal.finished.length) (hdone : i < done.length) :
    workshop.destination? entry done[i] = some traversal.finished[i].path := by
  have hplace := congrArg (·[i]?) h.finished
  simpa [hi, hdone] using hplace

/-- When no asset is left to finish, no chain is. -/
theorem ahead_eq_nil (h : workshop.Charted entry traversal done ahead)
    (hpending : traversal.pending = []) : ahead = [] := by
  have hmap := h.pending
  rw [hpending] at hmap
  exact List.map_eq_nil_iff.mp hmap

end Destinations

/-! ### What a step does to the chains -/

theorem opening (analysis : Linking.Analysis) :
    workshop.Charted entry (workshop.opening entry analysis) [] [[]] where
  finished := rfl
  pending := rfl
  simple chain hchain := by
    rw [List.mem_singleton.mp hchain]
    exact simple_nil entry
  nil_mem := List.mem_singleton_self _
  ordered := List.pairwise_singleton _ _
  origin chain position hmem := by simp at hmem

variable {finished : List Asset} {visit : Visit} {rest : List Visit} {followed : Nat}
  {progress progress' : Progress} {reads reads' : List Path} {done : List (List Nat)}

/-- The asset that is followed has a chain. -/
theorem exists_head {ahead : List (List Nat)}
    (h : workshop.Charted entry ⟨finished, visit :: rest, followed, progress, reads⟩ done ahead) :
    ∃ chain others, ahead = chain :: others := by
  obtain ⟨chain, others, rfl, -⟩ := List.map_eq_cons_iff.mp h.pending
  exact ⟨chain, others, rfl⟩

variable {chain : List Nat} {others : List (List Nat)}
  (h : workshop.Charted entry ⟨finished, visit :: rest, followed, progress, reads⟩ done
    (chain :: others))
  (hcoherent : workshop.Coherent ⟨finished, visit :: rest, followed, progress, reads⟩)
  {specifier : String} {id : AssetId}

include h

theorem walk?_head : workshop.walk? entry chain = some (visit.chain.map Prod.fst).reverse :=
  (List.cons.inj h.pending).1

/-- All chains come before the one that goes on from the asset that is followed. -/
theorem before_next : ∀ other ∈ done ++ chain :: others, Before other (chain ++ [followed]) := by
  intro other hother
  rcases List.eq_nil_or_concat other with rfl | ⟨first, position, rfl⟩
  · exact .of_length_lt (by simp)
  rw [List.concat_eq_append] at hother ⊢
  rcases h.origin first position hother with hdone | ⟨hhead, hlt⟩
  · have hbefore := (List.pairwise_append.mp h.ordered).2.2 first hdone chain List.mem_cons_self
    exact before_concat hbefore position followed
  · cases hhead
    exact before_concat_self chain hlt

include hcoherent

theorem destination?_head : workshop.destination? entry chain = some visit.asset.path := by
  rw [destination?, h.walk?_head, Option.bind_some,
    (hcoherent.linked visit List.mem_cons_self).getLast?_reverse]

/-- What comes behind the chain of the asset that is followed is what the asset imports. -/
theorem destination?_next (position : Nat) :
    workshop.destination? entry (chain ++ [position]) =
      workshop.importAt? visit.asset.path position := by
  rw [destination?_concat, h.destination?_head hcoherent, Option.bind_some]

/-- If the chain behind it is simple, it leads to a file that is not on the chain before it. -/
theorem exists_import_of_simple {position : Nat}
    (hsimple : workshop.Simple entry (chain ++ [position])) :
    ∃ next, workshop.importAt? visit.asset.path position = some next ∧
      ∀ link ∈ visit.chain, ¬ link.1.same next := by
  obtain ⟨files, hfiles, hdistinct⟩ := hsimple
  rw [walk?_concat, h.walk?_head, Option.bind_some,
    (hcoherent.linked visit List.mem_cons_self).getLast?_reverse, Option.bind_some] at hfiles
  obtain ⟨next, hnext, rfl⟩ := Option.map_eq_some_iff.mp hfiles
  refine ⟨next, hnext, fun link hlink => ?_⟩
  exact (Path.distinct_append.mp hdistinct).2.2 link.1
    (List.mem_reverse.mpr (List.mem_map_of_mem hlink)) next (List.mem_singleton_self next)

/-- The chain behind the one of the asset that is followed visits one more file. -/
theorem walk?_next (hspecifier : visit.asset.specifiers[followed]? = some specifier) :
    workshop.walk? entry (chain ++ [followed]) =
      some (visit.asset.path.resolve specifier :: visit.chain.map Prod.fst).reverse := by
  rw [walk?_concat, h.walk?_head, Option.bind_some,
    (hcoherent.linked visit List.mem_cons_self).getLast?_reverse, Option.bind_some,
    hcoherent.importAt?_of_specifier hspecifier, Option.map_some, List.reverse_cons]

/-- It is simple if no asset is found for the specifier. -/
theorem simple_next (hspecifier : visit.asset.specifiers[followed]? = some specifier)
    (hfind : reuse.find? progress visit (visit.asset.path.resolve specifier) = none) :
    workshop.Simple entry (chain ++ [followed]) := by
  have hdistinct := (hcoherent.linked visit List.mem_cons_self).distinct
  refine ⟨_, h.walk?_next hcoherent hspecifier, Path.distinct_reverse.mpr ?_⟩
  refine Path.distinct_cons.mpr ⟨fun other hother => ?_, hdistinct⟩
  obtain ⟨link, hlink, rfl⟩ := List.mem_map.mp hother
  rw [Path.same_comm]
  exact hcoherent.fresh List.mem_cons_self hfind link hlink

omit hcoherent in
/-- A specifier for which nothing is built leaves the chains. -/
theorem record :
    workshop.Charted entry
      ⟨finished, visit.record specifier id :: rest, followed + 1, progress', reads'⟩ done
        (chain :: others) where
  finished := h.finished
  pending := h.pending
  simple := h.simple
  nil_mem := h.nil_mem
  ordered := h.ordered
  origin first position hmem := (h.origin first position hmem).succ others

/-- An asset that is built for a specifier has the chain that goes on at this specifier. -/
theorem build (hspecifier : visit.asset.specifiers[followed]? = some specifier)
    (hfind : reuse.find? progress visit (visit.asset.path.resolve specifier) = none)
    {asset : Asset} (hpath : asset.path = visit.asset.path.resolve specifier) :
    workshop.Charted entry ⟨finished,
      visit.record specifier asset.id :: (rest ++ [visitOf visit.chain asset]), followed + 1,
        progress', reads'⟩ done (chain :: (others ++ [chain ++ [followed]])) := by
  have hnext : workshop.walk? entry (chain ++ [followed]) =
      some ((visitOf visit.chain asset).chain.map Prod.fst).reverse := by
    rw [h.walk?_next hcoherent hspecifier, ← hpath]
    rfl
  have happend : done ++ chain :: (others ++ [chain ++ [followed]]) =
      (done ++ chain :: others) ++ [chain ++ [followed]] := by simp
  refine ⟨h.finished, ?_, ?_, ?_, ?_, fun first position hmem => ?_⟩
  · have hpending := h.pending
    simp only [List.map_cons, List.map_append, List.map_nil, hnext] at hpending ⊢
    rw [List.cons.injEq] at hpending
    rw [hpending.1, hpending.2]
    rfl
  · rw [happend]
    refine List.forall_mem_append.mpr ⟨h.simple, fun other hother => ?_⟩
    rw [List.mem_singleton.mp hother]
    exact h.simple_next hcoherent hspecifier hfind
  · rw [happend]
    exact List.mem_append_left _ h.nil_mem
  · rw [happend]
    refine List.pairwise_append.mpr ⟨h.ordered, List.pairwise_singleton _ _, ?_⟩
    intro other hother last hmem
    rw [List.mem_singleton.mp hmem]
    exact h.before_next other hother
  · rw [happend] at hmem
    rcases List.mem_append.mp hmem with hmem | hmem
    · exact (h.origin first position hmem).succ _
    · obtain ⟨rfl, hposition⟩ := List.append_inj' (List.mem_singleton.mp hmem) rfl
      rw [(List.cons.inj hposition).1]
      exact .next followed done _ first

/-- A finished asset keeps its chain. -/
theorem finish :
    workshop.Charted entry ⟨finished ++ [visit.asset], rest, 0, progress', reads'⟩
      (done ++ [chain]) others := by
  have happend : done ++ [chain] ++ others = done ++ chain :: others := by simp
  refine ⟨?_, (List.cons.inj h.pending).2, happend ▸ h.simple, happend ▸ h.nil_mem,
    happend ▸ h.ordered, fun first position hmem => ?_⟩
  · rw [List.map_append, h.finished, List.map_append, List.map_singleton,
      h.destination?_head hcoherent]
    rfl
  · rw [happend] at hmem
    exact (h.origin first position hmem).finish

end Charted

end ModuleBundler.Workshop
