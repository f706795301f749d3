import Mathlib.Data.List.Forall2
import Mathlib.Data.Option.Basic
import ModuleBundler.Proofs.Asset
import ModuleBundler.Proofs.Path.Parent
import ModuleBundler.Settings.Build

/-!
# Settings mean the same however their file is spelled

The paths of settings are relative to the directory of their file. If this file is named by a
relative path, they stay relative to the working directory; if it is named by the same path behind
the working directory, they become absolute. Both times they mean the same files, however the
path of the file and the paths in it are spelled: the directory around the file is the working
directory and the directory around the relative path behind it, up to steps to the parent.

## Main definitions

* `Path.Coincide` — paths that mean one file in a working directory.
* `Path.Around` — the directories around a file that is named in two ways.
* `Settings.Fieldwise` — settings that differ in their paths only.
* `Settings.Grounded` — what becomes of settings that are relative to an absolute directory.

## Main results

* `Path.coincide_join` — a path behind the two directories around a file.
* `Settings.fieldwise_relativeTo` — settings that are relative to two directories.
* `Settings.spelledFreely` — settings mean the same however the path of their file is spelled.
-/

namespace ModuleBundler

/-! ### Directories around a file -/

namespace Path

/-- Two paths mean one file in a working directory. -/
def Coincide (directory first second : Path) : Prop :=
  ∃ file, absolute? directory first = some file ∧ absolute? directory second = some file

/-- The last component of a path is a name. -/
def EndsInName (path : Path) : Prop :=
  ∃ before chars, path.components = before ++ [.name chars]

variable {directory path near far field : Path}

theorem join_ne_nil (first : Path) {second : Path} (hne : second.chars ≠ []) :
    (first.join second).chars ≠ [] := by
  unfold join
  split_ifs <;> simp [hne]

/-- A relative path behind a relative path is relative. -/
theorem isAbsolute_join_eq_false {first second : Path} (h : first.isAbsolute = false)
    (h' : second.isAbsolute = false) : (first.join second).isAbsolute = false := by
  obtain ⟨chars⟩ := first
  cases chars with
  | nil => rwa [join_of_nil rfl]
  | cons c cs =>
    rw [join, if_neg (Bool.eq_false_iff.mp h')]
    split_ifs <;> exact h

/-- The components before the name at the end of a relative path are read as the steps before it. -/
theorem exists_steps_eq {before : List Component} {chars : List Char}
    (hpath : path.isAbsolute = false) (h : path.components = before ++ [.name chars]) :
    ∃ steps, path.steps = steps ++ [.name chars] ∧
      ∀ stack, before.foldl pushComponent stack = steps.foldl pushComponent stack := by
  rcases path.components_eq_steps with hsteps | hsteps | hsteps
  · have habsolute : path.isAbsolute := by
      rw [isAbsolute_iff_head?_components, hsteps]
      rfl
    exact absurd habsolute (Bool.eq_false_iff.mp hpath)
  · rw [h] at hsteps
    cases before with
    | nil => cases hsteps
    | cons c steps =>
      obtain ⟨rfl, hrest⟩ := List.cons.inj hsteps
      exact ⟨steps, hrest.symm, fun stack => by rw [List.foldl_cons, pushComponent_current]⟩
  · exact ⟨before, hsteps.symm.trans h, fun _ => rfl⟩

/-- The directories around a file that is named by a relative path, and by this path behind the
working directory: the first one, read behind the working directory, is the second one. -/
structure Around (directory path near far : Path) : Prop where
  parent_near : path.parent? = some near
  parent_far : (directory.join path).parent? = some far
  relative : near.isAbsolute = false
  absolute : far.isAbsolute
  read : far.components.foldl pushComponent [] =
    near.components.foldl pushComponent (directory.components.foldl pushComponent [])

theorem exists_around (hdirectory : directory.isAbsolute) (hpath : path.isAbsolute = false)
    (h : path.EndsInName) : ∃ near far, Around directory path near far := by
  obtain ⟨before, chars, h⟩ := h
  obtain ⟨near, hnear, rfl⟩ := exists_parent? h (by simp)
  obtain ⟨steps, hsteps, hread⟩ := exists_steps_eq hpath h
  have hjoin : (directory.join path).components =
      (directory.components ++ steps) ++ [.name chars] := by
    rw [components_join (chars_ne_nil_of_isAbsolute hdirectory) hpath, hsteps, List.append_assoc]
  obtain ⟨far, hfar, hcomponents⟩ := exists_parent? hjoin (by simp)
  refine ⟨near, far, hnear, hfar, ?_, isAbsolute_parent? (isAbsolute_join hdirectory path) hfar, ?_⟩
  · rw [Bool.eq_false_iff, ne_eq, isAbsolute_iff_head?_components] at hpath ⊢
    intro hhead
    exact hpath (by rw [h, List.head?_append, hhead, Option.some_or])
  · rw [hcomponents, List.foldl_append, hread]

/-- A path behind the two directories around a file means one file, whether it is absolute or
not. -/
theorem coincide_join (h : Around directory path near far) (hne : field.chars ≠ []) :
    Coincide directory (near.join field) (far.join field) := by
  cases hfield : field.isAbsolute with
  | true =>
    rw [join_of_isAbsolute _ hfield, join_of_isAbsolute _ hfield]
    exact ⟨_, absolute?_eq_normalize_join directory hne, absolute?_eq_normalize_join directory hne⟩
  | false =>
    have hrelative := isAbsolute_join_eq_false h.relative hfield
    refine ⟨(far.join field).normalize, ?_, ?_⟩
    · rw [absolute?_eq_normalize_join directory (join_ne_nil near hne), normalize_join _ hrelative,
        foldl_components_join near hfield, ← h.read, ← normalize_join far hfield]
    · rw [absolute?_eq_normalize_join directory (join_ne_nil far hne),
        join_of_isAbsolute _ (isAbsolute_join h.absolute field)]

end Path

/-! ### Settings that differ in their paths -/

/-- Two plugins are the same but for their paths, which are related. -/
inductive PluginSettings.Relates (R : Path → Path → Prop) : PluginSettings → PluginSettings → Prop
  | changeOutputPath {first second : Path} (h : R first second) :
    Relates R (.changeOutputPath first) (.changeOutputPath second)

namespace Settings

/-- Two settings are the same but for their paths: the same paths are set, and they are related. -/
structure Fieldwise (R : Path → Path → Prop) (first second : Settings) : Prop where
  entry : Option.Rel R first.entry second.entry
  output : Option.Rel R first.output second.output
  template : Option.Rel R first.template second.template
  reuse : first.reuse = second.reuse
  rules : first.rules = second.rules
  plugins : List.Forall₂ (PluginSettings.Relates R) first.plugins second.plugins

/-- All paths of settings. -/
def paths (settings : Settings) : List Path :=
  settings.entry.toList ++ settings.output.toList ++ settings.template.toList ++
    settings.plugins.map fun | .changeOutputPath path => path

variable {R : Path → Path → Prop} {settings first second : Settings} {base other : Path}

theorem rel_map_join {path? : Option Path}
    (h : ∀ path ∈ path?, R (base.join path) (other.join path)) :
    Option.Rel R (path?.map base.join) (path?.map other.join) := by
  cases path? with
  | none => exact .none
  | some path => exact .some (h path rfl)

/-- Settings that are relative to two directories are the same but for their paths, which are
related if every path of the settings behind the one directory is related to it behind the other. -/
theorem fieldwise_relativeTo
    (h : ∀ path ∈ settings.paths, R (base.join path) (other.join path)) :
    Fieldwise R (settings.relativeTo base) (settings.relativeTo other) where
  entry := rel_map_join fun path hpath => h path (by simp [paths, Option.mem_def.mp hpath])
  output := rel_map_join fun path hpath => h path (by simp [paths, Option.mem_def.mp hpath])
  template := rel_map_join fun path hpath => h path (by simp [paths, Option.mem_def.mp hpath])
  reuse := rfl
  rules := rfl
  plugins := by
    refine List.forall₂_map_left_iff.mpr (List.forall₂_map_right_iff.mpr ?_)
    refine List.forall₂_same.mpr fun plugin hplugin => ?_
    cases plugin with
    | changeOutputPath path =>
      refine .changeOutputPath (h path (List.mem_append_right _ ?_))
      exact List.mem_map.mpr ⟨_, hplugin, rfl⟩

theorem eq_of_rel_eq {first second : Option Path} (h : Option.Rel Eq first second) :
    first = second := by
  cases h with
  | none => rfl
  | some heq => rw [heq]

/-- Settings with equal paths that are the same but for their paths are equal. -/
theorem Fieldwise.eq (h : Fieldwise Eq first second) : first = second := by
  have hplugin : PluginSettings.Relates Eq = Eq := by
    funext plugin other
    cases plugin; cases other
    refine propext ⟨?_, ?_⟩
    · rintro ⟨rfl⟩
      rfl
    · rintro ⟨⟩
      exact .changeOutputPath rfl
  have hplugins := h.plugins
  rw [hplugin, List.forall₂_eq_eq_eq] at hplugins
  obtain ⟨entry, output, template, reuse, rules, plugins⟩ := first
  obtain rfl := eq_of_rel_eq h.entry
  obtain rfl := eq_of_rel_eq h.output
  obtain rfl := eq_of_rel_eq h.template
  obtain rfl := h.reuse
  obtain rfl := h.rules
  obtain rfl := hplugins
  rfl

/-- Relative to no directory, settings stay what they are. -/
theorem relativeTo_nil (settings : Settings) : settings.relativeTo ⟨[]⟩ = settings := by
  have hjoin : (⟨[]⟩ : Path).join = id := funext fun path => Path.join_of_nil rfl path
  have hplugin : PluginSettings.relativeTo ⟨[]⟩ = id := by
    funext plugin
    cases plugin with
    | changeOutputPath path => exact congrArg _ (Path.join_of_nil rfl path)
  rw [relativeTo, hjoin, hplugin, Option.map_id, List.map_id]
  rfl

/-- Settings whose paths a directory does not change stay what they are. -/
theorem relativeTo_eq_self (h : ∀ path ∈ settings.paths, base.join path = path) :
    settings.relativeTo base = settings := by
  have hfields : Fieldwise Eq (settings.relativeTo base) (settings.relativeTo ⟨[]⟩) :=
    fieldwise_relativeTo fun path hpath => (h path hpath).trans (Path.join_of_nil rfl path).symm
  rw [hfields.eq, relativeTo_nil]

/-- The paths of settings that are relative to a directory stand behind it. -/
theorem paths_relativeTo (settings : Settings) (base : Path) :
    (settings.relativeTo base).paths = settings.paths.map base.join := by
  have hpath (path? : Option Path) : (path?.map base.join).toList = path?.toList.map base.join := by
    cases path? <;> rfl
  have hplugins : ((settings.plugins.map (PluginSettings.relativeTo base)).map
      fun | .changeOutputPath path => path) =
        (settings.plugins.map fun | .changeOutputPath path => path).map base.join := by
    rw [List.map_map, List.map_map]
    rfl
  simp only [paths, relativeTo, List.map_append, hpath, hplugins]

/-! ### One text, two spellings -/

/-- What becomes of settings that are made relative to a directory. -/
structure Grounded (plain : Settings) (base : Path) : Prop where
  /-- Nothing but paths changes: they are absolute now, and those that were stay what they are. -/
  fields : Fieldwise (fun before after => after.isAbsolute ∧ (before.isAbsolute → after = before))
    plain (plain.relativeTo base)
  /-- No other directory changes anything any more. -/
  settled : ∀ other, (plain.relativeTo base).relativeTo other = plain.relativeTo base

theorem grounded (plain : Settings) (h : base.isAbsolute) : Grounded plain base where
  fields := by
    have hfields : Fieldwise
        (fun before after => after.isAbsolute ∧ (before.isAbsolute → after = before))
        (plain.relativeTo ⟨[]⟩) (plain.relativeTo base) :=
      fieldwise_relativeTo fun path _ => by
        rw [Path.join_of_nil rfl]
        exact ⟨Path.isAbsolute_join h path, Path.join_of_isAbsolute base⟩
    rwa [relativeTo_nil] at hfields
  settled other := by
    refine relativeTo_eq_self fun path hpath => Path.join_of_isAbsolute other ?_
    rw [paths_relativeTo] at hpath
    obtain ⟨field, -, rfl⟩ := List.mem_map.mp hpath
    exact Path.isAbsolute_join h field

/-- A text of settings is loaded with its paths behind the directory around its file. -/
theorem load_eq_ok {storage : Storage} {path parent : Path} {text : String}
    (hread : (storage.read path).value = .ok text) (htext : ofText? text = some settings)
    (hparent : path.parent? = some parent) :
    (load storage path).result = .ok (settings.relativeTo parent) := by
  refine Attempt.result_bind_eq_ok.mpr ⟨text, Attempt.result_ofResult_eq_ok.mpr hread, ?_⟩
  rw [htext, hparent]
  rfl

/-- **Settings mean the same however the path of their file is spelled**: loaded through a relative
path and through this path behind the working directory, they are the same but for the texts of
their paths, which mean the same files. What is relative to an absolute directory means the same
in every other one. -/
theorem spelledFreely {storage : Storage} {directory path : Path} {text : String}
    (hdirectory : directory.isAbsolute) (hpath : path.isAbsolute = false) (hname : path.EndsInName)
    (htext : ofText? text = some settings) (hne : ∀ field ∈ settings.paths, field.chars ≠ [])
    (hread : (storage.read path).value = .ok text)
    (hjoin : (storage.read (directory.join path)).value = .ok text) :
    (∃ first second, (load storage path).result = .ok first ∧
      (load storage (directory.join path)).result = .ok second ∧
      Fieldwise (Path.Coincide directory) first second) ∧
    ∀ (plain : Settings) (base : Path), base.isAbsolute → Grounded plain base := by
  obtain ⟨near, far, haround⟩ := Path.exists_around hdirectory hpath hname
  refine ⟨⟨_, _, load_eq_ok hread htext haround.parent_near,
    load_eq_ok hjoin htext haround.parent_far, ?_⟩, fun plain _ => grounded plain⟩
  exact fieldwise_relativeTo fun field hfield => Path.coincide_join haround (hne field hfield)

/-- Settings whose paths leave the directory of their file, and an absolute one. -/
def scattered : Settings :=
  { standard with
    entry := some (.ofString "../src/./m")
    output := some (.ofString "/out")
    plugins := [.changeOutputPath (.ofString "../../x")] }

def scatteredText : String :=
  "entry = '../src/./m'\noutput = '/out'\nplugins = [['change-output-path', '../../x']]"

/-- A storage with a text under a relative path and under this path behind a directory. -/
def storedTwice (directory path : Path) (text : String) : Storage :=
  .memory (.ofList [(path, text), (directory.join path, text)])

theorem spelledFreely_scattered :
    let directory := Path.ofString "/work/app"
    let path := Path.ofString "./conf/minipack.toml"
    let storage := storedTwice directory path scatteredText
    (directory.isAbsolute ∧ path.isAbsolute = false ∧ path.EndsInName) ∧
      ofText? scatteredText = some scattered ∧
      (∀ field ∈ scattered.paths, field.chars ≠ []) ∧
      (storage.read path).value = .ok scatteredText ∧
      (storage.read (directory.join path)).value = .ok scatteredText ∧
      (∃ first second, (load storage path).result = .ok first ∧
        (load storage (directory.join path)).result = .ok second ∧
        Fieldwise (Path.Coincide directory) first second) ∧
      ∀ (plain : Settings) (base : Path), base.isAbsolute → Grounded plain base :=
  have hname : (Path.ofString "./conf/minipack.toml").EndsInName :=
    ⟨[.current, .name "conf".toList], "minipack.toml".toList, by decide⟩
  have htext : ofText? scatteredText = some scattered := by decide +kernel
  have hne : ∀ field ∈ scattered.paths, field.chars ≠ [] := by decide
  ⟨⟨rfl, rfl, hname⟩, htext, hne, rfl, rfl, spelledFreely rfl rfl hname htext hne rfl rfl⟩

end Settings

end ModuleBundler
