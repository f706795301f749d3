import Mathlib.Data.List.DropRight
import ModuleBundler.Proofs.Asset.Mapping

/-!
# Tables of modules

A table is made of one entry for each module, with line breaks between them, and the entry of a
module is the same in every table. What the trimming at the end of a table takes away is the last
line break. In an entry the code of the module stands as it is, without the blanks at its end, and
the mapping stands on a line of its own, from which it can be read back.

## Main definitions

* `RenderedModule.entryLines` — the lines of an entry.
* `RenderedModule.entry` — the entry of a module, without a line break behind it.
* `RenderedModule.Writes` — entries from which a module can be read back.
* `RenderedModule.Tabulated` — what a table is.

## Main results

* `moduleTable_append` — the table of two lists of modules.
* `RenderedModule.writes_entry` — what can be read off an entry.
* `RenderedModule.tabulated` — tables are made of the entries of their modules.
-/

namespace ModuleBundler

open Text

variable {text : List Char} {c : Char}

/-! ### Trimming -/

theorem trimEnd_concat_of_isBlank (h : isBlank c) (text : List Char) :
    trimEnd (text ++ [c]) = trimEnd text :=
  List.rdropWhile_concat_pos isBlank text c h

theorem trimEnd_concat_of_not_isBlank (h : isBlank c = false) (text : List Char) :
    trimEnd (text ++ [c]) = text ++ [c] :=
  List.rdropWhile_concat_neg isBlank text c (Bool.eq_false_iff.mp h)

/-- Nothing but blanks is taken away. -/
theorem exists_eq_trimEnd_append (text : List Char) :
    ∃ blanks, text = trimEnd text ++ blanks ∧ ∀ c ∈ blanks, isBlank c :=
  ⟨text.rtakeWhile isBlank, List.rdropWhile_append_rtakeWhile.symm,
    fun _ => List.mem_rtakeWhile_imp⟩

/-- No blank is left at the end. -/
theorem isBlank_of_getLast?_trimEnd (h : (trimEnd text).getLast? = some c) : isBlank c = false := by
  obtain ⟨hne, rfl⟩ := List.mem_getLast?_eq_getLast h
  exact Bool.eq_false_iff.mpr (List.rdropWhile_last_not isBlank text hne)

/-! ### Entries -/

namespace RenderedModule

variable {module : RenderedModule} {modules others : List RenderedModule}

/-- The lines of the entry of a module in a table. The code may take up several lines. -/
def entryLines (id : AssetId) (code object : List Char) : List (List Char) :=
  ["  ".toList ++ id.text ++ ": [".toList,
    "    function (require, module, exports) \x7b".toList,
    code,
    "    \x7d,".toList,
    "    ".toList ++ object ++ ",".toList,
    "  ],".toList]

/-- The entry of a module, without a line break behind it. -/
def entry (module : RenderedModule) : List Char :=
  List.intercalate ['\n']
    (entryLines module.id (trimEnd module.code.toList) module.mapping.toJson.compact)

theorem intercalate_entryLines (id : AssetId) (code object : List Char) :
    List.intercalate ['\n'] (entryLines id code object) =
      "  ".toList ++ id.text ++ head ++ code ++ "\n    \x7d,\n    ".toList ++ object ++
        ",\n  ]".toList ++ [','] := by
  have hhead : head = ": [".toList ++ '\n' ::
      ("    function (require, module, exports) \x7b".toList ++ ['\n']) := rfl
  have hbody : "\n    \x7d,\n    ".toList =
      '\n' :: ("    \x7d,".toList ++ '\n' :: "    ".toList) := rfl
  have hclose : ",\n  ]".toList ++ [','] = ",".toList ++ '\n' :: "  ],".toList := rfl
  rw [List.append_assoc _ ",\n  ]".toList, hhead, hbody, hclose]
  simp only [entryLines, List.intercalate_cons_cons, List.intercalate_singleton,
    List.append_assoc, List.cons_append, List.nil_append]

theorem tableEntry_eq (module : RenderedModule) : module.tableEntry = module.entry ++ ['\n'] := by
  rw [entry, intercalate_entryLines, List.append_assoc _ [','], List.append_assoc _ ",\n  ]".toList]
  rfl

theorem exists_entry_eq (module : RenderedModule) : ∃ front, module.entry = front ++ [','] :=
  ⟨_, intercalate_entryLines ..⟩

/-- An entry that holds the code of a module without the blanks at its end, and on a line of its own
an object that is read as the mapping of the module. -/
inductive Writes (module : RenderedModule) : List Char → Prop
  | intro {code blanks inside : List Char} (hcode : module.code.toList = code ++ blanks)
      (hblanks : ∀ c ∈ blanks, isBlank c) (hkept : ∀ c, code.getLast? = some c → isBlank c = false)
      (hline : Json.IsLine inside)
      (hobject : Mapping.read? ('\x7b' :: (inside ++ ['\x7d'])) = some module.mapping) :
      Writes module
        (List.intercalate ['\n'] (entryLines module.id code ('\x7b' :: (inside ++ ['\x7d']))))

/-- A module can be read off its entry. -/
theorem writes_entry (h : module.mapping.Distinct) : module.Writes module.entry := by
  obtain ⟨blanks, hcode, hblanks⟩ := exists_eq_trimEnd_append module.code.toList
  have hline := Json.isLine_compact module.mapping.toJson
  have hobject := Mapping.read?_compact h
  obtain ⟨inside, hinside⟩ : ∃ inside, module.mapping.toJson.compact =
      '\x7b' :: (inside ++ ['\x7d']) := Json.exists_compact_object_eq _
  rw [entry, hinside]
  rw [hinside] at hline hobject
  obtain ⟨-, hline⟩ := Json.isLine_cons.mp hline
  exact .intro hcode hblanks (fun _ => isBlank_of_getLast?_trimEnd)
    (Json.isLine_append.mp hline).1 hobject

end RenderedModule

/-! ### Tables -/

open RenderedModule

variable {module : RenderedModule} {modules others : List RenderedModule}

/-- What is trimmed at the end of a table is a single line break. -/
theorem flatMap_tableEntry_eq (hne : modules ≠ []) :
    modules.flatMap tableEntry = moduleTable modules ++ ['\n'] := by
  obtain ⟨before, last, hlast⟩ := List.eq_nil_or_concat modules |>.resolve_left hne
  rw [List.concat_eq_append] at hlast
  subst hlast
  obtain ⟨front, hfront⟩ := exists_entry_eq last
  have htable : (before ++ [last]).flatMap tableEntry =
      before.flatMap tableEntry ++ front ++ [','] ++ ['\n'] := by
    rw [List.flatMap_append, List.flatMap_singleton, tableEntry_eq, hfront]
    simp
  rw [moduleTable, htable, trimEnd_concat_of_isBlank (by decide),
    trimEnd_concat_of_not_isBlank (by decide)]

/-- **The table of two lists of modules**: the two tables with a line break between them. -/
theorem moduleTable_append (hmodules : modules ≠ []) (hothers : others ≠ []) :
    moduleTable (modules ++ others) = moduleTable modules ++ '\n' :: moduleTable others := by
  have hne : modules ++ others ≠ [] := List.append_ne_nil_of_left_ne_nil hmodules others
  refine (List.append_left_inj ['\n']).mp ?_
  rw [← flatMap_tableEntry_eq hne, List.flatMap_append, flatMap_tableEntry_eq hmodules,
    flatMap_tableEntry_eq hothers]
  simp

theorem moduleTable_singleton (module : RenderedModule) : moduleTable [module] = module.entry := by
  refine (List.append_left_inj ['\n']).mp ?_
  rw [← flatMap_tableEntry_eq (List.cons_ne_nil module []), List.flatMap_singleton, tableEntry_eq]

/-- A table is made of the entries of its modules. -/
theorem moduleTable_eq (hne : modules ≠ []) :
    moduleTable modules = List.intercalate ['\n'] (modules.map entry) := by
  induction modules with
  | nil => contradiction
  | cons module modules ih =>
    cases modules with
    | nil => rw [moduleTable_singleton, List.map_singleton, List.intercalate_singleton]
    | cons second modules =>
      have hsplit := moduleTable_append (List.cons_ne_nil module [])
        (List.cons_ne_nil second modules)
      rw [List.singleton_append, moduleTable_singleton, ih (List.cons_ne_nil _ _), List.map_cons]
        at hsplit
      rw [hsplit, List.map_cons, List.map_cons, List.intercalate_cons_cons, List.append_assoc,
        List.singleton_append]

namespace RenderedModule

/-- What a table is: the entries of its modules, in order and each one determined by its module
alone, with line breaks between them. -/
structure Tabulated (modules : List RenderedModule) : Prop where
  /-- The entries stand in the order of the modules. -/
  entries : moduleTable modules = List.intercalate ['\n'] (modules.map entry)
  /-- More modules add their own table behind a line break. -/
  append : ∀ others ≠ [],
    moduleTable (modules ++ others) = moduleTable modules ++ '\n' :: moduleTable others
  /-- Every module can be read off its entry. -/
  writes : ∀ module ∈ modules, module.Writes module.entry

/-- **Tables are made of the entries of their modules**, off which the modules can be read. -/
theorem tabulated (hne : modules ≠ []) (hdistinct : ∀ module ∈ modules, module.mapping.Distinct) :
    Tabulated modules where
  entries := moduleTable_eq hne
  append _ hothers := moduleTable_append hne hothers
  writes module hmodule := writes_entry (hdistinct module hmodule)

/-- Two modules, one with quotes, line breaks and braces in its specifiers and blanks at the end of
its code, and one without any text. -/
def quoting : List RenderedModule :=
  [⟨.nth 0, "f();\n\n", [("./\"a\"\n", .nth 1), ("\\\x7b\x7d", .nth 0)]⟩, ⟨.nth 1, "", []⟩]

theorem tabulated_quoting :
    quoting ≠ [] ∧ (∀ module ∈ quoting, module.mapping.Distinct) ∧ Tabulated quoting := by
  have hdistinct : ∀ module ∈ quoting, module.mapping.Distinct := by
    simp [quoting, Mapping.Distinct]
  have hne : quoting ≠ [] := List.cons_ne_nil _ _
  exact ⟨hne, hdistinct, tabulated hne hdistinct⟩

end RenderedModule

end ModuleBundler
