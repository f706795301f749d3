import ModuleBundler.Proofs.Linking.Boundaries
import ModuleBundler.Proofs.Rendering.ModuleTable
import ModuleBundler.Proofs.Script.Extend.Function
import ModuleBundler.Proofs.Script.Listings

/-!
# Tables as object literals

A table of modules is the inside of an object literal, with one property for each module: its name
is the number of the module, its value an array of the function whose body the code is and of the
mapping. This is so if the code of every module stays inside of its function. Then neither the code
nor what stands around it changes what the other is read as. The code of a module that is accepted
stays inside of its function if what linking keeps of the module is set apart.

## Main definitions

* `Enclosed` — code that stays inside of the function that is made of it.
* `RenderedModule.property` — the property of a module, as a tree.

## Main results

* `exists_enclosed_of_setApart` — modules that are set apart stay inside of their functions.
* `RenderedModule.Holds.reads` — an entry of a table is read as the property of its module.
* `RenderedModule.terminated_moduleTable` — a table is read as the properties of its modules.
-/

namespace ModuleBundler

open Json Linking Script

/-- What stands behind the keyword of the function whose body the code is in a table. -/
def tableFunction (code : List Char) : List Char :=
  "(require, module, exports) \x7b\n".toList ++ code ++ "\n    \x7d".toList

/-- The code stays inside of the function that is made of it, whose statements are the nodes: the
function ends with the brace behind the code. -/
structure Enclosed (code : List Char) (nodes : List Node) : Prop where
  writes : WritesFunction (tableFunction code) (functionTree nodes)
  settled : Node.anyUnsettled nodes = false

/-! ### Modules that stay inside of their functions -/

theorem trimEnd_append {kept trail : List Char} (h : EndsInside kept) :
    trimEnd (kept ++ trail) = kept ++ trimEnd trail := by
  induction trail using List.reverseRecOn with
  | nil =>
    rw [List.append_nil]
    cases kept using List.reverseRecOn with
    | nil => rfl
    | append_singleton kept c =>
      rw [EndsInside, List.getLast?_concat, Option.all_some, Bool.not_eq_true'] at h
      exact (trimEnd_concat_of_not_isBlank h kept).trans (List.append_nil _).symm
  | append_singleton trail c ih =>
    rw [← List.append_assoc]
    cases hc : Text.isBlank c with
    | true => rw [trimEnd_concat_of_isBlank hc, trimEnd_concat_of_isBlank hc, ih]
    | false =>
      rw [trimEnd_concat_of_not_isBlank hc, trimEnd_concat_of_not_isBlank hc, List.append_assoc]

/-- Without the blanks at its end, a text is passed over as before. -/
theorem endsBlank_trimEnd {gap : List Char} (h : EndsBlank gap) : EndsBlank (trimEnd gap) := by
  induction gap using List.reverseRecOn with
  | nil => exact h
  | append_singleton gap c ih =>
    cases hc : Text.isBlank c with
    | true =>
      rw [trimEnd_concat_of_isBlank hc]
      exact ih (h.of_concat hc)
    | false => rwa [trimEnd_concat_of_not_isBlank hc]

/-- **Modules that are set apart stay inside of their functions.** The function in the table has the
statements that the analysis has read: the factory around the code is a script that consists of this
one function. -/
theorem exists_enclosed_of_setApart {source code : List Char} {items : List Item}
    {specifiers : List Name} (hitems : parseModule source = .ok items)
    (hcode : analyzeChars source = .ok (specifiers, code)) (happart : SetApart source items) :
    ∃ nodes, parseScript (factory code) = .ok [factoryTree nodes] ∧
      Enclosed (trimEnd code) nodes := by
  obtain ⟨items', hlinks⟩ := analyzeChars_eq_ok_iff.mp hcode
  obtain rfl := Except.ok.inj (hitems.symm.trans hlinks.parsed)
  obtain ⟨read, haccepted⟩ := hlinks.accepted
  have hplaced := (itemsInOrder_of_parseModule hitems).placed
  obtain ⟨kept, trail, reads, trees, rfl, hends, htrail, hbody, -⟩ :=
    exists_linkedBody hlinks (happart.stands hplaced)
  have hread := hbody closesBody_factoryTail htrail List.prefix_rfl
  rw [← List.append_assoc] at hread
  obtain ⟨hc, rfl, hsettled⟩ := BodyIf.of_parseScript hread haccepted
  refine ⟨_, haccepted, ?_, hsettled⟩
  have htail : "\n    \x7d".toList = '\n' :: "    \x7d".toList := by decide
  have hclose : ClosesBody [] ('\n' :: "    \x7d".toList) := ⟨_, rfl, rfl, rfl⟩
  obtain ⟨blanks, htrim, -⟩ := exists_eq_trimEnd_append trail
  have htable := hbody hclose (endsBlank_trimEnd htrail) ⟨blanks, htrim.symm⟩
  have hwrites := htable.writesFunction hc
  rw [← htail, ← List.append_assoc kept, ← trimEnd_append hends, ← List.append_assoc] at hwrites
  exact hwrites

/-! ### Entries of tables -/

theorem endsClosed_tableFunction (code : List Char) : EndsClosed (tableFunction code) :=
  EndsClosed.append (show EndsClosed "\n    \x7d".toList by decide) _

namespace RenderedModule

variable {module : RenderedModule} {modules : List RenderedModule} {nodes : List Node}
  {bodies : List (List Node)} {rest : List Char} {width depth : Nat} {next : Lexeme}

/-- The property of a module in the table: its name is the number of the module, and its value an
array of two elements, the function whose body the code is and the mapping. -/
def property (module : RenderedModule) (nodes : List Node) : Node :=
  .mk (.member .valued false) [numberLiteral module.id.text,
    .mk (.array true) [functionTree nodes, module.mapping.toJson.literal]]

/-- The properties of modules, in their order. -/
def properties (modules : List RenderedModule) (bodies : List (List Node)) : List Node :=
  List.zipWith property modules bodies

/-- The code of the module, without the blanks at its end, stays inside of its function. -/
def Holds (module : RenderedModule) (nodes : List Node) : Prop :=
  Enclosed (trimEnd module.code.toList) nodes

theorem entry_eq (module : RenderedModule) : module.entry =
    "  ".toList ++ (module.id.text ++ (": [\n    ".toList ++
      (functionText (tableFunction (trimEnd module.code.toList)) ++ (",\n    ".toList ++
        (module.mapping.toJson.compact ++ ",\n  ],".toList))))) := by
  have hhead : head = ": [\n    ".toList ++ ("function ".toList ++
      "(require, module, exports) \x7b\n".toList) := by unfold head; decide
  have hbody : "\n    \x7d,\n    ".toList = "\n    \x7d".toList ++ ",\n    ".toList := by decide
  have hclose : ",\n  ]".toList ++ [','] = ",\n  ],".toList := by decide
  refine (intercalate_entryLines ..).trans ?_
  rewrite [hhead, hbody, ← hclose]
  unfold functionText tableFunction
  simp only [List.append_assoc]

/-- The property of a module needs no pattern around it. -/
theorem Holds.hasUnsettled_property (h : module.Holds nodes) :
    (module.property nodes).hasUnsettled = false := by
  simp [property, Node.hasUnsettled, Node.anyUnsettled, functionTree, parameterTrees, nameTree,
    Node.absent, numberLiteral, h.settled, hasUnsettled_literal]

theorem length_entry (module : RenderedModule) :
    (functionText (tableFunction (trimEnd module.code.toList))).length +
      module.mapping.toJson.compact.length + 2 ≤ module.entry.length := by
  rw [entry_eq]
  simp only [List.length_append]
  have hclose : ",\n  ],".toList.length = 6 := rfl
  omega

/-- What stands behind the bracket that opens the value of a property. -/
def insideEntry (module : RenderedModule) (rest : List Char) : List Char :=
  "\n    ".toList ++ (functionText (tableFunction (trimEnd module.code.toList)) ++
    (",\n    ".toList ++ (module.mapping.toJson.compact ++ (",\n  ]".toList ++ rest))))

theorem entry_append (module : RenderedModule) (rest : List Char) :
    '\n' :: (module.entry ++ rest) =
      "\n  ".toList ++ (module.id.text ++ (": [".toList ++ module.insideEntry (',' :: rest))) := by
  have hopen : ": [\n    ".toList = ": [".toList ++ "\n    ".toList := by decide
  have hclose : ",\n  ],".toList ++ rest = ",\n  ]".toList ++ (',' :: rest) := rfl
  unfold insideEntry
  rewrite [entry_eq, hopen, ← hclose]
  simp only [List.append_assoc]
  rfl

/-- An entry starts with the number of its module. -/
theorem scanToken_entry (module : RenderedModule) (rest : List Char) :
    scanToken .script ('\n' :: (module.entry ++ rest)) =
      .ok (lexeme ⟨module.id.text ++ (": [".toList ++ module.insideEntry (',' :: rest)), true⟩
        .number (": [".toList ++ module.insideEntry (',' :: rest)) module.id.text false) := by
  rewrite [entry_append]
  exact skipTrivia_bind_numeral (isWhole_toDigits module.id.index).isNumeral (c := ':') rfl true

section Reads

variable (hwidth : module.entry.length ≤ width) (hdepth : 8 * module.entry.length ≤ depth)

include hwidth hdepth

/-- The elements of the array that is the value of a property. -/
theorem terminated_insideEntry (h : module.Holds nodes) (rest : List Char) :
    Parser.Terminated .closeBracket Json.arrayItem
      (ruleContext .script width topFlags (depth + 4))
      (module.insideEntry rest) [functionTree nodes, module.mapping.toJson.literal]
      ("\n  ]".toList ++ rest) := by
  have hlength := module.length_entry
  obtain ⟨depth, rfl⟩ : ∃ n, depth = n + 1 := ⟨depth - 1, by omega⟩
  obtain ⟨members, hmembers⟩ : ∃ members, module.mapping.toJson = .object members := ⟨_, rfl⟩
  set code := trimEnd module.code.toList
  have hwrites : WritesFunction (tableFunction code) (functionTree nodes) := h.writes
  set behind := module.mapping.toJson.compact ++ (",\n  ]".toList ++ rest) with hbehind
  have hfirst : scanToken .script ("\n    ".toList ++ (functionText (tableFunction code) ++
      (",\n    ".toList ++ behind))) = .ok (lexeme ⟨functionText (tableFunction code) ++
        (",\n    ".toList ++ behind), true⟩ (.word (some .function_))
        (' ' :: (tableFunction code ++ (",\n    ".toList ++ behind))) "function".toList false) :=
    rfl
  have hcomma : scanToken .script (",\n    ".toList ++ behind) =
      .ok (lexeme ⟨",\n    ".toList ++ behind, false⟩ (.punct .comma) ("\n    ".toList ++ behind) []
        false) := rfl
  have hfunction : Parser.assignment.Reads (ruleContext .script width topFlags (depth + 5))
      ("\n    ".toList ++ (functionText (tableFunction code) ++ (",\n    ".toList ++ behind)))
      (functionTree nodes) (",\n    ".toList ++ behind) :=
    .call (.assignmentRule_of_primary hfirst rfl
      (.atNamedArrow_false hfirst (.atIdentifier_of_reserved hfirst rfl rfl))
      (.bind (.peek hfirst) (hwrites.reads (endsClosed_tableFunction code) hfirst rfl rfl rfl
        hcomma (by omega) (by omega))) hcomma rfl nofun)
  have hopen : scanToken .script ("\n    ".toList ++ behind) =
      .ok (lexeme ⟨behind, true⟩ (.punct .openBrace) (behind.drop 1) [] false) := by
    rw [hbehind, hmembers, compact]
    rfl
  have hcomma' : scanToken .script (",\n  ]".toList ++ rest) =
      .ok (lexeme ⟨",\n  ]".toList ++ rest, false⟩ (.punct .comma) ("\n  ]".toList ++ rest) []
        false) := rfl
  have hmapping : Parser.assignment.Reads (ruleContext .script width topFlags (depth + 5))
      ("\n    ".toList ++ behind) module.mapping.toJson.literal (",\n  ]".toList ++ rest) := by
    refine .call (.assignmentRule_of_primary hopen rfl
      (.atNamedArrow_false hopen (.atIdentifier_of_not_word hopen nofun)) ?_ hcomma' rfl nofun)
    rw [hmembers] at hlength hbehind ⊢
    have hcount := length_lt_length_compact_object members
    refine reads_object (by omega) (fun member hmember => ?_) hopen rfl ?_ hcomma'
    · have hshorter := length_lt_length_compact_of_mem_object hmember
      exact isExpression _ (by omega) (by omega)
    · rw [hbehind, compact, compactMembers_eq]
      rfl
  refine .more hfirst nofun (.arrayItem_of_assignment hfirst ⟨nofun, nofun⟩ hfunction) hcomma rfl ?_
  refine .more hopen nofun (.arrayItem_of_assignment hopen ⟨nofun, nofun⟩ hmapping) hcomma' rfl ?_
  have hclose : scanToken .script ("\n  ]".toList ++ rest) =
      .ok (lexeme ⟨"]".toList ++ rest, true⟩ (.punct .closeBracket) rest [] false) := rfl
  exact .done hclose rfl

/-- **An entry of a table is read as the property of its module.** -/
theorem Holds.reads (h : module.Holds nodes) :
    Parser.literalMember.Reads (ruleContext .script width topFlags (depth + 8))
      ('\n' :: (module.entry ++ rest)) (module.property nodes) (',' :: rest) := by
  have hcount : 2 ≤ width := by
    have := module.length_entry
    omega
  set inside := module.insideEntry (',' :: rest)
  have hcolon : scanToken .script (": [".toList ++ inside) =
      .ok (lexeme ⟨": [".toList ++ inside, false⟩ (.punct .colon) (" [".toList ++ inside) []
        false) := rfl
  have hopen : scanToken .script (" [".toList ++ inside) =
      .ok (lexeme ⟨"[".toList ++ inside, false⟩ (.punct .openBracket) inside [] false) := rfl
  have hclose : scanToken .script ("\n  ]".toList ++ (',' :: rest)) =
      .ok (lexeme ⟨"]".toList ++ (',' :: rest), true⟩ (.punct .closeBracket) (',' :: rest) []
        false) := rfl
  have hcomma : scanToken .script (',' :: rest) =
      .ok (lexeme ⟨',' :: rest, false⟩ (.punct .comma) rest [] false) := rfl
  have hvalue : Parser.assignment.Reads (ruleContext .script width topFlags (depth + 8))
      (" [".toList ++ inside)
      (.mk (.array true) [functionTree nodes, module.mapping.toJson.literal]) (',' :: rest) :=
    .call (.assignmentRule_of_primary hopen rfl
      (.atNamedArrow_false hopen (.atIdentifier_of_not_word hopen nofun))
      (.primary_of_array hopen rfl (terminated_insideEntry hwidth hdepth h (',' :: rest))
        (List.cons_ne_nil _ _) hcount hclose rfl hcomma) hcomma rfl nofun)
  exact .literalMember_of_numeral (module.scanToken_entry rest) rfl hcolon rfl hopen hvalue

end Reads

/-- The properties of a table have commas behind them. -/
theorem terminated_moduleTable (h : List.Forall₂ Holds modules bodies)
    (hwidth : ∀ module ∈ modules, module.entry.length ≤ width)
    (hdepth : ∀ module ∈ modules, 8 * module.entry.length ≤ depth)
    (hrest : scanToken .script rest = .ok next) (hclose : next.token.kind = .punct .closeBrace) :
    Parser.Terminated .closeBrace Parser.literalMember
      (ruleContext .script width topFlags (depth + 8))
      (modules.flatMap (fun module => '\n' :: module.entry) ++ rest)
      (properties modules bodies) rest := by
  induction h with
  | nil => exact .done hrest hclose
  | @cons module nodes modules bodies hfirst _ ih =>
    obtain ⟨hwidth, hwidths⟩ := List.forall_mem_cons.mp hwidth
    obtain ⟨hdepth, hdepths⟩ := List.forall_mem_cons.mp hdepth
    rw [List.flatMap_cons, List.append_assoc, List.cons_append]
    exact .more (module.scanToken_entry _) nofun (hfirst.reads hwidth hdepth) rfl rfl
      (ih hwidths hdepths)

/-- A table of modules behind a line break. -/
theorem cons_moduleTable (hne : modules ≠ []) :
    '\n' :: moduleTable modules = modules.flatMap fun module => '\n' :: module.entry := by
  induction modules with
  | nil => contradiction
  | cons module modules ih =>
    cases modules with
    | nil => rw [moduleTable_singleton, List.flatMap_singleton]
    | cons second modules =>
      rw [List.flatMap_cons, ← ih (List.cons_ne_nil _ _), ← List.singleton_append (x := module),
        moduleTable_append (List.cons_ne_nil _ _) (List.cons_ne_nil _ _), moduleTable_singleton]
      rfl

end RenderedModule

end ModuleBundler
