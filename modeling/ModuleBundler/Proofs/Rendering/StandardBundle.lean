import ModuleBundler.Proofs.Rendering.ObjectLiteral
import ModuleBundler.Proofs.Rendering.Template
import ModuleBundler.Proofs.Script.Links

/-!
# Standard bundles

The standard template is a call of a function, the *runtime*, with the table of modules as an object
literal. A bundle that it makes of modules whose code stays inside is read as this call, with one
property for each module in their order. It is a script with one statement.

## Main definitions

* `Template.runtime` — the runtime.
* `bundleTree` — the call of the runtime, as a tree.

## Main results

* `Template.render_standard` — the standard bundle of modules.
* `parseScript_standardBundle` — a standard bundle is read as a call with the table of its modules.
-/

namespace ModuleBundler

open Linking Script

namespace Template

variable {modules : List RenderedModule}

/-! ### The standard template -/

/-- Lines with line breaks behind them. -/
def linesText (lines : List String) : List Char :=
  lines.flatMap fun line => line.toList ++ ['\n']

/-- What stands behind the keyword of the runtime, up to the number of the first module. -/
def runtimeHead : List Char :=
  linesText ("(modules) \x7b" :: (standardLines.drop 1).take 22) ++ "  require(".toList

/-- What stands behind the keyword of the runtime. -/
def runtime : List Char :=
  runtimeHead ++ ("0".toList ++ ");\n\x7d".toList)

/-- The slots of the standard template. -/
def standardFounds : List Found := [
  ⟨'(' :: functionText runtimeHead, "\x7b\x7b entry \x7d\x7d".toList, "entry".toList⟩,
  ⟨");\n\x7d".toList ++ ")(\x7b".toList ++ ['\n'], "\x7b\x7b modules \x7d\x7d".toList,
    "modules".toList⟩]

theorem toList_standard : standard.toList = linesText standardLines := by
  simp only [standard, linesText, String.toList_join, List.flatMap_map, String.toList_append]
  rfl

theorem parse_standard : parse standard.toList = pieces standardFounds "\n\x7d);\n".toList := by
  rw [toList_standard]
  decide +kernel

/-- What stands behind the brace in front of the table. -/
def standardTable (modules : List RenderedModule) : List Char :=
  '\n' :: (moduleTable modules ++ "\n\x7d);\n".toList)

/-- The call of the runtime with a table. -/
def standardBundle (modules : List RenderedModule) : List Char :=
  '(' :: (functionText runtime ++ (")(\x7b".toList ++ standardTable modules))

/-- **The bundle that the standard template makes**: the runtime, called with the table. -/
theorem render_standard (hne : modules ≠ []) :
    render standard modules = .ok (String.ofList (standardBundle modules)) := by
  have hrenders : Renders standardFounds modules := ⟨hne, by
    simp [standardFounds, IsKnown], by simp [standardFounds, HoldsCode]⟩
  have htext : Substituted modules standardFounds "\n\x7d);\n".toList (standardBundle modules) := by
    have hbundle : standardBundle modules = '(' :: functionText runtimeHead ++ ("0".toList ++
        (");\n\x7d".toList ++ ")(\x7b".toList ++ ['\n'] ++ (moduleTable modules ++
          "\n\x7d);\n".toList))) := by
      unfold standardBundle standardTable functionText runtime
      simp only [List.append_assoc, List.cons_append, List.nil_append]
    rewrite [hbundle]
    exact .found .entry (.found .modules (.last _))
  rw [render, parse_standard, hrenders.refusal?, htext.flatMap_pieces]

/-- Is the text behind the keyword the rest of a function, which needs no pattern around it? -/
def isFunction (inside : List Char) : Bool :=
  match parseText .script (Parser.functionRule Parser.functionName).withExtent
    (functionText inside) with
  | .ok (node, length) =>
    length == (functionText inside).length && !node.hasUnsettled && !Parser.isSpread node
  | .error _ => false

theorem exists_writesFunction {inside : List Char} (h : isFunction inside) :
    ∃ node, WritesFunction inside node ∧ node.hasUnsettled = false ∧
      Parser.isSpread node = false := by
  unfold isFunction at h
  split at h
  · next node length hread =>
    simp only [Bool.and_eq_true, Bool.not_eq_true', beq_iff_eq] at h
    obtain ⟨⟨rfl, hsettled⟩, hspread⟩ := h
    exact ⟨node, hread, hsettled, hspread⟩
  · contradiction

theorem isFunction_runtime : isFunction runtime := by
  decide +kernel

theorem endsClosed_runtime : EndsClosed runtime :=
  EndsClosed.append (show EndsClosed ("0".toList ++ ");\n\x7d".toList) by decide) _

end Template

/-! ### Bundles as scripts -/

open Template RenderedModule

variable {modules : List RenderedModule} {module : RenderedModule} {bodies : List (List Node)}
  {runtimeNode : Node}

/-- The call of a runtime with an object literal, as a tree. -/
def bundleTree (runtime : Node) (properties : List Node) : Node :=
  .mk .expressionStatement [.mk .call [.mk (.parenthesized false) [runtime],
    .mk (.arguments false) [.mk (.object true) properties]]]

namespace RenderedModule

theorem length_entry_le (h : module ∈ modules) :
    module.entry.length ≤ (moduleTable modules).length := by
  have hlength := congrArg List.length (cons_moduleTable (List.ne_nil_of_mem h))
  obtain ⟨front, back, rfl⟩ := List.append_of_mem h
  simp only [List.flatMap_append, List.flatMap_cons, List.length_append, List.length_cons]
    at hlength
  omega

theorem length_le_length_moduleTable (modules : List RenderedModule) :
    modules.length ≤ (moduleTable modules).length + 1 := by
  by_cases hne : modules = []
  · simp [hne]
  · rw [← List.length_cons (a := '\n'), cons_moduleTable hne]
    clear hne
    induction modules with
    | nil => exact Nat.le_refl 0
    | cons module modules ih =>
      rw [List.flatMap_cons, List.length_append, List.length_cons, List.length_cons]
      omega

theorem anyUnsettled_properties (h : List.Forall₂ Holds modules bodies) :
    Node.anyUnsettled (properties modules bodies) = false := by
  induction h with
  | nil => rfl
  | cons hfirst _ ih =>
    rw [properties, List.zipWith_cons_cons, Node.anyUnsettled, hfirst.hasUnsettled_property]
    exact ih

end RenderedModule

/-- A table is shorter than the bundle that is made of it. -/
theorem length_standardBundle (modules : List RenderedModule) : (standardBundle modules).length =
    (functionText runtime).length + (moduleTable modules).length + 10 := by
  have hcall : ")(\x7b".toList.length = 3 := by decide
  have hend : "\n\x7d);\n".toList.length = 5 := by decide
  unfold standardBundle standardTable
  simp only [List.length_append, List.length_cons]
  omega

section Reads

variable {width depth : Nat} (hwidth : (standardBundle modules).length ≤ width)
  (hdepth : 8 * (standardBundle modules).length ≤ depth + 1)

section Runtime

variable (hruntime : WritesFunction runtime runtimeNode)
  (hspread : Parser.isSpread runtimeNode = false)

include hwidth hdepth hruntime hspread

/-- The runtime is an operand in parentheses. -/
theorem reads_runtime : Parser.primary.Reads (ruleContext .script width topFlags (depth + 12))
    (standardBundle modules) (.mk (.parenthesized false) [runtimeNode])
    ("(\x7b".toList ++ standardTable modules) := by
  have hlength := length_standardBundle modules
  set table := standardTable modules
  have hopen : scanToken .script (standardBundle modules) = .ok (lexeme ⟨standardBundle modules,
      false⟩ (.punct .openParen) (functionText runtime ++ (")(\x7b".toList ++ table)) [] false) :=
    rfl
  have hfunction : scanToken .script (functionText runtime ++ (")(\x7b".toList ++ table)) =
      .ok (lexeme ⟨functionText runtime ++ (")(\x7b".toList ++ table), false⟩
        (.word (some .function_)) (' ' :: runtime ++ (")(\x7b".toList ++ table))
        "function".toList false) := rfl
  have hclose : scanToken .script (")(\x7b".toList ++ table) = .ok (lexeme
      ⟨")(\x7b".toList ++ table, false⟩ (.punct .closeParen) ("(\x7b".toList ++ table) [] false) :=
    rfl
  have hitem : Parser.assignment.Reads (ruleContext .script width topFlags (depth + 12))
      (functionText runtime ++ (")(\x7b".toList ++ table)) runtimeNode (")(\x7b".toList ++ table) :=
    .call (.assignmentRule_of_primary hfunction rfl
      (.atNamedArrow_false hfunction (.atIdentifier_of_reserved hfunction rfl rfl))
      (.bind (.peek hfunction) (hruntime.reads endsClosed_runtime hfunction rfl rfl rfl hclose
        (by omega) (by omega))) hclose rfl nofun)
  exact .parenthesized hopen rfl hfunction ⟨nofun, nofun⟩ hitem hspread hclose rfl rfl (by omega)

end Runtime

section Table

variable (h : List.Forall₂ Holds modules bodies) (hne : modules ≠ [])

include hwidth hdepth h hne

/-- The table is an object literal. -/
theorem reads_standardTable : Parser.primary.Reads
    (ruleContext .script width topFlags (depth + 8)) ("\x7b".toList ++ standardTable modules)
    (.mk (.object true) (properties modules bodies)) ");\n".toList := by
  have hlength := length_standardBundle modules
  have hopen : scanToken .script ("\x7b".toList ++ standardTable modules) =
      .ok (lexeme ⟨"\x7b".toList ++ standardTable modules, false⟩ (.punct .openBrace)
        (standardTable modules) [] false) := rfl
  have hclose : scanToken .script "\n\x7d);\n".toList =
      .ok (lexeme ⟨"\x7d);\n".toList, true⟩ (.punct .closeBrace) ");\n".toList [] false) := rfl
  have hproperties : Parser.Terminated .closeBrace Parser.literalMember
      (ruleContext .script width topFlags (depth + 8)) (standardTable modules)
      (properties modules bodies) "\n\x7d);\n".toList := by
    rw [standardTable, ← List.cons_append, cons_moduleTable hne]
    refine terminated_moduleTable h (fun module hmem => ?_) (fun module hmem => ?_) hclose rfl
    all_goals
      have := length_entry_le hmem
      omega
  have hcount : (properties modules bodies).length = modules.length := by
    rw [properties, List.length_zipWith, h.length_eq, Nat.min_self]
  refine .primary_of_object hopen rfl hproperties ?_ ?_ hclose rfl rfl
  · refine List.ne_nil_of_length_pos ?_
    rw [hcount]
    exact List.length_pos_iff.mpr hne
  · have := length_le_length_moduleTable modules
    omega

/-- The table is the argument of a call. -/
theorem reads_arguments : Parser.callArguments.Reads
    (ruleContext .script width topFlags (depth + 12))
    ("(\x7b".toList ++ standardTable modules)
    (.mk (.arguments false) [.mk (.object true) (properties modules bodies)])
    ";\n".toList := by
  have hlength := length_standardBundle modules
  have hopen : scanToken .script ("\x7b".toList ++ standardTable modules) =
      .ok (lexeme ⟨"\x7b".toList ++ standardTable modules, false⟩ (.punct .openBrace)
        (standardTable modules) [] false) := rfl
  have hclose : scanToken .script ");\n".toList =
      .ok (lexeme ⟨");\n".toList, false⟩ (.punct .closeParen) ";\n".toList [] false) := rfl
  have hitem : Parser.argument.Reads (ruleContext .script width topFlags (depth + 12))
      ("\x7b".toList ++ standardTable modules) (.mk (.object true) (properties modules bodies))
      ");\n".toList :=
    .bind (.eatPunct_of_ne hopen nofun) (.ite_neg Bool.false_ne_true
      (.call (.assignmentRule_of_primary hopen rfl
        (.atNamedArrow_false hopen (.atIdentifier_of_not_word hopen nofun))
        (reads_standardTable hwidth hdepth h hne) hclose rfl nofun)))
  have hlist : Parser.Separated .closeParen Parser.argument
      (ruleContext .script width topFlags (depth + 12)) ("\x7b".toList ++ standardTable modules)
      [.mk (.object true) (properties modules bodies)] ");\n".toList :=
    .last hopen nofun nofun hitem hclose rfl
  have hcount : 1 ≤ width := by omega
  exact .withFlags (.bind (.expectPunct rfl rfl hopen)
    (.bind (hlist.reads (by decide) hcount) (.bind (.expectPunct hclose rfl rfl) .pure)))

end Table

end Reads

/-- **A standard bundle is a script with one statement**, the call of the runtime with the table: an
object literal with one property for each module, in their order. -/
theorem parseScript_standardBundle (hruntime : WritesFunction runtime runtimeNode)
    (hsettled : runtimeNode.hasUnsettled = false) (hspread : Parser.isSpread runtimeNode = false)
    (h : List.Forall₂ Holds modules bodies) (hne : modules ≠ []) :
    parseScript (standardBundle modules) =
      .ok [bundleTree runtimeNode (properties modules bodies)] := by
  set width := (standardBundle modules).length with hwidth
  have hlength := length_standardBundle modules
  set tree := bundleTree runtimeNode (properties modules bodies) with htree
  obtain ⟨depth, hdepth⟩ : ∃ depth, 8 * (width + 2) = depth + 17 := ⟨8 * (width + 2) - 17, by omega⟩
  have hopen : scanToken .script (standardBundle modules) = .ok (lexeme ⟨standardBundle modules,
      false⟩ (.punct .openParen) (functionText runtime ++ (")(\x7b".toList ++
        standardTable modules)) [] false) := rfl
  have hcall : scanToken .script ("(\x7b".toList ++ standardTable modules) =
      .ok (lexeme ⟨"(\x7b".toList ++ standardTable modules, false⟩ (.punct .openParen)
        ("\x7b".toList ++ standardTable modules) [] false) := rfl
  have hend : scanToken .script ";\n".toList =
      .ok (lexeme ⟨";\n".toList, false⟩ (.punct .semicolon) "\n".toList [] false) := rfl
  have hcount : 1 ≤ width := by omega
  have harguments : Parser.callArguments.Reads (ruleContext .script width topFlags (depth + 12))
      ("(\x7b".toList ++ standardTable modules) _ ";\n".toList :=
    reads_arguments (Nat.le_refl _) (by omega) h hne
  have hchain : Parser.Chain (ruleContext .script width topFlags (depth + 12))
      (.mk (.parenthesized false) [runtimeNode]) ("(\x7b".toList ++ standardTable modules) _
      ";\n".toList 1 := .call hcall rfl harguments (.refl _ _)
  have hexpression : Parser.assignment.Reads (ruleContext .script width topFlags (depth + 16))
      (standardBundle modules) _ ";\n".toList :=
    .call (.assignmentRule hopen nofun nofun
      (.atNamedArrow_false hopen (.atIdentifier_of_not_word hopen nofun))
      (.operators_of_primary hopen rfl
        (reads_runtime (Nat.le_refl _) (by omega) hruntime hspread) (hchain.reads hend rfl hcount)
        hend rfl)
      (.assignmentTail_of_end hend rfl nofun))
  have hstatement : (Parser.statement .list).Reads (topContext .script width)
      (standardBundle modules) tree "\n".toList := by
    rw [topContext, hdepth]
    exact .call (.bind (.peek hopen) (.expressionStatement hexpression hend rfl rfl))
  have hrepeated : Parser.Repeated Parser.atEnd (Parser.statement .list)
      (topContext .script width) (standardBundle modules) [tree] "\n".toList :=
    .more (.bind (.peek hopen) .pure) hstatement (.done (.bind (.peek rfl) .pure))
  have hparse : parseText .script (Parser.repeatUntil Parser.atEnd (Parser.statement .list))
      (standardBundle modules) = .ok [tree] :=
    parseText_of_reads rfl hopen (hrepeated.reads hcount)
  have hsettled' : Node.anyUnsettled [tree] = false := by
    simp [Node.anyUnsettled, Node.hasUnsettled, htree, bundleTree, hsettled,
      anyUnsettled_properties h]
  rw [parseScript, hparse]
  show (if Node.anyUnsettled [tree] = true then _ else _) = _
  rw [hsettled']
  rfl

end ModuleBundler
