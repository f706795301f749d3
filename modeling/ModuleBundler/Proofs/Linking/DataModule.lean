import ModuleBundler.Loading.Loader
import ModuleBundler.Proofs.Json.Literal
import ModuleBundler.Proofs.Linking.Analysis
import ModuleBundler.Proofs.Linking.Factory

/-!
# Data stays data

A data file becomes a module whose only item is a default export, and the tree of what it exports is
the value that the file writes. Linking replaces the words in front of the value and nothing else,
whatever the value contains.

## Main definitions

* `dataText`, `dataCode` — the module of a value and its linked code.
* `dataItem`, `assignmentTree` — their trees.

## Main results

* `parseModule_data` — the module of a value exports the tree of the value and nothing else.
* `parseScript_data` — its linked code assigns the same tree to the default export.
* `dataStaysData` — text files and documents are linked like this.
-/

namespace ModuleBundler.Linking

open Script Text

variable {value : Json} {body tail : List Char} {width depth : Nat} {flags : Flags}

/-! ### The linked code as a script -/

/-- The member of the exports to which a default export is assigned, as a tree. -/
def defaultTarget : Node :=
  .mk .access [nameTree exportsObject, .mk (.propertyName Script.defaultName) []]

/-- The tree of an assignment of a value to the default export. -/
def assignmentTree (value : Json) : Node :=
  .mk .expressionStatement [.mk (.assign none) [defaultTarget, value.literal]]

section Tokens

theorem scanToken_exports (body : List Char) :
    scanToken .script ('\n' :: "exports.default = ".toList ++ body) =
      .ok (lexeme ⟨"exports.default = ".toList ++ body, true⟩ (.word none)
        (".default = ".toList ++ body) exportsObject false) :=
  rfl

theorem scanToken_point (body : List Char) : scanToken .script (".default = ".toList ++ body) =
    .ok (lexeme ⟨".default = ".toList ++ body, false⟩ (.punct .dot) ("default = ".toList ++ body) []
      false) :=
  rfl

theorem scanToken_default (body : List Char) : scanToken .script ("default = ".toList ++ body) =
    .ok (lexeme ⟨"default = ".toList ++ body, false⟩ (.word (some .default_)) (" = ".toList ++ body)
      Script.defaultName false) :=
  rfl

theorem scanToken_assign (body : List Char) : scanToken .script (" = ".toList ++ body) =
    .ok (lexeme ⟨"= ".toList ++ body, false⟩ (.punct (.assign none)) (' ' :: body) [] false) :=
  rfl

end Tokens

/-- The member of the exports is read as an operand. -/
theorem reads_defaultTarget : (Parser.operators 0).Reads
    (ruleContext .script (width + 1) flags (depth + 3))
    ('\n' :: "exports.default = ".toList ++ body) defaultTarget (" = ".toList ++ body) := by
  have hlinks : (Parser.links .all (nameTree exportsObject)).Reads
      (ruleContext .script (width + 1) flags depth) (".default = ".toList ++ body) defaultTarget
      (" = ".toList ++ body) := by
    refine .loop (.rounds_inl (.bind (.peek (scanToken_point body))
      (.bind (.advance (scanToken_point body) (scanToken_default body))
        (.bind (.property_of_word (scanToken_default body) rfl (scanToken_assign body)) .pure))) ?_)
    exact .rounds_inr (.bind (.peek (scanToken_assign body)) .pure)
  exact .operators_of_primary (scanToken_exports body) rfl
    (.bind (.peek (scanToken_exports body))
      (.identifier (scanToken_exports body) rfl (scanToken_point body)))
    hlinks (scanToken_assign body) rfl

/-- Behind the member, a value is assigned to it. -/
theorem reads_assignedValue (hvalue : value.IsExpression .script width depth) :
    (Parser.assignmentTail false defaultTarget).Reads
      (ruleContext .script width flags (depth + 1)) (" = ".toList ++ (value.compact ++ ';' :: tail))
      (.mk (.assign none) [defaultTarget, value.literal]) (';' :: tail) := by
  obtain ⟨first, hfirst, -⟩ : ∃ first, scanToken .script (value.compact ++ ';' :: tail) =
      .ok first ∧ _ := value.exists_scanToken_compact rfl
  have hassignable : (Parser.assignable defaultTarget).Reads
      (ruleContext .script width flags (depth + 1)) (" = ".toList ++ (value.compact ++ ';' :: tail))
      defaultTarget (" = ".toList ++ (value.compact ++ ';' :: tail)) := .pure
  refine .bind (.peek (scanToken_assign _)) (.bind hassignable ?_)
  refine .bind (.advance (scanToken_assign _) hfirst) (.bind (.call ?_) .pure)
  exact hvalue flags ';' _ tail rfl rfl

/-- An assignment of a value to the default export is a statement. -/
theorem reads_defaultAssignment {after : Lexeme}
    (hvalue : value.IsExpression .script (width + 1) (depth + 2))
    (htail : scanToken .script tail = .ok after) :
    (Parser.statement .list).Reads (ruleContext .script (width + 1) flags (depth + 5))
      ('\n' :: "exports.default = ".toList ++ (value.compact ++ ';' :: tail)) (assignmentTree value)
      tail := by
  have hexpression (flags : Flags) : Parser.assignment.Reads
      (ruleContext .script (width + 1) flags (depth + 4))
      ('\n' :: "exports.default = ".toList ++ (value.compact ++ ';' :: tail))
      (.mk (.assign none) [defaultTarget, value.literal]) (';' :: tail) :=
    .call (.assignmentRule (scanToken_exports _) nofun nofun
      (.atNamedArrow_of_name (scanToken_exports _) rfl (scanToken_point _) nofun)
      reads_defaultTarget (reads_assignedValue hvalue))
  have hsecond : Parser.peekSecond.Reads (ruleContext .script (width + 1) flags (depth + 4))
      ('\n' :: "exports.default = ".toList ++ (value.compact ++ ';' :: tail)) _ _ :=
    .peekSecond_of_word (scanToken_exports _) rfl (scanToken_point _)
  have hnotAsync : Parser.atAsyncFunction.Reads (ruleContext .script (width + 1) flags (depth + 4))
      ('\n' :: "exports.default = ".toList ++ (value.compact ++ ';' :: tail)) false _ :=
    .bind (.atKeyword_of_ne (scanToken_exports _) nofun) (.ite_neg Bool.false_ne_true .pure)
  have hnotUsing : Parser.usingKind?.Reads (ruleContext .script (width + 1) flags (depth + 4))
      ('\n' :: "exports.default = ".toList ++ (value.compact ++ ';' :: tail)) none _ :=
    .bind .flags (.bind (.peek (scanToken_exports _))
      (.bind hsecond (.ite_neg Bool.false_ne_true .pure)))
  refine .call (.bind (.peek (scanToken_exports _)) ?_)
  refine .bind hnotAsync (.ite_neg Bool.false_ne_true (.bind hnotUsing (.bind hsecond ?_)))
  refine .bind (.atIdentifier_of_none (scanToken_exports _) rfl) ?_
  exact .ite_neg Bool.false_ne_true (.expressionStatement (hexpression _) rfl rfl htail)

/-! ### The module -/

/-- The item of the module of a value. -/
def dataItem (value : Json) : Item :=
  .exporting ⟨⟨0, value.compact.length + 16⟩,
    .defaultValue ⟨15, 15 + value.compact.length⟩ value.literal⟩

theorem scanToken_exportedDefault (body : List Char) :
    scanToken .module (" default ".toList ++ body) =
      .ok (lexeme ⟨"default ".toList ++ body, false⟩ (.word (some .default_)) (" ".toList ++ body)
        Script.defaultName false) :=
  rfl

/-- The default export of a value, from the word `default` on. -/
theorem reads_exportDefault (hvalue : value.IsExpression .module width depth) (start : Nat) :
    (Parser.exportDefault start).Reads (ruleContext .module width flags (depth + 1))
      (" default ".toList ++ (value.compact ++ ";\n".toList))
      (.defaultValue ⟨start + 8, start + 8 + value.compact.length⟩ value.literal) "\n".toList := by
  let body := value.compact ++ ";\n".toList
  obtain ⟨first, hfirst, hhere, hstart⟩ : ∃ first, scanToken .module body = .ok first ∧
      first.here = body ∧ Json.startsValue first.token.kind := value.exists_scanToken_compact rfl
  have hblank : scanToken .module (" ".toList ++ body) = .ok first := hfirst
  have hkeyword : (Parser.expectKeyword .default_).withDistance.Reads
      (ruleContext .module width flags (depth + 1)) (" default ".toList ++ body) ((), 8) _ :=
    .expectKeyword_withDistance "default ".toList (scanToken_exportedDefault body) rfl rfl hblank
      (by rw [hhere]; rfl)
  have hassignment (flags : Flags) : Parser.assignment.Reads
      (ruleContext .module width flags (depth + 1)) (" ".toList ++ body) value.literal
      ";\n".toList := .call (hvalue _ ';' _ "\n".toList rfl rfl)
  have hextent : first.here.length - ";\n".toList.length = value.compact.length := by
    rw [hhere, List.length_append, Nat.add_sub_cancel]
  have hexport : (Parser.defaultValue (start + 8) (Parser.withIn Parser.assignment)).Reads
      (ruleContext .module width flags (depth + 1)) (" ".toList ++ body)
      (.defaultValue ⟨start + 8, start + 8 + value.compact.length⟩ value.literal) ";\n".toList := by
    rw [← hextent]
    exact .bind (.withExtent (.withFlags (hassignment _)) hblank) .pure
  have hnotAsync : Parser.atAsyncFunction.Reads (ruleContext .module width flags (depth + 1))
      (" ".toList ++ body) false (" ".toList ++ body) :=
    .bind (.atKeyword_of_ne hblank (Json.ne_of_startsValue hstart rfl))
      (.ite_neg Bool.false_ne_true .pure)
  refine .bind hkeyword (.bind (.atKeyword_of_ne hblank (Json.ne_of_startsValue hstart rfl)) ?_)
  refine .bind hnotAsync (.ite_neg Bool.false_ne_true ?_)
  refine .bind (.atKeyword_of_ne hblank (Json.ne_of_startsValue hstart rfl)) ?_
  refine .bind (.atPunct_of_ne hblank (Json.ne_of_startsValue hstart rfl)) ?_
  refine .ite_neg Bool.false_ne_true (.bind hexport ?_)
  exact .bind (.endStatement_of_semicolon rfl rfl rfl) .pure

/-- The text of the module of a value. -/
def dataText (value : Json) : List Char :=
  "export default ".toList ++ (value.compact ++ ";\n".toList)

theorem length_dataText (value : Json) : (dataText value).length = value.compact.length + 17 := by
  suffices hlength : ∀ chars : List Char,
      ("export default ".toList ++ (chars ++ ";\n".toList)).length = chars.length + 17 from
    hlength value.compact
  intro chars
  have hsum : 15 + (chars.length + 2) = chars.length + 17 := by omega
  rw [List.length_append, List.length_append]
  exact hsum

theorem scanToken_dataText : scanToken .module (dataText value) =
    .ok (lexeme ⟨dataText value, false⟩ (.word (some .export_))
      (" default ".toList ++ (value.compact ++ ";\n".toList)) "export".toList false) :=
  rfl

/-- The default export of a value, from its start on. -/
theorem reads_exportDeclaration (hvalue : value.IsExpression .module width depth) :
    Parser.exportDeclaration.Reads (ruleContext .module width flags (depth + 1)) (dataText value)
      ⟨⟨0, value.compact.length + 16⟩,
        .defaultValue ⟨15, 15 + value.compact.length⟩ value.literal⟩ "\n".toList := by
  let body := value.compact ++ ";\n".toList
  have hdefault := scanToken_exportedDefault body
  have hkeyword : (Parser.expectKeyword .export_).withDistance.Reads
      (ruleContext .module width flags (depth + 1)) (dataText value) ((), 7) _ :=
    .expectKeyword_withDistance "export ".toList scanToken_dataText rfl rfl hdefault rfl
  have hextent : (dataText value).length - "\n".toList.length = value.compact.length + 16 := by
    rw [length_dataText]
    rfl
  rw [← hextent]
  exact .bind (.withExtent (.bind hkeyword (.bind (.peek hdefault) (reads_exportDefault hvalue 7)))
    scanToken_dataText) .pure

/-- The module of a value is read as this item. -/
theorem reads_items (hvalue : value.IsExpression .module (width + 1) depth) :
    (Parser.items 0).Reads (ruleContext .module (width + 1) flags (depth + 1)) (dataText value)
      [dataItem value] "\n".toList := by
  have hend : scanToken .module "\n".toList =
      .ok (lexeme ⟨[], true⟩ .endOfSource [] [] false) := rfl
  have hnotImport : Parser.atImportDeclaration.Reads
      (ruleContext .module (width + 1) flags (depth + 1)) (dataText value) false (dataText value) :=
    .bind (.atKeyword_of_ne scanToken_dataText nofun) (.ite_neg Bool.false_ne_true .pure)
  have hitem : Parser.item.Reads (ruleContext .module (width + 1) flags (depth + 1))
      (dataText value) (dataItem value) "\n".toList :=
    .bind hnotImport (.ite_neg Bool.false_ne_true (.bind (.atKeyword_of_eq scanToken_dataText rfl)
      (.ite_pos rfl (.bind (reads_exportDeclaration hvalue) .pure))))
  have hbehind : (dataItem value).behind 0 = dataItem value := by
    simp [dataItem, Item.behind, Exports.behind, Span.behind]
  refine .loop (.rounds_inl (.bind (.bind (.peek scanToken_dataText) .pure)
    (.ite_neg Bool.false_ne_true (.bind (.withDistance hitem scanToken_dataText hend) .pure))) ?_)
  rw [hbehind]
  exact .rounds_inr (.bind (.bind (.peek hend) .pure) (.ite_pos rfl .pure))

/-- **The module of a value is the default export of the value**, and nothing else. -/
theorem parseModule_data (value : Json) : parseModule (dataText value) = .ok [dataItem value] := by
  have hlength : (dataText value).length = value.compact.length + 16 + 1 := length_dataText value
  have hvalue : value.IsExpression .module (value.compact.length + 16 + 1)
      (8 * value.compact.length + 151) := value.isExpression (by omega) (by omega)
  have hdepth : 8 * (value.compact.length + 16 + 1 + 2) = 8 * value.compact.length + 151 + 1 := by
    omega
  have hread : (Parser.items 0).Reads (topContext .module (dataText value).length) (dataText value)
      [dataItem value] "\n".toList := by
    rw [hlength, topContext, hdepth]
    exact reads_items hvalue
  have hparse : parseText .module (Parser.items 0) (dataText value) = .ok [dataItem value] :=
    parseText_of_reads rfl scanToken_dataText hread
  have hstart : startCursor .module (dataText value) =
      .ok ⟨lexeme ⟨dataText value, false⟩ (.word (some .export_))
        (" default ".toList ++ (value.compact ++ ";\n".toList)) "export".toList false,
        dataText value⟩ := rfl
  have hsettled : Node.anyUnsettled ([dataItem value].flatMap Item.nodes) = false := by
    show Node.anyUnsettled [value.literal] = false
    rw [Node.anyUnsettled, value.hasUnsettled_literal]
    rfl
  rw [parseModule, hstart]
  show (parseText .module (Parser.items ((dataText value).length - (dataText value).length))
    (dataText value)).bind _ = _
  rw [Nat.sub_self, hparse]
  show (if Node.anyUnsettled ([dataItem value].flatMap Item.nodes) = true then _ else _) = _
  rw [hsettled]
  rfl

/-! ### The linked code -/

/-- The linked code of the module of a value. -/
def dataCode (value : Json) : List Char :=
  "exports.default = ".toList ++ (value.compact ++ ";\n".toList)

/-- No value is a function or class. -/
theorem isDeclaration_literal (value : Json) : Group.isDeclaration value.literal = false := by
  cases value with
  | null | boolean _ | text _ | array _ | object _ => rfl
  | integer n => cases n <;> rfl
  | decimal negative _ => cases negative <;> rfl

/-- What stands in front of the value is replaced. -/
theorem groups_data (value : Json) :
    groups 0 [dataItem value] = ⟨[], [⟨⟨0, 15⟩, [.openDefault]⟩], [], 0⟩ := by
  have hgroup : Group.ofItem 0 (dataItem value) = ⟨[], [⟨⟨0, 15⟩, [.openDefault]⟩], [], 0⟩ :=
    if_neg (by rw [isDeclaration_literal]; exact Bool.false_ne_true)
  rw [groups, hgroup]
  rfl

theorem linkedCode_data (value : Json) :
    linkedCode (dataText value) (groups 0 [dataItem value]) = dataCode value := by
  have hsplice : splice [⟨0, 15, "exports.default = ".toList⟩] (dataText value) =
      dataCode value := rfl
  rw [groups_data]
  show withDeferred (splice [⟨0, 15, "exports.default = ".toList⟩] (dataText value)) [] = _
  rw [hsplice, withDeferred, if_pos (.inl rfl), List.append_nil]
  exact List.append_nil _

/-- A factory is longer than the value in it. -/
theorem length_compact_lt (value : Json) :
    value.compact.length < (factory (dataCode value)).length := by
  have hinfix : (value.compact ++ [';']).IsInfix (factory (dataCode value)) := by
    refine ⟨factoryHead ++ "exports.default = ".toList, '\n' :: factoryTail, ?_⟩
    unfold factory dataCode
    simp only [List.append_assoc]
    rfl
  have hle : (value.compact ++ [';']).length ≤ (factory (dataCode value)).length := hinfix.length_le
  rwa [List.length_append] at hle

/-- The linked code of a value is the body of a factory, which assigns the value. -/
theorem parseScript_data (value : Json) :
    parseScript (factory (dataCode value)) = .ok [factoryTree [assignmentTree value]] := by
  have htext : '\n' :: dataCode value ++ factoryTail =
      '\n' :: "exports.default = ".toList ++ (value.compact ++ ';' :: '\n' :: factoryTail) := by
    unfold dataCode
    simp only [List.cons_append, List.append_assoc]
    rfl
  have hclose : scanToken .script ('\n' :: factoryTail) =
      .ok (lexeme ⟨"\x7d);".toList, true⟩ (.punct .closeBrace) ");".toList [] false) := rfl
  obtain ⟨more, hlength⟩ : ∃ more,
      (factory (dataCode value)).length = value.compact.length + more + 1 :=
    Nat.exists_eq_add_of_lt (length_compact_lt value)
  have hvalue : value.IsExpression .script (value.compact.length + more + 1)
      (8 * (value.compact.length + more) + 10 + 2) := value.isExpression (by omega) (by omega)
  have hdepth : 8 * ((factory (dataCode value)).length + 2) =
      8 * (value.compact.length + more) + 10 + 4 + 10 := by
    rw [hlength]
    generalize value.compact.length = length
    omega
  have hstatements : Parser.Repeated (Parser.atPunct .closeBrace) (Parser.statement .list)
      (ruleContext .script (factory (dataCode value)).length Parser.Reads.bodyFlags
        (8 * (value.compact.length + more) + 10 + 4 + 1))
      ('\n' :: dataCode value ++ factoryTail) [assignmentTree value] ('\n' :: factoryTail) := by
    rw [hlength, htext]
    exact .more (.atPunct_of_ne (scanToken_exports _) nofun) (reads_defaultAssignment hvalue hclose)
      (.done (.atPunct_of_eq hclose rfl))
  have hsettled : Node.anyUnsettled [assignmentTree value] = false := by
    simp [Node.anyUnsettled, Node.hasUnsettled, assignmentTree, defaultTarget, nameTree,
      value.hasUnsettled_literal]
  have hcount : [assignmentTree value].length ≤ (factory (dataCode value)).length := by
    rw [hlength]
    exact Nat.le_add_left 1 _
  exact parseScript_factory hdepth (by rw [htext]; exact scanToken_exports _) hstatements
    ⟨_, hclose, rfl, rfl⟩ hcount hsettled

/-- The module of a value has no imports, and its linked code assigns the value to the default
export. -/
theorem links_data (value : Json) :
    Links (dataText value) [dataItem value] [] (dataCode value) where
  parsed := parseModule_data value
  unphased := rfl
  specifiers_eq := by rw [groups_data]
  code_eq := (linkedCode_data value).symm
  accepted := ⟨_, parseScript_data value⟩

theorem toList_moduleOf (value : Json) : (Loader.moduleOf value).toList = dataText value := by
  unfold Loader.moduleOf dataText
  simp only [String.toList_append, String.toList_ofList, List.append_assoc]

theorem ofList_dataCode (value : Json) : String.ofList (dataCode value) =
    "exports.default = " ++ String.ofList value.compact ++ ";\n" := by
  unfold dataCode
  simp only [String.ofList_append, String.ofList_toList, String.append_assoc]

/-- The linked code of the module of a value assigns the printed value. -/
theorem analyze_moduleOf (value : Json) : analyze (Loader.moduleOf value) =
    .ok ⟨[], "exports.default = " ++ String.ofList value.compact ++ ";\n"⟩ := by
  have hchars : analyzeChars (Loader.moduleOf value).toList = .ok ([], dataCode value) := by
    rw [toList_moduleOf]
    exact analyzeChars_eq_ok_iff.mpr ⟨[dataItem value], links_data value⟩
  unfold analyze
  rw [hchars, ← ofList_dataCode]
  rfl

/-- **Data stays data.** The module of any text, and of any document, links without imports to an
assignment of the quoted text, or of the printed document, to the default export. -/
theorem dataStaysData :
    (∀ text, ∃ source, Loader.plainText.run text = .ok source ∧ analyze source =
      .ok ⟨[], "exports.default = " ++ String.ofList (Quoted.encode text.toList) ++ ";\n"⟩) ∧
    (∀ file source, Loader.json.run file = .ok source →
      ∃ value, Json.read? file.toList = some value ∧ analyze source =
        .ok ⟨[], "exports.default = " ++ String.ofList value.compact ++ ";\n"⟩) := by
  constructor
  · intro text
    exact ⟨_, rfl, analyze_moduleOf (.text text.toList)⟩
  · intro file source h
    cases hread : Json.read? file.toList with
    | none => simp [Loader.json, hread] at h
    | some value =>
      obtain rfl : Loader.moduleOf value = source := by simpa [Loader.json, hread] using h
      exact ⟨value, rfl, analyze_moduleOf value⟩

/-- A document of a negative number and a text with an import in it. -/
def importInText : String :=
  "[-1, \"; import \\\"a\\\"\"]"

/-- The text stays a text, and the import in it is none. -/
theorem dataStaysData_importInText : ∃ source, Loader.json.run importInText = .ok source ∧
    analyze source = .ok ⟨[], "exports.default = [-1,\"; import \\\"a\\\"\"];\n"⟩ := by
  have hrun : Loader.json.run importInText =
      .ok "export default [-1,\"; import \\\"a\\\"\"];\n" := by decide +kernel
  have hcompact : (Json.read? importInText.toList).map Json.compact =
      some "[-1,\"; import \\\"a\\\"\"]".toList := by decide +kernel
  obtain ⟨value, hread, hanalyze⟩ := dataStaysData.2 _ _ hrun
  rw [hread] at hcompact
  rw [Option.some.inj hcompact] at hanalyze
  exact ⟨_, hrun, hanalyze⟩

end ModuleBundler.Linking
