import ModuleBundler.Proofs.Linking.WrittenNames

/-!
# Statements that linking inserts

Linking assigns exports and declares constants. Each such statement is read as what it is meant to
be, if and only if the names in it are written as what they are.

## Main definitions

* `NamesWritten` — what may be said of the names in linked code.

## Main results

* `namesWritten` — members, patterns and statements are read as what they are meant to be, if and
  only if their names are written as what they are.
-/

namespace ModuleBundler.Script.Parser

variable {goal : Goal} {width depth : Nat} {flags : Flags} {context : Context}
  {chars between rest : List Char} {node target value : Node}
  {first second third next : Lexeme} {condition condition' : Prop}

/-! ### Statements -/

/-- A statement that starts with a name is an expression, if neither a word nor a colon follows. -/
theorem statementRule_goesOnAs {place : Place} (h : scanToken context.goal chars = .ok first)
    (hname : first.token.kind = .word none)
    (hsecond : scanToken context.goal first.rest = .ok second)
    (hword : ∀ keyword, second.token.kind ≠ .word keyword)
    (hcolon : second.token.kind ≠ .punct .colon) :
    (statementRule place).GoesOnAs expressionStatement context chars := by
  have hpeek := Reads.peekSecond_of_word h hname hsecond
  have husing : usingKind?.Reads context chars none chars := by
    refine .bind .flags (.bind (.peek h) (.bind hpeek ?_))
    rw [hname]
    by_cases hescaped : (first.token.escaped || second.token.newline) = true
    · exact .ite_pos hescaped .pure
    · exact .ite_neg hescaped .pure
  have hlabel : (some second.token).any (fun token => token.kind == .punct .colon) = false := by
    simpa using hcolon
  refine (Reads.peek h).goesOnAs ?_
  rw [hname]
  refine (Reads.atAsyncFunction_false h hsecond hword).goesOnAs (.ite_neg Bool.false_ne_true ?_)
  refine husing.goesOnAs (hpeek.goesOnAs ((Reads.atIdentifier_of_none h hname).goesOnAs ?_))
  exact .ite_neg (by simp [hlabel]) .refl

namespace ReadsIf

theorem expressionStatement (h : Parser.assignment.ReadsIf condition
      (ruleContext goal width { flags with allowIn := true } depth) chars node rest)
    (hnext : scanToken goal rest = .ok next) (hkind : next.token.kind = .punct .semicolon)
    (hsecond : scanToken goal next.rest = .ok second) :
    Parser.expressionStatement.ReadsIf condition (ruleContext goal width flags depth) chars
      (.mk .expressionStatement [node]) next.rest :=
  ⟨fun hc => .expressionStatement (h.1 hc) hnext hkind hsecond, fun hc => .bind (.bind (h.2 hc))⟩

theorem declarator (htarget : binding.ReadsIf condition context chars target between)
    (hassign : scanToken context.goal between = .ok first)
    (hkind : first.token.kind = .punct (.assign none))
    (hsecond : scanToken context.goal first.rest = .ok second)
    (hvalue : Parser.assignment.ReadsIf condition' context first.rest value rest) :
    Parser.declarator.ReadsIf (condition ∧ condition') context chars
      (.mk .declarator [target, value]) rest := by
  refine .bind htarget ((Reads.eatPunct_of_eq hassign hkind hsecond).readsIf_bind ?_)
  exact hvalue.bind_reads .pure

/-- A constant with its value is a declaration, up to its semicolon. -/
theorem constantStatement (h : scanToken context.goal chars = .ok first)
    (hescaped : first.token.escaped = false)
    (hsecond : scanToken context.goal first.rest = .ok second)
    (hdeclarator : Parser.declarator.ReadsIf condition context first.rest
      (.mk .declarator [target, value]) rest)
    (hvalue : value.kind ≠ .absent)
    (hnext : scanToken context.goal rest = .ok next)
    (hkind : next.token.kind = .punct .semicolon)
    (hend : scanToken context.goal next.rest = .ok third) :
    (variableStatement .constant).ReadsIf condition context chars
      (.mk (.variableList .constant) [.mk .declarator [target, value]]) next.rest := by
  have hlist : (variableList .constant).ReadsIf condition context chars
      (.mk (.variableList .constant) [.mk .declarator [target, value]]) rest := by
    have hstop : Repeated (do return !(← atPunct .comma)) (do
        Parser.expectPunct .comma
        Parser.declarator) context rest [] rest :=
      .done (.bind (.atPunct_of_ne hnext (by simp [hkind])) .pure)
    refine (Reads.advanceKeyword h hescaped hsecond).readsIf_bind ?_
    exact hdeclarator.bind_reads (.bind (hstop.reads (Nat.zero_le _)) .pure)
  have hneeded : lacksValue .constant (.mk .declarator [target, value]) = false := by
    unfold lacksValue
    split
    · next heq =>
      cases heq
      exact absurd rfl hvalue
    · rfl
  have hchecked : (checkValues (.mk (.variableList .constant)
      [.mk .declarator [target, value]])).Reads context rest () rest :=
    .ite_neg (by simp [hneeded]) .pure
  exact hlist.bind_reads
    (.bind hchecked (.bind (.endStatement_of_semicolon hnext hkind hend) .pure))

end ReadsIf

end ModuleBundler.Script.Parser

namespace ModuleBundler.Linking

open Script Text

variable {goal : Goal} {width depth : Nat} {flags : Flags} {chars rest : List Char}
  {next : Lexeme}

/-! ### Targets -/

/-- What a constant declares, as a tree. -/
def Target.tree : Target → Node
  | .name localName => nameTree localName
  | .temporary index => nameTree (Linking.temporary index)
  | .pattern entries => patternTree entries

/-- All names of a target are written as what they are. -/
def Target.Writable : Target → Prop
  | .name _ | .temporary _ => True
  | .pattern entries => ∀ entry ∈ entries, EntryWritable entry

/-- The number of names of a target. -/
def Target.size : Target → Nat
  | .name _ | .temporary _ => 1
  | .pattern entries => entries.length

theorem bindable_temporary (index : Nat) : Bindable (temporary index) := by
  have hfront : ∀ c ∈ "_minipack_import_".toList, isNamePart c :=
    List.all_eq_true.mp (by decide)
  refine ⟨⟨by decide, fun c hc => ?_⟩, rfl⟩
  obtain hc | hc := List.mem_append.mp hc
  · exact hfront c hc
  · obtain ⟨n, hn, rfl⟩ := exists_digitChar ((isDigits_toDigits index).2 c hc)
    interval_cases n <;> decide

theorem readsIf_target {target : Target} (hnames : ∀ name ∈ target.names, Bindable name)
    (hflags : flags.Sloppy) (hwidth : target.size ≤ width)
    (hchars : scanToken goal chars = scanToken goal (target.text ++ rest))
    (hrest : EndsName rest) (hnext : scanToken goal rest = .ok next) :
    Parser.binding.ReadsIf target.Writable (ruleContext goal width flags (depth + 2)) chars
      target.tree rest := by
  have hname (name : Name) (hname : Bindable name)
      (hchars : scanToken goal chars = scanToken goal (name ++ rest)) :
      Parser.binding.ReadsIf True (ruleContext goal width flags (depth + 2)) chars (nameTree name)
        rest := by
    rw [scanToken_word hname.1 hrest] at hchars
    exact ⟨fun _ => .binding_of_identifier hchars hname.2 hflags hnext, fun h => absurd trivial h⟩
  cases target with
  | name localName => exact hname localName (hnames _ (List.mem_singleton_self _)) hchars
  | temporary index => exact hname _ (bindable_temporary index) hchars
  | pattern entries =>
    refine readsIf_pattern (fun entry hentry => ?_) hflags hchars hwidth hnext
    exact hnames _ (List.mem_map_of_mem hentry)

theorem exists_scanToken_target {target : Target} (hnames : ∀ name ∈ target.names, Bindable name)
    (hchars : scanToken goal chars = scanToken goal (target.text ++ rest))
    (hrest : EndsName rest) : ∃ first, scanToken goal chars = .ok first := by
  cases target with
  | name localName =>
    have hname : Bindable localName := hnames _ (List.mem_singleton_self _)
    exact ⟨_, hchars.trans (scanToken_word hname.1 hrest)⟩
  | temporary index => exact ⟨_, hchars.trans (scanToken_word (bindable_temporary index).1 hrest)⟩
  | pattern entries => exact ⟨_, scanToken_destructuring hchars⟩

/-! ### Expressions -/

section Expression

variable {value : Value} {newline : Bool} (hroot : Bindable value.root)
  (hfirst : scanToken goal chars = .ok (lexeme ⟨value.text ++ rest, newline⟩
    (.word (keywordOf? value.root)) (value.linkText ++ rest) value.root false))
  (hrest : EndsName rest) (hnext : scanToken goal rest = .ok next)
  (hend : next.token.kind.endsOperand) (hassign : next.token.kind ≠ .punct (.assign none))
  (hflags : flags.Sloppy) (hwidth : value.linkCount < width)

include hroot hfirst hrest hnext hend hassign hflags hwidth

/-- A value is an expression. -/
theorem readsIf_expression : Parser.assignment.ReadsIf value.Writable
    (ruleContext goal width flags (depth + 8)) chars value.tree rest := by
  have hends := endsValue_of_end hrest hnext hend
  obtain ⟨second, hsecond, hword, harrow, -⟩ := (value.endsValue_linkText hends).token
  obtain ⟨startsAsync, hgoes⟩ : ∃ startsAsync, Parser.assignmentRule.GoesOnAs
      (Parser.operators 0 >>= Parser.assignmentTail startsAsync)
      (ruleContext goal width flags (depth + 7)) chars :=
    Parser.assignmentRule_goesOnAs hfirst hroot.2 hsecond hword harrow hflags
  have hvalue : (Parser.operators 0).ReadsIf value.Writable
      (ruleContext goal width flags (depth + 7)) chars value.tree rest :=
    readsIf_value_of_scanToken hroot hrest hnext hend hflags hwidth hfirst
  exact (hgoes.readsIf (hvalue.bind_reads (.assignmentTail_of_end hnext hend hassign))).call

end Expression

/-- The tree of a value has a value. -/
theorem Value.kind_tree_ne_absent (value : Value) : value.tree.kind ≠ .absent := by
  cases value with
  | member object property =>
    show (memberTree object.tree property).kind ≠ .absent
    unfold memberTree
    split <;> exact nofun
  | _ => exact nofun

/-- A member of an object can be assigned to. -/
theorem settled?_memberTree (object : Node) (name : Name) :
    (memberTree object name).settled? .assignment = some (memberTree object name) := by
  unfold memberTree
  split <;> rfl

theorem scanToken_equals (tail : List Char) : scanToken goal (" = ".toList ++ tail) =
    .ok (lexeme ⟨"= ".toList ++ tail, false⟩ (.punct (.assign none)) (' ' :: tail) [] false) :=
  rfl

theorem scanToken_semicolon (tail : List Char) : scanToken goal (';' :: tail) =
    .ok (lexeme ⟨';' :: tail, false⟩ (.punct .semicolon) tail [] false) :=
  rfl

theorem scanToken_const (tail : List Char) : scanToken goal ("const ".toList ++ tail) =
    .ok (lexeme ⟨"const ".toList ++ tail, false⟩ (.word (some .const_)) (' ' :: tail)
      "const".toList false) :=
  rfl

theorem endsName_equals (tail : List Char) : EndsName (" = ".toList ++ tail) :=
  endsName_cons (by decide) (by decide)

/-- The member of the exports under a name. -/
def exportMember (exported : Name) : Value :=
  .member (.name exportsObject) exported

/-- The assignment of a value to an export, as a tree. -/
def assignTree (exported : Name) (value : Value) : Node :=
  .mk .expressionStatement [.mk (.assign none) [(exportMember exported).tree, value.tree]]

/-- The declaration of a constant, as a tree. -/
def declareTree (target : Target) (value : Value) : Node :=
  .mk (.variableList .constant) [.mk .declarator [target.tree, value.tree]]

theorem bindable_exports : Bindable exportsObject :=
  ⟨⟨by decide, List.all_eq_true.mp (by decide)⟩, rfl⟩

theorem assignExport_append (exported value tail : List Char) :
    assignExport exported value ++ tail =
      (exportMember exported).text ++ (" = ".toList ++ (value ++ ';' :: tail)) := by
  unfold assignExport
  simp only [List.append_assoc]
  rfl

/-- The first token of an assignment to an export. -/
theorem scanToken_assignExport {exported value tail : List Char}
    (hchars : scanToken goal chars = scanToken goal (assignExport exported value ++ tail)) :
    scanToken goal chars = .ok (lexeme ⟨(exportMember exported).text ++
      (" = ".toList ++ (value ++ ';' :: tail)), false⟩ (.word none)
      ((exportMember exported).linkText ++ (" = ".toList ++ (value ++ ';' :: tail))) exportsObject
      false) := by
  have hobject : Bindable (exportMember exported).root := bindable_exports
  rw [assignExport_append] at hchars
  exact scanToken_value hobject hchars (endsName_equals _) (scanToken_equals _) rfl

theorem constant_append (target value tail : List Char) : constant target value ++ tail =
    "const ".toList ++ (target ++ (" = ".toList ++ (value ++ ';' :: tail))) := by
  unfold constant
  simp only [List.append_assoc, List.cons_append, List.nil_append]

/-- The first token of a declaration of a constant. -/
theorem scanToken_constant {target value tail : List Char}
    (hchars : scanToken goal chars = scanToken goal (constant target value ++ tail)) :
    scanToken goal chars = .ok (lexeme
      ⟨"const ".toList ++ (target ++ (" = ".toList ++ (value ++ ';' :: tail))), false⟩
      (.word (some .const_)) (' ' :: (target ++ (" = ".toList ++ (value ++ ';' :: tail))))
      "const".toList false) := by
  rw [hchars, constant_append]
  exact scanToken_const _

section Statement

variable {tail : List Char} {value : Value} (hroot : Bindable value.root) (hflags : flags.Sloppy)
  (hwidth : value.linkCount + 1 < width)

include hroot

/-- Behind the equals sign, there is the first name of the value. -/
theorem scanToken_assigned : scanToken goal (' ' :: (value.text ++ ';' :: tail)) =
    .ok (lexeme ⟨value.text ++ ';' :: tail, false⟩ (.word (keywordOf? value.root))
      (value.linkText ++ ';' :: tail) value.root false) :=
  scanToken_value hroot rfl (endsName_cons (by decide) (by decide)) rfl rfl

include hflags hwidth

/-- The value of an assignment or a declaration, behind the equals sign. -/
theorem readsIf_assigned : Parser.assignment.ReadsIf value.Writable
    (ruleContext goal width flags (depth + 8)) (' ' :: (value.text ++ ';' :: tail)) value.tree
    (';' :: tail) := by
  have hends : EndsName (';' :: tail) := endsName_cons (by decide) (by decide)
  exact readsIf_expression hroot (scanToken_assigned hroot) hends rfl rfl nofun hflags (by omega)

/-- The value is assigned to a member of the exports. -/
theorem readsIf_assignmentTail {exported : Name} {startsAsync : Bool} :
    (Parser.assignmentTail startsAsync (exportMember exported).tree).ReadsIf value.Writable
      (ruleContext goal width flags (depth + 8)) (" = ".toList ++ (value.text ++ ';' :: tail))
      (.mk (.assign none) [(exportMember exported).tree, value.tree]) (';' :: tail) := by
  have hassignable : (Parser.assignable (exportMember exported).tree).Reads
      (ruleContext goal width flags (depth + 8)) (" = ".toList ++ (value.text ++ ';' :: tail))
      (exportMember exported).tree (" = ".toList ++ (value.text ++ ';' :: tail)) := by
    have hsettled : (exportMember exported).tree.settled? .assignment =
        some (exportMember exported).tree := settled?_memberTree _ _
    unfold Parser.assignable
    rw [hsettled]
    exact .pure
  refine (Parser.Reads.peek (scanToken_equals _)).readsIf_bind (hassignable.readsIf_bind ?_)
  refine (Parser.Reads.advance (scanToken_equals _) (scanToken_assigned hroot)).readsIf_bind ?_
  exact (readsIf_assigned hroot hflags hwidth).bind_reads .pure

/-- The assignment to a member of the exports is an expression. -/
theorem readsIf_assignment {exported : Name} {newline : Bool}
    (hfirst : scanToken goal chars = .ok (lexeme ⟨(exportMember exported).text ++
      (" = ".toList ++ (value.text ++ ';' :: tail)), newline⟩ (.word none)
      ((exportMember exported).linkText ++ (" = ".toList ++ (value.text ++ ';' :: tail)))
      exportsObject false)) :
    Parser.assignment.ReadsIf ((exportMember exported).Writable ∧ value.Writable)
      (ruleContext goal width flags (depth + 9)) chars
      (.mk (.assign none) [(exportMember exported).tree, value.tree]) (';' :: tail) := by
  have hobject : Bindable (exportMember exported).root := bindable_exports
  have hwide : (exportMember exported).linkCount < width :=
    Nat.lt_of_le_of_lt (Nat.le_add_left 1 _) hwidth
  have hequals : scanToken goal (" = ".toList ++ (value.text ++ ';' :: tail)) = .ok _ :=
    scanToken_equals _
  obtain ⟨second, hsecond, hword, harrow, -⟩ := ((exportMember exported).endsValue_linkText
    (endsValue_of_end (endsName_equals _) hequals rfl)).token
  obtain ⟨startsAsync, hgoes⟩ : ∃ startsAsync, Parser.assignmentRule.GoesOnAs
      (Parser.operators 0 >>= Parser.assignmentTail startsAsync)
      (ruleContext goal width flags (depth + 8)) chars :=
    Parser.assignmentRule_goesOnAs hfirst hobject.2 hsecond hword harrow hflags
  have hmember : (Parser.operators 0).ReadsIf (exportMember exported).Writable
      (ruleContext goal width flags (depth + 8)) chars (exportMember exported).tree
      (" = ".toList ++ (value.text ++ ';' :: tail)) :=
    readsIf_value_of_scanToken hobject (endsName_equals _) hequals rfl hflags hwide hfirst
  exact (hgoes.readsIf (hmember.bind (readsIf_assignmentTail hroot hflags hwidth))).call

variable (hnext : scanToken goal tail = .ok next)

include hnext

/-- An assignment to an export is read as this assignment wherever its first name is the next
token. -/
theorem readsIf_assign_of_scanToken {exported : Name} {newline : Bool}
    (hfirst : scanToken goal chars = .ok (lexeme ⟨(exportMember exported).text ++
      (" = ".toList ++ (value.text ++ ';' :: tail)), newline⟩ (.word none)
      ((exportMember exported).linkText ++ (" = ".toList ++ (value.text ++ ';' :: tail)))
      exportsObject false)) :
    (Parser.statement .list).ReadsIf (Writable exported ∧ value.Writable)
      (ruleContext goal width flags (depth + 10)) chars (assignTree exported value) tail := by
  obtain ⟨second, hsecond, hword, -, hcolon⟩ := ((exportMember exported).endsValue_linkText
    (endsValue_of_end (endsName_equals (value.text ++ ';' :: tail)) (scanToken_equals _) rfl)).token
  have hsloppy : Flags.Sloppy { flags with allowIn := true } := ⟨hflags.await, hflags.yield⟩
  have hstatement : Parser.expressionStatement.ReadsIf
      ((exportMember exported).Writable ∧ value.Writable) (ruleContext goal width flags (depth + 9))
      chars (assignTree exported value) tail :=
    .expressionStatement (readsIf_assignment hroot hsloppy hwidth hfirst) (scanToken_semicolon _)
      rfl hnext
  have hrule : (Parser.statementRule .list).ReadsIf _ _ _ _ _ :=
    (Parser.statementRule_goesOnAs hfirst rfl hsecond hword hcolon).readsIf hstatement
  exact hrule.call.of_iff (by simp [exportMember, Value.Writable])

/-- **An assignment to an export is read as this assignment**, if its names are written as what they
are. -/
theorem readsIf_assign {exported : Name}
    (hchars : scanToken goal chars = scanToken goal (assignExport exported value.text ++ tail)) :
    (Parser.statement .list).ReadsIf (Writable exported ∧ value.Writable)
      (ruleContext goal width flags (depth + 10)) chars (assignTree exported value) tail :=
  readsIf_assign_of_scanToken hroot hflags hwidth hnext (scanToken_assignExport hchars)

section Declare

variable {target : Target} (hnames : ∀ name ∈ target.names, Bindable name)
  (hsize : target.size ≤ width)

include hnames hsize

/-- A declaration of a constant is read as this declaration wherever its keyword is the next
token. -/
theorem readsIf_declare_of_scanToken {newline : Bool}
    (hconst : scanToken goal chars = .ok (lexeme
      ⟨"const ".toList ++ (target.text ++ (" = ".toList ++ (value.text ++ ';' :: tail))), newline⟩
      (.word (some .const_)) (' ' :: (target.text ++ (" = ".toList ++ (value.text ++ ';' :: tail))))
      "const".toList false)) :
    (Parser.statement .list).ReadsIf (target.Writable ∧ value.Writable)
      (ruleContext goal width flags (depth + 9)) chars (declareTree target value) tail := by
  have hblank : scanToken goal
      (' ' :: (target.text ++ (" = ".toList ++ (value.text ++ ';' :: tail)))) =
      scanToken goal (target.text ++ (" = ".toList ++ (value.text ++ ';' :: tail))) := rfl
  obtain ⟨second, hsecond⟩ := exists_scanToken_target hnames hblank (endsName_equals _)
  have hbinding : Parser.binding.ReadsIf target.Writable (ruleContext goal width flags (depth + 8))
      (' ' :: (target.text ++ (" = ".toList ++ (value.text ++ ';' :: tail)))) target.tree
      (" = ".toList ++ (value.text ++ ';' :: tail)) :=
    readsIf_target hnames hflags hsize hblank (endsName_equals _) (scanToken_equals _)
  have hdeclarator : Parser.declarator.ReadsIf (target.Writable ∧ value.Writable)
      (ruleContext goal width flags (depth + 8))
      (' ' :: (target.text ++ (" = ".toList ++ (value.text ++ ';' :: tail))))
      (.mk .declarator [target.tree, value.tree]) (';' :: tail) :=
    .declarator hbinding (scanToken_equals _) rfl (scanToken_assigned hroot)
      (readsIf_assigned hroot hflags hwidth)
  have hrule : (Parser.statementRule .list).ReadsIf (target.Writable ∧ value.Writable)
      (ruleContext goal width flags (depth + 8)) chars (declareTree target value) tail := by
    refine (Parser.Reads.peek hconst).readsIf_bind ?_
    show (Parser.variableStatement .constant).ReadsIf _ _ _ _ _
    exact .constantStatement hconst rfl hsecond hdeclarator value.kind_tree_ne_absent
      (scanToken_semicolon _) rfl hnext
  exact hrule.call

/-- **A declaration of a constant is read as this declaration**, if its names are written as what
they are. -/
theorem readsIf_declare
    (hchars : scanToken goal chars = scanToken goal (constant target.text value.text ++ tail)) :
    (Parser.statement .list).ReadsIf (target.Writable ∧ value.Writable)
      (ruleContext goal width flags (depth + 9)) chars (declareTree target value) tail :=
  readsIf_declare_of_scanToken hroot hflags hwidth hnext hnames hsize (scanToken_constant hchars)

end Declare

end Statement

/-! ### The names in linked code -/

/-- Names of characters of the first block are written as what they are. -/
theorem writable_of_ascii {name : Name} (h : ∀ c ∈ name, c.toNat < 0x80) : Writable name := by
  intro hplain
  cases name with
  | nil => cases hplain
  | cons c cs =>
    obtain ⟨hc, hcs⟩ := Bool.and_eq_true_iff.mp hplain
    obtain ⟨hfirst, hrest⟩ := List.forall_mem_cons.mp h
    constructor
    · by_contra hstart
      exact (stray_of_start hc (Bool.eq_false_iff.mpr hstart)).1 hfirst
    · intro d hd
      by_contra hpart
      exact (stray_of_part (List.all_eq_true.mp hcs d hd) (Bool.eq_false_iff.mpr hpart)).1
        (hrest d hd)

/-- The context of a rule in the body of a factory. -/
def bodyContext (width depth : Nat) : Context :=
  ruleContext .script width Parser.Reads.bodyFlags depth

/-- What may be said of the names in linked code in front of a token: where their local names can be
bound, members, patterns, assignments and declarations are read as what they are meant to be if and
only if no name is wrongly left without quotes. -/
structure NamesWritten (width depth : Nat) (rest : List Char) (next : Lexeme) : Prop where
  member (object : Value) (name : Name) (hroot : Bindable object.root) (hrest : EndsName rest)
    (hend : next.token.kind.endsOperand) (hwidth : object.linkCount + 1 < width) :
    (Parser.operators 0).ReadsExactlyIf (object.Writable ∧ Writable name)
      (bodyContext width (depth + 7)) (Linking.member object.text name ++ rest)
      (memberTree object.tree name) rest
  pattern (entries : List ImportedName) (hlocal : ∀ entry ∈ entries, Bindable entry.localName)
    (hwidth : entries.length ≤ width) :
    Parser.binding.ReadsExactlyIf (∀ entry ∈ entries, EntryWritable entry)
      (bodyContext width (depth + 2)) (destructuring entries ++ rest) (patternTree entries) rest
  assign (exported : Name) (value : Value) (hroot : Bindable value.root)
    (hwidth : value.linkCount + 1 < width) :
    (Parser.statement .list).ReadsExactlyIf (Writable exported ∧ value.Writable)
      (bodyContext width (depth + 10)) ((Insertion.assign exported value).text ++ rest)
      (assignTree exported value) rest
  declare (target : Target) (value : Value) (hnames : ∀ name ∈ target.names, Bindable name)
    (hroot : Bindable value.root) (hsize : target.size ≤ width)
    (hwidth : value.linkCount + 1 < width) :
    (Parser.statement .list).ReadsExactlyIf (target.Writable ∧ value.Writable)
      (bodyContext width (depth + 9)) ((Insertion.declare target value).text ++ rest)
      (declareTree target value) rest
  ascii (name : Name) (h : ∀ c ∈ name, c.toNat < 0x80) : Writable name

/-- **Linked code means the names that it writes**, unless it wrongly leaves one without quotes;
then it cannot be read. -/
theorem namesWritten (hnext : scanToken .script rest = .ok next) :
    NamesWritten width depth rest next where
  member object name hroot hrest hend hwidth := by
    have hmember : Bindable (Value.member object name).root := hroot
    exact ⟨⟨_, scanToken_value hmember rfl hrest hnext hend⟩,
      readsIf_value hmember rfl hrest hnext hend ⟨rfl, rfl⟩ hwidth⟩
  pattern _ hlocal hwidth :=
    ⟨⟨_, scanToken_destructuring rfl⟩, readsIf_pattern hlocal ⟨rfl, rfl⟩ rfl hwidth hnext⟩
  assign _ _ hroot hwidth :=
    ⟨⟨_, scanToken_assignExport rfl⟩, readsIf_assign hroot ⟨rfl, rfl⟩ hwidth hnext rfl⟩
  declare _ _ hnames hroot hsize hwidth :=
    ⟨⟨_, scanToken_constant rfl⟩, readsIf_declare hroot ⟨rfl, rfl⟩ hwidth hnext hnames hsize rfl⟩
  ascii _ := writable_of_ascii

/-- A letter and a number that no name contains. -/
def squared : Name :=
  ['b', '²']

theorem not_writable_squared : ¬Writable squared := by
  have hplain : isPlainName squared := by decide +kernel
  have hsquare : isNamePart '²' = false := by decide +kernel
  intro h
  cases hsquare.symm.trans ((h hplain).2 '²' (by decide))

/-- The member of the exports under this name cannot be read, and members under others can. -/
theorem namesWritten_exports :
    (Parser.operators 0).Fails (bodyContext 2 7) "exports.b²;".toList ∧
      (Parser.operators 0).Reads (bodyContext 2 7) "exports.b2;".toList
        (.mk .access [nameTree exportsObject, .mk (.propertyName ['b', '2']) []]) ";".toList := by
  have hends : EndsName ";".toList := endsName_cons (by decide) (by decide)
  have hwritten : NamesWritten 2 0 ";".toList _ := namesWritten rfl
  have hmember (name : Name) : (Parser.operators 0).ReadsExactlyIf
      ((Value.name exportsObject).Writable ∧ Writable name) (bodyContext 2 7)
      (member exportsObject name ++ ";".toList) (memberTree (nameTree exportsObject) name)
      ";".toList :=
    hwritten.member (.name exportsObject) name bindable_exports hends rfl (by decide)
  have hsquared : member exportsObject squared ++ ";".toList = "exports.b²;".toList := by
    decide +kernel
  have hascii : Writable ['b', '2'] := hwritten.ascii _ (by simp)
  constructor
  · rw [← hsquared]
    exact (hmember squared).readsIf.2 fun h => not_writable_squared h.2
  · exact (hmember ['b', '2']).readsIf.1 ⟨trivial, hascii⟩

/-- A module that exports a constant under a name in quotes. -/
def exportUnder (name : String) : String :=
  "const a = 1;\nexport \x7b a as \"" ++ name ++ "\" \x7d;\n"

/-- **There are names with which a module is refused**, and accepted with others in their place. -/
theorem exists_name_not_written : ∃ name : String, ¬Writable name.toList ∧
    analyze (exportUnder name) = .error (.unlinkable .unexpectedCharacter) ∧
    analyze (exportUnder "b2") = .ok ⟨[], "const a = 1;\n\nexports.b2 = a;\n"⟩ ∧
    analyze (exportUnder "b-2") = .ok ⟨[], "const a = 1;\n\nexports[\"b-2\"] = a;\n"⟩ :=
  ⟨String.ofList squared, not_writable_squared, by decide +kernel, by decide +kernel,
    by decide +kernel⟩

end ModuleBundler.Linking
