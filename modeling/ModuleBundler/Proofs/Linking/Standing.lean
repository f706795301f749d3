import ModuleBundler.Proofs.Linking.Body

/-!
# Inserted statements wherever they stand

Each statement that linking inserts ends itself: wherever it stands in a body, it is read as what it
is meant to be, up to its own semicolon. What stands behind it never belongs to it.

## Main definitions

* `Insertion.tree` — what an inserted statement is read as.
* `Insertion.IsWhole`, `Insertion.Writable` — statements whose names can be bound, and those whose
  names are written as what they are.

## Main results

* `Insertion.standsIf` — inserted statements stand wherever they are put.
-/

namespace ModuleBundler.Linking

open Script Text

variable {lead rest tail : List Char} {value : Value} {target : Target} {exported specifier : Name}
  {width depth : Nat}

/-! ### Assignments and declarations -/

theorem exists_scanToken_value_behind (hlead : Blank lead) (hroot : Bindable value.root)
    (hends : EndsName (value.linkText ++ rest)) :
    ∃ newline, scanToken .script (lead ++ (value.text ++ rest)) =
      .ok (lexeme ⟨value.text ++ rest, newline⟩ (.word (keywordOf? value.root))
        (value.linkText ++ rest) value.root false) := by
  rw [value.text_eq, List.append_assoc]
  exact hlead.exists_scanToken_word hroot.1 hends

theorem endsName_exportMember (tail : List Char) :
    EndsName ((exportMember exported).linkText ++ (" = ".toList ++ tail)) := by
  have hequals : scanToken .script (" = ".toList ++ tail) = .ok _ := scanToken_equals tail
  exact ((exportMember exported).endsValue_linkText
    (endsValue_of_end (endsName_equals tail) hequals rfl)).endsName

/-- The first token of an assignment to an export, behind blanks. -/
theorem exists_scanToken_assign (hlead : Blank lead) (exported value tail : List Char) :
    ∃ newline, scanToken .script (lead ++ (assignExport exported value ++ tail)) =
      .ok (lexeme ⟨(exportMember exported).text ++ (" = ".toList ++ (value ++ ';' :: tail)),
        newline⟩ (.word none)
        ((exportMember exported).linkText ++ (" = ".toList ++ (value ++ ';' :: tail)))
        exportsObject false) := by
  have hobject : Bindable (exportMember exported).root := bindable_exports
  rw [assignExport_append]
  exact exists_scanToken_value_behind hlead hobject (endsName_exportMember _)

theorem Value.linkCount_le_length (value : Value) : value.linkCount ≤ value.text.length := by
  induction value with
  | name | temporary => exact Nat.zero_le _
  | required specifier => exact Nat.succ_le_of_lt (Nat.zero_lt_succ _)
  | member object property ih =>
    show object.linkCount + 1 ≤ (Linking.member object.text property).length
    unfold Linking.member
    split <;> simp <;> omega

theorem length_lt_length_assignExport (exported value : List Char) :
    value.length < (assignExport exported value).length := by
  unfold assignExport
  simp only [List.length_append, List.length_singleton]
  exact Nat.lt_succ_of_le (Nat.le_add_left ..)

/-- An assignment to an export stands wherever it is put. -/
theorem standsIf_assign (hroot : Bindable value.root) :
    StandsIf Fresh (Linking.Writable exported ∧ value.Writable)
      (Insertion.assign exported value).text (assignTree exported value) := by
  refine standsIf_of_kind (.word none) rfl (fun tail hlead => ?_)
    fun {_ tail _ depth} hlead htail hwidth hdepth => ?_
  · obtain ⟨newline, hfirst⟩ := exists_scanToken_assign hlead exported value.text tail
    exact firstKind?_eq_some.mpr ⟨_, hfirst, rfl⟩
  · obtain ⟨newline, hfirst⟩ := exists_scanToken_assign hlead exported value.text tail
    obtain ⟨next, hnext, -⟩ := htail
    obtain ⟨depth, rfl⟩ : ∃ n, depth = n + 10 := ⟨depth - 10, by omega⟩
    have hcount := value.linkCount_le_length
    have hlength : value.text.length < (Insertion.assign exported value).text.length :=
      length_lt_length_assignExport ..
    exact readsIf_assign_of_scanToken hroot ⟨rfl, rfl⟩ (by omega) hnext hfirst

/-- The first token of a declaration, behind blanks. -/
theorem exists_scanToken_declare (hlead : Blank lead) (target value tail : List Char) :
    ∃ newline, scanToken .script (lead ++ (constant target value ++ tail)) =
      .ok (lexeme
        ⟨"const ".toList ++ (target ++ (" = ".toList ++ (value ++ ';' :: tail))), newline⟩
        (.word (some .const_)) (' ' :: (target ++ (" = ".toList ++ (value ++ ';' :: tail))))
        "const".toList false) := by
  rw [constant_append]
  exact hlead.exists_scanToken fun _ => rfl

theorem length_lt_length_constant (target value : List Char) :
    target.length + value.length < (constant target value).length := by
  unfold constant
  simp only [List.length_append, List.length_singleton]
  generalize "const ".toList.length = front
  generalize " = ".toList.length = middle
  omega

theorem length_le_length_intercalate (separator : List Char) (texts : List (List Char)) :
    texts.length * separator.length ≤
      (List.intercalate separator texts).length + separator.length := by
  induction texts with
  | nil => simp
  | cons text texts ih =>
    cases texts with
    | nil => simp
    | cons text' texts =>
      have hcons : List.intercalate separator (text :: text' :: texts) =
          text ++ (separator ++ List.intercalate separator (text' :: texts)) := by simp
      rw [hcons, List.length_append, List.length_append, List.length_cons, Nat.add_mul]
      omega

theorem Target.size_le_length (target : Target) : target.size ≤ target.text.length + 1 := by
  cases target with
  | name | temporary => exact Nat.le_add_left ..
  | pattern entries =>
    have hcount := length_le_length_intercalate ", ".toList (entries.map destructured)
    rw [List.length_map, show ", ".toList.length = 2 by decide] at hcount
    show entries.length ≤ (destructuring entries).length + 1
    rw [destructuring, List.length_append, List.length_append]
    omega

/-- A declaration of a constant stands wherever it is put. -/
theorem standsIf_declare (hnames : ∀ name ∈ target.names, Bindable name)
    (hroot : Bindable value.root) :
    StandsIf Fresh (target.Writable ∧ value.Writable) (Insertion.declare target value).text
      (declareTree target value) := by
  refine standsIf_of_kind (.word (some .const_)) rfl (fun tail hlead => ?_)
    fun {_ tail _ depth} hlead htail hwidth hdepth => ?_
  · obtain ⟨newline, hfirst⟩ := exists_scanToken_declare hlead target.text value.text tail
    exact firstKind?_eq_some.mpr ⟨_, hfirst, rfl⟩
  · obtain ⟨newline, hfirst⟩ := exists_scanToken_declare hlead target.text value.text tail
    obtain ⟨next, hnext, -⟩ := htail
    obtain ⟨depth, rfl⟩ : ∃ n, depth = n + 9 := ⟨depth - 9, by omega⟩
    have hcount := value.linkCount_le_length
    have hsize := target.size_le_length
    have hlength : target.text.length + value.text.length <
        (Insertion.declare target value).text.length := length_lt_length_constant ..
    exact readsIf_declare_of_scanToken hroot ⟨rfl, rfl⟩ (by omega) hnext hnames (by omega) hfirst

/-! ### Values as statements -/

theorem endsName_semicolon (tail : List Char) : EndsName (';' :: tail) :=
  endsName_cons (by decide) (by decide)

theorem evaluate_append (value : Value) (tail : List Char) :
    (Insertion.evaluate value).text ++ tail = value.text ++ (';' :: tail) := by
  simp only [Insertion.text, List.append_assoc, List.singleton_append]

/-- The first token of a value as a statement, behind blanks. -/
theorem exists_scanToken_evaluate (hlead : Blank lead) (hroot : Bindable value.root)
    (tail : List Char) :
    ∃ newline, scanToken .script (lead ++ ((Insertion.evaluate value).text ++ tail)) =
      .ok (lexeme ⟨value.text ++ (';' :: tail), newline⟩ (.word (keywordOf? value.root))
        (value.linkText ++ (';' :: tail)) value.root false) := by
  have hsemicolon : scanToken .script (';' :: tail) = .ok _ := scanToken_semicolon tail
  have hends := value.endsValue_linkText
    (endsValue_of_end (endsName_semicolon tail) hsemicolon rfl)
  rw [evaluate_append]
  exact exists_scanToken_value_behind hlead hroot hends.endsName

/-- A value that starts with no keyword stands as a statement wherever it is put. -/
theorem standsIf_evaluate (hroot : Bindable value.root) (hword : keywordOf? value.root = none) :
    StandsIf Fresh value.Writable (Insertion.evaluate value).text
      (.mk .expressionStatement [value.tree]) := by
  refine standsIf_of_kind (.word none) rfl (fun tail hlead => ?_)
    fun {_ tail width depth} hlead htail hwidth hdepth => ?_
  · obtain ⟨newline, hfirst⟩ := exists_scanToken_evaluate hlead hroot tail
    rw [hword] at hfirst
    exact firstKind?_eq_some.mpr ⟨_, hfirst, rfl⟩
  · obtain ⟨newline, hfirst⟩ := exists_scanToken_evaluate hlead hroot tail
    obtain ⟨next, hnext, -⟩ := htail
    have hsemicolon : scanToken .script (';' :: tail) = .ok _ := scanToken_semicolon tail
    obtain ⟨second, hsecond, hnoWord, -, hcolon⟩ := (value.endsValue_linkText
      (endsValue_of_end (endsName_semicolon tail) hsemicolon rfl)).token
    have hcount := value.linkCount_le_length
    have hlength : (Insertion.evaluate value).text.length = value.text.length + 1 :=
      List.length_append
    obtain ⟨depth, rfl⟩ : ∃ n, depth = n + 9 := ⟨depth - 9, by omega⟩
    have hexpression : Parser.assignment.ReadsIf value.Writable
        (ruleContext .script width Parser.Reads.bodyFlags (depth + 8)) _ value.tree (';' :: tail) :=
      readsIf_expression hroot hfirst (endsName_semicolon tail) hsemicolon rfl nofun ⟨rfl, rfl⟩
        (by omega)
    have hstatement : Parser.expressionStatement.ReadsIf value.Writable
        (bodyContext width (depth + 8)) _ (.mk .expressionStatement [value.tree]) tail :=
      .expressionStatement hexpression hsemicolon rfl hnext
    have hname : (TokenKind.word (keywordOf? value.root)) = .word none := by rw [hword]
    have hrule : (Parser.statementRule .list).ReadsIf value.Writable
        (bodyContext width (depth + 8)) _ (.mk .expressionStatement [value.tree]) tail :=
      (Parser.statementRule_goesOnAs hfirst hname hsecond hnoWord hcolon).readsIf hstatement
    exact hrule.call

/-! ### Copies of all exports -/

/-- What stands behind the keyword of the function that copies exports. -/
def copier : List Char :=
  "(m) \x7b for (var k in m) if (k !== \"default\") exports[k] = m[k]; \x7d".toList

/-- The function that copies exports, as a tree: a loop over the keys, with an assignment for each
key but that of the default export. -/
def copierTree : Node :=
  let key := nameTree ['k']
  let other := nameTree ['m']
  let isOther : Node :=
    .mk (.binary .notIdentical) [key, Parser.textTree Script.defaultName]
  let copies : Node := .mk .expressionStatement [.mk (.assign none)
    [.mk .index [nameTree exportsObject, key], .mk .index [other, key]]]
  .mk (.function Parser.plainForm) [.absent, .mk .parameters [other], .mk .functionBody
    [.mk .forInStatement [.mk (.variableList .varying) [.mk .declarator [key, .absent]], other,
      .mk .ifStatement [isOther, copies, .absent]]]]

/-- The copy of all exports of a module, as a tree. -/
def copyAllTree (specifier : Name) : Node :=
  .mk .expressionStatement [.mk .call [.mk (.parenthesized false) [copierTree],
    .mk (.arguments false) [(Value.required specifier).tree]]]

theorem copyAllText_append (specifier : Name) (tail : List Char) :
    copyAllText specifier ++ tail = '(' :: (functionText copier ++ (")(".toList ++
      ((Value.required specifier).text ++ (");".toList ++ tail)))) := by
  unfold copyAllText
  rewrite [show
    "(function (m) \x7b for (var k in m) if (k !== \"default\") exports[k] = m[k]; \x7d)(".toList =
      '(' :: functionText copier ++ ")(".toList by decide]
  simp only [Value.text, List.append_assoc, List.cons_append]

/-- The cursor at the start of this function. -/
def copierCursor : Cursor :=
  ⟨lexeme ⟨functionText copier, false⟩ (.word (some .function_)) (' ' :: copier)
    "function".toList false, functionText copier⟩

theorem exists_run_copier : ∃ last,
    (Parser.functionRule Parser.functionName).run
      (ruleContext .script 73 Parser.Reads.bodyFlags 600) copierCursor = .ok (copierTree, last) ∧
      copierCursor.extent last = (functionText copier).length := by
  have hrun : ((Parser.functionRule Parser.functionName).withExtent.run
      (ruleContext .script 73 Parser.Reads.bodyFlags 600) copierCursor).toOption.map Prod.fst =
        some (copierTree, (functionText copier).length) := by decide +kernel
  obtain ⟨⟨⟨node, length⟩, last⟩, hok, hpair⟩ := Option.map_eq_some_iff.mp hrun
  obtain ⟨rfl, rfl⟩ := Prod.mk.inj hpair
  obtain ⟨hrun, hextent⟩ := Parser.withExtent_eq_ok (Except.toOption_eq_some_iff.mp hok)
  exact ⟨last, hrun, hextent.symm⟩

theorem bindable_require (specifier : Name) : Bindable (Value.required specifier).root :=
  ⟨⟨by decide, List.all_eq_true.mp (by decide)⟩, rfl⟩

/-- The function that copies exports is shorter than the statement that calls it. -/
theorem length_copier_add_le (specifier : Name) :
    (functionText copier).length = 73 ∧ 73 + 14 ≤ (copyAllText specifier).length := by
  have hlength := congrArg List.length (copyAllText_append specifier [])
  have hcopier : (functionText copier).length = 73 := by decide
  have hcall : ")(".toList.length = 2 := by decide
  have hend : ");".toList.length = 2 := by decide
  have hrequired : 9 ≤ (Value.required specifier).text.length := by
    have hname : "require(".toList.length = 8 := by decide
    show 9 ≤ (require specifier).length
    unfold require
    simp only [List.length_append, List.length_singleton, hname]
    omega
  simp only [List.append_nil, List.length_cons, List.length_append, hcall, hend] at hlength
  omega

/-- The function in parentheses is an operand. -/
theorem reads_copier {chars : List Char} {first : Lexeme}
    (hfirst : scanToken .script chars = .ok first) (hopen : first.token.kind = .punct .openParen)
    (hrest : first.rest = functionText copier ++ (")(".toList ++ tail)) (hwidth : 73 ≤ width)
    (hdepth : 600 ≤ depth) :
    Parser.primary.Reads (ruleContext .script width Parser.Reads.bodyFlags (depth + 4)) chars
      (.mk (.parenthesized false) [copierTree]) ('(' :: tail) := by
  have hfunction : scanToken .script first.rest = .ok (lexeme
      ⟨functionText copier ++ (")(".toList ++ tail), false⟩ (.word (some .function_))
      (' ' :: copier ++ (")(".toList ++ tail)) "function".toList false) := by
    rw [hrest]
    rfl
  have hclose : scanToken .script (")(".toList ++ tail) = .ok (lexeme ⟨")(".toList ++ tail, false⟩
      (.punct .closeParen) ('(' :: tail) [] false) := rfl
  have hclosed : EndsClosed copier := by decide
  obtain ⟨last, hrun, hextent⟩ := exists_run_copier
  have hrule : (Parser.functionRule Parser.functionName).Reads
      (ruleContext .script width Parser.Reads.bodyFlags depth) first.rest copierTree
      (")(".toList ++ tail) :=
    reads_function_of_run ⟨rfl, rfl⟩ hrun hextent hclosed hfunction rfl rfl rfl hclose hwidth hdepth
  have hprimary : Parser.primary.Reads (ruleContext .script width Parser.Reads.bodyFlags depth)
      first.rest copierTree (")(".toList ++ tail) := .bind (.peek hfunction) hrule
  have hitem : Parser.assignment.Reads
      (ruleContext .script width Parser.Reads.bodyFlags (depth + 4)) first.rest copierTree
      (")(".toList ++ tail) :=
    .call (.assignmentRule_of_primary hfunction rfl
      (.atNamedArrow_false hfunction (.atIdentifier_of_reserved hfunction rfl rfl)) hprimary hclose
      rfl nofun)
  exact .parenthesized hfirst hopen hfunction ⟨nofun, nofun⟩ hitem rfl hclose rfl rfl (by omega)

/-- A module in parentheses, behind the function that copies its exports. -/
theorem reads_copied (specifier : Name) (tail : List Char) (hwidth : 2 ≤ width) :
    Parser.callArguments.Reads
      (ruleContext .script width Parser.Reads.bodyFlags (depth + 8))
      ('(' :: ((Value.required specifier).text ++ (");".toList ++ tail)))
      (.mk (.arguments false) [(Value.required specifier).tree]) (';' :: tail) := by
  have hroot := bindable_require specifier
  have hends : EndsName (");".toList ++ tail) := endsName_cons (by decide) (by decide)
  have hclose : scanToken .script (");".toList ++ tail) = .ok (lexeme ⟨");".toList ++ tail, false⟩
      (.punct .closeParen) (';' :: tail) [] false) := rfl
  have hvalue : scanToken .script ((Value.required specifier).text ++ (");".toList ++ tail)) =
      .ok _ := scanToken_value hroot rfl hends hclose rfl
  have hread : Parser.assignment.ReadsIf (Value.required specifier).Writable
      (ruleContext .script width Parser.Reads.bodyFlags (depth + 8)) _ _ (");".toList ++ tail) :=
    readsIf_expression hroot hvalue hends hclose rfl nofun ⟨rfl, rfl⟩ hwidth
  have hitem : Parser.argument.Reads
      (ruleContext .script width Parser.Reads.bodyFlags (depth + 8))
      ((Value.required specifier).text ++ (");".toList ++ tail)) (Value.required specifier).tree
      (");".toList ++ tail) :=
    .bind (.eatPunct_of_ne hvalue nofun) (.ite_neg Bool.false_ne_true (hread.1 trivial))
  have hlist : Parser.Separated .closeParen Parser.argument
      (ruleContext .script width Parser.Reads.bodyFlags (depth + 8))
      ((Value.required specifier).text ++ (");".toList ++ tail)) [(Value.required specifier).tree]
      (");".toList ++ tail) := .last hvalue nofun nofun hitem hclose rfl
  have hcount : 1 ≤ width := by omega
  exact .withFlags (.bind (.expectPunct rfl rfl hvalue)
    (.bind (hlist.reads (by decide) hcount) (.bind (.expectPunct hclose rfl rfl) .pure)))

/-- The first token of a copy of all exports, behind blanks. -/
theorem exists_scanToken_copyAll (hlead : Blank lead) (specifier : Name) (tail : List Char) :
    ∃ newline, scanToken .script (lead ++ (copyAllText specifier ++ tail)) =
      .ok (lexeme ⟨'(' :: (functionText copier ++ (")(".toList ++
        ((Value.required specifier).text ++ (");".toList ++ tail)))), newline⟩ (.punct .openParen)
        (functionText copier ++ (")(".toList ++
          ((Value.required specifier).text ++ (");".toList ++ tail)))) [] false) := by
  rw [copyAllText_append]
  exact hlead.exists_scanToken fun _ => rfl

/-- A copy of all exports stands wherever it is put. -/
theorem standsIf_copyAll (specifier : Name) :
    StandsIf Fresh True (copyAllText specifier) (copyAllTree specifier) := by
  refine standsIf_of_kind (.punct .openParen) rfl (fun tail hlead => ?_)
    fun {_ tail width depth} hlead htail hwidth hdepth => ?_
  · obtain ⟨newline, hfirst⟩ := exists_scanToken_copyAll hlead specifier tail
    exact firstKind?_eq_some.mpr ⟨_, hfirst, rfl⟩
  · obtain ⟨newline, hfirst⟩ := exists_scanToken_copyAll hlead specifier tail
    obtain ⟨next, hnext, -⟩ := htail
    obtain ⟨-, hlength⟩ := length_copier_add_le specifier
    obtain ⟨depth, rfl⟩ : ∃ n, depth = n + 613 := ⟨depth - 613, by omega⟩
    have hcall : scanToken .script ('(' :: ((Value.required specifier).text ++
        (");".toList ++ tail))) = .ok (lexeme ⟨'(' :: ((Value.required specifier).text ++
          (");".toList ++ tail)), false⟩ (.punct .openParen) ((Value.required specifier).text ++
            (");".toList ++ tail)) [] false) := rfl
    have hsemicolon : scanToken .script (';' :: tail) = .ok _ := scanToken_semicolon tail
    have hcopier : Parser.primary.Reads
        (ruleContext .script width Parser.Reads.bodyFlags (depth + 608)) _
        (.mk (.parenthesized false) [copierTree])
        ('(' :: ((Value.required specifier).text ++ (");".toList ++ tail))) :=
      reads_copier hfirst rfl rfl (by omega) (Nat.le_add_left 600 (depth + 4))
    have harguments : Parser.callArguments.Reads
        (ruleContext .script width Parser.Reads.bodyFlags (depth + 608)) _ _ (';' :: tail) :=
      reads_copied specifier tail (by omega)
    have hchain : Parser.Chain (ruleContext .script width Parser.Reads.bodyFlags (depth + 608))
        (.mk (.parenthesized false) [copierTree]) _ _ (';' :: tail) 1 :=
      .call hcall rfl harguments (.refl _ _)
    have hexpression : Parser.assignment.Reads
        (ruleContext .script width Parser.Reads.bodyFlags (depth + 612)) _ _ (';' :: tail) :=
      .call (.assignmentRule hfirst nofun nofun
        (.atNamedArrow_false hfirst (.atIdentifier_of_not_word hfirst nofun))
        (.operators_of_primary hfirst rfl hcopier
          (hchain.reads hsemicolon rfl (show 1 ≤ width by omega)) hsemicolon rfl)
        (.assignmentTail_of_end hsemicolon rfl nofun))
    have hstatement : (Parser.statement .list).Reads (bodyContext width (depth + 613)) _
        (copyAllTree specifier) tail :=
      .call (.bind (.peek hfirst) (.expressionStatement hexpression hsemicolon rfl hnext))
    exact ⟨fun _ => hstatement, fun hfalse => absurd trivial hfalse⟩

/-! ### All insertions -/

/-- What an insertion is read as, if it is a statement. -/
def Insertion.tree : Insertion → Node
  | evaluate value => .mk .expressionStatement [value.tree]
  | declare target value => declareTree target value
  | assign exported value => assignTree exported value
  | copyAll specifier => copyAllTree specifier
  | openDefault | closeDefault => .absent

/-- All names of an insertion are written as what they are. -/
def Insertion.Writable : Insertion → Prop
  | evaluate value => value.Writable
  | declare target value => target.Writable ∧ value.Writable
  | assign exported value => Linking.Writable exported ∧ value.Writable
  | copyAll _ | openDefault | closeDefault => True

/-- The insertion is a statement whose names can be bound. -/
def Insertion.IsWhole : Insertion → Prop
  | evaluate value => Bindable value.root ∧ keywordOf? value.root = none
  | declare target value => (∀ name ∈ target.names, Bindable name) ∧ Bindable value.root
  | assign _ value => Bindable value.root
  | copyAll _ => True
  | openDefault | closeDefault => False

/-- **A whole insertion stands wherever it is put**, if its names are written as what they are. -/
theorem Insertion.standsIf {insertion : Insertion} (h : insertion.IsWhole) :
    StandsIf Fresh insertion.Writable insertion.text insertion.tree := by
  cases insertion with
  | evaluate value => exact standsIf_evaluate h.1 h.2
  | declare target value => exact standsIf_declare h.1 h.2
  | assign exported value => exact standsIf_assign h
  | copyAll specifier => exact standsIf_copyAll specifier
  | openDefault | closeDefault => exact h.elim

end ModuleBundler.Linking
