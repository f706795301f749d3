import ModuleBundler.Linking.Insertion
import ModuleBundler.Proofs.Linking.Factory
import ModuleBundler.Proofs.Linking.Hygiene
import ModuleBundler.Proofs.Linking.Requires
import ModuleBundler.Proofs.Script.Links
import ModuleBundler.Proofs.Script.Names

/-!
# Names in linked code

The names of imports and exports may be any texts. Linked code writes them behind a point or in
front of a colon, in quotes or without. A name in quotes is read as this name, whatever characters
it contains. Without quotes it must be a name that can be written without escapes; if it contains a
letter or number that names cannot contain, the code cannot be read.

## Main definitions

* `Bindable`, `Writable` — names that can be bound, and that linked code writes as what they are.
* `Value.tree`, `patternTree` — what values and patterns are read as.

## Main results

* `stuck_of_not_writable` — a name that is wrongly left without quotes cannot be passed over.
* `readsIf_value`, `readsIf_pattern` — values and patterns are read as their trees, if and only if
  their names are written as what they are.
-/

namespace ModuleBundler.Linking

open Script Text

variable {goal : Goal} {width depth : Nat} {flags : Flags} {name chars rest : List Char}
  {value : Value} {next : Lexeme}

/-- A name that can be bound in the body of a function. -/
def Bindable (name : Name) : Prop :=
  IsIdentifierName name ∧ (TokenKind.word (keywordOf? name)).isIdentifier

/-- A name that is written without quotes only if it needs no escapes. -/
def Writable (name : Name) : Prop :=
  isPlainName name → IsIdentifierName name

/-! ### Names that cannot be written -/

theorem isPlainName_of_not_writable (h : ¬Writable name) : isPlainName name :=
  (Classical.not_imp.mp h).1

theorem stray_of_start {c : Char} (h : isAlphabetic c || c == '_' || c == '$')
    (hstart : isNameStart c = false) : ¬c.toNat < 0x80 ∧ isAlphanumeric c := by
  simp only [isNameStart, Bool.or_eq_false_iff, beq_eq_false_iff_ne] at hstart
  obtain ⟨⟨hidentifier, hdollar⟩, hlow⟩ := hstart
  have halphabetic : isAlphabetic c := by simpa [hdollar, hlow] using h
  refine ⟨fun hascii => ?_, by simp [isAlphanumeric, halphabetic]⟩
  simp only [isIdentifierStart, isAlphabetic, hascii, if_true] at hidentifier halphabetic
  cases hidentifier.symm.trans halphabetic

theorem stray_of_part {c : Char} (h : isAlphanumeric c || c == '_' || c == '$')
    (hpart : isNamePart c = false) : ¬c.toNat < 0x80 ∧ isAlphanumeric c := by
  have hlow : c ≠ '_' := by
    rintro rfl
    cases hpart
  simp only [isNamePart, Bool.or_eq_false_iff, beq_eq_false_iff_ne] at hpart
  obtain ⟨hidentifier, hdollar⟩ := hpart
  have halphanumeric : isAlphanumeric c := by simpa [hdollar, hlow] using h
  refine ⟨fun hascii => ?_, halphanumeric⟩
  simp only [isIdentifierPart, isAlphanumeric, isAlphabetic, isNumeric, hascii, if_true,
    Bool.or_eq_false_iff] at hidentifier halphanumeric
  cases hidentifier.1.symm.trans halphanumeric

/-- A text that is no part of a name has a longest front that is one. -/
theorem exists_front {cs : List Char} (h : ¬∀ c ∈ cs, isNamePart c) :
    ∃ front c back, cs = front ++ c :: back ∧ (∀ d ∈ front, isNamePart d) ∧
      isNamePart c = false := by
  induction cs with
  | nil => exact absurd nofun h
  | cons c cs ih =>
    cases hc : isNamePart c with
    | false => exact ⟨[], c, cs, rfl, nofun, hc⟩
    | true =>
      have hcs : ¬∀ d ∈ cs, isNamePart d := fun hcs => h (List.forall_mem_cons.mpr ⟨hc, hcs⟩)
      obtain ⟨front, d, back, rfl, hfront, hd⟩ := ih hcs
      exact ⟨c :: front, d, back, rfl, List.forall_mem_cons.mpr ⟨hc, hfront⟩, hd⟩

/-- **A name that is wrongly left without quotes cannot be passed over.** -/
theorem stuck_of_not_writable (h : ¬Writable name) : Parser.Stuck goal (name ++ rest) := by
  obtain ⟨hplain, hname⟩ := Classical.not_imp.mp h
  cases name with
  | nil => cases hplain
  | cons c cs =>
    obtain ⟨hc, hcs⟩ := Bool.and_eq_true_iff.mp hplain
    cases hstart : isNameStart c with
    | false =>
      obtain ⟨hascii, halphanumeric⟩ := stray_of_start hc hstart
      exact Parser.stuck_of_error (scanToken_stray hascii halphanumeric hstart)
    | true =>
      obtain ⟨front, d, back, rfl, hfront, hd⟩ := exists_front fun hpart => hname ⟨hstart, hpart⟩
      obtain ⟨hascii, halphanumeric⟩ := stray_of_part (List.all_eq_true.mp hcs d (by simp)) hd
      have hends : EndsName (d :: (back ++ rest)) := endsName_cons hd (by
        rintro rfl
        exact hascii (by decide))
      have hdstart : isNameStart d = false := by
        rw [Bool.eq_false_iff]
        exact fun hdstart => Bool.eq_false_iff.mp hd (isNamePart_of_isNameStart hdstart)
      have htext : c :: (front ++ d :: back) ++ rest = c :: front ++ d :: (back ++ rest) := by simp
      have hfrontName : IsIdentifierName (c :: front) := ⟨hstart, hfront⟩
      intro first hfirst
      rw [htext, scanToken_word hfrontName hends] at hfirst
      obtain rfl := Except.ok.inj hfirst
      exact ⟨⟨_, rfl⟩, _, scanToken_stray hascii halphanumeric hdstart⟩

/-! ### Members -/

/-- The member of an object under a name, as a tree. -/
def memberTree (object : Node) (name : Name) : Node :=
  if isPlainName name then .mk .access [object, .mk (.propertyName name) []]
  else .mk .index [object, Parser.textTree name]

theorem exists_cons_of_isPlainName (h : isPlainName name) :
    ∃ c cs, name = c :: cs ∧ c ≠ '.' ∧ c.isDigit = false := by
  cases name with
  | nil => cases h
  | cons c cs =>
    obtain ⟨hc, -⟩ := Bool.and_eq_true_iff.mp h
    refine ⟨c, cs, rfl, ?_, ?_⟩
    · rintro rfl
      cases hc
    · rw [Bool.eq_false_iff]
      intro hdigit
      obtain ⟨n, hn, rfl⟩ := exists_digitChar hdigit
      interval_cases n <;> cases hc

/-- A value ends in front of the text, and neither a word, an arrow nor a colon follows. -/
structure EndsValue (goal : Goal) (rest : List Char) : Prop where
  endsName : EndsName rest
  token : ∃ next, scanToken goal rest = .ok next ∧
    (∀ keyword, next.token.kind ≠ .word keyword) ∧ next.token.kind ≠ .punct .arrow ∧
      next.token.kind ≠ .punct .colon

theorem endsValue_of_end (hrest : EndsName rest) (hnext : scanToken goal rest = .ok next)
    (hend : next.token.kind.endsOperand) : EndsValue goal rest where
  endsName := hrest
  token := by
    refine ⟨next, hnext, ?_⟩
    unfold TokenKind.endsOperand at hend
    split at hend
    all_goals first | contradiction | next hkind => rw [hkind]; exact ⟨nofun, nofun, nofun⟩

theorem endsValue_accessText : EndsValue goal (accessText name ++ rest) := by
  unfold accessText
  split
  · next hplain =>
    obtain ⟨c, cs, rfl, hpoint, hdigit⟩ := exists_cons_of_isPlainName hplain
    exact ⟨endsName_cons (by decide) (by decide), _, scanToken_dot hpoint hdigit, nofun, nofun,
      nofun⟩
  · exact ⟨endsName_cons (by decide) (by decide), _, rfl, nofun, nofun, nofun⟩

section Chain

variable {object : Node} (hrest : EndsValue goal rest)

include hrest

/-- What stands behind an object names the member of the object. -/
theorem chain_accessText (h : Writable name) :
    Parser.Chain (ruleContext goal width flags (depth + 4)) object (accessText name ++ rest)
      (memberTree object name) rest 1 := by
  obtain ⟨next, hnext, -⟩ := hrest.token
  unfold accessText memberTree
  split
  · next hplain =>
    obtain ⟨c, cs, rfl, hpoint, hdigit⟩ := exists_cons_of_isPlainName hplain
    have hword : scanToken goal (c :: cs ++ rest) = .ok (lexeme ⟨c :: cs ++ rest, false⟩
        (.word (keywordOf? (c :: cs))) rest (c :: cs) false) :=
      scanToken_word (h hplain) hrest.endsName
    exact .access (scanToken_dot hpoint hdigit) rfl hword (.property_of_word hword rfl hnext)
      (.refl _ _)
  · have hopen : scanToken goal ('[' :: Quoted.encode name ++ [']'] ++ rest) =
        .ok (lexeme ⟨'[' :: Quoted.encode name ++ [']'] ++ rest, false⟩ (.punct .openBracket)
          (Quoted.encode name ++ [']'] ++ rest) [] false) := rfl
    refine .index hopen rfl ?_ (.refl _ _)
    rw [List.append_assoc, List.cons_append]
    exact .bracketed_of_text hnext

end Chain

/-- Where a name is wrongly left without quotes, there is a point in front of it, and no property
can be read behind the point. -/
theorem stuck_accessText (h : ¬Writable name) : ∃ next,
    scanToken goal (accessText name ++ rest) = .ok next ∧ next.token.kind = .punct .dot ∧
      Parser.Stuck goal next.rest := by
  have hplain := isPlainName_of_not_writable h
  have hstuck : Parser.Stuck goal (name ++ rest) := stuck_of_not_writable h
  unfold accessText
  rw [if_pos hplain]
  obtain ⟨c, cs, rfl, hpoint, hdigit⟩ := exists_cons_of_isPlainName hplain
  exact ⟨_, scanToken_dot hpoint hdigit, rfl, hstuck⟩

/-! ### Values -/

/-- The name that a value starts with. -/
def Value.root : Value → Name
  | .name localName => localName
  | .temporary index => Linking.temporary index
  | .required _ => requireFunction
  | .member object _ => object.root

/-- What stands behind this name. -/
def Value.linkText : Value → List Char
  | .name _ | .temporary _ => []
  | .required specifier => '(' :: (Quoted.encode specifier ++ [')'])
  | .member object property => object.linkText ++ accessText property

/-- A value as a tree. -/
def Value.tree : Value → Node
  | .name localName => nameTree localName
  | .temporary index => nameTree (Linking.temporary index)
  | .required specifier =>
    .mk .call [nameTree requireFunction, .mk (.arguments false) [Parser.textTree specifier]]
  | .member object property => memberTree object.tree property

/-- The number of calls and members of a value. -/
def Value.linkCount : Value → Nat
  | .name _ | .temporary _ => 0
  | .required _ => 1
  | .member object _ => object.linkCount + 1

/-- All members of a value have names that are written as what they are. -/
def Value.Writable : Value → Prop
  | .name _ | .temporary _ | .required _ => True
  | .member object property => object.Writable ∧ Linking.Writable property

theorem Value.text_eq (value : Value) : value.text = value.root ++ value.linkText := by
  induction value with
  | name | temporary => exact (List.append_nil _).symm
  | required => rfl
  | member object property ih =>
    show Linking.member object.text property = _
    rw [member_eq_append, ih, List.append_assoc]
    rfl

theorem Value.endsValue_linkText (value : Value) (hrest : EndsValue goal rest) :
    EndsValue goal (value.linkText ++ rest) := by
  induction value generalizing rest with
  | name | temporary => exact hrest
  | required => exact ⟨endsName_cons (by decide) (by decide), _, rfl, nofun, nofun, nofun⟩
  | member object property ih =>
    show EndsValue goal (object.linkText ++ accessText property ++ rest)
    rw [List.append_assoc]
    exact ih endsValue_accessText

/-- The members of a value follow each other behind its first name. -/
theorem Value.chain (h : value.Writable) (hrest : EndsValue goal rest) (hwidth : 1 ≤ width) :
    Parser.Chain (ruleContext goal width flags (depth + 4)) (nameTree value.root)
      (value.linkText ++ rest) value.tree rest value.linkCount := by
  induction value generalizing rest with
  | name | temporary => exact .refl _ _
  | required specifier =>
    obtain ⟨next, hnext, -⟩ := hrest.token
    have hopen : scanToken goal ('(' :: (Quoted.encode specifier ++ [')']) ++ rest) =
        .ok (lexeme ⟨'(' :: (Quoted.encode specifier ++ [')']) ++ rest, false⟩ (.punct .openParen)
          (Quoted.encode specifier ++ [')'] ++ rest) [] false) := rfl
    refine .call hopen rfl ?_ (.refl _ _)
    show Parser.callArguments.Reads _ ('(' :: (Quoted.encode specifier ++ [')']) ++ rest) _ _
    rw [List.cons_append, List.append_assoc]
    exact .callArguments_of_text hnext hwidth
  | member object property ih =>
    obtain ⟨hobject, hproperty⟩ := h
    show Parser.Chain _ _ (object.linkText ++ accessText property ++ rest) _ _ _
    rw [List.append_assoc]
    exact (ih hobject endsValue_accessText).trans (chain_accessText hrest hproperty)

/-- So do those in front of the first one whose name is wrongly left without quotes. -/
theorem Value.exists_chain (h : ¬value.Writable) (hwidth : 1 ≤ width) :
    ∃ last between count, Parser.Chain (ruleContext goal width flags (depth + 4))
      (nameTree value.root) (value.linkText ++ rest) last between count ∧
      count ≤ value.linkCount ∧ ∃ next, scanToken goal between = .ok next ∧
        next.token.kind = .punct .dot ∧ Parser.Stuck goal next.rest := by
  induction value generalizing rest with
  | name | temporary | required => exact absurd trivial h
  | member object property ih =>
    show ∃ last between count, Parser.Chain _ _ (object.linkText ++ accessText property ++ rest)
      _ _ _ ∧ _
    rw [List.append_assoc]
    by_cases hobject : object.Writable
    · have hproperty : ¬Linking.Writable property := fun hproperty => h ⟨hobject, hproperty⟩
      exact ⟨_, _, _, object.chain hobject endsValue_accessText hwidth, Nat.le_succ _,
        stuck_accessText hproperty⟩
    · obtain ⟨last, between, count, hchain, hcount, hstuck⟩ := ih hobject
      exact ⟨last, between, count, hchain, Nat.le_succ_of_le hcount, hstuck⟩

/-- The links of a value are read as its tree if all members are written as what they are. -/
theorem Value.readsIf_links (value : Value) (hrest : EndsValue goal rest)
    (hnext : scanToken goal rest = .ok next) (hend : next.token.kind.endsOperand)
    (hwidth : value.linkCount < width) :
    (Parser.links .all (nameTree value.root)).ReadsIf value.Writable
      (ruleContext goal width flags (depth + 4)) (value.linkText ++ rest) value.tree rest := by
  have hwide : 1 ≤ width := Nat.one_le_of_lt hwidth
  refine ⟨fun h => (value.chain h hrest hwide).reads hnext hend hwidth.le, fun h => ?_⟩
  obtain ⟨last, between, count, hchain, hcount, point, hpoint, hkind, hstuck⟩ :
      ∃ last between count, Parser.Chain (ruleContext goal width flags (depth + 4))
        (nameTree value.root) (value.linkText ++ rest) last between count ∧ _ :=
    value.exists_chain h hwide
  exact hchain.fails hpoint hkind hstuck.property (hcount.trans hwidth.le)

section Value

variable {floor : Nat} (hroot : Bindable value.root)
  (hchars : scanToken goal chars = scanToken goal (value.text ++ rest))
  (hrest : EndsName rest) (hnext : scanToken goal rest = .ok next)
  (hend : next.token.kind.endsOperand) (hflags : flags.Sloppy) (hwidth : value.linkCount < width)

include hroot hrest hnext hend

include hchars in
/-- The first token of a value is its first name. -/
theorem scanToken_value : scanToken goal chars = .ok (lexeme ⟨value.text ++ rest, false⟩
    (.word (keywordOf? value.root)) (value.linkText ++ rest) value.root false) := by
  have hlinks := value.endsValue_linkText (endsValue_of_end hrest hnext hend)
  rw [hchars, value.text_eq, List.append_assoc]
  exact scanToken_word hroot.1 hlinks.endsName

include hflags hwidth

/-- A value is read as its tree wherever its first name is the next token. -/
theorem readsIf_value_of_scanToken {newline : Bool}
    (hfirst : scanToken goal chars = .ok (lexeme ⟨value.text ++ rest, newline⟩
      (.word (keywordOf? value.root)) (value.linkText ++ rest) value.root false)) :
    (Parser.operators floor).ReadsIf value.Writable (ruleContext goal width flags (depth + 7)) chars
      value.tree rest := by
  have hends := endsValue_of_end hrest hnext hend
  obtain ⟨second, hsecond, hword, -⟩ := (value.endsValue_linkText hends).token
  have hlinks : (Parser.links .all (nameTree value.root)).ReadsIf value.Writable
      (ruleContext goal width flags (depth + 4)) (value.linkText ++ rest) value.tree rest :=
    value.readsIf_links hends hnext hend hwidth
  exact .operators_of_identifier hfirst hroot.2 hsecond hword hflags hlinks hnext hend

include hchars

/-- **A value is read as its tree** if the names of its members are written as what they are. -/
theorem readsIf_value : (Parser.operators floor).ReadsIf value.Writable
    (ruleContext goal width flags (depth + 7)) chars value.tree rest :=
  readsIf_value_of_scanToken hroot hrest hnext hend hflags hwidth
    (scanToken_value hroot hchars hrest hnext hend)

end Value

/-! ### Patterns -/

/-- The name of a member in front of its colon. -/
def keyText (name : Name) : List Char :=
  if isPlainName name then name else Quoted.encode name

/-- The name of a member in front of its colon, as a tree. -/
def keyTree (name : Name) : Node :=
  if isPlainName name then .mk (.propertyName name) [] else Parser.textTree name

/-- A name of a pattern, as a tree. -/
def entryTree (entry : ImportedName) : Node :=
  if entry.imported = entry.localName then
    .mk (.member .shorthand false) [nameTree entry.localName]
  else .mk (.member .valued false) [keyTree entry.imported, nameTree entry.localName]

/-- A pattern as a tree. -/
def patternTree (entries : List ImportedName) : Node :=
  .mk (.object false) (entries.map entryTree)

/-- A name of a pattern that is written as what it is. If it binds itself, it needs no key. -/
def EntryWritable (entry : ImportedName) : Prop :=
  entry.imported = entry.localName ∨ Writable entry.imported

theorem destructured_of_ne {entry : ImportedName} (h : entry.imported ≠ entry.localName) :
    destructured entry = keyText entry.imported ++ ": ".toList ++ entry.localName := by
  rw [destructured, if_neg h]
  rfl

section Entry

variable {entry : ImportedName} (hlocal : Bindable entry.localName)
  (hchars : scanToken goal chars = scanToken goal (destructured entry ++ rest))
  (hrest : EndsName rest) (hnext : scanToken goal rest = .ok next) (hflags : flags.Sloppy)

include hlocal hchars hrest hnext hflags

/-- A name that binds itself. -/
theorem reads_shorthand (heq : entry.imported = entry.localName)
    (hcolon : next.token.kind ≠ .punct .colon)
    (hassign : next.token.kind ≠ .punct (.assign none)) :
    Parser.objectMember.Reads (ruleContext goal width flags depth) chars (entryTree entry)
      rest := by
  have hfirst : scanToken goal chars = .ok (lexeme ⟨entry.localName ++ rest, false⟩
      (.word (keywordOf? entry.localName)) rest entry.localName false) := by
    rw [hchars, destructured, if_pos heq, heq]
    exact scanToken_word hlocal.1 hrest
  rw [entryTree, if_pos heq]
  exact .objectMember_of_identifier hfirst hlocal.2 hflags hnext hcolon hassign

/-- A name with a key in front of it. -/
theorem reads_keyed (hne : entry.imported ≠ entry.localName) (h : Writable entry.imported)
    (hassign : next.token.kind ≠ .punct (.assign none)) :
    Parser.objectMember.Reads (ruleContext goal width flags (depth + 1)) chars (entryTree entry)
      rest := by
  have hcolon : scanToken goal (": ".toList ++ entry.localName ++ rest) =
      .ok (lexeme ⟨": ".toList ++ entry.localName ++ rest, false⟩ (.punct .colon)
        (' ' :: (entry.localName ++ rest)) [] false) := rfl
  have hname : scanToken goal (' ' :: (entry.localName ++ rest)) =
      .ok (lexeme ⟨entry.localName ++ rest, false⟩ (.word (keywordOf? entry.localName)) rest
        entry.localName false) := scanToken_word hlocal.1 hrest
  have hvalue : Parser.bindingElement.Reads (ruleContext goal width flags (depth + 1))
      (' ' :: (entry.localName ++ rest)) (nameTree entry.localName) rest :=
    .bindingElement_of_identifier hname hlocal.2 hflags hnext hassign
  rw [destructured_of_ne hne, List.append_assoc, List.append_assoc, ← List.append_assoc ": ".toList]
    at hchars
  rw [entryTree, if_neg hne]
  unfold keyText at hchars
  unfold keyTree
  split
  · next hplain =>
    have hends : EndsName (": ".toList ++ entry.localName ++ rest) :=
      endsName_cons (by decide) (by decide)
    rw [if_pos hplain, scanToken_word (h hplain) hends] at hchars
    exact .objectMember_of_key hchars (.memberName_of_word hchars rfl hcolon) hcolon rfl hname
      hvalue
  · next hplain =>
    rw [if_neg hplain, scanToken_encode] at hchars
    exact .objectMember_of_key hchars (.memberName_of_string hchars rfl hcolon) hcolon rfl hname
      hvalue

theorem reads_entry (h : EntryWritable entry) (hcolon : next.token.kind ≠ .punct .colon)
    (hassign : next.token.kind ≠ .punct (.assign none)) :
    Parser.objectMember.Reads (ruleContext goal width flags (depth + 1)) chars (entryTree entry)
      rest := by
  by_cases heq : entry.imported = entry.localName
  · exact reads_shorthand hlocal hchars hrest hnext hflags heq hcolon hassign
  · exact reads_keyed hlocal hchars hrest hnext hflags heq (h.resolve_left heq) hassign

omit hnext hflags in
/-- The first token of a name in a pattern is a word or a string. -/
theorem exists_scanToken_entry (h : EntryWritable entry) : ∃ first,
    scanToken goal chars = .ok first ∧ ∀ p, first.token.kind ≠ .punct p := by
  rw [hchars, destructured]
  split
  · next heq =>
    rw [heq, scanToken_word hlocal.1 hrest]
    exact ⟨_, rfl, nofun⟩
  · next hne =>
    rw [List.append_assoc, List.append_assoc]
    split
    · next hplain =>
      have hends : EndsName (": ".toList ++ (entry.localName ++ rest)) :=
        endsName_cons (by decide) (by decide)
      rw [scanToken_word (h.resolve_left hne hplain) hends]
      exact ⟨_, rfl, nofun⟩
    · rw [scanToken_encode]
      exact ⟨_, rfl, nofun⟩

end Entry

/-- A name of a pattern that is wrongly left without quotes cannot be passed over. -/
theorem stuck_entry {entry : ImportedName}
    (hchars : scanToken goal chars = scanToken goal (destructured entry ++ rest))
    (h : ¬EntryWritable entry) : Parser.Stuck goal chars := by
  obtain ⟨hne, hname⟩ := not_or.mp h
  have hplain := isPlainName_of_not_writable hname
  have hstuck : Parser.Stuck goal (entry.imported ++ (": ".toList ++ (entry.localName ++ rest))) :=
    stuck_of_not_writable hname
  rw [destructured, if_neg hne, if_pos hplain, List.append_assoc, List.append_assoc] at hchars
  intro first hfirst
  exact hstuck (hchars.symm.trans hfirst)

/-- The names of a pattern, between commas. -/
def entriesText (entries : List ImportedName) : List Char :=
  List.intercalate ", ".toList (entries.map destructured)

theorem entriesText_singleton {entry : ImportedName} :
    entriesText [entry] = destructured entry := by
  simp [entriesText]

theorem entriesText_cons_cons {entry entry' : ImportedName} {entries : List ImportedName} :
    entriesText (entry :: entry' :: entries) ++ rest =
      destructured entry ++ (", ".toList ++ (entriesText (entry' :: entries) ++ rest)) := by
  simp [entriesText]

theorem exists_entriesText_cons (entry : ImportedName) (entries : List ImportedName)
    (rest : List Char) : ∃ tail, entriesText (entry :: entries) ++ rest =
      destructured entry ++ tail := by
  cases entries with
  | nil => exact ⟨rest, by rw [entriesText_singleton]⟩
  | cons entry' entries => exact ⟨_, entriesText_cons_cons⟩

theorem scanToken_comma (tail : List Char) : scanToken goal (", ".toList ++ tail) =
    .ok (lexeme ⟨", ".toList ++ tail, false⟩ (.punct .comma) (' ' :: tail) [] false) :=
  rfl

section Entries

variable {entries : List ImportedName}

/-- The names of a pattern are read as they are. -/
theorem separated_entries (hne : entries ≠ [])
    (hlocal : ∀ entry ∈ entries, Bindable entry.localName)
    (h : ∀ entry ∈ entries, EntryWritable entry) (hflags : flags.Sloppy)
    (hchars : scanToken goal chars =
      scanToken goal (entriesText entries ++ (" \x7d".toList ++ rest))) :
    Parser.Separated .closeBrace Parser.objectMember (ruleContext goal width flags (depth + 1))
      chars (entries.map entryTree) (" \x7d".toList ++ rest) := by
  induction entries generalizing chars with
  | nil => exact absurd rfl hne
  | cons entry entries ih =>
    obtain ⟨hbound, hlocal⟩ := List.forall_mem_cons.mp hlocal
    obtain ⟨hentry, h⟩ := List.forall_mem_cons.mp h
    cases entries with
    | nil =>
      have hends : EndsName (" \x7d".toList ++ rest) := endsName_cons (by decide) (by decide)
      have hclose : scanToken goal (" \x7d".toList ++ rest) =
          .ok (lexeme ⟨"\x7d".toList ++ rest, false⟩ (.punct .closeBrace) rest [] false) := rfl
      rw [entriesText_singleton] at hchars
      obtain ⟨first, hfirst, hpunct⟩ := exists_scanToken_entry hbound hchars hends hentry
      exact .last hfirst (hpunct _) (hpunct _)
        (reads_entry hbound hchars hends hclose hflags hentry nofun nofun) hclose rfl
    | cons entry' entries =>
      rw [entriesText_cons_cons] at hchars
      have hends : EndsName (", ".toList ++ (entriesText (entry' :: entries) ++
          (" \x7d".toList ++ rest))) := endsName_cons (by decide) (by decide)
      obtain ⟨first, hfirst, hpunct⟩ := exists_scanToken_entry hbound hchars hends hentry
      exact .more hfirst (hpunct _) (hpunct _)
        (reads_entry hbound hchars hends (scanToken_comma _) hflags hentry nofun nofun)
        (scanToken_comma _) rfl (ih (List.cons_ne_nil _ _) hlocal h rfl)

theorem reads_entries (hlocal : ∀ entry ∈ entries, Bindable entry.localName)
    (h : ∀ entry ∈ entries, EntryWritable entry) (hflags : flags.Sloppy)
    (hchars : scanToken goal chars =
      scanToken goal (entriesText entries ++ (" \x7d".toList ++ rest)))
    (hwidth : entries.length ≤ width) : ∃ between first, scanToken goal chars = .ok first ∧
      (Parser.patternItems .closeBrace Parser.objectMember Parser.identifier).Reads
        (ruleContext goal width flags (depth + 1)) chars (entries.map entryTree) between ∧
      scanToken goal between =
        .ok (lexeme ⟨"\x7d".toList ++ rest, false⟩ (.punct .closeBrace) rest [] false) := by
  cases entries with
  | nil =>
    have hclose : scanToken goal chars =
      .ok (lexeme ⟨"\x7d".toList ++ rest, false⟩ (.punct .closeBrace) rest [] false) := hchars
    exact ⟨_, _, hclose,
      .loop (.rounds_inr (.bind (.atPunct_of_eq hclose rfl) (.ite_pos rfl .pure))), hclose⟩
  | cons entry entries =>
    have hseparated : Parser.Separated .closeBrace Parser.objectMember
        (ruleContext goal width flags (depth + 1)) chars _ _ :=
      separated_entries (List.cons_ne_nil _ _) hlocal h hflags hchars
    obtain ⟨first, hfirst⟩ := hseparated.exists_scanToken
    refine ⟨_, first, hfirst, hseparated.reads_patternItems (by decide) ?_, rfl⟩
    rwa [List.length_map]

/-- Names of a pattern of which one is wrongly left without quotes cannot be passed over. -/
theorem broken_entries (hlocal : ∀ entry ∈ entries, Bindable entry.localName)
    (h : ¬∀ entry ∈ entries, EntryWritable entry) (hflags : flags.Sloppy)
    (hchars : scanToken goal chars =
      scanToken goal (entriesText entries ++ (" \x7d".toList ++ rest))) :
    ∃ count ≤ entries.length, Parser.Broken .closeBrace Parser.objectMember
      (ruleContext goal width flags (depth + 1)) chars count := by
  induction entries generalizing chars with
  | nil => exact absurd nofun h
  | cons entry entries ih =>
    obtain ⟨hbound, hlocal⟩ := List.forall_mem_cons.mp hlocal
    by_cases hentry : EntryWritable entry
    · cases entries with
      | nil => exact absurd (List.forall_mem_singleton.mpr hentry) h
      | cons entry' entries =>
        have hmore : ¬∀ entry ∈ entry' :: entries, EntryWritable entry := fun hmore =>
          h (List.forall_mem_cons.mpr ⟨hentry, hmore⟩)
        have hblank : scanToken goal
            (' ' :: (entriesText (entry' :: entries) ++ (" \x7d".toList ++ rest))) =
            scanToken goal (entriesText (entry' :: entries) ++ (" \x7d".toList ++ rest)) := rfl
        obtain ⟨count, hcount, hbroken⟩ := ih hlocal hmore hblank
        rw [entriesText_cons_cons] at hchars
        have hends : EndsName (", ".toList ++ (entriesText (entry' :: entries) ++
            (" \x7d".toList ++ rest))) := endsName_cons (by decide) (by decide)
        obtain ⟨first, hfirst, hpunct⟩ := exists_scanToken_entry hbound hchars hends hentry
        exact ⟨count + 1, Nat.succ_le_succ hcount, .behind hfirst (hpunct _) (hpunct _)
          (reads_entry hbound hchars hends (scanToken_comma _) hflags hentry nofun nofun)
          (scanToken_comma _) rfl hbroken⟩
    · obtain ⟨tail, htail⟩ := exists_entriesText_cons entry entries (" \x7d".toList ++ rest)
      rw [htail] at hchars
      have hstuck := stuck_entry hchars hentry
      exact ⟨0, Nat.zero_le _, .here hstuck (hstuck.objectMember hflags)⟩

section Pattern

variable (hlocal : ∀ entry ∈ entries, Bindable entry.localName) (hflags : flags.Sloppy)
  (hchars : scanToken goal chars = scanToken goal (destructuring entries ++ rest))
  (hwidth : entries.length ≤ width)

include hchars

theorem scanToken_destructuring : scanToken goal chars =
    .ok (lexeme ⟨destructuring entries ++ rest, false⟩ (.punct .openBrace)
      (' ' :: (entriesText entries ++ (" \x7d".toList ++ rest))) [] false) := by
  rw [hchars, destructuring, List.append_assoc, List.append_assoc]
  rfl

include hlocal hflags hwidth

/-- **A pattern is read as its tree** if its names are written as what they are. -/
theorem readsIf_pattern (hnext : scanToken goal rest = .ok next) :
    Parser.binding.ReadsIf (∀ entry ∈ entries, EntryWritable entry)
      (ruleContext goal width flags (depth + 2)) chars (patternTree entries) rest := by
  have hopen := scanToken_destructuring hchars
  have hbracket : (Parser.eatPunct .openBracket).Reads (ruleContext goal width flags (depth + 1))
      chars false chars := .eatPunct_of_ne hopen nofun
  have hblank : scanToken goal (' ' :: (entriesText entries ++ (" \x7d".toList ++ rest))) =
      scanToken goal (entriesText entries ++ (" \x7d".toList ++ rest)) := rfl
  refine .call (hbracket.readsIf_bind (.ite_neg Bool.false_ne_true ⟨fun h => ?_, fun h => ?_⟩))
  · obtain ⟨between, second, hsecond, hitems, hclose⟩ :=
      reads_entries hlocal h hflags hblank hwidth
    refine .bind (.eatPunct_of_eq hopen rfl hsecond) (.ite_pos rfl ?_)
    exact .bind hitems (.bind (.expectPunct hclose rfl hnext) .pure)
  · refine .eatPunct_bind hopen rfl (.ite_pos rfl (.bind ?_))
    obtain ⟨count, hcount, hbroken⟩ : ∃ count ≤ entries.length, Parser.Broken .closeBrace
        Parser.objectMember (ruleContext goal width flags (depth + 1)) _ count :=
      broken_entries hlocal h hflags hblank
    exact hbroken.fails (hcount.trans hwidth)

end Pattern

end Entries

end ModuleBundler.Linking
