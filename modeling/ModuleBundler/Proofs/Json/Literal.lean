import ModuleBundler.Json.Printer
import ModuleBundler.Proofs.Script.Expressions
import ModuleBundler.Proofs.Script.Tokens

/-!
# Printed values are expressions

A value printed on one line is an expression of modules and scripts, and its tree is the value:
numbers and texts are literals, a negative number is a literal with a sign in front of it, arrays
and objects are literals of their items and members.

## Main definitions

* `Json.literal` — a value as a tree.
* `Json.IsExpression` — values that are read as their trees.

## Main results

* `Json.compact_cases` — the forms of a printed value.
* `Json.isExpression` — a printed value is read as its tree.
-/

namespace ModuleBundler.Json

open Script Text

/-! ### Values as trees -/

/-- A number as a tree. -/
def numberLiteral (digits : Name) : Node :=
  .mk (.literal (.number digits)) []

/-- A text as a tree. -/
def textLiteral (chars : Name) : Node :=
  .mk (.literal (.string chars)) []

/-- A tree with a sign in front of it. -/
def negated (node : Node) : Node :=
  .mk (.unary .minus) [node]

/-- A member of an object as a tree. -/
def memberLiteral (name : Name) (value : Node) : Node :=
  .mk (.member .valued false) [textLiteral name, value]

mutual

/-- A value as a tree. -/
def literal : Json → Node
  | null => .mk (.literal .nullValue) []
  | boolean value => .mk (.literal (.boolean value)) []
  | integer (.ofNat n) => numberLiteral (Nat.toDigits 10 n)
  | integer (.negSucc n) => negated (numberLiteral (Nat.toDigits 10 (n + 1)))
  | decimal false size => numberLiteral (Decimal.shortest size).text
  | decimal true size => negated (numberLiteral (Decimal.shortest size).text)
  | text chars => textLiteral chars
  | array items => .mk (.array false) (itemLiterals items)
  | object members => .mk (.object false) (memberLiterals members)

/-- The items of an array as trees. -/
def itemLiterals : List Json → List Node
  | [] => []
  | item :: items => literal item :: itemLiterals items

/-- The members of an object as trees. -/
def memberLiterals : List (List Char × Json) → List Node
  | [] => []
  | (name, value) :: members => memberLiteral name (literal value) :: memberLiterals members

end

mutual

/-- The tree of a value needs no pattern around it. -/
theorem hasUnsettled_literal : (value : Json) → value.literal.hasUnsettled = false
  | null => rfl
  | boolean _ => rfl
  | integer (.ofNat _) => rfl
  | integer (.negSucc _) => rfl
  | decimal false _ => rfl
  | decimal true _ => rfl
  | text _ => rfl
  | array items => anyUnsettled_itemLiterals items
  | object members => anyUnsettled_memberLiterals members

theorem anyUnsettled_itemLiterals :
    (items : List Json) → Node.anyUnsettled (itemLiterals items) = false
  | [] => rfl
  | item :: items => by
    rw [itemLiterals, Node.anyUnsettled, hasUnsettled_literal item, anyUnsettled_itemLiterals items]
    rfl

theorem anyUnsettled_memberLiterals :
    (members : List (List Char × Json)) → Node.anyUnsettled (memberLiterals members) = false
  | [] => rfl
  | (name, value) :: members => by
    have hmember : (memberLiteral name value.literal).hasUnsettled = false := by
      simp [memberLiteral, textLiteral, Node.hasUnsettled, Node.anyUnsettled,
        hasUnsettled_literal value]
    rw [memberLiterals, Node.anyUnsettled, hmember, anyUnsettled_memberLiterals members]
    rfl

end

/-! ### Lists in printed values -/

section Lists

variable {α : Type} {part : List Char} {parts : List (List Char)} {c : Char} {rest : List Char}

/-- Texts with commas between them and a closing character behind them. -/
def joined (close : Char) : List (List Char) → List Char
  | [] => [close]
  | [part] => part ++ [close]
  | part :: parts => part ++ ',' :: joined close parts

theorem joined_cons_cons (close : Char) (part other : List Char) (parts : List (List Char)) :
    joined close (part :: other :: parts) = part ++ ',' :: joined close (other :: parts) :=
  rfl

theorem exists_joined_eq (close : Char) (parts : List (List Char)) :
    ∃ front, joined close parts = front ++ [close] := by
  induction parts with
  | nil => exact ⟨[], rfl⟩
  | cons part parts ih =>
    cases parts with
    | nil => exact ⟨part, rfl⟩
    | cons second parts =>
      obtain ⟨front, hfront⟩ := ih
      exact ⟨part ++ ',' :: front, by rw [joined_cons_cons, hfront]; simp⟩

theorem length_lt_length_joined (close : Char) (h : part ∈ parts) :
    part.length < (joined close parts).length := by
  induction parts with
  | nil => contradiction
  | cons first parts ih =>
    cases parts with
    | nil =>
      obtain rfl : part = first := List.mem_singleton.mp h
      simp [joined]
    | cons second parts =>
      rw [joined_cons_cons, List.length_append, List.length_cons]
      obtain rfl | hmem := List.mem_cons.mp h
      · omega
      · have := ih hmem
        omega

theorem length_le_length_joined (close : Char) : parts.length ≤ (joined close parts).length := by
  induction parts with
  | nil => simp
  | cons first parts ih =>
    cases parts with
    | nil => simp [joined]
    | cons second parts =>
      rw [joined_cons_cons, List.length_append]
      simp only [List.length_cons] at ih ⊢
      omega

theorem compactItems_eq (items : List Json) :
    compactItems items = joined ']' (items.map compact) := by
  induction items with
  | nil => rfl
  | cons item items ih =>
    cases items with
    | nil => rfl
    | cons second items =>
      show compact item ++ ',' :: compactItems (second :: items) = _
      rw [ih]
      rfl

/-- A member on one line. -/
def memberText (member : List Char × Json) : List Char :=
  Quoted.encode member.1 ++ ':' :: member.2.compact

theorem compactMembers_eq (members : List (List Char × Json)) :
    compactMembers members = joined '\x7d' (members.map memberText) := by
  induction members with
  | nil => rfl
  | cons member members ih =>
    obtain ⟨name, value⟩ := member
    cases members with
    | nil => rfl
    | cons second members =>
      show Quoted.encode name ++ ':' :: compact value ++ ',' ::
        compactMembers (second :: members) = _
      rw [ih]
      rfl

theorem length_lt_length_compact_array (items : List Json) :
    items.length < (array items).compact.length := by
  have hcount : (items.map compact).length ≤ _ := length_le_length_joined ']'
  rw [List.length_map] at hcount
  rw [compact, compactItems_eq, List.length_cons]
  omega

theorem length_lt_length_compact_of_mem_array {item : Json} {items : List Json} (h : item ∈ items) :
    item.compact.length < (array items).compact.length := by
  have hshorter : item.compact.length < _ := length_lt_length_joined ']' (List.mem_map_of_mem h)
  rw [compact, compactItems_eq, List.length_cons]
  omega

theorem length_lt_length_compact_object (members : List (List Char × Json)) :
    members.length < (object members).compact.length := by
  have hcount : (members.map memberText).length ≤ _ := length_le_length_joined '\x7d'
  rw [List.length_map] at hcount
  rw [compact, compactMembers_eq, List.length_cons]
  omega

theorem length_lt_length_compact_of_mem_object {member : List Char × Json}
    {members : List (List Char × Json)} (h : member ∈ members) :
    member.2.compact.length < (object members).compact.length := by
  have hshorter : (memberText member).length < _ :=
    length_lt_length_joined '\x7d' (List.mem_map_of_mem h)
  have hvalue : member.2.compact.length < (memberText member).length := by
    simp only [memberText, List.length_append, List.length_cons]
    omega
  rw [compact, compactMembers_eq, List.length_cons]
  omega

/-- An object stands between braces. -/
theorem exists_compact_object_eq (members : List (List Char × Json)) :
    ∃ inside, (object members).compact = '\x7b' :: (inside ++ ['\x7d']) := by
  obtain ⟨inside, hinside⟩ := exists_joined_eq '\x7d' (members.map memberText)
  exact ⟨inside, by rw [compact, compactMembers_eq, hinside]⟩

theorem itemLiterals_eq (items : List Json) : itemLiterals items = items.map literal := by
  induction items with
  | nil => rfl
  | cons item items ih => rw [itemLiterals, ih, List.map_cons]

theorem memberLiterals_eq (members : List (List Char × Json)) :
    memberLiterals members = members.map fun member => memberLiteral member.1 member.2.literal := by
  induction members with
  | nil => rfl
  | cons member members ih => rw [memberLiterals, ih, List.map_cons]

/-- Texts that are read one by one are read between commas. -/
theorem separated_joined {item : Parser Node} {context : Context} {close : Punct} {closer : Char}
    {entries : List α} (text : α → List Char) (node : α → Node) {stop : Lexeme} (hne : entries ≠ [])
    (hcloser : isCloser closer) (hstop : scanToken context.goal (closer :: rest) = .ok stop)
    (hkind : stop.token.kind = .punct close)
    (hstart : ∀ entry ∈ entries, ∀ c rest, isCloser c → ∃ first,
      scanToken context.goal (text entry ++ c :: rest) = .ok first ∧
        first.token.kind ≠ .punct close ∧ first.token.kind ≠ .punct .ellipsis)
    (hitem : ∀ entry ∈ entries, ∀ c rest, isCloser c →
      item.Reads context (text entry ++ c :: rest) (node entry) (c :: rest)) :
    Parser.Separated close item context (joined closer (entries.map text) ++ rest)
      (entries.map node) (closer :: rest) := by
  induction entries with
  | nil => contradiction
  | cons entry entries ih =>
    have hentry := hitem entry List.mem_cons_self
    cases entries with
    | nil =>
      obtain ⟨first, hfirst, hopen, hspread⟩ := hstart entry List.mem_cons_self closer rest hcloser
      have htext : joined closer ([entry].map text) ++ rest = text entry ++ closer :: rest := by
        simp [joined]
      rw [htext]
      exact .last hfirst hopen hspread (hentry closer rest hcloser) hstop hkind
    | cons second entries =>
      let remaining := joined closer ((second :: entries).map text) ++ rest
      have htext : joined closer ((entry :: second :: entries).map text) ++ rest =
          text entry ++ ',' :: remaining := by
        simp [remaining, joined]
      obtain ⟨first, hfirst, hopen, hspread⟩ := hstart entry List.mem_cons_self ',' remaining rfl
      rw [htext]
      exact .more hfirst hopen hspread (hentry ',' remaining rfl) rfl rfl
        (ih (List.cons_ne_nil _ _) (fun other h => hstart other (List.mem_cons_of_mem _ h))
          fun other h => hitem other (List.mem_cons_of_mem _ h))

end Lists

/-! ### Values that are one token -/

section Leaves

variable {goal : Goal} {digits : List Char} {c : Char} {rest : List Char}

/-- The text is a single token, which is a literal. -/
def WritesLeaf (goal : Goal) (chars : List Char) (kind : NodeKind) : Prop :=
  ∀ c rest, isCloser c → ∃ first, scanToken goal (chars ++ c :: rest) = .ok first ∧
    first.here = chars ++ c :: rest ∧ first.rest = c :: rest ∧ first.token.escaped = false ∧
      leafKind? first.token = some kind

theorem writesLeaf_numeral (h : IsNumeral digits) :
    WritesLeaf goal digits (.literal (.number digits)) :=
  fun _ _ hc => ⟨_, scanToken_numeral h (endsNumeral_of_isCloser hc), rfl, rfl, rfl, rfl⟩

theorem writesLeaf_encode (chars : List Char) :
    WritesLeaf goal (Quoted.encode chars) (.literal (.string chars)) :=
  fun _ _ _ => ⟨_, scanToken_encode chars, rfl, rfl, rfl, rfl⟩

theorem writesLeaf_null : WritesLeaf goal null.compact (.literal .nullValue) := by
  intro c rest hc
  obtain rfl | rfl | rfl | rfl := isCloser_iff.mp hc <;> exact ⟨_, rfl, rfl, rfl, rfl, rfl⟩

theorem writesLeaf_boolean (value : Bool) :
    WritesLeaf goal (boolean value).compact (.literal (.boolean value)) := by
  intro c rest hc
  cases value <;>
    obtain rfl | rfl | rfl | rfl := isCloser_iff.mp hc <;> exact ⟨_, rfl, rfl, rfl, rfl, rfl⟩

/-- A printed value is a literal of one token, a number with a sign in front of it, an array or an
object. -/
theorem compact_cases (goal : Goal) (value : Json) :
    (∃ kind, WritesLeaf goal value.compact kind ∧ value.literal = .mk kind []) ∨
      (∃ digits, IsNumeral digits ∧ value.compact = '-' :: digits ∧
        value.literal = negated (numberLiteral digits)) ∨
      (∃ items, value = array items) ∨ ∃ members, value = object members := by
  match value with
  | null => exact .inl ⟨_, writesLeaf_null, rfl⟩
  | boolean value => exact .inl ⟨_, writesLeaf_boolean value, rfl⟩
  | integer (.ofNat n) => exact .inl ⟨_, writesLeaf_numeral (isWhole_toDigits n).isNumeral, rfl⟩
  | integer (.negSucc n) => exact .inr (.inl ⟨_, (isWhole_toDigits (n + 1)).isNumeral, rfl, rfl⟩)
  | decimal false size =>
    exact .inl ⟨_, writesLeaf_numeral (Decimal.isNumeral_shortest size), rfl⟩
  | decimal true size => exact .inr (.inl ⟨_, Decimal.isNumeral_shortest size, rfl, rfl⟩)
  | text chars => exact .inl ⟨_, writesLeaf_encode chars, rfl⟩
  | array items => exact .inr (.inr (.inl ⟨items, rfl⟩))
  | object members => exact .inr (.inr (.inr ⟨members, rfl⟩))

/-- Does the token start a value? -/
def startsValue : TokenKind → Bool
  | .number | .string _ => true
  | .word (some .null_) | .word (some .true_) | .word (some .false_) => true
  | .punct .openBracket | .punct .openBrace | .punct (.operator .subtract) => true
  | _ => false

theorem startsValue_of_leaf {token : Token} {kind : NodeKind} (h : leafKind? token = some kind) :
    startsValue token.kind := by
  unfold leafKind? at h
  split at h
  all_goals first | contradiction | next hkind => rw [hkind]; rfl

theorem ne_of_startsValue {kind other : TokenKind} (h : startsValue kind)
    (hother : startsValue other = false) : kind ≠ other := by
  rintro rfl
  rw [h] at hother
  contradiction

/-- A printed value starts with a token that starts a value. -/
theorem exists_scanToken_compact (value : Json) (hc : isCloser c) :
    ∃ first, scanToken goal (value.compact ++ c :: rest) = .ok first ∧
      first.here = value.compact ++ c :: rest ∧ startsValue first.token.kind := by
  obtain ⟨kind, hleaf, -⟩ | ⟨digits, hdigits, hcompact, -⟩ | ⟨items, rfl⟩ | ⟨members, rfl⟩ :=
    compact_cases goal value
  · obtain ⟨first, hfirst, hhere, -, -, hkind⟩ := hleaf c rest hc
    exact ⟨first, hfirst, hhere, startsValue_of_leaf hkind⟩
  · obtain ⟨digit, tail, rfl, hdigit⟩ := hdigits.exists_cons
    exact ⟨_, by rw [hcompact]; exact scanToken_minus hdigit, by rw [hcompact]; rfl, rfl⟩
  · exact ⟨_, rfl, rfl, rfl⟩
  · exact ⟨_, rfl, rfl, rfl⟩

end Leaves

/-! ### Values as expressions -/

section Values

variable {goal : Goal} {width depth : Nat} {flags : Flags} {c : Char} {chars rest : List Char}

theorem exists_scanToken_closer (hc : isCloser c) (rest : List Char) :
    ∃ next, scanToken goal (c :: rest) = .ok next ∧ next.token.kind.endsOperand ∧
      next.token.kind ≠ .punct (.assign none) := by
  obtain rfl | rfl | rfl | rfl := isCloser_iff.mp hc <;> exact ⟨_, rfl, rfl, nofun⟩

/-- The value is read as an expression at a depth, wherever it stands, perhaps behind blanks. -/
def IsExpression (goal : Goal) (width depth : Nat) (value : Json) : Prop :=
  ∀ flags c chars rest, isCloser c →
    scanToken goal chars = scanToken goal (value.compact ++ c :: rest) →
      Parser.assignmentRule.Reads (ruleContext goal width flags depth) chars value.literal
        (c :: rest)

/-- An element of an array literal. -/
def arrayItem : Parser Node := do
  if ← Parser.atPunct .comma then Parser.absent else Parser.withIn Parser.argument

/-- A value is read as an element of an array. -/
theorem IsExpression.item {value : Json} (h : IsExpression goal width depth value)
    (hc : isCloser c) : arrayItem.Reads (ruleContext goal width flags (depth + 1))
      (value.compact ++ c :: rest) value.literal (c :: rest) := by
  obtain ⟨first, hfirst, -, hstart⟩ := exists_scanToken_compact value hc
  have hcomma : first.token.kind ≠ .punct .comma := ne_of_startsValue hstart rfl
  have hspread : first.token.kind ≠ .punct .ellipsis := ne_of_startsValue hstart rfl
  refine .bind (.atPunct_of_ne hfirst hcomma) (.ite_neg Bool.false_ne_true (.withFlags ?_))
  exact .bind (.eatPunct_of_ne hfirst hspread) (.ite_neg Bool.false_ne_true (h _ c _ rest hc rfl))

theorem memberText_append (member : List Char × Json) (tail : List Char) :
    memberText member ++ tail = Quoted.encode member.1 ++ ':' :: (member.2.compact ++ tail) := by
  simp [memberText]

/-- A name, a colon and a value are read as a member of an object. -/
theorem IsExpression.member {member : List Char × Json}
    (h : IsExpression goal width depth member.2) (hc : isCloser c) :
    Parser.literalMember.Reads (ruleContext goal width flags (depth + 1))
      (memberText member ++ c :: rest) (memberLiteral member.1 member.2.literal) (c :: rest) := by
  rw [memberText_append]
  obtain ⟨value, hvalue, -⟩ := exists_scanToken_compact member.2 hc
  have hname : scanToken goal (Quoted.encode member.1 ++ ':' :: (member.2.compact ++ c :: rest)) =
      _ := scanToken_encode member.1
  have hsecond : Parser.peekSecond.Reads (ruleContext goal width flags (depth + 1)) _ none _ :=
    .peekSecond_of_not_word hname nofun
  have hidentifier : Parser.atIdentifier.Reads (ruleContext goal width flags (depth + 1)) _ false
      _ := .atIdentifier_of_not_word hname nofun
  have hkey : Parser.memberName.Reads (ruleContext goal width flags (depth + 1)) _
      (textLiteral member.1) (':' :: (member.2.compact ++ c :: rest)) :=
    .bind (.peek hname) (.bind (.advance hname rfl) .pure)
  refine .bind (.eatPunct_of_ne hname nofun) (.ite_neg Bool.false_ne_true ?_)
  refine .bind (.bind hsecond (.bind (.peek hname) .pure)) ?_
  refine .bind hsecond (.bind hidentifier (.ite_neg (by simp) (.bind hkey ?_)))
  refine .bind (.atPunct_of_ne rfl nofun) (.ite_neg Bool.false_ne_true ?_)
  exact .bind (.expectPunct rfl rfl hvalue) (.bind (.withFlags (h _ c _ rest hc rfl)) .pure)

theorem reads_array {items : List Json} {next : Lexeme} (hwidth : items.length ≤ width)
    (hitems : ∀ item ∈ items, IsExpression goal width depth item)
    (hchars : scanToken goal chars = scanToken goal ((array items).compact ++ rest))
    (hnext : scanToken goal rest = .ok next) :
    Parser.primary.Reads (ruleContext goal width flags (depth + 1)) chars (array items).literal
      rest := by
  have hopen : scanToken goal chars = .ok (lexeme ⟨(array items).compact ++ rest, false⟩
      (.punct .openBracket) (joined ']' (items.map compact) ++ rest) [] false) := by
    rw [hchars, compact, compactItems_eq]
    rfl
  rw [literal, itemLiterals_eq]
  refine .bind (.peek hopen) ?_
  show Parser.arrayLiteral.Reads _ _ _ _
  by_cases hne : items = []
  · rw [hne] at hopen ⊢
    exact .bind (.expectPunct hopen rfl rfl)
      (.bind (.commaSeparated_nil rfl rfl) (.bind (.expectPunct rfl rfl hnext) .pure))
  · have hlist : Parser.Separated .closeBracket arrayItem (ruleContext goal width flags (depth + 1))
        (joined ']' (items.map compact) ++ rest) (items.map literal) (']' :: rest) := by
      refine separated_joined compact literal hne rfl rfl rfl (fun item _ c rest hc => ?_)
        fun item hmem c rest hc => (hitems item hmem).item hc
      obtain ⟨first, hfirst, -, hstart⟩ := exists_scanToken_compact item hc
      exact ⟨first, hfirst, ne_of_startsValue hstart rfl, ne_of_startsValue hstart rfl⟩
    obtain ⟨second, hsecond⟩ := hlist.exists_scanToken
    have hcount : (items.map literal).length ≤ width := by rwa [List.length_map]
    exact .bind (.expectPunct hopen rfl hsecond)
      (.bind (hlist.reads (by decide) hcount) (.bind (.expectPunct rfl rfl hnext) .pure))

theorem reads_object {members : List (List Char × Json)} {first next : Lexeme}
    (hwidth : members.length ≤ width)
    (hmembers : ∀ member ∈ members, IsExpression goal width depth member.2)
    (hopen : scanToken goal chars = .ok first) (hkind : first.token.kind = .punct .openBrace)
    (hinside : first.rest = joined '\x7d' (members.map memberText) ++ rest)
    (hnext : scanToken goal rest = .ok next) :
    Parser.primary.Reads (ruleContext goal width flags (depth + 1)) chars (object members).literal
      rest := by
  rw [literal, memberLiterals_eq]
  refine .bind (.peek hopen) ?_
  rw [hkind]
  show Parser.objectLiteral.Reads _ _ _ _
  by_cases hne : members = []
  · rw [hne] at hinside ⊢
    have hclose : scanToken goal first.rest =
        .ok (lexeme ⟨'\x7d' :: rest, false⟩ (.punct .closeBrace) rest [] false) := by
      rw [hinside]
      rfl
    exact .bind (.expectPunct hopen hkind hclose)
      (.bind (.commaSeparated_nil hclose rfl) (.bind (.expectPunct hclose rfl hnext) .pure))
  · have hlist : Parser.Separated .closeBrace Parser.literalMember
        (ruleContext goal width flags (depth + 1))
        (joined '\x7d' (members.map memberText) ++ rest)
        (members.map fun member => memberLiteral member.1 member.2.literal) ('\x7d' :: rest) := by
      refine separated_joined memberText _ hne rfl rfl rfl (fun member _ c rest hc => ?_)
        fun member hmem c rest hc => (hmembers member hmem).member hc
      rw [memberText_append]
      exact ⟨_, scanToken_encode member.1, nofun, nofun⟩
    rw [← hinside] at hlist
    obtain ⟨second, hsecond⟩ := hlist.exists_scanToken
    have hcount : (members.map fun member =>
        memberLiteral member.1 member.2.literal).length ≤ width := by rwa [List.length_map]
    exact .bind (.expectPunct hopen hkind hsecond)
      (.bind (hlist.reads (by decide) hcount) (.bind (.expectPunct rfl rfl hnext) .pure))

/-- A value of one token is an expression. -/
theorem isExpression_of_writesLeaf {value : Json} {kind : NodeKind}
    (hleaf : WritesLeaf goal value.compact kind) (hliteral : value.literal = .mk kind []) :
    IsExpression goal width (depth + 4) value := by
  intro flags c chars rest hc hchars
  obtain ⟨next, hnext, hend, hassign⟩ := exists_scanToken_closer hc rest
  obtain ⟨first, hfirst, -, hrest, hescaped, hkind⟩ := hleaf c rest hc
  rw [← hchars] at hfirst
  have hread : Parser.assignmentRule.Reads (ruleContext goal width flags (depth + 4))
      chars (.mk kind []) first.rest :=
    .assignmentRule_of_leaf hfirst hkind hescaped (by rwa [hrest]) hend hassign
  rwa [hrest, ← hliteral] at hread

/-- A number with a sign in front of it is an expression. -/
theorem isExpression_of_negated {value : Json} {digits : Name} (hdigits : IsNumeral digits)
    (hcompact : value.compact = '-' :: digits)
    (hliteral : value.literal = negated (numberLiteral digits)) :
    IsExpression goal width (depth + 4) value := by
  intro flags c chars rest hc hchars
  obtain ⟨next, hnext, hend, hassign⟩ := exists_scanToken_closer hc rest
  obtain ⟨first, hfirst, -, hrest, hescaped, hkind⟩ := writesLeaf_numeral hdigits c rest hc
  have hprimary : Parser.primary.Reads (ruleContext goal width flags depth)
      (digits ++ c :: rest) (numberLiteral digits) first.rest :=
    .primary_of_leaf hfirst hkind hescaped (by rwa [hrest])
  rw [hrest] at hprimary
  obtain ⟨digit, tail, rfl, hdigit⟩ := hdigits.exists_cons
  rw [hcompact] at hchars
  have hminus : scanToken goal chars = _ := hchars.trans (scanToken_minus hdigit)
  rw [hliteral]
  exact .assignmentRule_of_minus hminus rfl rfl hfirst
    (Parser.Reads.startsOperand_of_leaf hkind) hprimary hnext hend hassign

/-- An array of expressions is an expression. -/
theorem isExpression_array {items : List Json} (hwidth : items.length ≤ width)
    (hitems : ∀ item ∈ items, IsExpression goal width depth item) :
    IsExpression goal width (depth + 4) (array items) := by
  intro flags c chars rest hc hchars
  obtain ⟨next, hnext, hend, hassign⟩ := exists_scanToken_closer hc rest
  have hopen : scanToken goal chars = _ := hchars.trans rfl
  exact .assignmentRule_of_primary hopen rfl
    (.atNamedArrow_false hopen (.atIdentifier_of_not_word hopen nofun))
    (reads_array hwidth hitems hchars hnext) hnext hend hassign

/-- An object of expressions is an expression. -/
theorem isExpression_object {members : List (List Char × Json)} (hwidth : members.length ≤ width)
    (hmembers : ∀ member ∈ members, IsExpression goal width depth member.2) :
    IsExpression goal width (depth + 4) (object members) := by
  intro flags c chars rest hc hchars
  obtain ⟨next, hnext, hend, hassign⟩ := exists_scanToken_closer hc rest
  have hopen : scanToken goal chars = .ok (lexeme ⟨(object members).compact ++ c :: rest, false⟩
      (.punct .openBrace) (joined '\x7d' (members.map memberText) ++ c :: rest) [] false) := by
    rw [hchars, compact, compactMembers_eq]
    rfl
  exact .assignmentRule_of_primary hopen rfl
    (.atNamedArrow_false hopen (.atIdentifier_of_not_word hopen nofun))
    (reads_object hwidth hmembers hopen rfl rfl hnext) hnext hend hassign

/-- **A printed value is an expression whose tree is the value**, at a depth that grows with its
length. -/
theorem isExpression (value : Json) (hdepth : 4 * (value.compact.length + 1) ≤ depth)
    (hwidth : value.compact.length ≤ width) : IsExpression goal width depth value := by
  -- A part is shorter than the value around it, which leaves four levels for the rules in between.
  induction hlength : value.compact.length using Nat.strongRecOn generalizing value depth with
  | ind length ih =>
    obtain ⟨depth, rfl⟩ : ∃ n, depth = n + 4 := ⟨depth - 4, by omega⟩
    obtain ⟨kind, hleaf, hliteral⟩ | ⟨digits, hdigits, hcompact, hliteral⟩ | ⟨items, rfl⟩ |
      ⟨members, rfl⟩ := compact_cases goal value
    · exact isExpression_of_writesLeaf hleaf hliteral
    · exact isExpression_of_negated hdigits hcompact hliteral
    · have hcount := length_lt_length_compact_array items
      refine isExpression_array (by omega) fun item hmem => ?_
      have hshorter := length_lt_length_compact_of_mem_array hmem
      exact ih item.compact.length (by omega) item (by omega) (by omega) rfl
    · have hcount := length_lt_length_compact_object members
      refine isExpression_object (by omega) fun member hmem => ?_
      have hshorter := length_lt_length_compact_of_mem_object hmem
      exact ih member.2.compact.length (by omega) member.2 (by omega) (by omega) rfl

end Values

end ModuleBundler.Json
