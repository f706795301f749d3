import ModuleBundler.Proofs.Linking.Splicing
import ModuleBundler.Proofs.Script.Postcondition
import ModuleBundler.Proofs.Script.Progress

/-!
# How a module is laid out

The items of a module follow each other in its source, with nothing but blanks and comments between
them: the stretch of an item goes from its first token up to the end of its last one, and what an
export keeps stands inside of its stretch.

## Main definitions

* `LaidOut` — a text with its items and the gaps between them.

## Main results

* `exists_laidOut` — the source of a module is laid out behind its first line.
* `itemsInOrder_of_parseModule` — the items of a module are in order.
-/

namespace ModuleBundler.Script

variable {goal : Goal} {context : Context} {start first last : Cursor}
  {exports : Script.Exports} {item : Item} {items : List Item} {position : Nat}
  {gap text rest : List Char}

/-- The text from a position on: items with blanks in front of them, each with the stretch that it
takes up, and a gap behind the last one. -/
inductive LaidOut : (position : Nat) → (text : List Char) → List Item → Prop
  | done {position : Nat} {gap : List Char} (hgap : Gap gap []) : LaidOut position gap []
  | item {position : Nat} {gap text rest : List Char} {item : Item} {items : List Item}
    (hgap : Blank gap) (hstart : item.span.start = position + gap.length)
    (hstop : item.span.stop = item.span.start + text.length) (hplaced : item.Placed)
    (hrest : LaidOut item.span.stop rest items) :
    LaidOut position (gap ++ (text ++ rest)) (item :: items)

namespace Parser

/-! ### What an export keeps -/

/-- The export keeps a part of what stands between two cursors. -/
def KeepsWithin (start last : Cursor) (exports : Exports) : Prop :=
  exports.Inside ⟨0, start.extent last⟩

theorem KeepsWithin.trans (h : KeepsWithin start first exports) (hstart : first.Genuine goal)
    (hreach : first.Reaches goal last) : KeepsWithin start last exports := by
  have hle : start.extent first ≤ start.extent last :=
    Nat.sub_le_sub_left (hreach.behind_suffix hstart).length_le _
  cases exports with
  | declaration => exact ⟨h.1, h.2.trans hle⟩
  | defaultValue => exact ⟨h.1, h.2.1, h.2.2.trans hle⟩
  | all | fromModule | names => trivial

/-- Exports of names keep nothing. -/
theorem ensures_exportList :
    exportList.Ensures (fun _ => True) fun exports => ∀ span, exports.Inside span := by
  refine .after fun _ => .after fun listed => .after fun hasSource => .ite (fun _ => ?_) fun _ => ?_
  · exact .after fun _ => .after fun _ => .after fun _ => .pure fun _ => trivial
  · exact .reject fun _ => .after fun _ => .pure fun _ => trivial

theorem ensures_exportAll :
    exportAll.Ensures (fun _ => True) fun exports => ∀ span, exports.Inside span := by
  refine .after fun _ => .after fun hasName => .ite (fun _ => .after fun _ => ?_) fun _ => ?_
  · refine .after fun _ => .after fun _ => .after fun _ => .after fun _ => .after fun _ => ?_
    exact .pure fun _ => trivial
  · refine .after fun _ => .after fun _ => .after fun _ => .after fun _ => .after fun _ => ?_
    exact .pure fun _ => trivial

section Export

variable (hsound : context.Sound) (hstart : start.Genuine context.goal)
  (hreach : start.Reaches context.goal first)

include hsound hstart hreach

/-- A default export keeps its value. -/
theorem keepsWithin_defaultValue {value : Parser Node} (hvalue : value.Advances context)
    (hrun : (defaultValue (start.distance first) value).run context first = .ok (exports, last)) :
    KeepsWithin start last exports := by
  obtain ⟨⟨node, length⟩, last', hextent, hrest⟩ := bind_eq_ok_iff.mp hrun
  obtain ⟨rfl, rfl⟩ := Prod.mk.inj (Except.ok.inj hrest)
  obtain ⟨hread, rfl⟩ := withExtent_eq_ok hextent
  have hbehind := ((hvalue hsound hread).behind_suffix (hreach.genuine hstart)).length_le
  have hhere := (hreach.suffix hstart.aligned).length_le
  refine ⟨Nat.zero_le _, Nat.le_add_right _ _, ?_⟩
  simp only [Cursor.distance, Cursor.extent]
  omega

theorem keepsWithin_exportDefault
    (hassignment : (withIn assignment).Advances context)
    (hrun : (exportDefault (start.distance first)).run context first = .ok (exports, last)) :
    KeepsWithin start last exports := by
  obtain ⟨⟨⟨⟩, distance⟩, second, hextent, hrun⟩ := bind_eq_ok_iff.mp hrun
  obtain ⟨hdefault, rfl⟩ := withDistance_eq_ok hextent
  have hsecond : first.Reaches context.goal second := (expectKeyword _).forward hsound hdefault
  have hreach' := hreach.trans hsecond
  have hdistance : start.distance first + first.distance second = start.distance second := by
    have hhere := (hreach.suffix hstart.aligned).length_le
    have hhere' := (hsecond.suffix (hreach.genuine hstart).aligned).length_le
    simp only [Cursor.distance]
    omega
  obtain ⟨_, hrun⟩ := (Still.atKeyword _).exists_of_bind hrun
  obtain ⟨_, hrun⟩ := Still.atAsyncFunction.exists_of_bind hrun
  rw [hdistance] at hrun
  dsimp only at hrun
  split at hrun
  · exact keepsWithin_defaultValue hsound hstart hreach' (.functionRule _) hrun
  · obtain ⟨_, hrun⟩ := (Still.atKeyword _).exists_of_bind hrun
    obtain ⟨_, hrun⟩ := (Still.atPunct _).exists_of_bind hrun
    split at hrun
    · exact keepsWithin_defaultValue hsound hstart hreach' .classRule hrun
    · obtain ⟨value, third, hvalue, hrun⟩ := bind_eq_ok_iff.mp hrun
      obtain ⟨_, last', hend, hrun⟩ := bind_eq_ok_iff.mp hrun
      obtain ⟨rfl, rfl⟩ := Prod.mk.inj (Except.ok.inj hrun)
      have hthird : third.Genuine context.goal :=
        ((defaultValue _ _).forward hsound hvalue).genuine (hreach'.genuine hstart)
      exact (keepsWithin_defaultValue hsound hstart hreach' hassignment hvalue).trans hthird
        (endStatement.forward hsound hend)

/-- The export of a declaration keeps the declaration. -/
theorem keepsWithin_declaration {declaration : Parser Node} (h : declaration.Advances context)
    (hrun : (declaration >>= fun node => pure (.declaration (start.distance first) node)).run
      context first = .ok (exports, last)) : KeepsWithin start last exports := by
  obtain ⟨node, last', hread, hrest⟩ := bind_eq_ok_iff.mp hrun
  obtain ⟨rfl, rfl⟩ := Prod.mk.inj (Except.ok.inj hrest)
  have hbehind := ((h hsound hread).behind_suffix (hreach.genuine hstart)).length_le
  have hhere := (hreach.suffix hstart.aligned).length_le
  refine ⟨Nat.zero_le _, ?_⟩
  simp only [Cursor.distance, Cursor.extent]
  omega

theorem keepsWithin_exportedDeclaration
    (hrun : (exportedDeclaration (start.distance first)).run context first =
      .ok (exports, last)) : KeepsWithin start last exports := by
  obtain ⟨token, hrun⟩ := Still.peek.exists_of_bind hrun
  split at hrun
  · exact keepsWithin_declaration hsound hstart hreach (.variableStatement _) hrun
  · exact keepsWithin_declaration hsound hstart hreach (.variableStatement _) hrun
  · exact keepsWithin_declaration hsound hstart hreach (.variableStatement _) hrun
  · exact keepsWithin_declaration hsound hstart hreach (.classDeclaration _) hrun
  · exact keepsWithin_declaration hsound hstart hreach (.classDeclaration _) hrun
  · exact keepsWithin_declaration hsound hstart hreach (.functionDeclaration _) hrun
  · obtain ⟨_, hrun⟩ := Still.atAsyncFunction.exists_of_bind hrun
    split at hrun
    · exact keepsWithin_declaration hsound hstart hreach (.functionDeclaration _) hrun
    · cases hrun
  · cases hrun

end Export

/-! ### Items -/

section Items

variable (hsound : context.Sound) (hstart : start.Genuine context.goal)
  (hassignment : (withIn assignment).Advances context)

include hsound hstart hassignment

theorem placed_exportDeclaration {declaration : ExportDeclaration}
    (hrun : exportDeclaration.run context start = .ok (declaration, last)) :
    declaration.span = ⟨0, start.extent last⟩ ∧ (Item.exporting declaration).Placed := by
  obtain ⟨⟨exports, length⟩, last', hextent, hrest⟩ := bind_eq_ok_iff.mp hrun
  obtain ⟨rfl, rfl⟩ := Prod.mk.inj (Except.ok.inj hrest)
  obtain ⟨hread, rfl⟩ := withExtent_eq_ok hextent
  refine ⟨rfl, Nat.zero_le _, ?_⟩
  obtain ⟨⟨⟨⟩, distance⟩, first, hdistance, hread⟩ := bind_eq_ok_iff.mp hread
  obtain ⟨hexport, rfl⟩ := withDistance_eq_ok hdistance
  have hreach : start.Reaches context.goal first := (expectKeyword _).forward hsound hexport
  obtain ⟨token, hread⟩ := Still.peek.exists_of_bind hread
  split at hread
  · exact ensures_exportList trivial hread _
  · exact ensures_exportAll trivial hread _
  · exact keepsWithin_exportDefault hsound hstart hreach hassignment hread
  · exact keepsWithin_exportedDeclaration hsound hstart hreach hread

/-- An item takes up what is passed over by reading it. -/
theorem placed_item (hrun : Parser.item.run context start = .ok (item, last)) :
    item.span = ⟨0, start.extent last⟩ ∧ item.Placed := by
  obtain ⟨isImport, hrun⟩ := Still.atImportDeclaration.exists_of_bind hrun
  split at hrun
  · obtain ⟨declaration, last', hread, hrest⟩ := bind_eq_ok_iff.mp hrun
    obtain ⟨rfl, rfl⟩ := Prod.mk.inj (Except.ok.inj hrest)
    obtain ⟨⟨⟨phase, clause, specifier⟩, length⟩, last'', hextent, hrest⟩ :=
      bind_eq_ok_iff.mp hread
    obtain ⟨rfl, rfl⟩ := Prod.mk.inj (Except.ok.inj hrest)
    obtain ⟨-, rfl⟩ := withExtent_eq_ok hextent
    exact ⟨rfl, Nat.zero_le _⟩
  · obtain ⟨isExport, hrun⟩ := (Still.atKeyword _).exists_of_bind hrun
    split at hrun
    · obtain ⟨declaration, last', hread, hrest⟩ := bind_eq_ok_iff.mp hrun
      obtain ⟨rfl, rfl⟩ := Prod.mk.inj (Except.ok.inj hrest)
      exact placed_exportDeclaration hsound hstart hassignment hread
    · obtain ⟨⟨node, length⟩, last', hextent, hrest⟩ := bind_eq_ok_iff.mp hrun
      obtain ⟨rfl, rfl⟩ := Prod.mk.inj (Except.ok.inj hrest)
      obtain ⟨-, rfl⟩ := withExtent_eq_ok hextent
      exact ⟨rfl, Nat.zero_le _⟩

end Items

end Parser

/-! ### Modules -/

theorem Item.span_behind (position : Nat) (item : Item) :
    (item.behind position).span = item.span.behind position := by
  cases item <;> rfl

theorem Item.Placed.behind (h : item.Placed) (position : Nat) : (item.behind position).Placed := by
  cases item with
  | importing | statement => exact Nat.add_le_add_left h position
  | exporting declaration =>
    obtain ⟨span, exports⟩ := declaration
    obtain ⟨hspan, hinside⟩ := h
    refine ⟨Nat.add_le_add_left hspan position, ?_⟩
    cases exports with
    | declaration => exact ⟨Nat.add_le_add_left hinside.1 _, Nat.add_le_add_left hinside.2 _⟩
    | defaultValue =>
      exact ⟨Nat.add_le_add_left hinside.1 _, Nat.add_le_add_left hinside.2.1 _,
        Nat.add_le_add_left hinside.2.2 _⟩
    | all | fromModule | names => trivial

/-- One round of reading items: one item, or the end. -/
def Parser.itemsRound : Nat × List Item → Parser ((Nat × List Item) ⊕ List Item) :=
  fun (position, reversed) => do
    if ← Parser.atEnd then return .inr reversed.reverse
    let (item, distance) ← Parser.withDistance Parser.item
    return .inl (position + distance, item.behind position :: reversed)

theorem Parser.items_eq (start : Nat) :
    Parser.items start = Parser.loop Parser.itemsRound (start, []) :=
  rfl

/-- The items that are read from a cursor on are laid out there. -/
theorem laidOut_of_rounds {fuel : Nat} {reversed : List Item}
    (hgoal : context.goal = .module) (hsound : context.Sound)
    (hassignment : (Parser.withIn Parser.assignment).Advances context)
    (hstart : start.Genuine .module) (hgap : Gap gap start.next.here)
    (hrun : (Parser.rounds Parser.itemsRound fuel (position + gap.length, reversed)).run context
      start = .ok (items, last)) :
    ∃ more, items = reversed.reverse ++ more ∧ LaidOut position (gap ++ start.next.here) more := by
  induction fuel generalizing start position gap reversed with
  | zero => cases hrun
  | succ fuel ih =>
    obtain ⟨outcome, between, hround, hrest⟩ := Parser.bind_eq_ok_iff.mp hrun
    obtain ⟨isEnd, looked, hend, hround⟩ := Parser.bind_eq_ok_iff.mp hround
    obtain ⟨rfl, rfl⟩ : (start.token.kind == .endOfSource) = isEnd ∧ start = looked :=
      Prod.mk.inj (Except.ok.inj hend)
    by_cases hkind : start.token.kind = .endOfSource
    · have hnil : start.next.here = [] := hstart.fits.ends.mp hkind
      rw [hkind, beq_self_eq_true, if_pos rfl] at hround
      obtain ⟨rfl, rfl⟩ := Prod.mk.inj (Except.ok.inj hround)
      obtain ⟨rfl, -⟩ := Prod.mk.inj (Except.ok.inj hrest)
      refine ⟨[], (List.append_nil _).symm, ?_⟩
      rw [hnil, List.append_nil]
      exact .done (hnil ▸ hgap)
    · have hne : start.next.here ≠ [] := fun hnil => hkind (hstart.fits.ends.mpr hnil)
      rw [beq_eq_false_iff_ne.mpr hkind, if_neg Bool.false_ne_true] at hround
      obtain ⟨⟨item, distance⟩, second, hdistance, hround⟩ := Parser.bind_eq_ok_iff.mp hround
      obtain ⟨rfl, rfl⟩ := Prod.mk.inj (Except.ok.inj hround)
      obtain ⟨hitem, rfl⟩ := Parser.withDistance_eq_ok hdistance
      have hreach : start.Reaches .module second := hgoal ▸ Parser.item.forward hsound hitem
      obtain ⟨text, gap', hhere, hlength, hgap'⟩ := hreach.exists_gap hstart
      obtain ⟨hspan, hplaced⟩ := Parser.placed_item hsound (hgoal ▸ hstart) hassignment hitem
      have hspan' : (item.behind (position + gap.length)).span =
          ⟨position + gap.length, position + gap.length + text.length⟩ := by
        rw [Item.span_behind, hspan, hlength]
        rfl
      have hposition : position + gap.length + start.distance second =
          position + gap.length + text.length + gap'.length := by
        rw [Cursor.distance, hhere]
        simp only [List.length_append]
        omega
      rw [hposition] at hrest
      obtain ⟨more, rfl, hmore⟩ := ih (hreach.genuine hstart) hgap' hrest
      refine ⟨item.behind (position + gap.length) :: more, by simp, ?_⟩
      rw [hhere]
      refine .item (hgap.blank (.inl hne)) (by rw [hspan']) (by rw [hspan']) (hplaced.behind _) ?_
      rw [hspan']
      exact hmore

/-- What `parseModule` comes to is what the parser for items comes to from the first token on. -/
theorem exists_run_of_parseModule {source : List Char} (h : parseModule source = .ok items) :
    ∃ cursor last, startCursor .module source = .ok cursor ∧
      (Parser.items (source.length - cursor.next.here.length)).run
        (topContext .module source.length) cursor = .ok (items, last) := by
  obtain ⟨cursor, hcursor, h⟩ := Except.bind_eq_ok_iff.mp h
  obtain ⟨items', hread, h⟩ := Except.bind_eq_ok_iff.mp h
  obtain ⟨cursor', hcursor', hread⟩ := Except.bind_eq_ok_iff.mp hread
  obtain rfl := Except.ok.inj (hcursor.symm.trans hcursor')
  obtain ⟨⟨items'', last⟩, hrun, hread⟩ := Except.bind_eq_ok_iff.mp hread
  obtain rfl := Except.ok.inj hread
  refine ⟨cursor, last, hcursor, ?_⟩
  split_ifs at h
  · obtain ⟨_, hfail, -⟩ := Except.bind_eq_ok_iff.mp h
    cases hfail
  · dsimp only at h
    split at h
    · obtain rfl := Except.ok.inj h
      exact hrun
    · cases h

/-- What is passed over at the start of a source is a line that starts with `#!`. -/
theorem exists_shebang (source : List Char) : ∃ line, source = line ++ skipShebang source ∧
    (line = [] ∨ ∃ more, line = '#' :: '!' :: more) := by
  unfold skipShebang
  split
  · next cs =>
    refine ⟨'#' :: '!' :: cs.takeWhile fun c => !isLineBreak c, ?_, .inr ⟨_, rfl⟩⟩
    rw [List.cons_append, List.cons_append, List.takeWhile_append_dropWhile]
  · exact ⟨[], rfl, .inl rfl⟩

/-- **The source of a module is laid out** behind its first line, if that is passed over. -/
theorem exists_laidOut {source : List Char} (h : parseModule source = .ok items) :
    ∃ line, source = line ++ skipShebang source ∧
      (line = [] ∨ ∃ more, line = '#' :: '!' :: more) ∧
        LaidOut line.length (skipShebang source) items := by
  obtain ⟨cursor, last, hcursor, hrun⟩ := exists_run_of_parseModule h
  obtain ⟨next, hnext, rfl⟩ := Except.map_eq_ok_iff.mp hcursor
  have hgenuine := Cursor.genuine_of_scanToken hnext
  obtain ⟨gap, hgap, hblank⟩ := hgenuine.exists_gap
  replace hgap : skipShebang source = gap ++ next.here := hgap
  obtain ⟨line, hline, hshebang⟩ := exists_shebang source
  have hposition : source.length - next.here.length = line.length + gap.length := by
    have hlength := congrArg List.length hline
    rw [hgap] at hlength
    simp only [List.length_append] at hlength
    omega
  have hsound : (topContext .module source.length).Sound := Context.sound_ruleContext _ _ _ _
  have hassignment : (Parser.withIn Parser.assignment).Advances
      (topContext .module source.length) := .withFlags .assignment
  rw [hposition, Parser.items_eq] at hrun
  change (Parser.rounds Parser.itemsRound (source.length + 1) (line.length + gap.length, [])).run
    _ _ = _ at hrun
  obtain ⟨more, rfl, hlaid⟩ := laidOut_of_rounds rfl hsound hassignment hgenuine hblank hrun
  refine ⟨line, hline, hshebang, ?_⟩
  rw [hgap]
  exact hlaid

/-- Items that are laid out in a text follow each other. -/
theorem LaidOut.itemsInOrder {position length : Nat} {text : List Char} {items : List Item}
    (h : LaidOut position text items) (hlength : length = position + text.length) :
    ItemsInOrder length position items := by
  induction h with
  | done hgap => exact hlength ▸ Nat.le_add_right _ _
  | item hgap hstart hstop hplaced hrest ih =>
    simp only [List.length_append] at hlength
    exact ⟨by omega, hplaced, ih (by omega)⟩

/-- **The items of a module are in order.** -/
theorem itemsInOrder_of_parseModule {source : List Char} (h : parseModule source = .ok items) :
    ItemsInOrder source.length 0 items := by
  obtain ⟨line, hsource, -, hlaid⟩ := exists_laidOut h
  have hlength : source.length = line.length + (skipShebang source).length := by
    rw [← List.length_append, ← hsource]
  have horder : ItemsInOrder source.length line.length items := hlaid.itemsInOrder hlength
  cases items with
  | nil => exact Nat.zero_le _
  | cons item items => exact ⟨Nat.zero_le _, horder.2⟩

end ModuleBundler.Script
