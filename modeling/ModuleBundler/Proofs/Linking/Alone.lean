import ModuleBundler.Proofs.Linking.Body
import ModuleBundler.Proofs.Script.Extend.Brace

/-!
# Texts that are read alone

A text that is read as one statement on its own, from its first token up to its last one, is this
statement wherever it stands in a body, if what stands behind it does not go on with it. That is so
in front of everything if the statement ends with a brace, or with a semicolon behind what is read
alone. If it ends with neither, the next token must start a line and go on with no expression.

## Main definitions

* `ReadsAlone` — texts that are one statement on their own.
* `StartsLine` — texts that go on with no line.
* `Runs` — texts that are read as one statement wherever they stand.
* `StaysIf` — texts of which this is so in the body of a factory if a condition holds.

## Main results

* `ReadsAlone.runs_of_brace`, `ReadsAlone.runs_of_semicolon` — statements that end themselves.
* `ReadsAlone.runs_of_line` — statements that end with their line.
* `Runs.standsIf` — when they stand in the body of a factory.
-/

namespace ModuleBundler.Script

/-! ### Starting behind other blanks -/

section Restart

variable {goal : Goal} {next : Lexeme} {behind behind' : List Char} {target : Cursor}

/-- Cursors that stand at one token, one of them behind its own blanks. -/
structure Restarted (next : Lexeme) (behind behind' : List Char) (c d : Cursor) : Prop where
  next_eq : d.next = c.next
  aligned : c.Aligned
  here_suffix : c.next.here <:+ next.here
  behind_eq : d.behind = c.behind ∨ c.behind = behind ∧ d.behind = behind'

namespace Restarted

variable {c d c' d' : Cursor}

theorem advance (h : Restarted next behind behind' c d) (hadvance : c.advance goal = .ok c') :
    ∃ d', d.advance goal = .ok d' ∧ Restarted next behind behind' c' d' := by
  have hstep := (Cursor.Step.advance hadvance).suffix h.aligned
  refine ⟨c', ?_, rfl, hstep.1, hstep.2.trans h.here_suffix, .inl rfl⟩
  rw [Cursor.advance, h.next_eq]
  exact hadvance

theorem reread {way : Rereading} (h : Restarted next behind behind' c d)
    (hreread : c.reread way = .ok c') :
    ∃ d', d.reread way = .ok d' ∧ Restarted next behind behind' c' d' := by
  have hread : Cursor.Step .script c c' := .reread way hreread
  have hstep := hread.suffix h.aligned
  obtain ⟨lexeme, hlexeme, rfl⟩ := Except.map_eq_ok_iff.mp hreread
  refine ⟨⟨lexeme, d.behind⟩, ?_, rfl, hstep.1, hstep.2.trans h.here_suffix, h.behind_eq⟩
  rw [Cursor.reread, h.next_eq, hlexeme]
  rfl

theorem distance_eq (h : Restarted next behind behind' c d)
    (h' : Restarted next behind behind' c' d') : d.distance d' = c.distance c' := by
  rw [Cursor.distance, Cursor.distance, h.next_eq, h'.next_eq]

theorem extent_eq (hbehind : next.here <:+ behind) (hbehind' : next.here <:+ behind')
    (h : Restarted next behind behind' c d) (h' : Restarted next behind behind' c' d') :
    d.extent d' = c.extent c' := by
  obtain hsame | ⟨hleft, hright⟩ := h'.behind_eq
  · rw [Cursor.extent, Cursor.extent, h.next_eq, hsame]
  · -- Nothing stands between the start and a token behind it.
    have hle := (h.here_suffix.trans hbehind).length_le
    have hle' := (h.here_suffix.trans hbehind').length_le
    rw [Cursor.extent, Cursor.extent, h.next_eq, hleft, hright]
    omega

end Restarted

/-- Reading on from a token side by side with reading on from it behind other blanks. -/
def Simulation.restart (h : next.here <:+ behind) (h' : next.here <:+ behind')
    (htarget : ∀ keyword, target.token.kind ≠ .word keyword) : Simulation goal target where
  Related := Restarted next behind behind'
  token_eq hrelated := congrArg Lexeme.token hrelated.next_eq
  advance hrelated hadvance _ := hrelated.advance hadvance
  reread hrelated hreread _ := hrelated.reread hreread
  distance_eq := Restarted.distance_eq
  extent_eq := Restarted.extent_eq h h'
  target_ne_word := htarget

/-- What is read up to the end of a text is read so behind other blanks. -/
theorem Parser.run_restart {α : Type} {parser : Parser α} {a : α} {width depth : Nat}
    {flags : Flags} (h : (Cursor.mk next behind).Genuine goal)
    (h' : (Cursor.mk next behind').Genuine goal) (hne : behind ≠ [])
    (hrun : parser.run (ruleContext goal width flags depth) ⟨next, behind⟩ = .ok (a, .finish)) :
    parser.run (ruleContext goal width flags depth) ⟨next, behind'⟩ = .ok (a, .finish) := by
  let simulation : Simulation goal .finish :=
    .restart h.here_suffix h'.here_suffix fun _ => nofun
  have hsound := Context.sound_ruleContext goal width flags depth
  have hextends : (ruleContext goal width flags depth).Extends simulation
      (ruleContext goal width flags depth) :=
    Context.extends_ruleContext simulation (Nat.le_refl _) (Nat.le_refl _)
  obtain ⟨last, hrun', hnext, -, -, hbehind⟩ := parser.transport hsound hextends
    (c := ⟨next, behind⟩) (d := ⟨next, behind'⟩) ⟨rfl, h.aligned, List.suffix_rfl, .inr ⟨rfl, rfl⟩⟩
    a .finish hrun (.refl _)
  obtain hbehind | ⟨hbehind, -⟩ := hbehind
  · have hlast : last = .finish := congrArg₂ Cursor.mk hnext hbehind
    rwa [hlast] at hrun'
  · exact absurd hbehind.symm hne

end Restart

end ModuleBundler.Script

namespace ModuleBundler.Linking

open Script

variable {lead gap text tail : List Char} {node : Node} {width depth : Nat} {flags : Flags}
  {follow : List Char → Prop} {condition : Prop}

/-! ### Statements on their own -/

/-- What the text is read as on its own behind some blanks, where the flags say what is allowed. -/
def readAlone (flags : Flags) (lead text : List Char) : Except Fault (Node × Cursor) := do
  let next ← scanToken .script (lead ++ text)
  (Parser.statement .list).run
    (ruleContext .script (text.length + 2) flags (8 * (text.length + 2))) ⟨next, lead ++ text⟩

/-- The text is one statement on its own, on a new line or not, and ends with its last token. -/
structure ReadsAlone (flags : Flags) (text : List Char) (node : Node) : Prop where
  opens : (firstKind? text).any opensStatement
  starts : firstKind? ('\n' :: text) = firstKind? text
  reads : ∀ lead ∈ [[], ['\n']], readAlone flags lead text = .ok (node, .finish)

/-- The text starts with a line break or another separator, and its first token starts a line and
goes on with no expression. -/
structure StartsLine (chars : List Char) : Prop where
  apart : StartsApart chars
  token : ∃ next, scanToken .script chars = .ok next ∧ next.token.Ends ∧
    next.token.kind ≠ .punct .semicolon

theorem fresh_nil : Fresh [] :=
  ⟨_, rfl, nofun, nofun, nofun⟩

theorem startsLine_nil : StartsLine [] where
  apart := rfl
  token := ⟨_, rfl, .of_endOfSource rfl, nofun⟩

/-- Wherever the text stands with a text of the kind behind it, it is read as the statement, from a
token that can start one up to its end. -/
def Runs (flags : Flags) (follow : List Char → Prop) (text : List Char) (node : Node) : Prop :=
  ∃ kind, opensStatement kind ∧ ∀ ⦃lead tail width depth⦄, Blank lead → follow tail →
    text.length + 2 ≤ width → 8 * (text.length + 2) ≤ depth → ∃ start last : Cursor,
      start.At .script (lead ++ (text ++ tail)) ∧ start.token.kind = kind ∧
        last.At .script tail ∧
          (Parser.statement .list).run (ruleContext .script width flags depth) start =
            .ok (node, last)

/-- What is read as the statement, wherever the text stands with a text of the kind behind it, is
read so in a body if the condition holds; otherwise it cannot be read there. -/
def StaysIf (condition : Prop) (flags : Flags) (follow : List Char → Prop) (text : List Char)
    (node : Node) : Prop :=
  ∀ ⦃lead tail width depth⦄ ⦃start last : Cursor⦄, Blank lead → follow tail →
    start.At .script (lead ++ (text ++ tail)) → last.At .script tail →
      (Parser.statement .list).run (ruleContext .script width flags depth) start =
        .ok (node, last) →
      (condition → (Parser.statement .list).run (bodyContext width depth) start =
        .ok (node, last)) ∧
      (¬condition → ∃ fault, (Parser.statement .list).run (bodyContext width depth) start =
        .error fault)

/-- What is read in a body is read there. -/
theorem staysIf_bodyFlags : StaysIf True Parser.Reads.bodyFlags follow text node :=
  fun _ _ _ _ _ _ _ _ _ _ hrun => ⟨fun _ => hrun, fun hfalse => absurd trivial hfalse⟩

theorem StaysIf.mono {follow' : List Char → Prop} (h : StaysIf condition flags follow text node)
    (hfollow : ∀ ⦃tail⦄, follow' tail → follow tail) : StaysIf condition flags follow' text node :=
  fun _ _ _ _ _ _ hlead htail => h hlead (hfollow htail)

/-- A text that is read as a statement stands where this stays so. -/
theorem Runs.standsIf (h : Runs flags follow text node) (hnil : follow [])
    (hstays : StaysIf condition flags follow text node) : StandsIf follow condition text node := by
  obtain ⟨kind, hopens, hruns⟩ := h
  have hstarts {lead tail : List Char} (hlead : Blank lead) (htail : follow tail) :
      firstKind? (lead ++ (text ++ tail)) = some kind := by
    obtain ⟨start, _, hstart, hkind, -⟩ := hruns hlead htail (Nat.le_refl _) (Nat.le_refl _)
    exact firstKind?_eq_some.mpr ⟨start.next, hstart.next, hkind⟩
  have hown : firstKind? text = some kind := by
    have hempty := hstarts blank_nil hnil
    rwa [List.nil_append, List.append_nil] at hempty
  refine ⟨by rw [hown]; exact hopens, fun hlead htail => (hstarts hlead htail).trans hown.symm, ?_⟩
  intro lead tail width depth hlead htail hwidth hdepth
  obtain ⟨start, last, hstart, -, hlast, hrun⟩ := hruns hlead htail hwidth hdepth
  obtain ⟨hreads, hfails⟩ := hstays hlead htail hstart hlast hrun
  refine ⟨fun hc cursor hcursor => ⟨last, hlast, ?_⟩, fun hc cursor hcursor => ?_⟩
  · rw [hcursor.unique hstart]
    exact hreads hc
  · rw [hcursor.unique hstart]
    exact hfails hc

namespace ReadsAlone

variable {kind : TokenKind}

theorem ne_nil (h : ReadsAlone flags text node) : text ≠ [] := by
  rintro rfl
  exact Bool.false_ne_true h.opens

theorem exists_kind (h : ReadsAlone flags text node) :
    ∃ kind, firstKind? text = some kind ∧ opensStatement kind :=
  Option.any_eq_true _ _ |>.mp h.opens

/-- Behind all blanks the text is read as it is on its own. -/
theorem exists_start (h : ReadsAlone flags text node) (hkind : firstKind? text = some kind)
    (hlead : Blank lead) : ∃ start : Cursor, start.At .script (lead ++ text) ∧
      start.token.kind = kind ∧ (Parser.statement .list).run
        (ruleContext .script (text.length + 2) flags (8 * (text.length + 2))) start =
          .ok (node, .finish) := by
  obtain ⟨front, hfront, hscan⟩ : ∃ front ∈ [[], ['\n']],
      scanToken .script (lead ++ text) = scanToken .script (front ++ text) := by
    obtain ⟨newline, hskip⟩ := hlead false
    rw [scanToken, hskip]
    cases newline with
    | false => exact ⟨[], List.mem_cons_self, rfl⟩
    | true => exact ⟨['\n'], List.mem_cons_of_mem _ List.mem_cons_self, rfl⟩
  have hsame : firstKind? (front ++ text) = firstKind? text := by
    obtain rfl | rfl : front = [] ∨ front = ['\n'] := by simpa using hfront
    · rfl
    · exact h.starts
  obtain ⟨next, hnext, hrun⟩ := Except.bind_eq_ok_iff.mp (h.reads front hfront)
  obtain ⟨next', hnext', rfl⟩ := firstKind?_eq_some.mp (hsame.trans hkind)
  obtain rfl := Except.ok.inj (hnext.symm.trans hnext')
  have hstart : scanToken .script (lead ++ text) = .ok next := hscan.trans hnext
  refine ⟨⟨next, lead ++ text⟩, ⟨hstart, rfl⟩, rfl, ?_⟩
  exact Parser.run_restart (Cursor.genuine_of_scanToken hnext) (Cursor.genuine_of_scanToken hstart)
    (List.append_ne_nil_of_right_ne_nil _ h.ne_nil) hrun

/-- In front of a brink a statement ends with the brace with which it does on its own. -/
theorem exists_run_of_brink (h : ReadsAlone flags text node) (hkind : firstKind? text = some kind)
    (hending : node.ending = .brace) (hlead : Blank lead) (brink : Brink)
    (hgoal : brink.goal = .script) (hwidth : text.length + 2 ≤ width)
    (hdepth : 8 * (text.length + 2) ≤ depth) :
    ∃ start : Cursor, start.At .script (lead ++ (text ++ brink.tail)) ∧ start.token.kind = kind ∧
      EndsClosed text ∧ (Parser.statement .list).run (ruleContext .script width flags depth) start =
        .ok (node, brink.stop) := by
  obtain ⟨start, hstart, hfirst, hrun⟩ := h.exists_start hkind hlead
  have hspelled : start.Spelled brink.goal := fun _ _ => hgoal.symm ▸ hstart.behind ▸ hstart
  have hcontexts : brink.Contexts
      (ruleContext .script (text.length + 2) flags (8 * (text.length + 2)))
      (ruleContext .script width flags depth) := by
    rw [← hgoal]
    exact Brink.contexts_ruleContext hwidth hdepth
  have hshuts : brink.Shuts Brink.EndsWithBrace (Parser.statement .list) := .statement .list
  obtain ⟨⟨last, hreach, hsealed, hclosed⟩, hrun'⟩ := hshuts hcontexts hspelled node hrun
    fun _ => hending
  rw [hgoal] at hreach
  have hstart' : (start.extend brink.tail).At .script (lead ++ text ++ brink.tail) :=
    hreach.at_extend hstart hsealed hclosed.parted
  rw [List.append_assoc] at hstart'
  have hhere : last.next.here <:+ lead ++ text :=
    (hreach.suffix hstart.aligned).trans (hstart.behind ▸ hstart.genuine.here_suffix)
  exact ⟨start.extend brink.tail, hstart', hfirst, (hclosed.suffix hhere).of_append h.ne_nil,
    hrun'⟩

/-- **A statement that ends with a brace is read wherever it is put.** -/
theorem runs_of_brace (h : ReadsAlone flags text node) (hending : node.ending = .brace) :
    Runs flags Fresh text node := by
  obtain ⟨kind, hkind, hopens⟩ := h.exists_kind
  refine ⟨kind, hopens, fun lead tail width depth hlead htail hwidth hdepth => ?_⟩
  obtain ⟨next, hnext, hfresh⟩ := htail
  let brink : Brink := ⟨.script, tail, ⟨next, tail⟩, ⟨hnext, rfl⟩, hfresh.1, hfresh.2.2⟩
  obtain ⟨start, hstart, hfirst, -, hrun⟩ :=
    h.exists_run_of_brink hkind hending hlead brink rfl hwidth hdepth
  exact ⟨start, brink.stop, hstart, hfirst, brink.at_stop, hrun⟩

/-- The brace, or the semicolon, is the last character of the text. -/
theorem endsClosed_of_brace (h : ReadsAlone flags text node) (hending : node.ending = .brace) :
    EndsClosed text := by
  obtain ⟨kind, hkind, -⟩ := h.exists_kind
  let brink : Brink := ⟨.script, [], .finish, ⟨rfl, rfl⟩, nofun, nofun⟩
  obtain ⟨-, -, -, hclosed, -⟩ := h.exists_run_of_brink hkind hending blank_nil brink rfl
    (Nat.le_refl _) (Nat.le_refl _)
  exact hclosed

/-- In front of a seam the statement ends as it does on its own. -/
theorem exists_run_of_seam (h : ReadsAlone flags text node) (hkind : firstKind? text = some kind)
    (hopens : opensStatement kind) (hending : node.ending = .semicolon) (hopen : EndsOpen text)
    (hlead : Blank lead) (seam : Seam) (hgoal : seam.goal = .script)
    (hwidth : text.length + 2 ≤ width) (hdepth : 8 * (text.length + 2) ≤ depth) :
    ∃ start : Cursor, start.At .script (lead ++ (text ++ seam.tail)) ∧ start.token.kind = kind ∧
      (Parser.statement .list).run (ruleContext .script width flags depth) start =
        .ok (node, seam.final) := by
  obtain ⟨start, hstart, hfirst, hrun⟩ := h.exists_start hkind hlead
  have hgenuine : start.Genuine .script := hstart.genuine
  have hnil : start.next.here ≠ [] := by
    intro hnil
    rw [← hfirst, hgenuine.fits.ends.mpr hnil] at hopens
    contradiction
  have hsuffix : start.next.here <:+ lead ++ text := hstart.behind ▸ hgenuine.here_suffix
  have hlive : start.Live seam.goal := by
    rw [hgoal]
    exact ⟨hgenuine, fun _ _ => hstart.behind ▸ hstart, (hopen.append lead).of_suffix hsuffix hnil⟩
  have hcontexts : seam.AllContexts
      (ruleContext .script (text.length + 2) flags (8 * (text.length + 2)))
      (ruleContext .script width flags depth) := by
    rw [← hgoal]
    exact Seam.allContexts_ruleContext hwidth hdepth
  obtain ⟨-, hlands⟩ := Seam.Concludes.statement .list hcontexts hlive node .finish hrun .done
  obtain ⟨-, last, hrun', hpast⟩ := hlands (by rw [hending]; decide)
  have hlast : last = seam.final := by
    rw [hpast.eq_behind, hending]
    rfl
  have hscan : scanToken .script (lead ++ text ++ seam.tail) = .ok (start.next.extend seam.tail) :=
    scanToken_extend seam.tail hstart.next (seam.apart.parted hnil) (.inr (.inr seam.apart))
  have hstart' : (start.extend seam.tail).At .script (lead ++ text ++ seam.tail) :=
    ⟨hscan, congrArg (· ++ seam.tail) hstart.behind⟩
  rw [List.append_assoc] at hstart'
  exact ⟨start.extend seam.tail, hstart', hfirst, hlast ▸ hrun'⟩

/-- **A statement with a semicolon behind it is read wherever it is put.** -/
theorem runs_of_semicolon (h : ReadsAlone flags text node) (hending : node.ending = .semicolon)
    (hopen : EndsOpen text) (hgap : Blank gap) (hapart : StartsApart (gap ++ [';'])) :
    Runs flags Fresh (text ++ (gap ++ [';'])) node := by
  obtain ⟨kind, hkind, hopens⟩ := h.exists_kind
  refine ⟨kind, hopens, fun lead tail width depth hlead htail hwidth hdepth => ?_⟩
  obtain ⟨next, hnext, hfresh⟩ := htail
  obtain ⟨newline, hscan⟩ : ∃ newline, scanToken .script (gap ++ (';' :: tail)) =
      .ok (lexeme ⟨';' :: tail, newline⟩ (.punct .semicolon) tail [] false) := by
    obtain ⟨newline, hskip⟩ := hgap false
    exact ⟨newline, by rw [scanToken, hskip]; rfl⟩
  have hstops : ∃ c, (gap ++ [';']).head? = some c ∧ (gap ++ (';' :: tail)).head? = some c := by
    cases gap with
    | nil => exact ⟨';', rfl, rfl⟩
    | cons c gap => exact ⟨c, rfl, rfl⟩
  let seam : Seam :=
    { goal := .script
      tail := gap ++ (';' :: tail)
      stop := ⟨lexeme ⟨';' :: tail, newline⟩ (.punct .semicolon) tail [] false,
        gap ++ (';' :: tail)⟩
      final := ⟨next, tail⟩
      apart := by
        obtain ⟨c, hc, hc'⟩ := hstops
        rw [StartsApart, hc] at hapart
        rw [StartsApart, hc']
        exact hapart
      at_stop := ⟨hscan, rfl⟩
      ends := ⟨rfl, .inr rfl⟩
      final_eq hkind := absurd rfl hkind
      advance_stop _ := by
        show (scanToken .script tail).map _ = _
        rw [hnext]
        rfl
      not_else := hfresh.1 }
  rw [List.length_append] at hwidth hdepth
  obtain ⟨start, hstart, hfirst, hrun⟩ := h.exists_run_of_seam hkind hopens hending hopen hlead
    seam rfl (show _ ≤ width by omega) (show _ ≤ depth by omega)
  have htext : lead ++ (text ++ (gap ++ [';']) ++ tail) =
      lead ++ (text ++ (gap ++ (';' :: tail))) := by simp
  exact ⟨start, seam.final, htext ▸ hstart, hfirst, ⟨hnext, rfl⟩, hrun⟩

/-- **A statement is read where its line ends**, and the next one goes on with no expression. -/
theorem runs_of_line (h : ReadsAlone flags text node) (hending : node.ending = .semicolon)
    (hopen : EndsOpen text) : Runs flags StartsLine text node := by
  obtain ⟨kind, hkind, hopens⟩ := h.exists_kind
  refine ⟨kind, hopens, fun lead tail width depth hlead htail hwidth hdepth => ?_⟩
  obtain ⟨next, hnext, hends, hsemicolon⟩ := htail.token
  let seam : Seam :=
    { goal := .script
      tail
      stop := ⟨next, tail⟩
      final := ⟨next, tail⟩
      apart := htail.apart
      at_stop := ⟨hnext, rfl⟩
      ends := hends
      final_eq _ := rfl
      advance_stop hkind := absurd hkind hsemicolon
      not_else := hends.ne_of_goesOn rfl }
  obtain ⟨start, hstart, hfirst, hrun⟩ :=
    h.exists_run_of_seam hkind hopens hending hopen hlead seam rfl hwidth hdepth
  exact ⟨start, seam.final, hstart, hfirst, ⟨hnext, rfl⟩, hrun⟩

end ReadsAlone

end ModuleBundler.Linking
