import ModuleBundler.Cause
import ModuleBundler.Rendering.ModuleTable

/-!
# Templates

A template is a text with *slots*: names in double braces, in place of which the modules stand in
the bundle. Every template must have a slot for the code of the modules, and no slot with a name
that means nothing.

## Main definitions

* `Template.parse` — the slots of a template and the text between them.
* `Template.render` — the bundle that a template makes of modules.
* `Template.standard` — the template that is used when there is no other one.
-/

namespace ModuleBundler

open Text

/-- Makes a bundle of modules by a template, or refuses to. -/
abbrev Renderer := String → List RenderedModule → Except Cause String

namespace Template

/-- A part of a template. -/
inductive Piece where
  | char (c : Char)
  | slot (name : List Char)
  deriving DecidableEq, Repr

/-- Can the character stand in the name of a slot? -/
def isNameChar (c : Char) : Bool :=
  c.isAlphanum || c == '_'

/-- The slot at the start of a text: its name, and the number of characters that it takes up. -/
def slotAt? (text : List Char) : Option (List Char × Nat) :=
  match text with
  | '{' :: '{' :: inside =>
    let behindBlanks := inside.dropWhile isBlank
    let name := behindBlanks.takeWhile isNameChar
    match name, (behindBlanks.drop name.length).dropWhile isBlank with
    | c :: _, '}' :: '}' :: rest =>
      if c.isDigit then none else some (name, text.length - rest.length)
    | _, _ => none
  | _ => none

/-- The parts of a template, of which the first `inside` characters belong to a slot that was
found. -/
def parseFrom : (inside : Nat) → List Char → List Piece
  | _, [] => []
  | inside + 1, _ :: cs => parseFrom inside cs
  | 0, c :: cs =>
    match slotAt? (c :: cs) with
    | some (name, length) => .slot name :: parseFrom (length - 1) cs
    | none => .char c :: parseFrom 0 cs

/-- The parts of a template. -/
def parse (text : List Char) : List Piece :=
  parseFrom 0 text

/-! ### Rendering -/

/-- What stands in place of a slot. -/
inductive Filling where
  | modules
  | data
  | entry
  deriving DecidableEq, Repr

/-- What the name of a slot means. -/
def filling? (name : List Char) : Option Filling :=
  match String.ofList name with
  | "modules" => some .modules
  | "data" => some .data
  | "entry" => some .entry
  | _ => none

/-- Does a filling hold the code of the modules? -/
def Filling.holdsCode : Filling → Bool
  | modules | data => true
  | entry => false

/-- The text of a filling. -/
def Filling.text (modules : List RenderedModule) : Filling → List Char
  | .modules => moduleTable modules
  | .data => moduleData modules
  | .entry => AssetId.entry.text

/-- The text of a part of a template. -/
def Piece.text (modules : List RenderedModule) : Piece → List Char
  | char c => [c]
  | slot name => ((filling? name).map (Filling.text modules)).getD []

/-- Is the part a slot with a name that means nothing? -/
def Piece.isUnknown : Piece → Bool
  | char _ => false
  | slot name => (filling? name).isNone

/-- Is the part a slot for the code of the modules? -/
def Piece.holdsCode : Piece → Bool
  | char _ => false
  | slot name => (filling? name).any Filling.holdsCode

/-- A name as it stands in a template, quoted. -/
def quotedSlot (name : List Char) : String :=
  let mark := String.singleton (Char.ofNat 0x60)
  mark ++ "\x7b\x7b " ++ String.ofList name ++ " \x7d\x7d" ++ mark

/-- Why a template cannot be rendered. -/
def refusal? (pieces : List Piece) (modules : List RenderedModule) : Option String :=
  if modules.isEmpty then some "no modules to render"
  else
    match pieces.find? Piece.isUnknown with
    | some (.slot name) => some ("unknown placeholder " ++ quotedSlot name)
    | _ =>
      if pieces.any Piece.holdsCode then none
      else
        some ("template references neither " ++ quotedSlot "modules".toList ++ " nor " ++
          quotedSlot "data".toList)

/-- The bundle that a template makes of modules. -/
def render : Renderer := fun template modules =>
  let pieces := parse template.toList
  match refusal? pieces modules with
  | some message => .error (.ofMessage message)
  | none => .ok (String.ofList (pieces.flatMap (Piece.text modules)))

/-! ### The standard template -/

/-- The lines of the standard template. -/
def standardLines : List String := [
  "(function (modules) \x7b",
  "  const cache = \x7b\x7d;",
  "",
  "  function require(id) \x7b",
  "    if (cache[id]) \x7b",
  "      return cache[id].exports;",
  "    \x7d",
  "",
  "    const [factory, mapping] = modules[id];",
  "    const module = \x7b exports: \x7b\x7d \x7d;",
  "    cache[id] = module;",
  "",
  "    function localRequire(specifier) \x7b",
  "      if (!(specifier in mapping)) \x7b",
  "        throw new Error(\"Cannot find module '\" + specifier + \"'\");",
  "      \x7d",
  "      return require(mapping[specifier]);",
  "    \x7d",
  "",
  "    factory(localRequire, module, module.exports);",
  "    return module.exports;",
  "  \x7d",
  "",
  "  require(\x7b\x7b entry \x7d\x7d);",
  "\x7d)(\x7b",
  "\x7b\x7b modules \x7d\x7d",
  "\x7d);"]

/-- The template that is used when there is no other one. It runs the entry, and every module when
it is required for the first time. -/
def standard : String :=
  String.join (standardLines.map (· ++ "\n"))

end Template

end ModuleBundler
