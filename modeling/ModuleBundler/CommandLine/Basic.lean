import ModuleBundler.Settings.Basic

/-!
# Command lines

A command line consists of flags. A flag has a long name behind two hyphens, and most have a letter
behind one; letters without values can share a hyphen. A value is attached to its flag, with or
without an equals sign, or it is the next argument, which starts with no hyphen then. Values are not
empty, and no flag but the one for verbosity is repeated.

## Main definitions

* `Invocation` — what a command line asks for.
* `CommandLine`, `CommandLine.read` — the meaning of arguments.
* `Invocation.override` — settings in which the command line takes precedence.
-/

namespace ModuleBundler

/-- What a command line asks for. -/
structure Invocation where
  settings : Option Path
  entry : Option Path
  output : Option Path
  reuseByPath : Bool
  verbosity : Nat
  deriving DecidableEq, Repr

/-- The meaning of arguments. -/
inductive CommandLine where
  | build (invocation : Invocation)
  /-- How the program is used. -/
  | help
  /-- Which version of the program it is. -/
  | version
  /-- The arguments mean nothing. -/
  | refused
  deriving DecidableEq, Repr

namespace Invocation

/-- What an empty command line asks for. -/
def plain : Invocation :=
  ⟨none, none, none, false, 0⟩

/-- Settings in which the command line takes precedence. -/
def override (invocation : Invocation) (settings : Settings) : Settings :=
  { settings with
    entry := invocation.entry.or settings.entry
    output := invocation.output.or settings.output
    reuse := if invocation.reuseByPath then .byPath else settings.reuse }

end Invocation

namespace CommandLine

/-! ### Flags -/

/-- The flags that take values. -/
inductive ValueFlag where
  | settings
  | entry
  | output
  deriving DecidableEq, Repr

/-- The flags. -/
inductive Flag where
  | valued (flag : ValueFlag)
  | reuseByPath
  | verbose
  | help
  | version
  deriving DecidableEq, Repr

/-- The flag with a long name. -/
def Flag.ofName? (name : String) : Option Flag :=
  match name with
  | "config" => some (valued .settings)
  | "entry" => some (valued .entry)
  | "output" => some (valued .output)
  | "dedupe" => some reuseByPath
  | "verbose" => some verbose
  | "help" => some help
  | "version" => some version
  | _ => none

/-- The flag with a letter. -/
def Flag.ofLetter? : Char → Option Flag
  | 'c' => some (valued .settings)
  | 'e' => some (valued .entry)
  | 'o' => some (valued .output)
  | 'v' => some verbose
  | 'h' => some help
  | 'V' => some version
  | _ => none

/-- What was asked for, with the value of a flag that has none yet. -/
def give (invocation : Invocation) (flag : ValueFlag) (value : List Char) : Option Invocation :=
  if value = [] then none
  else
    match flag with
    | .settings =>
      if invocation.settings = none then some { invocation with settings := some ⟨value⟩ } else none
    | .entry =>
      if invocation.entry = none then some { invocation with entry := some ⟨value⟩ } else none
    | .output =>
      if invocation.output = none then some { invocation with output := some ⟨value⟩ } else none

/-! ### Arguments -/

/-- How far arguments have been read. -/
inductive Progress where
  | reading (invocation : Invocation)
  /-- A flag waits for its value. -/
  | awaiting (invocation : Invocation) (flag : ValueFlag)
  | help
  | version
  | failed

/-- Goes on with a flag and the value that is attached to it, if there is one. -/
def Progress.useFlag (invocation : Invocation) (flag : Flag) (attached : Option (List Char)) :
    Progress :=
  match flag, attached with
  | .valued flag, some value => (give invocation flag value).elim failed reading
  | .valued flag, none => awaiting invocation flag
  | .reuseByPath, none =>
    if invocation.reuseByPath then failed else reading { invocation with reuseByPath := true }
  | .verbose, none => reading { invocation with verbosity := invocation.verbosity + 1 }
  | .help, none => help
  | .version, none => version
  | _, some _ => failed

/-- Reads flags that share a hyphen. The letters behind a flag that takes a value are the value. -/
def readLetters (invocation : Invocation) : List Char → Progress
  | [] => .reading invocation
  | letter :: rest =>
    match Flag.ofLetter? letter with
    | none => .failed
    | some (.valued flag) =>
      match rest with
      | [] => .awaiting invocation flag
      | '=' :: value => .useFlag invocation (.valued flag) (some value)
      | value => .useFlag invocation (.valued flag) (some value)
    | some flag =>
      match Progress.useFlag invocation flag none with
      | .reading invocation => readLetters invocation rest
      | progress => progress

/-- Reads a flag with a long name and what is attached to it. -/
def readName (invocation : Invocation) (chars : List Char) : Progress :=
  let name := chars.takeWhile (· != '=')
  match Flag.ofName? (String.ofList name), chars.drop name.length with
  | none, _ => .failed
  | some flag, [] => .useFlag invocation flag none
  | some flag, _ :: value => .useFlag invocation flag (some value)

/-- Reads an argument. No argument stands alone. -/
def readArgument : Progress → List Char → Progress
  | .reading invocation, '-' :: '-' :: name => readName invocation name
  | .reading invocation, '-' :: letter :: letters => readLetters invocation (letter :: letters)
  | .reading _, _ => .failed
  | .awaiting _ _, '-' :: _ :: _ => .failed
  | .awaiting invocation flag, value => (give invocation flag value).elim .failed .reading
  | progress, _ => progress

/-- Reads arguments. Two hyphens alone end the flags, and nothing stands behind them. -/
def readFrom : Progress → List String → Progress
  | progress, [] => progress
  | .reading invocation, "--" :: rest => if rest.isEmpty then .reading invocation else .failed
  | progress, argument :: rest => readFrom (readArgument progress argument.toList) rest

/-- The meaning of arguments. -/
def read (arguments : List String) : CommandLine :=
  match readFrom (.reading .plain) arguments with
  | .reading invocation => build invocation
  | .help => help
  | .version => version
  | .awaiting _ _ | .failed => refused

end CommandLine

end ModuleBundler
