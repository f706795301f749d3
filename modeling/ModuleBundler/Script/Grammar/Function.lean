import ModuleBundler.Script.Grammar.Binding

/-!
# Functions

The words `await` and `yield` are operators inside a function if and only if its form says so, and
every function has its own rules for `return`.

## Main definitions

* `Script.Parser.functionRule` — a function from its first keyword on.
* `Script.Parser.methodRest` — what follows the name of a method.
* `Script.Parser.functionBody` — statements in braces as the body of a function.
-/

namespace ModuleBundler.Script.Parser

/-- Runs a parser inside the body of a function. -/
def inFunction {α : Type} (form : FunctionForm) (parser : Parser α) : Parser α :=
  withFlags (fun _ =>
    { allowIn := true
      allowAwait := form.isAsync
      allowYield := form.isGenerator
      allowReturn := true }) parser

/-- The body of a function. -/
def functionBody (form : FunctionForm) : Parser Node :=
  inFunction form do
    expectPunct .openBrace
    let statements ← repeatUntil (atPunct .closeBrace) (statement .list)
    expectPunct .closeBrace
    return .mk .functionBody statements

/-- The parameters of a function. -/
def parameters (form : FunctionForm) : Parser Node :=
  withIn <| withOperatorWords form.isAsync form.isGenerator do
    expectPunct .openParen
    let items ← patternItems .closeParen bindingElement binding
    expectPunct .closeParen
    return .mk .parameters items

/-- The parameters and the body of a method. -/
def methodRest (form : FunctionForm) : Parser Node := do
  let parameters ← parameters form
  let body ← functionBody form
  return .mk (.function form) [.absent, parameters, body]

/-- The name of a function expression, which is read inside the function. -/
def functionName (form : FunctionForm) : Parser Node := do
  if ← atPunct .openParen then absent
  else
    withOperatorWords form.isAsync form.isGenerator identifier

/-- A function from the word `async` or `function` on; `name` reads its name. -/
def functionRule (name : FunctionForm → Parser Node) : Parser Node := do
  let isAsync ← eatKeyword .async_
  expectKeyword .function_
  let isGenerator ← eatPunct (.operator .multiply)
  let form : FunctionForm := ⟨isAsync, isGenerator, false⟩
  let name ← name form
  let parameters ← parameters form
  let body ← functionBody form
  return .mk (.function form) [name, parameters, body]

/-- Does the word `async` start a function here? -/
def atAsyncFunction : Parser Bool := do
  unless ← atKeyword .async_ do return false
  let second ← peekSecond
  return second.any fun token => token.kind == .word (some .function_) && !token.newline

end ModuleBundler.Script.Parser
