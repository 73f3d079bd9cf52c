import StaticContext.Script.Grammar.Pattern
import StaticContext.Script.Cover

/-! Functions of all forms: parameters, results and bodies. -/

namespace StaticContext.Script.Grammar
open Reads

/-- Parameters, body, type parameters and result type. A body may be left out of a declaration in
typed code. -/
def functionParts (g : Grammar) (isAsync isGenerator allowsSuper : Bool) : Reads (List Tree) :=
  withScope (·.enter isAsync isGenerator allowsSuper) do
    let typeParams ← typeParameters g
    let params ← parameters g
    let result ← resultType g
    let bodiless := (← read).dialect.types && !(← atMark "\x7b")
    let body ← if bodiless && (← eatSemicolon) then pure .absent else block g
    return [params, body, typeParams, result]

/-- A function from the word `function` on. -/
def functionTree (g : Grammar) (declared isAsync : Bool) : Reads Tree := do
  expectWord "function"
  let isGenerator ← eatMark "*"
  let name ← if (← current).name?.isSome then bindingName else pure .absent
  return .node (.function declared isAsync isGenerator)
    (name :: (← functionParts g isAsync isGenerator false))

/-- An arrow function from the arrow on. -/
def arrowTree (g : Grammar) (isAsync : Bool) (params : List Tree) (typeParams result : Tree) :
    Reads Tree := do
  if (← current).isAfterBreak then report .newlineBeforeArrow (← current).start
  expectMark "=>"
  let body ← if ← atMark "\x7b" then
      withScope (fun s => s.enter isAsync false s.allowsSuper) (block g)
    else
      withScope (fun s => { s.enter isAsync false s.allowsSuper with
        stopsAtIn := s.stopsAtIn, expectsColon := s.expectsColon }) g.assignment
  return .node (.arrow isAsync) [.list params, body, typeParams, result]

/-- Whether the current token is an arrow on the line of what is before it. -/
def atArrow : Reads Bool := do
  let t ← current
  return t.isMark "=>" && !t.isAfterBreak

/-- `async` before something that makes it a word of its own. -/
def atAsyncFunction : Reads Bool := do
  unless ← atWord "async" do return false
  let next ← lookahead
  return next.isWord "function" && !next.isAfterBreak

/-- What an item between parentheses is if an arrow follows. -/
def toParameter (start : Nat) (t : Tree) : Reads Tree := do
  match t.toPattern? true with
  | some p => return p
  | none => failAt .notAPattern start

/-- What items between parentheses are if an arrow follows; each has the place where it starts. -/
def toParameters : List (Tree × Nat) → Reads (List Tree)
  | [] => return []
  | (t, start) :: rest => do
    if t.label = .rest && !rest.isEmpty then failAt .elementAfterRest start
    let p ← toParameter start t
    return p :: (← toParameters rest)

/-- Arrow function with parameters of its own type: type parameters, parentheses, perhaps a result
type, and the arrow. -/
def typedArrow (g : Grammar) (isAsync : Bool) : Reads Tree := do
  let typeParams ← typeParameters g
  let params ← withScope (fun s => s.enter isAsync false s.allowsSuper) (parameters g)
  let result ← resultType g
  unless ← atArrow do expectMark "=>"
  arrowTree g isAsync params.children typeParams result

end StaticContext.Script.Grammar
