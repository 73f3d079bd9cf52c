import StaticContext.Script.Reader

/-! Names, keys, targets of declarations, parameters, and the pieces of a template. -/

namespace StaticContext.Script.Grammar
open Reads

/-- Notes a name that strict code does not allow. -/
def checkName (text : String) (offset : Nat) : Reads Unit := do
  if text = "await" then report .reservedAwait offset
  else if Token.isFutureReserved text then report (.reservedName text) offset

def bindingName : Reads Tree := do
  let t ← current
  match t.name? with
  | none => unexpected "yield, an identifier, [ or \x7b"
  | some text =>
    checkName text t.start
    if text = "eval" ∨ text = "arguments" then report .bindingReserved t.start
    let _ ← advance
    return .name text

/-- Any word as a name. -/
def anyName : Reads String := do
  match (← current).word? with
  | none => fail .identifierMissing
  | some text =>
    let _ ← advance
    return text

/-- The name of a property or member. -/
def key (g : Grammar) : Reads Tree := do
  match (← current).kind with
  | .word text _ =>
    let _ ← advance
    return .name text
  | .privateWord text =>
    let _ ← advance
    return .node (.privateName text) []
  | .literal l =>
    let _ ← advance
    return .literal l
  | .mark "[" =>
    let _ ← advance
    let e ← enclosed g.assignment
    expectMark "]"
    return .node .computed [e]
  | _ => unexpected "identifier, string literal, numeric literal or [ for the computed key"

/-- A type ascription, if one is there. -/
def ascription (g : Grammar) : Reads Tree := do
  if (← read).dialect.types then
    if ← eatMark ":" then
      return .node .typeOnly [.node .ascription [← g.type]]
  return .absent

/-- The mark of an optional name. -/
def optionalMark : Reads Bool := do
  if (← read).dialect.types then eatMark "?" else return false

/-- A pattern with the ascription that follows it. -/
def typed (pattern : Tree) (isOptional : Bool) (type : Tree) : Tree :=
  if isOptional || !type.isAbsent then .node (.typed isOptional) [pattern, type] else pattern

/-- A pattern with a default value, if one is there. -/
def defaulted (g : Grammar) (pattern : Tree) : Reads Tree := do
  if ← eatMark "=" then return .node .withDefault [pattern, ← enclosed g.assignment]
  return pattern

def bindingElement (g : Grammar) : Reads Tree := do
  defaulted g (← g.binding)

/-- Notes a comma behind a rest element when `close` ends the list. -/
def checkNoComma (close : String) : Reads Unit := do
  let t ← current
  if t.isMark "," && (← lookahead).isMark close then report .commaAfterRest t.start

/-- Notes what follows a rest element that starts at `start`. -/
def checkLast (cause : Cause) (close : String) (start : Nat) : Reads Unit := do
  if (← atMark ",") && !(← lookahead).isMark close then report cause start
  checkNoComma close

/-- What follows `...` in a pattern up to `close`. -/
def restElement (g : Grammar) (close : String) : Reads Tree := do
  let start := (← get).lastStart
  let p ← g.binding
  checkLast .elementAfterRest close start
  return .node .rest [p]

def arrayPattern (g : Grammar) : Reads Tree := do
  expectMark "["
  let elements ← loop (β := List Tree) (fun done => do
    if ← eatMark "]" then return .inr done.reverse
    if ← eatMark "," then return .inl (.node .hole [] :: done)
    let t ← if ← eatMark "..." then restElement g "]" else bindingElement g
    unless ← atMark "]" do expectMark ","
    return .inl (t :: done)) []
  return .node .arrayPattern elements

def patternProperty (g : Grammar) : Reads Tree := do
  if ← eatMark "..." then return ← restElement g "\x7d"
  let t ← current
  if t.word?.isSome && !(← lookahead).isMark ":" then
    defaulted g (← bindingName)
  else
    let k ← key g
    expectMark ":"
    return .node .patternProperty [k, ← bindingElement g]

def objectPattern (g : Grammar) : Reads Tree := do
  expectMark "\x7b"
  return .node .objectPattern (← listed "\x7d" (patternProperty g))

/-- A target of a declaration, without ascription. -/
def bindingTarget (g : Grammar) : Reads Tree := do
  if ← atMark "[" then arrayPattern g
  else if ← atMark "\x7b" then objectPattern g
  else bindingName

/-- Words of `allowed` that stand before something they can modify. -/
def modifiers (allowed : List String) : Reads Modifiers := do
  let words ← loop (β := List String) (fun done => do
    let next ← lookahead
    let modifies := next.word?.isSome || ["[", "\x7b", "*"].any next.isMark ||
      (match next.kind with | .privateWord _ | .literal _ => true | _ => false)
    if (← atAnyWord allowed) && modifies && !next.isAfterBreak then
      let t ← advance
      return .inl (t.shown :: done)
    return .inr done.reverse) []
  return ⟨words⟩

def parameterModifiers : List String := ["public", "private", "protected", "readonly", "override"]

def parameter (g : Grammar) : Reads Tree := do
  if ← eatMark "..." then
    let start := (← get).lastStart
    let p ← g.binding
    let t := typed p false (← ascription g)
    checkLast .parameterAfterRest ")" start
    return .node .rest [t]
  let mods ← if (← read).dialect.types then modifiers parameterModifiers else pure ⟨[]⟩
  let p ← if ← atWord "this" then do
      let _ ← advance
      pure (Tree.name "this")
    else g.binding
  let isOptional ← optionalMark
  let p ← defaulted g (typed p isOptional (← ascription g))
  return if mods.words.isEmpty then p else .node (.parameterProperty mods) [p]

def parameters (g : Grammar) : Reads Tree := do
  expectMark "("
  return .list (← enclosed (listed ")" (parameter g)))

/-- Type parameters, if some are there. -/
def typeParameters (g : Grammar) : Reads Tree := do
  unless (← read).dialect.types do return .absent
  unless ← eatMark "<" do return .absent
  let items ← listed ">" do
    let words ← loop (β := List String) (fun done => do
      let isModifier ← atAnyWord ["const", "in", "out"]
      if isModifier && (← lookahead).word?.isSome then
        let t ← advance
        return .inl (t.shown :: done)
      return .inr done.reverse) []
    let name ← anyName
    let bound ← if ← eatWord "extends" then g.type else pure .absent
    let default ← if ← eatMark "=" then g.type else pure .absent
    return .node (.typeParameter ⟨words⟩ name) [bound, default]
  return .node .typeOnly [.node .typeParameters items]

/-- Type arguments from `<` on. -/
def typeArguments (g : Grammar) : Reads Tree := do
  expectMark "<"
  return .node .typeOnly [.node .typeArguments (← listed ">" g.type)]

/-- A type or, as the result of a test, what the test tells about a parameter. -/
def resultOrPredicate (g : Grammar) : Reads Tree := do
  let t ← current
  let next ← lookahead
  if t.isWord "asserts" && next.word?.isSome && !next.isAfterBreak && !next.isWord "is" then
    let _ ← advance
    let name ← anyName
    let type ← if ← eatWord "is" then g.type else pure .absent
    return .node (.predicate true name) [type]
  if t.word?.isSome && next.isWord "is" && !next.isAfterBreak then
    let name ← anyName
    expectWord "is"
    return .node (.predicate false name) [← g.type]
  g.type

/-- The type of a function's result, if it is given. -/
def resultType (g : Grammar) : Reads Tree := do
  if (← read).dialect.types then
    if ← eatMark ":" then
      return .node .typeOnly [.node .ascription [← resultOrPredicate g]]
  return .absent

/-- Pieces of text and what `item` reads between them, from a back quote on. -/
def templateParts (item : Reads Tree) : Reads (List String × List Tree) := do
  let start := (← current).start
  let c ← advanceRaw
  loop (β := List String × List Tree) (fun (c, pieces, items) => do
    match Lexeme.templatePiece false c.rest with
    | none => failAt .templateUnclosed start
    | some (n, closed) =>
      let piece := String.ofList (c.rest.take n)
      if closed then
        resume (c.skip (n + 1))
        return .inr ((piece :: pieces).reverse, items.reverse)
      resume (c.skip (n + 2))
      let t ← item
      unless ← atMark "\x7d" do expectMark "\x7d"
      return .inl (← advanceRaw, piece :: pieces, t :: items)) (c, [], [])

/-- Statements up to the closing brace; the text may end instead, which is noted. -/
def blockRest (g : Grammar) : Reads (List Tree) := do
  let body ← many (return (← atMark "\x7d") || (← current).kind = .textEnd) g.statement
  let s ← get
  if s.token.kind = .textEnd then report (.expectedToken "\x7d" "<eof>") s.lastStart
  else
    let _ ← advance
  return body

def block (g : Grammar) : Reads Tree := do
  expectMark "\x7b"
  return .node .block (← blockRest g)

end StaticContext.Script.Grammar
