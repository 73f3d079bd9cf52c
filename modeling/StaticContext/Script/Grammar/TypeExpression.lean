import StaticContext.Script.Grammar.Pattern

/-! Type syntax. -/

namespace StaticContext.Script.Grammar
open Reads

def typeArguments? (g : Grammar) : Reads Tree := do
  let t ← current
  if t.isMark "<" && !t.isAfterBreak then typeArguments g else return .absent

/-- A name with the names behind its dots. -/
def dottedName : Reads String := do
  let first ← anyName
  loop (β := String) (fun text => do
    if ← eatMark "." then return .inl (text ++ "." ++ (← anyName))
    return .inr text) first

/-- Parameters of a function type with its result behind `mark`. -/
def signature (g : Grammar) (mark : String) : Reads (List Tree) := do
  let params ← typeParameters g
  let args ← parameters g
  let result ← if ← eatMark mark then
      pure (Tree.node .typeOnly [.node .ascription [← resultOrPredicate g]])
    else pure .absent
  return [args, params, result]

def functionType (g : Grammar) (label : Label) : Reads Tree := do
  let params ← typeParameters g
  let args ← parameters g
  expectMark "=>"
  return .node label [args, params, ← resultOrPredicate g]

def tupleElement (g : Grammar) : Reads Tree := do
  if ← eatMark "..." then
    if (← current).word?.isSome && (← lookahead).isMark ":" then
      let name ← anyName
      expectMark ":"
      return .node .restType [.node (.tupleElement name false) [← g.type]]
    return .node .restType [← g.type]
  let t ← current
  if t.word?.isSome then
    let next ← lookahead
    if next.isMark ":" then
      let name ← anyName
      expectMark ":"
      return .node (.tupleElement name false) [← g.type]
    if next.isMark "?" then
      let named ← attempt? do
        let name ← anyName
        expectMark "?"
        expectMark ":"
        return Tree.node (.tupleElement name true) [← g.type]
      if let some t := named then return t
  let type ← g.type
  if ← eatMark "?" then return .node .optionalType [type]
  return type

/-- `+`, `-` or nothing before `word`, with the word. -/
def signedWord (word : Reads Bool) (text : String) : Reads String := do
  if ← eatMark "+" then
    unless ← word do fail (.expectedToken text (← current).shown)
    return "+" ++ text
  if ← eatMark "-" then
    unless ← word do fail (.expectedToken text (← current).shown)
    return "-" ++ text
  return if ← word then text else ""

def mappedType (g : Grammar) : Reads Tree := do
  expectMark "\x7b"
  let readonlyMark ← signedWord (eatWord "readonly") "readonly"
  expectMark "["
  let bound ← anyName
  expectWord "in"
  let constraint ← g.type
  let renamed ← if ← eatWord "as" then g.type else pure .absent
  expectMark "]"
  let optionalMark ← signedWord (eatMark "?") "?"
  let type ← if ← eatMark ":" then g.type else pure .absent
  let _ ← eatMark ";" <||> eatMark ","
  expectMark "\x7d"
  return .node (.mappedType readonlyMark bound optionalMark) [constraint, renamed, type]

/-- `[name: type]: type` as a member. -/
def indexSignature (g : Grammar) (mods : Modifiers) : Reads Tree := do
  expectMark "["
  let name ← anyName
  expectMark ":"
  let keyType := Tree.node .typeOnly [.node .ascription [← g.type]]
  expectMark "]"
  return .node (.indexSignature mods) [typed (.name name) false keyType, ← ascription g]

def atIndexSignature : Reads Bool := do
  unless ← atMark "[" do return false
  fits do
    expectMark "["
    let _ ← anyName
    expectMark ":"

def memberSeparator : Reads Unit := do
  if ← atMark "\x7d" then return
  if ← eatMark "," then return
  expectSemicolon

def typeMember (g : Grammar) : Reads Tree := do
  let t ← current
  let next ← lookahead
  let member ← do
    if t.isMark "(" || t.isMark "<" then
      pure (Tree.node (.callSignature false) (← signature g ":"))
    else if t.isWord "new" && (next.isMark "(" || next.isMark "<") then
      let _ ← advance
      pure (Tree.node (.callSignature true) (← signature g ":"))
    else
      let endsName (t : Token) := ["(", "<", ":", "?", ",", ";", "\x7d"].any t.isMark || t.kind = .textEnd
      let isReadonly := t.isWord "readonly" && !endsName next
      if isReadonly then
        let _ ← advance
      if ← atIndexSignature then indexSignature g ⟨if isReadonly then ["readonly"] else []⟩
      else
        let t ← current
        let kind := if endsName (← lookahead) then MethodKind.method
          else if t.isWord "get" then .getter else if t.isWord "set" then .setter else .method
        unless kind = .method do
          let _ ← advance
        let k ← key g
        let isOptional ← optionalMark
        if (← atMark "(") || (← atMark "<") then
          pure (Tree.node (.methodSignature kind isOptional) (k :: (← signature g ":")))
        else
          pure (Tree.node (.propertySignature isReadonly isOptional) [k, ← ascription g])
  memberSeparator
  return member

def typeMembers (g : Grammar) : Reads (List Tree) := do
  expectMark "\x7b"
  let members ← many (atMark "\x7d") (typeMember g)
  expectMark "\x7d"
  return members

def importType (g : Grammar) : Reads Tree := do
  expectWord "import"
  expectMark "("
  let source ← g.type
  expectMark ")"
  let qualifier ← if ← eatMark "." then dottedName else pure ""
  return .node (.importType qualifier) [source, ← typeArguments? g]

/-- Types that are words. -/
def typeWords : List String :=
  ["any", "bigint", "boolean", "intrinsic", "never", "number", "object", "string", "symbol",
   "undefined", "unknown"]

/-- A type without operators around it. -/
def simpleType (g : Grammar) : Reads Tree := do
  let t ← current
  match t.kind with
  | .literal l =>
    let _ ← advance
    return .literal l
  | .mark "-" =>
    let _ ← advance
    match (← current).kind with
    | .literal (.number source) =>
      let _ ← advance
      return .literal (.number ("-" ++ source))
    | .literal (.bigint source) =>
      let _ ← advance
      return .literal (.bigint ("-" ++ source))
    | _ => unexpected "a number"
  | .mark "[" =>
    let _ ← advance
    return .node .tupleType (← listed "]" (tupleElement g))
  | .mark "(" =>
    let _ ← advance
    let type ← g.type
    expectMark ")"
    return .node .parenType [type]
  | .mark "\x7b" =>
    if let some mapped ← attempt? (mappedType g) then return mapped
    return .node .objectType (← typeMembers g)
  | .word text false =>
    if text = "typeof" then
      let _ ← advance
      if ← atWord "import" then return .node (.typeOperator "typeof") [← importType g]
      let name ← dottedName
      return .node (.typeQuery name) [← typeArguments? g]
    if text = "import" then return ← importType g
    if ["true", "false"].contains text then
      let _ ← advance
      return .literal (.boolean (text = "true"))
    if ["null", "this", "void"].contains text then
      let _ ← advance
      return .node (.typeName text) [.absent]
    if typeWords.contains text && !(← lookahead).isMark "." then
      let _ ← advance
      return .node (.typeName text) [.absent]
    if t.name?.isNone then fail (.unexpectedToken text "a type")
    let name ← dottedName
    return .node (.typeName name) [← typeArguments? g]
  | .mark text =>
    if text = Lexeme.backtick.toString then
      let (pieces, types) ← templateParts g.type
      return .node (.typeTemplate pieces) types
    unexpected "a type"
  | _ => fail .expressionMissing

/-- A type with array brackets and index brackets behind it. -/
def postfixType (g : Grammar) : Reads Tree := do
  loop (β := Tree) (fun type => do
    let t ← current
    if t.isMark "[" && !t.isAfterBreak then
      let _ ← advance
      if ← eatMark "]" then return .inl (.node .arrayType [type])
      let index ← g.type
      expectMark "]"
      return .inl (.node .indexedType [type, index])
    return .inr type) (← simpleType g)

/-- A type with operators before it. -/
def operatorType (g : Grammar) : Reads Tree := do
  let operators ← loop (β := List String) (fun done => do
    if ← atAnyWord ["keyof", "unique", "readonly"] then
      let next ← lookahead
      let starts := next.word?.isSome || ["(", "[", "\x7b", "-", Lexeme.backtick.toString].any next.isMark ||
        (match next.kind with | .literal _ => true | _ => false)
      if starts && !next.isAfterBreak then
        let t ← advance
        return .inl (t.shown :: done)
    return .inr done) []
  let type ← if (← atWord "infer") && (← lookahead).name?.isSome then
      let _ ← advance
      let name ← anyName
      let bound ← attempt? do
        expectWord "extends"
        let bound ← g.plainType
        if (← read).allowsCondition && (← atMark "?") then fail .expressionMissing
        return bound
      pure (Tree.node (.inferType name) [.ofOption bound])
    else postfixType g
  return operators.foldl (fun t op => .node (.typeOperator op) [t]) type

/-- Types with one operator between them; it may also come first. -/
def joinedTypes (mark : String) (label : Label) (item : Reads Tree) : Reads Tree := do
  let leading ← eatMark mark
  let first ← item
  let types ← loop (β := List Tree) (fun done => do
    if ← eatMark mark then return .inl ((← item) :: done)
    return .inr done.reverse) [first]
  return if types.length = 1 && !leading then first else .node label types

def unionType (g : Grammar) : Reads Tree :=
  joinedTypes "|" .union (joinedTypes "&" .intersection (operatorType g))

/-- A type that is no conditional one. -/
def plainTypeTree (g : Grammar) : Reads Tree := do
  let t ← current
  let next ← lookahead
  if t.isWord "new" then
    let _ ← advance
    return ← functionType g (.constructorType false)
  if t.isWord "abstract" && next.isWord "new" then
    let _ ← advance
    let _ ← advance
    return ← functionType g (.constructorType true)
  if t.isMark "<" then return ← functionType g .functionType
  if t.isMark "(" then
    let opensParameters := fits do
      let _ ← parameters g
      expectMark "=>"
    if ← opensParameters then return ← functionType g .functionType
  unionType g

/-- Any type. -/
def typeExpression (g : Grammar) : Reads Tree := do
  let type ← withScope ({ · with allowsCondition := true }) g.plainType
  if (← atWord "extends") && !(← current).isAfterBreak then
    let _ ← advance
    let bound ← withScope ({ · with allowsCondition := false }) g.plainType
    if ← eatMark "?" then
      let yes ← g.type
      expectMark ":"
      return .node .conditionalType [type, bound, yes, ← g.type]
    failAt (.expectedToken "?" (← current).shown) (← current).start
  return type

end StaticContext.Script.Grammar
