import StaticContext.Script.Grammar.Statement

/-! Imports and exports. -/

namespace StaticContext.Script.Grammar
open Reads

/-- The text in quotes behind `from`. -/
def moduleSource : Reads Tree := do
  match (← current).kind with
  | .literal (.string value source) =>
    let _ ← advance
    return .literal (.string value source)
  | _ => unexpected "a string literal"

/-- Import attributes, if some are there. -/
def moduleAttributes (g : Grammar) : Reads Tree := do
  let t ← current
  if (t.isWord "with" || t.isWord "assert") && !t.isAfterBreak then
    let _ ← advance
    return ← objectLiteral g
  return .absent

/-- A name of another module, which may be any text. -/
def moduleName : Reads Tree := do
  match (← current).kind with
  | .literal (.string value source) =>
    let _ ← advance
    return .literal (.string value source)
  | _ => return .name (← anyName)

/-- Whether `type` marks a single specifier here. -/
def eatTypeMark : Reads Bool := do
  unless (← read).dialect.types && (← atWord "type") do return false
  let next ← lookahead
  unless next.word?.isSome do return false
  let marks ← if next.isWord "as" then fits do
      let _ ← advance
      let _ ← advance
      if ← eatWord "as" then
        unless (← current).word?.isSome do fail .identifierMissing
      else unless ← atAnyMark [",", "\x7d"] do fail .identifierMissing
    else pure true
  if marks then
    let _ ← advance
  return marks

def importSpecifier : Reads Tree := do
  let typeOnly ← eatTypeMark
  let t ← current
  let imported ← moduleName
  if ← eatWord "as" then return .node (.importNamed typeOnly) [imported, ← bindingName]
  match t.name? with
  | some text =>
    checkName text t.start
    return .node (.importNamed typeOnly) [.absent, imported]
  | none => failAt .identifierMissing t.start

/-- Specifiers up to `from`. -/
def importSpecifiers : Reads (List Tree) := do
  let named : Reads (List Tree) := do
    if ← eatMark "*" then
      expectWord "as"
      match ← bindingName with
      | .node (.name text) _ => return [.node (.importNamespace text) []]
      | t => return [t]
    expectMark "\x7b"
    listed "\x7d" importSpecifier
  if (← atMark "*") || (← atMark "\x7b") then return ← named
  match ← bindingName with
  | .node (.name text) _ =>
    let first := Tree.node (.importDefault text) []
    if ← eatMark "," then return first :: (← named)
    return [first]
  | t => return [t]

/-- `name = ...` behind `import`. -/
def importEqualsTree (exported typeOnly : Bool) : Reads Tree := do
  let name ← anyName
  expectMark "="
  let target ← if (← atWord "require") && (← lookahead).isMark "(" then do
      let _ ← advance
      let _ ← advance
      let source ← moduleSource
      expectMark ")"
      pure (Tree.node .externalModule [source])
    else do pure (Tree.name (← dottedName))
  expectSemicolon
  return .node (.importEquals exported typeOnly name) [target]

def importTree (g : Grammar) : Reads Tree := do
  expectWord "import"
  if let .literal (.string ..) := (← current).kind then
    let source ← moduleSource
    let attributes ← moduleAttributes g
    expectSemicolon
    return .node (.importDeclaration false) [.list [], source, attributes]
  let types := (← read).dialect.types
  let next ← lookahead
  let typeOnly := types && (← atWord "type") &&
    (next.isMark "\x7b" || next.isMark "*" || next.name?.isSome && !next.isWord "from")
  if typeOnly then
    let _ ← advance
  if types && (← current).name?.isSome && (← lookahead).isMark "=" then
    return ← importEqualsTree false typeOnly
  let specifiers ← importSpecifiers
  expectWord "from"
  let source ← moduleSource
  let attributes ← moduleAttributes g
  expectSemicolon
  return .node (.importDeclaration typeOnly) [.list specifiers, source, attributes]

def exportSpecifier : Reads Tree := do
  let typeOnly ← eatTypeMark
  let localName ← moduleName
  let exported ← if ← eatWord "as" then moduleName else pure .absent
  return .node (.exportNamed typeOnly) [localName, exported]

def exportFrom (g : Grammar) : Reads (Tree × Tree) := do
  expectWord "from"
  let source ← moduleSource
  let attributes ← moduleAttributes g
  expectSemicolon
  return (source, attributes)

def exportNamesTree (g : Grammar) (typeOnly : Bool) : Reads Tree := do
  expectMark "\x7b"
  let specifiers ← listed "\x7d" exportSpecifier
  if ← atWord "from" then
    let (source, attributes) ← exportFrom g
    return .node (.exportNames typeOnly) [.list specifiers, source, attributes]
  expectSemicolon
  return .node (.exportNames typeOnly) [.list specifiers, .absent, .absent]

def exportAllTree (g : Grammar) (typeOnly : Bool) : Reads Tree := do
  expectMark "*"
  if ← eatWord "as" then
    let name ← moduleName
    let (source, attributes) ← exportFrom g
    return .node (.exportNames typeOnly) [.list [.node .exportNamespace [name]], source, attributes]
  let (source, attributes) ← exportFrom g
  return .node (.exportAll typeOnly) [source, attributes]

def exportDefaultTree (g : Grammar) : Reads Tree := do
  expectWord "default"
  let types := (← read).dialect.types
  if ← atWord "function" then return .node .exportDefault [← functionTree g false false]
  if ← atAsyncFunction then
    let _ ← advance
    return .node .exportDefault [← functionTree g false true]
  if ← atWord "class" then return .node .exportDefault [← classTree g false false]
  if types && (← atWord "abstract") && (← lookahead).isWord "class" then
    let _ ← advance
    return .node .exportDefault [← classTree g false true]
  if types && (← atWord "interface") && (← lookahead).name?.isSome then
    return .node .exportDefault [← interfaceTree g false]
  let e ← enclosed g.assignment
  expectSemicolon
  return .node .exportDefault [.node .expression [e]]

def exportTree (g : Grammar) : Reads Tree := do
  expectWord "export"
  let types := (← read).dialect.types
  if ← atWord "default" then return ← exportDefaultTree g
  if ← atMark "*" then return ← exportAllTree g false
  if ← atMark "\x7b" then return ← exportNamesTree g false
  if types then
    if ← eatMark "=" then
      let e ← g.expression
      expectSemicolon
      return .node .exportAssignment [e]
    let next ← lookahead
    if (← atWord "type") && (next.isMark "\x7b" || next.isMark "*") then
      let _ ← advance
      if ← atMark "*" then return ← exportAllTree g true
      return ← exportNamesTree g true
    if (← atWord "as") && next.isWord "namespace" then
      let _ ← advance
      let _ ← advance
      let name ← anyName
      expectSemicolon
      return .node (.exportAsNamespace name) []
    if ← eatWord "import" then
      let typeOnly ← eatTypeMark
      return ← importEqualsTree true typeOnly
  let declares := (← atAnyWord ["var", "const", "function", "class"]) || (← atLet) ||
    (← atAsyncFunction) || types && (← atAnyWord ["type", "interface", "enum", "abstract", "declare",
      "namespace", "module"])
  unless declares do unexpected "\x7b, default in export lists, or declaration"
  return .node .exportDeclaration [← g.statement]

/-- A statement, an import or an export. -/
def itemTree (g : Grammar) : Reads Tree := do
  if ← atWord "import" then
    let next ← lookahead
    if next.isMark "(" || next.isMark "." then return ← g.statement
    return ← importTree g
  if ← atWord "export" then return ← exportTree g
  g.statement

/-- The rules over themselves one level down. -/
def deeper (g : Grammar) : Grammar where
  item := itemTree g
  statement := statementTree g
  assignment := assignmentTree g
  expression := expressionTree g
  operand := operandTree g
  leftSide := leftSideTree g
  binding := bindingTarget g
  type := typeExpression g
  plainType := plainTypeTree g
  element := elementTree g

/-- The rules to a depth. -/
def toDepth : Nat → Grammar → Grammar
  | 0, g => g
  | n + 1, g => toDepth n (deeper g)

end StaticContext.Script.Grammar
