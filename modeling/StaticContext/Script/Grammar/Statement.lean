import StaticContext.Script.Grammar.Expression

/-! Statements and declarations. -/

namespace StaticContext.Script.Grammar
open Reads

/-! ## Variables -/

def isPattern (t : Tree) : Bool := t.label = .arrayPattern || t.label = .objectPattern

def declarator (g : Grammar) (kind : VariableKind) (isLoopHead : Bool) : Reads Tree := do
  let start := (← current).start
  let p ← g.binding
  let isDefinite ← if (← read).dialect.types then eatMark "!" else pure false
  let target := typed p false (← ascription g)
  if ← eatMark "=" then return .node (.declarator isDefinite) [target, ← g.assignment]
  unless isLoopHead || (← read).isAmbient do
    if kind = .constant then report .constantUninitialized start
    else if isPattern p then report .patternUninitialized start
  return .node (.declarator isDefinite) [target, .absent]

def declarators (g : Grammar) (declared isLoopHead : Bool) : Reads Tree := do
  let t ← advance
  let kind : VariableKind := if t.isWord "const" then .constant
    else if t.isWord "let" then .blockScoped else .functionScoped
  let first ← declarator g kind isLoopHead
  let all ← loop (β := List Tree) (fun done => do
    if ← eatMark "," then return .inl ((← declarator g kind isLoopHead) :: done)
    return .inr done.reverse) [first]
  return .node (.variables kind declared) all

/-- Takes tokens up to the end of a statement, or to one that is wrong. -/
def skipStatement : Reads Unit :=
  loop (α := Unit) (β := Unit) (fun _ => do
    if ← eatSemicolon then return .inr ()
    let _ ← advance
    match (← current).kind with
    | .wrong _ => return .inr ()
    | _ => return .inl ()) ()

/-- A declaration of variables with its end; what cannot follow is noted and skipped. -/
def variableStatement (g : Grammar) (declared : Bool) : Reads Tree := do
  let t ← declarators g declared false
  unless ← eatSemicolon do
    let next ← current
    report (.expectedToken ";" next.shown) next.start
    let _ ← attempt? g.expression
    skipStatement
  return t

/-- Whether `let` starts a declaration here. -/
def atLet : Reads Bool := do
  unless ← atWord "let" do return false
  let next ← lookahead
  return next.name?.isSome || next.isMark "[" || next.isMark "\x7b"

/-! ## Control -/

def parenthesized (g : Grammar) : Reads Tree := do
  expectMark "("
  let e ← enclosed g.expression
  expectMark ")"
  return e

def ifTree (g : Grammar) : Reads Tree := do
  expectWord "if"
  let test ← parenthesized g
  let yes ← g.statement
  let no ← if ← eatWord "else" then g.statement else pure .absent
  return .node .ifStatement [test, yes, no]

def loopBody (g : Grammar) : Reads Tree :=
  withScope ({ · with breakable := true, continuable := true }) g.statement

def whileTree (g : Grammar) : Reads Tree := do
  expectWord "while"
  let test ← parenthesized g
  return .node .whileLoop [test, ← loopBody g]

def doTree (g : Grammar) : Reads Tree := do
  expectWord "do"
  let body ← loopBody g
  expectWord "while"
  let test ← parenthesized g
  let _ ← eatMark ";"
  return .node .doLoop [test, body]

/-- The rest of a loop head from behind its first part. -/
def forRest (g : Grammar) (first : Tree) (isAwait : Bool) : Reads Tree := do
  if ← eatWord "of" then
    let values ← enclosed g.assignment
    expectMark ")"
    return .node (.forOf isAwait) [first, values, ← loopBody g]
  if ← eatWord "in" then
    let object ← enclosed g.expression
    expectMark ")"
    return .node .forIn [first, object, ← loopBody g]
  expectMark ";"
  let test ← if ← atMark ";" then pure .absent else enclosed g.expression
  expectMark ";"
  let step ← if ← atMark ")" then pure .absent else enclosed g.expression
  expectMark ")"
  return .node .forLoop [first, test, step, ← loopBody g]

def forTree (g : Grammar) : Reads Tree := do
  expectWord "for"
  let isAwait ← eatWord "await"
  expectMark "("
  if ← atMark ";" then return ← forRest g .absent isAwait
  let declares := (← atAnyWord ["var", "const"]) || (← atLet)
  let first ← withScope ({ · with stopsAtIn := true }) do
    if declares then declarators g false true
    else
      let start := (← current).start
      let e ← g.expression
      if ← atAnyWord ["of", "in"] then toTarget "=" start e else return e
  forRest g first isAwait

def isDefault (t : Tree) : Bool :=
  match t.children with
  | test :: _ => test.isAbsent
  | [] => false

/-- The test of a case, none for the default, which comes once. -/
def caseTest (g : Grammar) (hasDefault : Bool) : Reads Tree := do
  if ← eatWord "default" then
    if hasDefault then failAt .defaultRepeated (← current).start
    return .absent
  expectWord "case"
  enclosed g.expression

def switchCase (g : Grammar) (hasDefault : Bool) : Reads Tree := do
  let test ← caseTest g hasDefault
  expectMark ":"
  let body ← many
    (return (← atAnyWord ["case", "default"]) || (← atMark "\x7d") || (← current).kind = .textEnd)
    g.statement
  return .node .switchCase [test, .list body]

def switchCases (g : Grammar) : Reads (List Tree) :=
  loop (β := List Tree) (fun done => do
    if ← atMark "\x7d" then return .inr done.reverse
    return .inl ((← switchCase g (done.any isDefault)) :: done)) []

def switchTree (g : Grammar) : Reads Tree := do
  expectWord "switch"
  let value ← parenthesized g
  expectMark "\x7b"
  let cases ← withScope ({ · with breakable := true }) (switchCases g)
  expectMark "\x7d"
  return .node .switch [value, .list cases]

def catchTree (g : Grammar) : Reads Tree := do
  let param ← if ← eatMark "(" then do
      let p ← g.binding
      let p := typed p false (← ascription g)
      expectMark ")"
      pure p
    else pure .absent
  return .node .catchClause [param, ← block g]

def tryTree (g : Grammar) : Reads Tree := do
  let start := (← current).start
  expectWord "try"
  let body ← block g
  let handler ← if ← eatWord "catch" then catchTree g else pure .absent
  let final ← if ← eatWord "finally" then block g else pure .absent
  if handler.isAbsent && final.isAbsent then report .handlerMissing start
  return .node .tryStatement [body, handler, final]

/-- The label behind `break` or `continue`, if it is on their line. -/
def jumpTarget : Reads (Option String) := do
  let t ← current
  match t.name? with
  | some text =>
    if t.isAfterBreak then return none
    let _ ← advance
    return some text
  | none => return none

def breakTree : Reads Tree := do
  let t ← advance
  let target ← jumpTarget
  let s ← read
  match target with
  | none => unless s.breakable do report .breakOutside t.start
  | some name => unless s.labels.contains name do report .labelUnknown t.start
  expectSemicolon
  return .node (.breakStatement target) []

def continueTree : Reads Tree := do
  let t ← advance
  let target ← jumpTarget
  let s ← read
  if !s.continuable then report .continueOutside t.start
  else if let some name := target then
    unless s.labels.contains name do report .labelUnknown t.start
  expectSemicolon
  return .node (.continueStatement target) []

def returnTree (g : Grammar) : Reads Tree := do
  let t ← advance
  unless (← read).inFunction do report .returnOutside t.start
  let value ← if ← atStatementEnd then pure .absent else enclosed g.expression
  expectSemicolon
  return .node .returnStatement [value]

def throwTree (g : Grammar) : Reads Tree := do
  let _ ← advance
  if (← current).isAfterBreak then report .newlineAfterThrow (← current).start
  let value ← enclosed g.expression
  expectSemicolon
  return .node .throwStatement [value]

def withTree (g : Grammar) : Reads Tree := do
  let t ← advance
  report .withStatement t.start
  let object ← parenthesized g
  return .node .withStatement [object, ← g.statement]

def labeledTree (g : Grammar) : Reads Tree := do
  let t ← current
  let name ← bindingName
  expectMark ":"
  let text := t.shown
  if (← read).labels.contains text then report (.labelRepeated text) t.start
  let body ← withScope (fun s => { s with labels := text :: s.labels }) g.statement
  return .node (.labeled (match name.label with | .name n => n | _ => text)) [body]

def expressionStatement (g : Grammar) : Reads Tree := do
  let e ← enclosed g.expression
  unless ← eatSemicolon do fail .statementGoesOn
  return .node .expression [e]

/-! ## Declarations of typed code -/

def typeAliasTree (g : Grammar) (declared : Bool) : Reads Tree := do
  expectWord "type"
  let name ← anyName
  let params ← typeParameters g
  expectMark "="
  let type ← g.type
  expectSemicolon
  return .node .typeOnly [.node (.typeAlias declared name) [params, type]]

def interfaceTree (g : Grammar) (declared : Bool) : Reads Tree := do
  expectWord "interface"
  let name ← anyName
  let params ← typeParameters g
  let bases ← if ← eatWord "extends" then superTypes g else pure .absent
  let members ← typeMembers g
  return .node .typeOnly [.node (.interface declared name) [params, bases, .list members]]

def enumMember (g : Grammar) : Reads Tree := do
  let k ← key g
  let value ← if ← eatMark "=" then g.assignment else pure .absent
  return .node .enumMember [k, value]

def enumTree (g : Grammar) (declared isConst : Bool) : Reads Tree := do
  expectWord "enum"
  let name ← anyName
  expectMark "\x7b"
  return .node (.enumeration declared isConst name) (← listed "\x7d" (enumMember g))

/-- `namespace`, `module` or `global` with its name and block. -/
def namespaceTree (g : Grammar) (declared : Bool) : Reads Tree := do
  let word ← anyName
  let t ← current
  let opener ← if word = "global" then pure word else
    match t.kind with
    | .literal (.string _ source) => do
      let _ ← advance
      pure (word ++ " " ++ source.getD "")
    | _ => do pure (word ++ " " ++ (← dottedName))
  if declared && !(← atMark "\x7b") then
    expectSemicolon
    return .node (.namespaceBlock declared opener) [.absent]
  expectMark "\x7b"
  let items ← withScope (fun s => { s with isAmbient := s.isAmbient || declared })
    (many (atMark "\x7d") g.item)
  expectMark "\x7d"
  return .node (.namespaceBlock declared opener) [.node .block items]

def declaredWords : List String :=
  ["const", "let", "var", "function", "class", "abstract", "enum", "namespace", "module", "global",
   "interface", "type", "async"]

/-- A declaration that only typed code has, if one starts here. -/
def typedDeclaration? (g : Grammar) (declared : Bool) : Reads (Option Tree) := do
  unless (← read).dialect.types do return none
  let t ← current
  let next ← lookahead
  let namesNext := next.name?.isSome && !next.isAfterBreak
  if t.isWord "type" && namesNext then return some (← typeAliasTree g declared)
  if t.isWord "interface" && namesNext then return some (← interfaceTree g declared)
  if t.isWord "enum" then return some (← enumTree g declared false)
  if t.isWord "const" && next.isWord "enum" then
    let _ ← advance
    return some (← enumTree g declared true)
  if t.isWord "abstract" && next.isWord "class" && !next.isAfterBreak then
    let _ ← advance
    return some (← classTree g declared true)
  let namesModule := namesNext ||
    (match next.kind with | .literal (.string ..) => t.isWord "module" | _ => false)
  if (t.isWord "namespace" || t.isWord "module") && namesModule then
    return some (← namespaceTree g declared)
  if t.isWord "global" && next.isMark "\x7b" then return some (← namespaceTree g declared)
  return none

/-- A declaration behind `declare`. -/
def ambientTree (g : Grammar) : Reads Tree := do
  expectWord "declare"
  withScope ({ · with isAmbient := true }) do
    if let some t ← typedDeclaration? g true then return t
    if ← atAnyWord ["const", "let", "var"] then return ← variableStatement g true
    if ← atWord "class" then return ← classTree g true false
    let isAsync ← eatWord "async"
    functionTree g true isAsync

/-- A statement or declaration, whatever it starts with. -/
def statementTree (g : Grammar) : Reads Tree := do
  let t ← current
  if t.isMark "\x7b" then return ← block g
  if t.isMark ";" then
    let _ ← advance
    return .node .empty []
  if let some t ← typedDeclaration? g false then return t
  match t.kind with
  | .word text false =>
    match text with
    | "var" | "const" => variableStatement g false
    | "function" => functionTree g false false
    | "class" => classTree g false false
    | "if" => ifTree g
    | "for" => forTree g
    | "while" => whileTree g
    | "do" => doTree g
    | "switch" => switchTree g
    | "try" => tryTree g
    | "break" => breakTree
    | "continue" => continueTree
    | "return" => returnTree g
    | "throw" => throwTree g
    | "with" => withTree g
    | "debugger" => do
      let _ ← advance
      expectSemicolon
      return .node .debugger []
    | _ => do
      let next ← lookahead
      if ← atLet then return ← variableStatement g false
      if (← atAsyncFunction) then
        let _ ← advance
        return ← functionTree g false true
      let isDynamic := text = "import" && (next.isMark "(" || next.isMark ".")
      if (text = "import" || text = "export") && !isDynamic then
        fail .importExportInside
      if text = "declare" && (← read).dialect.types && !next.isAfterBreak &&
          next.word?.any declaredWords.contains then
        return ← ambientTree g
      if t.name?.isSome && next.isMark ":" then return ← labeledTree g
      expressionStatement g
  | _ => expressionStatement g

end StaticContext.Script.Grammar
