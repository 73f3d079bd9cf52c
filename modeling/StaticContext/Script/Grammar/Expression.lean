import StaticContext.Script.Grammar.Class
import StaticContext.Script.Grammar.Element

/-! Expressions. Binary operators are read with a stack of pending operands; what may be the
parameters of an arrow function is read as expressions and taken over when the arrow comes. -/

namespace StaticContext.Script.Grammar
open Reads

/-! ## Literals -/

def templateTree (g : Grammar) : Reads Tree := do
  let (pieces, items) ← templateParts (enclosed g.expression)
  return .node (.template pieces) items

def argument (g : Grammar) : Reads Tree := do
  if ← eatMark "..." then return .node .spread [← g.assignment]
  g.assignment

/-- Arguments from the parenthesis on. -/
def arguments (g : Grammar) : Reads Tree := do
  expectMark "("
  return .list (← enclosed (listed ")" (argument g)))

def arrayLiteral (g : Grammar) : Reads Tree := do
  expectMark "["
  let elements ← enclosed <| loop (β := List Tree) (fun done => do
    if ← eatMark "]" then return .inr done.reverse
    if ← eatMark "," then return .inl (.node .hole [] :: done)
    let t ← argument g
    unless ← atMark "]" do expectMark ","
    return .inl (t :: done)) []
  return .node .array elements

/-- A name that stands for a variable. -/
def variableName : Reads Tree := do
  let t ← current
  match t.name? with
  | none => fail .expressionMissing
  | some text =>
    checkName text t.start
    let _ ← advance
    return .name text

def objectMember (g : Grammar) : Reads Tree := do
  if ← eatMark "..." then return .node .spread [← g.assignment]
  let t ← current
  let next ← lookahead
  let isAsync := t.isWord "async" && !endsMemberName next && !next.isAfterBreak
  if isAsync then
    let _ ← advance
  let isGenerator ← eatMark "*"
  let t ← current
  let next ← lookahead
  let kind : MethodKind :=
    if isAsync || isGenerator || endsMemberName next then .method
    else if t.isWord "get" then .getter else if t.isWord "set" then .setter else .method
  unless kind = .method do
    let _ ← advance
  let t ← current
  if t.name?.isSome && !isAsync && !isGenerator && kind = .method &&
      !(["(", "<", ":"].any (← lookahead).isMark) then
    let name ← variableName
    if ← eatMark "=" then return .node .coveredDefault [name, ← g.assignment]
    return name
  let k ← key g
  if isAsync || isGenerator || kind != .method || (← atMark "(") || (← atMark "<") then
    return .node (.objectMethod kind isAsync isGenerator)
      (k :: (← functionParts g isAsync isGenerator true))
  expectMark ":"
  return .node .property [k, ← g.assignment]

def objectLiteral (g : Grammar) : Reads Tree := do
  expectMark "\x7b"
  return .node .object (← enclosed (listed "\x7d" (objectMember g)))

/-! ## Parentheses and arrows -/

/-- An optional parameter: a name with `?` before what ends a parameter. -/
def optionalName? : Reads (Option Tree) := do
  unless (← read).dialect.types && (← lookahead).isMark "?" do return none
  attempt? do
    let name ← bindingName
    expectMark "?"
    unless ← atAnyMark [",", ":", ")", "="] do fail .expressionMissing
    return name

/-- An item between parentheses, where it starts, and whether it can only be a parameter. -/
def parenItem (g : Grammar) : Reads (Tree × Nat × Bool) := do
  let start := (← current).start
  if ← eatMark "..." then
    let p ← g.binding
    let t := typed p false (← ascription g)
    checkNoComma ")"
    return (.node .rest [t], start, true)
  if let some name ← optionalName? then
    return (← defaulted g (typed name true (← ascription g)), start, true)
  let e ← g.assignment
  if (← read).dialect.types && (← atMark ":") then
    let p ← toParameter start e
    return (← defaulted g (typed p false (← ascription g)), start, true)
  return (e, start, false)

/-- Items up to the closing parenthesis, and whether only parameters can look so. -/
def parenItems (g : Grammar) : Reads (List (Tree × Nat) × Bool) := do
  expectMark "("
  enclosed <| loop (β := List (Tree × Nat) × Bool) (fun (done, mustBind) => do
    if ← eatMark ")" then return .inr (done.reverse, mustBind || done.isEmpty)
    let (t, start, binds) ← parenItem g
    let isTrailing ← if ← atMark ")" then pure false else do
      expectMark ","
      atMark ")"
    return .inl ((t, start) :: done, mustBind || binds || isTrailing)) ([], false)

def parenOrArrow (g : Grammar) : Reads Tree := do
  let (items, mustBind) ← parenItems g
  let s ← read
  let result ← if s.dialect.types && !s.expectsColon && (← atMark ":") then
      attempt? do
        let result ← resultType g
        unless ← atArrow do fail .expressionMissing
        return result
    else pure none
  if result.isSome || (← atArrow) then
    let params ← toParameters items
    return ← arrowTree g false params .absent (.ofOption result)
  if mustBind then expectMark "=>"
  match items with
  | [(e, _)] => return .node .paren [e]
  | _ => return .node .paren [.node .sequence (items.map (·.1))]

/-- Whether a head of an arrow function with parameters in parentheses starts here. Without type
parameters it has no result type where a colon belongs to something else. -/
def atArrowHead (g : Grammar) : Reads Bool := fits do
  let typeParams ← typeParameters g
  let _ ← parameters g
  unless typeParams.isAbsent && (← read).expectsColon do
    let _ ← resultType g
  unless ← atArrow do fail .expressionMissing

/-- `async` as the start of a function, or as a name. -/
def asyncTree (g : Grammar) : Reads Tree := do
  if ← atAsyncFunction then
    let _ ← advance
    return ← functionTree g false true
  let next ← lookahead
  unless next.isAfterBreak do
    if next.name?.isSome then
      let single ← attempt? do
        let _ ← advance
        let name ← withScope ({ · with isAsync := true }) bindingName
        unless ← atArrow do fail .expressionMissing
        return name
      if let some name := single then return ← arrowTree g true [name] .absent .absent
    if next.isMark "(" || next.isMark "<" then
      let isHead ← fits do
        let _ ← advance
        unless ← atArrowHead g do fail .expressionMissing
      if isHead then
        let _ ← advance
        return ← typedArrow g true
  let name ← variableName
  if ← atArrow then return ← arrowTree g false [name] .absent .absent
  return name

/-! ## Operands -/

def wordTree (g : Grammar) (text : String) : Reads Tree := do
  if text = "function" then return ← functionTree g false false
  if text = "class" then return ← classTree g false false
  if text = "async" then return ← asyncTree g
  if text = "this" ∨ text = "super" then
    let _ ← advance
    return .keyword text
  if text = "null" then
    let _ ← advance
    return .literal .null
  if text = "true" ∨ text = "false" then
    let _ ← advance
    return .literal (.boolean (text = "true"))
  if text = "import" then
    let next ← lookahead
    if next.isMark "(" then
      let _ ← advance
      return .keyword "import"
    if next.isMark "." then
      let _ ← advance
      let _ ← advance
      expectWord "meta"
      return .keyword "import.meta"
  let name ← variableName
  if ← atArrow then return ← arrowTree g false [name] .absent .absent
  return name

/-- An operand without members, calls and operators. -/
def primary (g : Grammar) : Reads Tree := do
  match (← current).kind with
  | .literal l =>
    let _ ← advance
    return .literal l
  | .privateWord text =>
    let _ ← advance
    return .node (.privateName text) []
  | .word text false => wordTree g text
  | .word _ true =>
    let name ← variableName
    if ← atArrow then return ← arrowTree g false [name] .absent .absent
    return name
  | .mark "(" => parenOrArrow g
  | .mark "[" => arrayLiteral g
  | .mark "\x7b" => objectLiteral g
  | .mark text =>
    if text = Lexeme.backtick.toString then return ← templateTree g
    if text = "/" ∨ text = "/=" then
      match (← reread Lexeme.regex).kind with
      | .literal l =>
        let _ ← advance
        return .literal l
      | _ => fail .expressionMissing
    if text = "<" && (← read).dialect.elements then
      let e ← g.element
      expectMark ">"
      return e
    fail .expressionMissing
  | _ => fail .expressionMissing

def isChain (t : Tree) : Bool :=
  match t.label with
  | .chainMember _ | .chainCall _ => true
  | _ => false

def isArrow (t : Tree) : Bool :=
  match t.label with
  | .arrow _ => true
  | _ => false

/-- The name behind a dot; a missing one is noted. -/
def memberName (object : Tree) : Reads Tree := do
  let t ← current
  if object.label = .keyword "super" && !(← read).allowsSuper then report .superOutside t.start
  match t.kind with
  | .word text _ =>
    let _ ← advance
    return .name text
  | .privateWord text =>
    let _ ← advance
    return .node (.privateName text) []
  | _ =>
    if t.kind = .textEnd then fail .textEnds
    report .identifierMissing t.start
    return .name ""

/-- `[key]` behind an object. -/
def computedName (g : Grammar) (object : Tree) : Reads Tree := do
  expectMark "["
  if object.label = .keyword "super" && !(← read).allowsSuper then
    report .superOutside (← current).start
  let e ← enclosed g.expression
  expectMark "]"
  return .node .computed [e]

def callTree (g : Grammar) (start : Nat) (inChain isOptional : Bool) (callee typeArgs : Tree) :
    Reads Tree := do
  let args ← arguments g
  let stop := (← get).lastStop
  let label : Label := if inChain then .chainCall isOptional else .call ⟨start, stop⟩
  return .node label [callee, args, typeArgs]

/-- Type arguments of a call, a tagged template, or an instantiation that is not used at once. -/
def appliedTypes? (g : Grammar) : Reads (Option Tree) := do
  unless (← read).dialect.types && (← atMark "<") do return none
  attempt? do
    let args ← typeArguments g
    let t ← current
    let used := t.isMark "(" || t.isMark Lexeme.backtick.toString
    let ended := t.isAfterBreak || t.kind = .textEnd ||
      [")", "]", ":", ";", ",", ".", "?.", "\x7b", "\x7d", "==", "===", "!=", "!==", "&&", "||",
        "??", "^", "|", "&"].any t.isMark
    unless used || ended do fail .expressionMissing
    return args

/-- Members and calls behind an operand that starts at `start`. -/
def subscripts (g : Grammar) (start : Nat) (calls : Bool) (operand : Tree) : Reads Tree :=
  loop (β := Tree) (fun (e, inChain) => do
    let t ← current
    let member (name : Tree) : Tree :=
      .node (if inChain then .chainMember false else .member) [e, name]
    if t.isMark "." then
      let _ ← advance
      return .inl (member (← memberName e), inChain)
    if t.isMark "?." then
      let _ ← advance
      if (← atMark "(") && calls then return .inl (← callTree g start true true e .absent, true)
      if ← atMark "[" then return .inl (.node (.chainMember true) [e, ← computedName g e], true)
      return .inl (.node (.chainMember true) [e, ← memberName e], true)
    if t.isMark "[" then return .inl (member (← computedName g e), inChain)
    if t.isMark "(" && calls then return .inl (← callTree g start inChain false e .absent, inChain)
    if t.isMark Lexeme.backtick.toString then
      return .inl (.node .tagged [e, ← templateTree g, .absent], inChain)
    if (← read).dialect.types then
      if t.isMark "!" && !t.isAfterBreak then
        let _ ← advance
        return .inl (.node .nonNull [e], inChain)
      if let some args ← appliedTypes? g then
        if (← atMark "(") && calls then
          return .inl (← callTree g start inChain false e args, inChain)
        if ← atMark Lexeme.backtick.toString then
          return .inl (.node .tagged [e, ← templateTree g, args], inChain)
        return .inl (.node .instantiation [e, args], inChain)
    return .inr e) (operand, false)

/-- An operand without the type arguments behind it, and these. -/
def splitTypes : Tree → Tree × Tree
  | .node .instantiation [e, args] => (e, args)
  | e => (e, .absent)

/-- What a `new` makes of its callee, with the arguments that follow; the two numbers are where it and
the callee start. -/
def constructStep (g : Grammar) (callee : Tree) (starts : Nat × Nat) : Reads Tree := do
  if isChain callee then failAt .optionalChainTarget starts.2
  let (callee, typeArgs) := splitTypes callee
  let args ← if ← atMark "(" then arguments g else pure .absent
  subscripts g starts.1 false (.node .construct [callee, args, typeArgs])

/-- An object under construction: `new` words in front, then a callee, then arguments if given. -/
def constructTree (g : Grammar) : Reads Tree := do
  let starts ← loop (β := List Nat) (fun done => do
    if (← atWord "new") && !(← lookahead).isMark "." then
      let t ← advance
      return .inl (t.start :: done)
    return .inr done) []
  let start := (← current).start
  let callee ← if ← eatWord "new" then do
      expectMark "."
      expectWord "target"
      pure (Tree.keyword "new.target")
    else primary g
  let callee ← subscripts g start false callee
  (starts.zip (start :: starts)).foldlM (constructStep g) callee

/-- What can be called or assigned to. -/
def leftSideTree (g : Grammar) : Reads Tree := do
  let start := (← current).start
  let e ← if ← atWord "new" then constructTree g else primary g
  if isArrow e then return e
  subscripts g start true e

def unaryMarks : List String := ["+", "-", "~", "!"]

def unaryWords : List String := ["delete", "void", "typeof"]

/-- Notes a target that `++` and its kin cannot change. -/
def checkTarget (t : Tree) (start : Nat) : Reads Unit := do
  unless t.isSimpleTarget do report .assignmentTarget start

def awaitIsWord : Reads Bool := do
  let s ← read
  return s.isAsync || !s.inFunction

/-- An operand of a binary operator. -/
def operandTree (g : Grammar) : Reads Tree := do
  let t ← current
  if (← atAnyMark unaryMarks) || (← atAnyWord unaryWords) then
    let _ ← advance
    let start := (← current).start
    let e ← g.operand
    if t.isWord "delete" then
      if let .name _ := e.label then report .deleteName start
    return .node (.unary t.shown) [e]
  if ← atAnyMark ["++", "--"] then
    let _ ← advance
    let start := (← current).start
    let e ← g.operand
    checkTarget e start
    return .node (.update t.shown true) [e]
  if t.isWord "await" && (← awaitIsWord) then
    let _ ← advance
    return .node .await [← g.operand]
  let dialect := (← read).dialect
  if t.isMark "<" && dialect.types && !dialect.elements then
    let _ ← advance
    if (← atWord "const") && (← lookahead).isMark ">" then
      let _ ← advance
      expectMark ">"
      return .node .asConst [← g.operand]
    let type ← g.type
    expectMark ">"
    return .node .typeAssertion [← g.operand, .node .typeOnly [type]]
  let e ← leftSideTree g
  let next ← current
  if (next.isMark "++" || next.isMark "--") && !next.isAfterBreak then
    checkTarget e t.start
    let _ ← advance
    return .node (.update next.shown false) [e]
  return e

/-! ## Operators -/

/-- Marks that start with `>`, longest first. -/
def greaterMarks : List String := [">>>=", ">>>", ">>=", ">>", ">=", ">"]

def greaterMark (c : Cursor) : Lexeme :=
  match greaterMarks.find? (·.toList.isPrefixOf c.rest) with
  | some m => ⟨.mark m, m.length, []⟩
  | none => Lexeme.read c

/-- Rank of a binary operator; the higher binds tighter. -/
def rank? (operator : String) : Option Nat :=
  [["??", "||"], ["&&"], ["|"], ["^"], ["&"], ["==", "!=", "===", "!=="],
    ["<", ">", "<=", ">=", "instanceof", "in"], ["<<", ">>", ">>>"], ["+", "-"], ["*", "/", "%"],
    ["**"]].findIdx? (·.contains operator)

def relationRank : Nat := 6

def powerRank : Nat := 10

/-- The binary operator at hand. -/
def operator? : Reads (Option String) := do
  if ← atMark ">" then
    let _ ← reread greaterMark
  match (← current).kind with
  | .mark text => return if (rank? text).isSome then some text else none
  | .word text false =>
    if text = "instanceof" ∨ text = "in" && !(← read).stopsAtIn then return some text
    return none
  | _ => return none

/-- An operator whose right side is being read; its left one starts at `start`. -/
structure Pending where
  left : Tree
  start : Nat
  operator : String
  rank : Nat

def isLogical (t : Tree) : Bool := t.label = .binary "&&" || t.label = .binary "||"

def isUnary (t : Tree) : Bool :=
  match t.label with
  | .unary _ | .await => true
  | _ => false

/-- Notes a side of `??` that is a logical operation without parentheses. -/
def checkCoalesced (operator : String) (side : Tree) (start : Nat) : Reads Unit := do
  if operator = "??" && isLogical side then report .mixedCoalescing start

/-- The operation with its right side, which starts at `start`. -/
def Pending.complete (p : Pending) (right : Tree) (start : Nat) : Reads Tree := do
  checkCoalesced p.operator p.left p.start
  checkCoalesced p.operator right start
  return .node (.binary p.operator) [p.left, right]

/-- Operations that wait, innermost first, then the operand at hand and where it starts. -/
abbrev Operands := List Pending × Tree × Nat

/-- Completes waiting operations that bind at least as tight as `rank`. -/
def settle (rank : Nat) : List Pending → Tree → Nat → Reads Operands
  | [], right, start => return ([], right, start)
  | p :: below, right, start => do
    if rank < p.rank ∨ rank = p.rank ∧ rank ≠ powerRank then
      settle rank below (← p.complete right start) p.start
    else return (p :: below, right, start)

/-- Operators that cannot start an operand. -/
def strayOperators : List String :=
  ["*", "%", "**", "<", ">", "<=", "==", "!=", "===", "!==", "&", "|", "^", "&&", "||", "??", "<<"]

/-- The first operand; a missing one before an operator is noted. -/
def firstOperand (g : Grammar) : Reads Tree := do
  let s ← read
  let opensTag := (← atMark "<") && (s.dialect.types || s.dialect.elements)
  let isStray := (← atAnyMark strayOperators) || (← atAnyWord ["in", "instanceof"])
  if isStray && !opensTag then
    report .expressionMissing (← current).start
    return .missing
  g.operand

/-- Takes an operator and its right side. -/
def operationTree (g : Grammar) (operator : String) (pending : List Pending) (left : Tree)
    (start : Nat) : Reads Operands := do
  let rank := (rank? operator).getD 0
  let (pending, left, start) ← settle rank pending left start
  let _ ← advance
  let next ← current
  if operator = "**" && isUnary left then failAt .powerOperand next.start
  return (⟨left, start, operator, rank⟩ :: pending, ← g.operand, next.start)

def binaryTree (g : Grammar) : Reads Tree := do
  let start := (← current).start
  let first ← firstOperand g
  if isArrow first then return first
  loop (β := Tree) (fun ((pending, e, start) : Operands) => do
    let t ← current
    if (← read).dialect.types && !t.isAfterBreak then
      if t.isWord "as" then
        let _ ← advance
        let (pending, e, start) ← settle relationRank pending e start
        if ← eatWord "const" then return .inl (pending, .node .asConst [e], start)
        return .inl (pending, .node .asType [e, .node .typeOnly [← g.type]], start)
      if t.isWord "satisfies" then
        let _ ← advance
        let (pending, e, start) ← settle relationRank pending e start
        return .inl (pending, .node .satisfiesType [e, .node .typeOnly [← g.type]], start)
    match ← operator? with
    | none => return .inr (← settle 0 pending e start).2.1
    | some op => return .inl (← operationTree g op pending e start)) ([], first, start)

def conditionalTree (g : Grammar) : Reads Tree := do
  let test ← binaryTree g
  if isArrow test then return test
  unless ← eatMark "?" do return test
  let yes ← withScope ({ · with stopsAtIn := false, expectsColon := true }) g.assignment
  expectMark ":"
  let no ← withScope ({ · with expectsColon := false }) g.assignment
  return .node .conditional [test, yes, no]

def assignmentMarks : List String :=
  ["=", "+=", "-=", "*=", "/=", "%=", "**=", "<<=", ">>=", ">>>=", "&=", "|=", "^=", "&&=", "||=",
   "??="]

/-- What an assignment changes; something else is noted. -/
def toTarget (operator : String) (start : Nat) (e : Tree) : Reads Tree := do
  if e.isSimpleTarget then return e
  if operator = "=" then
    if let some p := e.toPattern? false then return p
  report .assignmentTarget start
  return e

def yieldTree (g : Grammar) : Reads Tree := do
  expectWord "yield"
  let t ← current
  if t.isAfterBreak || t.kind = .textEnd || [")", "]", "\x7d", ",", ";", ":"].any t.isMark then
    return .node (.yield false) [.absent]
  let isDelegate ← eatMark "*"
  return .node (.yield isDelegate) [← g.assignment]

def plainAssignment (g : Grammar) : Reads Tree := do
  if (← read).isGenerator && (← atWord "yield") then return ← yieldTree g
  let start := (← current).start
  let e ← conditionalTree g
  if isArrow e then return e
  let t ← current
  if ← atAnyMark assignmentMarks then
    let target ← toTarget t.shown start e
    let _ ← advance
    return .node (.assign t.shown) [target, ← g.assignment]
  return e

/-- An expression without a comma of its own. In typed code `<` may open the head of an arrow
function; with elements in the language too, a tag is tried first. -/
def assignmentTree (g : Grammar) : Reads Tree := do
  let dialect := (← read).dialect
  unless dialect.types && (← atMark "<") do return ← plainAssignment g
  if dialect.elements then
    if let some e ← attempt? (plainAssignment g) then return e
  if ← atArrowHead g then
    return ← withScope ({ · with expectsColon := false }) (typedArrow g false)
  unless dialect.elements do return ← plainAssignment g
  let _ ← advance
  unexpected "jsx identifier"

def expressionTree (g : Grammar) : Reads Tree := do
  let first ← g.assignment
  unless ← atMark "," do return first
  loop (β := Tree) (fun done => do
    if ← eatMark "," then return .inl ((← g.assignment) :: done)
    return .inr (.node .sequence done.reverse)) [first]

end StaticContext.Script.Grammar
