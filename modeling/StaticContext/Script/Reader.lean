import StaticContext.Script.Token

/-! Reading a script token by token. A reader sees one token and the text behind it, may note faults
and go on, and stops at the first fault it cannot mend. Loops and nesting are bounded by the size of
the text, which no reading exceeds since every round takes a token. -/

namespace StaticContext.Script

/-- Extensions of the plain language: type syntax, and elements written as tags. -/
structure Dialect where
  types : Bool
  elements : Bool
deriving DecidableEq, Repr, Inhabited

/-- What is allowed where the reader is. -/
structure Scope where
  dialect : Dialect
  /-- More than the characters of the text. -/
  bound : Nat
  inFunction : Bool
  isAsync : Bool
  isGenerator : Bool
  breakable : Bool
  continuable : Bool
  allowsSuper : Bool
  /-- Whether `in` ends an expression. -/
  stopsAtIn : Bool
  /-- Whether a colon belongs to a conditional expression around. -/
  expectsColon : Bool
  /-- Whether `?` behind a type may make it a condition. -/
  allowsCondition : Bool
  /-- Whether declarations are those of another module. -/
  isAmbient : Bool
  labels : List String
deriving Repr, Inhabited

def Scope.top (dialect : Dialect) (bound : Nat) : Scope :=
  ⟨dialect, bound, false, false, false, false, false, false, false, false, true, false, []⟩

/-- The scope of a function body; a plain function has no `super` of its own. -/
def Scope.enter (s : Scope) (isAsync isGenerator allowsSuper : Bool) : Scope :=
  { s with
    inFunction := true, isAsync, isGenerator, allowsSuper, breakable := false, continuable := false
    stopsAtIn := false, expectsColon := false, labels := [] }

structure ReadState where
  token : Token
  /-- At the token. -/
  here : Cursor
  /-- Behind the token. -/
  next : Cursor
  /-- The token before. -/
  lastStart : Nat
  lastStop : Nat
  /-- Latest first. -/
  faults : List Fault
deriving Repr, Inhabited

namespace ReadState

/-- Takes `lexeme` as the token at `c`. -/
def put (s : ReadState) (c : Cursor) (broken : Bool) (lexeme : Lexeme) : ReadState :=
  let next := c.skip lexeme.size
  { s with
    token := ⟨lexeme.kind, c.offset, next.offset, broken⟩
    here := c
    next := next
    faults := (lexeme.faults.map fun (cause, n) => ⟨cause, c.offsetAfter n⟩).reverse ++ s.faults }

/-- Reads the next token from `c`. -/
def fill (s : ReadState) (c : Cursor) : ReadState :=
  match Gap.skip .between false c.offset c.rest with
  | .error fault => { s with token := ⟨.wrong fault, fault.offset, fault.offset, false⟩, here := c, next := c }
  | .ok (d, broken) => s.put d broken (Lexeme.read d)

/-- Before anything is read, with the first token from `c` on. -/
def start (c : Cursor) : ReadState :=
  ReadState.fill ⟨⟨.textEnd, c.offset, c.offset, false⟩, c, c, c.offset, c.offset, []⟩ c

end ReadState

abbrev Reads := ReaderT Scope (StateT ReadState (Except Fault))

namespace Reads

def current : Reads Token := return (← get).token

/-- Takes the current token. -/
def advance : Reads Token := do
  let s ← get
  set ({ s with lastStart := s.token.start, lastStop := s.token.stop }.fill s.next)
  return s.token

/-- Takes the current token without reading another; the text goes on at the result. -/
def advanceRaw : Reads Cursor := do
  let s ← get
  set { s with lastStart := s.token.start, lastStop := s.token.stop }
  return s.next

/-- The token behind the current one. -/
def lookahead : Reads Token := do
  let s ← get
  return (s.fill s.next).token

/-- Reads the current token anew as what `lexeme` makes of the text at it. -/
def reread (lexeme : Cursor → Lexeme) : Reads Token := do
  let s ← get
  set (s.put s.here s.token.isAfterBreak (lexeme s.here))
  return (← get).token

/-- Goes on at `c` after text that was taken without tokens. -/
def resume (c : Cursor) : Reads Unit :=
  modify fun s => { s with lastStart := s.lastStop, lastStop := c.offset }.fill c

/-- Notes a fault and goes on. -/
def report (cause : Cause) (offset : Nat) : Reads Unit :=
  modify fun s => { s with faults := ⟨cause, offset⟩ :: s.faults }

/-- Stops with a fault at `offset`; a token that is wrong in itself comes first. -/
def failAt {α : Type} (cause : Cause) (offset : Nat) : Reads α := do
  match (← current).kind with
  | .wrong fault => throw fault
  | _ => throw ⟨cause, offset⟩

/-- Stops at the current token, or says that the text ends. -/
def fail {α : Type} (cause : Cause) : Reads α := do
  let s ← get
  if s.token.kind = .textEnd then throw ⟨.textEnds, s.lastStop⟩
  failAt cause s.token.start

def unexpected {α : Type} (expected : String) : Reads α := do
  fail (.unexpectedToken (← current).shown expected)

def atMark (text : String) : Reads Bool := return (← current).isMark text

def atWord (text : String) : Reads Bool := return (← current).isWord text

def atAnyMark (texts : List String) : Reads Bool := do
  match (← current).kind with
  | .mark text => return texts.contains text
  | _ => return false

def atAnyWord (texts : List String) : Reads Bool := do
  match (← current).kind with
  | .word text isEscaped => return !isEscaped && texts.contains text
  | _ => return false

def eatMark (text : String) : Reads Bool := do
  if ← atMark text then
    let _ ← advance
    return true
  return false

def eatWord (text : String) : Reads Bool := do
  if ← atWord text then
    let _ ← advance
    return true
  return false

def expectMark (text : String) : Reads Unit := do
  unless ← eatMark text do
    fail (.expectedToken text (← current).shown)

def expectWord (text : String) : Reads Unit := do
  unless ← eatWord text do
    fail (.expectedToken text (← current).shown)

/-- Whether a statement may end before the current token. -/
def atStatementEnd : Reads Bool := do
  let t ← current
  return t.isMark ";" || t.isMark "\x7d" || t.kind = .textEnd || t.isAfterBreak

/-- Takes a semicolon, written or understood. -/
def eatSemicolon : Reads Bool := do
  if ← eatMark ";" then return true
  atStatementEnd

def expectSemicolon : Reads Unit := do
  unless ← eatSemicolon do fail (.expectedToken ";" (← current).shown)

/-- Tries a reader; what it did is undone if it fails. -/
def attempt? {α : Type} (r : Reads α) : Reads (Option α) := fun scope s =>
  match r scope s with
  | .ok (a, s) => .ok (some a, s)
  | .error _ => .ok (none, s)

/-- Whether a reader would succeed. -/
def fits {α : Type} (r : Reads α) : Reads Bool := fun scope s =>
  match r scope s with
  | .ok _ => .ok (true, s)
  | .error _ => .ok (false, s)

def withScope {α : Type} (change : Scope → Scope) (r : Reads α) : Reads α := fun scope => r (change scope)

/-- Within brackets of any kind `in` is an operator, and a colon belongs to what is in them. -/
def enclosed {α : Type} (r : Reads α) : Reads α :=
  withScope ({ · with stopsAtIn := false, expectsColon := false }) r

/-- Repeats `step` until it gives a result; the first number bounds the rounds. -/
def loopUpTo {α β : Type} (step : α → Reads (α ⊕ β)) : Nat → α → Reads β
  | 0, _ => fail .nestingTooDeep
  | n + 1, a => do
    match ← step a with
    | .inl a => loopUpTo step n a
    | .inr b => return b

def loop {α β : Type} (step : α → Reads (α ⊕ β)) (a : α) : Reads β := do
  loopUpTo step (← read).bound a

/-- Trees until `stop` holds, each from `item`. -/
def many (stop : Reads Bool) (item : Reads Tree) : Reads (List Tree) :=
  loop (β := List Tree) (fun done => do
    if ← stop then return .inr done.reverse
    return .inl ((← item) :: done)) []

/-- Items between an opening mark that is already taken and the mark `close`, with commas between
them and perhaps one at the end. -/
def listed (close : String) (item : Reads Tree) : Reads (List Tree) := do
  let items ← loop (β := List Tree) (fun done => do
    if ← atMark close then return .inr done.reverse
    let t ← item
    unless ← atMark close do expectMark ","
    return .inl (t :: done)) []
  expectMark close
  return items

end Reads

/-- Readers of what may stand within itself, for use by the rules that contain it. -/
structure Grammar where
  /-- A statement, an import or an export. -/
  item : Reads Tree
  /-- A statement or declaration of a block. -/
  statement : Reads Tree
  /-- An expression without a comma of its own. -/
  assignment : Reads Tree
  /-- An expression. -/
  expression : Reads Tree
  /-- An operand of a binary operator. -/
  operand : Reads Tree
  /-- What can be called or assigned to, with its members and calls. -/
  leftSide : Reads Tree
  /-- A target of a declaration. -/
  binding : Reads Tree
  type : Reads Tree
  /-- A type that is no conditional one. -/
  plainType : Reads Tree
  /-- An element or fragment, from its `<` up to its last `>`, which is left to take. -/
  element : Reads Tree
deriving Inhabited

/-- Reads nothing. -/
def Grammar.exhausted : Grammar :=
  let stop : Reads Tree := Reads.fail .nestingTooDeep
  ⟨stop, stop, stop, stop, stop, stop, stop, stop, stop, stop⟩

end StaticContext.Script
