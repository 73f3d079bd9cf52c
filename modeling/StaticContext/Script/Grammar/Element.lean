import StaticContext.Script.Grammar.TypeExpression

/-! Elements written as tags. Between tags the text counts as it stands, so these readers take
characters where others take tokens. -/

namespace StaticContext.Script.Grammar
open Reads

/-- A name of a tag or an attribute, which may hold dashes. -/
def dashedName (c : Cursor) : Lexeme :=
  let text := c.rest.takeWhile fun d => continuesName d || d = '-'
  ⟨.word (String.ofList text) true, text.length, []⟩

def elementWord : Reads String := do
  match (← current).kind with
  | .word .. =>
    let t ← reread dashedName
    let _ ← advance
    return t.shown
  | _ => unexpected "jsx identifier"

def tagName : Reads String := do
  let first ← elementWord
  if ← eatMark ":" then return first ++ ":" ++ (← elementWord)
  loop (β := String) (fun text => do
    if ← eatMark "." then return .inl (text ++ "." ++ (← elementWord))
    return .inr text) first

/-- An expression in braces; the closing one is left to take. -/
def container (g : Grammar) : Reads Tree := do
  expectMark "\x7b"
  if ← eatMark "..." then
    let e ← enclosed g.expression
    unless ← atMark "\x7d" do expectMark "\x7d"
    return .node .spreadChild [e]
  if ← atMark "\x7d" then return .node .container [.absent]
  let e ← enclosed g.expression
  unless ← atMark "\x7d" do expectMark "\x7d"
  return .node .container [e]

/-- The value behind the `=` of an attribute, which is the current token. -/
def attributeValue (g : Grammar) : Reads Tree := do
  let c ← advanceRaw
  let d := match Gap.skip .between false c.offset c.rest with
    | .ok (d, _) => d
    | .error _ => c
  match d.rest with
  | q :: rest =>
    if q = '"' ∨ q = '\'' then
      let text := rest.takeWhile (· != q)
      if text.length = rest.length then failAt .stringUnclosed d.offset
      resume (d.skip (text.length + 2))
      return .literal (.string (String.ofList text) (some (String.ofList (d.rest.take (text.length + 2)))))
  | [] => pure ()
  resume c
  if ← atMark "<" then
    let e ← g.element
    expectMark ">"
    return e
  let e ← container g
  expectMark "\x7d"
  return e

def attributeTree (g : Grammar) : Reads Tree := do
  if ← eatMark "\x7b" then
    expectMark "..."
    let e ← enclosed g.assignment
    expectMark "\x7d"
    return .node .spreadAttribute [e]
  let first ← elementWord
  let name ← if ← eatMark ":" then pure (first ++ ":" ++ (← elementWord)) else pure first
  let value ← if ← atMark "=" then attributeValue g else pure .absent
  return .node (.attribute name) [value]

/-- Children from behind the opening tag up to the last `>` of the closing one, which is left to
take. -/
def elementChildren (g : Grammar) (tag : String) : Reads (List Tree) := do
  let c ← advanceRaw
  loop (β := List Tree) (fun (c, done) => do
    let text := c.rest.takeWhile fun d => d != '<' && d != '{'
    let done := if text.isEmpty then done
      else Tree.node (.elementText (String.ofList text)) [] :: done
    let d := c.skip text.length
    if d.rest.isEmpty then failAt .elementTextUnclosed d.offset
    resume d
    if ← atMark "\x7b" then
      let child ← container g
      return .inl (← advanceRaw, child :: done)
    let start := (← current).start
    if (← lookahead).isMark "/" then
      expectMark "<"
      expectMark "/"
      let closing ← if ← atMark ">" then pure "" else tagName
      unless ← atMark ">" do expectMark ">"
      if closing != tag then failAt (.closingTag tag) start
      return .inr done.reverse
    let child ← g.element
    return .inl (← advanceRaw, child :: done)) (c, [])

/-- An element or fragment up to its last `>`, which is left to take. -/
def elementTree (g : Grammar) : Reads Tree := do
  expectMark "<"
  if ← atMark ">" then return .node .fragment (← elementChildren g "")
  let tag ← tagName
  let typeArgs ← if (← read).dialect.types && (← atMark "<") then typeArguments g else pure .absent
  let attributes ← many (return (← atMark ">") || (← atMark "/")) (attributeTree g)
  if ← eatMark "/" then
    unless ← atMark ">" do expectMark ">"
    return .node (.element tag true) [.list attributes, .list [], typeArgs]
  let children ← elementChildren g tag
  return .node (.element tag false) [.list attributes, .list children, typeArgs]

end StaticContext.Script.Grammar
