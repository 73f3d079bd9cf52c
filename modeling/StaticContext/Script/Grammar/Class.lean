import StaticContext.Script.Grammar.Function
import StaticContext.Script.Grammar.TypeExpression

/-! Classes and their members. -/

namespace StaticContext.Script.Grammar
open Reads

/-- Marks that can follow the name of a member; before one of them no word has a role of its own. -/
def endsMemberName (t : Token) : Bool :=
  ["(", "=", ";", "\x7d", ":", "?", "!", "<", ","].any t.isMark || t.kind = .textEnd

def memberModifiers (types : Bool) : List String :=
  if types then
    ["public", "private", "protected", "static", "abstract", "override", "readonly", "declare",
      "accessor"]
  else ["static", "accessor"]

/-- Whether a key is that of a constructor. -/
def isConstructorKey : Tree → Bool
  | .node (.name text) _ => text = "constructor"
  | .node (.literal (.string value _)) _ => value = "constructor"
  | _ => false

def classField (g : Grammar) (mods : Modifiers) (key : Tree) (mark : String) : Reads Tree := do
  let type ← ascription g
  let value ← if ← eatMark "=" then withScope (·.enter false false true) g.assignment else pure .absent
  expectSemicolon
  return .node (.classField mods mark) [key, type, value]

/-- Stops at the key of a constructor that is something else as well; the key starts at `start`. -/
def checkConstructor (kind : MethodKind) (isAsync isGenerator : Bool) (start : Nat) : Reads Unit :=
  if isAsync then failAt .asyncConstructor start
  else if isGenerator then failAt .generatorConstructor start
  else if kind = .getter || kind = .setter then failAt .accessorConstructor start
  else return

/-- A member that is no block and no index signature, from behind its modifiers. -/
def namedMember (g : Grammar) (mods : Modifiers) : Reads Tree := do
  let t ← current
  let next ← lookahead
  let isAsync := t.isWord "async" && !endsMemberName next && !next.isAfterBreak
  if isAsync then
    let _ ← advance
  let isGenerator ← eatMark "*"
  let t ← current
  let next ← lookahead
  let kind : MethodKind :=
    if isAsync || isGenerator || endsMemberName next then .method
    else if t.isWord "get" then .getter else if t.isWord "set" then .setter else .method
  unless kind = .method do
    let _ ← advance
  let start := (← current).start
  let k ← key g
  let isConstructor := isConstructorKey k && !mods.words.contains "static"
  if isConstructor then checkConstructor kind isAsync isGenerator start
  let isOptional ← optionalMark
  if (← atMark "(") || (← atMark "<") then
    let kind := if isConstructor then .constructor else kind
    return .node (.classMethod kind mods isAsync isGenerator isOptional)
      (k :: (← functionParts g isAsync isGenerator true))
  let isDefinite ← if (← read).dialect.types then eatMark "!" else pure false
  classField g mods k (if isOptional then "?" else if isDefinite then "!" else "")

def classMember (g : Grammar) : Reads Tree := do
  let mods ← modifiers (memberModifiers (← read).dialect.types)
  if mods.words = ["static"] && (← atMark "\x7b") then
    return .node .staticBlock [← withScope (·.enter false false true) (block g)]
  if (← read).dialect.types && (← atIndexSignature) then
    let t ← indexSignature g mods
    expectSemicolon
    return .node .typeOnly [t]
  namedMember g mods

def isBodied (t : Tree) : Bool :=
  match t.children with
  | _ :: _ :: body :: _ => !body.isAbsent
  | _ => false

def classMembers (g : Grammar) : Reads (List Tree) := do
  expectMark "\x7b"
  let members ← loop (β := List Tree) (fun (done, hasConstructor) => do
    if ← eatMark "\x7d" then return .inr done.reverse
    if ← eatMark ";" then return .inl (done, hasConstructor)
    let start := (← current).start
    let m ← classMember g
    let isConstructor := match m.label with
      | .classMethod .constructor .. => isBodied m
      | _ => false
    if isConstructor && hasConstructor then report .constructorRepeated start
    return .inl (m :: done, hasConstructor || isConstructor)) (([] : List Tree), false)
  return members

def superTypes (g : Grammar) : Reads Tree := do
  let first ← superType
  let all ← loop (β := List Tree) (fun done => do
    if ← eatMark "," then return .inl ((← superType) :: done)
    return .inr done.reverse) [first]
  return .node .typeOnly [.list all]
where
  superType : Reads Tree := do
    let name ← dottedName
    return .node (.typeName name) [← typeArguments? g]

/-- A class from the word `class` on. -/
def classTree (g : Grammar) (declared isAbstract : Bool) : Reads Tree := do
  expectWord "class"
  let t ← current
  let types := (← read).dialect.types
  let isNamed := t.name?.isSome && !(types && t.isWord "implements")
  let name ← if isNamed then bindingName else pure .absent
  let typeParams ← typeParameters g
  let (base, baseArgs) ← if ← eatWord "extends" then do
      match ← g.leftSide with
      | .node .instantiation [e, args] => pure (e, args)
      | e => pure (e, ← if types then typeArguments? g else pure .absent)
    else pure (.absent, .absent)
  let interfaces ← if types && (← eatWord "implements") then superTypes g else pure .absent
  let members ← classMembers g
  return .node (.classLike declared isAbstract)
    [name, .list members, base, typeParams, baseArgs, interfaces]

end StaticContext.Script.Grammar
