import StaticContext.Script.Tree

/-! Expressions that turn out to be patterns: what stands before `=` or within the parentheses before
an arrow is read as an expression first. -/

namespace StaticContext.Script.Tree

/-- Whether a name, a member, or something around them stands here, which `=` and `++` can change. -/
def isSimpleTarget : Tree → Bool
  | node (.name _) _ => true
  | node .member _ => true
  | node .missing _ => true
  | node .paren [inner] => inner.isSimpleTarget
  | node .asType (inner :: _) => inner.isSimpleTarget
  | node .asConst (inner :: _) => inner.isSimpleTarget
  | node .satisfiesType (inner :: _) => inner.isSimpleTarget
  | node .nonNull (inner :: _) => inner.isSimpleTarget
  | node .typeAssertion (inner :: _) => inner.isSimpleTarget
  | _ => false

/-- The tree as a pattern that declares no name. -/
def simpleTarget? (binds : Bool) (t : Tree) : Option Tree :=
  if !binds && t.isSimpleTarget then some t else none

mutual

/-- The pattern an expression covers. `binds` asks for a pattern that declares names. -/
def toPattern? (binds : Bool) : Tree → Option Tree
  | node label cs =>
    match label, cs with
    | .name text, cs => some (node (.name text) cs)
    | .array, cs => (elementsToPatterns? binds cs).map (node .arrayPattern)
    | .object, cs => (propertiesToPatterns? binds cs).map (node .objectPattern)
    | .assign "=", [target, value] => some (node .withDefault [target, value])
    | .member, cs => if binds then none else some (node .member cs)
    | .paren, cs => simpleTarget? binds (node .paren cs)
    | .asType, cs => simpleTarget? binds (node .asType cs)
    | .asConst, cs => simpleTarget? binds (node .asConst cs)
    | .satisfiesType, cs => simpleTarget? binds (node .satisfiesType cs)
    | .nonNull, cs => simpleTarget? binds (node .nonNull cs)
    | .typeAssertion, cs => simpleTarget? binds (node .typeAssertion cs)
    | .missing, cs => some (node .missing cs)
    | .arrayPattern, cs => some (node .arrayPattern cs)
    | .objectPattern, cs => some (node .objectPattern cs)
    | .withDefault, cs => some (node .withDefault cs)
    | .typed isOptional, cs => some (node (.typed isOptional) cs)
    | .rest, cs => some (node .rest cs)
    | .parameterProperty mods, cs => some (node (.parameterProperty mods) cs)
    | _, _ => none

def elementsToPatterns? (binds : Bool) : List Tree → Option (List Tree)
  | [] => some []
  | node .hole cs :: rest => (elementsToPatterns? binds rest).map (node .hole cs :: ·)
  | [node .spread [t]] => (toPattern? binds t).map fun p => [node .rest [p]]
  | t :: rest =>
    match toPattern? binds t, elementsToPatterns? binds rest with
    | some p, some ps => some (p :: ps)
    | _, _ => none

def propertiesToPatterns? (binds : Bool) : List Tree → Option (List Tree)
  | [] => some []
  | node .property [k, t] :: rest =>
    match toPattern? binds t, propertiesToPatterns? binds rest with
    | some p, some ps => some (node .patternProperty [k, p] :: ps)
    | _, _ => none
  | node .coveredDefault cs :: rest =>
    (propertiesToPatterns? binds rest).map (node .withDefault cs :: ·)
  | [node .spread [t]] => (toPattern? binds t).map fun p => [node .rest [p]]
  | node (.name text) cs :: rest =>
    (propertiesToPatterns? binds rest).map (node (.name text) cs :: ·)
  | _ :: _ => none

end

end StaticContext.Script.Tree
