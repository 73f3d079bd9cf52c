import StaticContext.Script.Tree

/-! Context calls: `require.context(directory, recursive?, filter?)` with literals for arguments.
Whether a call is one is a matter of its shape alone; further arguments are ignored as long as they
are literals. -/

namespace StaticContext
open Script

/-- A regular expression literal that picks files. -/
structure Filter where
  pattern : String
  flags : String
deriving DecidableEq, Repr, Inhabited

structure ContextCall where
  span : Span
  /-- Relative to the directory of the source file. -/
  directory : String
  recursive : Bool
  filter : Option Filter
deriving DecidableEq, Repr, Inhabited

namespace ContextCall

def isRequireContext : Tree → Bool
  | .node .member [.node (.name object) [], .node (.name property) []] =>
    object = "require" && property = "context"
  | _ => false

def literal? : Tree → Option Literal
  | .node (.literal l) [] => some l
  | _ => none

/-- Type arguments, which may be left out and make no difference. -/
def isTypeArguments : Tree → Bool
  | .node .absent [] => true
  | .node .typeOnly _ => true
  | _ => false

def directory? : List Literal → Option String
  | .string value _ :: _ => some value
  | _ => none

/-- `true` if the second argument is left out. -/
def recursive? : List Literal → Option Bool
  | _ :: .boolean flag :: _ => some flag
  | _ :: _ :: _ => none
  | _ => some true

def filter? : List Literal → Option (Option Filter)
  | _ :: _ :: .regex pattern flags :: _ => some (some ⟨pattern, flags⟩)
  | _ :: _ :: _ :: _ => none
  | _ => some none

def ofLiterals? (span : Span) (arguments : List Literal) : Option ContextCall := do
  let directory ← directory? arguments
  let recursive ← recursive? arguments
  let filter ← filter? arguments
  return ⟨span, directory, recursive, filter⟩

/-- The context call that a node is. -/
def ofTree? : Tree → Option ContextCall
  | .node (.call span) [callee, .node .list arguments, typeArguments] =>
    if isRequireContext callee && isTypeArguments typeArguments then
      (arguments.mapM literal?).bind (ofLiterals? span)
    else none
  | _ => none

mutual

/-- All context calls of a tree, an outer one before those inside it. -/
def inTree : Tree → List ContextCall
  | .node .typeOnly _ => []
  | .node label children => (ofTree? (.node label children)).toList ++ inTrees children

def inTrees : List Tree → List ContextCall
  | [] => []
  | t :: rest => inTree t ++ inTrees rest

end

def inProgram (p : Program) : List ContextCall := inTrees p.body

end ContextCall
end StaticContext
