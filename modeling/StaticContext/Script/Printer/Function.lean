import StaticContext.Script.Printer.Basic

/-! Printing functions of all forms. Their children are parameters, body, type parameters and result
type; methods have their key before these. -/

namespace StaticContext.Script.Printer
open Text (Layout)
open Text.Layout (row indented)

/-- What stands for a body that is left out. -/
def bodyOr (missing : Layout) (before : Layout) (body : Printed) : Layout :=
  if body.isAbsent then missing else before ++ body

/-- From the type parameters on. -/
def functionTail : List Printed → Layout
  | [params, body, typeParams, result] =>
    typeParams ++ parenthesized params ++ result ++ bodyOr ";" " " body
  | ps => unlabeled ps

def function (declared isAsync isGenerator : Bool) : List Printed → Layout
  | name :: rest =>
    words [(declared, "declare"), (isAsync, "async")] ++ "function" ++
      Layout.when isGenerator "*" ++ name.after " " ++ functionTail rest
  | [] => .empty

/-- A result type keeps its distance from the arrow; an expression for a body is indented as a whole. -/
def arrow (isAsync : Bool) : List Printed → Layout
  | [params, body, typeParams, result] =>
    words [(isAsync, "async")] ++ typeParams ++ parenthesized params ++ result ++
      Layout.when (!result.isAbsent) " " ++ "=>" ++
      (if body.isBlock then body.layout else indented body)
  | ps => unlabeled ps

/-- What stands before the key of a method. -/
def methodStart (kind : MethodKind) (isAsync isGenerator : Bool) : Layout :=
  words [(isAsync, "async"), (kind = .getter, "get"), (kind = .setter, "set")] ++
    Layout.when isGenerator "*"

/-- A method of an object literal has a blank behind its key, a setter none before its body. -/
def objectMethod (kind : MethodKind) (isAsync isGenerator : Bool) : List Printed → Layout
  | [key, params, body, typeParams, result] =>
    let isSetter := kind = .setter && typeParams.isAbsent && result.isAbsent
    let tail := if isSetter then parenthesized params ++ body
      else functionTail [params, body, typeParams, result]
    methodStart kind isAsync isGenerator ++ key ++ " " ++ tail
  | ps => unlabeled ps

end StaticContext.Script.Printer
