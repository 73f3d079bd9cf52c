import StaticContext.Script.Printer.Function

/-! Printing type syntax. -/

namespace StaticContext.Script.Printer
open Text (Layout)
open Text.Layout (line indented joined row)

/-- Members of a type, each with a semicolon on a line of its own. -/
def typeMembers (ps : List Printed) : Layout :=
  bracedLines (ps.map fun (p : Printed) => (p ++ ";" : Layout))

def angled (ps : List Printed) : Layout := "<" ++ commas ps ++ ">"

def typeParameter (m : Modifiers) (name : String) : List Printed → Layout
  | [bound, default] =>
    words (["const", "in", "out"].map fun w => (m.words.contains w, w)) ++ name ++
      bound.after " extends " ++ default.after " = "
  | ps => unlabeled ps

/-- Parameters, type parameters and result. -/
def signature : List Printed → Layout
  | [params, typeParams, result] => typeParams ++ parenthesized params ++ result
  | ps => unlabeled ps

def functionType (start : Layout) : List Printed → Layout
  | [params, typeParams, result] =>
    start ++ typeParams ++ parenthesized params ++ " => " ++ result
  | ps => unlabeled ps

def callSignature (isConstruct : Bool) : List Printed → Layout
  | [params, typeParams, result] =>
    Layout.when isConstruct "new" ++
      Layout.when (isConstruct && !typeParams.isAbsent) " " ++
      signature [params, typeParams, result]
  | ps => unlabeled ps

def indexedType : List Printed → Layout
  | [object, index] => object ++ "[" ++ index ++ "]"
  | ps => unlabeled ps

def tupleElement (name : String) (isOptional : Bool) (ps : List Printed) : Layout :=
  name ++ Layout.when isOptional "?" ++ ": " ++ unlabeled ps

def conditionalType : List Printed → Layout
  | [checked, bound, yes, no] => checked ++ " extends " ++ bound ++ " ? " ++ yes ++ " : " ++ no
  | ps => unlabeled ps

def inferType (name : String) : List Printed → Layout
  | [bound] => "infer " ++ name ++ bound.after " extends "
  | ps => unlabeled ps

def mappedType (readonlyMark bound optionalMark : String) : List Printed → Layout
  | [constraint, renamed, type] =>
    let start := Layout.when (readonlyMark != "") (readonlyMark ++ " ")
    bracedLines [start ++ "[" ++ bound ++ " in " ++ constraint ++ renamed.after " as " ++ "]" ++
      optionalMark ++ type.after ": " ++ ";"]
  | ps => unlabeled ps

def importType (qualifier : String) : List Printed → Layout
  | [source, typeArgs] =>
    "import(" ++ source.layout ++ ")" ++ Layout.when (qualifier != "") ("." ++ qualifier) ++ typeArgs
  | ps => unlabeled ps

def predicate (isAssertion : Bool) (name : String) : List Printed → Layout
  | [type] => words [(isAssertion, "asserts")] ++ name ++ type.after " is "
  | ps => unlabeled ps

def propertySignature (isReadonly isOptional : Bool) : List Printed → Layout
  | [key, type] => words [(isReadonly, "readonly")] ++ key ++ Layout.when isOptional "?" ++ type
  | ps => unlabeled ps

def methodSignature (kind : MethodKind) (isOptional : Bool) : List Printed → Layout
  | key :: rest =>
    methodStart kind false false ++ key ++ Layout.when isOptional "?" ++ signature rest
  | [] => .empty

def indexSignature (mods : Modifiers) : List Printed → Layout
  | [param, type] => modifiers mods ++ "[" ++ param ++ "]" ++ type
  | ps => unlabeled ps

def typeAlias (declared : Bool) (name : String) : List Printed → Layout
  | [typeParams, type] =>
    words [(declared, "declare")] ++ "type " ++ name ++ typeParams ++ " = " ++ type ++ ";"
  | ps => unlabeled ps

def interface (declared : Bool) (name : String) : List Printed → Layout
  | [typeParams, bases, members] =>
    words [(declared, "declare")] ++ "interface " ++ name ++ typeParams ++ bases.after " extends " ++
      " " ++ typeMembers members.parts
  | ps => unlabeled ps

end StaticContext.Script.Printer
