import StaticContext.Script.Printer.Function

/-! Printing classes and their members. -/

namespace StaticContext.Script.Printer
open Text (Layout)
open Text.Layout (row)

/-- A signature has no semicolon of its own. -/
def classMember (p : Printed) : Layout :=
  if p.label = .typeOnly then p ++ ";" else p

def classLike (declared isAbstract : Bool) : List Printed → Layout
  | [name, members, base, typeParams, baseArgs, interfaces] =>
    words [(declared, "declare"), (isAbstract, "abstract")] ++ "class" ++ name.after " " ++
      typeParams ++ base.after " extends " ++ baseArgs ++ interfaces.after " implements " ++ " " ++
      bracedLines (members.parts.map classMember)
  | ps => unlabeled ps

/-- A constructor has no blank before its body. -/
def classMethod (kind : MethodKind) (mods : Modifiers) (isAsync isGenerator isOptional : Bool) :
    List Printed → Layout
  | [key, params, body, typeParams, result] =>
    if kind = .constructor && key.items.isEmpty && typeParams.isAbsent && result.isAbsent then
      modifiers mods ++ "constructor" ++ parenthesized params ++ bodyOr ";" Layout.empty body
    else
      modifiers mods ++ methodStart kind isAsync isGenerator ++ key ++ Layout.when isOptional "?" ++
        functionTail [params, body, typeParams, result]
  | ps => unlabeled ps

def classField (mods : Modifiers) (mark : String) : List Printed → Layout
  | [key, type, value] => modifiers mods ++ key ++ mark ++ type ++ value.after " = " ++ ";"
  | ps => unlabeled ps

end StaticContext.Script.Printer
