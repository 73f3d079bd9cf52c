import StaticContext.Script.Printer.Basic

/-! Printing elements written as tags; text between tags stays as it was. -/

namespace StaticContext.Script.Printer
open Text (Layout)
open Text.Layout (row)

def element (tag : String) (isClosed : Bool) : List Printed → Layout
  | [attributes, children, typeArgs] =>
    let opening := "<" ++ tag ++ typeArgs.layout ++
      row (attributes.parts.map fun (a : Printed) => (" " ++ a : Layout))
    if isClosed && children.parts.isEmpty then opening ++ "/>"
    else opening ++ ">" ++ unlabeled children.parts ++ "</" ++ tag ++ ">"
  | ps => unlabeled ps

def elementAttribute (name : String) : List Printed → Layout
  | [value] => name ++ value.after "="
  | ps => unlabeled ps

def braced (ps : List Printed) : Layout := leftBrace ++ unlabeled ps ++ rightBrace

end StaticContext.Script.Printer
