import StaticContext.Script.Printer.Basic

/-! Printing targets of declarations and assignments. -/

namespace StaticContext.Script.Printer
open Text (Layout)
open Text.Layout (row)

/-- A comma that ends a list with an open last place; without it that place would be lost. -/
def openEnd (ps : List Printed) : Layout :=
  match ps.getLast? with
  | some p => .when (p.label = .hole) ", "
  | none => .empty

def arrayPattern (ps : List Printed) : Layout := "[" ++ commas ps ++ openEnd ps ++ "]"

def objectPattern (ps : List Printed) : Layout :=
  if ps.isEmpty then leftBrace ++ rightBrace else leftBrace ++ " " ++ commas ps ++ " " ++ rightBrace

def typed (isOptional : Bool) : List Printed → Layout
  | [pattern, type] => pattern ++ Layout.when isOptional "?" ++ type
  | ps => unlabeled ps

def withDefault : List Printed → Layout
  | [pattern, value] => pattern ++ " = " ++ value
  | ps => unlabeled ps

def keyed : List Printed → Layout
  | [key, value] => key ++ ": " ++ value
  | ps => unlabeled ps

end StaticContext.Script.Printer
