import StaticContext.Script.Printer.Basic

/-! Printing statements and declarations. A statement in another takes its end along; the line that
the outer one ends is then over already. -/

namespace StaticContext.Script.Printer
open Text (Layout)
open Text.Layout (line indented joined row)

/-- An alternative goes on behind the brace of a block, else on a line of its own. -/
def ifStatement : List Printed → Layout
  | [test, yes, no] =>
    let start := "if (" ++ test.layout ++ ") " ++ statement yes
    if no.isAbsent then start else start ++ Layout.when yes.isBlock " " ++ "else " ++ statement no
  | ps => unlabeled ps

def switchStatement : List Printed → Layout
  | [value, cases] => "switch(" ++ value.layout ++ ")" ++ bracedLines (cases.parts.map Printed.layout)
  | ps => unlabeled ps

def switchCase : List Printed → Layout
  | [test, body] =>
    (if test.isAbsent then ("default" : Layout) else "case " ++ test) ++ ":" ++ line ++
      indented (row (body.parts.map fun p => statement p ++ line))
  | ps => unlabeled ps

def tryStatement : List Printed → Layout
  | [body, handler, final] =>
    "try " ++ body.layout ++ handler.after " " ++ final.after " finally"
  | ps => unlabeled ps

/-- The blanks round a parameter stay when it is left out. -/
def catchClause : List Printed → Layout
  | [param, body] =>
    "catch " ++ Layout.when (!param.isAbsent) ("(" ++ param.layout ++ ")") ++ " " ++ body
  | ps => unlabeled ps

def whileLoop : List Printed → Layout
  | [test, body] => "while(" ++ test.layout ++ ")" ++ statement body
  | ps => unlabeled ps

def doLoop : List Printed → Layout
  | [test, body] => "do " ++ statement body ++ "while (" ++ test ++ ")"
  | ps => unlabeled ps

def forLoop : List Printed → Layout
  | [start, test, step, body] =>
    "for(" ++ start.layout ++ ";" ++ test.after " " ++ ";" ++ step.after " " ++ ")" ++ statement body
  | ps => unlabeled ps

/-- A loop over the keys or the values of something. -/
def forEach (opening between : String) : List Printed → Layout
  | [target, source, body] => opening ++ target.layout ++ between ++ source ++ ")" ++ statement body
  | ps => unlabeled ps

def withStatement : List Printed → Layout
  | [object, body] => "with (" ++ object.layout ++ ") " ++ statement body
  | ps => unlabeled ps

def jump (word : String) (target : Option String) : Layout :=
  match target with
  | some name => word ++ " " ++ name ++ ";"
  | none => word ++ ";"

/-- A word, its operand if it has one, and the semicolon. -/
def wordStatement (word : String) : List Printed → Layout
  | [operand] => word ++ operand.after " " ++ ";"
  | ps => unlabeled ps

def declarators (kind : VariableKind) (declared : Bool) (ps : List Printed) : Layout :=
  let word := match kind with
    | .functionScoped => "var "
    | .blockScoped => "let "
    | .constant => "const "
  words [(declared, "declare")] ++ word ++ commas ps

/-- The mark of a definite variable stands before its type. -/
def definite : Printed → Layout
  | .mk (.typed _) _ [pattern, type] => pattern ++ "!" ++ type
  | p => p

def declarator (isDefinite : Bool) : List Printed → Layout
  | [target, value] => (if isDefinite then definite target else target.layout) ++ value.after " = "
  | ps => unlabeled ps

def enumeration (declared isConst : Bool) (name : String) (ps : List Printed) : Layout :=
  words [(declared, "declare"), (isConst, "const")] ++ "enum " ++ name ++ " " ++ leftBrace ++ line ++
    indented (joined ("," ++ line) (ps.map Printed.layout)) ++ line ++ rightBrace

def enumMember : List Printed → Layout
  | [key, value] => key ++ value.after " = "
  | ps => unlabeled ps

/-- The block of a namespace, whose braces stand on lines of their own even if it is empty. -/
def namespaceBody (body : Printed) : Layout :=
  if body.isBlock then bracedLines (body.items.map statement) else body

def namespaceBlock (declared : Bool) (opener : String) : List Printed → Layout
  | [body] =>
    let start := words [(declared, "declare")] ++ opener
    if body.isAbsent then start ++ ";" else start ++ " " ++ namespaceBody body
  | ps => unlabeled ps

end StaticContext.Script.Printer
