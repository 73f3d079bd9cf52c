import StaticContext.Script.Printer.Basic

/-! Printing imports and exports. -/

namespace StaticContext.Script.Printer
open Text (Layout)
open Text.Layout (line indented joined row)

/-- Names in braces. -/
def named (ps : List Printed) : Layout :=
  if ps.isEmpty then leftBrace ++ rightBrace else leftBrace ++ " " ++ commas ps ++ " " ++ rightBrace

def isNamed (p : Printed) : Bool :=
  match p.label with
  | .importNamed _ | .exportNamed _ => true
  | _ => false

/-- What is imported or exported, up to the source: what goes by one name first, then the list. -/
def clause (ps : List Printed) : List Layout :=
  let (inList, single) := ps.partition isNamed
  single.map Printed.layout ++ (if inList.isEmpty then [] else [named inList])

def attributes (p : Printed) : Layout := p.after " with "

/-- An import of nothing has its source alone. -/
def importDeclaration (typeOnly : Bool) : List Printed → Layout
  | [specifiers, source, attrs] =>
    let parts := clause specifiers.parts
    "import " ++ words [(typeOnly, "type")] ++ joined ", " parts ++
      Layout.when (!parts.isEmpty) " from " ++ source ++ attributes attrs ++ ";"
  | ps => unlabeled ps

/-- One name, or two with `as` between them. -/
def specifier (typeOnly : Bool) : List Printed → Layout
  | [first, second] =>
    let start := words [(typeOnly, "type")]
    if first.isAbsent then start ++ second
    else if second.isAbsent then start ++ first
    else start ++ first ++ " as " ++ second
  | ps => unlabeled ps

def exportNames (typeOnly : Bool) : List Printed → Layout
  | [specifiers, source, attrs] =>
    let parts := clause specifiers.parts
    "export " ++ words [(typeOnly, "type")] ++
      (if parts.isEmpty then named [] else joined ", " parts) ++ source.after " from " ++
      attributes attrs ++ ";"
  | ps => unlabeled ps

def exportAll (typeOnly : Bool) : List Printed → Layout
  | [source, attrs] =>
    "export " ++ words [(typeOnly, "type")] ++ "* from " ++ source ++ attributes attrs ++ ";"
  | ps => unlabeled ps

/-- A declaration of variables in an export needs the semicolon that others have of their own. -/
def exportDeclaration : List Printed → Layout
  | [declaration] =>
    match declaration.label with
    | .variables .. => "export " ++ declaration.layout ++ ";"
    | _ => "export " ++ declaration.layout
  | ps => unlabeled ps

def importEquals (exported typeOnly : Bool) (binding : String) (ps : List Printed) : Layout :=
  words [(exported, "export")] ++ "import " ++ words [(typeOnly, "type")] ++ binding ++ " = " ++
    unlabeled ps ++ ";"

end StaticContext.Script.Printer
