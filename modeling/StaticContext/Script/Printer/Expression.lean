import StaticContext.Script.Printer.Pattern

/-! Printing expressions. Parentheses are nodes of their own, so none are added. -/

namespace StaticContext.Script.Printer
open Text (Layout)
open Text.Layout (line indented joined row)

/-- Each element on a line of its own. -/
def array (ps : List Printed) : Layout :=
  if ps.isEmpty then "[]"
  else "[" ++ line ++ indented (joined ("," ++ line) (ps.map Printed.layout) ++ openEnd ps) ++ line ++
    "]"

/-- Each property on a line of its own. -/
def object (ps : List Printed) : Layout :=
  if ps.isEmpty then leftBrace ++ rightBrace
  else leftBrace ++ line ++ indented (joined ("," ++ line) (ps.map Printed.layout)) ++ line ++
    rightBrace

/-- The operator that a node starts with. -/
def firstOperator? : Label → Option String
  | .unary op => some op
  | .update op true => some op
  | _ => none

/-- Whether two operators in a row would be read as one, as in `- -x`. -/
def runsTogether (op next : String) : Bool := (op = "+" || op = "-") && next.startsWith op

def unary (op : String) : List Printed → Layout
  | [operand] =>
    let isWord := op.toList.all Char.isAlpha
    let spaced := isWord || (firstOperator? operand.label).any (runsTogether op)
    op ++ Layout.when spaced " " ++ operand
  | ps => unlabeled ps

def update (op : String) (isFirst : Bool) (ps : List Printed) : Layout :=
  if isFirst then op ++ unlabeled ps else unlabeled ps ++ op

def binary (op : String) : List Printed → Layout
  | [left, right] => left ++ " " ++ op ++ " " ++ right
  | ps => unlabeled ps

def conditional : List Printed → Layout
  | [test, yes, no] => test ++ " ? " ++ yes ++ " : " ++ no
  | ps => unlabeled ps

/-- Whether a number would take a dot behind it as its own. -/
def takesDot : Label → Bool
  | .literal (.number source) =>
    source.toList.all Char.isDigit && (source.length < 2 || source.toList.head? != some '0')
  | _ => false

def member : List Printed → Layout
  | [object, name] =>
    if name.label = .computed then object ++ name.layout
    else object ++ Layout.when (takesDot object.label) "." ++ "." ++ name
  | ps => unlabeled ps

def chainMember (isOptional : Bool) : List Printed → Layout
  | [object, name] =>
    object ++ (if isOptional then ("?." : Layout) else Layout.when (name.label != .computed) ".") ++ name
  | ps => unlabeled ps

def call (mark : Layout) : List Printed → Layout
  | [callee, args, typeArgs] => callee ++ mark ++ typeArgs ++ parenthesized args
  | ps => unlabeled ps

/-- Arguments that are left out stay so. -/
def construct : List Printed → Layout
  | [callee, args, typeArgs] =>
    "new " ++ callee ++ typeArgs ++ Layout.when (!args.isAbsent) (parenthesized args)
  | ps => unlabeled ps

def yield (isDelegate : Bool) : List Printed → Layout
  | [operand] => "yield" ++ Layout.when isDelegate "*" ++ operand.after " "
  | ps => unlabeled ps

def tagged : List Printed → Layout
  | [tag, text, typeArgs] => tag ++ typeArgs ++ text
  | ps => unlabeled ps

def typeAssertion : List Printed → Layout
  | [operand, type] => "<" ++ type.layout ++ ">" ++ operand
  | ps => unlabeled ps

end StaticContext.Script.Printer
