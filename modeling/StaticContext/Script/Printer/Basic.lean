import StaticContext.Script.Quoted
import StaticContext.Script.Tree
import StaticContext.Text.Layout

/-! What printers of all kinds of nodes share. A node is printed from its printed children: each of
them brings its layout, and its label and own children where the node lays those out itself. Whatever
children a node has, each that has children of its own is laid out. -/

namespace StaticContext.Script

open Text (Layout)

inductive Printed where
  | mk (label : Label) (layout : Layout) (items : List Printed)
deriving Inhabited

namespace Printed

def label : Printed → Label
  | mk l _ _ => l

def layout : Printed → Layout
  | mk _ l _ => l

def items : Printed → List Printed
  | mk _ _ is => is

instance : Coe Printed Layout := ⟨layout⟩

def isAbsent (p : Printed) : Bool := p.label = .absent && p.items.isEmpty

def isBlock (p : Printed) : Bool := p.label = .block

/-- What stands in the place of a list. -/
def parts (p : Printed) : List Printed :=
  if p.label = .list then p.items else if p.isAbsent then [] else [p]

/-- `before` and the child, if it is there. -/
def after (before : Layout) (p : Printed) : Layout := .when (!p.isAbsent) (before ++ p)

end Printed

namespace Printer

open Text.Layout (line indented joined row)

def leftBrace : Layout := "\x7b"

def rightBrace : Layout := "\x7d"

/-- Layouts with commas between them, on one line. -/
def commas (ps : List Printed) : Layout := joined ", " (ps.map Printed.layout)

/-- A child that is a list, in parentheses. -/
def parenthesized (p : Printed) : Layout := "(" ++ commas p.parts ++ ")"

/-- Layouts on lines of their own, between braces. -/
def bracedLines (ls : List Layout) : Layout :=
  leftBrace ++ line ++ indented (row (ls.map (· ++ line))) ++ rightBrace

/-- A node whose children are not those its label asks for. -/
def unlabeled (ps : List Printed) : Layout := row (ps.map Printed.layout)

/-- A statement with what ends it. A block ends itself, and the line goes on behind it. -/
def statement (p : Printed) : Layout :=
  match p.label with
  | .block => p
  | .variables .. => p ++ ";" ++ line
  | _ => p ++ line

/-- Statements between braces. -/
def block (ps : List Printed) : Layout :=
  if ps.isEmpty then leftBrace ++ rightBrace else bracedLines (ps.map statement)

/-- Words that are there, each with a blank behind it. -/
def words (ws : List (Bool × String)) : Layout :=
  row (ws.map fun (holds, w) => .when holds (w ++ " "))

/-- Modifiers in their one order, whatever order they were written in. -/
def modifiers (m : Modifiers) : Layout :=
  words (["declare", "public", "private", "protected", "static", "abstract", "override", "readonly",
    "accessor"].map fun w => (m.words.contains w, w))

/-- Every line end as a line feed, which is what it means within a template. -/
def lineFeeds : List Char → List Char
  | [] => []
  | '\r' :: '\n' :: rest => '\n' :: lineFeeds rest
  | c :: rest => (if c = '\r' then '\n' else c) :: lineFeeds rest

/-- Pieces of text with items in braces between them. -/
def interpolated : List String → List Printed → Layout
  | [], items => unlabeled items
  | piece :: pieces, [] => Layout.ofChars (lineFeeds piece.toList) ++ interpolated pieces []
  | piece :: pieces, item :: items =>
    Layout.ofChars (lineFeeds piece.toList) ++ ("$" ++ leftBrace ++ item ++ rightBrace) ++
      interpolated pieces items

def template (pieces : List String) (items : List Printed) : Layout :=
  "`" ++ interpolated pieces items ++ "`"

def literal : Literal → Layout
  | .string value none => Layout.ofChars (Quoted.quote value.toList)
  | .string _ (some source) => source
  | .number source => source
  | .bigint source => source
  | .boolean true => "true"
  | .boolean false => "false"
  | .null => "null"
  | .regex pattern flags => "/" ++ pattern ++ "/" ++ flags

end Printer
end StaticContext.Script
