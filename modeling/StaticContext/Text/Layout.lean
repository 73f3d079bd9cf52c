/-! Text laid out in lines. A layout is a row of pieces. A line break at the start of a line does
nothing, so no line is left empty, and a line is indented when its first text is written. -/

namespace StaticContext.Text

inductive Piece where
  | text (chars : List Char)
  | line
  | indent
  | dedent
deriving DecidableEq, Repr, Inhabited

structure Layout where
  pieces : List Piece
deriving DecidableEq, Repr, Inhabited

namespace Layout

def empty : Layout := ⟨[]⟩

instance : Append Layout := ⟨fun a b => ⟨a.pieces ++ b.pieces⟩⟩

def ofChars (chars : List Char) : Layout := ⟨[.text chars]⟩

instance : Coe String Layout := ⟨fun s => ofChars s.toList⟩

def line : Layout := ⟨[.line]⟩

/-- One level deeper. -/
def indented (l : Layout) : Layout := ⟨.indent :: l.pieces ++ [.dedent]⟩

def row (ls : List Layout) : Layout := ⟨ls.flatMap pieces⟩

def joined (separator : Layout) (ls : List Layout) : Layout := row (ls.intersperse separator)

/-- `l` if the condition holds. -/
def when (condition : Bool) (l : Layout) : Layout := if condition then l else empty

def indentation (depth : Nat) : List Char := List.replicate (4 * depth) ' '

/-- What the pieces come to from a place `depth` levels deep, `fresh` at the start of a line. -/
def renderFrom (fresh : Bool) (depth : Nat) : List Piece → List Char
  | [] => []
  | .text [] :: rest => renderFrom fresh depth rest
  | .text (c :: chars) :: rest =>
    (if fresh then indentation depth else []) ++ c :: chars ++ renderFrom false depth rest
  | .line :: rest => if fresh then renderFrom true depth rest else '\n' :: renderFrom true depth rest
  | .indent :: rest => renderFrom fresh (depth + 1) rest
  | .dedent :: rest => renderFrom fresh (depth - 1) rest

def render (l : Layout) : String := String.ofList (renderFrom true 0 l.pieces)

end Layout
end StaticContext.Text
