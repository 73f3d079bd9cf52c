import StaticContext.Text.Utf8

/-! Lines and columns of a text, both from 1. Lines end at a line feed, a carriage return or both in
this order; columns count UTF-16 units. -/

namespace StaticContext.Text

structure Position where
  line : Nat
  column : Nat
deriving DecidableEq, Repr, Inhabited

namespace Position

def first : Position := ⟨1, 1⟩

def units (c : Char) : Nat := if c.toNat < 0x10000 then 1 else 2

/-- Whether a line ends behind `c`. A carriage return leaves that to a line feed next to it. -/
def endsLine (c : Char) (rest : List Char) : Bool :=
  c = '\n' || (c = '\r' && rest.head? != some '\n')

/-- Where the text goes on with `rest` after `c`. -/
def after (p : Position) (c : Char) (rest : List Char) : Position :=
  if endsLine c rest then ⟨p.line + 1, 1⟩ else ⟨p.line, p.column + units c⟩

/-- The position `offset` bytes into a text that starts at `p`. -/
def advance (p : Position) : List Char → Nat → Position
  | [], _ => p
  | c :: rest, offset =>
    if offset < Utf8.width c then p else (p.after c rest).advance rest (offset - Utf8.width c)

def ofOffset (text : List Char) (offset : Nat) : Position := first.advance text offset

end Position
end StaticContext.Text
