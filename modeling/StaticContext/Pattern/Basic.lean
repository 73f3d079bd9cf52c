import StaticContext.Text.CharSet
import StaticContext.Text.Property.Class

/-! Patterns over characters and where they match. A pattern moves a set of spots in a text forward;
a text matches if some spot is left, so matching takes as many steps as the pattern and the text
have and never goes back. -/

namespace StaticContext

/-- What may hold between two characters. -/
inductive Assertion where
  | textStart
  | textEnd
  /-- Where a line starts; with `returns`, carriage returns end lines too. -/
  | lineStart (returns : Bool)
  | lineEnd (returns : Bool)
  | wordBoundary (ascii : Bool)
  | noWordBoundary (ascii : Bool)
  | wordStart (ascii : Bool)
  | wordEnd (ascii : Bool)
  /-- No word before. -/
  | wordStartHalf (ascii : Bool)
  /-- No word after. -/
  | wordEndHalf (ascii : Bool)
deriving DecidableEq, Repr, Inhabited

inductive Pattern where
  | empty
  | one (set : Text.CharSet)
  | assertion (a : Assertion)
  | sequence (first second : Pattern)
  | choice (first second : Pattern)
  /-- At least `least` times, and at most `most` times if that is given. -/
  | repeated (body : Pattern) (least : Nat) (most : Option Nat)
deriving Repr, Inhabited

/-- A place in a text: the character before it and the text after it. -/
structure Spot where
  before : Option Char
  rest : List Char
deriving DecidableEq, Repr, Inhabited

namespace Spot

/-- Every place from `s` on. -/
def onward (before : Option Char) : List Char → List Spot
  | [] => [⟨before, []⟩]
  | c :: rest => ⟨before, c :: rest⟩ :: onward (some c) rest

/-- The spot after one character of the set. -/
def step (set : Text.CharSet) (s : Spot) : Option Spot :=
  match s.rest with
  | [] => none
  | c :: rest => if set.contains c then some ⟨some c, rest⟩ else none

/-- Adds the spots that are not there yet; in one text the rest tells spots apart. -/
def merge (spots more : List Spot) : List Spot :=
  more.foldl (fun kept s =>
    if kept.any (·.rest.length = s.rest.length) then kept else kept ++ [s]) spots

end Spot

namespace Assertion

def isWord (ascii : Bool) (c : Option Char) : Bool :=
  match c with
  | none => false
  | some c => if ascii then Text.isAsciiWord c else Text.isWord c

def holdsAt (s : Spot) : Assertion → Bool
  | textStart => s.before.isNone
  | textEnd => s.rest.isEmpty
  | lineStart returns =>
    s.before.all (· = '\n') || (returns && s.before = some '\r' && s.rest.head? != some '\n')
  | lineEnd returns =>
    if returns then
      s.rest.head?.all (· = '\r') || (s.rest.head? = some '\n' && s.before != some '\r')
    else s.rest.head?.all (· = '\n')
  | wordBoundary ascii => isWord ascii s.before != isWord ascii s.rest.head?
  | noWordBoundary ascii => isWord ascii s.before = isWord ascii s.rest.head?
  | wordStart ascii => !isWord ascii s.before && isWord ascii s.rest.head?
  | wordEnd ascii => isWord ascii s.before && !isWord ascii s.rest.head?
  | wordStartHalf ascii => !isWord ascii s.before
  | wordEndHalf ascii => !isWord ascii s.rest.head?

end Assertion

namespace Pattern

/-- `run` as often as given, until no spot is left. -/
def times (run : List Spot → List Spot) : Nat → List Spot → List Spot
  | 0, spots => spots
  | n + 1, spots => if spots.isEmpty then [] else times run n (run spots)

/-- The spots after up to `n` runs. -/
def upTo (run : List Spot → List Spot) : Nat → List Spot → List Spot
  | 0, spots => spots
  | n + 1, spots =>
    let more := Spot.merge spots (run spots)
    if more.length = spots.length then spots else upTo run n more

/-- Where the pattern leads from some spots of a text. New spots stop coming when there are as many
as the text has, so that many rounds of an unlimited repetition are enough. -/
def run : Pattern → List Spot → List Spot
  | empty, spots => spots
  | one set, spots => spots.filterMap (·.step set)
  | assertion a, spots => spots.filter a.holdsAt
  | sequence first second, spots => second.run (first.run spots)
  | choice first second, spots => Spot.merge (first.run spots) (second.run spots)
  | repeated body least most, spots =>
    let begun := times body.run least spots
    match most with
    | some most => upTo body.run (most - least) begun
    | none => upTo body.run ((begun.map (·.rest.length)).foldl max 0 + 1) begun

/-- Whether the pattern matches some part of the text. -/
def matchesIn (p : Pattern) (text : List Char) : Bool := !(p.run (Spot.onward none text)).isEmpty

/-- About how many bytes a set takes in an automaton that reads a text byte by byte. Every range is
counted apart, though ranges of longer characters can share the states of their last bytes. -/
def setSize (set : Text.CharSet) : Nat :=
  set.ranges.foldl (fun n (_, high) => n + if high < 128 then 16 else 64) 24

/-- About how many bytes an automaton for the pattern takes; repetitions are written out. It is an
estimate, and near the limit it decides otherwise than a count of states would. It is too high by half
or more for repeated single characters and for wide sets, so that patterns from about half of the limit
on are refused which an engine still takes. It is too low where groups capture, which costs an engine
two states for each group and nothing here, and where nothing is repeated or chosen from: then patterns
are taken that an engine refuses, with no bound on how far they are past the limit if groups are nested.
No result about the program rests on the number. -/
def size : Pattern → Nat
  | empty => 0
  | one set => setSize set
  | assertion _ => 24
  | sequence first second => first.size + second.size
  | choice first second => first.size + second.size + 24
  | repeated body least most => (body.size + 24) * max 1 (most.getD least)

end Pattern
end StaticContext
