import StaticContext.Pattern.Basic
import StaticContext.Pattern.Property
import StaticContext.Text.Property.CaseFolding

/-! Reading the text of a pattern from left to right. The first malformed place ends the reading;
what is well formed but stands for nothing, such as an unknown property, is kept as a doubt and told
only if nothing is malformed. Flags apply from where they stand to the end of their group. -/

namespace StaticContext.Pattern
open Text

structure Flags where
  foldsCase : Bool
  multiline : Bool
  dotAll : Bool
  /-- Carriage returns end lines too. -/
  returns : Bool := false
  ascii : Bool := false
  /-- Blanks and comments in the pattern do not count. -/
  extended : Bool := false
deriving DecidableEq, Repr, Inhabited

structure Reading where
  rest : List Char
  /-- Characters read so far. -/
  position : Nat
  flags : Flags
  names : List (List Char × Extent)
  doubt : Option Fault
deriving Repr, Inhabited

abbrev Reader := StateT Reading (Except Fault)

namespace Reader

def rest : Reader (List Char) := return (← get).rest

def position : Reader Nat := return (← get).position

def flags : Reader Flags := return (← get).flags

def setFlags (flags : Flags) : Reader Unit := modify ({ · with flags })

def refuse {α : Type} (cause : Cause) (start stop : Nat) : Reader α :=
  throw (.malformed cause ⟨start, stop⟩ none)

/-- Keeps the first doubt. -/
def doubt (cause : Cause) (start stop : Nat) : Reader Unit :=
  modify fun r => { r with doubt := r.doubt.or (some (.malformed cause ⟨start, stop⟩ none)) }

def skip (n : Nat) : Reader Unit :=
  modify fun r => { r with rest := r.rest.drop n, position := r.position + min n r.rest.length }

/-- Blanks, and comments up to the end of their line; `comment` tells that one is open. -/
def blankLength (comment : Bool) : List Char → Nat
  | [] => 0
  | c :: rest =>
    if comment then blankLength (c != '\n') rest + 1
    else if isBlank c then blankLength false rest + 1
    else if c = '#' then blankLength true rest + 1
    else 0

def skipBlanks : Reader Unit := do
  if (← flags).extended then skip (blankLength false (← rest))

/-- Passes a character and the blanks after it; tells whether there is more. -/
def pass : Reader Bool := do
  skip 1
  skipBlanks
  return !(← rest).isEmpty

/-- What comes after the next character and blanks; a comment sign is passed, its text is not. -/
def peekPast : Reader (Option Char) := do
  let after := (← rest).tail
  if !(← flags).extended then return after.head?
  match after.dropWhile isBlank with
  | '#' :: comment => return (comment.dropWhile isBlank).head?.or after.head?
  | more => return more.head?.or after.head?

/-- Passes a text that stands here. -/
def passText (text : List Char) : Reader Bool := do
  if text.isPrefixOf (← rest) then
    skip text.length
    return true
  else return false

/-- A set without regard to case if the flags say so, and its complement if `negated`. A set of the
ASCII mode must stay within ASCII. -/
def closeSet (start : Nat) (negated : Bool) (set : CharSet) : Reader CharSet := do
  let flags ← flags
  let folded :=
    if !flags.foldsCase then set
    else if flags.ascii then
      set.union (.ofCodes ((List.range 128).filter fun c =>
        (caseVariants c).any fun v => v < 128 && set.containsCode v))
    else set.foldClosed
  let result := if negated then folded.complement else folded
  if flags.ascii && result.ranges.any (·.2 > 127) then doubt .notUtf8 start (← position)
  return result

end Reader

/-- An element of a pattern as classes see it too. -/
inductive Primitive where
  | literal (c : Char)
  | set (s : CharSet)
  | assertion (a : Assertion)
deriving Repr, Inhabited

namespace Reader

def metaCharacters : List Char :=
  ['\\', '.', '+', '*', '?', '(', ')', '|', '[', ']', Char.ofNat 0x7B, Char.ofNat 0x7D, '^', '$',
   '#', '&', '-', '~']

/-- Whether a backslash before the character lets it stand for itself. -/
def isEscapable (c : Char) : Bool :=
  metaCharacters.contains c || (c.toNat < 128 && !c.isAlphanum && c != '<' && c != '>')

def openBrace : Char := Char.ofNat 0x7B

def closeBrace : Char := Char.ofNat 0x7D

def character? (digits : List Char) : Option Char :=
  let n := hexValue digits
  if digits.length ≤ 8 || (digits.dropWhile (· = '0')).length ≤ 8 then
    if n.isValidChar then some (Char.ofNat n) else none
  else none

/-- `count` hexadecimal digits. -/
def hexDigits (first : Bool) : Nat → Reader (List Char)
  | 0 => return []
  | count + 1 => do
    if !first then
      if !(← pass) then refuse .escapeEnds (← position) (← position)
    match (← rest).head? with
    | some c =>
      if (hexDigit? c).isNone then refuse .hexDigit (← position) ((← position) + 1)
      return c :: (← hexDigits false count)
    | none => refuse .escapeEnds (← position) (← position)

/-- Hexadecimal digits up to a closing brace; `left` bounds their number. -/
def bracedDigits : Nat → Reader (List Char)
  | 0 => return []
  | left + 1 => do
    if !(← pass) then return []
    match (← rest).head? with
    | some c =>
      if c = closeBrace then return []
      if (hexDigit? c).isNone then refuse .hexDigit (← position) ((← position) + 1)
      return c :: (← bracedDigits left)
    | none => return []

/-- After `x`, `u` or `U`, which still stands here. -/
def hexEscape (count : Nat) : Reader Char := do
  if !(← pass) then refuse .escapeEnds (← position) (← position)
  let start ← position
  if (← rest).head? = some openBrace then
    let digits ← bracedDigits (← rest).length
    if (← rest).isEmpty then refuse .escapeEnds start (← position)
    let stop ← position
    let _ ← pass
    if digits.isEmpty then refuse .hexEmpty start (← position)
    match character? digits with
    | some c => return c
    | none => refuse .hexNoCharacter (start + 1) stop
  else
    let digits ← hexDigits true count
    let _ ← pass
    match character? digits with
    | some c => return c
    | none => refuse .hexNoCharacter start (← position)

/-- A property's name up to its closing brace; `left` bounds its length. -/
def bracedName : Nat → Reader (List Char)
  | 0 => return []
  | left + 1 => do
    if !(← pass) then return []
    match (← rest).head? with
    | some c => if c = closeBrace then return [] else return c :: (← bracedName left)
    | none => return []

/-- After a backslash at `start`, with the `p` or `P` still here. -/
def property (start : Nat) (negated : Bool) : Reader CharSet := do
  if !(← pass) then refuse .escapeEnds (← position) (← position)
  let text ←
    if (← rest).head? = some openBrace then do
      let name ← bracedName (← rest).length
      if (← rest).isEmpty then refuse .escapeEnds (← position) (← position)
      skip 1
      pure name
    else do
      if (← rest).head? = some '\\' then refuse .propertyMalformed (← position) ((← position) + 1)
      let name := (← rest).take 1
      let _ ← pass
      pure name
  if (← flags).ascii then doubt .propertyRefused start (← position)
  match propertySet text with
  | (.ok set, turned) => closeSet start (negated != turned) set
  | (.error cause, _) =>
    doubt cause start (← position)
    return .empty

def isBoundaryLetter (c : Char) : Bool := c.isAlpha || c = '-'

/-- The letters of a boundary's name; `left` bounds their number. -/
def boundaryName : Nat → Reader (List Char)
  | 0 => return []
  | left + 1 => do
    match (← rest).head? with
    | some c =>
      if isBoundaryLetter c then
        let _ ← pass
        return c :: (← boundaryName left)
      else return []
    | none => return []

/-- A boundary that is named in braces, which start here; none if they hold a number. -/
def namedBoundary? (start : Nat) (ascii : Bool) : Reader (Option Assertion) := do
  let before ← get
  let brace ← position
  if !(← pass) then refuse .boundaryEnds start (← position)
  let nameStart ← position
  if !(← rest).head?.any isBoundaryLetter then
    set before
    return none
  let name ← boundaryName (← rest).length
  if (← rest).head? != some closeBrace then refuse .boundaryUnclosed brace (← position)
  let stop ← position
  skip 1
  match String.ofList name with
  | "start" => return some (.wordStart ascii)
  | "end" => return some (.wordEnd ascii)
  | "start-half" => return some (.wordStartHalf ascii)
  | "end-half" => return some (.wordEndHalf ascii)
  | _ => refuse .boundaryUnknown nameStart stop

/-- The letters that stand for another character. -/
def controlLetter? : Char → Option Char
  | 'a' => some '\x07'
  | 'f' => some '\x0c'
  | 't' => some '\t'
  | 'n' => some '\n'
  | 'r' => some '\r'
  | 'v' => some '\x0b'
  | _ => none

def hexCount? : Char → Option Nat
  | 'x' => some 2
  | 'u' => some 4
  | 'U' => some 8
  | _ => none

/-- An escape, whose backslash stands here. -/
def escape : Reader Primitive := do
  let start ← position
  skip 1
  let ascii := (← flags).ascii
  match (← rest).head? with
  | none => refuse .escapeEnds start (← position)
  | some c =>
    if c.isDigit then refuse .backreference start ((← position) + 1)
    if let some count := hexCount? c then return .literal (← hexEscape count)
    if c = 'p' || c = 'P' then return .set (← property start (c = 'P'))
    skip 1
    if let some set := letterClass? ascii c then
      if ascii && set.ranges.any (·.2 > 127) then doubt .notUtf8 start (← position)
      return .set set
    if isEscapable c then return .literal c
    if let some d := controlLetter? c then return .literal d
    match c with
    | 'A' => return .assertion .textStart
    | 'z' => return .assertion .textEnd
    | 'B' => return .assertion (.noWordBoundary ascii)
    | '<' => return .assertion (.wordStart ascii)
    | '>' => return .assertion (.wordEnd ascii)
    | 'b' =>
      if (← rest).head? = some openBrace then
        if let some a ← namedBoundary? start ascii then return .assertion a
      return .assertion (.wordBoundary ascii)
    | _ => refuse .escapeUnknown start (← position)

end Reader
end StaticContext.Pattern
