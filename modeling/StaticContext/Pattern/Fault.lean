/-! What is wrong with the text of a pattern, and how a report shows it: the pattern with carets
under the place in question. -/

namespace StaticContext.Pattern

/-- Characters of a pattern, counted from 0; an empty one marks the character it stands before. -/
structure Extent where
  start : Nat
  stop : Nat
deriving DecidableEq, Repr, Inhabited

inductive Cause where
  | lookAround
  | backreference
  | escapeUnknown
  | escapeEnds
  | escapeInClass
  | groupUnclosed
  | groupUnopened
  | groupNameRepeated
  | groupNameEmpty
  | groupNameUnclosed
  | groupNameInvalid
  | flagUnknown
  | flagRepeated
  | flagNegationRepeated
  | flagNegationDangling
  | flagsEnd
  | classUnclosed
  | classRangeReversed
  | classRangeBound
  | repetitionMissing
  | repetitionReversed
  | repetitionUnclosed
  | repetitionNoNumber
  | numberTooLarge
  | hexEmpty
  | hexDigit
  | hexNoCharacter
  | propertyMalformed
  | propertyUnknown
  | propertyValueUnknown
  | propertyRefused
  | notUtf8
  | boundaryUnclosed
  | boundaryUnknown
  | boundaryEnds
deriving DecidableEq, Repr, Inhabited

def Cause.message : Cause → String
  | lookAround => "look-around, including look-ahead and look-behind, is not supported"
  | backreference => "backreferences are not supported"
  | escapeUnknown => "unrecognized escape sequence"
  | escapeEnds => "incomplete escape sequence, reached end of pattern prematurely"
  | escapeInClass => "invalid escape sequence found in character class"
  | groupUnclosed => "unclosed group"
  | groupUnopened => "unopened group"
  | groupNameRepeated => "duplicate capture group name"
  | groupNameEmpty => "empty capture group name"
  | groupNameUnclosed => "unclosed capture group name"
  | groupNameInvalid => "invalid capture group character"
  | flagUnknown => "unrecognized flag"
  | flagRepeated => "duplicate flag"
  | flagNegationRepeated => "flag negation operator repeated"
  | flagNegationDangling => "dangling flag negation operator"
  | flagsEnd => "expected flag but got end of regex"
  | classUnclosed => "unclosed character class"
  | classRangeReversed => "invalid character class range, the start must be <= the end"
  | classRangeBound => "invalid range boundary, must be a literal"
  | repetitionMissing => "repetition operator missing expression"
  | repetitionReversed => "invalid repetition count range, the start must be <= the end"
  | repetitionUnclosed => "unclosed counted repetition"
  | repetitionNoNumber => "repetition quantifier expects a valid decimal"
  | numberTooLarge => "decimal literal invalid"
  | hexEmpty => "hexadecimal literal empty"
  | hexDigit => "invalid hexadecimal digit"
  | hexNoCharacter => "hexadecimal literal is not a Unicode scalar value"
  | propertyMalformed => "invalid Unicode character class"
  | propertyUnknown => "Unicode property not found"
  | propertyValueUnknown => "Unicode property value not found"
  | propertyRefused => "Unicode not allowed here"
  | notUtf8 => "pattern can match invalid UTF-8"
  | boundaryUnclosed =>
    "special word boundary assertion is either unclosed or contains an invalid character"
  | boundaryUnknown =>
    "unrecognized special word boundary assertion, valid choices are: start, end, start-half or end-half"
  | boundaryEnds =>
    "found either the beginning of a special word boundary or a bounded repetition on a \\b with an opening brace, but no closing brace"

inductive Fault where
  /-- A fault of the text; `first` is the place that the one at `extent` is at odds with. -/
  | malformed (cause : Cause) (extent : Extent) (first : Option Extent)
  | tooLarge
deriving DecidableEq, Repr, Inhabited

/-- The largest size of an automaton, in bytes. What is compared with it is `Pattern.size`, which is an
estimate. -/
def sizeLimit : Nat := 10485760

/-- Line, from 0, and column of the character `n` of a text. -/
def lineColumn : Nat × Nat → List Char → Nat → Nat × Nat
  | place, [], _ => place
  | place, _, 0 => place
  | (line, column), c :: rest, n + 1 =>
    lineColumn (if c = '\n' then (line + 1, 0) else (line, column + 1)) rest n

/-- A stretch of one line or more. -/
structure Stretch where
  start : Nat × Nat
  stop : Nat × Nat

def Stretch.ofExtent (text : List Char) (e : Extent) : Stretch :=
  ⟨lineColumn (0, 0) text e.start, lineColumn (0, 0) text e.stop⟩

/-- Carets under the stretches of a line, each at least one, from column `column` on. -/
def carets (column : Nat) : List Stretch → List Char
  | [] => []
  | s :: rest =>
    let blanks := s.start.2 - column
    let marks := max 1 (s.stop.2 - s.start.2)
    List.replicate blanks ' ' ++ List.replicate marks '^' ++ carets (column + blanks + marks) rest

def withoutReturn (line : List Char) : List Char :=
  if line.getLast? = some '\r' then line.dropLast else line

/-- Lines without their ends; a last empty one does not count. -/
def linesOf (text : List Char) : List (List Char) :=
  let lines := text.splitOn '\n'
  let last := lines.getLast?.toList.filter (!·.isEmpty)
  lines.dropLast.map withoutReturn ++ last

def padded (width n : Nat) : List Char :=
  let digits := (toString n).toList
  List.replicate (width - digits.length) ' ' ++ digits

/-- The lines of a pattern, each with the carets below it; `width` is that of the line numbers. -/
def notated (width : Nat) (stretches : List Stretch) (lines : List (List Char)) : List Char :=
  (lines.zipIdx.map fun (line, i) =>
    let head := if width = 0 then List.replicate 4 ' ' else padded width (i + 1) ++ [':', ' ']
    let here := stretches.filter (·.start.1 = i)
    let below := if here.isEmpty then [] else
      List.replicate (if width = 0 then 4 else width + 2) ' ' ++ carets 0 here ++ ['\n']
    head ++ line ++ ['\n'] ++ below).flatten

def Stretch.isOneLine (s : Stretch) : Bool := s.start.1 = s.stop.1

def Stretch.note (s : Stretch) : String :=
  "on line " ++ toString (s.start.1 + 1) ++ " (column " ++ toString (s.start.2 + 1) ++
    ") through line " ++ toString (s.stop.1 + 1) ++ " (column " ++ toString s.stop.2 ++ ")"

/-- What a report shows of the pattern: as it is, or with line numbers between two rules if it has
more than one line. -/
def excerpt (text : List Char) (extents : List Extent) : String :=
  let stretches := extents.map (Stretch.ofExtent text)
  let short := stretches.filter (·.isOneLine)
  if text.contains '\n' then
    let lines := linesOf text
    let count := if text.getLast? = some '\n' then lines.length + 1 else lines.length
    let width := if count ≤ 1 then 0 else (toString count).length
    let rule := String.ofList (List.replicate 79 '~') ++ "\n"
    let notes := (stretches.filter (!·.isOneLine)).map Stretch.note
    rule ++ String.ofList (notated width short lines) ++ rule ++
      (if notes.isEmpty then "" else "\n".intercalate notes ++ "\n")
  else String.ofList (notated 0 short [text])

/-- The report on a faulty pattern. -/
def Fault.message (text : String) : Fault → String
  | malformed cause extent first =>
    let extents := match first with
      | none => [extent]
      | some e => [e, extent]
    "regex parse error:\n" ++ excerpt text.toList extents ++ "error: " ++ cause.message
  | tooLarge => "Compiled regex exceeds size limit of " ++ toString sizeLimit ++ " bytes."

end StaticContext.Pattern
