import StaticContext.Script.Quoted
import StaticContext.Script.Tree
import StaticContext.Text.Utf8

/-! Tokens of scripts. `Token.read` skips blanks and comments and reads one token; a slash is always
an operator and `>` always stands alone, since what they open or belong to is for the reader of the
grammar to say. -/

namespace StaticContext.Script

/-- The text from some place on, and the bytes before it. -/
structure Cursor where
  rest : List Char
  offset : Nat
deriving DecidableEq, Repr, Inhabited

namespace Cursor

def ofText (text : List Char) : Cursor := ⟨text, 0⟩

def skip (c : Cursor) (n : Nat) : Cursor :=
  ⟨c.rest.drop n, c.offset + Utf8.widths (c.rest.take n)⟩

def offsetAfter (c : Cursor) (n : Nat) : Nat := (c.skip n).offset

end Cursor

inductive TokenKind where
  /-- A name or a keyword; `isEscaped` if its spelling hides a letter, which makes it no keyword. -/
  | word (text : String) (isEscaped : Bool)
  | privateWord (text : String)
  | mark (text : String)
  | literal (value : Literal)
  | textEnd
  | wrong (fault : Fault)
deriving DecidableEq, Repr, Inhabited

structure Token where
  kind : TokenKind
  start : Nat
  stop : Nat
  /-- Whether a line ends between this token and the one before it. -/
  isAfterBreak : Bool
deriving DecidableEq, Repr, Inhabited

namespace Token

def reservedWords : List String :=
  ["await", "break", "case", "catch", "class", "const", "continue", "debugger", "default", "delete",
   "do", "else", "enum", "export", "extends", "false", "finally", "for", "function", "if", "import",
   "in", "instanceof", "let", "new", "null", "return", "static", "super", "switch", "this", "throw",
   "true", "try", "typeof", "var", "void", "while", "with", "yield"]

/-- Words that never are names of variables, wherever they stand. -/
def isKeyword (text : String) : Bool :=
  !(["await", "let", "static", "yield"].contains text) && reservedWords.contains text

/-- Words that strict code keeps for later. -/
def isFutureReserved (text : String) : Bool :=
  ["implements", "interface", "let", "package", "private", "protected", "public", "static",
   "yield"].contains text

/-- What an error message calls the token. -/
def shown (t : Token) : String :=
  match t.kind with
  | .word text _ => text
  | .privateWord text => "#" ++ text
  | .mark text => text
  | .literal (.string value source) =>
    "string literal (" ++ value ++ ", " ++ source.getD value ++ ")"
  | .literal (.number source) => "numeric literal (" ++ source ++ ")"
  | .literal (.bigint source) => "bigint literal (" ++ source ++ ")"
  | .literal (.regex pattern flags) => "regexp literal (" ++ pattern ++ ", " ++ flags ++ ")"
  | .literal _ => "literal"
  | .textEnd => "<eof>"
  | .wrong _ => "<error>"

def isMark (t : Token) (text : String) : Bool := t.kind = .mark text

def isWord (t : Token) (text : String) : Bool := t.kind = .word text false

/-- The name a token can be where any word may stand. -/
def word? (t : Token) : Option String :=
  match t.kind with
  | .word text _ => some text
  | _ => none

/-- The name a token can be where a variable is meant. -/
def name? (t : Token) : Option String :=
  match t.kind with
  | .word text isEscaped => if isKeyword text && !isEscaped then none else some text
  | _ => none

end Token

/-- Where the reader is between tokens. -/
inductive Gap where
  | between
  | lineComment
  /-- `starred` right behind a star, which a slash would make the end. -/
  | blockComment (start : Nat) (starred : Bool)
deriving DecidableEq, Repr

namespace Gap

/-- Skips blanks and comments; tells whether a line ended on the way. -/
def skip (gap : Gap) (broken : Bool) (offset : Nat) : List Char → Except Fault (Cursor × Bool)
  | [] =>
    match gap with
    | .blockComment start _ => .error ⟨.commentUnclosed, start⟩
    | _ => .ok (⟨[], offset⟩, broken)
  | c :: rest =>
    match gap with
    | .between =>
      if isSpace c then skip .between (broken || isLineEnd c) (offset + Utf8.width c) rest
      else if c = '/' then
        match rest with
        | '/' :: more => skip .lineComment broken (offset + 2) more
        | '*' :: more => skip (.blockComment offset false) broken (offset + 2) more
        | _ => .ok (⟨c :: rest, offset⟩, broken)
      else .ok (⟨c :: rest, offset⟩, broken)
    | .lineComment =>
      skip (if isLineEnd c then .between else .lineComment) (broken || isLineEnd c)
        (offset + Utf8.width c) rest
    | .blockComment start starred =>
      if starred ∧ c = '/' then skip .between broken (offset + 1) rest
      else skip (.blockComment start (c = '*')) (broken || isLineEnd c) (offset + Utf8.width c) rest

end Gap

/-- A piece read from the front of a text: what it is, its size in characters, and faults that do not
end it, each with the number of characters before it. -/
structure Lexeme where
  kind : TokenKind
  size : Nat
  faults : List (Cause × Nat)
deriving DecidableEq, Repr, Inhabited

namespace Lexeme

/-- A name's text and size; escapes in it are resolved. The number bounds the steps. -/
def name (cs : List Char) : Nat → Except Cause (List Char × Nat × Bool)
  | 0 => .ok ([], 0, false)
  | fuel + 1 =>
    match cs with
    | [] => .ok ([], 0, false)
    | c :: rest =>
      if continuesName c then
        (name rest fuel).map fun (text, size, isEscaped) => (c :: text, size + 1, isEscaped)
      else if c = Quoted.backslash ∧ rest.head? = some 'u' then
        match Quoted.unicode rest.tail with
        | .error cause => .error cause
        | .ok (n, size) =>
          (name (rest.drop (size + 1)) fuel).map fun (text, more, _) =>
            (Char.ofNat n :: text, size + 2 + more, true)
      else .ok ([], 0, false)

/-- Digits of a base with separators between them. -/
def digits (isDigit : Char → Bool) (cs : List Char) : Nat :=
  (cs.takeWhile fun c => isDigit c || c = '_').length

/-- The size of an exponent, none if its digits are missing, which the second size points at. -/
def exponent (cs : List Char) : Option Nat × Nat :=
  match cs with
  | c :: rest =>
    if c = 'e' ∨ c = 'E' then
      let sign := if rest.head? = some '+' ∨ rest.head? = some '-' then 1 else 0
      let n := digits Char.isDigit (rest.drop sign)
      (if n = 0 then none else some (1 + sign + n), 1 + sign)
    else (some 0, 0)
  | [] => (some 0, 0)

/-- The kind of a number read so far, and its size: decimal digits, fraction, exponent. -/
def decimal (cs : List Char) : Except (Cause × Nat) (Bool × Nat) :=
  let whole := digits Char.isDigit cs
  let afterWhole := cs.drop whole
  if afterWhole.head? = some 'n' ∧ whole > 0 then .ok (true, whole + 1)
  else
    let fraction :=
      if afterWhole.head? = some '.' then 1 + digits Char.isDigit afterWhole.tail else 0
    match exponent (afterWhole.drop fraction) with
    | (some n, _) => .ok (false, whole + fraction + n)
    | (none, n) => .error (.digitMissing "decimal", whole + fraction + n)

/-- A number in another base, from behind its two first characters. -/
def based (kind : String) (isDigit : Char → Bool) (cs : List Char) :
    Except (Cause × Nat) (Bool × Nat) :=
  let n := digits isDigit (cs.drop 2)
  if n = 0 then .error (.digitMissing kind, 2)
  else if (cs.drop (2 + n)).head? = some 'n' then .ok (true, 2 + n + 1)
  else .ok (false, 2 + n)

def numberSize (cs : List Char) : Except (Cause × Nat) (Bool × Nat) :=
  match cs with
  | '0' :: c :: _ =>
    if c = 'x' ∨ c = 'X' then based "hexadecimal" (fun d => (Text.hexDigit? d).isSome) cs
    else if c = 'o' ∨ c = 'O' then based "octal" Quoted.isOctalDigit cs
    else if c = 'b' ∨ c = 'B' then based "binary" (fun d => d = '0' || d = '1') cs
    else decimal cs
  | _ => decimal cs

def isLegacyOctal (cs : List Char) : Bool := cs.head? = some '0' && cs.tail.head?.any Char.isDigit

def wrong (offset : Nat) (cause : Cause) (size : Nat) : Lexeme := ⟨.wrong ⟨cause, offset⟩, size, []⟩

/-- Separators of a number that are not between two digits, each at the digits it is with, which start
after `start` characters; `n` characters are behind, the last of them a digit if `afterDigit`. -/
def straySeparators (isDigit : Char → Bool) (start n : Nat) (afterDigit : Bool) :
    List Char → List (Cause × Nat)
  | [] => []
  | c :: rest =>
    if c = '_' then
      let more := straySeparators isDigit start (n + 1) false rest
      if afterDigit && rest.head?.any isDigit then more else (.separatorMisplaced, start) :: more
    else if isDigit c then straySeparators isDigit start (n + 1) true rest
    else straySeparators isDigit (n + 1) (n + 1) false rest

def separatorFaults (cs : List Char) : List (Cause × Nat) :=
  let isHex := cs.head? = some '0' && cs.tail.head?.any fun c => c = 'x' || c = 'X'
  straySeparators (fun d => d.isDigit || isHex && (Text.hexDigit? d).isSome) 0 0 false cs

def number (c : Cursor) : Lexeme :=
  match numberSize c.rest with
  | .error (cause, size) => wrong (c.offsetAfter size) cause size
  | .ok (isBig, size) =>
    if (c.rest.drop size).head?.any startsName then
      wrong (c.offsetAfter size) .nameAfterNumber size
    else
      let spelled := c.rest.take size
      let source := String.ofList spelled
      ⟨.literal (if isBig then .bigint source else .number source), size,
        (if isLegacyOctal c.rest then [(.legacyOctal, 0)] else []) ++ separatorFaults spelled⟩

def string (q : Char) (c : Cursor) : Lexeme :=
  match Quoted.readBody q c.rest.length 1 c.rest.tail with
  | .error (cause, size) => wrong (c.offsetAfter size) cause size
  | .ok b =>
    ⟨.literal (.string (String.ofList b.value) (some (String.ofList (c.rest.take b.size)))), b.size,
      if b.isClosed then b.faults else b.faults ++ [(.stringUnclosed, 0)]⟩

/-- Marks with longer ones before their beginnings; none starts with `>` but `>` itself. -/
def marks : List (List Char) :=
  ["...", "===", "!==", "**=", "<<=", "&&=", "||=", "??=",
   "=>", "==", "!=", "++", "--", "+=", "-=", "*=", "/=", "%=", "**", "<<", "<=", "&&", "||", "??",
   "?.", "&=", "|=", "^=",
   "\x7b", "\x7d", "(", ")", "[", "]", ";", ",", "<", ">", "+", "-", "*", "/", "%", "&", "|", "^",
   "!", "~", "?", ":", "=", ".", "@"].map String.toList

def backtick : Char := Char.ofNat 96

def mark? (cs : List Char) : Option (List Char) :=
  if cs.head? = some backtick then some [backtick]
  else match marks.find? (·.isPrefixOf cs) with
    | some ['?', '.'] =>
      if (cs.drop 2).head?.any Char.isDigit then some ['?'] else some ['?', '.']
    | m => m

/-- The token at the front of a text that starts with no blank. -/
def read (c : Cursor) : Lexeme :=
  match c.rest with
  | [] => ⟨.textEnd, 0, []⟩
  | d :: rest =>
    if startsName d ∨ d = Quoted.backslash then
      match name c.rest c.rest.length with
      | .error cause => wrong c.offset cause 1
      | .ok (text, size, isEscaped) =>
        if size = 0 then wrong c.offset (.unknownCharacter d) 1
        else ⟨.word (String.ofList text) isEscaped, size, []⟩
    else if d.isDigit ∨ d = '.' ∧ rest.head?.any Char.isDigit then number c
    else if d = '"' ∨ d = '\'' then string d c
    else if d = '#' then
      match name rest rest.length with
      | .ok (text, size, _) =>
        if size = 0 then wrong c.offset (.unknownCharacter d) 1
        else ⟨.privateWord (String.ofList text), size + 1, []⟩
      | .error cause => wrong c.offset cause 1
    else match mark? c.rest with
      | some m => ⟨.mark (String.ofList m), m.length, []⟩
      | none => wrong c.offset (.unknownCharacter d) 1

/-- The body and the flags of a regular expression from behind its opening slash, as sizes. -/
def regexBody : (escaped inClass : Bool) → List Char → Option Nat
  | _, _, [] => none
  | escaped, inClass, c :: rest =>
    if isLineEnd c then none
    else if escaped then (regexBody false inClass rest).map (· + 1)
    else if c = '/' ∧ !inClass then some 0
    else if c = Quoted.backslash then (regexBody true inClass rest).map (· + 1)
    else if c = '[' then (regexBody false true rest).map (· + 1)
    else if c = ']' then (regexBody false false rest).map (· + 1)
    else (regexBody false inClass rest).map (· + 1)

def regexFlags : List Char := ['d', 'g', 'i', 'm', 's', 'u', 'y']

/-- The first flag that was there before. -/
def repeatedFlag? : List Char → List Char → Option Char
  | _, [] => none
  | seen, c :: rest => if seen.contains c then some c else repeatedFlag? (c :: seen) rest

def regex (c : Cursor) : Lexeme :=
  match regexBody false false c.rest.tail with
  | none => wrong c.offset .regexUnclosed 1
  | some size =>
    let pattern := c.rest.tail.take size
    let flags := (c.rest.drop (size + 2)).takeWhile continuesName
    let faults :=
      match repeatedFlag? [] flags with
      | some f => [(Cause.regexFlagRepeated f, 0)]
      | none => []
    let unknown := if flags.all regexFlags.contains then [] else [(Cause.regexFlagUnknown, 0)]
    ⟨.literal (.regex (String.ofList pattern) (String.ofList flags)), size + 2 + flags.length,
      unknown ++ faults⟩

/-- A piece of a template up to the next `$` with a brace or the closing back quote: its size, and
whether the template ends with it. -/
def templatePiece : Bool → List Char → Option (Nat × Bool)
  | _, [] => none
  | true, _ :: rest => (templatePiece false rest).map fun (n, b) => (n + 1, b)
  | false, c :: rest =>
    if c = backtick then some (0, true)
    else if c = '$' ∧ rest.head? = some '{' then some (0, false)
    else (templatePiece (c = Quoted.backslash) rest).map fun (n, b) => (n + 1, b)

end Lexeme
end StaticContext.Script
