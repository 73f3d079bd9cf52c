/-! Why the text of the options is refused, and where: bytes read on the line up to the place the
reader stopped at. -/

namespace StaticContext.Options

inductive Cause where
  | valueEnds
  | objectEnds
  | listEnds
  | stringEnds
  | valueMissing
  | wordMissing
  | colonMissing
  | listGoesOn
  | objectGoesOn
  | keyMissing
  | commaTrailing
  | textTrailing
  | numberInvalid
  | numberTooLarge
  | escapeInvalid
  | surrogateUnfinished
  | surrogateAlone
  | controlCharacter
  | fieldRepeated
  | fieldsMissing
  /-- A value of another type than the options have there. -/
  | typeMismatch (got expected : String)
deriving DecidableEq, Repr, Inhabited

private def tick : String := (Char.ofNat 96).toString

def quoted (s : String) : String := tick ++ s ++ tick

def optionsShape : String := "struct Config"

def Cause.message : Cause → String
  | valueEnds => "EOF while parsing a value"
  | objectEnds => "EOF while parsing an object"
  | listEnds => "EOF while parsing a list"
  | stringEnds => "EOF while parsing a string"
  | valueMissing => "expected value"
  | wordMissing => "expected ident"
  | colonMissing => "expected " ++ quoted ":"
  | listGoesOn => "expected " ++ quoted "," ++ " or " ++ quoted "]"
  | objectGoesOn => "expected " ++ quoted "," ++ " or " ++ quoted "\x7d"
  | keyMissing => "key must be a string"
  | commaTrailing => "trailing comma"
  | textTrailing => "trailing characters"
  | numberInvalid => "invalid number"
  | numberTooLarge => "number out of range"
  | escapeInvalid => "invalid escape"
  | surrogateUnfinished => "unexpected end of hex escape"
  | surrogateAlone => "lone leading surrogate in hex escape"
  | controlCharacter => "control character (\\u0000-\\u001F) found while parsing a string"
  | fieldRepeated => "duplicate field " ++ quoted "input"
  | fieldsMissing => "invalid length 0, expected " ++ optionsShape ++ " with 1 element"
  | typeMismatch got expected => "invalid type: " ++ got ++ ", expected " ++ expected

structure Fault where
  cause : Cause
  line : Nat
  column : Nat
deriving DecidableEq, Repr, Inhabited

/-- The fault of a cause that stops the reader after `offset` bytes of a text. -/
def Fault.ofOffset (text : List UInt8) (cause : Cause) (offset : Nat) : Fault :=
  let passed := text.take offset
  let last := passed.reverse.takeWhile (· != 10)
  ⟨cause, passed.count 10 + 1, last.length⟩

def Fault.message (f : Fault) : String :=
  "E_INVALID_CONFIG: Error parsing require-context plugin configuration: " ++ f.cause.message ++
    " at line " ++ toString f.line ++ " column " ++ toString f.column

end StaticContext.Options
