import StaticContext.Options.Decimal
import StaticContext.Options.Fault
import StaticContext.Text.CharSet
import StaticContext.Text.Property.Class
import StaticContext.Text.Utf8

/-! Reading the structured text that options are written in, byte by byte. A fault carries the number
of bytes read when it was noticed. Where the reader looks at a byte without taking it, the fault
counts that byte too. -/

namespace StaticContext.Options

structure Cursor where
  rest : List UInt8
  offset : Nat
deriving DecidableEq, Repr, Inhabited

abbrev Reader := StateT Cursor (Except (Cause × Nat))

namespace Reader

def offset : Reader Nat := return (← get).offset

/-- The next byte as a character of the same number; NUL at the end of the text. -/
def peek : Reader Char :=
  return match (← get).rest with
    | [] => '\x00'
    | b :: _ => Char.ofNat b.toNat

def atEnd : Reader Bool := return (← get).rest.isEmpty

def skip (n : Nat) : Reader Unit :=
  modify fun c => ⟨c.rest.drop n, c.offset + min n c.rest.length⟩

def failAt {α : Type} (cause : Cause) (offset : Nat) : Reader α := throw (cause, offset)

/-- A fault in what was taken. -/
def fail {α : Type} (cause : Cause) : Reader α := do failAt cause (← offset)

/-- A fault in what comes next. -/
def failAhead {α : Type} (cause : Cause) : Reader α := do
  failAt cause ((← offset) + min 1 (← get).rest.length)

def isBlank (b : UInt8) : Bool := b = 32 || b = 10 || b = 9 || b = 13

def skipBlanks : Reader Unit := do skip ((← get).rest.takeWhile isBlank).length

/-- The next byte that is not blank; a text that ends instead is a fault. -/
def peekOr (cause : Cause) : Reader Char := do
  skipBlanks
  if ← atEnd then failAhead cause
  peek

/-- The other letters of a word whose first one is taken. -/
def restOfWord : List Char → Reader Unit
  | [] => return
  | c :: word => do
    if ← atEnd then fail .valueEnds
    let next ← peek
    skip 1
    if next != c then fail .wordMissing
    restOfWord word

/-! ## Strings -/

/-- Four hexadecimal digits. -/
def hexUnit : Reader Nat := do
  let digits := (← get).rest.take 4
  skip 4
  if digits.length < 4 then fail .stringEnds
  let characters := digits.map fun b => Char.ofNat b.toNat
  if characters.any fun c => (Text.hexDigit? c).isNone then fail .escapeInvalid
  return Text.hexValue characters

def utf8 (n : Nat) : List UInt8 := (Char.ofNat n).toString.toUTF8.toList

/-- Takes the byte `b` within a surrogate pair. -/
def pairByte (b : Char) : Reader Unit := do
  if ← atEnd then fail .stringEnds
  let next ← peek
  skip 1
  if next != b then fail .surrogateUnfinished

def unicodeEscape : Reader (List UInt8) := do
  let high ← hexUnit
  if 0xDC00 ≤ high ∧ high ≤ 0xDFFF then fail .surrogateAlone
  if high < 0xD800 ∨ 0xDBFF < high then return utf8 high
  pairByte '\\'
  pairByte 'u'
  let low ← hexUnit
  if low < 0xDC00 ∨ 0xDFFF < low then fail .surrogateAlone
  return utf8 (0x10000 + (high - 0xD800) * 0x400 + (low - 0xDC00))

/-- What stands for itself behind a backslash, or for a control character. -/
def simpleEscape? : Char → Option UInt8
  | '"' => some 34
  | '\\' => some 92
  | '/' => some 47
  | 'b' => some 8
  | 'f' => some 12
  | 'n' => some 10
  | 'r' => some 13
  | 't' => some 9
  | _ => none

/-- Behind a backslash. A string that is skipped may hold any code unit. -/
def escape (skipped : Bool) : Reader (List UInt8) := do
  if ← atEnd then fail .stringEnds
  let c ← peek
  skip 1
  if c = 'u' then
    if skipped then
      let _ ← hexUnit
      return []
    else unicodeEscape
  else match simpleEscape? c with
    | some b => return [b]
    | none => fail .escapeInvalid

/-- The bytes up to the closing quote; `left` bounds the steps. A control character that ends a
skipped string is not taken. -/
def stringBytes (skipped : Bool) : Nat → Reader (List UInt8)
  | 0 => fail .stringEnds
  | left + 1 => do
    match (← get).rest with
    | [] => fail .stringEnds
    | b :: _ =>
      if b < 32 then
        if skipped then fail .controlCharacter
        else
          skip 1
          fail .controlCharacter
      skip 1
      if b = 34 then return []
      if b = 92 then
        let bytes ← escape skipped
        return bytes ++ (← stringBytes skipped left)
      return b :: (← stringBytes skipped left)

/-- A string behind its opening quote. -/
def string : Reader String := do
  return Utf8.lossy (← stringBytes false ((← get).rest.length + 1))

def skipString : Reader Unit := do
  let _ ← stringBytes true ((← get).rest.length + 1)

/-! ## Numbers -/

def isDigit (b : UInt8) : Bool := 48 ≤ b && b ≤ 57

def digits : Reader (List UInt8) := do
  let ds := (← get).rest.takeWhile isDigit
  skip ds.length
  return ds

/-- The byte that must open some digits is taken even if it is none. -/
def firstDigit (ending : Cause) : Reader Unit := do
  if ← atEnd then fail ending
  let c ← peek
  skip 1
  if !c.isDigit then fail .numberInvalid

/-- Digits before a point, which start with no zero but a single one. -/
def wholeDigits (ending : Cause) : Reader (List UInt8) := do
  let first := (← get).rest.take 1
  firstDigit ending
  if first = [48] then
    if (← peek).isDigit then failAhead .numberInvalid
    return first
  else return first ++ (← digits)

def fractionDigits (ending : Cause) : Reader (List UInt8) := do
  if (← peek) != '.' then return []
  skip 1
  let ds ← digits
  if ds.isEmpty then
    if ← atEnd then fail ending else failAhead .numberInvalid
  return ds

/-- The exponent's sign and digits, if there is one. -/
def exponentDigits (ending : Cause) : Reader (Option (Bool × List UInt8)) := do
  let e ← peek
  if e != 'e' && e != 'E' then return none
  skip 1
  let sign ← peek
  if sign = '+' || sign = '-' then skip 1
  let first := (← get).rest.take 1
  firstDigit ending
  return some (sign = '-', first ++ (← digits))

def valueOf (ds : List UInt8) : Nat := ds.foldl (fun n b => n * 10 + (b.toNat - 48)) 0

/-- Whole numbers from here on are taken for decimal fractions. -/
def integerLimit : Nat := 0x10000000000000000

/-- As many leading digits as fit in 64 bits, as a number, and how many are left out. -/
def leadingDigits (n : Nat) : List UInt8 → Nat × Nat
  | [] => (n, 0)
  | b :: rest =>
    let next := n * 10 + (b.toNat - 48)
    if next < integerLimit then leadingDigits next rest else (n, rest.length + 1)

/-- `significand * 10 ^ exponent`, scaled by one power of ten or by steps of `10 ^ 308` down; none if
it is too large. -/
def scaled? : Nat → Float → Int → Option Float
  | 0, f, _ => some f
  | steps + 1, f, exponent =>
    if exponent.natAbs ≤ 308 then
      let power := Float.ofScientific 1 false exponent.natAbs
      if exponent ≥ 0 then
        let g := f * power
        if g.isInf then none else some g
      else some (f / power)
    else if f == 0.0 then some f
    else if exponent ≥ 0 then none
    else scaled? steps (f / Float.ofScientific 1 false 308) (exponent + 308)

/-- A number behind its sign, described. -/
def number (negative : Bool) : Reader String := do
  let whole ← wholeDigits .valueEnds
  let point ← peek
  let fraction ← fractionDigits .valueEnds
  let exponent ← exponentDigits .valueEnds
  let n := valueOf whole
  let isWhole := point != '.' && exponent.isNone
  if isWhole && !negative && n < integerLimit then return "integer " ++ quoted (toString n)
  if isWhole && negative && 0 < n && n ≤ integerLimit / 2 then
    return "integer " ++ quoted ("-" ++ toString n)
  let (kept, dropped) := leadingDigits 0 whole
  let (significand, shift) : Nat × Int :=
    if dropped > 0 then (kept, dropped)
    else
      let (all, left) := leadingDigits kept fraction
      (all, (left : Int) - fraction.length)
  let power : Int := match exponent with
    | none => 0
    | some (isNegative, ds) => if isNegative then -(valueOf ds : Int) else valueOf ds
  let start := (UInt64.ofNat significand).toFloat
  match scaled? 8 start (shift + max (-3000) (min 3000 power)) with
  | some f => return "floating point " ++ quoted (decimalText (if negative then -f else f))
  | none => fail .numberTooLarge

/-- A number of any size behind its sign. -/
def skipNumber : Reader Unit := do
  let _ ← wholeDigits .numberInvalid
  let _ ← fractionDigits .numberInvalid
  let _ ← exponentDigits .numberInvalid

/-! ## Values -/

/-- A value that is not looked at; its first byte is next. -/
def skipScalar (c : Char) : Reader Unit := do
  if c = 'n' then
    skip 1
    restOfWord ['u', 'l', 'l']
  else if c = 't' then
    skip 1
    restOfWord ['r', 'u', 'e']
  else if c = 'f' then
    skip 1
    restOfWord ['a', 'l', 's', 'e']
  else if c = '-' then
    skip 1
    skipNumber
  else if c.isDigit then skipNumber
  else if c = '"' then
    skip 1
    skipString
  else failAhead .valueMissing

def openBrace : Char := Char.ofNat 0x7B

def closeBrace : Char := Char.ofNat 0x7D

/-- A key with its colon; the quote is next. -/
def skipKey : Reader Unit := do
  if (← peekOr .objectEnds) != '"' then failAhead .keyMissing
  skip 1
  skipString
  if (← peekOr .objectEnds) != ':' then failAhead .colonMissing
  skip 1

mutual

/-- Passes a value; every step takes a byte. -/
def skipValue : Nat → Reader Unit
  | 0 => fail .valueEnds
  | left + 1 => do
    let c ← peekOr .valueEnds
    if c = '[' then
      skip 1
      skipItems left true
    else if c = openBrace then
      skip 1
      skipMembers left true
    else skipScalar c

/-- The items of a list up to its end; `first` tells that none is read. -/
def skipItems : Nat → Bool → Reader Unit
  | 0, _ => fail .listEnds
  | left + 1, first => do
    let c ← peekOr .listEnds
    if c = ']' then skip 1
    else
      if !first then
        if c != ',' then failAhead .listGoesOn
        skip 1
      skipValue left
      skipItems left false

def skipMembers : Nat → Bool → Reader Unit
  | 0, _ => fail .objectEnds
  | left + 1, first => do
    let c ← peekOr .objectEnds
    if c = closeBrace then skip 1
    else
      if !first then
        if c != ',' then failAhead .objectGoesOn
        skip 1
      skipKey
      skipValue left
      skipMembers left false

end

/-- Characters that a description shows by their number. -/
def isHidden (c : Char) : Bool :=
  c != ' ' && (["cc", "cf", "cs", "co", "zl", "zp", "zs"].any (fun n => (Text.categorySet n).contains c)
    || !Text.assigned.contains c || (Text.traitSet "grext").contains c)

def shownCharacter (c : Char) : List Char :=
  if c = '\x00' then ['\\', '0']
  else if c = '\t' then ['\\', 't']
  else if c = '\r' then ['\\', 'r']
  else if c = '\n' then ['\\', 'n']
  else if c = '"' || c = '\\' then ['\\', c]
  else if c.toNat < 127 && c.toNat ≥ 32 then [c]
  else if isHidden c then
    ['\\', 'u', openBrace] ++ Nat.toDigits 16 c.toNat ++ [closeBrace]
  else [c]

/-- A text in double quotes, as descriptions show it. -/
def shownText (s : String) : String :=
  "\"" ++ String.ofList (s.toList.flatMap shownCharacter) ++ "\""

/-- Refuses the value that comes next, whose first byte is `c`, after reading it if it is no list and
no object. -/
def mismatch {α : Type} (c : Char) (expected : String) : Reader α := do
  let got ←
    if c = '-' then do
      skip 1
      number true
    else if c.isDigit then number false
    else if c = '"' then do
      skip 1
      pure ("string " ++ shownText (← string))
    else if c = '[' then pure "sequence"
    else if c = openBrace then pure "map"
    else do
      skipScalar c
      pure (if c = 'n' then "null" else "boolean " ++ quoted (if c = 't' then "true" else "false"))
  fail (.typeMismatch got expected)

/-- Whether another item of a list follows; the end is not taken. -/
def hasItem (first : Bool) : Reader Bool := do
  let c ← peekOr .listEnds
  if c = ']' then return false
  if first then return true
  if c != ',' then failAhead .listGoesOn
  skip 1
  if (← peekOr .valueEnds) = ']' then failAhead .commaTrailing
  return true

/-- Whether another key of an object follows; the end is not taken. -/
def hasKey (first : Bool) : Reader Bool := do
  let c ← peekOr .objectEnds
  if c = closeBrace then return false
  if first then
    if c != '"' then failAhead .keyMissing
    return true
  if c != ',' then failAhead .objectGoesOn
  skip 1
  let next ← peekOr .valueEnds
  if next = closeBrace then failAhead .commaTrailing
  if next != '"' then failAhead .keyMissing
  return true

/-- The end of a list whose items are read. -/
def endList : Reader Unit := do
  let c ← peekOr .listEnds
  if c = ']' then skip 1
  else if c = ',' then
    skip 1
    skipBlanks
    if (← peek) = ']' then failAhead .commaTrailing
    failAhead .textTrailing
  else failAhead .textTrailing

end Reader
end StaticContext.Options
