import StaticContext.Script.Fault
import StaticContext.Script.Character
import StaticContext.Text.CharSet

/-! String literals. `quote` writes a text in the quotes it holds fewer of, double ones if in doubt,
and escapes what a literal cannot hold or what would not be seen. Half of a surrogate pair that is
spelled out in the text stays spelled as it is. `readBody` reads any literal of the language, one escape
at a time. -/

namespace StaticContext.Script.Quoted

def backslash : Char := '\\'

/-- Two hexadecimal digits. -/
def hexPair (n : Nat) : List Char := [Nat.digitChar (n / 16 % 16), Nat.digitChar (n % 16)]

/-- How a character is written between quotes of kind `q`. -/
def escaped (q c : Char) : List Char :=
  if c = q ∨ c = backslash then [backslash, c]
  else if c = '\x08' then [backslash, 'b']
  else if c = '\n' then [backslash, 'n']
  else if c = '\x0b' then [backslash, 'v']
  else if c = '\x0c' then [backslash, 'f']
  else if c = '\r' then [backslash, 'r']
  else if c = '\u2028' then [backslash, 'u', '2', '0', '2', '8']
  else if c = '\u2029' then [backslash, 'u', '2', '0', '2', '9']
  else if c = '\uFEFF' then [backslash, 'u', 'F', 'E', 'F', 'F']
  else if c.toNat < 32 ∧ c ≠ '\t' then backslash :: 'x' :: hexPair c.toNat
  else [c]

/-- What stands behind a backslash: the characters meant, how many were read for it, and whether the
spelling is one of the octal ones that strict code refuses. -/
structure Escape where
  value : List Char
  size : Nat
  isOctal : Bool
deriving DecidableEq, Repr

def isOctalDigit (c : Char) : Bool := '0' ≤ c && c ≤ '7'

/-- `\u` and the code unit in four digits. -/
def unitText (n : Nat) : List Char :=
  let digits := Nat.toDigits 16 n
  backslash :: 'u' :: List.replicate (4 - digits.length) '0' ++ digits

/-- A code point; a surrogate that stands alone is spelled out. -/
def codeText (n : Nat) : List Char :=
  if 0xD800 ≤ n ∧ n ≤ 0xDFFF then unitText n else [Char.ofNat n]

/-- The code unit that four hexadecimal digits name. -/
def unit? (cs : List Char) : Option Nat :=
  let digits := cs.take 4
  if digits.length = 4 ∧ digits.all (Text.hexDigit? · |>.isSome) then some (Text.hexValue digits)
  else none

/-- Whether four digits that name half of a surrogate pair open the text. -/
def isSurrogate (cs : List Char) : Bool := (unit? cs).any fun n => 0xD800 ≤ n && n ≤ 0xDFFF

/-- Whether a surrogate is spelled behind a backslash, with a brace before its digits or without. -/
def spellsSurrogate : List Char → Bool
  | 'u' :: '{' :: rest => isSurrogate rest
  | 'u' :: rest => isSurrogate rest
  | _ => false

/-- The quote that needs fewer escapes. -/
def quoteFor (text : List Char) : Char :=
  if text.count '\'' < text.count '"' then '\'' else '"'

/-- A text between quotes `q`. A surrogate that stands alone is held in its spelling and is written as
it is held, so the backslash of such a spelling is not escaped, whoever wrote it. -/
def quotedBody (q : Char) : List Char → List Char
  | [] => []
  | c :: rest =>
    (if c = backslash ∧ spellsSurrogate rest then [c] else escaped q c) ++ quotedBody q rest

def quote (text : List Char) : List Char :=
  let q := quoteFor text
  q :: quotedBody q text ++ [q]

/-- The code point in braces and the number of digits. -/
def braced? (cs : List Char) : Except Cause (Nat × Nat) :=
  let digits := cs.takeWhile fun c => (Text.hexDigit? c).isSome
  if digits.isEmpty ∨ (cs.drop digits.length).head? ≠ some '}' then
    .error (.escapeMalformed "1-6 hex characters")
  else if Text.hexValue digits > 0x10FFFF then .error .escapeOutOfRange
  else .ok (Text.hexValue digits, digits.length)

/-- The code point behind `\u` and the number of characters read; two units of a pair make one. -/
def unicode (cs : List Char) : Except Cause (Nat × Nat) :=
  match cs with
  | '{' :: rest => (braced? rest).map fun (n, digits) => (n, digits + 2)
  | _ =>
    match unit? cs with
    | none => .error (.escapeMalformed "4 hex characters")
    | some high =>
      if 0xD800 ≤ high ∧ high ≤ 0xDBFF ∧ cs.extract 4 6 = [backslash, 'u'] then
        match unit? (cs.drop 6) with
        | some low =>
          if 0xDC00 ≤ low ∧ low ≤ 0xDFFF then
            .ok (0x10000 + (high - 0xD800) * 0x400 + (low - 0xDC00), 10)
          else .ok (high, 4)
        | none => .ok (high, 4)
      else .ok (high, 4)

/-- Up to three octal digits below 256. -/
def octal (cs : List Char) : Nat × Nat :=
  let digits := (cs.take 3).takeWhile isOctalDigit
  let value (ds : List Char) := ds.foldl (fun n c => n * 8 + (c.toNat - '0'.toNat)) 0
  if value digits < 256 then (value digits, digits.length)
  else (value (digits.take 2), 2)

/-- Reads what follows a backslash. -/
def readEscape : List Char → Except Cause Escape
  | [] => .error .stringUnclosed
  | c :: rest =>
    let one (d : Char) : Except Cause Escape := .ok ⟨[d], 1, false⟩
    if c = 'n' then one '\n'
    else if c = 't' then one '\t'
    else if c = 'r' then one '\r'
    else if c = 'b' then one '\x08'
    else if c = 'v' then one '\x0b'
    else if c = 'f' then one '\x0c'
    else if c = '\r' then .ok ⟨[], if rest.head? = some '\n' then 2 else 1, false⟩
    else if isLineEnd c then .ok ⟨[], 1, false⟩
    else if c = 'x' then
      let digits := rest.take 2
      if digits.length = 2 ∧ digits.all (Text.hexDigit? · |>.isSome) then
        .ok ⟨codeText (Text.hexValue digits), 3, false⟩
      else .error (.escapeMalformed "2 hex characters")
    else if c = 'u' then (unicode rest).map fun (n, size) => ⟨codeText n, size + 1, false⟩
    else if isOctalDigit c then
      let (n, size) := octal (c :: rest)
      .ok ⟨[Char.ofNat n], size, !(c = '0' && size = 1 && !(rest.head?.any Char.isDigit))⟩
    else one c

/-- What a literal says, how many characters it took with its closing quote, whether that quote is
there, and what is wrong with it, each fault with the number of characters before it. -/
structure Body where
  value : List Char
  size : Nat
  isClosed : Bool
  faults : List (Cause × Nat)
deriving DecidableEq, Repr

/-- Reads from behind the opening quote `q`; `done` characters are read before. The first number
bounds the steps. -/
def readBody (q : Char) : Nat → Nat → List Char → Except (Cause × Nat) Body
  | 0, done, _ => .ok ⟨[], done, false, []⟩
  | _, done, [] => .ok ⟨[], done, false, []⟩
  | fuel + 1, done, c :: rest =>
    if c = q then .ok ⟨[], done + 1, true, []⟩
    else if c = backslash then
      match readEscape rest with
      | .error cause => .error (cause, done)
      | .ok e =>
        (readBody q fuel (done + 1 + e.size) (rest.drop e.size)).map fun b =>
          { b with
            value := e.value ++ b.value
            faults := if e.isOctal then (.legacyOctal, done) :: b.faults else b.faults }
    else if c = '\n' ∨ c = '\r' then .ok ⟨[], done, false, []⟩
    else (readBody q fuel (done + 1) rest).map fun b => { b with value := c :: b.value }

end StaticContext.Script.Quoted
