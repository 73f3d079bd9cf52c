/-! UTF-8 over byte lists. The reader takes one byte at a time, so it is structural on the input;
an ill-formed piece is the longest run of bytes that starts some character and goes wrong after. -/

namespace StaticContext.Utf8

/-- A character begun but not finished: the bits read, how many bytes are owed, and the range the
next one must be in. -/
structure Partial where
  bits : Nat
  owed : Nat
  low : Nat
  high : Nat
deriving DecidableEq, Repr

/-- What a byte does between characters: `some c` is a character, `none` an ill-formed byte. -/
def start (b : Nat) : List (Option Char) × Option Partial :=
  if b < 0x80 then ([some (Char.ofNat b)], none)
  else if b < 0xC2 then ([none], none)
  else if b < 0xE0 then ([], some ⟨b - 0xC0, 1, 0x80, 0xBF⟩)
  else if b = 0xE0 then ([], some ⟨0, 2, 0xA0, 0xBF⟩)
  else if b = 0xED then ([], some ⟨13, 2, 0x80, 0x9F⟩)
  else if b < 0xF0 then ([], some ⟨b - 0xE0, 2, 0x80, 0xBF⟩)
  else if b = 0xF0 then ([], some ⟨0, 3, 0x90, 0xBF⟩)
  else if b < 0xF4 then ([], some ⟨b - 0xF0, 3, 0x80, 0xBF⟩)
  else if b = 0xF4 then ([], some ⟨4, 3, 0x80, 0x8F⟩)
  else ([none], none)

def feed (p : Option Partial) (b : Nat) : List (Option Char) × Option Partial :=
  match p with
  | none => start b
  | some q =>
    if q.low ≤ b ∧ b ≤ q.high then
      let bits := q.bits * 64 + (b - 0x80)
      if q.owed ≤ 1 then ([some (Char.ofNat bits)], none)
      else ([], some ⟨bits, q.owed - 1, 0x80, 0xBF⟩)
    else
      let (out, next) := start b
      (none :: out, next)

def scan : Option Partial → List UInt8 → List (Option Char)
  | none, [] => []
  | some _, [] => [none]
  | p, b :: rest =>
    let (out, next) := feed p b.toNat
    out ++ scan next rest

/-- The characters of a byte sequence, `none` for each ill-formed piece. -/
def pieces (bytes : List UInt8) : List (Option Char) := scan none bytes

/-- U+FFFD stands for each ill-formed piece. -/
def lossyChars (bytes : List UInt8) : List Char := (pieces bytes).map (·.getD '\uFFFD')

def lossy (bytes : List UInt8) : String := String.ofList (lossyChars bytes)

def decode? (bytes : List UInt8) : Option String := ((pieces bytes).mapM id).map String.ofList

/-- Bytes a character takes. -/
def width (c : Char) : Nat := c.utf8Size

def widths (cs : List Char) : Nat := cs.foldr (fun c n => width c + n) 0

end StaticContext.Utf8
