/-! Sets of characters as lists of code point ranges. `union` and `complement` work on any list;
`normal` sorts and merges, so that equal sets of a few ranges look alike. -/

namespace StaticContext.Text

def hexDigit? (c : Char) : Option Nat :=
  if '0' ≤ c ∧ c ≤ '9' then some (c.toNat - '0'.toNat)
  else if 'a' ≤ c ∧ c ≤ 'f' then some (c.toNat - 'a'.toNat + 10)
  else if 'A' ≤ c ∧ c ≤ 'F' then some (c.toNat - 'A'.toNat + 10)
  else none

/-- The number that hexadecimal digits write; other characters count as zero. -/
def hexValue (digits : List Char) : Nat :=
  digits.foldl (fun n c => n * 16 + (hexDigit? c).getD 0) 0

/-- Code point ranges, both ends included. -/
structure CharSet where
  ranges : List (Nat × Nat)
deriving DecidableEq, Repr, Inhabited

namespace CharSet

def containsCode (s : CharSet) (n : Nat) : Bool := s.ranges.any fun (a, b) => a ≤ n && n ≤ b

def contains (s : CharSet) (c : Char) : Bool := s.containsCode c.toNat

def empty : CharSet := ⟨[]⟩

def lastCode : Nat := 0x10FFFF

def ofRange (a b : Nat) : CharSet := ⟨[(a, b)]⟩

def ofCodes (ns : List Nat) : CharSet := ⟨ns.map fun n => (n, n)⟩

def ofChars (cs : List Char) : CharSet := ofCodes (cs.map Char.toNat)

/-- Merges ranges that touch; the list is sorted by lower ends. -/
def merge : List (Nat × Nat) → List (Nat × Nat)
  | [] => []
  | (a, b) :: rest =>
    match merge rest with
    | [] => [(a, b)]
    | (c, d) :: more => if c ≤ b + 1 then (a, max b d) :: more else (a, b) :: (c, d) :: more

def normal (s : CharSet) : CharSet := ⟨merge (s.ranges.mergeSort fun x y => x.1 ≤ y.1)⟩

def union (s t : CharSet) : CharSet := (CharSet.mk (s.ranges ++ t.ranges)).normal

def unions (ss : List CharSet) : CharSet := (CharSet.mk (ss.flatMap ranges)).normal

/-- The gaps from `low` on between sorted ranges. -/
def gaps (low : Nat) : List (Nat × Nat) → List (Nat × Nat)
  | [] => if low ≤ lastCode then [(low, lastCode)] else []
  | (a, b) :: rest => if low < a then (low, a - 1) :: gaps (b + 1) rest else gaps (max low (b + 1)) rest

def complement (s : CharSet) : CharSet := ⟨gaps 0 s.normal.ranges⟩

def inter (s t : CharSet) : CharSet := (s.complement.union t.complement).complement

def diff (s t : CharSet) : CharSet := s.inter t.complement

def symmDiff (s t : CharSet) : CharSet := (s.diff t).union (t.diff s)

/-- Reads ranges written as `41-5A,AA`, in hexadecimal. -/
def ofText (s : String) : CharSet :=
  ⟨(s.toList.splitOn ',').map fun r =>
    let low := r.takeWhile (· != '-')
    let high := r.drop (low.length + 1)
    (hexValue low, if high.isEmpty then hexValue low else hexValue high)⟩

def ofTexts (lines : List String) : CharSet := ⟨lines.flatMap fun l => (ofText l).ranges⟩

end CharSet
end StaticContext.Text
