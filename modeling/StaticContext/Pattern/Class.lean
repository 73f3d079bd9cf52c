import StaticContext.Pattern.Reader

/-! Bracketed classes. A class is the union of its items; `&&`, `--` and `~~` combine what stands
before them with what follows, from left to right. Every step passes a character, so a class takes no
more steps than the pattern has characters. -/

namespace StaticContext.Pattern
open Text

inductive ClassOperator where
  | intersection
  | difference
  | symmetricDifference
deriving DecidableEq, Repr, Inhabited

namespace ClassOperator

def ofMark? : List Char → Option ClassOperator
  | '&' :: '&' :: _ => some intersection
  | '-' :: '-' :: _ => some difference
  | '~' :: '~' :: _ => some symmetricDifference
  | _ => none

def apply : ClassOperator → CharSet → CharSet → CharSet
  | intersection => .inter
  | difference => .diff
  | symmetricDifference => .symmDiff

end ClassOperator

namespace Reader

/-- The left side of an operator that waits for its right side. -/
abbrev Pending := Option (ClassOperator × CharSet)

def combine (pending : Pending) (right : CharSet) : Reader CharSet := do
  match pending with
  | none => return right
  | some (operator, left) =>
    let start ← position
    return operator.apply (← closeSet start false left) (← closeSet start false right)

/-- A class such as `[:alpha:]`, with its length and whether it is negated. -/
def asciiClassAt? (text : List Char) : Option (CharSet × Bool × Nat) :=
  let named (negated : Bool) (name : List Char) (passed : Nat) : Option (CharSet × Bool × Nat) :=
    let word := name.takeWhile (· != ':')
    if (name.drop word.length).take 2 = [':', ']'] then
      (asciiClass? (String.ofList word)).map fun set => (set, negated, passed + word.length + 2)
    else none
  match text with
  | '[' :: ':' :: '^' :: name => named true name 3
  | '[' :: ':' :: name => named false name 2
  | _ => none

/-- An item that may stand alone or bound a range. -/
def classPrimitive : Reader Primitive := do
  match (← rest).head? with
  | some '\\' => escape
  | some c =>
    skip 1
    return .literal c
  | none => refuse .classUnclosed (← position) (← position)

def boundOf (start stop : Nat) : Primitive → Reader Char
  | .literal c => return c
  | _ => refuse .classRangeBound start stop

/-- A character, an escape, or a range. -/
def classItem (opened : Extent) : Reader CharSet := do
  let start ← position
  let first ← classPrimitive
  let firstEnd ← position
  skipBlanks
  match (← rest).head? with
  | none => refuse .classUnclosed opened.start opened.stop
  | some c =>
    let past ← peekPast
    if c != '-' || past = some ']' || past = some '-' then
      match first with
      | .literal c => return .ofChars [c]
      | .set s => return s
      | .assertion _ => refuse .escapeInClass start firstEnd
    else
      if !(← pass) then refuse .classUnclosed opened.start opened.stop
      let second ← position
      let last ← classPrimitive
      let lastEnd ← position
      let low ← boundOf start firstEnd first
      let high ← boundOf second lastEnd last
      if high < low then refuse .classRangeReversed start lastEnd
      return .ofRange low.toNat high.toNat

/-- Dashes that open a class. -/
def leadingDashes (start : Nat) : Nat → Reader Bool
  | 0 => return false
  | left + 1 => do
    if (← rest).head? = some '-' then
      if !(← pass) then refuse .classUnclosed start start
      let _ ← leadingDashes start left
      return true
    else return false

/-- From the opening bracket to the first item: whether the class is negated, the characters that
count as literals because they come first, and the extent of all that. -/
def classOpening : Reader (Bool × CharSet × Extent) := do
  let start ← position
  if !(← pass) then refuse .classUnclosed start (← position)
  let negated := (← rest).head? = some '^'
  if negated then
    if !(← pass) then refuse .classUnclosed start (← position)
  let dashes ← leadingDashes start (← rest).length
  if dashes then return (negated, .ofChars ['-'], ⟨start, ← position⟩)
  if (← rest).head? = some ']' then
    if !(← pass) then refuse .classUnclosed start (← position)
    return (negated, .ofChars [']'], ⟨start, ← position⟩)
  return (negated, .empty, ⟨start, ← position⟩)

mutual

/-- A class whose opening bracket stands here. -/
def bracketed : Nat → Reader CharSet
  | 0 => refuse .classUnclosed 0 0
  | steps + 1 => do
    let (negated, set, opened) ← classOpening
    let items ← classItems steps opened none set
    closeSet opened.start negated items

/-- The items up to the closing bracket; `set` holds those read since the last operator. -/
def classItems : Nat → Extent → Pending → CharSet → Reader CharSet
  | 0, opened, _, _ => refuse .classUnclosed opened.start opened.stop
  | steps + 1, opened, pending, set => do
    skipBlanks
    let text ← rest
    match text.head? with
    | none => refuse .classUnclosed opened.start opened.stop
    | some '[' =>
      match asciiClassAt? text with
      | some (named, negated, length) =>
        let start ← position
        skip length
        classItems steps opened pending (set.union (← closeSet start negated named))
      | none => classItems steps opened pending (set.union (← bracketed steps))
    | some ']' =>
      skip 1
      combine pending set
    | some _ =>
      match ClassOperator.ofMark? text with
      | some operator =>
        let left ← combine pending set
        skip 2
        classItems steps opened (some (operator, left)) .empty
      | none => classItems steps opened pending (set.union (← classItem opened))

end

end Reader
end StaticContext.Pattern
