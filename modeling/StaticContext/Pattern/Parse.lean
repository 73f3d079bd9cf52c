import StaticContext.Pattern.Class

/-! Patterns from their text: alternatives of sequences of repeated elements. A group restores the
flags it was opened under. Every step passes a character or ends a group, so the length of the text
bounds the steps. -/

namespace StaticContext.Pattern
open Text

/-- A part of a sequence; a group of flags alone cannot be repeated. -/
structure Part where
  pattern : Pattern
  isRepeatable : Bool := true
deriving Repr, Inhabited

def ofParts (parts : List Part) : Pattern :=
  match parts.map (·.pattern) with
  | [] => .empty
  | p :: rest => rest.foldl .sequence p

/-- The alternatives `done` and one more of `parts`, both with the last one first. -/
def choices (done : List Pattern) (parts : List Part) : Pattern :=
  done.foldl (fun p q => .choice q p) (ofParts parts.reverse)

namespace Reader

def literal (c : Char) : Reader Pattern := do
  let flags ← flags
  let variants := if flags.foldsCase then caseVariants c.toNat else []
  return .one (.ofCodes (c.toNat :: variants.filter fun v => !flags.ascii || v < 128))

def ofPrimitive : Primitive → Reader Pattern
  | .literal c => literal c
  | .set s => return .one s
  | .assertion a => return .assertion a

/-- A dot: what is no end of a line, or everything. -/
def dot : Reader Pattern := do
  let start ← position
  let flags ← flags
  skip 1
  if flags.ascii then doubt .notUtf8 start (← position)
  let ends : List Char := if flags.dotAll then [] else if flags.returns then ['\n', '\r'] else ['\n']
  return .one (CharSet.complement (.ofChars ends))

/-- The element that starts with `c`, which stands here. -/
def element (c : Char) : Reader Pattern := do
  let flags ← flags
  match c with
  | '\\' => ofPrimitive (← escape)
  | '.' => dot
  | '^' =>
    skip 1
    return .assertion (if flags.multiline then .lineStart flags.returns else .textStart)
  | '$' =>
    skip 1
    return .assertion (if flags.multiline then .lineEnd flags.returns else .textEnd)
  | _ =>
    skip 1
    literal c

/-- Takes the part that a repetition repeats from the parts, which come last first. -/
def repeatable (parts : List Part) : Reader (Pattern × List Part) := do
  match parts with
  | part :: before =>
    if part.isRepeatable then return (part.pattern, before)
    else refuse .repetitionMissing (← position) (← position)
  | [] => refuse .repetitionMissing (← position) (← position)

/-- A mark that makes a repetition prefer few; what matches stays the same. -/
def lazyMark : Reader Unit := do
  if (← rest).head? = some '?' then skip 1

def markedRepetition (c : Char) (parts : List Part) : Reader (List Part) := do
  let (body, before) ← repeatable parts
  skip 1
  lazyMark
  let counted : Nat × Option Nat :=
    if c = '?' then (0, some 1) else if c = '*' then (0, none) else (1, none)
  return ⟨.repeated body counted.1 counted.2, true⟩ :: before

/-- Digits; `left` bounds their number. -/
def digits : Nat → Reader (List Char)
  | 0 => return []
  | left + 1 => do
    match (← rest).head? with
    | some c =>
      if c.isDigit then
        let _ ← pass
        return c :: (← digits left)
      else return []
    | none => return []

def skipBlanksAlways : Reader Unit := do
  skip ((← rest).takeWhile isBlank).length

/-- Counts of repetitions stay below this. -/
def countLimit : Nat := 0x100000000

/-- A number with blanks around it, or what is wrong with it. -/
def number? : Reader (Except Fault Nat) := do
  skipBlanksAlways
  let start ← position
  let ds ← digits (← rest).length
  let stop ← position
  skipBlanksAlways
  let n := ds.foldl (fun n c => n * 10 + (c.toNat - '0'.toNat)) 0
  if ds.isEmpty then return .error (.malformed .repetitionNoNumber ⟨start, stop⟩ none)
  else if n < countLimit then return .ok n
  else return .error (.malformed .numberTooLarge ⟨start, stop⟩ none)

def certain {α : Type} : Except Fault α → Reader α
  | .ok a => return a
  | .error f => throw f

/-- What the braces of a counted repetition hold, from after the opening one. -/
def countRange (start : Nat) : Reader (Nat × Option Nat) := do
  let least ← number?
  match (← rest).head? with
  | none => refuse .repetitionUnclosed start (← position)
  | some ',' =>
    if !(← pass) then refuse .repetitionUnclosed start (← position)
    if (← rest).head? = some closeBrace then return (← certain least, none)
    else
      let least ← certain least
      return (least, some (← certain (← number?)))
  | some _ =>
    let n ← certain least
    return (n, some n)

def countedRepetition (parts : List Part) : Reader (List Part) := do
  let start ← position
  let (body, before) ← repeatable parts
  if !(← pass) then refuse .repetitionUnclosed start (← position)
  let (least, most) ← countRange start
  if (← rest).head? != some closeBrace then refuse .repetitionUnclosed start (← position)
  let _ ← pass
  lazyMark
  if most.any (· < least) then refuse .repetitionReversed start (← position)
  return ⟨.repeated body least most, true⟩ :: before

def isNameCharacter (first : Bool) (c : Char) : Bool :=
  c = '_' || (traitSet "alphabetic").contains c ||
    (!first && (c = '.' || c = '[' || c = ']' ||
      ["nd", "nl", "no"].any fun n => (categorySet n).contains c))

/-- The characters of a group's name; `left` bounds their number. -/
def nameCharacters (first : Bool) : Nat → Reader (List Char)
  | 0 => return []
  | left + 1 => do
    match (← rest).head? with
    | none => return []
    | some '>' => return []
    | some c =>
      if !isNameCharacter first c then refuse .groupNameInvalid (← position) ((← position) + 1)
      skip 1
      return c :: (← nameCharacters false left)

/-- A group's name with the bracket that ends it. -/
def groupName : Reader Unit := do
  let start ← position
  let name ← nameCharacters true (← rest).length
  let stop ← position
  if (← rest).isEmpty then refuse .groupNameUnclosed stop stop
  skip 1
  if name.isEmpty then refuse .groupNameEmpty start start
  let extent : Extent := ⟨start, stop⟩
  match (← get).names.lookup name with
  | some first => throw (.malformed .groupNameRepeated extent (some first))
  | none => modify fun r => { r with names := (name, extent) :: r.names }

/-- The flag of a letter, set to `value`. -/
def setFlag? (letter : Char) (value : Bool) (flags : Flags) : Option Flags :=
  match letter with
  | 'i' => some { flags with foldsCase := value }
  | 'm' => some { flags with multiline := value }
  | 's' => some { flags with dotAll := value }
  | 'U' => some flags
  | 'u' => some { flags with ascii := !value }
  | 'R' => some { flags with returns := value }
  | 'x' => some { flags with extended := value }
  | _ => none

/-- Flags up to `:` or `)`, with the letters read before and the places they stand at; `negatedAt`
is the place of the sign that turns the following ones off. -/
def flagLetters : Nat → List (Char × Nat) → Option Nat → Flags → Reader (List (Char × Nat) × Flags)
  | 0, _, _, _ => do refuse .flagsEnd (← position) (← position)
  | left + 1, seen, negatedAt, flags => do
    let here ← position
    match (← rest).head? with
    | none => refuse .flagsEnd here here
    | some c =>
      if c = ':' || c = ')' then
        match seen.head? with
        | some ('-', place) => refuse .flagNegationDangling place (place + 1)
        | _ => return (seen, flags)
      else
        let next ←
          if c = '-' then pure flags
          else match setFlag? c negatedAt.isNone flags with
            | some next => pure next
            | none => refuse .flagUnknown here (here + 1)
        match seen.lookup c with
        | some first =>
          throw (.malformed (if c = '-' then .flagNegationRepeated else .flagRepeated)
            ⟨here, here + 1⟩ (some ⟨first, first + 1⟩))
        | none => pure ()
        skip 1
        flagLetters left ((c, here) :: seen) (if c = '-' then some here else negatedAt) next

/-- How a group starts. -/
inductive Opening where
  /-- Only flags, which hold from here on. -/
  | flagsOnly
  /-- A body follows. -/
  | body (opened : Extent)
deriving Repr, Inhabited

/-- From the opening bracket to the body of a group, whose flags then hold. -/
def groupOpening : Reader Opening := do
  let start ← position
  let opened : Extent := ⟨start, start + 1⟩
  skip 1
  skipBlanks
  for mark in ["?=", "?!", "?<=", "?<!"] do
    if ← passText mark.toList then refuse .lookAround start (← position)
  let inner ← position
  if ← passText "?P<".toList then
    groupName
    return .body opened
  if ← passText "?<".toList then
    groupName
    return .body opened
  if ← passText "?".toList then
    if (← rest).isEmpty then refuse .groupUnclosed opened.start opened.stop
    let (letters, flags) ← flagLetters ((← rest).length + 1) [] none (← flags)
    let closes := (← rest).head? = some ')'
    skip 1
    if closes && letters.isEmpty then refuse .repetitionMissing inner inner
    setFlags flags
    return if closes then .flagsOnly else .body opened
  return .body opened

/-- The alternatives of the pattern, or of the group opened at `opened`. `done` are the alternatives
before the one being read, `parts` its parts. -/
def alternatives : Nat → Option Extent → List Pattern → List Part → Reader Pattern
  | 0, _, _, _ => refuse .groupUnclosed 0 0
  | steps + 1, opened, done, parts => do
    skipBlanks
    let here ← position
    match (← rest).head? with
    | none =>
      match opened with
      | some e => refuse .groupUnclosed e.start e.stop
      | none => return choices done parts
    | some c =>
      if c = '(' then
        let flags ← flags
        match ← groupOpening with
        | .flagsOnly => alternatives steps opened done (⟨.empty, false⟩ :: parts)
        | .body inner =>
          let body ← alternatives steps (some inner) [] []
          setFlags flags
          alternatives steps opened done (⟨body, true⟩ :: parts)
      else if c = ')' then
        if opened.isNone then refuse .groupUnopened here (here + 1)
        skip 1
        return choices done parts
      else if c = '|' then
        skip 1
        alternatives steps opened (ofParts parts.reverse :: done) []
      else if c = '[' then
        let set ← bracketed ((← rest).length + 1)
        alternatives steps opened done (⟨.one set, true⟩ :: parts)
      else if c = '?' || c = '*' || c = '+' then
        alternatives steps opened done (← markedRepetition c parts)
      else if c = openBrace then alternatives steps opened done (← countedRepetition parts)
      else
        let p ← element c
        alternatives steps opened done (⟨p, true⟩ :: parts)

end Reader

/-- The pattern that a text stands for under the given flags. -/
def parse (text : List Char) (flags : Flags) : Except Fault Pattern := do
  let (p, r) ← (Reader.alternatives (text.length + 1) none [] []).run ⟨text, 0, flags, [], none⟩
  if let some f := r.doubt then throw f
  if p.size > sizeLimit then throw .tooLarge
  return p

end StaticContext.Pattern
