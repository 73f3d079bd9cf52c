import StaticContext.Options.Reader

/-! Options: which file extensions are claimed. They come as an object with a field `input`, or as a
list that holds that field alone; other fields are passed over. Extensions always start with a dot,
whether it was written or not. -/

namespace StaticContext

structure Options where
  /-- As they were written; none if the field is left out or null. -/
  input : Option (List String)
deriving DecidableEq, Repr, Inhabited

namespace Options

def default : Options := ⟨none⟩

def defaultExtension : String := ".js"

/-- Adds the leading dot that is missing. -/
def withDot (extension : String) : String :=
  if extension.toList.head? = some '.' then extension else "." ++ extension

/-- Extensions of the files that are taken. -/
def inputExtensions (o : Options) : List String :=
  match o.input with
  | some extensions => extensions.map withDot
  | none => [defaultExtension]

/-- Extensions of what is written, which is always a script. -/
def outputExtensions (_ : Options) : List String := [defaultExtension]

/-- Whether files with the extension are taken. -/
def claims (o : Options) (extension : String) : Bool := o.inputExtensions.contains (withDot extension)

def pluginName : String := "require-context-plugin"

namespace Reader

def text : Reader String := do
  let c ← peekOr .valueEnds
  if c = '"' then
    skip 1
    string
  else mismatch c "a string"

/-- The items of a list of texts; `left` bounds their number. -/
def textItems : Nat → Bool → Reader (List String)
  | 0, _ => return []
  | left + 1, first => do
    if ← hasItem first then return (← text) :: (← textItems left false)
    else return []

def texts : Reader (List String) := do
  let c ← peekOr .valueEnds
  if c = '[' then
    skip 1
    let items ← textItems ((← get).rest.length + 1) true
    endList
    return items
  else mismatch c "a sequence"

def textsOrNull : Reader (Option (List String)) := do
  skipBlanks
  if (← peek) = 'n' then
    skip 1
    restOfWord ['u', 'l', 'l']
    return none
  else return some (← texts)

/-- Passes the colon behind a key. -/
def colon : Reader Unit := do
  if (← peekOr .objectEnds) != ':' then failAhead .colonMissing
  skip 1

/-- A second `input`; an object that ends right behind its key is passed. -/
def repeated {α : Type} : Reader α := do
  skipBlanks
  if (← peek) = closeBrace then skip 1
  fail .fieldRepeated

/-- The fields of an object up to its end; `left` bounds their number. -/
def fields : Nat → Bool → Option Options → Reader Options
  | 0, _, found => return found.getD default
  | left + 1, first, found => do
    if ← hasKey first then
      skip 1
      if (← string) = "input" then
        if found.isSome then repeated
        colon
        let input ← textsOrNull
        fields left false (some ⟨input⟩)
      else
        colon
        skipValue ((← get).rest.length + 1)
        fields left false found
    else
      skip 1
      return found.getD default

/-- The one field of a list. -/
def listed : Reader Options := do
  if ← hasItem true then
    let input ← textsOrNull
    endList
    return ⟨input⟩
  else
    skip 1
    fail .fieldsMissing

def options : Reader Options := do
  let c ← peekOr .valueEnds
  let result ←
    if c = '[' then do
      skip 1
      listed
    else if c = openBrace then do
      skip 1
      fields ((← get).rest.length + 1) true none
    else mismatch c optionsShape
  skipBlanks
  if !(← atEnd) then failAhead .textTrailing
  return result

end Reader

/-- Options from their text. -/
def parse (text : String) : Except Fault Options :=
  let bytes := text.toUTF8.toList
  match Reader.options.run ⟨bytes, 0⟩ with
  | .ok (o, _) => .ok o
  | .error (cause, offset) => .error (.ofOffset bytes cause offset)

end Options
end StaticContext
