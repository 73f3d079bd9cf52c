import StaticContext.Pattern.Fault
import StaticContext.Text.Property.Class
import StaticContext.Text.Property.WritingSystem
import StaticContext.Text.Property.WritingUse

/-! Character sets that a pattern names: properties, ASCII classes and the three classes with a
letter of their own. Property names are read without regard to case, spaces, `-`, `_` and a leading
`is`. -/

namespace StaticContext.Pattern
open Text

/-- How tables spell a name; `isc` keeps its `is`. -/
def tableName (name : List Char) : String :=
  let plain (cs : List Char) :=
    (cs.filter fun c => c.toNat < 128 && c != ' ' && c != '_' && c != '-').map Char.toLower
  match name.map Char.toLower with
  | 'i' :: 's' :: _ =>
    if plain (name.drop 2) = ['c'] then "isc" else String.ofList (plain (name.drop 2))
  | _ => String.ofList (plain name)

def wholeSet (name : String) : Option CharSet :=
  if name = "any" then some (.ofRange 0 CharSet.lastCode)
  else if name = "ascii" then some (.ofRange 0 127)
  else if name = "assigned" then some assigned
  else none

def categoryOrWhole (name : String) : Option CharSet :=
  (wholeSet name).or (category? name)

/-- Names that a trait and a category share mean the category. -/
def namedSet (name : String) : Except Cause CharSet :=
  let trait := if ["cf", "sc", "lc"].contains name then none else lookup traits name
  match trait.or ((categoryOrWhole name).or (lookup writingSystems name)) with
  | some set => .ok set
  | none => .error .propertyUnknown

def valuedSet (property value : String) : Except Cause CharSet :=
  let found : Except Cause (Option CharSet) :=
    if ["generalcategory", "gc"].contains property then .ok (categoryOrWhole value)
    else if ["script", "sc"].contains property then .ok (lookup writingSystems value)
    else if ["scriptextensions", "scx"].contains property then .ok (lookup writingUses value)
    else if (lookup traits property).isSome then .ok none
    else .error .propertyUnknown
  match found with
  | .error e => .error e
  | .ok none => .error .propertyValueUnknown
  | .ok (some set) => .ok set

/-- A property as it is written between braces, and whether `!=` turns it round. -/
def propertySet (text : List Char) : Except Cause CharSet × Bool :=
  let cut (mark : List Char) : Option (List Char × List Char) :=
    (List.range text.length).findSome? fun i =>
      if mark.isPrefixOf (text.drop i) then some (text.take i, text.drop (i + mark.length)) else none
  match cut ['!', '='] with
  | some (name, value) => (valuedSet (tableName name) (tableName value), true)
  | none =>
    match (cut [':']).or (cut ['=']) with
    | some (name, value) => (valuedSet (tableName name) (tableName value), false)
    | none => (namedSet (tableName text), false)

/-- The classes that are written in brackets and colons. -/
def asciiClass? : String → Option CharSet
  | "alnum" => some (.ofText "30-39,41-5A,61-7A")
  | "alpha" => some (.ofText "41-5A,61-7A")
  | "ascii" => some (.ofText "0-7F")
  | "blank" => some (.ofText "9,20")
  | "cntrl" => some (.ofText "0-1F,7F")
  | "digit" => some (.ofText "30-39")
  | "graph" => some (.ofText "21-7E")
  | "lower" => some (.ofText "61-7A")
  | "print" => some (.ofText "20-7E")
  | "punct" => some (.ofText "21-2F,3A-40,5B-60,7B-7E")
  | "space" => some (.ofText "9-D,20")
  | "upper" => some (.ofText "41-5A")
  | "word" => some (.ofText "30-39,41-5A,5F,61-7A")
  | "xdigit" => some (.ofText "30-39,41-46,61-66")
  | _ => none

/-- The class of a letter after a backslash, `none` if it is no class. -/
def letterClass? (ascii : Bool) (c : Char) : Option CharSet :=
  let positive : Char → Option CharSet
    | 'd' => some (if ascii then .ofText "30-39" else decimalDigits)
    | 's' => some (if ascii then .ofText "9-D,20" else whiteSpace)
    | 'w' => some (if ascii then .ofText "30-39,41-5A,5F,61-7A" else wordCharacters)
    | _ => none
  if c.isUpper then (positive c.toLower).map (·.complement) else positive c

end StaticContext.Pattern
