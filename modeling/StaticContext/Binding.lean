import StaticContext.Path.Basic
import StaticContext.Text.Utf8

/-! Names of import bindings. Every file a context brings in is imported under a name made from its
lookup key: each directory and the file's stem in camel humps, joined by `_`. The name is always a
legal binding of strict module code and none of the accessor's own names; two keys may share one. -/

namespace StaticContext.Binding

def isWordChar (c : Char) : Bool := c.isAlphanum || c = '_'

def isHumpMark (c : Char) : Bool := c = '-' || c = '_'

/-- Upper-cases the first word character and each one after `-` or `_`, whose mark goes; characters
that are no word characters go too. `first` holds until something is written. -/
def camelHumpsFrom (first : Bool) : List Char → List Char
  | [] => []
  | [c] =>
    if isWordChar c then [if first then c.toUpper else c] else []
  | c :: d :: rest =>
    if isHumpMark c && isWordChar d then d.toUpper :: camelHumpsFrom false rest
    else if isWordChar c then (if first then c.toUpper else c) :: camelHumpsFrom false (d :: rest)
    else camelHumpsFrom first (d :: rest)

def camelHumps (segment : List Char) : List Char := camelHumpsFrom true segment

/-- A file name up to its first dot. -/
def stem (name : List Char) : List Char := name.takeWhile (· != '.')

/-- The key's names; `.`, `..` and the root carry none. -/
def segments (key : String) : List (List Char) :=
  (Path.ofString key).components.filterMap fun
    | .name n => some (Utf8.lossyChars n.bytes)
    | _ => none

/-- Every segment whole, the last one without its extension. -/
def stems : List (List Char) → List (List Char)
  | [] => []
  | [last] => [stem last]
  | s :: rest => s :: stems rest

/-- The locals of a generated accessor. -/
def accessorLocals : List String := ["modules", "context", "id"]

/-- Words that strict module code does not allow as a binding. -/
def reservedWords : List String :=
  ["arguments", "await", "break", "case", "catch", "class", "const", "continue", "debugger",
   "default", "delete", "do", "else", "enum", "eval", "export", "extends", "false", "finally",
   "for", "function", "if", "implements", "import", "in", "instanceof", "interface", "let", "new",
   "null", "package", "private", "protected", "public", "return", "static", "super", "switch",
   "this", "throw", "true", "try", "typeof", "var", "void", "while", "with", "yield"]

def isTaken (name : List Char) : Bool :=
  (reservedWords ++ accessorLocals).any (·.toList = name)

/-- Puts `_` before a name that is empty, starts with a digit or is taken. -/
def legalize (name : List Char) : List Char :=
  match name with
  | [] => ['_']
  | c :: _ => if c.isDigit || isTaken name then '_' :: name else name

/-- The binding for a lookup key: `./components/nav-bar.js` gives `Components_NavBar`. -/
def ofKey (key : String) : String :=
  String.ofList (legalize (['_'].intercalate ((stems (segments key)).map camelHumps)))

end StaticContext.Binding
