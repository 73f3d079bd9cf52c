import StaticContext.Text.Property.Category
import StaticContext.Text.Property.Trait

/-! The character classes that texts are read by. -/

namespace StaticContext.Text

/-- The set of a name in a table, empty if there is no such name. -/
def lookup (table : List (List String × CharSet)) (name : String) : Option CharSet :=
  (table.find? fun row => row.1.contains name).map (·.2)

def traitSet (name : String) : CharSet := (lookup traits name).getD .empty

def categorySet (name : String) : CharSet := (lookup categories name).getD .empty

/-- Names of what several categories make up, and the categories. -/
def categoryGroups : List (List String × List String) :=
  [(["l", "letter"], ["lu", "ll", "lt", "lm", "lo"]),
   (["lc", "casedletter"], ["lu", "ll", "lt"]),
   (["m", "mark", "combiningmark"], ["mn", "mc", "me"]),
   (["n", "number"], ["nd", "nl", "no"]),
   (["p", "punctuation", "punct"], ["pc", "pd", "ps", "pe", "pi", "pf", "po"]),
   (["s", "symbol"], ["sm", "sc", "sk", "so"]),
   (["z", "separator"], ["zs", "zl", "zp"])]

def assigned : CharSet := .unions (categories.map (·.2))

/-- The set of a general category or of a group of them. -/
def category? (name : String) : Option CharSet :=
  if ["cn", "unassigned"].contains name then some assigned.complement
  else if ["c", "other"].contains name then
    some (.union assigned.complement (.unions (["cc", "cf", "cs", "co"].map categorySet)))
  else match categoryGroups.find? (·.1.contains name) with
    | some (_, members) => some (.unions (members.map categorySet))
    | none => lookup categories name

def whiteSpace : CharSet := traitSet "whitespace"

def decimalDigits : CharSet := categorySet "nd"

/-- Letters, marks, decimal digits, connectors and joiners. -/
def wordCharacters : CharSet :=
  .unions (traitSet "alphabetic" :: traitSet "joincontrol" ::
    ["mn", "mc", "me", "nd", "pc"].map categorySet)

def isAsciiWord (c : Char) : Bool := c.isAlphanum || c = '_'

def isWord (c : Char) : Bool :=
  if c.toNat < 128 then isAsciiWord c else wordCharacters.contains c

def isBlank (c : Char) : Bool :=
  if c.toNat < 128 then c = ' ' || (9 ≤ c.toNat && c.toNat ≤ 13) else whiteSpace.contains c

end StaticContext.Text
