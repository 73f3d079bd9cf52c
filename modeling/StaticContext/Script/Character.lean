import StaticContext.Text.Property.Class

/-! Characters of scripts: line ends, blanks, and the letters of names. -/

namespace StaticContext.Script

def isLineEnd (c : Char) : Bool := c = '\n' || c = '\r' || c = '\u2028' || c = '\u2029'

/-- White space between tokens, line ends included. -/
def isSpace (c : Char) : Bool := Text.isBlank c || c = '\uFEFF'

def nameStarters : Text.CharSet := Text.traitSet "idstart"

def nameLetters : Text.CharSet := (Text.traitSet "idcontinue").union (Text.traitSet "joincontrol")

def startsName (c : Char) : Bool :=
  if c.toNat < 128 then c.isAlpha || c = '$' || c = '_' else nameStarters.contains c

def continuesName (c : Char) : Bool :=
  if c.toNat < 128 then c.isAlphanum || c = '$' || c = '_' else nameLetters.contains c

end StaticContext.Script
