import StaticContext.Context.Call
import StaticContext.Pattern.Fault
import StaticContext.Script.Fault
import StaticContext.Storage.Files
import StaticContext.Text.Position

/-! What keeps the context calls of a source file from being expanded. -/

namespace StaticContext

inductive ContextError where
  | unreadable (path : Path) (error : AccessError)
  | unparsable (path : Path) (position : Text.Position) (cause : Script.Cause)
  | unlistable (error : ListingError)
  | invalidPattern (filter : Filter) (fault : Pattern.Fault)
deriving DecidableEq, Repr, Inhabited

/-- A path as messages show it. -/
def Path.shown (p : Path) : String := Utf8.lossy p.bytes

def Text.Position.shown (p : Text.Position) : String := toString p.line ++ ":" ++ toString p.column

def ContextError.message : ContextError → String
  | unreadable path error => "E_FILE_READ: Failed to read " ++ path.shown ++ ": " ++ error.message
  | unparsable path position cause =>
    "E_FILE_PARSE: " ++ path.shown ++ ":" ++ position.shown ++ ": " ++ cause.message
  | unlistable error =>
    "E_ENUMERATE: Failed to list " ++ error.directory.shown ++ ": " ++ error.error.message
  | invalidPattern filter fault =>
    "E_INVALID_PATTERN: /" ++ filter.pattern ++ "/" ++ filter.flags ++ ": " ++
      fault.message filter.pattern

end StaticContext
