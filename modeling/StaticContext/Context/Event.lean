import StaticContext.Context.Error

/-! What is worth telling of a run. -/

namespace StaticContext

inductive Event where
  /-- The text of a file mentions no context. -/
  | noMention (path : Path)
  /-- No call in a file is a context call. -/
  | noCall (path : Path)
  /-- A call's directory, as written, holds so many modules. -/
  | resolved (path : Path) (position : Text.Position) (directory : String) (modules : Nat)
  | expanded (calls : Nat) (path : Path)
  /-- A change makes the output of a file stale. -/
  | stale (changed file : Path)
deriving DecidableEq, Repr, Inhabited

namespace Event

def level : Event → String
  | noMention _ | resolved .. => "TRACE"
  | noCall _ | expanded .. | stale .. => "DEBUG"

def text : Event → String
  | noMention path => "No require.context in " ++ path.shown
  | noCall path => "No statically resolvable require.context calls in " ++ path.shown
  | resolved path position directory modules =>
    path.shown ++ ":" ++ position.shown ++ ": require.context('" ++ directory ++ "') -> " ++
      toString modules ++ " modules"
  | expanded calls path =>
    "Rewrote " ++ toString calls ++ " require.context calls in " ++ path.shown
  | stale changed file => changed.shown ++ " changed, marking " ++ file.shown ++ " as stale"

def message (e : Event) : String := e.level ++ " " ++ e.text

end Event
end StaticContext
