import StaticContext.Path.Normal
import StaticContext.Text.Utf8

/-! The way from a directory to a file, as the text of a lookup key or an import specifier. -/

namespace StaticContext.Path

/-- Components that lead from `base` to `target`. `left` tells that the common part is behind us.
No way back is known out of a `..` of the base. -/
def way (left : Bool) : List Component → List Component → Option (List Component)
  | target, [] => some target
  | [], _ :: base => (way true [] base).map (.up :: ·)
  | t :: target, b :: base =>
    if !left && t = b then way false target base
    else if b = .here then (way true target base).map (t :: ·)
    else if b = .up then none
    else some (.up :: base.map (fun _ => .up) ++ t :: target)

def wayTo (base target : Path) : Option (List Component) :=
  if target.isAbsolute = base.isAbsolute then way false target.components base.components
  else if target.isAbsolute then some target.components
  else none

/-- The text of one step; a root has none. -/
def stepText : Component → Option String
  | .root => none
  | .here => some "."
  | .up => some ".."
  | .name n => some (Utf8.lossy n.bytes)

/-- Starts with `./`, or with `..` if the way climbs first. -/
def relativeText (base target : Path) : Option String := do
  let steps := (← wayTo base target).filter (· != .here)
  let texts ← steps.mapM stepText
  let text := "/".intercalate texts
  if steps.head? = some .up then return text
  return "./" ++ text

end StaticContext.Path
