import StaticContext.Path.Basic

/-! Lexical normalization. `collapse` runs a stack over the components: a name is taken back by a
following `..`, the root absorbs it, and a `..` with nothing to take back stays. So a normal form
has its `..` in front, and only if it is relative. -/

namespace StaticContext.Path

/-- `child` seen from `base`; an absolute `child` stands for itself. -/
def append (base child : Path) : Path :=
  if child.isAbsolute then child
  else match base.bytes.getLast? with
    | none => child
    | some b =>
      if b = Component.slash then ⟨base.bytes ++ child.bytes⟩
      else ⟨base.bytes ++ Component.slash :: child.bytes⟩

/-- One step over the stack of components kept so far, innermost first. -/
def settle (stack : List Component) : Component → List Component
  | .here => stack
  | .up =>
    match stack with
    | .name _ :: below => below
    | .root :: _ => stack
    | _ => .up :: stack
  | c => c :: stack

def collapse (cs : List Component) : List Component := (cs.foldl settle []).reverse

def normalize (p : Path) : Path := ofComponents (collapse p.components)

/-- `child` resolved against the directory `base`. -/
def join (base child : Path) : Path := (append base child).normalize

/-- `p` as seen from the working directory, which is asked for only if `p` is relative. -/
def absolute? (cwd : Option AbsolutePath) (p : Path) : Option Path :=
  if p.isAbsolute then some p.normalize else cwd.map (·.path.join p)

end StaticContext.Path
