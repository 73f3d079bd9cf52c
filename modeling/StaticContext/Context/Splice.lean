import StaticContext.Context.Accessor

/-! Putting accessors in the place of context calls. The tree is walked inside out with the contexts
that wait for their calls; each is taken once, by the call with its span. What exists for the type
checker alone stays as it is. -/

namespace StaticContext.Splice
open Script

/-- Contexts that wait, by the spans of their calls. -/
abbrev Pending := List (Span × ResolvedContext)

/-- Lets a context wait, in the place of one that waits for the same call. -/
def register (pending : Pending) (span : Span) (c : ResolvedContext) : Pending :=
  (span, c) :: pending.filter (·.1 ≠ span)

/-- Every context waits for its call. -/
def waiting (calls : List ContextCall) (contexts : List ResolvedContext) : Pending :=
  (calls.zip contexts).foldl (fun pending (call, c) => register pending call.span c) []

/-- A node whose children are done. -/
def settle (pending : Pending) (label : Label) (children : List Tree) : Tree × Pending :=
  match label with
  | .call span =>
    match pending.lookup span with
    | some c => (c.accessor span, pending.filter (·.1 ≠ span))
    | none => (.node label children, pending)
  | _ => (.node label children, pending)

mutual

def inTree (pending : Pending) : Tree → Tree × Pending
  | .node label children =>
    if label = .typeOnly then (.node label children, pending)
    else
      let (children, pending) := inTrees pending children
      settle pending label children

def inTrees (pending : Pending) : List Tree → List Tree × Pending
  | [] => ([], pending)
  | t :: rest =>
    let (t, pending) := inTree pending t
    let (rest, pending) := inTrees pending rest
    (t :: rest, pending)

end

/-- The program with what waits in place and the imports before everything else. -/
def inProgram (pending : Pending) (imports : List Tree) (p : Program) : Program × Pending :=
  let (body, pending) := inTrees pending p.body
  ({ p with body := imports ++ body }, pending)

end StaticContext.Splice
