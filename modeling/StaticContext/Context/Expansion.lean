import StaticContext.Context.Event
import StaticContext.Context.Source
import StaticContext.Context.Splice
import StaticContext.Script.Print

/-! Expanding a source file: its context calls are found and resolved, each becomes an accessor, and
what the accessors hold is imported at the top. Every filter is compiled before any directory is
listed. A file without context calls passes through. -/

namespace StaticContext

/-- An expanded file. -/
structure Output where
  code : String
  /-- Where the context calls looked for files, each directory once, the first seen first. -/
  directories : List Path
deriving DecidableEq, Repr, Inhabited

structure Report where
  /-- None if the file passes through. -/
  output : Option Output
  events : List Event
  collisions : List Collision
deriving DecidableEq, Repr, Inhabited

/-- Drops what is the same as something before it. -/
def firstOfEach {α : Type} (same : α → α → Bool) : List α → List α
  | [] => []
  | a :: rest => a :: (firstOfEach same rest).filter (!same a ·)

namespace ContextModule

/-- Whether one import serves both modules. -/
def sameImport (m n : ContextModule) : Bool :=
  m.identifier = n.identifier && m.specifier = n.specifier

end ContextModule

namespace ResolvedContext

def imports (contexts : List ResolvedContext) : List Script.Tree :=
  (firstOfEach ContextModule.sameImport (contexts.flatMap modules)).map ContextModule.importTree

def directories (contexts : List ResolvedContext) : List Path :=
  firstOfEach Path.same (contexts.map directory)

end ResolvedContext

namespace ContextCall

/-- Resolves all calls of a file; the first filter that is no pattern comes before any directory that
cannot be listed. The calls are resolved side by side: if one fails, the collisions of those that do not
are told of as well, as far as the run comes. -/
def resolutionAll (storage : Storage) (sourceDir : Path) (calls : List ContextCall) :
    Resolution (List ResolvedContext) :=
  match calls.mapM compileFilter with
  | .error e => .failed e
  | .ok patterns =>
    let resolutions := (calls.zip patterns).map fun (call, pattern) =>
      call.resolutionWith storage sourceDir pattern
    ⟨resolutions.mapM Resolution.outcome, resolutions.flatMap Resolution.collisions⟩

/-- The contexts of all calls of a file. -/
def resolveAll (storage : Storage) (sourceDir : Path) (calls : List ContextCall) :
    Except ContextError (List ResolvedContext) :=
  (resolutionAll storage sourceDir calls).outcome

end ContextCall

/-- The program with every call replaced by the accessor of its context. -/
def Script.Program.withContexts (p : Script.Program) (calls : List ContextCall)
    (contexts : List ResolvedContext) : Script.Program :=
  (Splice.inProgram (Splice.waiting calls contexts) (ResolvedContext.imports contexts) p).1

namespace Source

def resolvedEvents (s : Source) (calls : List ContextCall) (contexts : List ResolvedContext) :
    List Event :=
  (calls.zip contexts).map fun (call, c) =>
    .resolved s.path (s.position call.span.start) call.directory c.modules.length

/-- The report on a file whose context calls are those given. -/
def expandCalls (s : Source) (storage : Storage) (p : Script.Program) (calls : List ContextCall) :
    Except ContextError Report :=
  let resolution := ContextCall.resolutionAll storage s.directory calls
  match resolution.outcome with
  | .error e => .error e
  | .ok contexts => .ok {
      output := some ⟨(p.withContexts calls contexts).print, ResolvedContext.directories contexts⟩
      events := s.resolvedEvents calls contexts ++ [.expanded calls.length s.path]
      collisions := resolution.collisions }

/-- The report on a file that was parsed. -/
def expandProgram (s : Source) (storage : Storage) (p : Script.Program) :
    Except ContextError Report :=
  match ContextCall.inProgram p with
  | [] => .ok ⟨none, [.noCall s.path], []⟩
  | calls => s.expandCalls storage p calls

def expand (s : Source) (storage : Storage) : Except ContextError Report :=
  if s.mentionsContext then
    match s.parse with
    | .error e => .error e
    | .ok p => s.expandProgram storage p
  else .ok ⟨none, [.noMention s.path], []⟩

/-- The collisions that expanding a file tells of, also if it fails. -/
def collisions (s : Source) (storage : Storage) : List Collision :=
  match s.mentionsContext, s.parse with
  | true, .ok p => (ContextCall.resolutionAll storage s.directory (ContextCall.inProgram p)).collisions
  | _, _ => []

end Source
end StaticContext
