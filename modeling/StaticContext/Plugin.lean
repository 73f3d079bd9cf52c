import StaticContext.Context.Expansion
import StaticContext.Options.Basic
import StaticContext.Tracker

/-! The plugin of a build: it loads files and remembers which directories their outputs depend on,
so that a change tells which files to load again. A load that fails changes nothing. -/

namespace StaticContext

structure Plugin where
  options : Options
  tracker : Tracker
deriving Repr, Inhabited

/-- A path as seen from the working directory, which is asked for even if the path is absolute. -/
def Path.from? (workingDirectory : Option AbsolutePath) (path : Path) : Option Path :=
  workingDirectory.map (·.path.join path)

/-- The file at a path, which is made absolute first. -/
def Source.load (storage : Storage) (path : Path) : Except ContextError Source :=
  match path.from? storage.workingDirectory with
  | none => .error (.unreadable path .missing)
  | some file =>
    match storage.read file with
    | .ok text => .ok ⟨file, text⟩
    | .error e => .error (.unreadable file e)

/-- Follows an expansion that succeeded; a file that passes through depends on nothing. -/
def Tracker.follow (t : Tracker) (file : Path) (output : Option Output) : Tracker :=
  match output with
  | some o => t.record file o.directories
  | none => t.remove file

namespace Plugin

def new (options : Options) : Plugin := ⟨options, .empty⟩

/-- A file's source with the report on it. -/
def report (storage : Storage) (path : Path) : Except ContextError (Source × Report) := do
  let source ← Source.load storage path
  return (source, ← source.expand storage)

def load (p : Plugin) (storage : Storage) (path : Path) : Except ContextError Report × Plugin :=
  match report storage path with
  | .error e => (.error e, p)
  | .ok (source, r) => (.ok r, { p with tracker := p.tracker.follow source.path r.output })

/-- A changed path as the tracker sees it; as it is given if it cannot be made absolute. -/
def changedPath (workingDirectory : Option AbsolutePath) (path : Path) : Path :=
  (path.from? workingDirectory).getD path

/-- Has a host mark every file whose output a change makes stale, one after the other, and counts
them. Nothing is expanded here. -/
def onChange {Host : Type} (p : Plugin) (workingDirectory : Option AbsolutePath) (path : Path)
    (mark : Host → Path → Host) (host : Host) : Nat × Host :=
  let affected := p.tracker.affectedBy (changedPath workingDirectory path)
  (affected.length, affected.foldl mark host)

/-- The files that a change marks, in the order of the marks. -/
def staleAfter (p : Plugin) (workingDirectory : Option AbsolutePath) (path : Path) : List Path :=
  (p.onChange workingDirectory path List.concat []).2

def staleEvents (p : Plugin) (workingDirectory : Option AbsolutePath) (path : Path) : List Event :=
  (p.staleAfter workingDirectory path).map (.stale (changedPath workingDirectory path))

end Plugin
end StaticContext
