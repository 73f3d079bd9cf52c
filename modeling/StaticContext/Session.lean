import StaticContext.Plugin
import StaticContext.Storage.Edit

/-! A build session: a plugin at work on a storage that changes meanwhile. -/

namespace StaticContext

structure Session where
  storage : Storage
  plugin : Plugin
deriving Repr, Inhabited

namespace Session

inductive Step where
  | load (path : Path)
  /-- Something changed at a path. -/
  | change (path : Path)
  /-- Puts an entry into the tracker by hand. -/
  | record (file : Path) (directories : List Path)
  | remove (file : Path)
  | clear
  | edit (change : Storage.Change)
deriving Repr, Inhabited

inductive Reply where
  | done
  | loaded (result : Except ContextError Report)
  | stale (files : List Path) (events : List Event)
  /-- Whether there was something to remove. -/
  | removed (wasThere : Bool)
deriving Repr, Inhabited

def withTracker (s : Session) (t : Tracker) : Session :=
  { s with plugin := { s.plugin with tracker := t } }

/-- What a step answers. -/
def reply (s : Session) : Step → Reply
  | .load path => .loaded (s.plugin.load s.storage path).1
  | .change path =>
    .stale (s.plugin.staleAfter s.storage.workingDirectory path)
      (s.plugin.staleEvents s.storage.workingDirectory path)
  | .remove file => .removed (s.plugin.tracker.tracks file)
  | .edit (.remove path) => .removed (s.storage.holds path)
  | .record .. | .clear | .edit _ => .done

/-- The session after a step. -/
def after (s : Session) : Step → Session
  | .load path => { s with plugin := (s.plugin.load s.storage path).2 }
  | .change _ => s
  | .record file directories => s.withTracker (s.plugin.tracker.record file directories)
  | .remove file => s.withTracker (s.plugin.tracker.remove file)
  | .clear => s.withTracker .empty
  | .edit change => { s with storage := s.storage.apply change }

/-- The session after several steps. -/
def run (s : Session) (steps : List Step) : Session := steps.foldl after s

end Session
end StaticContext
