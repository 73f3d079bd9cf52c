import StaticContext.Binding
import StaticContext.Context.Error
import StaticContext.Path.Relative
import StaticContext.Pattern.Parse

/-! From a context call to the files it brings in. A call's directory is seen from the directory of
the source file; each file below it that the filter accepts becomes a module with a lookup key
relative to that directory and an import specifier relative to the source. Two modules of a context
may share a binding: the later one then shadows the earlier, which a collision tells. Collisions are
told of as soon as their call is resolved, whatever becomes of other calls. -/

namespace StaticContext

/-- The pattern of a filter; flags other than `i`, `m` and `s` change nothing. -/
def Filter.compile (f : Filter) : Except ContextError Pattern :=
  let has (c : Char) : Bool := f.flags.toList.contains c
  match Pattern.parse f.pattern.toList
      { foldsCase := has 'i', multiline := has 'm', dotAll := has 's' } with
  | .ok p => .ok p
  | .error fault => .error (.invalidPattern f fault)

structure ContextModule where
  path : Path
  /-- Relative to the directory of the context. -/
  key : String
  /-- Relative to the directory of the source file. -/
  specifier : String
  /-- What the module is imported as. -/
  identifier : String
deriving DecidableEq, Repr, Inhabited

/-- A file as a module, unless no relative text leads to it. -/
def ContextModule.ofFile? (sourceDir directory path : Path) : Option ContextModule := do
  let key ← directory.relativeText path
  let specifier ← sourceDir.relativeText path
  return ⟨path, key, specifier, Binding.ofKey key⟩

structure ResolvedContext where
  directory : Path
  /-- In listing order. -/
  modules : List ContextModule
deriving DecidableEq, Repr, Inhabited

/-- Two modules of one context with the same binding. -/
structure Collision where
  directory : Path
  earlier : String
  later : String
  identifier : String
deriving DecidableEq, Repr, Inhabited

def Collision.message (c : Collision) : String :=
  "require.context in " ++ c.directory.shown ++ ": '" ++ c.earlier ++ "' and '" ++ c.later ++
    "' are both imported as " ++ Script.Cause.ticked c.identifier

namespace ResolvedContext

/-- Collisions of `modules` with those before them, `before`, the nearest of which comes first. -/
def collisionsAfter (directory : Path) (before : List ContextModule) :
    List ContextModule → List Collision
  | [] => []
  | m :: rest =>
    let own := match before.find? (·.identifier = m.identifier) with
      | some earlier => [⟨directory, earlier.key, m.key, m.identifier⟩]
      | none => []
    own ++ collisionsAfter directory (m :: before) rest

/-- One for each module whose binding occurred before, with the nearest module that has it. -/
def collisions (c : ResolvedContext) : List Collision := collisionsAfter c.directory [] c.modules

end ResolvedContext

/-- What comes of resolving, and the collisions that are told of on the way. -/
structure Resolution (α : Type) where
  outcome : Except ContextError α
  collisions : List Collision

namespace Resolution

/-- An error before anything is told. -/
def failed {α : Type} (error : ContextError) : Resolution α := ⟨.error error, []⟩

/-- A context that is complete. -/
def resolved (c : ResolvedContext) : Resolution ResolvedContext := ⟨.ok c, c.collisions⟩

end Resolution

namespace ContextCall

/-- The directory a call means, seen from that of the source file. -/
def targetDirectory (sourceDir : Path) (call : ContextCall) : Path :=
  sourceDir.join (.ofString call.directory)

/-- The compiled filter of a call that has one. -/
def compileFilter (call : ContextCall) : Except ContextError (Option Pattern) :=
  match call.filter with
  | none => .ok none
  | some f => f.compile.map some

/-- Whether a filter accepts a file; it sees the whole path. -/
def accepts (pattern : Option Pattern) (path : Path) : Bool :=
  pattern.all (·.matchesIn (Utf8.lossyChars path.bytes))

/-- Resolves a call whose filter is compiled. -/
def resolutionWith (storage : Storage) (sourceDir : Path) (call : ContextCall)
    (pattern : Option Pattern) : Resolution ResolvedContext :=
  let directory := call.targetDirectory sourceDir
  match storage.files directory call.recursive (accepts pattern) with
  | .error e => .failed (.unlistable e)
  | .ok files => .resolved ⟨directory, files.filterMap (ContextModule.ofFile? sourceDir directory)⟩

def resolution (storage : Storage) (sourceDir : Path) (call : ContextCall) :
    Resolution ResolvedContext :=
  match call.compileFilter with
  | .error e => .failed e
  | .ok pattern => call.resolutionWith storage sourceDir pattern

/-- The context of a call whose filter is compiled. -/
def resolveWith (storage : Storage) (sourceDir : Path) (call : ContextCall)
    (pattern : Option Pattern) : Except ContextError ResolvedContext :=
  (call.resolutionWith storage sourceDir pattern).outcome

def resolve (storage : Storage) (sourceDir : Path) (call : ContextCall) :
    Except ContextError ResolvedContext :=
  (call.resolution storage sourceDir).outcome

end ContextCall
end StaticContext
