import StaticContext.Path.Normal
import StaticContext.Text.Utf8

/-! A file storage: the places below the root, in the order in which their names were first created,
and the obstacles that opening them meets. Opening follows links; a listing tells the types of its
entries, links as links, and never what their files hold, so a file's content shows only where that
file is read. -/

namespace StaticContext

inductive AccessError where
  /-- An error number of the operating system. -/
  | system (number : Nat)
  | nulByte
  | notUtf8
deriving DecidableEq, Repr, Inhabited

namespace AccessError

def missing : AccessError := system 2

def notDirectory : AccessError := system 20

def isDirectory : AccessError := system 21

def tooManyLinks : AccessError := system 40

def reason : Nat → String
  | 1 => "Operation not permitted"
  | 2 => "No such file or directory"
  | 5 => "Input/output error"
  | 12 => "Cannot allocate memory"
  | 13 => "Permission denied"
  | 20 => "Not a directory"
  | 21 => "Is a directory"
  | 24 => "Too many open files"
  | 36 => "File name too long"
  | 40 => "Too many levels of symbolic links"
  | n => "Unknown error " ++ toString n

def message : AccessError → String
  | system n => reason n ++ " (os error " ++ toString n ++ ")"
  | nulByte => "file name contained an unexpected NUL byte"
  | notUtf8 => "stream did not contain valid UTF-8"

end AccessError

/-- Names from the root down. -/
abbrev Location := List FileName

namespace Location

def ofPath (p : Path) : Location :=
  (Path.collapse p.components).filterMap fun
    | .name n => some n
    | _ => none

/-- All locations strictly above, the root first. -/
def ancestors (l : Location) : List Location := (List.range l.length).map l.take

/-- Whether `l` is `top` or lies below it. -/
def isWithin (l top : Location) : Bool := top.isPrefixOf l

end Location

inductive Place where
  | file (content : List UInt8)
  | directory
  /-- A symbolic link. Its target is a whole location; without one it leads nowhere. -/
  | link (target : Option Location := none)
  /-- A place whose type is refused. -/
  | unknown (error : AccessError)
deriving DecidableEq, Repr, Inhabited

/-- What a listing tells about an entry. -/
inductive EntryType where
  | file
  | directory
  | link
  | unknown (error : AccessError)
deriving DecidableEq, Repr, Inhabited

def Place.type : Place → EntryType
  | file _ => .file
  | directory => .directory
  | link _ => .link
  | unknown e => .unknown e

/-- Opening fails; a directory with `after` opens and fails when one more entry is asked for. -/
structure Obstacle where
  error : AccessError
  after : Option Nat
deriving DecidableEq, Repr, Inhabited

/-- The entries that a directory hands out, and the failure that ends them. -/
structure Listing where
  entries : List (FileName × EntryType)
  failure : Option AccessError
deriving DecidableEq, Repr, Inhabited

structure Storage where
  places : List (Location × Place)
  /-- One place to a location, so that no directory lists a name twice. -/
  distinct : (places.map Prod.fst).Nodup
  obstacles : List (Location × Obstacle)
  /-- None if it cannot be told. -/
  workingDirectory : Option AbsolutePath
deriving Repr

namespace Storage

/-- Only the root, with `/work` as working directory. -/
def empty : Storage := ⟨[], List.nodup_nil, [], AbsolutePath.ofPath? (.ofString "/work")⟩

instance : Inhabited Storage := ⟨empty⟩

def placeAt (s : Storage) (l : Location) : Option Place :=
  if l = [] then some .directory else s.places.lookup l

def obstacleAt (s : Storage) (l : Location) : Option Obstacle := s.obstacles.lookup l

/-- The entries of the directory at `l`. -/
def childrenOf (s : Storage) (l : Location) : List (FileName × Place) :=
  s.places.filterMap fun (m, place) =>
    match m.getLast? with
    | some name => if m.dropLast = l then some (name, place) else none
    | none => none

/-- Where a way goes on whose first place that is no directory is a link, `done` lying behind. -/
def detour? (s : Storage) (done : Location) : Location → Option Location
  | [] => none
  | name :: rest =>
    match s.placeAt (done ++ [name]) with
    | some .directory => s.detour? (done ++ [name]) rest
    | some (.link target) => target.map (· ++ rest)
    | _ => none

/-- Where a location leads when fewer links than the limit are on the way. -/
def follow (s : Storage) : Nat → Location → Except AccessError Location
  | 0, _ => .error .tooManyLinks
  | limit + 1, l =>
    match s.detour? [] l with
    | some m => s.follow limit m
    | none => .ok l

/-- How many links the operating system follows on one way. -/
def linkLimit : Nat := 40

/-- The first location above `l` that is no directory decides. -/
def blockedAbove (s : Storage) (l : Location) : Option AccessError :=
  l.ancestors.findSome? fun a =>
    match s.placeAt a with
    | some .directory => none
    | some (.file _) => some .notDirectory
    | _ => some .missing

/-- The location that a path spells. A `..` takes back the name before it, whatever place that is. -/
def locate (s : Storage) (p : Path) : Except AccessError Location :=
  if p.bytes.contains 0 then .error .nulByte
  else if p.bytes.isEmpty then .error .missing
  else match p.absolute? s.workingDirectory with
    | none => .error .missing
    | some q => .ok (.ofPath q)

/-- Where a path leads, through the links on its way and at its end. -/
def reach (s : Storage) (p : Path) : Except AccessError Location := do
  s.follow (linkLimit + 1) (← s.locate p)

/-- The file or directory that a path leads to, with its location. -/
def openAt (s : Storage) (p : Path) : Except AccessError (Location × Place) := do
  let l ← s.reach p
  if let some e := s.blockedAbove l then throw e
  match s.placeAt l with
  | some (.file content) => return (l, .file content)
  | some .directory => return (l, .directory)
  | _ => throw .missing

/-- With fewer entries than the obstacle waits for, nothing fails. -/
def interrupted (entries : List (FileName × EntryType)) (o : Obstacle) (after : Nat) :
    Listing :=
  if entries.length < after then ⟨entries, none⟩ else ⟨entries.take after, some o.error⟩

def list (s : Storage) (p : Path) : Except AccessError Listing := do
  match ← s.openAt p with
  | (l, .directory) =>
    let entries := (s.childrenOf l).map fun (name, place) => (name, place.type)
    match s.obstacleAt l with
    | none => return ⟨entries, none⟩
    | some o =>
      match o.after with
      | none => throw o.error
      | some after => return interrupted entries o after
  | _ => throw .notDirectory

def read (s : Storage) (p : Path) : Except AccessError String := do
  match ← s.openAt p with
  | (l, .file content) =>
    if let some o := s.obstacleAt l then throw o.error
    match Utf8.decode? content with
    | some text => return text
    | none => throw .notUtf8
  | _ => throw .isDirectory

end Storage
end StaticContext
