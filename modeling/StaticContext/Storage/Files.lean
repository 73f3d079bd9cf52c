import StaticContext.Storage.Basic

/-! All files below a directory, depth first, each directory's entries in the order it lists them.
The walk sees nothing of a storage but the answers of `list`. A directory is read to its end before
anything below it is visited. One that is not there has no files, and an entry that vanished before
its type was told is left out; any other failure ends the walk. No location of a storage is deeper
than `depth`, so the walk never runs out of levels. -/

namespace StaticContext

/-- The directory that could not be listed, and why. -/
structure ListingError where
  directory : Path
  error : AccessError
deriving DecidableEq, Repr, Inhabited

namespace Listing

/-- Entries whose type is told, with whether each is a directory. -/
def typed : List (FileName × EntryType) → Except AccessError (List (FileName × Bool))
  | [] => .ok []
  | (name, type) :: rest =>
    match type with
    | .unknown e => if e = .missing then typed rest else .error e
    | _ => (typed rest).map ((name, type = .directory) :: ·)

/-- The failure that ends a listing comes after those of its entries. -/
def read (l : Listing) : Except AccessError (List (FileName × Bool)) :=
  match typed l.entries with
  | .error e => .error e
  | .ok entries =>
    match l.failure with
    | some e => .error e
    | none => .ok entries

end Listing

def Path.child (dir : Path) (name : FileName) : Path := dir.append ⟨name.bytes⟩

/-- The files in `levels` levels of directories from `dir` on that `keep` accepts. -/
def filesFrom (list : Path → Except AccessError Listing) (recursive : Bool) (keep : Path → Bool) :
    Nat → Path → Except ListingError (List Path)
  | 0, _ => .ok []
  | levels + 1, dir =>
    match list dir with
    | .error e => if e = .missing then .ok [] else .error ⟨dir, e⟩
    | .ok listing =>
      match listing.read with
      | .error e => .error ⟨dir, e⟩
      | .ok entries =>
        (entries.mapM fun ((name, isDirectory) : FileName × Bool) =>
          if isDirectory then
            if recursive then filesFrom list recursive keep levels (dir.child name) else .ok []
          else .ok (if keep (dir.child name) then [dir.child name] else [])).map List.flatten

namespace Storage

def depth (s : Storage) : Nat := s.places.foldl (fun n (l, _) => max n l.length) 0

def files (s : Storage) (dir : Path) (recursive : Bool) (keep : Path → Bool) :
    Except ListingError (List Path) :=
  filesFrom s.list recursive keep (s.depth + 1) dir

end Storage
end StaticContext
