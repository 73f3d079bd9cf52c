import StaticContext.Storage.Basic

/-! Changes to a storage. A place that exists keeps its turn when it is written again; one that was
removed comes last when it is created anew. Directories above a written place are made as needed,
also in the place of something else. -/

namespace StaticContext.Storage

/-- Where a change applies: `.` and `..` collapse, a relative path starts at the working directory. -/
def target (s : Storage) (p : Path) : Location :=
  .ofPath ((p.absolute? s.workingDirectory).getD p)

theorem notMem_of_lookup {s : Storage} {l : Location} (h : ¬ (s.places.lookup l).isSome) :
    l ∉ s.places.map Prod.fst := by
  intro hm
  obtain ⟨e, he, rfl⟩ := List.mem_map.mp hm
  rw [Option.not_isSome_iff_eq_none, List.lookup_eq_none_iff] at h
  simpa using h e he

/-- Replaces a place in its turn or appends it. -/
def setPlace (s : Storage) (l : Location) (place : Place) : Storage :=
  if h : (s.places.lookup l).isSome then
    { s with
      places := s.places.map fun (m, old) => (m, if m = l then place else old)
      distinct := by
        rw [List.map_map]
        exact s.distinct }
  else
    { s with
      places := s.places ++ [(l, place)]
      distinct := by
        rw [List.map_append, List.nodup_append]
        refine ⟨s.distinct, by simp, ?_⟩
        intro m hm m' hm' he
        cases List.mem_singleton.mp hm'
        cases he
        exact notMem_of_lookup h hm }

def dropBelow (s : Storage) (l : Location) : Storage :=
  { s with
    places := s.places.filter fun (m, _) => m = l || !m.isWithin l
    distinct := s.distinct.sublist (List.filter_sublist.map _) }

/-- A directory that exists stays as it is. -/
def makeDirectory (s : Storage) (l : Location) : Storage :=
  if s.placeAt l = some .directory then s else s.setPlace l .directory

/-- The root is always a directory. -/
def putAt (s : Storage) (l : Location) (place : Place) : Storage :=
  if l = [] then s
  else
    let s := l.ancestors.foldl makeDirectory s
    if place = .directory then s.makeDirectory l else (s.dropBelow l).setPlace l place

def put (s : Storage) (p : Path) (place : Place) : Storage := s.putAt (s.target p) place

def clearObstacle (s : Storage) (p : Path) : Storage :=
  { s with obstacles := s.obstacles.filter fun (m, _) => m ≠ s.target p }

def obstruct (s : Storage) (p : Path) (o : Obstacle) : Storage :=
  { s with obstacles := (s.target p, o) :: (s.clearObstacle p).obstacles }

/-- Whether something other than the root is there. -/
def holds (s : Storage) (p : Path) : Bool := (s.places.lookup (s.target p)).isSome

/-- Removes what `holds` tells of, all below it and their obstacles. -/
def remove (s : Storage) (p : Path) : Storage :=
  let kept (m : Location) : Bool := !m.isWithin (s.target p)
  if s.holds p then
    { s with
      places := s.places.filter fun (m, _) => kept m
      distinct := s.distinct.sublist (List.filter_sublist.map _)
      obstacles := s.obstacles.filter fun (m, _) => kept m }
  else s

/-- A change to a storage. -/
inductive Change where
  | put (path : Path) (place : Place)
  | obstruct (path : Path) (obstacle : Obstacle)
  | clearObstacle (path : Path)
  | remove (path : Path)
  /-- A relative path is none. -/
  | setWorkingDirectory (path : Option Path)
deriving Repr, Inhabited

def apply (s : Storage) : Change → Storage
  | .put path place => s.put path place
  | .obstruct path obstacle => s.obstruct path obstacle
  | .clearObstacle path => s.clearObstacle path
  | .remove path => s.remove path
  | .setWorkingDirectory path => { s with workingDirectory := path.bind AbsolutePath.ofPath? }

end StaticContext.Storage
