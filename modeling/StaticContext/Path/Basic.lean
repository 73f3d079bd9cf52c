/-! Paths over arbitrary bytes, read as components. Two spellings of a path are the same place
exactly when their components agree: repeated slashes, a trailing slash and inner `.` segments
vanish, a leading `.` and every `..` stay. `ofComponents` writes a component list back in its
shortest spelling. -/

namespace StaticContext

/-- A path as it was written. -/
structure Path where
  bytes : List UInt8
deriving DecidableEq, Repr, Inhabited

namespace Component

def slash : UInt8 := 47

def dot : UInt8 := 46

end Component

namespace FileName

/-- What a directory can call an entry: text without separators that paths do not read otherwise. -/
def Legal (bytes : List UInt8) : Prop :=
  bytes ≠ [] ∧ bytes ≠ [Component.dot] ∧ bytes ≠ [Component.dot, Component.dot] ∧
    Component.slash ∉ bytes

instance (bytes : List UInt8) : Decidable (Legal bytes) :=
  inferInstanceAs (Decidable (_ ∧ _ ∧ _ ∧ _))

end FileName

/-- The name of an entry of a directory. -/
structure FileName where
  bytes : List UInt8
  legal : FileName.Legal bytes
deriving DecidableEq, Repr

def FileName.ofBytes? (bytes : List UInt8) : Option FileName :=
  if h : Legal bytes then some ⟨bytes, h⟩ else none

inductive Component where
  | root
  /-- A leading `.` of a relative path. -/
  | here
  | up
  | name (n : FileName)
deriving DecidableEq, Repr, Inhabited

namespace Component

/-- The text of a component, without separators. -/
def bytes : Component → List UInt8
  | root => []
  | here => [dot]
  | up => [dot, dot]
  | name n => n.bytes

/-- Sort key: root before `.` before `..` before names, names by bytes. -/
def key : Component → List Nat
  | root => [0]
  | here => [1]
  | up => [2]
  | name n => 3 :: n.bytes.map UInt8.toNat

/-- The component a segment between slashes stands for: none if it is empty or `.`. -/
def ofSegment (segment : List UInt8) : Option Component :=
  if segment = [dot] then none
  else if segment = [dot, dot] then some up
  else (FileName.ofBytes? segment).map name

end Component

namespace Path

def ofString (s : String) : Path := ⟨s.toUTF8.toList⟩

/-- The pieces between slashes; one more than there are slashes. -/
def segments : List UInt8 → List (List UInt8)
  | [] => [[]]
  | b :: rest =>
    if b = Component.slash then [] :: segments rest
    else match segments rest with
      | [] => [[b]]
      | s :: more => (b :: s) :: more

def isAbsolute (p : Path) : Bool := p.bytes.head? = some Component.slash

/-- The names and `..` of a text. -/
def inner (bytes : List UInt8) : List Component := (segments bytes).filterMap Component.ofSegment

/-- The root, or the `.` that opens a relative path: the only one that counts. -/
def opening (p : Path) : List Component :=
  if p.isAbsolute then [.root]
  else if (segments p.bytes).head? = some [Component.dot] then [.here]
  else []

def components (p : Path) : List Component := p.opening ++ inner p.bytes

/-- Component texts with single slashes between them. -/
def spell : List Component → List UInt8
  | [] => []
  | [c] => c.bytes
  | c :: rest => c.bytes ++ Component.slash :: spell rest

/-- The shortest spelling; a root can only come first. -/
def ofComponents : List Component → Path
  | .root :: rest => ⟨Component.slash :: spell rest⟩
  | cs => ⟨spell cs⟩

/-- Whether two spellings name the same place. -/
def same (p q : Path) : Bool := p.components = q.components

/-- Whether `dir` is `p` or one of its ancestors, by components. -/
def isWithin (p dir : Path) : Bool := dir.components.isPrefixOf p.components

def sortKey (p : Path) : List (List Nat) := p.components.map Component.key

/-- Component order. -/
def le (p q : Path) : Bool := !(decide (q.sortKey < p.sortKey))

/-- The path without its last component; empty if there is nothing to take away. -/
def parent (p : Path) : Path :=
  match p.components.reverse with
  | [] => ⟨[]⟩
  | .root :: _ => ⟨[]⟩
  | _ :: rest => ofComponents rest.reverse

def fileName? (p : Path) : Option (List UInt8) :=
  match p.components.getLast? with
  | some (.name n) => some n.bytes
  | _ => none

/-- What follows the last dot of the file name. A name whose only dot comes first has none. -/
def extension? (p : Path) : Option (List UInt8) :=
  match p.fileName? with
  | none => none
  | some bs =>
    let tail := bs.reverse.takeWhile (· != Component.dot)
    let stem := bs.reverse.drop (tail.length + 1)
    if tail.length = bs.length || stem.isEmpty then none else some tail.reverse

end Path

/-- A path that starts at the root. -/
structure AbsolutePath where
  path : Path
  isAbsolute : path.isAbsolute = true
deriving DecidableEq, Repr

def AbsolutePath.ofPath? (p : Path) : Option AbsolutePath :=
  if h : p.isAbsolute then some ⟨p, h⟩ else none

end StaticContext
