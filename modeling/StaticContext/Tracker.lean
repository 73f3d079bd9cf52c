import StaticContext.Path.Basic

/-! Which directories the output of each file depends on. Files go by their components, so that a
file has one entry however it is spelled; the entry keeps the first spelling. -/

namespace StaticContext

/-- A file with the directories its output depends on. -/
abbrev Tracker.Entry := Path × List Path

/-- What an entry goes by. -/
def Tracker.Entry.key (e : Entry) : List Component := e.1.components

structure Tracker where
  /-- In the order in which the files were first recorded. -/
  entries : List Tracker.Entry
  distinct : (entries.map Tracker.Entry.key).Nodup
deriving DecidableEq, Repr

namespace Tracker

def empty : Tracker := ⟨[], List.nodup_nil⟩

instance : Inhabited Tracker := ⟨empty⟩

def size (t : Tracker) : Nat := t.entries.length

def isEmpty (t : Tracker) : Bool := t.entries.isEmpty

/-- Puts a file's directories in the place of those it had, or adds an entry. -/
def put (file : Path) (directories : List Path) : List Entry → List Entry
  | [] => [(file, directories)]
  | (f, ds) :: rest =>
    if f.same file then (f, directories) :: rest else (f, ds) :: put file directories rest

theorem keys_put (file : Path) (directories : List Path) (es : List Entry) :
    (put file directories es).map Entry.key =
      if file.components ∈ es.map Entry.key then es.map Entry.key
      else es.map Entry.key ++ [file.components] := by
  induction es with
  | nil => rfl
  | cons e rest ih =>
    obtain ⟨f, ds⟩ := e
    by_cases hf : f.components = file.components
    · simp [put, Path.same, Entry.key, hf]
    · have hf' : ¬ file.components = f.components := fun h => hf h.symm
      simp only [put, Path.same, hf, decide_false, Bool.false_eq_true, if_false, List.map_cons, ih,
        List.mem_cons, Entry.key, hf', false_or]
      split <;> rfl

theorem nodup_put {file : Path} {directories : List Path} {es : List Entry}
    (h : (es.map Entry.key).Nodup) : ((put file directories es).map Entry.key).Nodup := by
  rw [keys_put]
  split
  · exact h
  · next hn =>
    refine List.nodup_append.mpr ⟨h, by simp, ?_⟩
    intro k hk k' hk' he
    rw [List.mem_singleton.mp hk'] at he
    exact hn (he ▸ hk)

def record (t : Tracker) (file : Path) (directories : List Path) : Tracker :=
  ⟨put file directories t.entries, nodup_put t.distinct⟩

def directoriesFor (t : Tracker) (file : Path) : Option (List Path) :=
  (t.entries.find? (·.1.same file)).map (·.2)

def tracks (t : Tracker) (file : Path) : Bool := (t.directoriesFor file).isSome

def remove (t : Tracker) (file : Path) : Tracker :=
  ⟨t.entries.filter (!·.1.same file), t.distinct.sublist (List.filter_sublist.map _)⟩

/-- Files with a directory that contains `changed`, in component order. -/
def affectedBy (t : Tracker) (changed : Path) : List Path :=
  ((t.entries.filter (·.2.any changed.isWithin)).map (·.1)).mergeSort Path.le

end Tracker
end StaticContext
