import StaticContext.Proofs.StorageWalk

/-! # How a walk may end

A walk visits its directory and, if it descends, every directory that one it visited lists, and it
may take the entries of a directory in any order. It ends with files or with the failure of a
directory; which directories fail and which are visited, listings alone say. A failure is always that
of a visited directory, and files are found only if no visited directory fails. -/

namespace StaticContext.Walk
open StaticContext.Path

section
variable (list : Path → Except AccessError Listing)

/-! ## Directories that are read and directories that fail -/

/-- No entry refuses its type, but for those that vanished. -/
def Told (entries : List (FileName × EntryType)) : Prop :=
  ∀ name e, (name, EntryType.unknown e) ∈ entries → e = .missing

/-- A directory at which a walk stops. -/
inductive Fails (dir : Path) : AccessError → Prop where
  /-- It does not open, though it is there. -/
  | opening {e : AccessError} (closed : list dir = .error e) (present : e ≠ .missing) : Fails dir e
  /-- An entry that is there does not tell its type. -/
  | typing {e : AccessError} {listing : Listing} {before after : List (FileName × EntryType)}
      {name : FileName} (opened : list dir = .ok listing)
      (split : listing.entries = before ++ (name, .unknown e) :: after) (told : Told before)
      (present : e ≠ .missing) : Fails dir e
  /-- Its entries break off, for whatever reason. -/
  | reading {e : AccessError} {listing : Listing} (opened : list dir = .ok listing)
      (told : Told listing.entries) (broken : listing.failure = some e) : Fails dir e

/-- An entry with whether it is a directory, unless it vanished. -/
def told? : FileName × EntryType → Option (FileName × Bool)
  | (_, .unknown _) => none
  | (name, .directory) => some (name, true)
  | (name, _) => some (name, false)

/-- What is left to do at a directory that does not fail; nothing if it is not there. -/
inductive Entries (dir : Path) : List (FileName × Bool) → Prop where
  | vanished (closed : list dir = .error .missing) : Entries dir []
  | read {listing : Listing} (opened : list dir = .ok listing) (told : Told listing.entries)
      (whole : listing.failure = none) : Entries dir (listing.entries.filterMap told?)

end

theorem Told.of_cons {e : FileName × EntryType} {rest : List (FileName × EntryType)}
    (h : Told (e :: rest)) : Told rest :=
  fun name error hm => h name error (List.mem_cons_of_mem _ hm)

theorem typed_of_told {entries : List (FileName × EntryType)} (h : Told entries) :
    Listing.typed entries = .ok (entries.filterMap told?) := by
  induction entries with
  | nil => rfl
  | cons e rest ih =>
    obtain ⟨name, type⟩ := e
    cases type with
    | file | directory | link => simp [Listing.typed, ih h.of_cons, told?, Except.map]
    | unknown error =>
      have hmissing : error = .missing := h name error (by simp)
      have hdropped : told? (name, .unknown error) = none := rfl
      rw [List.filterMap_cons_none hdropped, ← ih h.of_cons]
      simp [Listing.typed, hmissing]

theorem typed_of_refused {before after : List (FileName × EntryType)} {name : FileName}
    {e : AccessError} (h : Told before) (he : e ≠ .missing) :
    Listing.typed (before ++ (name, .unknown e) :: after) = .error e := by
  induction before with
  | nil => simp [Listing.typed, he]
  | cons entry rest ih =>
    obtain ⟨m, type⟩ := entry
    rw [List.cons_append]
    cases type with
    | file | directory | link => simp [Listing.typed, ih h.of_cons, Except.map]
    | unknown error =>
      have hmissing : error = .missing := h m error (by simp)
      simp [Listing.typed, ih h.of_cons, hmissing]

/-- The first entry that refuses its type, if there is one. -/
theorem told_or_refused (entries : List (FileName × EntryType)) :
    Told entries ∨ ∃ before name e after, entries = before ++ (name, .unknown e) :: after ∧
      Told before ∧ e ≠ .missing := by
  induction entries with
  | nil => exact .inl nofun
  | cons entry rest ih =>
    obtain ⟨m, type⟩ := entry
    by_cases hfirst : ∃ e, type = .unknown e ∧ e ≠ .missing
    · obtain ⟨e, rfl, he⟩ := hfirst
      exact .inr ⟨[], m, e, rest, rfl, nofun, he⟩
    · have hcons : ∀ {es}, Told es → Told ((m, type) :: es) := by
        intro es hes name e hm
        rcases List.mem_cons.mp hm with heq | hm
        · cases heq
          by_contra he
          exact hfirst ⟨e, rfl, he⟩
        · exact hes name e hm
      rcases ih with htold | ⟨before, name, e, after, rfl, htold, he⟩
      · exact .inl (hcons htold)
      · exact .inr ⟨(m, type) :: before, name, e, after, rfl, hcons htold, he⟩

section
variable {list : Path → Except AccessError Listing} {recursive : Bool} {keep : Path → Bool}

/-- A directory fails or is read. -/
theorem fails_or_entries (list : Path → Except AccessError Listing) (dir : Path) :
    (∃ e, Fails list dir e) ∨ ∃ es, Entries list dir es := by
  cases hl : list dir with
  | error e =>
    by_cases he : e = .missing
    · exact .inr ⟨[], .vanished (hl.trans (congrArg Except.error he))⟩
    · exact .inl ⟨e, .opening hl he⟩
  | ok listing =>
    rcases told_or_refused listing.entries with htold | ⟨_, _, e, _, hsplit, htold, he⟩
    · cases hf : listing.failure with
      | none => exact .inr ⟨_, .read hl htold hf⟩
      | some e => exact .inl ⟨e, .reading hl htold hf⟩
    · exact .inl ⟨e, .typing hl hsplit htold he⟩

theorem filesFrom_of_fails {dir : Path} {e : AccessError} (h : Fails list dir e) (levels : Nat) :
    filesFrom list recursive keep (levels + 1) dir = .error ⟨dir, e⟩ := by
  cases h with
  | opening closed present => simp [filesFrom, closed, present]
  | typing opened split told present =>
    simp [filesFrom, opened, Listing.read, split, typed_of_refused told present]
  | reading opened told broken =>
    simp [filesFrom, opened, Listing.read, typed_of_told told, broken]

/-- The files of one entry, those below it with `levels` levels. -/
def filesOf (list : Path → Except AccessError Listing) (recursive : Bool) (keep : Path → Bool)
    (levels : Nat) (dir : Path) (entry : FileName × Bool) : Except ListingError (List Path) :=
  if entry.2 then
    if recursive then filesFrom list recursive keep levels (dir.child entry.1) else .ok []
  else .ok (if keep (dir.child entry.1) then [dir.child entry.1] else [])

theorem filesFrom_of_entries {dir : Path} {es : List (FileName × Bool)} (h : Entries list dir es)
    (levels : Nat) : filesFrom list recursive keep (levels + 1) dir =
      (es.mapM (filesOf list recursive keep levels dir)).map List.flatten := by
  cases h with
  | vanished closed => simp [filesFrom, closed, pure, Except.pure, Except.map]
  | read opened told whole =>
    simp only [filesFrom, opened, Listing.read, typed_of_told told, whole]
    rfl

theorem Fails.unique {dir : Path} {e e' : AccessError} (h : Fails list dir e)
    (h' : Fails list dir e') : e = e' := by
  have he : filesFrom list false (fun _ => false) 1 dir = .error ⟨dir, e⟩ := filesFrom_of_fails h 0
  rw [filesFrom_of_fails h'] at he
  cases he
  rfl

theorem Entries.not_fails {dir : Path} {es : List (FileName × Bool)} (h : Entries list dir es) :
    ∀ e, ¬ Fails list dir e := by
  intro e hf
  cases h with
  | vanished closed =>
    cases hf with
    | opening closed' present => exact present (Except.error.inj (closed'.symm.trans closed))
    | typing opened | reading opened => rw [closed] at opened; cases opened
  | read opened told whole =>
    cases hf with
    | opening closed => rw [opened] at closed; cases closed
    | @typing _ _ _ name opened' split _ present =>
      cases opened.symm.trans opened'
      exact present (told name e (by simp [split]))
    | reading opened' _ broken =>
      cases opened.symm.trans opened'
      rw [whole] at broken
      cases broken

end

/-! ## What is there to be found -/

section
variable (list : Path → Except AccessError Listing) (recursive : Bool)

/-- Names that lead from a directory to one that a walk visits. -/
inductive Visits : Path → List FileName → Prop where
  | start (dir : Path) : Visits dir []
  | step {dir : Path} {listing : Listing} {name : FileName} {names : List FileName}
      (descends : recursive = true) (opened : list dir = .ok listing)
      (read : ∀ e, ¬ Fails list dir e) (entry : (name, .directory) ∈ listing.entries)
      (visits : Visits (dir.child name) names) : Visits dir (name :: names)

/-- A directory lists a file or a link, which is not followed. -/
def Holds (dir : Path) (name : FileName) : Prop :=
  ∃ listing type, list dir = .ok listing ∧ (name, type) ∈ listing.entries ∧
    (type = .file ∨ type = .link)

/-- Where two ways from `top` part, that to `p` takes the name that is listed first. -/
def Precedes (top p q : Path) : Prop :=
  ∃ names m n ms ns listing, list (top.descend names) = .ok listing ∧
    [m, n].Sublist (listing.entries.map Prod.fst) ∧
    p = top.descend (names ++ m :: ms) ∧ q = top.descend (names ++ n :: ns)

variable (keep : Path → Bool)

/-- A file that a visited directory holds and the filter accepts. -/
def Found (top p : Path) : Prop :=
  ∃ names name, Visits list recursive top names ∧ Holds list (top.descend names) name ∧
    p = top.descend (names ++ [name]) ∧ keep p = true

mutual

/-- What a walk may end with, whichever of its directories are done first: the files in the order of
the entries, or the failure of any one directory. -/
inductive Ends : Path → Except ListingError (List Path) → Prop where
  | failed {dir : Path} {e : AccessError} (fails : Fails list dir e) : Ends dir (.error ⟨dir, e⟩)
  | read {dir : Path} {es : List (FileName × Bool)} {r : Except ListingError (List Path)}
      (entries : Entries list dir es) (all : EndsAll dir es r) : Ends dir r

inductive EndsAll : Path → List (FileName × Bool) → Except ListingError (List Path) → Prop where
  | nil {dir : Path} : EndsAll dir [] (.ok [])
  | file {dir : Path} {name : FileName} {rest : List (FileName × Bool)}
      {r : Except ListingError (List Path)} (tail : EndsAll dir rest r) :
      EndsAll dir ((name, false) :: rest)
        (r.map ((if keep (dir.child name) then [dir.child name] else []) ++ ·))
  | skipped {dir : Path} {name : FileName} {rest : List (FileName × Bool)}
      {r : Except ListingError (List Path)} (stays : recursive = false)
      (tail : EndsAll dir rest r) : EndsAll dir ((name, true) :: rest) r
  | descended {dir : Path} {name : FileName} {rest : List (FileName × Bool)} {files : List Path}
      {r : Except ListingError (List Path)} (descends : recursive = true)
      (head : Ends (dir.child name) (.ok files)) (tail : EndsAll dir rest r) :
      EndsAll dir ((name, true) :: rest) (r.map (files ++ ·))
  | broken {dir : Path} {name : FileName} {rest : List (FileName × Bool)} {error : ListingError}
      (descends : recursive = true) (head : Ends (dir.child name) (.error error)) :
      EndsAll dir ((name, true) :: rest) (.error error)

end

end

section
variable {list : Path → Except AccessError Listing} {recursive : Bool} {keep : Path → Bool}

theorem told?_eq_some {entry : FileName × EntryType} {name : FileName} {isDirectory : Bool}
    (h : told? entry = some (name, isDirectory)) : entry.1 = name := by
  obtain ⟨m, type⟩ := entry
  cases type <;> cases h <;> rfl

theorem told?_eq_true {entry : FileName × EntryType} {name : FileName} :
    told? entry = some (name, true) ↔ entry = (name, .directory) := by
  obtain ⟨m, type⟩ := entry
  cases type <;> simp [told?]

theorem told?_eq_false {entry : FileName × EntryType} {name : FileName} :
    told? entry = some (name, false) ↔ entry = (name, .file) ∨ entry = (name, .link) := by
  obtain ⟨m, type⟩ := entry
  cases type <;> simp [told?]

namespace Entries

theorem holds_iff {dir : Path} {es : List (FileName × Bool)} (h : Entries list dir es)
    {name : FileName} : Holds list dir name ↔ (name, false) ∈ es := by
  unfold Holds
  cases h with
  | vanished closed => simp [closed]
  | read opened told whole =>
    simp only [opened, List.mem_filterMap, told?_eq_false]
    constructor
    · rintro ⟨_, type, heq, hm, rfl | rfl⟩
      · cases heq
        exact ⟨_, hm, .inl rfl⟩
      · cases heq
        exact ⟨_, hm, .inr rfl⟩
    · rintro ⟨entry, hm, rfl | rfl⟩
      · exact ⟨_, _, rfl, hm, .inl rfl⟩
      · exact ⟨_, _, rfl, hm, .inr rfl⟩

theorem visits_cons_iff {dir : Path} {es : List (FileName × Bool)} (h : Entries list dir es)
    {name : FileName} {names : List FileName} :
    Visits list recursive dir (name :: names) ↔
      recursive = true ∧ (name, true) ∈ es ∧ Visits list recursive (dir.child name) names := by
  constructor
  · intro hv
    cases hv with
    | step descends opened read entry visits =>
      refine ⟨descends, ?_, visits⟩
      cases h with
      | vanished closed => rw [closed] at opened; cases opened
      | read opened' told whole =>
        cases opened.symm.trans opened'
        exact List.mem_filterMap.mpr ⟨_, entry, told?_eq_true.mpr rfl⟩
  · rintro ⟨descends, hm, hv⟩
    have hread := h.not_fails
    cases h with
    | vanished closed => cases hm
    | read opened told whole =>
      obtain ⟨entry, hentry, hname⟩ := List.mem_filterMap.mp hm
      cases told?_eq_true.mp hname
      exact .step descends opened hread hentry hv

theorem listed {dir : Path} {es : List (FileName × Bool)} (h : Entries list dir es)
    (hne : es ≠ []) : ∃ listing, list dir = .ok listing ∧
      (es.map Prod.fst).Sublist (listing.entries.map Prod.fst) := by
  cases h with
  | vanished closed => exact absurd rfl hne
  | @read listing opened told whole =>
    exact ⟨listing, opened, Traversal.map_filterMap_sublist (fun _ _ he => (told?_eq_some he).symm) _⟩

end Entries

/-! ## Failures -/

mutual

/-- A failure is that of a visited directory. -/
theorem Ends.visits {dir : Path} {r : Except ListingError (List Path)} :
    Ends list recursive keep dir r → ∀ error, r = .error error →
      ∃ names e, Visits list recursive dir names ∧ Fails list (dir.descend names) e ∧
        error = ⟨dir.descend names, e⟩
  | .failed fails, error, herr => by
    cases herr
    exact ⟨[], _, .start dir, fails, rfl⟩
  | .read entries all, error, herr => by
    obtain ⟨name, names, e, descends, hm, hv, hf, rfl⟩ := all.visits error herr
    exact ⟨name :: names, e, entries.visits_cons_iff.mpr ⟨descends, hm, hv⟩, hf, rfl⟩

theorem EndsAll.visits {dir : Path} {es : List (FileName × Bool)}
    {r : Except ListingError (List Path)} :
    EndsAll list recursive keep dir es r → ∀ error, r = .error error →
      ∃ name names e, recursive = true ∧ (name, true) ∈ es ∧
        Visits list recursive (dir.child name) names ∧
        Fails list ((dir.child name).descend names) e ∧
        error = ⟨(dir.child name).descend names, e⟩
  | .nil, error, herr => by cases herr
  | .file tail, error, herr => by
    obtain ⟨name, names, e, descends, hm, rest⟩ :=
      tail.visits error (Traversal.eq_error_of_map herr)
    exact ⟨name, names, e, descends, List.mem_cons_of_mem _ hm, rest⟩
  | .skipped stays tail, error, herr => by
    obtain ⟨name, names, e, descends, _⟩ := tail.visits error herr
    rw [stays] at descends
    cases descends
  | .descended descends head tail, error, herr => by
    obtain ⟨name, names, e, _, hm, rest⟩ := tail.visits error (Traversal.eq_error_of_map herr)
    exact ⟨name, names, e, descends, List.mem_cons_of_mem _ hm, rest⟩
  | @EndsAll.broken _ _ _ _ name _ _ descends head, error, herr => by
    obtain ⟨names, e, rest⟩ := head.visits error herr
    exact ⟨name, names, e, descends, List.mem_cons_self, rest⟩

end

mutual

/-- No directory that a walk with files visited has failed. -/
theorem Ends.not_fails {dir : Path} {r : Except ListingError (List Path)} :
    Ends list recursive keep dir r → ∀ files, r = .ok files →
      ∀ names, Visits list recursive dir names → ∀ e, ¬ Fails list (dir.descend names) e
  | .failed fails, files, hok => by cases hok
  | .read entries all, files, hok => by
    intro names hv
    cases names with
    | nil => exact entries.not_fails
    | cons name names =>
      obtain ⟨descends, hm, hv⟩ := entries.visits_cons_iff.mp hv
      exact all.not_fails files hok name names descends hm hv

theorem EndsAll.not_fails {dir : Path} {es : List (FileName × Bool)}
    {r : Except ListingError (List Path)} :
    EndsAll list recursive keep dir es r → ∀ files, r = .ok files →
      ∀ name names, recursive = true → (name, true) ∈ es →
        Visits list recursive (dir.child name) names →
        ∀ e, ¬ Fails list ((dir.child name).descend names) e
  | .nil, files, hok => nofun
  | .file tail, files, hok => by
    intro name names descends hm
    obtain ⟨rest, hrest, _⟩ := Traversal.eq_ok_of_map hok
    cases hm with
    | tail _ hm => exact tail.not_fails rest hrest name names descends hm
  | .skipped stays tail, files, hok => by
    intro name names descends
    rw [stays] at descends
    cases descends
  | .descended descends head tail, files, hok => by
    intro name names descends hm hv
    obtain ⟨rest, hrest, _⟩ := Traversal.eq_ok_of_map hok
    cases hm with
    | head => exact head.not_fails _ rfl names hv
    | tail _ hm => exact tail.not_fails rest hrest name names descends hm hv
  | .broken descends head, files, hok => by cases hok

end

end
end StaticContext.Walk
