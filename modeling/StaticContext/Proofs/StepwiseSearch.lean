import Mathlib.Algebra.Order.BigOperators.Group.List
import StaticContext.Proofs.ContextDirectories
import StaticContext.Proofs.Enumeration

/-! # Searches, one directory at a time

A search lists its directories in any order and puts what a directory holds in its place. However it
goes on, the files it is going to end with stay those of the walk, no directory becomes due that the
walk does not visit, and with each listing less is left to do. -/

namespace StaticContext
open StaticContext.Path

namespace Walk

/-! ## What a directory is replaced by -/

/-- A place in the answer of a search. -/
inductive Item where
  | found (file : Path)
  /-- A directory that is not listed yet. -/
  | due (dir : Path)

def Item.file? : Item → Option Path
  | .found file => some file
  | .due _ => none

section
variable (recursive : Bool) (keep : Path → Bool)

def itemsOf (dir : Path) (entry : FileName × Bool) : List Item :=
  if entry.2 then if recursive then [.due (dir.child entry.1)] else []
  else if keep (dir.child entry.1) then [.found (dir.child entry.1)] else []

/-- Some directory that is due is listed. -/
inductive Lists (list : Path → Except AccessError Listing) : List Item → List Item → Prop where
  | intro {before after : List Item} {dir : Path} {es : List (FileName × Bool)}
      (entries : Entries list dir es) :
      Lists list (before ++ .due dir :: after)
        (before ++ es.flatMap (itemsOf recursive keep dir) ++ after)

/-- The files that an item is going to be replaced by. -/
def Item.files (s : Storage) : Item → Except ListingError (List Path)
  | .found file => .ok [file]
  | .due dir => s.files dir recursive keep

def filesOn (s : Storage) (items : List Item) : Except ListingError (List Path) :=
  (items.mapM (Item.files recursive keep s)).map List.flatten

end

section
variable {recursive : Bool} {keep : Path → Bool} {s : Storage}

theorem filesOn_cons (item : Item) (items : List Item) :
    filesOn recursive keep s (item :: items) = (item.files recursive keep s).bind fun files =>
      (filesOn recursive keep s items).map (files ++ ·) := by
  rw [filesOn, filesOn, List.mapM_cons]
  cases item.files recursive keep s with
  | error e => rfl
  | ok files => cases items.mapM (Item.files recursive keep s) <;> rfl

theorem filesOn_append (items items' : List Item) :
    filesOn recursive keep s (items ++ items') = (filesOn recursive keep s items).bind fun files =>
      (filesOn recursive keep s items').map (files ++ ·) := by
  induction items with
  | nil =>
    have hsame : ∀ r : Except ListingError (List Path), r.map ([] ++ ·) = r := by
      intro r
      cases r <;> rfl
    exact (hsame _).symm
  | cons item rest ih =>
    rw [List.cons_append, filesOn_cons, filesOn_cons, ih]
    cases item.files recursive keep s with
    | error e => rfl
    | ok files =>
      cases filesOn recursive keep s rest with
      | error e => rfl
      | ok files' =>
        cases filesOn recursive keep s items' with
        | error e => rfl
        | ok files'' => exact congrArg Except.ok (List.append_assoc ..).symm

/-- A directory has the files of what it lists. -/
theorem files_of_entries {dir : Path} {es : List (FileName × Bool)} (h : Entries s.list dir es) :
    s.files dir recursive keep = filesOn recursive keep s (es.flatMap (itemsOf recursive keep dir)) := by
  have hunfold : s.files dir recursive keep =
      (es.mapM (filesOf s.list recursive keep s.depth dir)).map List.flatten :=
    filesFrom_of_entries h s.depth
  -- a listed directory is a place, so one level less suffices for it
  have hbelow : ∀ name, (name, true) ∈ es → s.files (dir.child name) recursive keep =
      filesFrom s.list recursive keep s.depth (dir.child name) := by
    intro name hm
    obtain ⟨l, hl, hplace⟩ := h.directory hm
    have hchild := Storage.length_le_depth hplace
    rw [List.length_append, List.length_singleton] at hchild
    apply Storage.filesFrom_stable (by omega) (by omega)
    intro l' hl'
    rw [Storage.reach_child hl hplace hl', List.length_append, List.length_singleton]
    omega
  rw [hunfold]
  clear hunfold h
  induction es with
  | nil => rfl
  | cons entry rest ih =>
    have hrest := ih fun name hm => hbelow name (List.mem_cons_of_mem _ hm)
    have hentry : filesOf s.list recursive keep s.depth dir entry =
        filesOn recursive keep s (itemsOf recursive keep dir entry) := by
      obtain ⟨name, isDirectory⟩ := entry
      cases isDirectory with
      | false =>
        simp only [filesOf, itemsOf, Bool.false_eq_true, if_false]
        split <;> rfl
      | true =>
        cases recursive with
        | false => rfl
        | true =>
          simp only [filesOf, itemsOf, if_true]
          rw [← hbelow name List.mem_cons_self, filesOn_cons]
          cases hr : s.files (dir.child name) true keep with
          | error e => simp [Item.files, hr, Except.bind]
          | ok files => simp [Item.files, hr, Except.bind, filesOn, Except.map, pure, Except.pure]
    rw [List.flatMap_cons, filesOn_append, ← hrest, ← hentry, List.mapM_cons]
    cases filesOf s.list recursive keep s.depth dir entry with
    | error e => rfl
    | ok files => cases rest.mapM (filesOf s.list recursive keep s.depth dir) <;> rfl

/-- A listing changes nothing about how the search is going to end. -/
theorem Lists.filesOn_eq {items items' : List Item}
    (h : Lists recursive keep s.list items items') :
    filesOn recursive keep s items' = filesOn recursive keep s items := by
  cases h with
  | @intro before after dir es entries =>
    rw [List.append_assoc, filesOn_append, filesOn_append, filesOn_append, filesOn_cons,
      ← files_of_entries entries]
    rfl

/-- Without a directory that is due, the search has ended. -/
theorem filesOn_of_found {items : List Item} (h : ∀ dir, .due dir ∉ items) :
    filesOn recursive keep s items = .ok (items.filterMap Item.file?) := by
  induction items with
  | nil => rfl
  | cons item rest ih =>
    rw [filesOn_cons, ih fun dir hm => h dir (List.mem_cons_of_mem _ hm)]
    cases item with
    | found file => rfl
    | due dir => exact absurd List.mem_cons_self (h dir)

/-! ## Which directories become due -/

/-- A directory that the search is going to visit. -/
def WillVisit (list : Path → Except AccessError Listing) (recursive : Bool) (items : List Item)
    (dir : Path) : Prop :=
  ∃ top names, .due top ∈ items ∧ Visits list recursive top names ∧ dir = top.descend names

theorem Lists.willVisit {list : Path → Except AccessError Listing} {items items' : List Item}
    (h : Lists recursive keep list items items') {dir : Path}
    (hv : WillVisit list recursive items' dir) : WillVisit list recursive items dir := by
  cases h with
  | @intro before after top es entries =>
    obtain ⟨dir', names, hm, hv, rfl⟩ := hv
    rw [List.mem_append, List.mem_append] at hm
    rcases hm with (hm | hm) | hm
    · exact ⟨dir', names, List.mem_append_left _ hm, hv, rfl⟩
    · obtain ⟨⟨name, isDirectory⟩, hentry, hitem⟩ := List.mem_flatMap.mp hm
      obtain ⟨rfl, rfl, rfl⟩ : isDirectory = true ∧ recursive = true ∧ dir' = top.child name := by
        cases isDirectory <;> cases recursive <;> simp [itemsOf] at hitem ⊢
        exact hitem
      exact ⟨top, name :: names, by simp, entries.visits_cons_iff.mpr ⟨rfl, hentry, hv⟩, rfl⟩
    · exact ⟨dir', names, List.mem_append_right _ (List.mem_cons_of_mem _ hm), hv, rfl⟩

/-- A search that is going to fail fails in a directory it visits. -/
theorem filesOn_error {items : List Item} {error : ListingError}
    (h : filesOn recursive keep s items = .error error) :
    ∃ dir e, WillVisit s.list recursive items dir ∧ Fails s.list dir e ∧ error = ⟨dir, e⟩ := by
  obtain ⟨item, hm, hitem⟩ := Traversal.exists_of_mapM_error (Traversal.eq_error_of_map h)
  cases item with
  | found file => cases hitem
  | due top =>
    have hends := ends_files s top recursive keep
    obtain ⟨names, e, hv, hf, rfl⟩ := hends.visits error hitem
    exact ⟨_, e, ⟨top, names, hm, hv, rfl⟩, hf, rfl⟩

/-- One that is going to find files visits no directory that fails. -/
theorem not_fails_of_filesOn {items : List Item} {files : List Path}
    (h : filesOn recursive keep s items = .ok files) {dir : Path}
    (hv : WillVisit s.list recursive items dir) (e : AccessError) : ¬ Fails s.list dir e := by
  obtain ⟨top, names, hm, hv, rfl⟩ := hv
  obtain ⟨answers, hanswers, _⟩ := Traversal.eq_ok_of_map h
  obtain ⟨below, hbelow⟩ := Traversal.ok_of_mapM hanswers hm
  exact (ends_files s top recursive keep).not_fails below hbelow names hv e

end

/-! ## How much is left to do -/

/-- How many levels of a storage lie below a directory, with that of the directory. -/
def height (s : Storage) (dir : Path) : Nat :=
  match s.reach dir with
  | .ok l => s.depth + 1 - l.length
  | .error _ => 0

/-- No directory has more entries than the storage has places. -/
def Item.work (s : Storage) : Item → Nat
  | .found _ => 0
  | .due dir => (s.places.length + 1) ^ height s dir

def workOn (s : Storage) : List Item → Nat
  | [] => 0
  | item :: rest => item.work s + workOn s rest

section
variable {recursive : Bool} {keep : Path → Bool} {s : Storage}

@[simp] theorem workOn_append (items items' : List Item) :
    workOn s (items ++ items') = workOn s items + workOn s items' := by
  induction items with
  | nil => exact (Nat.zero_add _).symm
  | cons item rest ih => rw [List.cons_append, workOn, workOn, ih, Nat.add_assoc]

theorem length_entries_le {dir : Path} {es : List (FileName × Bool)} (h : Entries s.list dir es) :
    es.length ≤ s.places.length := by
  by_cases hes : es = []
  · simp [hes]
  · obtain ⟨listing, hlist, hnames⟩ := h.listed hes
    obtain ⟨l, _, hchildren⟩ := Storage.list_ok hlist
    have hn := hnames.length_le
    have hc := hchildren.length_le
    have hp := (Storage.childrenOf_sublist s l).length_le
    simp only [List.length_map] at hn hc hp
    omega

/-- A listed directory lies deeper. -/
theorem height_child {dir : Path} {es : List (FileName × Bool)} (h : Entries s.list dir es)
    {name : FileName} (hm : (name, true) ∈ es) : height s (dir.child name) < height s dir := by
  obtain ⟨l, hl, hplace⟩ := h.directory hm
  have hchild := Storage.length_le_depth hplace
  have hdir : height s dir = s.depth + 1 - l.length := by rw [height, hl]
  rw [List.length_append, List.length_singleton] at hchild
  rw [hdir, height]
  cases hl' : s.reach (dir.child name) with
  | error e => simp only; omega
  | ok l' =>
    rw [Storage.reach_child hl hplace hl']
    simp only [List.length_append, List.length_singleton]
    omega

theorem work_itemsOf {dir : Path} {es : List (FileName × Bool)} (h : Entries s.list dir es)
    {entry : FileName × Bool} (hm : entry ∈ es) :
    workOn s (itemsOf recursive keep dir entry) ≤ (s.places.length + 1) ^ (height s dir - 1) := by
  obtain ⟨name, isDirectory⟩ := entry
  cases isDirectory with
  | false => cases hkeep : keep (dir.child name) <;> simp [itemsOf, hkeep, workOn, Item.work]
  | true =>
    have hlt := height_child h hm
    cases recursive with
    | false => simp [itemsOf, workOn]
    | true =>
      simp only [itemsOf, if_true, workOn, Item.work, Nat.add_zero]
      exact Nat.pow_le_pow_right (by omega) (by omega)

theorem height_pos {dir : Path} {es : List (FileName × Bool)} (h : Entries s.list dir es)
    (hes : es ≠ []) : 0 < height s dir := by
  obtain ⟨listing, hlist, hnames⟩ := h.listed hes
  obtain ⟨l, hl, hplaces⟩ := Storage.mem_of_list hlist
  obtain ⟨entry, hentry⟩ := List.exists_mem_of_ne_nil es hes
  obtain ⟨e, he, -⟩ := List.mem_map.mp (hnames.subset (List.mem_map_of_mem hentry))
  obtain ⟨place, hplace, -⟩ := hplaces e he
  have hdepth := Storage.length_le_depth hplace
  rw [List.length_append, List.length_singleton] at hdepth
  rw [height, hl]
  simp only
  omega

/-- What a directory holds is less to do than the directory. -/
theorem work_entries {dir : Path} {es : List (FileName × Bool)} (h : Entries s.list dir es) :
    workOn s (es.flatMap (itemsOf recursive keep dir)) < (Item.due dir).work s := by
  have hsum : ∀ entries : List (FileName × Bool), (∀ entry ∈ entries, entry ∈ es) →
      workOn s (entries.flatMap (itemsOf recursive keep dir)) ≤
        entries.length * (s.places.length + 1) ^ (height s dir - 1) := by
    intro entries
    induction entries with
    | nil => intro _; simp [workOn]
    | cons entry rest ih =>
      intro hes
      have hfirst : workOn s (itemsOf recursive keep dir entry) ≤ _ :=
        work_itemsOf h (hes entry List.mem_cons_self)
      have hrest := ih fun entry hm => hes entry (List.mem_cons_of_mem _ hm)
      rw [List.flatMap_cons, workOn_append, List.length_cons, Nat.add_mul, Nat.one_mul]
      omega
  by_cases hes : es = []
  · rw [hes]
    exact Nat.pow_pos (Nat.succ_pos _)
  · have hpos := height_pos h hes
    have hlen := length_entries_le h
    obtain ⟨n, hn⟩ := Nat.exists_eq_add_one_of_ne_zero (Nat.ne_of_gt hpos)
    refine (hsum _ fun _ hm => hm).trans_lt ?_
    rw [Item.work, hn, Nat.pow_succ, Nat.add_sub_cancel, Nat.mul_comm]
    exact (Nat.mul_lt_mul_left (Nat.pow_pos (Nat.succ_pos _))).mpr (by omega)

theorem Lists.work_lt {items items' : List Item} (h : Lists recursive keep s.list items items') :
    workOn s items' < workOn s items := by
  cases h with
  | @intro _ _ dir es entries =>
    have hlt : workOn s (es.flatMap (itemsOf recursive keep dir)) < (Item.due dir).work s :=
      work_entries entries
    simp only [workOn_append, workOn]
    omega

end

end Walk
end StaticContext
