import Mathlib.Data.List.Nodup
import Mathlib.Data.List.Perm.Basic
import StaticContext.Context.Resolve
import StaticContext.Proofs.WalkOutcomes
import StaticContext.Storage.Edit

/-! # The files that a walk finds

A walk that no visited directory stops finds the files and links that these list and its filter
accepts, each once. The first name at which two of them part tells their order, for a directory lists
no name twice; so all walks from one directory end alike, whatever they visit first. -/

namespace StaticContext.Walk
open StaticContext.Path

section
variable {list : Path → Except AccessError Listing} {recursive : Bool} {keep : Path → Bool}

/-! ## Files -/

/-- A file that an entry stands for or that is found below it. -/
def FoundIn (list : Path → Except AccessError Listing) (recursive : Bool) (keep : Path → Bool)
    (dir : Path) (entry : FileName × Bool) (p : Path) : Prop :=
  if entry.2 then recursive = true ∧ Found list recursive keep (dir.child entry.1) p
  else p = dir.child entry.1 ∧ keep p = true

theorem Entries.found_iff {dir p : Path} {es : List (FileName × Bool)}
    (h : Entries list dir es) :
    Found list recursive keep dir p ↔ ∃ entry ∈ es, FoundIn list recursive keep dir entry p := by
  constructor
  · rintro ⟨names, name, hv, hholds, rfl, hk⟩
    cases names with
    | nil => exact ⟨(name, false), h.holds_iff.mp hholds, rfl, hk⟩
    | cons first names =>
      obtain ⟨descends, hm, hv⟩ := h.visits_cons_iff.mp hv
      exact ⟨(first, true), hm, descends, names, name, hv, hholds, rfl, hk⟩
  · rintro ⟨⟨name, isDirectory⟩, hm, hfound⟩
    cases isDirectory with
    | false =>
      obtain ⟨rfl, hk⟩ := hfound
      exact ⟨[], name, .start dir, h.holds_iff.mpr hm, rfl, hk⟩
    | true =>
      obtain ⟨descends, names, last, hv, hholds, rfl, hk⟩ := hfound
      exact ⟨name :: names, last, h.visits_cons_iff.mpr ⟨descends, hm, hv⟩, hholds, rfl, hk⟩

mutual

theorem Ends.mem_iff {dir : Path} {r : Except ListingError (List Path)} :
    Ends list recursive keep dir r → ∀ files, r = .ok files →
      ∀ p, p ∈ files ↔ Found list recursive keep dir p
  | .failed fails, files, hok => by cases hok
  | .read entries all, files, hok => by
    intro p
    rw [entries.found_iff]
    exact all.mem_iff files hok p

theorem EndsAll.mem_iff {dir : Path} {es : List (FileName × Bool)}
    {r : Except ListingError (List Path)} :
    EndsAll list recursive keep dir es r → ∀ files, r = .ok files →
      ∀ p, p ∈ files ↔ ∃ entry ∈ es, FoundIn list recursive keep dir entry p
  | .nil, files, hok => by
    cases hok
    simp
  | @EndsAll.file _ _ _ _ name _ _ tail, files, hok => by
    obtain ⟨rest, hrest, rfl⟩ := Traversal.eq_ok_of_map hok
    intro p
    have hhead : p ∈ (if keep (dir.child name) then [dir.child name] else []) ↔
        FoundIn list recursive keep dir (name, false) p := by
      by_cases hk : keep (dir.child name) = true
      · simp only [hk, if_true, List.mem_singleton, FoundIn, Bool.false_eq_true, if_false]
        exact ⟨fun hp => ⟨hp, hp ▸ hk⟩, fun hp => hp.1⟩
      · simp only [hk, if_false, List.not_mem_nil, FoundIn, Bool.false_eq_true, false_iff, not_and]
        rintro rfl
        exact hk
    rw [List.mem_append, hhead, tail.mem_iff rest hrest p, List.exists_mem_cons_iff]
  | @EndsAll.skipped _ _ _ _ name _ _ stays tail, files, hok => by
    intro p
    have hhead : ¬ FoundIn list recursive keep dir (name, true) p := by
      rintro ⟨descends, _⟩
      rw [stays] at descends
      cases descends
    rw [tail.mem_iff files hok p, List.exists_mem_cons_iff, or_iff_right hhead]
  | @EndsAll.descended _ _ _ _ name _ _ _ descends head tail, files, hok => by
    obtain ⟨rest, hrest, rfl⟩ := Traversal.eq_ok_of_map hok
    intro p
    have hhead : FoundIn list recursive keep dir (name, true) p ↔
        Found list recursive keep (dir.child name) p := and_iff_right descends
    rw [List.mem_append, head.mem_iff _ rfl p, tail.mem_iff rest hrest p,
      List.exists_mem_cons_iff, hhead]
  | .broken descends head, files, hok => by cases hok

end

/-! ## Order -/

theorem FoundIn.descend {dir p : Path} {entry : FileName × Bool}
    (h : FoundIn list recursive keep dir entry p) : ∃ names, p = dir.descend (entry.1 :: names) := by
  obtain ⟨name, isDirectory⟩ := entry
  cases isDirectory with
  | false => exact ⟨[], h.1⟩
  | true =>
    obtain ⟨_, names, last, _, _, rfl, _⟩ := h
    exact ⟨names ++ [last], rfl⟩

theorem Precedes.of_child {top p q : Path} {name : FileName}
    (h : Precedes list (top.child name) p q) : Precedes list top p q := by
  obtain ⟨names, m, n, ms, ns, listing, hl, hs, hp, hq⟩ := h
  exact ⟨name :: names, m, n, ms, ns, listing, hl, hs, hp, hq⟩

/-- What one entry holds comes before what a later entry holds. -/
theorem pairwise_append {dir : Path} {name : FileName} {isDirectory : Bool}
    {rest : List (FileName × Bool)} {listing : Listing} {head tail : List Path}
    (hl : list dir = .ok listing)
    (hs : (((name, isDirectory) :: rest).map Prod.fst).Sublist (listing.entries.map Prod.fst))
    (hhead : head.Pairwise (Precedes list dir)) (htail : tail.Pairwise (Precedes list dir))
    (hh : ∀ p ∈ head, FoundIn list recursive keep dir (name, isDirectory) p)
    (ht : ∀ p ∈ tail, ∃ entry ∈ rest, FoundIn list recursive keep dir entry p) :
    (head ++ tail).Pairwise (Precedes list dir) := by
  refine List.pairwise_append.mpr ⟨hhead, htail, ?_⟩
  intro p hp q hq
  obtain ⟨ms, rfl⟩ := (hh p hp).descend
  obtain ⟨entry, hm, hfound⟩ := ht q hq
  obtain ⟨ns, rfl⟩ := hfound.descend
  have hpair : [name, entry.1].Sublist (((name, isDirectory) :: rest).map Prod.fst) :=
    (List.singleton_sublist.mpr (List.mem_map_of_mem hm)).cons_cons name
  exact ⟨[], name, entry.1, ms, ns, listing, hl, hpair.trans hs, rfl, rfl⟩

mutual

theorem Ends.pairwise {dir : Path} {r : Except ListingError (List Path)} :
    Ends list recursive keep dir r → ∀ files, r = .ok files →
      files.Pairwise (Precedes list dir)
  | .failed fails, files, hok => by cases hok
  | @Ends.read _ _ _ _ es _ entries all, files, hok => by
    by_cases hes : es = []
    · have hnone : ∀ p, p ∉ files := by
        intro p hp
        obtain ⟨entry, hm, _⟩ := (all.mem_iff files hok p).mp hp
        rw [hes] at hm
        cases hm
      rw [List.eq_nil_iff_forall_not_mem.mpr hnone]
      exact .nil
    · obtain ⟨listing, hl, hs⟩ := entries.listed hes
      exact all.pairwise files hok listing hl hs

theorem EndsAll.pairwise {dir : Path} {es : List (FileName × Bool)}
    {r : Except ListingError (List Path)} :
    EndsAll list recursive keep dir es r → ∀ files, r = .ok files →
      ∀ listing, list dir = .ok listing →
        (es.map Prod.fst).Sublist (listing.entries.map Prod.fst) →
        files.Pairwise (Precedes list dir)
  | .nil, files, hok => by
    cases hok
    exact fun _ _ _ => .nil
  | @EndsAll.file _ _ _ _ name _ _ tail, files, hok => by
    intro listing hl hs
    obtain ⟨rest, hrest, rfl⟩ := Traversal.eq_ok_of_map hok
    have htail := tail.pairwise rest hrest listing hl ((List.sublist_cons_self _ _).trans hs)
    refine pairwise_append hl hs ?_ htail ?_ fun p hp => (tail.mem_iff rest hrest p).mp hp
    · split
      · exact List.pairwise_singleton _ _
      · exact .nil
    · intro p hp
      split at hp
      · next hk =>
        cases List.mem_singleton.mp hp
        exact ⟨rfl, hk⟩
      · cases hp
  | .skipped stays tail, files, hok => fun listing hl hs =>
    tail.pairwise files hok listing hl ((List.sublist_cons_self _ _).trans hs)
  | .descended descends head tail, files, hok => by
    intro listing hl hs
    obtain ⟨rest, hrest, rfl⟩ := Traversal.eq_ok_of_map hok
    have htail := tail.pairwise rest hrest listing hl ((List.sublist_cons_self _ _).trans hs)
    refine pairwise_append hl hs ((head.pairwise _ rfl).imp Precedes.of_child) htail ?_
      fun p hp => (tail.mem_iff rest hrest p).mp hp
    intro p hp
    exact ⟨descends, (head.mem_iff _ rfl p).mp hp⟩
  | .broken descends head, files, hok => by cases hok

end

theorem descend_inj {dir : Path} {ms ns : List FileName}
    (h : dir.descend ms = dir.descend ns) : ms = ns := by
  have hc := congrArg components h
  rw [components_descend, components_descend] at hc
  exact named_injective (List.append_cancel_left hc)

theorem ne_of_sublist_pair {α : Type} {a b : α} {l : List α} (h : [a, b].Sublist l)
    (hl : l.Nodup) : a ≠ b := by
  rintro rfl
  simpa using hl.sublist h

/-- Two members of a list without repetitions stand in one order. -/
theorem not_sublist_swap {α : Type} {a b : α} {l : List α} (hl : l.Nodup)
    (h : [a, b].Sublist l) : ¬ [b, a].Sublist l := by
  induction l with
  | nil => cases h
  | cons c rest ih =>
    obtain ⟨hc, hrest⟩ := List.nodup_cons.mp hl
    intro h'
    cases h with
    | cons _ h =>
      cases h' with
      | cons _ h' => exact ih hrest h h'
      | cons_cons _ h' => exact hc (h.subset (by simp))
    | cons_cons _ h =>
      cases h' with
      | cons _ h' => exact hc (h'.subset (by simp))
      | cons_cons _ h' => exact hc (h.subset (by simp))

/-- Where every member comes before those behind it, the order tells the places. -/
theorem pair_sublist_iff {α : Type} {R : α → α → Prop} {l : List α} (hl : l.Pairwise R)
    (hR : ∀ a b, R a b → ¬ R b a) {a b : α} : [a, b].Sublist l ↔ a ∈ l ∧ b ∈ l ∧ R a b := by
  constructor
  · intro h
    exact ⟨h.subset (by simp), h.subset (by simp), List.rel_of_pairwise_cons (hl.sublist h) (by simp)⟩
  · rintro ⟨ha, hb, hab⟩
    induction l with
    | nil => cases ha
    | cons c rest ih =>
      obtain ⟨hc, hrest⟩ := List.pairwise_cons.mp hl
      rcases List.mem_cons.mp ha with rfl | ha'
      · rcases List.mem_cons.mp hb with rfl | hb'
        · exact absurd hab (hR _ _ hab)
        · exact (List.singleton_sublist.mpr hb').cons_cons a
      · rcases List.mem_cons.mp hb with rfl | hb'
        · exact absurd (hc a ha') (hR _ _ hab)
        · exact (ih hrest ha' hb').cons c

/-- Two ways part at one place only. -/
theorem eq_of_append_cons {α : Type} {front front' : List α} {a a' b b' : α}
    {as as' bs bs' : List α} (hab : a ≠ b) (hab' : a' ≠ b')
    (ha : front ++ a :: as = front' ++ b' :: bs') (hb : front ++ b :: bs = front' ++ a' :: as') :
    front = front' ∧ a = b' ∧ b = a' := by
  induction front generalizing front' with
  | nil =>
    cases front' with
    | nil => exact ⟨rfl, (List.cons.inj ha).1, (List.cons.inj hb).1⟩
    | cons c front' =>
      exact absurd ((List.cons.inj ha).1.trans (List.cons.inj hb).1.symm) hab
  | cons c front ih =>
    cases front' with
    | nil =>
      exact absurd ((List.cons.inj hb).1.symm.trans (List.cons.inj ha).1) hab'
    | cons d front' =>
      obtain ⟨hcd, ha⟩ := List.cons.inj ha
      obtain ⟨rfl, rest⟩ := ih ha (List.cons.inj hb).2
      exact ⟨by rw [hcd], rest⟩

/-- No directory lists a name twice, so that of two files only one comes first. -/
theorem Precedes.asymm {top p q : Path}
    (hnames : ∀ dir listing, list dir = .ok listing → (listing.entries.map Prod.fst).Nodup)
    (h : Precedes list top p q) : ¬ Precedes list top q p := by
  rintro ⟨names', m', n', ms', ns', listing', hl', hs', hq', hp'⟩
  obtain ⟨names, m, n, ms, ns, listing, hl, hs, hp, hq⟩ := h
  have hnodup := hnames _ _ hl
  have hmn := ne_of_sublist_pair hs hnodup
  have hmn' := ne_of_sublist_pair hs' (hnames _ _ hl')
  obtain ⟨rfl, rfl, rfl⟩ := eq_of_append_cons hmn hmn' (descend_inj (hp.symm.trans hp'))
    (descend_inj (hq.symm.trans hq'))
  cases hl.symm.trans hl'
  exact not_sublist_swap hnodup hs hs'

theorem Ends.nodup {dir : Path} {files : List Path}
    (hnames : ∀ dir listing, list dir = .ok listing → (listing.entries.map Prod.fst).Nodup)
    (h : Ends list recursive keep dir (.ok files)) : files.Nodup := by
  refine (h.pairwise _ rfl).imp ?_
  rintro p _ hp rfl
  exact hp.asymm hnames hp

/-- All that walks with files end with is the same. -/
theorem Ends.unique {dir : Path} {files files' : List Path}
    (hnames : ∀ dir listing, list dir = .ok listing → (listing.entries.map Prod.fst).Nodup)
    (h : Ends list recursive keep dir (.ok files))
    (h' : Ends list recursive keep dir (.ok files')) : files = files' := by
  have hperm : files.Perm files' := by
    rw [List.perm_ext_iff_of_nodup (h.nodup hnames) (h'.nodup hnames)]
    intro p
    rw [h.mem_iff _ rfl, h'.mem_iff _ rfl]
  exact hperm.eq_of_pairwise (fun p q _ _ hpq hqp => absurd hqp (hpq.asymm hnames))
    (h.pairwise _ rfl) (h'.pairwise _ rfl)

/-! ## The walk of a storage -/

theorem endsAll_filesOf {dir : Path} {levels : Nat} (es : List (FileName × Bool))
    (h : ∀ name, (name, true) ∈ es → Ends list recursive keep (dir.child name)
      (filesFrom list recursive keep levels (dir.child name))) :
    EndsAll list recursive keep dir es
      ((es.mapM (filesOf list recursive keep levels dir)).map List.flatten) := by
  induction es with
  | nil => exact .nil
  | cons entry rest ih =>
    have htail := ih fun name hm => h name (List.mem_cons_of_mem _ hm)
    have hcons : ((entry :: rest).mapM (filesOf list recursive keep levels dir)).map List.flatten =
        (filesOf list recursive keep levels dir entry).bind fun head =>
          ((rest.mapM (filesOf list recursive keep levels dir)).map List.flatten).map (head ++ ·) := by
      rw [List.mapM_cons]
      cases filesOf list recursive keep levels dir entry with
      | error e => rfl
      | ok head => cases rest.mapM (filesOf list recursive keep levels dir) <;> rfl
    rw [hcons]
    obtain ⟨name, isDirectory⟩ := entry
    cases isDirectory with
    | false => exact .file htail
    | true =>
      cases recursive with
      | false =>
        have hsame : ∀ r : Except ListingError (List Path), r.map ([] ++ ·) = r := by
          intro r
          cases r <;> rfl
        simp only [filesOf, if_true, Bool.false_eq_true, if_false, Except.bind, hsame]
        exact .skipped rfl htail
      | true =>
        have hhead := h name (by simp)
        simp only [filesOf, if_true]
        cases hr : filesFrom list true keep levels (dir.child name) with
        | error e => exact .broken rfl (hr ▸ hhead)
        | ok files => exact .descended rfl (hr ▸ hhead) htail

end

/-- A listed directory is a place of the storage, right below where the walk is. -/
theorem Entries.directory {s : Storage} {dir : Path} {es : List (FileName × Bool)}
    (h : Entries s.list dir es) {name : FileName} (hm : (name, true) ∈ es) :
    ∃ l, s.reach dir = .ok l ∧ (l ++ [name], .directory) ∈ s.places := by
  cases h with
  | vanished => cases hm
  | read opened told whole =>
    obtain ⟨entry, hentry, htold⟩ := List.mem_filterMap.mp hm
    obtain rfl := told?_eq_true.mp htold
    exact Storage.directory_of_list opened hentry

/-- The levels of a walk through a storage never run out. -/
theorem ends_filesFrom {s : Storage} {recursive : Bool} {keep : Path → Bool} {levels : Nat}
    {dir : Path} (hpos : 0 < levels)
    (h : ∀ l, s.reach dir = .ok l → s.depth < l.length + levels) :
    Ends s.list recursive keep dir (filesFrom s.list recursive keep levels dir) := by
  induction levels generalizing dir with
  | zero => omega
  | succ levels ih =>
    rcases fails_or_entries s.list dir with ⟨e, hfails⟩ | ⟨es, hentries⟩
    · rw [filesFrom_of_fails hfails]
      exact .failed hfails
    · rw [filesFrom_of_entries hentries]
      refine .read hentries (endsAll_filesOf es fun name hm => ?_)
      obtain ⟨l, hl, hplace⟩ := hentries.directory hm
      have hlevels := h l hl
      have hchild := Storage.length_le_depth hplace
      rw [List.length_append, List.length_singleton] at hchild
      apply ih (by omega)
      intro l' hl'
      rw [Storage.reach_child hl hplace hl', List.length_append, List.length_singleton]
      omega

theorem ends_files (s : Storage) (dir : Path) (recursive : Bool) (keep : Path → Bool) :
    Ends s.list recursive keep dir (s.files dir recursive keep) :=
  ends_filesFrom (by omega) fun l _ => by omega

theorem nodup_names {s : Storage} {dir : Path} {listing : Listing} (h : s.list dir = .ok listing) :
    (listing.entries.map Prod.fst).Nodup := by
  obtain ⟨l, _, hpre⟩ := Storage.list_ok h
  refine List.Nodup.sublist (hpre.sublist.map Prod.fst) ?_
  have hplaces := s.distinct.sublist ((Storage.childrenOf_sublist s l).map Prod.fst)
  rw [List.map_map] at hplaces ⊢
  exact List.Nodup.of_map (fun name : FileName => l ++ [name]) (by rwa [List.map_map])

/-- While no visited directory fails, every walk ends with the files and links that visited
directories list and the filter accepts, each once and in the order of the listings; where a single
one fails, every walk ends with its failure. -/
theorem files_exact (s : Storage) (dir : Path) (recursive : Bool) (pattern : Option Pattern) :
    ((∀ names, Visits s.list recursive dir names → ∀ e, ¬ Fails s.list (dir.descend names) e) →
      ∃ files : List Path,
        s.files dir recursive (ContextCall.accepts pattern) = .ok files ∧
        (∀ r, Ends s.list recursive (ContextCall.accepts pattern) dir r ↔ r = .ok files) ∧
        (∀ p, p ∈ files ↔ ∃ names name, Visits s.list recursive dir names ∧
          Holds s.list (dir.descend names) name ∧ p = dir.descend (names ++ [name]) ∧
          ∀ filter ∈ pattern, filter.matchesIn (Utf8.lossyChars p.bytes) = true) ∧
        files.Nodup ∧
        ∀ p q, [p, q].Sublist files ↔ p ∈ files ∧ q ∈ files ∧ Precedes s.list dir p q) ∧
    ∀ names e, Visits s.list recursive dir names → Fails s.list (dir.descend names) e →
      (∀ names' e', Visits s.list recursive dir names' →
        Fails s.list (dir.descend names') e' → names' = names) →
      s.files dir recursive (ContextCall.accepts pattern) = .error ⟨dir.descend names, e⟩ ∧
        ∀ r, Ends s.list recursive (ContextCall.accepts pattern) dir r ↔
          r = .error ⟨dir.descend names, e⟩ := by
  have hends := ends_files s dir recursive (ContextCall.accepts pattern)
  have hnames : ∀ dir listing, s.list dir = .ok listing →
      (listing.entries.map Prod.fst).Nodup := fun _ _ => nodup_names
  constructor
  · intro hall
    have hok : ∀ r, Ends s.list recursive (ContextCall.accepts pattern) dir r →
        ∃ files, r = .ok files := by
      intro r hr
      cases r with
      | ok files => exact ⟨files, rfl⟩
      | error error =>
        obtain ⟨names, e, hv, hf, _⟩ := hr.visits error rfl
        exact absurd hf (hall names hv e)
    obtain ⟨files, hfiles⟩ := hok _ hends
    rw [hfiles] at hends
    refine ⟨files, hfiles, ?_, ?_, hends.nodup hnames, ?_⟩
    · intro r
      constructor
      · intro hr
        obtain ⟨files', rfl⟩ := hok r hr
        rw [hr.unique hnames hends]
      · rintro rfl
        exact hends
    · intro p
      rw [hends.mem_iff files rfl p]
      simp only [Found, ContextCall.accepts, Option.all_eq_true, Option.mem_def]
    · intro p q
      exact pair_sublist_iff (hends.pairwise files rfl) fun _ _ hpq => hpq.asymm hnames
  · intro names e hv hf hone
    have herror : ∀ r, Ends s.list recursive (ContextCall.accepts pattern) dir r →
        r = .error ⟨dir.descend names, e⟩ := by
      intro r hr
      cases r with
      | ok files => exact absurd hf (hr.not_fails files rfl names hv e)
      | error error =>
        obtain ⟨names', e', hv', hf', rfl⟩ := hr.visits error rfl
        cases hone names' e' hv' hf'
        rw [hf.unique hf']
    refine ⟨herror _ hends, fun r => ⟨herror r, ?_⟩⟩
    rintro rfl
    exact herror _ hends ▸ hends

/-- A directory with another one and a link in it. -/
def grove : Storage :=
  (Storage.empty.put (.ofString "/d/b/x.js") (.file [])).put (.ofString "/d/a") .link

/-- The same with the inner directory closed to readers. -/
def fenced : Storage := grove.obstruct (.ofString "/d/b") ⟨.system 13, none⟩

theorem files_exact_grove :
    (∀ r, Ends grove.list true (ContextCall.accepts none) (.ofString "/d") r ↔
      r = .ok [.ofString "/d/b/x.js", .ofString "/d/a"]) ∧
    ∀ r, Ends fenced.list true (ContextCall.accepts none) (.ofString "/d") r ↔
      r = .error ⟨.ofString "/d/b", .system 13⟩ := by
  let a : FileName := ⟨[97], by decide⟩
  let b : FileName := ⟨[98], by decide⟩
  constructor
  · have hfiles : grove.files (.ofString "/d") true (ContextCall.accepts none) =
        .ok [.ofString "/d/b/x.js", .ofString "/d/a"] := by decide +kernel
    have hends := ends_files grove (.ofString "/d") true (ContextCall.accepts none)
    rw [hfiles] at hends
    obtain ⟨files, hfiles', hall, _⟩ :=
      (files_exact grove (.ofString "/d") true none).1 (hends.not_fails _ rfl)
    cases hfiles.symm.trans hfiles'
    exact hall
  · have hopen : fenced.list (.ofString "/d") = .ok ⟨[(b, .directory), (a, .link)], none⟩ := by
      decide +kernel
    have hclosed : fenced.list ((Path.ofString "/d").child b) = .error (.system 13) := by
      decide +kernel
    have hentries : Entries fenced.list (.ofString "/d") [(b, true), (a, false)] :=
      .read hopen (by simp [Told]) rfl
    have hvisits : Visits fenced.list true (.ofString "/d") [b] :=
      hentries.visits_cons_iff.mpr ⟨rfl, by simp, .start _⟩
    have hplace : (Path.ofString "/d").descend [b] = .ofString "/d/b" := by decide +kernel
    rw [← hplace]
    refine ((files_exact fenced (.ofString "/d") true none).2 [b] (.system 13) hvisits
      (.opening hclosed (by decide)) ?_).2
    intro names e hv hf
    cases names with
    | nil => exact absurd hf (hentries.not_fails e)
    | cons name rest =>
      obtain ⟨_, hm, hv⟩ := hentries.visits_cons_iff.mp hv
      obtain rfl : name = b := by simpa using hm
      cases rest with
      | nil => rfl
      | cons _ _ =>
        cases hv with
        | step _ opened => rw [hclosed] at opened; cases opened

end StaticContext.Walk
