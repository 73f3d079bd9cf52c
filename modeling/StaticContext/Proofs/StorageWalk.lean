import StaticContext.Proofs.PathNormalForm
import StaticContext.Proofs.Traversal
import StaticContext.Storage.Edit
import StaticContext.Storage.Files

/-! # What a walk through a storage sees

A walk asks for no listing but those of its directory and of what names lead to from there. Its
levels never run out: a directory that a listing tells of is a place, and `depth` bounds the
locations of places, so that any larger number of levels finds the same files. Two storages whose
listings agree below a directory therefore hold the same files there, whatever their depths. -/

namespace StaticContext
open StaticContext.Path

/-! ## Children -/

theorem Path.components_child (dir : Path) (name : FileName) :
    (dir.child name).components = dir.components ++ [.name name] := by
  have hn : components ⟨name.bytes⟩ = [.name name] := components_bytes (c := .name name) nofun
  have hrel := isAbsolute_name name
  by_cases hd : dir.bytes = []
  · have happ : dir.append ⟨name.bytes⟩ = ⟨name.bytes⟩ := by simp [append, hrel, hd]
    have hnil : dir = ⟨[]⟩ := by cases dir; exact congrArg Path.mk hd
    rw [child, happ, hn, hnil]
    rfl
  · rw [child, components_append hd hrel, inner_name]

theorem Path.isAbsolute_child (dir : Path) (name : FileName) :
    (dir.child name).isAbsolute = dir.isAbsolute := by
  rw [Bool.eq_iff_iff, isAbsolute_iff, isAbsolute_iff, components_child]
  cases dir.components <;> simp

/-- Where names lead from a directory, one below the other. -/
def Path.descend (dir : Path) (names : List FileName) : Path := names.foldl child dir

theorem Path.components_descend (dir : Path) (names : List FileName) :
    (dir.descend names).components = dir.components ++ named names := by
  induction names generalizing dir with
  | nil => simp [descend]
  | cons n names ih =>
    have hd : dir.descend (n :: names) = (dir.child n).descend names := rfl
    rw [hd, ih, components_child, named_cons, List.append_assoc]
    rfl

theorem Path.isWithin_descend (dir : Path) (names : List FileName) :
    (dir.descend names).isWithin dir = true := by
  rw [isWithin_iff, components_descend]
  exact List.prefix_append _ _

/-! ## Levels -/

theorem filesFrom_congr {list list' : Path → Except AccessError Listing} {recursive : Bool}
    {keep : Path → Bool} (levels : Nat) {dir : Path}
    (h : ∀ names, list (dir.descend names) = list' (dir.descend names)) :
    filesFrom list recursive keep levels dir = filesFrom list' recursive keep levels dir := by
  induction levels generalizing dir with
  | zero => rfl
  | succ levels ih =>
    have hdir : list dir = list' dir := h []
    simp only [filesFrom, hdir]
    cases list' dir with
    | error e => rfl
    | ok listing =>
      cases hr : listing.read with
      | error e => simp only [hr]
      | ok entries =>
        have hbelow : ∀ name, filesFrom list recursive keep levels (dir.child name) =
            filesFrom list' recursive keep levels (dir.child name) :=
          fun name => ih fun names => h (name :: names)
        simp only [hr, hbelow]

namespace Storage

theorem length_le_depth {s : Storage} {l : Location} {place : Place} (h : (l, place) ∈ s.places) :
    l.length ≤ s.depth := by
  have hmax : ∀ (places : List (Location × Place)) (bound : Nat),
      bound ≤ places.foldl (fun n e => max n e.1.length) bound ∧
        ∀ e ∈ places, e.1.length ≤ places.foldl (fun n e => max n e.1.length) bound := by
    intro places
    induction places with
    | nil => simp
    | cons e rest ih =>
      intro bound
      obtain ⟨hb, hr⟩ := ih (max bound e.1.length)
      rw [List.foldl_cons]
      refine ⟨by omega, ?_⟩
      intro e' he
      rcases List.mem_cons.mp he with rfl | he
      · omega
      · exact hr e' he
  exact (hmax s.places 0).2 _ h

/-- The children of a location are places right below it, in the order of the places. -/
theorem childrenOf_sublist (s : Storage) (l : Location) :
    ((s.childrenOf l).map fun e => (l ++ [e.1], e.2)).Sublist s.places := by
  suffices h : ((s.childrenOf l).map fun e => (l ++ [e.1], e.2)).Sublist (s.places.map id) by
    rwa [List.map_id] at h
  refine Traversal.map_filterMap_sublist (fun entry e he => ?_) s.places
  obtain ⟨m, place⟩ := entry
  simp only at he
  split at he
  · next hlast =>
    split at he
    · next hinit =>
      cases he
      rw [← hinit, List.dropLast_append_getLast? _ hlast]
      rfl
    · cases he
  · cases he

theorem mem_childrenOf {s : Storage} {l : Location} {name : FileName} {place : Place}
    (h : (name, place) ∈ s.childrenOf l) : (l ++ [name], place) ∈ s.places :=
  (childrenOf_sublist s l).subset (List.mem_map.mpr ⟨(name, place), h, rfl⟩)

theorem placeAt_of_mem {s : Storage} {l : Location} {place : Place} (h : (l, place) ∈ s.places)
    (hl : l ≠ []) : s.placeAt l = some place := by
  rw [placeAt, if_neg hl]
  have hdistinct := s.distinct
  generalize s.places = places at h hdistinct
  induction places with
  | nil => cases h
  | cons e rest ih =>
    obtain ⟨m, other⟩ := e
    obtain ⟨hm, hrest⟩ := List.nodup_cons.mp hdistinct
    rcases List.mem_cons.mp h with heq | h
    · cases heq
      exact List.lookup_cons_self
    · have hne : l ≠ m := by
        intro heq
        exact hm (List.mem_map.mpr ⟨_, h, heq⟩)
      rw [List.lookup_cons, beq_eq_false_iff_ne.mpr hne]
      exact ih h hrest

theorem openAt_ok {s : Storage} {p : Path} {l : Location} {place : Place}
    (h : s.openAt p = .ok (l, place)) : s.reach p = .ok l ∧ s.placeAt l = some place := by
  unfold openAt at h
  cases hl : s.reach p with
  | error e => rw [hl] at h; cases h
  | ok m =>
    rw [hl] at h
    simp only [bind, Except.bind, pure, Except.pure, throw, throwThe, MonadExceptOf.throw] at h
    cases hb : s.blockedAbove m with
    | some e => rw [hb] at h; cases h
    | none =>
      rw [hb] at h
      simp only at h
      split at h
      · cases h; exact ⟨rfl, ‹_›⟩
      · cases h; exact ⟨rfl, ‹_›⟩
      · cases h

theorem list_ok {s : Storage} {dir : Path} {listing : Listing} (h : s.list dir = .ok listing) :
    ∃ l, s.reach dir = .ok l ∧
      listing.entries <+: (s.childrenOf l).map fun e => (e.1, e.2.type) := by
  unfold list at h
  cases ho : s.openAt dir with
  | error e => rw [ho] at h; cases h
  | ok opened =>
    obtain ⟨l, place⟩ := opened
    rw [ho] at h
    refine ⟨l, (openAt_ok ho).1, ?_⟩
    cases place with
    | file | link | unknown => cases h
    | directory =>
      simp only [bind, Except.bind, pure, Except.pure, throw, throwThe, MonadExceptOf.throw] at h
      split at h
      · cases h
        exact List.prefix_rfl
      · split at h
        · cases h
        · cases h
          unfold interrupted
          split
          · exact List.prefix_rfl
          · exact List.take_prefix _ _

/-- A listing tells of places right below the directory it is of. -/
theorem mem_of_list {s : Storage} {dir : Path} {listing : Listing} (h : s.list dir = .ok listing) :
    ∃ l, s.reach dir = .ok l ∧
      ∀ e ∈ listing.entries, ∃ place, (l ++ [e.1], place) ∈ s.places ∧ e.2 = place.type := by
  obtain ⟨l, hl, hp⟩ := list_ok h
  refine ⟨l, hl, fun e he => ?_⟩
  obtain ⟨⟨name, place⟩, hm, rfl⟩ := List.mem_map.mp (hp.subset he)
  exact ⟨place, mem_childrenOf hm, rfl⟩

/-- What is listed as a directory is one, right below the directory it is listed for. -/
theorem directory_of_list {s : Storage} {dir : Path} {listing : Listing} {name : FileName}
    (h : s.list dir = .ok listing) (he : (name, .directory) ∈ listing.entries) :
    ∃ l, s.reach dir = .ok l ∧ (l ++ [name], .directory) ∈ s.places := by
  obtain ⟨l, hl, hplaces⟩ := mem_of_list h
  obtain ⟨place, hplace, htype⟩ := hplaces _ he
  cases place with
  | directory => exact ⟨l, hl, hplace⟩
  | file | link | unknown => cases htype

end Storage

/-- Reading a listing drops entries, keeps their order and adds none. -/
theorem Listing.typed_sublist {entries : List (FileName × EntryType)} {es : List (FileName × Bool)}
    (h : typed entries = .ok es) :
    es.Sublist (entries.map fun e => (e.1, decide (e.2 = .directory))) := by
  induction entries generalizing es with
  | nil => cases h; exact .slnil
  | cons e rest ih =>
    obtain ⟨m, type⟩ := e
    have hkept : ∀ {b : Bool}, (typed rest).map ((m, b) :: ·) = .ok es →
        es.Sublist ((m, b) :: rest.map fun e => (e.1, decide (e.2 = .directory))) := by
      intro b hb
      cases hr : typed rest with
      | error e => rw [hr] at hb; cases hb
      | ok fs =>
        rw [hr] at hb
        cases hb
        exact (ih hr).cons_cons (m, b)
    cases type with
    | file | directory | link => exact hkept h
    | unknown e =>
      simp only [typed] at h
      split at h
      · exact (ih h).cons _
      · cases h

theorem Listing.read_sublist {listing : Listing} {es : List (FileName × Bool)}
    (h : listing.read = .ok es) :
    es.Sublist (listing.entries.map fun e => (e.1, decide (e.2 = .directory))) := by
  unfold read at h
  cases ht : typed listing.entries with
  | error e => rw [ht] at h; cases h
  | ok fs =>
    rw [ht] at h
    simp only at h
    split at h
    · cases h
    · cases h
      exact typed_sublist ht

theorem Listing.mem_of_read {listing : Listing} {es : List (FileName × Bool)} {name : FileName}
    (h : listing.read = .ok es) (he : (name, true) ∈ es) : (name, .directory) ∈ listing.entries := by
  obtain ⟨⟨m, type⟩, hm, heq⟩ := List.mem_map.mp ((read_sublist h).subset he)
  obtain ⟨rfl, htype⟩ := Prod.mk.inj heq
  obtain rfl := of_decide_eq_true htype
  exact hm

/-! ## Locations -/

theorem Path.components_absolute?_child {w : Option AbsolutePath} {dir : Path} {name : FileName}
    {q q' : Path} (h : dir.absolute? w = some q) (h' : (dir.child name).absolute? w = some q') :
    q'.components = q.components ++ [.name name] := by
  unfold absolute? at h h'
  rw [isAbsolute_child] at h'
  split at h
  · next ha =>
    rw [if_pos ha] at h'
    cases h
    cases h'
    rw [components_normalize, components_normalize, components_child, collapse_append_name]
  · next ha =>
    rw [if_neg ha] at h'
    obtain ⟨base, hw, rfl⟩ := Option.map_eq_some_iff.mp h
    rw [hw] at h'
    cases h'
    have hc : ¬ (dir.child name).isAbsolute = true := by rwa [isAbsolute_child]
    rw [components_join base.isAbsolute, components_join base.isAbsolute, if_neg ha, if_neg hc,
      components_child, ← List.append_assoc, collapse_append_name]

namespace Storage

theorem locate_ok {s : Storage} {p : Path} {l : Location} (h : s.locate p = .ok l) :
    ∃ q, p.absolute? s.workingDirectory = some q ∧ l = .ofPath q := by
  unfold locate at h
  split at h
  · cases h
  · split at h
    · cases h
    · split at h
      · cases h
      · next q hq =>
        cases h
        exact ⟨q, hq, rfl⟩

theorem locate_child {s : Storage} {dir : Path} {name : FileName} {l l' : Location}
    (h : s.locate dir = .ok l) (h' : s.locate (dir.child name) = .ok l') : l' = l ++ [name] := by
  obtain ⟨q, hq, rfl⟩ := locate_ok h
  obtain ⟨q', hq', rfl⟩ := locate_ok h'
  have hc := components_absolute?_child hq hq'
  simp [Location.ofPath, hc]

/-! ## Links on the way -/

theorem reach_ok {s : Storage} {p : Path} {l : Location} (h : s.reach p = .ok l) :
    ∃ m, s.locate p = .ok m ∧ s.follow (linkLimit + 1) m = .ok l := by
  unfold reach at h
  cases hm : s.locate p with
  | error e => rw [hm] at h; cases h
  | ok m => exact ⟨m, rfl, by rwa [hm] at h⟩

theorem detour?_append {s : Storage} {done l m : Location} (name : FileName)
    (h : s.detour? done l = some m) : s.detour? done (l ++ [name]) = some (m ++ [name]) := by
  fun_induction s.detour? done l with
  | case1 => cases h
  | case2 done first rest hplace ih => simpa [detour?, hplace] using ih h
  | case3 done first rest target hplace =>
    obtain ⟨top, rfl, rfl⟩ := Option.map_eq_some_iff.mp h
    simp [detour?, hplace]
  | case4 => cases h

/-- A directory at the end of the way adds no link to it. -/
theorem detour?_directory {s : Storage} {done l : Location} {name : FileName}
    (h : s.detour? done l = none) (hplace : s.placeAt (done ++ l ++ [name]) = some .directory) :
    s.detour? done (l ++ [name]) = none := by
  fun_induction s.detour? done l with
  | case1 done =>
    rw [List.append_nil] at hplace
    simp [detour?, hplace]
  | case2 done first rest hfirst ih => simpa [detour?, hfirst] using ih h (by simpa using hplace)
  | case3 done first rest target hfirst =>
    obtain rfl := Option.map_eq_none_iff.mp h
    simp [detour?, hfirst]
  | case4 done first rest hdirectory hlink => simp [detour?]

/-- Without links on the way there is none to follow. -/
theorem detour?_eq_none {s : Storage} {done l : Location}
    (h : ∀ m, m <+: done ++ l → ∀ target, s.placeAt m ≠ some (.link target)) :
    s.detour? done l = none := by
  fun_induction s.detour? done l with
  | case1 => rfl
  | case2 done first rest hfirst ih => exact ih (by simpa using h)
  | case3 done first rest target hfirst =>
    have hfront : done ++ [first] <+: done ++ first :: rest := ⟨rest, by simp⟩
    exact absurd hfirst (h _ hfront target)
  | case4 => rfl

theorem follow_directory {s : Storage} {limit : Nat} {m l : Location} {name : FileName}
    (h : s.follow limit m = .ok l) (hplace : s.placeAt (l ++ [name]) = some .directory) :
    s.follow limit (m ++ [name]) = .ok (l ++ [name]) := by
  fun_induction s.follow limit m with
  | case1 => cases h
  | case2 limit m n hdetour ih =>
    rw [follow, detour?_append name hdetour]
    exact ih h
  | case3 limit m hdetour =>
    cases h
    rw [follow, detour?_directory hdetour hplace]

theorem follow_succ {s : Storage} {limit : Nat} {m l : Location} (h : s.follow limit m = .ok l) :
    s.follow (limit + 1) m = .ok l := by
  fun_induction s.follow limit m with
  | case1 => cases h
  | case2 limit m n hdetour ih =>
    rw [follow, hdetour]
    exact ih h
  | case3 limit m hdetour =>
    rw [follow, hdetour]
    exact h

/-- What a path opens through a link, the path behind the link opens. -/
theorem openAt_detour {s : Storage} {p q : Path} {m n : Location} {opened : Location × Place}
    (hp : s.locate p = .ok m) (hq : s.locate q = .ok n) (hdetour : s.detour? [] m = some n)
    (h : s.openAt p = .ok opened) : s.openAt q = .ok opened := by
  have hreach : s.reach p = .ok opened.1 := (openAt_ok h).1
  have hfollow : s.follow linkLimit n = .ok opened.1 := by
    obtain ⟨m', hm', hl⟩ := reach_ok hreach
    cases hp.symm.trans hm'
    rwa [follow, hdetour] at hl
  have hreach' : s.reach q = .ok opened.1 := by
    rw [reach, hq]
    exact follow_succ hfollow
  unfold openAt at h ⊢
  rw [hreach] at h
  rw [hreach']
  exact h

example : (((empty.put (.ofString "/d/f.js") (.file [])).put (.ofString "/l")
    (.link (some (.ofPath (.ofString "/d"))))).list (.ofString "/l")).toOption.map
      (·.entries.map Prod.snd) = some [.file] := by
  decide +kernel

theorem reach_eq_locate {s : Storage} {p : Path} {l m : Location} (h : s.reach p = .ok l)
    (hm : s.locate p = .ok m) (hlinks : ∀ n, n <+: m → ∀ target, s.placeAt n ≠ some (.link target)) :
    l = m := by
  obtain ⟨m', hm', hl⟩ := reach_ok h
  cases hm.symm.trans hm'
  rw [follow, detour?_eq_none (by simpa using hlinks)] at hl
  cases hl
  rfl

/-- A directory that is listed lies in the place it is listed for. -/
theorem reach_child {s : Storage} {dir : Path} {name : FileName} {l l' : Location}
    (h : s.reach dir = .ok l) (hplace : (l ++ [name], .directory) ∈ s.places)
    (h' : s.reach (dir.child name) = .ok l') : l' = l ++ [name] := by
  obtain ⟨m, hm, hl⟩ := reach_ok h
  obtain ⟨m', hm', hl'⟩ := reach_ok h'
  rw [locate_child hm hm', follow_directory hl (placeAt_of_mem hplace (by simp))] at hl'
  cases hl'
  rfl

/-- Levels beyond the depth of the storage change nothing. -/
theorem filesFrom_stable {s : Storage} {recursive : Bool} {keep : Path → Bool} {levels more : Nat}
    {dir : Path} (hpos : 0 < levels) (hmore : 0 < more)
    (h : ∀ l, s.reach dir = .ok l → s.depth < l.length + levels ∧ s.depth < l.length + more) :
    filesFrom s.list recursive keep levels dir = filesFrom s.list recursive keep more dir := by
  induction levels generalizing more dir with
  | zero => omega
  | succ levels ih =>
    obtain ⟨more, rfl⟩ := Nat.exists_eq_add_one_of_ne_zero (Nat.ne_of_gt hmore)
    simp only [filesFrom]
    cases hlist : s.list dir with
    | error e => rfl
    | ok listing =>
      simp only
      cases hread : listing.read with
      | error e => rfl
      | ok entries =>
        simp only
        congr 1
        apply Traversal.mapM_congr
        intro ⟨name, isDirectory⟩ he
        cases isDirectory with
        | false => rfl
        | true =>
          obtain ⟨l, hl, hplace⟩ := directory_of_list hlist (Listing.mem_of_read hread he)
          obtain ⟨hlevels, hmore'⟩ := h l hl
          -- a listed directory is a place, so it lies within the depth and levels are left for it
          have hchild := length_le_depth hplace
          rw [List.length_append, List.length_singleton] at hchild
          have hbelow : filesFrom s.list recursive keep levels (dir.child name) =
              filesFrom s.list recursive keep more (dir.child name) := by
            apply ih (by omega) (by omega)
            intro l' hl'
            rw [reach_child hl hplace hl', List.length_append, List.length_singleton]
            omega
          simp only [hbelow]

/-- The files below a directory are a matter of the listings there. -/
theorem files_congr {s s' : Storage} {dir : Path} (recursive : Bool) (keep : Path → Bool)
    (h : ∀ names, s.list (dir.descend names) = s'.list (dir.descend names)) :
    s.files dir recursive keep = s'.files dir recursive keep := by
  have hs : s.files dir recursive keep =
      filesFrom s.list recursive keep (max s.depth s'.depth + 1) dir :=
    filesFrom_stable (by omega) (by omega) fun l _ => by omega
  have hs' : s'.files dir recursive keep =
      filesFrom s'.list recursive keep (max s.depth s'.depth + 1) dir :=
    filesFrom_stable (by omega) (by omega) fun l _ => by omega
  rw [hs, hs', filesFrom_congr _ h]

end Storage
end StaticContext
