import StaticContext.Plugin
import StaticContext.Proofs.ContextDirectories
import StaticContext.Proofs.TrackerEntries

/-! # What a load does

A load gives the report on its source, and only then is the tracker written, in one step. The path
of a source that was read is canonical and ends with a name; so the source has a directory, from
which every context call means a canonical path. -/

namespace StaticContext
open StaticContext.Path

/-! ## Sources that were read -/

theorem Path.from?_canonical {wd : Option AbsolutePath} {path file : Path}
    (h : path.from? wd = some file) : file.Canonical := by
  obtain ⟨base, _, rfl⟩ := Option.map_eq_some_iff.mp h
  exact canonical_join base.isAbsolute path

theorem Storage.read_ok {s : Storage} {p : Path} {text : String} (h : s.read p = .ok text) :
    ∃ l, s.locate p = .ok l ∧ l ≠ [] := by
  unfold read at h
  cases ho : s.openAt p with
  | error e => rw [ho] at h; cases h
  | ok opened =>
    obtain ⟨l, place⟩ := opened
    rw [ho] at h
    obtain ⟨hl, hplace⟩ := openAt_ok ho
    obtain ⟨m, hm, hfollow⟩ := reach_ok hl
    refine ⟨m, hm, ?_⟩
    rintro rfl
    -- the root is a directory
    cases hfollow
    cases hplace
    cases h

namespace Source

theorem load_ok {s : Storage} {path : Path} {source : Source} (h : load s path = .ok source) :
    path.from? s.workingDirectory = some source.path ∧ s.read source.path = .ok source.text := by
  unfold load at h
  split at h
  · cases h
  · next file hf =>
    split at h
    · next text ht =>
      cases h
      exact ⟨hf, ht⟩
    · cases h

theorem canonical_path {s : Storage} {path : Path} {source : Source}
    (h : load s path = .ok source) : source.path.Canonical := from?_canonical (load_ok h).1

/-- A file lies in a directory. -/
theorem components_path {s : Storage} {path : Path} {source : Source}
    (h : load s path = .ok source) :
    ∃ names n, source.path.components = .root :: named names ++ [.name n] := by
  have hp := canonical_path h
  obtain ⟨names, hc⟩ := hp.components
  obtain ⟨l, hl, hne⟩ := Storage.read_ok (load_ok h).2
  obtain ⟨q, hq, rfl⟩ := Storage.locate_ok hl
  rw [absolute?, if_pos hp.isAbsolute, hp.normalize_eq] at hq
  cases hq
  have hnames : names ≠ [] := by
    rintro rfl
    rw [Location.ofPath, hc] at hne
    exact hne (by decide)
  obtain ⟨init, n, rfl⟩ := (List.eq_nil_or_concat' names).resolve_left hnames
  exact ⟨init, n, by rw [hc, named_append]; rfl⟩

theorem components_directory {s : Storage} {path : Path} {source : Source}
    (h : load s path = .ok source) :
    ∃ names, source.directory.components = .root :: named names := by
  obtain ⟨names, n, hc⟩ := components_path h
  exact ⟨names, components_parent hc⟩

theorem isAbsolute_directory {s : Storage} {path : Path} {source : Source}
    (h : load s path = .ok source) : source.directory.isAbsolute = true := by
  obtain ⟨names, hc⟩ := components_directory h
  rw [isAbsolute_iff, hc]
  rfl

theorem canonical_targets {s : Storage} {path : Path} {source : Source}
    (h : load s path = .ok source) (program : Script.Program) :
    ∀ d ∈ source.targets program, d.Canonical := by
  intro d hd
  obtain ⟨call, _, rfl⟩ := List.mem_map.mp hd
  exact canonical_join (isAbsolute_directory h) _

end Source

/-! ## One step of the plugin -/

namespace Plugin

theorem report_ok {s : Storage} {path : Path} {source : Source} {r : Report} :
    report s path = .ok (source, r) ↔ Source.load s path = .ok source ∧ source.expand s = .ok r := by
  unfold report
  cases hl : Source.load s path with
  | error e => simp [bind, Except.bind]
  | ok source' =>
    cases he : source'.expand s with
    | error e =>
      simp only [bind, Except.bind, he]
      constructor
      · nofun
      · rintro ⟨hs, hr⟩
        cases hs
        cases he.symm.trans hr
    | ok r' =>
      simp only [bind, Except.bind, pure, Except.pure, he]
      constructor
      · intro h
        cases h
        exact ⟨rfl, he⟩
      · rintro ⟨hs, hr⟩
        cases hs
        cases he.symm.trans hr
        rfl

/-- A load that fails changes nothing. -/
theorem load_error {p : Plugin} {s : Storage} {path : Path} {e : ContextError}
    (h : (p.load s path).1 = .error e) : (p.load s path).2 = p := by
  unfold load at h ⊢
  split at h
  · rfl
  · cases h

theorem load_ok {p : Plugin} {s : Storage} {path : Path} {r : Report} :
    (p.load s path).1 = .ok r ↔ ∃ source, Source.load s path = .ok source ∧ source.expand s = .ok r := by
  unfold load
  constructor
  · intro h
    split at h
    · cases h
    · next source r' hr =>
      cases h
      exact ⟨source, report_ok.mp hr⟩
  · rintro ⟨source, hr⟩
    rw [report_ok.mpr hr]

/-- Otherwise the tracker follows the expansion. -/
theorem tracker_load {p : Plugin} {s : Storage} {path : Path} {source : Source} {r : Report}
    (hs : Source.load s path = .ok source) (hr : source.expand s = .ok r) :
    (p.load s path).2.tracker = p.tracker.follow source.path r.output := by
  unfold load
  rw [report_ok.mpr ⟨hs, hr⟩]

/-- An expanded file is recorded with the directories of its output. -/
theorem directoriesFor_load {p : Plugin} {s : Storage} {path : Path} {source : Source} {r : Report}
    {o : Output} (hs : Source.load s path = .ok source) (hr : source.expand s = .ok r)
    (ho : r.output = some o) :
    (p.load s path).2.tracker.directoriesFor source.path = some o.directories := by
  rw [tracker_load hs hr, ho, Tracker.follow, Tracker.directoriesFor_record, if_pos rfl]

/-- The marks come in the order of the affected files. -/
theorem staleAfter_eq (p : Plugin) (wd : Option AbsolutePath) (path : Path) :
    p.staleAfter wd path = p.tracker.affectedBy (changedPath wd path) := by
  have hconcat : ∀ files front : List Path, files.foldl List.concat front = front ++ files := by
    intro files
    induction files with
    | nil => simp
    | cons f rest ih =>
      intro front
      rw [List.foldl_cons, ih, List.concat_eq_append, List.append_assoc, List.singleton_append]
  exact (hconcat _ []).trans (List.nil_append _)

/-- A path without detours is seen as it is from everywhere. -/
theorem components_changedPath (wd : Option AbsolutePath) {q : Path} {names : List FileName}
    (h : q.components = .root :: named names) : (changedPath wd q).components = q.components := by
  have ha : q.isAbsolute = true := by
    rw [isAbsolute_iff, h]
    rfl
  cases wd with
  | none => rfl
  | some base =>
    change (base.path.join q).components = q.components
    rw [components_join base.isAbsolute, if_pos ha, h, collapse_rooted]

end Plugin
end StaticContext
