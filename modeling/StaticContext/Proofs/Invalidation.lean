import StaticContext.Proofs.Loading
import StaticContext.Storage.Edit

/-! # What a load depends on

A load that writes code has read the text of its source and the listings below the directories it
records, and nothing else. So another storage with the same text and the same listings there gives
the same report; and if a later load of an unchanged text differs, some listing below a recorded
directory has changed, a change that marks the file. -/

namespace StaticContext
open StaticContext.Path

/-- A report stands while nothing is listed otherwise below its directories. -/
theorem Source.expand_stable {source : Source} {s s' : Storage} {r : Report} {o : Output}
    (h : source.expand s = .ok r) (ho : r.output = some o)
    (hlist : ∀ d ∈ o.directories, ∀ names, s'.list (d.descend names) = s.list (d.descend names)) :
    source.expand s' = .ok r := by
  obtain ⟨program, hp, _, hdirs⟩ := expand_output h ho
  rw [← h]
  apply expand_congr
  intro program' hp' d hd names
  cases hp.symm.trans hp'
  apply hlist
  rw [hdirs]
  exact List.mem_eraseDups.mpr hd

namespace Plugin

/-- A recorded directory is found behind a change anywhere below it, wherever that is seen from. -/
theorem staleAfter_descend {p : Plugin} {file d : Path} {ds : List Path}
    (h : p.tracker.directoriesFor file = some ds) (hd : d ∈ ds) (hc : d.Canonical)
    (names : List FileName) (wd : Option AbsolutePath) :
    ∃ f ∈ p.staleAfter wd (d.descend names), f.same file = true := by
  obtain ⟨top, htop⟩ := hc.components
  have hq : (d.descend names).components = .root :: named (top ++ names) := by
    rw [components_descend, htop, named_append]
    rfl
  have hpre : d.components <+: (changedPath wd (d.descend names)).components := by
    rw [components_changedPath wd hq, ← isWithin_iff]
    exact isWithin_descend d names
  rw [staleAfter_eq]
  exact Tracker.affectedBy_of_directoriesFor h hd hpre

/-- Whatever the storage is like otherwise, a load of the same text gives the same report and
records the same directories, unless a listing below one of them differs; to hear of a change at
that place marks the file. -/
theorem load_invalidation {p : Plugin} {s s' : Storage} {path : Path} {r : Report} {o : Output}
    (h : (p.load s path).1 = .ok r) (ho : r.output = some o)
    (htext : Source.load s' path = Source.load s path) :
    ∃ file, path.from? s.workingDirectory = some file ∧
      (p.load s path).2.tracker.directoriesFor file = some o.directories ∧
      ((∀ d ∈ o.directories, ∀ names, s'.list (d.descend names) = s.list (d.descend names)) →
        ∀ p' : Plugin, (p'.load s' path).1 = .ok r ∧
          (p'.load s' path).2.tracker.directoriesFor file = some o.directories) ∧
      ∀ p' : Plugin, (p'.load s' path).1 ≠ .ok r →
        ∃ d ∈ o.directories, ∃ names,
          (d.descend names).isWithin d = true ∧
          s'.list (d.descend names) ≠ s.list (d.descend names) ∧
          ∀ wd, ∃ f ∈ (p.load s path).2.staleAfter wd (d.descend names), f.same file = true := by
  obtain ⟨source, hs, hr⟩ := load_ok.mp h
  have hrec := directoriesFor_load (p := p) hs hr ho
  have hagain : (∀ d ∈ o.directories, ∀ names,
      s'.list (d.descend names) = s.list (d.descend names)) → source.expand s' = .ok r :=
    Source.expand_stable hr ho
  refine ⟨source.path, (Source.load_ok hs).1, hrec, ?_, ?_⟩
  · intro hlist p'
    have hr' := hagain hlist
    exact ⟨load_ok.mpr ⟨source, htext.trans hs, hr'⟩, directoriesFor_load (htext.trans hs) hr' ho⟩
  · intro p' hne
    by_contra hno
    -- otherwise the listings agree wherever the first load looked
    have hlist : ∀ d ∈ o.directories, ∀ names,
        s'.list (d.descend names) = s.list (d.descend names) := by
      intro d hd names
      by_contra hdiff
      have hc : d.Canonical := by
        obtain ⟨program, _, _, hdirs⟩ := Source.expand_output hr ho
        exact Source.canonical_targets hs program d (List.mem_eraseDups.mp (hdirs ▸ hd))
      exact hno ⟨d, hd, names, isWithin_descend d names, hdiff, staleAfter_descend hrec hd hc names⟩
    exact hne (load_ok.mpr ⟨source, htext.trans hs, hagain hlist⟩)

/-- `/a.js`, which brings in `/d`, and a file there. -/
def sampleStorage : Storage :=
  (Storage.empty.put (.ofString "/a.js") (.file "require.context('d')".toUTF8.toList)).put
    (.ofString "/d/x.js") (.file [])

/-- The same with one more file in `/d`. -/
def grownStorage : Storage := sampleStorage.put (.ofString "/d/y.js") (.file [])

theorem load_invalidation_grown : ∃ r o,
    ((new default).load sampleStorage (.ofString "/a.js")).1 = .ok r ∧ r.output = some o ∧
      ((new default).load grownStorage (.ofString "/a.js")).1 ≠ .ok r ∧
      ∃ d ∈ o.directories, ∃ names, (d.descend names).isWithin d = true ∧
        grownStorage.list (d.descend names) ≠ sampleStorage.list (d.descend names) ∧
        ∀ wd, ∃ f ∈ ((new default).load sampleStorage (.ofString "/a.js")).2.staleAfter wd
          (d.descend names), f.same (.ofString "/a.js") = true := by
  have hdiff : ((new default).load grownStorage (.ofString "/a.js")).1 ≠
      ((new default).load sampleStorage (.ofString "/a.js")).1 := by decide +kernel
  have htext : Source.load grownStorage (.ofString "/a.js") =
      Source.load sampleStorage (.ofString "/a.js") := by decide +kernel
  have hfile : from? sampleStorage.workingDirectory (.ofString "/a.js") =
      some (.ofString "/a.js") := by decide +kernel
  have hout : (((new default).load sampleStorage (.ofString "/a.js")).1.toOption.bind
      Report.output).isSome = true := by decide +kernel
  obtain ⟨o, ho⟩ := Option.isSome_iff_exists.mp hout
  obtain ⟨r, hr, ho⟩ := Option.bind_eq_some_iff.mp ho
  have hload := Traversal.ok_of_toOption hr
  rw [hload] at hdiff
  obtain ⟨file, hf, _, _, hmarks⟩ := load_invalidation hload ho htext
  cases hfile.symm.trans hf
  exact ⟨r, o, hload, ho, hdiff, hmarks _ hdiff⟩

end Plugin
end StaticContext
