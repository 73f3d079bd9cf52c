import StaticContext.Proofs.Loading
import StaticContext.Session

/-! # What a change marks

A changed path is compared by the components it has once it is absolute and collapsed. The files it
marks are those with a recorded directory among the places above it, each once and in component
order. Recorded directories collapse the same way, so that a path which goes on behind a context
call's directory, as the source file spells it, marks the file. -/

namespace StaticContext
open StaticContext.Path

namespace Plugin

/-- The components of a path behind those of the working directory, collapsed; those it is given
with if there is no working directory. -/
def seenComponents (wd : Option AbsolutePath) (path : Path) : List Component :=
  match wd with
  | none => path.components
  | some base =>
    collapse (if path.isAbsolute then path.components else base.path.components ++ path.components)

theorem components_changedPath_eq (wd : Option AbsolutePath) (path : Path) :
    (changedPath wd path).components = seenComponents wd path := by
  cases wd with
  | none => rfl
  | some base => exact components_join base.isAbsolute path

theorem mem_staleAfter {p : Plugin} {wd : Option AbsolutePath} {path f : Path} :
    f ∈ p.staleAfter wd path ↔ ∃ ds, (f, ds) ∈ p.tracker.entries ∧
      ∃ d ∈ ds, d.components <+: seenComponents wd path := by
  rw [staleAfter_eq, Tracker.mem_affectedBy, components_changedPath_eq]

/-- To go on behind the directory of a context call, however it is spelled, is to stay within the
directory that is recorded for it. -/
theorem staleAfter_target {p : Plugin} {s : Storage} {path rest : Path} {source : Source}
    {r : Report} {o : Output} {program : Script.Program} {call : ContextCall} (wd : AbsolutePath)
    (hs : Source.load s path = .ok source) (hr : source.expand s = .ok r) (ho : r.output = some o)
    (hp : source.parse = .ok program) (hcall : call ∈ ContextCall.inProgram program)
    (hrel : rest.isAbsolute = false) (hup : .up ∉ rest.components) :
    ∃ f ∈ (p.load s path).2.staleAfter (some wd)
      ((source.directory.append (.ofString call.directory)).append rest),
      f.same source.path = true := by
  have habs := isAbsolute_append (Source.isAbsolute_directory hs) (.ofString call.directory)
  have hmem : call.targetDirectory source.directory ∈ o.directories := by
    obtain ⟨program', hp', _, hdirs⟩ := Source.expand_output hr ho
    cases hp.symm.trans hp'
    rw [hdirs]
    exact List.mem_eraseDups.mpr (List.mem_map_of_mem hcall)
  have hchanged : (changedPath (some wd)
      ((source.directory.append (.ofString call.directory)).append rest)) =
      ((source.directory.append (.ofString call.directory)).append rest).normalize := by
    change normalize _ = _
    rw [append_of_isAbsolute _ (isAbsolute_append habs rest)]
  have hwithin := normalize_append_isWithin (bytes_ne_nil habs) hrel hup
  rw [staleAfter_eq, hchanged]
  exact Tracker.affectedBy_of_directoriesFor (directoriesFor_load hs hr ho) hmem
    (isWithin_iff.mp hwithin)

end Plugin

namespace Session

/-- A change marks the files with a recorded directory above it or at it, each once, in strictly
increasing component order; it counts them and changes nothing. Right after a load that expanded a
file, so does whatever lies behind the directory of one of its context calls. -/
theorem change_marks (s : Session) (path : Path) :
    (∃ files : List Path,
      (∀ (Host : Type) (mark : Host → Path → Host) (host : Host),
        s.plugin.onChange s.storage.workingDirectory path mark host =
          (files.length, files.foldl mark host)) ∧
      (∀ f, f ∈ files ↔ ∃ ds, (f, ds) ∈ s.plugin.tracker.entries ∧
        ∃ d ∈ ds, d.components <+: Plugin.seenComponents s.storage.workingDirectory path) ∧
      files.Pairwise (fun f g => f.sortKey < g.sortKey) ∧
      (s.after (.change path)).plugin.tracker = s.plugin.tracker) ∧
    ∀ (loaded : Path) (source : Source) (r : Report) (o : Output) (program : Script.Program)
        (call : ContextCall) (rest : Path) (wd : AbsolutePath),
      Source.load s.storage loaded = .ok source → source.expand s.storage = .ok r →
      r.output = some o → source.parse = .ok program → call ∈ ContextCall.inProgram program →
      rest.isAbsolute = false → .up ∉ rest.components →
      ∃ f ∈ (s.after (.load loaded)).plugin.staleAfter (some wd)
        ((source.directory.append (.ofString call.directory)).append rest),
        f.same source.path = true := by
  constructor
  · refine ⟨s.plugin.staleAfter s.storage.workingDirectory path, ?_, fun f => Plugin.mem_staleAfter,
      ?_, rfl⟩
    · intro Host mark host
      rw [Plugin.staleAfter_eq]
      rfl
    · rw [Plugin.staleAfter_eq]
      exact Tracker.pairwise_affectedBy _ _
  · intro loaded source r o program call rest wd hs hr ho hp hcall hrel hup
    exact Plugin.staleAfter_target wd hs hr ho hp hcall hrel hup

/-- A file that brings in `/d` by way of a directory that is not there. -/
def detourSource : Source := ⟨.ofString "/a.js", "require.context('./q/..//d/')"⟩

def detourSession : Session :=
  ⟨(Storage.empty.put detourSource.path (.file detourSource.text.toUTF8.toList)).put
    (.ofString "/d/x.js") (.file []), .new default⟩

theorem change_marks_detour : ∀ wd : AbsolutePath,
    ∃ f ∈ (detourSession.after (.load detourSource.path)).plugin.staleAfter (some wd)
      ((detourSource.directory.append (.ofString "./q/..//d/")).append (.ofString "./sub//x.js")),
      f.same detourSource.path = true := by
  intro wd
  have hs : Source.load detourSession.storage detourSource.path = .ok detourSource := by
    decide +kernel
  have hout : ((detourSource.expand detourSession.storage).toOption.bind Report.output).isSome =
      true := by decide +kernel
  have hcalls : detourSource.parse.toOption.map ContextCall.inProgram =
      some [⟨⟨0, 29⟩, "./q/..//d/", true, none⟩] := by decide +kernel
  obtain ⟨o, ho⟩ := Option.isSome_iff_exists.mp hout
  obtain ⟨r, hr, ho⟩ := Option.bind_eq_some_iff.mp ho
  obtain ⟨program, hp, hcall⟩ := Option.map_eq_some_iff.mp hcalls
  exact (change_marks detourSession detourSource.path).2 detourSource.path detourSource r o program
    ⟨⟨0, 29⟩, "./q/..//d/", true, none⟩ (.ofString "./sub//x.js") wd hs
    (Traversal.ok_of_toOption hr) ho (Traversal.ok_of_toOption hp)
    (by rw [hcall]; exact List.mem_singleton_self _) (by decide +kernel) (by decide +kernel)

/-- The working directory is asked for even if the changed path is absolute: without one the path is
not collapsed, and what would be marked is missed. -/
theorem change_absolute_unmarked : ¬ ∀ (p : Plugin) (wd : Option AbsolutePath) (path f : Path),
    f ∈ p.staleAfter wd path ↔ ∃ ds, (f, ds) ∈ p.tracker.entries ∧
      ∃ d ∈ ds, d.components <+: ((path.absolute? wd).getD path).components := by
  intro h
  have hmarked := (h ⟨default, Tracker.empty.record (.ofString "/src/app.js") [.ofString "/src/x"]⟩
    none (.ofString "/src/q/../x/k") (.ofString "/src/app.js")).mpr
    ⟨[.ofString "/src/x"], by decide +kernel, .ofString "/src/x", by decide +kernel,
      by decide +kernel⟩
  have hnone : (⟨default, Tracker.empty.record (.ofString "/src/app.js") [.ofString "/src/x"]⟩ :
      Plugin).staleAfter none (.ofString "/src/q/../x/k") = [] := by decide +kernel
  rw [hnone] at hmarked
  cases hmarked

end Session
end StaticContext
