import StaticContext.Proofs.Loading
import StaticContext.Session

/-! # What a session tracks

Only loads that succeed, entries by hand, removals and clearing say something of a file, and what was
said last is what the tracker holds. So at every moment of a session the entry of a file is that of
its last load which did not fail, unless a hand was laid on it since. -/

namespace StaticContext.Session
open StaticContext.Path

/-! ## What steps say of a file -/

/-- What a step says of the directories of a file; nothing at all if it leaves them as they are. -/
def verdict (s : Session) (file : Path) : Step → Option (Option (List Path))
  | .load path =>
    match Plugin.report s.storage path with
    | .ok (source, r) => if source.path.same file then some (r.output.map (·.directories)) else none
    | .error _ => none
  | .record f directories => if f.same file then some (some directories) else none
  | .remove f => if f.same file then some none else none
  | .clear => some none
  | .change _ | .edit _ => none

/-- All that the steps of a session say of a file, one after the other. -/
def verdicts (s : Session) (file : Path) : List Step → List (Option (List Path))
  | [] => []
  | step :: rest => (s.verdict file step).toList ++ verdicts (s.after step) file rest

theorem directoriesFor_follow (t : Tracker) (f : Path) (output : Option Output) (file : Path) :
    (t.follow f output).directoriesFor file =
      if f.components = file.components then output.map (·.directories)
      else t.directoriesFor file := by
  cases output with
  | none => exact Tracker.directoriesFor_remove t f file
  | some o => exact Tracker.directoriesFor_record t f o.directories file

/-- A step does what it says. -/
theorem directoriesFor_after (s : Session) (step : Step) (file : Path) :
    (s.after step).plugin.tracker.directoriesFor file =
      (s.verdict file step).getD (s.plugin.tracker.directoriesFor file) := by
  cases step with
  | load path =>
    simp only [after, verdict, Plugin.load]
    cases Plugin.report s.storage path with
    | error e => rfl
    | ok result =>
      obtain ⟨source, r⟩ := result
      simp only [directoriesFor_follow, same]
      by_cases hf : source.path.components = file.components <;> simp [hf]
  | change path => rfl
  | record f directories =>
    simp only [after, verdict, withTracker, Tracker.directoriesFor_record, same]
    by_cases hf : f.components = file.components <;> simp [hf]
  | remove f =>
    simp only [after, verdict, withTracker, Tracker.directoriesFor_remove, same]
    by_cases hf : f.components = file.components <;> simp [hf]
  | clear => rfl
  | edit change => rfl

/-- And the last word stands. -/
theorem directoriesFor_run (s : Session) (steps : List Step) (file : Path) :
    (s.run steps).plugin.tracker.directoriesFor file =
      (s.verdicts file steps).getLast?.getD (s.plugin.tracker.directoriesFor file) := by
  induction steps generalizing s with
  | nil => rfl
  | cons step rest ih =>
    have hrun : s.run (step :: rest) = (s.after step).run rest := rfl
    rw [hrun, ih, directoriesFor_after, verdicts, List.getLast?_append]
    cases ((s.after step).verdicts file rest).getLast? with
    | some v => rfl
    | none => cases s.verdict file step <;> rfl

/-! ## Loads -/

/-- What a load does to the tracker of a session. -/
structure LoadTracks (s : Session) (path : Path) : Prop where
  /-- A load that fails, wherever it does, leaves everything as it was. -/
  failed : ∀ e, (s.plugin.load s.storage path).1 = .error e →
    (s.after (.load path)).plugin.tracker = s.plugin.tracker
  /-- The other entries stay. -/
  others : ∀ file, (∀ f, path.from? s.storage.workingDirectory = some f →
      f.components ≠ file.components) →
    (s.after (.load path)).plugin.tracker.directoriesFor file =
      s.plugin.tracker.directoriesFor file
  /-- A file that passes through has no entry. -/
  passed : ∀ file r, path.from? s.storage.workingDirectory = some file →
    (s.plugin.load s.storage path).1 = .ok r → r.output = none →
    (s.after (.load path)).plugin.tracker.directoriesFor file = none
  /-- One that was expanded has the targets of its context calls, each once, where it is first
  seen. -/
  expanded : ∀ file r o, path.from? s.storage.workingDirectory = some file →
    (s.plugin.load s.storage path).1 = .ok r → r.output = some o →
    ∃ source program, Source.load s.storage path = .ok source ∧ source.path = file ∧
      source.parse = .ok program ∧
      (s.after (.load path)).plugin.tracker.directoriesFor file =
        some (source.targets program).eraseDups ∧
      (source.targets program).eraseDups ≠ [] ∧ (source.targets program).eraseDups.Nodup ∧
      ∀ d ∈ (source.targets program).eraseDups, d.Canonical

theorem loadTracks (s : Session) (path : Path) : LoadTracks s path where
  failed e h := by rw [after, Plugin.load_error h]
  others file h := by
    rw [directoriesFor_after, verdict]
    cases hr : Plugin.report s.storage path with
    | error e => rfl
    | ok result =>
      obtain ⟨source, r⟩ := result
      have hne := h _ (Source.load_ok (Plugin.report_ok.mp hr).1).1
      simp [same, hne]
  passed file r hfile hload hout := by
    obtain ⟨source, hs, hr⟩ := Plugin.load_ok.mp hload
    cases hfile.symm.trans (Source.load_ok hs).1
    rw [directoriesFor_after, verdict, Plugin.report_ok.mpr ⟨hs, hr⟩]
    simp [same, hout]
  expanded file r o hfile hload hout := by
    obtain ⟨source, hs, hr⟩ := Plugin.load_ok.mp hload
    cases hfile.symm.trans (Source.load_ok hs).1
    obtain ⟨program, hp, hcalls, hdirs⟩ := Source.expand_output hr hout
    refine ⟨source, program, hs, rfl, hp, ?_, ?_, nodup_eraseDups _, ?_⟩
    · rw [after, Plugin.directoriesFor_load hs hr hout, hdirs]
    · obtain ⟨call, hcall⟩ := List.exists_mem_of_ne_nil _ hcalls
      exact List.ne_nil_of_mem (List.mem_eraseDups.mpr (List.mem_map_of_mem hcall))
    · exact fun d hd => Source.canonical_targets hs program d (List.mem_eraseDups.mp hd)

/-- Along a session of any length every load tracks what it has done, what was said last of a file is
what the tracker holds of it, and as many files are tracked as the tracker has entries. -/
theorem run_tracks (s : Session) (steps : List Step) :
    (∀ path, LoadTracks (s.run steps) path) ∧
      (∀ file, (s.run steps).plugin.tracker.directoriesFor file =
        (s.verdicts file steps).getLast?.getD (s.plugin.tracker.directoriesFor file)) ∧
      {cs : List Component | ∃ file : Path, file.components = cs ∧
        (s.run steps).plugin.tracker.tracks file = true}.encard = (s.run steps).plugin.tracker.size :=
  ⟨fun path => loadTracks _ path, fun file => directoriesFor_run s steps file,
    Tracker.encard_tracked _⟩

end StaticContext.Session
