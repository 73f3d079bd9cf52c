import StaticContext.Proofs.ImportOrder
import StaticContext.Proofs.LoadSteps
import StaticContext.Proofs.MentionScan

/-! # Files with several context calls

A file is expanded if each of its calls resolves on its own, and then with the contexts they resolve
to. Otherwise nothing is written, and the calls answer in two rounds: the first filter that is no
pattern, wherever a directory may be that cannot be listed, and then the failing directory. -/

namespace StaticContext
open Script

namespace ContextCall

/-! ## One call -/

/-- The filter of a call is a pattern, if it has one. -/
def Compiles (call : ContextCall) : Prop := ∃ pattern, call.compileFilter = .ok pattern

theorem compileFilter_error {call : ContextCall} {error : ContextError}
    (h : call.compileFilter = .error error) :
    ∃ f fault, call.filter = some f ∧ error = .invalidPattern f fault := by
  unfold compileFilter at h
  split at h
  · cases h
  · next f hf =>
    have hcompile : f.compile = .error error := Traversal.eq_error_of_map h
    simp only [Filter.compile] at hcompile
    split at hcompile
    · cases hcompile
    · next fault _ =>
      cases hcompile
      exact ⟨f, fault, hf, rfl⟩

/-- A directory that the walk for one of the calls visits. -/
def VisitedFor (s : Storage) (sourceDir : Path) (calls : List ContextCall) (dir : Path) : Prop :=
  ∃ call ∈ calls, ∃ names, Walk.Visits s.list call.recursive (call.targetDirectory sourceDir) names ∧
    dir = (call.targetDirectory sourceDir).descend names

theorem resolveWith_error {s : Storage} {sourceDir : Path} {call : ContextCall}
    {pattern : Option Pattern} {error : ContextError}
    (h : call.resolveWith s sourceDir pattern = .error error) :
    ∃ names e, Walk.Visits s.list call.recursive (call.targetDirectory sourceDir) names ∧
      Walk.Fails s.list ((call.targetDirectory sourceDir).descend names) e ∧
      error = .unlistable ⟨(call.targetDirectory sourceDir).descend names, e⟩ := by
  rw [resolveWith_eq] at h
  split at h
  · next listingError hfiles =>
    cases h
    have hends := Walk.ends_files s (call.targetDirectory sourceDir) call.recursive (accepts pattern)
    obtain ⟨names, e, hv, hf, rfl⟩ := hends.visits listingError hfiles
    exact ⟨names, e, hv, hf, rfl⟩
  · cases h

theorem not_fails_of_resolve {s : Storage} {sourceDir : Path} {call : ContextCall}
    {c : ResolvedContext} (h : call.resolve s sourceDir = .ok c) {names : List FileName}
    (hv : Walk.Visits s.list call.recursive (call.targetDirectory sourceDir) names)
    (e : AccessError) : ¬ Walk.Fails s.list ((call.targetDirectory sourceDir).descend names) e := by
  obtain ⟨pattern, -, hwith⟩ := resolve_ok.mp h
  obtain ⟨files, hfiles, -⟩ := resolveWith_ok hwith
  have hends := Walk.ends_files s (call.targetDirectory sourceDir) call.recursive (accepts pattern)
  exact hends.not_fails files hfiles names hv e

/-! ## All calls of a file -/

variable {s : Storage} {sourceDir : Path} {calls : List ContextCall}

theorem resolveAll_ok_iff {contexts : List ResolvedContext} :
    resolveAll s sourceDir calls = .ok contexts ↔
      List.Forall₂ (fun call c => call.resolve s sourceDir = .ok c) calls contexts := by
  refine ⟨resolve_of_resolveAll, fun h => ?_⟩
  have hboth : ∃ patterns, calls.mapM compileFilter = .ok patterns ∧
      (calls.zip patterns).mapM (fun x => x.1.resolveWith s sourceDir x.2) = .ok contexts := by
    induction h with
    | nil => exact ⟨[], rfl, rfl⟩
    | cons hcall _ ih =>
      obtain ⟨pattern, hcompile, hwith⟩ := resolve_ok.mp hcall
      obtain ⟨patterns, hpatterns, hcontexts⟩ := ih
      refine ⟨pattern :: patterns, ?_, ?_⟩
      · rw [List.mapM_cons, hcompile, hpatterns]
        rfl
      · rw [List.zip_cons_cons, List.mapM_cons, hwith, hcontexts]
        rfl
  obtain ⟨patterns, hpatterns, hcontexts⟩ := hboth
  rw [resolveAll_eq, hpatterns]
  exact hcontexts

/-- All calls resolve if each does. -/
theorem exists_resolveAll_iff : (∃ contexts, resolveAll s sourceDir calls = .ok contexts) ↔
    ∀ call ∈ calls, ∃ c, call.resolve s sourceDir = .ok c := by
  simp only [resolveAll_ok_iff]
  induction calls with
  | nil => exact ⟨fun _ => nofun, fun _ => ⟨[], .nil⟩⟩
  | cons call rest ih =>
    rw [List.forall_mem_cons, ← ih]
    constructor
    · rintro ⟨contexts, hall⟩
      cases hall with
      | cons hcall hrest => exact ⟨⟨_, hcall⟩, _, hrest⟩
    · rintro ⟨⟨c, hcall⟩, contexts, hrest⟩
      exact ⟨c :: contexts, .cons hcall hrest⟩

/-- The first filter that is no pattern comes before all directories. -/
theorem resolveAll_invalid {front back : List ContextCall} {call : ContextCall} {error : ContextError}
    (hfront : ∀ c ∈ front, c.Compiles) (hcall : call.compileFilter = .error error) :
    resolveAll s sourceDir (front ++ call :: back) = .error error := by
  rw [resolveAll_eq, Traversal.mapM_eq_error hfront hcall]
  rfl

/-- If all filters are patterns, a directory that is visited fails. -/
theorem resolveAll_unlistable {error : ContextError} (hcompile : ∀ call ∈ calls, call.Compiles)
    (h : resolveAll s sourceDir calls = .error error) :
    ∃ dir e, VisitedFor s sourceDir calls dir ∧ Walk.Fails s.list dir e ∧
      error = .unlistable ⟨dir, e⟩ := by
  rcases resolveAll_error h with ⟨call, hmem, hinvalid⟩ | ⟨call, hmem, pattern, hwith⟩
  · obtain ⟨pattern, hpattern⟩ := hcompile call hmem
    rw [hinvalid] at hpattern
    cases hpattern
  · obtain ⟨names, e, hv, hf, rfl⟩ := resolveWith_error hwith
    exact ⟨_, e, ⟨call, hmem, names, hv, rfl⟩, hf, rfl⟩

/-- The one directory that fails is what the calls answer with. -/
theorem resolveAll_of_fails (hcompile : ∀ call ∈ calls, call.Compiles) {dir : Path} {e : AccessError}
    (hv : VisitedFor s sourceDir calls dir) (hf : Walk.Fails s.list dir e)
    (honce : Walk.FailsOnce s.list (VisitedFor s sourceDir calls)) :
    resolveAll s sourceDir calls = .error (.unlistable ⟨dir, e⟩) := by
  cases hall : resolveAll s sourceDir calls with
  | ok contexts =>
    obtain ⟨call, hmem, names, hwalk, rfl⟩ := hv
    obtain ⟨c, hcall⟩ := exists_resolveAll_iff.mp ⟨contexts, hall⟩ call hmem
    exact absurd hf (not_fails_of_resolve hcall hwalk e)
  | error error =>
    obtain ⟨dir', e', hv', hf', rfl⟩ := resolveAll_unlistable hcompile hall
    cases honce dir dir' e e' hv hv' hf hf'
    rw [hf.unique hf']

/-- If all filters are patterns, every call tells what it tells on its own, whichever others fail. -/
theorem resolutionAll_tells (hcompile : ∀ call ∈ calls, call.Compiles) :
    (resolutionAll s sourceDir calls).collisions =
      calls.flatMap fun call => (call.resolution s sourceDir).collisions := by
  have hboth : ∃ patterns, calls.mapM compileFilter = .ok patterns ∧
      ((calls.zip patterns).map fun x => x.1.resolutionWith s sourceDir x.2) =
        calls.map (·.resolution s sourceDir) := by
    induction calls with
    | nil => exact ⟨[], rfl, rfl⟩
    | cons call rest ih =>
      obtain ⟨⟨pattern, hpattern⟩, hrest⟩ := List.forall_mem_cons.mp hcompile
      obtain ⟨patterns, hpatterns, hsame⟩ := ih hrest
      refine ⟨pattern :: patterns, ?_, ?_⟩
      · rw [List.mapM_cons, hpattern, hpatterns]
        rfl
      · rw [List.zip_cons_cons, List.map_cons, List.map_cons, hsame, resolution, hpattern]
  obtain ⟨patterns, hpatterns, hsame⟩ := hboth
  simp only [resolutionAll, hpatterns, hsame, List.flatMap_map]

end ContextCall

/-! ## Whole files -/

namespace Source

variable {source : Source} {program : Program}

/-- A parsed file fails as its calls fail. -/
theorem expand_error_iff (hparse : source.parse = .ok program)
    (hmention : source.mentionsContext = true) {s : Storage} {error : ContextError} :
    source.expand s = .error error ↔
      ContextCall.resolveAll s source.directory (ContextCall.inProgram program) = .error error := by
  rw [expand, if_pos hmention, hparse]
  show source.expandProgram s program = .error error ↔ _
  unfold expandProgram
  split
  · next hnone =>
    rw [hnone]
    constructor <;> · intro h; cases h
  · rw [expandCalls_eq]
    split
    · next error' herror =>
      rw [herror]
      constructor <;> · intro h; cases h; rfl
    · next contexts hok =>
      rw [hok]
      constructor <;> · intro h; cases h

/-- Code is written for a file that has context calls, all of which resolve. -/
theorem expand_code_iff (hparse : source.parse = .ok program)
    (hmention : source.mentionsContext = true) {s : Storage} :
    (∃ report output, source.expand s = .ok report ∧ report.output = some output) ↔
      ContextCall.inProgram program ≠ [] ∧
        ∀ call ∈ ContextCall.inProgram program, ∃ c, call.resolve s source.directory = .ok c := by
  constructor
  · rintro ⟨report, output, hexpand, houtput⟩
    obtain ⟨program', hparse', hcalls, -⟩ := expand_output hexpand houtput
    cases hparse.symm.trans hparse'
    obtain ⟨program', hparse', contexts, hresolve, -⟩ := expand_resolved hexpand houtput
    cases hparse.symm.trans hparse'
    exact ⟨hcalls, ContextCall.exists_resolveAll_iff.mp ⟨contexts, hresolve⟩⟩
  · rintro ⟨hcalls, hall⟩
    obtain ⟨contexts, hresolve⟩ := ContextCall.exists_resolveAll_iff.mpr hall
    obtain ⟨report, output, hexpand, houtput, -⟩ :=
      expand_of_resolveAll hmention hparse hcalls hresolve
    exact ⟨report, output, hexpand, houtput⟩

/-- A file that is expanded reports every collision that it tells of. -/
theorem collisions_of_expand {s : Storage} {report : Report} (h : source.expand s = .ok report) :
    report.collisions = source.collisions s := by
  unfold expand at h
  unfold collisions
  cases hmention : source.mentionsContext with
  | false =>
    rw [hmention] at h
    cases h
    rfl
  | true =>
    rw [hmention] at h
    cases hparse : source.parse with
    | error e => rw [hparse] at h; cases h
    | ok program =>
      rw [hparse] at h
      simp only [if_true, expandProgram] at h
      split at h
      · next hnone =>
        cases h
        show [] = (ContextCall.resolutionAll s source.directory
          (ContextCall.inProgram program)).collisions
        rw [hnone]
        rfl
      · simp only [expandCalls] at h
        split at h
        · cases h
        · cases h
          rfl

/-- What is told of collisions is a matter of each call, also if another one fails. -/
theorem collisions_eq (hparse : source.parse = .ok program) (hmention : source.mentionsContext = true)
    (hcompile : ∀ call ∈ ContextCall.inProgram program, call.Compiles) (s : Storage) :
    source.collisions s = (ContextCall.inProgram program).flatMap fun call =>
      (call.resolution s source.directory).collisions := by
  rw [collisions, hmention, hparse]
  exact ContextCall.resolutionAll_tells hcompile

/-- A file whose text mentions a context is expanded as a whole or not at all. It passes through if it
has no context calls. Code is written if it has some and each resolves on its own; every call is then
replaced by the accessor of what it resolves to on its own. Otherwise the first filter that is no
pattern is the answer, whatever fails to list; and if there is none, a directory that a call visits and
that fails, the only one if there is one alone. -/
theorem expand_all_or_nothing (hparse : source.parse = .ok program)
    (hmention : source.mentionsContext = true) (s : Storage) :
    ((∃ report, source.expand s = .ok report ∧ report.output = none) ↔
      ContextCall.inProgram program = []) ∧
    ((∃ report output, source.expand s = .ok report ∧ report.output = some output) ↔
      ContextCall.inProgram program ≠ [] ∧
        ∀ call ∈ ContextCall.inProgram program, ∃ c, call.resolve s source.directory = .ok c) ∧
    (∀ report output, source.expand s = .ok report → report.output = some output →
      ∃ contexts body, List.Forall₂ (fun call c => call.resolve s source.directory = .ok c)
          (ContextCall.inProgram program) contexts ∧
        output.code = ({ program with body := ResolvedContext.imports contexts ++ body } :
          Program).print ∧
        ∀ other, Splice.ReplacesAll ((ContextCall.inProgram program).zip contexts) program.body
          other ↔ other = body) ∧
    (∀ front call back error, ContextCall.inProgram program = front ++ call :: back →
      (∀ c ∈ front, c.Compiles) → call.compileFilter = .error error →
      source.expand s = .error error ∧
        ∃ f fault, call.filter = some f ∧ error = .invalidPattern f fault) ∧
    ((∀ call ∈ ContextCall.inProgram program, call.Compiles) →
      (∀ error, source.expand s = .error error → ∃ dir e,
        ContextCall.VisitedFor s source.directory (ContextCall.inProgram program) dir ∧
          Walk.Fails s.list dir e ∧ error = .unlistable ⟨dir, e⟩) ∧
      ∀ dir e, ContextCall.VisitedFor s source.directory (ContextCall.inProgram program) dir →
        Walk.Fails s.list dir e →
        Walk.FailsOnce s.list
          (ContextCall.VisitedFor s source.directory (ContextCall.inProgram program)) →
        source.expand s = .error (.unlistable ⟨dir, e⟩)) := by
  refine ⟨?_, expand_code_iff hparse hmention, ?_, ?_, fun hcompile => ⟨?_, ?_⟩⟩
  · rw [expand_passes hparse, ← mentionsContext_iff]
    exact ⟨fun h => h.resolve_left fun hn => hn hmention, .inr⟩
  · intro report output hexpand houtput
    obtain ⟨program', contexts, body, hparse', hrest⟩ := expand_code hexpand houtput
    cases hparse.symm.trans hparse'
    exact ⟨contexts, body, hrest⟩
  · intro front call back error hcalls hfront hcall
    refine ⟨(expand_error_iff hparse hmention).mpr ?_, ContextCall.compileFilter_error hcall⟩
    rw [hcalls]
    exact ContextCall.resolveAll_invalid hfront hcall
  · intro error herror
    exact ContextCall.resolveAll_unlistable hcompile ((expand_error_iff hparse hmention).mp herror)
  · intro dir e hv hf honce
    exact (expand_error_iff hparse hmention).mpr
      (ContextCall.resolveAll_of_fails hcompile hv hf honce)

end Source

/-- A file that asks for two directories. -/
def pairSource : Source := ⟨.ofString "/a.js", "require.context('./d');require.context('./e')"⟩

/-- The same with a filter for the second one that is no pattern. -/
def unmatchedSource : Source :=
  ⟨.ofString "/a.js", "require.context('./d');require.context('./e', true, /(?=a)/)"⟩

/-- The first directory is closed to readers. -/
def barredStorage : Storage :=
  ((Storage.empty.put (.ofString "/e/y.js") (.file [])).put (.ofString "/d") .directory).obstruct
    (.ofString "/d") ⟨.system 13, none⟩

theorem Source.expand_all_or_nothing_barred :
    pairSource.expand barredStorage = .error (.unlistable ⟨.ofString "/d", .system 13⟩) ∧
    ∃ fault, unmatchedSource.expand barredStorage =
      .error (.invalidPattern ⟨"(?=a)", ""⟩ fault) := by
  let first : ContextCall := ⟨⟨0, 22⟩, "./d", true, none⟩
  have hplain : pairSource.parse.toOption.map ContextCall.inProgram =
      some [first, ⟨⟨23, 45⟩, "./e", true, none⟩] := by decide +kernel
  have hmatched : unmatchedSource.parse.toOption.map ContextCall.inProgram =
      some [first, ⟨⟨23, 60⟩, "./e", true, some ⟨"(?=a)", ""⟩⟩] := by decide +kernel
  constructor
  · obtain ⟨program, hparse, hcalls⟩ := Option.map_eq_some_iff.mp hplain
    have hclosed : barredStorage.list (.ofString "/d") = .error (.system 13) := by decide +kernel
    have hd : first.targetDirectory pairSource.directory = .ofString "/d" := by decide +kernel
    have he : (⟨⟨23, 45⟩, "./e", true, none⟩ : ContextCall).targetDirectory pairSource.directory =
        .ofString "/e" := by decide +kernel
    have hends := Walk.ends_files barredStorage (.ofString "/e") true (ContextCall.accepts none)
    have hfound : barredStorage.files (.ofString "/e") true (ContextCall.accepts none) =
        .ok [.ofString "/e/y.js"] := by decide +kernel
    -- nothing is visited behind the closed directory, and nothing else fails
    have hone : ∀ dir e, ContextCall.VisitedFor barredStorage pairSource.directory
        (ContextCall.inProgram program) dir → Walk.Fails barredStorage.list dir e →
          dir = .ofString "/d" := by
      rintro dir e ⟨call, hcall, names, hwalk, rfl⟩ hfails
      rw [hcalls, List.mem_pair] at hcall
      rcases hcall with rfl | rfl
      · rw [hd] at hwalk ⊢
        cases hwalk with
        | start => rfl
        | step _ opened => rw [hclosed] at opened; cases opened
      · rw [he] at hwalk hfails
        exact absurd hfails (hends.not_fails _ hfound names hwalk e)
    refine ((expand_all_or_nothing (Traversal.ok_of_toOption hparse) (by decide +kernel)
      barredStorage).2.2.2.2 ?_).2 (.ofString "/d") (.system 13) ?_ (.opening hclosed (by decide)) ?_
    · intro call hcall
      rw [hcalls, List.mem_pair] at hcall
      rcases hcall with rfl | rfl
      · exact ⟨none, rfl⟩
      · exact ⟨none, rfl⟩
    · exact ⟨first, by simp [hcalls], [], hd ▸ .start _, hd.symm⟩
    · intro dir dir' e e' hv hv' hf hf'
      rw [hone dir e hv hf, hone dir' e' hv' hf']
  · obtain ⟨program, hparse, hcalls⟩ := Option.map_eq_some_iff.mp hmatched
    have hinvalid : (⟨⟨23, 60⟩, "./e", true, some ⟨"(?=a)", ""⟩⟩ :
        ContextCall).compileFilter.toOption = none := by decide +kernel
    cases hcompile : (⟨⟨23, 60⟩, "./e", true, some ⟨"(?=a)", ""⟩⟩ : ContextCall).compileFilter with
    | ok pattern => rw [hcompile] at hinvalid; cases hinvalid
    | error error =>
      obtain ⟨hexpand, f, fault, hf, rfl⟩ := (expand_all_or_nothing
        (Traversal.ok_of_toOption hparse) (by decide +kernel) barredStorage).2.2.2.1 [first] _ []
          error hcalls (by simpa using ⟨none, rfl⟩) hcompile
      cases hf
      exact ⟨fault, hexpand⟩

/-- Two context calls with comments before their dots. -/
def commentedPair : Source :=
  ⟨.ofString "/a.js", "require/**/.context('./x');require/**/.context('./y')"⟩

/-- Both calls resolve, and no code is written: the file passes through. -/
theorem Source.hides_resolved : ∃ program, commentedPair.parse = .ok program ∧
    (ContextCall.inProgram program).length = 2 ∧
    (∀ call ∈ ContextCall.inProgram program, ∃ c,
      call.resolve .empty commentedPair.directory = .ok c) ∧
    ¬ ∃ report output, commentedPair.expand .empty = .ok report ∧ report.output = some output := by
  have hcalls : commentedPair.parse.toOption.map ContextCall.inProgram =
      some [⟨⟨0, 26⟩, "./x", true, none⟩, ⟨⟨27, 53⟩, "./y", true, none⟩] := by decide +kernel
  obtain ⟨program, hparse, hcalls⟩ := Option.map_eq_some_iff.mp hcalls
  have hresolve : ContextCall.resolveAll .empty commentedPair.directory
      [⟨⟨0, 26⟩, "./x", true, none⟩, ⟨⟨27, 53⟩, "./y", true, none⟩] =
        .ok [⟨.ofString "/x", []⟩, ⟨.ofString "/y", []⟩] :=
    Traversal.ok_of_toOption (by decide +kernel)
  refine ⟨program, Traversal.ok_of_toOption hparse, by rw [hcalls]; rfl, ?_, ?_⟩
  · rw [hcalls]
    exact ContextCall.exists_resolveAll_iff.mp ⟨_, hresolve⟩
  · rintro ⟨report, output, hexpand, houtput⟩
    have hmention : commentedPair.mentionsContext = false := by decide +kernel
    rw [expand, hmention] at hexpand
    cases hexpand
    cases houtput

end StaticContext
