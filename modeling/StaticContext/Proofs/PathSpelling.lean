import StaticContext.Proofs.Loading
import StaticContext.Proofs.SessionTracking

/-! # The same file by other names

An expansion sees the path of its source through its components, so repeated slashes and `.` make no
difference but in messages. A load normalizes the path first and an expansion does not: where the
path climbs, both end alike and look into the same directories, but the specifiers of the expansion
are reckoned from the directory as it is spelled. -/

namespace StaticContext
open StaticContext.Path

/-! ## Reports on a source under another path -/

/-- The error as it is told about the file at another path. -/
def ContextError.about (path : Path) : ContextError → ContextError
  | .unparsable _ position cause => .unparsable path position cause
  | e => e

def Event.about (path : Path) : Event → Event
  | .noMention _ => .noMention path
  | .noCall _ => .noCall path
  | .resolved _ position directory modules => .resolved path position directory modules
  | .expanded calls _ => .expanded calls path
  | e => e

def Report.about (path : Path) (r : Report) : Report := { r with events := r.events.map (Event.about path) }

/-- What an expansion gives, as it is told about the file at another path. -/
def Report.resultAbout (path : Path) : Except ContextError Report → Except ContextError Report
  | .error e => .error (e.about path)
  | .ok r => .ok (r.about path)

/-- None if the file passes through. -/
def Report.directories? (r : Report) : Option (List Path) := r.output.map Output.directories

namespace Path

theorem parent_congr {p q : Path} (h : p.components = q.components) : p.parent = q.parent := by
  unfold parent
  rw [h]

theorem extension?_congr {p q : Path} (h : p.components.getLast? = q.components.getLast?) :
    p.extension? = q.extension? := by
  have hname : p.fileName? = q.fileName? := by
    unfold fileName?
    rw [h]
  unfold extension?
  rw [hname]

end Path

namespace Source

variable {text : String} {s : Storage} {p path : Path}

theorem parse_about (h : path.components.getLast? = p.components.getLast?) :
    (⟨path, text⟩ : Source).parse =
      match (⟨p, text⟩ : Source).parse with
      | .ok program => .ok program
      | .error e => .error (e.about path) := by
  have hdialect : (⟨path, text⟩ : Source).dialect = (⟨p, text⟩ : Source).dialect := by
    unfold dialect
    rw [show path.extension? = p.extension? from extension?_congr h]
  unfold parse
  rw [hdialect]
  cases Script.Program.parse (⟨p, text⟩ : Source).dialect text.toList <;> rfl

theorem resolvedEvents_about (text : String) (p path : Path) (calls : List ContextCall)
    (contexts : List ResolvedContext) :
    (⟨path, text⟩ : Source).resolvedEvents calls contexts =
      ((⟨p, text⟩ : Source).resolvedEvents calls contexts).map (Event.about path) := by
  rw [resolvedEvents, resolvedEvents, List.map_map]
  rfl

/-- What keeps calls from resolving is not told about their file. -/
theorem resolveAll_about {sourceDir : Path} {calls : List ContextCall} {e : ContextError}
    (h : ContextCall.resolveAll s sourceDir calls = .error e) (path : Path) : e.about path = e := by
  rcases ContextCall.resolveAll_error h with ⟨call, -, hcompile⟩ | ⟨call, -, pattern, hresolve⟩
  · unfold ContextCall.compileFilter at hcompile
    split at hcompile
    · cases hcompile
    · next filter _ =>
      have hfilter := Traversal.eq_error_of_map hcompile
      simp only [Filter.compile] at hfilter
      split at hfilter
      · cases hfilter
      · cases hfilter
        rfl
  · rw [ContextCall.resolveWith_eq] at hresolve
    split at hresolve
    · cases hresolve
      rfl
    · cases hresolve

/-- An expansion depends on the path of its source through the components. -/
theorem expand_about (h : path.components = p.components) :
    (⟨path, text⟩ : Source).expand s = Report.resultAbout path ((⟨p, text⟩ : Source).expand s) := by
  have hdirectory : (⟨path, text⟩ : Source).directory = (⟨p, text⟩ : Source).directory := parent_congr h
  have hmention : (⟨path, text⟩ : Source).mentionsContext = (⟨p, text⟩ : Source).mentionsContext := rfl
  unfold expand
  rw [hmention, parse_about (congrArg List.getLast? h)]
  cases (⟨p, text⟩ : Source).mentionsContext with
  | false => rfl
  | true =>
    simp only [if_true]
    cases (⟨p, text⟩ : Source).parse with
    | error e => rfl
    | ok program =>
      simp only [expandProgram]
      cases ContextCall.inProgram program with
      | nil => rfl
      | cons call calls =>
        simp only [expandCalls_eq, hdirectory]
        cases hresolve : ContextCall.resolveAll s (⟨p, text⟩ : Source).directory (call :: calls) with
        | error e => exact congrArg Except.error (resolveAll_about hresolve path).symm
        | ok contexts =>
          rw [Report.resultAbout, Report.about, List.map_append, ← resolvedEvents_about text p path]
          rfl

/-- Whether an expansion succeeds, and which directories it gives, depends on what the calls mean. -/
theorem directories?_about (hlast : path.components.getLast? = p.components.getLast?)
    (htarget : ∀ call : ContextCall, call.targetDirectory (⟨path, text⟩ : Source).directory =
      call.targetDirectory (⟨p, text⟩ : Source).directory) :
    ((⟨path, text⟩ : Source).expand s).map Report.directories? =
      (Report.resultAbout path ((⟨p, text⟩ : Source).expand s)).map Report.directories? := by
  have hmention : (⟨path, text⟩ : Source).mentionsContext = (⟨p, text⟩ : Source).mentionsContext := rfl
  unfold expand
  rw [hmention, parse_about hlast]
  cases (⟨p, text⟩ : Source).mentionsContext with
  | false => rfl
  | true =>
    simp only [if_true]
    cases (⟨p, text⟩ : Source).parse with
    | error e => rfl
    | ok program =>
      simp only [expandProgram]
      cases ContextCall.inProgram program with
      | nil => rfl
      | cons call calls =>
        have hcalls := ContextCall.resolveAll_directories_congr s (call :: calls) htarget
        simp only [expandCalls_eq]
        cases hresolve : ContextCall.resolveAll s (⟨p, text⟩ : Source).directory (call :: calls) with
        | error e =>
          rw [hresolve] at hcalls
          rw [Traversal.eq_error_of_map hcalls]
          exact congrArg Except.error (resolveAll_about hresolve path).symm
        | ok contexts =>
          rw [hresolve] at hcalls
          obtain ⟨contexts', hresolve', hdirectories⟩ := Traversal.eq_ok_of_map hcalls
          rw [hresolve']
          refine congrArg (fun ds => Except.ok (some ds)) ?_
          show firstOfEach Path.same _ = firstOfEach Path.same _
          rw [hdirectories]

end Source

/-! ## Sources that climb -/

namespace Path

/-- To join to a directory is to join to what it collapses to. -/
theorem join_normalize {base : Path} (h : base.isAbsolute = true) (child : Path) :
    base.normalize.join child = base.join child := by
  refine eq_of_same (normalize_join _ _) (normalize_join _ _) (same_iff.mpr ?_)
  rw [components_join (isAbsolute_normalize h), components_join h, components_normalize]
  split
  · rfl
  · exact collapse_collapse_append (spelled_components base) _

variable {p : Path} {cs : List Component} {n : FileName}

/-- A path that does not climb stays the same place as it is normalized. -/
theorem components_normalize_of_downward (habs : p.isAbsolute = true) (hup : .up ∉ p.components) :
    p.normalize.components = p.components := by
  obtain ⟨names, hnames⟩ := exists_named_of_downward hup
  rw [components_normalize, components_of_isAbsolute habs, hnames, collapse_rooted]

theorem components_normalize_name (h : p.components = cs ++ [.name n]) :
    p.normalize.components = collapse cs ++ [.name n] := by
  rw [components_normalize, h, collapse_append_name]

theorem isAbsolute_parent (habs : p.isAbsolute = true) (h : p.components = cs ++ [.name n]) :
    p.parent.isAbsolute = true := by
  rw [isAbsolute_iff, h] at habs
  rw [isAbsolute_iff, components_parent h]
  cases cs with
  | nil => cases habs
  | cons c rest => exact habs

theorem parent_normalize (h : p.components = cs ++ [.name n]) :
    p.normalize.parent = p.parent.normalize := by
  have hright : p.parent.normalize = ofComponents (collapse cs) := by
    rw [normalize, components_parent h]
  rw [hright]
  simp [parent, components_normalize_name h]

end Path

namespace Source

/-- The calls of a file at an absolute path mean the same directories wherever the path climbs. -/
theorem targetDirectory_normalize {p : Path} {text : String} {cs : List Component} {n : FileName}
    (habs : p.isAbsolute = true) (h : p.components = cs ++ [.name n]) (call : ContextCall) :
    call.targetDirectory (⟨p.normalize, text⟩ : Source).directory =
      call.targetDirectory (⟨p, text⟩ : Source).directory := by
  have hdirectory : (⟨p.normalize, text⟩ : Source).directory = p.parent.normalize :=
    parent_normalize h
  rw [hdirectory]
  exact join_normalize (isAbsolute_parent habs h) _

end Source

/-! ## Loads -/

theorem Source.load_of_read {s : Storage} {p : Path} {text : String} {wd : AbsolutePath}
    (hwd : s.workingDirectory = some wd) (habs : p.isAbsolute = true)
    (hread : s.read p.normalize = .ok text) : Source.load s p = .ok ⟨p.normalize, text⟩ := by
  have hfile : p.from? s.workingDirectory = some p.normalize := by
    rw [hwd]
    exact congrArg (fun q => some q.normalize) (append_of_isAbsolute wd.path habs)
  unfold load
  rw [hfile]
  simp only [hread]

namespace Plugin

/-- What a load gives is what the expansion of the source that it reads gives. -/
theorem load_eq_expand (plugin : Plugin) {s : Storage} {path : Path} {source : Source}
    (h : Source.load s path = .ok source) : (plugin.load s path).1 = source.expand s := by
  cases hexpand : source.expand s with
  | ok r => exact load_ok.mpr ⟨source, h, hexpand⟩
  | error e =>
    have hreport : report s path = .error e := by
      unfold report
      rw [h]
      show (source.expand s).bind _ = _
      rw [hexpand]
      rfl
    unfold load
    rw [hreport]

/-- A load of a file at an absolute path and an expansion of its text at that path. Unless the path
climbs they give the same, but for how messages spell the path. If it climbs and goes down to a name,
they pass the file through together, fail together with the same error, and have the same directories,
which the load records. A load asks for the working directory all the same. -/
theorem load_expands (plugin : Plugin) {s : Storage} {p : Path} {text : String}
    (habs : p.isAbsolute = true) (hread : s.read p.normalize = .ok text) :
    (s.workingDirectory = none →
      plugin.load s p = (.error (.unreadable p .missing), plugin)) ∧
    ∀ wd, s.workingDirectory = some wd →
      (.up ∉ p.components → (plugin.load s p).1 =
        Report.resultAbout p.normalize ((⟨p, text⟩ : Source).expand s)) ∧
      ∀ cs n, p.components = cs ++ [.name n] →
        (plugin.load s p).1.map Report.directories? =
          (Report.resultAbout p.normalize ((⟨p, text⟩ : Source).expand s)).map
            Report.directories? ∧
        ∀ r, (⟨p, text⟩ : Source).expand s = .ok r →
          (plugin.load s p).2.tracker.directoriesFor p.normalize = r.directories? := by
  constructor
  · intro hwd
    have hload : Source.load s p = .error (.unreadable p .missing) := by
      unfold Source.load
      rw [hwd]
      rfl
    have hreport : report s p = .error (.unreadable p .missing) := by
      unfold report
      rw [hload]
      rfl
    unfold load
    rw [hreport]
  · intro wd hwd
    have hload := Source.load_of_read hwd habs hread
    rw [load_eq_expand plugin hload]
    refine ⟨fun hup => Source.expand_about (components_normalize_of_downward habs hup), ?_⟩
    intro cs n hcomponents
    have hlast : p.normalize.components.getLast? = p.components.getLast? := by
      rw [components_normalize_name hcomponents, hcomponents, List.getLast?_concat,
        List.getLast?_concat]
    have hdirectories : ((⟨p.normalize, text⟩ : Source).expand s).map Report.directories? =
        (Report.resultAbout p.normalize ((⟨p, text⟩ : Source).expand s)).map Report.directories? :=
      Source.directories?_about hlast (Source.targetDirectory_normalize habs hcomponents)
    refine ⟨hdirectories, fun r hr => ?_⟩
    rw [hr] at hdirectories
    obtain ⟨r', hr', heq⟩ := Traversal.eq_ok_of_map hdirectories
    rw [tracker_load hload hr', Session.directoriesFor_follow]
    exact (if_pos rfl).trans heq

/-- A file that brings in a directory below its own and one beside it. -/
def besideText : String := "require.context('./x');\nrequire.context('../a/y');\n"

def besidePlaces : Storage :=
  ((Storage.empty.put (.ofString "/r/b/app.js") (.file besideText.toUTF8.toList)).put
    (.ofString "/r/b/x/f.js") (.file [])).put (.ofString "/r/a/y/g.js") (.file [])

/-- `/r/b/app.js`, with repeated slashes and with a detour. -/
theorem load_expands_beside :
    ((new default).load besidePlaces (.ofString "/r/./b//app.js")).1 =
      Report.resultAbout (.ofString "/r/b/app.js")
        ((⟨.ofString "/r/./b//app.js", besideText⟩ : Source).expand besidePlaces) ∧
    ((new default).load besidePlaces (.ofString "/r/a/../b/app.js")).1.map Report.directories? =
      (Report.resultAbout (.ofString "/r/b/app.js")
        ((⟨.ofString "/r/a/../b/app.js", besideText⟩ : Source).expand besidePlaces)).map
          Report.directories? := by
  have hplain : (Path.ofString "/r/./b//app.js").normalize = .ofString "/r/b/app.js" := by
    decide +kernel
  have hdetour : (Path.ofString "/r/a/../b/app.js").normalize = .ofString "/r/b/app.js" := by
    decide +kernel
  have hread : besidePlaces.read (.ofString "/r/b/app.js") = .ok besideText :=
    Traversal.ok_of_toOption (by decide +kernel)
  have hwd : besidePlaces.workingDirectory.isSome = true := by decide +kernel
  obtain ⟨wd, hwd⟩ := Option.isSome_iff_exists.mp hwd
  obtain ⟨-, hloads⟩ := load_expands (new default) (p := .ofString "/r/./b//app.js")
    (by decide +kernel) (hplain ▸ hread)
  obtain ⟨-, hloads'⟩ := load_expands (new default) (p := .ofString "/r/a/../b/app.js")
    (by decide +kernel) (hdetour ▸ hread)
  constructor
  · rw [← hplain]
    exact (hloads wd hwd).1 (by decide +kernel)
  · rw [← hdetour]
    let n : FileName := ⟨"app.js".toUTF8.toList, by decide +kernel⟩
    have hname : ((Path.ofString "/r/a/../b/app.js").components.dropLast ++ [.name n]) =
        (Path.ofString "/r/a/../b/app.js").components := by decide +kernel
    exact ((hloads' wd hwd).2 _ n hname.symm).1

/-- Where the path climbs, a load and an expansion of the same text write different code: the
specifiers of the expansion lead elsewhere, and modules are lost. -/
theorem load_expands_apart : ¬ ∀ (plugin : Plugin) (s : Storage) (p : Path) (text : String)
    (wd : AbsolutePath), p.isAbsolute = true → s.workingDirectory = some wd →
      s.read p.normalize = .ok text →
      (plugin.load s p).1.map Report.output =
        ((⟨p, text⟩ : Source).expand s).map Report.output := by
  intro h
  have hread : besidePlaces.read (Path.ofString "/r/a/../b/app.js").normalize = .ok besideText :=
    Traversal.ok_of_toOption (by decide +kernel)
  have hwd : besidePlaces.workingDirectory.isSome = true := by decide +kernel
  obtain ⟨wd, hwd⟩ := Option.isSome_iff_exists.mp hwd
  have hsame := h (new default) besidePlaces (.ofString "/r/a/../b/app.js") besideText wd
    (by decide +kernel) hwd hread
  have hapart : ((new default).load besidePlaces (.ofString "/r/a/../b/app.js")).1.map
      Report.output ≠
        ((⟨.ofString "/r/a/../b/app.js", besideText⟩ : Source).expand besidePlaces).map
          Report.output := by decide +kernel
  exact hapart hsame

end Plugin
end StaticContext
