import StaticContext.Proofs.Loading
import StaticContext.Proofs.StepwiseSearch

/-! # A load, step by step

A load reads its source, searches the directories of all its context calls, one directory at a time
and in any order, and joins what it found; it is then ready to write. None of these steps looks at
the tracker. A directory that fails ends the load at once, whatever else is due; if there is no second
one, the load is going to end from the start as it ends undisturbed. -/

namespace StaticContext
open StaticContext.Path

/-! ## The search for one call -/

/-- The search for the files of a context call whose filter is compiled. -/
structure Search where
  call : ContextCall
  pattern : Option Pattern
  items : List Walk.Item

namespace Search

def begin (sourceDir : Path) (call : ContextCall × Option Pattern) : Search :=
  ⟨call.1, call.2, [.due (call.1.targetDirectory sourceDir)]⟩

def context (sourceDir : Path) (search : Search) (files : List Path) : ResolvedContext :=
  ⟨search.call.targetDirectory sourceDir,
    files.filterMap (ContextModule.ofFile? sourceDir (search.call.targetDirectory sourceDir))⟩

/-- What the call is going to resolve to. -/
def resolve (s : Storage) (sourceDir : Path) (search : Search) :
    Except ContextError ResolvedContext :=
  match Walk.filesOn search.call.recursive (ContextCall.accepts search.pattern) s search.items with
  | .error e => .error (.unlistable e)
  | .ok files => .ok (search.context sourceDir files)

/-- One of several searches lists a directory. -/
inductive Lists (s : Storage) : List Search → List Search → Prop where
  | intro {before after : List Search} {search : Search} {items : List Walk.Item}
      (lists : Walk.Lists search.call.recursive (ContextCall.accepts search.pattern) s.list
        search.items items) :
      Lists s (before ++ search :: after) (before ++ { search with items := items } :: after)

theorem resolve_begin (s : Storage) (sourceDir : Path) (call : ContextCall × Option Pattern) :
    (begin sourceDir call).resolve s sourceDir = call.1.resolveWith s sourceDir call.2 := by
  unfold resolve
  simp only [begin, ContextCall.resolveWith_eq, Walk.filesOn_cons, Walk.Item.files]
  cases s.files (call.1.targetDirectory sourceDir) call.1.recursive
      (ContextCall.accepts call.2) with
  | error e => rfl
  | ok files => simp [Walk.filesOn, context, Except.bind, Except.map, pure, Except.pure]

theorem Lists.resolve_eq {s : Storage} {searches searches' : List Search}
    (h : Lists s searches searches') (sourceDir : Path) :
    searches'.mapM (resolve s sourceDir) = searches.mapM (resolve s sourceDir) := by
  cases h with
  | @intro before after search items lists =>
    have hsame : resolve s sourceDir { search with items := items } =
        resolve s sourceDir search := by
      simp only [resolve, context, lists.filesOn_eq]
    rw [List.mapM_append, List.mapM_append, List.mapM_cons, List.mapM_cons, hsame]

theorem resolve_error {s : Storage} {sourceDir : Path} {search : Search} {error : ContextError}
    (h : search.resolve s sourceDir = .error error) :
    ∃ dir e, Walk.WillVisit s.list search.call.recursive search.items dir ∧
      Walk.Fails s.list dir e ∧ error = .unlistable ⟨dir, e⟩ := by
  unfold resolve at h
  split at h
  · next listingError hfiles =>
    cases h
    obtain ⟨dir, e, hv, hf, rfl⟩ := Walk.filesOn_error hfiles
    exact ⟨dir, e, hv, hf, rfl⟩
  · cases h

theorem not_fails_of_resolve {s : Storage} {sourceDir : Path} {search : Search}
    {c : ResolvedContext} (h : search.resolve s sourceDir = .ok c) {dir : Path}
    (hv : Walk.WillVisit s.list search.call.recursive search.items dir) (e : AccessError) :
    ¬ Walk.Fails s.list dir e := by
  unfold resolve at h
  split at h
  · cases h
  · next files hfiles => exact Walk.not_fails_of_filesOn hfiles hv e

/-- A search with nothing due has the files it found. -/
theorem resolve_of_found {s : Storage} {sourceDir : Path} {search : Search}
    (h : ∀ dir, .due dir ∉ search.items) :
    search.resolve s sourceDir =
      .ok (search.context sourceDir (search.items.filterMap Walk.Item.file?)) := by
  unfold resolve
  rw [Walk.filesOn_of_found h]

/-- What is left to do. -/
def workOf (s : Storage) (searches : List Search) : Nat :=
  (searches.map fun search => Walk.workOn s search.items).sum

theorem Lists.work_lt {s : Storage} {searches searches' : List Search}
    (h : Lists s searches searches') : workOf s searches' < workOf s searches := by
  cases h with
  | intro lists =>
    have hlt := lists.work_lt
    simp only [workOf, List.map_append, List.map_cons, List.sum_append, List.sum_cons]
    omega

end Search

/-! ## Directories that are listed -/

/-- A directory that a load lists: one that the walk for a context call of its source visits. -/
inductive Plugin.Visits (s : Storage) (path : Path) : Path → Prop where
  | intro {source : Source} {program : Script.Program} {call : ContextCall} {names : List FileName}
      (loaded : Source.load s path = .ok source) (mentions : source.mentionsContext = true)
      (parsed : source.parse = .ok program) (found : call ∈ ContextCall.inProgram program)
      (compiled : ∀ call ∈ ContextCall.inProgram program, ∃ pattern,
        call.compileFilter = .ok pattern)
      (visits : Walk.Visits s.list call.recursive (call.targetDirectory source.directory) names) :
      Visits s path ((call.targetDirectory source.directory).descend names)

/-- Of the directories that are visited one fails at most. -/
def Walk.FailsOnce (list : Path → Except AccessError Listing) (visits : Path → Prop) : Prop :=
  ∀ dir dir' e e', visits dir → visits dir' → Fails list dir e → Fails list dir' e' → dir = dir'

theorem Walk.FailsOnce.mono {list : Path → Except AccessError Listing} {visits visits' : Path → Prop}
    (h : FailsOnce list visits) (hsub : ∀ dir, visits' dir → visits dir) : FailsOnce list visits' :=
  fun dir dir' e e' hv hv' => h dir dir' e e' (hsub dir hv) (hsub dir' hv')

/-! ## The steps of a load -/

/-- The report on a file with the contexts that its calls resolved to. -/
def Source.reportOn (source : Source) (program : Script.Program)
    (contexts : List ResolvedContext) : Report where
  output := some ⟨(program.withContexts (ContextCall.inProgram program) contexts).print,
    ResolvedContext.directories contexts⟩
  events := source.resolvedEvents (ContextCall.inProgram program) contexts ++
    [.expanded (ContextCall.inProgram program).length source.path]
  collisions := contexts.flatMap ResolvedContext.collisions

/-- How far a load has come. -/
inductive Load where
  | asked (path : Path)
  | searching (source : Source) (program : Script.Program) (searches : List Search)
  /-- All but the tracker is done. -/
  | writing (source : Source) (report : Report)
  | ended (outcome : Except ContextError (Source × Report))

namespace Load

/-- A load whose source is parsed; every filter is compiled before any directory is listed. -/
def begun (source : Source) (program : Script.Program) : Load :=
  match ContextCall.inProgram program with
  | [] => .writing source ⟨none, [.noCall source.path], []⟩
  | calls =>
    match calls.mapM ContextCall.compileFilter with
    | .error e => .ended (.error e)
    | .ok patterns =>
      .searching source program ((calls.zip patterns).map (Search.begin source.directory))

/-- A load whose source is read. -/
def read (s : Storage) (path : Path) : Load :=
  match Source.load s path with
  | .error e => .ended (.error e)
  | .ok source =>
    if source.mentionsContext then
      match source.parse with
      | .error e => .ended (.error e)
      | .ok program => begun source program
    else .writing source ⟨none, [.noMention source.path], []⟩

/-- A step of one load, which concerns no other. -/
inductive Works (s : Storage) : Load → Load → Prop where
  | reads {path : Path} : Works s (.asked path) (read s path)
  | lists {source : Source} {program : Script.Program} {searches searches' : List Search}
      (lists : Search.Lists s searches searches') :
      Works s (.searching source program searches) (.searching source program searches')
  | breaks {source : Source} {program : Script.Program} {searches : List Search} {search : Search}
      {dir : Path} {e : AccessError} (member : search ∈ searches) (due : .due dir ∈ search.items)
      (fails : Walk.Fails s.list dir e) :
      Works s (.searching source program searches) (.ended (.error (.unlistable ⟨dir, e⟩)))
  | joins {source : Source} {program : Script.Program} {searches : List Search}
      (all : ∀ search ∈ searches, ∀ dir, .due dir ∉ search.items) :
      Works s (.searching source program searches)
        (.writing source (source.reportOn program (searches.map fun search =>
          search.context source.directory (search.items.filterMap Walk.Item.file?))))

/-- How a load is going to end. -/
def outcome (s : Storage) : Load → Except ContextError (Source × Report)
  | .asked path => Plugin.report s path
  | .searching source program searches =>
    (searches.mapM (Search.resolve s source.directory)).map fun contexts =>
      (source, source.reportOn program contexts)
  | .writing source report => .ok (source, report)
  | .ended outcome => outcome

theorem outcome_begun (s : Storage) (source : Source) (program : Script.Program) :
    (begun source program).outcome s = (source.expandProgram s program).map (source, ·) := by
  unfold begun Source.expandProgram
  cases hcalls : ContextCall.inProgram program with
  | nil => rfl
  | cons call rest =>
    simp only [Source.expandCalls_eq, ContextCall.resolveAll_eq]
    cases (call :: rest).mapM ContextCall.compileFilter with
    | error e => rfl
    | ok patterns =>
      have hresolve : (((call :: rest).zip patterns).map (Search.begin source.directory)).mapM
          (Search.resolve s source.directory) =
          ((call :: rest).zip patterns).mapM fun x => x.1.resolveWith s source.directory x.2 := by
        rw [List.mapM_map]
        exact Traversal.mapM_congr fun x _ => Search.resolve_begin s source.directory x
      simp only [outcome, hresolve, Except.bind]
      cases ((call :: rest).zip patterns).mapM
          fun x => x.1.resolveWith s source.directory x.2 with
      | error e => rfl
      | ok contexts => simp [Except.map, Source.reportOn, hcalls]

theorem outcome_read (s : Storage) (path : Path) :
    (read s path).outcome s = Plugin.report s path := by
  unfold read Plugin.report
  cases Source.load s path with
  | error e => rfl
  | ok source =>
    simp only [bind, Except.bind, Source.expand]
    by_cases hmention : source.mentionsContext = true
    · simp only [hmention, if_true]
      cases source.parse with
      | error e => rfl
      | ok program =>
        simp only [outcome_begun]
        cases source.expandProgram s program <;> rfl
    · simp only [hmention]
      rfl

/-! ## Directories that are still due -/

/-- A directory that a load is still going to list. -/
def WillVisit (s : Storage) : Load → Path → Prop
  | .asked path, dir => Plugin.Visits s path dir
  | .searching _ _ searches, dir =>
    ∃ search ∈ searches, Walk.WillVisit s.list search.call.recursive search.items dir
  | .writing .., _ | .ended _, _ => False

theorem willVisit_begun {s : Storage} {path : Path} {source : Source} {program : Script.Program}
    (hload : Source.load s path = .ok source) (hmention : source.mentionsContext = true)
    (hparse : source.parse = .ok program) {dir : Path}
    (h : (begun source program).WillVisit s dir) : Plugin.Visits s path dir := by
  unfold begun at h
  split at h
  · cases h
  · split at h
    · cases h
    · next patterns hpatterns =>
      obtain ⟨search, hm, top, names, hdue, hv, rfl⟩ := h
      obtain ⟨⟨call, pattern⟩, hcall, rfl⟩ := List.mem_map.mp hm
      cases List.mem_singleton.mp hdue
      exact .intro hload hmention hparse (List.of_mem_zip hcall).1
        (fun call hcall => Traversal.ok_of_mapM hpatterns hcall) hv

/-- No step makes a directory due that was not to be visited before. -/
theorem Works.willVisit {s : Storage} {load load' : Load} (h : Works s load load') {dir : Path}
    (hv : load'.WillVisit s dir) : load.WillVisit s dir := by
  cases h with
  | @reads path =>
    unfold read at hv
    split at hv
    · cases hv
    · next source hload =>
      split at hv
      · next hmention =>
        split at hv
        · cases hv
        · next program hparse => exact willVisit_begun hload hmention hparse hv
      · cases hv
  | lists lists =>
    cases lists with
    | @intro before after search items lists =>
      obtain ⟨search', hm, hv⟩ := hv
      rcases List.mem_append.mp hm with hm | hm
      · exact ⟨search', List.mem_append_left _ hm, hv⟩
      · rcases List.mem_cons.mp hm with rfl | hm
        · exact ⟨search, by simp, lists.willVisit hv⟩
        · exact ⟨search', List.mem_append_right _ (List.mem_cons_of_mem _ hm), hv⟩
  | breaks | joins => cases hv

/-- The directory that fails decides, whatever the other searches come to. -/
theorem resolve_broken {s : Storage} {sourceDir : Path} {searches : List Search} {search : Search}
    {dir : Path} {e : AccessError}
    (honce : Walk.FailsOnce s.list fun dir =>
      ∃ search ∈ searches, Walk.WillVisit s.list search.call.recursive search.items dir)
    (hm : search ∈ searches) (hdue : .due dir ∈ search.items) (hf : Walk.Fails s.list dir e) :
    searches.mapM (Search.resolve s sourceDir) = .error (.unlistable ⟨dir, e⟩) := by
  have hvisit : Walk.WillVisit s.list search.call.recursive search.items dir :=
    ⟨dir, [], hdue, .start dir, rfl⟩
  cases hall : searches.mapM (Search.resolve s sourceDir) with
  | ok contexts =>
    obtain ⟨c, hc⟩ := Traversal.ok_of_mapM hall hm
    exact absurd hf (Search.not_fails_of_resolve hc hvisit e)
  | error error =>
    obtain ⟨search', hm', herror⟩ := Traversal.exists_of_mapM_error hall
    obtain ⟨dir', e', hvisit', hf', rfl⟩ := Search.resolve_error herror
    cases honce dir dir' e e' ⟨search, hm, hvisit⟩ ⟨search', hm', hvisit'⟩ hf hf'
    rw [hf.unique hf']

/-- A step changes nothing about how the load is going to end. -/
theorem Works.outcome_eq {s : Storage} {load load' : Load} (h : Works s load load')
    (honce : Walk.FailsOnce s.list (load.WillVisit s)) : load'.outcome s = load.outcome s := by
  cases h with
  | @reads path => exact outcome_read s path
  | @lists source program searches searches' lists =>
    rw [outcome, outcome, lists.resolve_eq]
  | breaks member due fails =>
    rw [outcome, outcome, resolve_broken honce member due fails]
    rfl
  | @joins source program searches all =>
    have hresolve : searches.mapM (Search.resolve s source.directory) =
        .ok (searches.map fun search =>
          search.context source.directory (search.items.filterMap Walk.Item.file?)) := by
      rw [Traversal.mapM_congr fun search hm => Search.resolve_of_found (all search hm)]
      exact List.mapM_pure
    rw [outcome, outcome, hresolve]
    rfl

/-! ## The end -/

/-- A load that has not ended can go on, if only with its write. -/
theorem works_or_writes (s : Storage) (load : Load) :
    (∃ outcome, load = .ended outcome) ∨ (∃ source report, load = .writing source report) ∨
      ∃ load', Works s load load' := by
  cases load with
  | asked path => exact .inr (.inr ⟨_, .reads⟩)
  | writing source report => exact .inr (.inl ⟨source, report, rfl⟩)
  | ended outcome => exact .inl ⟨outcome, rfl⟩
  | searching source program searches =>
    refine .inr (.inr ?_)
    by_cases hdue : ∃ search ∈ searches, ∃ dir, Walk.Item.due dir ∈ search.items
    · obtain ⟨search, hm, dir, hd⟩ := hdue
      rcases Walk.fails_or_entries s.list dir with ⟨e, hfails⟩ | ⟨es, hentries⟩
      · exact ⟨_, .breaks hm hd hfails⟩
      · obtain ⟨before, after, rfl⟩ := List.append_of_mem hm
        obtain ⟨front, back, hitems⟩ := List.append_of_mem hd
        have hlists : ∃ items, Walk.Lists search.call.recursive
            (ContextCall.accepts search.pattern) s.list search.items items := by
          rw [hitems]
          exact ⟨_, .intro hentries⟩
        obtain ⟨items, hlists⟩ := hlists
        exact ⟨_, .lists (.intro hlists)⟩
    · exact ⟨_, .joins fun search hm dir hd => hdue ⟨search, hm, dir, hd⟩⟩

/-- What is left to do, the write included. -/
def work (s : Storage) : Load → Nat
  | .asked path =>
    match read s path with
    | .searching _ _ searches => Search.workOf s searches + 3
    | _ => 2
  | .searching _ _ searches => Search.workOf s searches + 2
  | .writing .. => 1
  | .ended _ => 0

theorem read_ne_asked (s : Storage) (path path' : Path) : read s path ≠ .asked path' := by
  unfold read begun
  repeat' split
  all_goals nofun

theorem Works.work_lt {s : Storage} {load load' : Load} (h : Works s load load') :
    load'.work s < load.work s := by
  cases h with
  | @reads path =>
    rw [work.eq_1]
    cases hread : read s path with
    | asked path' => exact absurd hread (read_ne_asked s path path')
    | searching | writing | ended => simp [work]
  | lists lists => exact Nat.add_lt_add_right lists.work_lt 2
  | breaks | joins => simp [work]

end Load
end StaticContext
