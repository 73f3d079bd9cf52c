import StaticContext.Proofs.CallStops.Module
import StaticContext.Proofs.ImportBindings

/-! # Imports and directories in the order in which they are first seen

The contexts of a file come in the order of its calls. Each brings the imports that none before it has
brought, while its accessor holds all of its modules; so the imports of a file are those of all its
modules, each once and where it is first seen. Its directories are gathered in the same way. -/

namespace StaticContext
open StaticContext.Path Script

/-! ## What an accessor holds -/

namespace Script.Tree

/-- A property that stands for a module: its key and the binding of its default export. -/
def entry? : Tree → Option (String × String)
  | .node .property [.node (.literal (.string key _)) [],
      .node .object [.node .property [.node (.name "default") [], .node (.name binding) []]]] =>
    some (key, binding)
  | _ => none

def string? : Tree → Option String
  | .node (.literal (.string value _)) [] => some value
  | _ => none

/-- The object in which an accessor looks its modules up, as keys with bindings, and the keys that it
lists. -/
def accessor? : Tree → Option (List (String × String) × List String)
  | .node (.call _)
      [.node .paren [.node (.arrow false) (_ :: .node .block
        [.node (.variables .blockScoped false)
            [.node (.declarator false) [.node (.name "modules") [], .node .object entries]],
          _, .node .expression [.node (.assign "=") [_, .node (.arrow false) (_ ::
            .node .array keys :: _)]], _] :: _)], _, _] => do
    return (← entries.mapM entry?, ← keys.mapM string?)
  | _ => none

end Script.Tree

theorem Accessor.mapM_entry? (modules : List ContextModule) :
    (modules.map fun m => Script.Tree.node .property [.string m.key, exports m.identifier]).mapM
      Tree.entry? = some (modules.map fun m => (m.key, m.identifier)) := by
  induction modules with
  | nil => rfl
  | cons m rest ih =>
    rw [List.map_cons, List.mapM_cons, ih]
    rfl

theorem Accessor.mapM_string? (modules : List ContextModule) :
    (modules.map fun m => Tree.string m.key).mapM Tree.string? =
      some (modules.map ContextModule.key) := by
  induction modules with
  | nil => rfl
  | cons m rest ih =>
    rw [List.map_cons, List.mapM_cons, ih]
    rfl

/-- An accessor holds every module of its context and lists every key, in the order of the modules. -/
theorem ResolvedContext.accessor?_accessor (c : ResolvedContext) (span : Span) :
    (c.accessor span).accessor? =
      some (c.modules.map (fun m => (m.key, m.identifier)), c.modules.map ContextModule.key) := by
  have hread : (c.accessor span).accessor? =
      ((c.modules.map fun m : ContextModule =>
        Script.Tree.node .property [.string m.key, Accessor.exports m.identifier]).mapM
          Tree.entry?).bind fun entries =>
        ((c.modules.map fun m : ContextModule => Tree.string m.key).mapM Tree.string?).bind
          fun keys => some (entries, keys) := rfl
  rw [hread, Accessor.mapM_entry?, Accessor.mapM_string?]
  rfl

/-! ## What the contexts bring -/

/-- The import of a default export under a binding. -/
def Script.Tree.importDefaultTree (pair : String × String) : Tree :=
  .node (.importDeclaration false)
    [.list [.node (.importDefault pair.1) []], .string pair.2, .absent]

namespace ResolvedContext

/-- All modules of contexts, in the order of the contexts and then in their own, as they are
imported. -/
def modulePairs (contexts : List ResolvedContext) : List (String × String) :=
  (contexts.flatMap modules).map ContextModule.importPair

theorem imports_eq (contexts : List ResolvedContext) :
    imports contexts = (modulePairs contexts).eraseDups.map Tree.importDefaultTree := by
  have htree : ContextModule.importTree = Tree.importDefaultTree ∘ ContextModule.importPair := rfl
  rw [imports, htree, ← List.map_map, map_firstOfEach _ ContextModule.sameImport_eq, modulePairs]

/-- A further context brings of its modules what those before it have not brought. -/
theorem eraseDups_modulePairs_concat (front : List ResolvedContext) (c : ResolvedContext) :
    (modulePairs (front ++ [c])).eraseDups = (modulePairs front).eraseDups ++
      ((c.modules.map ContextModule.importPair).filter (· ∉ modulePairs front)).eraseDups := by
  have hpairs : modulePairs (front ++ [c]) =
      modulePairs front ++ c.modules.map ContextModule.importPair := by
    simp [modulePairs]
  have hfilter : (c.modules.map ContextModule.importPair).removeAll (modulePairs front) =
      (c.modules.map ContextModule.importPair).filter (· ∉ modulePairs front) := by
    rw [List.removeAll]
    apply List.filter_congr
    intro pair _
    simp
  rw [hpairs, List.eraseDups_append, hfilter]

end ResolvedContext

/-! ## Whole files -/

/-- The calls of a file resolve one by one. -/
theorem ContextCall.resolve_of_resolveAll {s : Storage} {sourceDir : Path} {calls : List ContextCall}
    {contexts : List ResolvedContext} (h : resolveAll s sourceDir calls = .ok contexts) :
    List.Forall₂ (fun call c => call.resolve s sourceDir = .ok c) calls contexts := by
  rw [resolveAll_eq] at h
  cases hp : calls.mapM compileFilter with
  | error e => rw [hp] at h; cases h
  | ok patterns =>
    rw [hp] at h
    have hcompiled := Traversal.forall₂_of_mapM hp
    have hresolved := Traversal.forall₂_of_mapM h
    clear h hp
    induction hcompiled generalizing contexts with
    | nil => cases hresolved; exact .nil
    | cons hcall _ ih =>
      cases hresolved with
      | cons hc hcs => exact .cons (resolve_ok.mpr ⟨_, hcall, hc⟩) (ih hcs)

/-- The calls of a file have no span in common. -/
theorem Source.callSpans_nodup {source : Source} {program : Program} (h : source.parse = .ok program) :
    (Splice.callSpansAll program.body).Nodup := by
  rw [parse] at h
  split at h
  · next hparse =>
    cases h
    exact Program.callSpans_nodup hparse
  · cases h

/-- Code that is written holds the imports of all contexts and behind them the source with every call
replaced. -/
theorem Source.expand_code {source : Source} {s : Storage} {report : Report} {output : Output}
    (hexpand : source.expand s = .ok report) (houtput : report.output = some output) :
    ∃ program contexts body, source.parse = .ok program ∧
      List.Forall₂ (fun call c => call.resolve s source.directory = .ok c)
        (ContextCall.inProgram program) contexts ∧
      output.code = ({ program with body := ResolvedContext.imports contexts ++ body } :
        Program).print ∧
      ∀ other, Splice.ReplacesAll ((ContextCall.inProgram program).zip contexts) program.body other ↔
        other = body := by
  obtain ⟨program, hparse, contexts, hresolve, hcode, -⟩ := expand_resolved hexpand houtput
  have hall := ContextCall.resolve_of_resolveAll hresolve
  obtain ⟨body, hwalk, hreplaces⟩ := Splice.inTrees_waiting program contexts
    (callSpans_nodup hparse) hall.length_eq.symm
  refine ⟨program, contexts, body, hparse, hall, ?_, fun other => ⟨fun h => h.unique hreplaces,
    fun h => h ▸ hreplaces⟩⟩
  rw [hcode, Program.withContexts, Splice.inProgram, hwalk]

/-- Code that is written starts with one import for each pair of a binding and a specifier that a
module of a call has, in the order in which they are first seen, which no later call brings again.
Behind them every context call has become the accessor of its own context with all modules of it,
also those that are imported for an earlier call. The directories are those of the calls in the order
in which they are first seen, no place twice. -/
theorem Source.imports_first_seen {source : Source} {s : Storage} {report : Report} {output : Output}
    (hexpand : source.expand s = .ok report) (houtput : report.output = some output) :
    ∃ program contexts body, source.parse = .ok program ∧
      List.Forall₂ (fun call c => call.resolve s source.directory = .ok c)
        (ContextCall.inProgram program) contexts ∧
      output.code = ({ program with body :=
        (ResolvedContext.modulePairs contexts).eraseDups.map Tree.importDefaultTree ++ body } :
          Program).print ∧
      (ResolvedContext.modulePairs contexts).eraseDups.Nodup ∧
      (∀ c ∈ contexts, ∀ m ∈ c.modules,
        m.importPair ∈ (ResolvedContext.modulePairs contexts).eraseDups) ∧
      (∀ front c back, contexts = front ++ c :: back →
        (ResolvedContext.modulePairs (front ++ [c])).eraseDups =
          (ResolvedContext.modulePairs front).eraseDups ++
            ((c.modules.map ContextModule.importPair).filter
              (· ∉ ResolvedContext.modulePairs front)).eraseDups) ∧
      (∀ other, Splice.ReplacesAll ((ContextCall.inProgram program).zip contexts) program.body other ↔
        other = body) ∧
      (∀ c ∈ contexts, ∀ span, (c.accessor span).accessor? = some
        (c.modules.map (fun m => (m.key, m.identifier)), c.modules.map ContextModule.key)) ∧
      output.directories = (source.targets program).eraseDups ∧
      output.directories.Pairwise fun d e => ¬ d.same e = true := by
  obtain ⟨program, contexts, body, hparse, hall, hcode, hreplaces⟩ := expand_code hexpand houtput
  obtain ⟨program', hparse', -, hdirectories⟩ := expand_output hexpand houtput
  cases hparse.symm.trans hparse'
  refine ⟨program, contexts, body, hparse, hall, ?_, nodup_eraseDups _, ?_, ?_, hreplaces,
    fun c _ span => c.accessor?_accessor span, hdirectories, ?_⟩
  · rw [← ResolvedContext.imports_eq]
    exact hcode
  · intro c hc m hm
    exact List.mem_eraseDups.mpr (List.mem_map_of_mem (List.mem_flatMap.mpr ⟨c, hc, hm⟩))
  · exact fun front c _ _ => ResolvedContext.eraseDups_modulePairs_concat front c
  · rw [hdirectories]
    refine List.Pairwise.imp_of_mem ?_ (nodup_eraseDups (source.targets program))
    intro d e hd he hne hsame
    obtain ⟨call, -, rfl⟩ := List.mem_map.mp (List.mem_eraseDups.mp hd)
    obtain ⟨call', -, rfl⟩ := List.mem_map.mp (List.mem_eraseDups.mp he)
    exact hne (eq_of_same (normalize_join _ _) (normalize_join _ _) hsame)

/-- A file with calls for one directory in two spellings and for another one inside it. -/
def nestedSource : Source := ⟨.ofString "/src/app.js",
  "require.context('./x');require.context('./x/y/..');require.context('./x/y')"⟩

def nestedStorage : Storage :=
  (Storage.empty.put (.ofString "/src/x/a.js") (.file [])).put (.ofString "/src/x/y/b.js") (.file [])

theorem Source.imports_first_seen_nested : ∃ report output program contexts body,
    nestedSource.expand nestedStorage = .ok report ∧ report.output = some output ∧
      nestedSource.parse = .ok program ∧
      output.code = (⟨program.interpreter, [("A", "./x/a.js"), ("Y_B", "./x/y/b.js"),
        ("B", "./x/y/b.js")].map Tree.importDefaultTree ++ body⟩ : Program).print ∧
      contexts.map (·.modules.length) = [2, 2, 1] ∧
      Splice.ReplacesAll ((ContextCall.inProgram program).zip contexts) program.body body ∧
      output.directories = [.ofString "/src/x", .ofString "/src/x/y"] := by
  let outer : ContextModule := ⟨.ofString "/src/x/a.js", "./a.js", "./x/a.js", "A"⟩
  let inner : ContextModule := ⟨.ofString "/src/x/y/b.js", "./y/b.js", "./x/y/b.js", "Y_B"⟩
  let alone : ContextModule := ⟨.ofString "/src/x/y/b.js", "./b.js", "./x/y/b.js", "B"⟩
  have hprogram : nestedSource.parse.toOption.map ContextCall.inProgram =
      some [⟨⟨0, 22⟩, "./x", true, none⟩, ⟨⟨23, 50⟩, "./x/y/..", true, none⟩,
        ⟨⟨51, 75⟩, "./x/y", true, none⟩] := by
    decide +kernel
  have hresolve : ContextCall.resolveAll nestedStorage nestedSource.directory
      [⟨⟨0, 22⟩, "./x", true, none⟩, ⟨⟨23, 50⟩, "./x/y/..", true, none⟩,
        ⟨⟨51, 75⟩, "./x/y", true, none⟩] = .ok [⟨.ofString "/src/x", [outer, inner]⟩,
          ⟨.ofString "/src/x", [outer, inner]⟩, ⟨.ofString "/src/x/y", [alone]⟩] :=
    Traversal.ok_of_toOption (by decide +kernel)
  obtain ⟨program, hparse, hcalls⟩ := Option.map_eq_some_iff.mp hprogram
  have hparse := Traversal.ok_of_toOption hparse
  have hresolved := ContextCall.resolve_of_resolveAll hresolve
  rw [← hcalls] at hresolve hresolved
  obtain ⟨report, output, hexpand, houtput, -⟩ :=
    expand_of_resolveAll (by decide +kernel) hparse (by simp [hcalls]) hresolve
  obtain ⟨program', contexts, body, hparse', hall, hcode, -, -, -, hreplaces, -, hdirectories, -⟩ :=
    imports_first_seen hexpand houtput
  cases hparse.symm.trans hparse'
  obtain rfl := Traversal.eq_of_forall₂ hall hresolved
  refine ⟨report, output, program, _, body, hexpand, houtput, hparse, hcode, rfl,
    (hreplaces body).mpr rfl, ?_⟩
  rw [hdirectories, Source.targets, hcalls]
  decide +kernel

end StaticContext
