import StaticContext.Proofs.CollisionChains
import StaticContext.Proofs.ModuleSpecifiers

/-! # What the imports of an expansion bind

A binding and a specifier are imported once, whichever contexts share them. Without collisions no
context has two modules with one binding, so a second import of a binding can only come from another
call: contexts are not compared with each other, nor with what the source declares. -/

namespace StaticContext
open StaticContext.Path Script

/-! ## Collisions -/

namespace ResolvedContext

/-- Without collisions the modules of a context have different bindings. -/
theorem eq_of_identifier {c : ResolvedContext} (h : c.collisions = []) {m n : ContextModule}
    (hm : m ∈ c.modules) (hn : n ∈ c.modules) (heq : n.identifier = m.identifier) : n = m :=
  List.inj_on_of_nodup_map (collisions_eq_nil_iff.mp h) hn hm heq

end ResolvedContext

/-! ## Imports -/

theorem map_firstOfEach {α β : Type} [BEq β] [LawfulBEq β] {same : α → α → Bool} (key : α → β)
    (h : ∀ a b, same a b = (key a == key b)) (xs : List α) :
    (firstOfEach same xs).map key = (xs.map key).eraseDups := by
  induction xs with
  | nil => rfl
  | cons a rest ih =>
    rw [firstOfEach, List.map_cons, List.map_cons, List.eraseDups_cons, eraseDups_filter, ← ih,
      List.filter_map]
    congr 2
    apply List.filter_congr
    intro b _
    rw [h, Function.comp, BEq.comm]

/-- The binding and the specifier of a declaration that imports a default export. -/
def Script.Tree.defaultImport? : Tree → Option (String × String)
  | .node (.importDeclaration false)
      [.node .list [.node (.importDefault binding) []], .node (.literal (.string specifier _)) [],
        .node .absent []] => some (binding, specifier)
  | _ => none

/-- What a module is imported as and where from. -/
def ContextModule.importPair (m : ContextModule) : String × String := (m.identifier, m.specifier)

theorem ContextModule.sameImport_eq (m n : ContextModule) :
    m.sameImport n = (m.importPair == n.importPair) := by
  rw [sameImport, Bool.eq_iff_iff]
  simp [importPair]

namespace ResolvedContext

/-- What the imports of contexts bind, with the specifiers. -/
def importPairs (contexts : List ResolvedContext) : List (String × String) :=
  (imports contexts).filterMap Tree.defaultImport?

theorem importPairs_eq (contexts : List ResolvedContext) :
    importPairs contexts =
      ((contexts.flatMap modules).map ContextModule.importPair).eraseDups := by
  have htrees : Tree.defaultImport? ∘ ContextModule.importTree = some ∘ ContextModule.importPair := rfl
  rw [importPairs, imports, List.filterMap_map, htrees, List.filterMap_eq_map,
    map_firstOfEach _ ContextModule.sameImport_eq]

theorem nodup_importPairs (contexts : List ResolvedContext) : (importPairs contexts).Nodup := by
  rw [importPairs_eq]
  exact nodup_eraseDups _

theorem mem_importPairs {contexts : List ResolvedContext} {pair : String × String} :
    pair ∈ importPairs contexts ↔ ∃ c ∈ contexts, ∃ m ∈ c.modules, m.importPair = pair := by
  simp only [importPairs_eq, List.mem_eraseDups, List.mem_map, List.mem_flatMap]
  constructor
  · rintro ⟨m, ⟨c, hc, hm⟩, heq⟩
    exact ⟨c, hc, m, hm, heq⟩
  · rintro ⟨c, hc, m, hm, heq⟩
    exact ⟨m, ⟨c, hc, hm⟩, heq⟩

end ResolvedContext

/-- In a list without repetitions one member satisfies a predicate exactly if no other does. -/
theorem countP_eq_one_iff {α : Type} {p : α → Bool} {xs : List α} {a : α} (hxs : xs.Nodup)
    (ha : a ∈ xs) (hpa : p a = true) : xs.countP p = 1 ↔ ∀ b ∈ xs, p b = true → b = a := by
  rw [List.countP_eq_length_filter]
  have hmem : a ∈ xs.filter p := List.mem_filter.mpr ⟨ha, hpa⟩
  constructor
  · intro hone b hb hpb
    obtain ⟨c, hc⟩ := List.length_eq_one_iff.mp hone
    have hbc : b ∈ xs.filter p := List.mem_filter.mpr ⟨hb, hpb⟩
    rw [hc, List.mem_singleton] at hmem hbc
    rw [hmem, hbc]
  · intro hall
    have hsame : ∀ b, b ∈ xs.filter p ↔ b ∈ [a] := by
      intro b
      rw [List.mem_filter, List.mem_singleton]
      exact ⟨fun hb => hall b hb.1 hb.2, fun hb => hb ▸ ⟨ha, hpa⟩⟩
    have hperm : (xs.filter p).Perm [a] :=
      (List.perm_ext_iff_of_nodup (hxs.filter p) (List.nodup_singleton a)).mpr hsame
    rw [List.perm_singleton.mp hperm]
    rfl

/-! ## Expansions -/

theorem Path.relativeText_congr {base p q : Path} (h : p.components = q.components) :
    base.relativeText p = base.relativeText q := by
  have habs : p.isAbsolute = q.isAbsolute := by
    rw [Bool.eq_iff_iff, isAbsolute_iff, isAbsolute_iff, h]
  simp only [relativeText, wayTo, h, habs]

theorem ContextCall.exists_of_mem_contexts {s : Storage} {sourceDir : Path}
    {calls : List ContextCall} {contexts : List ResolvedContext}
    (h : resolveAll s sourceDir calls = .ok contexts) {c : ResolvedContext} (hc : c ∈ contexts) :
    ∃ (call : ContextCall) (pattern : Option Pattern),
      call.resolveWith s sourceDir pattern = .ok c := by
  obtain ⟨patterns, _, _, hall⟩ := resolveAll_ok h
  obtain ⟨⟨call, pattern⟩, _, hcall⟩ := Traversal.exists_of_forall₂ hall hc
  exact ⟨call, pattern, hcall⟩

theorem ContextCall.specifier_eq_iff {s : Storage} {source : Source} {contexts : List ResolvedContext}
    {calls : List ContextCall} (hpath : source.path.Canonical) (hs : s.Legible)
    (h : resolveAll s source.directory calls = .ok contexts) {c d : ResolvedContext}
    (hc : c ∈ contexts) (hd : d ∈ contexts) {m n : ContextModule} (hm : m ∈ c.modules)
    (hn : n ∈ d.modules) :
    n.specifier = m.specifier ↔ n.path.components = m.path.components := by
  obtain ⟨call, pattern, hcall⟩ := exists_of_mem_contexts h hc
  obtain ⟨call', pattern', hcall'⟩ := exists_of_mem_contexts h hd
  constructor
  · intro heq
    rw [← specifier_leads hpath hs hcall hm, ← specifier_leads hpath hs hcall' hn, heq]
  · intro heq
    obtain ⟨_, _, p, _, hfile⟩ := mem_modules hcall hm
    obtain ⟨_, _, q, _, hfile'⟩ := mem_modules hcall' hn
    obtain ⟨rfl, -, hspecifier, -⟩ := ContextModule.ofFile?_some hfile
    obtain ⟨rfl, -, hspecifier', -⟩ := ContextModule.ofFile?_some hfile'
    rw [Path.relativeText_congr heq, hspecifier] at hspecifier'
    exact (Option.some.inj hspecifier').symm

theorem Source.expand_resolved {source : Source} {s : Storage} {report : Report} {output : Output}
    (hexpand : source.expand s = .ok report) (houtput : report.output = some output) :
    ∃ program, source.parse = .ok program ∧ ∃ contexts,
      ContextCall.resolveAll s source.directory (ContextCall.inProgram program) = .ok contexts ∧
      output.code = (program.withContexts (ContextCall.inProgram program) contexts).print ∧
      report.collisions = contexts.flatMap ResolvedContext.collisions := by
  unfold expand at hexpand
  split at hexpand
  · split at hexpand
    · cases hexpand
    · next program hparse =>
      refine ⟨program, hparse, ?_⟩
      unfold expandProgram at hexpand
      split at hexpand
      · cases hexpand
        cases houtput
      · rw [expandCalls_eq] at hexpand
        split at hexpand
        · cases hexpand
        · next contexts hresolve =>
          cases hexpand
          cases houtput
          exact ⟨contexts, hresolve, rfl, rfl⟩
  · cases hexpand
    cases houtput

/-- Without collisions an import reaches every module of an expansion. Its specifier leads from the
directory of the source file to the module's file; it is there once, with that binding and specifier;
and no other module of the same call has the binding. So no other one takes its place exactly if no
call of the file resolved another file to the same binding. -/
theorem Source.imports_reach {source : Source} {s : Storage} {report : Report} {output : Output}
    (hpath : source.path.Canonical) (hs : s.Legible) (hexpand : source.expand s = .ok report)
    (houtput : report.output = some output) (hcollisions : report.collisions = []) :
    ∃ program contexts, source.parse = .ok program ∧
      ContextCall.resolveAll s source.directory (ContextCall.inProgram program) = .ok contexts ∧
      output.code = (program.withContexts (ContextCall.inProgram program) contexts).print ∧
      (program.withContexts (ContextCall.inProgram program) contexts).body =
        ResolvedContext.imports contexts ++ (Splice.inTrees
          (Splice.waiting (ContextCall.inProgram program) contexts) program.body).1 ∧
      ∀ c ∈ contexts, ∀ m ∈ c.modules,
        (source.directory.join (.ofString m.specifier)).components = m.path.components ∧
        (ResolvedContext.importPairs contexts).count (m.identifier, m.specifier) = 1 ∧
        (∀ n ∈ c.modules, n.identifier = m.identifier → n = m) ∧
        ((ResolvedContext.importPairs contexts).countP (·.1 = m.identifier) = 1 ↔
          ∀ d ∈ contexts, ∀ n ∈ d.modules, n.identifier = m.identifier →
            n.path.components = m.path.components) := by
  obtain ⟨program, hparse, hcontexts⟩ := expand_resolved hexpand houtput
  obtain ⟨contexts, hresolve, hcode, hreport⟩ := hcontexts
  refine ⟨program, contexts, hparse, hresolve, hcode, rfl, fun c hc m hm => ?_⟩
  have hcollision : c.collisions = [] := by
    rw [hreport, List.flatMap_eq_nil_iff] at hcollisions
    exact hcollisions c hc
  obtain ⟨call, pattern, hcall⟩ := ContextCall.exists_of_mem_contexts hresolve hc
  have hmem : m.importPair ∈ ResolvedContext.importPairs contexts :=
    ResolvedContext.mem_importPairs.mpr ⟨c, hc, m, hm, rfl⟩
  have hnodup := ResolvedContext.nodup_importPairs contexts
  refine ⟨ContextCall.specifier_leads hpath hs hcall hm, ?_,
    fun n hn heq => ResolvedContext.eq_of_identifier hcollision hm hn heq, ?_⟩
  · exact List.count_eq_one_of_mem hnodup hmem
  · rw [countP_eq_one_iff hnodup hmem (decide_eq_true rfl)]
    constructor
    · intro hall d hd n hn heq
      have hpair := hall n.importPair (ResolvedContext.mem_importPairs.mpr ⟨d, hd, n, hn, rfl⟩)
        (decide_eq_true heq)
      exact (ContextCall.specifier_eq_iff hpath hs hresolve hc hd hm hn).mp (Prod.mk.inj hpair).2
    · intro hall pair hpair heq
      obtain ⟨d, hd, n, hn, rfl⟩ := ResolvedContext.mem_importPairs.mp hpair
      have hidentifier : n.identifier = m.identifier := of_decide_eq_true heq
      have hspecifier := (ContextCall.specifier_eq_iff hpath hs hresolve hc hd hm hn).mpr
        (hall d hd n hn hidentifier)
      rw [ContextModule.importPair, ContextModule.importPair, hidentifier, hspecifier]

theorem Source.expand_of_resolveAll {source : Source} {s : Storage} {program : Script.Program}
    {contexts : List ResolvedContext} (hmention : source.mentionsContext = true)
    (hparse : source.parse = .ok program) (hcalls : ContextCall.inProgram program ≠ [])
    (hresolve : ContextCall.resolveAll s source.directory (ContextCall.inProgram program) =
      .ok contexts) :
    ∃ report output, source.expand s = .ok report ∧ report.output = some output ∧
      report.collisions = contexts.flatMap ResolvedContext.collisions := by
  have hcallsExpand : source.expandProgram s program =
      source.expandCalls s program (ContextCall.inProgram program) := by
    unfold expandProgram
    split
    · next hnil => exact absurd hnil hcalls
    · rfl
  rw [expand, if_pos hmention, hparse]
  simp only [hcallsExpand, expandCalls_eq, hresolve]
  exact ⟨_, _, rfl, rfl, rfl⟩

/-- A file whose calls both find the one file of `/src/x`. -/
def sharingSource : Source :=
  ⟨.ofString "/src/app.js", "require.context('./x');require.context('./x', false)"⟩

def sharingStorage : Storage := Storage.empty.put (.ofString "/src/x/a.js") (.file [])

theorem Source.imports_reach_sharing : ∃ report output program contexts,
    sharingSource.expand sharingStorage = .ok report ∧ report.output = some output ∧
      report.collisions = [] ∧ sharingSource.parse = .ok program ∧
      ContextCall.resolveAll sharingStorage sharingSource.directory
        (ContextCall.inProgram program) = .ok contexts ∧ contexts.length = 2 ∧
      (ResolvedContext.importPairs contexts).countP (·.1 = "A") = 1 := by
  let found : ResolvedContext :=
    ⟨.ofString "/src/x", [⟨.ofString "/src/x/a.js", "./a.js", "./x/a.js", "A"⟩]⟩
  have hcalls : sharingSource.parse.toOption.map ContextCall.inProgram =
      some [⟨⟨0, 22⟩, "./x", true, none⟩, ⟨⟨23, 52⟩, "./x", false, none⟩] := by decide +kernel
  have hresolve : ContextCall.resolveAll sharingStorage sharingSource.directory
      [⟨⟨0, 22⟩, "./x", true, none⟩, ⟨⟨23, 52⟩, "./x", false, none⟩] = .ok [found, found] :=
    Traversal.ok_of_toOption (by decide +kernel)
  obtain ⟨program, hprogram, hcalls⟩ := Option.map_eq_some_iff.mp hcalls
  have hparse := Traversal.ok_of_toOption hprogram
  rw [← hcalls] at hresolve
  obtain ⟨report, output, hexpand, houtput, hcollisions⟩ :=
    expand_of_resolveAll (by decide +kernel) hparse (by simp [hcalls]) hresolve
  have hnone : report.collisions = [] := hcollisions
  obtain ⟨_, _, hparse', hresolve', -, -, hall⟩ := imports_reach
    ⟨by decide +kernel, by decide +kernel⟩ (Storage.legible_of_lossy (by decide +kernel)) hexpand
    houtput hnone
  cases hparse.symm.trans hparse'
  cases hresolve.symm.trans hresolve'
  refine ⟨report, output, program, _, hexpand, houtput, hnone, hparse, hresolve, rfl,
    ((hall found List.mem_cons_self _ List.mem_cons_self).2.2.2).mpr ?_⟩
  intro d hd n hn _
  have hd : d = found := by simpa using hd
  rw [hd] at hn
  rw [List.mem_singleton.mp hn]

/-- The name that a constant's declaration binds. -/
def Script.Tree.constant? : Tree → Option String
  | .node (.variables .constant false) [.node (.declarator false) [.node (.name x) [], _]] => some x
  | _ => none

/-- A file with a constant `A` and two calls that find a file `a.js` each. -/
def takenSource : Source :=
  ⟨.ofString "/src/app.js", "const A = 1;\nrequire.context('./x');\nrequire.context('./y');\n"⟩

def takenStorage : Storage :=
  (Storage.empty.put (.ofString "/src/x/a.js") (.file [])).put (.ofString "/src/y/a.js") (.file [])

/-- No collision tells of another call, or of the source, that has the binding too. -/
theorem Source.imports_taken : ∃ report output program contexts,
    takenSource.path.Canonical ∧ takenStorage.Legible ∧
      takenSource.expand takenStorage = .ok report ∧ report.output = some output ∧
      report.collisions = [] ∧ takenSource.parse = .ok program ∧
      ContextCall.resolveAll takenStorage takenSource.directory
        (ContextCall.inProgram program) = .ok contexts ∧
      ∃ c ∈ contexts, ∃ m ∈ c.modules,
        (ResolvedContext.importPairs contexts).countP (·.1 = m.identifier) = 2 ∧
        m.identifier ∈ program.body.filterMap Tree.constant? := by
  have hprogram : takenSource.parse.toOption.map
      (fun p => (ContextCall.inProgram p, p.body.filterMap Tree.constant?)) =
      some ([⟨⟨13, 35⟩, "./x", true, none⟩, ⟨⟨37, 59⟩, "./y", true, none⟩], ["A"]) := by
    decide +kernel
  have hresolve : ContextCall.resolveAll takenStorage takenSource.directory
      [⟨⟨13, 35⟩, "./x", true, none⟩, ⟨⟨37, 59⟩, "./y", true, none⟩] =
      .ok [⟨.ofString "/src/x", [⟨.ofString "/src/x/a.js", "./a.js", "./x/a.js", "A"⟩]⟩,
        ⟨.ofString "/src/y", [⟨.ofString "/src/y/a.js", "./a.js", "./y/a.js", "A"⟩]⟩] :=
    Traversal.ok_of_toOption (by decide +kernel)
  obtain ⟨program, hprogram, hboth⟩ := Option.map_eq_some_iff.mp hprogram
  obtain ⟨hcalls, hconstants⟩ := Prod.mk.inj hboth
  have hparse := Traversal.ok_of_toOption hprogram
  rw [← hcalls] at hresolve
  obtain ⟨report, output, hexpand, houtput, hcollisions⟩ :=
    expand_of_resolveAll (by decide +kernel) hparse (by simp [hcalls]) hresolve
  refine ⟨report, output, program, _, ⟨by decide +kernel, by decide +kernel⟩,
    Storage.legible_of_lossy (by decide +kernel), hexpand, houtput, hcollisions, hparse, hresolve,
    _, List.mem_cons_self, _, List.mem_cons_self, by decide, ?_⟩
  rw [hconstants]
  exact List.mem_singleton_self _

end StaticContext
