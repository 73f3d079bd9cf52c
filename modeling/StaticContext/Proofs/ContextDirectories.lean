import StaticContext.Context.Expansion
import StaticContext.Proofs.StorageWalk

/-! # The directories of an expansion

An expansion that writes code has resolved every context call of its program and lists the calls'
directories, each once, where it was first seen. It has seen nothing of the storage but listings
below these directories: two storages that list alike below them give the same report. -/

namespace StaticContext
open StaticContext.Path

/-! ## First occurrences -/

theorem eraseDups_filter {α : Type} [BEq α] [LawfulBEq α] (p : α → Bool) :
    ∀ xs : List α, (xs.filter p).eraseDups = xs.eraseDups.filter p
  | [] => rfl
  | a :: rest => by
    have hlt : (rest.filter fun b => !b == a).length < rest.length + 1 :=
      Nat.lt_succ_of_le (List.length_filter_le _ _)
    have ih := eraseDups_filter p (rest.filter fun b => !b == a)
    rw [List.eraseDups_cons]
    by_cases ha : p a = true
    · rw [List.filter_cons_of_pos ha, List.filter_cons_of_pos ha, List.eraseDups_cons, ← ih,
        List.filter_filter, List.filter_filter]
      simp only [Bool.and_comm]
    · rw [List.filter_cons_of_neg ha, List.filter_cons_of_neg ha, ← ih, List.filter_filter]
      congr 1
      apply List.filter_congr
      intro b _
      by_cases hb : b = a
      · simp [hb, ha]
      · simp [hb]
termination_by xs => xs.length

theorem nodup_eraseDups {α : Type} [BEq α] [LawfulBEq α] : ∀ xs : List α, xs.eraseDups.Nodup
  | [] => List.nodup_nil
  | a :: rest => by
    rw [List.eraseDups_cons, eraseDups_filter, List.nodup_cons]
    exact ⟨by simp, (nodup_eraseDups rest).sublist List.filter_sublist⟩

theorem firstOfEach_eq_eraseDups {α : Type} [BEq α] [LawfulBEq α] {same : α → α → Bool}
    {xs : List α} (h : ∀ a ∈ xs, ∀ b ∈ xs, same a b = (a == b)) :
    firstOfEach same xs = xs.eraseDups := by
  induction xs with
  | nil => rfl
  | cons a rest ih =>
    have hrest := ih fun b hb c hc => h b (by simp [hb]) c (by simp [hc])
    rw [firstOfEach, hrest, List.eraseDups_cons, eraseDups_filter]
    congr 1
    apply List.filter_congr
    intro b hb
    rw [h a (by simp) b (by simp [List.mem_eraseDups.mp hb]), BEq.comm]

/-! ## Resolving -/

namespace ContextCall

theorem resolveWith_eq (s : Storage) (sourceDir : Path) (call : ContextCall) (pattern : Option Pattern) :
    call.resolveWith s sourceDir pattern =
      match s.files (call.targetDirectory sourceDir) call.recursive (accepts pattern) with
      | .error e => .error (.unlistable e)
      | .ok files => .ok ⟨call.targetDirectory sourceDir,
        files.filterMap (ContextModule.ofFile? sourceDir (call.targetDirectory sourceDir))⟩ := by
  simp only [resolveWith, resolutionWith]
  cases s.files (call.targetDirectory sourceDir) call.recursive (accepts pattern) <;> rfl

theorem resolveAll_eq (s : Storage) (sourceDir : Path) (calls : List ContextCall) :
    resolveAll s sourceDir calls = (calls.mapM compileFilter).bind fun patterns =>
      (calls.zip patterns).mapM fun x => x.1.resolveWith s sourceDir x.2 := by
  unfold resolveAll resolutionAll
  cases calls.mapM compileFilter with
  | error e => rfl
  | ok patterns => exact List.mapM_map

/-- A call that resolves tells of the collisions in its context. -/
theorem resolutionWith_collisions {s : Storage} {sourceDir : Path} {call : ContextCall}
    {pattern : Option Pattern} {c : ResolvedContext}
    (h : call.resolveWith s sourceDir pattern = .ok c) :
    (call.resolutionWith s sourceDir pattern).collisions = c.collisions := by
  simp only [resolveWith, resolutionWith] at h ⊢
  split at h
  · cases h
  · cases h
    rfl

theorem resolution_collisions {s : Storage} {sourceDir : Path} {call : ContextCall}
    {c : ResolvedContext} (h : call.resolve s sourceDir = .ok c) :
    (call.resolution s sourceDir).collisions = c.collisions := by
  unfold resolve resolution at h
  unfold resolution
  split at h
  · cases h
  · exact resolutionWith_collisions h

theorem resolveWith_ok {s : Storage} {sourceDir : Path} {call : ContextCall}
    {pattern : Option Pattern} {c : ResolvedContext}
    (h : call.resolveWith s sourceDir pattern = .ok c) :
    ∃ files, s.files (call.targetDirectory sourceDir) call.recursive (accepts pattern) = .ok files ∧
      c = ⟨call.targetDirectory sourceDir,
        files.filterMap (ContextModule.ofFile? sourceDir (call.targetDirectory sourceDir))⟩ := by
  rw [resolveWith_eq] at h
  split at h
  · cases h
  · next files hfiles =>
    cases h
    exact ⟨files, hfiles, rfl⟩

theorem resolveWith_directory {s : Storage} {sourceDir : Path} {call : ContextCall}
    {pattern : Option Pattern} {c : ResolvedContext}
    (h : call.resolveWith s sourceDir pattern = .ok c) :
    c.directory = call.targetDirectory sourceDir := by
  obtain ⟨_, _, rfl⟩ := resolveWith_ok h
  rfl

/-- A call resolves as it does with its filter compiled beforehand. -/
theorem resolve_ok {s : Storage} {sourceDir : Path} {call : ContextCall} {c : ResolvedContext} :
    call.resolve s sourceDir = .ok c ↔
      ∃ pattern, call.compileFilter = .ok pattern ∧ call.resolveWith s sourceDir pattern = .ok c := by
  unfold resolve resolution
  cases call.compileFilter with
  | error e => exact ⟨nofun, nofun⟩
  | ok pattern =>
    constructor
    · exact fun h => ⟨pattern, rfl, h⟩
    · rintro ⟨_, heq, h⟩
      cases heq
      exact h

theorem resolveAll_ok {s : Storage} {sourceDir : Path} {calls : List ContextCall}
    {contexts : List ResolvedContext} (h : resolveAll s sourceDir calls = .ok contexts) :
    ∃ patterns, calls.mapM compileFilter = .ok patterns ∧ patterns.length = calls.length ∧
      List.Forall₂ (fun (x : ContextCall × Option Pattern) c =>
        x.1.resolveWith s sourceDir x.2 = .ok c) (calls.zip patterns) contexts := by
  rw [resolveAll_eq] at h
  cases hp : calls.mapM compileFilter with
  | error e => rw [hp] at h; cases h
  | ok patterns =>
    rw [hp] at h
    exact ⟨patterns, rfl, (Traversal.forall₂_of_mapM hp).length_eq.symm, Traversal.forall₂_of_mapM h⟩

theorem resolveAll_directories {s : Storage} {sourceDir : Path} {calls : List ContextCall}
    {contexts : List ResolvedContext} (h : resolveAll s sourceDir calls = .ok contexts) :
    contexts.map ResolvedContext.directory = calls.map (·.targetDirectory sourceDir) := by
  obtain ⟨patterns, _, hlen, hall⟩ := resolveAll_ok h
  have hzip : (calls.zip patterns).map Prod.fst = calls := List.map_fst_zip (by omega)
  rw [Traversal.map_eq_of_forall₂ hall fun x c hc => resolveWith_directory hc, ← hzip, List.map_map,
    hzip]
  rfl

/-- A filter that is no pattern or a directory that cannot be listed. -/
theorem resolveAll_error {s : Storage} {sourceDir : Path} {calls : List ContextCall}
    {e : ContextError} (h : resolveAll s sourceDir calls = .error e) :
    (∃ call ∈ calls, call.compileFilter = .error e) ∨
      ∃ call ∈ calls, ∃ pattern, call.resolveWith s sourceDir pattern = .error e := by
  rw [resolveAll_eq] at h
  cases hp : calls.mapM compileFilter with
  | error e' =>
    rw [hp] at h
    cases h
    exact .inl (Traversal.exists_of_mapM_error hp)
  | ok patterns =>
    rw [hp] at h
    obtain ⟨⟨call, pattern⟩, hm, hcall⟩ := Traversal.exists_of_mapM_error h
    exact .inr ⟨call, (List.of_mem_zip hm).1, pattern, hcall⟩

/-- Which directories calls resolve to, and what keeps them from resolving, is a matter of what the
calls mean. -/
theorem resolveAll_directories_congr (s : Storage) {sourceDir sourceDir' : Path}
    (calls : List ContextCall)
    (h : ∀ call : ContextCall, call.targetDirectory sourceDir = call.targetDirectory sourceDir') :
    (resolveAll s sourceDir calls).map (List.map ResolvedContext.directory) =
      (resolveAll s sourceDir' calls).map (List.map ResolvedContext.directory) := by
  rw [resolveAll_eq, resolveAll_eq]
  cases calls.mapM compileFilter with
  | error e => rfl
  | ok patterns =>
    show Except.map _ (List.mapM _ _) = Except.map _ (List.mapM _ _)
    rw [Traversal.map_mapM, Traversal.map_mapM]
    apply Traversal.mapM_congr
    intro ⟨call, pattern⟩ _
    simp only [resolveWith_eq, h call]
    cases s.files (call.targetDirectory sourceDir') call.recursive (accepts pattern) <;> rfl

/-- All calls that resolve tell of the collisions in their contexts. -/
theorem resolutionAll_collisions {s : Storage} {sourceDir : Path} {calls : List ContextCall}
    {contexts : List ResolvedContext} (h : resolveAll s sourceDir calls = .ok contexts) :
    (resolutionAll s sourceDir calls).collisions = contexts.flatMap ResolvedContext.collisions := by
  obtain ⟨patterns, hpatterns, -, hall⟩ := resolveAll_ok h
  have htold : ((calls.zip patterns).map fun x => x.1.resolutionWith s sourceDir x.2).flatMap
      Resolution.collisions = contexts.flatMap ResolvedContext.collisions := by
    clear h
    generalize calls.zip patterns = pairs at hall
    induction hall with
    | nil => rfl
    | cons hcall _ ih =>
      rw [List.map_cons, List.flatMap_cons, List.flatMap_cons, ih, resolutionWith_collisions hcall]
  rw [← htold, resolutionAll, hpatterns]

/-- A call sees the listings below its own directory. -/
theorem resolveWith_congr {s s' : Storage} {sourceDir : Path} {call : ContextCall}
    (pattern : Option Pattern)
    (h : ∀ names, s.list ((call.targetDirectory sourceDir).descend names) =
      s'.list ((call.targetDirectory sourceDir).descend names)) :
    call.resolveWith s sourceDir pattern = call.resolveWith s' sourceDir pattern := by
  simp only [resolveWith_eq, Storage.files_congr call.recursive (accepts pattern) h]

theorem resolveAll_congr {s s' : Storage} {sourceDir : Path} {calls : List ContextCall}
    (h : ∀ call ∈ calls, ∀ names, s.list ((call.targetDirectory sourceDir).descend names) =
      s'.list ((call.targetDirectory sourceDir).descend names)) :
    resolveAll s sourceDir calls = resolveAll s' sourceDir calls := by
  rw [resolveAll_eq, resolveAll_eq]
  congr 1
  funext patterns
  apply Traversal.mapM_congr
  intro ⟨call, pattern⟩ hm
  exact resolveWith_congr pattern (h call (List.of_mem_zip hm).1)

end ContextCall

theorem ResolvedContext.directories_eq {s : Storage} {sourceDir : Path} {calls : List ContextCall}
    {contexts : List ResolvedContext} (h : ContextCall.resolveAll s sourceDir calls = .ok contexts) :
    directories contexts = (calls.map (·.targetDirectory sourceDir)).eraseDups := by
  rw [directories, ContextCall.resolveAll_directories h]
  apply firstOfEach_eq_eraseDups
  -- target directories are normalized, so those that name one place are spelled alike
  intro d hd d' hd'
  obtain ⟨call, _, rfl⟩ := List.mem_map.mp hd
  obtain ⟨call', _, rfl⟩ := List.mem_map.mp hd'
  rw [Bool.eq_iff_iff, beq_iff_eq]
  constructor
  · exact eq_of_same (normalize_join _ _) (normalize_join _ _)
  · intro he
    rw [he]
    exact same_iff.mpr rfl

/-! ## Whole files -/

namespace Source

theorem expandCalls_eq (source : Source) (s : Storage) (program : Script.Program)
    (calls : List ContextCall) : source.expandCalls s program calls =
      match ContextCall.resolveAll s source.directory calls with
      | .error e => .error e
      | .ok contexts => .ok {
          output := some ⟨(program.withContexts calls contexts).print,
            ResolvedContext.directories contexts⟩
          events := source.resolvedEvents calls contexts ++ [.expanded calls.length source.path]
          collisions := contexts.flatMap ResolvedContext.collisions } := by
  cases hresolve : ContextCall.resolveAll s source.directory calls with
  | error e =>
    rw [ContextCall.resolveAll] at hresolve
    simp only [expandCalls, hresolve]
  | ok contexts =>
    rw [expandCalls, ContextCall.resolutionAll_collisions hresolve]
    rw [ContextCall.resolveAll] at hresolve
    simp only [hresolve]

/-- The directories that the context calls of a program mean in a file. -/
def targets (source : Source) (program : Script.Program) : List Path :=
  (ContextCall.inProgram program).map (·.targetDirectory source.directory)

/-- Code is written exactly if there are context calls and all resolve. -/
theorem expandProgram_output {source : Source} {s : Storage} {program : Script.Program}
    {r : Report} {o : Output} (h : source.expandProgram s program = .ok r)
    (ho : r.output = some o) :
    ContextCall.inProgram program ≠ [] ∧
      o.directories = (source.targets program).eraseDups := by
  unfold expandProgram at h
  split at h
  · cases h; cases ho
  · next hne =>
    refine ⟨hne, ?_⟩
    rw [expandCalls_eq] at h
    split at h
    · cases h
    · next contexts hc =>
      cases h
      cases ho
      exact ResolvedContext.directories_eq hc

theorem expand_output {source : Source} {s : Storage} {r : Report} {o : Output}
    (h : source.expand s = .ok r) (ho : r.output = some o) :
    ∃ program, source.parse = .ok program ∧ ContextCall.inProgram program ≠ [] ∧
      o.directories = (source.targets program).eraseDups := by
  unfold expand at h
  split at h
  · split at h
    · cases h
    · next program hp => exact ⟨program, hp, expandProgram_output h ho⟩
  · cases h; cases ho

/-- The report on a file depends on the storage only through what it lists below the targets of
the file's context calls. -/
theorem expand_congr {source : Source} {s s' : Storage}
    (h : ∀ program, source.parse = .ok program → ∀ d ∈ source.targets program, ∀ names,
      s.list (d.descend names) = s'.list (d.descend names)) :
    source.expand s = source.expand s' := by
  unfold expand
  split
  · split
    · rfl
    · next program hp =>
      have hall : ContextCall.resolveAll s source.directory (ContextCall.inProgram program) =
          ContextCall.resolveAll s' source.directory (ContextCall.inProgram program) :=
        ContextCall.resolveAll_congr fun call hc => h program hp _ (List.mem_map_of_mem hc)
      unfold expandProgram
      split
      · rfl
      · rw [expandCalls_eq, expandCalls_eq, hall]
  · rfl

end Source
end StaticContext
