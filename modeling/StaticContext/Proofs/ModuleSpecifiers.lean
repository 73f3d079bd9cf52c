import StaticContext.Proofs.ContextDirectories
import StaticContext.Proofs.Enumeration
import StaticContext.Proofs.RelativeText

/-! # Specifiers lead to their modules

Whatever a module's path has beyond the directory of the source file comes from the text of a call or
from the names of the storage. If these are legible, the module's specifier, joined to the directory
of the source file, leads to the module's path. -/

namespace StaticContext
open StaticContext.Path

/-! ## Names of a storage -/

/-- All names of the storage are texts. -/
def Storage.Legible (s : Storage) : Prop := ∀ e ∈ s.places, ∀ n ∈ e.1, FileName.Legible n

theorem Storage.legible_of_lossy {s : Storage}
    (h : ∀ e ∈ s.places, ∀ n ∈ e.1, n.bytes = (Utf8.lossy n.bytes).toUTF8.toList) : s.Legible :=
  fun e he n hn => ⟨_, h e he n hn⟩

section
variable {s : Storage} {dir : Path} {recursive : Bool}

theorem Storage.Legible.listed (hs : s.Legible) {listing : Listing}
    (h : s.list dir = .ok listing) {e : FileName × EntryType} (he : e ∈ listing.entries) :
    e.1.Legible := by
  obtain ⟨l, _, hplaces⟩ := Storage.mem_of_list h
  obtain ⟨place, hm, _⟩ := hplaces e he
  exact hs _ hm _ (by simp)

theorem Walk.Visits.legible (hs : s.Legible) {names : List FileName}
    (h : Walk.Visits s.list recursive dir names) : ∀ n ∈ names, n.Legible := by
  induction h with
  | start => nofun
  | step _ opened _ entry _ ih =>
    intro n hn
    cases hn with
    | head => exact hs.listed opened entry
    | tail _ hn => exact ih n hn

/-- A file is held by a directory that legible names lead to. -/
theorem Storage.Legible.held (hs : s.Legible) {keep : Path → Bool} {files : List Path}
    (h : s.files dir recursive keep = .ok files) {p : Path} (hp : p ∈ files) :
    ∃ names name, p = dir.descend (names ++ [name]) ∧
      Walk.Holds s.list (dir.descend names) name ∧ ∀ n ∈ names ++ [name], n.Legible := by
  have hends := Walk.ends_files s dir recursive keep
  obtain ⟨names, name, hvisits, hholds, rfl, _⟩ := (hends.mem_iff files h p).mp hp
  refine ⟨names, name, rfl, hholds, ?_⟩
  obtain ⟨listing, type, hlist, hentry, _⟩ := hholds
  intro n hn
  rcases List.mem_append.mp hn with hn | hn
  · exact hvisits.legible hs n hn
  · rw [List.mem_singleton.mp hn]
    exact hs.listed hlist hentry

end

/-! ## Directories of calls -/

namespace Path

/-- The names go on legibly from a directory that `bs` lead to or through. -/
def GoesOn (bs ns : List FileName) : Prop :=
  ∃ q rest, ns = q ++ rest ∧ q <+: bs ∧ ∀ n ∈ rest, n.Legible

theorem GoesOn.append {bs ns names : List FileName} (h : GoesOn bs ns)
    (hnames : ∀ n ∈ names, n.Legible) : GoesOn bs (ns ++ names) := by
  obtain ⟨q, rest, rfl, hq, hrest⟩ := h
  refine ⟨q, rest ++ names, List.append_assoc .., hq, ?_⟩
  intro n hn
  rcases List.mem_append.mp hn with hn | hn
  · exact hrest n hn
  · exact hnames n hn

theorem GoesOn.init {bs ns : List FileName} {n : FileName} (h : GoesOn bs (ns ++ [n])) :
    GoesOn bs ns := by
  obtain ⟨q, rest, heq, hq, hrest⟩ := h
  rcases List.eq_nil_or_concat rest with rfl | ⟨init, last, rfl⟩
  · rw [List.append_nil] at heq
    exact ⟨ns, [], (List.append_nil ns).symm, (heq ▸ List.prefix_append ns [n]).trans hq, nofun⟩
  · rw [List.concat_eq_append, ← List.append_assoc] at heq
    obtain ⟨rfl, -⟩ := List.append_inj' heq rfl
    exact ⟨q, init, rfl, hq, fun n hn => hrest n (by simp [hn])⟩

/-- One step of normalizing keeps names that go on legibly. -/
theorem GoesOn.settle {bs ns : List FileName} {c : Component} (h : GoesOn bs ns)
    (hroot : c ≠ .root) (hname : ∀ n, c = .name n → n.Legible) :
    ∃ ns', Path.settle ((named ns).reverse ++ [.root]) c = (named ns').reverse ++ [.root] ∧
      GoesOn bs ns' := by
  cases c with
  | root => exact absurd rfl hroot
  | here => exact ⟨ns, rfl, h⟩
  | name n =>
    refine ⟨ns ++ [n], by simp [Path.settle], h.append ?_⟩
    intro m hm
    rw [List.mem_singleton.mp hm]
    exact hname n rfl
  | up =>
    rcases List.eq_nil_or_concat ns with rfl | ⟨init, last, rfl⟩
    · exact ⟨[], rfl, h⟩
    · rw [List.concat_eq_append] at h ⊢
      exact ⟨init, by simp [Path.settle], h.init⟩

theorem GoesOn.foldl {bs ns : List FileName} {cs : List Component} (h : GoesOn bs ns)
    (hroot : .root ∉ cs) (hnames : ∀ n, .name n ∈ cs → n.Legible) :
    ∃ ns', cs.foldl Path.settle ((named ns).reverse ++ [.root]) = (named ns').reverse ++ [.root] ∧
      GoesOn bs ns' := by
  induction cs generalizing ns with
  | nil => exact ⟨ns, rfl, h⟩
  | cons c cs ih =>
    obtain ⟨ns₁, hsettle, h₁⟩ := h.settle (fun hc => hroot (hc ▸ List.mem_cons_self))
      (fun n hc => hnames n (hc ▸ List.mem_cons_self))
    rw [List.foldl_cons, hsettle]
    exact ih h₁ (fun hc => hroot (List.mem_cons_of_mem _ hc))
      (fun n hc => hnames n (List.mem_cons_of_mem _ hc))

/-- A text that is joined to a directory leads to names that go on legibly from there. -/
theorem goesOn_join {base : Path} {bs : List FileName} (hbase : base.components = .root :: named bs)
    (text : String) : ∃ ns, (base.join (ofString text)).components = .root :: named ns ∧
      GoesOn bs ns := by
  have habs : base.isAbsolute = true := isAbsolute_iff.mpr (by rw [hbase]; rfl)
  have hroot : .root ∉ inner (ofString text).bytes := fun h => mem_inner h
  have hnames : ∀ n, .name n ∈ inner (ofString text).bytes → n.Legible := fun n hn =>
    legible_of_mem_components (List.mem_append_right _ hn)
  -- An absolute text starts over at the root.
  have hstart : ∃ ns, GoesOn bs ns ∧ (base.join (ofString text)).components =
      ((inner (ofString text).bytes).foldl settle ((named ns).reverse ++ [.root])).reverse := by
    rw [components_join habs]
    split
    · next htext =>
      refine ⟨[], ⟨[], [], rfl, List.nil_prefix, nofun⟩, ?_⟩
      rw [components_of_isAbsolute htext]
      rfl
    · next htext =>
      refine ⟨bs, ⟨bs, [], (List.append_nil bs).symm, List.prefix_rfl, nofun⟩, ?_⟩
      rw [collapse_append_components _ (Bool.eq_false_iff.mpr htext), hbase, collapse,
        List.foldl_append, List.foldl_cons, foldl_settle_named]
      rfl
  obtain ⟨ns, hns, hcomponents⟩ := hstart
  obtain ⟨ns', hfold, hgoes⟩ := hns.foldl hroot hnames
  exact ⟨ns', by rw [hcomponents, hfold]; simp, hgoes⟩

theorem Normal.append_named {rooted : Bool} {cs : List Component} (h : Normal rooted cs)
    (names : List FileName) : Normal rooted (cs ++ named names) := by
  obtain ⟨base, ns, hbase, rfl⟩ := h
  exact ⟨base, ns ++ names, hbase, by rw [named_append, List.append_assoc]⟩

theorem isAbsolute_descend (dir : Path) (names : List FileName) :
    (dir.descend names).isAbsolute = dir.isAbsolute := by
  induction names generalizing dir with
  | nil => rfl
  | cons n names ih => exact (ih (dir.child n)).trans (isAbsolute_child dir n)

/-- Names behind a normalized path leave a normal form. -/
theorem normal_descend {dir : Path} (h : dir.normalize = dir) (names : List FileName) :
    Normal (dir.descend names).isAbsolute (dir.descend names).components := by
  have hdir := normal_components_normalize dir
  rw [h] at hdir
  rw [components_descend, isAbsolute_descend]
  exact hdir.append_named names

theorem mem_settle {stack : List Component} {c d : Component} (h : d ∈ Path.settle stack c) :
    d ∈ stack ∨ d = c := by
  unfold Path.settle at h
  split at h
  · exact .inl h
  · split at h
    · exact .inl (List.mem_cons_of_mem _ h)
    · exact .inl h
    · exact (List.mem_cons.mp h).symm
  · exact (List.mem_cons.mp h).symm

/-- Normalizing adds no component. -/
theorem mem_of_mem_collapse {cs : List Component} {d : Component} (h : d ∈ collapse cs) : d ∈ cs := by
  have hfold : ∀ (cs stack : List Component), d ∈ cs.foldl Path.settle stack → d ∈ stack ∨ d ∈ cs := by
    intro cs
    induction cs with
    | nil => exact fun _ h => .inl h
    | cons c cs ih =>
      intro stack h
      rcases ih _ h with h | h
      · rcases mem_settle h with h | rfl
        · exact .inl h
        · exact .inr List.mem_cons_self
      · exact .inr (List.mem_cons_of_mem _ h)
  simpa using hfold cs [] (List.mem_reverse.mp h)

end Path

/-! ## Modules -/

/-- The directory of a source: the root and names, or the empty path if the source's path is the
root. -/
theorem Source.directory_cases {source : Source} (hpath : source.path.Canonical) :
    source.directory = ⟨[]⟩ ∨ ∃ bs, source.directory.components = .root :: named bs := by
  obtain ⟨names, hnames⟩ := hpath.components
  rcases List.eq_nil_or_concat names with rfl | ⟨init, last, rfl⟩
  · left
    simp [directory, parent, hnames]
  · right
    refine ⟨init, components_parent (n := last) ?_⟩
    rw [hnames]
    simp

theorem ContextModule.ofFile?_some {sourceDir directory path : Path} {m : ContextModule}
    (h : ofFile? sourceDir directory path = some m) :
    m.path = path ∧ directory.relativeText path = some m.key ∧
      sourceDir.relativeText path = some m.specifier ∧ m.identifier = Binding.ofKey m.key := by
  unfold ofFile? at h
  cases hkey : directory.relativeText path with
  | none => rw [hkey] at h; cases h
  | some key =>
    cases hspecifier : sourceDir.relativeText path with
    | none => rw [hkey, hspecifier] at h; cases h
    | some specifier =>
      rw [hkey, hspecifier] at h
      cases h
      exact ⟨rfl, rfl, rfl, rfl⟩

theorem ContextCall.mem_modules {s : Storage} {sourceDir : Path} {call : ContextCall}
    {pattern : Option Pattern} {c : ResolvedContext} {m : ContextModule}
    (h : call.resolveWith s sourceDir pattern = .ok c) (hm : m ∈ c.modules) :
    ∃ files, s.files (call.targetDirectory sourceDir) call.recursive (accepts pattern) = .ok files ∧
      ∃ p ∈ files, ContextModule.ofFile? sourceDir (call.targetDirectory sourceDir) p = some m := by
  obtain ⟨files, hfiles, rfl⟩ := resolveWith_ok h
  exact ⟨files, hfiles, List.mem_filterMap.mp hm⟩

/-- Whatever follows the directory of the source file in the path of a file is legible. -/
theorem ContextCall.goesOn_file {s : Storage} {sourceDir : Path} {call : ContextCall}
    {keep : Path → Bool} {bs : List FileName} {files : List Path} (hs : s.Legible)
    (hbs : sourceDir.components = .root :: named bs)
    (hfiles : s.files (call.targetDirectory sourceDir) call.recursive keep = .ok files) {p : Path}
    (hp : p ∈ files) :
    ∃ q rest, p.components = .root :: named (q ++ rest) ∧ q <+: bs ∧ ∀ n ∈ rest, n.Legible := by
  obtain ⟨names, name, rfl, -, hnames⟩ := hs.held hfiles hp
  obtain ⟨ns, htarget, hgoes⟩ := goesOn_join hbs call.directory
  obtain ⟨q, rest, heq, hq, hrest⟩ := hgoes.append hnames
  refine ⟨q, rest, ?_, hq, hrest⟩
  rw [components_descend, targetDirectory, htarget, ← heq, named_append ns]
  rfl

/-- Seen from the empty path, the names of a file are those of the call and those of the storage. -/
theorem ContextCall.legible_file {s : Storage} {call : ContextCall} {keep : Path → Bool}
    {files : List Path} (hs : s.Legible)
    (hfiles : s.files (call.targetDirectory ⟨[]⟩) call.recursive keep = .ok files) {p : Path}
    (hp : p ∈ files) : Normal p.isAbsolute p.components ∧ ∀ n, .name n ∈ p.components → n.Legible := by
  obtain ⟨names, name, rfl, -, hnames⟩ := hs.held hfiles hp
  refine ⟨normal_descend (normalize_join _ _) _, fun n hn => ?_⟩
  rw [components_descend, targetDirectory, join, nil_append, components_normalize] at hn
  rcases List.mem_append.mp hn with hn | hn
  · exact legible_of_mem_components (mem_of_mem_collapse hn)
  · obtain ⟨n', hn', heq⟩ := List.mem_map.mp hn
    cases heq
    exact hnames n hn'

/-- The specifier of a module leads from the directory of the source file to the module's file. -/
theorem ContextCall.specifier_leads {s : Storage} {source : Source} {call : ContextCall}
    {pattern : Option Pattern} {c : ResolvedContext} {m : ContextModule}
    (hpath : source.path.Canonical) (hs : s.Legible)
    (h : call.resolveWith s source.directory pattern = .ok c) (hm : m ∈ c.modules) :
    (source.directory.join (.ofString m.specifier)).components = m.path.components := by
  obtain ⟨files, hfiles, p, hp, hfile⟩ := mem_modules h hm
  obtain ⟨rfl, -, hspecifier, -⟩ := ContextModule.ofFile?_some hfile
  rcases Source.directory_cases hpath with hempty | ⟨bs, hbs⟩
  · rw [hempty] at hspecifier hfiles ⊢
    obtain ⟨hnormal, hnames⟩ := legible_file hs hfiles hp
    exact join_relativeText_empty hnormal hnames hspecifier
  · obtain ⟨q, rest, hcomponents, hq, hrest⟩ := goesOn_file hs hbs hfiles hp
    obtain ⟨text, htext, hjoin⟩ := join_relativeText hbs hq hcomponents hrest
    rw [hspecifier, Option.some.injEq] at htext
    rw [htext, hjoin]

end StaticContext
