import Mathlib.Data.List.Infix
import StaticContext.Proofs.ModuleSpecifiers

/-! # Keys and specifiers lead back to the files

The files of a context lie below its directory, so their keys go down by names alone. Their
specifiers climb out of the directory of the source file as far as the deepest directory above both,
and go down from there. Each leads back to the path of its file, so no two files share one, and no
file is left out. The root as a source file is in no directory, and what lies below the root cannot
be seen from nowhere: then the files of an absolute directory have no specifier. -/

namespace StaticContext
open StaticContext.Path Component

/-! ## The spelling of a file -/

namespace Path

theorem spell_concat {cs : List Component} (h : cs ≠ []) (c : Component) :
    spell (cs ++ [c]) = spell cs ++ slash :: c.bytes := by
  induction cs with
  | nil => exact absurd rfl h
  | cons d rest ih =>
    cases rest with
    | nil => rfl
    | cons e rest =>
      have hrest : spell (e :: rest ++ [c]) = spell (e :: rest) ++ slash :: c.bytes :=
        ih (List.cons_ne_nil _ _)
      show d.bytes ++ slash :: spell (e :: rest ++ [c]) =
        (d.bytes ++ slash :: spell (e :: rest)) ++ slash :: c.bytes
      rw [hrest, List.append_assoc, List.cons_append]

/-- A spelling without a root ends in what its last component ends in. -/
theorem exists_getLast?_spell {cs : List Component} (hne : cs ≠ []) (h : ∀ c ∈ cs, Inner c) :
    ∃ b, (spell cs).getLast? = some b ∧ b ≠ slash := by
  obtain ⟨front, c, rfl⟩ := (List.eq_nil_or_concat' cs).resolve_left hne
  have hc : Inner c := h c (by simp)
  have hbytes : c.bytes ≠ [] := by
    cases c with
    | up => decide
    | name n => exact n.legal.1
    | root | here => exact hc.elim
  obtain ⟨init, b, hb⟩ := (List.eq_nil_or_concat' c.bytes).resolve_left hbytes
  refine ⟨b, ?_, ?_⟩
  · by_cases hfront : front = []
    · simp [hfront, spell, hb]
    · have hsplit : spell front ++ slash :: (init ++ [b]) = (spell front ++ slash :: init) ++ [b] := by
        simp
      rw [spell_concat hfront, hb, hsplit, List.getLast?_concat]
  · rintro rfl
    exact bytes_notMem_slash c (by simp [hb])

theorem Normal.inner {rooted : Bool} {cs : List Component} (h : Normal rooted cs) {c : Component}
    (hc : c ∈ cs) (hroot : c ≠ .root) : Inner c := by
  obtain ⟨base, names, hbase, rfl⟩ := h
  rcases List.mem_append.mp hc with hc | hc
  · cases rooted with
    | true =>
      rw [hbase, List.mem_singleton] at hc
      exact absurd hc hroot
    | false =>
      obtain ⟨count, rfl⟩ := hbase
      rw [List.eq_of_mem_replicate hc]
      trivial
  · exact inner_of_mem_named hc

/-- An entry of a directory in its shortest spelling is spelled as shortly. -/
theorem child_ofComponents {rooted : Bool} {cs : List Component} (h : Normal rooted cs)
    (n : FileName) : (ofComponents cs).child n = ofComponents (cs ++ [.name n]) := by
  have hrel := isAbsolute_name n
  have hinner : ∀ c ∈ cs, c ≠ .root → Inner c := fun c hc hroot => h.inner hc hroot
  cases cs with
  | nil => exact nil_append _
  | cons c rest =>
    have hrest : ∀ d ∈ rest, Inner d := h.spelled
    by_cases hc : c = .root
    · subst hc
      by_cases hnil : rest = []
      · simp [hnil, ofComponents, child, append, hrel, spell, Component.bytes]
      · obtain ⟨b, hb, hslash⟩ := exists_getLast?_spell hnil hrest
        have hlast : (slash :: spell rest).getLast? = some b := by
          rw [List.getLast?_cons, hb]
          rfl
        simp [ofComponents, child, append, hrel, hlast, hslash, spell_concat hnil, Component.bytes]
    · have hshort : ∀ more, ofComponents (c :: more) = ⟨spell (c :: more)⟩ := by
        intro more
        cases c with
        | root => exact absurd rfl hc
        | here | up | name => rfl
      have hall : ∀ d ∈ c :: rest, Inner d :=
        List.forall_mem_cons.mpr ⟨hinner c List.mem_cons_self hc, hrest⟩
      obtain ⟨b, hb, hslash⟩ := exists_getLast?_spell (List.cons_ne_nil c rest) hall
      have hspell := spell_concat (List.cons_ne_nil c rest) (.name n)
      rw [List.cons_append] at hspell ⊢
      rw [hshort, hshort, hspell]
      simp [child, append, hrel, hb, hslash, Component.bytes]

/-- Names behind a normalized path leave it normalized. -/
theorem normalize_descend {dir : Path} (h : dir.normalize = dir) (names : List FileName) :
    (dir.descend names).normalize = dir.descend names := by
  induction names generalizing dir with
  | nil => exact h
  | cons n names ih =>
    have hnormal := normal_components_normalize dir
    have hcollapse := hnormal.collapse
    rw [h] at hnormal hcollapse
    have hchild : dir.child n = ofComponents (dir.components ++ [.name n]) := by
      rw [← child_ofComponents hnormal n, ← hcollapse, ← normalize, h]
    have hnormalized : (dir.child n).normalize = dir.child n := by
      rw [normalize, components_child, collapse_append_name, hcollapse, hchild]
    exact ih hnormalized

end Path

/-! ## Keys -/

/-- A key that goes down from its directory to the file, by names alone. -/
structure ContextModule.KeyLeads (directory : Path) (m : ContextModule) : Prop where
  leads : directory.join (.ofString m.key) = m.path
  opens : ∃ more, m.key = "./" ++ more
  descends : ∃ names, names ≠ [] ∧ (Path.ofString m.key).components = .here :: named names

namespace Path

theorem way_below (cs more : List Component) : way false (cs ++ more) cs = some more := by
  induction cs with
  | nil => rw [List.nil_append, way]
  | cons c cs ih => rw [List.cons_append, way, if_pos (by simp), ih]

/-- The text from a directory to what lies below it goes down. -/
theorem relativeText_below {base target : Path} {names : List FileName}
    (h : target.components = base.components ++ named names) :
    base.relativeText target = some (textOfSteps (named names)) := by
  have habs : target.isAbsolute = base.isAbsolute := by
    rw [Bool.eq_iff_iff, isAbsolute_iff, isAbsolute_iff, h]
    cases base.components with
    | nil => cases names <;> simp
    | cons c rest => rfl
  have hwayTo : base.wayTo target = some (named names) := by
    rw [wayTo, if_pos habs, h, way_below]
  exact relativeText_eq hwayTo fun c hc => inner_of_mem_named hc

/-- What leads to the components of a normalized path leads to the path. -/
theorem join_eq {base target : Path} {text : String} (htarget : target.normalize = target)
    (h : (base.join (ofString text)).components = target.components) :
    base.join (ofString text) = target :=
  eq_of_same (normalize_join _ _) htarget (same_iff.mpr h)

end Path

theorem ContextModule.keyLeads {directory : Path} {m : ContextModule} {names : List FileName}
    (hdirectory : directory.normalize = directory) (hpath : m.path = directory.descend names)
    (hne : names ≠ []) (hnames : ∀ n ∈ names, n.Legible)
    (hkey : m.key = textOfSteps (named names)) : m.KeyLeads directory where
  leads := by
    obtain ⟨habs, hinner⟩ := ofString_textOfSteps (step_of_mem_named hnames)
    have hcollapse := (normal_components_normalize directory).collapse
    rw [hdirectory] at hcollapse
    have hpathNormal : m.path.normalize = m.path := by rw [hpath, normalize_descend hdirectory]
    refine join_eq hpathNormal ?_
    rw [hkey, hpath, components_descend, components_join_relative _ habs, hinner]
    exact (collapse_append_named _ _).trans (by rw [hcollapse])
  opens := by
    obtain ⟨n, rest, rfl⟩ := List.exists_cons_of_ne_nil hne
    rw [hkey]
    exact opening_textOfSteps 0 n (named rest)
  descends := by
    obtain ⟨n, rest, rfl⟩ := List.exists_cons_of_ne_nil hne
    refine ⟨n :: rest, hne, ?_⟩
    rw [hkey, components_textOfSteps (step_of_mem_named hnames)]
    exact if_neg nofun

/-! ## Specifiers -/

/-- A specifier that climbs out of the directory of the source file to the deepest directory above
both, and no further, and goes down to the file from there. -/
structure ContextModule.SpecifierLeads (sourceDir : Path) (m : ContextModule) : Prop where
  leads : sourceDir.join (.ofString m.specifier) = m.path
  opens : ∃ more, m.specifier = "./" ++ more ∨ m.specifier = "../" ++ more
  descends : ∃ count names, names ≠ [] ∧ (Path.ofString m.specifier).components =
    (if count = 0 then [.here] else List.replicate count .up) ++ named names
  climbs : ∃ front climbed rest, sourceDir.components = front ++ climbed ∧
    m.path.components = front ++ rest ∧
    (∀ q, q <+: sourceDir.components → q <+: m.path.components → q <+: front) ∧
    (Path.ofString m.specifier).components.filter (· ≠ .here) =
      List.replicate climbed.length .up ++ rest

namespace Path

theorem components_climb {count : Nat} {names : List FileName} (hne : names ≠ [])
    (hnames : ∀ n ∈ names, n.Legible) :
    (ofString (textOfSteps (List.replicate count .up ++ named names))).components =
      (if count = 0 then [.here] else List.replicate count .up) ++ named names := by
  obtain ⟨n, rest, rfl⟩ := List.exists_cons_of_ne_nil hne
  rw [components_textOfSteps (step_of_mem_climb _ hnames)]
  cases count with
  | zero => exact if_neg nofun
  | succ count => simp [List.replicate_succ]

theorem filter_climb (count : Nat) (names : List FileName) :
    ((if count = 0 then [Component.here] else List.replicate count .up) ++ named names).filter
      (· ≠ .here) = List.replicate count .up ++ named names := by
  have hnamed : (named names).filter (· ≠ .here) = named names := by
    refine List.filter_eq_self.mpr fun c hc => ?_
    obtain ⟨n, -, rfl⟩ := List.mem_map.mp hc
    rfl
  rw [List.filter_append, hnamed]
  cases count with
  | zero => rfl
  | succ count => simp

theorem longest_named {front bs ts : List FileName}
    (h : ∀ q, q <+: bs → q <+: ts → q <+: front) {cs : List Component}
    (hbs : cs <+: .root :: named bs) (hts : cs <+: .root :: named ts) :
    cs <+: .root :: named front := by
  cases cs with
  | nil => exact List.nil_prefix
  | cons c cs =>
    obtain ⟨hc, hbelow⟩ := List.cons_prefix_cons.mp hbs
    obtain ⟨q, hq, rfl⟩ := List.prefix_map_iff.mp hbelow
    obtain ⟨q', hq', heq⟩ := List.prefix_map_iff.mp (List.cons_prefix_cons.mp hts).2
    cases named_injective heq
    exact List.cons_prefix_cons.mpr ⟨hc, (h q hq hq').map Component.name⟩

end Path

/-- What a specifier is like that spells steps which climb and then go down. -/
theorem ContextModule.specifierLeads {sourceDir : Path} {m : ContextModule} {count : Nat}
    {names : List FileName} (front climbed rest : List Component)
    (hne : names ≠ []) (hnames : ∀ n ∈ names, n.Legible)
    (hspecifier : m.specifier = textOfSteps (List.replicate count .up ++ named names))
    (hleads : sourceDir.join (.ofString m.specifier) = m.path)
    (hsource : sourceDir.components = front ++ climbed) (hpath : m.path.components = front ++ rest)
    (hlongest : ∀ q, q <+: sourceDir.components → q <+: m.path.components → q <+: front)
    (hsteps : List.replicate count .up ++ named names =
      List.replicate climbed.length .up ++ rest) : m.SpecifierLeads sourceDir where
  leads := hleads
  opens := by
    obtain ⟨n, more, rfl⟩ := List.exists_cons_of_ne_nil hne
    obtain ⟨text, htext⟩ := opening_textOfSteps count n (named more)
    refine ⟨text, ?_⟩
    rw [hspecifier, named_cons, htext]
    cases count with
    | zero => exact .inl rfl
    | succ count => exact .inr rfl
  descends := ⟨count, names, hne, by rw [hspecifier, components_climb hne hnames]⟩
  climbs := by
    refine ⟨front, climbed, rest, hsource, hpath, hlongest, ?_⟩
    rw [hspecifier, components_climb hne hnames, filter_climb, hsteps]

/-! ## Where the files are -/

theorem Location.ofPath_named {p : Path} {names : List FileName}
    (h : p.components = .root :: named names) : ofPath p = names := by
  rw [ofPath, h, collapse_rooted, List.filterMap_cons_none rfl, named, List.filterMap_map]
  exact List.filterMap_some

namespace Storage

/-- Neither the place nor any above it is a file or a link. -/
def IsPassable (s : Storage) (p : Path) : Prop :=
  ∀ l, l <+: Location.ofPath p → ∀ place, s.placeAt l = some place →
    place.type ≠ .file ∧ place.type ≠ .link

instance (s : Storage) (p : Path) : Decidable (s.IsPassable p) :=
  decidable_of_iff (∀ l ∈ (Location.ofPath p).inits, ∀ place ∈ s.placeAt l,
    place.type ≠ .file ∧ place.type ≠ .link) (by simp only [IsPassable, List.mem_inits, Option.mem_def])

end Storage

/-- What a directory that no link leads to holds is a file or a link in its place. -/
theorem Walk.Holds.placeAt {s : Storage} {dir : Path} {name : FileName} {names : List FileName}
    (h : Walk.Holds s.list dir name) (hdir : dir.components = .root :: named names)
    (hlinks : ∀ l, l <+: names → ∀ target, s.placeAt l ≠ some (.link target)) :
    ∃ place, s.placeAt (names ++ [name]) = some place ∧ (place.type = .file ∨ place.type = .link) := by
  obtain ⟨listing, type, hlist, hentry, htype⟩ := h
  obtain ⟨l, hl, hplaces⟩ := Storage.mem_of_list hlist
  obtain ⟨m, hm, -⟩ := Storage.reach_ok hl
  obtain ⟨q, hq, rfl⟩ := Storage.locate_ok hm
  have habs : dir.isAbsolute = true := isAbsolute_iff.mpr (by rw [hdir]; rfl)
  rw [absolute?, if_pos habs] at hq
  cases hq
  have hlocation : Location.ofPath dir.normalize = names :=
    Location.ofPath_named (by rw [components_normalize, hdir, collapse_rooted])
  rw [hlocation] at hm
  obtain rfl := Storage.reach_eq_locate hl hm hlinks
  obtain ⟨place, hmem, rfl⟩ := hplaces _ hentry
  exact ⟨place, Storage.placeAt_of_mem hmem (by simp), htype⟩

theorem Source.components_of_directory {source : Source} (hpath : source.path.Canonical)
    (h : source.directory = ⟨[]⟩) : source.path.components = [.root] := by
  obtain ⟨names, hnames⟩ := hpath.components
  rcases List.eq_nil_or_concat names with rfl | ⟨init, last, rfl⟩
  · exact hnames
  · have hparent : source.directory.components = .root :: named init :=
      components_parent (n := last) (by rw [hnames]; simp)
    have hnil : components ⟨[]⟩ = [] := by decide
    rw [h, hnil] at hparent
    cases hparent

/-! ## Files as modules -/

namespace ContextCall

variable {s : Storage} {source : Source} {call : ContextCall}

/-- From a directory below the root a specifier leads to every file. -/
theorem exists_specifier {keep : Path → Bool} {files : List Path} {p : Path} {bs : List FileName}
    (hs : s.Legible) (hpassable : s.IsPassable source.directory)
    (hbs : source.directory.components = .root :: named bs)
    (hfiles : s.files (call.targetDirectory source.directory) call.recursive keep = .ok files)
    (hp : p ∈ files) : ∃ text, source.directory.relativeText p = some text ∧
      ∀ m : ContextModule, m.path = p → m.specifier = text → m.SpecifierLeads source.directory := by
  obtain ⟨q, rest, hcomponents, hq, hrest⟩ := goesOn_file hs hbs hfiles hp
  obtain ⟨front, climbed, descended, rfl, hsplit, hlongest, hlegible, htext⟩ :=
    relativeText_named hbs hq hcomponents hrest
  obtain ⟨names, name, rfl, hholds, -⟩ := hs.held hfiles hp
  obtain ⟨ds, htarget, -⟩ := goesOn_join hbs call.directory
  have hdirectory : ((call.targetDirectory source.directory).descend names).components =
      .root :: named (ds ++ names) := by
    rw [components_descend, targetDirectory, htarget, named_append]
    rfl
  have hnames : front ++ descended = ds ++ names ++ [name] := by
    rw [components_descend, targetDirectory, htarget, hsplit] at hcomponents
    have hnamed := named_injective ((List.cons.inj hcomponents).2.symm.trans (named_append ..).symm)
    rw [hnamed, List.append_assoc]
  -- a file in the way to the source's directory would have nothing left to go down by
  have hne : descended ≠ [] := by
    rintro rfl
    rw [List.append_nil] at hnames
    have hway : front <+: Location.ofPath source.directory := by
      rw [Location.ofPath_named hbs]
      exact List.prefix_append front climbed
    have hlinks : ∀ l, l <+: ds ++ names → ∀ target, s.placeAt l ≠ some (.link target) := by
      intro l hl target hplace
      have hfront : l <+: front := hnames ▸ hl.trans (List.prefix_append ..)
      exact (hpassable l (hfront.trans hway) _ hplace).2 rfl
    obtain ⟨place, hplace, htype⟩ := hholds.placeAt hdirectory hlinks
    rw [← hnames] at hplace
    obtain ⟨hfile, hlink⟩ := hpassable front hway place hplace
    exact htype.elim hfile hlink
  have hpath := hcomponents
  rw [hsplit] at hpath
  refine ⟨_, htext, fun m hm hspecifier => ?_⟩
  obtain ⟨text, htext', hjoin⟩ := join_relativeText hbs hq hcomponents hrest
  cases htext.symm.trans htext'
  refine ContextModule.specifierLeads (.root :: named front) (named climbed) (named descended) hne
    hlegible hspecifier ?_ ?_ ?_ ?_ ?_
  · rw [hspecifier, hm]
    exact join_eq (normalize_descend (normalize_join _ _) _) hjoin
  · rw [hbs, named_append]
    rfl
  · rw [hm, hpath, named_append]
    rfl
  · rw [hbs, hm, hpath]
    rw [hsplit] at hlongest
    exact fun _ => longest_named hlongest
  · rw [show (named climbed).length = climbed.length from List.length_map _]

/-- From nowhere a specifier leads to every file of a relative directory. -/
theorem exists_specifier_empty {keep : Path → Bool} {files : List Path} {p : Path}
    (hs : s.Legible) (hrelative : (Path.ofString call.directory).isAbsolute = false)
    (hfiles : s.files (call.targetDirectory ⟨[]⟩) call.recursive keep = .ok files)
    (hp : p ∈ files) : ∃ text, relativeText ⟨[]⟩ p = some text ∧
      ∀ m : ContextModule, m.path = p → m.specifier = text → m.SpecifierLeads ⟨[]⟩ := by
  obtain ⟨hnormal, hlegible⟩ := legible_file hs hfiles hp
  obtain ⟨names, name, rfl, -, -⟩ := hs.held hfiles hp
  have habs : ((call.targetDirectory ⟨[]⟩).descend (names ++ [name])).isAbsolute = false := by
    rw [isAbsolute_descend, targetDirectory, join, nil_append, isAbsolute_normalize_eq, hrelative]
  have hlast := components_descend (call.targetDirectory ⟨[]⟩) (names ++ [name])
  have hparts := hnormal
  rw [habs] at hparts
  obtain ⟨_, ns, ⟨count, rfl⟩, hcomponents⟩ := hparts
  have hne : ns ≠ [] := by
    rintro rfl
    have hmem : .name name ∈ List.replicate count Component.up := by
      rw [← List.append_nil (List.replicate _ _), ← named_nil, ← hcomponents, hlast]
      simp
    cases List.eq_of_mem_replicate hmem
  have hnames : ∀ n ∈ ns, n.Legible := by
    rw [hcomponents] at hlegible
    exact fun n hn => hlegible n (List.mem_append_right _ (List.mem_map_of_mem hn))
  have hsteps := step_of_mem_climb count hnames
  have htext := relativeText_empty habs (hcomponents ▸ hsteps)
  have hnil : components ⟨[]⟩ = [] := by decide
  refine ⟨_, htext, fun m hm hspecifier => ?_⟩
  refine ContextModule.specifierLeads [] [] m.path.components hne hnames
    (hcomponents ▸ hspecifier) ?_ hnil rfl (fun _ hq _ => hnil ▸ hq) (by rw [hm, hcomponents]; rfl)
  rw [hspecifier, hm]
  exact join_eq (normalize_descend (normalize_join _ _) _) (join_relativeText_empty hnormal hlegible htext)

/-- Every file is a module whose key and whose specifier lead back to it, unless it is below the root
and seen from nowhere. -/
theorem exists_module {keep : Path → Bool} {files : List Path} {p : Path}
    (hpath : source.path.Canonical) (hs : s.Legible) (hpassable : s.IsPassable source.directory)
    (hseen : ¬ (source.path.components = [.root] ∧ (Path.ofString call.directory).isAbsolute = true))
    (hfiles : s.files (call.targetDirectory source.directory) call.recursive keep = .ok files)
    (hp : p ∈ files) : ∃ m,
      ContextModule.ofFile? source.directory (call.targetDirectory source.directory) p = some m ∧
      m.path = p ∧ m.KeyLeads (call.targetDirectory source.directory) ∧
      m.SpecifierLeads source.directory := by
  obtain ⟨names, name, hdescend, -, hnames⟩ := hs.held hfiles hp
  have hkey := relativeText_below
    (hdescend ▸ components_descend (call.targetDirectory source.directory) (names ++ [name]))
  have hspecifier : ∃ text, source.directory.relativeText p = some text ∧
      ∀ m : ContextModule, m.path = p → m.specifier = text → m.SpecifierLeads source.directory := by
    rcases Source.directory_cases hpath with hempty | ⟨bs, hbs⟩
    · have hrelative : (Path.ofString call.directory).isAbsolute = false := by
        rw [Bool.eq_false_iff]
        exact fun habs => hseen ⟨Source.components_of_directory hpath hempty, habs⟩
      rw [hempty] at hfiles ⊢
      exact exists_specifier_empty hs hrelative hfiles hp
    · exact exists_specifier hs hpassable hbs hfiles hp
  obtain ⟨text, htext, hleads⟩ := hspecifier
  let key := textOfSteps (named (names ++ [name]))
  refine ⟨⟨p, key, text, Binding.ofKey key⟩, ?_, rfl, ?_, hleads _ rfl rfl⟩
  · simp only [ContextModule.ofFile?, hkey, htext]
    rfl
  · exact ContextModule.keyLeads (normalize_join _ _) hdescend (by simp) hnames rfl

/-- Texts that lead to different files are different. -/
theorem nodup_of_leads {modules : List ContextModule} {text : ContextModule → String} {base : Path}
    (hnodup : (modules.map ContextModule.path).Nodup)
    (h : ∀ m ∈ modules, base.join (.ofString (text m)) = m.path) : (modules.map text).Nodup := by
  have hpaths : (modules.map text).map (fun t => base.join (.ofString t)) =
      modules.map ContextModule.path := by
    rw [List.map_map]
    exact List.map_congr_left h
  exact List.Nodup.of_map _ (hpaths ▸ hnodup)

/-- The modules of a call that resolves are the files of its directory, one to one and in order. Each
key goes down from the directory to the file and each specifier climbs from the directory of the
source file no further than it must, both lead back to the file, and no two modules share one. Only
below the root as a source file the modules of an absolute directory are lost. -/
theorem modules_lead_back {c : ResolvedContext} (hpath : source.path.Canonical) (hs : s.Legible)
    (hpassable : s.IsPassable source.directory) (h : call.resolve s source.directory = .ok c) :
    ∃ pattern files, call.compileFilter = .ok pattern ∧
      c.directory = call.targetDirectory source.directory ∧
      s.files c.directory call.recursive (accepts pattern) = .ok files ∧
      (source.path.components = [.root] ∧ (Path.ofString call.directory).isAbsolute = true →
        c.modules = []) ∧
      (¬ (source.path.components = [.root] ∧ (Path.ofString call.directory).isAbsolute = true) →
        c.modules.map ContextModule.path = files ∧
        (c.modules.map ContextModule.key).Nodup ∧ (c.modules.map ContextModule.specifier).Nodup ∧
        ∀ m ∈ c.modules, m.KeyLeads c.directory ∧ m.SpecifierLeads source.directory) := by
  obtain ⟨pattern, hpattern, hwith⟩ := resolve_ok.mp h
  obtain ⟨files, hfiles, rfl⟩ := resolveWith_ok hwith
  refine ⟨pattern, files, hpattern, rfl, hfiles, ?_, fun hseen => ?_⟩
  · rintro ⟨hroot, habs⟩
    have hempty : source.directory = ⟨[]⟩ := by
      simp [Source.directory, parent, hroot]
    refine List.filterMap_eq_nil_iff.mpr fun p hp => ?_
    obtain ⟨names, name, rfl, -, -⟩ := hs.held hfiles hp
    have hp : ((call.targetDirectory ⟨[]⟩).descend (names ++ [name])).isAbsolute = true := by
      rw [isAbsolute_descend, targetDirectory, join, nil_append, isAbsolute_normalize_eq, habs]
    rw [hempty, ContextModule.ofFile?, relativeText_empty_absolute hp]
    cases relativeText (call.targetDirectory ⟨[]⟩) _ <;> rfl
  · have hmodule := fun p (hp : p ∈ files) => exists_module hpath hs hpassable hseen hfiles hp
    have hpaths : (files.filterMap (ContextModule.ofFile? source.directory
        (call.targetDirectory source.directory))).map ContextModule.path = files := by
      refine Traversal.map_filterMap_eq fun p hp => ?_
      obtain ⟨m, hm, hpath, -⟩ := hmodule p hp
      exact ⟨m, hm, hpath⟩
    have hleads : ∀ m ∈ files.filterMap (ContextModule.ofFile? source.directory
        (call.targetDirectory source.directory)),
        m.KeyLeads (call.targetDirectory source.directory) ∧ m.SpecifierLeads source.directory := by
      intro m hm
      obtain ⟨p, hp, hfile⟩ := List.mem_filterMap.mp hm
      obtain ⟨m', hm', -, hleads⟩ := hmodule p hp
      cases hfile.symm.trans hm'
      exact hleads
    have hnodup : files.Nodup :=
      (hfiles ▸ Walk.ends_files s _ call.recursive (accepts pattern)).nodup fun _ _ => Walk.nodup_names
    rw [← hpaths] at hnodup
    exact ⟨hpaths, nodup_of_leads hnodup fun m hm => (hleads m hm).1.leads,
      nodup_of_leads hnodup fun m hm => (hleads m hm).2.leads, hleads⟩

/-- A call for a directory beside that of its source file. -/
def besideCall : ContextCall := ⟨⟨0, 0⟩, "../x", true, none⟩

def besideSource : Source := ⟨.ofString "/src/app.js", ""⟩

def besideStorage : Storage :=
  (Storage.empty.put (.ofString "/x/.hidden.js") (.file [])).put (.ofString "/x/d/a.js") (.file [])

theorem modules_lead_back_beside : ∃ c,
    besideCall.resolve besideStorage besideSource.directory = .ok c ∧
      c.modules.map ContextModule.path = [.ofString "/x/.hidden.js", .ofString "/x/d/a.js"] ∧
      ∀ m ∈ c.modules, m.KeyLeads c.directory ∧ m.SpecifierLeads besideSource.directory := by
  have hresolve : besideCall.resolve besideStorage besideSource.directory = .ok
      ⟨.ofString "/x", [⟨.ofString "/x/.hidden.js", "./.hidden.js", "../x/.hidden.js", "_"⟩,
        ⟨.ofString "/x/d/a.js", "./d/a.js", "../x/d/a.js", "D_A"⟩]⟩ :=
    Traversal.ok_of_toOption (by decide +kernel)
  obtain ⟨_, _, _, _, _, _, hseen⟩ := modules_lead_back ⟨by decide +kernel, by decide +kernel⟩
    (Storage.legible_of_lossy (by decide +kernel)) (by decide +kernel) hresolve
  exact ⟨_, hresolve, rfl, (hseen (by decide +kernel)).2.2.2⟩

/-- The root as a source file, which is in no directory. -/
def rootSource : Source := ⟨.ofString "/", ""⟩

/-- From the root as a source file no specifier leads to the files of an absolute directory. -/
theorem modules_lost : ¬ ∀ (s : Storage) (source : Source) (call : ContextCall)
    (c : ResolvedContext) (pattern : Option Pattern) (files : List Path),
    source.path.Canonical → s.Legible → s.IsPassable source.directory →
      call.resolve s source.directory = .ok c → call.compileFilter = .ok pattern →
      s.files c.directory call.recursive (accepts pattern) = .ok files →
      c.modules.map ContextModule.path = files := by
  intro h
  have hpaths := h besideStorage rootSource ⟨⟨0, 0⟩, "/x", true, none⟩ ⟨.ofString "/x", []⟩ none
    [.ofString "/x/.hidden.js", .ofString "/x/d/a.js"] ⟨by decide +kernel, by decide +kernel⟩
    (Storage.legible_of_lossy (by decide +kernel)) (by decide +kernel)
    (Traversal.ok_of_toOption (by decide +kernel)) rfl (by decide +kernel)
  cases hpaths

end ContextCall

end StaticContext
