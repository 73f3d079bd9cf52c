import Mathlib.Data.List.Nodup
import StaticContext.Proofs.AccessorBehavior
import StaticContext.Proofs.ModuleKeys

/-! # Which files of a context share a key

A key spells the names that lead from the directory of a context to a file, each as the text that it
is shown as. No such text has a slash, so the key tells all of them; but the text of an ill-formed
name does not tell the name. So two files share a key exactly if their names are shown alike, one for
one, and then the object of the accessor loses the first of them. -/

namespace StaticContext
open StaticContext.Path Component Script Script.Evaluation

/-! ## Slashes of a text -/

namespace Utf8

/-- Whatever character it becomes, it is none of those that take one byte. -/
structure Partial.Wide (q : Partial) : Prop where
  last : q.owed ≤ 1 → 2 ≤ q.bits
  next : 1 < q.owed → 2 ≤ q.bits * 64 + (q.low - 0x80)

theorem slashChar_ne_ofNat {n : Nat} (h : n ≠ 47) : some '/' ≠ some (Char.ofNat n) := by
  intro heq
  have hnat : 47 = (Char.ofNat n).toNat := congrArg Char.toNat (Option.some.inj heq)
  by_cases hvalid : n.isValidChar
  · rw [Char.ofNat, dif_pos hvalid] at hnat
    exact h hnat.symm
  · rw [Char.ofNat, dif_neg hvalid] at hnat
    cases hnat

theorem eq_slash_of_mem_start {b : Nat} (h : some '/' ∈ (start b).1) : b = 47 := by
  by_cases hone : b < 0x80
  · rw [start_one hone, List.mem_singleton] at h
    by_contra hne
    exact slashChar_ne_ofNat hne h
  · -- whatever else a byte starts, the character is not there yet
    unfold start at h
    rw [if_neg hone] at h
    repeat' split at h
    all_goals simp only [List.mem_singleton, List.not_mem_nil, reduceCtorEq] at h

theorem wide_of_start {b : Nat} {q : Partial} (h : (start b).2 = some q) : q.Wide := by
  by_cases hone : b < 0x80
  · rw [start_one hone] at h
    cases h
  by_cases htwo : b < 0xC2
  · rw [start, if_neg hone, if_pos htwo] at h
    cases h
  by_cases hthree : b < 0xE0
  · rw [start_two (by omega) hthree, Option.some.injEq] at h
    subst h
    exact ⟨fun _ => by simp only; omega, fun _ => by simp only; omega⟩
  by_cases hfour : b < 0xF0
  · rw [start_three (by omega) hfour, Option.some.injEq] at h
    subst h
    refine ⟨fun howed => absurd howed (by simp), fun _ => ?_⟩
    simp only
    split <;> omega
  by_cases hlast : b ≤ 0xF4
  · rw [start_four (by omega) hlast, Option.some.injEq] at h
    subst h
    refine ⟨fun howed => absurd howed (by simp), fun _ => ?_⟩
    simp only
    split <;> omega
  · rw [start, if_neg hone, if_neg htwo, if_neg hthree, if_neg (by omega), if_neg (by omega),
      if_neg hfour, if_neg (by omega), if_neg (by omega), if_neg (by omega)] at h
    cases h

/-- A slash that a byte makes is that byte. -/
theorem eq_slash_of_mem_feed {p : Option Partial} (hp : ∀ q ∈ p, q.Wide) {b : Nat}
    (h : some '/' ∈ (feed p b).1) : b = 47 := by
  cases p with
  | none => exact eq_slash_of_mem_start h
  | some q =>
    have hwide := hp q rfl
    rw [feed] at h
    by_cases hrange : q.low ≤ b ∧ b ≤ q.high
    · rw [if_pos hrange] at h
      by_cases howed : q.owed ≤ 1
      · have hbits := hwide.last howed
        rw [if_pos howed, List.mem_singleton] at h
        exact absurd h (slashChar_ne_ofNat (by omega))
      · rw [if_neg howed] at h
        cases h
    · rw [if_neg hrange] at h
      rcases List.mem_cons.mp h with h | h
      · cases h
      · exact eq_slash_of_mem_start h

theorem wide_of_feed {p : Option Partial} (hp : ∀ q ∈ p, q.Wide) {b : Nat} {q : Partial}
    (h : (feed p b).2 = some q) : q.Wide := by
  cases p with
  | none => exact wide_of_start h
  | some q' =>
    have hwide := hp q' rfl
    rw [feed] at h
    by_cases hrange : q'.low ≤ b ∧ b ≤ q'.high
    · rw [if_pos hrange] at h
      by_cases howed : q'.owed ≤ 1
      · rw [if_pos howed] at h
        cases h
      · have hbits := hwide.next (Nat.lt_of_not_le howed)
        rw [if_neg howed, Option.some.injEq] at h
        subst h
        exact ⟨fun _ => by simp only; omega, fun _ => by simp only; omega⟩
    · rw [if_neg hrange] at h
      exact wide_of_start h

theorem slash_mem_of_mem_scan {p : Option Partial} (hp : ∀ q ∈ p, q.Wide) {bytes : List UInt8}
    (h : some '/' ∈ scan p bytes) : slash ∈ bytes := by
  induction bytes generalizing p with
  | nil => cases p <;> simp [scan] at h
  | cons b rest ih =>
    have hscan : scan p (b :: rest) = (feed p b.toNat).1 ++ scan (feed p b.toNat).2 rest := by
      cases p <;> rfl
    rw [hscan] at h
    rcases List.mem_append.mp h with h | h
    · have hb : b = slash := UInt8.toNat_inj.mp (eq_slash_of_mem_feed hp h)
      exact hb ▸ List.mem_cons_self
    · exact List.mem_cons_of_mem b (ih (fun q hq => wide_of_feed hp hq) h)

end Utf8

namespace FileName

/-- What a name is shown as. -/
def text (n : FileName) : String := Utf8.lossy n.bytes

theorem slash_notMem_text (n : FileName) : '/' ∉ n.text.toList := by
  rw [text, Utf8.lossy, String.toList_ofList]
  intro h
  obtain ⟨piece, hpiece, hslash⟩ := List.mem_map.mp h
  cases piece with
  | none => exact absurd hslash (by decide)
  | some c =>
    cases hslash
    exact n.legal.2.2.2 (Utf8.slash_mem_of_mem_scan (fun _ hq => by cases hq) hpiece)

/-- Names put together with slashes show each of them. -/
theorem map_text_inj {ms ns : List FileName} (hms : ms ≠ []) (hns : ns ≠ [])
    (h : "/".intercalate (ms.map text) = "/".intercalate (ns.map text)) :
    ms.map text = ns.map text := by
  have hsplit : ∀ names : List FileName, names ≠ [] →
      ("/".intercalate (names.map text)).toList.splitOn '/' = names.map (·.text.toList) := by
    intro names hne
    rw [String.toList_intercalate, List.map_map]
    refine List.splitOn_intercalate '/' ?_ (by simpa using hne)
    intro cs hcs
    obtain ⟨n, -, rfl⟩ := List.mem_map.mp hcs
    exact slash_notMem_text n
  have hlists : ms.map (·.text.toList) = ns.map (·.text.toList) := by
    rw [← hsplit ms hms, h, hsplit ns hns]
  have htexts := congrArg (List.map String.ofList) hlists
  simpa only [List.map_map, Function.comp_def, String.ofList_toList] using htexts

end FileName

/-! ## Keys -/

namespace Path

/-- Places below a directory whose names are shown alike, one for one. -/
def LookAlike (dir p q : Path) : Prop :=
  ∃ ms ns, p = dir.descend ms ∧ q = dir.descend ns ∧ ms.map FileName.text = ns.map FileName.text

/-- The text that leads from a directory to a place below it. -/
theorem relativeText_descend (dir : Path) {names : List FileName} (hne : names ≠ []) :
    dir.relativeText (dir.descend names) =
      some ("./" ++ "/".intercalate (names.map FileName.text)) := by
  obtain ⟨n, rest, rfl⟩ := List.exists_cons_of_ne_nil hne
  have htexts : (named (n :: rest)).map textOf = (n :: rest).map FileName.text := by
    rw [named, List.map_map]
    rfl
  rw [relativeText_below (components_descend dir _), textOfSteps, htexts]
  rfl

end Path

/-- No directory holds two places that are shown alike. -/
def Storage.Discernible (s : Storage) : Prop :=
  ∀ e ∈ s.places, ∀ f ∈ s.places, e.1.dropLast = f.1.dropLast →
    e.1.getLast?.map FileName.text = f.1.getLast?.map FileName.text → e.1 = f.1

instance (s : Storage) : Decidable s.Discernible :=
  inferInstanceAs (Decidable (∀ e ∈ s.places, ∀ f ∈ s.places, _ → _ → _))

/-- Names that are texts are told apart by what they are shown as. -/
theorem Storage.Legible.discernible {s : Storage} (hs : s.Legible) : s.Discernible := by
  intro e he f hf hparent htext
  rcases List.eq_nil_or_concat' e.1 with hnil | ⟨l, m, hm⟩
  · rw [hnil, List.getLast?_nil, Option.map_none, eq_comm, Option.map_eq_none_iff,
      List.getLast?_eq_none_iff] at htext
    rw [hnil, htext]
  · rcases List.eq_nil_or_concat' f.1 with hnil | ⟨l', n, hn⟩
    · rw [hm, hnil, List.getLast?_concat] at htext
      cases htext
    · rw [hm, hn, List.dropLast_concat, List.dropLast_concat] at hparent
      rw [hm, hn, List.getLast?_concat, List.getLast?_concat] at htext
      have hbytes : m.bytes = n.bytes := by
        rw [← (hs e he m (by simp [hm])).lossy_toUTF8, ← (hs f hf n (by simp [hn])).lossy_toUTF8]
        exact congrArg (fun t : String => t.toUTF8.toList) (Option.some.inj htext)
      have hname : m = n := by
        cases m
        cases n
        cases hbytes
        rfl
      rw [hm, hn, hparent, hname]

section
variable {s : Storage} {recursive : Bool}

theorem Storage.Discernible.listed (hs : s.Discernible) {dir : Path} {listing : Listing}
    (h : s.list dir = .ok listing) {m n : FileName} {a b : EntryType} (hm : (m, a) ∈ listing.entries)
    (hn : (n, b) ∈ listing.entries) (htext : m.text = n.text) : m = n := by
  obtain ⟨l, -, hplaces⟩ := Storage.mem_of_list h
  obtain ⟨_, hplace, -⟩ := hplaces _ hm
  obtain ⟨_, hplace', -⟩ := hplaces _ hn
  have heq := hs _ hplace _ hplace' (by simp) (by simp [htext])
  simpa using heq

/-- Where a walk finds two files that are shown alike, they are one. -/
theorem Storage.Discernible.found (hs : s.Discernible) {dir : Path} {ms ns : List FileName}
    {m n : FileName} (hms : Walk.Visits s.list recursive dir ms)
    (hm : Walk.Holds s.list (dir.descend ms) m) (hns : Walk.Visits s.list recursive dir ns)
    (hn : Walk.Holds s.list (dir.descend ns) n)
    (htext : (ms ++ [m]).map FileName.text = (ns ++ [n]).map FileName.text) :
    ms ++ [m] = ns ++ [n] := by
  induction hms generalizing ns with
  | start dir =>
    cases hns with
    | start =>
      obtain ⟨listing, a, hlist, hentry, -⟩ := hm
      obtain ⟨listing', b, hlist', hentry', -⟩ := hn
      cases hlist.symm.trans hlist'
      rw [hs.listed hlist hentry hentry' (List.cons.inj htext).1]
    | step => simp at htext
  | step _ opened _ entry _ ih =>
    cases hns with
    | start => simp at htext
    | step _ opened' _ entry' hns =>
      cases opened.symm.trans opened'
      obtain ⟨hhead, htail⟩ := List.cons.inj htext
      cases hs.listed opened entry entry' hhead
      exact congrArg (_ :: ·) (ih hm hns hn htail)

end

/-! ## The keys of an accessor -/

namespace Accessor

/-- The keys under which an object literal lists its properties. -/
def propertyKeys : Tree → List String
  | .node .object ts => ts.filterMap fun
    | .node .property (.node (.literal (.string key _)) [] :: _) => some key
    | _ => none
  | _ => []

/-- The texts in the array that is the body of an arrow function. -/
def arrayTexts : Tree → List String
  | .node (.arrow _) (_ :: .node .array ts :: _) => ts.filterMap fun
    | .node (.literal (.string text _)) [] => some text
    | _ => none
  | _ => []

theorem propertyKeys_modulesObject (modules : List ContextModule) :
    propertyKeys (modulesObject modules) = modules.map ContextModule.key := by
  rw [modulesObject, propertyKeys, List.filterMap_map]
  exact congrFun List.filterMap_eq_map modules

theorem arrayTexts_keysFunction (modules : List ContextModule) :
    arrayTexts (keysFunction modules) = modules.map ContextModule.key := by
  rw [keysFunction, arrow, arrayTexts, List.filterMap_map]
  exact congrFun List.filterMap_eq_map modules

end Accessor

namespace ContextCall

variable {s : Storage} {sourceDir : Path} {call : ContextCall} {c : ResolvedContext}

/-- A module is found below the directory of its context, and its key shows the names that lead there. -/
theorem found_module (h : call.resolve s sourceDir = .ok c) {m : ContextModule} (hm : m ∈ c.modules) :
    ∃ names name, Walk.Visits s.list call.recursive c.directory names ∧
      Walk.Holds s.list (c.directory.descend names) name ∧
      m.path = c.directory.descend (names ++ [name]) ∧
      m.key = "./" ++ "/".intercalate ((names ++ [name]).map FileName.text) := by
  obtain ⟨pattern, -, hwith⟩ := resolve_ok.mp h
  obtain ⟨files, hfiles, p, hp, hfile⟩ := mem_modules hwith hm
  obtain ⟨_, -, rfl⟩ := resolveWith_ok hwith
  obtain ⟨hpath, hkey, -, -⟩ := ContextModule.ofFile?_some hfile
  have hends := Walk.ends_files s (call.targetDirectory sourceDir) call.recursive (accepts pattern)
  obtain ⟨names, name, hvisits, hholds, rfl, -⟩ := (hends.mem_iff files hfiles p).mp hp
  rw [relativeText_descend _ (by simp)] at hkey
  exact ⟨names, name, hvisits, hholds, hpath, (Option.some.inj hkey).symm⟩

theorem key_eq_iff (h : call.resolve s sourceDir = .ok c) {m n : ContextModule} (hm : m ∈ c.modules)
    (hn : n ∈ c.modules) : m.key = n.key ↔ c.directory.LookAlike m.path n.path := by
  obtain ⟨ms, a, -, -, hpath, hkey⟩ := found_module h hm
  obtain ⟨ns, b, -, -, hpath', hkey'⟩ := found_module h hn
  constructor
  · intro heq
    rw [hkey, hkey', String.append_right_inj] at heq
    exact ⟨_, _, hpath, hpath', FileName.map_text_inj (by simp) (by simp) heq⟩
  · intro halike
    obtain ⟨ms', ns', hms', hns', htext⟩ := halike
    rw [hkey, hkey', Walk.descend_inj (hpath.symm.trans hms'), Walk.descend_inj (hpath'.symm.trans hns'),
      htext]

theorem nodup_paths (h : call.resolve s sourceDir = .ok c) :
    (c.modules.map ContextModule.path).Nodup := by
  obtain ⟨pattern, -, hwith⟩ := resolve_ok.mp h
  obtain ⟨files, hfiles, rfl⟩ := resolveWith_ok hwith
  have hnodup : files.Nodup :=
    (hfiles ▸ Walk.ends_files s _ call.recursive (accepts pattern)).nodup fun _ _ => Walk.nodup_names
  have hsublist := Traversal.map_filterMap_sublist (f := ContextModule.ofFile? sourceDir
    (call.targetDirectory sourceDir)) (g := ContextModule.path) (h := id)
    (fun p m hm => (ContextModule.ofFile?_some hm).1) files
  rw [List.map_id] at hsublist
  exact hnodup.sublist hsublist

/-- What leads down from a directory is not named like a prototype. -/
theorem prototypeKey_notMem (h : call.resolve s sourceDir = .ok c) :
    prototypeKey ∉ c.modules.map ContextModule.key := by
  intro hmem
  obtain ⟨m, hm, hkey⟩ := List.mem_map.mp hmem
  obtain ⟨names, name, -, -, -, htext⟩ := found_module h hm
  have hopening := congrArg (fun text => text.toList.head?) (htext.symm.trans hkey)
  simp [prototypeKey] at hopening

theorem nodup_keys_iff (h : call.resolve s sourceDir = .ok c) :
    (c.modules.map ContextModule.key).Nodup ↔
      c.modules.Pairwise fun m n => ¬ c.directory.LookAlike m.path n.path := by
  rw [List.Nodup, List.pairwise_map]
  exact List.Pairwise.iff_of_mem fun hm hn => not_congr (key_eq_iff h hm hn)

theorem nodup_keys (hs : s.Discernible) (h : call.resolve s sourceDir = .ok c) :
    (c.modules.map ContextModule.key).Nodup := by
  refine List.Nodup.map_on ?_ (List.Nodup.of_map _ (nodup_paths h))
  intro m hm n hn hkey
  obtain ⟨ms, a, hvisits, hholds, hpath, htext⟩ := found_module h hm
  obtain ⟨ns, b, hvisits', hholds', hpath', htext'⟩ := found_module h hn
  rw [htext, htext', String.append_right_inj] at hkey
  have hnames := hs.found hvisits hholds hvisits' hholds'
    (FileName.map_text_inj (by simp) (by simp) hkey)
  rw [← hnames, ← hpath] at hpath'
  exact List.inj_on_of_nodup_map (nodup_paths h) hm hn hpath'.symm

/-- The keys of a context are all different exactly if no two of its files are shown alike below its
directory, and so they are where no directory holds names that are shown alike, as where every name is
a text. Exactly if they are, the object literal of the accessor keeps every property that it lists,
whatever the values, and the list of keys has no repetition. -/
theorem keys_unique_iff (h : call.resolve s sourceDir = .ok c) :
    ((c.modules.map ContextModule.key).Nodup ↔
      c.modules.Pairwise fun m n => ¬ c.directory.LookAlike m.path n.path) ∧
    (s.Discernible → (c.modules.map ContextModule.key).Nodup) ∧
    (s.Legible → (c.modules.map ContextModule.key).Nodup) ∧
    (∀ properties : List (String × Value),
      properties.map Prod.fst = Accessor.propertyKeys (Accessor.modulesObject c.modules) →
        (literal properties = some ⟨.plain, none, properties⟩ ↔
          (c.modules.map ContextModule.key).Nodup)) ∧
    ((Accessor.arrayTexts (Accessor.keysFunction c.modules)).Nodup ↔
      (c.modules.map ContextModule.key).Nodup) := by
  constructor
  · exact nodup_keys_iff h
  constructor
  · intro hs
    exact nodup_keys hs h
  constructor
  · intro hs
    exact nodup_keys hs.discernible h
  constructor
  · intro properties hproperties
    rw [Accessor.propertyKeys_modulesObject] at hproperties
    rw [← hproperties]
    exact literal_eq_iff (hproperties ▸ prototypeKey_notMem h)
  · rw [Accessor.arrayTexts_keysFunction]

/-- A path whose last name is no text, followed by `.js`. -/
def oddPath (name : List UInt8) : Path :=
  ⟨(Path.ofString "/src/x/").bytes ++ name ++ (Path.ofString ".js").bytes⟩

def oddCall : ContextCall := ⟨⟨0, 0⟩, "./x", true, none⟩

/-- Names that are no texts, but of different lengths. -/
def oddStorage : Storage :=
  (Storage.empty.put (oddPath [0xff]) (.file [])).put (oddPath [0xff, 0xff]) (.file [])

theorem keys_unique_iff_odd : ∃ c,
    oddCall.resolve oddStorage (.ofString "/src") = .ok c ∧
      c.modules.map ContextModule.key = ["./\uFFFD.js", "./\uFFFD\uFFFD.js"] ∧
      (c.modules.Pairwise fun m n => ¬ c.directory.LookAlike m.path n.path) ∧
      (Accessor.arrayTexts (Accessor.keysFunction c.modules)).Nodup := by
  have hresolve : oddCall.resolve oddStorage (.ofString "/src") = .ok
      ⟨.ofString "/src/x", [⟨oddPath [0xff], "./\uFFFD.js", "./x/\uFFFD.js", "_"⟩,
        ⟨oddPath [0xff, 0xff], "./\uFFFD\uFFFD.js", "./x/\uFFFD\uFFFD.js", "_"⟩]⟩ :=
    Traversal.ok_of_toOption (by decide +kernel)
  obtain ⟨hiff, hdiscernible, -, -, hlist⟩ := keys_unique_iff hresolve
  have hkeys := hdiscernible (by decide +kernel)
  exact ⟨_, hresolve, rfl, hiff.mp hkeys, hlist.mpr hkeys⟩

/-- Two ill-formed names of one length. -/
def alikeStorage : Storage :=
  (Storage.empty.put (oddPath [0xff]) (.file [])).put (oddPath [0xfe]) (.file [])

/-- Files with different names may share a key. -/
theorem keys_shared : ¬ ∀ (s : Storage) (source : Source) (call : ContextCall)
    (c : ResolvedContext), source.path.isAbsolute = true →
      call.resolve s source.directory = .ok c → (c.modules.map ContextModule.key).Nodup := by
  intro h
  have hkeys := h alikeStorage ⟨.ofString "/src/app.js", ""⟩ oddCall
    ⟨.ofString "/src/x", [⟨oddPath [0xff], "./\uFFFD.js", "./x/\uFFFD.js", "_"⟩,
      ⟨oddPath [0xfe], "./\uFFFD.js", "./x/\uFFFD.js", "_"⟩]⟩ (by decide +kernel)
    (Traversal.ok_of_toOption (by decide +kernel))
  simp at hkeys

end ContextCall

end StaticContext
