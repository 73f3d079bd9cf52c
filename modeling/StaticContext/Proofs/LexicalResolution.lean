import Mathlib.Data.List.Induction
import Mathlib.Logic.Relation
import StaticContext.Context.Resolve
import StaticContext.Proofs.RelativeText

/-! # Resolving is lexical normalization

What a text resolves to depends on what it is put behind and on its names and `..`, each of which takes
one step over what is settled so far. So a text behind another one resolves in one step as in two, and
a piece of a text that leads back to where it starts may be there or not. -/

namespace StaticContext.Path
open Component

/-! ## Texts behind slashes -/

theorem bytes_ofString (text : String) :
    (ofString text).bytes = text.toList.flatMap String.utf8EncodeChar := toUTF8_toList text

theorem bytes_ofString_slash (front back : String) :
    (ofString (front ++ "/" ++ back)).bytes =
      (ofString front).bytes ++ slash :: (ofString back).bytes := by
  have hslash : "/".toList.flatMap String.utf8EncodeChar = [slash] := by decide
  simp only [bytes_ofString, String.toList_append, List.flatMap_append, hslash, List.append_assoc,
    List.singleton_append]

theorem bytes_ofString_eq_nil {text : String} : (ofString text).bytes = [] ↔ text = "" := by
  rw [bytes_ofString]
  constructor
  · intro h
    have hpieces := Utf8.pieces_encode text.toList
    rw [h] at hpieces
    exact String.toList_eq_nil_iff.mp (List.map_eq_nil_iff.mp hpieces.symm)
  · rintro rfl
    rfl

theorem isAbsolute_append_slash {front : List UInt8} (h : front ≠ []) (back : List UInt8) :
    isAbsolute ⟨front ++ slash :: back⟩ = isAbsolute ⟨front⟩ := by
  obtain ⟨b, rest, rfl⟩ := List.exists_cons_of_ne_nil h
  rfl

/-! ## What a path is put behind -/

/-- An absolute `child` leaves nothing of `base` but the root. -/
def start (base child : Path) : List Component :=
  if child.isAbsolute then [.root] else base.components

theorem components_join_start (base child : Path) :
    (base.join child).components = collapse (base.start child ++ inner child.bytes) := by
  unfold start
  split
  · next h =>
    rw [join, append_of_isAbsolute base h, components_normalize, components_of_isAbsolute h]
    rfl
  · next h => exact components_join_relative base (Bool.eq_false_iff.mpr h)

theorem eq_of_components_join {base base' child child' : Path}
    (h : (base.join child).components = (base'.join child').components) :
    base.join child = base'.join child' :=
  eq_of_same (normalize_join _ _) (normalize_join _ _) (same_iff.mpr h)

theorem Spelled.append {cs ds : List Component} (h : Spelled cs) (hd : ∀ d ∈ ds, Inner d) :
    Spelled (cs ++ ds) := by
  intro c hc
  cases cs with
  | nil => exact hd c (List.mem_of_mem_tail hc)
  | cons b rest => exact (List.mem_append.mp hc).elim (h c) (hd c)

theorem spelled_start (base child : Path) : Spelled (base.start child ++ inner child.bytes) := by
  have hstart : Spelled (base.start child) := by
    unfold start
    split
    · exact nofun
    · exact spelled_components base
  exact hstart.append fun _ => mem_inner

theorem isAbsolute_append_eq (base child : Path) :
    (base.append child).isAbsolute = (base.isAbsolute || child.isAbsolute) := by
  cases hchild : child.isAbsolute with
  | true => rw [append_of_isAbsolute base hchild, hchild, Bool.or_true]
  | false =>
    rw [Bool.or_false]
    obtain ⟨bytes⟩ := base
    obtain rfl | ⟨init, last, rfl⟩ := List.eq_nil_or_concat' bytes
    · rwa [nil_append]
    · rw [append, if_neg (Bool.eq_false_iff.mp hchild), List.getLast?_concat]
      simp only
      split
      · cases init <;> rfl
      · cases init <;> rfl

/-! ## One step and two -/

theorem join_join {base p q : Path} (hp : p.bytes ≠ []) (hq : q.isAbsolute = false) :
    (base.join p).join q = base.join ⟨p.bytes ++ slash :: q.bytes⟩ := by
  have hstart : base.start ⟨p.bytes ++ slash :: q.bytes⟩ = base.start p := by
    rw [start, isAbsolute_append_slash hp]
    rfl
  apply eq_of_components_join
  rw [components_join_relative _ hq, components_join_start base p, components_join_start base,
    collapse_collapse_append (spelled_start base p), hstart, inner_append_slash, List.append_assoc]

/-! ## Texts that differ by nothing -/

/-- Two texts that start alike and whose names and `..` take the same steps over any stack. -/
structure Alike (s t : String) : Prop where
  isAbsolute : (ofString s).isAbsolute = (ofString t).isAbsolute
  foldl : ∀ stack, (inner (ofString s).bytes).foldl settle stack =
    (inner (ofString t).bytes).foldl settle stack

theorem Alike.join_eq {s t : String} (h : Alike s t) (base : Path) :
    base.join (ofString s) = base.join (ofString t) := by
  have hstart : base.start (ofString s) = base.start (ofString t) := by
    rw [start, start, h.isAbsolute]
  apply eq_of_components_join
  simp only [components_join_start, hstart, collapse, List.foldl_append, h.foldl]

/-- A piece of a text that leads back to where it starts: nothing, `.`, or a name and `..`. -/
inductive Idle : String → Prop where
  | nothing : Idle ""
  | here : Idle "."
  | detour {name : String} (legal : FileName.Legal (ofString name).bytes) : Idle (name ++ "/" ++ "..")

theorem Idle.foldl {piece : String} (h : Idle piece) (stack : List Component) :
    (inner (ofString piece).bytes).foldl settle stack = stack := by
  cases h with
  | nothing | here => rw [bytes_ofString]; rfl
  | @detour name legal =>
    have hname : inner (ofString name).bytes = [.name ⟨_, legal⟩] := inner_name ⟨_, legal⟩
    have hup : inner (ofString "..").bytes = [.up] := by rw [bytes_ofString]; decide
    rw [bytes_ofString_slash, inner_append_slash, hname, hup]
    rfl

theorem Idle.isAbsolute {piece : String} (h : Idle piece) : (ofString piece).isAbsolute = false := by
  cases h with
  | nothing | here => rw [Path.isAbsolute, bytes_ofString]; rfl
  | @detour name legal =>
    have hname : Path.isAbsolute ⟨(ofString name).bytes⟩ = false := isAbsolute_name ⟨_, legal⟩
    rw [Path.isAbsolute, bytes_ofString_slash]
    exact (isAbsolute_append_slash legal.1 _).trans hname

/-- The second text is the first with one more idle piece: in front of its components, at a slash, or
behind them. -/
inductive Padded : String → String → Prop where
  | front {text piece : String} (idle : Idle piece) (present : piece ≠ "")
      (relative : (ofString text).isAbsolute = false) : Padded text (piece ++ "/" ++ text)
  | between {before piece after : String} (idle : Idle piece) :
      Padded (before ++ "/" ++ after) (before ++ "/" ++ (piece ++ "/" ++ after))
  | behind {text piece : String} (idle : Idle piece) (present : text ≠ "") :
      Padded text (text ++ "/" ++ piece)

theorem Padded.alike {s t : String} (h : Padded s t) : Alike s t := by
  cases h with
  | @front _ piece idle present relative =>
    have hpiece : (ofString piece).bytes ≠ [] := bytes_ofString_eq_nil.not.mpr present
    constructor
    · rw [relative, Path.isAbsolute, bytes_ofString_slash]
      exact ((isAbsolute_append_slash hpiece _).trans idle.isAbsolute).symm
    · intro stack
      rw [bytes_ofString_slash, inner_append_slash, List.foldl_append, idle.foldl]
  | @between before piece after idle =>
    constructor
    · rw [Path.isAbsolute, Path.isAbsolute, bytes_ofString_slash, bytes_ofString_slash]
      cases (ofString before).bytes <;> rfl
    · intro stack
      simp only [bytes_ofString_slash, inner_append_slash, List.foldl_append, idle.foldl]
  | @behind _ piece idle present =>
    have htext : (ofString s).bytes ≠ [] := bytes_ofString_eq_nil.not.mpr present
    constructor
    · rw [Path.isAbsolute, Path.isAbsolute, bytes_ofString_slash]
      exact (isAbsolute_append_slash htext _).symm
    · intro stack
      rw [bytes_ofString_slash, inner_append_slash, List.foldl_append, idle.foldl]

/-- Texts that idle pieces make out of each other. A slash behind a text has nothing behind it. -/
def LexicallyEqual : String → String → Prop := Relation.EqvGen Padded

theorem LexicallyEqual.alike {s t : String} (h : LexicallyEqual s t) : Alike s t := by
  induction h with
  | rel _ _ h => exact h.alike
  | refl => exact ⟨rfl, fun _ => rfl⟩
  | symm _ _ _ ih => exact ⟨ih.isAbsolute.symm, fun stack => (ih.foldl stack).symm⟩
  | trans _ _ _ _ _ ih ih' =>
    exact ⟨ih.isAbsolute.trans ih'.isAbsolute, fun stack => (ih.foldl stack).trans (ih'.foldl stack)⟩

/-! ## Texts that normalize alike -/

/-- To collapse beforehand what follows a stack changes nothing. -/
theorem foldl_settle_collapse {cs : List Component} (h : ∀ c ∈ cs, Inner c) (stack : List Component) :
    (collapse cs).foldl settle stack = cs.foldl settle stack := by
  induction cs using List.reverseRecOn with
  | nil => rfl
  | append_singleton cs c ih =>
    have hsettled : Settled false (cs.foldl settle []) :=
      Settled.foldl ⟨[], [], ⟨0, rfl⟩, rfl⟩ fun d hd => h d (List.mem_append_left _ hd)
    have hbefore : (collapse cs).foldl settle stack = cs.foldl settle stack :=
      ih fun d hd => h d (List.mem_append_left _ hd)
    have hlast : Inner c := h c (by simp)
    -- What `c` does to the names and `..` kept so far, it does to any stack that they are put on.
    obtain ⟨names, base, ⟨count, rfl⟩, hstack⟩ := hsettled
    rw [collapse, hstack] at hbefore
    rw [collapse, List.foldl_append, List.foldl_append, hstack, ← hbefore]
    cases c with
    | root | here => exact hlast.elim
    | name n => simp [settle]
    | up =>
      cases names with
      | cons n names => simp [settle]
      | nil => cases count <;> simp [settle, List.replicate_succ]

theorem join_eq_of_normalize {p q : Path} (h : p.normalize = q.normalize) (base : Path) :
    base.join p = base.join q := by
  have habs : p.isAbsolute = q.isAbsolute := by
    rw [← isAbsolute_normalize_eq p, h, isAbsolute_normalize_eq]
  by_cases hp : p.isAbsolute = true
  · rw [join, join, append_of_isAbsolute base hp, append_of_isAbsolute base (habs ▸ hp), h]
  · have hp := Bool.eq_false_iff.mpr hp
    have hq : q.isAbsolute = false := habs ▸ hp
    have hcollapse : collapse (inner p.bytes) = collapse (inner q.bytes) := by
      have hcomponents := congrArg components h
      rw [components_normalize, components_normalize] at hcomponents
      exact (collapse_append_components [] hp).symm.trans
        (hcomponents.trans (collapse_append_components [] hq))
    apply eq_of_components_join
    rw [components_join_relative base hp, components_join_relative base hq, collapse, collapse,
      List.foldl_append, List.foldl_append, ← foldl_settle_collapse fun _ => mem_inner, hcollapse,
      foldl_settle_collapse fun _ => mem_inner]

/-! ## What resolving leaves -/

/-- Names behind the root, or behind as many `..` as a relative path keeps. -/
structure Resolved (p : Path) : Prop where
  unmarked : .here ∉ p.components
  climbs : ∃ count names, p.components =
    (if p.isAbsolute then [.root] else List.replicate count .up) ++ named names

theorem Normal.resolved {p : Path} (h : Normal p.isAbsolute p.components) : Resolved p := by
  obtain ⟨base, names, hbase, hcomponents⟩ := h
  constructor
  · intro hhere
    rw [hcomponents] at hhere
    rcases List.mem_append.mp hhere with hhere | hhere
    · cases habs : p.isAbsolute with
      | true =>
        rw [habs] at hbase
        rw [hbase, List.mem_singleton] at hhere
        cases hhere
      | false =>
        rw [habs] at hbase
        obtain ⟨count, rfl⟩ := hbase
        cases List.eq_of_mem_replicate hhere
    · exact inner_of_mem_named hhere
  · cases habs : p.isAbsolute with
    | true =>
      rw [habs] at hbase
      exact ⟨0, names, by rw [hcomponents, hbase]; rfl⟩
    | false =>
      rw [habs] at hbase
      obtain ⟨count, rfl⟩ := hbase
      exact ⟨count, names, hcomponents⟩

theorem resolved_join (base child : Path) : Resolved (base.join child) := by
  have hnormal := normal_components_normalize (base.append child)
  rw [← isAbsolute_normalize_eq] at hnormal
  exact hnormal.resolved

/-- What is resolved stays where nothing more is asked for. -/
theorem join_idle (base child : Path) {piece : String} (h : Idle piece) :
    (base.join child).join (ofString piece) = base.join child := by
  apply eq_of_same (normalize_join _ _) (normalize_join _ _)
  have hnormal := normal_components_normalize (base.append child)
  have hstack : (base.join child).components.foldl settle [] =
      (base.join child).components.reverse := by
    rw [← List.reverse_inj, List.reverse_reverse]
    exact hnormal.collapse
  rw [same_iff, components_join_relative _ h.isAbsolute, collapse, List.foldl_append, h.foldl, hstack,
    List.reverse_reverse]

end StaticContext.Path

namespace StaticContext
open StaticContext.Path Component

/-- To resolve a text is to normalize it lexically behind its base: its names and `..` each take their
step over the components of the base. What is left are names, behind the root exactly if the base or
the text has one and else behind the `..` that nothing takes back; a text with a root discards the base.
Resolving nothing or `.` from there stays there, and a relative text resolves from there as both texts do
at once. Lexically equal texts resolve alike, and so do texts that are one path when each is normalized
on its own: calls that write their directory in such texts mean the same directory. -/
theorem ContextCall.join_lexical (base : Path) (text : String) :
    let resolved := base.join (.ofString text)
    resolved.components = collapse (base.start (.ofString text) ++ inner (Path.ofString text).bytes) ∧
    resolved.Resolved ∧
    resolved.isAbsolute = (base.isAbsolute || (Path.ofString text).isAbsolute) ∧
    ((Path.ofString text).isAbsolute = true → ∀ other : Path, other.join (.ofString text) = resolved) ∧
    resolved.join (.ofString "") = resolved ∧ resolved.join (.ofString ".") = resolved ∧
    (text ≠ "" → ∀ more, (Path.ofString more).isAbsolute = false →
      resolved.join (.ofString more) = base.join (.ofString (text ++ "/" ++ more))) ∧
    (∀ other, LexicallyEqual text other → base.join (.ofString other) = resolved) ∧
    ∀ call call' : ContextCall, LexicallyEqual call.directory call'.directory ∨
      (Path.ofString call.directory).normalize = (Path.ofString call'.directory).normalize →
      call.targetDirectory base = call'.targetDirectory base := by
  constructor
  · exact components_join_start base _
  constructor
  · exact resolved_join base _
  constructor
  · rw [join, isAbsolute_normalize_eq, isAbsolute_append_eq]
  constructor
  · intro habs other
    rw [join, join, append_of_isAbsolute _ habs, append_of_isAbsolute _ habs]
  constructor
  · exact join_idle base _ .nothing
  constructor
  · exact join_idle base _ .here
  constructor
  · intro htext more hmore
    rw [join_join (bytes_ofString_eq_nil.not.mpr htext) hmore, ← bytes_ofString_slash]
  constructor
  · intro other h
    exact (h.alike.join_eq base).symm
  · intro call call' h
    rcases h with h | h
    · exact h.alike.join_eq base
    · exact join_eq_of_normalize h base

/-- A `.`, a detour and a slash more. -/
theorem Path.lexicallyEqual_detour : LexicallyEqual "../lib" ".././lib/q/../" := by
  have hdot : Padded "../lib" ".././lib" := @Padded.between ".." "." "lib" .here
  have hdetour : Padded ".././lib" ".././lib/q/.." :=
    .behind (@Idle.detour "q" (by decide +kernel)) (by decide)
  have hslash : Padded ".././lib/q/.." ".././lib/q/../" := .behind .nothing (by decide)
  exact .trans _ _ _ (.rel _ _ hdot) (.trans _ _ _ (.rel _ _ hdetour) (.rel _ _ hslash))

theorem ContextCall.join_lexical_detour :
    let base := Path.ofString "/project/src"
    (∀ other : Path, other.join (.ofString "/abs") = base.join (.ofString "/abs")) ∧
    (base.join (.ofString "../lib")).join (.ofString "./x") = base.join (.ofString "../lib/./x") ∧
    base.join (.ofString ".././lib/q/../") = base.join (.ofString "../lib") ∧
    (⟨⟨0, 0⟩, "../lib", true, none⟩ : ContextCall).targetDirectory base =
      (⟨⟨0, 0⟩, ".././lib/q/../", true, none⟩ : ContextCall).targetDirectory base ∧
    (⟨⟨0, 0⟩, "/../lib", true, none⟩ : ContextCall).targetDirectory base =
      (⟨⟨0, 0⟩, "/lib", true, none⟩ : ContextCall).targetDirectory base := by
  obtain ⟨-, -, -, hdiscards, -⟩ := join_lexical (.ofString "/project/src") "/abs"
  obtain ⟨-, -, -, -, -, -, hsteps, hequal, hcalls⟩ := join_lexical (.ofString "/project/src") "../lib"
  constructor
  · exact hdiscards (by decide +kernel)
  constructor
  · exact hsteps (by decide) "./x" (by decide +kernel)
  constructor
  · exact hequal _ lexicallyEqual_detour
  constructor
  · exact hcalls _ _ (.inl lexicallyEqual_detour)
  · exact hcalls _ _ (.inr (by decide +kernel))

/-- The root absorbs what climbs above it. -/
example : (Path.ofString "/a").join (.ofString "../../../c") = .ofString "/c" := by decide +kernel

end StaticContext
