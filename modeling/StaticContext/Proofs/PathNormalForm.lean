import Mathlib.Data.List.Basic
import StaticContext.Proofs.PathComponents

/-! # Lexical normal form

Collapsing leaves names behind the root, or behind the `..` that a relative path cannot take back.
Normal forms collapse to themselves, so paths that were normalized are spelled alike wherever they
name one place, and names that follow a path stay behind whatever it collapses to. -/

namespace StaticContext.Path
open Component

/-- The components of names. -/
def named (names : List FileName) : List Component := names.map .name

@[simp] theorem named_nil : named [] = [] := rfl

@[simp] theorem named_cons (n : FileName) (names : List FileName) :
    named (n :: names) = .name n :: named names := rfl

@[simp] theorem named_append (ms ns : List FileName) : named (ms ++ ns) = named ms ++ named ns :=
  List.map_append

theorem named_injective : Function.Injective named :=
  List.map_injective_iff.mpr fun _ _ => Component.name.inj

theorem inner_of_mem_named {names : List FileName} {c : Component} (h : c ∈ named names) :
    Inner c := by
  obtain ⟨n, _, rfl⟩ := List.mem_map.mp h
  trivial

theorem named_reverse (names : List FileName) : (named names).reverse = named names.reverse :=
  List.map_reverse.symm

/-! ## What cannot be taken back -/

/-- The root, or any number of `..` for a path without one. -/
def Base : Bool → List Component → Prop
  | true, cs => cs = [.root]
  | false, cs => ∃ n, cs = List.replicate n .up

theorem Base.reverse {rooted : Bool} {cs : List Component} (h : Base rooted cs) :
    cs.reverse = cs := by
  cases rooted with
  | true => rw [h]; rfl
  | false =>
    obtain ⟨n, rfl⟩ := h
    simp

theorem Base.settle_up {rooted : Bool} {cs : List Component} (h : Base rooted cs) :
    Base rooted (settle cs .up) := by
  cases rooted with
  | true => rw [h]; rfl
  | false =>
    obtain ⟨n, rfl⟩ := h
    refine ⟨n + 1, ?_⟩
    cases n <;> rfl

theorem Base.inner_of_mem_tail {rooted : Bool} {cs : List Component} (h : Base rooted cs)
    {c : Component} (hc : c ∈ cs.tail) : Inner c := by
  cases rooted with
  | true => rw [h] at hc; cases hc
  | false =>
    obtain ⟨n, rfl⟩ := h
    rw [List.eq_of_mem_replicate (List.mem_of_mem_tail hc)]
    trivial

/-! ## The stack -/

/-- Names over what cannot be taken back, innermost first. -/
def Settled (rooted : Bool) (stack : List Component) : Prop :=
  ∃ names base, Base rooted base ∧ stack = named names ++ base

theorem Settled.settle {rooted : Bool} {stack : List Component} (h : Settled rooted stack)
    {c : Component} (hc : Inner c) : Settled rooted (settle stack c) := by
  obtain ⟨names, base, hb, rfl⟩ := h
  cases c with
  | root | here => exact hc.elim
  | name n => exact ⟨n :: names, base, hb, rfl⟩
  | up =>
    cases names with
    | nil => exact ⟨[], _, hb.settle_up, rfl⟩
    | cons m names => exact ⟨names, base, hb, rfl⟩

theorem Settled.foldl {rooted : Bool} {stack cs : List Component} (h : Settled rooted stack)
    (hc : ∀ c ∈ cs, Inner c) : Settled rooted (cs.foldl Path.settle stack) := by
  induction cs generalizing stack with
  | nil => exact h
  | cons c rest ih =>
    exact ih (h.settle (hc c (by simp))) fun d hd => hc d (by simp [hd])

/-- From the first component on, the stack is settled. -/
theorem settled_foldl {cs : List Component} (h : Spelled cs) :
    Settled (cs.head? = some .root) (cs.foldl Path.settle []) := by
  have hfree : Settled false [] := ⟨[], [], ⟨0, rfl⟩, rfl⟩
  have hroot : Settled true [.root] := ⟨[], [.root], rfl, rfl⟩
  cases cs with
  | nil => exact hfree
  | cons c rest =>
    cases c with
    | root => exact hroot.foldl h
    | here =>
      change Settled false (rest.foldl Path.settle [])
      exact hfree.foldl h
    | up => exact (hfree.settle (c := .up) trivial).foldl h
    | name n => exact (hfree.settle (c := .name n) trivial).foldl h

/-! ## Normal forms -/

/-- Names behind what cannot be taken back. -/
def Normal (rooted : Bool) (cs : List Component) : Prop :=
  ∃ base names, Base rooted base ∧ cs = base ++ named names

theorem normal_collapse {cs : List Component} (h : Spelled cs) :
    Normal (cs.head? = some .root) (collapse cs) := by
  obtain ⟨names, base, hb, hs⟩ := settled_foldl h
  exact ⟨base, names.reverse, hb, by simp [collapse, hs, named_reverse, hb.reverse]⟩

theorem Normal.spelled {rooted : Bool} {cs : List Component} (h : Normal rooted cs) :
    Spelled cs := by
  obtain ⟨base, names, hb, rfl⟩ := h
  intro c hc
  cases base with
  | nil => exact inner_of_mem_named (List.mem_of_mem_tail hc)
  | cons b base =>
    rcases List.mem_append.mp hc with hc | hc
    · exact hb.inner_of_mem_tail hc
    · exact inner_of_mem_named hc

theorem foldl_settle_named (stack : List Component) (names : List FileName) :
    (named names).foldl settle stack = (named names).reverse ++ stack := by
  induction names generalizing stack with
  | nil => rfl
  | cons n names ih => simp [ih, settle]

/-- Names that follow stay behind. -/
@[simp] theorem collapse_append_named (cs : List Component) (names : List FileName) :
    collapse (cs ++ named names) = collapse cs ++ named names := by
  simp [collapse, foldl_settle_named]

@[simp] theorem collapse_append_name (cs : List Component) (n : FileName) :
    collapse (cs ++ [.name n]) = collapse cs ++ [.name n] := collapse_append_named cs [n]

theorem Base.collapse {rooted : Bool} {cs : List Component} (h : Base rooted cs) :
    Path.collapse cs = cs := by
  cases rooted with
  | true => rw [h]; rfl
  | false =>
    obtain ⟨n, rfl⟩ := h
    have hstack : (List.replicate n Component.up).foldl Path.settle [] = List.replicate n .up := by
      induction n with
      | zero => rfl
      | succ n ih =>
        rw [List.replicate_succ', List.foldl_append, ih, ← List.replicate_succ']
        cases n <;> rfl
    simp [Path.collapse, hstack]

/-- A normal form collapses to itself. -/
theorem Normal.collapse {rooted : Bool} {cs : List Component} (h : Normal rooted cs) :
    Path.collapse cs = cs := by
  obtain ⟨base, names, hb, rfl⟩ := h
  rw [collapse_append_named, hb.collapse]

/-! ## Normalized paths -/

theorem components_normalize (p : Path) : p.normalize.components = collapse p.components :=
  components_ofComponents (normal_collapse (spelled_components p)).spelled

theorem normalize_normalize (p : Path) : p.normalize.normalize = p.normalize := by
  have hn := normal_collapse (spelled_components p)
  rw [normalize, components_normalize, hn.collapse]
  rfl

/-- Normalized paths are spelled alike if they name the same place. -/
theorem eq_of_same {p q : Path} (hp : p.normalize = p) (hq : q.normalize = q)
    (h : p.same q = true) : p = q := by
  have hc : p.components = q.components := of_decide_eq_true h
  rw [← hp, ← hq, normalize, normalize, hc]

theorem normal_components_normalize (p : Path) :
    Normal p.isAbsolute p.normalize.components := by
  have hn := normal_collapse (spelled_components p)
  rw [components_normalize]
  rwa [show p.isAbsolute = decide (p.components.head? = some .root) from by
    rw [Bool.eq_iff_iff, isAbsolute_iff, decide_eq_true_iff]]

theorem rooted_components_normalize {p : Path} (h : p.isAbsolute = true) :
    ∃ names, p.normalize.components = .root :: named names := by
  have hn := normal_components_normalize p
  rw [h] at hn
  obtain ⟨base, names, hb, hc⟩ := hn
  exact ⟨names, by rw [hc, hb]; rfl⟩

theorem isAbsolute_normalize_eq (p : Path) : p.normalize.isAbsolute = p.isAbsolute := by
  obtain ⟨base, names, hbase, hc⟩ := normal_components_normalize p
  rw [Bool.eq_iff_iff, isAbsolute_iff, hc]
  cases habs : p.isAbsolute with
  | true =>
    rw [habs] at hbase
    rw [hbase]
    simp
  | false =>
    rw [habs] at hbase
    obtain ⟨count, rfl⟩ := hbase
    cases count <;> cases names <;> simp [List.replicate_succ]

theorem isAbsolute_normalize {p : Path} (h : p.isAbsolute = true) :
    p.normalize.isAbsolute = true := (isAbsolute_normalize_eq p).trans h

/-! ## Joined paths -/

theorem bytes_ne_nil {p : Path} (h : p.isAbsolute = true) : p.bytes ≠ [] := by
  intro hb
  simp [isAbsolute, hb] at h

theorem isAbsolute_append {base : Path} (h : base.isAbsolute = true) (child : Path) :
    (base.append child).isAbsolute = true := by
  by_cases hc : child.isAbsolute = true
  · rwa [append_of_isAbsolute base hc]
  · have hc := Bool.eq_false_iff.mpr hc
    rw [isAbsolute_iff, components_append (bytes_ne_nil h) hc, components_of_isAbsolute h]
    rfl

theorem isAbsolute_join {base : Path} (h : base.isAbsolute = true) (child : Path) :
    (base.join child).isAbsolute = true := isAbsolute_normalize (isAbsolute_append h child)

theorem normalize_join (base child : Path) : (base.join child).normalize = base.join child :=
  normalize_normalize _

/-- What was collapsed before goes on as it would have otherwise. -/
theorem collapse_collapse_append {cs : List Component} (h : Spelled cs) (ds : List Component) :
    collapse (collapse cs ++ ds) = collapse (cs ++ ds) := by
  have hstack : (collapse cs).foldl settle [] = cs.foldl settle [] :=
    List.reverse_injective (normal_collapse h).collapse
  show ((collapse cs ++ ds).foldl settle []).reverse = ((cs ++ ds).foldl settle []).reverse
  rw [List.foldl_append, List.foldl_append, hstack]

theorem collapse_append_components (cs : List Component) {p : Path} (h : p.isAbsolute = false) :
    collapse (cs ++ p.components) = collapse (cs ++ inner p.bytes) := by
  have ho : ∀ stack, p.opening.foldl settle stack = stack := by
    intro stack
    simp only [opening, h, Bool.false_eq_true, if_false]
    split <;> rfl
  simp [collapse, components, ho]

/-- A path joined to an absolute one collapses behind it, unless it is absolute itself. -/
theorem components_join {base : Path} (h : base.isAbsolute = true) (child : Path) :
    (base.join child).components =
      collapse (if child.isAbsolute then child.components else base.components ++ child.components) := by
  rw [join, components_normalize]
  split
  · next hc => rw [append_of_isAbsolute base hc]
  · next hc =>
    have hc := Bool.eq_false_iff.mpr hc
    rw [components_append (bytes_ne_nil h) hc, collapse_append_components _ hc]

/-- Absolute and in the spelling that normalization leaves. -/
structure Canonical (p : Path) : Prop where
  isAbsolute : p.isAbsolute = true
  normalize_eq : p.normalize = p

theorem canonical_join {base : Path} (h : base.isAbsolute = true) (child : Path) :
    (base.join child).Canonical := ⟨isAbsolute_join h child, normalize_join base child⟩

theorem Canonical.components {p : Path} (h : p.Canonical) :
    ∃ names, p.components = .root :: named names := by
  rw [← h.normalize_eq]
  exact rooted_components_normalize h.isAbsolute

theorem collapse_rooted (names : List FileName) :
    collapse (.root :: named names) = .root :: named names := collapse_append_named [.root] names

/-! ## Places within others -/

theorem isWithin_iff {p dir : Path} : p.isWithin dir = true ↔ dir.components <+: p.components :=
  List.isPrefixOf_iff_prefix

theorem same_iff {p q : Path} : p.same q = true ↔ p.components = q.components := decide_eq_true_iff

/-- A relative path that never climbs leads below whatever it follows. -/
theorem exists_named_of_downward {p : Path} (hup : .up ∉ p.components) :
    ∃ names, inner p.bytes = named names := by
  have hi : ∀ c ∈ inner p.bytes, ∃ n, c = .name n := by
    intro c hc
    have hin := mem_inner hc
    cases c with
    | root | here => exact hin.elim
    | up => exact absurd (List.mem_append_right _ hc) hup
    | name n => exact ⟨n, rfl⟩
  generalize inner p.bytes = cs at hi
  induction cs with
  | nil => exact ⟨[], rfl⟩
  | cons c rest ih =>
    obtain ⟨n, rfl⟩ := hi c (by simp)
    obtain ⟨names, rfl⟩ := ih fun d hd => hi d (by simp [hd])
    exact ⟨n :: names, rfl⟩

theorem normalize_append_isWithin {base p : Path} (hb : base.bytes ≠ [])
    (hp : p.isAbsolute = false) (hup : .up ∉ p.components) :
    (base.append p).normalize.isWithin base.normalize = true := by
  obtain ⟨names, hn⟩ := exists_named_of_downward hup
  rw [isWithin_iff, components_normalize, components_normalize, components_append hb hp, hn,
    collapse_append_named]
  exact List.prefix_append _ _

/-! ## The directory of a file -/

theorem components_parent {p : Path} {cs : List Component} {n : FileName}
    (h : p.components = cs ++ [.name n]) : p.parent.components = cs := by
  have hs : Spelled cs := by
    intro c hc
    apply spelled_components p c
    rw [h, List.tail_append]
    split
    · next he => rw [List.isEmpty_iff.mp he] at hc; cases hc
    · exact List.mem_append_left _ hc
  simp only [parent, h, List.reverse_append, List.reverse_cons, List.reverse_nil, List.nil_append,
    List.cons_append, List.reverse_reverse]
  exact components_ofComponents hs

end StaticContext.Path
