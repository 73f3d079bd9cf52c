import Mathlib.Data.List.Basic
import StaticContext.Path.Normal

/-! # Components through spelling and joining

A component list whose root or leading `.` comes first is what its own spelling reads back as, and
to write a relative path behind another is to append its components. What is proved of component
lists thereby holds of paths however they are spelled. -/

namespace StaticContext.Path
open Component

/-! ## Segments -/

theorem segments_ne_nil (bytes : List UInt8) : segments bytes ≠ [] := by
  cases bytes with
  | nil => simp [segments]
  | cons b rest =>
    simp only [segments]
    split
    · simp
    · split <;> simp

theorem segments_append_slash (front back : List UInt8) :
    segments (front ++ slash :: back) = segments front ++ segments back := by
  induction front with
  | nil => simp [segments]
  | cons b rest ih =>
    simp only [List.cons_append, segments]
    by_cases hb : b = slash
    · simp [hb, ih]
    · obtain ⟨s, more, hs⟩ := List.exists_cons_of_ne_nil (segments_ne_nil rest)
      simp [hb, ih, hs]

theorem segments_of_notMem {bytes : List UInt8} (h : slash ∉ bytes) : segments bytes = [bytes] := by
  induction bytes with
  | nil => rfl
  | cons b rest ih =>
    simp only [List.mem_cons, not_or] at h
    obtain ⟨hb, hr⟩ := h
    simp [segments, Ne.symm hb, ih hr]

theorem slash_notMem_of_mem_segments {bytes segment : List UInt8} (h : segment ∈ segments bytes) :
    slash ∉ segment := by
  induction bytes generalizing segment with
  | nil =>
    rw [List.mem_singleton.mp h]
    exact List.not_mem_nil
  | cons b rest ih =>
    obtain ⟨s, more, hs⟩ := List.exists_cons_of_ne_nil (segments_ne_nil rest)
    by_cases hb : b = slash
    · rw [segments, if_pos hb] at h
      rcases List.mem_cons.mp h with rfl | h
      · exact List.not_mem_nil
      · exact ih h
    · rw [segments, if_neg hb, hs] at h
      rcases List.mem_cons.mp h with rfl | h
      · exact List.not_mem_cons_of_ne_of_not_mem (Ne.symm hb) (ih (hs ▸ List.mem_cons_self))
      · exact ih (hs ▸ List.mem_cons_of_mem s h)

theorem bytes_notMem_slash (c : Component) : slash ∉ c.bytes := by
  cases c with
  | root => simp [Component.bytes]
  | here => decide
  | up => decide
  | name n => exact n.legal.2.2.2

theorem segments_spell {cs : List Component} (h : cs ≠ []) :
    segments (spell cs) = cs.map Component.bytes := by
  induction cs with
  | nil => exact absurd rfl h
  | cons c rest ih =>
    cases rest with
    | nil => exact segments_of_notMem (bytes_notMem_slash c)
    | cons d rest =>
      simp only [spell, segments_append_slash, segments_of_notMem (bytes_notMem_slash c)]
      simp [ih]

/-! ## Names and `..` -/

@[simp] theorem ofSegment_name (n : FileName) : ofSegment n.bytes = some (.name n) := by
  obtain ⟨_, hdot, hup, _⟩ := n.legal
  simp [ofSegment, hdot, hup, FileName.ofBytes?, n.legal]

/-- A component that may stand anywhere in a path. -/
def Inner : Component → Prop
  | .up | .name _ => True
  | .root | .here => False

theorem inner_ofSegment {segment : List UInt8} {c : Component} (h : ofSegment segment = some c) :
    Inner c := by
  unfold ofSegment at h
  split at h
  · cases h
  · split at h
    · cases h; trivial
    · obtain ⟨n, _, rfl⟩ := Option.map_eq_some_iff.mp h
      trivial

theorem ofSegment_bytes {c : Component} (h : Inner c) : ofSegment c.bytes = some c := by
  cases c with
  | up => decide
  | name n => exact ofSegment_name n
  | root | here => exact h.elim

@[simp] theorem inner_append_slash (front back : List UInt8) :
    inner (front ++ slash :: back) = inner front ++ inner back := by
  simp [inner, segments_append_slash]

@[simp] theorem inner_nil : inner [] = [] := by decide

@[simp] theorem inner_slash_cons (bytes : List UInt8) : inner (slash :: bytes) = inner bytes := by
  simpa using inner_append_slash [] bytes

@[simp] theorem inner_name (n : FileName) : inner n.bytes = [.name n] := by
  simp [inner, segments_of_notMem n.legal.2.2.2]

theorem mem_inner {bytes : List UInt8} {c : Component} (h : c ∈ inner bytes) : Inner c := by
  obtain ⟨segment, _, hc⟩ := List.mem_filterMap.mp h
  exact inner_ofSegment hc

theorem inner_spell {cs : List Component} (h : ∀ c ∈ cs, Inner c) : inner (spell cs) = cs := by
  by_cases hn : cs = []
  · simp [hn, spell]
  · rw [inner, segments_spell hn, List.filterMap_map, List.filterMap_congr (g := some)]
    · simp
    · intro c hc
      exact ofSegment_bytes (h c hc)

/-! ## Whole paths -/

theorem components_of_isAbsolute {p : Path} (h : p.isAbsolute = true) :
    p.components = .root :: inner p.bytes := by
  simp [components, opening, h]

theorem isAbsolute_iff {p : Path} : p.isAbsolute = true ↔ p.components.head? = some .root := by
  constructor
  · intro h
    simp [components_of_isAbsolute h]
  · intro h
    by_contra ha
    simp only [components, opening, ha, if_false] at h
    split at h
    · simp at h
    · exact (mem_inner (List.mem_of_mem_head? h)).elim

/-- Only the first component can be a root or a `.`. -/
def Spelled (cs : List Component) : Prop := ∀ c ∈ cs.tail, Inner c

theorem spelled_components (p : Path) : Spelled p.components := by
  intro c hc
  simp only [components, opening] at hc
  split at hc
  · exact mem_inner hc
  · split at hc
    · exact mem_inner hc
    · exact mem_inner (List.mem_of_mem_tail hc)

theorem opening_append_slash (front : List UInt8) (h : front ≠ []) (back : List UInt8) :
    opening ⟨front ++ slash :: back⟩ = opening ⟨front⟩ := by
  obtain ⟨b, rest, rfl⟩ := List.exists_cons_of_ne_nil h
  obtain ⟨s, more, hs⟩ := List.exists_cons_of_ne_nil (segments_ne_nil (b :: rest))
  simp only [opening, isAbsolute, segments_append_slash, hs]
  rfl

/-- What stands behind a slash adds its names and `..`. -/
theorem components_append_slash (front : List UInt8) (h : front ≠ []) (back : List UInt8) :
    components ⟨front ++ slash :: back⟩ = components ⟨front⟩ ++ inner back := by
  simp [components, opening_append_slash front h, inner_append_slash]

theorem components_append {base child : Path} (hb : base.bytes ≠ [])
    (hc : child.isAbsolute = false) :
    (base.append child).components = base.components ++ inner child.bytes := by
  obtain ⟨bytes⟩ := base
  obtain ⟨front, b, rfl⟩ := (List.eq_nil_or_concat' bytes).resolve_left hb
  by_cases hs : b = slash
  · have happ : append ⟨front ++ [b]⟩ child = ⟨front ++ slash :: child.bytes⟩ := by
      simp [append, hc, hs]
    rw [happ, hs]
    by_cases hf : front = []
    · simp [hf, components, opening, isAbsolute]
    · simp [components_append_slash front hf]
  · have happ : append ⟨front ++ [b]⟩ child = ⟨(front ++ [b]) ++ slash :: child.bytes⟩ := by
      simp [append, hc, hs]
    rw [happ, components_append_slash _ hb]

theorem append_of_isAbsolute (base : Path) {child : Path} (h : child.isAbsolute = true) :
    base.append child = child := by
  simp [append, h]

theorem components_bytes {c : Component} (h : c ≠ .root) : components ⟨c.bytes⟩ = [c] := by
  cases c with
  | root => exact absurd rfl h
  | here => decide
  | up => decide
  | name n =>
    have hs := n.legal.2.2.2
    have ha : ¬ isAbsolute ⟨n.bytes⟩ = true := by
      intro ha
      exact hs (List.mem_of_mem_head? (by simpa [isAbsolute] using ha))
    simp [components, opening, ha, Component.bytes, segments_of_notMem hs, n.legal.2.1]

theorem isAbsolute_name (n : FileName) : isAbsolute ⟨n.bytes⟩ = false := by
  have hcomponents : components ⟨n.bytes⟩ = [.name n] := components_bytes (c := .name n) nofun
  rw [Bool.eq_false_iff, Ne, isAbsolute_iff, hcomponents]
  nofun

theorem components_spell {c : Component} (h : c ≠ .root) {rest : List Component}
    (hr : ∀ d ∈ rest, Inner d) : components ⟨spell (c :: rest)⟩ = c :: rest := by
  cases rest with
  | nil => exact components_bytes h
  | cons d rest =>
    have hb : c.bytes ≠ [] := by
      cases c with
      | root => exact absurd rfl h
      | here | up => decide
      | name n => exact n.legal.1
    change components ⟨c.bytes ++ slash :: spell (d :: rest)⟩ = _
    rw [components_append_slash _ hb, components_bytes h, inner_spell hr]
    rfl

/-- A component list reads back from its shortest spelling. -/
theorem components_ofComponents {cs : List Component} (h : Spelled cs) :
    (ofComponents cs).components = cs := by
  cases cs with
  | nil => decide
  | cons c rest =>
    have hr : ∀ d ∈ rest, Inner d := h
    by_cases hc : c = .root
    · simp [hc, ofComponents, components, opening, isAbsolute, inner_spell hr]
    · have ho : ofComponents (c :: rest) = ⟨spell (c :: rest)⟩ := by
        cases c with
        | root => exact absurd rfl hc
        | here | up | name => rfl
      rw [ho, components_spell hc hr]

end StaticContext.Path
