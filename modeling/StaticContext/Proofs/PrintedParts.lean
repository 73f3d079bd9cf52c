import StaticContext.Proofs.CallReplacement
import StaticContext.Proofs.PrintedAccessor

/-! # Every node is printed

The printer lays out every node that has children, whatever its label is and whatever stands around it.
Most nodes lay out their children whole; a list, a block or a target with its type may be taken apart
by the node above it, which lays out what it holds instead. Calls are never taken apart, so whatever
takes the place of a context call stands in the printed program. -/

namespace StaticContext
open Script Text

/-! ## Layouts within layouts -/

namespace Text.Layout

/-- The one layout stands in the other. -/
def Holds (whole part : Layout) : Prop := part.pieces <:+: whole.pieces

/-- Every layout that is as told stands in this one. -/
class Shows (a : Layout) (P : Layout → Prop) : Prop where
  holds : ∀ l, P l → a.Holds l

variable {a b l separator : Layout} {ls : List Layout} {P : Layout → Prop}

theorem holds_refl (l : Layout) : l.Holds l := List.infix_refl _

instance : Shows a a.Holds := ⟨fun _ h => h⟩

instance [h : Shows b P] : Shows (a ++ b) P :=
  ⟨fun l hl => List.infix_append_of_infix_right (h.holds l hl)⟩

instance [h : Shows a P] : Shows (a ++ b) P :=
  ⟨fun l hl => List.infix_append_of_infix_left (h.holds l hl)⟩

instance [h : Shows a P] : Shows (indented a) P where
  holds l hl := by
    have hinner : a.pieces <:+: .indent :: a.pieces ++ [.dedent] := ⟨[.indent], [.dedent], rfl⟩
    exact (h.holds l hl).trans hinner

instance {c : Prop} [Decidable c] [h : Shows a P] [h' : Shows b P] :
    Shows (if c then a else b) P := by
  split
  · exact h
  · exact h'

theorem holds_row (h : ∃ a ∈ ls, a.Holds l) : (row ls).Holds l := by
  obtain ⟨a, ha, hl⟩ := h
  obtain ⟨front, back, rfl⟩ := List.append_of_mem ha
  rw [row_append, row_cons]
  exact Shows.holds (P := a.Holds) l hl

theorem holds_joined (h : ∃ a ∈ ls, a.Holds l) : (joined separator ls).Holds l := by
  induction ls with
  | nil => simp at h
  | cons b rest ih =>
    cases rest with
    | nil => simpa [joined_singleton] using h
    | cons c rest =>
      rw [joined_cons_cons]
      obtain ⟨a, ha, hl⟩ := h
      rcases List.mem_cons.mp ha with rfl | ha
      · exact Shows.holds (P := a.Holds) l hl
      · exact Shows.holds (P := (joined separator (c :: rest)).Holds) l (ih ⟨a, ha, hl⟩)

end Text.Layout

open Text.Layout

namespace Script

/-! ## Nodes that bear a layout -/

namespace Printed

/-- The layout stands in that of one of the nodes. -/
def SomeHolds (ps : List Printed) (l : Layout) : Prop := ∃ p ∈ ps, p.layout.Holds l

/-- The node has children, and the layout stands in what is printed for it and, unless it is a call, in
what is printed for one of its children: it is there even when the node above takes this one apart. -/
structure Bears (p : Printed) (l : Layout) : Prop where
  whole : p.layout.Holds l
  parent : p.items ≠ []
  apart : p.label.callSpan? = none → SomeHolds p.items l

/-- One of the nodes bears the layout. -/
def SomeBears (ps : List Printed) (l : Layout) : Prop := ∃ p ∈ ps, p.Bears l

variable {p : Printed} {ps : List Printed} {l : Layout}

theorem Bears.isEmpty_items (h : p.Bears l) : p.items.isEmpty = false :=
  List.isEmpty_eq_false_iff.mpr h.parent

theorem Bears.isAbsent (h : p.Bears l) : p.isAbsent = false := by
  rw [Printed.isAbsent, h.isEmpty_items, Bool.and_false]

theorem Bears.parts (h : p.Bears l) : SomeHolds p.parts l := by
  unfold Printed.parts
  split
  · next hlist => exact h.apart (by rw [hlist]; rfl)
  · rw [if_neg (by simp [h.isAbsent])]
    exact ⟨p, List.mem_singleton_self p, h.whole⟩

theorem SomeHolds.isEmpty (h : SomeHolds ps l) : ps.isEmpty = false := by
  obtain ⟨p, hp, -⟩ := h
  exact List.isEmpty_eq_false_iff.mpr (List.ne_nil_of_mem hp)

theorem SomeBears.someHolds (h : SomeBears ps l) : SomeHolds ps l := by
  obtain ⟨p, hp, h⟩ := h
  exact ⟨p, hp, h.whole⟩

end Printed

/-! ## What printers have in common

Each printer below shows what one of its children bears. Most ask for a number of children and lay out
any others in a row, so there are two cases. -/

namespace Printer

open Printed

variable {p : Printed} {ps : List Printed} {a b separator : Layout} {P : Layout → Prop}

instance [h : Shows a p.layout.Holds] : Shows a p.Bears := ⟨fun l hl => h.holds l hl.whole⟩

instance [h : Shows a (SomeHolds p.parts)] : Shows a p.Bears := ⟨fun l hl => h.holds l hl.parts⟩

instance [h : Shows a (SomeHolds ps)] : Shows a (SomeBears ps) := ⟨fun l hl => h.holds l hl.someHolds⟩

instance : Shows a (SomeBears []) := ⟨fun _ hl => by simp [SomeBears] at hl⟩

instance [h : Shows a p.Bears] [h' : Shows a (SomeBears ps)] : Shows a (SomeBears (p :: ps)) where
  holds l hl := ((List.exists_mem_cons_iff ..).mp hl).elim (h.holds l) (h'.holds l)

/-- What has no children bears nothing. -/
theorem shows_leaf (h : p.items.isEmpty) : Shows a p.Bears :=
  ⟨fun _ hl => by rw [hl.isEmpty_items] at h; cases h⟩

theorem shows_absent (h : p.isAbsent) : Shows a p.Bears :=
  ⟨fun _ hl => by rw [hl.isAbsent] at h; cases h⟩

theorem shows_nothing (h : p.parts.isEmpty) : Shows a p.Bears :=
  ⟨fun _ hl => by rw [hl.parts.isEmpty] at h; cases h⟩

instance [h : Shows b p.Bears] : Shows (if p.isAbsent then a else b) p.Bears := by
  split
  · next habsent => exact shows_absent habsent
  · exact h

instance [h : Shows a p.Bears] : Shows (when (!p.isAbsent) a) p.Bears where
  holds l hl := by
    rw [hl.isAbsent]
    exact h.holds l hl

instance [h : Shows b (SomeHolds ps)] : Shows (if ps.isEmpty then a else b) (SomeHolds ps) where
  holds l hl := by
    rw [if_neg (by simp [hl.isEmpty])]
    exact h.holds l hl

section
variable {f : Printed → Layout} [h : ∀ p, Shows (f p) p.layout.Holds]

theorem exists_map {l : Layout} (hl : SomeHolds ps l) : ∃ a ∈ ps.map f, a.Holds l := by
  obtain ⟨p, hp, hl⟩ := hl
  exact ⟨f p, List.mem_map_of_mem hp, (h p).holds l hl⟩

instance : Shows (row (ps.map f)) (SomeHolds ps) := ⟨fun _ hl => holds_row (exists_map hl)⟩

instance : Shows (joined separator (ps.map f)) (SomeHolds ps) :=
  ⟨fun _ hl => holds_joined (exists_map hl)⟩

instance : Shows (bracedLines (ps.map f)) (SomeHolds ps) := by
  unfold bracedLines
  rw [List.map_map]
  have (p : Printed) : Shows (((· ++ line) ∘ f) p) p.layout.Holds :=
    inferInstanceAs (Shows (f p ++ line) p.layout.Holds)
  infer_instance

end

instance [h : Shows a P] : Shows (bracedLines [a]) P := by
  unfold bracedLines
  have : Shows (row ([a].map (· ++ line))) P := inferInstanceAs (Shows (a ++ line ++ empty) P)
  infer_instance

instance : Shows (commas ps) (SomeHolds ps) := by
  unfold commas
  infer_instance

instance : Shows (unlabeled ps) (SomeHolds ps) := by
  unfold unlabeled
  infer_instance

instance : Shows (parenthesized p) p.Bears := by
  unfold parenthesized
  infer_instance

instance (before : Layout) : Shows (p.after before) p.Bears := by
  unfold Printed.after
  infer_instance

instance (missing before : Layout) : Shows (bodyOr missing before p) p.Bears := by
  unfold bodyOr
  infer_instance

instance : Shows (statement p) p.layout.Holds := by
  unfold statement
  split <;> infer_instance

instance : Shows (block ps) (SomeBears ps) := by
  unfold block
  infer_instance

instance (pieces : List String) : Shows (interpolated pieces ps) (SomeBears ps) := by
  fun_induction interpolated pieces ps with
  | case1 ps => infer_instance
  | case2 piece pieces ih => infer_instance
  | case3 piece pieces p ps ih => infer_instance

instance (pieces : List String) : Shows (template pieces ps) (SomeBears ps) := by
  unfold template
  infer_instance

/-! ## Targets -/

instance : Shows (arrayPattern ps) (SomeBears ps) := by
  unfold arrayPattern
  infer_instance

instance : Shows (objectPattern ps) (SomeBears ps) := by
  unfold objectPattern
  infer_instance

instance (isOptional : Bool) : Shows (typed isOptional ps) (SomeBears ps) := by
  unfold typed
  split <;> infer_instance

instance : Shows (withDefault ps) (SomeBears ps) := by
  unfold withDefault
  split <;> infer_instance

instance : Shows (keyed ps) (SomeBears ps) := by
  unfold keyed
  split <;> infer_instance

/-! ## Expressions -/

instance : Shows (array ps) (SomeBears ps) := by
  unfold array
  infer_instance

instance : Shows (object ps) (SomeBears ps) := by
  unfold object
  infer_instance

instance (op : String) : Shows (unary op ps) (SomeBears ps) := by
  unfold unary
  split <;> infer_instance

instance (op : String) (isFirst : Bool) : Shows (update op isFirst ps) (SomeBears ps) := by
  unfold update
  infer_instance

instance (op : String) : Shows (binary op ps) (SomeBears ps) := by
  unfold binary
  split <;> infer_instance

instance : Shows (conditional ps) (SomeBears ps) := by
  unfold conditional
  split <;> infer_instance

instance : Shows (member ps) (SomeBears ps) := by
  unfold member
  split <;> infer_instance

instance (isOptional : Bool) : Shows (chainMember isOptional ps) (SomeBears ps) := by
  unfold chainMember
  split <;> infer_instance

instance (mark : Layout) : Shows (call mark ps) (SomeBears ps) := by
  unfold call
  split <;> infer_instance

instance : Shows (construct ps) (SomeBears ps) := by
  unfold construct
  split <;> infer_instance

instance (isDelegate : Bool) : Shows (Printer.yield isDelegate ps) (SomeBears ps) := by
  unfold Printer.yield
  split <;> infer_instance

instance : Shows (tagged ps) (SomeBears ps) := by
  unfold tagged
  split <;> infer_instance

instance : Shows (typeAssertion ps) (SomeBears ps) := by
  unfold typeAssertion
  split <;> infer_instance

/-! ## Functions and classes -/

instance : Shows (functionTail ps) (SomeBears ps) := by
  unfold functionTail
  split <;> infer_instance

instance (declared isAsync isGenerator : Bool) :
    Shows (function declared isAsync isGenerator ps) (SomeBears ps) := by
  unfold function
  split <;> infer_instance

instance (isAsync : Bool) : Shows (arrow isAsync ps) (SomeBears ps) := by
  unfold arrow
  split <;> infer_instance

instance (kind : MethodKind) (isAsync isGenerator : Bool) :
    Shows (objectMethod kind isAsync isGenerator ps) (SomeBears ps) := by
  unfold objectMethod
  split
  · next key params body typeParams result =>
    dsimp only
    split
    · next hsetter =>
      simp only [Bool.and_eq_true] at hsetter
      obtain ⟨⟨-, htypeParams⟩, hresult⟩ := hsetter
      have (a : Layout) : Shows a typeParams.Bears := shows_absent htypeParams
      have (a : Layout) : Shows a result.Bears := shows_absent hresult
      infer_instance
    · infer_instance
  · infer_instance

instance : Shows (classMember p) p.layout.Holds := by
  unfold classMember
  infer_instance

instance (declared isAbstract : Bool) :
    Shows (classLike declared isAbstract ps) (SomeBears ps) := by
  unfold classLike
  split <;> infer_instance

instance (kind : MethodKind) (mods : Modifiers) (isAsync isGenerator isOptional : Bool) :
    Shows (classMethod kind mods isAsync isGenerator isOptional ps) (SomeBears ps) := by
  unfold classMethod
  split
  · next key params body typeParams result =>
    split
    · next hplain =>
      -- what is left out here has no children
      simp only [Bool.and_eq_true] at hplain
      obtain ⟨⟨⟨-, hkey⟩, htypeParams⟩, hresult⟩ := hplain
      have (a : Layout) : Shows a key.Bears := shows_leaf hkey
      have (a : Layout) : Shows a typeParams.Bears := shows_absent htypeParams
      have (a : Layout) : Shows a result.Bears := shows_absent hresult
      infer_instance
    · infer_instance
  · infer_instance

instance (mods : Modifiers) (mark : String) : Shows (classField mods mark ps) (SomeBears ps) := by
  unfold classField
  split <;> infer_instance

/-! ## Elements -/

instance (tag : String) (isClosed : Bool) : Shows (element tag isClosed ps) (SomeBears ps) := by
  unfold element
  split
  · next attributes children typeArgs =>
    dsimp only
    split
    · next hclosed =>
      have (a : Layout) : Shows a children.Bears := shows_nothing (Bool.and_eq_true_iff.mp hclosed).2
      infer_instance
    · infer_instance
  · infer_instance

instance (name : String) : Shows (elementAttribute name ps) (SomeBears ps) := by
  unfold elementAttribute
  split <;> infer_instance

instance : Shows (braced ps) (SomeBears ps) := by
  unfold braced
  infer_instance

/-! ## Statements -/

instance : Shows (ifStatement ps) (SomeBears ps) := by
  unfold ifStatement
  split <;> infer_instance

instance : Shows (switchStatement ps) (SomeBears ps) := by
  unfold switchStatement
  split <;> infer_instance

instance : Shows (switchCase ps) (SomeBears ps) := by
  unfold switchCase
  split <;> infer_instance

instance : Shows (tryStatement ps) (SomeBears ps) := by
  unfold tryStatement
  split <;> infer_instance

instance : Shows (catchClause ps) (SomeBears ps) := by
  unfold catchClause
  split <;> infer_instance

instance : Shows (whileLoop ps) (SomeBears ps) := by
  unfold whileLoop
  split <;> infer_instance

instance : Shows (doLoop ps) (SomeBears ps) := by
  unfold doLoop
  split <;> infer_instance

instance : Shows (forLoop ps) (SomeBears ps) := by
  unfold forLoop
  split <;> infer_instance

instance (opening between : String) : Shows (forEach opening between ps) (SomeBears ps) := by
  unfold forEach
  split <;> infer_instance

instance : Shows (withStatement ps) (SomeBears ps) := by
  unfold withStatement
  split <;> infer_instance

instance (word : String) : Shows (wordStatement word ps) (SomeBears ps) := by
  unfold wordStatement
  split <;> infer_instance

instance (kind : VariableKind) (declared : Bool) :
    Shows (declarators kind declared ps) (SomeBears ps) := by
  unfold declarators
  infer_instance

instance : Shows (definite p) p.Bears where
  holds l hl := by
    unfold definite
    split
    · next pattern type =>
      obtain ⟨q, hq, hq'⟩ := hl.apart rfl
      rcases List.mem_pair.mp hq with rfl | rfl
      · exact Shows.holds (P := q.layout.Holds) l hq'
      · exact Shows.holds (P := q.layout.Holds) l hq'
    · exact hl.whole

instance (isDefinite : Bool) : Shows (declarator isDefinite ps) (SomeBears ps) := by
  unfold declarator
  split <;> infer_instance

instance (declared isConst : Bool) (name : String) :
    Shows (enumeration declared isConst name ps) (SomeBears ps) := by
  unfold enumeration
  infer_instance

instance : Shows (enumMember ps) (SomeBears ps) := by
  unfold enumMember
  split <;> infer_instance

instance : Shows (namespaceBody p) p.Bears where
  holds l hl := by
    unfold namespaceBody
    split
    · next hblock =>
      rw [Printed.isBlock, decide_eq_true_eq] at hblock
      exact Shows.holds l (hl.apart (by rw [hblock]; rfl))
    · exact hl.whole

instance (declared : Bool) (opener : String) :
    Shows (namespaceBlock declared opener ps) (SomeBears ps) := by
  unfold namespaceBlock
  split <;> infer_instance

/-! ## Imports and exports -/

instance : Shows (attributes p) p.Bears := inferInstanceAs (Shows (p.after " with ") p.Bears)

instance : Shows (named ps) (SomeHolds ps) := by
  unfold named
  infer_instance

theorem exists_clause {l : Layout} (h : SomeHolds ps l) : ∃ a ∈ clause ps, a.Holds l := by
  obtain ⟨p, hp, hl⟩ := h
  rw [clause, List.partition_eq_filter_filter]
  by_cases hnamed : isNamed p
  · have hlist : p ∈ ps.filter isNamed := List.mem_filter.mpr ⟨hp, hnamed⟩
    have hsome : (ps.filter isNamed).isEmpty = false :=
      List.isEmpty_eq_false_iff.mpr (List.ne_nil_of_mem hlist)
    have hnames : SomeHolds (ps.filter isNamed) l := ⟨p, hlist, hl⟩
    refine ⟨named (ps.filter isNamed), ?_, Shows.holds l hnames⟩
    simp only [hsome]
    exact List.mem_append_right _ (List.mem_singleton_self _)
  · have hsingle : p ∈ ps.filter (not ∘ isNamed) := List.mem_filter.mpr ⟨hp, by simpa using hnamed⟩
    exact ⟨p.layout, List.mem_append_left _ (List.mem_map_of_mem hsingle), hl⟩

instance : Shows (joined separator (clause ps)) (SomeHolds ps) :=
  ⟨fun _ hl => holds_joined (exists_clause hl)⟩

instance : Shows (if (clause ps).isEmpty then a else joined separator (clause ps)) (SomeHolds ps) where
  holds l hl := by
    obtain ⟨c, hc, hholds⟩ := exists_clause hl
    have hsome : (clause ps).isEmpty = false := List.isEmpty_eq_false_iff.mpr (List.ne_nil_of_mem hc)
    rw [if_neg (by simp [hsome])]
    exact holds_joined ⟨c, hc, hholds⟩

instance (typeOnly : Bool) : Shows (importDeclaration typeOnly ps) (SomeBears ps) := by
  unfold importDeclaration
  split <;> infer_instance

instance (typeOnly : Bool) : Shows (specifier typeOnly ps) (SomeBears ps) := by
  unfold specifier
  split <;> infer_instance

instance (typeOnly : Bool) : Shows (exportNames typeOnly ps) (SomeBears ps) := by
  unfold exportNames
  split <;> infer_instance

instance (typeOnly : Bool) : Shows (exportAll typeOnly ps) (SomeBears ps) := by
  unfold exportAll
  split <;> infer_instance

instance : Shows (exportDeclaration ps) (SomeBears ps) := by
  unfold exportDeclaration
  split
  · split <;> infer_instance
  · infer_instance

instance (exported typeOnly : Bool) (binding : String) :
    Shows (importEquals exported typeOnly binding ps) (SomeBears ps) := by
  unfold importEquals
  infer_instance

/-! ## Types -/

instance : Shows (typeMembers ps) (SomeHolds ps) := by
  unfold typeMembers
  infer_instance

instance : Shows (angled ps) (SomeBears ps) := by
  unfold angled
  infer_instance

instance (mods : Modifiers) (name : String) :
    Shows (typeParameter mods name ps) (SomeBears ps) := by
  unfold typeParameter
  split <;> infer_instance

instance : Shows (signature ps) (SomeBears ps) := by
  unfold signature
  split <;> infer_instance

instance (start : Layout) : Shows (functionType start ps) (SomeBears ps) := by
  unfold functionType
  split <;> infer_instance

instance (isConstruct : Bool) : Shows (callSignature isConstruct ps) (SomeBears ps) := by
  unfold callSignature
  split <;> infer_instance

instance : Shows (indexedType ps) (SomeBears ps) := by
  unfold indexedType
  split <;> infer_instance

instance (name : String) (isOptional : Bool) :
    Shows (tupleElement name isOptional ps) (SomeBears ps) := by
  unfold tupleElement
  infer_instance

instance : Shows (conditionalType ps) (SomeBears ps) := by
  unfold conditionalType
  split <;> infer_instance

instance (name : String) : Shows (inferType name ps) (SomeBears ps) := by
  unfold inferType
  split <;> infer_instance

instance (readonlyMark bound optionalMark : String) :
    Shows (mappedType readonlyMark bound optionalMark ps) (SomeBears ps) := by
  unfold mappedType
  split <;> infer_instance

instance (qualifier : String) : Shows (importType qualifier ps) (SomeBears ps) := by
  unfold importType
  split <;> infer_instance

instance (isAssertion : Bool) (name : String) :
    Shows (predicate isAssertion name ps) (SomeBears ps) := by
  unfold predicate
  split <;> infer_instance

instance (isReadonly isOptional : Bool) :
    Shows (propertySignature isReadonly isOptional ps) (SomeBears ps) := by
  unfold propertySignature
  split <;> infer_instance

instance (kind : MethodKind) (isOptional : Bool) :
    Shows (methodSignature kind isOptional ps) (SomeBears ps) := by
  unfold methodSignature
  split <;> infer_instance

instance (mods : Modifiers) : Shows (indexSignature mods ps) (SomeBears ps) := by
  unfold indexSignature
  split <;> infer_instance

instance (declared : Bool) (name : String) : Shows (typeAlias declared name ps) (SomeBears ps) := by
  unfold typeAlias
  split <;> infer_instance

instance (declared : Bool) (name : String) : Shows (interface declared name ps) (SomeBears ps) := by
  unfold interface
  split <;> infer_instance

/-! ## Whole trees -/

/-- Every label lays out what its children bear, also where they are none that it asks for. -/
instance (label : Label) : Shows (layout label ps) (SomeBears ps) := by
  -- the equation of each label names one of the printers above
  cases label <;> dsimp only [layout] <;> infer_instance

end Printer

theorem Tree.bears_node (label : Label) {children : List Tree} {l : Layout}
    (h : Printed.SomeBears (children.map printed) l) : (node label children).printed.Bears l := by
  refine ⟨?_, ?_, fun _ => ?_⟩
  · rw [layout_node]
    exact Shows.holds l h
  · obtain ⟨p, hp, -⟩ := h
    rw [items_node]
    exact List.ne_nil_of_mem hp
  · rw [items_node]
    exact h.someHolds

/-- A call with its parts bears itself. -/
theorem Tree.bears_call (span : Span) {children : List Tree} (h : children ≠ []) :
    (node (.call span) children).printed.Bears (node (.call span) children).printed.layout := by
  refine ⟨holds_refl _, ?_, ?_⟩
  · rwa [items_node, ne_eq, List.map_eq_nil_iff]
  · rw [label_node]
    nofun

/-- What one of its statements bears stands in a program, whatever statements are put in front. -/
theorem Program.holds_layout (interpreter : Option String) (front : List Tree) {body : List Tree}
    {l : Layout} (h : Printed.SomeBears (body.map Tree.printed) l) :
    (⟨interpreter, front ++ body⟩ : Program).layout.Holds l := by
  obtain ⟨p, hp, hbears⟩ := h
  obtain ⟨t, ht, rfl⟩ := List.mem_map.mp hp
  have hstatement : (Printer.statement t.printed).Holds l := Shows.holds l hbears.whole
  have hrow : (row ((front ++ body).map fun t => Printer.statement t.printed)).Holds l :=
    holds_row ⟨_, List.mem_map_of_mem (List.mem_append_right _ ht), hstatement⟩
  exact List.infix_append_of_infix_right hrow

end Script

/-! ## Accessors in the place of calls -/

namespace Splice

mutual

theorem Replaces.bears {pairs : Pairing} {pair : ContextCall × ResolvedContext} {t t' : Script.Tree} :
    Replaces pairs t t' → pair ∈ pairs →
      t'.printed.Bears (pair.2.accessor pair.1.span).printed.layout
  | .call c _, h => by
    obtain rfl := List.mem_singleton.mp h
    exact Script.Tree.bears_call _ (List.cons_ne_nil _ _)
  | .node _ _ below, h => Script.Tree.bears_node _ (below.someBears h)

theorem ReplacesAll.someBears {pairs : Pairing} {pair : ContextCall × ResolvedContext}
    {ts ts' : List Script.Tree} : ReplacesAll pairs ts ts' → pair ∈ pairs →
      Printed.SomeBears (ts'.map Script.Tree.printed) (pair.2.accessor pair.1.span).printed.layout
  | .cons head tail, h => by
    rw [List.map_cons, Printed.SomeBears, List.exists_mem_cons_iff]
    exact (List.mem_append.mp h).imp head.bears tail.someBears

end

end Splice
end StaticContext
