import StaticContext.Context.Call
import StaticContext.Proofs.ReadPosition

/-! # The text of a context call

A tree is faithful to a text if each context call in it is written where its span starts: `require`, a
dot, `context` and what opens its arguments, with gaps between them. -/

namespace StaticContext.Script
open Mention (endsInWord endsInWord_append)

/-! ## Calls in trees -/

/-- How a context call that starts at a byte of the text is written, up to what opens its arguments:
a parenthesis, or `<` for types in front of it. -/
def CallHead (text : List Char) (start : Nat) : Prop :=
  ∃ before object beforeDot behindDot property behind opener rest : List Char,
    text = before ++ (object ++ (beforeDot ++ (".".toList ++ (behindDot ++ (property ++ (behind ++
        (opener ++ rest))))))) ∧
      start = Utf8.widths before ∧ (object.head? = some 'r' → endsInWord before = false) ∧
      Spells "require".toList object ∧ Spells "context".toList property ∧
      IsGap beforeDot ∧ IsGap behindDot ∧ IsGap behind ∧
      (opener = "(".toList ∨ opener = "<".toList)

def Label.isCall : Label → Bool
  | .call _ => true
  | _ => false

namespace Tree

/-- Every context call of the tree is written in the text where its span starts. -/
def Faithful (text : List Char) (t : Tree) : Prop :=
  ∀ c ∈ ContextCall.inTree t, CallHead text c.span.start

variable {text : List Char}

theorem mem_inTrees {c : ContextCall} {ts : List Tree} :
    c ∈ ContextCall.inTrees ts ↔ ∃ t ∈ ts, c ∈ ContextCall.inTree t := by
  induction ts with
  | nil => simp [ContextCall.inTrees]
  | cons t ts ih => simp [ContextCall.inTrees, ih]

theorem mem_inTree_node {c : ContextCall} {l : Label} {ts : List Tree}
    (h : c ∈ ContextCall.inTree (node l ts)) :
    c ∈ ContextCall.ofTree? (node l ts) ∨ c ∈ ContextCall.inTrees ts := by
  rw [ContextCall.inTree.eq_def] at h
  split at h
  · cases h
  · next heq =>
    cases heq
    simpa using h

theorem span_of_ofTree? {c : ContextCall} {t : Tree} (h : c ∈ ContextCall.ofTree? t) :
    ∃ callee arguments types, t = node (.call c.span) [callee, arguments, types] ∧
      ContextCall.isRequireContext callee := by
  rw [ContextCall.ofTree?.eq_def] at h
  split at h
  · next span callee args types =>
    split at h
    · next hcallee =>
      rw [Bool.and_eq_true] at hcallee
      obtain ⟨literals, -, h⟩ := Option.bind_eq_some_iff.mp h
      simp only [ContextCall.ofLiterals?, Option.bind_eq_bind, Option.bind_eq_some_iff] at h
      obtain ⟨_, -, _, -, _, -, h⟩ := h
      cases h
      exact ⟨_, _, _, rfl, hcallee.1⟩
    · cases h
  · cases h

theorem faithful_node {l : Label} {ts : List Tree} (hl : l.isCall = false)
    (h : ∀ t ∈ ts, t.Faithful text) : (node l ts).Faithful text := by
  intro c hc
  rcases mem_inTree_node hc with hc | hc
  · obtain ⟨_, _, _, heq, -⟩ := span_of_ofTree? hc
    cases heq
    cases hl
  · obtain ⟨t, ht, hc⟩ := mem_inTrees.mp hc
    exact h t ht c hc

theorem faithful_call {span : Span} {callee arguments types : Tree}
    (h : ∀ t ∈ [callee, arguments, types], t.Faithful text)
    (hcallee : ContextCall.isRequireContext callee → CallHead text span.start) :
    (node (.call span) [callee, arguments, types]).Faithful text := by
  intro c hc
  rcases mem_inTree_node hc with hc | hc
  · obtain ⟨_, _, _, heq, hrequire⟩ := span_of_ofTree? hc
    cases heq
    exact hcallee hrequire
  · obtain ⟨t, ht, hc⟩ := mem_inTrees.mp hc
    exact h t ht c hc

theorem faithful_typeOnly (ts : List Tree) : (node .typeOnly ts).Faithful text := by
  intro c hc
  rw [ContextCall.inTree] at hc
  cases hc

theorem faithful_leaf (l : Label) : (node l []).Faithful text := by
  intro c hc
  rcases mem_inTree_node hc with hc | hc
  · obtain ⟨_, _, _, heq, -⟩ := span_of_ofTree? hc
    cases heq
  · cases hc

theorem faithful_list {ts : List Tree} (h : ∀ t ∈ ts, t.Faithful text) : (list ts).Faithful text :=
  faithful_node rfl h

theorem Faithful.children {l : Label} {ts : List Tree} (h : (node l ts).Faithful text)
    (hl : l ≠ .typeOnly) : ∀ t ∈ ts, t.Faithful text := by
  intro t ht c hc
  refine h c ?_
  rw [ContextCall.inTree]
  · exact List.mem_append_right _ (mem_inTrees.mpr ⟨t, ht, hc⟩)
  · exact hl

/-! ## Names and members as they are written -/

/-- A name, or a member of a name that is not missing. -/
def isReference : Tree → Bool
  | node (.name _) [] => true
  | node .member [node (.name _) [], node (.name property) []] => property ≠ ""
  | _ => false

/-- A faithful tree that is neither a name nor a member of a name. -/
structure Compound (text : List Char) (t : Tree) : Prop where
  faithful : t.Faithful text
  isReference : t.isReference = false

/-- How a name, or a member of a name, may be written. -/
inductive WrittenAs : Tree → List Char → Prop
  | name {text : String} {spelled : List Char} (h : Spells text.toList spelled) :
      WrittenAs (.name text) spelled
  | member {object property : String} {first beforeDot behindDot second : List Char}
      (hfirst : Spells object.toList first) (hbefore : IsGap beforeDot) (hbehind : IsGap behindDot)
      (hsecond : Spells property.toList second) :
      WrittenAs (node .member [.name object, .name property])
        (first ++ (beforeDot ++ (".".toList ++ (behindDot ++ second))))

/-- If the tree is a name or a member of a name, it is written from the one byte up to the other. -/
def Spans (text : List Char) (start : Nat) (t : Tree) (stop : Nat) : Prop :=
  t.isReference → ∃ before written after, text = before ++ (written ++ after) ∧
    start = Utf8.widths before ∧ stop = Utf8.widths (before ++ written) ∧ t.WrittenAs written ∧
    ((written ++ after).head? = some 'r' → endsInWord before = false)

theorem spans_of_isReference {start stop : Nat} {t : Tree} (h : t.isReference = false) :
    Spans text start t stop := by
  intro ht
  rw [h] at ht
  cases ht

end Tree

/-! ## References token by token -/

/-- A word is written behind a gap, from the one byte up to the other. -/
def Follows (text : List Char) (last : Nat) (word : String) (stop : Nat) : Prop :=
  ∃ done gap spelled after, text = done ++ (gap ++ (spelled ++ after)) ∧
    last = Utf8.widths done ∧ stop = Utf8.widths (done ++ (gap ++ spelled)) ∧ IsGap gap ∧
    Spells word.toList spelled

namespace ReadState

variable {text : List Char} {s : ReadState}

theorem advanced_lastStop (s : ReadState) : s.advanced.lastStop = s.token.stop := by
  rw [advanced, fill]
  split <;> rfl

theorem Sited.spans_name {word : String} {isEscaped : Bool} (h : s.Sited text)
    (hword : s.token.kind = .word word isEscaped) :
    Tree.Spans text s.token.start (.name word) s.token.stop := by
  obtain ⟨done, gap, spelled, layout, hfree⟩ := h
  have hright : s.token.kind.isRight := by rw [hword]; rfl
  refine fun _ => ⟨done ++ gap, spelled, s.next.rest, ?_, ?_, ?_, .name (layout.word _ _ hword), ?_⟩
  · rw [← List.append_assoc]
    exact layout.next.text_eq
  · rw [layout.start hright, layout.here.offset_eq]
  · rw [layout.stop (.inl hright), layout.next.offset_eq]
  · rw [← layout.here_eq]
    exact hfree hright

theorem Sited.follows {word : String} {isEscaped : Bool} (h : s.Sited text)
    (hword : s.token.kind = .word word isEscaped) :
    Follows text s.lastStop word s.token.stop := by
  obtain ⟨done, gap, spelled, layout, -⟩ := h
  have hright : s.token.kind.isRight := by rw [hword]; rfl
  refine ⟨done, gap, spelled, s.next.rest, ?_, layout.lastStop hright, ?_, layout.isGap,
    layout.word _ _ hword⟩
  · simpa only [List.append_assoc] using layout.next.text_eq
  · rw [layout.stop (.inl hright), layout.next.offset_eq, List.append_assoc]

theorem Sited.spans_member {start stop : Nat} {e m : Tree} (h : s.Sited text)
    (hdot : s.token.isMark ".") (he : e.Spans text start s.lastStop)
    (hm : ∀ property, m = .name property → property ≠ "" → Follows text s.token.stop property stop) :
    (Tree.node .member [e, m]).Spans text start stop := by
  intro href
  obtain ⟨done, gap, spelled, layout, -⟩ := h
  have hright := Token.isRight_of_isMark hdot
  rw [Token.isMark, decide_eq_true_eq] at hdot
  obtain rfl := layout.mark _ hdot
  have hnames : ∃ object property, e = .name object ∧ m = .name property ∧ property ≠ "" := by
    unfold Tree.isReference at href
    split at href <;> simp_all [Tree.name]
  obtain ⟨object, property, rfl, rfl, hproperty⟩ := hnames
  obtain ⟨before, written, after, htext, hstart, hlast, hwritten, hfree⟩ := he rfl
  obtain ⟨done', gap', spelled', after', htext', hdone', hstop, hgap', hspelled'⟩ := hm property rfl hproperty
  obtain rfl : done = before ++ written := by
    refine Utf8.eq_of_widths (b := gap ++ s.here.rest) (d := after) ?_ ?_
    · rw [← List.append_assoc, ← layout.here.text_eq, htext, List.append_assoc]
    · rw [← layout.lastStop hright, hlast]
  obtain rfl : done' = before ++ written ++ gap ++ ".".toList := by
    refine Utf8.eq_of_widths (b := gap' ++ (spelled' ++ after')) (d := s.next.rest) ?_ ?_
    · rw [← htext', layout.next.text_eq]
    · rw [← hdone', layout.stop (.inl hright), layout.next.offset_eq]
  cases hwritten with
  | name hobject =>
    have htext'' : text = before ++ (written ++ (gap ++ (".".toList ++ (gap' ++ spelled'))) ++
        after') := by
      rw [htext']
      simp only [List.append_assoc]
    refine ⟨before, _, after', htext'', hstart, ?_, .member hobject layout.isGap hgap' hspelled', ?_⟩
    · rw [hstop]
      simp only [List.append_assoc]
    · rwa [← List.append_cancel_left (htext.symm.trans htext'')]

theorem isReference_member {e m : Tree} (h : m.isReference = false) :
    (Tree.node .member [e, m]).isReference = false := by
  rw [Tree.isReference.eq_def]
  split
  · next heq => cases heq
  · next heq =>
    cases heq
    cases h
  · rfl

/-- The state stands right behind a faithful tree that starts at a byte. -/
structure Past (text : List Char) (start : Nat) (t : Tree) (s : ReadState) : Prop where
  sited : s.Sited text
  faithful : t.Faithful text
  spans : t.Spans text start s.lastStop

theorem Sited.past {start : Nat} {t : Tree} (h : s.Sited text) (ht : t.Compound text) :
    s.Past text start t :=
  ⟨h, ht.faithful, Tree.spans_of_isReference ht.isReference⟩

/-- What opens the arguments of a call of `require.context` closes its head. -/
theorem Sited.callHead {start : Nat} {e : Tree} (h : s.Sited text)
    (hopener : s.token.isMark "(" ∨ s.token.isMark "<") (he : e.Spans text start s.lastStop)
    (hcallee : ContextCall.isRequireContext e) : CallHead text start := by
  obtain ⟨done, gap, spelled, layout, -⟩ := h
  have hright : s.token.kind.isRight := hopener.elim Token.isRight_of_isMark Token.isRight_of_isMark
  have hspelled : spelled = "(".toList ∨ spelled = "<".toList := by
    simp only [Token.isMark, decide_eq_true_eq] at hopener
    exact hopener.imp (layout.mark _) (layout.mark _)
  obtain rfl : e = .node .member [.name "require", .name "context"] := by
    unfold ContextCall.isRequireContext at hcallee
    split at hcallee
    · simp only [Bool.and_eq_true, decide_eq_true_eq] at hcallee
      rw [hcallee.1, hcallee.2, Tree.name, Tree.name]
    · cases hcallee
  obtain ⟨before, written, after, htext, hstart, hlast, hwritten, hfree⟩ := he (by decide)
  obtain rfl : done = before ++ written := by
    refine Utf8.eq_of_widths (b := gap ++ s.here.rest) (d := after) ?_ ?_
    · rw [← List.append_assoc, ← layout.here.text_eq, htext, List.append_assoc]
    · rw [← layout.lastStop hright, hlast]
  cases hwritten with
  | member hfirst hbefore hbehind hsecond =>
    refine ⟨before, _, _, _, _, gap, spelled, s.next.rest, ?_, hstart, fun hr => ?_, hfirst, hsecond,
      hbefore, hbehind, layout.isGap, hspelled⟩
    · rw [layout.next.text_eq]
      simp only [List.append_assoc]
    · exact hfree (by simp [List.head?_append, hr])

end ReadState
end StaticContext.Script
