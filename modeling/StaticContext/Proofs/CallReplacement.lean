import Mathlib.Data.List.Nodup
import StaticContext.Context.Expansion

/-! # Accessors in the place of context calls

A context call holds no other call, so the search, which goes outside in, and the splice, which goes
inside out, meet the same calls in the same order. If no two calls have a span in common, the splice
leaves a tree in which every context call is the accessor of its own context and every other node is
what it was; and that tree has no context call any more. -/

namespace StaticContext
open Script

/-! ## Calls of a tree -/

/-- The span of a call. -/
def Script.Label.callSpan? : Label → Option Span
  | .call span => some span
  | _ => none

namespace Splice

mutual

/-- The spans of all calls outside of what exists for the type checker alone. -/
def callSpans : Tree → List Span
  | .node label children =>
    if label = .typeOnly then [] else label.callSpan?.toList ++ callSpansAll children

def callSpansAll : List Tree → List Span
  | [] => []
  | t :: rest => callSpans t ++ callSpansAll rest

end

end Splice

namespace ContextCall
open Splice

@[simp] theorem inTree_typeOnly (children : List Tree) : inTree (.node .typeOnly children) = [] := by
  rw [inTree]

theorem inTree_node {label : Label} (h : label ≠ .typeOnly) (children : List Tree) :
    inTree (.node label children) =
      (ofTree? (.node label children)).toList ++ inTrees children := by
  rw [inTree]
  exact h

theorem ofLiterals?_span {span : Span} {literals : List Literal} {call : ContextCall}
    (h : ofLiterals? span literals = some call) : call.span = span := by
  simp only [ofLiterals?, bind, Option.bind_eq_some_iff] at h
  obtain ⟨_, _, _, _, _, _, hc⟩ := h
  cases hc
  rfl

theorem callSpans_callee {t : Tree} (h : isRequireContext t = true) : callSpans t = [] := by
  unfold isRequireContext at h
  split at h
  · rfl
  · cases h

theorem callSpans_literal {t : Tree} {l : Literal} (h : literal? t = some l) : callSpans t = [] := by
  unfold literal? at h
  split at h
  · rfl
  · cases h

theorem callSpans_typeArguments {t : Tree} (h : isTypeArguments t = true) : callSpans t = [] := by
  unfold isTypeArguments at h
  split at h
  · rfl
  · rw [callSpans, if_pos rfl]
  · cases h

theorem callSpansAll_literals {ts : List Tree} {literals : List Literal}
    (h : ts.mapM literal? = some literals) : callSpansAll ts = [] := by
  induction ts generalizing literals with
  | nil => rfl
  | cons t rest ih =>
    simp only [List.mapM_cons, bind, Option.bind_eq_some_iff] at h
    obtain ⟨l, hl, ls, hls, _⟩ := h
    rw [callSpansAll, callSpans_literal hl, ih hls]
    rfl

/-- A context call is a call, none of whose parts holds a call. -/
theorem ofTree?_some {label : Label} {children : List Tree} {call : ContextCall}
    (h : ofTree? (.node label children) = some call) :
    label = .call call.span ∧ callSpansAll children = [] := by
  unfold ofTree? at h
  split at h
  case h_2 => cases h
  case h_1 t span callee args types he =>
    cases he
    split at h
    case isFalse => cases h
    case isTrue hshape =>
      obtain ⟨hcallee, htypes⟩ := Bool.and_eq_true_iff.mp hshape
      obtain ⟨literals, hargs, hcall⟩ := Option.bind_eq_some_iff.mp h
      rw [ofLiterals?_span hcall]
      refine ⟨rfl, ?_⟩
      have hlist : callSpans (.node .list args) = [] := callSpansAll_literals hargs
      simp [callSpansAll, callSpans_callee hcallee, hlist, callSpans_typeArguments htypes]

mutual

theorem spans_inTree_sublist :
    ∀ t : Tree, ((inTree t).map ContextCall.span).Sublist (callSpans t)
  | .node label children => by
    by_cases hl : label = .typeOnly
    · rw [hl, inTree_typeOnly]
      exact List.nil_sublist _
    · rw [inTree_node hl, callSpans, if_neg hl, List.map_append]
      refine List.Sublist.append ?_ (spans_inTrees_sublist children)
      cases hc : ofTree? (.node label children) with
      | none => exact List.nil_sublist _
      | some call =>
        rw [(ofTree?_some hc).1]
        exact List.Sublist.refl _

theorem spans_inTrees_sublist :
    ∀ ts : List Tree, ((inTrees ts).map ContextCall.span).Sublist (callSpansAll ts)
  | [] => List.nil_sublist _
  | t :: rest => by
    rw [inTrees, callSpansAll, List.map_append]
    exact (spans_inTree_sublist t).append (spans_inTrees_sublist rest)

end

theorem inTrees_append (ts us : List Tree) : inTrees (ts ++ us) = inTrees ts ++ inTrees us := by
  induction ts with
  | nil => rfl
  | cons t rest ih => rw [List.cons_append, inTrees, inTrees, ih, List.append_assoc]

theorem inTrees_eq_nil {ts : List Tree} (h : callSpansAll ts = []) : inTrees ts = [] := by
  have hs := spans_inTrees_sublist ts
  rw [h, List.sublist_nil, List.map_eq_nil_iff] at hs
  exact hs

end ContextCall

namespace Splice
open ContextCall

/-! ## What a splice is to do -/

/-- Context calls with the contexts that take their places. -/
abbrev Pairing := List (ContextCall × ResolvedContext)

mutual

/-- The first tree with its context calls replaced, each by the accessor of the context that stands
beside it, from the first call to the last. All other nodes stay. -/
inductive Replaces : Pairing → Tree → Tree → Prop where
  | typeOnly (children : List Tree) :
      Replaces [] (.node .typeOnly children) (.node .typeOnly children)
  | call {label : Label} {children : List Tree} {call : ContextCall} (c : ResolvedContext)
      (found : ofTree? (.node label children) = some call) :
      Replaces [(call, c)] (.node label children) (c.accessor call.span)
  | node {label : Label} {children children' : List Tree} {pairs : Pairing}
      (searched : label ≠ .typeOnly) (other : ofTree? (.node label children) = none)
      (below : ReplacesAll pairs children children') :
      Replaces pairs (.node label children) (.node label children')

inductive ReplacesAll : Pairing → List Tree → List Tree → Prop where
  | nil : ReplacesAll [] [] []
  | cons {t t' : Tree} {rest rest' : List Tree} {front back : Pairing}
      (head : Replaces front t t') (tail : ReplacesAll back rest rest') :
      ReplacesAll (front ++ back) (t :: rest) (t' :: rest')

end

mutual

theorem Replaces.map_fst {pairs : Pairing} {t t' : Tree} :
    Replaces pairs t t' → pairs.map Prod.fst = ContextCall.inTree t
  | .typeOnly children => (inTree_typeOnly children).symm
  | .call c found => by
    obtain ⟨rfl, hleaf⟩ := ofTree?_some found
    rw [inTree_node (by nofun), found, inTrees_eq_nil hleaf]
    rfl
  | .node searched other below => by
    rw [inTree_node searched, other, below.map_fst]
    rfl

theorem ReplacesAll.map_fst {pairs : Pairing} {ts ts' : List Tree} :
    ReplacesAll pairs ts ts' → pairs.map Prod.fst = ContextCall.inTrees ts
  | .nil => rfl
  | .cons head tail => by
    rw [List.map_append, head.map_fst, tail.map_fst, ContextCall.inTrees]

end

mutual

/-- There is only one way to do it. -/
theorem Replaces.unique {pairs : Pairing} {t t₁ t₂ : Tree} :
    Replaces pairs t t₁ → Replaces pairs t t₂ → t₁ = t₂
  | .typeOnly children, h => by
    cases h with
    | typeOnly => rfl
    | node searched => exact absurd rfl searched
  | .call c found, h => by
    cases h with
    | call => rfl
    | node _ other => rw [found] at other; cases other
  | .node searched other below, h => by
    cases h with
    | typeOnly => exact absurd rfl searched
    | call c found => rw [found] at other; cases other
    | node _ _ below' => rw [below.unique below']

theorem ReplacesAll.unique {pairs : Pairing} {ts ts₁ ts₂ : List Tree} :
    ReplacesAll pairs ts ts₁ → ReplacesAll pairs ts ts₂ → ts₁ = ts₂
  | .nil, h => by
    generalize ([] : Pairing) = pairs at h
    cases h
    rfl
  | @ReplacesAll.cons _ _ _ _ front back head tail, h => by
    generalize hp : front ++ back = pairs at h
    cases h with
    | cons head' tail' =>
      -- the calls of the first tree tell where the contexts part
      have hlength := congrArg List.length (head.map_fst.trans head'.map_fst.symm)
      obtain ⟨rfl, rfl⟩ := List.append_inj hp (by simpa using hlength)
      rw [head.unique head', tail.unique tail']

end

/-! ## What waits -/

/-- Contexts by the spans of their calls. -/
def bySpan (pairs : Pairing) : Pending :=
  pairs.map fun (call, c) => (call.span, c)

/-- What waits under the given spans is what stands beside the calls that have them. -/
def Awaits (pending : Pending) (spans : List Span) (pairs : Pairing) :
    Prop := ∀ span ∈ spans, pending.lookup span = (bySpan pairs).lookup span

/-- What still waits after the calls with the given spans took their contexts. -/
def without (pending : Pending) (spans : List Span) : Pending :=
  pending.filter fun e => e.1 ∉ spans

theorem lookup_without {pending : Pending} {spans : List Span} {span : Span} (h : span ∉ spans) :
    (without pending spans).lookup span = pending.lookup span := by
  induction pending with
  | nil => rfl
  | cons e rest ih =>
    obtain ⟨s, c⟩ := e
    by_cases hs : s ∈ spans
    · have hne : (span == s) = false := by
        rw [beq_eq_false_iff_ne]
        exact fun he => h (he ▸ hs)
      simpa [without, hs, List.lookup_cons, hne] using ih
    · cases he : span == s with
      | true => simp [without, hs, List.lookup_cons, he]
      | false => simpa [without, hs, List.lookup_cons, he] using ih

@[simp] theorem without_nil (pending : Pending) : without pending [] = pending := by
  simp [without]

theorem without_append (pending : Pending) (spans more : List Span) :
    without (without pending spans) more = without pending (spans ++ more) := by
  simp [without, List.filter_filter, Bool.and_comm]

@[simp] theorem map_fst_bySpan (pairs : Pairing) :
    (bySpan pairs).map Prod.fst = (pairs.map Prod.fst).map ContextCall.span := by
  simp [bySpan, Function.comp_def]

theorem lookup_bySpan_eq_none {pairs : Pairing} {span : Span}
    (h : span ∉ (pairs.map Prod.fst).map ContextCall.span) : (bySpan pairs).lookup span = none := by
  rw [← map_fst_bySpan] at h
  rw [List.lookup_eq_none_iff]
  intro e he
  rw [bne_iff_ne]
  rintro rfl
  exact h (List.mem_map_of_mem he)

/-- The contexts of the calls in front are all that waits for these. -/
theorem Awaits.front {pending : Pending} {spans more : List Span}
    {front back : Pairing}
    (h : Awaits pending (spans ++ more) (front ++ back))
    (hback : ((back.map Prod.fst).map ContextCall.span).Sublist more)
    (hdisjoint : spans.Disjoint more) : Awaits pending spans front := by
  intro span hs
  rw [h span (List.mem_append_left _ hs), bySpan, List.map_append, List.lookup_append]
  change ((bySpan front).lookup span).or ((bySpan back).lookup span) = _
  rw [lookup_bySpan_eq_none fun hb => hdisjoint hs (hback.subset hb), Option.or_none]

/-- When these are gone, the contexts of the calls behind them still wait. -/
theorem Awaits.back {pending : Pending} {spans more : List Span}
    {front back : Pairing}
    (h : Awaits pending (spans ++ more) (front ++ back))
    (hfront : ((front.map Prod.fst).map ContextCall.span).Sublist spans)
    (hdisjoint : spans.Disjoint more) :
    Awaits (without pending ((front.map Prod.fst).map ContextCall.span)) more back := by
  intro span hs
  have hn : span ∉ (front.map Prod.fst).map ContextCall.span :=
    fun hf => hdisjoint (hfront.subset hf) hs
  rw [lookup_without hn, h span (List.mem_append_right _ hs), bySpan, List.map_append,
    List.lookup_append]
  change ((bySpan front).lookup span).or ((bySpan back).lookup span) = _
  rw [lookup_bySpan_eq_none hn, Option.none_or]

/-- Nothing waits for a node when all calls are below it. -/
theorem Awaits.lookup_own {pending : Pending} {own spans : List Span} {pairs : Pairing}
    (h : Awaits pending (own ++ spans) pairs)
    (hbelow : ((pairs.map Prod.fst).map ContextCall.span).Sublist spans)
    (hdisjoint : own.Disjoint spans) :
    ∀ span ∈ own,
      (without pending ((pairs.map Prod.fst).map ContextCall.span)).lookup span = none := by
  intro span hs
  have hn : span ∉ (pairs.map Prod.fst).map ContextCall.span :=
    fun hm => hdisjoint hs (hbelow.subset hm)
  rw [lookup_without hn, h span (List.mem_append_left _ hs), lookup_bySpan_eq_none hn]

/-! ## One walk -/

theorem settle_other {pending : Pending} {label : Label} (children : List Tree)
    (h : ∀ span ∈ label.callSpan?.toList, pending.lookup span = none) :
    settle pending label children = (.node label children, pending) := by
  unfold settle
  split
  · next span => rw [h span (by simp [Label.callSpan?])]
  · rfl

theorem settle_call {pending : Pending} {span : Span} {c : ResolvedContext} (children : List Tree)
    (h : pending.lookup span = some c) :
    settle pending (.call span) children = (c.accessor span, without pending [span]) := by
  simp [settle, h, without]

mutual

/-- Where the contexts of a tree's context calls wait, the splice puts them in and takes them from
what waits. -/
theorem inTree_replaces : ∀ (t : Tree) (pairs : Pairing) (pending : Pending),
    pairs.map Prod.fst = ContextCall.inTree t → (callSpans t).Nodup →
      Awaits pending (callSpans t) pairs →
      ∃ t', inTree pending t = (t', without pending ((pairs.map Prod.fst).map ContextCall.span)) ∧
        Replaces pairs t t'
  | .node label children, pairs, pending, hfound, hdistinct, hawaits => by
    by_cases hl : label = .typeOnly
    · rw [hl, inTree_typeOnly, List.map_eq_nil_iff] at hfound
      exact ⟨.node label children, by simp [inTree, hl, hfound], by rw [hl, hfound]; exact .typeOnly _⟩
    · rw [inTree_node hl] at hfound
      rw [callSpans, if_neg hl] at hdistinct hawaits
      simp only [inTree, if_neg hl]
      cases hc : ofTree? (.node label children) with
      | none =>
        rw [hc, Option.toList_none, List.nil_append] at hfound
        obtain ⟨hown, hbelow, hdisjoint⟩ := List.nodup_append'.mp hdistinct
        obtain ⟨children', hwalk, hrep⟩ := inTrees_replaces children pairs pending hfound hbelow
          fun span hs => hawaits span (List.mem_append_right _ hs)
        -- the node's own span is that of no context call
        have hnone := hawaits.lookup_own (hfound ▸ spans_inTrees_sublist children) hdisjoint
        exact ⟨.node label children', by rw [hwalk]; exact settle_other _ hnone, .node hl hc hrep⟩
      | some call =>
        obtain ⟨rfl, hleaf⟩ := ofTree?_some hc
        rw [hc, inTrees_eq_nil hleaf, List.append_nil] at hfound
        obtain ⟨⟨call', c⟩, rfl, he⟩ := List.map_eq_singleton_iff.mp hfound
        cases he
        have hnone : Awaits pending (callSpansAll children) [] := by
          rw [hleaf]
          nofun
        obtain ⟨children', hwalk, _⟩ := inTrees_replaces children [] pending
          (inTrees_eq_nil hleaf).symm (by rw [hleaf]; exact List.nodup_nil) hnone
        have hwaits : pending.lookup call'.span = some c := by
          rw [hawaits call'.span (by simp [Label.callSpan?])]
          simp [bySpan]
        refine ⟨c.accessor call'.span, ?_, .call c hc⟩
        rw [hwalk]
        exact (settle_call children' (by simpa using hwaits)).trans (by simp)

theorem inTrees_replaces : ∀ (ts : List Tree) (pairs : Pairing) (pending : Pending),
    pairs.map Prod.fst = ContextCall.inTrees ts → (callSpansAll ts).Nodup →
      Awaits pending (callSpansAll ts) pairs →
      ∃ ts', inTrees pending ts = (ts', without pending ((pairs.map Prod.fst).map ContextCall.span)) ∧
        ReplacesAll pairs ts ts'
  | [], pairs, pending, hfound, _, _ => by
    rw [ContextCall.inTrees, List.map_eq_nil_iff] at hfound
    rw [hfound]
    exact ⟨[], by simp [inTrees], .nil⟩
  | t :: rest, pairs, pending, hfound, hdistinct, hawaits => by
    rw [ContextCall.inTrees] at hfound
    obtain ⟨front, back, rfl, hfront, hback⟩ := List.map_eq_append_iff.mp hfound
    rw [callSpansAll] at hdistinct hawaits
    obtain ⟨hhead, htail, hdisjoint⟩ := List.nodup_append'.mp hdistinct
    have hf : ((front.map Prod.fst).map ContextCall.span).Sublist (callSpans t) :=
      hfront ▸ spans_inTree_sublist t
    have hb : ((back.map Prod.fst).map ContextCall.span).Sublist (callSpansAll rest) :=
      hback ▸ spans_inTrees_sublist rest
    obtain ⟨t', hwalk, hrep⟩ :=
      inTree_replaces t front pending hfront hhead (hawaits.front hb hdisjoint)
    obtain ⟨rest', hwalks, hreps⟩ :=
      inTrees_replaces rest back _ hback htail (hawaits.back hf hdisjoint)
    refine ⟨t' :: rest', ?_, .cons hrep hreps⟩
    simp only [inTrees, hwalk, hwalks, without_append, List.map_append]

end

/-! ## No call is left -/

theorem callSpansAll_map {α : Type} {f : α → Tree} (h : ∀ a, callSpans (f a) = []) (xs : List α) :
    callSpansAll (xs.map f) = [] := by
  induction xs with
  | nil => rfl
  | cons a rest ih => rw [List.map_cons, callSpansAll, h, ih, List.nil_append]

theorem callSpansAll_body (modules : List ContextModule) :
    callSpansAll (Accessor.body modules) = [] := by
  have hobject : callSpansAll (modules.map fun m =>
      .node .property [.string m.key, Accessor.exports m.identifier]) = [] :=
    callSpansAll_map (fun _ => rfl) modules
  have hkeys : callSpansAll (modules.map fun m => .string m.key) = [] :=
    callSpansAll_map (fun _ => rfl) modules
  simp [Accessor.body, Accessor.binding, Accessor.arrow, Accessor.modulesObject, Accessor.lookup,
    Accessor.keysFunction, Tree.name, Tree.list, Tree.absent, callSpans, callSpansAll,
    Label.callSpan?, hobject, hkeys]

theorem callSpansAll_accessor (modules : List ContextModule) :
    callSpansAll [.node .paren [Accessor.arrow [] (.node .block (Accessor.body modules))], .list [],
      .absent] = [] := by
  simp [Accessor.arrow, Tree.list, Tree.absent, callSpans, callSpansAll, Label.callSpan?,
    callSpansAll_body]

theorem callSpans_accessor (c : ResolvedContext) (span : Span) :
    callSpans (c.accessor span) = [span] := by
  rw [ResolvedContext.accessor, callSpans, if_neg nofun, callSpansAll_accessor]
  rfl

theorem callSpans_importTree (m : ContextModule) : callSpans m.importTree = [] := rfl

/-- An accessor calls a function of its own. -/
theorem inTree_accessor (c : ResolvedContext) (span : Span) :
    ContextCall.inTree (c.accessor span) = [] := by
  have hl : Label.call span ≠ .typeOnly := nofun
  rw [ResolvedContext.accessor, inTree_node hl, inTrees_eq_nil (callSpansAll_accessor c.modules)]
  rfl

mutual

/-- Where no call is left, none was replaced. -/
theorem Replaces.eq_of_callSpans {pairs : Pairing} {t t' : Tree} :
    Replaces pairs t t' → callSpans t' = [] → t = t'
  | .typeOnly _, _ => rfl
  | .call c _, h => by
    rw [callSpans_accessor] at h
    cases h
  | .node searched _ below, h => by
    rw [callSpans, if_neg searched, List.append_eq_nil_iff] at h
    rw [below.eq_of_callSpans h.2]

theorem ReplacesAll.eq_of_callSpans {pairs : Pairing}
    {ts ts' : List Tree} : ReplacesAll pairs ts ts' → callSpansAll ts' = [] → ts = ts'
  | .nil, _ => rfl
  | .cons head tail, h => by
    rw [callSpansAll, List.append_eq_nil_iff] at h
    rw [head.eq_of_callSpans h.1, tail.eq_of_callSpans h.2]

end

mutual

/-- A node that was no context call is none over replaced children: those of a context call hold no
call, so that none of them was replaced. -/
theorem Replaces.inTree_eq_nil {pairs : Pairing} {t t' : Tree} :
    Replaces pairs t t' → ContextCall.inTree t' = []
  | .typeOnly children => inTree_typeOnly children
  | .call c _ => inTree_accessor c _
  | .node searched other below => by
    rw [inTree_node searched, below.inTrees_eq_nil, List.append_nil]
    generalize hc : ofTree? _ = found
    cases found with
    | none => rfl
    | some call =>
      rw [below.eq_of_callSpans (ofTree?_some hc).2, hc] at other
      cases other

theorem ReplacesAll.inTrees_eq_nil {pairs : Pairing}
    {ts ts' : List Tree} : ReplacesAll pairs ts ts' → ContextCall.inTrees ts' = []
  | .nil => rfl
  | .cons head tail => by
    rw [ContextCall.inTrees, head.inTree_eq_nil, tail.inTrees_eq_nil, List.append_nil]

end

/-! ## Whole programs -/

theorem lookup_register (pending : Pending) (s : Span) (c : ResolvedContext) (span : Span) :
    (register pending s c).lookup span = if span = s then some c else pending.lookup span := by
  rw [register, List.lookup_cons]
  cases he : span == s with
  | true => rw [if_pos (beq_iff_eq.mp he)]
  | false =>
    have hne := beq_eq_false_iff_ne.mp he
    have hw : (without pending [s]).lookup span = pending.lookup span :=
      lookup_without (by simpa using hne)
    rw [if_neg hne, ← hw]
    simp [without]

theorem lookup_waitingFrom {pairs : Pairing} (pending : Pending)
    (h : ((pairs.map Prod.fst).map ContextCall.span).Nodup) (span : Span) :
    (pairs.foldl (fun pending (call, c) => register pending call.span c) pending).lookup span =
      ((bySpan pairs).lookup span).or (pending.lookup span) := by
  induction pairs generalizing pending with
  | nil => rfl
  | cons pair rest ih =>
    obtain ⟨call, c⟩ := pair
    obtain ⟨hcall, hrest⟩ := List.nodup_cons.mp h
    have hb : bySpan ((call, c) :: rest) = (call.span, c) :: bySpan rest := rfl
    rw [List.foldl_cons, ih _ hrest, lookup_register, hb, List.lookup_cons]
    by_cases he : span = call.span
    · -- no later call takes the place of this one
      rw [he, lookup_bySpan_eq_none hcall]
      simp
    · rw [if_neg he, beq_eq_false_iff_ne.mpr he]

theorem mem_waitingFrom {pairs : Pairing} {pending : Pending}
    {e : Span × ResolvedContext}
    (h : e ∈ pairs.foldl (fun pending (call, c) => register pending call.span c) pending) :
    e.1 ∈ (pairs.map Prod.fst).map ContextCall.span ∨ e ∈ pending := by
  induction pairs generalizing pending with
  | nil => exact .inr h
  | cons pair rest ih =>
    rcases ih h with hr | hp
    · exact .inl (List.mem_cons_of_mem _ hr)
    · rcases List.mem_cons.mp hp with rfl | hp
      · exact .inl (by simp)
      · exact .inr (List.mem_filter.mp hp).1

/-- What waits for the calls of a program ends up in their places. -/
theorem inTrees_waiting (p : Program) (contexts : List ResolvedContext)
    (hdistinct : (callSpansAll p.body).Nodup)
    (hlength : contexts.length = (ContextCall.inProgram p).length) :
    ∃ body, inTrees (waiting (ContextCall.inProgram p) contexts) p.body = (body, []) ∧
      ReplacesAll ((ContextCall.inProgram p).zip contexts) p.body body := by
  have hzip : ((ContextCall.inProgram p).zip contexts).map Prod.fst = ContextCall.inTrees p.body :=
    List.map_fst_zip (Nat.le_of_eq hlength.symm)
  have hspans : ((((ContextCall.inProgram p).zip contexts).map Prod.fst).map
      ContextCall.span).Nodup := by
    rw [hzip]
    exact hdistinct.sublist (spans_inTrees_sublist p.body)
  have hawaits : Awaits (waiting (ContextCall.inProgram p) contexts) (callSpansAll p.body)
      ((ContextCall.inProgram p).zip contexts) := by
    intro span _
    rw [waiting, lookup_waitingFrom [] hspans, List.lookup_nil, Option.or_none]
  obtain ⟨body, hwalk, hrep⟩ := inTrees_replaces p.body _ _ hzip hdistinct hawaits
  have hnone : without (waiting (ContextCall.inProgram p) contexts)
      ((((ContextCall.inProgram p).zip contexts).map Prod.fst).map ContextCall.span) = [] := by
    rw [without, List.filter_eq_nil_iff]
    intro e he
    rcases mem_waitingFrom he with hm | hm
    · simpa using hm
    · cases hm
  exact ⟨body, hnone ▸ hwalk, hrep⟩

/-- With one context for each context call of a program, in the order in which the calls are found,
the splice leaves the one body that has every context in the place of its call and is the same
everywhere else. No context waits then, and the only context calls left are those that the imports
bring along: generated ones bring none. -/
theorem inProgram_replaces (p : Program) (contexts : List ResolvedContext) (imports : List Tree)
    (hdistinct : (callSpansAll p.body).Nodup)
    (hlength : contexts.length = (ContextCall.inProgram p).length) :
    ∃ body, inProgram (waiting (ContextCall.inProgram p) contexts) imports p =
        ({ p with body := imports ++ body }, []) ∧
      (∀ other, ReplacesAll ((ContextCall.inProgram p).zip contexts) p.body other ↔ other = body) ∧
      ContextCall.inProgram { p with body := imports ++ body } = ContextCall.inTrees imports ∧
      ∀ modules : List ContextModule, imports = modules.map ContextModule.importTree →
        ContextCall.inProgram { p with body := imports ++ body } = [] := by
  obtain ⟨body, hwalk, hrep⟩ := inTrees_waiting p contexts hdistinct hlength
  have hleft : ContextCall.inProgram { p with body := imports ++ body } =
      ContextCall.inTrees imports := by
    rw [ContextCall.inProgram, ContextCall.inTrees_append, hrep.inTrees_eq_nil, List.append_nil]
  refine ⟨body, ?_, fun other => ⟨fun h => h.unique hrep, fun h => h ▸ hrep⟩, hleft, ?_⟩
  · simp only [inProgram, hwalk]
  · rintro modules rfl
    rw [hleft, inTrees_eq_nil (callSpansAll_map callSpans_importTree modules)]

/-- `require.context("a")(require.context("b"))`: one call's accessor is called on the other. -/
def chainedProgram : Program :=
  let context (directory : String) (span : Span) : Tree :=
    .node (.call span)
      [.node .member [.name "require", .name "context"], .list [.string directory], .absent]
  ⟨none, [.node .expression
    [.node (.call ⟨1, 43⟩) [context "a" ⟨1, 21⟩, .list [context "b" ⟨22, 42⟩], .absent]]]⟩

theorem inProgram_replaces_chained : ∃ body,
    inProgram (waiting (ContextCall.inProgram chainedProgram)
        [⟨.ofString "/a", []⟩, ⟨.ofString "/b", []⟩]) [] chainedProgram = (⟨none, [] ++ body⟩, []) ∧
      ReplacesAll ((ContextCall.inProgram chainedProgram).zip
        [⟨.ofString "/a", []⟩, ⟨.ofString "/b", []⟩]) chainedProgram.body body ∧
      ContextCall.inProgram ⟨none, [] ++ body⟩ = [] := by
  have hdistinct : (callSpansAll chainedProgram.body).Nodup := by decide +kernel
  have hlength : [(⟨.ofString "/a", []⟩ : ResolvedContext), ⟨.ofString "/b", []⟩].length =
      (ContextCall.inProgram chainedProgram).length := by decide +kernel
  obtain ⟨body, hwalk, hrep, _, hleft⟩ := inProgram_replaces chainedProgram _ [] hdistinct hlength
  exact ⟨body, hwalk, (hrep body).mpr rfl, hleft [] rfl⟩

end Splice
end StaticContext
