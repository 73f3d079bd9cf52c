import StaticContext.Proofs.CallReplacement

/-! # Which context calls are found

A context call has one shape: `require.context` called on a directory, perhaps a flag, perhaps a
filter, and then any literals. The search goes through all places of a tree but those that exist for
the type checker alone, an outer place before those inside it and earlier children first. It finds what
has the shape and nothing else, each call at one place. -/

namespace StaticContext
open Script

/-! ## Places -/

namespace Script.Tree

/-- What stands at a place of a tree: the way there takes, level by level, the child with the given
number. No way leads to or through what exists for the type checker alone. -/
inductive At : Tree → List Nat → Tree → Prop where
  | here {label : Label} {children : List Tree} (searched : label ≠ .typeOnly) :
      At (.node label children) [] (.node label children)
  | inside {label : Label} {children : List Tree} {i : Nat} {child t : Tree} {place : List Nat}
      (searched : label ≠ .typeOnly) (entry : children[i]? = some child) (rest : At child place t) :
      At (.node label children) (i :: place) t

end Script.Tree

/-- Two ways part, the first one to an earlier child. -/
def Earlier (place place' : List Nat) : Prop :=
  ∃ front i j back back', place = front ++ i :: back ∧ place' = front ++ j :: back' ∧ i < j

namespace Earlier

theorem of_lt {i j : Nat} (back back' : List Nat) (h : i < j) : Earlier (i :: back) (j :: back') :=
  ⟨[], i, j, back, back', rfl, rfl, h⟩

theorem cons {place place' : List Nat} (i : Nat) (h : Earlier place place') :
    Earlier (i :: place) (i :: place') := by
  obtain ⟨front, j, k, back, back', rfl, rfl, hlt⟩ := h
  exact ⟨i :: front, j, k, back, back', rfl, rfl, hlt⟩

theorem lt {place place' : List Nat} (h : Earlier place place') : place < place' := by
  obtain ⟨front, i, j, back, back', rfl, rfl, hlt⟩ := h
  exact List.append_left_lt (List.cons_lt_cons_iff.mpr (.inl hlt))

theorem not_within {place place' : List Nat} (h : Earlier place place') :
    ¬ (place <+: place' ∨ place' <+: place) := by
  obtain ⟨front, i, j, back, back', rfl, rfl, hlt⟩ := h
  rw [List.prefix_append_right_inj, List.prefix_append_right_inj, List.cons_prefix_cons,
    List.cons_prefix_cons]
  rintro (⟨rfl, -⟩ | ⟨rfl, -⟩)
  · exact absurd hlt (Nat.lt_irrefl i)
  · exact absurd hlt (Nat.lt_irrefl j)

/-- Where ways part one after the other, none goes on where another ends. -/
theorem eq_of_prefix {places : List (List Nat)} (h : places.Pairwise Earlier) :
    ∀ place ∈ places, ∀ place' ∈ places, place <+: place' → place = place' := by
  induction h with
  | nil => nofun
  | cons hfirst _ ih =>
    intro place hplace place' hplace' hprefix
    cases hplace with
    | head =>
      cases hplace' with
      | head => rfl
      | tail _ hplace' => exact absurd (.inl hprefix) (hfirst place' hplace').not_within
    | tail _ hplace =>
      cases hplace' with
      | head => exact absurd (.inr hprefix) (hfirst place hplace).not_within
      | tail _ hplace' => exact ih place hplace place' hplace' hprefix

end Earlier

namespace ContextCall

/-! ## The shape of a context call -/

/-- Literals with what they say as arguments: a directory, whether it is searched to its depths, and a
filter. What is left out is the default; what follows the filter says nothing. -/
inductive Arguments : List Literal → String → Bool → Option Filter → Prop where
  | directory (value : String) (source : Option String) :
      Arguments [.string value source] value true none
  | recursive (value : String) (source : Option String) (flag : Bool) :
      Arguments [.string value source, .boolean flag] value flag none
  | filter (value : String) (source : Option String) (flag : Bool) (pattern flags : String)
      (further : List Literal) :
      Arguments (.string value source :: .boolean flag :: .regex pattern flags :: further) value flag
        (some ⟨pattern, flags⟩)

/-- A call of the member `context`, by name, of the name `require`, with literals for arguments. Type
arguments make no difference. -/
inductive Written : Tree → ContextCall → Prop where
  | call {span : Span} {literals : List Literal} {directory : String} {recursive : Bool}
      {filter : Option Filter} {typeArguments : Tree}
      (arguments : Arguments literals directory recursive filter)
      (types : typeArguments = .absent ∨ typeArguments.label = .typeOnly) :
      Written (.node (.call span) [.node .member [.name "require", .name "context"],
        .list (literals.map Tree.literal), typeArguments]) ⟨span, directory, recursive, filter⟩

theorem isRequireContext_iff {t : Tree} :
    isRequireContext t = true ↔ t = .node .member [.name "require", .name "context"] := by
  constructor
  · intro h
    unfold isRequireContext at h
    split at h
    · simp only [Bool.and_eq_true, decide_eq_true_eq] at h
      rw [h.1, h.2]
      rfl
    · cases h
  · rintro rfl
    rfl

theorem isTypeArguments_iff {t : Tree} :
    isTypeArguments t = true ↔ t = .absent ∨ t.label = .typeOnly := by
  constructor
  · intro h
    unfold isTypeArguments at h
    split at h
    · exact .inl rfl
    · exact .inr rfl
    · cases h
  · obtain ⟨label, children⟩ := t
    rintro (h | h)
    · cases h
      rfl
    · cases h
      rfl

theorem mapM_literal?_iff {args : List Tree} {literals : List Literal} :
    args.mapM literal? = some literals ↔ args = literals.map Tree.literal := by
  constructor
  · intro h
    induction args generalizing literals with
    | nil => cases h; rfl
    | cons t rest ih =>
      simp only [List.mapM_cons, bind, Option.bind_eq_some_iff] at h
      obtain ⟨l, hl, ls, hls, heq⟩ := h
      cases heq
      rw [List.map_cons, ih hls]
      unfold literal? at hl
      split at hl
      · cases hl
        rfl
      · cases hl
  · rintro rfl
    induction literals with
    | nil => rfl
    | cons l rest ih =>
      rw [List.map_cons, List.mapM_cons, ih]
      rfl

theorem ofLiterals?_iff {span : Span} {literals : List Literal} {call : ContextCall} :
    ofLiterals? span literals = some call ↔
      call.span = span ∧ Arguments literals call.directory call.recursive call.filter := by
  constructor
  · intro h
    refine ⟨ofLiterals?_span h, ?_⟩
    simp only [ofLiterals?, bind, Option.bind_eq_some_iff] at h
    obtain ⟨directory, hdirectory, recursive, hrecursive, filter, hfilter, hcall⟩ := h
    cases hcall
    unfold directory? at hdirectory
    split at hdirectory
    case h_2 => cases hdirectory
    case h_1 value source rest =>
      cases hdirectory
      rcases rest with _ | ⟨second, _ | ⟨third, further⟩⟩
      · cases hrecursive
        cases hfilter
        exact .directory _ source
      · cases second <;> cases hrecursive
        cases hfilter
        exact .recursive _ source _
      · cases second <;> cases hrecursive
        cases third <;> cases hfilter
        exact .filter _ source _ _ _ further
  · obtain ⟨span', directory, recursive, filter⟩ := call
    rintro ⟨rfl, harguments⟩
    cases harguments <;> rfl

/-- The test for a context call accepts what has the shape of one. -/
theorem ofTree?_eq_some_iff {t : Tree} {call : ContextCall} :
    ofTree? t = some call ↔ Written t call := by
  constructor
  · intro h
    unfold ofTree? at h
    split at h
    case h_2 => cases h
    case h_1 span callee args typeArguments =>
      split at h
      case isFalse => cases h
      case isTrue hshape =>
        obtain ⟨hcallee, htypes⟩ := Bool.and_eq_true_iff.mp hshape
        obtain ⟨literals, hargs, hcall⟩ := Option.bind_eq_some_iff.mp h
        obtain ⟨rfl, harguments⟩ := ofLiterals?_iff.mp hcall
        rw [isRequireContext_iff.mp hcallee, mapM_literal?_iff.mp hargs]
        exact .call harguments (isTypeArguments_iff.mp htypes)
  · intro h
    cases h with
    | @call span literals directory recursive filter typeArguments arguments types =>
      have hcallee : isRequireContext (.node .member [.name "require", .name "context"]) = true := rfl
      have hargs : (literals.map Tree.literal).mapM literal? = some literals :=
        mapM_literal?_iff.mpr rfl
      rw [Tree.list, ofTree?, hcallee, isTypeArguments_iff.mpr types, hargs]
      exact ofLiterals?_iff.mpr ⟨rfl, arguments⟩

/-! ## The search with its places -/

mutual

/-- The context calls of a tree with their places. -/
def found : Tree → List (List Nat × ContextCall)
  | .node label children =>
    if label = .typeOnly then []
    else (ofTree? (.node label children)).toList.map ([], ·) ++ foundFrom 0 children

/-- The same for children that `i` others stand before. -/
def foundFrom (i : Nat) : List Tree → List (List Nat × ContextCall)
  | [] => []
  | t :: rest => (found t).map (fun e => (i :: e.1, e.2)) ++ foundFrom (i + 1) rest

end

mutual

theorem map_snd_found : ∀ t : Tree, (found t).map Prod.snd = inTree t
  | .node label children => by
    by_cases hl : label = .typeOnly
    · rw [found, if_pos hl, hl, inTree_typeOnly]
      rfl
    · rw [found, if_neg hl, inTree_node hl, List.map_append, map_snd_foundFrom 0 children,
        List.map_map]
      simp [Function.comp_def]

theorem map_snd_foundFrom : ∀ (i : Nat) (ts : List Tree), (foundFrom i ts).map Prod.snd = inTrees ts
  | _, [] => rfl
  | i, t :: rest => by
    rw [foundFrom, inTrees, List.map_append, map_snd_foundFrom (i + 1) rest, List.map_map,
      ← map_snd_found t]
    rfl

end

/-- What is found among children stands at or in one of them. -/
theorem mem_foundFrom {i : Nat} {ts : List Tree} {place : List Nat} {call : ContextCall} :
    (place, call) ∈ foundFrom i ts ↔
      ∃ j child rest, ts[j]? = some child ∧ place = (i + j) :: rest ∧ (rest, call) ∈ found child := by
  induction ts generalizing i with
  | nil => simp [foundFrom]
  | cons t ts ih =>
    rw [foundFrom, List.mem_append, ih]
    constructor
    · rintro (hmem | ⟨j, child, rest, hchild, rfl, hrest⟩)
      · obtain ⟨⟨rest, call'⟩, hrest, heq⟩ := List.mem_map.mp hmem
        cases heq
        exact ⟨0, t, rest, rfl, rfl, hrest⟩
      · exact ⟨j + 1, child, rest, hchild, by rw [Nat.add_assoc, Nat.add_comm 1], hrest⟩
    · rintro ⟨j, child, rest, hchild, rfl, hrest⟩
      cases j with
      | zero =>
        cases hchild
        exact .inl (List.mem_map.mpr ⟨_, hrest, rfl⟩)
      | succ j =>
        exact .inr ⟨j, child, rest, hchild, by rw [Nat.add_assoc, Nat.add_comm 1], hrest⟩

theorem mem_found_node {label : Label} {children : List Tree} {place : List Nat}
    {call : ContextCall} : (place, call) ∈ found (.node label children) ↔ label ≠ .typeOnly ∧
      (place = [] ∧ Written (.node label children) call ∨
        ∃ i child rest, children[i]? = some child ∧ place = i :: rest ∧
          (rest, call) ∈ found child) := by
  by_cases hl : label = .typeOnly
  · simp [found, hl]
  · rw [found, if_neg hl, List.mem_append, mem_foundFrom, ← ofTree?_eq_some_iff]
    simp only [ne_eq, hl, not_false_eq_true, true_and, Nat.zero_add, List.mem_map,
      Option.mem_toList, Prod.mk.injEq]
    constructor
    · rintro (⟨call', hcall, rfl, rfl⟩ | hbelow)
      · exact .inl ⟨rfl, hcall⟩
      · exact .inr hbelow
    · rintro (⟨rfl, hcall⟩ | hbelow)
      · exact .inl ⟨call, hcall, rfl, rfl⟩
      · exact .inr hbelow

theorem found_of_at {t u : Tree} {place : List Nat} {call : ContextCall} (hat : t.At place u)
    (hcall : Written u call) : (place, call) ∈ found t := by
  induction hat with
  | here searched => exact mem_found_node.mpr ⟨searched, .inl ⟨rfl, hcall⟩⟩
  | inside searched entry _ ih =>
    exact mem_found_node.mpr ⟨searched, .inr ⟨_, _, _, entry, rfl, ih hcall⟩⟩

/-- What is found stands at its place. -/
theorem at_of_found {t : Tree} {place : List Nat} {call : ContextCall}
    (h : (place, call) ∈ found t) : ∃ u, t.At place u ∧ Written u call := by
  -- the induction is on the way to the place, which gets shorter with each level
  induction place generalizing t with
  | nil =>
    obtain ⟨label, children⟩ := t
    obtain ⟨searched, ⟨-, hcall⟩ | ⟨_, _, _, _, hplace, _⟩⟩ := mem_found_node.mp h
    · exact ⟨_, .here searched, hcall⟩
    · cases hplace
  | cons i rest ih =>
    obtain ⟨label, children⟩ := t
    obtain ⟨searched, ⟨hplace, _⟩ | ⟨j, child, rest', entry, hplace, hrest⟩⟩ := mem_found_node.mp h
    · cases hplace
    · cases hplace
      obtain ⟨u, hat, hcall⟩ := ih hrest
      exact ⟨u, .inside searched entry hat, hcall⟩

mutual

/-- Earlier children come first. No call stands above another: there is none within a context call. -/
theorem pairwise_found : ∀ t : Tree, (found t).Pairwise fun e f => Earlier e.1 f.1
  | .node label children => by
    rw [found]
    split
    · exact List.Pairwise.nil
    · next hl =>
      cases hc : ofTree? (.node label children) with
      | none =>
        rw [Option.toList_none, List.map_nil, List.nil_append]
        exact pairwise_foundFrom 0 children
      | some call =>
        have hnone : foundFrom 0 children = [] := by
          rw [← List.map_eq_nil_iff, map_snd_foundFrom, inTrees_eq_nil (ofTree?_some hc).2]
        rw [hnone, List.append_nil]
        exact List.pairwise_singleton _ _

theorem pairwise_foundFrom : ∀ (i : Nat) (ts : List Tree),
    (foundFrom i ts).Pairwise fun e f => Earlier e.1 f.1
  | _, [] => List.Pairwise.nil
  | i, t :: rest => by
    rw [foundFrom, List.pairwise_append]
    refine ⟨(pairwise_found t).map _ fun e f h => h.cons i, pairwise_foundFrom (i + 1) rest, ?_⟩
    rintro e he ⟨place, call⟩ hf
    obtain ⟨⟨front, call'⟩, -, rfl⟩ := List.mem_map.mp he
    obtain ⟨j, _, back, _, rfl, _⟩ := mem_foundFrom.mp hf
    exact .of_lt front back (by omega)

end

/-- The search finds, at one place each, all that has the shape of a context call, and nothing else.
Its answers come in the order of the places, in which an outer place stands before those inside it and
earlier children before later ones, and none of the calls lies in another one. -/
theorem inProgram_exact (p : Program) : ∃ places : List (List Nat),
    List.Forall₂ (fun place call => ∃ t, (Tree.list p.body).At place t ∧ Written t call) places
      (inProgram p) ∧
    (∀ place t call, (Tree.list p.body).At place t → Written t call → place ∈ places) ∧
    places.Pairwise (· < ·) ∧
    ∀ place ∈ places, ∀ place' ∈ places, place <+: place' → place = place' := by
  have hsearch : (found (.list p.body)).map Prod.snd = inProgram p := by
    have hlist : Label.list ≠ .typeOnly := by
      intro h
      cases h
    rw [map_snd_found, Tree.list, inTree_node hlist]
    rfl
  have hearlier : ((found (.list p.body)).map Prod.fst).Pairwise Earlier :=
    (pairwise_found _).map _ fun _ _ h => h
  refine ⟨(found (.list p.body)).map Prod.fst, ?_, ?_, hearlier.imp Earlier.lt,
    Earlier.eq_of_prefix hearlier⟩
  · rw [← hsearch, List.forall₂_map_left_iff, List.forall₂_map_right_iff, List.forall₂_same]
    intro e he
    exact at_of_found he
  · intro place t call hat hcall
    exact List.mem_map.mpr ⟨_, found_of_at hat hcall, rfl⟩

/-- In `require.context("a")(require.context("b"))` the calls stand in the callee and in the arguments of
the outer call, which is none itself. -/
example :
    let context (directory : String) : Tree := .node (.call ⟨0, 0⟩)
      [.node .member [.name "require", .name "context"], .list [.string directory], .absent]
    (found (.node (.call ⟨0, 0⟩) [context "a", .list [context "b"], .absent])).map Prod.fst =
      [[0], [1, 0]] := by
  decide +kernel

end ContextCall
end StaticContext
