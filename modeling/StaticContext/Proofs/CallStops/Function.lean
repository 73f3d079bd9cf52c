import StaticContext.Proofs.CallStops.TypeExpression

/-! # Calls in functions and classes -/

namespace StaticContext.Script
open Reads

/-! ## Covered patterns -/

namespace Tree

variable {binds : Bool} {stop : Nat}

mutual

/-- An expression and the pattern it covers have the same calls. -/
theorem calls_toPattern? {t p : Tree} (hp : t.toPattern? binds = some p) :
    p.calls stop = t.calls stop := by
  rw [Tree.toPattern?.eq_def] at hp
  split at hp
  next l ts =>
  split at hp
  case h_2 ts =>
    obtain ⟨ps, hps, rfl⟩ := Option.map_eq_some_iff.mp hp
    simpa using callsAll_elementsToPatterns? hps
  case h_3 ts =>
    obtain ⟨ps, hps, rfl⟩ := Option.map_eq_some_iff.mp hp
    simpa using callsAll_propertiesToPatterns? hps
  all_goals
    first
    | rw [eq_of_simpleTarget? hp]
    | (cases hp; simp)
    | (split at hp <;> cases hp; simp)
    | cases hp

theorem callsAll_elementsToPatterns? {ts ps : List Tree}
    (hp : elementsToPatterns? binds ts = some ps) : callsAll stop ps = callsAll stop ts := by
  rw [elementsToPatterns?.eq_def] at hp
  split at hp
  case h_1 =>
    cases hp
    rfl
  case h_2 rest =>
    obtain ⟨ps, hps, rfl⟩ := Option.map_eq_some_iff.mp hp
    simp [callsAll_elementsToPatterns? hps]
  case h_3 t =>
    obtain ⟨p, hcovered, rfl⟩ := Option.map_eq_some_iff.mp hp
    simp [calls_toPattern? hcovered]
  case h_4 t rest _ _ =>
    split at hp <;> cases hp
    next p ps hp hps => simp [calls_toPattern? hp, callsAll_elementsToPatterns? hps]

theorem callsAll_propertiesToPatterns? {ts ps : List Tree}
    (hp : propertiesToPatterns? binds ts = some ps) : callsAll stop ps = callsAll stop ts := by
  rw [propertiesToPatterns?.eq_def] at hp
  split at hp
  case h_1 =>
    cases hp
    rfl
  case h_2 k t rest =>
    split at hp <;> cases hp
    next p ps hp hps => simp [calls_toPattern? hp, callsAll_propertiesToPatterns? hps]
  case h_3 | h_5 =>
    obtain ⟨ps, hps, rfl⟩ := Option.map_eq_some_iff.mp hp
    simp [callsAll_propertiesToPatterns? hps]
  case h_4 t =>
    obtain ⟨p, hcovered, rfl⟩ := Option.map_eq_some_iff.mp hp
    simp [calls_toPattern? hcovered]
  case h_6 => cases hp

end

end Tree

namespace Grammar
open Script.Tree

variable {g : Grammar} [g.Collecting] {held : List Tree}

/-! ## Functions -/

instance (isAsync isGenerator allowsSuper : Bool) :
    Collects held (functionParts g isAsync isGenerator allowsSuper) fun ts => ts ++ held := by
  refine .withScope (h := .bind fun types => .bind fun params => .bind fun result => ?_) _
  refine .bind fun _ => .bind fun _ => ?_
  extract_lets bodiless withBody
  have hbody (body : Tree) : Collects (body :: result :: params :: types :: held) (withBody body)
      fun ts => ts ++ held :=
    .pure (by simp +arith)
  exact .bind fun _ => .ite (fun _ => .of_more (hbody _) (by simp)) fun _ => .bind hbody

instance (declared isAsync : Bool) :
    Collects held (functionTree g declared isAsync) fun t => t :: held := by
  refine .bind fun _ => .bind fun _ => .bind fun _ => ?_
  extract_lets named
  have hname (name : Tree) : Collects (name :: held) (named name) fun t => t :: held :=
    .bind fun _ => .pure (by simp +arith)
  exact .ite (fun _ => .bind hname) fun _ => .of_more (hname _) (by simp)

theorem arrowTree_collects (isAsync : Bool) (params : List Tree) (types result : Tree) :
    Collects (result :: types :: params ++ held) (arrowTree g isAsync params types result)
      fun t => t :: held := by
  refine .bind fun _ => ?_
  extract_lets withBody rest
  have hbody (body : Tree) : Collects (body :: (result :: types :: params ++ held)) (withBody body)
      fun t => t :: held :=
    .pure (by simp +arith)
  have hrest : Collects (result :: types :: params ++ held) (rest ()) fun t => t :: held :=
    .bind fun _ => .bind fun _ => .ite (fun _ => .bind hbody) fun _ => .bind hbody
  exact .ite (fun _ => .bind fun _ => .bind fun _ => hrest) fun _ => hrest

instance : Moves atArrow := by
  unfold atArrow
  infer_instance

instance : Moves atAsyncFunction := by
  unfold atAsyncFunction
  infer_instance

instance (start : Nat) (t : Tree) : Collects (t :: held) (toParameter start t) fun p => p :: held := by
  unfold toParameter
  split
  · next hp => exact .pure (by simp [calls_toPattern? hp])
  · exact .failAt

theorem toParameters_collects (items : List (Tree × Nat)) :
    Collects (items.map (·.1) ++ held) (toParameters items) fun ts => ts ++ held := by
  induction items generalizing held with
  | nil => exact .pure (by simp)
  | cons item items ih =>
    have hrest (t : Tree) : Collects (t :: (items.map (·.1) ++ held)) (toParameters items)
        fun ts => ts ++ t :: held :=
      ih.of_more (by simp +arith)
    have hmade : Collects (item.1 :: (items.map (·.1) ++ held)) (do
        let p ← toParameter item.2 item.1
        return p :: (← toParameters items)) fun ts => ts ++ held :=
      .bind fun t => .bind (h := hrest t) fun ts => .pure (by simp +arith)
    exact .ite (fun _ => .bind fun _ => hmade) fun _ => hmade

instance (isAsync : Bool) : Collects held (typedArrow g isAsync) fun t => t :: held := by
  refine .bind fun types => .bind (h := .withScope (h := parameters_children) _) fun params => ?_
  refine .bind fun result => .bind fun _ => ?_
  have harrow : Collects (result :: (params.children ++ types :: held))
      (arrowTree g isAsync params.children types result) fun t => t :: held :=
    (arrowTree_collects isAsync params.children types result).of_more (by simp +arith)
  exact .ite (fun _ => harrow) fun _ => .bind fun _ => harrow

/-! ## Classes -/

theorem classField_collects (mods : Modifiers) (key : Tree) (mark : String) :
    Collects (key :: held) (classField g mods key mark) fun t => t :: held := by
  refine .bind fun type => .bind fun _ => ?_
  extract_lets withValue
  have hvalue (value : Tree) : Collects (value :: type :: key :: held) (withValue value)
      fun t => t :: held :=
    .bind fun _ => .pure (by simp +arith)
  exact .ite (fun _ => .bind hvalue) fun _ => .of_more (hvalue _) (by simp)

instance (kind : MethodKind) (isAsync isGenerator : Bool) (start : Nat) :
    Moves (checkConstructor kind isAsync isGenerator start) := by
  unfold checkConstructor
  infer_instance

instance (mods : Modifiers) : Collects held (namedMember g mods) fun t => t :: held := by
  refine .bind fun _ => .bind fun _ => ?_
  extract_lets isAsync named
  have hnamed : Collects held (named ()) fun t => t :: held := by
    refine .bind fun _ => .bind fun _ => .bind fun _ => ?_
    extract_lets kind keyed
    have hkeyed : Collects held (keyed ()) fun t => t :: held := by
      refine .bind fun _ => .bind fun k => ?_
      extract_lets isConstructor kind checked
      have hchecked : Collects (k :: held) (checked ()) fun t => t :: held := by
        refine .bind fun _ => .bind fun _ => .bind fun _ => ?_
        extract_lets field
        have hfield (isDefinite : Bool) : Collects (k :: held) (field isDefinite) fun t => t :: held :=
          classField_collects _ _ _
        refine .ite (fun _ => .bind fun ts => .pure (by simp +arith)) fun _ => .bind fun _ => ?_
        exact .ite (fun _ => .bind fun _ => hfield _) fun _ => hfield _
      exact .ite (fun _ => .bind fun _ => hchecked) fun _ => hchecked
    exact .ite (fun _ => hkeyed) fun _ => .bind fun _ => hkeyed
  exact .ite (fun _ => .bind fun _ => hnamed) fun _ => hnamed

instance : Collects held (classMember g) fun t => t :: held := by
  refine .bind fun _ => .bind fun _ => .bind fun _ => .ite (fun _ => ?_) fun _ => ?_
  · exact .bind fun _ => .pure (by simp)
  · refine .bind fun _ => .bind fun _ => .ite (fun _ => ?_) fun _ => inferInstance
    exact .bind fun _ => .bind fun _ => .pure (by simp)

instance : Collects held (classMembers g) fun ts => ts ++ held := by
  refine .bind fun _ => .loop (a := ([], false)) (fun r : List Tree × Bool => r.1 ++ held) fun r => ?_
  obtain ⟨done, hasConstructor⟩ := r
  refine .bind fun _ => .ite (fun _ => .pure (by simp)) fun _ => .bind fun _ => ?_
  refine .ite (fun _ => .pure (by simp)) fun _ => .bind fun _ => .bind fun m => ?_
  exact .ite (fun _ => .bind fun _ => .pure (by simp)) fun _ => .pure (by simp)

instance : Moves (superTypes.superType g) := by
  unfold superTypes.superType
  infer_instance

instance : Collects held (superTypes g) fun t => t :: held :=
  .bind fun _ => .bind fun _ => .pure (by simp)

instance (declared isAbstract : Bool) :
    Collects held (classTree g declared isAbstract) fun t => t :: held := by
  refine .bind fun _ => .bind fun t => .bind fun s => ?_
  extract_lets types isNamed named
  have hnamed (name : Tree) : Collects (name :: held) (named name) fun t => t :: held := by
    refine .bind fun typeParams => .bind fun _ => ?_
    extract_lets based
    have hbased (base baseArgs : Tree) : Collects (baseArgs :: base :: typeParams :: name :: held)
        (based (base, baseArgs)) fun t => t :: held := by
      refine .bind fun _ => ?_
      extract_lets joined
      have hjoined (interfaces : Tree) :
          Collects (interfaces :: baseArgs :: base :: typeParams :: name :: held)
            (joined interfaces) fun t => t :: held :=
        .bind fun members => .pure (by simp +arith)
      exact .ite (fun _ => .bind hjoined) fun _ => .of_more (hjoined _) (by simp)
    refine .ite (fun _ => .bind fun base => ?_) fun _ => .of_more (hbased _ _) (by simp)
    split
    · exact .of_more (hbased _ _) (by simp +arith)
    · exact .ite (fun _ => .bind (hbased _)) fun _ => .of_more (hbased _ _) (by simp)
  exact .ite (fun _ => .bind hnamed) fun _ => .of_more (hnamed _) (by simp)

end Grammar
end StaticContext.Script
