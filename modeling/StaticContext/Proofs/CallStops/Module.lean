import StaticContext.Proofs.CallStops.Statement
import StaticContext.Script.Parse

/-! # Calls in whole scripts -/

namespace StaticContext.Script
open Reads Script.Tree ReadState

namespace Grammar

variable {g : Grammar} [g.Collecting] {held : List Tree}

/-! ## Names of modules -/

instance : Collects held moduleSource fun t => t :: held := by
  refine .bind fun t => ?_
  split
  · exact .bind fun _ => .pure (by simp)
  · exact .unexpected

instance : Collects held (moduleAttributes g) fun t => t :: held :=
  .bind fun _ => .ite (fun _ => .bind fun _ => inferInstance) fun _ => .pure (by simp)

instance : Collects held moduleName fun t => t :: held := by
  refine .bind fun t => ?_
  split
  · exact .bind fun _ => .pure (by simp)
  · exact .bind fun _ => .pure (by simp)

instance : Moves eatTypeMark := by
  refine .bind fun _ => .bind fun _ => .ite (fun _ => .bind fun next => ?_) fun _ => inferInstance
  refine .ite (fun _ => ?_) fun _ => inferInstance
  extract_lets marked
  have (marks : Bool) : Moves (marked marks) := by
    unfold marked
    infer_instance
  infer_instance

/-! ## Imports -/

instance : Collects held importSpecifier fun t => t :: held := by
  refine .bind fun typeOnly => .bind fun t => .bind fun imported => .bind fun _ => ?_
  refine .ite (fun _ => .bind fun name => .pure (by simp +arith)) fun _ => ?_
  split
  · exact .bind fun _ => .pure (by simp)
  · exact .failAt

instance : Collects held importSpecifiers fun ts => ts ++ held := by
  unfold importSpecifiers
  extract_lets named
  have hnamed (held : List Tree) : Collects held named fun ts => ts ++ held := by
    refine .bind fun _ => .ite (fun _ => .bind fun _ => .bind fun t => ?_) fun _ => ?_
    · split <;> exact .pure (by simp)
    · exact .bind fun _ => inferInstance
  refine .bind fun _ => .bind fun _ => .ite (fun _ => hnamed _) fun _ => .bind fun t => ?_
  split
  · refine .bind fun _ => .ite (fun _ => .bind (h := hnamed _) fun ts => ?_) fun _ => .pure (by simp)
    exact .pure (by simp)
  · exact .pure (by simp)

instance (exported typeOnly : Bool) :
    Collects held (importEqualsTree exported typeOnly) fun t => t :: held := by
  refine .bind fun name => .bind fun _ => .bind fun _ => .bind fun _ => ?_
  extract_lets targeted
  have htargeted (target : Tree) : Collects (target :: held) (targeted target) fun t => t :: held :=
    .bind fun _ => .pure (by simp)
  refine .ite (fun _ => .bind fun _ => .bind fun _ => .bind fun source => .bind fun _ => ?_) fun _ => ?_
  · exact .of_more (htargeted _) (by simp)
  · exact .bind fun _ => .of_more (htargeted _) (by simp)

instance : Collects held (importTree g) fun t => t :: held := by
  refine .bind fun _ => .bind fun t => ?_
  split
  · exact .bind fun _ => .bind fun _ => .bind fun _ => .pure (by simp +arith)
  refine .bind fun _ => .bind fun _ => .bind fun _ => ?_
  extract_lets typeOnly specified
  have hspecified : Collects held (specified ()) fun t => t :: held := by
    refine .bind fun _ => .bind fun _ => .ite (fun _ => inferInstance) fun _ => ?_
    refine .bind fun specifiers => .bind fun _ => .bind fun source => .bind fun attributes => ?_
    exact .bind fun _ => .pure (by simp +arith)
  exact .ite (fun _ => .bind fun _ => hspecified) fun _ => hspecified

/-! ## Exports -/

instance : Collects held exportSpecifier fun t => t :: held := by
  refine .bind fun typeOnly => .bind fun name => .bind fun _ => ?_
  extract_lets exported
  have hexported (other : Tree) : Collects (other :: name :: held) (exported other) fun t => t :: held :=
    .pure (by simp +arith)
  exact .ite (fun _ => .bind hexported) fun _ => .of_more (hexported _) (by simp)

instance : Collects held (exportFrom g) fun r => r.1 :: r.2 :: held :=
  .bind fun _ => .bind fun _ => .bind fun _ => .bind fun _ => .pure (by simp +arith)

instance (typeOnly : Bool) : Collects held (exportNamesTree g typeOnly) fun t => t :: held := by
  refine .bind fun _ => .bind fun specifiers => .bind fun _ => .ite (fun _ => ?_) fun _ => ?_
  · exact .bind fun r => .pure (by simp +arith)
  · exact .bind fun _ => .pure (by simp)

instance (typeOnly : Bool) : Collects held (exportAllTree g typeOnly) fun t => t :: held := by
  refine .bind fun _ => .bind fun _ => .ite (fun _ => .bind fun name => .bind fun r => ?_) fun _ => ?_
  · exact .pure (by simp +arith)
  · exact .bind fun r => .pure (by simp +arith)

instance : Collects held (exportDefaultTree g) fun t => t :: held := by
  have hdefault {r : Reads Tree} [Collects held r fun t => t :: held] :
      Collects held (do return .node .exportDefault [← r]) fun t => t :: held :=
    .bind fun _ => .pure (by simp)
  refine .bind fun _ => .bind fun _ => .bind fun _ => .ite (fun _ => hdefault) fun _ => ?_
  refine .bind fun _ => .ite (fun _ => .bind fun _ => hdefault) fun _ => ?_
  refine .bind fun _ => .ite (fun _ => hdefault) fun _ => .bind fun _ => .bind fun _ => ?_
  refine .ite (fun _ => .bind fun _ => hdefault) fun _ => .bind fun _ => .bind fun _ => ?_
  exact .ite (fun _ => hdefault) fun _ => .bind fun _ => .bind fun _ => .pure (by simp)

instance : Collects held (exportTree g) fun t => t :: held := by
  refine .bind fun _ => .bind fun _ => .bind fun _ => .ite (fun _ => inferInstance) fun _ => ?_
  refine .bind fun _ => .ite (fun _ => inferInstance) fun _ => .bind fun _ => ?_
  refine .ite (fun _ => inferInstance) fun _ => ?_
  extract_lets declared exported
  have hdeclared : Collects held (declared ()) fun t => t :: held :=
    .bind fun _ => .pure (by simp)
  have hexported : Collects held (exported ()) fun t => t :: held := by
    refine .bind fun _ => .bind fun _ => .bind fun _ => .bind fun _ => ?_
    exact .ite (fun _ => hdeclared) fun _ => .bind fun _ => hdeclared
  refine .ite (fun _ => .bind fun _ => .ite (fun _ => ?_) fun _ => ?_) fun _ => hexported
  · exact .bind fun _ => .bind fun _ => .pure (by simp)
  refine .bind fun _ => .bind fun _ => .ite (fun _ => .bind fun _ => .bind fun _ => ?_) fun _ => ?_
  · exact .ite (fun _ => inferInstance) fun _ => inferInstance
  refine .bind fun _ => .ite (fun _ => ?_) fun _ => .bind fun _ => .ite (fun _ => ?_) fun _ => hexported
  · exact .bind fun _ => .bind fun _ => .bind fun _ => .bind fun _ => .pure (by simp)
  · exact .bind fun _ => inferInstance

instance : Collects held (itemTree g) fun t => t :: held := by
  refine .bind fun _ => .ite (fun _ => .bind fun _ => ?_) fun _ => .bind fun _ => ?_
  · exact .ite (fun _ => inferInstance) fun _ => inferInstance
  · exact .ite (fun _ => inferInstance) fun _ => inferInstance

/-! ## Whole grammars -/

instance : (deeper g).Collecting where
  item held := inferInstanceAs (Collects held (itemTree g) _)
  statement held := inferInstanceAs (Collects held (statementTree g) _)
  assignment held := inferInstanceAs (Collects held (assignmentTree g) _)
  expression held := inferInstanceAs (Collects held (expressionTree g) _)
  operand held := inferInstanceAs (Collects held (operandTree g) _)
  leftSide held := inferInstanceAs (Collects held (leftSideTree g) _)
  binding held := inferInstanceAs (Collects held (bindingTarget g) _)
  type := inferInstanceAs (Moves (typeExpression g))
  plainType := inferInstanceAs (Moves (plainTypeTree g))
  element _ _ _ _ hs := elementTree_holds hs

instance : exhausted.Collecting where
  item _ := .fail
  statement _ := .fail
  assignment _ := .fail
  expression _ := .fail
  operand _ := .fail
  leftSide _ := .fail
  binding _ := .fail
  type := ⟨fun _ _ _ => ensures_fail⟩
  plainType := ⟨fun _ _ _ => ensures_fail⟩
  element _ _ _ _ _ := ensures_fail

theorem toDepth_collecting (n : Nat) (h : g.Collecting) : (toDepth n g).Collecting := by
  induction n generalizing g with
  | zero => exact h
  | succ n ih => exact ih inferInstance

end Grammar

/-! ## Whole scripts -/

theorem ReadState.steady_start (c : Cursor) : (ReadState.start c).Steady :=
  steady_fill (.inl le_rfl)

instance {g : Grammar} [g.Collecting] {held : List Tree} :
    Collects held (Program.items g) fun ts => ts ++ held :=
  .many

/-- No two calls of a script stop at the same byte. -/
theorem Program.callStops_nodup {dialect : Dialect} {text : List Char} {program : Program}
    (h : parse dialect text = .ok program) :
    ((Splice.callSpansAll program.body).map Span.stop).Nodup := by
  rw [parse] at h
  have hg (n : Nat) : (Grammar.toDepth n .exhausted).Collecting :=
    Grammar.toDepth_collecting n inferInstance
  split at h
  · cases h
  · next body s hbody =>
    split at h <;> cases h
    have hbody := Collects.ensures _ _ _ (steady_start _).holds body s hbody
    refine List.nodup_iff_count_le_one.mpr fun stop => ?_
    have honce := hbody.calls.once stop
    rw [List.append_nil, callsAll] at honce
    rw [List.count_eq_countP, List.countP_map]
    exact honce

/-- No two calls of a script have a span in common. -/
theorem Program.callSpans_nodup {dialect : Dialect} {text : List Char} {program : Program}
    (h : parse dialect text = .ok program) : (Splice.callSpansAll program.body).Nodup :=
  .of_map Span.stop (callStops_nodup h)

end StaticContext.Script
