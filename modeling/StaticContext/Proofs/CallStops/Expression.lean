import StaticContext.Proofs.CallStops.Operand

/-! # Calls in expressions -/

namespace StaticContext.Script.Grammar
open Reads Script.Tree ReadState

variable {g : Grammar} [g.Collecting] {held : List Tree}

/-! ## Unary operators -/

instance (t : Tree) (start : Nat) : Moves (checkTarget t start) := by
  unfold checkTarget
  infer_instance

instance : Moves awaitIsWord := by
  unfold awaitIsWord
  infer_instance

instance : Collects held (operandTree g) fun t => t :: held := by
  refine .bind fun t => .bind fun _ => .bind fun _ => .ite (fun _ => ?unary) fun _ => ?_
  case unary =>
    refine .bind fun _ => .bind fun _ => .bind fun e => ?_
    extract_lets operated
    have hoperated : Collects (e :: held) (operated ()) fun t => t :: held := .pure (by simp)
    refine .ite (fun _ => ?_) fun _ => hoperated
    split
    · exact .bind fun _ => hoperated
    · exact hoperated
  refine .bind fun _ => .ite (fun _ => ?update) fun _ => .bind fun _ => .ite (fun _ => ?await) fun _ => ?_
  case update => exact .bind fun _ => .bind fun _ => .bind fun e => .bind fun _ => .pure (by simp)
  case await => exact .bind fun _ => .bind fun e => .pure (by simp)
  refine .bind fun _ => .ite (fun _ => ?assertion) fun _ => .bind fun e => .bind fun _ => ?_
  case assertion =>
    refine .bind fun _ => .bind fun _ => .bind fun _ => .ite (fun _ => ?_) fun _ => ?_
    · exact .bind fun _ => .bind fun _ => .bind fun e => .pure (by simp)
    · exact .bind fun _ => .bind fun _ => .bind fun e => .pure (by simp)
  exact .ite (fun _ => .bind fun _ => .bind fun _ => .pure (by simp)) fun _ => .pure fun _ => le_rfl

/-! ## Binary operators -/

instance : Collects held operator? fun _ => held := by
  refine ⟨fun first scope s hs => ensures_bind.mpr (ensures_atMark.mpr ?_)⟩
  extract_lets found
  have hfound : Collects held (found ()) fun _ => held := by
    refine .bind fun t => ?_
    split
    · infer_instance
    · infer_instance
    · infer_instance
  refine ensures_ite.mpr ⟨fun h => ?_, fun _ => hfound.ensures first scope s hs⟩
  exact (ensures_reread_holds hs (Token.isRight_of_isMark h) greaterMark_fits).bind
    fun _ s hs => hfound.ensures first scope s hs

instance (operator : String) (side : Tree) (start : Nat) :
    Moves (checkCoalesced operator side start) := by
  unfold checkCoalesced
  infer_instance

/-- Trees of operations that wait and the operand at hand. -/
def Operands.trees (r : Operands) : List Tree := r.2.1 :: r.1.map (·.left)

instance (p : Pending) (right : Tree) (start : Nat) :
    Collects (right :: p.left :: held) (p.complete right start) fun t => t :: held :=
  .bind fun _ => .bind fun _ => .pure (by simp +arith)

theorem settle_collects (rank : Nat) (pending : List Pending) (right : Tree) (start : Nat) :
    Collects (Operands.trees (pending, right, start) ++ held) (settle rank pending right start)
      fun r => r.trees ++ held := by
  induction pending generalizing right start with
  | nil => exact .pure fun _ => le_rfl
  | cons p below ih =>
    refine .ite (fun _ => ?_) fun _ => .pure fun _ => le_rfl
    have hcomplete : Collects (right :: p.left :: (below.map (·.left) ++ held))
        (p.complete right start) fun t => t :: (below.map (·.left) ++ held) :=
      inferInstance
    exact .bind (h := hcomplete) fun t => ih t p.start

instance : Collects held (firstOperand g) fun t => t :: held :=
  .bind fun _ => .bind fun _ => .bind fun _ => .bind fun _ => .ite
    (fun _ => .bind fun _ => .bind fun _ => .pure (by simp)) fun _ => inferInstance

theorem operationTree_collects (operator : String) (pending : List Pending) (left : Tree)
    (start : Nat) : Collects (Operands.trees (pending, left, start) ++ held)
      (operationTree g operator pending left start) fun r => r.trees ++ held := by
  unfold operationTree
  extract_lets rank
  refine .bind (h := settle_collects rank pending left start) fun ⟨pending, left, start⟩ => ?_
  refine .bind fun _ => .bind fun _ => ?_
  extract_lets taken
  have htaken : Collects (Operands.trees (pending, left, start) ++ held) (taken ())
      fun r => r.trees ++ held :=
    .bind fun right => .pure (by simp +arith [Operands.trees])
  exact .ite (fun _ => .bind fun _ => htaken) fun _ => htaken

instance : Collects held (binaryTree g) fun t => t :: held := by
  refine .bind fun _ => .bind fun first => .ite (fun _ => .pure fun _ => le_rfl) fun _ => ?_
  refine .loop (a := ([], first, _)) (fun r : Operands => r.trees ++ held) fun r => ?_
  obtain ⟨pending, e, start⟩ := r
  refine .bind fun t => .bind fun _ => ?_
  extract_lets operated
  have hoperated : Collects (Operands.trees (pending, e, start) ++ held) (operated ())
      (Sum.elim (fun r : Operands => r.trees ++ held) fun t => t :: held) := by
    refine .bind fun o => ?_
    cases o with
    | none =>
      exact .bind (h := settle_collects 0 pending e start) fun r => .pure (by simp [Operands.trees])
    | some op =>
      exact .bind (h := operationTree_collects op pending e start) fun r => .pure fun _ => le_rfl
  refine .ite (fun _ => ?_) fun _ => hoperated
  refine .ite (fun _ => .bind fun _ => ?_) fun _ => .ite (fun _ => .bind fun _ => ?_) fun _ => hoperated
  · refine .bind (h := settle_collects relationRank pending e start) fun ⟨pending, e, start⟩ => ?_
    refine .bind fun _ => .ite (fun _ => ?_) fun _ => .bind fun _ => ?_
    · exact .pure (by simp [Operands.trees])
    · exact .pure (by simp [Operands.trees])
  · refine .bind (h := settle_collects relationRank pending e start) fun ⟨pending, e, start⟩ => ?_
    exact .bind fun _ => .pure (by simp [Operands.trees])

instance : Collects held (conditionalTree g) fun t => t :: held := by
  refine .bind fun test => .ite (fun _ => .pure fun _ => le_rfl) fun _ => .bind fun _ => ?_
  refine .ite (fun _ => .bind fun yes => .bind fun _ => .bind fun no => ?_)
    fun _ => .pure fun _ => le_rfl
  exact .pure (by simp +arith)

/-! ## Assignments -/

instance (operator : String) (start : Nat) (e : Tree) :
    Collects (e :: held) (toTarget operator start e) fun t => t :: held := by
  refine .ite (fun _ => .pure fun _ => le_rfl) fun _ => ?_
  extract_lets noted
  have hnoted : Collects (e :: held) (noted ()) fun t => t :: held :=
    .bind fun _ => .pure fun _ => le_rfl
  refine .ite (fun _ => ?_) fun _ => hnoted
  split
  · next hp => exact .pure (by simp [calls_toPattern? hp])
  · exact hnoted

instance : Collects held (yieldTree g) fun t => t :: held :=
  .bind fun _ => .bind fun _ => .ite (fun _ => .pure (by simp)) fun _ => .bind fun _ =>
    .bind fun _ => .pure (by simp)

instance : Collects held (plainAssignment g) fun t => t :: held := by
  refine .bind fun _ => .bind fun _ => .ite (fun _ => inferInstance) fun _ => .bind fun _ => ?_
  refine .bind fun e => .ite (fun _ => .pure fun _ => le_rfl) fun _ => .bind fun _ => .bind fun _ => ?_
  refine .ite (fun _ => .bind fun target => .bind fun _ => .bind fun value => ?_)
    fun _ => .pure fun _ => le_rfl
  exact .pure (by simp +arith)

instance : Collects held (assignmentTree g) fun t => t :: held := by
  refine .bind fun _ => .bind fun _ => .ite (fun _ => ?_) fun _ => inferInstance
  extract_lets headed
  have hheaded : Collects held (headed ()) fun t => t :: held :=
    .bind fun _ => .ite (fun _ => inferInstance) fun _ => .ite (fun _ => .bind fun _ => .unexpected)
      fun _ => inferInstance
  refine .ite (fun _ => .bind fun o => ?_) fun _ => hheaded
  cases o with
  | some e => exact .pure (by simp)
  | none => exact hheaded

instance : Collects held (expressionTree g) fun t => t :: held := by
  refine .bind fun first => .bind fun _ => .ite (fun _ => ?_) fun _ => .pure fun _ => le_rfl
  refine .loop (a := [first]) (fun done => done ++ held) fun done => .bind fun _ => ?_
  refine .ite (fun _ => ?_) fun _ => ?_
  · exact .bind fun e => .pure (by simp)
  · exact .pure (by simp)

end StaticContext.Script.Grammar
