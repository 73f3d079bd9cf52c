import StaticContext.Proofs.CallStops.Expression

/-! # Calls in statements -/

namespace StaticContext.Script.Grammar
open Reads Script.Tree ReadState

variable {g : Grammar} [g.Collecting] {held : List Tree}

/-! ## Variables -/

instance (kind : VariableKind) (isLoopHead : Bool) :
    Collects held (declarator g kind isLoopHead) fun t => t :: held := by
  refine .bind fun start => .bind fun p => .bind fun _ => ?_
  extract_lets ascribed
  have hascribed (isDefinite : Bool) : Collects (p :: held) (ascribed isDefinite) fun t => t :: held := by
    refine .bind fun type => .bind fun _ => .of_more ?_ (covers_typed p false type)
    refine .ite (fun _ => .bind fun value => .pure (by simp +arith)) fun _ => .bind fun _ => ?_
    extract_lets bare
    have hbare : Collects (typed p false type :: held) (bare ()) fun t => t :: held := .pure (by simp)
    refine .ite (fun _ => hbare) fun _ => .ite (fun _ => .bind fun _ => hbare) fun _ => ?_
    exact .ite (fun _ => .bind fun _ => hbare) fun _ => hbare
  exact .ite (fun _ => .bind fun _ => hascribed _) fun _ => hascribed _

instance (declared isLoopHead : Bool) :
    Collects held (declarators g declared isLoopHead) fun t => t :: held := by
  refine .bind fun _ => .bind fun first => .bind (k := fun ts => ts ++ held) (h := ?_) fun ts =>
    .pure (by simp)
  refine .loop (a := [first]) (fun done => done ++ held) fun done => .bind fun _ => ?_
  refine .ite (fun _ => ?_) fun _ => ?_
  · exact .bind fun t => .pure (by simp)
  · exact .pure (by simp)

instance : Moves skipStatement := by
  refine moves_loop (h := fun _ => .bind fun _ => .ite (fun _ => inferInstance) fun _ => ?_)
  refine .bind fun _ => .bind fun t => ?_
  split <;> infer_instance

instance (declared : Bool) : Collects held (variableStatement g declared) fun t => t :: held := by
  refine .bind fun t => .bind fun _ => .ite (fun _ => .pure fun _ => le_rfl) fun _ => ?_
  exact .bind fun _ => .bind fun _ => .bind fun _ => .bind fun _ => .pure (by simp)

instance : Moves atLet := by
  unfold atLet
  infer_instance

/-! ## Control -/

instance : Collects held (parenthesized g) fun t => t :: held :=
  .bind fun _ => .bind fun _ => .bind fun _ => .pure fun _ => le_rfl

instance : Collects held (ifTree g) fun t => t :: held := by
  refine .bind fun _ => .bind fun test => .bind fun yes => .bind fun _ => ?_
  extract_lets joined
  have hjoined (no : Tree) : Collects (no :: yes :: test :: held) (joined no) fun t => t :: held :=
    .pure (by simp +arith)
  exact .ite (fun _ => .bind hjoined) fun _ => .of_more (hjoined _) (by simp)

instance : Collects held (loopBody g) fun t => t :: held :=
  .withScope _

instance : Collects held (whileTree g) fun t => t :: held :=
  .bind fun _ => .bind fun _ => .bind fun _ => .pure (by simp +arith)

instance : Collects held (doTree g) fun t => t :: held :=
  .bind fun _ => .bind fun _ => .bind fun _ => .bind fun _ => .bind fun _ => .pure (by simp +arith)

theorem forRest_collects (first : Tree) (isAwait : Bool) :
    Collects (first :: held) (forRest g first isAwait) fun t => t :: held := by
  refine .bind fun _ => .ite (fun _ => ?forOf) fun _ => .bind fun _ => .ite (fun _ => ?forIn) fun _ => ?_
  case forOf => exact .bind fun _ => .bind fun _ => .bind fun _ => .pure (by simp +arith)
  case forIn => exact .bind fun _ => .bind fun _ => .bind fun _ => .pure (by simp +arith)
  refine .bind fun _ => .bind fun _ => ?_
  extract_lets tested
  have htested (test : Tree) : Collects (test :: first :: held) (tested test) fun t => t :: held := by
    refine .bind fun _ => .bind fun _ => ?_
    extract_lets stepped
    have hstepped (step : Tree) : Collects (step :: test :: first :: held) (stepped step)
        fun t => t :: held :=
      .bind fun _ => .bind fun _ => .pure (by simp +arith)
    exact .ite (fun _ => .of_more (hstepped _) (by simp)) fun _ => .bind hstepped
  exact .ite (fun _ => .of_more (htested _) (by simp)) fun _ => .bind htested

instance : Collects held (forTree g) fun t => t :: held := by
  refine .bind fun _ => .bind fun _ => .bind fun _ => .bind fun _ => .ite (fun _ => ?_) fun _ => ?_
  · exact .of_more (forRest_collects _ _) (by simp)
  refine .bind fun _ => .bind fun _ => ?_
  extract_lets declares
  refine .bind (h := .withScope (h := .ite (fun _ => inferInstance) fun _ => ?_) _) fun first =>
    forRest_collects first _
  exact .bind fun _ => .bind fun _ => .bind fun _ => .ite (fun _ => inferInstance)
    fun _ => .pure fun _ => le_rfl

instance (hasDefault : Bool) : Collects held (caseTest g hasDefault) fun t => t :: held := by
  refine .bind fun _ => .ite (fun _ => ?_) fun _ => .bind fun _ => inferInstance
  exact .ite (fun _ => .bind fun _ => .bind fun _ => .pure (by simp)) fun _ => .pure (by simp)

instance (hasDefault : Bool) : Collects held (switchCase g hasDefault) fun t => t :: held :=
  .bind fun _ => .bind fun _ => .bind fun _ => .pure (by simp +arith)

instance : Collects held (switchCases g) fun ts => ts ++ held := by
  unfold switchCases
  refine .loop (a := []) (fun done => done ++ held) fun done => ?_
  refine .bind fun _ => .ite (fun _ => .pure (by simp)) fun _ => ?_
  exact .bind fun t => .pure (by simp)

instance : Collects held (switchTree g) fun t => t :: held :=
  .bind fun _ => .bind fun _ => .bind fun _ => .bind fun _ => .bind fun _ => .pure (by simp +arith)

instance : Collects held (catchTree g) fun t => t :: held := by
  refine .bind fun _ => ?_
  extract_lets caught
  have hcaught (param : Tree) : Collects (param :: held) (caught param) fun t => t :: held :=
    .bind fun _ => .pure (by simp +arith)
  refine .ite (fun _ => .bind fun p => .bind fun type => ?_) fun _ => .of_more (hcaught _) (by simp)
  exact .of_more (.bind fun _ => hcaught _) (covers_typed p false type)

instance : Collects held (tryTree g) fun t => t :: held := by
  refine .bind fun _ => .bind fun _ => .bind fun body => .bind fun _ => ?_
  extract_lets handled
  have hhandled (handler : Tree) : Collects (handler :: body :: held) (handled handler)
      fun t => t :: held := by
    refine .bind fun _ => ?_
    extract_lets finished
    have hfinished (final : Tree) : Collects (final :: handler :: body :: held) (finished final)
        fun t => t :: held :=
      .ite (fun _ => .bind fun _ => .pure (by simp +arith)) fun _ => .pure (by simp +arith)
    exact .ite (fun _ => .bind hfinished) fun _ => .of_more (hfinished _) (by simp)
  exact .ite (fun _ => .bind hhandled) fun _ => .of_more (hhandled _) (by simp)

instance : Moves jumpTarget := by
  refine .bind fun t => ?_
  split <;> infer_instance

instance : Collects held breakTree fun t => t :: held := by
  refine .bind fun _ => .bind fun target => .bind fun _ => ?_
  extract_lets ended
  have hended : Collects held (ended ()) fun t => t :: held := .bind fun _ => .pure (by simp)
  split
  · exact .ite (fun _ => hended) fun _ => .bind fun _ => hended
  · exact .ite (fun _ => hended) fun _ => .bind fun _ => hended

instance : Collects held continueTree fun t => t :: held := by
  refine .bind fun _ => .bind fun target => .bind fun _ => ?_
  extract_lets ended
  have hended : Collects held (ended ()) fun t => t :: held := .bind fun _ => .pure (by simp)
  refine .ite (fun _ => .bind fun _ => hended) fun _ => ?_
  split
  · exact .ite (fun _ => hended) fun _ => .bind fun _ => hended
  · exact hended

instance : Collects held (returnTree g) fun t => t :: held := by
  refine .bind fun _ => .bind fun _ => ?_
  extract_lets ended valued
  have hended (value : Tree) : Collects (value :: held) (ended value) fun t => t :: held :=
    .bind fun _ => .pure (by simp)
  have hvalued : Collects held (valued ()) fun t => t :: held :=
    .bind fun _ => .ite (fun _ => .of_more (hended _) (by simp)) fun _ => .bind hended
  exact .ite (fun _ => hvalued) fun _ => .bind fun _ => hvalued

instance : Collects held (throwTree g) fun t => t :: held := by
  refine .bind fun _ => .bind fun _ => ?_
  extract_lets valued
  have hvalued : Collects held (valued ()) fun t => t :: held :=
    .bind fun _ => .bind fun _ => .pure (by simp)
  exact .ite (fun _ => .bind fun _ => .bind fun _ => hvalued) fun _ => hvalued

instance : Collects held (withTree g) fun t => t :: held :=
  .bind fun _ => .bind fun _ => .bind fun _ => .bind fun _ => .pure (by simp +arith)

instance : Collects held (labeledTree g) fun t => t :: held := by
  refine .bind fun _ => .bind fun name => .bind fun _ => ?_
  extract_lets word labeled
  have hlabeled : Collects (name :: held) (labeled ()) fun t => t :: held :=
    .bind fun _ => .pure (by simp)
  exact .bind fun _ => .ite (fun _ => .bind fun _ => hlabeled) fun _ => hlabeled

instance : Collects held (expressionStatement g) fun t => t :: held := by
  refine .bind fun e => .bind fun _ => ?_
  exact .ite (fun _ => .pure (by simp)) fun _ => .bind fun _ => .pure (by simp)

/-! ## Declarations of typed code -/

instance (declared : Bool) : Collects held (typeAliasTree g declared) fun t => t :: held :=
  .bind fun _ => .bind fun _ => .bind fun _ => .bind fun _ => .bind fun _ => .bind fun _ =>
    .pure (by simp)

instance (declared : Bool) : Collects held (interfaceTree g declared) fun t => t :: held := by
  refine .bind fun _ => .bind fun _ => .bind fun _ => .bind fun _ => ?_
  extract_lets based
  have hbased (bases : Tree) : Collects held (based bases) fun t => t :: held :=
    .bind fun _ => .pure (by simp)
  exact .ite (fun _ => .bind fun _ => .of_more (hbased _) (by simp +arith))
    fun _ => .of_more (hbased _) (by simp)

instance : Collects held (enumMember g) fun t => t :: held := by
  refine .bind fun k => .bind fun _ => ?_
  extract_lets valued
  have hvalued (value : Tree) : Collects (value :: k :: held) (valued value) fun t => t :: held :=
    .pure (by simp +arith)
  exact .ite (fun _ => .bind hvalued) fun _ => .of_more (hvalued _) (by simp)

instance (declared isConst : Bool) : Collects held (enumTree g declared isConst) fun t => t :: held :=
  .bind fun _ => .bind fun _ => .bind fun _ => .bind fun _ => .pure (by simp)

instance (declared : Bool) : Collects held (namespaceTree g declared) fun t => t :: held := by
  refine .bind fun word => .bind fun t => ?_
  extract_lets opened
  have hopened (opener : String) : Collects held (opened opener) fun t => t :: held := by
    refine .bind fun _ => .ite (fun _ => .bind fun _ => .pure (by simp)) fun _ => ?_
    exact .bind fun _ => .bind fun items => .bind fun _ => .pure (by simp)
  refine .ite (fun _ => hopened _) fun _ => ?_
  split
  · exact .bind fun _ => hopened _
  · exact .bind fun _ => hopened _

instance (declared : Bool) : Collects held (typedDeclaration? g declared) fun o => o.toList ++ held := by
  have hsome {r : Reads Tree} [Collects held r fun t => t :: held] :
      Collects held (do return some (← r)) fun o => o.toList ++ held :=
    .bind fun _ => .pure (by simp)
  refine .bind fun _ => .ite (fun _ => .bind fun _ => .bind fun _ => ?_) fun _ => .pure (by simp)
  extract_lets namesNext
  refine .ite (fun _ => hsome) fun _ => .ite (fun _ => hsome) fun _ => .ite (fun _ => hsome) fun _ => ?_
  refine .ite (fun _ => .bind fun _ => hsome) fun _ => .ite (fun _ => .bind fun _ => hsome) fun _ => ?_
  refine .ite (fun _ => hsome) fun _ => .ite (fun _ => hsome) fun _ => .pure (by simp)

instance : Collects held (ambientTree g) fun t => t :: held := by
  refine .bind fun _ => .withScope (h := .bind fun o => ?_) _
  cases o with
  | some t => exact .pure (by simp)
  | none =>
    refine .bind fun _ => .ite (fun _ => inferInstance) fun _ => .bind fun _ => ?_
    exact .ite (fun _ => inferInstance) fun _ => .bind fun _ => inferInstance

instance : Collects held (statementTree g) fun t => t :: held := by
  refine .bind fun t => .ite (fun _ => inferInstance) fun _ => ?_
  refine .ite (fun _ => .bind fun _ => .pure (by simp)) fun _ => .bind fun o => ?_
  cases o with
  | some t => exact .pure (by simp)
  | none =>
    dsimp -zeta only
    split
    swap
    · infer_instance
    next word _ =>
    split
    case h_16 => exact .bind fun _ => .bind fun _ => .pure (by simp)
    case h_17 =>
      refine .bind fun _ => .bind fun _ => .ite (fun _ => inferInstance) fun _ => .bind fun _ => ?_
      refine .ite (fun _ => .bind fun _ => inferInstance) fun _ => ?_
      extract_lets isDynamic plain
      have hplain : Collects held (plain ()) fun t => t :: held :=
        .bind fun _ => .ite (fun _ => inferInstance) fun _ => .ite (fun _ => inferInstance)
          fun _ => inferInstance
      exact .ite (fun _ => .bind fun _ => hplain) fun _ => hplain
    all_goals infer_instance

end StaticContext.Script.Grammar
