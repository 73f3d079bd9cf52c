import StaticContext.Proofs.Grammar.Expression
import StaticContext.Script.Grammar.Statement

/-! # Statements keep to the text -/

namespace StaticContext.Script.Grammar
open Reads Script.Tree ReadState

variable {text : List Char} {g : Grammar} [g.Faithful text] {scope : Scope} {s : ReadState}

/-! ## Variables -/

instance (kind : VariableKind) (isLoopHead : Bool) :
    Keeps text (declarator g kind isLoopHead) (Tree.Faithful text) := by
  refine .bind fun start _ => .bind fun p hp => .bind fun _ _ => ?_
  extract_lets ascribed
  have hascribed (isDefinite : Bool) : Keeps text (ascribed isDefinite) (Tree.Faithful text) := by
    refine .bind fun type htype => .bind fun _ _ => ?_
    have htarget : (typed p false type).Faithful text := faithful_typed hp htype
    refine .ite (fun _ => .bind fun value hvalue => ?_) fun _ => .bind fun _ _ => ?_
    · exact .pure (faithful_node rfl (by simp [htarget, hvalue]))
    extract_lets bare
    have hbare : Keeps text (bare ()) (Tree.Faithful text) :=
      .pure (faithful_node rfl (by simp [htarget, absent, faithful_leaf]))
    refine .ite (fun _ => hbare) fun _ => .ite (fun _ => .bind fun _ _ => hbare) fun _ => ?_
    exact .ite (fun _ => .bind fun _ _ => hbare) fun _ => hbare
  exact .ite (fun _ => .bind fun _ _ => hascribed _) fun _ => hascribed _

/-- Declarators stand behind their word. -/
theorem declarators_ensures (hs : s.Sited text) (hright : s.token.kind.isRight)
    (declared isLoopHead : Bool) : Ensures (declarators g declared isLoopHead) scope s fun t s' =>
      s'.Sited text ∧ t.Faithful text := by
  refine .take hs hright fun hs => .step hs fun first s' hs hfirst => ?_
  refine (Keeps.bind (P := fun ts : List Tree => ∀ t ∈ ts, t.Faithful text)
    (h := .loop (fun done => ∀ t ∈ done, t.Faithful text) (List.forall_mem_singleton.mpr hfirst)
      fun done hdone => ?_) fun _ hts => .pure (faithful_node rfl hts)).ensures _ _ hs
  refine .bind fun _ _ => .ite (fun _ => .bind fun t ht => ?_) fun _ => ?_
  · exact .pure (List.forall_mem_cons.mpr ⟨ht, hdone⟩)
  · exact .pure fun t ht => hdone t (List.mem_reverse.mp ht)

/-- Where a statement ends the place is right again, whatever was skipped. -/
theorem eatSemicolon_ensures (hs : s.Placed text) : Ensures eatSemicolon scope s fun b s' =>
    s'.Placed text ∧ (b → s'.Sited text) := by
  refine ensures_bind.mpr (ensures_eatMark.mpr ⟨fun h => ?_, fun h => ?_⟩)
  · have hs := hs.sited_advanced (Token.isRight_of_isMark h)
    exact ensures_pure.mpr ⟨hs.placed, fun _ => hs⟩
  · refine ensures_bind.mpr (ensures_current.mpr (ensures_pure.mpr ⟨hs, fun hend => ?_⟩))
    simp only [Bool.or_eq_true, decide_eq_true_eq, or_assoc] at hend
    exact hs.sited fun _ => hend.resolve_left h

/-- Tokens that are wrong in themselves may be skipped. -/
theorem skipStatement_ensures (hs : s.Placed text) :
    Ensures skipStatement scope s fun _ s' => s'.Sited text := by
  refine ensures_loop (fun _ s => s.Placed text) hs fun _ s hs => ?_
  refine (eatSemicolon_ensures hs).bind fun b s ⟨hs, hend⟩ => ensures_ite.mpr ⟨fun hb => ?_, fun _ => ?_⟩
  · exact ensures_pure.mpr (hend hb)
  refine ensures_bind.mpr (ensures_advance.mpr (ensures_bind.mpr (ensures_current.mpr ?_)))
  split
  · next hwrong =>
    refine ensures_pure.mpr (hs.advanced.sited fun hright => ?_)
    rw [hwrong] at hright
    cases hright
  · exact ensures_pure.mpr hs.advanced

theorem variableStatement_ensures (hs : s.Sited text) (hright : s.token.kind.isRight)
    (declared : Bool) : Ensures (variableStatement g declared) scope s fun t s' =>
      s'.Sited text ∧ t.Faithful text := by
  refine (declarators_ensures hs hright declared false).bind fun t s' ⟨hs, ht⟩ => ?_
  refine .step hs fun _ s' hs _ => ensures_ite.mpr ⟨fun _ => ensures_pure.mpr ⟨hs, ht⟩, fun _ => ?_⟩
  refine .step hs fun next s' hs _ => .step hs fun _ s' hs _ => .step hs fun _ s' hs _ => ?_
  exact (skipStatement_ensures hs.placed).bind fun _ s' hs => ensures_pure.mpr ⟨hs, ht⟩

theorem ensures_atLet {Q : Bool → ReadState → Prop}
    (h : ∀ b : Bool, (b → s.token.isWord "let") → Q b s) : Ensures atLet scope s Q := by
  refine ensures_bind.mpr (ensures_atWord.mpr (ensures_ite.mpr ⟨fun hlet => ?_, fun _ => ?_⟩))
  · exact ensures_bind.mpr (ensures_lookahead.mpr (ensures_pure.mpr (h _ fun _ => hlet)))
  · exact ensures_pure.mpr (h _ nofun)

instance : Keeps text atLet fun _ => True :=
  ⟨fun _ _ hs => ensures_atLet fun _ _ => ⟨hs, trivial⟩⟩

/-! ## Control -/

instance : Keeps text (parenthesized g) (Tree.Faithful text) :=
  .bind fun _ _ => .bind fun _ he => .bind fun _ _ => .pure he

instance : Keeps text (ifTree g) (Tree.Faithful text) := by
  refine .bind fun _ _ => .bind fun test htest => .bind fun yes hyes => .bind fun _ _ => ?_
  extract_lets ended
  have hended (no : Tree) (hno : no.Faithful text) : Keeps text (ended no) (Tree.Faithful text) :=
    .pure (faithful_node rfl (by simp [htest, hyes, hno]))
  exact .ite (fun _ => .bind hended) fun _ => hended _ (faithful_leaf _)

instance : Keeps text (loopBody g) (Tree.Faithful text) :=
  .withScope _

instance : Keeps text (whileTree g) (Tree.Faithful text) :=
  .bind fun _ _ => .bind fun test htest => .bind fun body hbody =>
    .pure (faithful_node rfl (by simp [htest, hbody]))

instance : Keeps text (doTree g) (Tree.Faithful text) :=
  .bind fun _ _ => .bind fun body hbody => .bind fun _ _ => .bind fun test htest =>
    .bind fun _ _ => .pure (faithful_node rfl (by simp [htest, hbody]))

theorem forRest_keeps {first : Tree} (h : first.Faithful text) (isAwait : Bool) :
    Keeps text (forRest g first isAwait) (Tree.Faithful text) := by
  refine .bind fun _ _ => .ite (fun _ => .bind fun values hvalues => .bind fun _ _ => ?_) fun _ => ?_
  · exact .bind fun body hbody => .pure (faithful_node rfl (by simp [h, hvalues, hbody]))
  refine .bind fun _ _ => .ite (fun _ => .bind fun object hobject => .bind fun _ _ => ?_) fun _ => ?_
  · exact .bind fun body hbody => .pure (faithful_node rfl (by simp [h, hobject, hbody]))
  refine .bind fun _ _ => .bind fun _ _ => ?_
  extract_lets tested
  have htested (test : Tree) (htest : test.Faithful text) :
      Keeps text (tested test) (Tree.Faithful text) := by
    refine .bind fun _ _ => .bind fun _ _ => ?_
    extract_lets stepped
    have hstepped (step : Tree) (hstep : step.Faithful text) :
        Keeps text (stepped step) (Tree.Faithful text) :=
      .bind fun _ _ => .bind fun body hbody =>
        .pure (faithful_node rfl (by simp [h, htest, hstep, hbody]))
    exact .ite (fun _ => hstepped _ (faithful_leaf _)) fun _ => .bind hstepped
  exact .ite (fun _ => htested _ (faithful_leaf _)) fun _ => .bind htested

instance : Keeps text (forTree g) (Tree.Faithful text) := by
  refine .bind fun _ _ => .bind fun isAwait _ => .bind fun _ _ => .bind fun _ _ => ?_
  refine .ite (fun _ => forRest_keeps (faithful_leaf _) _) fun _ => ⟨fun scope s hs => ?_⟩
  refine ensures_bind.mpr (ensures_atAnyWord.mpr (ensures_bind.mpr (ensures_atLet fun isLet hlet => ?_)))
  have hfirst (scope : Scope) : Ensures (if s.token.isAnyWord ["var", "const"] || isLet then
        declarators g false true
      else do
        let start := (← current).start
        let e ← g.expression
        if ← atAnyWord ["of", "in"] then toTarget "=" start e else return e) scope s fun t s' =>
          s'.Sited text ∧ t.Faithful text := by
    refine ensures_ite.mpr ⟨fun h => ?_, fun _ => .step hs fun start s' hs _ => ?_⟩
    · rw [Bool.or_eq_true] at h
      refine declarators_ensures hs (h.elim Token.isRight_of_isAnyWord fun h => ?_) _ _
      exact Token.isRight_of_isWord (hlet h)
    · refine .step hs fun e s' hs he => .step hs fun _ s' hs _ => ensures_ite.mpr ⟨fun _ => ?_, fun _ => ?_⟩
      · exact (toTarget_ensures hs he _ _).mono fun _ _ h => h.1
      · exact ensures_pure.mpr ⟨hs, he⟩
  exact (ensures_withScope.mpr (hfirst _)).bind fun first s' ⟨hs, hfirst⟩ =>
    (forRest_keeps hfirst isAwait).ensures _ _ hs

instance (hasDefault : Bool) : Keeps text (caseTest g hasDefault) (Tree.Faithful text) := by
  refine .bind fun _ _ => .ite (fun _ => ?_) fun _ => .bind fun _ _ => inferInstance
  exact .ite (fun _ => .bind fun _ _ => .bind nofun) fun _ => .pure (faithful_leaf _)

instance (hasDefault : Bool) : Keeps text (switchCase g hasDefault) (Tree.Faithful text) :=
  .bind fun test htest => .bind fun _ _ => .bind fun body hbody =>
    .pure (faithful_node rfl (by simp [htest, faithful_list hbody]))

instance : Keeps text (switchCases g) fun ts => ∀ t ∈ ts, t.Faithful text := by
  refine .loop (fun done => ∀ t ∈ done, t.Faithful text) nofun fun done hdone => .bind fun _ _ => ?_
  refine .ite (fun _ => .pure fun t ht => hdone t (List.mem_reverse.mp ht)) fun _ => ?_
  exact .bind fun t ht => .pure (List.forall_mem_cons.mpr ⟨ht, hdone⟩)

instance : Keeps text (switchTree g) (Tree.Faithful text) :=
  .bind fun _ _ => .bind fun value hvalue => .bind fun _ _ => .bind fun cases hcases =>
    .bind fun _ _ => .pure (faithful_node rfl (by simp [hvalue, faithful_list hcases]))

instance : Keeps text (catchTree g) (Tree.Faithful text) := by
  refine .bind fun _ _ => ?_
  extract_lets caught
  have hcaught (param : Tree) (hparam : param.Faithful text) :
      Keeps text (caught param) (Tree.Faithful text) :=
    .bind fun body hbody => .pure (faithful_node rfl (by simp [hparam, hbody]))
  refine .ite (fun _ => .bind fun p hp => .bind fun type htype => .bind fun _ _ => ?_)
    fun _ => hcaught _ (faithful_leaf _)
  exact hcaught _ (faithful_typed hp htype)

instance : Keeps text (tryTree g) (Tree.Faithful text) := by
  refine .bind fun _ _ => .bind fun _ _ => .bind fun body hbody => .bind fun _ _ => ?_
  extract_lets handled
  have hhandled (handler : Tree) (hhandler : handler.Faithful text) :
      Keeps text (handled handler) (Tree.Faithful text) := by
    refine .bind fun _ _ => ?_
    extract_lets ended
    have hended (final : Tree) (hfinal : final.Faithful text) :
        Keeps text (ended final) (Tree.Faithful text) := by
      have hnode : (node .tryStatement [body, handler, final]).Faithful text :=
        faithful_node rfl (by simp [hbody, hhandler, hfinal])
      exact .ite (fun _ => .bind fun _ _ => .pure hnode) fun _ => .pure hnode
    exact .ite (fun _ => .bind hended) fun _ => hended _ (faithful_leaf _)
  exact .ite (fun _ => .bind hhandled) fun _ => hhandled _ (faithful_leaf _)

instance : Keeps text jumpTarget fun _ => True := by
  refine ⟨fun scope s hs => ensures_bind.mpr (ensures_current.mpr ?_)⟩
  split
  · next h =>
    refine ensures_ite.mpr ⟨fun _ => ensures_pure.mpr ⟨hs, trivial⟩, fun _ => ?_⟩
    exact .take hs (Token.isRight_of_name? h) fun hs => ensures_pure.mpr ⟨hs, trivial⟩
  · exact ensures_pure.mpr ⟨hs, trivial⟩

/-- A jump statement is a leaf, whatever it notes. -/
theorem breakTree_ensures (hs : s.Sited text) (hright : s.token.kind.isRight) :
    Ensures breakTree scope s fun t s' => s'.Sited text ∧ t.Faithful text := by
  refine .take hs hright fun hs => .step hs fun target s' hs _ => .step hs fun _ s' hs _ => ?_
  extract_lets ended
  have hended : Keeps text (ended ()) (Tree.Faithful text) :=
    .bind fun _ _ => .pure (faithful_leaf _)
  split <;> refine ensures_ite.mpr ⟨fun _ => hended.ensures _ _ hs, fun _ => ?_⟩ <;>
    exact .step hs fun _ _ hs _ => hended.ensures _ _ hs

theorem continueTree_ensures (hs : s.Sited text) (hright : s.token.kind.isRight) :
    Ensures continueTree scope s fun t s' => s'.Sited text ∧ t.Faithful text := by
  refine .take hs hright fun hs => .step hs fun target s' hs _ => .step hs fun _ s' hs _ => ?_
  extract_lets ended
  have hended : Keeps text (ended ()) (Tree.Faithful text) :=
    .bind fun _ _ => .pure (faithful_leaf _)
  refine ensures_ite.mpr ⟨fun _ => .step hs fun _ _ hs _ => hended.ensures _ _ hs, fun _ => ?_⟩
  split
  · refine ensures_ite.mpr ⟨fun _ => hended.ensures _ _ hs, fun _ => ?_⟩
    exact .step hs fun _ _ hs _ => hended.ensures _ _ hs
  · exact hended.ensures _ _ hs

theorem returnTree_ensures (hs : s.Sited text) (hright : s.token.kind.isRight) :
    Ensures (returnTree g) scope s fun t s' => s'.Sited text ∧ t.Faithful text := by
  refine .take hs hright fun hs => .step hs fun _ s' hs _ => ?_
  extract_lets ended returned
  have hended (value : Tree) (hvalue : value.Faithful text) :
      Keeps text (ended value) (Tree.Faithful text) :=
    .bind fun _ _ => .pure (faithful_node rfl (List.forall_mem_singleton.mpr hvalue))
  have hreturned : Keeps text (returned ()) (Tree.Faithful text) :=
    .bind fun _ _ => .ite (fun _ => hended _ (faithful_leaf _)) fun _ => .bind hended
  refine ensures_ite.mpr ⟨fun _ => hreturned.ensures _ _ hs, fun _ => ?_⟩
  exact .step hs fun _ _ hs _ => hreturned.ensures _ _ hs

theorem throwTree_ensures (hs : s.Sited text) (hright : s.token.kind.isRight) :
    Ensures (throwTree g) scope s fun t s' => s'.Sited text ∧ t.Faithful text := by
  refine .take hs hright fun hs => .step hs fun _ s' hs _ => ?_
  extract_lets thrown
  have hthrown : Keeps text (thrown ()) (Tree.Faithful text) :=
    .bind fun value hvalue => .bind fun _ _ =>
      .pure (faithful_node rfl (List.forall_mem_singleton.mpr hvalue))
  refine ensures_ite.mpr ⟨fun _ => .step hs fun _ _ hs _ => ?_, fun _ => hthrown.ensures _ _ hs⟩
  exact .step hs fun _ _ hs _ => hthrown.ensures _ _ hs

theorem withTree_ensures (hs : s.Sited text) (hright : s.token.kind.isRight) :
    Ensures (withTree g) scope s fun t s' => s'.Sited text ∧ t.Faithful text := by
  refine .take hs hright fun hs => .step hs fun _ s' hs _ => .step hs fun object s' hs hobject => ?_
  refine .step hs fun body s' hs hbody => ensures_pure.mpr ⟨hs, faithful_node rfl ?_⟩
  simp [hobject, hbody]

instance : Keeps text (labeledTree g) (Tree.Faithful text) := by
  refine .bind fun t _ => .bind fun name hname => .bind fun _ _ => .bind fun _ _ => ?_
  extract_lets labeled
  have hlabeled : Keeps text (labeled ()) (Tree.Faithful text) :=
    .bind fun body hbody => .pure (faithful_node rfl (List.forall_mem_singleton.mpr hbody))
  exact .ite (fun _ => .bind fun _ _ => hlabeled) fun _ => hlabeled

instance : Keeps text (expressionStatement g) (Tree.Faithful text) :=
  .bind fun _ he => .bind fun _ _ => .ite
    (fun _ => .pure (faithful_node rfl (List.forall_mem_singleton.mpr he)))
    fun _ => .bind fun _ _ => .pure (faithful_node rfl (List.forall_mem_singleton.mpr he))

/-! ## Declarations of typed code -/

instance (declared : Bool) : Keeps text (typeAliasTree g declared) (Tree.Faithful text) :=
  .bind fun _ _ => .bind fun _ _ => .bind fun _ _ => .bind fun _ _ => .bind fun _ _ =>
    .bind fun _ _ => .pure (faithful_typeOnly _)

instance (declared : Bool) : Keeps text (interfaceTree g declared) (Tree.Faithful text) := by
  refine .bind fun _ _ => .bind fun _ _ => .bind fun _ _ => .bind fun _ _ => ?_
  extract_lets based
  have hbased (bases : Tree) : Keeps text (based bases) (Tree.Faithful text) :=
    .bind fun _ _ => .pure (faithful_typeOnly _)
  exact .ite (fun _ => .bind fun _ _ => hbased _) fun _ => hbased _

instance : Keeps text (enumMember g) (Tree.Faithful text) := by
  refine .bind fun k hk => .bind fun _ _ => ?_
  extract_lets valued
  have hvalued (value : Tree) (hvalue : value.Faithful text) :
      Keeps text (valued value) (Tree.Faithful text) :=
    .pure (faithful_node rfl (by simp [hk, hvalue]))
  exact .ite (fun _ => .bind hvalued) fun _ => hvalued _ (faithful_leaf _)

instance (declared isConst : Bool) : Keeps text (enumTree g declared isConst) (Tree.Faithful text) :=
  .bind fun _ _ => .bind fun _ _ => .bind fun _ _ => .bind fun _ hts => .pure (faithful_node rfl hts)

instance (declared : Bool) : Keeps text (namespaceTree g declared) (Tree.Faithful text) := by
  refine .bind fun word _ => ⟨fun scope s hs => ensures_bind.mpr (ensures_current.mpr ?_)⟩
  extract_lets opened
  have hopened (opener : String) : Keeps text (opened opener) (Tree.Faithful text) := by
    refine .bind fun _ _ => .ite (fun _ => .bind fun _ _ => .pure ?_) fun _ => .bind fun _ _ => ?_
    · exact faithful_node rfl (List.forall_mem_singleton.mpr (faithful_leaf _))
    · refine .bind fun items hitems => .bind fun _ _ => .pure (faithful_node rfl ?_)
      exact List.forall_mem_singleton.mpr (faithful_node rfl hitems)
  refine ensures_ite.mpr ⟨fun _ => (hopened _).ensures _ _ hs, fun _ => ?_⟩
  split
  · next h => exact .take hs (by rw [h]; rfl) fun hs => (hopened _).ensures _ _ hs
  · exact .step hs fun _ _ hs _ => (hopened _).ensures _ _ hs

theorem ensures_typedDeclaration? {Q : Option Tree → ReadState → Prop} (hs : s.Sited text)
    (hsome : ∀ t s', s'.Sited text → t.Faithful text → Q (some t) s') (hnone : Q none s)
    (declared : Bool) : Ensures (typedDeclaration? g declared) scope s Q := by
  have hfound {r : Reads Tree} [h : Keeps text r (Tree.Faithful text)] {s : ReadState}
      (hs : s.Sited text) : Ensures (do return some (← r)) scope s Q :=
    .step hs fun t s' hs ht => ensures_pure.mpr (hsome t s' hs ht)
  refine ensures_bind.mpr (ensures_read.mpr (ensures_ite.mpr ⟨fun _ => ?_, fun _ => ?_⟩))
  swap
  · exact ensures_pure.mpr hnone
  refine ensures_bind.mpr (ensures_current.mpr (ensures_bind.mpr (ensures_lookahead.mpr ?_)))
  extract_lets namesNext namesModule
  refine ensures_ite.mpr ⟨fun _ => hfound hs, fun _ => ensures_ite.mpr ⟨fun _ => hfound hs, fun _ => ?_⟩⟩
  refine ensures_ite.mpr ⟨fun _ => hfound hs, fun _ => ensures_ite.mpr ⟨fun h => ?_, fun _ => ?_⟩⟩
  · rw [Bool.and_eq_true] at h
    exact .take hs (Token.isRight_of_isWord h.1) fun hs => hfound hs
  refine ensures_ite.mpr ⟨fun h => ?_, fun _ => ensures_ite.mpr ⟨fun _ => hfound hs, fun _ => ?_⟩⟩
  · simp only [Bool.and_eq_true] at h
    refine .take hs (Token.isRight_of_isWord h.1.1) fun hs => .step hs fun t s' hs ht => ?_
    exact ensures_pure.mpr (hsome t s' hs ht.faithful)
  exact ensures_ite.mpr ⟨fun _ => hfound hs, fun _ => ensures_pure.mpr hnone⟩

instance (declared : Bool) : Keeps text (typedDeclaration? g declared) fun o =>
    ∀ t ∈ o, t.Faithful text :=
  ⟨fun _ _ hs => ensures_typedDeclaration? hs
    (fun _ _ hs ht => ⟨hs, fun _ h => Option.some.inj h ▸ ht⟩) ⟨hs, nofun⟩ declared⟩

instance : Keeps text (ambientTree g) (Tree.Faithful text) := by
  refine .bind fun _ _ => .withScope (h := .bind fun o ho => ?_) _
  split
  · next t => exact .pure (ho t rfl)
  refine ⟨fun scope s hs => ensures_bind.mpr (ensures_atAnyWord.mpr ?_)⟩
  refine ensures_ite.mpr ⟨fun h => ?_, fun _ => .step hs fun _ s' hs _ => ?_⟩
  · exact variableStatement_ensures hs (Token.isRight_of_isAnyWord h) true
  refine ensures_ite.mpr ⟨fun _ => ?_, fun _ => .step hs fun _ s' hs _ => ?_⟩
  · exact (Keeps.ensures _ _ hs).mono fun _ _ h => ⟨h.1, h.2.faithful⟩
  · exact (Keeps.ensures _ _ hs).mono fun _ _ h => ⟨h.1, h.2.faithful⟩

instance : Keeps text (statementTree g) (Tree.Faithful text) := by
  refine ⟨fun scope s hs => ensures_bind.mpr (ensures_current.mpr ?_)⟩
  refine ensures_ite.mpr ⟨fun _ => Keeps.ensures _ _ hs, fun _ => ensures_ite.mpr ⟨fun h => ?_, fun _ => ?_⟩⟩
  · exact .take hs (Token.isRight_of_isMark h) fun hs => ensures_pure.mpr ⟨hs, faithful_leaf _⟩
  refine ensures_bind.mpr (ensures_typedDeclaration? hs (fun t s' hs ht => ?_) ?_ false)
  · exact ensures_pure.mpr ⟨hs, ht⟩
  dsimp -zeta only
  split
  swap
  · exact Keeps.ensures _ _ hs
  next word h =>
  have hright : s.token.kind.isRight := by rw [h]; rfl
  split
  case h_1 | h_2 => exact variableStatement_ensures hs hright false
  case h_3 => exact (Keeps.ensures _ _ hs).mono fun _ _ h => ⟨h.1, h.2.faithful⟩
  case h_4 => exact (Keeps.ensures _ _ hs).mono fun _ _ h => ⟨h.1, h.2.faithful⟩
  case h_5 | h_6 | h_7 | h_8 | h_9 | h_10 => exact Keeps.ensures _ _ hs
  case h_11 => exact breakTree_ensures hs hright
  case h_12 => exact continueTree_ensures hs hright
  case h_13 => exact returnTree_ensures hs hright
  case h_14 => exact throwTree_ensures hs hright
  case h_15 => exact withTree_ensures hs hright
  case h_16 =>
    refine .take hs hright fun hs => .step hs fun _ s' hs _ => ensures_pure.mpr ⟨hs, faithful_leaf _⟩
  case h_17 =>
    refine ensures_bind.mpr (ensures_lookahead.mpr (ensures_bind.mpr (ensures_atLet fun _ _ => ?_)))
    refine ensures_ite.mpr ⟨fun _ => variableStatement_ensures hs hright false, fun _ => ?_⟩
    refine ensures_bind.mpr (ensures_atAsyncFunction fun _ _ => ensures_ite.mpr ⟨fun _ => ?_, fun _ => ?_⟩)
    · refine .take hs hright fun hs => ?_
      exact (Keeps.ensures _ _ hs).mono fun _ _ h => ⟨h.1, h.2.faithful⟩
    extract_lets isDynamic plain
    have hplain : Keeps text (plain ()) (Tree.Faithful text) :=
      .bind fun _ _ => .ite (fun _ => inferInstance) fun _ => .ite (fun _ => inferInstance)
        fun _ => inferInstance
    exact ensures_ite.mpr ⟨fun _ => ensures_bind.mpr ensures_fail, fun _ => hplain.ensures _ _ hs⟩

end StaticContext.Script.Grammar
