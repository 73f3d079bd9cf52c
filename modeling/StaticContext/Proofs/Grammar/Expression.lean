import StaticContext.Proofs.Grammar.Operand

/-! # Expressions keep to the text -/

namespace StaticContext.Script.Grammar
open Reads Script.Tree ReadState

variable {text : List Char} {g : Grammar} [g.Faithful text] {scope : Scope} {s : ReadState}

/-! ## Unary operators -/

/-- A target is checked where it stands. -/
theorem checkTarget_ensures (hs : s.Sited text) (t : Tree) (start : Nat) :
    Ensures (checkTarget t start) scope s fun _ s' => s'.Sited text ∧ s'.token = s.token :=
  ensures_ite.mpr ⟨fun _ => ensures_pure.mpr ⟨hs, rfl⟩,
    fun _ => ensures_report.mpr ⟨hs.note _, rfl⟩⟩

instance (t : Tree) (start : Nat) : Keeps text (checkTarget t start) fun _ => True :=
  ⟨fun _ _ hs => (checkTarget_ensures hs t start).mono fun _ _ h => ⟨h.1, trivial⟩⟩

theorem ensures_awaitIsWord {Q : Bool → ReadState → Prop} (h : ∀ b, Q b s) :
    Ensures awaitIsWord scope s Q :=
  ensures_bind.mpr (ensures_read.mpr (ensures_pure.mpr (h _)))

instance : Keeps text (operandTree g) (Tree.Faithful text) := by
  have unary {l : Label} (hl : l.isCall = false) : Keeps text (do
      return .node l [← g.operand]) (Tree.Faithful text) :=
    .bind fun e he => .pure (faithful_node hl (List.forall_mem_singleton.mpr he))
  refine ⟨fun scope s hs => ensures_bind.mpr (ensures_current.mpr ?_)⟩
  refine ensures_bind.mpr (ensures_atAnyMark.mpr (ensures_bind.mpr (ensures_atAnyWord.mpr ?_)))
  refine ensures_ite.mpr ⟨fun h => ?unary, fun _ => ensures_bind.mpr (ensures_atAnyMark.mpr ?_)⟩
  case unary =>
    rw [Bool.or_eq_true] at h
    refine .take hs (h.elim Token.isRight_of_isAnyMark Token.isRight_of_isAnyWord) fun hs => ?_
    refine .step hs fun start s' hs _ => .step hs fun e s' hs he => ?_
    extract_lets operated
    have hoperated : Keeps text (operated ()) (Tree.Faithful text) :=
      .pure (faithful_node rfl (List.forall_mem_singleton.mpr he))
    refine ensures_ite.mpr ⟨fun _ => ?_, fun _ => hoperated.ensures _ _ hs⟩
    split
    · exact .step hs fun _ s' hs _ => hoperated.ensures _ _ hs
    · exact hoperated.ensures _ _ hs
  refine ensures_ite.mpr ⟨fun h => ?update, fun _ => ensures_bind.mpr (ensures_awaitIsWord fun _ => ?_)⟩
  case update =>
    refine .take hs (Token.isRight_of_isAnyMark h) fun hs => .step hs fun start s' hs _ => ?_
    refine .step hs fun e s' hs he => .step hs fun _ s' hs _ => ensures_pure.mpr ⟨hs, ?_⟩
    exact faithful_node rfl (List.forall_mem_singleton.mpr he)
  refine ensures_ite.mpr ⟨fun h => ?await, fun _ => ensures_bind.mpr (ensures_read.mpr ?_)⟩
  case await =>
    rw [Bool.and_eq_true] at h
    exact .take hs (Token.isRight_of_isWord h.1) fun hs => (unary rfl).ensures _ _ hs
  refine ensures_ite.mpr ⟨fun h => ?assertion, fun _ => .step hs fun e s' hs he => ?behind⟩
  case assertion =>
    simp only [Bool.and_eq_true] at h
    refine .take hs (Token.isRight_of_isMark h.1.1) fun hs => ensures_bind.mpr (ensures_atWord.mpr ?_)
    refine ensures_bind.mpr (ensures_lookahead.mpr (ensures_ite.mpr ⟨fun h => ?_, fun _ => ?_⟩))
    · rw [Bool.and_eq_true] at h
      refine .take hs (Token.isRight_of_isWord h.1) fun hs => .step hs fun _ s' hs _ => ?_
      exact (unary rfl).ensures _ _ hs
    · refine .step hs fun type s' hs _ => .step hs fun _ s' hs _ => .step hs fun e s' hs he => ?_
      exact ensures_pure.mpr ⟨hs, faithful_node rfl (by simp [he, faithful_typeOnly])⟩
  case behind =>
    refine ensures_bind.mpr (ensures_current.mpr (ensures_ite.mpr ⟨fun h => ?_, fun _ => ?_⟩))
    · refine (checkTarget_ensures hs e _).bind fun _ s'' ⟨hs, heq⟩ => ?_
      rw [← heq, Bool.and_eq_true, Bool.or_eq_true] at h
      refine .take hs (h.1.elim Token.isRight_of_isMark Token.isRight_of_isMark) fun hs => ?_
      exact ensures_pure.mpr ⟨hs, faithful_node rfl (List.forall_mem_singleton.mpr he)⟩
    · exact ensures_pure.mpr ⟨hs, he⟩

/-! ## Binary operators -/

/-- The operator found is the current token. -/
theorem operator?_ensures (hs : s.Sited text) : Ensures operator? scope s fun o s' =>
    s'.Sited text ∧ (o.isSome → s'.token.kind.isRight) := by
  refine ensures_bind.mpr (ensures_atMark.mpr ?_)
  extract_lets found
  have hfound {s : ReadState} (hs : s.Sited text) : Ensures (found ()) scope s fun o s' =>
      s'.Sited text ∧ (o.isSome → s'.token.kind.isRight) := by
    refine ensures_bind.mpr (ensures_current.mpr ?_)
    split
    · next h => exact ensures_pure.mpr ⟨hs, fun _ => by rw [h]; rfl⟩
    · next h =>
      have hright : s.token.kind.isRight := by rw [h]; rfl
      refine ensures_bind.mpr (ensures_read.mpr (ensures_ite.mpr ⟨fun _ => ?_, fun _ => ?_⟩))
      · exact ensures_pure.mpr ⟨hs, fun _ => hright⟩
      · exact ensures_pure.mpr ⟨hs, fun _ => hright⟩
    · exact ensures_pure.mpr ⟨hs, nofun⟩
  refine ensures_ite.mpr ⟨fun h => ?_, fun _ => hfound hs⟩
  exact (ensures_reread_fits hs (Token.isRight_of_isMark h) greaterMark_fits).bind
    fun _ _ h => hfound h.1

/-- Sides are checked where they stand. -/
theorem checkCoalesced_ensures (hs : s.Sited text) (operator : String) (side : Tree) (start : Nat) :
    Ensures (checkCoalesced operator side start) scope s fun _ s' =>
      s'.Sited text ∧ s'.token = s.token :=
  ensures_ite.mpr ⟨fun _ => ensures_report.mpr ⟨hs.note _, rfl⟩,
    fun _ => ensures_pure.mpr ⟨hs, rfl⟩⟩

theorem complete_ensures {p : Pending} {right : Tree} (hs : s.Sited text) (hp : p.left.Faithful text)
    (hright : right.Faithful text) (start : Nat) :
    Ensures (p.complete right start) scope s fun t s' =>
      (s'.Sited text ∧ t.Faithful text) ∧ s'.token = s.token := by
  refine (checkCoalesced_ensures hs _ _ _).bind fun _ s₁ ⟨hs, hleft⟩ => ?_
  refine (checkCoalesced_ensures hs _ _ _).bind fun _ s₂ ⟨hs, htoken⟩ => ?_
  exact ensures_pure.mpr ⟨⟨hs, faithful_node rfl (by simp [hp, hright])⟩, htoken.trans hleft⟩

/-- The trees of operations that wait and the operand at hand are faithful. -/
structure Operands.Faithful (text : List Char) (r : Operands) : Prop where
  pending : ∀ p ∈ r.1, p.left.Faithful text
  operand : r.2.1.Faithful text

/-- Operations are completed where the reader stands. -/
theorem settle_ensures {pending : List Pending} {right : Tree} {start : Nat} (hs : s.Sited text)
    (h : Operands.Faithful text (pending, right, start)) (rank : Nat) :
    Ensures (settle rank pending right start) scope s fun r s' =>
      (s'.Sited text ∧ r.Faithful text) ∧ s'.token = s.token := by
  induction pending generalizing right start s with
  | nil => exact ensures_pure.mpr ⟨⟨hs, h⟩, rfl⟩
  | cons p below ih =>
    obtain ⟨hp, hbelow⟩ := List.forall_mem_cons.mp h.pending
    refine ensures_ite.mpr ⟨fun _ => ?_, fun _ => ensures_pure.mpr ⟨⟨hs, h⟩, rfl⟩⟩
    refine (complete_ensures hs hp h.operand start).bind fun t s₁ ⟨⟨hs, ht⟩, hbefore⟩ => ?_
    exact (ih hs ⟨hbelow, ht⟩).mono fun _ _ ⟨hr, htoken⟩ => ⟨hr, htoken.trans hbefore⟩

instance : Keeps text (firstOperand g) (Tree.Faithful text) :=
  .bind fun _ _ => .bind fun _ _ => .bind fun _ _ => .bind fun _ _ => .ite
    (fun _ => .bind fun _ _ => .bind fun _ _ => .pure (faithful_leaf _)) fun _ => inferInstance

/-- The operator is the current token. -/
theorem operationTree_ensures {pending : List Pending} {left : Tree} {start : Nat} (hs : s.Sited text)
    (hoperator : s.token.kind.isRight) (h : Operands.Faithful text (pending, left, start))
    (operator : String) : Ensures (operationTree g operator pending left start) scope s fun r s' =>
      s'.Sited text ∧ r.Faithful text := by
  unfold operationTree
  extract_lets rank
  refine (settle_ensures hs h rank).bind fun ⟨pending, left, start⟩ s₁ ⟨⟨hs, h⟩, htoken⟩ => ?_
  refine .take hs (htoken ▸ hoperator) fun hs => .step hs fun next s₂ hs _ => ?_
  extract_lets taken
  have htaken : Ensures (taken ()) scope s₂ fun r s' => s'.Sited text ∧ Operands.Faithful text r :=
    .step hs fun right s₃ hs hright =>
      ensures_pure.mpr ⟨hs, List.forall_mem_cons.mpr ⟨h.operand, h.pending⟩, hright⟩
  exact ensures_ite.mpr ⟨fun _ => ensures_bind.mpr ensures_failAt, fun _ => htaken⟩

instance : Keeps text (binaryTree g) (Tree.Faithful text) := by
  refine .bind fun _ _ => .bind fun first hfirst => .ite (fun _ => .pure hfirst) fun _ => ?_
  refine .loop (Operands.Faithful text) ⟨List.forall_mem_nil _, hfirst⟩ ?_
  refine fun ⟨pending, e, start⟩ hr => ⟨fun scope s hs => ?_⟩
  refine ensures_bind.mpr (ensures_current.mpr (ensures_bind.mpr (ensures_read.mpr ?_)))
  extract_lets operated
  have hoperated : Ensures (operated ()) scope s fun r s' =>
      s'.Sited text ∧ r.elim (Operands.Faithful text) (Tree.Faithful text) := by
    refine (operator?_ensures hs).bind fun o s' ⟨hs, hright⟩ => ?_
    cases o with
    | none =>
      refine (settle_ensures hs hr 0).bind fun r s' ⟨⟨hs, hr⟩, _⟩ => ?_
      exact ensures_pure.mpr ⟨hs, hr.operand⟩
    | some op =>
      refine (operationTree_ensures hs (hright rfl) hr op).bind fun r s' ⟨hs, hr⟩ => ?_
      exact ensures_pure.mpr ⟨hs, hr⟩
  refine ensures_ite.mpr ⟨fun _ => ?_, fun _ => hoperated⟩
  refine ensures_ite.mpr ⟨fun h => ?_, fun _ => ensures_ite.mpr ⟨fun h => ?_, fun _ => hoperated⟩⟩
  · refine .take hs (Token.isRight_of_isWord h) fun hs => ?_
    refine (settle_ensures hs hr relationRank).bind fun ⟨pending, e, start⟩ s₁ ⟨⟨hs, hr⟩, _⟩ => ?_
    refine .step hs fun _ s₂ hs _ => ensures_ite.mpr ⟨fun _ => ensures_pure.mpr ⟨hs, ?_⟩, fun _ => ?_⟩
    · exact ⟨hr.pending, faithful_node rfl (List.forall_mem_singleton.mpr hr.operand)⟩
    · refine .step hs fun type s' hs _ => ensures_pure.mpr ⟨hs, hr.pending, faithful_node rfl ?_⟩
      simp [hr.operand, faithful_typeOnly]
  · refine .take hs (Token.isRight_of_isWord h) fun hs => ?_
    refine (settle_ensures hs hr relationRank).bind fun ⟨pending, e, start⟩ s₁ ⟨⟨hs, hr⟩, _⟩ => ?_
    refine .step hs fun type s' hs _ => ensures_pure.mpr ⟨hs, hr.pending, faithful_node rfl ?_⟩
    simp [hr.operand, faithful_typeOnly]

instance : Keeps text (conditionalTree g) (Tree.Faithful text) := by
  refine .bind fun test htest => .ite (fun _ => .pure htest) fun _ => .bind fun _ _ => ?_
  refine .ite (fun _ => .bind fun yes hyes => .bind fun _ _ => .bind fun no hno => ?_)
    fun _ => .pure htest
  exact .pure (faithful_node rfl (by simp [htest, hyes, hno]))

/-! ## Assignments -/

/-- A target is made where it stands. -/
theorem toTarget_ensures {e : Tree} (hs : s.Sited text) (he : e.Faithful text) (operator : String)
    (start : Nat) : Ensures (toTarget operator start e) scope s fun t s' =>
      (s'.Sited text ∧ t.Faithful text) ∧ s'.token = s.token := by
  refine ensures_ite.mpr ⟨fun _ => ensures_pure.mpr ⟨⟨hs, he⟩, rfl⟩, fun _ => ?_⟩
  extract_lets noted
  have hnoted : Ensures (noted ()) scope s fun t s' =>
      (s'.Sited text ∧ t.Faithful text) ∧ s'.token = s.token :=
    ensures_bind.mpr (ensures_report.mpr (ensures_pure.mpr ⟨⟨hs.note _, he⟩, rfl⟩))
  refine ensures_ite.mpr ⟨fun _ => ?_, fun _ => hnoted⟩
  split
  · next hp => exact ensures_pure.mpr ⟨⟨hs, he.toPattern? hp⟩, rfl⟩
  · exact hnoted

instance : Keeps text (yieldTree g) (Tree.Faithful text) := by
  refine .bind fun _ _ => .bind fun _ _ => .ite (fun _ => ?_) fun _ => .bind fun _ _ => ?_
  · exact .pure (faithful_node rfl (List.forall_mem_singleton.mpr (faithful_leaf _)))
  · exact .bind fun e he => .pure (faithful_node rfl (List.forall_mem_singleton.mpr he))

instance : Keeps text (plainAssignment g) (Tree.Faithful text) := by
  refine .bind fun _ _ => .bind fun _ _ => .ite (fun _ => inferInstance) fun _ => .bind fun _ _ => ?_
  refine .bind fun e he => .ite (fun _ => .pure he) fun _ => ⟨fun scope s hs => ?_⟩
  refine ensures_bind.mpr (ensures_current.mpr (ensures_bind.mpr (ensures_atAnyMark.mpr ?_)))
  refine ensures_ite.mpr ⟨fun h => ?_, fun _ => ensures_pure.mpr ⟨hs, he⟩⟩
  refine (toTarget_ensures hs he _ _).bind fun target s' ⟨⟨hs, htarget⟩, heq⟩ => ?_
  refine .take hs (heq ▸ Token.isRight_of_isAnyMark h) fun hs => .step hs fun value s' hs hvalue => ?_
  exact ensures_pure.mpr ⟨hs, faithful_node rfl (by simp [htarget, hvalue])⟩

instance : Keeps text (assignmentTree g) (Tree.Faithful text) := by
  refine .bind fun _ _ => .bind fun _ _ => .ite (fun _ => ?_) fun _ => inferInstance
  extract_lets headed
  have hheaded : Keeps text (headed ()) (Tree.Faithful text) := by
    refine .bind fun _ _ => .ite (fun _ => ?_) fun _ => .ite (fun _ => ⟨fun scope s hs => ?_⟩) ?_
    · exact .mono inferInstance fun _ h => Compound.faithful h
    · exact ensures_bind.mpr (ensures_advance.mpr ensures_unexpected)
    · exact fun _ => inferInstance
  refine .ite (fun _ => .bind fun o ho => ?_) fun _ => hheaded
  split
  · next e => exact .pure (ho e rfl)
  · exact hheaded

instance : Keeps text (expressionTree g) (Tree.Faithful text) := by
  refine .bind fun first hfirst => .bind fun _ _ => .ite (fun _ => ?_) fun _ => .pure hfirst
  refine .loop (fun done => ∀ t ∈ done, t.Faithful text) (List.forall_mem_singleton.mpr hfirst)
    fun done hdone => .bind fun _ _ => .ite (fun _ => ?_) fun _ => ?_
  · exact .bind fun e he => .pure (List.forall_mem_cons.mpr ⟨he, hdone⟩)
  · exact .pure (faithful_node rfl fun t ht => hdone t (List.mem_reverse.mp ht))

end StaticContext.Script.Grammar
