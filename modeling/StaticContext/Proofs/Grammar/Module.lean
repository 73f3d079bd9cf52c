import StaticContext.Proofs.Grammar.Statement
import StaticContext.Script.Grammar.Module

/-! # Imports, exports and whole grammars keep to the text -/

namespace StaticContext.Script.Grammar
open Reads Script.Tree ReadState

variable {text : List Char} {g : Grammar} [g.Faithful text] {scope : Scope} {s : ReadState}

/-! ## Names of modules -/

instance : Keeps text moduleSource (Tree.Faithful text) := by
  refine ⟨fun scope s hs => ensures_bind.mpr (ensures_current.mpr ?_)⟩
  split
  · next h => exact .take hs (by rw [h]; rfl) fun hs => ensures_pure.mpr ⟨hs, faithful_leaf _⟩
  · exact ensures_unexpected

instance : Keeps text (moduleAttributes g) (Tree.Faithful text) := by
  refine ⟨fun scope s hs => ensures_bind.mpr (ensures_current.mpr ?_)⟩
  refine ensures_ite.mpr ⟨fun h => ?_, fun _ => ensures_pure.mpr ⟨hs, faithful_leaf _⟩⟩
  rw [Bool.and_eq_true, Bool.or_eq_true] at h
  refine .take hs (h.1.elim Token.isRight_of_isWord Token.isRight_of_isWord) fun hs => ?_
  exact (Keeps.ensures _ _ hs).mono fun _ _ h => ⟨h.1, h.2.faithful⟩

instance : Keeps text moduleName (Tree.Faithful text) := by
  refine ⟨fun scope s hs => ensures_bind.mpr (ensures_current.mpr ?_)⟩
  split
  · next h => exact .take hs (by rw [h]; rfl) fun hs => ensures_pure.mpr ⟨hs, faithful_leaf _⟩
  · exact .step hs fun _ s' hs _ => ensures_pure.mpr ⟨hs, faithful_leaf _⟩

instance : Keeps text eatTypeMark fun _ => True := by
  refine ⟨fun scope s hs => ensures_bind.mpr (ensures_read.mpr (ensures_bind.mpr ?_))⟩
  refine ensures_atWord.mpr (ensures_ite.mpr ⟨fun h => ?_, fun _ => ensures_pure.mpr ⟨hs, trivial⟩⟩)
  rw [Bool.and_eq_true] at h
  refine ensures_bind.mpr (ensures_lookahead.mpr (ensures_ite.mpr ⟨fun _ => ?_, fun _ => ?_⟩))
  swap
  · exact ensures_pure.mpr ⟨hs, trivial⟩
  extract_lets marked
  have hmarked (marks : Bool) : Ensures (marked marks) scope s fun _ s' => s'.Sited text ∧ True := by
    refine ensures_ite.mpr ⟨fun _ => ?_, fun _ => ensures_pure.mpr ⟨hs, trivial⟩⟩
    exact .take hs (Token.isRight_of_isWord h.2) fun hs => ensures_pure.mpr ⟨hs, trivial⟩
  refine ensures_ite.mpr ⟨fun _ => ensures_bind.mpr (ensures_fits hmarked), fun _ => ?_⟩
  exact ensures_bind.mpr (ensures_pure.mpr (hmarked _))

/-! ## Imports -/

instance : Keeps text importSpecifier (Tree.Faithful text) := by
  refine .bind fun typeOnly _ => .bind fun t _ => .bind fun imported himported => .bind fun _ _ => ?_
  refine .ite (fun _ => .bind fun name hname => ?_) fun _ => ?_
  · exact .pure (faithful_node rfl (by simp [himported, hname]))
  split
  · refine ⟨fun scope s hs => (checkName_ensures hs _ _).bind fun _ s' hs => ensures_pure.mpr ?_⟩
    exact ⟨hs.1, faithful_node rfl (by simp [absent, faithful_leaf, himported])⟩
  · exact .mono inferInstance nofun

instance : Keeps text importSpecifiers fun ts => ∀ t ∈ ts, t.Faithful text := by
  unfold importSpecifiers
  extract_lets named
  have hnamed : Keeps text named fun ts => ∀ t ∈ ts, t.Faithful text := by
    refine .bind fun _ _ => .ite (fun _ => .bind fun _ _ => .bind fun t ht => ?_) fun _ => ?_
    · split
      · exact .pure (List.forall_mem_singleton.mpr (faithful_leaf _))
      · exact .pure (List.forall_mem_singleton.mpr ht)
    · exact .bind fun _ _ => inferInstance
  refine .bind fun _ _ => .bind fun _ _ => .ite (fun _ => hnamed) fun _ => .bind fun t ht => ?_
  split
  · refine .bind fun _ _ => .ite (fun _ => .bind fun ts hts => ?_) fun _ => ?_
    · exact .pure (List.forall_mem_cons.mpr ⟨faithful_leaf _, hts⟩)
    · exact .pure (List.forall_mem_singleton.mpr (faithful_leaf _))
  · exact .pure (List.forall_mem_singleton.mpr ht)

instance (exported typeOnly : Bool) :
    Keeps text (importEqualsTree exported typeOnly) (Tree.Faithful text) := by
  refine .bind fun name _ => .bind fun _ _ => ⟨fun scope s hs => ensures_bind.mpr ?_⟩
  refine ensures_atWord.mpr (ensures_bind.mpr (ensures_lookahead.mpr ?_))
  extract_lets targeted
  have htargeted (target : Tree) (htarget : target.Faithful text) :
      Keeps text (targeted target) (Tree.Faithful text) :=
    .bind fun _ _ => .pure (faithful_node rfl (List.forall_mem_singleton.mpr htarget))
  refine ensures_ite.mpr ⟨fun h => ?_, fun _ => .step hs fun _ s' hs _ => ?_⟩
  · rw [Bool.and_eq_true, ← advanced_token] at h
    refine .take hs (Token.isRight_of_isWord h.1) fun hs => ?_
    refine .take hs (Token.isRight_of_isMark h.2) fun hs => .step hs fun source s' hs hsource => ?_
    refine .step hs fun _ s' hs _ => (htargeted _ (faithful_node rfl ?_)).ensures _ _ hs
    exact List.forall_mem_singleton.mpr hsource
  · exact (htargeted _ (faithful_leaf _)).ensures _ _ hs

instance : Keeps text (importTree g) (Tree.Faithful text) := by
  refine .bind fun _ _ => .bind fun _ _ => ?_
  split
  · refine .bind fun source hsource => .bind fun attributes hattributes => .bind fun _ _ => ?_
    have hnone : (Tree.list []).Faithful text := faithful_leaf _
    exact .pure (faithful_node rfl (by simp [hnone, hsource, hattributes]))
  refine ⟨fun scope s hs => ensures_bind.mpr (ensures_read.mpr (ensures_bind.mpr ?_))⟩
  refine ensures_lookahead.mpr (ensures_bind.mpr (ensures_atWord.mpr ?_))
  extract_lets typeOnly specified
  have hspecified : Keeps text (specified ()) (Tree.Faithful text) := by
    refine .bind fun _ _ => .bind fun _ _ => .ite (fun _ => inferInstance) fun _ => ?_
    refine .bind fun specifiers hspecifiers => .bind fun _ _ => .bind fun source hsource => ?_
    refine .bind fun attributes hattributes => .bind fun _ _ => .pure (faithful_node rfl ?_)
    simp [faithful_list hspecifiers, hsource, hattributes]
  refine ensures_ite.mpr ⟨fun h => ?_, fun _ => hspecified.ensures _ _ hs⟩
  simp only [typeOnly, Bool.and_eq_true] at h
  exact .take hs (Token.isRight_of_isWord h.1.2) fun hs => hspecified.ensures _ _ hs

/-! ## Exports -/

instance : Keeps text exportSpecifier (Tree.Faithful text) := by
  refine .bind fun typeOnly _ => .bind fun name hname => .bind fun _ _ => ?_
  extract_lets exported
  have hexported (other : Tree) (hother : other.Faithful text) :
      Keeps text (exported other) (Tree.Faithful text) :=
    .pure (faithful_node rfl (by simp [hname, hother]))
  exact .ite (fun _ => .bind hexported) fun _ => hexported _ (faithful_leaf _)

instance : Keeps text (exportFrom g) fun r => r.1.Faithful text ∧ r.2.Faithful text :=
  .bind fun _ _ => .bind fun _ hsource => .bind fun _ hattributes => .bind fun _ _ =>
    .pure ⟨hsource, hattributes⟩

instance (typeOnly : Bool) : Keeps text (exportNamesTree g typeOnly) (Tree.Faithful text) := by
  refine .bind fun _ _ => .bind fun specifiers hspecifiers => .bind fun _ _ => .ite (fun _ => ?_) ?_
  · refine .bind fun r hr => .pure (faithful_node rfl ?_)
    simp [faithful_list hspecifiers, hr]
  · refine fun _ => .bind fun _ _ => .pure (faithful_node rfl ?_)
    simp [faithful_list hspecifiers, absent, faithful_leaf]

instance (typeOnly : Bool) : Keeps text (exportAllTree g typeOnly) (Tree.Faithful text) := by
  refine .bind fun _ _ => .bind fun _ _ => .ite (fun _ => .bind fun name hname => ?_) fun _ => ?_
  · refine .bind fun r hr => .pure (faithful_node rfl ?_)
    have : (node .exportNamespace [name]).Faithful text :=
      faithful_node rfl (List.forall_mem_singleton.mpr hname)
    simp [faithful_list (List.forall_mem_singleton.mpr this), hr]
  · exact .bind fun r hr => .pure (faithful_node rfl (by simp [hr]))

instance : Keeps text (exportDefaultTree g) (Tree.Faithful text) := by
  have default {t : Tree} (ht : t.Faithful text) : (node .exportDefault [t]).Faithful text :=
    faithful_node rfl (List.forall_mem_singleton.mpr ht)
  refine .bind fun _ _ => .bind fun _ _ => .bind fun _ _ => .ite (fun _ => ?_) fun _ => ?_
  · exact .bind fun t ht => .pure (default ht.faithful)
  refine ⟨fun scope s hs => ensures_bind.mpr (ensures_atAsyncFunction fun _ hasync => ?_)⟩
  refine ensures_ite.mpr ⟨fun h => ?_, fun _ => .step hs fun _ s' hs _ => ?_⟩
  · refine .take hs (Token.isRight_of_isWord (hasync h)) fun hs => .step hs fun t s' hs ht => ?_
    exact ensures_pure.mpr ⟨hs, default ht.faithful⟩
  refine ensures_ite.mpr ⟨fun _ => ?_, fun _ => ensures_bind.mpr (ensures_atWord.mpr ?_)⟩
  · exact .step hs fun t s' hs ht => ensures_pure.mpr ⟨hs, default ht.faithful⟩
  refine ensures_bind.mpr (ensures_lookahead.mpr (ensures_ite.mpr ⟨fun h => ?_, fun _ => ?_⟩))
  · simp only [Bool.and_eq_true] at h
    refine .take hs (Token.isRight_of_isWord h.1.2) fun hs => .step hs fun t s' hs ht => ?_
    exact ensures_pure.mpr ⟨hs, default ht.faithful⟩
  refine .step hs fun _ s' hs _ => .step hs fun _ s' hs _ => ensures_ite.mpr ⟨fun _ => ?_, fun _ => ?_⟩
  · exact .step hs fun t s' hs ht => ensures_pure.mpr ⟨hs, default ht⟩
  · refine .step hs fun e s' hs he => .step hs fun _ s' hs _ => ensures_pure.mpr ⟨hs, default ?_⟩
    exact faithful_node rfl (List.forall_mem_singleton.mpr he)

instance : Keeps text (exportTree g) (Tree.Faithful text) := by
  refine .bind fun _ _ => .bind fun _ _ => .bind fun _ _ => .ite (fun _ => inferInstance) fun _ => ?_
  refine .bind fun _ _ => .ite (fun _ => inferInstance) fun _ => .bind fun _ _ => ?_
  refine .ite (fun _ => inferInstance) fun _ => ?_
  extract_lets declared exported
  have hdeclared : Keeps text (declared ()) (Tree.Faithful text) :=
    .bind fun t ht => .pure (faithful_node rfl (List.forall_mem_singleton.mpr ht))
  have hexported : Keeps text (exported ()) (Tree.Faithful text) := by
    refine .bind fun _ _ => .bind fun _ _ => .bind fun _ _ => .bind fun _ _ => ?_
    exact .ite (fun _ => hdeclared) fun _ => .bind fun _ _ => hdeclared
  refine .ite (fun _ => .bind fun _ _ => .ite (fun _ => ?_) fun _ => ?_) fun _ => hexported
  · refine .bind fun e he => .bind fun _ _ => .pure (faithful_node rfl ?_)
    exact List.forall_mem_singleton.mpr he
  refine ⟨fun scope s hs => ensures_bind.mpr (ensures_lookahead.mpr (ensures_bind.mpr ?_))⟩
  refine ensures_atWord.mpr (ensures_ite.mpr ⟨fun h => ?_, fun _ => ensures_bind.mpr ?_⟩)
  · rw [Bool.and_eq_true] at h
    refine .take hs (Token.isRight_of_isWord h.1) fun hs => .step hs fun _ s' hs _ => ?_
    exact ensures_ite.mpr ⟨fun _ => Keeps.ensures _ _ hs, fun _ => Keeps.ensures _ _ hs⟩
  refine ensures_atWord.mpr (ensures_ite.mpr ⟨fun h => ?_, fun _ => .step hs fun _ s' hs _ => ?_⟩)
  · rw [Bool.and_eq_true, ← advanced_token] at h
    refine .take hs (Token.isRight_of_isWord h.1) fun hs => ?_
    refine .take hs (Token.isRight_of_isWord h.2) fun hs => .step hs fun _ s' hs _ => ?_
    exact .step hs fun _ s' hs _ => ensures_pure.mpr ⟨hs, faithful_leaf _⟩
  refine ensures_ite.mpr ⟨fun _ => .step hs fun _ s' hs _ => ?_, fun _ => hexported.ensures _ _ hs⟩
  exact Keeps.ensures _ _ hs

instance : Keeps text (itemTree g) (Tree.Faithful text) := by
  refine .bind fun _ _ => .ite (fun _ => .bind fun _ _ => ?_) fun _ => .bind fun _ _ => ?_
  · exact .ite (fun _ => inferInstance) fun _ => inferInstance
  · exact .ite (fun _ => inferInstance) fun _ => inferInstance

/-! ## Whole grammars -/

instance : (deeper g).Faithful text where
  item := inferInstanceAs (Keeps text (itemTree g) _)
  statement := inferInstanceAs (Keeps text (statementTree g) _)
  assignment := inferInstanceAs (Keeps text (assignmentTree g) _)
  expression := inferInstanceAs (Keeps text (expressionTree g) _)
  operand := inferInstanceAs (Keeps text (operandTree g) _)
  leftSide := inferInstanceAs (Keeps text (leftSideTree g) _)
  binding := inferInstanceAs (Keeps text (bindingTarget g) _)
  type := inferInstanceAs (Keeps text (typeExpression g) _)
  plainType := inferInstanceAs (Keeps text (plainTypeTree g) _)
  element _ _ hs := elementTree_ensures hs

instance : exhausted.Faithful text where
  item := ⟨fun _ _ _ => ensures_fail⟩
  statement := ⟨fun _ _ _ => ensures_fail⟩
  assignment := ⟨fun _ _ _ => ensures_fail⟩
  expression := ⟨fun _ _ _ => ensures_fail⟩
  operand := ⟨fun _ _ _ => ensures_fail⟩
  leftSide := ⟨fun _ _ _ => ensures_fail⟩
  binding := ⟨fun _ _ _ => ensures_fail⟩
  type := ⟨fun _ _ _ => ensures_fail⟩
  plainType := ⟨fun _ _ _ => ensures_fail⟩
  element _ _ _ := ensures_fail

theorem toDepth_faithful (n : Nat) (h : g.Faithful text) : (toDepth n g).Faithful text := by
  induction n generalizing g with
  | zero => exact h
  | succ n ih => exact ih inferInstance

end StaticContext.Script.Grammar
