import StaticContext.Proofs.Grammar.Pattern
import StaticContext.Script.Grammar.TypeExpression

/-! # Types keep to the text

No call is searched for in a type, so all that counts is where its reader stops. -/

namespace StaticContext.Script.Grammar
open Reads Script.Tree

variable {text : List Char} {g : Grammar} [g.Faithful text] {scope : Scope} {s : ReadState}

instance : Keeps text (typeArguments? g) (Tree.Faithful text) :=
  .bind fun _ _ => .ite (fun _ => inferInstance) fun _ => .pure (faithful_leaf _)

theorem typeArguments?_keeps : Keeps text (typeArguments? g) fun _ => True :=
  .mono inferInstance fun _ _ => trivial

instance : Keeps text dottedName fun _ => True := by
  unfold dottedName
  infer_instance

instance (mark : String) : Keeps text (signature g mark) fun _ => True := by
  unfold signature
  infer_instance

instance (label : Label) : Keeps text (functionType g label) fun _ => True := by
  unfold functionType
  infer_instance

instance : Keeps text (tupleElement g) fun _ => True := by
  refine .bind fun _ _ => .ite (fun _ => inferInstance) fun _ => .bind fun _ _ => ?_
  extract_lets rest
  have : ∀ u, Keeps text (rest u) fun _ => True := fun _ => by
    unfold rest
    infer_instance
  refine .ite (fun _ => .bind fun _ _ => .ite (fun _ => inferInstance) fun _ => ?_)
    fun _ => inferInstance
  refine .ite (fun _ => .bind fun _ _ => ?_) fun _ => inferInstance
  split <;> infer_instance

instance {word : Reads Bool} [Keeps text word fun _ => True] (name : String) :
    Keeps text (signedWord word name) fun _ => True := by
  unfold signedWord
  infer_instance

instance : Keeps text (mappedType g) fun _ => True := by
  refine .bind fun _ _ => .bind fun _ _ => .bind fun _ _ => .bind fun _ _ => .bind fun _ _ => ?_
  refine .bind fun _ _ => .bind fun _ _ => ?_
  extract_lets rest
  have (renamed : Tree) : Keeps text (rest renamed) fun _ => True :=
    .bind fun _ _ => .bind fun _ _ => inferInstance
  infer_instance

instance (mods : Modifiers) : Keeps text (indexSignature g mods) fun _ => True := by
  unfold indexSignature
  infer_instance

instance : Keeps text atIndexSignature fun _ => True := by
  unfold atIndexSignature
  infer_instance

instance : Keeps text memberSeparator fun _ => True := by
  unfold memberSeparator
  infer_instance

/-- A word that says of what kind a member is stands for itself. -/
theorem isRight_of_memberKind {t : Token} {c : Prop} [Decidable c]
    (h : ¬ (if c then MethodKind.method else if t.isWord "get" then .getter
      else if t.isWord "set" then .setter else .method) = .method) : t.kind.isRight := by
  by_cases hc : c
  · rw [if_pos hc] at h
    exact absurd rfl h
  by_cases hget : t.isWord "get"
  · exact Token.isRight_of_isWord hget
  by_cases hset : t.isWord "set"
  · exact Token.isRight_of_isWord hset
  · rw [if_neg hc, if_neg hget, if_neg hset] at h
    exact absurd rfl h

instance : Keeps text (typeMember g) fun _ => True := by
  refine ⟨fun scope s hs => ?_⟩
  refine ensures_bind.mpr (ensures_current.mpr (ensures_bind.mpr (ensures_lookahead.mpr ?_)))
  extract_lets separated endsName isReadonly named
  have (member : Tree) : Keeps text (separated member) fun _ => True := by
    unfold separated
    infer_instance
  have : Keeps text (named ()) fun _ => True := by
    refine .bind fun _ _ => .ite (fun _ => inferInstance) fun _ => ⟨fun scope s hs => ?_⟩
    refine ensures_bind.mpr (ensures_current.mpr (ensures_bind.mpr (ensures_lookahead.mpr ?_)))
    extract_lets kind keyed
    have : Keeps text (keyed ()) fun _ => True := by
      unfold keyed
      infer_instance
    refine ensures_ite.mpr ⟨fun _ => Keeps.ensures _ _ hs, fun h => ?_⟩
    exact .take hs (isRight_of_memberKind h) fun hs => Keeps.ensures _ _ hs
  refine ensures_ite.mpr ⟨fun _ => Keeps.ensures _ _ hs, fun _ => ensures_ite.mpr ⟨fun h => ?_, ?_⟩⟩
  · rw [Bool.and_eq_true] at h
    exact .take hs (Token.isRight_of_isWord h.1) fun hs => Keeps.ensures _ _ hs
  refine fun _ => ensures_ite.mpr ⟨fun h => ?_, fun _ => Keeps.ensures _ _ hs⟩
  rw [Bool.and_eq_true] at h
  exact .take hs (Token.isRight_of_isWord h.1) fun hs => Keeps.ensures _ _ hs

instance : Keeps text (typeMembers g) fun _ => True := by
  unfold typeMembers
  infer_instance

instance : Keeps text (importType g) fun _ => True := by
  have : Keeps text (typeArguments? g) fun _ => True := typeArguments?_keeps
  refine .bind fun _ _ => .bind fun _ _ => .bind fun _ _ => .bind fun _ _ => .bind fun _ _ => ?_
  extract_lets rest
  have (qualifier : String) : Keeps text (rest qualifier) fun _ => True :=
    .bind fun _ _ => .pure trivial
  infer_instance

instance : Keeps text (simpleType g) fun _ => True := by
  refine ⟨fun scope s hs => ensures_bind.mpr (ensures_current.mpr ?_)⟩
  have : Keeps text (typeArguments? g) fun _ => True := typeArguments?_keeps
  have hright {k : TokenKind} (h : s.token.kind = k) (hk : k.isRight) : s.token.kind.isRight :=
    h ▸ hk
  dsimp only
  split
  case h_1 h => exact .take hs (hright h rfl) fun hs => Keeps.ensures _ _ hs
  case h_2 h =>
    refine .take hs (hright h rfl) fun hs => ensures_bind.mpr (ensures_current.mpr ?_)
    split
    case h_1 h | h_2 h =>
      exact .take hs (by rw [h]; rfl) fun hs => Keeps.ensures _ _ hs
    case h_3 => exact ensures_unexpected
  case h_3 h | h_4 h => exact .take hs (hright h rfl) fun hs => Keeps.ensures _ _ hs
  case h_5 =>
    refine .step hs fun mapped s hs _ => ?_
    split <;> exact Keeps.ensures _ _ hs
  case h_6 word h =>
    refine ensures_ite.mpr ⟨fun _ => .take hs (hright h rfl) fun hs => ?_, fun _ => ?_⟩
    · exact Keeps.ensures _ _ hs
    refine ensures_ite.mpr ⟨fun _ => Keeps.ensures _ _ hs, fun _ => ?_⟩
    refine ensures_ite.mpr ⟨fun _ => .take hs (hright h rfl) fun hs => Keeps.ensures _ _ hs, ?_⟩
    refine fun _ => ensures_ite.mpr ⟨fun _ => .take hs (hright h rfl) fun hs => ?_, fun _ => ?_⟩
    · exact Keeps.ensures _ _ hs
    refine ensures_bind.mpr (ensures_lookahead.mpr (ensures_ite.mpr ⟨fun _ => ?_, fun _ => ?_⟩))
    · exact .take hs (hright h rfl) fun hs => Keeps.ensures _ _ hs
    · exact Keeps.ensures _ _ hs
  case h_7 h =>
    refine ensures_ite.mpr ⟨fun _ => ?_, fun _ => ensures_unexpected⟩
    refine (templateParts_ensures hs (hright h rfl)).bind fun _ s hs => ?_
    exact ensures_pure.mpr ⟨hs.1, trivial⟩
  case h_8 => exact ensures_fail

instance : Keeps text (postfixType g) fun _ => True := by
  refine .bind fun _ _ => keeps_loop (h := fun type => ⟨fun scope s hs => ?_⟩)
  refine ensures_bind.mpr (ensures_current.mpr (ensures_ite.mpr ⟨fun h => ?_, fun _ => ?_⟩))
  · rw [Bool.and_eq_true] at h
    exact .take hs (Token.isRight_of_isMark h.1) fun hs => Keeps.ensures _ _ hs
  · exact Keeps.ensures _ _ hs

instance : Keeps text (operatorType g) fun _ => True := by
  refine .bind (P := fun _ => True) (h := keeps_loop (h := fun done => ⟨fun scope s hs => ?_⟩))
    fun operators _ => ⟨fun scope s hs => ensures_bind.mpr (ensures_atWord.mpr ?_)⟩
  · refine ensures_bind.mpr (ensures_atAnyWord.mpr (ensures_ite.mpr ⟨fun h => ?_, fun _ => ?_⟩))
    · refine ensures_bind.mpr (ensures_lookahead.mpr (ensures_ite.mpr ⟨fun _ => ?_, fun _ => ?_⟩))
      · exact .take hs (Token.isRight_of_isAnyWord h) fun hs => Keeps.ensures _ _ hs
      · exact Keeps.ensures _ _ hs
    · exact Keeps.ensures _ _ hs
  · refine ensures_bind.mpr (ensures_lookahead.mpr ?_)
    extract_lets rest
    have (type : Tree) : Keeps text (rest type) fun _ => True := .pure trivial
    refine ensures_ite.mpr ⟨fun h => ?_, fun _ => Keeps.ensures _ _ hs⟩
    rw [Bool.and_eq_true] at h
    refine .take hs (Token.isRight_of_isWord h.1) fun hs => Keeps.ensures _ _ hs

instance {item : Reads Tree} [Keeps text item fun _ => True] (mark : String) (label : Label) :
    Keeps text (joinedTypes mark label item) fun _ => True := by
  unfold joinedTypes
  infer_instance

instance : Keeps text (unionType g) fun _ => True := by
  unfold unionType
  infer_instance

instance : Keeps text (plainTypeTree g) fun _ => True := by
  refine ⟨fun scope s hs => ?_⟩
  refine ensures_bind.mpr (ensures_current.mpr (ensures_bind.mpr (ensures_lookahead.mpr ?_)))
  refine ensures_ite.mpr ⟨fun h => ?_, fun _ => ensures_ite.mpr ⟨fun h => ?_, fun _ => ?_⟩⟩
  · exact .take hs (Token.isRight_of_isWord h) fun hs => Keeps.ensures _ _ hs
  · rw [Bool.and_eq_true] at h
    refine .take hs (Token.isRight_of_isWord h.1) fun hs => ?_
    rw [← ReadState.advanced_token] at h
    exact .take hs (Token.isRight_of_isWord h.2) fun hs => Keeps.ensures _ _ hs
  refine ensures_ite.mpr ⟨fun h => Keeps.ensures _ _ hs, fun _ => ?_⟩
  extract_lets united opensParameters
  have : Keeps text (united ()) fun _ => True := inferInstanceAs (Keeps text (unionType g) _)
  have : Keeps text opensParameters fun _ => True := inferInstanceAs (Keeps text (fits _) _)
  exact Keeps.ensures _ _ hs

instance : Keeps text (typeExpression g) fun _ => True := by
  refine .bind fun type _ => ⟨fun scope s hs => ?_⟩
  refine ensures_bind.mpr (ensures_atWord.mpr (ensures_bind.mpr (ensures_current.mpr ?_)))
  refine ensures_ite.mpr ⟨fun h => ?_, fun _ => Keeps.ensures _ _ hs⟩
  rw [Bool.and_eq_true] at h
  exact .take hs (Token.isRight_of_isWord h.1) fun hs => Keeps.ensures _ _ hs

end StaticContext.Script.Grammar
