import StaticContext.Proofs.CallStops.Pattern

/-! # Types have no calls

No call of a type counts, so all that is asked of its reader is to go on. -/

namespace StaticContext.Script.Grammar
open Reads Script.Tree

variable {g : Grammar} [g.Collecting] {held : List Tree}

instance : Collects held (typeArguments? g) fun t => t :: held :=
  .bind fun _ => .ite (fun _ => inferInstance) fun _ => .pure (by simp)

instance : Moves (typeArguments? g) := .of_collects

instance : Moves dottedName := by
  unfold dottedName
  infer_instance

instance (mark : String) : Moves (signature g mark) := by
  unfold signature
  infer_instance

instance (label : Label) : Moves (functionType g label) := by
  unfold functionType
  infer_instance

instance : Moves (tupleElement g) := by
  refine .bind fun _ => .ite (fun _ => inferInstance) fun _ => .bind fun t => ?_
  extract_lets rest
  have : ∀ u, Moves (rest u) := fun _ => by
    unfold rest
    infer_instance
  refine .ite (fun _ => .bind fun _ => .ite (fun _ => inferInstance) fun _ => ?_)
    fun _ => inferInstance
  refine .ite (fun _ => .bind fun named => ?_) fun _ => inferInstance
  split <;> infer_instance

instance {word : Reads Bool} [Moves word] (name : String) : Moves (signedWord word name) := by
  unfold signedWord
  infer_instance

instance : Moves (mappedType g) := by
  refine .bind fun _ => .bind fun _ => .bind fun _ => .bind fun _ => .bind fun _ => .bind fun _ => ?_
  refine .bind fun _ => ?_
  extract_lets rest
  have (renamed : Tree) : Moves (rest renamed) := .bind fun _ => .bind fun _ => inferInstance
  infer_instance

instance (mods : Modifiers) : Moves (indexSignature g mods) := by
  unfold indexSignature
  infer_instance

instance : Moves atIndexSignature := by
  unfold atIndexSignature
  infer_instance

instance : Moves memberSeparator := by
  unfold memberSeparator
  infer_instance

instance : Moves (key g) := .of_collects

instance : Moves (typeMember g) := by
  refine .bind fun t => .bind fun next => ?_
  extract_lets separated endsName isReadonly named
  have (member : Tree) : Moves (separated member) := by
    unfold separated
    infer_instance
  have : Moves (named ()) := by
    refine .bind fun _ => .ite (fun _ => inferInstance) fun _ => .bind fun _ => .bind fun _ => ?_
    extract_lets kind keyed
    have : Moves (keyed ()) := by
      unfold keyed
      infer_instance
    infer_instance
  infer_instance

instance : Moves (typeMembers g) := by
  unfold typeMembers
  infer_instance

instance : Moves (importType g) := by
  refine .bind fun _ => .bind fun _ => .bind fun _ => .bind fun _ => .bind fun _ => ?_
  extract_lets rest
  have (qualifier : String) : Moves (rest qualifier) := .bind fun _ => inferInstance
  infer_instance

instance : Moves (simpleType g) := by
  refine ⟨fun scope s hs => ensures_bind.mpr (ensures_current.mpr ?_)⟩
  dsimp only
  split
  case h_2 =>
    refine (Moves.bind fun _ => .bind fun t => ?_).ensures scope s hs
    split <;> infer_instance
  case h_5 =>
    refine (Moves.bind fun mapped => ?_).ensures scope s hs
    split <;> infer_instance
  case h_7 mark h =>
    refine ensures_ite.mpr ⟨fun _ => ?_, fun _ => ensures_unexpected⟩
    have hright : s.token.kind.isRight := by rw [h]; rfl
    have htype : ∀ held, Collects held g.type fun _ => [] ++ held := fun _ => inferInstance
    exact (templateParts_holds hs.holds hright).bind fun _ s hs => ensures_pure.mpr ⟨hs.steady, hs.calls.le⟩
  all_goals exact Moves.ensures scope s hs

instance : Moves (postfixType g) := by
  unfold postfixType
  refine .bind fun _ => ?_
  infer_instance

instance : Moves (operatorType g) := by
  refine .bind fun operators => .bind fun _ => .bind fun _ => ?_
  extract_lets rest
  have (type : Tree) : Moves (rest type) := inferInstanceAs (Moves (pure _))
  refine .ite (fun _ => .bind fun _ => .bind fun _ => ?_) fun _ => inferInstance
  dsimp only
  infer_instance

instance {item : Reads Tree} [Moves item] (mark : String) (label : Label) :
    Moves (joinedTypes mark label item) := by
  unfold joinedTypes
  infer_instance

instance : Moves (unionType g) := by
  unfold unionType
  infer_instance

instance : Moves (plainTypeTree g) := by
  refine .bind fun t => .bind fun next => .ite (fun _ => inferInstance) fun _ => ?_
  refine .ite (fun _ => inferInstance) fun _ => .ite (fun _ => inferInstance) fun _ => ?_
  extract_lets united opensParameters
  have : Moves (united ()) := inferInstanceAs (Moves (unionType g))
  have : Moves opensParameters := inferInstanceAs (Moves (fits _))
  infer_instance

instance : Moves (typeExpression g) := by
  refine .bind fun _ => .bind fun _ => .bind fun _ => ?_
  dsimp only
  infer_instance

end StaticContext.Script.Grammar
