import StaticContext.Proofs.Grammar.Function
import StaticContext.Script.Grammar.Class

/-! # Classes keep to the text -/

namespace StaticContext.Script.Grammar
open Reads Script.Tree

variable {text : List Char} {g : Grammar} [g.Faithful text]

theorem classField_keeps {key : Tree} (mods : Modifiers) (mark : String) (h : key.Faithful text) :
    Keeps text (classField g mods key mark) (Tree.Faithful text) := by
  refine .bind fun type htype => .bind fun _ _ => ?_
  extract_lets withValue
  have hvalue (value : Tree) (hvalue : value.Faithful text) :
      Keeps text (withValue value) (Tree.Faithful text) :=
    .bind fun _ _ => .pure (faithful_node rfl (by simp [h, htype, hvalue]))
  exact .ite (fun _ => .bind hvalue) fun _ => hvalue _ (faithful_leaf _)

instance (kind : MethodKind) (isAsync isGenerator : Bool) (start : Nat) :
    Keeps text (checkConstructor kind isAsync isGenerator start) fun _ => True :=
  .ite (fun _ => .mono inferInstance nofun) fun _ => .ite (fun _ => .mono inferInstance nofun) fun _ =>
    .ite (fun _ => .mono inferInstance nofun) fun _ => .pure trivial

instance (mods : Modifiers) : Keeps text (namedMember g mods) (Tree.Faithful text) := by
  refine ⟨fun scope s hs => ?_⟩
  refine ensures_bind.mpr (ensures_current.mpr (ensures_bind.mpr (ensures_lookahead.mpr ?_)))
  extract_lets isAsync named
  have hnamed : Keeps text (named ()) (Tree.Faithful text) := by
    refine .bind fun isGenerator _ => ⟨fun scope s hs => ?_⟩
    refine ensures_bind.mpr (ensures_current.mpr (ensures_bind.mpr (ensures_lookahead.mpr ?_)))
    extract_lets kind keyed
    have hkeyed : Keeps text (keyed ()) (Tree.Faithful text) := by
      refine .bind fun _ _ => .bind fun k hk => ?_
      extract_lets isConstructor kind checked
      have hchecked : Keeps text (checked ()) (Tree.Faithful text) := by
        refine .bind fun _ _ => .bind fun _ _ => .bind fun _ _ => ?_
        extract_lets field
        refine .ite (fun _ => .bind fun ts hts => ?_) fun _ => .bind fun _ _ => ?_
        · exact .pure (faithful_node rfl (List.forall_mem_cons.mpr ⟨hk, hts⟩))
        · have hfield (isDefinite : Bool) : Keeps text (field isDefinite) (Tree.Faithful text) :=
            classField_keeps _ _ hk
          exact .ite (fun _ => .bind fun _ _ => hfield _) fun _ => hfield _
      exact .ite (fun _ => .bind fun _ _ => hchecked) fun _ => hchecked
    refine ensures_ite.mpr ⟨fun _ => hkeyed.ensures _ _ hs, fun h => ?_⟩
    exact .take hs (isRight_of_memberKind h) fun hs => hkeyed.ensures _ _ hs
  refine ensures_ite.mpr ⟨fun h => ?_, fun _ => hnamed.ensures _ _ hs⟩
  simp only [isAsync, Bool.and_eq_true] at h
  exact .take hs (Token.isRight_of_isWord h.1.1) fun hs => hnamed.ensures _ _ hs

instance : Keeps text (classMember g) (Tree.Faithful text) := by
  refine .bind fun _ _ => .bind fun mods _ => .bind fun _ _ => .ite (fun _ => ?_) fun _ => ?_
  · exact .bind fun body hbody => .pure (faithful_node rfl (by simp [hbody]))
  · refine .bind fun _ _ => .bind fun _ _ => .ite (fun _ => ?_) fun _ => inferInstance
    exact .bind fun _ _ => .bind fun _ _ => .pure (faithful_typeOnly _)

instance : Keeps text (classMembers g) fun ts => ∀ t ∈ ts, t.Faithful text := by
  refine .bind fun _ _ => .loop (fun r : List Tree × Bool => ∀ t ∈ r.1, t.Faithful text)
    (List.forall_mem_nil _) fun r hdone => ?_
  obtain ⟨done, hasConstructor⟩ := r
  refine .bind fun _ _ => .ite (fun _ => .pure fun t ht => hdone t (List.mem_reverse.mp ht)) ?_
  refine fun _ => .bind fun _ _ => .ite (fun _ => .pure hdone) fun _ => .bind fun _ _ => ?_
  refine .bind fun m hm => ?_
  have hcons : ∀ t ∈ m :: done, t.Faithful text := List.forall_mem_cons.mpr ⟨hm, hdone⟩
  exact .ite (fun _ => .bind fun _ _ => .pure hcons) fun _ => .pure hcons

instance : Keeps text (superTypes.superType g) fun _ => True := by
  unfold superTypes.superType
  infer_instance

instance : Keeps text (superTypes g) (Tree.Faithful text) :=
  .bind fun _ _ => .bind fun _ _ => .pure (faithful_typeOnly _)

instance (declared isAbstract : Bool) :
    Keeps text (classTree g declared isAbstract) (Compound text) := by
  refine .bind fun _ _ => .bind fun t _ => .bind fun s _ => ?_
  extract_lets types isNamed named
  have hnamed (name : Tree) (hname : name.Faithful text) :
      Keeps text (named name) (Compound text) := by
    refine .bind fun typeParams htypeParams => .bind fun _ _ => ?_
    extract_lets based
    have hbased (base baseArgs : Tree) (hbase : base.Faithful text)
        (hbaseArgs : baseArgs.Faithful text) : Keeps text (based (base, baseArgs)) (Compound text) := by
      refine .bind fun _ _ => ?_
      extract_lets joined
      have hjoined (interfaces : Tree) (hinterfaces : interfaces.Faithful text) :
          Keeps text (joined interfaces) (Compound text) := by
        refine .bind fun members hmembers => .pure ⟨faithful_node rfl ?_, rfl⟩
        simp [hname, faithful_list hmembers, hbase, htypeParams, hbaseArgs, hinterfaces]
      exact .ite (fun _ => .bind hjoined) fun _ => hjoined _ (faithful_leaf _)
    refine .ite (fun _ => .bind fun base hbase => ?_) fun _ => ?_
    · split
      · next e args =>
        have hchildren := hbase.children nofun
        exact hbased e args (hchildren e (by simp)) (hchildren args (by simp))
      · exact .ite (fun _ => .bind fun args hargs => hbased _ _ hbase hargs)
          fun _ => hbased _ _ hbase (faithful_leaf _)
    · exact hbased _ _ (faithful_leaf _) (faithful_leaf _)
  exact .ite (fun _ => .bind hnamed) fun _ => hnamed _ (faithful_leaf _)

end StaticContext.Script.Grammar
