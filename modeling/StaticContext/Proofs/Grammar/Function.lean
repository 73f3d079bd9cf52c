import StaticContext.Proofs.Grammar.TypeExpression
import StaticContext.Script.Grammar.Function

/-! # Functions keep to the text -/

namespace StaticContext.Script
open Reads

/-! ## Covered patterns -/

namespace Tree

variable {text : List Char}

/-- Another label for the same children. -/
theorem Faithful.relabel {l : Label} {ts : List Tree} (h : (node l ts).Faithful text) (l' : Label)
    (hl : l ≠ .typeOnly) (hl' : l'.isCall = false) : (node l' ts).Faithful text :=
  faithful_node hl' (h.children hl)

/-- A simple target is a pattern as it stands. -/
theorem eq_of_simpleTarget? {binds : Bool} {t p : Tree} (h : t.simpleTarget? binds = some p) :
    p = t := by
  unfold simpleTarget? at h
  split at h <;> cases h
  rfl

mutual

theorem Faithful.toPattern? {binds : Bool} {t p : Tree} (h : t.Faithful text)
    (hp : t.toPattern? binds = some p) : p.Faithful text := by
  rw [Tree.toPattern?.eq_def] at hp
  split at hp
  next l ts =>
  split at hp
  case h_2 ts =>
    obtain ⟨ps, hps, rfl⟩ := Option.map_eq_some_iff.mp hp
    exact faithful_node rfl (elementsToPatterns?_faithful (h.children nofun) hps)
  case h_3 ts =>
    obtain ⟨ps, hps, rfl⟩ := Option.map_eq_some_iff.mp hp
    exact faithful_node rfl (propertiesToPatterns?_faithful (h.children nofun) hps)
  all_goals
    first
    | exact eq_of_simpleTarget? hp ▸ h
    | cases hp; exact h.relabel _ nofun rfl
    | (split at hp <;> cases hp; exact h.relabel _ nofun rfl)
    | cases hp

theorem elementsToPatterns?_faithful {binds : Bool} {ts ps : List Tree}
    (h : ∀ t ∈ ts, t.Faithful text) (hp : elementsToPatterns? binds ts = some ps) :
    ∀ p ∈ ps, p.Faithful text := by
  rw [elementsToPatterns?.eq_def] at hp
  split at hp
  case h_1 =>
    cases hp
    nofun
  case h_2 rest =>
    obtain ⟨ht, hrest⟩ := List.forall_mem_cons.mp h
    obtain ⟨ps, hps, rfl⟩ := Option.map_eq_some_iff.mp hp
    exact List.forall_mem_cons.mpr ⟨ht, elementsToPatterns?_faithful hrest hps⟩
  case h_3 t =>
    obtain ⟨p, hcovered, rfl⟩ := Option.map_eq_some_iff.mp hp
    have ht := (h _ List.mem_cons_self).children nofun t List.mem_cons_self
    refine List.forall_mem_singleton.mpr (faithful_node rfl ?_)
    exact List.forall_mem_singleton.mpr (ht.toPattern? hcovered)
  case h_4 t rest _ _ =>
    obtain ⟨ht, hrest⟩ := List.forall_mem_cons.mp h
    split at hp <;> cases hp
    next p ps hp hps =>
    exact List.forall_mem_cons.mpr ⟨ht.toPattern? hp, elementsToPatterns?_faithful hrest hps⟩

theorem propertiesToPatterns?_faithful {binds : Bool} {ts ps : List Tree}
    (h : ∀ t ∈ ts, t.Faithful text) (hp : propertiesToPatterns? binds ts = some ps) :
    ∀ p ∈ ps, p.Faithful text := by
  rw [propertiesToPatterns?.eq_def] at hp
  split at hp
  case h_1 =>
    cases hp
    nofun
  case h_2 k t rest =>
    obtain ⟨ht, hrest⟩ := List.forall_mem_cons.mp h
    split at hp <;> cases hp
    next p ps hp hps =>
    have ht := ht.children nofun
    refine List.forall_mem_cons.mpr ⟨faithful_node rfl ?_, propertiesToPatterns?_faithful hrest hps⟩
    have := (ht t (by simp)).toPattern? hp
    simp [ht k (by simp), this]
  case h_3 =>
    obtain ⟨ht, hrest⟩ := List.forall_mem_cons.mp h
    obtain ⟨ps, hps, rfl⟩ := Option.map_eq_some_iff.mp hp
    refine List.forall_mem_cons.mpr ⟨ht.relabel _ nofun rfl, ?_⟩
    exact propertiesToPatterns?_faithful hrest hps
  case h_4 t =>
    obtain ⟨p, hcovered, rfl⟩ := Option.map_eq_some_iff.mp hp
    have ht := (h _ List.mem_cons_self).children nofun t List.mem_cons_self
    refine List.forall_mem_singleton.mpr (faithful_node rfl ?_)
    exact List.forall_mem_singleton.mpr (ht.toPattern? hcovered)
  case h_5 =>
    obtain ⟨ht, hrest⟩ := List.forall_mem_cons.mp h
    obtain ⟨ps, hps, rfl⟩ := Option.map_eq_some_iff.mp hp
    exact List.forall_mem_cons.mpr ⟨ht, propertiesToPatterns?_faithful hrest hps⟩
  case h_6 => cases hp

end

end Tree

namespace Grammar
open Script.Tree

variable {text : List Char} {g : Grammar} [g.Faithful text] {scope : Scope} {s : ReadState}

instance (isAsync isGenerator allowsSuper : Bool) :
    Keeps text (functionParts g isAsync isGenerator allowsSuper) fun ts =>
      ∀ t ∈ ts, t.Faithful text := by
  refine .withScope (h := .bind fun types htypes => .bind fun params hparams => ?_) _
  refine .bind fun result hresult => .bind fun _ _ => .bind fun _ _ => ?_
  extract_lets bodiless withBody
  have hbody (body : Tree) (hbody : body.Faithful text) :
      Keeps text (withBody body) fun ts => ∀ t ∈ ts, t.Faithful text :=
    .pure (by simp [hparams.1, hbody, htypes, hresult])
  exact .bind fun _ _ => .ite (fun _ => hbody _ (faithful_leaf _)) fun _ => .bind hbody

instance (declared isAsync : Bool) :
    Keeps text (functionTree g declared isAsync) (Compound text) := by
  refine .bind fun _ _ => .bind fun _ _ => .bind fun _ _ => ?_
  extract_lets named
  have hname (name : Tree) (hname : name.Faithful text) : Keeps text (named name) (Compound text) :=
    .bind fun _ hts => .pure ⟨faithful_node rfl (List.forall_mem_cons.mpr ⟨hname, hts⟩), rfl⟩
  exact .ite (fun _ => .bind hname) fun _ => hname _ (faithful_leaf _)

theorem arrowTree_keeps {params : List Tree} {types result : Tree} (isAsync : Bool)
    (hparams : ∀ t ∈ params, t.Faithful text) (htypes : types.Faithful text)
    (hresult : result.Faithful text) :
    Keeps text (arrowTree g isAsync params types result) (Compound text) := by
  refine .bind fun _ _ => ?_
  extract_lets withBody rest
  have hbody (body : Tree) (hbody : body.Faithful text) :
      Keeps text (withBody body) (Compound text) :=
    .pure ⟨faithful_node rfl (by simp [faithful_list hparams, hbody, htypes, hresult]), rfl⟩
  have hrest : Keeps text (rest ()) (Compound text) :=
    .bind fun _ _ => .bind fun _ _ => .ite (fun _ => .bind hbody) fun _ => .bind hbody
  exact .ite (fun _ => .bind fun _ _ => .bind fun _ _ => hrest) fun _ => hrest

theorem ensures_atArrow {Q : Bool → ReadState → Prop} (h : ∀ b, Q b s) : Ensures atArrow scope s Q :=
  ensures_bind.mpr (ensures_current.mpr (ensures_pure.mpr (h _)))

instance : Keeps text atArrow fun _ => True :=
  ⟨fun _ _ hs => ensures_atArrow fun _ => ⟨hs, trivial⟩⟩

theorem ensures_atAsyncFunction {Q : Bool → ReadState → Prop}
    (h : ∀ b : Bool, (b → s.token.isWord "async") → Q b s) : Ensures atAsyncFunction scope s Q := by
  refine ensures_bind.mpr (ensures_atWord.mpr (ensures_ite.mpr ⟨fun hasync => ?_, fun _ => ?_⟩))
  · exact ensures_bind.mpr (ensures_lookahead.mpr (ensures_pure.mpr (h _ fun _ => hasync)))
  · exact ensures_pure.mpr (h _ nofun)

instance : Keeps text atAsyncFunction fun _ => True :=
  ⟨fun _ _ hs => ensures_atAsyncFunction fun _ _ => ⟨hs, trivial⟩⟩

theorem toParameter_keeps {t : Tree} (start : Nat) (h : t.Faithful text) :
    Keeps text (toParameter start t) (Tree.Faithful text) := by
  unfold toParameter
  split
  · next hp => exact .pure (h.toPattern? hp)
  · exact .mono inferInstance nofun

theorem toParameters_keeps {items : List (Tree × Nat)} (h : ∀ item ∈ items, item.1.Faithful text) :
    Keeps text (toParameters items) fun ts => ∀ t ∈ ts, t.Faithful text := by
  induction items with
  | nil => exact .pure (List.forall_mem_nil _)
  | cons item items ih =>
    obtain ⟨hitem, hitems⟩ := List.forall_mem_cons.mp h
    have hmade : Keeps text (do
        let p ← toParameter item.2 item.1
        return p :: (← toParameters items)) fun ts => ∀ t ∈ ts, t.Faithful text :=
      .bind (h := toParameter_keeps _ hitem) fun t ht => .bind (h := ih hitems) fun ts hts =>
        .pure (List.forall_mem_cons.mpr ⟨ht, hts⟩)
    exact .ite (fun _ => .bind fun _ hfailed => hfailed.elim) fun _ => hmade

instance (isAsync : Bool) : Keeps text (typedArrow g isAsync) (Compound text) := by
  refine .bind fun types htypes => .bind fun params hparams => .bind fun result hresult => ?_
  refine .bind fun _ _ => ?_
  have := arrowTree_keeps (g := g) isAsync hparams.2 htypes hresult
  exact .ite (fun _ => this) fun _ => .bind fun _ _ => this

end Grammar
end StaticContext.Script
