import StaticContext.Proofs.CallText

/-! # Names, keys, targets and parameters keep to the text -/

namespace StaticContext.Script
open Reads Script.Tree

/-- The readers of a grammar keep their place and give trees that are faithful to the text. -/
class Grammar.Faithful (text : List Char) (g : Grammar) : Prop where
  item : Keeps text g.item (Tree.Faithful text)
  statement : Keeps text g.statement (Tree.Faithful text)
  assignment : Keeps text g.assignment (Tree.Faithful text)
  expression : Keeps text g.expression (Tree.Faithful text)
  operand : Keeps text g.operand (Tree.Faithful text)
  leftSide : Keeps text g.leftSide (Tree.Faithful text)
  binding : Keeps text g.binding (Tree.Faithful text)
  type : Keeps text g.type fun _ => True
  plainType : Keeps text g.plainType fun _ => True
  /-- The last `>` is left to take. -/
  element : ∀ scope s, s.Sited text → Ensures g.element scope s fun t s' =>
    (s'.Sited text ∧ t.Compound text) ∧ s'.token.isMark ">"

namespace Grammar

attribute [instance] Faithful.item Faithful.statement Faithful.assignment Faithful.expression
  Faithful.operand Faithful.leftSide Faithful.binding Faithful.type Faithful.plainType

variable {text : List Char} {g : Grammar} [g.Faithful text] {scope : Scope} {s : ReadState}

instance : Keeps text g.element (Compound text) :=
  ⟨fun scope s hs => (Faithful.element scope s hs).mono fun _ _ h => h.1⟩

/-! ## Names -/

/-- A name is checked where it stands. -/
theorem checkName_ensures (hs : s.Sited text) (name : String) (offset : Nat) :
    Ensures (checkName name offset) scope s fun _ s' => s'.Sited text ∧ s'.token = s.token := by
  rw [checkName, ensures_ite, ensures_ite]
  exact ⟨fun _ => ensures_report.mpr ⟨hs.note _, rfl⟩,
    fun _ => ⟨fun _ => ensures_report.mpr ⟨hs.note _, rfl⟩, fun _ => ensures_pure.mpr ⟨hs, rfl⟩⟩⟩

instance : Keeps text bindingName (Tree.Faithful text) := by
  refine ⟨fun scope s hs => ?_⟩
  rw [bindingName, ensures_bind, ensures_current]
  split
  · exact ensures_unexpected
  · next name hname =>
    have hright := Token.isRight_of_name? hname
    refine (checkName_ensures hs _ _).bind fun _ s₁ ⟨hs₁, heq⟩ => ?_
    rw [← heq] at hright
    extract_lets rest
    have hrest (s₂ : ReadState) (hs₂ : s₂.Sited text) (hright : s₂.token.kind.isRight) :
        Ensures (rest ()) scope s₂ fun t s' => s'.Sited text ∧ t.Faithful text :=
      .take hs₂ hright fun hs => ensures_pure.mpr ⟨hs, faithful_leaf _⟩
    rw [ensures_ite]
    exact ⟨fun _ => ensures_bind.mpr (ensures_report.mpr (hrest _ (hs₁.note _) hright)),
      fun _ => hrest s₁ hs₁ hright⟩

instance : Keeps text anyName fun _ => True := by
  refine ⟨fun scope s hs => ?_⟩
  rw [anyName, ensures_bind, ensures_current]
  split
  · exact ensures_fail
  · next hword =>
    exact .take hs (Token.isRight_of_word? hword) fun hs => ensures_pure.mpr ⟨hs, trivial⟩

instance : Keeps text (key g) (Tree.Faithful text) := by
  refine ⟨fun scope s hs => ?_⟩
  rw [key, ensures_bind, ensures_current]
  split
  · next hkind => exact .take hs (by rw [hkind]; rfl) fun hs => ensures_pure.mpr ⟨hs, faithful_leaf _⟩
  · next hkind => exact .take hs (by rw [hkind]; rfl) fun hs => ensures_pure.mpr ⟨hs, faithful_leaf _⟩
  · next hkind => exact .take hs (by rw [hkind]; rfl) fun hs => ensures_pure.mpr ⟨hs, faithful_leaf _⟩
  · next hkind =>
    refine .take hs (by rw [hkind]; rfl) fun hs => .step hs fun e s hs he => .step hs fun _ s hs _ => ?_
    exact ensures_pure.mpr ⟨hs, faithful_node rfl (by simp [he])⟩
  · exact ensures_unexpected

/-! ## Targets of declarations -/

instance : Keeps text (ascription g) (Tree.Faithful text) :=
  .bind fun _ _ => .ite
    (fun _ => .bind fun _ _ => .ite
      (fun _ => .bind fun _ _ => .pure (faithful_typeOnly _)) fun _ => .pure (faithful_leaf _))
    fun _ => .pure (faithful_leaf _)

instance : Keeps text optionalMark fun _ => True :=
  .bind fun _ _ => .ite (fun _ => inferInstance) fun _ => .pure trivial

theorem faithful_typed {pattern type : Tree} {isOptional : Bool} (hpattern : pattern.Faithful text)
    (htype : type.Faithful text) : (typed pattern isOptional type).Faithful text := by
  rw [typed]
  split
  · exact faithful_node rfl (by simp [hpattern, htype])
  · exact hpattern

theorem defaulted_keeps {pattern : Tree} (h : pattern.Faithful text) :
    Keeps text (defaulted g pattern) (Tree.Faithful text) :=
  .bind fun _ _ => .ite
    (fun _ => .bind fun value hvalue => .pure (faithful_node rfl (by simp [h, hvalue])))
    fun _ => .pure h

instance : Keeps text (bindingElement g) (Tree.Faithful text) :=
  .bind fun _ ht => defaulted_keeps ht

instance (close : String) : Keeps text (checkNoComma close) fun _ => True :=
  .bind fun _ _ => .bind fun _ _ => .ite (fun _ => inferInstance) fun _ => .pure trivial

instance (cause : Cause) (close : String) (start : Nat) :
    Keeps text (checkLast cause close start) fun _ => True := by
  refine .bind fun _ _ => .bind fun _ _ => ?_
  exact .ite (fun _ => .bind fun _ _ => inferInstance) fun _ => inferInstance

instance (close : String) : Keeps text (restElement g close) (Tree.Faithful text) :=
  .bind fun _ _ => .bind fun _ ht => .bind fun _ _ => .pure (faithful_node rfl (by simp [ht]))

instance : Keeps text (arrayPattern g) (Tree.Faithful text) := by
  refine .bind fun _ _ => .bind (P := fun ts => ∀ t ∈ ts, t.Faithful text)
    (h := .loop (fun done => ∀ t ∈ done, t.Faithful text) nofun fun done hdone => ?_)
    fun ts hts => .pure (faithful_node rfl hts)
  have hcons {t : Tree} (ht : t.Faithful text) : ∀ u ∈ t :: done, u.Faithful text :=
    List.forall_mem_cons.mpr ⟨ht, hdone⟩
  refine .bind fun _ _ => .ite (fun _ => .pure fun t ht => hdone t (List.mem_reverse.mp ht)) ?_
  refine fun _ => .bind fun _ _ => .ite (fun _ => .pure (hcons (faithful_leaf _))) fun _ => ?_
  refine .bind fun _ _ => ?_
  extract_lets rest
  have hrest (t : Tree) (ht : t.Faithful text) :
      Keeps text (rest t) (Sum.elim (fun done => ∀ t ∈ done, t.Faithful text)
        fun ts => ∀ t ∈ ts, t.Faithful text) :=
    .bind fun _ _ => .ite (fun _ => .pure (hcons ht)) fun _ => .bind fun _ _ => .pure (hcons ht)
  exact .ite (fun _ => .bind hrest) fun _ => .bind hrest

instance : Keeps text (patternProperty g) (Tree.Faithful text) := by
  refine .bind fun _ _ => .ite (fun _ => inferInstance) fun _ => .bind fun _ _ => .bind fun _ _ => ?_
  refine .ite (fun _ => .bind fun _ ht => defaulted_keeps ht) fun _ => .bind fun k hk => ?_
  exact .bind fun _ _ => .bind fun t ht => .pure (faithful_node rfl (by simp [hk, ht]))

instance : Keeps text (objectPattern g) (Tree.Faithful text) :=
  .bind fun _ _ => .bind fun _ hts => .pure (faithful_node rfl hts)

instance : Keeps text (bindingTarget g) (Tree.Faithful text) :=
  .bind fun _ _ => .ite (fun _ => inferInstance) fun _ => .bind fun _ _ =>
    .ite (fun _ => inferInstance) fun _ => inferInstance

/-! ## Parameters -/

instance (allowed : List String) : Keeps text (modifiers allowed) fun _ => True := by
  refine .bind (P := fun _ => True) (h := .loop (fun _ => True) trivial
    fun done _ => ⟨fun scope s hs => ?_⟩) fun _ _ => .pure trivial
  refine ensures_bind.mpr (ensures_lookahead.mpr ?_)
  extract_lets modifies
  refine ensures_bind.mpr (ensures_atAnyWord.mpr (ensures_ite.mpr ⟨fun h => ?_, fun _ => ?_⟩))
  · simp only [Bool.and_eq_true] at h
    exact .take hs (Token.isRight_of_isAnyWord h.1.1) fun hs => ensures_pure.mpr ⟨hs, trivial⟩
  · exact ensures_pure.mpr ⟨hs, trivial⟩

instance : Keeps text (parameter g) (Tree.Faithful text) := by
  refine .bind fun _ _ => .ite (fun _ => .bind fun _ _ => .bind fun p hp => ?_) fun _ => ?_
  · refine .bind fun type htype => .bind fun _ _ => .pure (faithful_node rfl ?_)
    simp [faithful_typed hp htype]
  refine .bind fun _ _ => ?_
  extract_lets withModifiers
  have hmodifiers (mods : Modifiers) : Keeps text (withModifiers mods) (Tree.Faithful text) := by
    refine ⟨fun scope s hs => ensures_bind.mpr (ensures_atWord.mpr ?_)⟩
    extract_lets withTarget
    have htarget (p : Tree) (hp : p.Faithful text) :
        Keeps text (withTarget p) (Tree.Faithful text) := by
      refine .bind fun _ _ => .bind fun type htype => ?_
      refine .bind (h := defaulted_keeps (faithful_typed hp htype)) fun p hp => .pure ?_
      split
      · exact hp
      · exact faithful_node rfl (by simp [hp])
    refine ensures_ite.mpr ⟨fun h => ?_, fun _ => .step hs fun p s hs hp => ?_⟩
    · exact .take hs (Token.isRight_of_isWord h) fun hs => (htarget _ (faithful_leaf _)).ensures _ _ hs
    · exact (htarget p hp).ensures _ s hs
  exact .ite (fun _ => .bind fun mods _ => hmodifiers mods) fun _ => hmodifiers _

/-- Parameters come as a list. -/
instance : Keeps text (parameters g) fun t =>
    t.Faithful text ∧ ∀ u ∈ t.children, u.Faithful text :=
  .bind fun _ _ => .bind fun _ hts => .pure ⟨faithful_node rfl hts, hts⟩

instance : Keeps text (typeParameters g) (Tree.Faithful text) := by
  refine .bind fun _ _ => .ite (fun _ => .bind fun _ _ => .ite (fun _ => ?_)
    fun _ => .pure (faithful_leaf _)) fun _ => .pure (faithful_leaf _)
  refine .bind (h := .listed (P := fun _ => True) (h := ?_) _) fun _ _ => .pure (faithful_typeOnly _)
  refine .bind (P := fun _ => True) (h := .loop (fun _ => True) trivial
    fun done _ => ⟨fun scope s hs => ?_⟩) fun _ _ => .bind fun _ _ => .bind fun _ _ => ?_
  · refine ensures_bind.mpr (ensures_atAnyWord.mpr (ensures_bind.mpr (ensures_lookahead.mpr ?_)))
    refine ensures_ite.mpr ⟨fun h => ?_, fun _ => ensures_pure.mpr ⟨hs, trivial⟩⟩
    rw [Bool.and_eq_true] at h
    exact .take hs (Token.isRight_of_isAnyWord h.1) fun hs => ensures_pure.mpr ⟨hs, trivial⟩
  · extract_lets withBound
    have hbound (bound : Tree) (_ : True) : Keeps text (withBound bound) fun _ => True :=
      .bind fun _ _ => .ite (fun _ => .bind fun _ _ => .pure trivial) fun _ => .pure trivial
    exact .ite (fun _ => .bind hbound) fun _ => hbound _ trivial

instance : Keeps text (typeArguments g) (Tree.Faithful text) :=
  .bind fun _ _ => .bind fun _ _ => .pure (faithful_typeOnly _)

instance : Keeps text (resultOrPredicate g) fun _ => True := by
  refine ⟨fun scope s hs => ?_⟩
  refine ensures_bind.mpr (ensures_current.mpr (ensures_bind.mpr (ensures_lookahead.mpr ?_)))
  refine ensures_ite.mpr ⟨fun h => ?_, fun _ => ensures_ite.mpr ⟨fun _ => ?_, fun _ => ?_⟩⟩
  · simp only [Bool.and_eq_true] at h
    refine .take hs (Token.isRight_of_isWord h.1.1.1) fun hs => .step hs fun _ s hs _ => ?_
    refine .step hs fun _ s hs _ => ensures_ite.mpr ⟨fun _ => ?_, fun _ => ?_⟩
    · exact .step hs fun _ s hs _ => ensures_pure.mpr ⟨hs, trivial⟩
    · exact ensures_pure.mpr ⟨hs, trivial⟩
  · refine .step hs fun _ s hs _ => .step hs fun _ s hs _ => .step hs fun _ s hs _ => ?_
    exact ensures_pure.mpr ⟨hs, trivial⟩
  · exact Faithful.type.ensures _ _ hs

instance : Keeps text (resultType g) (Tree.Faithful text) :=
  .bind fun _ _ => .ite
    (fun _ => .bind fun _ _ => .ite
      (fun _ => .bind fun _ _ => .pure (faithful_typeOnly _)) fun _ => .pure (faithful_leaf _))
    fun _ => .pure (faithful_leaf _)

/-! ## Blocks -/

instance : Keeps text (blockRest g) fun ts => ∀ t ∈ ts, t.Faithful text := by
  refine ⟨fun scope s hs => ?_⟩
  refine (ensures_many (T := fun s => s.token.isMark "\x7d" ∨ s.token.kind = .textEnd) hs
    fun s hs => ?_).bind fun body s ⟨⟨hs, hbody⟩, hend⟩ => ?_
  · refine ensures_bind.mpr (ensures_atMark.mpr (ensures_bind.mpr (ensures_current.mpr ?_)))
    exact ensures_pure.mpr ⟨hs, by simp⟩
  · refine ensures_bind.mpr (ensures_get.mpr ?_)
    extract_lets rest
    have hrest (s : ReadState) (hs : s.Sited text) :
        Ensures (rest ()) scope s fun ts s' => s'.Sited text ∧ ∀ t ∈ ts, t.Faithful text :=
      ensures_pure.mpr ⟨hs, hbody⟩
    refine ensures_ite.mpr ⟨fun _ => .step hs fun _ s hs _ => hrest s hs, fun htext => ?_⟩
    exact .take hs (Token.isRight_of_isMark (hend.resolve_right htext)) fun hs => hrest _ hs

instance : Keeps text (block g) (Tree.Faithful text) :=
  .bind fun _ _ => .bind fun _ hts => .pure (faithful_node rfl hts)

/-! ## Templates -/

/-- A template is read from its back quote on. -/
theorem templateParts_ensures {item : Reads Tree} {P : Tree → Prop} [Keeps text item P]
    (hs : s.Sited text) (hright : s.token.kind.isRight) :
    Ensures (templateParts item) scope s fun parts s' => s'.Sited text ∧ ∀ t ∈ parts.2, P t := by
  refine ensures_bind.mpr (ensures_current.mpr ((ensures_advanceRaw hs hright).bind fun c s hc => ?_))
  refine ensures_loop (fun r _ => r.1.Free text ∧ ∀ t ∈ r.2.2, P t) ⟨hc, nofun⟩ ?_
  rintro ⟨c, pieces, items⟩ s ⟨⟨before, hc, -⟩, hitems⟩
  dsimp only
  split
  · exact ensures_failAt
  · next n closed hpiece =>
    have hends := Lexeme.templatePiece_ends hpiece
    refine ensures_ite.mpr ⟨fun hclosed => ?_, fun hclosed => ?_⟩
    · subst hclosed
      refine (ensures_resume (hc.free_skip hends (by decide))).bind fun _ s hs => ensures_pure.mpr ?_
      exact ⟨hs, fun t ht => hitems t (List.mem_reverse.mp ht)⟩
    · obtain rfl := Bool.eq_false_iff.mpr hclosed
      refine (ensures_resume (hc.free_skip hends (by decide))).bind fun _ s hs => ?_
      refine .step hs fun t s hs ht => ensures_bind.mpr (ensures_atMark.mpr ?_)
      refine ensures_ite.mpr ⟨fun h => ?_, fun h => ?_⟩
      · refine (ensures_advanceRaw hs (Token.isRight_of_isMark h)).bind fun d s hd => ?_
        exact ensures_pure.mpr ⟨hd, List.forall_mem_cons.mpr ⟨ht, hitems⟩⟩
      · exact ensures_bind.mpr (ensures_expectMark.mpr fun h' => absurd h' h)

end Grammar
end StaticContext.Script
