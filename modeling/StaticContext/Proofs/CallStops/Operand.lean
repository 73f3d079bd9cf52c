import StaticContext.Proofs.CallStops.Function

/-! # Calls in elements and operands

A call stops at the parenthesis that closes its arguments, behind every call at hand. -/

namespace StaticContext.Script.Grammar
open Reads Script.Tree ReadState

variable {g : Grammar} [g.Collecting] {held : List Tree} {first : Nat} {scope : Scope} {s : ReadState}

/-! ## Elements -/

instance : Collects held elementWord fun _ => held := by
  refine ⟨fun first scope s hs => ensures_bind.mpr (ensures_current.mpr ?_)⟩
  split
  · next h =>
    have hright : s.token.kind.isRight := by rw [h]; rfl
    refine (ensures_reread_holds hs hright dashedName_fits).bind fun t s hs => ?_
    exact .collect hs fun _ s hs => ensures_pure.mpr hs
  · exact ensures_unexpected

instance : Moves elementWord := .of_collects

instance : Moves tagName := by
  unfold tagName
  infer_instance

/-- The closing brace is left to take. -/
theorem container_holds (hs : s.Holds first held) : Ensures (container g) scope s fun t s' =>
    s'.Holds first (t :: held) ∧ s'.token.isMark "\x7d" := by
  refine .collect hs fun _ s hs => .collect hs fun _ s hs => ensures_ite.mpr ⟨fun _ => ?_, fun _ => ?_⟩
  · refine .collect hs fun e s hs => ensures_atMark_only fun h => ensures_pure.mpr ?_
    exact ⟨hs.covers (by simp), h⟩
  · refine ensures_bind.mpr (ensures_atMark.mpr (ensures_ite.mpr ⟨fun h => ensures_pure.mpr ?_, ?_⟩))
    · exact ⟨hs.covers (by simp), h⟩
    refine fun _ => .collect hs fun e s hs => ensures_atMark_only fun h => ensures_pure.mpr ?_
    exact ⟨hs.covers (by simp), h⟩

instance : Collects held (container g) fun t => t :: held :=
  ⟨fun _ _ _ hs => (container_holds hs).mono fun _ _ h => h.1⟩

/-- A value is read behind the `=`. -/
theorem attributeValue_holds (hs : s.Holds first held) (hright : s.token.kind.isRight) :
    Ensures (attributeValue g) scope s fun t s' => s'.Holds first (t :: held) := by
  refine (ensures_advanceRaw_between hs hright).bind fun c s hc => ?_
  have hrest (s : ReadState) : Ensures (do
      resume c
      if ← atMark "<" then
        let e ← g.element
        expectMark ">"
        return e
      let e ← container g
      expectMark "\x7d"
      return e) scope s fun t s' => s'.Holds first (t :: held) := by
    have hread : Collects held (do
        if ← atMark "<" then
          let e ← g.element
          expectMark ">"
          return e
        let e ← container g
        expectMark "\x7d"
        return e) fun t => t :: held :=
      .bind fun _ => .ite (fun _ => .bind fun _ => .bind fun _ => .pure fun _ => le_rfl)
        fun _ => .bind fun _ => .bind fun _ => .pure fun _ => le_rfl
    exact (ensures_resume_holds hc).bind fun _ s hs => hread.ensures first scope s hs
  extract_lets d rest
  have hd : c.offset ≤ d.offset := by
    unfold d
    split
    · next hskip =>
      obtain ⟨gap, hskips, -⟩ := Gap.skip_ok hskip
      exact hskips.offset_eq ▸ Nat.le_add_right ..
    · exact le_rfl
  split
  · next q more hmore =>
    refine ensures_ite.mpr ⟨fun hq => ?_, fun _ => hrest s⟩
    extract_lets content
    refine ensures_ite.mpr ⟨fun _ => ensures_bind.mpr ensures_failAt, fun _ => ?_⟩
    have hlast : c.offset ≤ (d.skip (content.length + 2)).offset := hd.trans (Nat.le_add_right ..)
    refine (ensures_resume_holds (hc.mono hlast fun _ => le_rfl)).bind fun _ s hs => ?_
    exact ensures_pure.mpr (hs.covers (by simp))
  · exact hrest s

instance : Collects held (attributeTree g) fun t => t :: held := by
  refine .bind fun _ => .ite (fun _ => .bind fun _ => .bind fun e => .bind fun _ => ?_) fun _ => ?_
  · exact .pure (by simp)
  refine .bind fun first => .bind fun _ => ?_
  extract_lets named
  have hnamed (name : String) : Collects held (named name) fun t => t :: held := by
    refine ⟨fun first scope s hs => ensures_bind.mpr (ensures_atMark.mpr ?_)⟩
    extract_lets valued
    have hvalued (value : Tree) : Collects (value :: held) (valued value) fun t => t :: held :=
      .pure (by simp)
    refine ensures_ite.mpr ⟨fun h => ?_, fun _ => ?_⟩
    · exact (attributeValue_holds hs (Token.isRight_of_isMark h)).bind fun value s hs =>
        (hvalued value).ensures first scope s hs
    · exact (hvalued .absent).ensures first scope s (hs.covers (by simp))
  exact .ite (fun _ => .bind fun _ => hnamed _) fun _ => hnamed _

theorem elementChildren_holds (hs : s.Holds first held) (hright : s.token.kind.isRight) (tag : String) :
    Ensures (elementChildren g tag) scope s fun ts s' =>
      s'.Holds first (ts ++ held) ∧ s'.token.isMark ">" := by
  refine (ensures_advanceRaw_between hs hright).bind fun c s hc => ?_
  refine ensures_loop (fun (r : Cursor × List Tree) _ => Between first (r.2 ++ held) r.1.offset) hc ?_
  rintro ⟨c, done⟩ s hc
  dsimp -zeta only at hc ⊢
  extract_lets content done' d closed further
  have hdone' : Covers (done ++ held) (done' ++ held) := by
    unfold done'
    split <;> simp
  have hd : Between first (done' ++ held) d.offset := hc.mono (Nat.le_add_right ..) hdone'
  refine ensures_ite.mpr ⟨fun _ => ensures_bind.mpr ensures_failAt, fun _ => ?_⟩
  refine (ensures_resume_holds hd).bind fun _ s hs => ensures_bind.mpr (ensures_atMark.mpr ?_)
  refine ensures_ite.mpr ⟨fun _ => ?_, fun _ => ?_⟩
  · refine (container_holds hs).bind fun child s ⟨hs, hmark⟩ => ?_
    refine (ensures_advanceRaw_between hs (Token.isRight_of_isMark hmark)).bind fun c s hc => ?_
    exact ensures_pure.mpr hc
  refine .collect hs fun start s hs => .collect hs fun _ s hs => ensures_ite.mpr ⟨fun _ => ?_, fun _ => ?_⟩
  · refine .collect hs fun _ s hs => .collect hs fun _ s hs => .collect hs fun _ s hs => ?_
    extract_lets ended
    have hended (closing : String) (s : ReadState) (hs : s.Holds first (done' ++ held)) :
        Ensures (ended closing) scope s fun r s' =>
          r.elim (fun r => Between first (r.2 ++ held) r.1.offset) fun ts =>
            s'.Holds first (ts ++ held) ∧ s'.token.isMark ">" := by
      refine ensures_atMark_only fun h => ?_
      refine ensures_ite.mpr ⟨fun _ => ensures_bind.mpr ensures_failAt, fun _ => ?_⟩
      exact ensures_pure.mpr ⟨hs.covers (by simp), h⟩
    exact ensures_ite.mpr ⟨fun _ => hended _ s hs, fun _ => .collect hs fun _ s hs => hended _ s hs⟩
  · refine (Collecting.element first _ scope s hs).bind fun child s ⟨hs, hmark⟩ => ?_
    refine (ensures_advanceRaw_between hs (Token.isRight_of_isMark hmark)).bind fun c s hc => ?_
    exact ensures_pure.mpr hc

theorem elementTree_holds (hs : s.Holds first held) : Ensures (elementTree g) scope s fun t s' =>
    s'.Holds first (t :: held) ∧ s'.token.isMark ">" := by
  refine .collect hs fun _ s hs => ensures_bind.mpr (ensures_atMark.mpr ?_)
  refine ensures_ite.mpr ⟨fun h => ?_, fun _ => ?_⟩
  · refine (elementChildren_holds hs (Token.isRight_of_isMark h) "").bind fun ts s hts => ?_
    exact ensures_pure.mpr ⟨hts.1.covers (by simp), hts.2⟩
  refine .collect hs fun tag s hs => .collect hs fun _ s hs => .collect hs fun _ s hs => ?_
  extract_lets applied
  have happlied (typeArgs : Tree) (s : ReadState) (hs : s.Holds first (typeArgs :: held)) :
      Ensures (applied typeArgs) scope s fun t s' =>
        s'.Holds first (t :: held) ∧ s'.token.isMark ">" := by
    refine (ensures_many_holds (T := fun s => s.token.isMark ">" ∨ s.token.isMark "/") hs
      fun _ s hs => ?_).bind fun attributes s ⟨hs, hend⟩ => ?_
    · refine ensures_bind.mpr (ensures_atMark.mpr (ensures_bind.mpr (ensures_atMark.mpr ?_)))
      exact ensures_pure.mpr ⟨hs, by simp⟩
    refine ensures_bind.mpr (ensures_eatMark.mpr ⟨fun h => ?_, fun h => ?_⟩)
    · refine ensures_atMark_only fun h' => ensures_pure.mpr ⟨?_, h'⟩
      exact hs.advanced.covers (by simp +arith)
    · refine (elementChildren_holds hs (Token.isRight_of_isMark (hend.resolve_right h)) tag).bind
        fun children s hchildren => ensures_pure.mpr ⟨hchildren.1.covers ?_, hchildren.2⟩
      simp +arith
  refine ensures_ite.mpr ⟨fun _ => .collect hs fun typeArgs s hs => happlied _ s hs, fun _ => ?_⟩
  exact happlied _ s (hs.covers (by simp))

/-! ## Literals -/

theorem templateTree_holds (hs : s.Holds first held) (hright : s.token.kind.isRight) :
    Ensures (templateTree g) scope s fun t s' => s'.Holds first (t :: held) := by
  have hitem : ∀ held, Collects held (Reads.enclosed g.expression) fun t => [t] ++ held :=
    fun _ => inferInstance
  refine (templateParts_holds hs hright).bind fun _ _ hs => ensures_pure.mpr (hs.covers ?_)
  simp

instance : Collects held (argument g) fun t => t :: held :=
  .bind fun _ => .ite (fun _ => .bind fun _ => .pure (by simp)) fun _ => inferInstance

/-- The arguments end behind every call at hand. -/
theorem arguments_holds (hs : s.Holds first held) : Ensures (arguments g) scope s fun t s' =>
    s'.Holds first (t :: held) ∧ ∃ last < s'.lastStop, Between first (t :: held) last := by
  refine .collect hs fun _ s hs => ensures_bind.mpr ?_
  refine (ensures_withScope.mpr (ensures_listed ")" hs)).mono fun ts s h => ensures_pure.mpr ?_
  obtain ⟨hs, hclosed⟩ := h
  obtain ⟨last, hlast, hbetween⟩ := hclosed rfl
  exact ⟨hs.covers (by simp), last, hlast, hbetween.mono le_rfl (by simp)⟩

instance : Collects held (arguments g) fun t => t :: held :=
  ⟨fun _ _ _ hs => (arguments_holds hs).mono fun _ _ h => h.1⟩

instance : Collects held (arrayLiteral g) fun t => t :: held := by
  refine .bind fun _ => .bind (k := fun ts => ts ++ held) (h := .enclosed (h := ?_)) fun ts =>
    .pure (by simp)
  refine .loop (a := []) (fun done => done ++ held) fun done => ?_
  refine .bind fun _ => .ite (fun _ => .pure (by simp)) fun _ => ?_
  refine .bind fun _ => .ite (fun _ => .pure (by simp)) fun _ => .bind fun t => .bind fun _ => ?_
  exact .ite (fun _ => .pure (by simp)) fun _ => .bind fun _ => .pure (by simp)

instance : Collects held variableName fun t => t :: held := by
  refine .bind fun t => ?_
  split
  · exact .fail
  · exact .bind fun _ => .bind fun _ => .pure (by simp)

instance : Collects held (objectMember g) fun t => t :: held := by
  refine .bind fun _ => .ite (fun _ => .bind fun e => .pure (by simp)) fun _ => ?_
  refine .bind fun _ => .bind fun _ => ?_
  extract_lets isAsync named
  have hnamed : Collects held (named ()) fun t => t :: held := by
    refine .bind fun _ => .bind fun _ => .bind fun _ => ?_
    extract_lets kind keyed
    have hkeyed : Collects held (keyed ()) fun t => t :: held := by
      refine .bind fun _ => .bind fun _ => .ite (fun _ => .bind fun name => .bind fun _ => ?_) fun _ => ?_
      · exact .ite (fun _ => .bind fun e => .pure (by simp +arith)) fun _ => .pure (by simp)
      · refine .bind fun k => .bind fun _ => .bind fun _ => .ite (fun _ => ?_) fun _ => ?_
        · exact .bind fun ts => .pure (by simp +arith)
        · exact .bind fun _ => .bind fun e => .pure (by simp +arith)
    exact .ite (fun _ => hkeyed) fun _ => .bind fun _ => hkeyed
  exact .ite (fun _ => .bind fun _ => hnamed) fun _ => hnamed

instance : Collects held (objectLiteral g) fun t => t :: held :=
  .bind fun _ => .bind fun _ => .pure (by simp)

/-! ## Parentheses and arrows -/

instance : Collects held optionalName? fun o => o.toList ++ held := by
  refine .bind fun _ => .bind fun _ => .ite (fun _ => ?_) fun _ => .pure (by simp)
  refine .attempt? (h := .bind fun name => .bind fun _ => .bind fun _ => ?_)
  exact .ite (fun _ => .pure (by simp)) fun _ => .bind fun _ => .pure (by simp)

instance : Collects held (parenItem g) fun r => r.1 :: held := by
  refine .bind fun _ => .bind fun _ => .ite (fun _ => .bind fun p => .bind fun type => ?_) fun _ => ?_
  · exact .of_more (.bind fun _ => .pure (by simp)) (covers_typed p false type)
  have hdefaulted (p : Tree) (isOptional : Bool) (start : Nat) : Collects (p :: held) (do
      let type ← ascription g
      return (← defaulted g (typed p isOptional type), start, true)) fun r => r.1 :: held :=
    .bind fun type => .of_more (.bind fun _ => .pure (by simp)) (covers_typed p isOptional type)
  refine .bind fun o => ?_
  cases o with
  | some name => exact hdefaulted name true _
  | none =>
    refine .bind fun e => .bind fun _ => .bind fun _ => .ite (fun _ => ?_) fun _ => .pure (by simp)
    exact .bind fun p => hdefaulted p false _

instance : Collects held (parenItems g) fun r => r.1.map (·.1) ++ held := by
  refine .bind fun _ => .enclosed (h := .loop (a := ([], false))
    (fun r : List (Tree × Nat) × Bool => r.1.map (·.1) ++ held) fun r => ?_)
  obtain ⟨done, mustBind⟩ := r
  refine .bind fun _ => .ite (fun _ => .pure (by simp)) fun _ => .bind fun item => ?_
  obtain ⟨t, start, binds⟩ := item
  refine .bind fun _ => .ite (fun _ => .pure (by simp)) fun _ => ?_
  exact .bind fun _ => .bind fun _ => .pure (by simp)

instance : Collects held (parenOrArrow g) fun t => t :: held := by
  refine .bind fun (items, mustBind) => .bind fun _ => .bind fun _ => ?_
  extract_lets covered resulted
  have hcovered : Collects (items.map (·.1) ++ held) (covered ()) fun t => t :: held := by
    unfold covered
    split
    · exact .pure (by simp)
    · exact .pure (by simp)
  have hresulted (result : Option Tree) :
      Collects (result.toList ++ (items.map (·.1) ++ held)) (resulted result) fun t => t :: held := by
    have hparams : Collects (items.map (·.1) ++ (result.toList ++ held))
        (toParameters items) fun ts => ts ++ (result.toList ++ held) :=
      toParameters_collects items
    have hitems : Covers (result.toList ++ (items.map (·.1) ++ held)) (items.map (·.1) ++ held) := by
      simp
    refine .bind fun _ => .ite (fun _ => ?_) fun _ => ?_
    · refine .bind (h := hparams.of_more (by simp +arith)) fun params => ?_
      refine (arrowTree_collects false params .absent (.ofOption result)).of_more ?_
      cases result <;> simp +arith [ofOption]
    · exact .ite (fun _ => .bind fun _ => hcovered.of_more hitems) fun _ => hcovered.of_more hitems
  refine .ite (fun _ => .bind (h := .attempt? (h := ?_)) hresulted) fun _ => hresulted none
  refine .bind fun result => .bind fun _ => .ite (fun _ => .pure (by simp)) fun _ => ?_
  exact .bind fun _ => .pure (by simp)

instance : Moves (atArrowHead g) := by
  unfold atArrowHead
  infer_instance

/-! ## Operands -/

/-- An arrow function with a single name in front of its arrow. -/
theorem nameArrow_collects (isAsync : Bool) (name : Tree) :
    Collects (name :: held) (arrowTree g isAsync [name] .absent .absent) fun t => t :: held :=
  (arrowTree_collects isAsync [name] .absent .absent).of_more (by simp)

/-- A name, if no arrow makes it a parameter. -/
theorem nameOrArrow_collects : Collects held (do
    let name ← variableName
    if ← atArrow then return ← arrowTree g false [name] .absent .absent
    return name) fun t => t :: held :=
  .bind fun name => .bind fun _ => .ite (fun _ => nameArrow_collects false name)
    fun _ => .pure (by simp)

instance : Collects held (asyncTree g) fun t => t :: held := by
  refine .bind fun _ => .ite (fun _ => .bind fun _ => inferInstance) fun _ => .bind fun _ => ?_
  extract_lets plain headed
  have hplain : Collects held (plain ()) fun t => t :: held := nameOrArrow_collects
  have hheaded : Collects held (headed ()) fun t => t :: held :=
    .ite (fun _ => .bind fun _ => .ite (fun _ => .bind fun _ => inferInstance) fun _ => hplain)
      fun _ => hplain
  refine .ite (fun _ => hplain) fun _ => .ite (fun _ => .bind (h := .attempt? (h := ?_)) fun o => ?_)
    fun _ => hheaded
  · refine .bind fun _ => .bind fun name => .bind fun _ => ?_
    exact .ite (fun _ => .pure (by simp)) fun _ => .bind fun _ => .pure (by simp)
  · cases o with
    | none => exact hheaded
    | some name => exact nameArrow_collects true name

instance (word : String) : Collects held (wordTree g word) fun t => t :: held := by
  refine .ite (fun _ => inferInstance) fun _ => .ite (fun _ => inferInstance) fun _ => ?_
  refine .ite (fun _ => inferInstance) fun _ => .ite (fun _ => .bind fun _ => .pure (by simp)) fun _ => ?_
  refine .ite (fun _ => .bind fun _ => .pure (by simp)) fun _ => ?_
  refine .ite (fun _ => .bind fun _ => .pure (by simp)) fun _ => ?_
  extract_lets plain
  have hplain : Collects held (plain ()) fun t => t :: held := nameOrArrow_collects
  refine .ite (fun _ => .bind fun _ => ?_) fun _ => hplain
  refine .ite (fun _ => .bind fun _ => .pure (by simp)) fun _ => .ite (fun _ => ?_) fun _ => hplain
  exact .bind fun _ => .bind fun _ => .bind fun _ => .pure (by simp)

instance : Collects held (primary g) fun t => t :: held := by
  refine ⟨fun first scope s hs => ensures_bind.mpr (ensures_current.mpr ?_)⟩
  have hread {r : Reads Tree} (h : Collects held r fun t => t :: held) :
      Ensures r scope s fun t s' => s'.Holds first (t :: held) := h.ensures first scope s hs
  split
  case h_1 | h_2 => exact hread (.bind fun _ => .pure (by simp))
  case h_3 => exact hread inferInstance
  case h_4 => exact hread nameOrArrow_collects
  case h_5 | h_6 | h_7 => exact hread inferInstance
  case h_8 h =>
    have hright : s.token.kind.isRight := by rw [h]; rfl
    refine ensures_ite.mpr ⟨fun _ => templateTree_holds hs hright, fun _ => ?_⟩
    extract_lets element
    have helement : Collects held (element ()) fun t => t :: held :=
      .bind fun _ => .ite (fun _ => .bind fun e => .bind fun _ => .pure fun _ => le_rfl) fun _ => .fail
    refine ensures_ite.mpr ⟨fun _ => ?_, fun _ => hread helement⟩
    refine (ensures_reread_holds hs hright Lexeme.regex_fits).bind fun t s hs => ?_
    split
    · exact .collect hs fun _ s hs => ensures_pure.mpr (hs.covers (by simp))
    · exact ensures_bind.mpr ensures_fail
  case h_9 => exact ensures_fail

/-! ## Members and calls -/

instance (object : Tree) : Collects held (memberName object) fun t => t :: held := by
  refine .bind fun t => .bind fun _ => ?_
  extract_lets missing named
  have hnamed : Collects held (named ()) fun t => t :: held := by
    unfold named
    split
    · exact .bind fun _ => .pure (by simp)
    · exact .bind fun _ => .pure (by simp)
    · exact .ite (fun _ => .bind fun _ => .bind fun _ => .pure (by simp))
        fun _ => .bind fun _ => .pure (by simp)
  exact .ite (fun _ => .bind fun _ => hnamed) fun _ => hnamed

instance (object : Tree) : Collects held (computedName g object) fun t => t :: held := by
  refine .bind fun _ => .bind fun _ => ?_
  extract_lets rest
  have hrest : Collects held (rest ()) fun t => t :: held :=
    .bind fun e => .bind fun _ => .pure (by simp)
  exact .ite (fun _ => .bind fun _ => .bind fun _ => hrest) fun _ => hrest

theorem callTree_collects (start : Nat) (inChain isOptional : Bool) (callee types : Tree) :
    Collects (types :: callee :: held) (callTree g start inChain isOptional callee types)
      fun t => t :: held := by
  refine ⟨fun first scope s hs => (arguments_holds hs).bind fun args s h => ?_⟩
  obtain ⟨hs, last, hlast, hbetween⟩ := h
  refine ensures_bind.mpr (ensures_get.mpr (ensures_pure.mpr ?_))
  cases inChain with
  | true => exact hs.covers (by simp +arith)
  | false =>
    have hparts : Between first ([callee, args, types] ++ held) last :=
      hbetween.mono le_rfl (by simp +arith)
    exact ⟨hs.steady, hparts.call hlast⟩

instance : Collects held (appliedTypes? g) fun o => o.toList ++ held := by
  refine .bind fun _ => .bind fun _ => .ite (fun _ => .attempt? (h := ?_)) fun _ => .pure (by simp)
  refine .bind fun args => .bind fun _ => ?_
  exact .ite (fun _ => .pure (by simp)) fun _ => .bind fun _ => .pure (by simp)

/-- What an operand becomes holds its calls and those behind it. -/
theorem subscripts_collects (start : Nat) (calls : Bool) (operand : Tree) :
    Collects (operand :: held) (subscripts g start calls operand) fun t => t :: held := by
  refine .loop (a := (operand, false)) (fun r : Tree × Bool => r.1 :: held) fun r => ?_
  obtain ⟨e, inChain⟩ := r
  refine ⟨fun first scope s hs => ensures_bind.mpr (ensures_current.mpr ?_)⟩
  dsimp -zeta only at hs ⊢
  extract_lets member done
  have hmember (m : Tree) : Covers (m :: e :: held) (member m :: held) := by
    unfold member
    cases inChain <;> simp +arith
  have hread {r : Reads (Tree × Bool ⊕ Tree)}
      (h : Collects (e :: held) r (Sum.elim (fun r => r.1 :: held) fun t => t :: held)) :
      Ensures r scope s fun r s' =>
        s'.Holds first (r.elim (fun r => r.1 :: held) fun t => t :: held) := h.ensures first scope s hs
  have hcall (isChain isOptional : Bool) (types : Tree) : Collects (types :: e :: held) (do
      return .inl (← callTree g start isChain isOptional e types, isChain))
        (Sum.elim (fun r : Tree × Bool => r.1 :: held) fun t => t :: held) :=
    .bind (h := callTree_collects ..) fun _ => .pure fun _ => le_rfl
  have htagged {s : ReadState} {types : Tree} (hs : s.Holds first (types :: e :: held))
      (hright : s.token.kind.isRight) : Ensures (do
        return .inl (.node .tagged [e, ← templateTree g, types], inChain)) scope s
          fun (r : Tree × Bool ⊕ Tree) s' =>
            s'.Holds first (r.elim (fun r => r.1 :: held) fun t => t :: held) :=
    (templateTree_holds hs hright).bind fun t s hs => ensures_pure.mpr (hs.covers (by simp +arith))
  have hnone : Covers (e :: held) (.absent :: e :: held) := by simp
  refine ensures_ite.mpr ⟨fun _ => ?member, fun _ => ensures_ite.mpr ⟨fun _ => ?chain, fun _ => ?_⟩⟩
  case member => exact hread (.bind fun _ => .bind fun m => .pure (hmember m))
  case chain =>
    refine hread (.bind fun _ => .bind fun _ => .ite (fun _ => (hcall _ _ _).of_more hnone) fun _ => ?_)
    refine .bind fun _ => .ite (fun _ => .bind fun m => .pure ?_) fun _ => .bind fun m => .pure ?_
    · simp +arith
    · simp +arith
  refine ensures_ite.mpr ⟨fun _ => ?computed, fun _ => ensures_ite.mpr ⟨fun _ => ?call, fun _ => ?_⟩⟩
  case computed => exact hread (.bind fun m => .pure (hmember m))
  case call => exact hread ((hcall _ _ _).of_more hnone)
  refine ensures_ite.mpr ⟨fun htick => ?tagged, fun _ => ensures_bind.mpr (ensures_read.mpr ?_)⟩
  case tagged => exact htagged (hs.covers hnone) (Token.isRight_of_isMark htick)
  have hdone : Collects (e :: held) (done ())
      (Sum.elim (fun r : Tree × Bool => r.1 :: held) fun t => t :: held) :=
    .pure fun _ => le_rfl
  refine ensures_ite.mpr ⟨fun _ => ?_, fun _ => hread hdone⟩
  refine ensures_ite.mpr ⟨fun _ => ?nonNull, fun _ => ?applied⟩
  case nonNull => exact hread (.bind fun _ => .pure (by simp))
  case applied =>
    refine .collect hs fun o s hs => ?_
    cases o with
    | none => exact hdone.ensures first scope s hs
    | some types =>
      refine ensures_bind.mpr (ensures_atMark.mpr (ensures_ite.mpr ⟨fun _ => ?_, fun _ => ?_⟩))
      · exact (hcall _ _ _).ensures first scope s hs
      refine ensures_bind.mpr (ensures_atMark.mpr (ensures_ite.mpr ⟨fun htick => ?_, fun _ => ?_⟩))
      · exact htagged hs (Token.isRight_of_isMark htick)
      · exact ensures_pure.mpr (hs.covers (by simp +arith))

/-! ## Objects under construction -/

theorem covers_splitTypes (e : Tree) :
    Covers (e :: held) ((splitTypes e).2 :: (splitTypes e).1 :: held) := by
  unfold splitTypes
  split <;> simp +arith

instance (e : Tree) (starts : Nat × Nat) :
    Collects (e :: held) (constructStep g e starts) fun t => t :: held := by
  have hparts : Covers (e :: held) ((splitTypes e).2 :: (splitTypes e).1 :: held) :=
    covers_splitTypes e
  unfold constructStep
  generalize splitTypes e = parts at hparts ⊢
  obtain ⟨callee, types⟩ := parts
  extract_lets taken
  have htaken : Collects (e :: held) (taken ()) fun t => t :: held := by
    refine .of_more (.bind fun _ => ?_) hparts
    extract_lets built
    have hbuilt (args : Tree) : Collects (args :: types :: callee :: held) (built args)
        fun t => t :: held :=
      .of_more (subscripts_collects ..) (by simp +arith)
    exact .ite (fun _ => .bind hbuilt) fun _ => .of_more (hbuilt _) (by simp)
  exact .ite (fun _ => .bind fun _ => htaken) fun _ => htaken

theorem constructSteps_collects (starts : List (Nat × Nat)) (e : Tree) :
    Collects (e :: held) (starts.foldlM (constructStep g) e) fun t => t :: held := by
  induction starts generalizing e with
  | nil => exact .pure fun _ => le_rfl
  | cons start starts ih =>
    rw [List.foldlM_cons]
    exact .bind ih

instance : Collects held (constructTree g) fun t => t :: held := by
  refine .bind fun starts => .bind fun _ => ?_
  extract_lets start called
  have hcalled (callee : Tree) : Collects (callee :: held) (called callee) fun t => t :: held :=
    .bind (h := subscripts_collects ..) fun callee => constructSteps_collects _ callee
  refine .bind fun _ => .ite (fun _ => .bind fun _ => .bind fun _ => ?_) fun _ => .bind hcalled
  exact .of_more (hcalled _) (by simp)

instance : Collects held (leftSideTree g) fun t => t :: held := by
  refine .bind fun _ => .bind fun _ => ?_
  extract_lets subscripted
  have hsubscripted (e : Tree) : Collects (e :: held) (subscripted e) fun t => t :: held :=
    .ite (fun _ => .pure fun _ => le_rfl) fun _ => subscripts_collects ..
  exact .ite (fun _ => .bind hsubscripted) fun _ => .bind hsubscripted

end StaticContext.Script.Grammar
