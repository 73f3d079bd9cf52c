import StaticContext.Proofs.Grammar.Class
import StaticContext.Proofs.Grammar.Element
import StaticContext.Script.Grammar.Expression

/-! # Operands keep to the text

What an operand is read as is written from its first token on up to where the reader stops, if it is a
name or a member of one. A call of it starts where it starts. -/

namespace StaticContext.Script.Grammar
open Reads Script.Tree ReadState

variable {text : List Char} {g : Grammar} [g.Faithful text] {scope : Scope} {s : ReadState}

/-! ## Literals -/

theorem templateTree_ensures (hs : s.Sited text) (hright : s.token.kind.isRight) :
    Ensures (templateTree g) scope s fun t s' => s'.Sited text ∧ t.Compound text :=
  (templateParts_ensures hs hright).bind fun _ _ ⟨hs, hitems⟩ =>
    ensures_pure.mpr ⟨hs, faithful_node rfl hitems, rfl⟩

instance : Keeps text (argument g) (Tree.Faithful text) :=
  .bind fun _ _ => .ite (fun _ => .bind fun e he => .pure (faithful_node rfl (by simp [he])))
    fun _ => inferInstance

instance : Keeps text (arguments g) (Tree.Faithful text) :=
  .bind fun _ _ => .bind fun _ hts => .pure (faithful_list hts)

instance : Keeps text (arrayLiteral g) (Compound text) := by
  refine .bind fun _ _ => .bind (P := fun ts => ∀ t ∈ ts, t.Faithful text)
    (h := .enclosed (h := .loop (fun done => ∀ t ∈ done, t.Faithful text) nofun fun done hdone => ?_))
    fun _ hts => .pure ⟨faithful_node rfl hts, rfl⟩
  have hcons {t : Tree} (ht : t.Faithful text) : ∀ u ∈ t :: done, u.Faithful text :=
    List.forall_mem_cons.mpr ⟨ht, hdone⟩
  refine .bind fun _ _ => .ite (fun _ => .pure fun t ht => hdone t (List.mem_reverse.mp ht)) ?_
  refine fun _ => .bind fun _ _ => .ite (fun _ => .pure (hcons (faithful_leaf _))) fun _ => ?_
  refine .bind fun t ht => .bind fun _ _ => .ite (fun _ => .pure (hcons ht)) ?_
  exact fun _ => .bind fun _ _ => .pure (hcons ht)

theorem variableName_ensures (hs : s.Sited text) :
    Ensures variableName scope s fun t s' => s'.Past text s.token.start t := by
  refine ensures_bind.mpr (ensures_current.mpr ?_)
  split
  · exact ensures_fail
  · next name hname =>
    refine (checkName_ensures hs _ _).bind fun _ s₁ h₁ => ?_
    obtain ⟨hs₁, heq⟩ := h₁
    have hright := Token.isRight_of_name? hname
    rw [← heq] at hright hname ⊢
    refine .take hs₁ hright fun hs => ensures_pure.mpr ⟨hs, faithful_leaf _, ?_⟩
    rw [advanced_lastStop]
    obtain ⟨isEscaped, hword⟩ := Token.kind_of_name? hname
    exact hs₁.spans_name hword

instance : Keeps text variableName (Tree.Faithful text) :=
  ⟨fun _ _ hs => (variableName_ensures hs).mono fun _ _ h => ⟨h.sited, h.faithful⟩⟩

instance : Keeps text (objectMember g) (Tree.Faithful text) := by
  refine .bind fun _ _ => .ite (fun _ => .bind fun e he => .pure (faithful_node rfl (by simp [he])))
    fun _ => ⟨fun scope s hs => ?_⟩
  refine ensures_bind.mpr (ensures_current.mpr (ensures_bind.mpr (ensures_lookahead.mpr ?_)))
  extract_lets isAsync named
  have hnamed : Keeps text (named ()) (Tree.Faithful text) := by
    refine .bind fun isGenerator _ => ⟨fun scope s hs => ?_⟩
    refine ensures_bind.mpr (ensures_current.mpr (ensures_bind.mpr (ensures_lookahead.mpr ?_)))
    extract_lets kind keyed
    have hkeyed : Keeps text (keyed ()) (Tree.Faithful text) := by
      refine .bind fun _ _ => .bind fun _ _ => .ite (fun _ => ?_) fun _ => ?_
      · refine .bind fun name hname => .bind fun _ _ => .ite (fun _ => ?_) fun _ => .pure hname
        exact .bind fun e he => .pure (faithful_node rfl (by simp [hname, he]))
      · refine .bind fun k hk => .bind fun _ _ => .bind fun _ _ => .ite (fun _ => ?_) fun _ => ?_
        · refine .bind fun ts hts => .pure (faithful_node rfl ?_)
          exact List.forall_mem_cons.mpr ⟨hk, hts⟩
        · exact .bind fun _ _ => .bind fun e he => .pure (faithful_node rfl (by simp [hk, he]))
    refine ensures_ite.mpr ⟨fun _ => hkeyed.ensures _ _ hs, fun h => ?_⟩
    exact .take hs (isRight_of_memberKind h) fun hs => hkeyed.ensures _ _ hs
  refine ensures_ite.mpr ⟨fun h => ?_, fun _ => hnamed.ensures _ _ hs⟩
  simp only [isAsync, Bool.and_eq_true] at h
  exact .take hs (Token.isRight_of_isWord h.1.1) fun hs => hnamed.ensures _ _ hs

instance : Keeps text (objectLiteral g) (Compound text) :=
  .bind fun _ _ => .bind fun _ hts => .pure ⟨faithful_node rfl hts, rfl⟩

/-! ## Parentheses and arrows -/

instance : Keeps text optionalName? fun o => ∀ t ∈ o, t.Faithful text := by
  refine .bind fun _ _ => .bind fun _ _ => .ite (fun _ => ?_) fun _ => .pure nofun
  refine .attempt? (h := .bind fun name hname => .bind fun _ _ => .bind fun _ _ => ?_)
  exact .ite (fun _ => .pure hname) fun _ => .bind fun _ _ => .pure hname

instance : Keeps text (parenItem g) fun r => r.1.Faithful text := by
  refine .bind fun _ _ => .bind fun _ _ => .ite (fun _ => .bind fun p hp => ?_) fun _ => ?_
  · refine .bind fun type htype => .bind fun _ _ => .pure (faithful_node rfl ?_)
    simp [faithful_typed hp htype]
  refine .bind fun o ho => ?_
  have hdefaulted {p : Tree} (hp : p.Faithful text) (isOptional : Bool) (start : Nat) : Keeps text (do
      let type ← ascription g
      return (← defaulted g (typed p isOptional type), start, true)) fun r => r.1.Faithful text :=
    .bind fun type htype => .bind (h := defaulted_keeps (faithful_typed hp htype)) fun _ ht => .pure ht
  split
  · next name => exact hdefaulted (ho name rfl) true _
  · refine .bind fun e he => .bind fun _ _ => .bind fun _ _ => .ite (fun _ => ?_) fun _ => .pure he
    exact .bind (h := toParameter_keeps _ he) fun p hp => hdefaulted hp false _

instance : Keeps text (parenItems g) fun r => ∀ item ∈ r.1, item.1.Faithful text := by
  refine .bind fun _ _ => .enclosed (h := .loop
    (fun r : List (Tree × Nat) × Bool => ∀ item ∈ r.1, item.1.Faithful text)
    (List.forall_mem_nil _) fun r hdone => ?_)
  obtain ⟨done, mustBind⟩ := r
  refine .bind fun _ _ => .ite (fun _ => .pure fun t ht => hdone t (List.mem_reverse.mp ht)) ?_
  refine fun _ => .bind fun item hitem => ?_
  obtain ⟨t, start, binds⟩ := item
  refine .bind fun _ _ => ?_
  have hcons : ∀ item ∈ (t, start) :: done, item.1.Faithful text :=
    List.forall_mem_cons.mpr ⟨hitem, hdone⟩
  exact .ite (fun _ => .pure hcons) fun _ => .bind fun _ _ => .bind fun _ _ => .pure hcons

instance : Keeps text (parenOrArrow g) (Compound text) := by
  refine .bind fun (items, mustBind) hitems => .bind fun _ _ => .bind fun _ _ => ?_
  extract_lets covered resulted
  have hcovered : Keeps text (covered ()) (Compound text) := by
    unfold covered
    split
    · next e start =>
      exact .pure ⟨faithful_node rfl (by simpa using hitems), rfl⟩
    · have : (node .sequence (items.map (·.1))).Faithful text :=
        faithful_node rfl (List.forall_mem_map.mpr hitems)
      exact .pure ⟨faithful_node rfl (by simpa using this), rfl⟩
  have hresulted (result : Option Tree) (hresult : ∀ t ∈ result, t.Faithful text) :
      Keeps text (resulted result) (Compound text) := by
    have hresult : (ofOption result).Faithful text := by
      cases result with
      | none => exact faithful_leaf _
      | some t => exact hresult t rfl
    refine .bind fun _ _ => .ite (fun _ => ?_) fun _ => ?_
    · refine .bind (h := toParameters_keeps hitems) fun params hparams => ?_
      exact arrowTree_keeps _ hparams (faithful_leaf _) hresult
    · exact .ite (fun _ => .bind fun _ _ => hcovered) fun _ => hcovered
  refine .ite (fun _ => .bind (h := .attempt? (h := ?_)) hresulted) fun _ => hresulted _ nofun
  refine .bind fun result hresult => .bind fun _ _ => .ite (fun _ => .pure hresult) fun _ => ?_
  exact .bind fun _ _ => .pure hresult

instance : Keeps text (atArrowHead g) fun _ => True := by
  unfold atArrowHead
  infer_instance

/-! ## Operands -/

theorem ensures_past {r : Reads Tree} [h : Keeps text r (Compound text)] (hs : s.Sited text)
    (start : Nat) : Ensures r scope s fun t s' => s'.Past text start t :=
  (h.ensures scope s hs).mono fun _ _ ht => ht.1.past ht.2

/-- An arrow function with a single name in front of its arrow. -/
theorem nameArrow_keeps {name : Tree} (isAsync : Bool) (h : name.Faithful text) :
    Keeps text (arrowTree g isAsync [name] .absent .absent) (Compound text) :=
  arrowTree_keeps isAsync (List.forall_mem_singleton.mpr h) (faithful_leaf _) (faithful_leaf _)

/-- A name, if no arrow makes it a parameter. -/
theorem nameOrArrow_ensures (hs : s.Sited text) : Ensures (do
      let name ← variableName
      if ← atArrow then return ← arrowTree g false [name] .absent .absent
      return name) scope s fun t s' => s'.Past text s.token.start t := by
  refine (variableName_ensures hs).bind fun name s' hname => ensures_bind.mpr ?_
  refine ensures_atArrow fun _ => ensures_ite.mpr ⟨fun _ => ?_, fun _ => ensures_pure.mpr hname⟩
  have := nameArrow_keeps (g := g) false hname.faithful
  exact ensures_past hname.sited _

theorem asyncTree_ensures (hs : s.Sited text) (hright : s.token.kind.isRight) :
    Ensures (asyncTree g) scope s fun t s' => s'.Past text s.token.start t := by
  refine ensures_bind.mpr (ensures_atAsyncFunction fun _ _ => ensures_ite.mpr ⟨fun _ => ?_, fun _ => ?_⟩)
  · exact .take hs hright fun hs => ensures_past hs _
  refine ensures_bind.mpr (ensures_lookahead.mpr ?_)
  extract_lets plain headed
  have hplain : Ensures (plain ()) scope s fun t s' => s'.Past text s.token.start t :=
    nameOrArrow_ensures hs
  have hheaded : Ensures (headed ()) scope s fun t s' => s'.Past text s.token.start t := by
    refine ensures_ite.mpr ⟨fun _ => ensures_bind.mpr (ensures_fits fun isHead => ?_), fun _ => hplain⟩
    exact ensures_ite.mpr ⟨fun _ => .take hs hright fun hs => ensures_past hs _, fun _ => hplain⟩
  refine ensures_ite.mpr ⟨fun _ => hplain, fun _ => ensures_ite.mpr ⟨fun _ => ?_, fun _ => hheaded⟩⟩
  refine ensures_bind.mpr (ensures_attempt? ?_ hheaded)
  refine .take hs hright fun hs => .step hs fun name s' hs hname => .step hs fun _ s' hs _ => ?_
  extract_lets parameter
  have := nameArrow_keeps (g := g) true hname
  have hparameter {s' : ReadState} (hs : s'.Sited text) : Ensures (parameter ()) scope s' fun name s' =>
      Ensures (arrowTree g true [name] .absent .absent) scope s' fun t s' =>
        s'.Past text s.token.start t :=
    ensures_pure.mpr (ensures_past hs _)
  exact ensures_ite.mpr ⟨fun _ => hparameter hs, fun _ => .step hs fun _ s' hs _ => hparameter hs⟩

theorem wordTree_ensures {word : String} (hs : s.Sited text) (hright : s.token.kind.isRight) :
    Ensures (wordTree g word) scope s fun t s' => s'.Past text s.token.start t := by
  have keyword (t : Tree) (ht : t.Compound text) : Ensures (do
      let _ ← advance
      return t) scope s fun t s' => s'.Past text s.token.start t :=
    .take hs hright fun hs => ensures_pure.mpr (hs.past ht)
  refine ensures_ite.mpr ⟨fun _ => ensures_past hs _, fun _ => ?_⟩
  refine ensures_ite.mpr ⟨fun _ => ensures_past hs _, fun _ => ?_⟩
  refine ensures_ite.mpr ⟨fun _ => asyncTree_ensures hs hright, fun _ => ?_⟩
  refine ensures_ite.mpr ⟨fun _ => keyword _ ⟨faithful_leaf _, rfl⟩, fun _ => ?_⟩
  refine ensures_ite.mpr ⟨fun _ => keyword _ ⟨faithful_leaf _, rfl⟩, fun _ => ?_⟩
  refine ensures_ite.mpr ⟨fun _ => keyword _ ⟨faithful_leaf _, rfl⟩, fun _ => ?_⟩
  extract_lets plain
  have hplain : Ensures (plain ()) scope s fun t s' => s'.Past text s.token.start t :=
    nameOrArrow_ensures hs
  refine ensures_ite.mpr ⟨fun _ => ensures_bind.mpr (ensures_lookahead.mpr ?_), fun _ => hplain⟩
  refine ensures_ite.mpr ⟨fun _ => keyword _ ⟨faithful_leaf _, rfl⟩, fun _ => ?_⟩
  refine ensures_ite.mpr ⟨fun h => .take hs hright fun hs => ?_, fun _ => hplain⟩
  rw [← advanced_token] at h
  refine .take hs (Token.isRight_of_isMark h) fun hs => .step hs fun _ s' hs _ => ?_
  exact ensures_pure.mpr (hs.past ⟨faithful_leaf _, rfl⟩)

theorem primary_ensures (hs : s.Sited text) :
    Ensures (primary g) scope s fun t s' => s'.Past text s.token.start t := by
  refine ensures_bind.mpr (ensures_current.mpr ?_)
  have hright {k : TokenKind} (h : s.token.kind = k) (hk : k.isRight) : s.token.kind.isRight :=
    h ▸ hk
  split
  case h_1 h | h_2 h =>
    exact .take hs (hright h rfl) fun hs => ensures_pure.mpr (hs.past ⟨faithful_leaf _, rfl⟩)
  case h_3 h => exact wordTree_ensures hs (hright h rfl)
  case h_4 => exact nameOrArrow_ensures hs
  case h_5 | h_6 | h_7 => exact ensures_past hs _
  case h_8 h =>
    refine ensures_ite.mpr ⟨fun _ => ?_, fun _ => ?_⟩
    · refine (templateTree_ensures hs (hright h rfl)).mono fun _ _ ht => ht.1.past ht.2
    extract_lets element
    have helement : Ensures (element ()) scope s fun t s' => s'.Past text s.token.start t := by
      refine .step hs fun _ s' hs _ => ensures_ite.mpr ⟨fun _ => ?_, fun _ => ensures_fail⟩
      refine .step hs fun e s' hs he => .step hs fun _ s' hs _ => ensures_pure.mpr (hs.past he)
    refine ensures_ite.mpr ⟨fun _ => ?_, fun _ => helement⟩
    refine (ensures_reread_fits hs (hright h rfl) Lexeme.regex_fits).bind fun t s' ⟨hs, heq, _⟩ => ?_
    split
    · next hliteral =>
      have hright : s'.token.kind.isRight := by rw [heq, hliteral]; rfl
      exact .take hs hright fun hs => ensures_pure.mpr (hs.past ⟨faithful_leaf _, rfl⟩)
    · exact ensures_bind.mpr ensures_fail
  case h_9 => exact ensures_fail

/-! ## Members and calls -/

theorem memberName_ensures (hs : s.Sited text) (object : Tree) :
    Ensures (memberName object) scope s fun m s' => (s'.Sited text ∧ m.Faithful text) ∧
      ∀ property, m = .name property → property ≠ "" → Follows text s.lastStop property s'.lastStop := by
  refine ensures_bind.mpr (ensures_current.mpr (ensures_bind.mpr (ensures_read.mpr ?_)))
  extract_lets missing named
  have hnamed (s' : ReadState) (hs : s'.Sited text) (htoken : s'.token = s.token)
      (hlast : s'.lastStop = s.lastStop) : Ensures (named ()) scope s' fun m s' =>
        (s'.Sited text ∧ m.Faithful text) ∧ ∀ property, m = .name property → property ≠ "" →
          Follows text s.lastStop property s'.lastStop := by
    unfold named
    split
    · next h =>
      rw [← htoken] at h
      refine .take hs (by rw [h]; rfl) fun hs' => ensures_pure.mpr ⟨⟨hs', faithful_leaf _⟩, ?_⟩
      intro property heq _
      cases heq
      rw [advanced_lastStop, ← hlast]
      exact hs.follows h
    · next h =>
      rw [← htoken] at h
      exact .take hs (by rw [h]; rfl) fun hs' => ensures_pure.mpr ⟨⟨hs', faithful_leaf _⟩, nofun⟩
    · refine ensures_ite.mpr ⟨fun _ => ensures_bind.mpr ensures_fail, fun _ => ?_⟩
      refine .step hs fun _ s' hs' _ => ensures_pure.mpr ⟨⟨hs', faithful_leaf _⟩, ?_⟩
      intro property heq hne
      cases heq
      exact absurd rfl hne
  refine ensures_ite.mpr ⟨fun _ => ensures_bind.mpr (ensures_report.mpr ?_), fun _ => ?_⟩
  · exact hnamed _ (hs.note _) rfl rfl
  · exact hnamed s hs rfl rfl

instance (object : Tree) : Keeps text (computedName g object) (Compound text) := by
  refine .bind fun _ _ => .bind fun _ _ => ?_
  extract_lets rest
  have hrest : Keeps text (rest ()) (Compound text) :=
    .bind fun e he => .bind fun _ _ => .pure ⟨faithful_node rfl (by simp [he]), rfl⟩
  exact .ite (fun _ => .bind fun _ _ => .bind fun _ _ => hrest) fun _ => hrest

theorem callTree_keeps {start : Nat} {inChain isOptional : Bool} {callee types : Tree}
    (hcallee : callee.Faithful text) (htypes : types.Faithful text)
    (hhead : inChain = false → ContextCall.isRequireContext callee → CallHead text start) :
    Keeps text (callTree g start inChain isOptional callee types) (Compound text) := by
  refine .bind fun args hargs => ⟨fun scope s hs => ensures_bind.mpr (ensures_get.mpr ?_)⟩
  refine ensures_pure.mpr ⟨hs, ?_⟩
  have hchildren : ∀ t ∈ [callee, args, types], t.Faithful text := by simp [hcallee, hargs, htypes]
  cases inChain with
  | false => exact ⟨faithful_call hchildren (hhead rfl), rfl⟩
  | true => exact ⟨faithful_node rfl hchildren, rfl⟩

theorem ensures_appliedTypes? {Q : Option Tree → ReadState → Prop} (hs : s.Sited text)
    (hsome : ∀ t s', s.token.isMark "<" → s'.Sited text → t.Faithful text → Q (some t) s')
    (hnone : Q none s) : Ensures (appliedTypes? g) scope s Q := by
  refine ensures_bind.mpr (ensures_read.mpr (ensures_bind.mpr (ensures_atMark.mpr ?_)))
  refine ensures_ite.mpr ⟨fun h => ensures_attempt? ?_ hnone, fun _ => ensures_pure.mpr hnone⟩
  rw [Bool.and_eq_true] at h
  refine .step hs fun args s' hs hargs => .step hs fun _ s' hs _ => ?_
  have hQ {s' : ReadState} (hs : s'.Sited text) : Q (some args) s' := hsome args s' h.2 hs hargs
  refine ensures_ite.mpr ⟨fun _ => ensures_pure.mpr (hQ hs), fun _ => ensures_bind.mpr ensures_fail⟩

/-- A link that `?.` adds to a chain. -/
theorem chainLink_ensures {start x : Nat} {calls : Bool} {e : Tree} (hs : s.Sited text)
    (hchain : s.token.isMark "?.") (he : e.Faithful text) : Ensures (do
      let _ ← advance
      if (← atMark "(") && calls then return .inl (← callTree g start true true e .absent, true)
      if ← atMark "[" then return .inl (.node (.chainMember true) [e, ← computedName g e], true)
      return .inl (.node (.chainMember true) [e, ← memberName e], true)) scope s
        fun (r : Tree × Bool ⊕ Tree) s' =>
          r.elim (fun r => s'.Past text x r.1) fun e => s'.Past text x e := by
  refine .take hs (Token.isRight_of_isMark hchain) fun hs => .step hs fun _ s' hs _ => ?_
  have hlinked {m : Tree} (hm : m.Faithful text) : (node (.chainMember true) [e, m]).Compound text :=
    ⟨faithful_node rfl (by simp [he, hm]), rfl⟩
  refine ensures_ite.mpr ⟨fun _ => ?_, fun _ => .step hs fun _ s' hs _ => ?_⟩
  · have : Keeps text (callTree g start true true e .absent) (Compound text) :=
      callTree_keeps he (faithful_leaf _) nofun
    exact .step hs fun _ s' hs ht => ensures_pure.mpr (hs.past ht)
  refine ensures_ite.mpr ⟨fun _ => ?_, fun _ => ?_⟩
  · exact .step hs fun m s' hs hm => ensures_pure.mpr (hs.past (hlinked hm.faithful))
  · refine (memberName_ensures hs e).bind fun m s' ⟨⟨hs, hm⟩, _⟩ => ?_
    exact ensures_pure.mpr (hs.past (hlinked hm))

/-- A template behind an operand. -/
theorem taggedOperand_ensures {x : Nat} {e types : Tree} {inChain : Bool} (hs : s.Sited text)
    (hright : s.token.kind.isRight) (he : e.Faithful text) (htypes : types.Faithful text) :
    Ensures (do return .inl (.node .tagged [e, ← templateTree g, types], inChain)) scope s
      fun (r : Tree × Bool ⊕ Tree) s' =>
        r.elim (fun r => s'.Past text x r.1) fun e => s'.Past text x e :=
  (templateTree_ensures hs hright).bind fun _ _ ⟨hs, ht⟩ => ensures_pure.mpr
    (hs.past ⟨faithful_node rfl (by simp [he, ht.faithful, htypes]), rfl⟩)

theorem subscripts_ensures {start x : Nat} {calls : Bool} {operand : Tree}
    (hx : calls → x = start) (h : s.Past text x operand) :
    Ensures (subscripts g start calls operand) scope s fun t s' => s'.Past text x t := by
  refine ensures_loop (fun (r : Tree × Bool) s => s.Past text x r.1) h ?_
  rintro ⟨e, inChain⟩ s ⟨hs, he, hspans⟩
  dsimp -zeta only at he hspans
  have hhead (hcalls : calls) (hopener : s.token.isMark "(" ∨ s.token.isMark "<") :
      ContextCall.isRequireContext e → CallHead text start :=
    hx hcalls ▸ hs.callHead hopener hspans
  refine ensures_bind.mpr (ensures_current.mpr ?_)
  extract_lets member done
  have hmember {m : Tree} (hm : m.Faithful text) : (member m).Faithful text := by
    unfold member
    cases inChain <;> exact faithful_node rfl (by simp [he, hm])
  refine ensures_ite.mpr ⟨fun hdot => ?member, fun _ => ensures_ite.mpr ⟨fun hchain => ?chain, ?_⟩⟩
  case member =>
    refine .take hs (Token.isRight_of_isMark hdot) fun hs' => ?_
    refine (memberName_ensures hs' e).bind fun m s' ⟨⟨hs', hm⟩, hfollows⟩ => ?_
    refine ensures_pure.mpr ⟨hs', hmember hm, ?_⟩
    cases inChain with
    | true => exact spans_of_isReference rfl
    | false => exact hs.spans_member hdot hspans (advanced_lastStop s ▸ hfollows)
  case chain =>
    exact chainLink_ensures hs hchain he
  refine fun _ => ensures_ite.mpr ⟨fun _ => ?computed, fun _ => ensures_ite.mpr ⟨fun hcall => ?call, ?_⟩⟩
  case computed =>
    refine .step hs fun m s' hs hm => ensures_pure.mpr ⟨hs, hmember hm.faithful, ?_⟩
    unfold member
    cases inChain with
    | true => exact spans_of_isReference rfl
    | false => exact spans_of_isReference (isReference_member hm.isReference)
  case call =>
    rw [Bool.and_eq_true] at hcall
    have : Keeps text (callTree g start inChain false e .absent) (Compound text) :=
      callTree_keeps he (faithful_leaf _) fun _ => hhead hcall.2 (.inl hcall.1)
    exact .step hs fun _ s' hs ht => ensures_pure.mpr (hs.past ht)
  refine fun _ => ensures_ite.mpr ⟨fun htick => ?tagged, fun _ => ensures_bind.mpr (ensures_read.mpr ?_)⟩
  case tagged => exact taggedOperand_ensures hs (Token.isRight_of_isMark htick) he (faithful_leaf _)
  have hdone : Ensures (done ()) scope s fun r s' =>
      r.elim (fun r => s'.Past text x r.1) fun e => s'.Past text x e :=
    ensures_pure.mpr ⟨hs, he, hspans⟩
  refine ensures_ite.mpr ⟨fun _ => ensures_ite.mpr ⟨fun hbang => ?nonNull, fun _ => ?applied⟩, fun _ => hdone⟩
  case nonNull =>
    rw [Bool.and_eq_true] at hbang
    refine .take hs (Token.isRight_of_isMark hbang.1) fun hs => ensures_pure.mpr ?_
    exact hs.past ⟨faithful_node rfl (by simp [he]), rfl⟩
  case applied =>
    refine ensures_bind.mpr (ensures_appliedTypes? hs (fun types s' hangle hs' htypes => ?_) hdone)
    refine ensures_bind.mpr (ensures_atMark.mpr (ensures_ite.mpr ⟨fun hcall => ?_, fun _ => ?_⟩))
    · rw [Bool.and_eq_true] at hcall
      have : Keeps text (callTree g start inChain false e types) (Compound text) :=
        callTree_keeps he htypes fun _ => hhead hcall.2 (.inr hangle)
      exact .step hs' fun _ s' hs ht => ensures_pure.mpr (hs.past ht)
    refine ensures_bind.mpr (ensures_atMark.mpr (ensures_ite.mpr ⟨fun htick => ?_, fun _ => ?_⟩))
    · exact taggedOperand_ensures hs' (Token.isRight_of_isMark htick) he htypes
    · exact ensures_pure.mpr (hs'.past ⟨faithful_node rfl (by simp [he, htypes]), rfl⟩)

/-! ## Objects under construction -/

theorem splitTypes_faithful {e : Tree} (h : e.Faithful text) :
    (splitTypes e).1.Faithful text ∧ (splitTypes e).2.Faithful text := by
  unfold splitTypes
  split
  · have hchildren := h.children (by rintro ⟨⟩)
    exact ⟨hchildren _ (by simp), hchildren _ (by simp)⟩
  · exact ⟨h, faithful_leaf _⟩

theorem constructStep_ensures {e : Tree} (hs : s.Sited text) (he : e.Faithful text)
    (starts : Nat × Nat) (x : Nat) :
    Ensures (constructStep g e starts) scope s fun t s' => s'.Past text x t := by
  obtain ⟨hcallee, htypes⟩ := splitTypes_faithful he
  unfold constructStep
  extract_lets taken
  have htaken : Ensures (taken ()) scope s fun t s' => s'.Past text x t := by
    refine ensures_bind.mpr (ensures_atMark.mpr ?_)
    extract_lets built
    have hbuilt (args : Tree) (s : ReadState) (hs : s.Sited text) (hargs : args.Faithful text) :
        Ensures (built args) scope s fun t s' => s'.Past text x t := by
      refine subscripts_ensures (fun hcalls => absurd hcalls Bool.false_ne_true) (hs.past ⟨?_, rfl⟩)
      refine faithful_node rfl (List.forall_mem_cons.mpr ⟨hcallee, ?_⟩)
      exact List.forall_mem_cons.mpr ⟨hargs, List.forall_mem_singleton.mpr htypes⟩
    refine ensures_ite.mpr ⟨fun _ => .step hs fun args s hs hargs => ?_, fun _ => ?_⟩
    · exact hbuilt args s hs hargs
    · exact hbuilt _ s hs (faithful_leaf _)
  exact ensures_ite.mpr ⟨fun _ => ensures_bind.mpr ensures_failAt, fun _ => htaken⟩

/-- Wrapping a tree in one `new` after the other; if there is none, it stays. -/
theorem constructSteps_ensures {starts : List (Nat × Nat)} {e : Tree} {x : Nat} (hs : s.Sited text)
    (he : e.Faithful text) (hnone : starts = [] → s.Past text x e) :
    Ensures (starts.foldlM (constructStep g) e) scope s fun t s' => s'.Past text x t := by
  induction starts generalizing e s with
  | nil => exact ensures_pure.mpr (hnone rfl)
  | cons start starts ih =>
    rw [List.foldlM_cons]
    exact (constructStep_ensures hs he start x).bind fun e s he =>
      ih he.sited he.faithful fun _ => he

theorem constructTree_ensures (hs : s.Sited text) (hnew : s.token.isWord "new") (x : Nat) :
    Ensures (constructTree g) scope s fun t s' => s'.Past text x t := by
  have hstarts : Ensures (loop (β := List Nat) (fun done => do
      if (← atWord "new") && !(← lookahead).isMark "." then
        let t ← advance
        return .inl (t.start :: done)
      return .inr done) []) scope s fun starts s' =>
        s'.Sited text ∧ (starts = [] → s'.token.isWord "new") := by
    refine ensures_loop (fun done s => s.Sited text ∧ (done = [] → s.token.isWord "new"))
      ⟨hs, fun _ => hnew⟩ ?_
    rintro done s ⟨hs, hdone⟩
    refine ensures_bind.mpr (ensures_atWord.mpr (ensures_bind.mpr (ensures_lookahead.mpr ?_)))
    refine ensures_ite.mpr ⟨fun h => ?_, fun _ => ensures_pure.mpr ⟨hs, hdone⟩⟩
    rw [Bool.and_eq_true] at h
    exact .take hs (Token.isRight_of_isWord h.1) fun hs => ensures_pure.mpr ⟨hs, nofun⟩
  refine hstarts.bind fun starts s hbehind => ensures_bind.mpr (ensures_current.mpr ?_)
  obtain ⟨hs, hstarts⟩ := hbehind
  extract_lets start called
  have hcalled (y : Nat) (callee : Tree) (s : ReadState) (h : s.Past text y callee)
      (hy : starts = [] → y = x) :
      Ensures (called callee) scope s fun t s' => s'.Past text x t := by
    refine (subscripts_ensures (fun hcalls => absurd hcalls Bool.false_ne_true) h).bind ?_
    intro callee s hcallee
    refine constructSteps_ensures hcallee.sited hcallee.faithful fun hnone => ?_
    have hstarts : starts = [] := by simpa using hnone
    exact hy hstarts ▸ hcallee
  refine ensures_bind.mpr (ensures_eatWord.mpr ⟨fun h => ?_, fun h => ?_⟩)
  · refine .step (hs.advanced (Token.isRight_of_isWord h)) fun _ s hs _ => .step hs fun _ s hs _ => ?_
    exact hcalled x _ s (hs.past ⟨faithful_leaf _, rfl⟩) fun _ => rfl
  · exact (primary_ensures hs).bind fun callee s hcallee =>
      hcalled _ callee s hcallee fun hnone => absurd (hstarts hnone) h

instance : Keeps text (leftSideTree g) (Tree.Faithful text) := by
  refine ⟨fun scope s hs => ensures_bind.mpr (ensures_current.mpr (ensures_bind.mpr ?_))⟩
  extract_lets subscripted
  have hsubscripted (e : Tree) (t : ReadState) (he : t.Past text s.token.start e) :
      Ensures (subscripted e) scope t fun t s' => s'.Sited text ∧ t.Faithful text := by
    refine ensures_ite.mpr ⟨fun _ => ensures_pure.mpr ⟨he.sited, he.faithful⟩, fun _ => ?_⟩
    exact (subscripts_ensures (fun _ => rfl) he).mono fun _ _ h => ⟨h.sited, h.faithful⟩
  refine ensures_atWord.mpr (ensures_ite.mpr ⟨fun h => ?_, fun _ => ?_⟩)
  · exact (constructTree_ensures hs h _).bind hsubscripted
  · exact (primary_ensures hs).bind hsubscripted

end StaticContext.Script.Grammar
