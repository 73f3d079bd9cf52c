import StaticContext.Proofs.CallStops

/-! # Calls in names, keys, targets and parameters -/

namespace StaticContext.Script
open Reads Script.Tree

/-- The readers of a grammar add the calls of one tree to those at hand. -/
class Grammar.Collecting (g : Grammar) : Prop where
  item : ∀ held, Collects held g.item fun t => t :: held
  statement : ∀ held, Collects held g.statement fun t => t :: held
  assignment : ∀ held, Collects held g.assignment fun t => t :: held
  expression : ∀ held, Collects held g.expression fun t => t :: held
  operand : ∀ held, Collects held g.operand fun t => t :: held
  leftSide : ∀ held, Collects held g.leftSide fun t => t :: held
  binding : ∀ held, Collects held g.binding fun t => t :: held
  type : Moves g.type
  plainType : Moves g.plainType
  /-- The last `>` is left to take. -/
  element : ∀ first held scope s, s.Holds first held → Ensures g.element scope s fun t s' =>
    s'.Holds first (t :: held) ∧ s'.token.isMark ">"

namespace Grammar

attribute [instance] Collecting.item Collecting.statement Collecting.assignment
  Collecting.expression Collecting.operand Collecting.leftSide Collecting.binding Collecting.type
  Collecting.plainType

variable {g : Grammar} [g.Collecting] {held : List Tree} {first : Nat} {scope : Scope} {s : ReadState}

instance : Collects held g.element fun t => t :: held :=
  ⟨fun first scope s hs => (Collecting.element first held scope s hs).mono fun _ _ h => h.1⟩

/-! ## Names -/

instance (name : String) (offset : Nat) : Moves (checkName name offset) := by
  unfold checkName
  infer_instance

instance : Collects held bindingName fun t => t :: held := by
  unfold bindingName
  refine .bind fun t => ?_
  split
  · exact .unexpected
  · next text _ =>
    have : Covers held (.name text :: held) := by simp
    refine .bind fun _ => ?_
    extract_lets rest
    have hrest : Collects held (rest ()) fun t => t :: held := .bind fun _ => .pure this
    exact .ite (fun _ => .bind fun _ => hrest) fun _ => hrest

instance : Moves anyName := by
  refine .bind fun t => ?_
  split <;> infer_instance

instance : Collects held (key g) fun t => t :: held := by
  refine .bind fun t => ?_
  split
  · exact .bind fun _ => .pure (by simp)
  · exact .bind fun _ => .pure (by simp)
  · exact .bind fun _ => .pure (by simp)
  · exact .bind fun _ => .bind fun e => .bind fun _ => .pure (by simp)
  · exact .unexpected

/-! ## Targets of declarations -/

instance : Collects held (ascription g) fun t => t :: held :=
  .bind fun _ => .ite
    (fun _ => .bind fun _ => .ite (fun _ => .bind fun _ => .pure (by simp)) fun _ => .pure (by simp))
    fun _ => .pure (by simp)

instance : Moves (ascription g) := .of_collects

instance : Moves optionalMark := by
  unfold optionalMark
  infer_instance

theorem calls_typed_le (stop : Nat) (pattern : Tree) (isOptional : Bool) (type : Tree) :
    (typed pattern isOptional type).calls stop ≤ pattern.calls stop + type.calls stop := by
  rw [typed]
  split <;> simp

/-- A pattern with its ascription in the place of both. -/
theorem covers_typed (pattern : Tree) (isOptional : Bool) (type : Tree) :
    Covers (type :: pattern :: held) (typed pattern isOptional type :: held) := by
  intro stop
  have := calls_typed_le stop pattern isOptional type
  simp only [callsAll_cons]
  omega

instance (pattern : Tree) : Collects (pattern :: held) (defaulted g pattern) fun t => t :: held :=
  .bind fun _ => .ite (fun _ => .bind fun value => .pure (by simp +arith)) fun _ => .pure (by simp)

instance : Collects held (bindingElement g) fun t => t :: held :=
  .bind fun _ => inferInstance

instance (close : String) : Moves (checkNoComma close) := by
  unfold checkNoComma
  infer_instance

instance (cause : Cause) (close : String) (start : Nat) : Moves (checkLast cause close start) := by
  unfold checkLast
  infer_instance

instance (close : String) : Collects held (restElement g close) fun t => t :: held :=
  .bind fun _ => .bind fun _ => .bind fun _ => .pure (by simp)

instance : Collects held (arrayPattern g) fun t => t :: held := by
  refine .bind fun _ => .bind (k := fun ts => ts ++ held) (h := ?_) fun ts => .pure (by simp)
  refine .loop (a := []) (fun done => done ++ held) fun done => ?_
  refine .bind fun _ => .ite (fun _ => .pure (by simp)) fun _ => ?_
  refine .bind fun _ => .ite (fun _ => .pure (by simp)) fun _ => .bind fun _ => ?_
  extract_lets rest
  have hrest (t : Tree) : Collects (t :: (done ++ held)) (rest t)
      (Sum.elim (fun done => done ++ held) fun ts => ts ++ held) :=
    .bind fun _ => .ite (fun _ => .pure (by simp)) fun _ => .bind fun _ => .pure (by simp)
  exact .ite (fun _ => .bind hrest) fun _ => .bind hrest

instance : Collects held (patternProperty g) fun t => t :: held := by
  refine .bind fun _ => .ite (fun _ => inferInstance) fun _ => ?_
  refine .bind fun _ => .bind fun _ => .ite (fun _ => .bind fun _ => inferInstance) fun _ => ?_
  exact .bind fun k => .bind fun _ => .bind fun t => .pure (by simp +arith)

instance : Collects held (objectPattern g) fun t => t :: held :=
  .bind fun _ => .bind fun _ => .pure (by simp)

instance : Collects held (bindingTarget g) fun t => t :: held :=
  .bind fun _ => .ite (fun _ => inferInstance) fun _ => .bind fun _ =>
    .ite (fun _ => inferInstance) fun _ => inferInstance

/-! ## Parameters -/

instance (allowed : List String) : Moves (modifiers allowed) := by
  unfold modifiers
  infer_instance

instance : Collects held (parameter g) fun t => t :: held := by
  refine .bind fun _ => .ite (fun _ => .bind fun _ => .bind fun p => ?_) fun _ => .bind fun _ => ?_
  · refine .bind fun type => .of_more (.bind fun _ => .pure ?_) (covers_typed p false type)
    simp
  extract_lets withModifiers
  have hmodifiers (mods : Modifiers) : Collects held (withModifiers mods) fun t => t :: held := by
    refine .bind fun _ => ?_
    extract_lets withTarget
    have htarget (p : Tree) : Collects (p :: held) (withTarget p) fun t => t :: held := by
      refine .bind fun isOptional => .bind fun type => ?_
      refine .of_more (.bind fun p => .pure ?_) (covers_typed p isOptional type)
      split <;> simp
    refine .ite (fun _ => .bind fun _ => ?_) fun _ => .bind htarget
    exact .of_more (htarget _) (by simp)
  exact .ite (fun _ => .bind hmodifiers) fun _ => hmodifiers _

instance : Collects held (parameters g) fun t => t :: held :=
  .bind fun _ => .bind fun _ => .pure (by simp)

/-- Parameters come as a list. -/
theorem parameters_children : Collects held (parameters g) fun t => t.children ++ held :=
  .bind fun _ => .bind fun _ => .pure (covers_iff.mpr fun _ => le_rfl)

instance : Moves (parameters g) := .of_collects

instance : Collects held (typeParameters g) fun t => t :: held := by
  refine .bind fun _ => .ite (fun _ => .bind fun _ => .ite (fun _ => ?_) fun _ => .pure (by simp))
    fun _ => .pure (by simp)
  dsimp only
  exact .bind fun _ => .pure (by simp)

instance : Moves (typeParameters g) := .of_collects

instance : Collects held (typeArguments g) fun t => t :: held :=
  .bind fun _ => .bind fun _ => .pure (by simp)

instance : Moves (resultOrPredicate g) := by
  refine .bind fun t => .bind fun next => ?_
  dsimp only
  exact .ite (fun _ => inferInstance) fun _ => inferInstance

instance : Collects held (resultType g) fun t => t :: held :=
  .bind fun _ => .ite
    (fun _ => .bind fun _ => .ite (fun _ => .bind fun _ => .pure (by simp)) fun _ => .pure (by simp))
    fun _ => .pure (by simp)

/-! ## Blocks -/

instance : Collects held (blockRest g) fun ts => ts ++ held := by
  refine .bind fun body => .bind fun s => ?_
  extract_lets rest
  have hrest : Collects (body ++ held) (rest ()) fun ts => ts ++ held := .pure (by simp)
  exact .ite (fun _ => .bind fun _ => hrest) fun _ => .bind fun _ => hrest

instance : Collects held (block g) fun t => t :: held :=
  .bind fun _ => .bind fun _ => .pure (by simp)

/-! ## Templates -/

theorem callsAll_flatMap_reverse (keep : Tree → List Tree) (stop : Nat) (ts : List Tree) :
    callsAll stop (ts.reverse.flatMap keep) = callsAll stop (ts.flatMap keep) := by
  induction ts with
  | nil => rfl
  | cons t ts ih => simp +arith [ih]

/-- A template is read from its back quote on; of each item some trees are kept. -/
theorem templateParts_holds {item : Reads Tree} {keep : Tree → List Tree}
    [∀ held, Collects held item fun t => keep t ++ held] (hs : s.Holds first held)
    (hright : s.token.kind.isRight) : Ensures (templateParts item) scope s fun parts s' =>
      s'.Holds first (parts.2.flatMap keep ++ held) := by
  refine ensures_bind.mpr (ensures_current.mpr ?_)
  refine (ensures_advanceRaw_between hs hright).bind fun c s hc => ?_
  refine ensures_loop (fun r _ => Between first (r.2.2.flatMap keep ++ held) r.1.offset) hc ?_
  rintro ⟨c, pieces, items⟩ s hc
  dsimp only at hc ⊢
  split
  · exact ensures_failAt
  next n closed _ =>
  have hskip (n : Nat) : Between first (items.flatMap keep ++ held) (c.skip n).offset :=
    hc.mono (Nat.le_add_right ..) fun _ => le_rfl
  refine ensures_ite.mpr ⟨fun _ => ?_, fun _ => ?_⟩
  · refine (ensures_resume_holds (hskip _)).bind fun _ s hs => ensures_pure.mpr ?_
    exact hs.covers (by simp [callsAll_flatMap_reverse])
  · refine (ensures_resume_holds (hskip _)).bind fun _ s hs => .collect hs fun t s hs => ?_
    refine ensures_bind.mpr (ensures_atMark.mpr (ensures_ite.mpr ⟨fun hmark => ?_, fun hmark => ?_⟩))
    · refine (ensures_advanceRaw_between hs (Token.isRight_of_isMark hmark)).bind fun d s hd => ?_
      exact ensures_pure.mpr (hd.mono le_rfl (by simp +arith))
    · exact ensures_bind.mpr (ensures_expectMark.mpr fun h => absurd h hmark)

end Grammar
end StaticContext.Script
