import StaticContext.Script.Reader

/-! # What readers ensure

A reader ensures something from a state on if all it can give there has it. The rules follow the way
readers are put together; what a test says of the current token stays known. -/

namespace StaticContext.Script

namespace Token

def isAnyMark (t : Token) (texts : List String) : Bool :=
  match t.kind with
  | .mark text => texts.contains text
  | _ => false

def isAnyWord (t : Token) (texts : List String) : Bool :=
  match t.kind with
  | .word text isEscaped => !isEscaped && texts.contains text
  | _ => false

end Token

namespace ReadState

/-- The state behind the current token. -/
def advanced (s : ReadState) : ReadState :=
  { s with lastStart := s.token.start, lastStop := s.token.stop }.fill s.next

/-- The token behind the current one. -/
def ahead (s : ReadState) : Token := (s.fill s.next).token

theorem advanced_token (s : ReadState) : s.advanced.token = s.ahead := by
  rw [advanced, ahead, fill, fill]
  split <;> rfl

end ReadState

namespace Reads

variable {α β : Type} {scope : Scope} {s : ReadState}

/-- Whatever the reader gives from a state on has the property, with the state it leaves. -/
def Ensures (r : Reads α) (scope : Scope) (s : ReadState) (Q : α → ReadState → Prop) : Prop :=
  ∀ a s', r scope s = .ok (a, s') → Q a s'

theorem Ensures.mono {r : Reads α} {P Q : α → ReadState → Prop} (h : Ensures r scope s P)
    (hPQ : ∀ a s', P a s' → Q a s') : Ensures r scope s Q :=
  fun a s' hr => hPQ a s' (h a s' hr)

/-- A reader that is sure of its result. -/
theorem ensures_of_eq {r : Reads α} {a : α} {s' : ReadState} {Q : α → ReadState → Prop}
    (h : r scope s = .ok (a, s')) : Ensures r scope s Q ↔ Q a s' := by
  constructor
  · intro hr
    exact hr a s' h
  · intro hQ b t hb
    cases h.symm.trans hb
    exact hQ

theorem ensures_pure {a : α} {Q : α → ReadState → Prop} :
    Ensures (pure a) scope s Q ↔ Q a s :=
  ensures_of_eq rfl

theorem ensures_bind {r : Reads α} {f : α → Reads β} {Q : β → ReadState → Prop} :
    Ensures (r >>= f) scope s Q ↔
      Ensures r scope s fun a s' => Ensures (f a) scope s' Q := by
  have heq : (r >>= f) scope s = (r scope s).bind fun (a, s') => f a scope s' := rfl
  constructor
  · intro h a s' hr b t hf
    exact h b t (by rw [heq, hr]; exact hf)
  · intro h b t hrf
    rw [heq] at hrf
    cases hr : r scope s with
    | error e => rw [hr] at hrf; cases hrf
    | ok p => rw [hr] at hrf; exact h p.1 p.2 hr b t hrf

theorem Ensures.bind {r : Reads α} {f : α → Reads β} {P : α → ReadState → Prop}
    {Q : β → ReadState → Prop} (h : Ensures r scope s P)
    (hf : ∀ a s', P a s' → Ensures (f a) scope s' Q) : Ensures (r >>= f) scope s Q :=
  ensures_bind.mpr (h.mono hf)

theorem ensures_ite {c : Prop} [Decidable c] {r r' : Reads α} {Q : α → ReadState → Prop} :
    Ensures (if c then r else r') scope s Q ↔
      (c → Ensures r scope s Q) ∧ (¬c → Ensures r' scope s Q) := by
  split <;> simp [*]

/-! ## Looking at the current token -/

theorem ensures_read {Q : Scope → ReadState → Prop} : Ensures read scope s Q ↔ Q scope s :=
  ensures_of_eq rfl

theorem ensures_get {Q : ReadState → ReadState → Prop} : Ensures get scope s Q ↔ Q s s :=
  ensures_of_eq rfl

theorem ensures_current {Q : Token → ReadState → Prop} :
    Ensures current scope s Q ↔ Q s.token s :=
  ensures_of_eq rfl

theorem ensures_lookahead {Q : Token → ReadState → Prop} :
    Ensures lookahead scope s Q ↔ Q s.ahead s :=
  ensures_of_eq rfl

theorem ensures_atMark {text : String} {Q : Bool → ReadState → Prop} :
    Ensures (atMark text) scope s Q ↔ Q (s.token.isMark text) s :=
  ensures_of_eq rfl

theorem ensures_atWord {text : String} {Q : Bool → ReadState → Prop} :
    Ensures (atWord text) scope s Q ↔ Q (s.token.isWord text) s :=
  ensures_of_eq rfl

theorem ensures_atAnyMark {texts : List String} {Q : Bool → ReadState → Prop} :
    Ensures (atAnyMark texts) scope s Q ↔
      Q (s.token.isAnyMark texts) s := by
  rw [atAnyMark, ensures_bind, ensures_current, Token.isAnyMark]
  cases s.token.kind <;> exact ensures_pure

theorem ensures_atAnyWord {texts : List String} {Q : Bool → ReadState → Prop} :
    Ensures (atAnyWord texts) scope s Q ↔
      Q (s.token.isAnyWord texts) s := by
  rw [atAnyWord, ensures_bind, ensures_current, Token.isAnyWord]
  cases s.token.kind <;> exact ensures_pure

theorem ensures_fits {r : Reads α} {Q : Bool → ReadState → Prop} (h : ∀ b, Q b s) :
    Ensures (fits r) scope s Q := by
  intro b s' hr
  rw [fits] at hr
  split at hr <;> cases hr <;> exact h _

/-! ## Going on -/

theorem ensures_advance {Q : Token → ReadState → Prop} :
    Ensures advance scope s Q ↔ Q s.token s.advanced :=
  ensures_of_eq rfl

theorem ensures_reread {lexeme : Cursor → Lexeme} {Q : Token → ReadState → Prop} :
    Ensures (reread lexeme) scope s Q ↔
      Q (s.put s.here s.token.isAfterBreak (lexeme s.here)).token
        (s.put s.here s.token.isAfterBreak (lexeme s.here)) :=
  ensures_of_eq rfl

theorem ensures_eatMark {text : String} {Q : Bool → ReadState → Prop} :
    Ensures (eatMark text) scope s Q ↔
      (s.token.isMark text → Q true s.advanced) ∧ (¬ s.token.isMark text → Q false s) := by
  simp only [eatMark, ensures_bind, ensures_atMark, ensures_ite, ensures_advance, ensures_pure]

theorem ensures_eatWord {text : String} {Q : Bool → ReadState → Prop} :
    Ensures (eatWord text) scope s Q ↔
      (s.token.isWord text → Q true s.advanced) ∧ (¬ s.token.isWord text → Q false s) := by
  simp only [eatWord, ensures_bind, ensures_atWord, ensures_ite, ensures_advance, ensures_pure]

theorem ensures_report {cause : Cause} {offset : Nat} {Q : Unit → ReadState → Prop} :
    Ensures (report cause offset) scope s Q ↔
      Q () { s with faults := ⟨cause, offset⟩ :: s.faults } :=
  ensures_of_eq rfl

theorem ensures_throw {fault : Fault} {Q : α → ReadState → Prop} :
    Ensures (throw fault) scope s Q :=
  nofun

theorem ensures_failAt {cause : Cause} {offset : Nat} {Q : α → ReadState → Prop} :
    Ensures (failAt cause offset) scope s Q := by
  rw [failAt, ensures_bind, ensures_current]
  split <;> exact ensures_throw

theorem ensures_fail {cause : Cause} {Q : α → ReadState → Prop} :
    Ensures (fail cause) scope s Q := by
  rw [fail, ensures_bind, ensures_get, ensures_ite]
  exact ⟨fun _ => ensures_bind.mpr ensures_throw, fun _ => ensures_failAt⟩

theorem ensures_unexpected {expected : String} {Q : α → ReadState → Prop} :
    Ensures (unexpected expected) scope s Q := by
  rw [unexpected, ensures_bind, ensures_current]
  exact ensures_fail

theorem ensures_expectMark {text : String} {Q : Unit → ReadState → Prop} :
    Ensures (expectMark text) scope s Q ↔ (s.token.isMark text → Q () s.advanced) := by
  simp [expectMark, ensures_bind, ensures_eatMark, ensures_ite, ensures_pure, ensures_current,
    ensures_fail]

theorem ensures_expectWord {text : String} {Q : Unit → ReadState → Prop} :
    Ensures (expectWord text) scope s Q ↔ (s.token.isWord text → Q () s.advanced) := by
  simp [expectWord, ensures_bind, ensures_eatWord, ensures_ite, ensures_pure, ensures_current,
    ensures_fail]

theorem ensures_attempt? {r : Reads α} {Q : Option α → ReadState → Prop}
    (h : Ensures r scope s fun a s' => Q (some a) s') (hnone : Q none s) :
    Ensures (attempt? r) scope s Q := by
  intro o s' hr
  rw [attempt?] at hr
  split at hr
  · next a t ha =>
    cases hr
    exact h a _ ha
  · cases hr
    exact hnone

theorem ensures_withScope {change : Scope → Scope} {r : Reads α} {Q : α → ReadState → Prop} :
    Ensures (withScope change r) scope s Q ↔ Ensures r (change scope) s Q :=
  Iff.rfl

theorem ensures_loop {step : α → Reads (α ⊕ β)} {a : α} {Q : β → ReadState → Prop}
    (I : α → ReadState → Prop) (start : I a s)
    (h : ∀ a s, I a s → Ensures (step a) scope s fun r s' => r.elim (I · s') (Q · s')) :
    Ensures (loop step a) scope s Q := by
  have rounds (n : Nat) (a : α) (s : ReadState) (ha : I a s) :
      Ensures (loopUpTo step n a) scope s Q := by
    induction n generalizing a s with
    | zero => exact ensures_fail
    | succ n ih =>
      rw [loopUpTo]
      refine (h a s ha).bind fun r s' hr => ?_
      cases r with
      | inl a => exact ih a s' hr
      | inr b => exact ensures_pure.mpr hr
  rw [loop, ensures_bind, ensures_read]
  exact rounds _ a s start

end Reads
end StaticContext.Script
