import Mathlib.Order.Nat
import StaticContext.Proofs.CallReplacement
import StaticContext.Proofs.Grammar.Module

/-! # Where calls stop

Every call stops at a closing parenthesis of its own, so no two calls of a script stop at the same
byte. Between tokens a reader has trees at hand whose calls stop at different bytes, none behind the
last token. What it makes of them has no call twice, and a call that is new stops behind all that are
there. No place in the text matters for this, so tokens that are wrong in themselves may be taken. -/

namespace StaticContext.Script
open Splice (callSpans callSpansAll)

/-! ## Calls by their stops -/

namespace Tree

/-- How many calls of the tree stop at a byte of the text. -/
def calls (stop : Nat) (t : Tree) : Nat := (callSpans t).countP (·.stop = stop)

def callsAll (stop : Nat) (ts : List Tree) : Nat := (callSpansAll ts).countP (·.stop = stop)

variable {stop : Nat}

@[simp] theorem callsAll_nil : callsAll stop [] = 0 := rfl

@[simp] theorem callsAll_cons (t : Tree) (ts : List Tree) :
    callsAll stop (t :: ts) = t.calls stop + callsAll stop ts := by
  rw [callsAll, callSpansAll, List.countP_append, calls, callsAll]

@[simp] theorem callsAll_append (ts us : List Tree) :
    callsAll stop (ts ++ us) = callsAll stop ts + callsAll stop us := by
  induction ts with
  | nil => simp
  | cons t ts ih => simp +arith [ih]

@[simp] theorem callsAll_reverse (ts : List Tree) : callsAll stop ts.reverse = callsAll stop ts := by
  induction ts with
  | nil => rfl
  | cons t ts ih => simp +arith [ih]

@[simp] theorem calls_node {l : Label} (hl : l ≠ .typeOnly) (hcall : ∀ span, l ≠ .call span)
    (ts : List Tree) : (node l ts).calls stop = callsAll stop ts := by
  have hspan : l.callSpan? = none := by
    unfold Label.callSpan?
    split
    · next span => exact absurd rfl (hcall span)
    · rfl
  rw [calls, callSpans, if_neg hl, hspan, Option.toList_none, List.nil_append, callsAll]

@[simp] theorem calls_typeOnly (ts : List Tree) : (node .typeOnly ts).calls stop = 0 := by
  rw [calls, callSpans, if_pos rfl, List.countP_nil]

theorem calls_call (span : Span) (ts : List Tree) :
    (node (.call span) ts).calls stop = (if span.stop = stop then 1 else 0) + callsAll stop ts := by
  rw [calls, callSpans, if_neg (by rintro ⟨⟩), List.countP_append]
  congr 1
  simp [Label.callSpan?, List.countP_cons]

@[simp] theorem calls_list (ts : List Tree) : (list ts).calls stop = callsAll stop ts := by
  simp [list]

@[simp] theorem calls_absent : absent.calls stop = 0 := by simp [absent]

@[simp] theorem calls_missing : missing.calls stop = 0 := by simp [missing]

@[simp] theorem calls_name (text : String) : (name text).calls stop = 0 := by simp [name]

@[simp] theorem calls_keyword (text : String) : (keyword text).calls stop = 0 := by simp [keyword]

@[simp] theorem calls_literal (l : Literal) : (literal l).calls stop = 0 := by simp [literal]

/-- Calls of the second trees are calls of the first. -/
def Covers (held ts : List Tree) : Prop :=
  ∀ stop, callsAll stop ts ≤ callsAll stop held

@[simp] theorem covers_iff {held ts : List Tree} :
    Covers held ts ↔ ∀ stop, callsAll stop ts ≤ callsAll stop held := Iff.rfl

/-- Calls of the trees stop at different bytes, none behind the last one, which is not in front of the
first. -/
structure Between (first : Nat) (held : List Tree) (last : Nat) : Prop where
  le : first ≤ last
  once : ∀ stop, callsAll stop held ≤ 1
  behind : ∀ stop, callsAll stop held ≠ 0 → stop ≤ last

variable {first last last' : Nat} {held held' : List Tree}

theorem Between.mono (h : Between first held last) (hlast : last ≤ last')
    (hheld : Covers held held') : Between first held' last' where
  le := h.le.trans hlast
  once stop := (hheld stop).trans (h.once stop)
  behind stop hne := (h.behind stop (by have := hheld stop; omega)).trans hlast

/-- A call that stops behind those within it and beside it. -/
theorem Between.call {start : Nat} {ts : List Tree} (h : Between first (ts ++ held) last)
    (hlast : last < last') : Between first (node (.call ⟨start, last'⟩) ts :: held) last' where
  le := h.le.trans hlast.le
  once stop := by
    have hone := h.once stop
    have hbehind := h.behind stop
    rw [callsAll_append] at hone hbehind
    rw [callsAll_cons, calls_call]
    dsimp only
    split <;> omega
  behind stop hne := by
    have hbehind := h.behind stop
    rw [callsAll_append] at hbehind
    rw [callsAll_cons, calls_call] at hne
    dsimp only at hne
    split at hne <;> omega

end Tree

/-! ## Readers that go on -/

theorem Gap.skip_error {g : Gap} {broken : Bool} {offset bound : Nat} {text : List Char} {fault : Fault}
    (h : skip g broken offset text = .error fault) (hoffset : bound ≤ offset)
    (hstart : ∀ start starred, g = .blockComment start starred → bound ≤ start) :
    bound ≤ fault.offset := by
  fun_induction skip g broken offset text with
  | case1 broken offset start starred =>
    cases h
    exact hstart start starred rfl
  | case2 => cases h
  | case3 broken offset c rest _ ih =>
    exact ih h (hoffset.trans (Nat.le_add_right ..)) (by rintro _ _ ⟨⟩)
  | case4 broken offset more _ ih =>
    exact ih h (hoffset.trans (Nat.le_add_right ..)) (by rintro _ _ ⟨⟩)
  | case5 broken offset more _ ih =>
    refine ih h (hoffset.trans (Nat.le_add_right ..)) fun start starred heq => ?_
    cases heq
    exact hoffset
  | case6 | case7 => cases h
  | case8 broken offset c rest ih =>
    refine ih h (hoffset.trans (Nat.le_add_right ..)) fun start starred heq => ?_
    split at heq <;> cases heq
  | case9 broken offset c rest start starred _ ih =>
    exact ih h (hoffset.trans (Nat.le_add_right ..)) (by rintro _ _ ⟨⟩)
  | case10 broken offset c rest start starred _ ih =>
    refine ih h (hoffset.trans (Nat.le_add_right ..)) fun start' starred' heq => ?_
    cases heq
    exact hstart start starred rfl

namespace ReadState

/-- The current token stops behind the last one. Nothing is taken from behind a comment that is not
closed, so what is read there stops where it stopped before. -/
structure Steady (s : ReadState) : Prop where
  here : s.token.kind.isRight → s.lastStop ≤ s.here.offset
  stop : s.lastStop ≤ s.token.stop
  next : s.token.stop ≤ s.next.offset ∨ ∃ fault,
    Gap.skip .between false s.next.offset s.next.rest = .error fault ∧ s.token.stop ≤ fault.offset
  right : s.token.kind.isRight → s.token.stop = s.next.offset
  closed : s.token.isMark ")" → s.lastStop < s.token.stop

variable {s : ReadState} {c : Cursor}

theorem steady_put {broken : Bool} {l : Lexeme} (h : s.lastStop ≤ c.offset) (hl : l.Fits c.rest) :
    (s.put c broken l).Steady where
  here _ := h
  stop := h.trans (Nat.le_add_right ..)
  next := .inl le_rfl
  right _ := rfl
  closed hmark := by
    have htake := hl.mark ")" (of_decide_eq_true hmark)
    refine h.trans_lt (Nat.lt_add_of_pos_right ?_)
    rw [htake]
    exact Nat.zero_lt_one

theorem steady_fill (h : s.lastStop ≤ c.offset ∨ ∃ fault,
    Gap.skip .between false c.offset c.rest = .error fault ∧ s.lastStop ≤ fault.offset) :
    (s.fill c).Steady := by
  rw [fill]
  split
  · next fault hskip =>
    refine ⟨by rintro ⟨⟩, ?_, .inr ⟨fault, hskip, le_rfl⟩, by rintro ⟨⟩, by rintro ⟨⟩⟩
    rcases h with h | ⟨fault', hskip', h⟩
    · exact Gap.skip_error hskip h (by rintro _ _ ⟨⟩)
    · cases hskip.symm.trans hskip'
      exact h
  · next d broken hskip =>
    obtain ⟨gap, hskips, -⟩ := Gap.skip_ok hskip
    refine steady_put ?_ (Lexeme.read_fits d)
    rcases h with h | ⟨fault, hskip', -⟩
    · exact h.trans (hskips.offset_eq ▸ Nat.le_add_right ..)
    · cases hskip.symm.trans hskip'

theorem lastStop_fill : (s.fill c).lastStop = s.lastStop := by
  rw [fill]
  split <;> rfl

theorem Steady.advanced (h : s.Steady) : s.advanced.Steady := steady_fill h.next

theorem Steady.lastStop_advanced (h : s.Steady) : s.lastStop ≤ s.advanced.lastStop := by
  rw [ReadState.advanced, lastStop_fill]
  exact h.stop

theorem Steady.note (h : s.Steady) (faults : List Fault) : { s with faults := faults }.Steady :=
  ⟨h.here, h.stop, h.next, h.right, h.closed⟩

end ReadState

namespace Reads
open ReadState

variable {α β : Type} {scope : Scope} {s : ReadState}

/-- The reader goes on to where it is steady, never back. -/
class Moves (r : Reads α) : Prop where
  ensures : ∀ scope s, s.Steady → Ensures r scope s fun _ s' =>
    s'.Steady ∧ s.lastStop ≤ s'.lastStop

section
variable {r : Reads α}

instance {a : α} : Moves (pure a) := ⟨fun _ _ hs => ensures_pure.mpr ⟨hs, le_rfl⟩⟩

theorem Moves.bind [h : Moves r] {f : α → Reads β} (hf : ∀ a, Moves (f a)) : Moves (r >>= f) :=
  ⟨fun scope s hs => (h.ensures scope s hs).bind fun a s' ⟨hs', hle⟩ =>
    ((hf a).ensures scope s' hs').mono fun _ _ ht => ⟨ht.1, hle.trans ht.2⟩⟩

theorem Moves.ite {c : Prop} [Decidable c] {r' : Reads α} (h : c → Moves r) (h' : ¬c → Moves r') :
    Moves (if c then r else r') := by
  split
  · next hc => exact h hc
  · next hc => exact h' hc

instance moves_bind [Moves r] {f : α → Reads β} [∀ a, Moves (f a)] : Moves (r >>= f) :=
  .bind fun _ => inferInstance

instance moves_ite {c : Prop} [Decidable c] {r' : Reads α} [Moves r] [Moves r'] :
    Moves (if c then r else r') :=
  .ite (fun _ => inferInstance) fun _ => inferInstance

instance : Moves read := ⟨fun _ _ hs => ensures_read.mpr ⟨hs, le_rfl⟩⟩

instance : Moves get := ⟨fun _ _ hs => ensures_get.mpr ⟨hs, le_rfl⟩⟩

instance : Moves current := ⟨fun _ _ hs => ensures_current.mpr ⟨hs, le_rfl⟩⟩

instance : Moves lookahead := ⟨fun _ _ hs => ensures_lookahead.mpr ⟨hs, le_rfl⟩⟩

instance (mark : String) : Moves (atMark mark) := ⟨fun _ _ hs => ensures_atMark.mpr ⟨hs, le_rfl⟩⟩

instance (word : String) : Moves (atWord word) := ⟨fun _ _ hs => ensures_atWord.mpr ⟨hs, le_rfl⟩⟩

instance (marks : List String) : Moves (atAnyMark marks) :=
  ⟨fun _ _ hs => ensures_atAnyMark.mpr ⟨hs, le_rfl⟩⟩

instance (words : List String) : Moves (atAnyWord words) :=
  ⟨fun _ _ hs => ensures_atAnyWord.mpr ⟨hs, le_rfl⟩⟩

instance : Moves (fits r) := ⟨fun _ _ hs => ensures_fits fun _ => ⟨hs, le_rfl⟩⟩

instance : Moves advance :=
  ⟨fun _ _ hs => ensures_advance.mpr ⟨hs.advanced, hs.lastStop_advanced⟩⟩

instance (cause : Cause) (offset : Nat) : Moves (report cause offset) :=
  ⟨fun _ _ hs => ensures_report.mpr ⟨hs.note _, le_rfl⟩⟩

instance (cause : Cause) (offset : Nat) : Moves (failAt (α := α) cause offset) :=
  ⟨fun _ _ _ => ensures_failAt⟩

instance (cause : Cause) : Moves (fail (α := α) cause) := ⟨fun _ _ _ => ensures_fail⟩

instance (expected : String) : Moves (unexpected (α := α) expected) :=
  ⟨fun _ _ _ => ensures_unexpected⟩

instance (mark : String) : Moves (eatMark mark) := by
  unfold eatMark
  infer_instance

instance (word : String) : Moves (eatWord word) := by
  unfold eatWord
  infer_instance

instance (mark : String) : Moves (expectMark mark) := by
  unfold expectMark
  infer_instance

instance (word : String) : Moves (expectWord word) := by
  unfold expectWord
  infer_instance

instance : Moves atStatementEnd := by
  unfold atStatementEnd
  infer_instance

instance : Moves eatSemicolon := by
  unfold eatSemicolon
  infer_instance

instance : Moves expectSemicolon := by
  unfold expectSemicolon
  infer_instance

instance [h : Moves r] : Moves (attempt? r) :=
  ⟨fun scope s hs => ensures_attempt? (h.ensures scope s hs) ⟨hs, le_rfl⟩⟩

instance [h : Moves r] (change : Scope → Scope) : Moves (withScope change r) :=
  ⟨fun scope s hs => h.ensures (change scope) s hs⟩

instance moves_loop {step : α → Reads (α ⊕ β)} {a : α} [h : ∀ a, Moves (step a)] :
    Moves (loop step a) := by
  refine ⟨fun scope s hs => ensures_loop (fun _ s' => s'.Steady ∧ s.lastStop ≤ s'.lastStop)
    ⟨hs, le_rfl⟩ fun a t ⟨ht, hle⟩ => ((h a).ensures scope t ht).mono fun r u hu => ?_⟩
  cases r <;> exact ⟨hu.1, hle.trans hu.2⟩

instance {r r' : Reads Bool} [Moves r] [Moves r'] : Moves (r <||> r') := by
  refine .bind fun b => ?_
  split <;> infer_instance

instance {stop : Reads Bool} {item : Reads Tree} [Moves stop] [Moves item] :
    Moves (many stop item) := by
  unfold many
  infer_instance

instance {item : Reads Tree} [Moves item] (close : String) : Moves (listed close item) := by
  unfold listed
  infer_instance

end

end Reads

/-! ## Trees at hand -/

/-- Calls of the trees at hand stop at different bytes up to the end of the last token. -/
structure ReadState.Holds (first : Nat) (held : List Tree) (s : ReadState) : Prop where
  steady : s.Steady
  calls : Tree.Between first held s.lastStop

theorem ReadState.Holds.covers {first : Nat} {held held' : List Tree} {s : ReadState}
    (h : s.Holds first held) (hheld : Tree.Covers held held') : s.Holds first held' :=
  ⟨h.steady, h.calls.mono le_rfl hheld⟩

theorem ReadState.Holds.advanced {first : Nat} {held : List Tree} {s : ReadState}
    (h : s.Holds first held) : s.advanced.Holds first held :=
  ⟨h.steady.advanced, h.calls.mono h.steady.lastStop_advanced fun _ => le_rfl⟩

theorem ReadState.Steady.holds {s : ReadState} (h : s.Steady) : s.Holds s.lastStop [] :=
  ⟨h, le_rfl, fun _ => Nat.zero_le 1, fun _ hne => absurd rfl hne⟩

namespace Reads
open ReadState Script.Tree

variable {α β : Type} {scope : Scope} {s : ReadState} {first : Nat} {held : List Tree}

/-- With the one trees at hand the reader goes on to where the others are at hand. -/
class Collects (held : List Tree) (r : Reads α) (kept : outParam (α → List Tree)) : Prop where
  ensures : ∀ first scope s, s.Holds first held → Ensures r scope s fun a s' => s'.Holds first (kept a)

section
variable {r : Reads α} {k : α → List Tree} {l : β → List Tree}

instance (priority := low) Collects.of_moves [h : Moves r] : Collects held r fun _ => held :=
  ⟨fun _ scope s hs => (h.ensures scope s hs.steady).mono fun _ _ h =>
    ⟨h.1, hs.calls.mono h.2 fun _ => le_rfl⟩⟩

theorem Moves.of_collects [h : Collects [] r k] : Moves r :=
  ⟨fun scope s hs => (h.ensures s.lastStop scope s hs.holds).mono fun _ _ h => ⟨h.steady, h.calls.le⟩⟩

theorem Ensures.collect [h : Collects held r k] {f : α → Reads β} {Q : β → ReadState → Prop}
    (hs : s.Holds first held)
    (hf : ∀ a s', s'.Holds first (k a) → Ensures (f a) scope s' Q) : Ensures (r >>= f) scope s Q :=
  (h.ensures first scope s hs).bind hf

namespace Collects

theorem bind [h : Collects held r k] {f : α → Reads β} (hf : ∀ a, Collects (k a) (f a) l) :
    Collects held (r >>= f) l :=
  ⟨fun first _ _ hs => .collect hs fun a s' hs' => (hf a).ensures first _ s' hs'⟩

theorem pure {a : α} (h : Covers held (k a)) : Collects held (pure a) k :=
  ⟨fun _ _ _ hs => ensures_pure.mpr (hs.covers h)⟩

theorem ite {c : Prop} [Decidable c] {r' : Reads α} (h : c → Collects held r k)
    (h' : ¬c → Collects held r' k) : Collects held (if c then r else r') k := by
  split
  · next hc => exact h hc
  · next hc => exact h' hc

/-- More trees may be at hand than are needed. -/
theorem of_more {more : List Tree} (h : Collects held r k) (hmore : Covers more held) :
    Collects more r k :=
  ⟨fun first scope s hs => h.ensures first scope s (hs.covers hmore)⟩

/-- A reader that never gives anything. -/
theorem of_never (h : ∀ scope s (Q : α → ReadState → Prop), Ensures r scope s Q) :
    Collects held r k :=
  ⟨fun _ scope s _ => h scope s _⟩

theorem failAt {cause : Cause} {offset : Nat} : Collects held (failAt cause offset) k :=
  of_never fun _ _ _ => ensures_failAt

theorem fail {cause : Cause} : Collects held (fail cause) k :=
  of_never fun _ _ _ => ensures_fail

theorem unexpected {expected : String} : Collects held (unexpected expected) k :=
  of_never fun _ _ _ => ensures_unexpected

theorem loop {step : α → Reads (α ⊕ β)} {a : α} (k : α → List Tree)
    (h : ∀ a, Collects (k a) (step a) (Sum.elim k l)) :
    Collects (k a) (loop step a) l := by
  refine ⟨fun first scope s hs => ensures_loop (fun a s => s.Holds first (k a)) hs fun a s hs => ?_⟩
  refine ((h a).ensures first scope s hs).mono fun r s' hr => ?_
  cases r <;> exact hr

instance attempt? {r : Reads Tree} [h : Collects held r fun t => t :: held] :
    Collects held (attempt? r) fun o => o.toList ++ held :=
  ⟨fun first scope s hs => ensures_attempt? (h.ensures first scope s hs) hs⟩

instance withScope [h : Collects held r k] (change : Scope → Scope) :
    Collects held (withScope change r) k :=
  ⟨fun first scope s hs => h.ensures first (change scope) s hs⟩

instance enclosed [h : Collects held r k] : Collects held (enclosed r) k :=
  withScope _

end Collects
end

section
variable {item : Reads Tree}

/-- What `stop` says holds behind the trees. -/
theorem ensures_many_holds [∀ held, Collects held item fun t => t :: held] {stop : Reads Bool}
    {T : ReadState → Prop} (hs : s.Holds first held)
    (hstop : ∀ held s, s.Holds first held →
      Ensures stop scope s fun b s' => s'.Holds first held ∧ (b → T s')) :
    Ensures (many stop item) scope s fun ts s' => s'.Holds first (ts ++ held) ∧ T s' := by
  refine ensures_loop (fun done s => s.Holds first (done ++ held)) hs fun done s hs => ?_
  refine (hstop _ s hs).bind fun b s hb => ensures_ite.mpr ⟨fun h => ?_, fun _ => ?_⟩
  · exact ensures_pure.mpr ⟨hb.1.covers (by simp), hb.2 h⟩
  · exact .collect hb.1 fun t s hs => ensures_pure.mpr hs

instance Collects.many {stop : Reads Bool} [h : Moves stop]
    [∀ held, Collects held item fun t => t :: held] :
    Collects held (many stop item) fun ts => ts ++ held := by
  refine ⟨fun first scope s hs => ?_⟩
  refine (ensures_many_holds (T := fun _ => True) hs fun held s hs => ?_).mono fun _ _ h => h.1
  exact (Collects.of_moves.ensures first scope s hs).mono fun _ _ h => ⟨h, fun _ => trivial⟩

/-- Behind a closing parenthesis is more than behind the items in front of it. -/
theorem ensures_listed [∀ held, Collects held item fun t => t :: held] (close : String)
    (hs : s.Holds first held) : Ensures (listed close item) scope s fun ts s' =>
      s'.Holds first (ts ++ held) ∧
        (close = ")" → ∃ last < s'.lastStop, Between first (ts ++ held) last) := by
  have items : Collects held (Reads.loop (β := List Tree) (fun done => do
      if ← atMark close then return .inr done.reverse
      let t ← item
      unless ← atMark close do expectMark ","
      return .inl (t :: done)) []) fun ts => ts ++ held := by
    refine .loop (a := []) (fun done => done ++ held) fun done => ?_
    refine .bind fun _ => .ite (fun _ => .pure (by simp)) fun _ => ?_
    refine .bind fun t => .bind fun _ => .ite (fun _ => ?_) fun _ => .bind fun _ => ?_
    · exact .pure (by simp)
    · exact .pure (by simp)
  refine .collect hs fun ts s hs => ensures_bind.mpr (ensures_expectMark.mpr fun hmark => ?_)
  refine ensures_pure.mpr ⟨hs.advanced, ?_⟩
  rintro rfl
  refine ⟨s.lastStop, ?_, hs.calls⟩
  rw [ReadState.advanced, lastStop_fill]
  exact hs.steady.closed hmark

instance Collects.listed [∀ held, Collects held item fun t => t :: held] (close : String) :
    Collects held (listed close item) fun ts => ts ++ held :=
  ⟨fun _ _ _ hs => (ensures_listed close hs).mono fun _ _ h => h.1⟩

end

/-! ## Text that is taken without tokens -/

theorem ensures_advanceRaw_between (hs : s.Holds first held) (hright : s.token.kind.isRight) :
    Ensures advanceRaw scope s fun c _ => Between first held c.offset :=
  (ensures_of_eq rfl).mpr (hs.calls.mono (hs.steady.right hright ▸ hs.steady.stop) fun _ => le_rfl)

theorem ensures_resume_holds {c : Cursor} (h : Between first held c.offset) :
    Ensures (resume c) scope s fun _ s' => s'.Holds first held := by
  refine (ensures_of_eq rfl).mpr ⟨steady_fill (.inl le_rfl), ?_⟩
  rw [lastStop_fill]
  exact h

/-- A token is read anew. -/
theorem ensures_reread_holds {lexeme : Cursor → Lexeme} (hs : s.Holds first held)
    (hright : s.token.kind.isRight) (hl : ∀ c, (lexeme c).Fits c.rest) :
    Ensures (reread lexeme) scope s fun _ s' => s'.Holds first held :=
  ensures_reread.mpr ⟨steady_put (hs.steady.here hright) (hl s.here), hs.calls⟩

end Reads
end StaticContext.Script
