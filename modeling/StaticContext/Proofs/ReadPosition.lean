import StaticContext.Proofs.Reading
import StaticContext.Proofs.TokenText

/-! # Where a reader stands in the text

Between tokens a reader stands behind text that is done, a gap, and the spelling of the current token.
It is sited there if moreover no word in front of the token goes on with `r`. Readers keep sited as
long as they take no token that is wrong in itself. -/

namespace StaticContext.Script
open Mention (endsInWord endsInWord_append)

/-! ## Positions -/

/-- The cursor stands in the text right behind a part of it. -/
structure Cursor.Behind (text before : List Char) (c : Cursor) : Prop where
  text_eq : text = before ++ c.rest
  offset_eq : c.offset = Utf8.widths before

/-- The cursor stands where the letter `r` does not go on a word. -/
def Cursor.Free (text : List Char) (c : Cursor) : Prop :=
  ∃ before, c.Behind text before ∧ (c.rest.head? = some 'r' → endsInWord before = false)

theorem Cursor.Behind.skip {text before : List Char} {c : Cursor} (h : c.Behind text before)
    (n : Nat) : (c.skip n).Behind text (before ++ c.rest.take n) where
  text_eq := by
    rw [Cursor.skip, List.append_assoc, List.take_append_drop]
    exact h.text_eq
  offset_eq := by rw [Cursor.skip, h.offset_eq, Utf8.widths_append]

/-- Text that ends in no word is taken. -/
theorem Cursor.Behind.free_skip {text before : List Char} {c : Cursor} {n : Nat} {d : Char}
    (h : c.Behind text before) (htake : ∃ front, c.rest.take n = front ++ [d])
    (hd : Text.isWord d = false) : (c.skip n).Free text := by
  obtain ⟨front, hfront⟩ := htake
  refine ⟨_, h.skip n, fun _ => ?_⟩
  rw [hfront, ← List.append_assoc, endsInWord_append (List.cons_ne_nil _ _)]
  exact hd

/-- A gap is taken. -/
theorem Cursor.Behind.gap {text before gap : List Char} {c d : Cursor} (h : c.Behind text before)
    (hgap : Gap.Skips c.rest c.offset gap d) : d.Behind text (before ++ gap) where
  text_eq := by
    rw [List.append_assoc, ← hgap.text_eq]
    exact h.text_eq
  offset_eq := by rw [hgap.offset_eq, h.offset_eq, Utf8.widths_append]

namespace ReadState

/-- How the text around the current token is divided. -/
structure Layout (text : List Char) (s : ReadState) (done gap spelled : List Char) : Prop where
  here : s.here.Behind text (done ++ gap)
  next : s.next.Behind text (done ++ gap ++ spelled)
  isGap : IsGap gap
  gapEnd : gap ≠ [] → s.here.rest ≠ [] → endsInWord gap = false
  broken : s.token.isAfterBreak → gap ≠ []
  word : ∀ word isEscaped, s.token.kind = .word word isEscaped → Spells word.toList spelled
  mark : ∀ mark, s.token.kind = .mark mark → spelled = mark.toList
  textEnd : s.token.kind = .textEnd → s.here.rest = []
  apart : s.token.kind.isRight → Apart spelled s.next.rest
  lastStop : s.token.kind.isRight → s.lastStop = Utf8.widths done
  start : s.token.kind.isRight → s.token.start = s.here.offset
  /-- Only a comment that is not closed has no text of its own; behind it no other token comes. -/
  stop : s.token.kind.isRight ∨ (∃ r, Gap.skip .between false s.next.offset s.next.rest = .ok r) →
    s.token.stop = s.next.offset

/-- The state stands in the text. -/
def Placed (text : List Char) (s : ReadState) : Prop :=
  ∃ done gap spelled, s.Layout text done gap spelled

/-- The state stands in the text, and the current token does not go on a word. -/
def Sited (text : List Char) (s : ReadState) : Prop :=
  ∃ done gap spelled, s.Layout text done gap spelled ∧
    (s.token.kind.isRight → s.here.rest.head? = some 'r' → endsInWord (done ++ gap) = false)

variable {text done gap : List Char} {s : ReadState} {c : Cursor}

theorem Sited.placed (h : s.Sited text) : s.Placed text :=
  let ⟨done, gap, spelled, layout, _⟩ := h
  ⟨done, gap, spelled, layout⟩

theorem Layout.here_eq {spelled : List Char} (h : s.Layout text done gap spelled) :
    s.here.rest = spelled ++ s.next.rest := by
  have := h.here.text_eq.symm.trans h.next.text_eq
  rwa [List.append_assoc (done ++ gap), List.append_cancel_left_eq] at this

theorem layout_put {broken : Bool} {l : Lexeme} (hc : c.Behind text (done ++ gap))
    (hl : l.Fits c.rest) (hgap : IsGap gap)
    (hend : gap ≠ [] → c.rest ≠ [] → endsInWord gap = false) (hbroken : broken → gap ≠ [])
    (hlast : l.kind.isRight → s.lastStop = Utf8.widths done) :
    (s.put c broken l).Layout text done gap (c.rest.take l.size) where
  here := hc
  next := hc.skip l.size
  isGap := hgap
  gapEnd := hend
  broken := hbroken
  word := hl.word
  mark := hl.mark
  textEnd := hl.textEnd
  apart := hl.apart
  lastStop := hlast
  start _ := rfl
  stop _ := rfl

/-- A token read behind text that is done. -/
theorem layout_fill (hc : c.Behind text done)
    (hlast : (∃ r, Gap.skip .between false c.offset c.rest = .ok r) → s.lastStop = c.offset) :
    ∃ gap spelled, (s.fill c).Layout text done gap spelled ∧
      (gap = [] → (s.fill c).here.rest = c.rest) := by
  rw [fill]
  split
  · next fault hskip =>
    -- what is wrong has no text, and only its stop says something
    refine ⟨[], [], ⟨?_, ?_, .nil, ?_, ?_, ?_, ?_, ?_, ?_, ?_, ?_, ?_⟩, fun _ => rfl⟩
    · rwa [List.append_nil]
    · rwa [List.append_nil, List.append_nil]
    · intro hgap
      exact absurd rfl hgap
    · rintro ⟨⟩
    · rintro _ _ ⟨⟩
    · rintro _ ⟨⟩
    · rintro ⟨⟩
    · rintro ⟨⟩
    · rintro ⟨⟩
    · rintro ⟨⟩
    · rintro (⟨⟨⟩⟩ | ⟨r, hr⟩)
      cases hskip.symm.trans hr
  · next d broken hskip =>
    obtain ⟨gap, hskips, hgap, -, hbroken⟩ := Gap.skip_ok hskip
    refine ⟨gap, _, layout_put (hc.gap hskips) (Lexeme.read_fits d) (hgap rfl)
      (fun _ => hskips.apart) (fun h => (hbroken h).resolve_left (by rintro ⟨⟩)) fun _ => ?_, ?_⟩
    · rw [hlast ⟨_, hskip⟩, hc.offset_eq]
    · rintro rfl
      exact hskips.text_eq.symm

theorem placed_fill (hc : c.Behind text done)
    (hlast : (∃ r, Gap.skip .between false c.offset c.rest = .ok r) → s.lastStop = c.offset) :
    (s.fill c).Placed text := by
  obtain ⟨gap, spelled, layout, -⟩ := layout_fill hc hlast
  exact ⟨done, gap, spelled, layout⟩

/-- Behind a gap nothing in front of it matters. -/
theorem Layout.apart_here {spelled : List Char} (h : s.Layout text done gap spelled) (hgap : gap ≠ [])
    (hr : s.here.rest.head? = some 'r') : endsInWord (done ++ gap) = false := by
  rw [endsInWord_append hgap]
  refine h.gapEnd hgap fun hnil => ?_
  rw [hnil] at hr
  cases hr

theorem sited_fill (hc : c.Free text) (hlast : s.lastStop = c.offset) : (s.fill c).Sited text := by
  obtain ⟨before, hc, hfree⟩ := hc
  obtain ⟨gap, spelled, layout, hhere⟩ := layout_fill hc fun _ => hlast
  refine ⟨before, gap, spelled, layout, fun _ hr => ?_⟩
  by_cases hgap : gap = []
  · rw [hhere hgap] at hr
    rw [hgap, List.append_nil]
    exact hfree hr
  · exact layout.apart_here hgap hr

theorem Placed.advanced (h : s.Placed text) : s.advanced.Placed text :=
  let ⟨_, _, _, layout⟩ := h
  placed_fill layout.next fun h => layout.stop (.inr h)

/-- No `r` goes on a word right behind a token that is right. -/
theorem Placed.free (h : s.Placed text) (hright : s.token.kind.isRight) : s.next.Free text := by
  obtain ⟨done, gap, spelled, layout⟩ := h
  refine ⟨_, layout.next, fun hr => ?_⟩
  obtain ⟨hne, hword⟩ := layout.apart hright hr
  rwa [endsInWord_append hne]

theorem Placed.stop (h : s.Placed text) (hright : s.token.kind.isRight) :
    s.token.stop = s.next.offset :=
  let ⟨_, _, _, layout⟩ := h
  layout.stop (.inl hright)

theorem Placed.sited_advanced (h : s.Placed text) (hright : s.token.kind.isRight) :
    s.advanced.Sited text :=
  sited_fill (h.free hright) (h.stop hright)

theorem Sited.advanced (h : s.Sited text) (hright : s.token.kind.isRight) :
    s.advanced.Sited text :=
  h.placed.sited_advanced hright

theorem Sited.note (h : s.Sited text) (faults : List Fault) :
    { s with faults := faults }.Sited text := by
  obtain ⟨done, gap, spelled, layout, hword⟩ := h
  exact ⟨done, gap, spelled, ⟨layout.here, layout.next, layout.isGap, layout.gapEnd, layout.broken,
    layout.word, layout.mark, layout.textEnd, layout.apart, layout.lastStop, layout.start, layout.stop⟩, hword⟩

theorem Sited.put {lexeme : Cursor → Lexeme} (h : s.Sited text) (hright : s.token.kind.isRight)
    (hl : ∀ c, (lexeme c).Fits c.rest) :
    (s.put s.here s.token.isAfterBreak (lexeme s.here)).Sited text := by
  obtain ⟨done, gap, spelled, layout, hword⟩ := h
  exact ⟨done, gap, _, layout_put layout.here (hl s.here) layout.isGap layout.gapEnd layout.broken
    fun _ => layout.lastStop hright, fun _ => hword hright⟩

/-- Where no letter `r` goes on a word for other reasons. -/
theorem Placed.sited (h : s.Placed text) (hend : s.token.kind.isRight → s.token.isMark "\x7d" ∨
    s.token.kind = .textEnd ∨ s.token.isAfterBreak) : s.Sited text := by
  obtain ⟨done, gap, spelled, layout⟩ := h
  refine ⟨done, gap, spelled, layout, fun hright hr => ?_⟩
  rcases hend hright with hbrace | hnone | hbroken
  · rw [Token.isMark, decide_eq_true_eq] at hbrace
    rw [layout.here_eq, layout.mark _ hbrace] at hr
    cases hr
  · rw [layout.textEnd hnone] at hr
    cases hr
  · exact layout.apart_here (layout.broken hbroken) hr

end ReadState

/-! ## Tokens that are right -/

namespace Token

variable {t : Token}

theorem isRight_of_isMark {text : String} (h : t.isMark text) : t.kind.isRight := by
  rw [isMark, decide_eq_true_eq] at h
  rw [h]
  rfl

theorem isRight_of_isWord {text : String} (h : t.isWord text) : t.kind.isRight := by
  rw [isWord, decide_eq_true_eq] at h
  rw [h]
  rfl

theorem isRight_of_isAnyMark {texts : List String} (h : t.isAnyMark texts) : t.kind.isRight := by
  rw [isAnyMark] at h
  split at h
  · next hkind => rw [hkind]; rfl
  · cases h

theorem isRight_of_isAnyWord {texts : List String} (h : t.isAnyWord texts) : t.kind.isRight := by
  rw [isAnyWord] at h
  split at h
  · next hkind => rw [hkind]; rfl
  · cases h

theorem isRight_of_word? {text : String} (h : t.word? = some text) : t.kind.isRight := by
  rw [word?] at h
  split at h
  · next hkind => rw [hkind]; rfl
  · cases h

theorem kind_of_name? {text : String} (h : t.name? = some text) :
    ∃ isEscaped, t.kind = .word text isEscaped := by
  rw [name?] at h
  split at h
  · next hkind =>
    split at h <;> cases h
    exact ⟨_, hkind⟩
  · cases h

theorem isRight_of_name? {text : String} (h : t.name? = some text) : t.kind.isRight := by
  obtain ⟨isEscaped, hkind⟩ := kind_of_name? h
  rw [hkind]
  rfl

end Token

/-! ## Readers that keep their place -/

namespace Reads

variable {α β : Type} {text : List Char} {scope : Scope} {s : ReadState}

/-- From where it is sited the reader goes on to where it is sited, and what it gives is as told. -/
class Keeps (text : List Char) (r : Reads α) (P : outParam (α → Prop)) : Prop where
  ensures : ∀ scope s, s.Sited text → Ensures r scope s fun a s' => s'.Sited text ∧ P a

section
variable {r : Reads α} {P : α → Prop} {Q : β → Prop}

theorem Ensures.step [h : Keeps text r P] {f : α → Reads β} {R : β → ReadState → Prop}
    (hs : s.Sited text) (hf : ∀ a s', s'.Sited text → P a → Ensures (f a) scope s' R) :
    Ensures (r >>= f) scope s R :=
  (h.ensures scope s hs).bind fun a s' ha => hf a s' ha.1 ha.2

theorem Ensures.take {f : Token → Reads β} {R : β → ReadState → Prop} (hs : s.Sited text)
    (hright : s.token.kind.isRight)
    (hf : s.advanced.Sited text → Ensures (f s.token) scope s.advanced R) :
    Ensures (advance >>= f) scope s R :=
  ensures_bind.mpr (ensures_advance.mpr (hf (hs.advanced hright)))

theorem Keeps.bind [h : Keeps text r P] {f : α → Reads β} (hf : ∀ a, P a → Keeps text (f a) Q) :
    Keeps text (r >>= f) Q :=
  ⟨fun _ _ hs => .step hs fun a s' hs' ha => (hf a ha).ensures _ s' hs'⟩

theorem Keeps.pure {a : α} (h : P a) : Keeps text (pure a) P :=
  ⟨fun _ _ hs => ensures_pure.mpr ⟨hs, h⟩⟩

theorem Keeps.ite {c : Prop} [Decidable c] {r' : Reads α} (h : c → Keeps text r P)
    (h' : ¬c → Keeps text r' P) : Keeps text (if c then r else r') P := by
  split
  · next hc => exact h hc
  · next hc => exact h' hc

theorem Keeps.mono {P' : α → Prop} (h : Keeps text r P) (hP : ∀ a, P a → P' a) : Keeps text r P' :=
  ⟨fun scope s hs => (h.ensures scope s hs).mono fun a _ ha => ⟨ha.1, hP a ha.2⟩⟩

theorem Keeps.loop {step : α → Reads (α ⊕ β)} {a : α} (I : α → Prop) (start : I a)
    (h : ∀ a, I a → Keeps text (step a) (Sum.elim I Q)) : Keeps text (loop step a) Q := by
  refine ⟨fun scope s hs => ensures_loop (fun a s => s.Sited text ∧ I a) ⟨hs, start⟩ ?_⟩
  rintro a s ⟨hs, ha⟩
  refine ((h a ha).ensures scope s hs).mono fun r s' hr => ?_
  cases r with
  | inl a => exact hr
  | inr b => exact hr

end

section
variable {r : Reads α} {P : α → Prop}

instance : Keeps text read fun _ => True := ⟨fun _ _ hs => ensures_read.mpr ⟨hs, trivial⟩⟩

instance : Keeps text get fun _ => True := ⟨fun _ _ hs => ensures_get.mpr ⟨hs, trivial⟩⟩

instance : Keeps text current fun _ => True := ⟨fun _ _ hs => ensures_current.mpr ⟨hs, trivial⟩⟩

instance : Keeps text lookahead fun _ => True :=
  ⟨fun _ _ hs => ensures_lookahead.mpr ⟨hs, trivial⟩⟩

instance (mark : String) : Keeps text (atMark mark) fun _ => True :=
  ⟨fun _ _ hs => ensures_atMark.mpr ⟨hs, trivial⟩⟩

instance (word : String) : Keeps text (atWord word) fun _ => True :=
  ⟨fun _ _ hs => ensures_atWord.mpr ⟨hs, trivial⟩⟩

instance (marks : List String) : Keeps text (atAnyMark marks) fun _ => True :=
  ⟨fun _ _ hs => ensures_atAnyMark.mpr ⟨hs, trivial⟩⟩

instance (words : List String) : Keeps text (atAnyWord words) fun _ => True :=
  ⟨fun _ _ hs => ensures_atAnyWord.mpr ⟨hs, trivial⟩⟩

instance (r : Reads α) : Keeps text (fits r) fun _ => True :=
  ⟨fun _ _ hs => ensures_fits fun _ => ⟨hs, trivial⟩⟩

instance (cause : Cause) (offset : Nat) : Keeps text (report cause offset) fun _ => True :=
  ⟨fun _ _ hs => ensures_report.mpr ⟨hs.note _, trivial⟩⟩

instance (cause : Cause) (offset : Nat) : Keeps text (failAt (α := α) cause offset) fun _ => False :=
  ⟨fun _ _ _ => ensures_failAt⟩

instance (cause : Cause) : Keeps text (fail (α := α) cause) fun _ => False :=
  ⟨fun _ _ _ => ensures_fail⟩

instance (expected : String) : Keeps text (unexpected (α := α) expected) fun _ => False :=
  ⟨fun _ _ _ => ensures_unexpected⟩

instance (mark : String) : Keeps text (eatMark mark) fun _ => True :=
  ⟨fun _ _ hs => ensures_eatMark.mpr
    ⟨fun h => ⟨hs.advanced (Token.isRight_of_isMark h), trivial⟩, fun _ => ⟨hs, trivial⟩⟩⟩

instance (word : String) : Keeps text (eatWord word) fun _ => True :=
  ⟨fun _ _ hs => ensures_eatWord.mpr
    ⟨fun h => ⟨hs.advanced (Token.isRight_of_isWord h), trivial⟩, fun _ => ⟨hs, trivial⟩⟩⟩

instance (mark : String) : Keeps text (expectMark mark) fun _ => True :=
  ⟨fun _ _ hs => ensures_expectMark.mpr fun h => ⟨hs.advanced (Token.isRight_of_isMark h), trivial⟩⟩

instance (word : String) : Keeps text (expectWord word) fun _ => True :=
  ⟨fun _ _ hs => ensures_expectWord.mpr fun h => ⟨hs.advanced (Token.isRight_of_isWord h), trivial⟩⟩

instance Keeps.attempt? [h : Keeps text r P] : Keeps text (attempt? r) fun o => ∀ a ∈ o, P a :=
  ⟨fun scope s hs => ensures_attempt?
    ((h.ensures scope s hs).mono fun _ _ ha => ⟨ha.1, fun _ hb => Option.some.inj hb ▸ ha.2⟩)
    ⟨hs, nofun⟩⟩

instance Keeps.withScope [h : Keeps text r P] (change : Scope → Scope) :
    Keeps text (withScope change r) P :=
  ⟨fun scope s hs => h.ensures (change scope) s hs⟩

instance Keeps.enclosed [h : Keeps text r P] : Keeps text (enclosed r) P :=
  Keeps.withScope _

instance : Keeps text atStatementEnd fun _ => True :=
  .bind fun _ _ => .pure trivial

instance : Keeps text eatSemicolon fun _ => True :=
  .bind fun _ _ => .ite (fun _ => .pure trivial) fun _ => inferInstance

instance : Keeps text expectSemicolon fun _ => True :=
  .bind fun _ _ => .ite (fun _ => .pure trivial) fun _ => .bind fun _ _ => .mono inferInstance nofun

end

section
variable {item : Reads Tree} {P : Tree → Prop}

/-- What `stop` says holds behind the trees. -/
theorem ensures_many [h : Keeps text item P] {stop : Reads Bool} {T : ReadState → Prop}
    (hs : s.Sited text)
    (hstop : ∀ s, s.Sited text → Ensures stop scope s fun b s' => s'.Sited text ∧ (b → T s')) :
    Ensures (many stop item) scope s fun ts s' => (s'.Sited text ∧ ∀ t ∈ ts, P t) ∧ T s' := by
  refine ensures_loop (fun done s => s.Sited text ∧ ∀ t ∈ done, P t) ⟨hs, nofun⟩ ?_
  rintro done s ⟨hs, hdone⟩
  refine (hstop s hs).bind fun b s' hb => ?_
  cases b with
  | true =>
    exact ensures_pure.mpr ⟨⟨hb.1, fun t ht => hdone t (List.mem_reverse.mp ht)⟩, hb.2 rfl⟩
  | false =>
    refine .step hb.1 fun t s' hs' ht => ensures_pure.mpr ⟨hs', ?_⟩
    exact List.forall_mem_cons.mpr ⟨ht, hdone⟩

instance Keeps.many [Keeps text item P] {stop : Reads Bool} [h : Keeps text stop fun _ => True] :
    Keeps text (many stop item) fun ts => ∀ t ∈ ts, P t :=
  ⟨fun scope _ hs => (ensures_many (T := fun _ => True) hs fun s hs =>
    (h.ensures scope s hs).mono fun _ _ hb => ⟨hb.1, fun _ => trivial⟩).mono fun _ _ h => h.1⟩

instance Keeps.listed [h : Keeps text item P] (close : String) :
    Keeps text (listed close item) fun ts => ∀ t ∈ ts, P t := by
  have items : Keeps text (Reads.loop (β := List Tree) (fun done => do
      if ← atMark close then return .inr done.reverse
      let t ← item
      unless ← atMark close do expectMark ","
      return .inl (t :: done)) []) fun ts => ∀ t ∈ ts, P t := by
    refine .loop (fun done => ∀ t ∈ done, P t) nofun fun done hdone => ?_
    refine .bind fun _ _ => .ite (fun _ => .pure fun t ht => hdone t (List.mem_reverse.mp ht)) ?_
    refine fun _ => .bind fun t ht => .bind fun _ _ => ?_
    have hcons : ∀ u ∈ t :: done, P u := List.forall_mem_cons.mpr ⟨ht, hdone⟩
    exact .ite (fun _ => .pure hcons) fun _ => .bind fun _ _ => .pure hcons
  exact .bind fun ts hts => .bind fun _ _ => .pure hts

end

/-! ## Readers of whose result nothing is told -/

section
variable {P : α → Prop} {r : Reads α}

instance keeps_pure {a : α} : Keeps text (pure a) fun _ => True := .pure trivial

instance keeps_bind [Keeps text r P] {f : α → Reads β} [∀ a, Keeps text (f a) fun _ => True] :
    Keeps text (r >>= f) fun _ => True :=
  .bind fun _ _ => inferInstance

instance keeps_ite {c : Prop} [Decidable c] {r r' : Reads α} [Keeps text r fun _ => True]
    [Keeps text r' fun _ => True] : Keeps text (if c then r else r') fun _ => True :=
  .ite (fun _ => inferInstance) fun _ => inferInstance

instance keeps_or {r r' : Reads Bool} [Keeps text r fun _ => True]
    [Keeps text r' fun _ => True] : Keeps text (r <||> r') fun _ => True := by
  refine .bind fun b _ => ?_
  split <;> infer_instance

instance keeps_loop {step : α → Reads (α ⊕ β)} {a : α} [h : ∀ a, Keeps text (step a) fun _ => True] :
    Keeps text (loop step a) fun _ => True :=
  .loop (fun _ => True) trivial fun _ _ => .mono inferInstance fun r _ => by cases r <;> trivial

end

/-! ## Text that is taken without tokens -/

theorem ensures_advanceRaw (hs : s.Sited text) (hright : s.token.kind.isRight) :
    Ensures advanceRaw scope s fun c _ => c.Free text :=
  (ensures_of_eq rfl).mpr (hs.placed.free hright)

/-- A token is read anew. -/
theorem ensures_reread_fits {lexeme : Cursor → Lexeme} (hs : s.Sited text)
    (hright : s.token.kind.isRight) (hl : ∀ c, (lexeme c).Fits c.rest) :
    Ensures (reread lexeme) scope s fun t s' =>
      s'.Sited text ∧ s'.token = t ∧ ∃ c, t.kind = (lexeme c).kind :=
  ensures_reread.mpr ⟨hs.put hright hl, rfl, s.here, rfl⟩

theorem ensures_resume {c : Cursor} (hc : c.Free text) :
    Ensures (resume c) scope s fun _ s' => s'.Sited text :=
  (ensures_of_eq rfl).mpr (ReadState.sited_fill hc rfl)

end Reads
end StaticContext.Script
