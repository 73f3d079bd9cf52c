import StaticContext.Proofs.Grammar.Module

/-! # The scan sees plain calls

Whatever a module is parsed to, its context calls are written in its text. The scan before parsing
mentions each that is written in letters, dots and White_Space up to its parenthesis; a file with such
a call never passes through. -/

namespace StaticContext
open Script
open Mention (endsInWord endsInWord_cons)

/-! ## Parsed modules keep to their text -/

namespace Script

/-- Behind the line for an interpreter no letter goes on. -/
theorem interpreterLine_free (text : List Char) :
    ((Cursor.ofText text).skip (match interpreterLine? text with
      | some line => line.length + 2
      | none => 0)).Free text := by
  have hstart : (Cursor.ofText text).Behind text [] := ⟨rfl, rfl⟩
  refine ⟨_, hstart.skip _, fun hr => ?_⟩
  cases hline : interpreterLine? text with
  | none => rfl
  | some line =>
    rw [hline] at hr
    rw [interpreterLine?.eq_def] at hline
    split at hline <;> cases hline
    next rest =>
    have hend := head?_drop_takeWhile (!isLineEnd ·) rest
    rw [show (rest.drop (rest.takeWhile (!isLineEnd ·)).length).head? = some 'r' from hr] at hend
    cases hend

theorem Program.parse_faithful {dialect : Dialect} {text : List Char} {p : Program}
    (h : Program.parse dialect text = .ok p) :
    ∀ c ∈ ContextCall.inProgram p, CallHead (withoutByteOrderMark text) c.span.start := by
  rw [Program.parse] at h
  generalize withoutByteOrderMark text = text at h ⊢
  have hg (n : Nat) : (Grammar.toDepth n .exhausted).Faithful text :=
    Grammar.toDepth_faithful n inferInstance
  have hitems (n : Nat) : Reads.Keeps text (items (Grammar.toDepth n .exhausted)) fun ts =>
      ∀ t ∈ ts, t.Faithful text := .many
  have hstart : (ReadState.start ((Cursor.ofText text).skip (match interpreterLine? text with
      | some line => line.length + 2
      | none => 0))).Sited text :=
    ReadState.sited_fill (interpreterLine_free text) rfl
  split at h
  · cases h
  · next body state hbody =>
    split at h <;> cases h
    intro c hc
    obtain ⟨t, ht, hc⟩ := Tree.mem_inTrees.mp hc
    exact ((hitems _).ensures _ _ hstart body state hbody).2 t ht c hc

/-- Without the mark of the encoding a text mentions no less. -/
theorem occurs_of_withoutByteOrderMark {text : List Char}
    (h : Mention.Occurs (withoutByteOrderMark text)) : Mention.Occurs text := by
  rw [withoutByteOrderMark.eq_def] at h
  split at h
  · obtain ⟨before, rest, rfl, hword, hopens⟩ := h
    refine ⟨'\uFEFF' :: before, rest, rfl, ?_, hopens⟩
    have hmark : Text.isWord '\uFEFF' = false :=
      isWord_of_isSpace (Bool.or_eq_true_iff.mpr (.inr (decide_eq_true rfl)))
    cases before with
    | nil =>
      rw [Mention.endsInWord, List.getLast?_singleton, Option.any_some]
      exact hmark
    | cons c before => rwa [endsInWord_cons (List.cons_ne_nil _ _)]
  · exact h

end Script

/-! ## Plain calls -/

/-- Nothing but letters, dots and White_Space stands in front of the first parenthesis. -/
def Plain (text : List Char) : Prop :=
  ∃ head rest, text = head ++ '(' :: rest ∧ head.all fun c => c.isAlpha || c = '.' || Text.isBlank c

/-- The text is plain from the start of the call on. -/
def ContextCall.WrittenPlainly (text : List Char) (c : ContextCall) : Prop :=
  ∃ before rest, text = before ++ rest ∧ c.span.start = Utf8.widths before ∧ Plain rest

namespace Plain

variable {front more : List Char}

theorem of_append (h : Plain (front ++ more)) (hfront : '(' ∉ front) : Plain more := by
  obtain ⟨head, rest, heq, hhead⟩ := h
  obtain ⟨tail, rfl, rfl⟩ | ⟨tail, rfl, htail⟩ := List.append_eq_append_iff.mp heq
  · rw [List.all_append, Bool.and_eq_true] at hhead
    exact ⟨tail, rest, rfl, hhead.2⟩
  · cases tail with
    | nil => exact ⟨[], rest, htail.symm, rfl⟩
    | cons c tail =>
      obtain ⟨rfl, -⟩ := List.cons.inj htail
      simp at hfront

theorem not_append_cons {c : Char} (hfront : '(' ∉ front)
    (hc : (c = '(' || c.isAlpha || c = '.' || Text.isBlank c) = false) :
    ¬ Plain (front ++ c :: more) := by
  intro h
  obtain ⟨head, rest, heq, hhead⟩ := h.of_append hfront
  simp only [Bool.or_eq_false_iff, decide_eq_false_iff_not] at hc
  cases head with
  | nil => exact hc.1.1.1 (List.cons.inj heq).1
  | cons d head =>
    obtain ⟨rfl, -⟩ := List.cons.inj heq
    simp [hc] at hhead

theorem gap (h : Plain (front ++ more)) (hgap : IsGap front) :
    front.all Text.isBlank ∧ Plain more := by
  have hblanks {blanks : List Char} (hall : blanks.all Text.isBlank) : '(' ∉ blanks := fun hmem =>
    absurd (List.all_eq_true.mp hall _ hmem) (by decide)
  rcases hgap with hall | ⟨blanks, c, tail, rfl, hall, hc⟩
  · exact ⟨hall, h.of_append (hblanks hall)⟩
  · rw [List.append_assoc, List.cons_append] at h
    refine absurd h (not_append_cons (hblanks hall) ?_)
    rcases hc with rfl | rfl <;> decide

theorem word {w : List Char} (h : Plain (front ++ more)) (hspells : Spells w front)
    (hw : '(' ∉ w) : front = w ∧ Plain more := by
  rcases hspells with rfl | ⟨letters, tail, rfl, hall⟩
  · exact ⟨rfl, h.of_append hw⟩
  · rw [List.append_assoc, List.cons_append] at h
    refine absurd h (not_append_cons (fun hmem => ?_) (by decide))
    exact absurd (List.all_eq_true.mp hall _ hmem) (by decide)

end Plain

/-- A plain call is mentioned. -/
theorem occurs_of_writtenPlainly {text : List Char} {c : ContextCall}
    (hcall : CallHead text c.span.start) (hplain : c.WrittenPlainly text) :
    Mention.Occurs text := by
  obtain ⟨before, object, beforeDot, behindDot, property, behind, opener, rest, rfl, hstart, hfree,
    hobject, hproperty, hbeforeDot, hbehindDot, hbehind, hopener⟩ := hcall
  obtain ⟨before', written, heq, hstart', hwritten⟩ := hplain
  obtain rfl : before = before' := Utf8.eq_of_widths heq (hstart.symm.trans hstart')
  obtain rfl := List.append_cancel_left heq
  obtain ⟨rfl, hplain₁⟩ := hwritten.word hobject (by decide)
  obtain ⟨hblank₁, hplain₂⟩ := hplain₁.gap hbeforeDot
  obtain ⟨hblank₂, hplain₃⟩ := (hplain₂.of_append (by decide)).gap hbehindDot
  obtain ⟨rfl, hplain₄⟩ := hplain₃.word hproperty (by decide)
  obtain ⟨hblank₃, hplain₅⟩ := hplain₄.gap hbehind
  refine ⟨before, _, rfl, hfree rfl, beforeDot, behindDot, behind, rest, ⟨hblank₁, hblank₂, hblank₃⟩, ?_⟩
  rcases hopener with rfl | rfl
  · rfl
  · exact absurd hplain₅ (Plain.not_append_cons List.not_mem_nil (by decide))

namespace Source

variable {s : Source} {p : Program}

/-- The call heads of a parsed file stand in its text. -/
theorem callHead_of_parse (h : s.parse = .ok p) {c : ContextCall}
    (hc : c ∈ ContextCall.inProgram p) :
    CallHead (withoutByteOrderMark s.text.toList) c.span.start := by
  rw [parse] at h
  split at h
  · next hparse =>
    cases h
    exact Program.parse_faithful hparse c hc
  · cases h

/-- A file that parses, with a plain call among its context calls if it has any, passes through
exactly if it has none. -/
theorem expand_passes_of_plain {storage : Storage} (h : s.parse = .ok p)
    (hplain : ContextCall.inProgram p = [] ∨ ∃ c ∈ ContextCall.inProgram p,
      c.WrittenPlainly (withoutByteOrderMark s.text.toList)) :
    (∃ report, s.expand storage = .ok report ∧ report.output = none) ↔
      ContextCall.inProgram p = [] := by
  rw [expand_passes h]
  refine ⟨fun hpasses => ?_, .inr⟩
  rcases hpasses with hmention | hnone
  · rcases hplain with hnone | ⟨c, hc, hplain⟩
    · exact hnone
    · exact absurd (occurs_of_withoutByteOrderMark
        (occurs_of_writtenPlainly (callHead_of_parse h hc) hplain)) hmention
  · exact hnone

end Source

/-- A context call whose dot stands on a line of its own. -/
def brokenSource : Source := ⟨.ofString "/a.js", "require\n.\ncontext ('./x')"⟩

theorem Source.expands_broken : ∃ p, brokenSource.parse = .ok p ∧
    ∀ storage, ¬ ∃ report, brokenSource.expand storage = .ok report ∧ report.output = none := by
  have hcalls : brokenSource.parse.toOption.map ContextCall.inProgram =
      some [⟨⟨0, 25⟩, "./x", true, none⟩] := by decide +kernel
  obtain ⟨p, hp, hcalls⟩ := Option.map_eq_some_iff.mp hcalls
  refine ⟨p, Traversal.ok_of_toOption hp, fun storage hpasses => ?_⟩
  have hmem : ⟨⟨0, 25⟩, "./x", true, none⟩ ∈ ContextCall.inProgram p := by
    rw [hcalls]
    exact List.mem_singleton_self _
  have hplain : Plain (withoutByteOrderMark brokenSource.text.toList) :=
    ⟨"require\n.\ncontext ".toList, "'./x')".toList, by decide +kernel, by decide +kernel⟩
  have hnone := (expand_passes_of_plain (Traversal.ok_of_toOption hp)
    (.inr ⟨_, hmem, [], _, rfl, rfl, hplain⟩)).mp hpasses
  exact List.ne_nil_of_mem hmem hnone

end StaticContext
