import Mathlib.Data.List.TakeDrop
import StaticContext.Proofs.MentionScan
import StaticContext.Proofs.WordCharacters
import StaticContext.Script.Grammar.Expression

/-! # The text of a token

A word is spelled letter by letter or shows a backslash, a gap is White_Space or shows a slash or
U+FEFF. Whatever token is not wrong in itself, the letter `r` does not go on a word right behind it. -/

namespace StaticContext

namespace Mention

theorem endsInWord_append {front back : List Char} (h : back ≠ []) :
    endsInWord (front ++ back) = endsInWord back := by
  rw [endsInWord, List.getLast?_append_of_ne_nil _ h, endsInWord]

theorem endsInWord_cons {c : Char} {back : List Char} (h : back ≠ []) :
    endsInWord (c :: back) = endsInWord back := by
  rw [← List.singleton_append, endsInWord_append h]

end Mention

theorem Utf8.widths_append (front back : List Char) :
    widths (front ++ back) = widths front + widths back := by
  induction front with
  | nil => exact (Nat.zero_add _).symm
  | cons c front ih =>
    show width c + widths (front ++ back) = width c + widths front + widths back
    rw [ih, Nat.add_assoc]

/-- A part of a text is known by its bytes. -/
theorem Utf8.eq_of_widths {a b c d : List Char} (h : a ++ b = c ++ d)
    (hwidths : widths a = widths c) : a = c := by
  induction a generalizing c with
  | nil =>
    cases c with
    | nil => rfl
    | cons e c =>
      have := e.utf8Size_pos
      simp only [widths, width, List.foldr_nil, List.foldr_cons] at hwidths
      omega
  | cons e a ih =>
    cases c with
    | nil =>
      have := e.utf8Size_pos
      simp only [widths, width, List.foldr_nil, List.foldr_cons] at hwidths
      omega
    | cons f c =>
      obtain ⟨rfl, hrest⟩ := List.cons.inj h
      exact congrArg (e :: ·) (ih hrest (Nat.add_left_cancel hwidths))

namespace Script
open Mention (endsInWord endsInWord_append endsInWord_cons)

/-! ## Gaps -/

/-- White_Space, or text that shows a slash or U+FEFF right behind White_Space. -/
def IsGap (gap : List Char) : Prop :=
  gap.all Text.isBlank ∨ ∃ blanks c more, gap = blanks ++ c :: more ∧ blanks.all Text.isBlank ∧
    (c = '/' ∨ c = '\uFEFF')

theorem IsGap.nil : IsGap [] := .inl rfl

theorem IsGap.slash (more : List Char) : IsGap ('/' :: more) :=
  .inr ⟨[], '/', more, rfl, rfl, .inl rfl⟩

theorem IsGap.space {c : Char} {gap : List Char} (hc : isSpace c) (h : IsGap gap) :
    IsGap (c :: gap) := by
  rw [isSpace, Bool.or_eq_true, decide_eq_true_eq] at hc
  rcases hc with hc | rfl
  · rcases h with h | ⟨blanks, d, more, rfl, hblanks, hd⟩
    · exact .inl (by rw [List.all_cons, hc, h]; rfl)
    · exact .inr ⟨c :: blanks, d, more, rfl, by rw [List.all_cons, hc, hblanks]; rfl, hd⟩
  · exact .inr ⟨[], _, gap, rfl, rfl, .inr rfl⟩

/-- A gap taken off a text, up to a cursor. -/
structure Gap.Skips (text : List Char) (offset : Nat) (gap : List Char) (c : Cursor) : Prop where
  text_eq : text = gap ++ c.rest
  offset_eq : c.offset = offset + Utf8.widths gap
  apart : c.rest ≠ [] → endsInWord gap = false

theorem Gap.Skips.nil (c : Cursor) : Skips c.rest c.offset [] c :=
  ⟨rfl, rfl, fun _ => rfl⟩

theorem Gap.Skips.cons {text gap : List Char} {offset : Nat} {c : Cursor} {d : Char}
    (h : Skips text (offset + Utf8.width d) gap c)
    (hd : c.rest ≠ [] → gap = [] → Text.isWord d = false) : Skips (d :: text) offset (d :: gap) c where
  text_eq := by rw [h.text_eq]; rfl
  offset_eq := by rw [h.offset_eq, Nat.add_assoc]; rfl
  apart hrest := by
    cases gap with
    | nil => exact hd hrest rfl
    | cons e gap => rw [endsInWord_cons (List.cons_ne_nil _ _)]; exact h.apart hrest

theorem isWord_slash : Text.isWord '/' = false := by decide

/-- Within a comment some text is skipped, unless the text ends. -/
theorem Gap.skip_ok {g : Gap} {broken broken' : Bool} {offset : Nat} {text : List Char} {c : Cursor}
    (h : skip g broken offset text = .ok (c, broken')) :
    ∃ gap, Skips text offset gap c ∧ (g = .between → IsGap gap) ∧
      (g ≠ .between → c.rest ≠ [] → gap ≠ []) ∧ (broken' → broken ∨ gap ≠ []) := by
  fun_induction skip g broken offset text with
  | case1 => cases h
  | case2 =>
    cases h
    exact ⟨[], .nil ⟨[], _⟩, fun _ => .nil, fun _ h => absurd rfl h, .inl⟩
  | case3 broken offset d rest hd ih =>
    obtain ⟨gap, hskips, hgap, -, -⟩ := ih h
    exact ⟨d :: gap, hskips.cons fun _ _ => isWord_of_isSpace hd, fun _ => .space hd (hgap rfl),
      fun h => absurd rfl h, fun _ => .inr (List.cons_ne_nil _ _)⟩
  | case4 broken offset more _ ih =>
    obtain ⟨gap, hskips, -, hmore, -⟩ := ih h
    refine ⟨'/' :: '/' :: gap, ?_, fun _ => .slash _, fun h => absurd rfl h,
      fun _ => .inr (List.cons_ne_nil _ _)⟩
    have hslash : Skips ('/' :: more) (offset + 1) ('/' :: gap) c :=
      hskips.cons fun _ _ => isWord_slash
    exact hslash.cons fun _ h => absurd h (List.cons_ne_nil _ _)
  | case5 broken offset more _ ih =>
    obtain ⟨gap, hskips, -, hmore, -⟩ := ih h
    refine ⟨'/' :: '*' :: gap, ?_, fun _ => .slash _, fun h => absurd rfl h,
      fun _ => .inr (List.cons_ne_nil _ _)⟩
    have hstar : Skips ('*' :: more) (offset + 1) ('*' :: gap) c :=
      hskips.cons fun hrest hgap => absurd hgap (hmore (by simp) hrest)
    exact hstar.cons fun _ h => absurd h (List.cons_ne_nil _ _)
  | case6 | case7 =>
    cases h
    exact ⟨[], .nil ⟨_ :: _, _⟩, fun _ => .nil, fun h => absurd rfl h, .inl⟩
  | case8 broken offset d rest ih =>
    obtain ⟨gap, hskips, -, hmore, -⟩ := ih h
    refine ⟨d :: gap, hskips.cons fun hrest hgap => ?_, nofun, fun _ _ => List.cons_ne_nil _ _,
      fun _ => .inr (List.cons_ne_nil _ _)⟩
    by_cases hd : isLineEnd d
    · exact isWord_of_isSpace (isSpace_of_isLineEnd hd)
    · exact absurd hgap (hmore (by simp [hd]) hrest)
  | case9 broken offset d rest start starred hd ih =>
    obtain ⟨gap, hskips, -, -, -⟩ := ih h
    obtain ⟨-, rfl⟩ := hd
    exact ⟨'/' :: gap, hskips.cons fun _ _ => isWord_slash, nofun, fun _ _ => List.cons_ne_nil _ _,
      fun _ => .inr (List.cons_ne_nil _ _)⟩
  | case10 broken offset d rest start starred _ ih =>
    obtain ⟨gap, hskips, -, hmore, -⟩ := ih h
    exact ⟨d :: gap, hskips.cons fun hrest hgap => absurd hgap (hmore nofun hrest), nofun,
      fun _ _ => List.cons_ne_nil _ _, fun _ => .inr (List.cons_ne_nil _ _)⟩

/-! ## Words -/

/-- How a word may be written: letter by letter, or with a backslash behind letters. -/
def Spells (word text : List Char) : Prop :=
  text = word ∨ ∃ letters more, text = letters ++ '\\' :: more ∧ letters.all continuesName

theorem Spells.letter {word text : List Char} {c : Char} (hc : continuesName c)
    (h : Spells word text) : Spells (c :: word) (c :: text) := by
  rcases h with rfl | ⟨letters, more, rfl, hletters⟩
  · exact .inl rfl
  · exact .inr ⟨c :: letters, more, rfl, by rw [List.all_cons, hc, hletters]; rfl⟩

theorem Spells.backslash (word more : List Char) : Spells word ('\\' :: more) :=
  .inr ⟨[], more, rfl, rfl⟩

namespace Lexeme

/-- The name ends where no letter goes on. -/
theorem name_ok {cs word : List Char} {fuel size : Nat} {isEscaped : Bool}
    (h : name cs fuel = .ok (word, size, isEscaped)) (hfuel : cs.length ≤ fuel) :
    Spells word (cs.take size) ∧ (cs.drop size).head?.any continuesName = false := by
  fun_induction name cs fuel generalizing word size isEscaped with
  | case1 =>
    cases h
    rw [List.eq_nil_of_length_eq_zero (Nat.le_zero.mp hfuel)]
    exact ⟨.inl rfl, rfl⟩
  | case2 =>
    cases h
    exact ⟨.inl rfl, rfl⟩
  | case3 fuel c rest hc ih =>
    obtain ⟨⟨word, size, isEscaped⟩, hname, heq⟩ := Traversal.eq_ok_of_map h
    cases heq
    obtain ⟨hspells, hend⟩ := ih hname (Nat.le_of_succ_le_succ hfuel)
    exact ⟨hspells.letter hc, hend⟩
  | case4 => cases h
  | case5 fuel c rest _ hc n digits _ ih =>
    obtain ⟨⟨word, size, isEscaped⟩, hname, heq⟩ := Traversal.eq_ok_of_map h
    cases heq
    obtain ⟨-, hend⟩ := ih hname (by simp at hfuel ⊢; omega)
    rw [List.drop_drop] at hend
    rw [show digits + 2 + size = digits + 1 + size + 1 by omega, hc.1]
    exact ⟨.backslash _ _, hend⟩
  | case6 fuel c rest hc =>
    cases h
    exact ⟨.inl rfl, Bool.eq_false_iff.mpr hc⟩

end Lexeme

/-! ## Strings -/

/-- A literal ends with its quote, before a line end, or with the text. -/
theorem Quoted.readBody_ok {q : Char} {fuel done : Nat} {text : List Char} {b : Body}
    (h : readBody q fuel done text = .ok b) (hfuel : text.length ≤ fuel) :
    ∃ n, b.size = done + n ∧
      ((∃ front, text.take n = front ++ [q]) ∨ (text.drop n).head?.all isLineEnd) := by
  fun_induction readBody q fuel done text generalizing b with
  | case1 =>
    cases h
    rw [List.eq_nil_of_length_eq_zero (Nat.le_zero.mp hfuel)]
    exact ⟨0, rfl, .inr rfl⟩
  | case2 =>
    cases h
    exact ⟨0, rfl, .inr rfl⟩
  | case3 =>
    cases h
    exact ⟨1, rfl, .inl ⟨[], rfl⟩⟩
  | case4 => cases h
  | case5 fuel done rest e _ _ ih =>
    obtain ⟨b, hbody, rfl⟩ := Traversal.eq_ok_of_map h
    obtain ⟨n, hsize, hend⟩ := ih hbody (by simp at hfuel ⊢; omega)
    refine ⟨e.size + n + 1, by rw [hsize]; omega, ?_⟩
    rcases hend with ⟨front, hfront⟩ | hend
    · exact .inl ⟨backslash :: (rest.take e.size ++ front), by
        rw [List.take_succ_cons, List.take_add, hfront, ← List.append_assoc]; rfl⟩
    · rw [List.drop_drop] at hend
      exact .inr hend
  | case6 fuel done c rest _ _ hc =>
    cases h
    refine ⟨0, rfl, .inr ?_⟩
    rcases hc with rfl | rfl <;> rfl
  | case7 fuel done c rest _ _ _ ih =>
    obtain ⟨b, hbody, rfl⟩ := Traversal.eq_ok_of_map h
    obtain ⟨n, hsize, hend⟩ := ih hbody (Nat.le_of_succ_le_succ hfuel)
    refine ⟨n + 1, by rw [hsize]; omega, ?_⟩
    rcases hend with ⟨front, hfront⟩ | hend
    · exact .inl ⟨c :: front, by rw [List.take_succ_cons, hfront]; rfl⟩
    · exact .inr hend

/-! ## Tokens -/

/-- The letter `r` does not go on a word that the text ends in. -/
def Apart (text rest : List Char) : Prop :=
  rest.head? = some 'r' → text ≠ [] ∧ endsInWord text = false

theorem Apart.of_head {text rest : List Char} {p : Char → Bool} (h : rest.head?.any p = false)
    (hr : p 'r') : Apart text rest := by
  intro hhead
  rw [hhead, Option.any_some, hr] at h
  cases h

theorem Apart.of_last {text rest : List Char} {c : Char} (h : ∃ front, text = front ++ [c])
    (hc : Text.isWord c = false) : Apart text rest := by
  obtain ⟨front, rfl⟩ := h
  refine fun _ => ⟨by simp, ?_⟩
  rwa [endsInWord_append (List.cons_ne_nil _ _)]

theorem take_drop_takeWhile (p : Char → Bool) (cs : List Char) :
    cs.take (cs.takeWhile p).length = cs.takeWhile p ∧
      cs.drop (cs.takeWhile p).length = cs.dropWhile p := by
  induction cs with
  | nil => exact ⟨rfl, rfl⟩
  | cons c cs ih => by_cases hc : p c <;> simp [hc, ih]

theorem head?_drop_takeWhile (p : Char → Bool) (cs : List Char) :
    (cs.drop (cs.takeWhile p).length).head?.any p = false := by
  rw [(take_drop_takeWhile p cs).2]
  have := List.head?_dropWhile_not p cs
  cases h : (cs.dropWhile p).head? with
  | none => rfl
  | some c => rwa [h] at this

/-- Whether a token is none that stands for a fault. -/
def TokenKind.isRight : TokenKind → Bool
  | .wrong _ => false
  | _ => true

/-- What a lexeme takes of a text is what it says. -/
structure Lexeme.Fits (l : Lexeme) (text : List Char) : Prop where
  word : ∀ word isEscaped, l.kind = .word word isEscaped → Spells word.toList (text.take l.size)
  mark : ∀ mark, l.kind = .mark mark → text.take l.size = mark.toList
  textEnd : l.kind = .textEnd → text = []
  apart : l.kind.isRight → Apart (text.take l.size) (text.drop l.size)

namespace Lexeme

theorem fits_wrong (offset : Nat) (cause : Cause) (size : Nat) (text : List Char) :
    (wrong offset cause size).Fits text :=
  ⟨nofun, nofun, nofun, nofun⟩

theorem number_fits (c : Cursor) : (number c).Fits c.rest := by
  rw [number]
  split
  · exact fits_wrong ..
  · next isBig size _ =>
    split
    · exact fits_wrong ..
    · next hname =>
      refine ⟨fun _ _ h => ?_, fun _ h => ?_, fun h => ?_, fun _ => ?_⟩
      · cases isBig <;> cases h
      · cases isBig <;> cases h
      · cases isBig <;> cases h
      · exact .of_head (Bool.eq_false_iff.mpr hname) (by decide)

theorem string_fits {q : Char} {rest : List Char} {offset : Nat} (hq : q = '"' ∨ q = '\'') :
    (string q ⟨q :: rest, offset⟩).Fits (q :: rest) := by
  rw [string]
  split
  · exact fits_wrong ..
  · next b hbody =>
    refine ⟨nofun, nofun, nofun, fun _ => ?_⟩
    obtain ⟨n, hsize, hend⟩ := Quoted.readBody_ok hbody (Nat.le_succ _)
    show Apart ((q :: rest).take b.size) ((q :: rest).drop b.size)
    rw [hsize, Nat.add_comm]
    rcases hend with ⟨front, hfront⟩ | hend
    · refine .of_last (c := q) ⟨q :: front, ?_⟩ (by rcases hq with rfl | rfl <;> decide)
      rw [List.take_succ_cons]
      exact congrArg (q :: ·) hfront
    · intro hr
      rw [List.drop_succ_cons] at hr
      rw [List.tail_cons, hr] at hend
      cases hend

theorem marks_apart : ∀ mark ∈ [backtick] :: marks, mark ≠ [] ∧ endsInWord mark = false := by
  decide +kernel

theorem mark?_eq_some {cs mark : List Char} (h : mark? cs = some mark) :
    mark <+: cs ∧ mark ∈ [backtick] :: marks := by
  rw [mark?] at h
  split at h
  · next hhead =>
    cases h
    obtain ⟨rest, rfl⟩ := List.head?_eq_some_iff.mp hhead
    exact ⟨⟨rest, rfl⟩, List.mem_cons_self⟩
  · split at h
    · next hfind =>
      have hpre : ['?', '.'] <+: cs := by simpa using List.find?_some hfind
      split at h <;> cases h
      · exact ⟨(List.prefix_append ['?'] ['.']).trans hpre, by decide +kernel⟩
      · exact ⟨hpre, by decide +kernel⟩
    · exact ⟨by simpa using List.find?_some h, List.mem_cons_of_mem _ (List.mem_of_find?_eq_some h)⟩

theorem mark_fits {cs mark : List Char} (h : mark <+: cs)
    (hmark : mark ≠ [] ∧ endsInWord mark = false) :
    Fits ⟨.mark (String.ofList mark), mark.length, []⟩ cs := by
  obtain ⟨rest, rfl⟩ := h
  have htake : (mark ++ rest).take mark.length = mark := List.take_left
  refine ⟨nofun, fun _ h => ?_, nofun, fun _ _ => ?_⟩
  · cases h
    exact htake.trans String.toList_ofList.symm
  · rwa [htake]

theorem read_fits (c : Cursor) : (read c).Fits c.rest := by
  obtain ⟨text, offset⟩ := c
  cases text with
  | nil => exact ⟨nofun, nofun, fun _ => rfl, fun _ h => nomatch h⟩
  | cons d rest =>
    rw [read]
    dsimp only
    split
    · split
      · exact fits_wrong ..
      · next word size isEscaped hname =>
        obtain ⟨hspells, hend⟩ := name_ok hname (Nat.le_refl _)
        split
        · exact fits_wrong ..
        · refine ⟨fun _ _ h => ?_, nofun, nofun, fun _ => .of_head hend (by decide)⟩
          cases h
          rwa [String.toList_ofList]
    split
    · exact number_fits _
    split
    · next hq => exact string_fits hq
    split
    · split
      · next word size isEscaped hname =>
        split
        · exact fits_wrong ..
        · exact ⟨nofun, nofun, nofun, fun _ => .of_head (name_ok hname (Nat.le_refl _)).2 (by decide)⟩
      · exact fits_wrong ..
    split
    · next mark hmark =>
      obtain ⟨hpre, hmem⟩ := mark?_eq_some hmark
      exact mark_fits hpre (marks_apart _ hmem)
    · exact fits_wrong ..

theorem regex_fits (c : Cursor) : (regex c).Fits c.rest := by
  rw [regex]
  split
  · exact fits_wrong ..
  · next size _ =>
    refine ⟨nofun, nofun, nofun, fun _ => .of_head (p := continuesName) ?_ (by decide)⟩
    dsimp only
    rw [← List.drop_drop]
    exact head?_drop_takeWhile _ _

/-- How a piece of a template ends: with the back quote, or with the brace that opens an
expression. -/
def PieceEnds (text : List Char) : Nat × Bool → Prop
  | (n, true) => ∃ front, text.take (n + 1) = front ++ [backtick]
  | (n, false) => ∃ front, text.take (n + 2) = front ++ ['\x7b']

theorem PieceEnds.cons {rest : List Char} {n : Nat} {closed : Bool} (c : Char)
    (h : PieceEnds rest (n, closed)) : PieceEnds (c :: rest) (n + 1, closed) := by
  cases closed <;> obtain ⟨front, hfront⟩ := h <;> exact ⟨c :: front, congrArg (c :: ·) hfront⟩

theorem templatePiece_ends {escaped : Bool} {text : List Char} {piece : Nat × Bool}
    (h : templatePiece escaped text = some piece) : PieceEnds text piece := by
  fun_induction templatePiece escaped text generalizing piece with
  | case1 => cases h
  | case2 c rest ih | case5 c rest _ _ ih =>
    obtain ⟨⟨n, closed⟩, hpiece, rfl⟩ := Option.map_eq_some_iff.mp h
    exact (ih hpiece).cons c
  | case3 =>
    cases h
    exact ⟨[], rfl⟩
  | case4 c rest _ hc =>
    cases h
    obtain ⟨rest, rfl⟩ := List.head?_eq_some_iff.mp hc.2
    exact ⟨[c], rfl⟩

end Lexeme

theorem Grammar.dashedName_fits (c : Cursor) : (dashedName c).Fits c.rest := by
  refine ⟨fun _ _ h => ?_, nofun, nofun, fun _ => .of_head (head?_drop_takeWhile _ _) (by decide)⟩
  cases h
  rw [String.toList_ofList]
  exact .inl (take_drop_takeWhile _ _).1

theorem Grammar.greaterMark_fits (c : Cursor) : (greaterMark c).Fits c.rest := by
  have hall : ∀ mark ∈ greaterMarks, mark.toList ≠ [] ∧ endsInWord mark.toList = false := by
    decide +kernel
  rw [greaterMark]
  split
  · next mark hmark =>
    have hpre : mark.toList <+: c.rest := by simpa using List.find?_some hmark
    have := Lexeme.mark_fits hpre (hall mark (List.mem_of_find?_eq_some hmark))
    rwa [String.ofList_toList, String.length_toList] at this
  · exact Lexeme.read_fits c

end Script
end StaticContext
