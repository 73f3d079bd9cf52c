import StaticContext.Script.Quoted

/-! # Texts in quotes read back

A character stands between quotes as itself or as one escape, and what an escape says does not depend
on what follows it. So a literal is read one character of its text after the other, up to the quote that
closes it, which is the first one that no escape takes. A text that spells half of a surrogate pair
behind a backslash is the exception: that backslash is written once and may be read as an escape. -/

namespace StaticContext.Script.Quoted

variable {q : Char} {fuel done : Nat} {text rest : List Char}

/-- A quote of either kind. -/
def isQuote (c : Char) : Bool := c = '"' || c = '\''

theorem isQuote_iff {c : Char} : isQuote c = true ↔ c = '"' ∨ c = '\'' := by
  simp [isQuote]

/-! ## Characters -/

theorem hexDigit?_digitChar : ∀ k < 16, Text.hexDigit? (Nat.digitChar k) = some k := by decide

theorem isLineEnd_digitChar : ∀ k < 16, isLineEnd (Nat.digitChar k) = false := by decide

theorem isLineEnd_hexPair (n : Nat) : (hexPair n).any isLineEnd = false := by
  simp [hexPair, isLineEnd_digitChar _ (Nat.mod_lt _ (by decide : 16 > 0))]

theorem hexValue_hexPair {n : Nat} (h : n < 256) : Text.hexValue (hexPair n) = n := by
  have hhigh := hexDigit?_digitChar (n / 16 % 16) (Nat.mod_lt _ (by decide))
  have hlow := hexDigit?_digitChar (n % 16) (Nat.mod_lt _ (by decide))
  simp only [Text.hexValue, hexPair, List.foldl_cons, List.foldl_nil, hhigh, hlow, Option.getD_some]
  omega

/-- An escape of two digits is read as the character with that number. -/
theorem readEscape_hexPair {n : Nat} (h : n < 256) (rest : List Char) :
    readEscape ('x' :: hexPair n ++ rest) = .ok ⟨[Char.ofNat n], 3, false⟩ := by
  have hdigits : (hexPair n).all (Text.hexDigit? · |>.isSome) = true := by
    simp [hexPair, hexDigit?_digitChar _ (Nat.mod_lt _ (by decide : 16 > 0))]
  have hcode : codeText n = [Char.ofNat n] := if_neg (by omega)
  show (if (hexPair n).length = 2 ∧ (hexPair n).all (Text.hexDigit? · |>.isSome) = true then
      Except.ok (⟨codeText (Text.hexValue (hexPair n)), 3, false⟩ : Escape)
    else Except.error (Cause.escapeMalformed "2 hex characters")) = _
  rw [if_pos ⟨rfl, hdigits⟩, hexValue_hexPair h, hcode]

/-- How a character may stand between quotes: as itself, if it neither closes the literal nor starts an
escape nor ends a line, or as an escape on one line, which is read as the character. -/
inductive Stands (q c : Char) : List Char → Prop where
  | itself (unquoted : c ≠ q) (plain : c ≠ backslash) (inLine : isLineEnd c = false) : Stands q c [c]
  | escape {spelling : List Char} (inLine : spelling.any isLineEnd = false)
      (read : ∀ rest, readEscape (spelling ++ rest) = .ok ⟨[c], spelling.length, false⟩) :
      Stands q c (backslash :: spelling)

theorem stands_escaped (hq : isQuote q = true) (c : Char) : Stands q c (escaped q c) := by
  unfold escaped
  by_cases hown : c = q ∨ c = backslash
  · rw [if_pos hown]
    have hc : (c = '"' ∨ c = '\'') ∨ c = backslash := by
      rcases hown with rfl | h
      · exact .inl (isQuote_iff.mp hq)
      · exact .inr h
    rcases hc with (rfl | rfl) | rfl <;> exact .escape rfl fun _ => rfl
  rw [if_neg hown]
  by_cases hback : c = '\x08'
  · subst c; exact .escape rfl fun _ => rfl
  rw [if_neg hback]
  by_cases hfeed : c = '\n'
  · subst c; exact .escape rfl fun _ => rfl
  rw [if_neg hfeed]
  by_cases htab : c = '\x0b'
  · subst c; exact .escape rfl fun _ => rfl
  rw [if_neg htab]
  by_cases hform : c = '\x0c'
  · subst c; exact .escape rfl fun _ => rfl
  rw [if_neg hform]
  by_cases hreturn : c = '\r'
  · subst c; exact .escape rfl fun _ => rfl
  rw [if_neg hreturn]
  by_cases hline : c = '\u2028'
  · subst c; exact .escape rfl fun _ => rfl
  rw [if_neg hline]
  by_cases hparagraph : c = '\u2029'
  · subst c; exact .escape rfl fun _ => rfl
  rw [if_neg hparagraph]
  by_cases hmark : c = '\uFEFF'
  · subst c; exact .escape rfl fun _ => rfl
  rw [if_neg hmark]
  by_cases hcontrol : c.toNat < 32 ∧ c ≠ '\t'
  · rw [if_pos hcontrol]
    refine .escape (isLineEnd_hexPair c.toNat) fun rest => ?_
    rw [readEscape_hexPair (by omega), Char.ofNat_toNat]
    rfl
  · rw [if_neg hcontrol]
    rw [not_or] at hown
    exact .itself hown.1 hown.2 (by simp [isLineEnd, hfeed, hreturn, hline, hparagraph])

namespace Stands

variable {c : Char} {written : List Char}

theorem inLine (h : Stands q c written) : written.any isLineEnd = false := by
  cases h with
  | itself _ _ hline => simpa using hline
  | escape hline => exact hline

theorem length_pos (h : Stands q c written) : 0 < written.length := by
  cases h with
  | itself => exact Nat.one_pos
  | escape => exact Nat.succ_pos _

/-- One character is read, and reading goes on behind it. -/
theorem readBody (h : Stands q c written) (hq : isQuote q = true) (fuel done : Nat) (rest : List Char) :
    readBody q (fuel + 1) done (written ++ rest) =
      (readBody q fuel (done + written.length) rest).map fun b => { b with value := c :: b.value } := by
  cases h with
  | itself hquote hplain hline =>
    have hends : ¬ (c = '\n' ∨ c = '\r') := by
      rintro (rfl | rfl) <;> cases hline
    rw [List.singleton_append, Quoted.readBody, if_neg hquote, if_neg hplain, if_neg hends]
    rfl
  | @escape spelling hline hread =>
    have hquote : backslash ≠ q := by
      rintro rfl
      cases hq
    rw [List.cons_append, Quoted.readBody, if_neg hquote, if_pos rfl, hread rest]
    simp [Nat.add_right_comm, Nat.add_assoc]

end Stands

/-! ## Whole literals -/

/-- Whether half of a surrogate pair is spelled out behind a backslash of the text. -/
def holdsSpelling : List Char → Bool
  | [] => false
  | c :: rest => (c = backslash && spellsSurrogate rest) || holdsSpelling rest

/-- What stands between the quotes is read as the text, whatever follows the quote that closes it. -/
theorem readBody_quotedBody (hq : isQuote q = true) (hplain : holdsSpelling text = false)
    (hfuel : text.length < fuel) (done : Nat) (rest : List Char) :
    readBody q fuel done (quotedBody q text ++ q :: rest) =
      .ok ⟨text, done + (quotedBody q text).length + 1, true, []⟩ := by
  induction text generalizing fuel done with
  | nil =>
    obtain ⟨n, rfl⟩ := Nat.exists_eq_succ_of_ne_zero (Nat.ne_of_gt hfuel)
    simp [quotedBody, readBody]
  | cons c text ih =>
    obtain ⟨n, rfl⟩ := Nat.exists_eq_succ_of_ne_zero (Nat.ne_zero_of_lt hfuel)
    rw [holdsSpelling, Bool.or_eq_false_iff] at hplain
    have hescaped : ¬ (c = backslash ∧ spellsSurrogate text = true) := by simpa using hplain.1
    rw [quotedBody, if_neg hescaped, List.append_assoc, (stands_escaped hq c).readBody hq,
      ih hplain.2 (Nat.lt_of_succ_lt_succ hfuel)]
    simp [Except.map, Nat.add_assoc]

theorem isLineEnd_quotedBody (hq : isQuote q = true) (text : List Char) :
    (quotedBody q text).any isLineEnd = false := by
  induction text with
  | nil => rfl
  | cons c text ih =>
    rw [quotedBody, List.any_append, ih, Bool.or_false]
    split
    · next h => rw [h.1]; rfl
    · exact (stands_escaped hq c).inLine

theorem length_le_quotedBody (hq : isQuote q = true) (text : List Char) :
    text.length ≤ (quotedBody q text).length := by
  induction text with
  | nil => exact Nat.le_refl 0
  | cons c text ih =>
    rw [quotedBody, List.length_append, List.length_cons, Nat.add_comm]
    refine Nat.add_le_add ?_ ih
    split
    · exact Nat.le_refl 1
    · exact (stands_escaped hq c).length_pos

theorem isQuote_quoteFor (text : List Char) : isQuote (quoteFor text) = true := by
  unfold quoteFor
  split <;> rfl

/-- A literal that says a text: it stands on one line between two quotes of one kind, and reading from
behind the first one gives the text and stops behind the second one, whatever follows. -/
structure Says (literal text : List Char) : Prop where
  inLine : literal.any isLineEnd = false
  read : ∃ q body, isQuote q = true ∧ literal = q :: body ++ [q] ∧ ∀ rest,
    readBody q (body ++ q :: rest).length 0 (body ++ q :: rest) = .ok ⟨text, body.length + 1, true, []⟩

/-- What is quoted is read back, unless it spells half of a surrogate pair. -/
theorem says_quote (hplain : holdsSpelling text = false) : Says (quote text) text := by
  have hq := isQuote_quoteFor text
  refine ⟨?_, _, _, hq, rfl, fun rest => ?_⟩
  · have hquote : isLineEnd (quoteFor text) = false := by
      rcases isQuote_iff.mp hq with h | h <;> rw [h] <;> rfl
    simp [quote, hquote, isLineEnd_quotedBody hq text]
  · have hfuel : text.length < (quotedBody (quoteFor text) text ++ quoteFor text :: rest).length := by
      have hlength := length_le_quotedBody hq text
      rw [List.length_append, List.length_cons]
      omega
    rw [readBody_quotedBody hq hplain hfuel, Nat.zero_add]

/-! ## The literals of a text -/

/-- What the literals of a text say, one after the other, if each of them is well-formed. The first
number of characters belongs to the literal before. -/
def literalsFrom : Nat → List Char → Option (List (List Char))
  | _, [] => some []
  | skipped + 1, _ :: rest => literalsFrom skipped rest
  | 0, c :: rest =>
    if isQuote c then
      match readBody c rest.length 0 rest with
      | .ok b => if b.isClosed ∧ b.faults = [] then (literalsFrom b.size rest).map (b.value :: ·) else none
      | .error _ => none
    else literalsFrom 0 rest

def literals (text : List Char) : Option (List (List Char)) := literalsFrom 0 text

theorem literalsFrom_length (front rest : List Char) :
    literalsFrom front.length (front ++ rest) = literals rest := by
  induction front with
  | nil => rfl
  | cons c front ih => exact ih

/-- Whatever follows the text, its own literals come first and say these values. -/
def Tells (text : List Char) (values : List (List Char)) : Prop :=
  ∀ rest, literals (text ++ rest) = (literals rest).map (values ++ ·)

theorem Says.tells {literal : List Char} (h : Says literal text) : Tells literal [text] := by
  intro rest
  obtain ⟨q, body, hq, rfl, hread⟩ := h.read
  have hskip : literalsFrom (body.length + 1) (body ++ q :: rest) = literals rest := by
    simpa using literalsFrom_length (body ++ [q]) rest
  rw [List.append_assoc, List.cons_append, List.singleton_append, literals, literalsFrom, if_pos hq,
    hread rest]
  simp [hskip]

namespace Tells

variable {text more : List Char} {values others : List (List Char)}

theorem literals_eq (h : Tells text values) : literals text = some values := by
  have hrest := h []
  rw [List.append_nil] at hrest
  rw [hrest]
  exact congrArg some (List.append_nil values)

theorem nil : Tells [] [] := fun rest => by simp

theorem append (h : Tells text values) (h' : Tells more others) :
    Tells (text ++ more) (values ++ others) := by
  intro rest
  rw [List.append_assoc, h, h', Option.map_map]
  simp [Function.comp_def]

theorem append_nil (h : Tells text values) (h' : Tells more []) : Tells (text ++ more) values := by
  simpa using h.append h'

theorem nil_append (h : Tells text []) (h' : Tells more values) : Tells (text ++ more) values :=
  h.append h'

/-- A text without quotes tells nothing. -/
theorem of_unquoted (h : text.any isQuote = false) : Tells text [] := by
  induction text with
  | nil => exact nil
  | cons c text ih =>
    rw [List.any_cons, Bool.or_eq_false_iff] at h
    intro rest
    rw [List.cons_append, literals, literalsFrom, if_neg (by simp [h.1])]
    exact ih h.2 rest

theorem flatMap {α : Type} {f : α → List Char} {g : α → List (List Char)} {xs : List α}
    (h : ∀ x ∈ xs, Tells (f x) (g x)) : Tells (xs.flatMap f) (xs.flatMap g) := by
  induction xs with
  | nil => exact nil
  | cons x xs ih =>
    rw [List.forall_mem_cons] at h
    exact h.1.append (ih h.2)

theorem intercalate {separator : List Char} (hseparator : Tells separator []) {α : Type}
    {f : α → List Char} {g : α → List (List Char)} {xs : List α} (h : ∀ x ∈ xs, Tells (f x) (g x)) :
    Tells (separator.intercalate (xs.map f)) (xs.flatMap g) := by
  match xs with
  | [] => exact nil
  | [x] =>
    rw [List.forall_mem_singleton] at h
    simpa using h
  | x :: y :: xs =>
    rw [List.forall_mem_cons] at h
    rw [List.map_cons, List.map_cons, List.intercalate_cons_cons]
    exact (h.1.append_nil hseparator).append (intercalate hseparator h.2)

end Tells

end StaticContext.Script.Quoted
