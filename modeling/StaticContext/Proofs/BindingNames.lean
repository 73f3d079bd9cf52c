import Mathlib
import StaticContext.Binding
import StaticContext.Script.Grammar.Pattern

/-! # Names that may bind

A key becomes a name of word characters. Where a segment writes its first character it writes a capital
or a character that has no case, and segments are joined by `_`; so no name starts with a small letter,
as all words that strict code reserves and all locals of an accessor do, and only a digit or nothing at
all asks for the `_` in front. -/

namespace StaticContext.Binding
open Script

/-! ## Segments -/

theorem isWordChar_toUpper {c : Char} (h : isWordChar c = true) : isWordChar c.toUpper = true := by
  by_cases hlower : c.isLower
  · simp [isWordChar, Char.isAlphanum, Char.isAlpha, hlower]
  · rwa [Char.toUpper_eq_of_not_isLower hlower]

theorem isWordChar_camelHumpsFrom (first : Bool) (segment : List Char) :
    ∀ c ∈ camelHumpsFrom first segment, isWordChar c = true := by
  have hwritten : ∀ (first : Bool) {c : Char}, isWordChar c = true →
      isWordChar (if first then c.toUpper else c) = true := by
    intro first c hc
    cases first with
    | true => exact isWordChar_toUpper hc
    | false => exact hc
  induction first, segment using camelHumpsFrom.induct with
  | case1 => nofun
  | case2 first c hword => simpa [camelHumpsFrom, hword] using hwritten first hword
  | case3 first c hword => simp [camelHumpsFrom, hword]
  | case4 first c d rest hhump ih =>
    rw [camelHumpsFrom, if_pos hhump]
    intro e he
    rcases List.mem_cons.mp he with rfl | he
    · exact isWordChar_toUpper (Bool.and_eq_true_iff.mp hhump).2
    · exact ih e he
  | case5 first c d rest hhump hword ih =>
    rw [camelHumpsFrom, if_neg hhump, if_pos hword]
    intro e he
    rcases List.mem_cons.mp he with rfl | he
    · exact hwritten first hword
    · exact ih e he
  | case6 first c d rest hhump hword ih => rwa [camelHumpsFrom, if_neg hhump, if_neg hword]

/-- Until something is written no small letter is. -/
theorem isLower_head_camelHumps (segment : List Char) :
    ∀ c ∈ (camelHumps segment).head?, c.isLower = false := by
  unfold camelHumps
  generalize hfirst : true = first
  induction first, segment using camelHumpsFrom.induct with
  | case1 => nofun
  | case2 first c hword => simp [camelHumpsFrom, hword, ← hfirst]
  | case3 first c hword => simp [camelHumpsFrom, hword]
  | case4 first c d rest hhump => simp [camelHumpsFrom, hhump]
  | case5 first c d rest hhump hword =>
    rw [camelHumpsFrom, if_neg hhump, if_pos hword, ← hfirst]
    simp
  | case6 first c d rest hhump hword ih =>
    rw [camelHumpsFrom, if_neg hhump, if_neg hword]
    exact ih hfirst

/-- What `_` joins starts as the first part does, or with the `_` behind it. -/
theorem head?_intercalate (parts : List (List Char)) :
    ∀ c ∈ (['_'].intercalate parts).head?, c = '_' ∨ ∃ part ∈ parts, c ∈ part.head? := by
  intro c hc
  match parts with
  | [] => cases hc
  | [part] => exact .inr ⟨part, List.mem_singleton_self part, by simpa [List.intercalate] using hc⟩
  | part :: next :: rest =>
    rw [List.intercalate_cons_cons, List.append_assoc] at hc
    cases part with
    | nil => exact .inl (Option.some.inj hc).symm
    | cons d front => exact .inr ⟨_, List.mem_cons_self, hc⟩

theorem mem_intercalate {parts : List (List Char)} {c : Char} (h : c ∈ ['_'].intercalate parts) :
    c = '_' ∨ ∃ part ∈ parts, c ∈ part := by
  match parts with
  | [] => cases h
  | [part] => exact .inr ⟨part, List.mem_singleton_self part, by simpa [List.intercalate] using h⟩
  | part :: next :: rest =>
    rw [List.intercalate_cons_cons, List.append_assoc] at h
    rcases List.mem_append.mp h with h | h
    · exact .inr ⟨part, List.mem_cons_self, h⟩
    rcases List.mem_cons.mp h with rfl | h
    · exact .inl rfl
    rcases mem_intercalate h with rfl | ⟨part', hpart, hc⟩
    · exact .inl rfl
    · exact .inr ⟨part', List.mem_cons_of_mem _ hpart, hc⟩

/-- The segments of a key in camel humps, joined. -/
theorem isWordChar_joined (segments : List (List Char)) :
    ∀ c ∈ ['_'].intercalate (segments.map camelHumps), isWordChar c = true := by
  intro c hc
  rcases mem_intercalate hc with rfl | ⟨part, hpart, hc⟩
  · rfl
  · obtain ⟨segment, -, rfl⟩ := List.mem_map.mp hpart
    exact isWordChar_camelHumpsFrom true segment c hc

theorem isLower_head_joined (segments : List (List Char)) :
    ∀ c ∈ (['_'].intercalate (segments.map camelHumps)).head?, c.isLower = false := by
  intro c hc
  rcases head?_intercalate _ c hc with rfl | ⟨part, hpart, hc⟩
  · rfl
  · obtain ⟨segment, -, rfl⟩ := List.mem_map.mp hpart
    exact isLower_head_camelHumps segment c hc

/-! ## Whole names -/

/-- What reserved words and the names an accessor declares start with. -/
theorem isLower_of_mem_taken : ∀ word ∈ reservedWords ++ accessorLocals,
    ∃ c rest, word.toList = c :: rest ∧ c.isLower = true := by
  have hall : (reservedWords ++ accessorLocals).all
      (fun word => word.toList.head?.any Char.isLower) = true := by decide
  intro word hword
  have hhead := List.all_eq_true.mp hall word hword
  cases htext : word.toList with
  | nil => rw [htext] at hhead; cases hhead
  | cons c rest => exact ⟨c, rest, rfl, by simpa [htext] using hhead⟩

theorem toList_ne_of_mem_taken {word : String} (hword : word ∈ reservedWords ++ accessorLocals)
    {c : Char} {rest : List Char} (hlower : c.isLower = false) : word.toList ≠ c :: rest := by
  intro hname
  obtain ⟨d, more, htext, hd⟩ := isLower_of_mem_taken word hword
  obtain ⟨rfl, -⟩ := List.cons.inj (hname.symm.trans htext)
  rw [hlower] at hd
  cases hd

/-- The words a parser knows are among those that names keep clear of. -/
theorem mem_reservedWords {word : String}
    (h : Token.isKeyword word = true ∨ Token.isFutureReserved word = true ∨
      word ∈ ["await", "eval", "arguments"]) : word ∈ reservedWords := by
  have hparser : ∀ word ∈ Token.reservedWords ++ ["implements", "interface", "let", "package",
      "private", "protected", "public", "static", "yield"] ++ ["await", "eval", "arguments"],
      word ∈ reservedWords := by decide
  apply hparser
  rcases h with h | h | h
  · simp only [Token.isKeyword, Bool.and_eq_true, List.contains_iff_mem] at h
    simp [h.2]
  · rw [Token.isFutureReserved, List.contains_iff_mem] at h
    exact List.mem_append_left _ (List.mem_append_right _ h)
  · exact List.mem_append_right _ h

/-- A name of word characters that starts with a capital or `_` and is no word that strict code
reserves and no local of an accessor. -/
structure Legal (name : String) : Prop where
  word : ∀ c ∈ name.toList, isWordChar c = true
  start : ∃ c rest, name.toList = c :: rest ∧ c.isDigit = false ∧ c.isLower = false
  unreserved : name ∉ reservedWords
  free : name ∉ accessorLocals

theorem Legal.of_start {name : List Char} {c : Char} {rest : List Char} (hname : name = c :: rest)
    (hword : ∀ d ∈ name, isWordChar d = true) (hdigit : c.isDigit = false)
    (hlower : c.isLower = false) : Legal (String.ofList name) := by
  have htaken : String.ofList name ∉ reservedWords ++ accessorLocals := by
    intro hmem
    exact toList_ne_of_mem_taken hmem hlower (by rw [String.toList_ofList, hname])
  refine ⟨?_, ⟨c, rest, ?_, hdigit, hlower⟩, ?_, ?_⟩
  · rwa [String.toList_ofList]
  · rw [String.toList_ofList, hname]
  · exact fun hmem => htaken (List.mem_append_left _ hmem)
  · exact fun hmem => htaken (List.mem_append_right _ hmem)

theorem legal_legalize {name : List Char} (hword : ∀ c ∈ name, isWordChar c = true)
    (hlower : ∀ c ∈ name.head?, c.isLower = false) : Legal (String.ofList (legalize name)) := by
  cases name with
  | nil => exact .of_start rfl (List.forall_mem_singleton.mpr rfl) rfl rfl
  | cons c rest =>
    rw [legalize]
    split
    · -- the `_` in front
      refine .of_start rfl ?_ rfl rfl
      intro d hd
      rcases List.mem_cons.mp hd with rfl | hd
      · rfl
      · exact hword d hd
    · next hfree =>
      rw [Bool.or_eq_true, not_or, Bool.not_eq_true] at hfree
      exact .of_start rfl hword hfree.1 (hlower c rfl)

/-- Where a declaration wants a name, strict code takes a legal one and finds no fault with it. -/
theorem Legal.bindingName_eq {name : String} (h : Legal name) (scope : Scope) (state : ReadState)
    (htoken : state.token.kind = .word name false) : Grammar.bindingName scope state =
      (do let _ ← Reads.advance; return Tree.name name : Reads Tree) scope state := by
  have hkeyword : Token.isKeyword name = false := by
    rw [Bool.eq_false_iff]
    exact fun hk => h.unreserved (mem_reservedWords (.inl hk))
  have hfuture : Token.isFutureReserved name = false := by
    rw [Bool.eq_false_iff]
    exact fun hf => h.unreserved (mem_reservedWords (.inr (.inl hf)))
  have hstrict : ∀ word ∈ ["await", "eval", "arguments"], name ≠ word := by
    rintro word hword rfl
    exact h.unreserved (mem_reservedWords (.inr (.inr hword)))
  have hname : state.token.name? = some name := by simp [Token.name?, htoken, hkeyword]
  have hcheck : Grammar.checkName name state.token.start = pure () := by
    rw [Grammar.checkName, if_neg (hstrict "await" (by simp)), hfuture]
    rfl
  have hbinding : ¬ (name = "eval" ∨ name = "arguments") := by
    rintro (heval | harguments)
    · exact hstrict "eval" (by simp) heval
    · exact hstrict "arguments" (by simp) harguments
  have hcurrent (f : Token → Reads Tree) : (Reads.current >>= f) scope state =
      f state.token scope state := rfl
  rw [Grammar.bindingName, hcurrent, hname]
  simp only [hcheck, if_neg hbinding, pure_bind]

theorem legal_ofKey (key : String) : Legal (ofKey key) :=
  legal_legalize (isWordChar_joined _) (isLower_head_joined _)

/-- Whatever its key, a module is imported under a legal name, which a declaration of strict code takes
without a fault. -/
theorem ofKey_binds (key : String) : Legal (ofKey key) ∧
    ∀ (scope : Scope) (state : ReadState), state.token.kind = .word (ofKey key) false →
      Grammar.bindingName scope state =
        (do let _ ← Reads.advance; return Tree.name (ofKey key) : Reads Tree) scope state :=
  ⟨legal_ofKey key, (legal_ofKey key).bindingName_eq⟩

/-- A segment without word characters leaves the `_` that joins it to the next one in front. -/
example : ofKey "./-$-/2019-new.test.js" = "_2019New" := by decide +kernel

end StaticContext.Binding
