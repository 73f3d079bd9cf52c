import Mathlib.Data.List.TakeDrop
import StaticContext.Script.Character

/-! # Spaces are no characters of words

Beyond ASCII both are sets of tables of ranges; that they do not meet is checked line by line, since a
union of tables only merges their ranges. -/

namespace StaticContext
namespace Text
namespace CharSet

/-- Merging ranges that touch adds no code point. -/
theorem exists_mem_of_merge {ranges : List (Nat × Nat)} {n : Nat}
    (h : ∃ r ∈ merge ranges, r.1 ≤ n ∧ n ≤ r.2) : ∃ r ∈ ranges, r.1 ≤ n ∧ n ≤ r.2 := by
  induction ranges with
  | nil => exact h
  | cons r rest ih =>
    obtain ⟨a, b⟩ := r
    rw [merge] at h
    cases hrest : merge rest with
    | nil =>
      rw [hrest] at h
      obtain ⟨r, hr, hn⟩ := h
      exact ⟨r, List.mem_cons.mpr (.inl (List.mem_singleton.mp hr)), hn⟩
    | cons r more =>
      obtain ⟨c, d⟩ := r
      rw [hrest] at h ih
      have later (r : Nat × Nat) (hr : r ∈ (c, d) :: more) (hn : r.1 ≤ n ∧ n ≤ r.2) :
          ∃ r ∈ (a, b) :: rest, r.1 ≤ n ∧ n ≤ r.2 := by
        obtain ⟨r, hr, hn⟩ := ih ⟨r, hr, hn⟩
        exact ⟨r, List.mem_cons_of_mem _ hr, hn⟩
      dsimp only at h
      split at h
      · next htouch =>
        obtain ⟨r, hr, hlow, hhigh⟩ := h
        rcases List.mem_cons.mp hr with rfl | hr
        · by_cases hb : n ≤ b
          · exact ⟨(a, b), List.mem_cons_self, hlow, hb⟩
          · exact later (c, d) List.mem_cons_self (by dsimp only at *; omega)
        · exact later r (List.mem_cons_of_mem _ hr) ⟨hlow, hhigh⟩
      · obtain ⟨r, hr, hn⟩ := h
        rcases List.mem_cons.mp hr with rfl | hr
        · exact ⟨(a, b), List.mem_cons_self, hn⟩
        · exact later r hr hn

theorem containsCode_iff {s : CharSet} {n : Nat} :
    s.containsCode n ↔ ∃ r ∈ s.ranges, r.1 ≤ n ∧ n ≤ r.2 := by
  simp [containsCode]

theorem exists_containsCode_of_unions {ss : List CharSet} {n : Nat}
    (h : (unions ss).containsCode n) : ∃ s ∈ ss, s.containsCode n := by
  obtain ⟨r, hr, hn⟩ := exists_mem_of_merge (containsCode_iff.mp h)
  obtain ⟨s, hs, hr⟩ := List.mem_flatMap.mp (List.mem_mergeSort.mp hr)
  exact ⟨s, hs, containsCode_iff.mpr ⟨r, hr, hn⟩⟩

/-- No range of the one set meets a range of the other. -/
def disjoint (s t : CharSet) : Bool :=
  s.ranges.all fun (a, b) => t.ranges.all fun (c, d) => b < c || d < a

theorem containsCode_of_disjoint {s t : CharSet} {n : Nat} (h : s.disjoint t)
    (hn : s.containsCode n) : t.containsCode n = false := by
  rw [Bool.eq_false_iff]
  intro ht
  obtain ⟨r, hr, hn⟩ := containsCode_iff.mp hn
  obtain ⟨q, hq, ht⟩ := containsCode_iff.mp ht
  have := List.all_eq_true.mp (List.all_eq_true.mp h r hr) q hq
  simp only [Bool.or_eq_true, decide_eq_true_eq] at this
  omega

/-- The ranges of a line of a table, from its characters. -/
def ofLine (cs : List Char) : CharSet :=
  ⟨(cs.splitOn ',').map fun r =>
    let low := r.takeWhile (· != '-')
    let high := r.drop (low.length + 1)
    (hexValue low, if high.isEmpty then hexValue low else hexValue high)⟩

theorem ofText_ofList (cs : List Char) : ofText (String.ofList cs) = ofLine cs := by
  rw [ofText, String.toList_ofList, ofLine]

theorem ofTexts_singleton (cs : List Char) : ofTexts [String.ofList cs] = ofLine cs := by
  rw [ofTexts, List.flatMap_singleton, ofText_ofList]

theorem disjoint_ofText {s : CharSet} {cs : List Char} (h : s.disjoint (ofLine cs)) :
    s.disjoint (ofText (String.ofList cs)) := by
  rwa [ofText_ofList]

theorem disjoint_ofTexts {s : CharSet} {lines : List String}
    (h : ∀ line ∈ lines, s.disjoint (ofText line)) : s.disjoint (ofTexts lines) := by
  simp only [disjoint, ofTexts, List.all_eq_true, List.mem_flatMap] at *
  rintro r hr q ⟨line, hline, hq⟩
  exact h line hline r hr q hq

end CharSet

/-- The code points of White_Space. -/
def blankCodes : CharSet :=
  ⟨[(0x9, 0xD), (0x20, 0x20), (0x85, 0x85), (0xA0, 0xA0), (0x1680, 0x1680), (0x2000, 0x200A),
    (0x2028, 0x2029), (0x202F, 0x202F), (0x205F, 0x205F), (0x3000, 0x3000)]⟩

/-- The code points between the tokens of a script. -/
def spaceCodes : CharSet := ⟨(0xFEFF, 0xFEFF) :: blankCodes.ranges⟩

theorem whiteSpace_eq : whiteSpace = blankCodes := by
  simp only [whiteSpace, traitSet, lookup, traits, List.find?, List.contains_cons,
    List.contains_nil, String.reduceBEq, Bool.or_false, Bool.or_true, Option.map_some,
    Option.getD_some]
  refine (CharSet.ofTexts_singleton _).trans ?_
  decide +kernel

theorem wordCharacters_disjoint : ∀ s ∈ traitSet "alphabetic" :: traitSet "joincontrol" ::
    ["mn", "mc", "me", "nd", "pc"].map categorySet, spaceCodes.disjoint s := by
  simp only [List.map_cons, List.map_nil, List.forall_mem_cons, List.not_mem_nil, false_imp_iff,
    implies_true, and_true, traitSet, categorySet, lookup, traits, categories, List.find?,
    List.contains_cons, List.contains_nil, String.reduceBEq, Bool.or_false, Bool.or_true,
    Option.map_some, Option.getD_some]
  refine ⟨?_, ?_, ?_, ?_, ?_, ?_, ?_⟩
  all_goals
    apply CharSet.disjoint_ofTexts
    simp only [List.forall_mem_cons, List.not_mem_nil, false_imp_iff, implies_true, and_true]
    repeat' apply And.intro
  all_goals exact CharSet.disjoint_ofText (by decide +kernel)

theorem isWord_of_spaceCodes {c : Char} (hascii : ¬ c.toNat < 128)
    (h : spaceCodes.contains c) : isWord c = false := by
  rw [isWord, if_neg hascii, Bool.eq_false_iff]
  intro hword
  obtain ⟨s, hs, hword⟩ := CharSet.exists_containsCode_of_unions hword
  rw [CharSet.containsCode_of_disjoint (wordCharacters_disjoint s hs) h] at hword
  cases hword

end Text

namespace Script

theorem isWord_of_isSpace {c : Char} (h : isSpace c) : Text.isWord c = false := by
  by_cases hascii : c.toNat < 128
  · have hall : ∀ n : Fin 128, isSpace (Char.ofNat n) → Text.isWord (Char.ofNat n) = false := by
      decide
    have := hall ⟨c.toNat, hascii⟩
    rw [Char.ofNat_toNat] at this
    exact this h
  · apply Text.isWord_of_spaceCodes hascii
    rw [isSpace, Text.isBlank, if_neg hascii, Text.whiteSpace_eq, Bool.or_eq_true,
      decide_eq_true_eq] at h
    rcases h with h | rfl
    · exact Bool.or_eq_true_iff.mpr (.inr h)
    · rfl

theorem isSpace_of_isLineEnd {c : Char} (h : isLineEnd c) : isSpace c := by
  simp only [isLineEnd, Bool.or_eq_true, decide_eq_true_eq] at h
  rw [isSpace, Text.isBlank, Text.whiteSpace_eq]
  rcases h with ((rfl | rfl) | rfl) | rfl <;> decide

end Script
end StaticContext
