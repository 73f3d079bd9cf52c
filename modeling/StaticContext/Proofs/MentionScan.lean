import Mathlib.Data.List.TakeDrop
import StaticContext.Context.Expansion
import StaticContext.Proofs.Traversal

/-! # What a mention is

The scan before parsing finds `require`, a dot, `context` and a parenthesis with White_Space between
them, where no word goes on into the first. -/

namespace StaticContext
open Script

namespace Mention

/-- A text that a mention opens. -/
def Opens (text : List Char) : Prop :=
  ∃ beforeDot behindDot beforeParen rest : List Char,
    (beforeDot.all Text.isBlank ∧ behindDot.all Text.isBlank ∧ beforeParen.all Text.isBlank) ∧
      text = "require".toList ++ (beforeDot ++ (".".toList ++ (behindDot ++
        ("context".toList ++ (beforeParen ++ ("(".toList ++ rest))))))

/-- Whether a text leaves off within a word. -/
def endsInWord (text : List Char) : Bool := text.getLast?.any Text.isWord

/-- A mention stands somewhere in the text. -/
def Occurs (text : List Char) : Prop :=
  ∃ before rest, text = before ++ rest ∧ endsInWord before = false ∧ Opens rest

theorem after?_eq_some {word : String} {text rest : List Char} :
    after? word text = some rest ↔ text = word.toList ++ rest := by
  rw [after?]
  constructor
  · intro h
    split at h
    · next hpre =>
      obtain ⟨more, rfl⟩ := List.isPrefixOf_iff_prefix.mp hpre
      rw [← String.length_toList, List.drop_left] at h
      rw [Option.some.inj h]
    · cases h
  · rintro rfl
    rw [if_pos (List.isPrefixOf_iff_prefix.mpr (List.prefix_append _ _)), ← String.length_toList,
      List.drop_left]

theorem skipBlanks_append {blanks word rest : List Char} (h : blanks.all Text.isBlank)
    (hword : word.head?.any (!Text.isBlank ·)) : skipBlanks (blanks ++ (word ++ rest)) = word ++ rest := by
  rw [skipBlanks, List.dropWhile_append_of_pos (by simpa using h)]
  cases word with
  | nil => cases hword
  | cons c word => exact List.dropWhile_cons_of_neg (by simpa using hword)

theorem exists_blanks (text : List Char) :
    ∃ blanks, blanks.all Text.isBlank ∧ text = blanks ++ skipBlanks text :=
  ⟨text.takeWhile Text.isBlank, List.all_takeWhile, List.takeWhile_append_dropWhile.symm⟩

theorem starts_iff {text : List Char} : starts text = true ↔ Opens text := by
  simp only [starts, Option.isSome_iff_exists, Option.bind_eq_some_iff, after?_eq_some]
  constructor
  · rintro ⟨rest, afterRequire, rfl, afterDot, hdot, afterContext, hcontext, hparen⟩
    obtain ⟨beforeDot, hb₁, h₁⟩ := exists_blanks afterRequire
    obtain ⟨behindDot, hb₂, h₂⟩ := exists_blanks afterDot
    obtain ⟨beforeParen, hb₃, h₃⟩ := exists_blanks afterContext
    refine ⟨beforeDot, behindDot, beforeParen, rest, ⟨hb₁, hb₂, hb₃⟩, ?_⟩
    rw [← hparen, ← h₃, ← hcontext, ← h₂, ← hdot, ← h₁]
  · rintro ⟨beforeDot, behindDot, beforeParen, rest, ⟨hb₁, hb₂, hb₃⟩, rfl⟩
    exact ⟨rest, _, rfl, _, skipBlanks_append hb₁ (by decide), _,
      skipBlanks_append hb₂ (by decide), skipBlanks_append hb₃ (by decide)⟩

theorem occursFrom_iff {inWord : Bool} {text : List Char} :
    occursFrom inWord text = true ↔
      ∃ before rest, text = before ++ rest ∧
        (if before = [] then inWord else endsInWord before) = false ∧ Opens rest := by
  induction text generalizing inWord with
  | nil =>
    refine iff_of_false (by simp [occursFrom]) ?_
    rintro ⟨before, rest, h, -, _, _, _, _, -, rfl⟩
    simp at h
  | cons c text ih =>
    rw [occursFrom, Bool.or_eq_true, Bool.and_eq_true, Bool.not_eq_true', starts_iff, ih]
    constructor
    · rintro (⟨hword, hopens⟩ | ⟨before, rest, rfl, hword, hopens⟩)
      · exact ⟨[], _, rfl, hword, hopens⟩
      · refine ⟨c :: before, rest, rfl, ?_, hopens⟩
        cases before with
        | nil => simpa [endsInWord] using hword
        | cons d before => simpa [endsInWord] using hword
    · rintro ⟨before, rest, heq, hword, hopens⟩
      cases before with
      | nil => exact .inl ⟨hword, by rwa [heq]⟩
      | cons d before =>
        obtain ⟨rfl, rfl⟩ := List.cons.inj heq
        refine .inr ⟨before, rest, rfl, ?_, hopens⟩
        cases before with
        | nil => simpa [endsInWord] using hword
        | cons e before => simpa [endsInWord] using hword

end Mention

namespace Source

theorem mentionsContext_iff {s : Source} : s.mentionsContext ↔ Mention.Occurs s.text.toList := by
  rw [mentionsContext, Mention.occursFrom_iff]
  refine exists_congr fun before => exists_congr fun rest => and_congr_right fun _ => ?_
  cases before with
  | nil => rfl
  | cons c before => rfl

/-- A file that parses passes through if it mentions no context, or holds no context call. -/
theorem expand_passes {s : Source} {storage : Storage} {p : Program} (h : s.parse = .ok p) :
    (∃ report, s.expand storage = .ok report ∧ report.output = none) ↔
      ¬ Mention.Occurs s.text.toList ∨ ContextCall.inProgram p = [] := by
  rw [← mentionsContext_iff, expand]
  cases hmention : s.mentionsContext with
  | false => exact iff_of_true ⟨_, rfl, rfl⟩ (.inl nofun)
  | true =>
    simp only [if_true, h, not_true, false_or, expandProgram]
    cases hcalls : ContextCall.inProgram p with
    | nil => exact iff_of_true ⟨_, rfl, rfl⟩ rfl
    | cons call calls =>
      refine iff_of_false ?_ (List.cons_ne_nil _ _)
      rintro ⟨report, hreport, hnone⟩
      simp only [expandCalls] at hreport
      split at hreport
      · cases hreport
      · cases hreport
        cases hnone

end Source

/-- A context call with a comment before its dot. -/
def commentedSource : Source := ⟨.ofString "/a.js", "require/**/.context('./x')"⟩

/-- The scan takes a comment for no gap, so the file passes through with its context call. -/
theorem Source.hides_commented : ∃ p, commentedSource.parse = .ok p ∧
    ContextCall.inProgram p = [⟨⟨0, 26⟩, "./x", true, none⟩] ∧
      ∀ storage, commentedSource.expand storage =
        .ok ⟨none, [.noMention commentedSource.path], []⟩ := by
  have hcalls : commentedSource.parse.toOption.map ContextCall.inProgram =
      some [⟨⟨0, 26⟩, "./x", true, none⟩] := by decide +kernel
  obtain ⟨p, hp, hcalls⟩ := Option.map_eq_some_iff.mp hcalls
  have hmention : commentedSource.mentionsContext = false := by decide +kernel
  refine ⟨p, Traversal.ok_of_toOption hp, hcalls, fun storage => ?_⟩
  rw [expand, hmention]
  rfl

end StaticContext
