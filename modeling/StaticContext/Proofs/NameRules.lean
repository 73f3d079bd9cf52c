import StaticContext.Proofs.BindingNames
import StaticContext.Proofs.TextEncoding

/-! # The rule behind names

The scan for camel humps looks one character ahead and remembers whether it has written anything.
What it writes can be told without either, pass by pass over the whole segment: marks before word
characters make humps, other characters than word characters go, and the first one left is a capital. -/

namespace StaticContext.Binding

/-! ## Humps -/

/-- A mark and a character that it makes a hump. -/
def IsHump (mark c : Char) : Prop := isHumpMark mark = true ∧ isWordChar c = true

instance (mark c : Char) : Decidable (IsHump mark c) := inferInstanceAs (Decidable (_ ∧ _))

/-- No mark stands before a word character. -/
def Flat (segment : List Char) : Prop := segment.IsChain fun a b => ¬ IsHump a b

/-- From left to right, and each from behind the one before, a mark and the word character after it
become the capital. -/
inductive Humped : List Char → List Char → Prop where
  | flat {segment : List Char} (flat : Flat segment) : Humped segment segment
  | hump {front rest result : List Char} {mark c : Char} (first : Flat (front ++ [mark]))
      (hump : IsHump mark c) (next : Humped rest result) :
      Humped (front ++ mark :: c :: rest) (front ++ c.toUpper :: result)

def humps : List Char → List Char
  | [] => []
  | [c] => [c]
  | a :: b :: rest => if IsHump a b then b.toUpper :: humps rest else a :: humps (b :: rest)

theorem humps_of_flat {segment : List Char} (h : Flat segment) : humps segment = segment := by
  induction h with
  | nil => rfl
  | singleton c => rfl
  | cons_cons hab _ ih => rw [humps, if_neg hab, ih]

/-- The first hump is made where the flat front ends. -/
theorem humps_append {front rest : List Char} {mark c : Char} (h : Flat (front ++ [mark]))
    (hhump : IsHump mark c) : humps (front ++ mark :: c :: rest) = front ++ c.toUpper :: humps rest := by
  induction front with
  | nil => rw [List.nil_append, humps, if_pos hhump, List.nil_append]
  | cons a front ih =>
    have hsplit : front ++ mark :: c :: rest = (front ++ [mark]) ++ c :: rest := by simp
    obtain ⟨b, more, hb⟩ := List.exists_cons_of_ne_nil (List.concat_ne_nil mark front)
    rw [List.cons_append, hb] at h
    obtain ⟨hflat, htail⟩ := List.isChain_cons_cons.mp h
    have hnext : humps (a :: (front ++ mark :: c :: rest)) = a :: humps (front ++ mark :: c :: rest) := by
      rw [hsplit, hb, List.cons_append, humps, if_neg hflat]
    rw [List.cons_append, hnext, ih (hb ▸ htail), List.cons_append]

theorem Humped.cons {a b : Char} {rest result : List Char} (hflat : ¬ IsHump a b)
    (h : Humped (b :: rest) result) : Humped (a :: b :: rest) (a :: result) := by
  generalize hsegment : b :: rest = segment at h
  cases h with
  | flat flat =>
    subst hsegment
    exact .flat (.cons_cons hflat flat)
  | @hump front rest' result' mark c first hump next =>
    rw [← List.cons_append, ← List.cons_append]
    refine .hump ?_ hump next
    cases front with
    | nil =>
      obtain ⟨rfl, -⟩ := List.cons.inj hsegment
      exact .cons_cons hflat (.singleton b)
    | cons d front =>
      obtain ⟨rfl, -⟩ := List.cons.inj hsegment
      exact .cons_cons hflat first

theorem humped_humps (segment : List Char) : Humped segment (humps segment) := by
  induction segment using humps.induct with
  | case1 => exact .flat .nil
  | case2 c => exact .flat (.singleton c)
  | case3 a b rest hhump ih =>
    rw [humps, if_pos hhump]
    show Humped ([] ++ a :: b :: rest) ([] ++ b.toUpper :: humps rest)
    exact .hump (.singleton a) hhump ih
  | case4 a b rest hflat ih =>
    rw [humps, if_neg hflat]
    exact ih.cons hflat

theorem humped_iff {segment result : List Char} : Humped segment result ↔ result = humps segment := by
  constructor
  · intro h
    induction h with
    | flat flat => exact (humps_of_flat flat).symm
    | hump first hump _ ih => rw [humps_append first hump, ih]
  · rintro rfl
    exact humped_humps segment

/-! ## Segments -/

/-- The three passes, one after the other. -/
def camelRule (segment : List Char) : List Char :=
  ((humps segment).filter isWordChar).modifyHead Char.toUpper

theorem camelHumpsFrom_eq (first : Bool) (segment : List Char) :
    camelHumpsFrom first segment = if first then camelRule segment
      else (humps segment).filter isWordChar := by
  induction first, segment using camelHumpsFrom.induct with
  | case1 first => cases first <;> rfl
  | case2 first c hword => cases first <;> simp [camelHumpsFrom, camelRule, humps, hword]
  | case3 first c hword => cases first <;> simp [camelHumpsFrom, camelRule, humps, hword]
  | case4 first c d rest hhump ih =>
    have hpair : IsHump c d := Bool.and_eq_true_iff.mp hhump
    have hleft : (humps (c :: d :: rest)).filter isWordChar =
        d.toUpper :: (humps rest).filter isWordChar := by
      rw [humps, if_pos hpair, List.filter_cons_of_pos (isWordChar_toUpper hpair.2)]
    rw [camelHumpsFrom, if_pos hhump, ih]
    cases first <;> simp [camelRule, hleft]
  | case5 first c d rest hhump hword ih =>
    have hpair : ¬ IsHump c d := fun h => hhump (Bool.and_eq_true_iff.mpr h)
    have hleft : (humps (c :: d :: rest)).filter isWordChar =
        c :: (humps (d :: rest)).filter isWordChar := by
      rw [humps, if_neg hpair, List.filter_cons_of_pos hword]
    rw [camelHumpsFrom, if_neg hhump, if_pos hword, ih]
    cases first <;> simp [camelRule, hleft]
  | case6 first c d rest hhump hword ih =>
    have hpair : ¬ IsHump c d := fun h => hhump (Bool.and_eq_true_iff.mpr h)
    rw [camelHumpsFrom, if_neg hhump, if_neg hword, ih, camelRule, camelRule, humps, if_neg hpair,
      List.filter_cons_of_neg hword]

theorem camelHumps_eq (segment : List Char) : camelHumps segment = camelRule segment :=
  camelHumpsFrom_eq true segment

/-! ## Names of a key -/

/-- What stands between the slashes of a key, but for nothing, `.` and `..`. -/
def keyNames (key : String) : List (List Char) :=
  (key.toList.splitOn '/').filter fun s => s ≠ [] ∧ s ≠ ['.'] ∧ s ≠ ['.', '.']

/-- The last one only up to its first dot. -/
def cutLast (names : List (List Char)) : List (List Char) :=
  names.dropLast ++ (names.getLast?.map stem).toList

/-- `_` in front of a name that is empty or starts with a digit. -/
def opened (name : List Char) : List Char :=
  match name with
  | [] => ['_']
  | c :: _ => if c.isDigit then '_' :: name else name

theorem stems_eq (names : List (List Char)) : stems names = cutLast names := by
  induction names with
  | nil => rfl
  | cons s rest ih =>
    cases rest with
    | nil => rfl
    | cons t rest =>
      have hlast : (s :: t :: rest).getLast? = (t :: rest).getLast? := List.getLast?_cons_cons
      rw [stems, ih, cutLast, cutLast, hlast]
      · rfl
      · nofun

/-- The text of a component that is a name. -/
def nameText? : Component → Option (List Char)
  | .name n => some (Utf8.lossyChars n.bytes)
  | _ => none

/-- What a piece between slashes stands for. -/
theorem nameText?_encode {s : List Char} (hslash : Component.slash ∉ s.flatMap String.utf8EncodeChar) :
    (Component.ofSegment (s.flatMap String.utf8EncodeChar)).bind nameText? =
      if s ≠ [] ∧ s ≠ ['.'] ∧ s ≠ ['.', '.'] then some s else none := by
  by_cases hname : s ≠ [] ∧ s ≠ ['.'] ∧ s ≠ ['.', '.']
  · have hne : ∀ t : List Char, s ≠ t →
        s.flatMap String.utf8EncodeChar ≠ t.flatMap String.utf8EncodeChar := by
      intro t ht heq
      have hchars := congrArg Utf8.lossyChars heq
      rw [Utf8.lossyChars_encode, Utf8.lossyChars_encode] at hchars
      exact ht hchars
    have hlegal : FileName.Legal (s.flatMap String.utf8EncodeChar) :=
      ⟨hne [] hname.1, hne ['.'] hname.2.1, hne ['.', '.'] hname.2.2, hslash⟩
    have hsegment := Path.ofSegment_name ⟨_, hlegal⟩
    rw [if_pos hname, hsegment, Option.bind_some, nameText?, Utf8.lossyChars_encode]
  · rw [if_neg hname]
    by_cases hempty : s = []
    · subst hempty
      decide
    by_cases hdot : s = ['.']
    · subst hdot
      decide
    by_cases hup : s = ['.', '.']
    · subst hup
      decide
    exact absurd ⟨hempty, hdot, hup⟩ hname

theorem segments_eq (key : String) : segments key = keyNames key := by
  have hopening : (Path.ofString key).opening.filterMap nameText? = [] := by
    unfold Path.opening
    split
    · rfl
    · split <;> rfl
  have hnames : ∀ s ∈ key.toList.splitOn '/',
      (Component.ofSegment (s.flatMap String.utf8EncodeChar)).bind nameText? =
        Option.guard (fun s => s ≠ [] ∧ s ≠ ['.'] ∧ s ≠ ['.', '.']) s := by
    intro s hs
    have hsegment : s.flatMap String.utf8EncodeChar ∈
        Path.segments (key.toList.flatMap String.utf8EncodeChar) := by
      rw [Path.segments_encode]
      exact List.mem_map_of_mem hs
    rw [nameText?_encode (Path.slash_notMem_of_mem_segments hsegment), Option.guard]
    simp only [decide_eq_true_eq]
  show (Path.ofString key).components.filterMap nameText? = _
  rw [Path.components, List.filterMap_append, hopening, List.nil_append, Path.inner,
    List.filterMap_filterMap, Path.ofString, toUTF8_toList, Path.segments_encode, List.filterMap_map]
  exact (List.filterMap_congr hnames).trans (congrFun List.filterMap_eq_filter _)

/-- No name in front of which nothing is put is a word that is taken. -/
theorem legalize_joined (segments : List (List Char)) :
    legalize (['_'].intercalate (segments.map camelHumps)) =
      opened (['_'].intercalate (segments.map camelHumps)) := by
  have hlower := isLower_head_joined segments
  generalize ['_'].intercalate (segments.map camelHumps) = name at hlower
  cases name with
  | nil => rfl
  | cons c rest =>
    have hfree : isTaken (c :: rest) = false := by
      rw [isTaken, List.any_eq_false]
      intro word hword
      rw [decide_eq_true_eq]
      exact toList_ne_of_mem_taken hword (hlower c rfl)
    rw [legalize, hfree, Bool.or_false, opened]

/-- The scan for camel humps writes what its rule says. Humps are made from left to right, each from
behind the one before, and there is one way to do so; what is left are the word characters, the first
of them a capital. So the binding of a key is made of its names, the last one up to its first dot, by
this rule; they are joined by `_`, which also opens a name that would be empty or start with a digit. -/
theorem ofKey_by_rule :
    (∀ segment result, Humped segment result ↔ result = humps segment) ∧
    (∀ segment, camelHumps segment = ((humps segment).filter isWordChar).modifyHead Char.toUpper) ∧
    ∀ key, ofKey key =
      String.ofList (opened (['_'].intercalate ((cutLast (keyNames key)).map camelRule))) := by
  constructor
  · exact fun _ _ => humped_iff
  constructor
  · exact camelHumps_eq
  · intro key
    have hrule : (cutLast (keyNames key)).map camelRule = (cutLast (keyNames key)).map camelHumps :=
      List.map_congr_left fun s _ => (camelHumps_eq s).symm
    rw [hrule, ofKey, legalize_joined, stems_eq, segments_eq]

/-- An `_` behind a mark is written as a hump, so it makes none of what follows it. -/
example : camelHumps "a-_b".toList = "A_b".toList := by decide

end StaticContext.Binding
