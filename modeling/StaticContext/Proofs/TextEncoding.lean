import StaticContext.Proofs.PathComponents
import StaticContext.Text.Utf8

/-! # Texts and their bytes

The bytes of a text read back as that text. So a name that is some text's bytes shows as that text, and
a path that is written as text consists of such names. -/

namespace StaticContext

/-! ## Bytes of texts -/

theorem byteArray_toList_loop (bs : ByteArray) (i : Nat) (front : List UInt8) :
    ByteArray.toList.loop bs i front = front.reverse ++ bs.data.toList.drop i := by
  fun_induction ByteArray.toList.loop bs i front with
  | case1 i front hi ih =>
    have hlt : i < bs.data.toList.length := by simpa using hi
    rw [ih, List.drop_eq_getElem_cons hlt]
    simp [ByteArray.get!, hi]
  | case2 i front hi =>
    rw [List.drop_eq_nil_of_le (by simpa using Nat.le_of_not_lt hi)]
    simp

theorem toUTF8_toList (text : String) :
    text.toUTF8.toList = text.toList.flatMap String.utf8EncodeChar := by
  have hbytes : text.toUTF8 = text.toList.utf8Encode := by
    conv => lhs; rw [← String.ofList_toList (s := text)]
    exact String.toByteArray_ofList
  rw [hbytes, ByteArray.toList, byteArray_toList_loop]
  simp [List.utf8Encode]

namespace Utf8

theorem start_one {b : Nat} (h : b < 0x80) : start b = ([some (Char.ofNat b)], none) := by
  rw [start, if_pos h]

theorem start_two {b : Nat} (hlow : 0xC2 ≤ b) (hhigh : b < 0xE0) :
    start b = ([], some ⟨b - 0xC0, 1, 0x80, 0xBF⟩) := by
  rw [start, if_neg (by omega), if_neg (by omega), if_pos hhigh]

theorem start_three {b : Nat} (hlow : 0xE0 ≤ b) (hhigh : b < 0xF0) :
    start b = ([], some ⟨b - 0xE0, 2, if b = 0xE0 then 0xA0 else 0x80,
      if b = 0xED then 0x9F else 0xBF⟩) := by
  rw [start, if_neg (by omega), if_neg (by omega), if_neg (by omega)]
  by_cases hfirst : b = 0xE0
  · subst hfirst; rfl
  · by_cases hsurrogate : b = 0xED
    · subst hsurrogate; rfl
    · simp only [hfirst, hsurrogate, if_false, hhigh, if_true]

theorem start_four {b : Nat} (hlow : 0xF0 ≤ b) (hhigh : b ≤ 0xF4) :
    start b = ([], some ⟨b - 0xF0, 3, if b = 0xF0 then 0x90 else 0x80,
      if b = 0xF4 then 0x8F else 0xBF⟩) := by
  rw [start, if_neg (by omega), if_neg (by omega), if_neg (by omega), if_neg (by omega),
    if_neg (by omega), if_neg (by omega)]
  by_cases hfirst : b = 0xF0
  · subst hfirst; rfl
  · by_cases hlast : b = 0xF4
    · subst hlast; rfl
    · have hlt : b < 0xF4 := by omega
      simp only [hfirst, hlast, if_false, hlt, if_true]

theorem scan_first {q : Partial} {b : Nat} {rest : List UInt8} (hstart : start b = ([], some q))
    (hbyte : b < 256) : scan none (UInt8.ofNat b :: rest) = scan (some q) rest := by
  rw [scan, UInt8.toNat_ofNat_of_lt' hbyte, feed, hstart]
  rfl

theorem scan_last {q : Partial} {b : Nat} {rest : List UInt8} (howed : q.owed ≤ 1)
    (hlow : q.low ≤ b) (hhigh : b ≤ q.high) (hbyte : b < 256) :
    scan (some q) (UInt8.ofNat b :: rest) =
      some (Char.ofNat (q.bits * 64 + (b - 0x80))) :: scan none rest := by
  rw [scan, UInt8.toNat_ofNat_of_lt' hbyte, feed, if_pos ⟨hlow, hhigh⟩]
  simp only [howed, if_true]
  rfl

theorem scan_next {q : Partial} {b : Nat} {rest : List UInt8} (howed : 1 < q.owed)
    (hlow : q.low ≤ b) (hhigh : b ≤ q.high) (hbyte : b < 256) :
    scan (some q) (UInt8.ofNat b :: rest) =
      scan (some ⟨q.bits * 64 + (b - 0x80), q.owed - 1, 0x80, 0xBF⟩) rest := by
  rw [scan, UInt8.toNat_ofNat_of_lt' hbyte, feed, if_pos ⟨hlow, hhigh⟩]
  simp only [Nat.not_le.mpr howed, if_false]
  rfl

/-- The bytes of a character are read as that character. -/
theorem scan_encodeChar (c : Char) (rest : List UInt8) :
    scan none (String.utf8EncodeChar c ++ rest) = some c :: scan none rest := by
  have hc : Char.ofNat c.val.toNat = c := Char.ofNat_toNat c
  have hvalid : c.val.toNat < 0xD800 ∨ 0xDFFF < c.val.toNat ∧ c.val.toNat < 0x110000 := c.valid
  unfold String.utf8EncodeChar
  generalize c.val.toNat = n at *
  simp only
  split
  · have hbyte : n < 256 := by omega
    rw [List.singleton_append, scan, UInt8.toNat_ofNat_of_lt' hbyte, feed, start_one (by omega), hc]
    rfl
  · split
    · have hbits : (n / 64 % 32 + 192 - 0xC0) * 64 + (n % 64 + 128 - 0x80) = n := by omega
      rw [List.cons_append, List.singleton_append,
        scan_first (start_two (by omega) (by omega)) (by omega)]
      refine Eq.trans (scan_last (Nat.le_refl 1) (by simp) (by simp; omega) (by omega)) ?_
      rw [hbits, hc]
    · split
      · have hlow : (if n / 4096 % 16 + 224 = 0xE0 then 0xA0 else 0x80) ≤ n / 64 % 64 + 128 := by
          split <;> omega
        -- No character has the code of a surrogate.
        have hhigh : n / 64 % 64 + 128 ≤ if n / 4096 % 16 + 224 = 0xED then 0x9F else 0xBF := by
          split <;> omega
        have hbits : ((n / 4096 % 16 + 224 - 0xE0) * 64 + (n / 64 % 64 + 128 - 0x80)) * 64 +
            (n % 64 + 128 - 0x80) = n := by omega
        rw [List.cons_append, List.cons_append, List.singleton_append,
          scan_first (start_three (by omega) (by omega)) (by omega)]
        refine Eq.trans (scan_next (Nat.lt_succ_self 1) hlow hhigh (by omega)) ?_
        refine Eq.trans (scan_last (Nat.le_refl 1) (by simp) (by simp; omega) (by omega)) ?_
        rw [hbits, hc]
      · have hlow : (if n / 262144 % 8 + 240 = 0xF0 then 0x90 else 0x80) ≤ n / 4096 % 64 + 128 := by
          split <;> omega
        have hhigh : n / 4096 % 64 + 128 ≤ if n / 262144 % 8 + 240 = 0xF4 then 0x8F else 0xBF := by
          split <;> omega
        have hbits : (((n / 262144 % 8 + 240 - 0xF0) * 64 + (n / 4096 % 64 + 128 - 0x80)) * 64 +
            (n / 64 % 64 + 128 - 0x80)) * 64 + (n % 64 + 128 - 0x80) = n := by omega
        rw [List.cons_append, List.cons_append, List.cons_append, List.singleton_append,
          scan_first (start_four (by omega) (by omega)) (by omega)]
        refine Eq.trans (scan_next (by simp) hlow hhigh (by omega)) ?_
        refine Eq.trans (scan_next (Nat.lt_succ_self 1) (by simp) (by simp; omega) (by omega)) ?_
        refine Eq.trans (scan_last (Nat.le_refl 1) (by simp) (by simp; omega) (by omega)) ?_
        rw [hbits, hc]

theorem pieces_encode (cs : List Char) :
    pieces (cs.flatMap String.utf8EncodeChar) = cs.map some := by
  induction cs with
  | nil => rfl
  | cons c cs ih => rw [List.flatMap_cons, pieces, scan_encodeChar, ← pieces, ih, List.map_cons]

theorem lossyChars_encode (cs : List Char) : lossyChars (cs.flatMap String.utf8EncodeChar) = cs := by
  have hgetD : ((fun x : Option Char => x.getD '\uFFFD') ∘ some) = id := rfl
  rw [lossyChars, pieces_encode, List.map_map, hgetD, List.map_id]

theorem lossy_toUTF8 (text : String) : lossy text.toUTF8.toList = text := by
  rw [lossy, toUTF8_toList, lossyChars_encode, String.ofList_toList]

end Utf8

/-! ## Legible names -/

/-- The name is some text's bytes. -/
def FileName.Legible (n : FileName) : Prop := ∃ text : String, n.bytes = text.toUTF8.toList

theorem FileName.Legible.lossy_toUTF8 {n : FileName} (h : n.Legible) :
    (Utf8.lossy n.bytes).toUTF8.toList = n.bytes := by
  obtain ⟨text, htext⟩ := h
  rw [htext, Utf8.lossy_toUTF8]

namespace Path
open Component

theorem segments_append {front back : List UInt8} (hfront : slash ∉ front) {s : List UInt8}
    {more : List (List UInt8)} (hback : segments back = s :: more) :
    segments (front ++ back) = (front ++ s) :: more := by
  induction front with
  | nil => exact hback
  | cons b front ih =>
    simp only [List.mem_cons, not_or] at hfront
    simp [segments, Ne.symm hfront.1, ih hfront.2]

theorem slash_ne_ofNat {b : Nat} (hbyte : b < 256) (hb : b ≠ 47) : slash ≠ UInt8.ofNat b := by
  intro h
  have hnat := congrArg UInt8.toNat h
  rw [UInt8.toNat_ofNat_of_lt' hbyte] at hnat
  exact hb hnat.symm

theorem encodeChar_notMem_slash {c : Char} (h : c ≠ '/') : slash ∉ String.utf8EncodeChar c := by
  have hc : c.val.toNat ≠ 47 := fun hn => h (Char.ext (UInt32.toNat_inj.mp hn))
  unfold String.utf8EncodeChar
  generalize c.val.toNat = n at *
  simp only
  have hcontinuation (m : Nat) : slash ≠ UInt8.ofNat (m % 64 + 128) :=
    slash_ne_ofNat (by omega) (by omega)
  split
  · exact List.not_mem_cons_of_ne_of_not_mem (slash_ne_ofNat (by omega) hc) List.not_mem_nil
  · split
    · simp only [List.mem_cons, List.not_mem_nil, or_false, not_or]
      exact ⟨slash_ne_ofNat (by omega) (by omega), hcontinuation _⟩
    · split
      · simp only [List.mem_cons, List.not_mem_nil, or_false, not_or]
        exact ⟨slash_ne_ofNat (by omega) (by omega), hcontinuation _, hcontinuation _⟩
      · simp only [List.mem_cons, List.not_mem_nil, or_false, not_or]
        exact ⟨slash_ne_ofNat (by omega) (by omega), hcontinuation _, hcontinuation _,
          hcontinuation _⟩

/-- The bytes of a text fall into segments as the text does. -/
theorem segments_encode (cs : List Char) : segments (cs.flatMap String.utf8EncodeChar) =
    (cs.splitOn '/').map (·.flatMap String.utf8EncodeChar) := by
  induction cs with
  | nil => rfl
  | cons c cs ih =>
    rw [List.flatMap_cons, List.splitOn_cons_eq_if_modifyHead]
    by_cases hc : c = '/'
    · subst hc
      have hslash : String.utf8EncodeChar '/' = [slash] := by decide
      rw [hslash, if_pos (by decide), List.map_cons, ← ih]
      simp [segments]
    · obtain ⟨s, more, hs⟩ := List.exists_cons_of_ne_nil (List.splitOn_ne_nil '/' cs)
      rw [hs, List.map_cons] at ih
      rw [segments_append (encodeChar_notMem_slash hc) ih, if_neg (by simpa using hc), hs]
      rfl

/-- The pieces of a text between slashes are texts. -/
theorem exists_of_mem_segments {cs : List Char} {segment : List UInt8}
    (h : segment ∈ segments (cs.flatMap String.utf8EncodeChar)) :
    ∃ ds : List Char, segment = ds.flatMap String.utf8EncodeChar := by
  rw [segments_encode] at h
  obtain ⟨ds, -, hds⟩ := List.mem_map.mp h
  exact ⟨ds, hds.symm⟩

theorem bytes_of_ofSegment {segment : List UInt8} {n : FileName}
    (h : ofSegment segment = some (.name n)) : n.bytes = segment := by
  unfold ofSegment at h
  split at h
  · cases h
  · split at h
    · cases h
    · obtain ⟨m, hm, heq⟩ := Option.map_eq_some_iff.mp h
      cases heq
      unfold FileName.ofBytes? at hm
      split at hm
      · cases hm; rfl
      · cases hm

/-- The names of a path that is written as text are legible. -/
theorem legible_of_mem_components {text : String} {n : FileName}
    (h : .name n ∈ (ofString text).components) : n.Legible := by
  have hinner : .name n ∈ inner (ofString text).bytes := by
    rcases List.mem_append.mp h with h | h
    · simp only [opening] at h
      split at h
      · simp at h
      · split at h <;> simp at h
    · exact h
  obtain ⟨segment, hsegment, hname⟩ := List.mem_filterMap.mp hinner
  rw [ofString, toUTF8_toList] at hsegment
  obtain ⟨ds, rfl⟩ := exists_of_mem_segments hsegment
  refine ⟨String.ofList ds, ?_⟩
  rw [toUTF8_toList, String.toList_ofList, bytes_of_ofSegment hname]

end Path
end StaticContext
