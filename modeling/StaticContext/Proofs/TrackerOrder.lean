import Mathlib.Data.List.Perm.Basic
import StaticContext.Plugin
import StaticContext.Proofs.TrackerEntries

/-! # The order of entries

A tracker keeps its entries in the order in which the files were first recorded, which no question it
answers lets through. So trackers that hold the same entries are alike, and since to follow one file
concerns no entry of another, it does not matter which of several files is followed first. -/

namespace StaticContext.Tracker

/-! ## Trackers that hold the same -/

/-- No question tells the trackers apart. -/
structure Alike (t t' : Tracker) : Prop where
  directoriesFor : ∀ file, t.directoriesFor file = t'.directoriesFor file
  affectedBy : ∀ changed, t.affectedBy changed = t'.affectedBy changed
  size : t.size = t'.size

theorem find?_perm {es es' : List Entry} (h : es.Perm es') (hn : (es.map Entry.key).Nodup)
    (file : Path) : es.find? (·.1.same file) = es'.find? (·.1.same file) := by
  induction h with
  | nil => rfl
  | cons e _ ih => rw [List.find?_cons, List.find?_cons, ih (List.nodup_cons.mp hn).2]
  | swap e e' rest =>
    have hne : e'.key ≠ e.key := fun he => (List.nodup_cons.mp hn).1 (by simp [he])
    by_cases he : e.1.same file = true
    · have he' : ¬ e'.1.same file = true := fun he' =>
        hne ((Path.same_iff.mp he').trans (Path.same_iff.mp he).symm)
      simp [he, he']
    · simp [List.find?_cons, he]
  | trans h _ ih ih' => exact (ih hn).trans (ih' ((h.map Entry.key).nodup_iff.mp hn))

theorem alike_of_perm {t t' : Tracker} (h : t.entries.Perm t'.entries) : Alike t t' where
  directoriesFor file := congrArg (Option.map Prod.snd) (find?_perm h t.distinct file)
  affectedBy changed := by
    have hperm : (t.affectedBy changed).Perm (t'.affectedBy changed) :=
      (List.mergeSort_perm _ _).trans
        (((h.filter _).map Prod.fst).trans (List.mergeSort_perm _ _).symm)
    exact hperm.eq_of_pairwise (fun f g _ _ hfg hgf => absurd hgf (not_lt_of_gt hfg))
      (pairwise_affectedBy t changed) (pairwise_affectedBy t' changed)
  size := h.length_eq

/-! ## Following files -/

theorem put_same {e : Entry} {file : Path} (h : e.1.same file = true) (directories : List Path)
    (rest : List Entry) : put file directories (e :: rest) = (e.1, directories) :: rest :=
  if_pos h

theorem put_other {e : Entry} {file : Path} (h : ¬ e.1.same file = true) (directories : List Path)
    (rest : List Entry) : put file directories (e :: rest) = e :: put file directories rest :=
  if_neg h

theorem perm_put {es es' : List Entry} (h : es.Perm es') (hn : (es.map Entry.key).Nodup)
    (file : Path) (directories : List Path) :
    (put file directories es).Perm (put file directories es') := by
  induction h with
  | nil => rfl
  | @cons e rest rest' h ih =>
    by_cases he : e.1.same file = true
    · rw [put_same he, put_same he]
      exact h.cons _
    · rw [put_other he, put_other he]
      exact (ih (List.nodup_cons.mp hn).2).cons _
  | swap e e' rest =>
    have hne : e'.key ≠ e.key := fun he => (List.nodup_cons.mp hn).1 (by simp [he])
    by_cases he : e.1.same file = true
    · have he' : ¬ e'.1.same file = true := fun he' =>
        hne ((Path.same_iff.mp he').trans (Path.same_iff.mp he).symm)
      rw [put_other he', put_same he, put_same he]
      exact .swap _ _ _
    · by_cases he' : e'.1.same file = true
      · rw [put_same he', put_other he, put_same he']
        exact .swap _ _ _
      · rw [put_other he', put_other he, put_other he, put_other he']
        exact .swap _ _ _
  | trans h _ ih ih' => exact (ih hn).trans (ih' ((h.map Entry.key).nodup_iff.mp hn))

theorem not_same {e : Entry} {f g : Path} (h : f.components ≠ g.components)
    (hf : e.1.same f = true) : ¬ e.1.same g = true :=
  fun hg => h ((Path.same_iff.mp hf).symm.trans (Path.same_iff.mp hg))

theorem put_comm {f g : Path} (h : f.components ≠ g.components) (ds ds' : List Path)
    (es : List Entry) : (put f ds (put g ds' es)).Perm (put g ds' (put f ds es)) := by
  induction es with
  | nil =>
    have hfg : ¬ (f, ds).1.same g = true := fun he => h (Path.same_iff.mp he)
    have hgf : ¬ (g, ds').1.same f = true := fun he => h (Path.same_iff.mp he).symm
    have hg : put g ds' [] = [(g, ds')] := rfl
    have hf : put f ds [] = [(f, ds)] := rfl
    rw [hg, hf, put_other hgf, put_other hfg, hf, hg]
    exact .swap _ _ _
  | cons e rest ih =>
    by_cases hf : e.1.same f = true
    · have hg := not_same h hf
      have hg' : ¬ Path.same (e.1, ds).1 g = true := hg
      rw [put_other hg, put_same hf, put_same hf, put_other hg']
    · by_cases hg : e.1.same g = true
      · have hf' : ¬ Path.same (e.1, ds').1 f = true := hf
        rw [put_same hg, put_other hf', put_other hf, put_same hg]
      · rw [put_other hg, put_other hf, put_other hf, put_other hg]
        exact ih.cons e

theorem filter_put {f g : Path} (h : f.components ≠ g.components) (ds : List Path)
    (es : List Entry) :
    (put f ds es).filter (!·.1.same g) = put f ds (es.filter (!·.1.same g)) := by
  induction es with
  | nil =>
    have hfg : f.same g = false := Bool.eq_false_iff.mpr fun he => h (Path.same_iff.mp he)
    simp [put, hfg]
  | cons e rest ih =>
    by_cases hf : e.1.same f = true
    · have hg := not_same h hf
      simp [put, hf, hg]
    · by_cases hg : e.1.same g = true
      · simp [put, hf, hg, ih]
      · simp [put, hf, hg, ih]

theorem perm_follow {t t' : Tracker} (h : t.entries.Perm t'.entries) (file : Path)
    (output : Option Output) :
    (t.follow file output).entries.Perm (t'.follow file output).entries := by
  cases output with
  | none => exact h.filter _
  | some o => exact perm_put h t.distinct file o.directories

theorem follow_comm {f g : Path} (h : f.components ≠ g.components) (t : Tracker)
    (o o' : Option Output) :
    ((t.follow f o).follow g o').entries.Perm ((t.follow g o').follow f o).entries := by
  cases o with
  | none =>
    cases o' with
    | none =>
      have hcomm : ((t.entries.filter (!·.1.same f)).filter (!·.1.same g)) =
          (t.entries.filter (!·.1.same g)).filter (!·.1.same f) := by
        simp only [List.filter_filter, Bool.and_comm]
      exact List.Perm.of_eq hcomm
    | some o' => exact .of_eq (filter_put (Ne.symm h) o'.directories t.entries).symm
  | some o =>
    cases o' with
    | none => exact .of_eq (filter_put h o.directories t.entries)
    | some o' => exact put_comm (Ne.symm h) o'.directories o.directories t.entries

/-! ## Several files -/

/-- A file to follow with the output of its expansion. -/
abbrev Write := Path × Option Output

/-- Follows a file, if there is one to follow. -/
def settle (t : Tracker) : Option Write → Tracker
  | none => t
  | some (file, output) => t.follow file output

/-- Writes that are not of one file. -/
def Apart (w w' : Option Write) : Prop :=
  ∀ x ∈ w, ∀ x' ∈ w', x.1.components ≠ x'.1.components

theorem Apart.symm {w w' : Option Write} (h : Apart w w') : Apart w' w :=
  fun x' hx' x hx => Ne.symm (h x hx x' hx')

theorem perm_settle {t t' : Tracker} (h : t.entries.Perm t'.entries) (w : Option Write) :
    (t.settle w).entries.Perm (t'.settle w).entries := by
  cases w with
  | none => exact h
  | some w => exact perm_follow h w.1 w.2

theorem settle_comm {w w' : Option Write} (h : Apart w w') (t : Tracker) :
    ((t.settle w).settle w').entries.Perm ((t.settle w').settle w).entries := by
  cases w with
  | none => rfl
  | some w =>
    cases w' with
    | none => rfl
    | some w' => exact follow_comm (h w rfl w' rfl) t w.2 w'.2

theorem perm_settleAll {t t' : Tracker} (h : t.entries.Perm t'.entries) (ws : List (Option Write)) :
    (ws.foldl settle t).entries.Perm (ws.foldl settle t').entries := by
  induction ws generalizing t t' with
  | nil => exact h
  | cons w rest ih => exact ih (perm_settle h w)

/-- Writes of different files may be made in any order. -/
theorem settleAll_perm {ws ws' : List (Option Write)} (h : ws.Perm ws') (hw : ws.Pairwise Apart)
    (t : Tracker) : (ws.foldl settle t).entries.Perm (ws'.foldl settle t).entries := by
  induction h generalizing t with
  | nil => rfl
  | cons w _ ih => exact ih (List.pairwise_cons.mp hw).2 (t.settle w)
  | swap w w' rest =>
    exact perm_settleAll (settle_comm ((List.pairwise_cons.mp hw).1 w List.mem_cons_self) t) rest
  | trans h _ ih ih' =>
    exact (ih hw t).trans (ih' ((h.pairwise_iff Apart.symm).mp hw) t)

/-- So a write in their midst may be the first. -/
theorem settle_first {before after : List (Option Write)} {w : Option Write}
    (hw : (before ++ w :: after).Pairwise Apart) (t : Tracker) :
    ((before ++ w :: after).foldl settle t).entries.Perm
      ((before ++ none :: after).foldl settle (t.settle w)).entries := by
  have hnone : (before ++ none :: after).foldl settle (t.settle w) =
      (w :: (before ++ after)).foldl settle t := by
    rw [List.foldl_append, List.foldl_cons, List.foldl_cons, List.foldl_append]
    rfl
  rw [hnone]
  exact settleAll_perm List.perm_middle hw t

end StaticContext.Tracker
