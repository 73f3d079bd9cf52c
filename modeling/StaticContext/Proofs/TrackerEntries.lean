import Mathlib.Data.List.Lex
import Mathlib.Data.Set.Card
import StaticContext.Proofs.PathNormalForm
import StaticContext.Tracker

/-! # The entries of a tracker

An entry is found under every spelling of its file. Recording a file and removing one change what is
found under that file and nothing else. A changed place affects the files with a directory that
contains it, in strictly increasing component order, for no two entries go by the same components. -/

namespace StaticContext

/-! ## Component order -/

theorem Component.key_injective : Function.Injective Component.key := by
  intro c d h
  cases c <;> cases d
  case name.name m n =>
    have hbytes : m.bytes = n.bytes :=
      List.map_injective_iff.mpr (fun _ _ => UInt8.toNat_inj.mp) (List.cons.inj h).2
    obtain ⟨_, _⟩ := m
    obtain ⟨_, _⟩ := n
    cases hbytes
    rfl
  all_goals first | rfl | simp [key] at h

namespace Path

theorem sortKey_inj {p q : Path} : p.sortKey = q.sortKey ↔ p.components = q.components :=
  (List.map_injective_iff.mpr Component.key_injective).eq_iff

theorem le_iff {p q : Path} : p.le q = true ↔ p.sortKey ≤ q.sortKey := by
  rw [le, Bool.not_eq_true', decide_eq_false_iff_not, not_lt]

theorem le_trans (p q r : Path) (hpq : p.le q = true) (hqr : q.le r = true) : p.le r = true :=
  le_iff.mpr ((le_iff.mp hpq).trans (le_iff.mp hqr))

theorem le_total (p q : Path) : (p.le q || q.le p) = true := by
  rw [Bool.or_eq_true, le_iff, le_iff]
  exact LinearOrder.le_total p.sortKey q.sortKey

end Path

namespace Tracker

/-! ## Lookups -/

theorem find?_put (file g : Path) (directories : List Path) (es : List Entry) :
    ((put file directories es).find? (·.1.same g)).map (·.2) =
      if file.components = g.components then some directories
      else (es.find? (·.1.same g)).map (·.2) := by
  induction es with
  | nil =>
    by_cases hg : file.components = g.components <;> simp [put, Path.same, hg]
  | cons e rest ih =>
    obtain ⟨f, ds⟩ := e
    by_cases hf : f.components = file.components
    · by_cases hg : file.components = g.components <;> simp [put, Path.same, hf, hg]
    · by_cases hfg : f.components = g.components
      · have hg : ¬ file.components = g.components := fun hg => hf (hfg.trans hg.symm)
        simp [put, Path.same, hfg, hg, Ne.symm hg]
      · simp only [put, Path.same, hf, hfg, decide_false, Bool.false_eq_true, if_false,
          List.find?_cons_of_neg, not_false_iff]
        exact ih

/-- Only what is found under the recorded file changes. -/
theorem directoriesFor_record (t : Tracker) (file : Path) (directories : List Path) (g : Path) :
    (t.record file directories).directoriesFor g =
      if file.components = g.components then some directories else t.directoriesFor g :=
  find?_put file g directories t.entries

theorem directoriesFor_remove (t : Tracker) (file g : Path) :
    (t.remove file).directoriesFor g =
      if file.components = g.components then none else t.directoriesFor g := by
  simp only [directoriesFor, remove, List.find?_filter]
  split
  · next h =>
    rw [List.find?_eq_none.mpr]
    · rfl
    · intro e _
      simp [Path.same, h]
  · next h =>
    congr 2
    funext e
    by_cases he : e.1.components = g.components
    · simp [Path.same, he, Ne.symm h]
    · simp [Path.same, he]

theorem mem_of_directoriesFor {t : Tracker} {g : Path} {ds : List Path}
    (h : t.directoriesFor g = some ds) : ∃ f, (f, ds) ∈ t.entries ∧ f.components = g.components := by
  obtain ⟨⟨f, ds⟩, he, rfl⟩ := Option.map_eq_some_iff.mp h
  have hf : f.same g = true := List.find?_some (p := fun e : Entry => e.1.same g) he
  exact ⟨f, List.mem_of_find?_eq_some he, Path.same_iff.mp hf⟩

theorem tracks_iff {t : Tracker} {g : Path} :
    t.tracks g = true ↔ g.components ∈ t.entries.map Entry.key := by
  simp only [tracks, directoriesFor, Option.isSome_map, List.find?_isSome, List.mem_map, Entry.key,
    Path.same_iff]

/-- The size is the number of files that have an entry, however they are spelled. -/
theorem encard_tracked (t : Tracker) :
    {cs : List Component | ∃ file : Path, file.components = cs ∧ t.tracks file = true}.encard =
      t.size := by
  have hset : {cs : List Component | ∃ file : Path, file.components = cs ∧ t.tracks file = true} =
      ↑(t.entries.map Entry.key).toFinset := by
    ext cs
    simp only [Set.mem_ofPred_eq, tracks_iff, List.coe_toFinset]
    constructor
    · rintro ⟨file, rfl, h⟩
      exact h
    · intro h
      obtain ⟨e, _, rfl⟩ := List.mem_map.mp h
      exact ⟨e.1, rfl, h⟩
  rw [hset, Set.encard_coe_eq_coe_finsetCard, List.toFinset_card_of_nodup t.distinct,
    List.length_map]
  rfl

/-! ## Changes -/

theorem mem_affectedBy {t : Tracker} {changed f : Path} :
    f ∈ t.affectedBy changed ↔
      ∃ ds, (f, ds) ∈ t.entries ∧ ∃ d ∈ ds, d.components <+: changed.components := by
  simp only [affectedBy, List.mem_mergeSort, List.mem_map, List.mem_filter, List.any_eq_true,
    Path.isWithin_iff]
  constructor
  · rintro ⟨⟨f, ds⟩, ⟨he, hd⟩, rfl⟩
    exact ⟨ds, he, hd⟩
  · rintro ⟨ds, he, hd⟩
    exact ⟨(f, ds), ⟨he, hd⟩, rfl⟩

/-- A file that was recorded with a directory is found behind a change in it. -/
theorem affectedBy_of_directoriesFor {t : Tracker} {file changed d : Path} {ds : List Path}
    (h : t.directoriesFor file = some ds) (hd : d ∈ ds)
    (hc : d.components <+: changed.components) :
    ∃ f ∈ t.affectedBy changed, f.same file = true := by
  obtain ⟨f, he, hf⟩ := mem_of_directoriesFor h
  exact ⟨f, mem_affectedBy.mpr ⟨ds, he, d, hd, hc⟩, Path.same_iff.mpr hf⟩

theorem pairwise_affectedBy (t : Tracker) (changed : Path) :
    (t.affectedBy changed).Pairwise fun f g => f.sortKey < g.sortKey := by
  have hle : (t.affectedBy changed).Pairwise fun f g => f.le g = true :=
    List.pairwise_mergeSort Path.le_trans Path.le_total _
  have hne : (t.affectedBy changed).Pairwise fun f g => f.components ≠ g.components := by
    have hperm := List.mergeSort_perm
      ((t.entries.filter (·.2.any changed.isWithin)).map (·.1)) Path.le
    refine (hperm.pairwise_iff fun h => Ne.symm h).mpr ?_
    have hkeys := (t.distinct.sublist (List.filter_sublist.map Entry.key) :
      ((t.entries.filter (·.2.any changed.isWithin)).map Entry.key).Nodup)
    exact List.pairwise_map.mpr (List.pairwise_map.mp hkeys)
  exact (hle.and hne).imp fun ⟨hfg, hn⟩ =>
    lt_of_le_of_ne (Path.le_iff.mp hfg) fun he => hn (Path.sortKey_inj.mp he)

end Tracker
end StaticContext
