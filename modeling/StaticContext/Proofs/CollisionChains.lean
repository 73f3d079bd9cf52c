import Mathlib.Data.Finset.Card
import Mathlib.Data.List.Induction
import StaticContext.Proofs.ContextDirectories

/-! # Collisions chain the modules of a binding

A module collides with the latest one before it that has its binding. So the collisions of a binding
link all modules that share it, each with the next, and only the first module of a binding is in no
collision of its own: collisions and bindings together are as many as the modules. -/

namespace StaticContext.ResolvedContext

/-- The collision of a module with the latest of those before it that has its binding. -/
def collision? (directory : Path) (before : List ContextModule) (m : ContextModule) :
    Option Collision :=
  ((before.filter (·.identifier = m.identifier)).getLast?).map fun earlier =>
    ⟨directory, earlier.key, m.key, m.identifier⟩

/-- The keys of the modules with a binding. -/
def keysOf (c : ResolvedContext) (identifier : String) : List String :=
  (c.modules.filter (·.identifier = identifier)).map ContextModule.key

/-! ## One module more -/

theorem collisionsAfter_concat (directory : Path) (before modules : List ContextModule)
    (m : ContextModule) :
    collisionsAfter directory before (modules ++ [m]) = collisionsAfter directory before modules ++
      (collision? directory (before.reverse ++ modules) m).toList := by
  induction modules generalizing before with
  | nil =>
    have hlatest : before.find? (·.identifier = m.identifier) =
        (before.reverse.filter (·.identifier = m.identifier)).getLast? := by
      rw [List.getLast?_filter, List.reverse_reverse]
    simp only [List.nil_append, List.append_nil, collisionsAfter, hlatest, collision?]
    cases (before.reverse.filter (·.identifier = m.identifier)).getLast? <;> rfl
  | cons n rest ih =>
    have hsplit : (n :: before).reverse ++ rest = before.reverse ++ n :: rest := by simp
    rw [List.cons_append, collisionsAfter, ih, hsplit, collisionsAfter, List.append_assoc]

/-- A module behind the others adds its own collision. -/
theorem collisions_concat (directory : Path) (modules : List ContextModule) (m : ContextModule) :
    collisions ⟨directory, modules ++ [m]⟩ =
      collisions ⟨directory, modules⟩ ++ (collision? directory modules m).toList :=
  collisionsAfter_concat directory [] modules m

theorem collision?_eq_none_iff {directory : Path} {before : List ContextModule} {m : ContextModule} :
    collision? directory before m = none ↔ m.identifier ∉ before.map ContextModule.identifier := by
  rw [collision?, Option.map_eq_none_iff, List.getLast?_eq_none_iff, List.filter_eq_nil_iff]
  simp

/-! ## All modules -/

/-- Module by module. -/
theorem collisions_eq (directory : Path) (modules : List ContextModule) :
    collisions ⟨directory, modules⟩ = (List.range modules.length).filterMap fun i =>
      modules[i]?.bind (collision? directory (modules.take i)) := by
  induction modules using List.reverseRecOn with
  | nil => rfl
  | append_singleton modules m ih =>
    have hbefore : ∀ i ∈ List.range modules.length,
        (modules ++ [m])[i]?.bind (collision? directory ((modules ++ [m]).take i)) =
          modules[i]?.bind (collision? directory (modules.take i)) := by
      intro i hi
      have hlt := List.mem_range.mp hi
      rw [List.getElem?_append_left hlt, List.take_append_of_le_length (Nat.le_of_lt hlt)]
    rw [collisions_concat, ih, List.length_append, List.length_singleton, List.range_succ,
      List.filterMap_append, List.filterMap_congr hbefore]
    cases hlast : collision? directory modules m <;> simp [hlast]

/-- There are as many collisions as modules that bind nothing new. -/
theorem length_collisions (directory : Path) (modules : List ContextModule) :
    (collisions ⟨directory, modules⟩).length + (modules.map ContextModule.identifier).toFinset.card =
      modules.length := by
  induction modules using List.reverseRecOn with
  | nil => rfl
  | append_singleton modules m ih =>
    have hbindings : ((modules ++ [m]).map ContextModule.identifier).toFinset =
        insert m.identifier (modules.map ContextModule.identifier).toFinset := by
      ext x
      simp
    rw [collisions_concat, hbindings, List.length_append, List.length_append, ← ih,
      List.length_singleton]
    cases hlast : collision? directory modules m with
    | none =>
      have hnew := collision?_eq_none_iff.mp hlast
      rw [Finset.card_insert_of_notMem (by rwa [List.mem_toFinset])]
      rfl
    | some collision =>
      have hknown : m.identifier ∈ modules.map ContextModule.identifier := by
        by_contra hnew
        rw [collision?_eq_none_iff.mpr hnew] at hlast
        cases hlast
      rw [Finset.insert_eq_of_mem (List.mem_toFinset.mpr hknown), Option.toList_some,
        List.length_singleton]
      omega

theorem collisions_eq_nil_iff {c : ResolvedContext} :
    c.collisions = [] ↔ (c.modules.map ContextModule.identifier).Nodup := by
  have hlength : c.collisions.length + (c.modules.map ContextModule.identifier).toFinset.card =
      c.modules.length := length_collisions c.directory c.modules
  have hnodup : (c.modules.map ContextModule.identifier).toFinset.card = c.modules.length ↔
      (c.modules.map ContextModule.identifier).Nodup := by
    rw [← List.length_map ContextModule.identifier]
    exact Multiset.toFinset_card_eq_card_iff_nodup
  rw [← List.length_eq_zero_iff, ← hnodup]
  omega

/-! ## The modules of one binding -/

/-- To put one more behind a list adds one link. -/
theorem zip_tail_concat {α : Type} (xs : List α) (x : α) :
    (xs ++ [x]).zip (xs ++ [x]).tail =
      xs.zip xs.tail ++ (xs.getLast?.map fun last => (last, x)).toList := by
  induction xs with
  | nil => rfl
  | cons a rest ih =>
    cases rest with
    | nil => rfl
    | cons b rest =>
      rw [List.cons_append, List.tail_cons, List.tail_cons, List.getLast?_cons_cons]
      exact congrArg ((a, b) :: ·) ih

theorem keysOf_concat (directory : Path) (modules : List ContextModule) (m : ContextModule)
    (identifier : String) :
    keysOf ⟨directory, modules ++ [m]⟩ identifier =
      keysOf ⟨directory, modules⟩ identifier ++ if m.identifier = identifier then [m.key] else [] := by
  rw [keysOf, keysOf, List.filter_append, List.map_append]
  by_cases h : m.identifier = identifier <;> simp [h]

/-- The collisions of a binding link each key with the next one. -/
theorem links_eq (directory : Path) (modules : List ContextModule) (identifier : String) :
    ((collisions ⟨directory, modules⟩).filter (·.identifier = identifier)).map
        (fun k => (k.earlier, k.later)) =
      (keysOf ⟨directory, modules⟩ identifier).zip (keysOf ⟨directory, modules⟩ identifier).tail := by
  induction modules using List.reverseRecOn with
  | nil => rfl
  | append_singleton modules m ih =>
    rw [collisions_concat, List.filter_append, List.map_append, ih, keysOf_concat]
    by_cases h : m.identifier = identifier
    · have hlatest : (keysOf ⟨directory, modules⟩ identifier).getLast? =
          ((modules.filter (·.identifier = m.identifier)).getLast?).map ContextModule.key := by
        rw [keysOf, h, List.getLast?_map]
      rw [if_pos h, zip_tail_concat, hlatest, collision?]
      cases (modules.filter (·.identifier = m.identifier)).getLast? <;> simp [h]
    · rw [if_neg h, List.append_nil, collision?]
      cases (modules.filter (·.identifier = m.identifier)).getLast? <;> simp [h]

/-- The collisions that a call tells of when it resolves are complete and exact: they are those of its
context. In the order of the modules there is one for each module whose binding a module before it has,
and it names the latest of these and the module. So collisions and different bindings are together as
many as the modules, there are no collisions exactly if all bindings are different, and the collisions
of one binding link all modules that have it, each with the next. -/
theorem collisions_chain (c : ResolvedContext) :
    (∀ (s : Storage) (sourceDir : Path) (call : ContextCall), call.resolve s sourceDir = .ok c →
      (call.resolution s sourceDir).collisions = c.collisions) ∧
    (c.collisions = (List.range c.modules.length).filterMap fun i => do
      let m ← c.modules[i]?
      let earlier ← ((c.modules.take i).filter (·.identifier = m.identifier)).getLast?
      return ⟨c.directory, earlier.key, m.key, m.identifier⟩) ∧
    c.collisions.length + (c.modules.map ContextModule.identifier).toFinset.card =
      c.modules.length ∧
    (c.collisions = [] ↔ (c.modules.map ContextModule.identifier).Nodup) ∧
    ∀ identifier, (c.collisions.filter (·.identifier = identifier)).map
        (fun k => (k.earlier, k.later)) =
      (c.keysOf identifier).zip (c.keysOf identifier).tail := by
  constructor
  · exact fun _ _ _ h => ContextCall.resolution_collisions h
  constructor
  · have hown : ∀ i ∈ List.range c.modules.length,
        c.modules[i]?.bind (collision? c.directory (c.modules.take i)) = (do
          let m ← c.modules[i]?
          let earlier ← ((c.modules.take i).filter (·.identifier = m.identifier)).getLast?
          return ⟨c.directory, earlier.key, m.key, m.identifier⟩) := by
      intro i _
      cases hm : c.modules[i]? with
      | none => rfl
      | some m => exact Option.map_eq_bind
    exact (collisions_eq c.directory c.modules).trans (List.filterMap_congr hown)
  constructor
  · exact length_collisions c.directory c.modules
  constructor
  · exact collisions_eq_nil_iff
  · intro identifier
    exact links_eq c.directory c.modules identifier

end StaticContext.ResolvedContext
