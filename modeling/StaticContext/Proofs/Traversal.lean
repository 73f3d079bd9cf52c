import Mathlib.Data.List.Forall2

/-! # Traversals that may fail

A traversal depends on its function only through the answers at the elements it meets, and it
succeeds exactly when every answer does, with the answers in order. -/

namespace StaticContext.Traversal

variable {α β ε : Type}

theorem ok_of_toOption {x : Except ε α} {a : α} (h : x.toOption = some a) : x = .ok a := by
  cases x with
  | error e => cases h
  | ok b => exact congrArg Except.ok (Option.some.inj h)

theorem eq_error_of_map {f : α → β} {x : Except ε α} {e : ε} (h : x.map f = .error e) :
    x = .error e := by
  cases x with
  | error e' => cases h; rfl
  | ok a => cases h

theorem eq_ok_of_map {f : α → β} {x : Except ε α} {b : β} (h : x.map f = .ok b) :
    ∃ a, x = .ok a ∧ f a = b := by
  cases x with
  | error e => cases h
  | ok a => cases h; exact ⟨a, rfl, rfl⟩

theorem mapM_congr {f g : α → Except ε β} {xs : List α} (h : ∀ x ∈ xs, f x = g x) :
    xs.mapM f = xs.mapM g := by
  induction xs with
  | nil => rfl
  | cons x rest ih =>
    rw [List.mapM_cons, List.mapM_cons, h x (by simp), ih fun y hy => h y (by simp [hy])]

theorem exists_of_mapM_error {f : α → Except ε β} {xs : List α} {e : ε}
    (h : xs.mapM f = .error e) : ∃ x ∈ xs, f x = .error e := by
  induction xs with
  | nil => cases h
  | cons x rest ih =>
    rw [List.mapM_cons] at h
    cases hx : f x with
    | error e' =>
      rw [hx] at h
      cases h
      exact ⟨x, List.mem_cons_self, hx⟩
    | ok y =>
      cases hr : rest.mapM f with
      | error e' =>
        rw [hx, hr] at h
        cases h
        obtain ⟨x', hm, hx'⟩ := ih hr
        exact ⟨x', List.mem_cons_of_mem _ hm, hx'⟩
      | ok ys => rw [hx, hr] at h; cases h

/-- The first answer that is none is that of the traversal. -/
theorem mapM_eq_error {f : α → Except ε β} {front back : List α} {x : α} {e : ε}
    (hfront : ∀ a ∈ front, ∃ b, f a = .ok b) (hx : f x = .error e) :
    (front ++ x :: back).mapM f = .error e := by
  induction front with
  | nil =>
    rw [List.nil_append, List.mapM_cons, hx]
    rfl
  | cons a rest ih =>
    obtain ⟨b, hb⟩ := hfront a List.mem_cons_self
    rw [List.cons_append, List.mapM_cons, hb, ih fun y hy => hfront y (List.mem_cons_of_mem _ hy)]
    rfl

theorem map_mapM {γ : Type} {f : α → Except ε β} {g : β → γ} (xs : List α) :
    (xs.mapM f).map (List.map g) = xs.mapM fun x => (f x).map g := by
  induction xs with
  | nil => rfl
  | cons x rest ih =>
    rw [List.mapM_cons, List.mapM_cons, ← ih]
    cases f x with
    | error e => rfl
    | ok y => cases rest.mapM f <;> rfl

theorem forall₂_of_mapM {f : α → Except ε β} {xs : List α} {ys : List β}
    (h : xs.mapM f = .ok ys) : List.Forall₂ (fun x y => f x = .ok y) xs ys := by
  induction xs generalizing ys with
  | nil => cases h; exact .nil
  | cons x rest ih =>
    rw [List.mapM_cons] at h
    cases hx : f x with
    | error e => rw [hx] at h; cases h
    | ok y =>
      cases hr : rest.mapM f with
      | error e => rw [hx, hr] at h; cases h
      | ok zs =>
        rw [hx, hr] at h
        cases h
        exact .cons hx (ih hr)

theorem ok_of_mapM {f : α → Except ε β} {xs : List α} {ys : List β} (h : xs.mapM f = .ok ys)
    {x : α} (hx : x ∈ xs) : ∃ y, f x = .ok y := by
  induction xs generalizing ys with
  | nil => cases hx
  | cons a rest ih =>
    rw [List.mapM_cons] at h
    cases ha : f a with
    | error e => rw [ha] at h; cases h
    | ok b =>
      cases hr : rest.mapM f with
      | error e => rw [ha, hr] at h; cases h
      | ok zs =>
        cases hx with
        | head => exact ⟨b, ha⟩
        | tail _ hx => exact ih hr hx

theorem map_eq_of_forall₂ {γ : Type} {R : α → β → Prop} {f : α → γ} {g : β → γ} {xs : List α}
    {ys : List β} (h : List.Forall₂ R xs ys) (hfg : ∀ x y, R x y → g y = f x) :
    ys.map g = xs.map f := by
  induction h with
  | nil => rfl
  | cons hxy _ ih => simp [hfg _ _ hxy, ih]

theorem exists_of_forall₂ {R : α → β → Prop} {xs : List α} {ys : List β} (h : List.Forall₂ R xs ys)
    {y : β} (hy : y ∈ ys) : ∃ x ∈ xs, R x y := by
  induction h with
  | nil => cases hy
  | cons hxy _ ih =>
    cases hy with
    | head => exact ⟨_, List.mem_cons_self, hxy⟩
    | tail _ hy =>
      obtain ⟨x, hx, hR⟩ := ih hy
      exact ⟨x, List.mem_cons_of_mem _ hx, hR⟩

/-- Answers are unique. -/
theorem eq_of_forall₂ {f : α → Except ε β} {xs : List α} {ys zs : List β}
    (h : List.Forall₂ (fun x y => f x = .ok y) xs ys)
    (h' : List.Forall₂ (fun x y => f x = .ok y) xs zs) : ys = zs := by
  induction h generalizing zs with
  | nil => cases h'; rfl
  | cons hxy _ ih =>
    cases h' with
    | cons hxz hrest =>
      cases hxy.symm.trans hxz
      rw [ih hrest]

theorem map_filterMap_sublist {γ : Type} {f : α → Option β} {g : β → γ} {h : α → γ}
    (hf : ∀ a b, f a = some b → g b = h a) (xs : List α) :
    ((xs.filterMap f).map g).Sublist (xs.map h) := by
  induction xs with
  | nil => exact .slnil
  | cons x rest ih =>
    cases hx : f x with
    | none =>
      rw [List.filterMap_cons_none hx]
      exact ih.cons _
    | some y =>
      rw [List.filterMap_cons_some hx, List.map_cons, List.map_cons, hf x y hx]
      exact ih.cons_cons _

theorem map_filterMap_eq {f : α → Option β} {g : β → α} {xs : List α}
    (h : ∀ a ∈ xs, ∃ b, f a = some b ∧ g b = a) : (xs.filterMap f).map g = xs := by
  induction xs with
  | nil => rfl
  | cons x rest ih =>
    obtain ⟨b, hb, hg⟩ := h x List.mem_cons_self
    rw [List.filterMap_cons_some hb, List.map_cons, hg, ih fun a ha => h a (List.mem_cons_of_mem _ ha)]

end StaticContext.Traversal
