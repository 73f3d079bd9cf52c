import StaticContext.Script.Printer.Basic

/-! # What layouts come to

The text that a layout comes to depends on what stands around it in two ways only: how deep it is, and
whether it starts a line. So the text of a layout is found from those of its parts. -/

namespace StaticContext.Text.Layout

variable {depth : Nat} {a b l : Layout} {s t u : List Char}

/-! ## Layouts put together -/

theorem pieces_append (a b : Layout) : (a ++ b).pieces = a.pieces ++ b.pieces := rfl

theorem append_assoc (a b c : Layout) : a ++ b ++ c = a ++ (b ++ c) :=
  congrArg mk (List.append_assoc ..)

@[simp] theorem append_empty (a : Layout) : a ++ empty = a := by
  cases a
  exact congrArg mk (List.append_nil _)

@[simp] theorem empty_append (a : Layout) : empty ++ a = a := rfl

@[simp] theorem row_nil : row [] = empty := rfl

@[simp] theorem row_cons (a : Layout) (ls : List Layout) : row (a :: ls) = a ++ row ls := rfl

theorem row_append (ls ms : List Layout) : row (ls ++ ms) = row ls ++ row ms :=
  congrArg mk List.flatMap_append

@[simp] theorem when_true (l : Layout) : when true l = l := rfl

@[simp] theorem when_false (l : Layout) : when false l = empty := rfl

theorem joined_singleton (separator a : Layout) : joined separator [a] = a := by
  simp [joined]

theorem joined_cons_cons (separator a b : Layout) (ls : List Layout) :
    joined separator (a :: b :: ls) = a ++ separator ++ joined separator (b :: ls) := by
  show Layout.mk (a.pieces ++ (separator.pieces ++ _)) = Layout.mk ((a.pieces ++ separator.pieces) ++ _)
  rw [List.append_assoc]
  rfl

/-! ## Part of a line -/

/-- The layout comes to a text that starts and ends within a line: what is in front of it may be the
start of the line, and what is behind goes on with the line. -/
def ComesTo (l : Layout) (depth : Nat) (text : List Char) : Prop :=
  ∀ fresh rest, renderFrom fresh depth (l.pieces ++ rest) =
    (if fresh then indentation depth else []) ++ text ++ renderFrom false depth rest

theorem comesTo_ofChars (h : s ≠ []) (depth : Nat) : (ofChars s).ComesTo depth s := by
  intro fresh rest
  cases s with
  | nil => exact absurd rfl h
  | cons c s => rfl

theorem ComesTo.append (ha : a.ComesTo depth s) (hb : b.ComesTo depth t) :
    (a ++ b).ComesTo depth (s ++ t) := by
  intro fresh rest
  rw [pieces_append, List.append_assoc, ha, hb]
  simp

/-- Behind something even an empty text goes on with the line. -/
theorem ComesTo.append_ofChars (ha : a.ComesTo depth s) (t : List Char) :
    (a ++ ofChars t).ComesTo depth (s ++ t) := by
  cases t with
  | cons c t => exact ha.append (comesTo_ofChars (List.cons_ne_nil c t) depth)
  | nil =>
    intro fresh rest
    rw [pieces_append, List.append_assoc, ha]
    simp [ofChars, renderFrom]

/-- What is deeper shows it only at line starts, of which the first part has none behind it. -/
theorem ComesTo.append_indented (ha : a.ComesTo depth s) (hb : b.ComesTo (depth + 1) t) :
    (a ++ b.indented).ComesTo depth (s ++ t) := by
  intro fresh rest
  have hinner : renderFrom false depth (b.indented.pieces ++ rest) =
      renderFrom false (depth + 1) (b.pieces ++ .dedent :: rest) := by
    simp [indented, renderFrom]
  rw [pieces_append, List.append_assoc, ha, hinner, hb]
  simp [renderFrom]

/-! ## Whole lines -/

/-- The layout comes to whole lines, from the start of a line to the start of another one. -/
def Fills (l : Layout) (depth : Nat) (text : List Char) : Prop :=
  ∀ rest, renderFrom true depth (l.pieces ++ rest) = text ++ renderFrom true depth rest

theorem fills_empty (depth : Nat) : empty.Fills depth [] := fun _ => rfl

theorem ComesTo.fills (h : l.ComesTo depth t) :
    (l ++ line).Fills depth (indentation depth ++ t ++ ['\n']) := by
  intro rest
  rw [pieces_append, List.append_assoc, h]
  simp [line, renderFrom]

theorem Fills.line (h : l.Fills depth t) : (l ++ line).Fills depth t := by
  intro rest
  rw [pieces_append, List.append_assoc, h]
  rfl

theorem Fills.append (ha : a.Fills depth s) (hb : b.Fills depth t) :
    (a ++ b).Fills depth (s ++ t) := by
  intro rest
  rw [pieces_append, List.append_assoc, ha, hb, List.append_assoc]

theorem fills_row_map {α : Type} {f : α → Layout} {g : α → List Char}
    (h : ∀ x, (f x).Fills depth (g x)) (xs : List α) :
    (row (xs.map f)).Fills depth (xs.flatMap g) := by
  induction xs with
  | nil => exact fills_empty depth
  | cons x xs ih => exact (h x).append ih

/-- Where a part stands in a layout, its text stands in the text of the layout. -/
theorem renderFrom_append (front : List Piece) (fresh : Bool) (depth : Nat) :
    ∃ before fresh' depth', ∀ rest,
      renderFrom fresh depth (front ++ rest) = before ++ renderFrom fresh' depth' rest := by
  induction front generalizing fresh depth with
  | nil => exact ⟨[], fresh, depth, fun _ => rfl⟩
  | cons piece front ih =>
    cases piece with
    | text chars =>
      cases chars with
      | nil => exact ih fresh depth
      | cons c chars =>
        obtain ⟨before, fresh', depth', h⟩ := ih false depth
        refine ⟨(if fresh then indentation depth else []) ++ c :: chars ++ before, fresh', depth', ?_⟩
        intro rest
        rw [List.cons_append, renderFrom, h]
        simp only [List.append_assoc]
    | line =>
      obtain ⟨before, fresh', depth', h⟩ := ih true depth
      cases fresh with
      | true => exact ⟨before, fresh', depth', h⟩
      | false => exact ⟨'\n' :: before, fresh', depth', fun rest => congrArg ('\n' :: ·) (h rest)⟩
    | indent => exact ih fresh (depth + 1)
    | dedent => exact ih fresh (depth - 1)

theorem ComesTo.mem_render {text : Nat → List Char} (h : ∀ depth, l.ComesTo depth (text depth))
    {whole : Layout} {front back : List Piece} (hwhole : whole.pieces = front ++ l.pieces ++ back) :
    ∃ before depth after, whole.render.toList = before ++ text depth ++ after := by
  obtain ⟨before, fresh, depth, hfront⟩ := renderFrom_append front true 0
  refine ⟨before ++ (if fresh then indentation depth else []), depth, renderFrom false depth back, ?_⟩
  rw [render, String.toList_ofList, hwhole, List.append_assoc, hfront, h depth]
  simp

/-! ## Parts on lines of their own -/

/-- Two parts with a line break between them. -/
theorem ComesTo.break (ha : a.ComesTo depth s) (hb : b.ComesTo depth t) :
    (a ++ (Layout.line ++ b)).ComesTo depth (s ++ ('\n' :: indentation depth ++ t)) := by
  intro fresh rest
  have hline : renderFrom false depth ((Layout.line ++ b).pieces ++ rest) =
      '\n' :: renderFrom true depth (b.pieces ++ rest) := rfl
  rw [pieces_append, List.append_assoc, ha, hline, hb]
  simp

/-- A part a level deeper than those in front of it and behind it. -/
theorem ComesTo.nest (ha : a.ComesTo depth s) (hl : l.ComesTo (depth + 1) t) (hb : b.ComesTo depth u) :
    (a ++ (Layout.line ++ (indented l ++ (Layout.line ++ b)))).ComesTo depth
      (s ++ ('\n' :: indentation (depth + 1) ++ t ++ ('\n' :: indentation depth ++ u))) := by
  intro fresh rest
  have hopen : renderFrom false depth
      ((Layout.line ++ (indented l ++ (Layout.line ++ b))).pieces ++ rest) =
      '\n' :: renderFrom true (depth + 1)
        (l.pieces ++ .dedent :: .line :: (b.pieces ++ rest)) := by
    simp [pieces_append, indented, Layout.line, renderFrom]
  have hclose : renderFrom false (depth + 1) (.dedent :: .line :: (b.pieces ++ rest)) =
      '\n' :: renderFrom true depth (b.pieces ++ rest) := rfl
  rw [pieces_append, List.append_assoc, ha, hopen, hl, hclose, hb]
  simp

/-- Lines a level deeper than the parts in front of them and behind them. -/
theorem Fills.nest (ha : a.ComesTo depth s) (hl : l.Fills (depth + 1) t) (hb : b.ComesTo depth u) :
    (a ++ (Layout.line ++ (indented l ++ b))).ComesTo depth
      (s ++ ('\n' :: t ++ (indentation depth ++ u))) := by
  intro fresh rest
  have hopen : renderFrom false depth ((Layout.line ++ (indented l ++ b)).pieces ++ rest) =
      '\n' :: renderFrom true (depth + 1) (l.pieces ++ .dedent :: (b.pieces ++ rest)) := by
    simp [pieces_append, indented, Layout.line, renderFrom]
  have hclose : renderFrom true (depth + 1) (.dedent :: (b.pieces ++ rest)) =
      renderFrom true depth (b.pieces ++ rest) := rfl
  rw [pieces_append, List.append_assoc, ha, hopen, hl, hclose, hb]
  simp

theorem comesTo_commas {α : Type} {f : α → Layout} {g : α → List Char} {xs : List α}
    (h : ∀ x, (f x).ComesTo depth (g x)) (hne : xs ≠ []) :
    (joined ("," ++ Layout.line) (xs.map f)).ComesTo depth
      ((',' :: '\n' :: indentation depth).intercalate (xs.map g)) := by
  match xs with
  | [] => exact absurd rfl hne
  | [x] => simpa [joined_singleton] using h x
  | x :: y :: xs =>
    have hcomma := (h x).append (comesTo_ofChars (List.cons_ne_nil ',' []) depth)
    have hrest := hcomma.break (comesTo_commas h (List.cons_ne_nil y xs))
    have hlayout : joined ("," ++ Layout.line) ((x :: y :: xs).map f) =
        f x ++ ofChars [','] ++ (Layout.line ++ joined ("," ++ Layout.line) ((y :: xs).map f)) := by
      rw [List.map_cons, List.map_cons, joined_cons_cons]
      simp only [append_assoc]
      rfl
    have htext : (',' :: '\n' :: indentation depth).intercalate ((x :: y :: xs).map g) =
        g x ++ [','] ++ ('\n' :: indentation depth ++
          (',' :: '\n' :: indentation depth).intercalate ((y :: xs).map g)) := by
      rw [List.map_cons, List.map_cons, List.intercalate_cons_cons]
      simp
    rw [hlayout, htext]
    exact hrest

end StaticContext.Text.Layout
