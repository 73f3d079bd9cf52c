import StaticContext.Context.Accessor
import StaticContext.Proofs.LayoutText
import StaticContext.Script.Print

/-! # Accessors as they are printed

An accessor is printed in one way only, but for its depth: the object of its modules, the function that
looks them up and the list of keys, each on lines of their own. -/

namespace StaticContext
open Script Text Text.Layout
open Quoted (quote)

/-! ## Trees laid out -/

namespace Script.Tree

theorem printedAll_eq_map (ts : List Tree) : printedAll ts = ts.map printed := by
  induction ts with
  | nil => rfl
  | cons t ts ih => rw [printedAll, ih, List.map_cons]

theorem layout_node (label : Label) (children : List Tree) :
    (node label children).printed.layout = Printer.layout label (children.map printed) := by
  rw [printed, printedAll_eq_map]
  rfl

theorem label_node (label : Label) (children : List Tree) :
    (node label children).printed.label = label := by
  rw [printed]
  rfl

theorem items_node (label : Label) (children : List Tree) :
    (node label children).printed.items = children.map printed := by
  rw [printed, printedAll_eq_map]
  rfl

theorem parts_list (ts : List Tree) : (list ts).printed.parts = ts.map printed := by
  rw [Printed.parts, list, label_node, if_pos rfl, items_node]

theorem comesTo_string (text : String) (depth : Nat) :
    (string text).printed.layout.ComesTo depth (quote text.toList) :=
  comesTo_ofChars (List.cons_ne_nil _ _) depth

end Script.Tree

namespace Accessor

variable {depth : Nat} {α : Type} {f : α → Script.Tree} {g : α → List Char}

/-- A list in brackets: the brackets alone if it is empty, else each item on a line of its own, one
level deeper than the bracket that closes it. -/
def bracketed (opening closing : Char) (depth : Nat) (items : List (List Char)) : List Char :=
  if items.isEmpty then [opening, closing]
  else [opening] ++ ('\n' :: indentation (depth + 1) ++
    (',' :: '\n' :: indentation (depth + 1)).intercalate items ++
      ('\n' :: indentation depth ++ [closing]))

theorem comesTo_brackets (opening closing : Char) (depth : Nat) :
    (ofChars [opening] ++ ofChars [closing]).ComesTo depth (bracketed opening closing depth []) :=
  (comesTo_ofChars (List.cons_ne_nil opening []) depth).append
    (comesTo_ofChars (List.cons_ne_nil closing []) depth)

theorem comesTo_bracketed (opening closing : Char)
    (h : ∀ x, (f x).printed.layout.ComesTo (depth + 1) (g x)) {xs : List α} (hne : xs ≠ []) :
    (ofChars [opening] ++ line ++ indented (joined ("," ++ line)
      ((xs.map (Script.Tree.printed ∘ f)).map Printed.layout)) ++ line ++ ofChars [closing]).ComesTo depth
      (bracketed opening closing depth (xs.map g)) := by
  have hitems : (joined ("," ++ line) ((xs.map (Script.Tree.printed ∘ f)).map Printed.layout)).ComesTo
      (depth + 1) ((',' :: '\n' :: indentation (depth + 1)).intercalate (xs.map g)) := by
    rw [List.map_map]
    exact comesTo_commas h hne
  have hlist := (comesTo_ofChars (List.cons_ne_nil opening []) depth).nest hitems
    (comesTo_ofChars (List.cons_ne_nil closing []) depth)
  rw [bracketed, if_neg (by simpa using hne)]
  simpa only [Layout.append_assoc] using hlist

theorem comesTo_object (h : ∀ x, (f x).printed.layout.ComesTo (depth + 1) (g x)) (xs : List α) :
    (Script.Tree.node .object (xs.map f)).printed.layout.ComesTo depth
      (bracketed '{' '}' depth (xs.map g)) := by
  rw [Script.Tree.layout_node, List.map_map]
  cases xs with
  | nil => exact comesTo_brackets '{' '}' depth
  | cons x xs => exact comesTo_bracketed '{' '}' h (List.cons_ne_nil x xs)

theorem comesTo_array (h : ∀ x, (f x).printed.layout.ComesTo (depth + 1) (g x))
    (hfull : ∀ x, (f x).printed.label ≠ .hole) (xs : List α) :
    (Script.Tree.node .array (xs.map f)).printed.layout.ComesTo depth
      (bracketed '[' ']' depth (xs.map g)) := by
  rw [Script.Tree.layout_node, List.map_map]
  cases xs with
  | nil => exact comesTo_ofChars (List.cons_ne_nil _ _) depth
  | cons x xs =>
    have hend : Printer.openEnd ((x :: xs).map (Script.Tree.printed ∘ f)) = .empty := by
      rw [Printer.openEnd, List.getLast?_map, List.getLast?_cons]
      exact congrArg (when · ", ") (decide_eq_false (hfull _))
    have hlist := comesTo_bracketed '[' ']' h (List.cons_ne_nil x xs)
    rw [← Layout.append_empty (joined _ _), ← hend] at hlist
    exact hlist

/-! ## The lines of an accessor -/

def exportsText (depth : Nat) (identifier : String) : List Char :=
  bracketed '{' '}' depth ["default: ".toList ++ identifier.toList]

/-- The object of the modules: each key with the exports behind it. -/
def modulesText (depth : Nat) (modules : List ContextModule) : List Char :=
  bracketed '{' '}' depth
    (modules.map fun m => quote m.key.toList ++ ": ".toList ++ exportsText (depth + 1) m.identifier)

def keysText (depth : Nat) (modules : List ContextModule) : List Char :=
  bracketed '[' ']' depth (modules.map fun m => quote m.key.toList)

/-- A line of its own. -/
def lineText (depth : Nat) (text : List Char) : List Char := indentation depth ++ text ++ ['\n']

theorem comesTo_exports (depth : Nat) (identifier : String) :
    (exports identifier).printed.layout.ComesTo depth (exportsText depth identifier) := by
  have hdefault (depth : Nat) (identifier : String) :
      (Script.Tree.node .property [.name "default", .name identifier]).printed.layout.ComesTo depth
        ("default: ".toList ++ identifier.toList) :=
    ((comesTo_ofChars (List.cons_ne_nil _ _) depth).append_ofChars ": ".toList).append_ofChars
      identifier.toList
  exact comesTo_object (hdefault (depth + 1)) [identifier]

theorem comesTo_modulesObject (depth : Nat) (modules : List ContextModule) :
    (modulesObject modules).printed.layout.ComesTo depth (modulesText depth modules) := by
  refine comesTo_object (fun m => ?_) modules
  exact ((Script.Tree.comesTo_string m.key _).append_ofChars ": ".toList).append (comesTo_exports _ _)

theorem comesTo_keysArray (depth : Nat) (modules : List ContextModule) :
    (Script.Tree.node .array (modules.map fun m => .string m.key)).printed.layout.ComesTo depth
      (keysText depth modules) := by
  have hfull (m : ContextModule) : (Script.Tree.string m.key).printed.label ≠ .hole := by
    rw [Script.Tree.string, Script.Tree.literal, Script.Tree.label_node]
    nofun
  have hkeys := comesTo_array (f := fun m : ContextModule => Script.Tree.string m.key)
    (g := fun m => quote m.key.toList) (fun m => Script.Tree.comesTo_string m.key (depth + 1)) hfull modules
  exact hkeys

/-! ## A whole accessor -/

/-- The lines within an accessor. -/
def bodyText (depth : Nat) (modules : List ContextModule) : List Char :=
  lineText depth ("let modules = ".toList ++ modulesText depth modules ++ [';']) ++
    (lineText depth "let context = (id)=>modules[id];".toList ++
    (lineText depth ("context.keys = ()=>".toList ++ keysText (depth + 1) modules ++ [';']) ++
    lineText depth "return context;".toList))

/-- The text of an accessor that is printed at a depth. -/
def text (depth : Nat) (modules : List ContextModule) : List Char :=
  "(()=>\x7b".toList ++ ('\n' :: bodyText (depth + 1) modules ++ (indentation depth ++ "\x7d)()".toList))

theorem layout_arrow (params : List Script.Tree) (body : Script.Tree) : (arrow params body).printed.layout =
    "(" ++ Printer.commas (params.map Script.Tree.printed) ++ ")" ++ "=>" ++
      (if body.printed.isBlock then body.printed.layout else indented body.printed.layout) := by
  have hlayout : (arrow params body).printed.layout = row [when false ("async" ++ " ")] ++ empty ++
      Printer.parenthesized (Script.Tree.list params).printed ++ empty ++ empty ++ "=>" ++
        (if body.printed.isBlock then body.printed.layout else indented body.printed.layout) := rfl
  rw [hlayout, Printer.parenthesized, Script.Tree.parts_list]
  simp

theorem layout_binding {value : Script.Tree} (h : value.printed.isAbsent = false) (name : String) :
    Printer.statement (binding name value).printed =
      "let " ++ ofChars name.toList ++ " = " ++ value.printed.layout ++ ";" ++ line := by
  have hlayout : Printer.statement (binding name value).printed =
      row [when false ("declare" ++ " ")] ++ "let " ++ joined ", " [ofChars name.toList ++
        when (!value.printed.isAbsent) (" = " ++ value.printed.layout)] ++ ";" ++ line := rfl
  rw [hlayout, joined_singleton, h]
  simp [Layout.append_assoc]

theorem fills_modulesBinding (depth : Nat) (modules : List ContextModule) :
    (Printer.statement (binding "modules" (modulesObject modules)).printed ++ line).Fills depth
      (lineText depth ("let modules = ".toList ++ modulesText depth modules ++ [';'])) := by
  have hstart : ("let " ++ ofChars "modules".toList ++ " = " : Layout).ComesTo depth
      "let modules = ".toList :=
    ((comesTo_ofChars (List.cons_ne_nil _ _) depth).append_ofChars _).append_ofChars _
  rw [layout_binding rfl]
  exact ((hstart.append (comesTo_modulesObject depth modules)).append_ofChars [';']).fills.line

theorem comesTo_lookup (depth : Nat) :
    lookup.printed.layout.ComesTo depth "(id)=>modules[id]".toList := by
  have hlayout : lookup.printed.layout = "(" ++ ("id" ++ empty) ++ ")" ++ "=>" ++
      indented ("modules" ++ ("[" ++ ("id" ++ empty) ++ "]")) := by
    rw [lookup, layout_arrow]
    rfl
  have hhead : ("(" ++ ofChars "id".toList ++ ")" ++ "=>" : Layout).ComesTo depth "(id)=>".toList :=
    (((comesTo_ofChars (List.cons_ne_nil _ _) depth).append_ofChars _).append_ofChars _).append_ofChars _
  have hbody : ("modules" ++ ofChars "[".toList ++ "id" ++ "]" : Layout).ComesTo (depth + 1)
      "modules[id]".toList :=
    (((comesTo_ofChars (List.cons_ne_nil _ _) _).append_ofChars _).append_ofChars _).append_ofChars _
  rw [hlayout, append_empty, ← Layout.append_assoc "modules", ← Layout.append_assoc "modules"]
  exact hhead.append_indented hbody

theorem fills_lookupBinding (depth : Nat) :
    (Printer.statement (binding "context" lookup).printed ++ line).Fills depth
      (lineText depth "let context = (id)=>modules[id];".toList) := by
  have hstart : ("let " ++ ofChars "context".toList ++ " = " : Layout).ComesTo depth
      "let context = ".toList :=
    ((comesTo_ofChars (List.cons_ne_nil _ _) depth).append_ofChars _).append_ofChars _
  rw [layout_binding rfl]
  exact ((hstart.append (comesTo_lookup depth)).append_ofChars [';']).fills.line

theorem comesTo_keysFunction (depth : Nat) (modules : List ContextModule) :
    (keysFunction modules).printed.layout.ComesTo depth
      ("()=>".toList ++ keysText (depth + 1) modules) := by
  have hlayout : (keysFunction modules).printed.layout = "(" ++ empty ++ ")" ++ "=>" ++
      indented (Script.Tree.node .array (modules.map fun m => .string m.key)).printed.layout := by
    rw [keysFunction, layout_arrow]
    rfl
  have hhead : ("(" ++ ofChars ")".toList ++ "=>" : Layout).ComesTo depth "()=>".toList :=
    ((comesTo_ofChars (List.cons_ne_nil _ _) depth).append_ofChars _).append_ofChars _
  rw [hlayout, append_empty]
  exact hhead.append_indented (comesTo_keysArray (depth + 1) modules)

/-- `context.keys`, to which the list of keys is assigned. -/
def keysAssignment (modules : List ContextModule) : Script.Tree :=
  .node .expression
    [.node (.assign "=") [.node .member [.name "context", .name "keys"], keysFunction modules]]

theorem fills_keysAssignment (depth : Nat) (modules : List ContextModule) :
    (Printer.statement (keysAssignment modules).printed ++ line).Fills depth
      (lineText depth ("context.keys = ()=>".toList ++ keysText (depth + 1) modules ++ [';'])) := by
  have hlayout : Printer.statement (keysAssignment modules).printed =
      ("context" ++ empty ++ "." ++ "keys") ++ " " ++ "=" ++ " " ++
        (keysFunction modules).printed.layout ++ empty ++ ";" ++ line := rfl
  have hstart : ("context" ++ ofChars ".".toList ++ "keys" ++ " " ++ "=" ++ " " : Layout).ComesTo depth
      "context.keys = ".toList :=
    (((((comesTo_ofChars (List.cons_ne_nil _ _) depth).append_ofChars _).append_ofChars _).append_ofChars
      _).append_ofChars _).append_ofChars _
  have hline := (hstart.append (comesTo_keysFunction depth modules)).append_ofChars [';']
  rw [hlayout, append_empty, append_empty]
  rw [← List.append_assoc] at hline
  exact hline.fills.line

theorem fills_return (depth : Nat) :
    (Printer.statement (Script.Tree.node .returnStatement [.name "context"]).printed ++ line).Fills depth
      (lineText depth "return context;".toList) := by
  have hstart : ("return" ++ (" " ++ ofChars "context".toList) ++ ";" : Layout).ComesTo depth
      "return context;".toList :=
    ((comesTo_ofChars (List.cons_ne_nil _ _) depth).append
      ((comesTo_ofChars (List.cons_ne_nil _ _) depth).append_ofChars _)).append_ofChars _
  exact hstart.fills.line

theorem fills_body (depth : Nat) (modules : List ContextModule) :
    (row (((body modules).map fun t => Printer.statement t.printed).map (· ++ line))).Fills depth
      (bodyText depth modules) := by
  have hbody : row (((body modules).map fun t => Printer.statement t.printed).map (· ++ line)) =
      (Printer.statement (binding "modules" (modulesObject modules)).printed ++ line) ++
      ((Printer.statement (binding "context" lookup).printed ++ line) ++
      ((Printer.statement (keysAssignment modules).printed ++ line) ++
      ((Printer.statement (Script.Tree.node .returnStatement [.name "context"]).printed ++ line) ++
        empty))) := rfl
  rw [hbody, append_empty]
  exact (fills_modulesBinding depth modules).append ((fills_lookupBinding depth).append
    ((fills_keysAssignment depth modules).append (fills_return depth)))

/-- However deep an accessor is and whatever stands around it, it is printed in one way. -/
theorem comesTo_accessor (c : ResolvedContext) (span : Span) (depth : Nat) :
    (c.accessor span).printed.layout.ComesTo depth (text depth c.modules) := by
  have hlayout : (c.accessor span).printed.layout =
      "(" ++ ((arrow [] (.node .block (body c.modules))).printed.layout ++ empty) ++ ")" ++ empty ++
        empty ++ ("(" ++ empty ++ ")") := rfl
  have harrow : (arrow [] (.node .block (body c.modules))).printed.layout =
      "(" ++ empty ++ ")" ++ "=>" ++ (Printer.leftBrace ++ line ++ indented (row
        (((body c.modules).map fun t => Printer.statement t.printed).map (· ++ line))) ++
          Printer.rightBrace) := by
    rw [layout_arrow]
    rfl
  have hopen : ("(" ++ ofChars "(".toList ++ ")" ++ "=>" ++ Printer.leftBrace : Layout).ComesTo depth
      "(()=>\x7b".toList :=
    ((((comesTo_ofChars (List.cons_ne_nil _ _) depth).append_ofChars _).append_ofChars _).append_ofChars
      _).append_ofChars _
  have hclose : (Printer.rightBrace ++ ofChars ")".toList ++ "(" ++ ")" : Layout).ComesTo depth
      "\x7d)()".toList :=
    (((comesTo_ofChars (List.cons_ne_nil _ _) depth).append_ofChars _).append_ofChars _).append_ofChars _
  have hall := (fills_body (depth + 1) c.modules).nest hopen hclose
  rw [hlayout, harrow]
  simp only [append_empty, Layout.append_assoc] at hall ⊢
  exact hall

end Accessor

end StaticContext
