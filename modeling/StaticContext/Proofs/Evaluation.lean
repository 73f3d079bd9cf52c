import Mathlib.Data.List.Basic
import StaticContext.Script.Tree

/-! # What a script's expressions evaluate to

Values, memory and evaluation for the node kinds of generated code: strings, names, arrow functions,
objects, arrays, member reads and assignments, calls, and blocks of `let`, expression and `return`
statements. A closure keeps the scopes it was made in; a block's names are there from its start, but
may not be read before their declaration was reached. What names stand for and what the built-in
prototypes hold is left to the surroundings. -/

namespace StaticContext.Script.Evaluation

/-! ## Values and memory -/

inductive Value where
  | undefined
  | string (text : String)
  /-- The object at a place in memory. -/
  | object (place : Nat)
  /-- Any other value, numbered by the surroundings. -/
  | other (number : Nat)
deriving DecidableEq, Repr, Inhabited

/-- What an object is besides its properties. -/
inductive Kind where
  | plain
  | array (elements : List Value)
  /-- A function that was made where `scope` was in reach, the innermost first. -/
  | function (params : List String) (body : Tree) (scope : List Nat)
deriving Repr, Inhabited

/-- The built-in prototypes. -/
inductive BuiltIn where
  | object
  | array
  | function
deriving DecidableEq, Repr, Inhabited

def Kind.builtIn : Kind → BuiltIn
  | .plain => .object
  | .array _ => .array
  | .function _ _ _ => .function

/-- What a property has if only the built-in prototypes may have it. -/
abbrev Realm := BuiltIn → String → Value

/-- Names or keys with what they stand for, each once. -/
abbrev Table (α : Type) := List (String × α)

/-- Changes what a name stands for, or adds it. -/
def Table.put {α : Type} (name : String) (a : α) : Table α → Table α
  | [] => [(name, a)]
  | (n, b) :: rest => if n = name then (n, a) :: rest else (n, b) :: put name a rest

structure Object where
  kind : Kind
  /-- The place of the prototype, unless it is the built-in one of the kind. -/
  prototype : Option Nat
  /-- Properties of the object's own, those aside that every object of its kind has. -/
  properties : Table Value
deriving Repr, Inhabited

/-- Variables; one that was not initialized has no value. -/
abbrev Bindings := Table (Option Value)

structure Memory where
  objects : List Object
  scopes : List Bindings
deriving Repr, Inhabited

inductive Failure where
  /-- The steps did not suffice. -/
  | exhausted
  | unbound (name : String)
  /-- Read before its declaration was reached. -/
  | uninitialized (name : String)
  /-- The operation does not apply to the value. -/
  | mistyped
  /-- The node or value is none of those evaluated here. -/
  | unsupported
deriving DecidableEq, Repr, Inhabited

/-- A computation on memory that may fail. -/
abbrev Eval := StateT Memory (Except Failure)

def fail {α : Type} (f : Failure) : Eval α := fun _ => .error f

def newObject (o : Object) : Eval Value := fun m =>
  .ok (.object m.objects.length, { m with objects := m.objects ++ [o] })

def newScope (b : Bindings) : Eval Nat := fun m =>
  .ok (m.scopes.length, { m with scopes := m.scopes ++ [b] })

def objectAt (place : Nat) : Eval Object := fun m =>
  match m.objects[place]? with
  | some o => .ok (o, m)
  | none => .error .mistyped

def scopeAt (place : Nat) : Eval Bindings := fun m =>
  match m.scopes[place]? with
  | some b => .ok (b, m)
  | none => .error .mistyped

/-- Reads a variable from the innermost scope that has it. -/
def readName (name : String) : List Nat → Eval Value
  | [] => fail (.unbound name)
  | s :: outer => do
    match (← scopeAt s).lookup name with
    | some (some v) => pure v
    | some none => fail (.uninitialized name)
    | none => readName name outer

/-- Gives a variable of the innermost scope its first value. -/
def setFirst (name : String) (v : Value) : List Nat → Eval Unit
  | [] => fail (.unbound name)
  | s :: _ => do
    let b ← scopeAt s
    modify fun m => { m with scopes := m.scopes.set s (Table.put name (some v) b) }

/-! ## Objects -/

/-- What is named like the accessor of prototypes that all objects inherit. -/
def prototypeKey : String := "__proto__"

/-- Adds a property that an object literal lists. -/
def Object.define? (o : Object) (key : String) (v : Value) : Option Object :=
  if key = prototypeKey then
    match v with
    | .object place => some { o with prototype := some place }
    | .other _ => none
    | _ => some o
  else some { o with properties := Table.put key v o.properties }

def Object.defineAll? (o : Object) : List (String × Value) → Option Object
  | [] => some o
  | (key, v) :: rest => (o.define? key v).bind (defineAll? · rest)

/-- The object of a literal with these properties. -/
def literal (properties : List (String × Value)) : Option Object :=
  Object.defineAll? ⟨.plain, none, []⟩ properties

/-- What the built-in prototypes answer for `receiver`, whose prototypes end with `last`. -/
def inherited (realm : Realm) (receiver last : Object) (key : String) : Value :=
  if key = prototypeKey then
    (receiver.prototype.map .object).getD (realm receiver.kind.builtIn key)
  else realm last.kind.builtIn key

/-- Looks for a property along the prototypes from `o` on; `receiver` is what is read. -/
def lookUp (realm : Realm) (receiver : Object) (key : String) : Nat → Object → Eval Value
  | 0, _ => fail .exhausted
  | n + 1, o =>
    match o.kind, o.properties.lookup key, o.prototype with
    | .array _, _, _ => fail .unsupported
    | _, some v, _ => pure v
    | _, none, some place => do lookUp realm receiver key n (← objectAt place)
    | _, none, none => pure (inherited realm receiver o key)

def readMember (realm : Realm) (n : Nat) (v : Value) (key : String) : Eval Value :=
  match v with
  | .object place => do
    let o ← objectAt place
    lookUp realm o key n o
  | .undefined => fail .mistyped
  | _ => fail .unsupported

def writeMember (v : Value) (key : String) (w : Value) : Eval Unit :=
  match v with
  | .object place =>
    if key = prototypeKey then fail .unsupported
    else do
      let o ← objectAt place
      modify fun m =>
        { m with objects := m.objects.set place { o with properties := Table.put key w o.properties } }
  | .undefined => fail .mistyped
  | _ => fail .unsupported

/-- The key a value is in brackets. -/
def keyOf : Value → Eval String
  | .string text => pure text
  | .undefined => pure "undefined"
  | _ => fail .unsupported

/-! ## Evaluation -/

def parameter : Tree → Eval String
  | .node (.name x) [] => pure x
  | _ => fail .unsupported

def parameters : Tree → Eval (List String)
  | .node .list ts => ts.mapM parameter
  | _ => fail .unsupported

/-- Parameters beyond the arguments are undefined. -/
def bindParameters : List String → List Value → Bindings
  | [], _ => []
  | x :: xs, vs => Table.put x (some (vs.headD .undefined)) (bindParameters xs vs.tail)

/-- The names that a statement declares in its block. -/
def declared : Tree → List String
  | .node (.variables .blockScoped false) ts => ts.filterMap fun
    | .node (.declarator false) (.node (.name x) [] :: _) => some x
    | _ => none
  | _ => []

/-- The scope a block starts with. -/
def blockScope (statements : List Tree) : Bindings :=
  (statements.flatMap declared).map fun x => (x, none)

/-- A property of an object literal, evaluated by `eval`. -/
def property (eval : Tree → Eval Value) : Tree → Eval (String × Value)
  | .node .property [.node (.literal (.string key _)) [], e] => do return (key, ← eval e)
  | .node .property [.node (.name key) [], e] => do return (key, ← eval e)
  | _ => fail .unsupported

/-- Runs statements until one returns. -/
def runAll (run : Tree → Eval (Option Value)) : List Tree → Eval (Option Value)
  | [] => pure none
  | t :: rest => do
    match ← run t with
    | some v => pure (some v)
    | none => runAll run rest

def objectOf (properties : List (String × Value)) : Eval Value :=
  match literal properties with
  | some o => newObject o
  | none => fail .unsupported

/-- The function behind a value. -/
def functionOf (v : Value) : Eval (List String × Tree × List Nat) :=
  match v with
  | .object place => do
    match (← objectAt place).kind with
    | .function params body scope => pure (params, body, scope)
    | _ => fail .mistyped
  | .other _ => fail .unsupported
  | _ => fail .mistyped

/-- Runs a statement; some value if it returns. -/
def statement (eval : Tree → Eval Value) (scope : List Nat) : Tree → Eval (Option Value)
  | .node (.variables .blockScoped false) [.node (.declarator false) [.node (.name x) [], e]] => do
    setFirst x (← eval e) scope
    return none
  | .node .expression [e] => do
    let _ ← eval e
    return none
  | .node .returnStatement [e] => do return some (← eval e)
  | _ => fail .unsupported

mutual

/-- Evaluates an expression where `scope` is in reach, in at most as many nested steps as given. -/
def expression (realm : Realm) : Nat → List Nat → Tree → Eval Value
  | 0, _, _ => fail .exhausted
  | n + 1, scope, .node label children =>
    match label, children with
    | .literal (.string text _), [] => pure (.string text)
    | .name x, [] => readName x scope
    | .paren, [e] => expression realm n scope e
    | .arrow false, [params, body, .node .absent [], .node .absent []] => do
      newObject ⟨.function (← parameters params) body scope, none, []⟩
    | .object, ts => do objectOf (← ts.mapM (property (expression realm n scope)))
    | .array, ts => do
      newObject ⟨.array (← ts.mapM (expression realm n scope)), none, []⟩
    | .member, [o, .node .computed [k]] => do
      let v ← expression realm n scope o
      let key ← expression realm n scope k
      readMember realm n v (← keyOf key)
    | .member, [o, .node (.name key) []] => do
      readMember realm n (← expression realm n scope o) key
    | .assign "=", [.node .member [o, .node (.name key) []], e] => do
      let v ← expression realm n scope o
      let w ← expression realm n scope e
      writeMember v key w
      return w
    | .call _, [f, .node .list ts, .node .absent []] => do
      let v ← expression realm n scope f
      applyTo realm n v (← ts.mapM (expression realm n scope))
    | _, _ => fail .unsupported

/-- Calls a function. -/
def applyTo (realm : Realm) : Nat → Value → List Value → Eval Value
  | 0, _, _ => fail .exhausted
  | n + 1, f, args => do
    let (params, body, outer) ← functionOf f
    let own ← newScope (bindParameters params args)
    match body with
    | .node .block ts => do
      let scope := (← newScope (blockScope ts)) :: own :: outer
      return (← runAll (statement (expression realm n scope) scope) ts).getD .undefined
    | e => expression realm n (own :: outer) e

end

/-- Calls the function that a property holds. -/
def invoke (realm : Realm) (n : Nat) (v : Value) (key : String) (args : List Value) : Eval Value := do
  applyTo realm n (← readMember realm n v key) args

/-- What a name stands for where `scope` is in reach. -/
def Memory.Binds (m : Memory) (scope : List Nat) (name : String) (v : Value) : Prop :=
  readName name scope m = .ok (v, m)

/-- What came between `before` and `after` is still there; all else may have changed. -/
structure Memory.Keeps (before after later : Memory) : Prop where
  objects : ∀ place, before.objects.length ≤ place → ∀ o, after.objects[place]? = some o →
    later.objects[place]? = some o
  scopes : ∀ place, before.scopes.length ≤ place → ∀ b, after.scopes[place]? = some b →
    later.scopes[place]? = some b

/-! ## Computations that finish -/

theorem bind_eq {α β : Type} {x : Eval α} {f : α → Eval β} {m m' : Memory} {a : α}
    (h : x m = .ok (a, m')) : (x >>= f) m = f a m' := by
  show (x m >>= fun p => f p.1 p.2) = _
  rw [h]
  rfl

/-- Given enough steps, a computation ends without a failure, with the value `a` and memory `m'`. -/
def Yields {α : Type} (run : Nat → Eval α) (m : Memory) (a : α) (m' : Memory) : Prop :=
  ∃ n, ∀ k, n ≤ k → run k m = .ok (a, m')

namespace Yields

variable {α β : Type} {run : Nat → Eval α} {m m₁ m₂ : Memory} {a a' : α} {b : β}

theorem unique (h : Yields run m a m₁) (h' : Yields run m a' m₂) : a = a' ∧ m₁ = m₂ := by
  obtain ⟨n, h⟩ := h
  obtain ⟨n', h'⟩ := h'
  have hsame : Except.ok (a, m₁) = Except.ok (a', m₂) :=
    (h (max n n') (Nat.le_max_left n n')).symm.trans (h' (max n n') (Nat.le_max_right n n'))
  cases hsame
  exact ⟨rfl, rfl⟩

/-- A computation that needs no steps of its own. -/
theorem of_eq {x : Eval α} (h : x m = .ok (a, m₁)) : Yields (fun _ => x) m a m₁ :=
  ⟨0, fun _ _ => h⟩

theorem pure : Yields (fun _ => Pure.pure a) m a m := of_eq rfl

theorem step (h : Yields (fun n => run (n + 1)) m a m₁) : Yields run m a m₁ := by
  obtain ⟨n, h⟩ := h
  refine ⟨n + 1, fun k hk => ?_⟩
  obtain ⟨k, rfl⟩ := Nat.exists_eq_add_of_le' (Nat.le_of_add_left_le hk)
  exact h k (by omega)

theorem bind {f : Nat → α → Eval β} (hrun : Yields run m a m₁)
    (hf : Yields (fun n => f n a) m₁ b m₂) : Yields (fun n => run n >>= f n) m b m₂ := by
  obtain ⟨n, hrun⟩ := hrun
  obtain ⟨n', hf⟩ := hf
  refine ⟨max n n', fun k hk => ?_⟩
  exact (bind_eq (hrun k (Nat.le_trans (Nat.le_max_left n n') hk))).trans
    (hf k (Nat.le_trans (Nat.le_max_right n n') hk))

theorem mapM_nil {f : Nat → β → Eval α} : Yields (fun n => [].mapM (f n)) m [] m := pure

theorem mapM_cons {f : Nat → β → Eval α} {bs : List β} {as : List α}
    (hhead : Yields (fun n => f n b) m a m₁) (htail : Yields (fun n => bs.mapM (f n)) m₁ as m₂) :
    Yields (fun n => (b :: bs).mapM (f n)) m (a :: as) m₂ := by
  simp only [List.mapM_cons]
  exact hhead.bind (htail.bind pure)

theorem runAll_next {run : Nat → Tree → Eval (Option Value)} {t : Tree} {rest : List Tree}
    {r : Option Value} (hfirst : Yields (fun n => run n t) m none m₁)
    (hrest : Yields (fun n => runAll (run n) rest) m₁ r m₂) :
    Yields (fun n => runAll (run n) (t :: rest)) m r m₂ := hfirst.bind hrest

theorem runAll_return {run : Nat → Tree → Eval (Option Value)} {t : Tree} {rest : List Tree}
    {v : Value} (h : Yields (fun n => run n t) m (some v) m₁) :
    Yields (fun n => runAll (run n) (t :: rest)) m (some v) m₁ := h.bind .pure

end Yields

/-! ## Names and places -/

theorem getElem?_of_grown {α : Type} {as bs : List α} {i : Nat} {a : α} (h : as <+: bs)
    (ha : as[i]? = some a) : bs[i]? = some a := by
  obtain ⟨rest, rfl⟩ := h
  obtain ⟨hlt, -⟩ := List.getElem?_eq_some_iff.mp ha
  rw [List.getElem?_append_left hlt, ha]

theorem getElem?_append_cons {α : Type} {before after : List α} {a : α} {place : Nat}
    (hplace : before.length = place) : (before ++ a :: after)[place]? = some a := by
  subst hplace
  simp

theorem Memory.Keeps.refl (before after : Memory) : Keeps before after after :=
  ⟨fun _ _ _ h => h, fun _ _ _ h => h⟩

theorem Memory.Keeps.grown {before after later last : Memory} (h : Keeps before after later)
    (hobjects : later.objects <+: last.objects) (hscopes : later.scopes <+: last.scopes) :
    Keeps before after last :=
  ⟨fun place hle o ho => getElem?_of_grown hobjects (h.objects place hle o ho),
    fun place hle b hb => getElem?_of_grown hscopes (h.scopes place hle b hb)⟩

section
variable {name : String} {s : Nat} {outer scope : List Nat} {b : Bindings} {m m' m₁ : Memory}
  {v : Value}

theorem scopeAt_eq (hs : m.scopes[s]? = some b) : scopeAt s m = .ok (b, m) := by
  simp only [scopeAt, hs]

theorem objectAt_eq {place : Nat} {o : Object} (ho : m.objects[place]? = some o) :
    objectAt place m = .ok (o, m) := by
  simp only [objectAt, ho]

theorem readName_own (hs : m.scopes[s]? = some b) (hv : b.lookup name = some (some v)) :
    readName name (s :: outer) m = .ok (v, m) := by
  rw [readName, bind_eq (scopeAt_eq hs), hv]
  rfl

theorem readName_outer (hs : m.scopes[s]? = some b) (hnone : b.lookup name = none) :
    readName name (s :: outer) m = readName name outer m := by
  rw [readName, bind_eq (scopeAt_eq hs), hnone]

/-- Scopes that are there already keep a name's value from later ones. -/
theorem readName_grown (hgrown : m.scopes <+: m'.scopes) :
    ∀ {scope : List Nat}, readName name scope m = .ok (v, m₁) → readName name scope m' = .ok (v, m')
  | [], h => by cases h
  | s :: outer, h => by
    cases hs : m.scopes[s]? with
    | none => simp [readName, scopeAt, hs, bind, StateT.bind, Except.bind] at h
    | some b =>
      have hs' : m'.scopes[s]? = some b := getElem?_of_grown hgrown hs
      cases hv : b.lookup name with
      | none =>
        rw [readName_outer hs hv] at h
        rw [readName_outer hs' hv]
        exact readName_grown hgrown h
      | some initialized =>
        cases initialized with
        | some w =>
          rw [readName_own hs hv] at h
          cases h
          exact readName_own hs' hv
        | none =>
          rw [readName, bind_eq (scopeAt_eq hs), hv] at h
          cases h

end

/-! ## Properties -/

section
variable {realm : Realm} {m m₁ : Memory} {receiver o : Object} {key : String} {v : Value}

theorem Yields.lookUp_own (hkind : ∀ es, o.kind ≠ .array es)
    (hv : o.properties.lookup key = some v) :
    Yields (fun n => lookUp realm receiver key n o) m v m := by
  obtain ⟨kind, prototype, properties⟩ := o
  refine .step ?_
  cases kind with
  | array es => exact absurd rfl (hkind es)
  | _ =>
    simp only at hv
    simp only [lookUp, hv]
    exact .pure

theorem Yields.lookUp_prototype {place : Nat} {p : Object} (hkind : ∀ es, o.kind ≠ .array es)
    (hnone : o.properties.lookup key = none) (hprototype : o.prototype = some place)
    (hp : m.objects[place]? = some p) (h : Yields (fun n => lookUp realm receiver key n p) m v m₁) :
    Yields (fun n => lookUp realm receiver key n o) m v m₁ := by
  obtain ⟨kind, prototype, properties⟩ := o
  refine .step ?_
  have hnext : Yields (fun n => do lookUp realm receiver key n (← objectAt place)) m v m₁ :=
    (Yields.of_eq (objectAt_eq hp)).bind h
  cases kind with
  | array es => exact absurd rfl (hkind es)
  | _ =>
    simp only at hprototype hnone
    simp only [lookUp, hnone, hprototype]
    exact hnext

theorem Yields.lookUp_end (hkind : ∀ es, o.kind ≠ .array es)
    (hnone : o.properties.lookup key = none) (hprototype : o.prototype = none) :
    Yields (fun n => lookUp realm receiver key n o) m (inherited realm receiver o key) m := by
  obtain ⟨kind, prototype, properties⟩ := o
  refine .step ?_
  cases kind with
  | array es => exact absurd rfl (hkind es)
  | _ =>
    simp only at hprototype hnone
    simp only [lookUp, hnone, hprototype]
    exact .pure

end

/-! ## Calls -/

section
variable {realm : Realm} {m m₁ : Memory} {place : Nat} {o : Object} {params : List String}
  {outer : List Nat} {args : List Value}

theorem functionOf_eq {body : Tree} (ho : m.objects[place]? = some o)
    (hkind : o.kind = .function params body outer) :
    functionOf (.object place) m = .ok ((params, body, outer), m) := by
  rw [functionOf, bind_eq (objectAt_eq ho), hkind]
  rfl

/-- A function whose body is an expression. -/
theorem Yields.call_expression {l : Label} {ts : List Tree} {v : Value}
    (ho : m.objects[place]? = some o) (hkind : o.kind = .function params (.node l ts) outer)
    (hl : l ≠ .block)
    (hbody : Yields (fun n => expression realm n (m.scopes.length :: outer) (.node l ts))
      { m with scopes := m.scopes ++ [bindParameters params args] } v m₁) :
    Yields (fun n => applyTo realm n (.object place) args) m v m₁ := by
  refine .step ((Yields.of_eq (functionOf_eq ho hkind)).bind ((Yields.of_eq rfl).bind ?_))
  cases l
  case block => exact absurd rfl hl
  all_goals exact hbody

/-- A function whose body is a block. -/
theorem Yields.call_block {ts : List Tree} {r : Option Value}
    (ho : m.objects[place]? = some o) (hkind : o.kind = .function params (.node .block ts) outer)
    (hbody : Yields
      (fun n => runAll (statement
        (expression realm n ((m.scopes.length + 1) :: m.scopes.length :: outer))
        ((m.scopes.length + 1) :: m.scopes.length :: outer)) ts)
      { m with scopes := m.scopes ++ [bindParameters params args, blockScope ts] } r m₁) :
    Yields (fun n => applyTo realm n (.object place) args) m (r.getD .undefined) m₁ := by
  refine .step ((Yields.of_eq (functionOf_eq ho hkind)).bind ((Yields.of_eq rfl).bind ?_))
  refine (Yields.of_eq rfl).bind ?_
  refine Yields.bind ?_ .pure
  simpa using hbody

end

/-! ## Object literals -/

theorem Table.put_of_notMem {α : Type} {name : String} {a : α} {t : Table α}
    (h : name ∉ t.map Prod.fst) : Table.put name a t = t ++ [(name, a)] := by
  induction t with
  | nil => rfl
  | cons e rest ih =>
    simp only [List.map_cons, List.mem_cons, not_or] at h
    simp only [Table.put, Ne.symm h.1, if_false, ih h.2, List.cons_append]

theorem lookup_cons_if {α : Type} (name k : String) (a : α) (t : Table α) :
    ((k, a) :: t).lookup name = if name = k then some a else t.lookup name := by
  by_cases h : name = k
  · simp [h]
  · simp [List.lookup_cons, beq_eq_false_iff_ne.mpr h, h]

theorem lookup_filter {α : Type} (keep : String → Bool) (name : String) (t : Table α) :
    (t.filter fun e => keep e.1).lookup name = if keep name then t.lookup name else none := by
  induction t with
  | nil => simp
  | cons e rest ih =>
    obtain ⟨k, a⟩ := e
    by_cases hname : name = k
    · subst hname
      cases hk : keep name with
      | true => simp [hk]
      | false => simp [hk, ih]
    · cases hk : keep k with
      | true => simp only [List.filter_cons, hk, if_true, lookup_cons_if, hname, if_false, ih]
      | false =>
        simp only [List.filter_cons, hk, Bool.false_eq_true, if_false, lookup_cons_if, hname, ih]

theorem lookup_of_notMem {α : Type} {name : String} {t : Table α} (h : name ∉ t.map Prod.fst) :
    t.lookup name = none := by
  refine List.lookup_eq_none_iff.mpr fun e he => ?_
  exact bne_iff_ne.mpr fun heq => h (heq ▸ List.mem_map_of_mem he)

/-- Objects as the properties of a literal. -/
def Table.ofPlaces (places : Table Nat) : Table Value := places.map fun e => (e.1, .object e.2)

theorem lookup_ofPlaces (t : Table Nat) (key : String) :
    (Table.ofPlaces t).lookup key = (t.lookup key).map .object := by
  induction t with
  | nil => rfl
  | cons e rest ih =>
    show ((e.1, Value.object e.2) :: Table.ofPlaces rest).lookup key = _
    rw [lookup_cons_if, lookup_cons_if, ih]
    split <;> rfl

theorem Object.defineAll?_ofPlaces {places : Table Nat} (hkeys : (places.map Prod.fst).Nodup)
    (o : Object) (hnew : ∀ key ∈ places.map Prod.fst, key ∉ o.properties.map Prod.fst) :
    o.defineAll? (Table.ofPlaces places) =
      some { o with
        prototype := (places.lookup prototypeKey).or o.prototype
        properties := o.properties ++ Table.ofPlaces (places.filter (·.1 ≠ prototypeKey)) } := by
  induction places generalizing o with
  | nil => simp [Table.ofPlaces, defineAll?]
  | cons e rest ih =>
    obtain ⟨key, place⟩ := e
    obtain ⟨hkey, hrest⟩ := List.nodup_cons.mp hkeys
    have hnew' := fun key h => hnew key (List.mem_cons_of_mem _ h)
    show (o.define? key (.object place)).bind (defineAll? · (Table.ofPlaces rest)) = _
    by_cases hproto : key = prototypeKey
    · subst hproto
      have hnone : rest.lookup prototypeKey = none := lookup_of_notMem hkey
      simp only [define?, if_true, Option.bind_some]
      rw [ih hrest { o with prototype := some place } hnew']
      simp [hnone]
    · have hput : Table.put key (.object place) o.properties = o.properties ++ [(key, .object place)] :=
        Table.put_of_notMem (hnew key List.mem_cons_self)
      simp only [define?, hproto, if_false, Option.bind_some, hput]
      rw [ih hrest]
      · have hother : (prototypeKey == key) = false := beq_eq_false_iff_ne.mpr (Ne.symm hproto)
        simp [List.lookup_cons, hother, hproto, Table.ofPlaces]
      · intro k hk
        simp only [List.map_append, List.map_cons, List.map_nil, List.mem_append, List.mem_singleton]
        rintro (h | rfl)
        · exact hnew' k hk h
        · exact hkey hk

/-- A literal whose keys are distinct has a property for each of them, but for the one that names
its prototype. -/
theorem literal_ofPlaces {places : Table Nat} (hkeys : (places.map Prod.fst).Nodup) :
    literal (Table.ofPlaces places) = some
      { kind := .plain
        prototype := places.lookup prototypeKey
        properties := Table.ofPlaces (places.filter (·.1 ≠ prototypeKey)) } := by
  rw [literal, Object.defineAll?_ofPlaces hkeys _ (fun _ _ => List.not_mem_nil)]
  simp

theorem Table.map_fst_put {α : Type} (name : String) (a : α) (t : Table α) :
    (Table.put name a t).map Prod.fst =
      if name ∈ t.map Prod.fst then t.map Prod.fst else t.map Prod.fst ++ [name] := by
  by_cases h : name ∈ t.map Prod.fst
  · rw [if_pos h]
    induction t with
    | nil => cases h
    | cons e rest ih =>
      by_cases he : e.1 = name
      · simp [Table.put, he]
      · have hrest : name ∈ rest.map Prod.fst :=
          (List.mem_cons.mp h).resolve_left (Ne.symm he)
        simp [Table.put, he, ih hrest]
  · rw [if_neg h, put_of_notMem h, List.map_append, List.map_singleton]

/-- A literal whose keys name no prototype puts its properties in one after the other. -/
theorem Object.defineAll?_eq {properties : List (String × Value)}
    (hplain : prototypeKey ∉ properties.map Prod.fst) (o : Object) :
    o.defineAll? properties = some { o with
      properties := properties.foldl (fun t e => Table.put e.1 e.2 t) o.properties } := by
  induction properties generalizing o with
  | nil => rfl
  | cons e rest ih =>
    obtain ⟨key, v⟩ := e
    simp only [List.map_cons, List.mem_cons, not_or] at hplain
    have hdefine : o.define? key v = some { o with properties := Table.put key v o.properties } := by
      simp only [define?, if_neg (Ne.symm hplain.1)]
    rw [defineAll?, hdefine, Option.bind_some, ih hplain.2]
    rfl

theorem nodup_foldl_put {properties t : Table Value} (h : (t.map Prod.fst).Nodup) :
    ((properties.foldl (fun t e => Table.put e.1 e.2 t) t).map Prod.fst).Nodup := by
  induction properties generalizing t with
  | nil => exact h
  | cons e rest ih =>
    apply ih
    rw [Table.map_fst_put]
    split
    · exact h
    · next hnew =>
      refine List.nodup_append.mpr ⟨h, by simp, ?_⟩
      intro key hkey last hlast heq
      rw [List.mem_singleton.mp hlast] at heq
      exact hnew (heq ▸ hkey)

theorem foldl_put_of_nodup {properties t : Table Value} (h : ((t ++ properties).map Prod.fst).Nodup) :
    properties.foldl (fun t e => Table.put e.1 e.2 t) t = t ++ properties := by
  induction properties generalizing t with
  | nil => rw [List.append_nil, List.foldl_nil]
  | cons e rest ih =>
    have hsplit : t ++ e :: rest = (t ++ [e]) ++ rest := by simp
    have hnew : e.1 ∉ t.map Prod.fst := by
      rw [List.map_append, List.nodup_append] at h
      intro hmem
      exact h.2.2 _ hmem _ (List.mem_map_of_mem List.mem_cons_self) rfl
    rw [hsplit] at h ⊢
    rw [List.foldl_cons, Table.put_of_notMem hnew]
    exact ih h

/-- A literal keeps all its properties as they are listed exactly if no two keys are the same. -/
theorem literal_eq_iff {properties : List (String × Value)}
    (hplain : prototypeKey ∉ properties.map Prod.fst) :
    literal properties = some ⟨.plain, none, properties⟩ ↔ (properties.map Prod.fst).Nodup := by
  rw [literal, Object.defineAll?_eq hplain]
  constructor
  · intro h
    have hkept : properties.foldl (fun t e => Table.put e.1 e.2 t) [] = properties := by
      simpa using h
    rw [← hkept]
    exact nodup_foldl_put List.nodup_nil
  · intro h
    rw [foldl_put_of_nodup (by simpa using h)]
    rfl

end StaticContext.Script.Evaluation
