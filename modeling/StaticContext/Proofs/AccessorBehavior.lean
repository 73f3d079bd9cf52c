import StaticContext.Context.Accessor
import StaticContext.Proofs.BindingNames
import StaticContext.Proofs.Evaluation

/-! # What an accessor does

An accessor evaluates to a function from the keys of its modules to objects that hold their bindings'
values, with the list of all keys behind `keys`. The accessor's own names hide none of the bindings, for
no binding is one of them; so nothing else that the surroundings bind matters. -/

namespace StaticContext
open Script Script.Evaluation

namespace Accessor

variable {realm : Realm} {value : String → Value} {scope : List Nat}

/-- The exports of a module whose binding stands for `v`. -/
def exportsObject (v : Value) : Object := ⟨.plain, none, [("default", v)]⟩

theorem exports_yields {m : Memory} {identifier : String} {v : Value}
    (hread : readName identifier scope m = .ok (v, m)) :
    Yields (fun n => expression realm n scope (exports identifier)) m (.object m.objects.length)
      { m with objects := m.objects ++ [exportsObject v] } := by
  have hname : Yields (fun n => expression realm n scope (.name identifier)) m v m :=
    .step (.of_eq hread)
  have hproperty : Yields (fun n => property (expression realm n scope)
      (.node .property [.name "default", .name identifier])) m ("default", v) m :=
    hname.bind .pure
  exact .step ((hproperty.mapM_cons .mapM_nil).bind (.of_eq rfl))

/-- Where the exports of the modules stand if they come one after the other. -/
def places (first : Nat) : List ContextModule → Table Nat
  | [] => []
  | c :: rest => (c.key, first) :: places (first + 1) rest

theorem places_keys (first : Nat) (modules : List ContextModule) :
    (places first modules).map Prod.fst = modules.map ContextModule.key := by
  induction modules generalizing first with
  | nil => rfl
  | cons c rest ih => simp [places, ih]

/-- The object a context looks its modules up in. -/
def tableObject (first : Nat) (modules : List ContextModule) : Object where
  kind := .plain
  prototype := (places first modules).lookup prototypeKey
  properties := .ofPlaces ((places first modules).filter (·.1 ≠ prototypeKey))

def allExports (value : String → Value) (modules : List ContextModule) : List Object :=
  modules.map fun c => exportsObject (value c.identifier)

theorem properties_yield {scopes : List Bindings} {modules : List ContextModule}
    (hread : ∀ c ∈ modules, ∀ objects, readName c.identifier scope ⟨objects, scopes⟩ =
      .ok (value c.identifier, ⟨objects, scopes⟩)) (objects : List Object) :
    Yields (fun n => (modules.map fun c => .node .property [.string c.key, exports c.identifier]).mapM
        (property (expression realm n scope)))
      ⟨objects, scopes⟩ (Table.ofPlaces (places objects.length modules))
      ⟨objects ++ allExports value modules, scopes⟩ := by
  induction modules generalizing objects with
  | nil =>
    simp only [allExports, List.map_nil, List.append_nil]
    exact .mapM_nil
  | cons c rest ih =>
    have hhead : Yields (fun n => property (expression realm n scope)
        (.node .property [.string c.key, exports c.identifier])) ⟨objects, scopes⟩
        (c.key, .object objects.length)
        ⟨objects ++ [exportsObject (value c.identifier)], scopes⟩ :=
      (exports_yields (hread c List.mem_cons_self objects)).bind .pure
    have htail := ih (fun c hc => hread c (List.mem_cons_of_mem _ hc))
      (objects ++ [exportsObject (value c.identifier)])
    simp only [List.length_append, List.length_singleton, List.append_assoc] at htail
    exact hhead.mapM_cons htail

theorem modulesObject_yields {scopes : List Bindings} {modules : List ContextModule}
    (hkeys : (modules.map ContextModule.key).Nodup)
    (hread : ∀ c ∈ modules, ∀ objects, readName c.identifier scope ⟨objects, scopes⟩ =
      .ok (value c.identifier, ⟨objects, scopes⟩)) {objects : List Object} {first : Nat}
    (hfirst : objects.length = first) :
    Yields (fun n => expression realm n scope (modulesObject modules)) ⟨objects, scopes⟩
      (.object (first + modules.length))
      ⟨objects ++ allExports value modules ++ [tableObject first modules], scopes⟩ := by
  subst hfirst
  refine .step ((properties_yield hread objects).bind (.of_eq ?_))
  rw [objectOf, literal_ofPlaces (by rwa [places_keys])]
  simp [newObject, tableObject, allExports]

/-- A list of keys evaluates to an array of them. -/
theorem keys_yield (modules : List ContextModule) (m : Memory) :
    Yields (fun n => expression realm n scope (.node .array (modules.map fun c => .string c.key))) m
      (.object m.objects.length)
      { m with objects := m.objects ++ [⟨.array (modules.map fun c => .string c.key), none, []⟩] } := by
  have hkeys : Yields (fun n => (modules.map fun c => Tree.string c.key).mapM
      (expression realm n scope)) m (modules.map fun c => .string c.key) m := by
    induction modules with
    | nil => exact .mapM_nil
    | cons c rest ih => exact Yields.mapM_cons (.step .pure) ih
  exact .step (hkeys.bind (.of_eq rfl))

/-- The function an accessor calls at once. -/
def closure (modules : List ContextModule) (scope : List Nat) : Object :=
  ⟨.function [] (.node .block (body modules)) scope, none, []⟩

def lookupBody : Tree := .node .member [.name "modules", .node .computed [.name "id"]]

/-- The function that is the context, with its own properties. -/
def lookupObject (scope : List Nat) (properties : Table Value) : Object :=
  ⟨.function ["id"] lookupBody scope, none, properties⟩

def keysBody (modules : List ContextModule) : Tree :=
  .node .array (modules.map fun c => .string c.key)

def keysObject (modules : List ContextModule) (scope : List Nat) : Object :=
  ⟨.function [] (keysBody modules) scope, none, []⟩

/-- The scopes in reach of the body if `first` were there before. -/
def inner (first : Nat) (scope : List Nat) : List Nat := (first + 1) :: first :: scope

/-- Where the table stands if `first` objects were there before; the context and its keys function
follow it. -/
def tablePlace (first : Nat) (modules : List ContextModule) : Nat := first + 1 + modules.length

/-- The objects that there are once the table is made. -/
def tabled (value : String → Value) (modules : List ContextModule) (scope : List Nat)
    (objects : List Object) : List Object :=
  objects ++ [closure modules scope] ++ allExports value modules ++
    [tableObject (objects.length + 1) modules]

theorem length_tabled (modules : List ContextModule) (objects : List Object) :
    (tabled value modules scope objects).length = tablePlace objects.length modules + 1 := by
  simp only [tabled, allExports, tablePlace, List.length_append, List.length_map, List.length_cons,
    List.length_nil]

/-- What an accessor leaves in memory. -/
def made (value : String → Value) (modules : List ContextModule) (scope : List Nat) (m : Memory) :
    Memory :=
  let table := tablePlace m.objects.length modules
  let reach := inner m.scopes.length scope
  { objects := tabled value modules scope m.objects ++
      [lookupObject reach [("keys", .object (table + 2))], keysObject modules reach]
    scopes := m.scopes ++
      [[], [("modules", some (.object table)), ("context", some (.object (table + 1)))]] }

/-! ## The statements of the body -/

section
variable {objects objects' : List Object} {scopes : List Bindings} {b : Bindings} {v : Value}

theorem getElem?_own : (scopes ++ [[], b])[scopes.length + 1]? = some b := by simp

theorem set_own {b' : Bindings} :
    (scopes ++ [[], b]).set (scopes.length + 1) b' = scopes ++ [[], b'] := by simp

/-- The body's locals hide no binding, before their own declarations either. -/
theorem readName_inner {identifier : String} {before : List Object}
    (hfree : identifier ∉ Binding.accessorLocals)
    (hread : readName identifier scope ⟨before, scopes⟩ = .ok (v, ⟨before, scopes⟩)) :
    readName identifier (inner scopes.length scope)
        ⟨objects, scopes ++ [[], [("modules", none), ("context", none)]]⟩ =
      .ok (v, ⟨objects, scopes ++ [[], [("modules", none), ("context", none)]]⟩) := by
  have hlocal : ([("modules", none), ("context", none)] : Bindings).lookup identifier = none := by
    apply lookup_of_notMem
    intro h
    apply hfree
    simp only [List.map_cons, List.map_nil, List.mem_cons, List.not_mem_nil, or_false] at h
    rcases h with rfl | rfl <;> decide
  have hparams : (scopes ++ [[], [("modules", none), ("context", none)]])[scopes.length]? =
      some ([] : Bindings) := by simp
  rw [inner, readName_outer getElem?_own hlocal, readName_outer hparams rfl]
  exact readName_grown (List.prefix_append _ _) hread

/-- A statement of the body. -/
def runIn (realm : Realm) (reach : List Nat) (n : Nat) : Tree → Eval (Option Value) :=
  statement (expression realm n reach) reach

theorem binding_yields {x : String} {e : Tree}
    (he : Yields (fun n => expression realm n (inner scopes.length scope) e)
      ⟨objects, scopes ++ [[], b]⟩ v ⟨objects', scopes ++ [[], b]⟩) :
    Yields (fun n => runIn realm (inner scopes.length scope) n (binding x e))
      ⟨objects, scopes ++ [[], b]⟩ none ⟨objects', scopes ++ [[], Table.put x (some v) b]⟩ := by
  refine he.bind (.of_eq ?_)
  have hset : setFirst x v (inner scopes.length scope) ⟨objects', scopes ++ [[], b]⟩ =
      .ok ((), ⟨objects', scopes ++ [[], Table.put x (some v) b]⟩) := by
    rw [inner, setFirst, bind_eq (scopeAt_eq getElem?_own)]
    exact congrArg (fun s => Except.ok ((), (⟨objects', s⟩ : Memory))) set_own
  rw [bind_eq hset]
  rfl

theorem arrow_yields (params : List String) {e : Tree} {reach : List Nat} {place : Nat}
    (hplace : objects.length = place)
    (hparams : parameters (.list (params.map .name)) ⟨objects, scopes⟩ =
      .ok (params, ⟨objects, scopes⟩)) :
    Yields (fun n => expression realm n reach (arrow (params.map .name) e)) ⟨objects, scopes⟩
      (.object place) ⟨objects ++ [⟨.function params e reach, none, []⟩], scopes⟩ := by
  subst hplace
  refine .step (.of_eq ?_)
  show (parameters _ >>= fun ps => newObject ⟨.function ps e reach, none, []⟩) _ = _
  rw [bind_eq hparams]
  rfl

/-- Reads one of the locals of the body. -/
theorem local_yields {x : String} (hv : b.lookup x = some (some v)) :
    Yields (fun n => expression realm n (inner scopes.length scope) (.name x))
      ⟨objects, scopes ++ [[], b]⟩ v ⟨objects, scopes ++ [[], b]⟩ :=
  .step (.of_eq (readName_own getElem?_own hv))

theorem writeMember_yields {before after : List Object} {o : Object} {key : String} {place : Nat}
    (hplace : before.length = place) (hkey : key ≠ prototypeKey) :
    Yields (fun _ => writeMember (.object place) key v) ⟨before ++ [o] ++ after, scopes⟩ ()
      ⟨before ++ { o with properties := Table.put key v o.properties } :: after, scopes⟩ := by
  subst hplace
  have ho : (before ++ [o] ++ after)[before.length]? = some o := by simp
  refine .of_eq ?_
  rw [writeMember, if_neg hkey, bind_eq (objectAt_eq ho)]
  show Except.ok ((), (⟨(before ++ [o] ++ after).set before.length _, scopes⟩ : Memory)) = _
  simp

end

/-! ## The whole accessor -/

theorem accessor_yields {modules : List ContextModule} {m : Memory} (span : Span) (directory : Path)
    (hkeys : (modules.map ContextModule.key).Nodup)
    (hread : ∀ c ∈ modules, c.identifier ∉ Binding.accessorLocals ∧
      readName c.identifier scope m = .ok (value c.identifier, m)) :
    Yields (fun n => expression realm n scope ((⟨directory, modules⟩ : ResolvedContext).accessor span))
      m (.object (tablePlace m.objects.length modules + 1)) (made value modules scope m) := by
  obtain ⟨objects, scopes⟩ := m
  have hclosure : Yields (fun n => expression realm n scope
      (.node .paren [arrow [] (.node .block (body modules))])) ⟨objects, scopes⟩
      (.object objects.length) ⟨objects ++ [closure modules scope], scopes⟩ :=
    .step (arrow_yields [] rfl rfl)
  have hplace : (objects ++ [closure modules scope])[objects.length]? =
      some (closure modules scope) := by simp
  refine .step (hclosure.bind (Yields.mapM_nil.bind ?_))
  refine Yields.call_block hplace rfl (r := some _) ?_
  let reach := inner scopes.length scope
  let table := tablePlace objects.length modules
  have htable : Yields (fun n => runIn realm reach n (binding "modules" (modulesObject modules)))
      ⟨objects ++ [closure modules scope], scopes ++ [[], [("modules", none), ("context", none)]]⟩
      none
      ⟨tabled value modules scope objects,
        scopes ++ [[], [("modules", some (.object table)), ("context", none)]]⟩ :=
    binding_yields (modulesObject_yields hkeys
      (fun c hc _ => readName_inner (hread c hc).1 (hread c hc).2) (by simp))
  have hlookup : Yields (fun n => runIn realm reach n (binding "context" lookup))
      ⟨tabled value modules scope objects,
        scopes ++ [[], [("modules", some (.object table)), ("context", none)]]⟩
      none
      ⟨tabled value modules scope objects ++ [lookupObject reach []],
        scopes ++ [[], [("modules", some (.object table)), ("context", some (.object (table + 1)))]]⟩ :=
    binding_yields (arrow_yields ["id"] (length_tabled modules objects) rfl)
  have hreturn : Yields (fun n => runIn realm reach n (.node .returnStatement [.name "context"]))
      (made value modules scope ⟨objects, scopes⟩) (some (.object (table + 1)))
      (made value modules scope ⟨objects, scopes⟩) := (local_yields rfl).bind .pure
  have hassign : Yields (fun n => expression realm n reach (.node (.assign "=")
        [.node .member [.name "context", .name "keys"], keysFunction modules]))
      ⟨tabled value modules scope objects ++ [lookupObject reach []],
        scopes ++ [[], [("modules", some (.object table)), ("context", some (.object (table + 1)))]]⟩
      (.object (table + 2)) (made value modules scope ⟨objects, scopes⟩) := by
    have hkeysPlace : (tabled value modules scope objects ++ [lookupObject reach []]).length =
        table + 2 := by simp [length_tabled, table]
    refine .step ((local_yields rfl).bind ((arrow_yields [] hkeysPlace rfl).bind ?_))
    exact (writeMember_yields (length_tabled modules objects) (by decide)).bind .pure
  exact htable.runAll_next (hlookup.runAll_next
    (Yields.runAll_next (hassign.bind .pure) hreturn.runAll_return))

/-! ## Lookups -/

section
variable {modules : List ContextModule}

/-- A key is looked up in the table as in the list of the modules. -/
theorem lookup_places (first : Nat) (modules : List ContextModule) (key : String) :
    (places first modules).lookup key = none ∧ modules.find? (·.key = key) = none ∨
      ∃ i c, modules[i]? = some c ∧ modules.find? (·.key = key) = some c ∧
        (places first modules).lookup key = some (first + i) := by
  induction modules generalizing first with
  | nil => exact .inl ⟨rfl, rfl⟩
  | cons c rest ih =>
    by_cases hkey : c.key = key
    · refine .inr ⟨0, c, rfl, ?_, ?_⟩ <;> simp [places, hkey]
    · have hkey' : (key == c.key) = false := beq_eq_false_iff_ne.mpr (Ne.symm hkey)
      rcases ih (first + 1) with ⟨hlookup, hfind⟩ | ⟨i, d, hi, hfind, hlookup⟩
      · exact .inl ⟨by simp [places, List.lookup_cons, hkey', hlookup], by simp [hkey, hfind]⟩
      · refine .inr ⟨i + 1, d, hi, by simp [hkey, hfind], ?_⟩
        simp only [places, List.lookup_cons, hkey', hlookup]
        exact congrArg some (by omega)

theorem lookup_place {first i : Nat} {c : ContextModule}
    (hkeys : (modules.map ContextModule.key).Nodup) (hi : modules[i]? = some c) :
    (places first modules).lookup c.key = some (first + i) := by
  induction modules generalizing first i with
  | nil => cases hi
  | cons d rest ih =>
    obtain ⟨hd, hrest⟩ := List.nodup_cons.mp hkeys
    rw [places, lookup_cons_if]
    cases i with
    | zero =>
      cases hi
      rw [if_pos rfl, Nat.add_zero]
    | succ i =>
      have hc : c ∈ rest := List.mem_of_getElem? hi
      have hne : c.key ≠ d.key := fun h => hd (h ▸ List.mem_map_of_mem hc)
      rw [if_neg hne, ih hrest hi]
      exact congrArg some (by omega)

theorem lookup_properties (first : Nat) (modules : List ContextModule) (key : String) :
    (tableObject first modules).properties.lookup key =
      if key = prototypeKey then none else ((places first modules).lookup key).map .object := by
  have hfilter := lookup_filter (fun k => decide (k ≠ prototypeKey)) key (places first modules)
  rw [tableObject, lookup_ofPlaces, hfilter]
  by_cases hkey : key = prototypeKey <;> simp [hkey]

/-- What the table's prototypes have for a key. -/
def beyondTable (realm : Realm) (value : String → Value) (first : Nat)
    (modules : List ContextModule) (key : String) : Value :=
  match modules.find? (·.key = prototypeKey) with
  | some c =>
    if key = "default" then value c.identifier
    else inherited realm (tableObject first modules) (exportsObject (value c.identifier)) key
  | none => inherited realm (tableObject first modules) (tableObject first modules) key

/-- What a context gives for a key if the exports of its modules stand from `first` on. -/
def answer (realm : Realm) (value : String → Value) (first : Nat) (modules : List ContextModule)
    (key : String) : Value :=
  ((tableObject first modules).properties.lookup key).getD
    (beyondTable realm value first modules key)

theorem answer_key {first i : Nat} {c : ContextModule}
    (hkeys : (modules.map ContextModule.key).Nodup) (hi : modules[i]? = some c) :
    answer realm value first modules c.key = .object (first + i) := by
  have hplace : (places first modules).lookup c.key = some (first + i) := lookup_place hkeys hi
  have hown := lookup_properties first modules c.key
  by_cases hproto : c.key = prototypeKey
  · have hinherited (last : Object) :
        inherited realm (tableObject first modules) last c.key = .object (first + i) := by
      rw [inherited, if_pos hproto, tableObject, ← hproto, hplace]
      rfl
    have hdefault : c.key ≠ "default" := by rw [hproto]; decide
    rw [if_pos hproto] at hown
    rw [answer, hown, Option.getD_none, beyondTable]
    split
    · rw [if_neg hdefault, hinherited]
    · rw [hinherited]
  · rw [if_neg hproto, hplace] at hown
    rw [answer, hown]
    rfl

theorem lookUp_yields {m : Memory} {first : Nat} (key : String)
    (hexports : ∀ i c, modules[i]? = some c →
      m.objects[first + i]? = some (exportsObject (value c.identifier))) :
    Yields (fun n => lookUp realm (tableObject first modules) key n (tableObject first modules)) m
      (answer realm value first modules key) m := by
  have hplain : ∀ es, (tableObject first modules).kind ≠ .array es := nofun
  cases hown : (tableObject first modules).properties.lookup key with
  | some v =>
    rw [answer, hown]
    exact .lookUp_own hplain hown
  | none =>
    rw [answer, hown, Option.getD_none, beyondTable]
    rcases lookup_places first modules prototypeKey with
      ⟨hprototype, hfind⟩ | ⟨i, c, hi, hfind, hprototype⟩
    · simp only [hfind]
      exact .lookUp_end hplain hown hprototype
    · simp only [hfind]
      refine .lookUp_prototype hplain hown hprototype (hexports i c hi) ?_
      by_cases hdefault : key = "default"
      · rw [if_pos hdefault]
        exact .lookUp_own nofun (by rw [hdefault]; rfl)
      · rw [if_neg hdefault]
        refine .lookUp_end nofun ?_ rfl
        rw [exportsObject, lookup_cons_if, if_neg hdefault]
        rfl

end

/-! ## Calls of the context -/

section
variable {modules : List ContextModule} {m later : Memory}

theorem made_exports {i : Nat} {c : ContextModule} (hi : modules[i]? = some c) :
    (made value modules scope m).objects[m.objects.length + 1 + i]? =
      some (exportsObject (value c.identifier)) := by
  have hexports : (allExports value modules)[i]? = some (exportsObject (value c.identifier)) := by
    simp [allExports, hi]
  have hlt : i < (allExports value modules).length := (List.getElem?_eq_some_iff.mp hexports).1
  have hbefore : (m.objects ++ [closure modules scope]).length = m.objects.length + 1 := by
    simp only [List.length_append, List.length_singleton]
  rw [made, tabled, List.append_assoc, List.append_assoc, List.getElem?_append_right (by omega),
    hbefore, Nat.add_sub_cancel_left, List.getElem?_append_left hlt, hexports]

theorem made_table : (made value modules scope m).objects[tablePlace m.objects.length modules]? =
    some (tableObject (m.objects.length + 1) modules) := by
  have hlength : (m.objects ++ [closure modules scope] ++ allExports value modules).length =
      tablePlace m.objects.length modules := by
    simp only [allExports, tablePlace, List.length_append, List.length_singleton, List.length_map]
  simp only [made, tabled]
  rw [List.append_assoc _ [_] _]
  exact getElem?_append_cons hlength

theorem made_lookup :
    (made value modules scope m).objects[tablePlace m.objects.length modules + 1]? =
      some (lookupObject (inner m.scopes.length scope)
        [("keys", .object (tablePlace m.objects.length modules + 2))]) :=
  getElem?_append_cons (length_tabled modules m.objects)

theorem made_keys :
    (made value modules scope m).objects[tablePlace m.objects.length modules + 2]? =
      some (keysObject modules (inner m.scopes.length scope)) := by
  simp only [made]
  rw [← List.singleton_append, ← List.append_assoc]
  exact getElem?_append_cons (by simp [length_tabled])

/-- A context gives its answer for every key, in whatever became of memory around it. -/
theorem lookup_answers (hkeeps : m.Keeps (made value modules scope m) later) (key : String) :
    ∃ last, Yields (fun n => applyTo realm n (.object (tablePlace m.objects.length modules + 1))
        [.string key]) later (answer realm value (m.objects.length + 1) modules key) last ∧
      m.Keeps (made value modules scope m) last := by
  have hself := hkeeps.objects _ (by rw [tablePlace]; omega) _ made_lookup
  have hlocals := hkeeps.scopes (m.scopes.length + 1) (by omega) _ getElem?_own
  let last : Memory := { later with scopes := later.scopes ++ [[("id", some (.string key))]] }
  have hgrown : later.scopes <+: last.scopes := List.prefix_append _ _
  have htable : last.objects[tablePlace m.objects.length modules]? =
      some (tableObject (m.objects.length + 1) modules) :=
    hkeeps.objects _ (by rw [tablePlace]; omega) _ made_table
  have hid : last.scopes[later.scopes.length]? = some [("id", some (.string key))] :=
    getElem?_append_cons rfl
  have hmodules : readName "modules" (later.scopes.length :: inner m.scopes.length scope) last =
      .ok (.object (tablePlace m.objects.length modules), last) := by
    rw [readName_outer hid rfl]
    exact readName_own (getElem?_of_grown hgrown hlocals) rfl
  have hexports : ∀ i c, modules[i]? = some c →
      last.objects[m.objects.length + 1 + i]? = some (exportsObject (value c.identifier)) :=
    fun i c hi => hkeeps.objects _ (by omega) _ (made_exports hi)
  refine ⟨last, .call_expression hself rfl nofun (.step ?_), hkeeps.grown (List.prefix_refl _) hgrown⟩
  refine (Yields.step (.of_eq hmodules)).bind ((Yields.step (.of_eq (readName_own hid rfl))).bind ?_)
  exact Yields.pure.bind ((Yields.of_eq (objectAt_eq htable)).bind (lookUp_yields key hexports))

/-- The function behind `keys` makes a list of all keys. -/
theorem keys_answers (hkeeps : m.Keeps (made value modules scope m) later) :
    ∃ place last, Yields (fun n => invoke realm n
        (.object (tablePlace m.objects.length modules + 1)) "keys" []) later (.object place) last ∧
      last.objects[place]? = some ⟨.array (modules.map fun c => .string c.key), none, []⟩ ∧
      m.Keeps (made value modules scope m) last := by
  have hself := hkeeps.objects _ (by rw [tablePlace]; omega) _ made_lookup
  have hkeys := hkeeps.objects _ (by rw [tablePlace]; omega) _ made_keys
  refine ⟨_, _, (Yields.bind ?_ (.call_expression hkeys rfl nofun (keys_yield modules _))),
    getElem?_append_cons rfl, hkeeps.grown (List.prefix_append _ _) (List.prefix_append _ _)⟩
  exact (Yields.of_eq (objectAt_eq hself)).bind (.lookUp_own nofun rfl)

end

/-- A function serves the modules in `later`, a memory that keeps what it made between `before` and
`after`: it gives an answer for every key, which for the key of a module is an object whose only
property `default` is the value of the module's binding, and its `keys` gives all keys in the order of
the modules. Neither disturbs what it made. -/
structure Serves (realm : Realm) (modules : List ContextModule) (value : String → Value)
    (context : Value) (answer : String → Value) (before after later : Memory) : Prop where
  answers : ∀ key, ∃ last,
    Yields (fun n => applyTo realm n context [.string key]) later (answer key) last ∧
      before.Keeps after last
  exports : ∀ x ∈ modules, ∃ place, answer x.key = .object place ∧
    later.objects[place]? = some ⟨.plain, none, [("default", value x.identifier)]⟩
  keys : ∃ place last,
    Yields (fun n => invoke realm n context "keys" []) later (.object place) last ∧
      last.objects[place]? = some ⟨.array (modules.map fun x => .string x.key), none, []⟩ ∧
      before.Keeps after last

/-- The accessor of a context behaves as a context. Where every binding of a module stands for a value,
it evaluates without a failure to a function that serves the modules, and goes on to do so while memory
changes around what it made. The function and its answers are the same whatever the scopes are and
whatever else they bind. -/
theorem behaves (realm : Realm) (c : ResolvedContext) (span : Span) (objects : List Object)
    (value : String → Value) (hidentifiers : ∀ x ∈ c.modules, x.identifier = Binding.ofKey x.key)
    (hkeys : (c.modules.map ContextModule.key).Nodup) :
    ∃ (context : Value) (answer : String → Value), ∀ scopes scope,
      (∀ x ∈ c.modules, Memory.Binds ⟨objects, scopes⟩ scope x.identifier (value x.identifier)) →
      ∃ after,
        Yields (fun n => expression realm n scope (c.accessor span)) ⟨objects, scopes⟩ context after ∧
        ∀ later, Memory.Keeps ⟨objects, scopes⟩ after later →
          Serves realm c.modules value context answer ⟨objects, scopes⟩ after later := by
  refine ⟨.object (tablePlace objects.length c.modules + 1),
    answer realm value (objects.length + 1) c.modules, fun scopes scope hbinds => ?_⟩
  have hread : ∀ x ∈ c.modules, x.identifier ∉ Binding.accessorLocals ∧
      readName x.identifier scope ⟨objects, scopes⟩ = .ok (value x.identifier, ⟨objects, scopes⟩) :=
    fun x hx => ⟨hidentifiers x hx ▸ (Binding.legal_ofKey x.key).free, hbinds x hx⟩
  refine ⟨_, accessor_yields span c.directory hkeys hread, fun later hkeeps => ⟨?_, ?_, ?_⟩⟩
  · exact lookup_answers hkeeps
  · intro x hx
    obtain ⟨i, hi⟩ := List.getElem?_of_mem hx
    exact ⟨_, answer_key hkeys hi, hkeeps.objects _ (by simp only; omega) _ (made_exports hi)⟩
  · exact keys_answers hkeeps

/-- Two modules, one of which is named like a local of the accessor. -/
def twoModules : ResolvedContext where
  directory := .ofString "/src/x"
  modules :=
    [⟨.ofString "/src/x/a.js", "./a.js", "./x/a.js", "A"⟩,
     ⟨.ofString "/src/x/$modules.js", "./$modules.js", "./x/$modules.js", "Modules"⟩]

/-- A scope that has the accessor's own names, in one that has the bindings. -/
def shadowing : Memory where
  objects := []
  scopes :=
    [[("A", some (.other 1)), ("Modules", some (.other 2))],
     [("modules", some .undefined), ("context", none), ("id", some (.string "outer"))]]

theorem behaves_shadowing : ∃ context answer after,
    Yields (fun n => expression (fun _ _ => .undefined) n [1, 0] (twoModules.accessor ⟨0, 0⟩))
        shadowing context after ∧
      Serves (fun _ _ => .undefined) twoModules.modules
        (fun name => if name = "A" then .other 1 else .other 2) context answer shadowing after after := by
  obtain ⟨context, answer, h⟩ := behaves (fun _ _ => .undefined) twoModules ⟨0, 0⟩ []
    (fun name => if name = "A" then .other 1 else .other 2) (by decide +kernel) (by decide +kernel)
  have hbinds : ∀ x ∈ twoModules.modules, Memory.Binds ⟨[], shadowing.scopes⟩ [1, 0] x.identifier
      (if x.identifier = "A" then .other 1 else .other 2) := by
    simp only [twoModules, List.forall_mem_cons]
    exact ⟨rfl, rfl, nofun⟩
  obtain ⟨after, hyields, hserves⟩ := h shadowing.scopes [1, 0] hbinds
  exact ⟨context, answer, after, hyields, hserves after (.refl _ _)⟩

/-- A module that is imported as a local of the accessor would be read before it is declared. -/
example : expression (fun _ _ => .undefined) 9 [0]
    ((⟨.ofString "/x", [⟨.ofString "/x/a.js", "./a.js", "./x/a.js", "context"⟩]⟩ :
      ResolvedContext).accessor ⟨0, 0⟩) ⟨[], [[("context", some (.other 1))]]⟩ =
    .error (.uninitialized "context") := rfl

end Accessor
end StaticContext
