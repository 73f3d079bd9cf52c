import StaticContext.Path.Relative
import StaticContext.Proofs.PathNormalForm
import StaticContext.Proofs.TextEncoding

/-! # Relative texts lead where they are to

The way from a directory to a place climbs out of what the two do not share and goes down by the rest of
the place's names. Spelled as text and joined to the directory it leads to the place, if the names that
it spells are legible. -/

namespace StaticContext.Path
open Component

/-! ## Steps and their text -/

/-- A step whose spelling is a text. -/
def Step : Component → Prop
  | .up => True
  | .name n => n.Legible
  | _ => False

theorem Step.inner {c : Component} (h : Step c) : Inner c := by
  cases c with
  | up | name n => trivial
  | root | here => exact h.elim

def textOf : Component → String
  | .name n => Utf8.lossy n.bytes
  | .up => ".."
  | _ => ""

theorem mapM_stepText {steps : List Component} (h : ∀ c ∈ steps, Inner c) :
    steps.mapM stepText = some (steps.map textOf) := by
  induction steps with
  | nil => rfl
  | cons c rest ih =>
    have hc : stepText c = some (textOf c) := by
      cases c with
      | up | name n => rfl
      | root | here => exact (h _ List.mem_cons_self).elim
    simp [hc, ih fun c hc => h c (List.mem_cons_of_mem _ hc)]

theorem encode_textOf {c : Component} (h : Step c) :
    (textOf c).toList.flatMap String.utf8EncodeChar = c.bytes := by
  cases c with
  | up => decide
  | name n => rw [← toUTF8_toList]; exact h.lossy_toUTF8
  | root | here => exact h.elim

theorem encode_intercalate {steps : List Component} (h : ∀ c ∈ steps, Step c) :
    ("/".intercalate (steps.map textOf)).toList.flatMap String.utf8EncodeChar = spell steps := by
  induction steps with
  | nil => rfl
  | cons c rest ih =>
    have hc := encode_textOf (h c List.mem_cons_self)
    have hrest := ih fun c hc => h c (List.mem_cons_of_mem _ hc)
    cases rest with
    | nil => simpa [spell] using hc
    | cons d rest =>
      have hslash : "/".toList.flatMap String.utf8EncodeChar = [slash] := by decide
      rw [List.map_cons] at hrest
      simp only [List.map_cons, String.intercalate_cons_cons, String.toList_append,
        List.flatMap_append, hc, hrest, hslash, spell, List.append_assoc, List.singleton_append]

/-- The text of the steps of a way. -/
def textOfSteps (steps : List Component) : String :=
  if steps.head? = some .up then "/".intercalate (steps.map textOf)
  else "./" ++ "/".intercalate (steps.map textOf)

theorem relativeText_eq {base target : Path} {steps : List Component}
    (hway : base.wayTo target = some steps) (h : ∀ c ∈ steps, Inner c) :
    base.relativeText target = some (textOfSteps steps) := by
  have hfilter : steps.filter (· != .here) = steps := by
    refine List.filter_eq_self.mpr fun c hc => ?_
    have hstep := h c hc
    cases c with
    | up | name n | root => rfl
    | here => exact hstep.elim
  rw [relativeText, hway]
  simp only [Option.bind_eq_bind, Option.bind_some, hfilter, mapM_stepText h, textOfSteps]
  split <;> rfl

theorem bytes_textOfSteps {steps : List Component} (h : ∀ c ∈ steps, Step c) :
    (ofString (textOfSteps steps)).bytes =
      if steps.head? = some .up then spell steps else dot :: slash :: spell steps := by
  unfold textOfSteps ofString
  split
  · rw [toUTF8_toList, encode_intercalate h]
  · have hopening : "./".toList.flatMap String.utf8EncodeChar = [dot, slash] := by decide
    rw [toUTF8_toList, String.toList_append, List.flatMap_append, encode_intercalate h, hopening]
    rfl

/-- The text of steps reads back as the steps, behind a `.` unless the first one climbs. -/
theorem components_textOfSteps {steps : List Component} (h : ∀ c ∈ steps, Step c) :
    (ofString (textOfSteps steps)).components =
      if steps.head? = some .up then steps else .here :: steps := by
  have hinner : ∀ c ∈ steps, Inner c := fun c hc => (h c hc).inner
  have hcomponents : (ofString (textOfSteps steps)).components =
      components ⟨(ofString (textOfSteps steps)).bytes⟩ := rfl
  rw [hcomponents, bytes_textOfSteps h]
  split
  · next hup =>
    cases steps with
    | nil => cases hup
    | cons c rest =>
      cases hup
      have hne : Component.up ≠ .root := nofun
      exact components_spell hne fun d hd => hinner d (List.mem_cons_of_mem _ hd)
  · have hhere : components ⟨[dot]⟩ = [.here] := by decide
    have happend := components_append_slash [dot] (List.cons_ne_nil _ _) (spell steps)
    rwa [inner_spell hinner, hhere] at happend

/-- The text of steps is a relative path that takes them. -/
theorem ofString_textOfSteps {steps : List Component} (h : ∀ c ∈ steps, Step c) :
    (ofString (textOfSteps steps)).isAbsolute = false ∧
      inner (ofString (textOfSteps steps)).bytes = steps := by
  have hspell := inner_spell fun c hc => (h c hc).inner
  constructor
  · rw [Bool.eq_false_iff, Ne, isAbsolute_iff, components_textOfSteps h]
    split
    · next hup => rw [hup]; nofun
    · nofun
  · rw [bytes_textOfSteps h]
    split
    · exact hspell
    · have hinner : inner (dot :: slash :: spell steps) = inner [dot] ++ inner (spell steps) :=
        inner_append_slash [dot] _
      rw [hinner, hspell]
      rfl

/-- How the text of steps opens, if it does not end in a climb. -/
theorem opening_textOfSteps (count : Nat) (n : FileName) (rest : List Component) :
    ∃ more, textOfSteps (List.replicate count .up ++ .name n :: rest) =
      (if count = 0 then "./" else "../") ++ more := by
  cases count with
  | zero =>
    have hhead : (Component.name n :: rest).head? ≠ some .up := nofun
    exact ⟨_, if_neg hhead⟩
  | succ count =>
    obtain ⟨d, more, hmore⟩ : ∃ d more, List.replicate count Component.up ++ .name n :: rest = d :: more := by
      cases count <;> exact ⟨_, _, rfl⟩
    refine ⟨"/".intercalate ((d :: more).map textOf), ?_⟩
    rw [List.replicate_succ, List.cons_append, hmore, textOfSteps, List.head?_cons, if_pos rfl,
      List.map_cons, List.map_cons, String.intercalate_cons_cons]
    rfl

/-! ## Ways -/

theorem foldl_settle_climb (names : List FileName) (stack : List Component) :
    (List.replicate names.length .up).foldl settle (named names ++ stack) = stack := by
  induction names with
  | nil => rfl
  | cons n names ih =>
    rw [List.length_cons, List.replicate_succ, List.foldl_cons]
    exact ih

/-- Climbing out of names that were gone down takes them back. -/
theorem collapse_climb (front names rest : List FileName) :
    collapse (.root :: named (front ++ names) ++
        (List.replicate names.length .up ++ named rest)) =
      .root :: named (front ++ rest) := by
  have hdown : (Component.root :: named (front ++ names)).foldl settle [] =
      named names.reverse ++ (named front.reverse ++ [.root]) := by
    rw [List.foldl_cons, foldl_settle_named]
    simp [settle, named_reverse]
  have hback : (List.replicate names.length Component.up).foldl settle
      (named names.reverse ++ (named front.reverse ++ [.root])) = named front.reverse ++ [.root] := by
    simpa using foldl_settle_climb names.reverse (named front.reverse ++ [.root])
  have hclimbed : collapse (.root :: named (front ++ names) ++ List.replicate names.length .up) =
      .root :: named front := by
    rw [collapse, List.foldl_append, hdown, hback]
    simp [named_reverse]
  rw [← List.append_assoc, collapse_append_named, hclimbed, named_append]
  rfl

theorem way_climb (left : Bool) (bs : List FileName) :
    way left [] (named bs) = some (List.replicate bs.length .up) := by
  induction bs generalizing left with
  | nil => rfl
  | cons b bs ih => rw [named_cons, way, ih]; rfl

/-- The way between two lists of names climbs out of what is left of the base behind the longest common
front and goes down by what is left of the target. -/
theorem way_named (bs ts : List FileName) :
    ∃ front climbed descended, bs = front ++ climbed ∧ ts = front ++ descended ∧
      (∀ q, q <+: bs → q <+: ts → q <+: front) ∧
      way false (named ts) (named bs) =
        some (List.replicate climbed.length .up ++ named descended) := by
  induction bs generalizing ts with
  | nil => exact ⟨[], [], ts, rfl, rfl, fun _ hq _ => hq, by simp [way]⟩
  | cons b bs ih =>
    cases ts with
    | nil =>
      exact ⟨[], b :: bs, [], rfl, rfl, fun _ _ hq => hq, by simpa using way_climb false (b :: bs)⟩
    | cons t ts =>
      by_cases heq : t = b
      · subst heq
        obtain ⟨front, climbed, descended, hbs, hts, hlongest, hway⟩ := ih ts
        refine ⟨t :: front, climbed, descended, by rw [hbs]; rfl, by rw [hts]; rfl, ?_, ?_⟩
        · intro q hq hq'
          cases q with
          | nil => exact List.nil_prefix
          | cons c q =>
            obtain ⟨hc, hbelow⟩ := List.cons_prefix_cons.mp hq
            exact List.cons_prefix_cons.mpr
              ⟨hc, hlongest q hbelow (List.cons_prefix_cons.mp hq').2⟩
        · rw [← hway]
          simp [way]
      · refine ⟨[], b :: bs, t :: ts, rfl, rfl, ?_, ?_⟩
        · intro q hq hq'
          cases q with
          | nil => exact List.nil_prefix
          | cons c q =>
            have hc : c = b := (List.cons_prefix_cons.mp hq).1
            exact absurd ((List.cons_prefix_cons.mp hq').1.symm.trans hc) heq
        · have hmap : (named bs).map (fun _ => Component.up) = List.replicate bs.length .up := by
            rw [named, List.map_map]
            exact List.map_const' ..
          simp [way, heq, hmap, List.replicate_succ]

theorem step_of_mem_named {names : List FileName} (h : ∀ n ∈ names, n.Legible) :
    ∀ c ∈ named names, Step c := by
  intro c hc
  obtain ⟨n, hn, rfl⟩ := List.mem_map.mp hc
  exact h n hn

theorem step_of_mem_climb (count : Nat) {names : List FileName} (h : ∀ n ∈ names, n.Legible) :
    ∀ c ∈ List.replicate count .up ++ named names, Step c := by
  intro c hc
  rcases List.mem_append.mp hc with hc | hc
  · rw [List.eq_of_mem_replicate hc]
    trivial
  · exact step_of_mem_named h c hc

/-- The text from a directory below the root to a place below the root climbs to the deepest directory
above both, if all names that follow some common front are legible. -/
theorem relativeText_named {base target : Path} {bs q rest : List FileName}
    (hbase : base.components = .root :: named bs) (hq : q <+: bs)
    (htarget : target.components = .root :: named (q ++ rest)) (hrest : ∀ n ∈ rest, n.Legible) :
    ∃ front climbed descended, bs = front ++ climbed ∧ q ++ rest = front ++ descended ∧
      (∀ q', q' <+: bs → q' <+: q ++ rest → q' <+: front) ∧ (∀ n ∈ descended, n.Legible) ∧
      base.relativeText target =
        some (textOfSteps (List.replicate climbed.length .up ++ named descended)) := by
  have hbaseAbs : base.isAbsolute = true := isAbsolute_iff.mpr (by rw [hbase]; rfl)
  have htargetAbs : target.isAbsolute = true := isAbsolute_iff.mpr (by rw [htarget]; rfl)
  obtain ⟨front, climbed, descended, hbs, hts, hlongest, hway⟩ := way_named bs (q ++ rest)
  have hdescended : ∀ n ∈ descended, n.Legible := by
    -- the longest common front holds `q`, so what is left of the target is left behind `q` too
    obtain ⟨more, rfl⟩ := hlongest q hq (List.prefix_append q rest)
    rw [List.append_assoc, List.append_cancel_left_eq] at hts
    exact fun n hn => hrest n (hts ▸ List.mem_append_right more hn)
  have hwayTo : base.wayTo target =
      some (List.replicate climbed.length .up ++ named descended) := by
    rw [wayTo, if_pos (htargetAbs.trans hbaseAbs.symm), hbase, htarget, way]
    simpa using hway
  exact ⟨front, climbed, descended, hbs, hts, hlongest, hdescended,
    relativeText_eq hwayTo fun c hc => (step_of_mem_climb _ hdescended c hc).inner⟩

theorem nil_append (p : Path) : append ⟨[]⟩ p = p := by
  unfold append
  split <;> rfl

/-- A relative path that is joined to any path collapses behind it. -/
theorem components_join_relative (base : Path) {child : Path} (h : child.isAbsolute = false) :
    (base.join child).components = collapse (base.components ++ inner child.bytes) := by
  rw [join, components_normalize]
  by_cases hb : base.bytes = []
  · have hbase : base = ⟨[]⟩ := by cases base; exact congrArg Path.mk hb
    have hskip := collapse_append_components [] h
    rwa [hbase, nil_append]
  · rw [components_append hb h]

/-- The text from a directory below the root to a place below the root leads there, if all names that
follow some common front are legible. -/
theorem join_relativeText {base target : Path} {bs q rest : List FileName}
    (hbase : base.components = .root :: named bs) (hq : q <+: bs)
    (htarget : target.components = .root :: named (q ++ rest)) (hrest : ∀ n ∈ rest, n.Legible) :
    ∃ text, base.relativeText target = some text ∧
      (base.join (ofString text)).components = target.components := by
  obtain ⟨front, climbed, descended, hbs, hts, -, hdescended, htext⟩ :=
    relativeText_named hbase hq htarget hrest
  obtain ⟨habs, hinner⟩ := ofString_textOfSteps (step_of_mem_climb climbed.length hdescended)
  refine ⟨_, htext, ?_⟩
  rw [components_join_relative _ habs, hinner, hbase, hbs, collapse_climb, ← hts, htarget]

/-! ## From the empty path -/

/-- Seen from the empty path a place below the root has no text. -/
theorem relativeText_empty_absolute {target : Path} (h : target.isAbsolute = true) :
    relativeText ⟨[]⟩ target = none := by
  have hwayTo : wayTo ⟨[]⟩ target = some target.components := by
    rw [wayTo, h]
    rfl
  simp [relativeText, hwayTo, components_of_isAbsolute h, stepText]

theorem relativeText_empty {target : Path} (h : target.isAbsolute = false)
    (hsteps : ∀ c ∈ target.components, Step c) :
    relativeText ⟨[]⟩ target = some (textOfSteps target.components) := by
  have hnil : components ⟨[]⟩ = [] := by decide
  have hwayTo : wayTo ⟨[]⟩ target = some target.components := by
    rw [wayTo, h, hnil]
    exact if_pos rfl
  exact relativeText_eq hwayTo fun c hc => (hsteps c hc).inner

/-- Seen from the empty path a relative place is where its text says. -/
theorem join_relativeText_empty {target : Path} {text : String}
    (hnormal : Normal target.isAbsolute target.components)
    (hnames : ∀ n, .name n ∈ target.components → n.Legible)
    (htext : relativeText ⟨[]⟩ target = some text) :
    (join ⟨[]⟩ (ofString text)).components = target.components := by
  cases habsolute : target.isAbsolute with
  | true =>
    rw [relativeText_empty_absolute habsolute] at htext
    cases htext
  | false =>
    have hcollapse := hnormal.collapse
    obtain ⟨base, names, hbase, hcomponents⟩ := hnormal
    rw [habsolute] at hbase
    obtain ⟨count, rfl⟩ := hbase
    have hsteps : ∀ c ∈ target.components, Step c := by
      rw [hcomponents] at hnames ⊢
      exact step_of_mem_climb count fun n hn =>
        hnames n (List.mem_append_right _ (List.mem_map_of_mem hn))
    obtain ⟨habs, hinner⟩ := ofString_textOfSteps hsteps
    rw [relativeText_empty habsolute hsteps, Option.some.injEq] at htext
    rw [← htext, components_join_relative _ habs, hinner]
    exact hcollapse

end StaticContext.Path
