import StaticContext.Proofs.BindingNames
import StaticContext.Proofs.ImportOrder
import StaticContext.Proofs.PrintedParts
import StaticContext.Proofs.QuotedText

/-! # Names of files in the code that is written

The code that is written starts with a line for each import, and where an accessor stands in it there is
the text of that accessor. Keys and specifiers are all that stands in quotes there, so the literals of
these texts say them, in the order of the modules. -/

namespace StaticContext
open Script Text Text.Layout
open Quoted (isQuote Says Tells holdsSpelling literals quote says_quote)

/-! ## What stands in quotes -/

namespace Accessor

variable {depth : Nat} {modules : List ContextModule}

theorem tells_indentation (depth : Nat) : Tells (indentation depth) [] := by
  refine .of_unquoted (List.any_eq_false.mpr fun c hc => ?_)
  rw [List.eq_of_mem_replicate hc]
  decide

theorem tells_newLine (depth : Nat) : Tells ('\n' :: indentation depth) [] :=
  Tells.nil_append (.of_unquoted rfl : Tells ['\n'] []) (tells_indentation depth)

theorem tells_lineText {t : List Char} {values : List (List Char)} (h : Tells t values) :
    Tells (lineText depth t) values :=
  ((tells_indentation depth).nil_append h).append_nil (.of_unquoted rfl)

theorem tells_bracketed {α : Type} {f : α → List Char} {g : α → List (List Char)} {xs : List α}
    {opening closing : Char} (hopening : isQuote opening = false) (hclosing : isQuote closing = false)
    (h : ∀ x ∈ xs, Tells (f x) (g x)) :
    Tells (bracketed opening closing depth (xs.map f)) (xs.flatMap g) := by
  have hopen : Tells [opening] [] := .of_unquoted (by simpa using hopening)
  have hclose : Tells [closing] [] := .of_unquoted (by simpa using hclosing)
  have hcomma : Tells (',' :: '\n' :: indentation (depth + 1)) [] :=
    Tells.nil_append (.of_unquoted rfl : Tells [','] []) (tells_newLine (depth + 1))
  unfold bracketed
  split
  · next hnone =>
    rw [List.isEmpty_iff, List.map_eq_nil_iff] at hnone
    rw [hnone]
    exact hopen.nil_append hclose
  · exact hopen.nil_append (((tells_newLine (depth + 1)).nil_append (hcomma.intercalate h)).append_nil
      ((tells_newLine depth).nil_append hclose))

theorem tells_word {name : String} (h : Binding.Legal name) : Tells name.toList [] := by
  refine .of_unquoted (List.any_eq_false.mpr fun c hc hquote => ?_)
  have hword := h.word c hc
  rcases Quoted.isQuote_iff.mp hquote with rfl | rfl
  · cases hword
  · cases hword

theorem tells_exportsText {identifier : String} (h : Binding.Legal identifier) :
    Tells (exportsText depth identifier) [] := by
  have hdefault : ∀ name ∈ [identifier], Tells ("default: ".toList ++ name.toList) [] := by
    rw [List.forall_mem_singleton]
    exact Tells.nil_append (.of_unquoted rfl) (tells_word h)
  exact tells_bracketed rfl rfl hdefault

/-- What is said of modules whose names are legal and whose keys spell no half of a pair. -/
theorem tells_modulesText (hlegal : ∀ m ∈ modules, Binding.Legal m.identifier)
    (hplain : ∀ m ∈ modules, holdsSpelling m.key.toList = false) :
    Tells (modulesText depth modules) (modules.map (·.key.toList)) := by
  rw [List.map_eq_flatMap]
  refine tells_bracketed rfl rfl fun m hm => ?_
  exact ((says_quote (hplain m hm)).tells.append_nil (.of_unquoted rfl)).append_nil
    (tells_exportsText (hlegal m hm))

theorem tells_keysText (hplain : ∀ m ∈ modules, holdsSpelling m.key.toList = false) :
    Tells (keysText depth modules) (modules.map (·.key.toList)) := by
  rw [List.map_eq_flatMap]
  exact tells_bracketed rfl rfl fun m hm => (says_quote (hplain m hm)).tells

/-- An accessor says the keys of its modules twice. -/
theorem tells_text (hlegal : ∀ m ∈ modules, Binding.Legal m.identifier)
    (hplain : ∀ m ∈ modules, holdsSpelling m.key.toList = false) :
    Tells (text depth modules) (modules.map (·.key.toList) ++ modules.map (·.key.toList)) := by
  have hmodules : Tells (lineText (depth + 1) ("let modules = ".toList ++
      modulesText (depth + 1) modules ++ [';'])) (modules.map (·.key.toList)) :=
    tells_lineText ((Tells.nil_append (.of_unquoted rfl)
      (tells_modulesText hlegal hplain)).append_nil (.of_unquoted rfl))
  have hlookup : Tells (lineText (depth + 1) "let context = (id)=>modules[id];".toList) [] :=
    tells_lineText (.of_unquoted rfl)
  have hkeys : Tells (lineText (depth + 1) ("context.keys = ()=>".toList ++
      keysText (depth + 2) modules ++ [';'])) (modules.map (·.key.toList)) :=
    tells_lineText ((Tells.nil_append (.of_unquoted rfl)
      (tells_keysText hplain)).append_nil (.of_unquoted rfl))
  have hreturn : Tells (lineText (depth + 1) "return context;".toList) [] :=
    tells_lineText (.of_unquoted rfl)
  have hbody : Tells (bodyText (depth + 1) modules)
      (modules.map (·.key.toList) ++ modules.map (·.key.toList)) :=
    hmodules.append (hlookup.nil_append (hkeys.append_nil hreturn))
  have hopen : Tells "(()=>\x7b".toList [] := .of_unquoted rfl
  have hfirst : Tells ['\n'] [] := .of_unquoted rfl
  have hclose : Tells (indentation depth ++ "\x7d)()".toList) [] :=
    (tells_indentation depth).append_nil (.of_unquoted rfl)
  exact hopen.nil_append ((hfirst.nil_append hbody).append_nil hclose)

end Accessor

/-! ## Imports -/

namespace Script

/-- The line that imports a default export. -/
def importLine (pair : String × String) : List Char :=
  Accessor.lineText 0 ("import ".toList ++ pair.1.toList ++ " from ".toList ++ quote pair.2.toList ++ [';'])

theorem fills_import (pair : String × String) :
    (Printer.statement (Script.Tree.importDefaultTree pair).printed).Fills 0 (importLine pair) := by
  have hlayout : Printer.statement (Script.Tree.importDefaultTree pair).printed =
      "import " ++ row [when false ("type" ++ " ")] ++ joined ", " [ofChars pair.1.toList] ++ " from " ++
        ofChars (quote pair.2.toList) ++ empty ++ ";" ++ line := rfl
  have hline : ("import " ++ ofChars pair.1.toList ++ " from " ++ ofChars (quote pair.2.toList) ++ ";" :
      Layout).ComesTo 0 ("import ".toList ++ pair.1.toList ++ " from ".toList ++ quote pair.2.toList ++
        [';']) :=
    ((((comesTo_ofChars (List.cons_ne_nil _ _) 0).append_ofChars _).append_ofChars _).append_ofChars
      _).append_ofChars _
  rw [hlayout, joined_singleton]
  simp only [row_cons, row_nil, when_false, append_empty]
  exact hline.fills

theorem tells_importLine {pair : String × String} (hlegal : Binding.Legal pair.1)
    (hplain : holdsSpelling pair.2.toList = false) : Tells (importLine pair) [pair.2.toList] := by
  refine Accessor.tells_lineText (Tells.append_nil ?_ (.of_unquoted rfl))
  refine Tells.nil_append (Tells.append_nil ?_ (.of_unquoted rfl)) (says_quote hplain).tells
  exact Tells.nil_append (.of_unquoted rfl) (Accessor.tells_word hlegal)

/-- The line that tells what runs the script. -/
def interpreterLine : Option String → List Char
  | some text => Accessor.lineText 0 ("#!".toList ++ text.toList)
  | none => []

theorem fills_interpreter (interpreter : Option String) : Fills (match interpreter with
    | some text => ("#!" ++ text ++ line : Layout)
    | none => empty) 0 (interpreterLine interpreter) := by
  cases interpreter with
  | none => exact fills_empty 0
  | some text => exact ((comesTo_ofChars (List.cons_ne_nil _ _) 0).append_ofChars text.toList).fills

theorem Program.print_imports (interpreter : Option String) (pairs : List (String × String))
    (body : List Script.Tree) : ∃ rest, (⟨interpreter, pairs.map Script.Tree.importDefaultTree ++ body⟩ :
      Program).print.toList = interpreterLine interpreter ++ pairs.flatMap importLine ++ rest := by
  let first : Layout := match interpreter with
    | some text => "#!" ++ text ++ line
    | none => empty
  have hpieces : (⟨interpreter, pairs.map Script.Tree.importDefaultTree ++ body⟩ : Program).layout =
      first ++ row (pairs.map fun pair => Printer.statement (Script.Tree.importDefaultTree pair).printed) ++
        row (body.map fun t => Printer.statement t.printed) := by
    rw [Layout.append_assoc, ← row_append]
    show first ++ row ((pairs.map Script.Tree.importDefaultTree ++ body).map _) = _
    rw [List.map_append, List.map_map]
    rfl
  have hlines := (fills_interpreter interpreter).append (fills_row_map fills_import pairs)
  refine ⟨renderFrom true 0 (row (body.map fun t => Printer.statement t.printed)).pieces, ?_⟩
  rw [print, render, String.toList_ofList, hpieces]
  exact hlines _

end Script

/-! ## Whole files -/

/-- A module is imported under a legal name. -/
theorem ContextCall.legal_of_mem_modules {s : Storage} {sourceDir : Path} {call : ContextCall}
    {c : ResolvedContext} {m : ContextModule} (h : call.resolve s sourceDir = .ok c)
    (hm : m ∈ c.modules) : Binding.Legal m.identifier := by
  obtain ⟨pattern, -, hwith⟩ := resolve_ok.mp h
  obtain ⟨files, -, p, -, hfile⟩ := mem_modules hwith hm
  obtain ⟨-, -, -, hidentifier⟩ := ContextModule.ofFile?_some hfile
  rw [hidentifier]
  exact Binding.legal_ofKey m.key

namespace ResolvedContext

/-- The lines that import the modules of contexts. -/
def importLines (contexts : List ResolvedContext) : List Char :=
  (modulePairs contexts).eraseDups.flatMap importLine

theorem eraseDups_modulePairs_singleton (directory : Path) (m : ContextModule) :
    (modulePairs [⟨directory, [m]⟩]).eraseDups = [m.importPair] := by
  show [m.importPair].eraseDups = _
  rw [List.eraseDups_cons]
  rfl

theorem importLines_singleton (directory : Path) (m : ContextModule) :
    importLines [⟨directory, [m]⟩] = importLine m.importPair := by
  rw [importLines, eraseDups_modulePairs_singleton, List.flatMap_singleton]

theorem tells_importLines {contexts : List ResolvedContext}
    (h : ∀ c ∈ contexts, ∀ m ∈ c.modules, Binding.Legal m.identifier ∧
      holdsSpelling m.specifier.toList = false) :
    Tells (importLines contexts) ((modulePairs contexts).eraseDups.map (·.2.toList)) := by
  rw [List.map_eq_flatMap]
  refine .flatMap fun pair hpair => ?_
  obtain ⟨m, hm, rfl⟩ := List.mem_map.mp (List.mem_eraseDups.mp hpair)
  obtain ⟨c, hc, hm⟩ := List.mem_flatMap.mp hm
  obtain ⟨hlegal, hplain⟩ := h c hc m hm
  exact tells_importLine hlegal hplain

end ResolvedContext

/-- The names of files that the code brings in are read back from it. It starts with the lines of the
imports, the accessor of each context stands in it, and wherever one stands there is the text of that
accessor. A key or a specifier stands there in one literal that says it, unless it spells half of a
surrogate pair behind a backslash. The imports say the specifiers of the modules in their order, each
that is imported once; an accessor says the keys of its modules in their order, as the keys of an object
and then as a list. -/
theorem Source.names_read_back {source : Source} {s : Storage} {report : Report} {output : Output}
    (hexpand : source.expand s = .ok report) (houtput : report.output = some output) :
    ∃ program contexts body, source.parse = .ok program ∧
      List.Forall₂ (fun call c => call.resolve s source.directory = .ok c)
        (ContextCall.inProgram program) contexts ∧
      (∀ other, Splice.ReplacesAll ((ContextCall.inProgram program).zip contexts) program.body other ↔
        other = body) ∧
      let written : Program := { program with body := ResolvedContext.imports contexts ++ body }
      output.code = written.print ∧
      (∃ rest, output.code.toList =
        interpreterLine program.interpreter ++ ResolvedContext.importLines contexts ++ rest) ∧
      (∀ pair ∈ (ContextCall.inProgram program).zip contexts,
        written.layout.Holds (pair.2.accessor pair.1.span).printed.layout) ∧
      (∀ c ∈ contexts, ∃ before depth after,
        output.code.toList = before ++ Accessor.text depth c.modules ++ after) ∧
      (∀ c ∈ contexts, ∀ span front back,
        written.layout.pieces = front ++ (c.accessor span).printed.layout.pieces ++ back →
        ∃ before depth after, output.code.toList = before ++ Accessor.text depth c.modules ++ after) ∧
      (∀ c ∈ contexts, ∀ m ∈ c.modules, ∀ text ∈ [m.key, m.specifier],
        holdsSpelling text.toList = false → Says (quote text.toList) text.toList) ∧
      ((∀ c ∈ contexts, ∀ m ∈ c.modules, holdsSpelling m.specifier.toList = false) →
        literals (ResolvedContext.importLines contexts) =
          some ((ResolvedContext.modulePairs contexts).eraseDups.map (·.2.toList))) ∧
      ∀ c ∈ contexts, (∀ m ∈ c.modules, holdsSpelling m.key.toList = false) → ∀ depth,
        literals (Accessor.modulesText depth c.modules) = some (c.modules.map (·.key.toList)) ∧
        literals (Accessor.keysText depth c.modules) = some (c.modules.map (·.key.toList)) ∧
        literals (Accessor.text depth c.modules) =
          some (c.modules.map (·.key.toList) ++ c.modules.map (·.key.toList)) := by
  obtain ⟨program, contexts, body, hparse, hall, hcode, hreplaces⟩ := expand_code hexpand houtput
  have hlegal : ∀ c ∈ contexts, ∀ m ∈ c.modules, Binding.Legal m.identifier := by
    intro c hc m hm
    obtain ⟨call, -, hcall⟩ := Traversal.exists_of_forall₂ hall hc
    exact ContextCall.legal_of_mem_modules hcall hm
  let written : Program := { program with body := ResolvedContext.imports contexts ++ body }
  have hholds : ∀ pair ∈ (ContextCall.inProgram program).zip contexts,
      written.layout.Holds (pair.2.accessor pair.1.span).printed.layout := by
    intro pair hpair
    exact Program.holds_layout _ _ (((hreplaces body).mpr rfl).someBears hpair)
  refine ⟨program, contexts, body, hparse, hall, hreplaces, hcode, ?_, hholds, ?_, ?_, ?_, ?_, ?_⟩
  · rw [hcode, ResolvedContext.imports_eq]
    exact Program.print_imports _ _ _
  · intro c hc
    have hsnd := List.map_snd_zip (Nat.le_of_eq hall.length_eq.symm)
    rw [← hsnd] at hc
    obtain ⟨pair, hpair, rfl⟩ := List.mem_map.mp hc
    obtain ⟨front, back, hpieces⟩ := hholds pair hpair
    rw [hcode]
    exact ComesTo.mem_render (Accessor.comesTo_accessor pair.2 pair.1.span) hpieces.symm
  · intro c _ span front back hpieces
    rw [hcode]
    exact ComesTo.mem_render (Accessor.comesTo_accessor c span) hpieces
  · exact fun c _ m _ text _ hplain => says_quote hplain
  · intro hplain
    exact (ResolvedContext.tells_importLines fun c hc m hm =>
      ⟨hlegal c hc m hm, hplain c hc m hm⟩).literals_eq
  · intro c hc hplain depth
    exact ⟨(Accessor.tells_modulesText (hlegal c hc) hplain).literals_eq,
      (Accessor.tells_keysText hplain).literals_eq,
      (Accessor.tells_text (hlegal c hc) hplain).literals_eq⟩

/-- A file that is one context call. -/
def loneSource : Source := ⟨.ofString "/src/app.js", "require.context('./x')"⟩

def loneCall : ContextCall := ⟨⟨0, 22⟩, "./x", true, none⟩

/-- One file, under a name, in the directory of the call. -/
def holding (name : String) : Storage :=
  Storage.empty.put (.ofString ("/src/x/" ++ name)) (.file [])

/-- That file as a module. -/
def loneModule (name identifier : String) : ContextModule :=
  ⟨.ofString ("/src/x/" ++ name), "./" ++ name, "./x/" ++ name, identifier⟩

theorem loneSource_parse : ∃ t, loneSource.parse = .ok ⟨none, [.node .expression [t]]⟩ ∧
    ContextCall.ofTree? t = some loneCall := by
  have hshape : (loneSource.parse.toOption.map fun program => (program.interpreter,
      program.body.map fun t => (t.label, t.children.map ContextCall.ofTree?))) =
        some (none, [(.expression, [some loneCall])]) := by decide +kernel
  obtain ⟨⟨interpreter, body⟩, hparse, hbody⟩ := Option.map_eq_some_iff.mp hshape
  rw [Prod.mk.injEq, List.map_eq_singleton_iff] at hbody
  obtain ⟨rfl, ⟨label, children⟩, rfl, hstatement⟩ := hbody
  rw [Prod.mk.injEq] at hstatement
  obtain ⟨rfl, hchildren⟩ := hstatement
  obtain ⟨t, rfl, ht⟩ := List.map_eq_singleton_iff.mp hchildren
  exact ⟨t, Traversal.ok_of_toOption hparse, ht⟩

theorem inProgram_loneCall {t : Script.Tree} (ht : ContextCall.ofTree? t = some loneCall) :
    ContextCall.inProgram ⟨none, [.node .expression [t]]⟩ = [loneCall] := by
  obtain ⟨label, children⟩ := t
  obtain ⟨rfl, hleaf⟩ := ContextCall.ofTree?_some ht
  have hstatement : Label.expression ≠ .typeOnly := nofun
  have hcall : Label.call loneCall.span ≠ .typeOnly := nofun
  have hother : ContextCall.ofTree? (.node .expression [.node (.call loneCall.span) children]) = none :=
    rfl
  simp [ContextCall.inProgram, ContextCall.inTrees, ContextCall.inTree_node hstatement,
    ContextCall.inTree_node hcall, ht, hother, ContextCall.inTrees_eq_nil hleaf]

theorem loneCall_replaced {t : Script.Tree} (ht : ContextCall.ofTree? t = some loneCall)
    (c : ResolvedContext) : Splice.ReplacesAll ([loneCall].zip [c]) [.node .expression [t]]
      [.node .expression [c.accessor loneCall.span]] := by
  obtain ⟨label, children⟩ := t
  have hlabel : Label.expression ≠ .typeOnly := nofun
  exact .cons (.node hlabel rfl (.cons (.call _ ht) .nil)) .nil

theorem loneSource_expand {s : Storage} {c : ResolvedContext}
    (h : ContextCall.resolveAll s loneSource.directory [loneCall] = .ok [c]) :
    ∃ t report output, loneSource.parse = .ok ⟨none, [.node .expression [t]]⟩ ∧
      ContextCall.ofTree? t = some loneCall ∧ loneSource.expand s = .ok report ∧
      report.output = some output := by
  obtain ⟨t, hparse, ht⟩ := loneSource_parse
  have hcalls := inProgram_loneCall ht
  rw [← hcalls] at h
  obtain ⟨report, output, hexpand, houtput, -⟩ := Source.expand_of_resolveAll (by decide +kernel) hparse
    (by simp [hcalls]) h
  exact ⟨t, report, output, hparse, ht, hexpand, houtput⟩

/-- A name with quotes of both kinds, a backslash, line ends, a byte order mark and a control
character. -/
def oddName : String := "a\"'\\\n\u2028\uFEFF\x01😀.js"

theorem Source.names_read_back_odd : ∃ report output,
    loneSource.expand (holding oddName) = .ok report ∧ report.output = some output ∧
      (∃ rest, output.code.toList = importLine ("A", "./x/" ++ oddName) ++ rest) ∧
      literals (importLine ("A", "./x/" ++ oddName)) = some [("./x/" ++ oddName).toList] ∧
      (∃ before depth after, output.code.toList =
        before ++ Accessor.text depth [loneModule oddName "A"] ++ after) ∧
      ∀ depth, literals (Accessor.text depth [loneModule oddName "A"]) =
        some [("./" ++ oddName).toList, ("./" ++ oddName).toList] := by
  have hresolve : ContextCall.resolveAll (holding oddName) loneSource.directory [loneCall] =
      .ok [⟨.ofString "/src/x", [loneModule oddName "A"]⟩] :=
    Traversal.ok_of_toOption (by decide +kernel)
  have hpair : (loneModule oddName "A").importPair = ("A", "./x/" ++ oddName) := rfl
  have hspecifier : holdsSpelling (loneModule oddName "A").specifier.toList = false := by decide +kernel
  have hkey : holdsSpelling (loneModule oddName "A").key.toList = false := by decide +kernel
  show ∃ report output, _ ∧ _ ∧ _ ∧ literals _ = some [(loneModule oddName "A").specifier.toList] ∧ _ ∧
    ∀ _, _ = some [(loneModule oddName "A").key.toList, (loneModule oddName "A").key.toList]
  rw [← hpair]
  generalize loneModule oddName "A" = m at *
  have hresolved := ContextCall.resolve_of_resolveAll hresolve
  obtain ⟨t, report, output, hparse, ht, hexpand, houtput⟩ := loneSource_expand hresolve
  obtain ⟨program, contexts, body, hparse', hall, hreplaces, hcode, himports, -, haccessors, -, -,
    hspecifiers, hkeys⟩ := names_read_back hexpand houtput
  cases hparse.symm.trans hparse'
  rw [inProgram_loneCall ht] at hall hreplaces
  obtain rfl := Traversal.eq_of_forall₂ hall hresolved
  obtain rfl := (hreplaces _).mp (loneCall_replaced ht _)
  rw [ResolvedContext.importLines_singleton] at himports hspecifiers
  rw [ResolvedContext.eraseDups_modulePairs_singleton] at hspecifiers
  refine ⟨report, output, hexpand, houtput, ?_, ?_, ?_, ?_⟩
  · simpa only [interpreterLine, List.nil_append] using himports
  · refine hspecifiers fun c hc m' hm' => ?_
    obtain rfl := List.mem_singleton.mp hc
    obtain rfl := List.mem_singleton.mp hm'
    exact hspecifier
  · exact haccessors ⟨.ofString "/src/x", [m]⟩ (List.mem_singleton_self _)
  · have hplain : ∀ m' ∈ [m], holdsSpelling m'.key.toList = false :=
      List.forall_mem_singleton.mpr hkey
    have hkeys := hkeys ⟨.ofString "/src/x", [m]⟩ (List.mem_singleton_self _) hplain
    exact fun depth => (hkeys depth).2.2

/-- A name that spells the two halves of a pair. -/
def spelledName : String := "\\ud83d\\ude00.js"

/-- The import of that file is read as an import of another one. -/
theorem Source.respells_name : ∃ report output,
    loneSource.expand (holding spelledName) = .ok report ∧ report.output = some output ∧
      (∃ rest, output.code.toList = importLine ("Ud83dude00", "./x/" ++ spelledName) ++ rest) ∧
      literals (importLine ("Ud83dude00", "./x/" ++ spelledName)) = some ["./x/😀.js".toList] := by
  have hresolve : ContextCall.resolveAll (holding spelledName) loneSource.directory [loneCall] =
      .ok [⟨.ofString "/src/x", [loneModule spelledName "Ud83dude00"]⟩] :=
    Traversal.ok_of_toOption (by decide +kernel)
  have hresolved := ContextCall.resolve_of_resolveAll hresolve
  obtain ⟨t, report, output, hparse, ht, hexpand, houtput⟩ := loneSource_expand hresolve
  obtain ⟨program, contexts, body, hparse', hall, hcode, -⟩ := expand_code hexpand houtput
  cases hparse.symm.trans hparse'
  rw [inProgram_loneCall ht] at hall
  obtain rfl := Traversal.eq_of_forall₂ hall hresolved
  refine ⟨report, output, hexpand, houtput, ?_, by decide +kernel⟩
  have hpair : (loneModule spelledName "Ud83dude00").importPair =
      ("Ud83dude00", "./x/" ++ spelledName) := rfl
  rw [hcode, ResolvedContext.imports_eq, ← hpair,
    ← ResolvedContext.importLines_singleton (.ofString "/src/x")]
  exact Program.print_imports _ _ _

end StaticContext
