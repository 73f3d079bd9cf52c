import StaticContext.Script.Printer.Class
import StaticContext.Script.Printer.Element
import StaticContext.Script.Printer.Expression
import StaticContext.Script.Printer.Module
import StaticContext.Script.Printer.Statement
import StaticContext.Script.Printer.TypeExpression

/-! From tree to text. Comments and the line breaks of the source are gone; its names, literals and
parentheses stay as they were. -/

namespace StaticContext.Script

open Text (Layout)

namespace Printer
open Text.Layout (joined row)

/-- How a node with printed children is laid out. -/
def layout (label : Label) (ps : List Printed) : Layout :=
  match label with
  | .absent | .hole | .missing => unlabeled ps
  | .list => commas ps
  | .name text => text ++ unlabeled ps
  | .privateName text => "#" ++ text ++ unlabeled ps
  | .keyword text => text ++ unlabeled ps
  | .literal value => literal value ++ unlabeled ps
  | .template pieces => template pieces ps
  | .tagged => tagged ps
  | .array => array ps
  | .object => object ps
  | .spread => "..." ++ unlabeled ps
  | .property => keyed ps
  | .coveredDefault => withDefault ps
  | .objectMethod kind isAsync isGenerator => objectMethod kind isAsync isGenerator ps
  | .computed => "[" ++ unlabeled ps ++ "]"
  | .function declared isAsync isGenerator => function declared isAsync isGenerator ps
  | .arrow isAsync => arrow isAsync ps
  | .classLike declared isAbstract => classLike declared isAbstract ps
  | .unary op => unary op ps
  | .update op isFirst => update op isFirst ps
  | .binary op => binary op ps
  | .assign op => binary op ps
  | .conditional => conditional ps
  | .sequence => commas ps
  | .paren => "(" ++ unlabeled ps ++ ")"
  | .member => member ps
  | .chainMember isOptional => chainMember isOptional ps
  | .call _ => call .empty ps
  | .chainCall isOptional => call (.when isOptional "?.") ps
  | .construct => construct ps
  | .await => "await " ++ unlabeled ps
  | .yield isDelegate => Printer.yield isDelegate ps
  | .asType => binary "as" ps
  | .asConst => unlabeled ps ++ " as const"
  | .satisfiesType => binary "satisfies" ps
  | .nonNull => unlabeled ps ++ "!"
  | .typeAssertion => typeAssertion ps
  | .instantiation => unlabeled ps
  | .element tag isClosed => element tag isClosed ps
  | .fragment => "<>" ++ unlabeled ps ++ "</>"
  | .attribute name => elementAttribute name ps
  | .spreadAttribute | .spreadChild => leftBrace ++ "..." ++ unlabeled ps ++ rightBrace
  | .container => braced ps
  | .elementText source => source ++ unlabeled ps
  | .typed isOptional => typed isOptional ps
  | .arrayPattern => arrayPattern ps
  | .objectPattern => objectPattern ps
  | .patternProperty => keyed ps
  | .rest => "..." ++ unlabeled ps
  | .withDefault => withDefault ps
  | .parameterProperty mods => modifiers mods ++ unlabeled ps
  | .block => block ps
  | .empty => ";" ++ unlabeled ps
  | .debugger => "debugger;" ++ unlabeled ps
  | .withStatement => withStatement ps
  | .returnStatement => wordStatement "return" ps
  | .labeled name => name ++ ": " ++ row (ps.map statement)
  | .breakStatement target => jump "break" target ++ unlabeled ps
  | .continueStatement target => jump "continue" target ++ unlabeled ps
  | .ifStatement => ifStatement ps
  | .switch => switchStatement ps
  | .switchCase => switchCase ps
  | .throwStatement => wordStatement "throw" ps
  | .tryStatement => tryStatement ps
  | .catchClause => catchClause ps
  | .whileLoop => whileLoop ps
  | .doLoop => doLoop ps
  | .forLoop => forLoop ps
  | .forIn => forEach "for(" " in " ps
  | .forOf isAwait => forEach (if isAwait then "for await (" else "for (") " of " ps
  | .variables kind declared => declarators kind declared ps
  | .declarator isDefinite => declarator isDefinite ps
  | .expression => unlabeled ps ++ ";"
  | .classMethod kind mods isAsync isGenerator isOptional =>
    classMethod kind mods isAsync isGenerator isOptional ps
  | .classField mods mark => classField mods mark ps
  | .staticBlock => "static " ++ unlabeled ps
  | .importDeclaration typeOnly => importDeclaration typeOnly ps
  | .importDefault binding => binding ++ unlabeled ps
  | .importNamespace binding => "* as " ++ binding ++ unlabeled ps
  | .importNamed typeOnly | .exportNamed typeOnly => specifier typeOnly ps
  | .exportNames typeOnly => exportNames typeOnly ps
  | .exportNamespace => "* as " ++ unlabeled ps
  | .exportAll typeOnly => exportAll typeOnly ps
  | .exportDefault => "export default " ++ unlabeled ps
  | .exportDeclaration => exportDeclaration ps
  | .exportAssignment => "export = " ++ unlabeled ps ++ ";"
  | .importEquals exported typeOnly binding => importEquals exported typeOnly binding ps
  | .exportAsNamespace exported => "export as namespace " ++ exported ++ ";" ++ unlabeled ps
  | .externalModule => "require(" ++ unlabeled ps ++ ")"
  | .enumeration declared isConst name => enumeration declared isConst name ps
  | .enumMember => enumMember ps
  | .namespaceBlock declared opener => namespaceBlock declared opener ps
  | .typeOnly => unlabeled ps
  | .typeAlias declared name => typeAlias declared name ps
  | .interface declared name => interface declared name ps
  | .ascription => ": " ++ unlabeled ps
  | .typeArguments | .typeParameters => angled ps
  | .typeParameter mods name => typeParameter mods name ps
  | .typeName text => text ++ unlabeled ps
  | .superType => unlabeled ps
  | .typeTemplate pieces => template pieces ps
  | .arrayType => unlabeled ps ++ "[]"
  | .indexedType => indexedType ps
  | .tupleType => "[" ++ commas ps ++ "]"
  | .tupleElement name isOptional => tupleElement name isOptional ps
  | .optionalType => unlabeled ps ++ "?"
  | .restType => "..." ++ unlabeled ps
  | .union => joined " | " (ps.map Printed.layout)
  | .intersection => joined " & " (ps.map Printed.layout)
  | .functionType => functionType .empty ps
  | .constructorType isAbstract => functionType (words [(isAbstract, "abstract")] ++ "new ") ps
  | .objectType => typeMembers ps
  | .typeOperator op => op ++ " " ++ unlabeled ps
  | .typeQuery text => "typeof " ++ text ++ unlabeled ps
  | .parenType => "(" ++ unlabeled ps ++ ")"
  | .conditionalType => conditionalType ps
  | .inferType name => inferType name ps
  | .mappedType readonlyMark bound optionalMark => mappedType readonlyMark bound optionalMark ps
  | .importType qualifier => importType qualifier ps
  | .predicate isAssertion name => predicate isAssertion name ps
  | .propertySignature isReadonly isOptional => propertySignature isReadonly isOptional ps
  | .methodSignature kind isOptional => methodSignature kind isOptional ps
  | .indexSignature mods => indexSignature mods ps
  | .callSignature isConstruct => callSignature isConstruct ps

end Printer

namespace Tree

mutual

def printed : Tree → Printed
  | .node label children =>
    let ps := printedAll children
    .mk label (Printer.layout label ps) ps

def printedAll : List Tree → List Printed
  | [] => []
  | t :: rest => t.printed :: printedAll rest

end

end Tree

namespace Program

/-- The line of the interpreter, then the statements. -/
def layout (p : Program) : Layout :=
  let first : Layout := match p.interpreter with
    | some text => "#!" ++ text ++ Layout.line
    | none => .empty
  first ++ Text.Layout.row (p.body.map fun t => Printer.statement t.printed)

def print (p : Program) : String := p.layout.render

end Program
end StaticContext.Script
