/-! Syntax trees of scripts. A tree is a label and its children; the label says what the node is and
holds the words that are no trees themselves. Children stand in the order in which a script is
searched: a loop's test before the body it follows, a class body before what the class extends. -/

namespace StaticContext.Script

/-- A half-open range of bytes of the source text. -/
structure Span where
  start : Nat
  stop : Nat
deriving DecidableEq, Repr, Inhabited

inductive Literal where
  /-- `value` is what the literal stands for; `source` its spelling, quotes included, if it has one. -/
  | string (value : String) (source : Option String)
  | number (source : String)
  | bigint (source : String)
  | boolean (value : Bool)
  | null
  | regex (pattern : String) (flags : String)
deriving DecidableEq, Repr, Inhabited

/-- `var`, `let` and `const`. -/
inductive VariableKind where
  | functionScoped
  | blockScoped
  | constant
deriving DecidableEq, Repr, Inhabited

/-- Words before a class member or a constructor parameter. -/
structure Modifiers where
  words : List String
deriving DecidableEq, Repr, Inhabited

inductive MethodKind where
  | method
  | getter
  | setter
  | constructor
deriving DecidableEq, Repr, Inhabited

/-- Label of a node. The comments list the children; a child that is left out is `absent`. -/
inductive Label where
  | absent
  /-- A list of children that the parent lays out: statements, members, parameters, arguments, … -/
  | list
  | name (text : String)
  | privateName (text : String)
  /-- `this`, `super`, `import`, `import.meta` or `new.target`. -/
  | keyword (text : String)
  | literal (value : Literal)
  /-- Expressions between the pieces of text. -/
  | template (pieces : List String)
  /-- Tag, template, type arguments. -/
  | tagged
  /-- Elements. -/
  | array
  | hole
  /-- Properties. -/
  | object
  /-- Operand. -/
  | spread
  /-- Key, value. -/
  | property
  /-- Name, default value: legal only where the object turns out to be a pattern. -/
  | coveredDefault
  /-- Key, parameters, body, type parameters, result type. -/
  | objectMethod (kind : MethodKind) (isAsync isGenerator : Bool)
  /-- Expression in brackets. -/
  | computed
  /-- Name, parameters, body, type parameters, result type. -/
  | function (declared isAsync isGenerator : Bool)
  /-- Parameters, body, type parameters, result type. -/
  | arrow (isAsync : Bool)
  /-- Name, members, superclass, type parameters, its type arguments, interfaces. -/
  | classLike (declared isAbstract : Bool)
  /-- Operand. -/
  | unary (operator : String)
  /-- Operand. -/
  | update (operator : String) (isFirst : Bool)
  /-- Left, right. -/
  | binary (operator : String)
  /-- Target, value. -/
  | assign (operator : String)
  /-- Test, consequent, alternative. -/
  | conditional
  /-- Expressions. -/
  | sequence
  /-- Expression in parentheses. -/
  | paren
  /-- Object, member name. -/
  | member
  /-- Object, member name, in an optional chain. -/
  | chainMember (isOptional : Bool)
  /-- Callee, arguments, type arguments. -/
  | call (span : Span)
  /-- Callee, arguments, type arguments, in an optional chain. -/
  | chainCall (isOptional : Bool)
  /-- Callee, arguments, type arguments. -/
  | construct
  /-- Operand. -/
  | await
  /-- Operand. -/
  | yield (isDelegate : Bool)
  /-- Stands where an operand is missing. -/
  | missing
  /-- Expression, type. -/
  | asType
  /-- Expression. -/
  | asConst
  /-- Expression, type. -/
  | satisfiesType
  /-- Expression. -/
  | nonNull
  /-- Expression, type written before it. -/
  | typeAssertion
  /-- Expression, type arguments. -/
  | instantiation
  /-- Attributes, children, type arguments. -/
  | element (tag : String) (isClosed : Bool)
  /-- Children. -/
  | fragment
  /-- Value. -/
  | attribute (attributeName : String)
  /-- Operand. -/
  | spreadAttribute
  /-- Expression in braces. -/
  | container
  /-- Operand. -/
  | spreadChild
  | elementText (source : String)
  /-- Pattern, type ascription. -/
  | typed (isOptional : Bool)
  /-- Elements. -/
  | arrayPattern
  /-- Properties. -/
  | objectPattern
  /-- Key, pattern. -/
  | patternProperty
  /-- Pattern. -/
  | rest
  /-- Pattern, default value. -/
  | withDefault
  /-- Parameter. -/
  | parameterProperty (modifiers : Modifiers)
  /-- Statements. -/
  | block
  | empty
  | debugger
  /-- Object, body. -/
  | withStatement
  /-- Value. -/
  | returnStatement
  /-- Statement. -/
  | labeled (labelName : String)
  | breakStatement (target : Option String)
  | continueStatement (target : Option String)
  /-- Test, consequent, alternative. -/
  | ifStatement
  /-- Discriminant, cases. -/
  | switch
  /-- Test, statements. -/
  | switchCase
  /-- Value. -/
  | throwStatement
  /-- Block, catch clause, final block. -/
  | tryStatement
  /-- Parameter, block. -/
  | catchClause
  /-- Test, body. -/
  | whileLoop
  /-- Test, body. -/
  | doLoop
  /-- Start, test, step, body. -/
  | forLoop
  /-- Target, object, body. -/
  | forIn
  /-- Target, values, body. -/
  | forOf (isAwait : Bool)
  /-- Declarators. -/
  | variables (kind : VariableKind) (declared : Bool)
  /-- Target, value. -/
  | declarator (isDefinite : Bool)
  /-- Expression. -/
  | expression
  /-- Key, parameters, body, type parameters, result type. -/
  | classMethod (kind : MethodKind) (modifiers : Modifiers) (isAsync isGenerator isOptional : Bool)
  /-- Key, type ascription, value. -/
  | classField (modifiers : Modifiers) (mark : String)
  /-- Block. -/
  | staticBlock
  /-- Specifiers, source, attributes. -/
  | importDeclaration (typeOnly : Bool)
  | importDefault (binding : String)
  | importNamespace (binding : String)
  /-- Imported name if it differs, local name. -/
  | importNamed (typeOnly : Bool)
  /-- Specifiers, source, attributes. -/
  | exportNames (typeOnly : Bool)
  /-- Local name, exported name if it differs. -/
  | exportNamed (typeOnly : Bool)
  /-- Exported name. -/
  | exportNamespace
  /-- Source, attributes. -/
  | exportAll (typeOnly : Bool)
  /-- Expression or declaration. -/
  | exportDefault
  /-- Declaration. -/
  | exportDeclaration
  /-- Expression. -/
  | exportAssignment
  /-- What the name stands for. -/
  | importEquals (exported typeOnly : Bool) (binding : String)
  | exportAsNamespace (exported : String)
  /-- Source. -/
  | externalModule
  /-- Members. -/
  | enumeration (declared isConst : Bool) (enumName : String)
  /-- Key, value. -/
  | enumMember
  /-- Name, block. -/
  | namespaceBlock (declared : Bool) (opener : String)
  /-- What exists for the type checker alone: one child, never searched. -/
  | typeOnly
  /-- Type parameters, type. -/
  | typeAlias (declared : Bool) (aliasName : String)
  /-- Type parameters, supertypes, members. -/
  | interface (declared : Bool) (interfaceName : String)
  /-- Type. -/
  | ascription
  /-- Types. -/
  | typeArguments
  /-- Parameters. -/
  | typeParameters
  /-- Constraint, default. -/
  | typeParameter (modifiers : Modifiers) (parameterName : String)
  /-- Type arguments. -/
  | typeName (text : String)
  /-- Expression type, type arguments. -/
  | superType
  /-- Types between the pieces of text. -/
  | typeTemplate (pieces : List String)
  /-- Element type. -/
  | arrayType
  /-- Object type, index type. -/
  | indexedType
  /-- Elements. -/
  | tupleType
  /-- Type. -/
  | tupleElement (elementName : String) (isOptional : Bool)
  /-- Type. -/
  | optionalType
  /-- Type. -/
  | restType
  /-- Types. -/
  | union
  /-- Types. -/
  | intersection
  /-- Parameters, type parameters, result type. -/
  | functionType
  /-- Parameters, type parameters, result type. -/
  | constructorType (isAbstract : Bool)
  /-- Members. -/
  | objectType
  /-- Type. -/
  | typeOperator (operator : String)
  /-- Type arguments. -/
  | typeQuery (text : String)
  /-- Type. -/
  | parenType
  /-- Checked, extended, then, else. -/
  | conditionalType
  /-- Constraint. -/
  | inferType (bound : String)
  /-- Constraint, name type, type. -/
  | mappedType (readonlyMark : String) (bound : String) (optionalMark : String)
  /-- Source, type arguments. -/
  | importType (qualifier : String)
  /-- Type. -/
  | predicate (isAssertion : Bool) (parameterName : String)
  /-- Key, type ascription. -/
  | propertySignature (isReadonly isOptional : Bool)
  /-- Key, parameters, type parameters, result type. -/
  | methodSignature (kind : MethodKind) (isOptional : Bool)
  /-- Parameter, type ascription. -/
  | indexSignature (modifiers : Modifiers)
  /-- Parameters, type parameters, result type. -/
  | callSignature (isConstruct : Bool)
deriving DecidableEq, Repr, Inhabited

inductive Tree where
  | node (label : Label) (children : List Tree)
deriving Repr, Inhabited

namespace Tree

def label : Tree → Label
  | node l _ => l

def children : Tree → List Tree
  | node _ cs => cs

def absent : Tree := node .absent []

def ofOption (t : Option Tree) : Tree := t.getD absent

def isAbsent (t : Tree) : Bool := t.label = .absent

def list (ts : List Tree) : Tree := node .list ts

def name (text : String) : Tree := node (.name text) []

def keyword (text : String) : Tree := node (.keyword text) []

def literal (l : Literal) : Tree := node (.literal l) []

/-- A string literal without a spelling of its own. -/
def string (value : String) : Tree := literal (.string value none)

def missing : Tree := node .missing []

end Tree

/-- A module: the line after `#!`, if the text starts so, and the statements. -/
structure Program where
  interpreter : Option String
  body : List Tree
deriving Repr, Inhabited

end StaticContext.Script
