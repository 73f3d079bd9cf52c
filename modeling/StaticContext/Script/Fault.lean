/-! What can be wrong with a script, and how it is said. -/

namespace StaticContext.Script

inductive Cause where
  | textEnds
  | statementGoesOn
  | expressionMissing
  | unexpectedToken (got expected : String)
  | expectedToken (expected got : String)
  | identifierMissing
  | unknownCharacter (c : Char)
  | regexUnclosed
  | regexFlagUnknown
  | regexFlagRepeated (flag : Char)
  | commentUnclosed
  | stringUnclosed
  | templateUnclosed
  | elementTextUnclosed
  | escapeOutOfRange
  | escapeMalformed (expected : String)
  | legacyOctal
  | digitMissing (kind : String)
  | nameAfterNumber
  | separatorMisplaced
  | constantUninitialized
  | patternUninitialized
  | returnOutside
  | withStatement
  | breakOutside
  | continueOutside
  | labelUnknown
  | labelRepeated (name : String)
  | deleteName
  | reservedName (name : String)
  | reservedAwait
  | assignmentTarget
  | notAPattern
  | superOutside
  | closingTag (expected : String)
  | constructorRepeated
  | asyncConstructor
  | generatorConstructor
  | accessorConstructor
  | defaultRepeated
  | handlerMissing
  | importExportInside
  | optionalChainTarget
  | parameterAfterRest
  | elementAfterRest
  | commaAfterRest
  | newlineAfterThrow
  | newlineBeforeArrow
  | mixedCoalescing
  | powerOperand
  | bindingReserved
  | nestingTooDeep
deriving DecidableEq, Repr, Inhabited

namespace Cause

private def tick : String := (Char.ofNat 96).toString

/-- The text in back quotes. -/
def ticked (s : String) : String := tick ++ s ++ tick

def message : Cause → String
  | textEnds => "Unexpected eof"
  | statementGoesOn => "Expected ';', '\x7d' or <eof>"
  | expressionMissing => "Expression expected"
  | unexpectedToken got expected => "Unexpected token " ++ ticked got ++ ". Expected " ++ expected
  | expectedToken expected got => "Expected '" ++ expected ++ "', got '" ++ got ++ "'"
  | identifierMissing => "Expected ident"
  | unknownCharacter c => "Unexpected character '" ++ c.toString ++ "'"
  | regexUnclosed => "Unterminated regexp literal"
  | regexFlagUnknown => "Unknown regular expression flags."
  | regexFlagRepeated f => "Duplicated regular expression flag '" ++ f.toString ++ "'."
  | commentUnclosed => "Unterminated block comment"
  | stringUnclosed => "Unterminated string constant"
  | templateUnclosed => "Unterminated template"
  | elementTextUnclosed => "Unterminated JSX contents"
  | escapeOutOfRange =>
    "Bad character escape sequence, expected 1-6 hex characters in the range 0 to 10FFFF."
  | escapeMalformed expected => "Bad character escape sequence, expected " ++ expected
  | legacyOctal => "Legacy octal escape is not permitted in strict mode"
  | digitMissing kind => "Expected a " ++ kind ++ " digit"
  | nameAfterNumber => "Identifier cannot follow number"
  | separatorMisplaced => "A numeric separator is only allowed between two digits"
  | constantUninitialized => "'const' declarations must be initialized"
  | patternUninitialized => "Destructuring bindings require initializers"
  | returnOutside => "Return statement is not allowed here"
  | withStatement => "With statement are not allowed in strict mode"
  | breakOutside =>
    "A 'break' statement can only be used within an enclosing iteration or switch statement"
  | continueOutside => "A 'continue' statement can only be used within an enclosing iteration statement"
  | labelUnknown => "Undefined label"
  | labelRepeated name => "Label " ++ name ++ " is already declared"
  | deleteName => "'delete' cannot be called on an identifier in strict mode"
  | reservedName name => ticked name ++ " cannot be used as an identifier in strict mode"
  | reservedAwait => ticked "await" ++ " cannot be used as an identifier in an async context"
  | assignmentTarget =>
    "The left-hand side of an assignment expression must be a variable or a property access."
  | notAPattern => "Not a pattern"
  | superOutside => "Invalid access to super"
  | closingTag expected => "Expected corresponding JSX closing tag for <" ++ expected ++ ">"
  | constructorRepeated => "A class can only have one constructor"
  | asyncConstructor => "Constructor can't be an async function"
  | generatorConstructor => "Constructor can't be a generator"
  | accessorConstructor => "Class constructor can't be an accessor"
  | defaultRepeated => "A switch block cannot have multiple defaults"
  | handlerMissing => "Missing catch or finally clause"
  | importExportInside => "'import', and 'export' cannot be used outside of module code"
  | optionalChainTarget => "Constructors in/after an Optional Chain are not allowed."
  | parameterAfterRest => "A rest parameter must be last in a parameter list"
  | elementAfterRest => "Rest element must be final element"
  | commaAfterRest => "Trailing comma isn't permitted after a rest element"
  | newlineAfterThrow => "LineBreak cannot follow 'throw'"
  | newlineBeforeArrow => "Unexpected line break between arrow head and arrow"
  | mixedCoalescing => "Nullish coalescing operator(??) requires parens when mixing with logical operators"
  | powerOperand => "** cannot be applied to unary expression"
  | bindingReserved => "'eval' and 'arguments' cannot be used as a binding identifier in strict mode"
  | nestingTooDeep => "Nesting is too deep"

end Cause

/-- A cause and the byte of the source text it points at. -/
structure Fault where
  cause : Cause
  offset : Nat
deriving DecidableEq, Repr, Inhabited

end StaticContext.Script
