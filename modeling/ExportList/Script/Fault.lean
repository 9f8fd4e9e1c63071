import ExportList.Text

/-!
What can be wrong with a JavaScript document, and where.
-/

set_option autoImplicit false

namespace ExportList.Script

inductive Fault where
  | illegal
  | unexpectedEnd
  | unexpectedIdentifier
  | unexpectedNumber
  | unexpectedString
  | unexpectedTemplate (raw : Text)
  | unexpectedToken (shown : Text)
  | unexpectedReserved
  | unexpected
  | accessorConstructor
  | asyncConstructor
  | badHexEscape
  | duplicateBinding (name : Text)
  | duplicateConstructor
  | duplicateLabel (name : Text)
  | duplicatePrototype
  | duplicateStrictParameter
  | escapedKeyword
  | generatorAfterLabel
  | getterWithParameters
  | illegalBreak
  | illegalContinue
  | illegalReturn
  | initializedLoopVariable (loop : Text)
  | invalidAssignmentTarget
  | invalidForInTarget
  | invalidForOfTarget
  | invalidPattern
  | letBoundLexically
  | lineBreakAfterThrow
  | missingHandler
  | missingInitializer
  | repeatedDefault
  | restNotLast
  | restWithDefault
  | setterArity
  | setterRest
  | staticPrototype
  | strictAssignment
  | strictCatchName
  | strictDelete
  | strictDirective
  | strictFunctionName
  | strictFunctionPlace
  | strictOctal
  | strictParameterName
  | strictPostfix
  | strictPrefix
  | strictReserved
  | strictVariableName
  | strictWith
  | templateOctal
  | unknownLabel (name : Text)
  | unterminatedPattern
deriving DecidableEq, Repr

def Fault.message : Fault → Text
  | .illegal => "Unexpected token ILLEGAL"
  | .unexpectedEnd => "Unexpected end of input"
  | .unexpectedIdentifier => "Unexpected identifier"
  | .unexpectedNumber => "Unexpected number"
  | .unexpectedString => "Unexpected string"
  | .unexpectedTemplate raw => "Unexpected quasi " ++ raw
  | .unexpectedToken shown => "Unexpected token " ++ shown
  | .unexpectedReserved => "Unexpected reserved word"
  | .unexpected => "Unexpected token"
  | .accessorConstructor => "Class constructor may not be an accessor"
  | .asyncConstructor => "Class constructor may not be an async method"
  | .badHexEscape => "Invalid hexadecimal escape sequence"
  | .duplicateBinding name => "Duplicate binding " ++ name
  | .duplicateConstructor => "A class may only have one constructor"
  | .duplicateLabel name => "Label '" ++ name ++ "' has already been declared"
  | .duplicatePrototype => "Duplicate __proto__ fields are not allowed in object literals"
  | .duplicateStrictParameter => "Strict mode function may not have duplicate parameter names"
  | .escapedKeyword => "Keyword must not contain escaped characters"
  | .generatorAfterLabel => "Generator declarations are not allowed in legacy contexts"
  | .getterWithParameters => "Getter must not have any formal parameters"
  | .illegalBreak => "Illegal break statement"
  | .illegalContinue => "Illegal continue statement"
  | .illegalReturn => "Illegal return statement"
  | .initializedLoopVariable loop =>
    loop ++ " loop variable declaration may not have an initializer"
  | .invalidAssignmentTarget => "Invalid left-hand side in assignment"
  | .invalidForInTarget => "Invalid left-hand side in for-in"
  | .invalidForOfTarget => "Invalid left-hand side in for-loop"
  | .invalidPattern => "Invalid regular expression"
  | .letBoundLexically => "let is disallowed as a lexically bound name"
  | .lineBreakAfterThrow => "Illegal newline after throw"
  | .missingHandler => "Missing catch or finally after try"
  | .missingInitializer => "Missing initializer in const declaration"
  | .repeatedDefault => "More than one default clause in switch statement"
  | .restNotLast => "Rest parameter must be last formal parameter"
  | .restWithDefault => "Unexpected token ="
  | .setterArity => "Setter must have exactly one formal parameter"
  | .setterRest => "Setter function argument must not be a rest parameter"
  | .staticPrototype => "Classes may not have static property named prototype"
  | .strictAssignment => "Assignment to eval or arguments is not allowed in strict mode"
  | .strictCatchName => "Catch variable may not be eval or arguments in strict mode"
  | .strictDelete => "Delete of an unqualified identifier in strict mode."
  | .strictDirective =>
    "Illegal 'use strict' directive in function with non-simple parameter list"
  | .strictFunctionName => "Function name may not be eval or arguments in strict mode"
  | .strictFunctionPlace =>
    "In strict mode code, functions can only be declared at top level or inside a block"
  | .strictOctal => "Octal literals are not allowed in strict mode."
  | .strictParameterName => "Parameter name eval or arguments is not allowed in strict mode"
  | .strictPostfix =>
    "Postfix increment/decrement may not have eval or arguments operand in strict mode"
  | .strictPrefix =>
    "Prefix increment/decrement may not have eval or arguments operand in strict mode"
  | .strictReserved => "Use of future reserved word in strict mode"
  | .strictVariableName => "Variable name may not be eval or arguments in strict mode"
  | .strictWith => "Strict mode code may not include a with statement"
  | .templateOctal => "Octal literals are not allowed in template strings."
  | .unknownLabel name => "Undefined label '" ++ name ++ "'"
  | .unterminatedPattern => "Invalid regular expression: missing /"

/-- A fault and where it was noticed; the column counts from one and can be off the line when the
token before spans several lines. -/
structure Complaint where
  fault : Fault
  line : Nat
  column : Int
deriving DecidableEq, Repr

end ExportList.Script
