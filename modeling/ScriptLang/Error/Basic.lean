import ScriptLang.Position
import ScriptLang.Text.Quoted

/-!
Errors.

Every phase fails with a cause and an offset; the name of the file is added where the error
leaves the library.  A cause has a name, a message, and for most causes a tip.
-/

namespace ScriptLang

inductive Cause where
  | unrecognisedToken (token : String)
  | unexpectedToken (token : String)
  | unexpectedTokenDetailed (token message : String)
  | numberParseError (token : String)
  | variableAlreadyDeclared (name : String)
  | variableNotDeclared (name : String)
  | functionAlreadyDeclared (function : String) (arity : Nat)
  | functionNotDeclared (function : String) (arity : Nat)
  | argumentTypeMatchError (expected received : String)
  | typeMatchError (expected received : String)
  | expectedExplicitValue
  | unknownType (name : String)
  | invalidExpressionStatement
  | emptyThenBlock
  | missingDefaultCase
  | integerOutOfRange (literal : String)
  | decimalOutOfRange (literal : String)
  | missingMain
  | invalidAssignmentTarget
  | immutableAssignment (name : String)
  | returnOutsideFunction
  | listNotIndexed (name : String)
  | notAList (name : String)
  | divisionByZero
  | invalidOperand (operator received : String)
  | indexOutOfRange (index : String) (length : Nat)
  | invalidArgument (function message : String)
  | notInvocable (function : String)
  | outputError (message : String)
  deriving DecidableEq, Inhabited, Repr

namespace Cause

open Text (quoted)

def name : Cause → String
  | unrecognisedToken _ => "UnrecognisedToken"
  | unexpectedToken _ => "UnexpectedToken"
  | unexpectedTokenDetailed _ _ => "UnexpectedTokenDetailed"
  | numberParseError _ => "NumberParseError"
  | variableAlreadyDeclared _ => "VariableAlreadyDeclared"
  | variableNotDeclared _ => "VariableNotDeclared"
  | functionAlreadyDeclared _ _ => "FunctionAlreadyDeclared"
  | functionNotDeclared _ _ => "FunctionNotDeclared"
  | argumentTypeMatchError _ _ => "ArgumentTypeMatchError"
  | typeMatchError _ _ => "TypeMatchError"
  | expectedExplicitValue => "ExpectedExplicitValue"
  | unknownType _ => "UnknownType"
  | invalidExpressionStatement => "InvalidExpressionStatement"
  | emptyThenBlock => "EmptyThenBlock"
  | missingDefaultCase => "MissingDefaultCase"
  | integerOutOfRange _ => "IntegerOutOfRange"
  | decimalOutOfRange _ => "DecimalOutOfRange"
  | missingMain => "MissingMain"
  | invalidAssignmentTarget => "InvalidAssignmentTarget"
  | immutableAssignment _ => "ImmutableAssignment"
  | returnOutsideFunction => "ReturnOutsideFunction"
  | listNotIndexed _ => "ListNotIndexed"
  | notAList _ => "NotAList"
  | divisionByZero => "DivisionByZero"
  | invalidOperand _ _ => "InvalidOperand"
  | indexOutOfRange _ _ => "IndexOutOfRange"
  | invalidArgument _ _ => "InvalidArgument"
  | notInvocable _ => "NotInvocable"
  | outputError _ => "OutputError"

/-- The message of a cause.  Names and tokens are quoted; types, literals and operands stand
as they are. -/
def message : Cause → String
  | unrecognisedToken token => "unrecognised token: " ++ quoted token
  | unexpectedToken token => "unexpected token: " ++ quoted token
  | unexpectedTokenDetailed token detail =>
      "unexpected token (" ++ quoted detail ++ "): " ++ quoted token
  | numberParseError token => "error parsing number: " ++ quoted token
  | variableAlreadyDeclared name => "variable " ++ quoted name ++ " already declared"
  | variableNotDeclared name => "variable " ++ quoted name ++ " not declared"
  | functionAlreadyDeclared function arity =>
      "function " ++ quoted function ++ " with " ++ toString arity
        ++ " parameters already declared"
  | functionNotDeclared function arity =>
      "function " ++ quoted function ++ " with " ++ toString arity ++ " parameters not declared"
  | argumentTypeMatchError expected received =>
      "argument types do not match: expected " ++ quoted expected ++ ", received "
        ++ quoted received
  | typeMatchError expected received =>
      "types do not match: expected " ++ quoted expected ++ ", received " ++ quoted received
  | expectedExplicitValue => "expected explicit value when no type is given"
  | unknownType name => "unknown type " ++ name ++ " found"
  | invalidExpressionStatement => "expression statement is not a function call"
  | emptyThenBlock => "if statement has an empty then block"
  | missingDefaultCase => "switch statement must end with a default case"
  | integerOutOfRange literal => "integer literal " ++ literal ++ " is out of range"
  | decimalOutOfRange literal => "decimal literal " ++ literal ++ " is out of range"
  | missingMain => "missing function main/0 returning Integer"
  | invalidAssignmentTarget => "invalid assignment target"
  | immutableAssignment name => "cannot assign to immutable variable " ++ quoted name
  | returnOutsideFunction => "return statement outside of a function"
  | listNotIndexed name => "list " ++ quoted name ++ " used without an index"
  | notAList name => "variable " ++ quoted name ++ " is not a list"
  | divisionByZero => "cannot divide by zero"
  | invalidOperand operator received => "invalid operand for " ++ operator ++ ": " ++ received
  | indexOutOfRange index length =>
      "index " ++ index ++ " out of range for length " ++ toString length
  | invalidArgument function detail => "invalid argument to " ++ function ++ ": " ++ detail
  | notInvocable function => "function " ++ quoted function ++ " cannot be invoked"
  | outputError detail => "failed to write output: " ++ detail

def tip : Cause → Option String
  | unrecognisedToken _ => none
  | unexpectedToken token =>
      some ("Unexpected token: `" ++ token ++ "`, did you miss a semicolon?")
  | unexpectedTokenDetailed token detail =>
      some ("Unexpected token: `" ++ token ++ "`, " ++ detail)
  | numberParseError token => some ("Invalid number: `" ++ token ++ "`")
  | variableAlreadyDeclared name =>
      some ("Variable `" ++ name ++ "` already declared in this scope")
  | variableNotDeclared name => some ("Variable `" ++ name ++ "` not declared")
  | functionAlreadyDeclared function arity =>
      some ("Function `" ++ function ++ "/" ++ toString arity ++ "` already declared")
  | functionNotDeclared function arity =>
      some ("No function `" ++ function ++ "` taking " ++ toString arity ++ " arguments")
  | argumentTypeMatchError expected received =>
      some ("Expected argument type `" ++ expected ++ "`, received `" ++ received ++ "`")
  | typeMatchError expected received =>
      some ("Expected type `" ++ expected ++ "`, received `" ++ received ++ "`")
  | expectedExplicitValue => some "Expected explicit value when no type is given"
  | unknownType name => some ("Unknown type `" ++ name ++ "` found")
  | invalidExpressionStatement => some "Only function calls may be used as statements"
  | emptyThenBlock => some "The `DO` block of an `IF` cannot be empty"
  | missingDefaultCase => some "The last case of a `SWITCH` must be `DEFAULT`"
  | integerOutOfRange literal => some ("Integer `" ++ literal ++ "` does not fit in 32 bits")
  | decimalOutOfRange literal =>
      some ("Decimal `" ++ literal ++ "` is too large to be represented")
  | missingMain => some "Declare `FUN main(): Integer DO ... END`"
  | invalidAssignmentTarget => some "Only variables and list elements can be assigned to"
  | immutableAssignment name => some ("`" ++ name ++ "` is declared with VAL")
  | returnOutsideFunction => none
  | listNotIndexed name =>
      some ("`" ++ name ++ "` is a list; index it, or pass it where `Any` is expected")
  | notAList name => some ("`" ++ name ++ "` is not declared with LIST")
  | divisionByZero => none
  | invalidOperand operator received =>
      some ("Operator `" ++ operator ++ "` cannot be applied to " ++ received)
  | indexOutOfRange index length =>
      some ("Index " ++ index ++ " is outside a list of length " ++ toString length)
  | invalidArgument function detail => some ("`" ++ function ++ "`: " ++ detail)
  | notInvocable function =>
      some ("`" ++ function ++ "` only carries a signature and has no body")
  | outputError _ => none

end Cause

structure Fault where
  cause : Cause
  offset : Nat
  deriving DecidableEq, Inhabited, Repr

structure Error where
  cause : Cause
  position : Position
  deriving DecidableEq, Inhabited, Repr

/-- The error that a fault is when it happens in the given file.  No phase of reading, checking
and running knows another file, so every fault of a text is in the file that the text was read
from. -/
def Fault.inFile (fault : Fault) (file : String) : Error :=
  { cause := fault.cause
    position := { offset := fault.offset, file := file } }

def Error.message (error : Error) : String :=
  error.cause.message ++ " at " ++ error.position.describe

end ScriptLang
