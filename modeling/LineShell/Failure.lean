import LineShell.Validation

/-!
All ways in which declaring or running a command fails, as causes. Every cause has a stable code,
a message and a detail that names the command, parameter or literal at fault.
-/

namespace LineShell

open LineShell.Decimal

inductive DefinitionFault
  | emptyName
  | notOneWord (name : String)
  | notCallable (name : String)
  | negativeDepth (name : String)
  | repeatedParameter (name : String)
  | requiredAfterOptional
  | because (reason : String)
  deriving DecidableEq, Repr

def DefinitionFault.reason : DefinitionFault → String
  | .emptyName => "Command name is empty"
  | .notOneWord name => "Command name '" ++ name ++ "' must be a single word"
  | .notCallable name => "Command '" ++ name ++ "' action is not callable"
  | .negativeDepth name => "Command '" ++ name ++ "' max_depth must be >= 0"
  | .repeatedParameter name => "Duplicate parameter name '" ++ name ++ "'"
  | .requiredAfterOptional => "Optional parameters must be after others"
  | .because reason => reason

inductive ParameterError
  | missing (name : String)
  -- `name` is that of the parameter, or of the type if no parameter is known
  | mismatch (name literal reason typeName : String)
  | unknownType (name : String)
  | unspecified (message : String)
  deriving DecidableEq, Repr

inductive CommandError
  | emptyLine
  | wrongName (expected actual : String)
  | invalidDefinition (fault : DefinitionFault)
  | nestingLimit (limit : Int)
  | duplicateName (name : String)
  | notFound (name : String)
  | parameter (error : ParameterError)
  | unspecified (message : String)
  /-- An error that a command brings with it. Nothing sees to it that its code is a text and its
  detail an object. -/
  | own (code : Datum) (message : String) (detail : Datum)

inductive Exception
  | command (error : CommandError)
  | raised (kind message : String)
  -- lines nested deeper than the budget of the run
  | tooDeep
  | deepData
  -- data that is no such record
  | invalid (record : String) (issues : List Issue)

inductive Failure
  | exception (e : Exception)
  /-- The program is to end, with a code. Handlers of exceptions let that pass. -/
  | exit (code : Nat)

namespace ParameterError

def code : ParameterError → String
  | .missing _ => "MISSING_PARAMETER"
  | .mismatch .. => "PARAMETER_TYPE_MISMATCH"
  | .unknownType _ => "UNKNOWN_PARAMETER_TYPE"
  | .unspecified _ => "PARAMETER_ERROR"

def message : ParameterError → String
  | .missing name => "Missing required parameter: " ++ name
  | .mismatch name _ reason _ => "Parameter type mismatch " ++ name ++ ": " ++ reason
  | .unknownType name => "Unknown parameter type: " ++ name
  | .unspecified message => message

def detail : ParameterError → Entries Datum
  | .missing name => [("name", .string name)]
  | .mismatch name literal reason typeName =>
    [("name", .string name), ("type", .string typeName), ("literal", .string literal),
      ("reason", .string reason)]
  | .unknownType name => [("type", .string name)]
  | .unspecified _ => []

end ParameterError

namespace CommandError

def code : CommandError → Datum
  | .emptyLine => .string "EMPTY_COMMAND"
  | .wrongName .. => .string "WRONG_COMMAND_NAME"
  | .invalidDefinition _ => .string "CONSTRUCTION_INVALID"
  | .nestingLimit _ => .string "NESTING_LIMIT_EXCEEDED"
  | .duplicateName _ => .string "DUPLICATE_COMMAND_NAME"
  | .notFound _ => .string "COMMAND_NOT_FOUND"
  | .parameter e => .string e.code
  | .unspecified _ => .string "COMMAND_ERROR"
  | .own code .. => code

def message : CommandError → String
  | .emptyLine => "Cannot execute an empty command line"
  | .wrongName expected actual =>
    "Command '" ++ expected ++ "' cannot run line starting with '" ++ actual ++ "'"
  | .invalidDefinition fault => "Invalid command definition: " ++ fault.reason
  | .nestingLimit limit => "Command nesting exceeded the allowed limit of " ++ intText limit
  | .duplicateName name => "Command with name '" ++ name ++ "' already exists"
  | .notFound name => "Command with name '" ++ name ++ "' not found"
  | .parameter e => e.message
  | .unspecified message => message
  | .own _ message _ => message

def detail : CommandError → Datum
  | .emptyLine => .object []
  | .wrongName expected actual =>
    .object [("expected", .string expected), ("actual", .string actual)]
  | .invalidDefinition fault => .object [("reason", .string fault.reason)]
  | .nestingLimit limit => .object [("max_depth", .int limit)]
  | .duplicateName name => .object [("name", .string name)]
  | .notFound name => .object [("name", .string name)]
  | .parameter e => .object e.detail
  | .unspecified _ => .object []
  | .own _ _ detail => detail

end CommandError

namespace Exception

def message : Exception → String
  | .command e => e.message
  | .raised _ message => message
  | .tooDeep => "maximum recursion depth exceeded"
  | .deepData => "Error serializing to JSON: ValueError: Maximum serialization depth exceeded"
  | .invalid record issues =>
    natText issues.length ++ " validation error" ++ (if issues.length = 1 then "" else "s")
      ++ " for " ++ record

def kind : Exception → String
  | .command _ => "CommandError"
  | .raised kind _ => kind
  | .tooDeep => "RecursionError"
  | .deepData => "SerializationError"
  | .invalid .. => "ValidationError"

end Exception

namespace Failure

@[match_pattern] abbrev command (e : CommandError) : Failure := .exception (.command e)

@[match_pattern] abbrev raised (kind message : String) : Failure :=
  .exception (.raised kind message)

@[match_pattern] abbrev tooDeep : Failure := .exception .tooDeep

@[match_pattern] abbrev deepData : Failure := .exception .deepData

def parameter (e : ParameterError) : Failure := .command (.parameter e)

def notFound (name : String) : Failure := .command (.notFound name)

end Failure

end LineShell
