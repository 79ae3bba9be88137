import ContractBench.Text.Quoted

/-! # Issues

What a value that does not fit a schema gets: a report that lists its issues, each with the path
to the part that does not fit and with the cause.
-/

namespace ContractBench

/-- One step of a path into a value. -/
inductive PathStep where
  /-- To the value of a key. -/
  | key (name : String)
  /-- To an item of a list, or to the value of a key that is a number of 64 bits. -/
  | index (i : Int)
  deriving Repr, DecidableEq

/-- Why a part of a value does not fit. -/
inductive Problem where
  /-- A required field is not there. -/
  | missing
  /-- The value is no text. -/
  | notText
  /-- The bytes encode no text. -/
  | notUtf8
  /-- The value cannot be a whole number. -/
  | notInteger
  /-- The text is no whole number. -/
  | unreadableInteger
  /-- The number has a fractional part. -/
  | fractional
  /-- The number is too large to be read as a whole number. -/
  | integerTooLarge
  /-- The number is infinite or none. -/
  | notFinite
  /-- The value cannot be a number. -/
  | notNumber
  /-- The text is no number. -/
  | unreadableNumber
  /-- The value cannot be a truth value. -/
  | notBoolean
  /-- The value is none of the spellings of a truth value. -/
  | unreadableBoolean
  /-- The value is no list. -/
  | notList
  /-- The value is no dictionary. -/
  | notDict
  /-- The value is neither a dictionary nor a record of the named type. -/
  | notRecord (title : String)
  /-- The document is no object that could be a record of the named type. -/
  | notObject
  /-- The text is none of the choices. -/
  | notChoice (options : List String)
  /-- The number is not at least zero. -/
  | negative
  /-- The text is empty. -/
  | emptyText
  /-- A key is no text. -/
  | keyNotText
  /-- The text is no JSON document. -/
  | invalidJson
  deriving Repr, DecidableEq

/-- The short name of a problem. -/
def Problem.code : Problem → String
  | .missing => "missing"
  | .notText => "string_type"
  | .notUtf8 => "string_unicode"
  | .notInteger => "int_type"
  | .unreadableInteger => "int_parsing"
  | .fractional => "int_from_float"
  | .integerTooLarge => "int_parsing_size"
  | .notFinite => "finite_number"
  | .notNumber => "float_type"
  | .unreadableNumber => "float_parsing"
  | .notBoolean => "bool_type"
  | .unreadableBoolean => "bool_parsing"
  | .notList => "list_type"
  | .notDict => "dict_type"
  | .notRecord _ => "model_type"
  | .notObject => "model_type"
  | .notChoice _ => "literal_error"
  | .negative => "greater_than_equal"
  | .emptyText => "value_error"
  | .keyNotText => "invalid_key"
  | .invalidJson => "json_invalid"

/-- Options in quotes, with "or" before the last. -/
def orList : List String → String
  | [] => ""
  | [option] => Text.quoted option
  | [option, last] => Text.quoted option ++ " or " ++ Text.quoted last
  | option :: rest => Text.quoted option ++ ", " ++ orList rest

/-- The words for a problem. -/
def Problem.message : Problem → String
  | .missing => "Field required"
  | .notText => "Input should be a valid string"
  | .notUtf8 => "Input should be a valid string, unable to parse raw data as a unicode string"
  | .notInteger => "Input should be a valid integer"
  | .unreadableInteger => "Input should be a valid integer, unable to parse string as an integer"
  | .fractional => "Input should be a valid integer, got a number with a fractional part"
  | .integerTooLarge => "Unable to parse input string as an integer, exceeded maximum size"
  | .notFinite => "Input should be a finite number"
  | .notNumber => "Input should be a valid number"
  | .unreadableNumber => "Input should be a valid number, unable to parse string as a number"
  | .notBoolean => "Input should be a valid boolean"
  | .unreadableBoolean => "Input should be a valid boolean, unable to interpret input"
  | .notList => "Input should be a valid list"
  | .notDict => "Input should be a valid dictionary"
  | .notRecord title => "Input should be a valid dictionary or instance of " ++ title
  | .notObject => "Input should be an object"
  | .notChoice options => "Input should be " ++ orList options
  | .negative => "Input should be greater than or equal to 0"
  | .emptyText => "Value error, must not be empty"
  | .keyNotText => "Keys should be strings"
  | .invalidJson => "Invalid JSON"

/-- One part of a value that does not fit. -/
structure Issue where
  /-- The way to the part. -/
  path : List PathStep
  /-- The cause. -/
  problem : Problem
  deriving Repr, DecidableEq

/-- An issue of the whole value. -/
def Issue.here (problem : Problem) : Issue := ⟨[], problem⟩

/-- An issue seen from one step further out. -/
def Issue.under (step : PathStep) (issue : Issue) : Issue := ⟨step :: issue.path, issue.problem⟩

/-- All issues of a value with a schema. -/
structure Report where
  /-- The name of the schema. -/
  title : String
  /-- The issues, in the order of the schema. -/
  issues : List Issue
  deriving Repr, DecidableEq

/-- The first line of a report. -/
def Report.headline (report : Report) : String :=
  let count := report.issues.length
  toString count ++ (if count = 1 then " validation error for " else " validation errors for ") ++
    report.title

end ContractBench
