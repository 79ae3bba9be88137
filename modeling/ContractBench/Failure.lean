import ContractBench.Daemon
import ContractBench.Disk
import ContractBench.Json.Reader
import ContractBench.Json.Writer
import ContractBench.Log.Level
import ContractBench.Schema.Issue
import ContractBench.Text.Blank
import ContractBench.Toml.Scalar
import ContractBench.Value.Plain

/-! # Failures

Every way in which an operation of the bench can fail, with its cause. `Failure.message` is the
only place that puts a failure into words. A message that quotes a report is its first line.
-/

namespace ContractBench

/-- Why an entry of the registry could not be read. -/
inductive EntryFault where
  /-- The file cannot be read. -/
  | file (e : FileError)
  /-- The file holds no text. -/
  | notText (place : Utf8.DecodeError)
  /-- The text holds no contract. -/
  | invalid (report : Report)
  deriving Repr, DecidableEq

/-- The words for an unreadable entry. -/
def EntryFault.message : EntryFault → String
  | .file e => e.message
  | .notText place => place.message
  | .invalid report => report.headline

/-- A failed operation. -/
inductive Failure where
  /-- The daemon is missing or may not be run. -/
  | daemonMissing (binary : String) (fault : LaunchFault)
  /-- The daemon cannot be run for another reason. -/
  | daemonUnusable (command : String) (fault : LaunchFault)
  /-- A command holds the character that ends texts in the system. -/
  | embeddedNul
  /-- A wait is longer than the system grants. -/
  | endlessWait
  /-- An answer is no JSON document. -/
  | notJson (binary : String) (error : Json.ReadError) (answer : String)
  /-- A document does not fit the type of answer that was asked for. -/
  | mismatch (type : String) (report : Report) (document : String)
  /-- A message has no JSON text. -/
  | unwritable (fault : Json.WriteFault)
  /-- A record of a message has no plain value. -/
  | notPlain (fault : Value.PlainFault)
  /-- An entry of the registry was asked for without a name. -/
  | unnamedEntry
  /-- An entry of the registry cannot be used. -/
  | noEntry (name path : String) (fault : EntryFault)
  /-- Values do not fit the schema of settings or of a record. -/
  | rejected (report : Report)
  /-- An operation on a file failed. -/
  | file (e : FileError)
  /-- The bytes of a file hold no text. -/
  | notText (place : Utf8.DecodeError)
  /-- A document is more than can be read. -/
  | oversizedDocument (fault : Json.ReadFault)
  /-- A table is more than can be read. -/
  | oversizedTable (fault : Toml.Fault)
  /-- The name of a level cannot be used. -/
  | level (fault : LevelFault)
  /-- A value of the given type is where a table must be. -/
  | notTable (typeName : String)
  /-- A message of the given type is no message of the kind that is wanted. -/
  | wrongMessage (typeName use : String)
  /-- A message keeps a value of the given type in place of the use that is wanted. -/
  | uselessEntry (typeName : String)
  deriving Repr, DecidableEq

namespace Failure

/-- The words for a value that is where a table must be. -/
def notTableText (typeName : String) : String :=
  if typeName = "list" then "list indices must be integers or slices, not str"
  else if typeName = "str" then "string indices must be integers, not 'str'"
  else "'" ++ typeName ++ "' object is not subscriptable"

/-- The words for a failure. -/
def message : Failure → String
  | .daemonMissing binary fault =>
    "Unable to run " ++ binary ++ ". Maybe secretd is not installed? (" ++ fault.message ++ ")"
  | .daemonUnusable command fault => "Unable to run " ++ command ++ ": " ++ fault.message
  | .embeddedNul => "embedded null byte"
  | .endlessWait => "timestamp too large to convert to C _PyTime_t"
  | .notJson binary error answer =>
    "Invalid JSON output from " ++ binary ++ ": " ++ error.message answer
  | .mismatch type report _ =>
    Text.firstLine ("Daemon response does not match " ++ type ++ ": " ++ report.headline)
  | .unwritable fault => "Cannot serialize message to JSON: " ++ fault.message
  | .notPlain fault => fault.message
  | .unnamedEntry => "no cached contract found"
  | .noEntry name path fault =>
    let text := "No cached contract '" ++ name ++ "' at " ++ path ++ ": " ++ fault.message
    match fault with
    | .invalid _ => Text.firstLine text
    | _ => text
  | .rejected report => report.headline
  | .file e => e.message
  | .notText place => place.message
  | .oversizedDocument fault => fault.message
  | .oversizedTable fault => fault.message
  | .level fault => fault.message
  | .notTable typeName => notTableText typeName
  | .wrongMessage typeName use => "'" ++ typeName ++ "' object has no attribute '" ++ use ++ "'"
  | .uselessEntry typeName => "'" ++ typeName ++ "' object is not callable"

/-- The failure for a document that is more than can be read; none for one that is ill-formed. -/
def ofSize? : Json.ReadFault → Option Failure
  | .longNumeral digits => some (.oversizedDocument (.longNumeral digits))
  | .deepList => some (.oversizedDocument .deepList)
  | .deepObject => some (.oversizedDocument .deepObject)
  | _ => none

/-- The issues that a failure reports. -/
def issues? : Failure → Option (List Issue)
  | .mismatch _ report _ => some report.issues
  | .noEntry _ _ (.invalid report) => some report.issues
  | .rejected report => some report.issues
  | _ => none

/-- The answer of the daemon that a failure is about. -/
def rawAnswer? : Failure → Option String
  | .notJson _ _ answer => some answer
  | .mismatch _ _ document => some document
  | _ => none

end Failure

end ContractBench
