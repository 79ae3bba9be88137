import ContractBench.Schema

/-! # Computation results

The decrypted result of running a contract. Entries that have no field are kept, in their order.
-/

namespace ContractBench

/-- The result of a computation. -/
structure Computation where
  /-- The message that was run. -/
  input : Option String
  /-- The encoded output. -/
  outputData : Option String
  /-- The output as text. -/
  outputText : Option String
  /-- The log entries, or null. -/
  outputLogs : Value
  /-- The error of the contract, or null. -/
  outputError : Value
  /-- The error of the node. -/
  plaintextError : Option String
  /-- All other entries. -/
  extras : List (String × Value)
  deriving Inhabited

namespace Computation

/-- The name of the result in reports. -/
def title : String := "TxCompute"

/-- The schema of the result. -/
def schema : Schema := .record title [
  (.withDefault "input" (.text ""), .nullable (.text false)),
  (.withDefault "output_data" (.text ""), .nullable (.text false)),
  (.withDefault "output_data_as_string" (.text ""), .nullable (.text false)),
  (.withDefault "output_logs" .null, .nullable (.list (.dict (.text false) .any))),
  (.withDefault "output_error" .null, .any),
  (.withDefault "plaintext_error" (.text ""), .nullable (.text false))] true

/-- What an accepted record kept beyond its fields. -/
def extrasOf : Value → List (String × Value)
  | .record _ _ extras => extras
  | _ => []

/-- The result in an accepted record. -/
def ofRecord (v : Value) : Computation where
  input := (v.field "input").asText?
  outputData := (v.field "output_data").asText?
  outputText := (v.field "output_data_as_string").asText?
  outputLogs := v.field "output_logs"
  outputError := v.field "output_error"
  plaintextError := (v.field "plaintext_error").asText?
  extras := extrasOf v

/-- The record of a result. -/
def toValue (result : Computation) : Value := .record title [
  (.own "input", .ofText? result.input),
  (.own "output_data", .ofText? result.outputData),
  (.own "output_data_as_string", .ofText? result.outputText),
  (.own "output_logs", result.outputLogs),
  (.own "output_error", result.outputError),
  (.own "plaintext_error", .ofText? result.plaintextError)] result.extras

end Computation

end ContractBench
