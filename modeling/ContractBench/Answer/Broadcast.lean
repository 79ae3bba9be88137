import ContractBench.Schema

/-! # Broadcast answers

What the daemon answers when a transaction is sent: above all the hash by which it is found later.
-/

namespace ContractBench

/-- The answer to a sent transaction. -/
structure Broadcast where
  /-- The hash of the transaction. -/
  txHash : String
  /-- The height of its block. -/
  height : Option String
  /-- The code of its result. -/
  code : Option Int
  /-- The module that the code belongs to. -/
  codespace : Option String
  /-- The log as one text. -/
  rawLog : String
  /-- The gas asked for. -/
  gasWanted : Option String
  /-- The gas used. -/
  gasUsed : Option String
  deriving Repr, DecidableEq, Inhabited

namespace Broadcast

/-- The name of the answer in reports. -/
def title : String := "TxResponse"

/-- The schema of the answer. -/
def schema : Schema := .record title [
  (.required "txhash", .text true),
  (.withDefault "height" .null, .nullable (.text true)),
  (.withDefault "code" .null, .nullable .integer),
  (.withDefault "codespace" .null, .nullable (.text true)),
  (.withDefault "raw_log" (.text ""), .text true),
  (.withDefault "gas_wanted" .null, .nullable (.text true)),
  (.withDefault "gas_used" .null, .nullable (.text true))] false

/-- The answer in an accepted record. -/
def ofRecord (v : Value) : Broadcast where
  txHash := (v.field "txhash").asText
  height := (v.field "height").asText?
  code := (v.field "code").asInt?
  codespace := (v.field "codespace").asText?
  rawLog := (v.field "raw_log").asText
  gasWanted := (v.field "gas_wanted").asText?
  gasUsed := (v.field "gas_used").asText?

/-- The record of an answer. -/
def toValue (answer : Broadcast) : Value := .record title [
  (.own "txhash", .text answer.txHash),
  (.own "height", .ofText? answer.height),
  (.own "code", .ofInt? answer.code),
  (.own "codespace", .ofText? answer.codespace),
  (.own "raw_log", .text answer.rawLog),
  (.own "gas_wanted", .ofText? answer.gasWanted),
  (.own "gas_used", .ofText? answer.gasUsed)] []

end Broadcast

end ContractBench
