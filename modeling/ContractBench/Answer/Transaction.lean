import ContractBench.Schema
import ContractBench.Settings

/-! # Transactions on the chain

The full result of a transaction, fetched by its hash, with the events that its messages caused.
`Transaction.findAttribute?` looks through the attributes that a scan mode visits, in order.
-/

namespace ContractBench

/-- A named text of an event. -/
structure Attribute where
  /-- Its name. -/
  key : String
  /-- Its text. -/
  value : String
  deriving Repr, DecidableEq, Inhabited

/-- Something that happened while a message was run. -/
structure Event where
  /-- The kind of event. -/
  kind : String
  /-- What is known of it. -/
  attributes : List Attribute
  deriving Repr, DecidableEq, Inhabited

/-- What one message of a transaction caused. -/
structure MessageLog where
  /-- The place of the message in the transaction. -/
  messageIndex : Option Int
  /-- The log as one text. -/
  log : String
  /-- The events in order. -/
  events : List Event
  deriving Repr, DecidableEq, Inhabited

/-- The result of a transaction. -/
structure Transaction where
  /-- The hash of the transaction. -/
  txHash : String
  /-- The height of its block. -/
  height : Option String
  /-- The code of its result. -/
  code : Option Int
  /-- The log as one text. -/
  rawLog : String
  /-- The log message by message. -/
  logs : List MessageLog
  /-- The gas asked for. -/
  gasWanted : Option String
  /-- The gas used. -/
  gasUsed : Option String
  deriving Repr, DecidableEq, Inhabited

namespace Attribute

/-- The schema of an attribute. -/
def schema : Schema := .record "Attribute" [
  ((FieldSpec.withDefault "msg_key" (.text "")).writtenAs "key", .text true),
  (.withDefault "value" (.text ""), .text true)] false

/-- The attribute in an accepted record. -/
def ofRecord (v : Value) : Attribute := ⟨(v.field "msg_key").asText, (v.field "value").asText⟩

/-- The record of an attribute. -/
def toValue (attr : Attribute) : Value := .record "Attribute" [
  ({ FieldName.own "msg_key" with written := "key" }, .text attr.key),
  (.own "value", .text attr.value)] []

end Attribute

namespace Event

/-- The schema of an event. -/
def schema : Schema := .record "Event" [
  (.withDefault "type" (.text ""), .text true),
  (.withDefault "attributes" (.list []), .list Attribute.schema)] false

/-- The event in an accepted record. -/
def ofRecord (v : Value) : Event where
  kind := (v.field "type").asText
  attributes := (v.field "attributes").asList.map Attribute.ofRecord

/-- The record of an event. -/
def toValue (event : Event) : Value := .record "Event" [
  (.own "type", .text event.kind),
  (.own "attributes", .list (event.attributes.map Attribute.toValue))] []

end Event

namespace MessageLog

/-- The schema of what a message caused. -/
def schema : Schema := .record "Log" [
  (.withDefault "msg_index" .null, .nullable .integer),
  (.withDefault "log" (.text ""), .text true),
  (.withDefault "events" (.list []), .list Event.schema)] false

/-- The log in an accepted record. -/
def ofRecord (v : Value) : MessageLog where
  messageIndex := (v.field "msg_index").asInt?
  log := (v.field "log").asText
  events := (v.field "events").asList.map Event.ofRecord

/-- The record of what a message caused. -/
def toValue (log : MessageLog) : Value := .record "Log" [
  (.own "msg_index", .ofInt? log.messageIndex),
  (.own "log", .text log.log),
  (.own "events", .list (log.events.map Event.toValue))] []

end MessageLog

namespace Transaction

/-- The name of the result in reports. -/
def title : String := "TxQuery"

/-- The schema of the result. -/
def schema : Schema := .record title [
  (.required "txhash", .text true),
  (.withDefault "height" .null, .nullable (.text true)),
  (.withDefault "code" .null, .nullable .integer),
  (.withDefault "raw_log" (.text ""), .text true),
  (.withDefault "logs" (.list []), .list MessageLog.schema),
  (.withDefault "gas_wanted" .null, .nullable (.text true)),
  (.withDefault "gas_used" .null, .nullable (.text true))] false

/-- The result in an accepted record. -/
def ofRecord (v : Value) : Transaction where
  txHash := (v.field "txhash").asText
  height := (v.field "height").asText?
  code := (v.field "code").asInt?
  rawLog := (v.field "raw_log").asText
  logs := (v.field "logs").asList.map MessageLog.ofRecord
  gasWanted := (v.field "gas_wanted").asText?
  gasUsed := (v.field "gas_used").asText?

/-- The record of a result. -/
def toValue (tx : Transaction) : Value := .record title [
  (.own "txhash", .text tx.txHash),
  (.own "height", .ofText? tx.height),
  (.own "code", .ofInt? tx.code),
  (.own "raw_log", .text tx.rawLog),
  (.own "logs", .list (tx.logs.map MessageLog.toValue)),
  (.own "gas_wanted", .ofText? tx.gasWanted),
  (.own "gas_used", .ofText? tx.gasUsed)] []

/-- The attributes that a scan mode visits, in order. -/
def visited (tx : Transaction) : ScanMode → List Attribute
  | .all => tx.logs.flatMap fun log => log.events.flatMap (·.attributes)
  | .firstEvent =>
    match tx.logs with
    | [] => []
    | log :: _ =>
      match log.events with
      | [] => []
      | event :: _ => event.attributes

/-- The text of the first visited attribute of a name. -/
def findAttribute? (tx : Transaction) (key : String) (scan : ScanMode) : Option String :=
  ((tx.visited scan).find? fun attr => attr.key = key).map (·.value)

/-- What the log says when a contract refused its message. -/
def failureMarker : String := "failed to execute message"

/-- Whether a text occurs in another. -/
def occurs (part : List Char) : List Char → Bool
  | [] => part.isEmpty
  | c :: rest => part.isPrefixOf (c :: rest) || occurs part rest

/-- Whether a contract refused the message of the transaction. -/
def hasFailed (tx : Transaction) : Bool := occurs failureMarker.toList tx.rawLog.toList

end Transaction

end ContractBench
