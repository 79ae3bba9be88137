import ContractBench.Schema

/-! # Listings

The entries of the two lists that the daemon keeps: of stored contract codes, and of the contracts
that run a code.
-/

namespace ContractBench

/-- A stored contract code. -/
structure StoredCode where
  /-- The number of the code. -/
  id : Int
  /-- Who stored it. -/
  creator : String
  /-- The hash of the code. -/
  dataHash : String
  /-- Where its source is found. -/
  source : String
  /-- What it was built with. -/
  builder : String
  deriving Repr, DecidableEq, Inhabited

namespace StoredCode

/-- The name of an entry in reports. -/
def title : String := "ListCodeResponse"

/-- The schema of an entry. -/
def schema : Schema := .record title [
  ((FieldSpec.required "id").readFrom ["id", "code_id"], .integer),
  (.withDefault "creator" (.text ""), .text true),
  ((FieldSpec.withDefault "data_hash" (.text "")).readFrom ["data_hash", "code_hash"], .text true),
  (.withDefault "source" (.text ""), .text true),
  (.withDefault "builder" (.text ""), .text true)] false

/-- The entry in an accepted record. -/
def ofRecord (v : Value) : StoredCode where
  id := (v.field "id").asInt?.getD 0
  creator := (v.field "creator").asText
  dataHash := (v.field "data_hash").asText
  source := (v.field "source").asText
  builder := (v.field "builder").asText

/-- The record of an entry. -/
def toValue (code : StoredCode) : Value := .record title [
  (.own "id", .int code.id),
  (.own "creator", .text code.creator),
  (.own "data_hash", .text code.dataHash),
  (.own "source", .text code.source),
  (.own "builder", .text code.builder)] []

/-- The number of the code in decimal. -/
def idText (code : StoredCode) : String := toString code.id

end StoredCode

/-- A contract that runs a stored code. -/
structure Instance where
  /-- The number of the code. -/
  codeId : Int
  /-- Who made the contract. -/
  creator : String
  /-- The label of the contract. -/
  label : String
  /-- The address of the contract. -/
  address : String
  deriving Repr, DecidableEq, Inhabited

namespace Instance

/-- The name of an entry in reports. -/
def title : String := "ListContractCode"

/-- The schema of an entry. -/
def schema : Schema := .record title [
  (.required "code_id", .integer),
  (.withDefault "creator" (.text ""), .text true),
  (.withDefault "label" (.text ""), .text true),
  ((FieldSpec.withDefault "address" (.text "")).readFrom ["address", "contract_address"],
    .text true)] false

/-- The entry in an accepted record. -/
def ofRecord (v : Value) : Instance where
  codeId := (v.field "code_id").asInt?.getD 0
  creator := (v.field "creator").asText
  label := (v.field "label").asText
  address := (v.field "address").asText

/-- The record of an entry. -/
def toValue (entry : Instance) : Value := .record title [
  (.own "code_id", .int entry.codeId),
  (.own "creator", .text entry.creator),
  (.own "label", .text entry.label),
  (.own "address", .text entry.address)] []

end Instance

end ContractBench
