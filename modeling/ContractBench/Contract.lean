import ContractBench.Schema
import ContractBench.Schema.Validate
import ContractBench.Json.Reader
import ContractBench.Text.Quoted

/-! # Contracts

A deployed contract is known by its label, the number of its code, its address and the hash of its
code. `Contract.encode` writes one as the text of a registry entry and `Contract.decode` reads it
back: a JSON object whose four fields are texts, each of which may be absent, among other keys.
-/

namespace ContractBench

/-- A deployed contract. -/
structure Contract where
  /-- Its label. -/
  label : String := ""
  /-- The number of its code. -/
  id : String := ""
  /-- Its address. -/
  address : String := ""
  /-- The hash of its code. -/
  codeHash : String := ""
  deriving Repr, DecidableEq, Inhabited

namespace Contract

/-- The name of a contract in reports. -/
def title : String := "NetContract"

/-- The schema of a contract. -/
def schema : Schema := .record title [
  (.withDefault "label" (.text ""), .text false),
  (.withDefault "id" (.text ""), .text false),
  (.withDefault "address" (.text ""), .text false),
  (.withDefault "code_hash" (.text ""), .text false)] false

/-- The contract in an accepted record. -/
def ofRecord (v : Value) : Contract where
  label := (v.field "label").asText
  id := (v.field "id").asText
  address := (v.field "address").asText
  codeHash := (v.field "code_hash").asText

/-- The record of a contract. -/
def toValue (contract : Contract) : Value := .record title [
  (.own "label", .text contract.label),
  (.own "id", .text contract.id),
  (.own "address", .text contract.address),
  (.own "code_hash", .text contract.codeHash)] []

/-- Read a contract from a value. -/
def ofValue (v : Value) : Except Report Contract := (schema.accept title v).map ofRecord

/-- Whether the number, the address and the hash are all known. -/
def isResolved (contract : Contract) : Bool :=
  contract.id ≠ "" && contract.address ≠ "" && contract.codeHash ≠ ""

/-- The names of what is not known. -/
def missing (contract : Contract) : List String :=
  ([("id", contract.id), ("address", contract.address), ("code_hash", contract.codeHash)].filter
    fun entry => entry.2 = "").map (·.1)

/-- One character in the text of an entry. Only quotes, backslashes and control characters are
    escaped. -/
def escapeChar (c : Char) : List Char :=
  if c = '"' then ['\\', '"']
  else if c = '\\' then ['\\', '\\']
  else if c = '\n' then ['\\', 'n']
  else if c = '\r' then ['\\', 'r']
  else if c = '\t' then ['\\', 't']
  else if c = '\x08' then ['\\', 'b']
  else if c = '\x0c' then ['\\', 'f']
  else if c.toNat < 0x20 then '\\' :: 'u' :: Text.hexDigits 4 c.toNat
  else [c]

/-- A text between double quotes. -/
def quote (s : String) : String :=
  String.ofList ('"' :: s.toList.flatMap escapeChar ++ ['"'])

/-- The text of an entry. -/
def encode (contract : Contract) : String :=
  "\x7b\"label\":" ++ quote contract.label ++ ",\"id\":" ++ quote contract.id ++
    ",\"address\":" ++ quote contract.address ++ ",\"code_hash\":" ++ quote contract.codeHash ++
    "\x7d"

/-- Read a contract from the document of an entry, which must be an object. -/
def ofDocument : Value → Except Report Contract
  | .dict entries => ofValue (.dict entries)
  | _ => .error ⟨title, [.here .notObject]⟩

/-- Read the text of an entry. -/
def decode (text : String) : Except Report Contract :=
  match Json.readStrict? text with
  | some document => ofDocument document
  | none => .error ⟨title, [.here .invalidJson]⟩

end Contract

end ContractBench
