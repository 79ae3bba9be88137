import ContractBench.Schema

/-! # Signatures

What the daemon answers when it has signed a document.
-/

namespace ContractBench

/-- A public key. -/
structure SigningKey where
  /-- The kind of key. -/
  kind : String
  /-- The encoded key. -/
  value : String
  deriving Repr, DecidableEq, Inhabited

/-- A signature with the key that checks it. -/
structure Signature where
  /-- The key. -/
  key : SigningKey
  /-- The encoded signature. -/
  signature : String
  deriving Repr, DecidableEq, Inhabited

namespace SigningKey

/-- The schema of a key. -/
def schema : Schema := .record "PubKey" [
  (.withDefault "type" (.text ""), .text true),
  (.withDefault "value" (.text ""), .text true)] false

/-- The key in an accepted record. -/
def ofRecord (v : Value) : SigningKey := ⟨(v.field "type").asText, (v.field "value").asText⟩

/-- The record of a key. -/
def toValue (key : SigningKey) : Value := .record "PubKey" [
  (.own "type", .text key.kind), (.own "value", .text key.value)] []

end SigningKey

namespace Signature

/-- The name of a signature in reports. -/
def title : String := "SignedTx"

/-- The schema of a signature. -/
def schema : Schema := .record title [
  (.required "pub_key", SigningKey.schema),
  (.required "signature", .text true)] false

/-- The signature in an accepted record. -/
def ofRecord (v : Value) : Signature where
  key := .ofRecord (v.field "pub_key")
  signature := (v.field "signature").asText

/-- The record of a signature. -/
def toValue (signed : Signature) : Value := .record title [
  (.own "pub_key", signed.key.toValue),
  (.own "signature", .text signed.signature)] []

end Signature

end ContractBench
