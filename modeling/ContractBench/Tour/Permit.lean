import ContractBench.Client

/-! # A tour of query permits

A query permit is a signed document that lets its holder ask a token for a balance. The tour has
one signed with a key and prints the signature.
-/

namespace ContractBench.Permit

/-- A dictionary with text keys. -/
def object (entries : List (String × Value)) : Value :=
  .dict (entries.map fun entry => (.text entry.1, entry.2))

/-- The document of a permit for a token on a chain. -/
def document (chain token : String) : Value := object [
  ("chain_id", .text chain),
  ("account_number", .text "0"),
  ("sequence", .text "0"),
  ("fee", object [
    ("amount", .list [object [("denom", .text "uscrt"), ("amount", .text "0")]]),
    ("gas", .text "1")]),
  ("msgs", .list [object [
    ("type", .text "query_permit"),
    ("value", object [
      ("permit_name", .text "example"),
      ("allowed_tokens", .list [.text token]),
      ("permissions", .list [.text "balance"])])]]),
  ("memo", .text "")]

/-- The chain that is meant when none is named. -/
def defaultChain : String := "secretdev-1"

/-- What the tour prints when it is given too few arguments. -/
def usage : String := "Usage: sign_permit.py <key-name> <token-address> [chain-id]"

/-- A signature as JSON over lines. -/
def signatureLines (signed : Signature) : String :=
  "\n".intercalate [
    "\x7b",
    "  \"pub_key\": \x7b",
    "    \"type\": " ++ Json.quote signed.key.kind ++ ",",
    "    \"value\": " ++ Json.quote signed.key.value,
    "  \x7d,",
    "  \"signature\": " ++ Json.quote signed.signature,
    "\x7d"]

/-- Have a permit signed and print the signature. -/
def sign (key token chain : String) : Bench Nat := do
  let client ← Client.ofEnvironment
  Bench.print (signatureLines (← client.sign (document chain token) key))
  return 0

/-- The tour; it gives an exit code. -/
def tour : List String → Bench Nat
  | key :: token :: [] => sign key token defaultChain
  | key :: token :: chain :: _ => sign key token chain
  | _ => do
    Bench.print usage
    return 1

end ContractBench.Permit
