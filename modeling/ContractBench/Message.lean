import ContractBench.Failure
import ContractBench.Json.Writer
import ContractBench.Value.Plain

/-! # Messages

A message for a contract is a value. It is sent as JSON; a record is made plain first.
-/

namespace ContractBench.Message

/-- The value that is written for a message. -/
def plainValue : Value → Except Failure Value
  | .record title fields extras =>
    (Value.plain 1 Value.deepest (.record title fields extras)).mapError .notPlain
  | v => .ok v

/-- The text of a message. -/
def encode (message : Value) : Except Failure String :=
  (plainValue message).bind fun v => (Json.write v).mapError .unwritable

/-- A message that is to be put to a use, for which it must be a record of one of some types. -/
def forUse (use : String) (titles : List String) : Value → Except Failure Value
  | .record title fields extras =>
    if titles.contains title then .ok (.record title fields extras)
    else
      match extras.find? fun entry => entry.1 = use with
      | some (_, v) => .error (.uselessEntry (Json.typeName v))
      | none => .error (.wrongMessage title use)
  | v => .error (.wrongMessage (Json.typeName v) use)

end ContractBench.Message
