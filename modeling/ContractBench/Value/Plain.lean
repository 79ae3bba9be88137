import ContractBench.Json.Writer
import ContractBench.Number.Shortest
import ContractBench.Text.Utf8
import ContractBench.Value

/-! # Plain values

A record is sent as a plain value: a dictionary of the written names of its fields, without those
that are null. Inside it tuples and sets become lists, bytes become the text they encode, and keys
become texts; keys that become equal are one key. Where the schema leaves the value open, special
numbers become null, and the nesting is limited.
-/

namespace ContractBench.Value

/-- Why a record has no plain value. -/
inductive PlainFault where
  /-- Bytes that encode no text, and where the first ill-formed ones are. -/
  | undecodable (place : Utf8.DecodeError)
  /-- A value that contains itself. -/
  | circular
  /-- Values nested too deeply. -/
  | tooDeep
  /-- A whole number of too many digits in the place of a key. -/
  | longNumeral
  deriving Repr, DecidableEq

/-- The words for a fault. -/
def PlainFault.message : PlainFault → String
  | .undecodable place => place.message
  | .circular => "Circular reference detected (id repeated)"
  | .tooDeep => "Maximum serialization depth exceeded"
  | .longNumeral => Json.numeralLimit ""

/-- The text that bytes encode. -/
def bytesText (bs : List UInt8) : Except PlainFault String :=
  match Utf8.decode bs with
  | .ok s => .ok s
  | .error e => .error (.undecodable { e with reason := "invalid utf-8" })

mutual
/-- The text that stands for a key. -/
def keyText : Value → Except PlainFault String
  | .text s => .ok s
  | .bytes bs => bytesText bs
  | .bool b => .ok (if b then "true" else "false")
  | .int n => (Json.writeInt n).mapError fun _ => .longNumeral
  | .float x => .ok (if x.isFinite then x.text else "None")
  | .tuple items => (keyTexts items).map (",".intercalate ·)
  | .selfList => .error .circular
  | .selfDict => .error .circular
  | _ => .ok "None"

/-- The texts that stand for the items of a key. -/
def keyTexts : List Value → Except PlainFault (List String)
  | [] => .ok []
  | item :: rest => do
    let s ← keyText item
    let ss ← keyTexts rest
    return s :: ss
end

/-- How deep values may nest where no schema describes them. -/
def deepest : Nat := 255

/-- How deep the parts of a value may nest, where the value itself lies in a number of layers that
    a schema describes. -/
def roomBelow (layers room : Nat) : Nat := if layers = 0 then room - 1 else room

mutual
/-- The plain value that stands for a value, of which a schema describes some layers. Where it
    describes none, no more than `room` values may lie within each other. -/
def plain (layers room : Nat) (v : Value) : Except PlainFault Value :=
  if layers = 0 ∧ room = 0 then .error .tooDeep
  else
    match v with
    | .bytes bs => (bytesText bs).map .text
    | .float x => .ok (if layers = 0 ∧ x.isFinite = false then .null else .float x)
    | .list items => (plainItems (layers - 1) (roomBelow layers room) items).map .list
    | .tuple items => (plainItems (layers - 1) (roomBelow layers room) items).map .list
    | .set items => (plainItems (layers - 1) (roomBelow layers room) items).map .list
    | .dict entries => (plainEntries (layers - 1) (roomBelow layers room) entries).map ofEntries
    | .record _ fields extras => do
      let known ← plainFields (roomBelow layers room) fields
      let kept ← plainExtras (roomBelow layers room) extras
      return .dict (known ++ kept)
    | .selfList => .error .circular
    | .selfDict => .error .circular
    | v => .ok v

/-- The plain values of a list's items. -/
def plainItems (layers room : Nat) : List Value → Except PlainFault (List Value)
  | [] => .ok []
  | item :: rest => do
    let first ← plain layers room item
    let others ← plainItems layers room rest
    return first :: others

/-- The plain keys and values of a dictionary's entries. -/
def plainEntries (layers room : Nat) :
    List (Value × Value) → Except PlainFault (List (Value × Value))
  | [] => .ok []
  | (key, value) :: rest => do
    let name ← keyText key
    let first ← plain layers room value
    let others ← plainEntries layers room rest
    return (.text name, first) :: others

/-- The entries for a record's fields that are not null. -/
def plainFields (room : Nat) :
    List (FieldName × Value) → Except PlainFault (List (Value × Value))
  | [] => .ok []
  | (_, .null) :: rest => plainFields room rest
  | (name, value) :: rest => do
    let first ← plain name.layers room value
    let others ← plainFields room rest
    return (.text name.written, first) :: others

/-- The entries for what a record kept beyond its fields and is not null. -/
def plainExtras (room : Nat) : List (String × Value) → Except PlainFault (List (Value × Value))
  | [] => .ok []
  | (_, .null) :: rest => plainExtras room rest
  | (name, value) :: rest => do
    let first ← plain 0 room value
    let others ← plainExtras room rest
    return (.text name, first) :: others
end

end ContractBench.Value
