import ContractBench.Value
import ContractBench.Number.Shortest
import ContractBench.Number.Numeral
import ContractBench.Text.Quoted

/-! # Writing JSON

`Json.write` writes a value compactly and in printable ASCII. Tuples are written as lists, keys
that are numbers, truth values or null as texts, and special numbers by their names. Sets, bytes,
records and values that contain themselves cannot be written.
-/

namespace ContractBench.Json

/-- Why a value cannot be written. -/
inductive WriteFault where
  /-- A key of a type that no key may have. -/
  | keyType (name : String)
  /-- A value of a type that has no written form. -/
  | valueType (name : String)
  /-- A value that contains itself. -/
  | circular
  /-- A whole number of too many digits. -/
  | longNumeral
  deriving Repr, DecidableEq

/-- The words for a numeral of too many digits, between which its length may stand. -/
def numeralLimit (remark : String) : String :=
  "Exceeds the limit (4300 digits) for integer string conversion" ++ remark ++
    "; use sys.set_int_max_str_digits() to increase the limit"

/-- The words for a fault. -/
def WriteFault.message : WriteFault → String
  | .keyType name => "keys must be str, int, float, bool or None, not " ++ name
  | .valueType name => "Object of type " ++ name ++ " is not JSON serializable"
  | .circular => "Circular reference detected"
  | .longNumeral => numeralLimit ""

/-- A `\u` escape of one 16-bit unit. -/
def unitEscape (unit : Nat) : List Char := '\\' :: 'u' :: Text.hexDigits 4 unit

/-- One character inside a JSON string. Characters beyond `U+FFFF` are two escaped units. -/
def escapeChar (c : Char) : List Char :=
  if c = '"' then ['\\', '"']
  else if c = '\\' then ['\\', '\\']
  else if c = '\n' then ['\\', 'n']
  else if c = '\r' then ['\\', 'r']
  else if c = '\t' then ['\\', 't']
  else if c = '\x08' then ['\\', 'b']
  else if c = '\x0c' then ['\\', 'f']
  else if 0x20 ≤ c.toNat ∧ c.toNat < 0x7F then [c]
  else if c.toNat < 0x10000 then unitEscape c.toNat
  else
    let beyond := c.toNat - 0x10000
    unitEscape (0xD800 + beyond / 0x400) ++ unitEscape (0xDC00 + beyond % 0x400)

/-- A text as a JSON string. -/
def quote (s : String) : String :=
  String.ofList ('"' :: s.toList.flatMap escapeChar ++ ['"'])

/-- A whole number in decimal, unless it has too many digits. -/
def writeInt (n : Int) : Except WriteFault String :=
  if Numeral.mostDigits < Binary64.digitCount n.natAbs then .error .longNumeral
  else .ok (toString n)

/-- A floating point number, or the name of a special one. -/
def writeFloat : Binary64 → String
  | .nan => "NaN"
  | .infinite negative => if negative then "-Infinity" else "Infinity"
  | x => x.text

/-- A truth value. -/
def writeBool (b : Bool) : String := if b then "true" else "false"

/-- The name of a value's type. -/
def typeName : Value → String
  | .null => "NoneType"
  | .bool _ => "bool"
  | .int _ => "int"
  | .float _ => "float"
  | .text _ => "str"
  | .bytes _ => "bytes"
  | .list _ => "list"
  | .tuple _ => "tuple"
  | .set _ => "set"
  | .dict _ => "dict"
  | .record title _ _ => title
  | .selfList => "list"
  | .selfDict => "dict"

/-- The text of a key, before it is quoted. -/
def keyText : Value → Except WriteFault String
  | .text s => .ok s
  | .int n => writeInt n
  | .float x => .ok (writeFloat x)
  | .bool b => .ok (writeBool b)
  | .null => .ok "null"
  | v => .error (.keyType (typeName v))

mutual
/-- Write a value compactly. -/
def write : Value → Except WriteFault String
  | .null => .ok "null"
  | .bool b => .ok (writeBool b)
  | .int n => writeInt n
  | .float x => .ok (writeFloat x)
  | .text s => .ok (quote s)
  | .list items => (writeItems items).map fun parts => "[" ++ ",".intercalate parts ++ "]"
  | .tuple items => (writeItems items).map fun parts => "[" ++ ",".intercalate parts ++ "]"
  | .dict entries =>
    (writeEntries entries).map fun parts => "\x7b" ++ ",".intercalate parts ++ "\x7d"
  | .selfList => .error .circular
  | .selfDict => .error .circular
  | v => .error (.valueType (typeName v))

/-- Write the items of a list. -/
def writeItems : List Value → Except WriteFault (List String)
  | [] => .ok []
  | item :: rest => do
    let first ← write item
    let others ← writeItems rest
    return first :: others

/-- Write the entries of a dictionary. -/
def writeEntries : List (Value × Value) → Except WriteFault (List String)
  | [] => .ok []
  | (key, value) :: rest => do
    let name ← keyText key
    let body ← write value
    let others ← writeEntries rest
    return (quote name ++ ":" ++ body) :: others
end

end ContractBench.Json
