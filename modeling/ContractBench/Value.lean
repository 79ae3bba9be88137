import ContractBench.Number.Binary64

/-! # Values

A `Value` is what a message, a setting or an answer may hold before it is known to fit a schema.
Dictionaries keep the order in which their keys were first set.
-/

namespace ContractBench

/-- The two names of a field, the one a record is read by and the one it is written under, and how
    much of its value is fixed by its schema. -/
structure FieldName where
  /-- The name of the field. -/
  name : String
  /-- The key that stands for it in a message. -/
  written : String
  /-- How many layers of its value the schema describes; below them any value may stand. -/
  layers : Nat
  deriving Repr, DecidableEq, Inhabited

/-- A field that is written under its own name and may hold any value. -/
def FieldName.own (name : String) : FieldName := ⟨name, name, 0⟩

/-- A dynamic value. -/
inductive Value where
  /-- The absent value. -/
  | null
  /-- A truth value. -/
  | bool (b : Bool)
  /-- A whole number of any size. -/
  | int (n : Int)
  /-- A floating point number. -/
  | float (x : Binary64)
  /-- A text. -/
  | text (s : String)
  /-- A string of bytes. -/
  | bytes (bs : List UInt8)
  /-- A list. -/
  | list (items : List Value)
  /-- A tuple. -/
  | tuple (items : List Value)
  /-- A set, in the order of its items. -/
  | set (items : List Value)
  /-- A dictionary, in the order of its keys. -/
  | dict (entries : List (Value × Value))
  /-- A record of a named type, with the entries it kept beyond its fields. -/
  | record (title : String) (fields : List (FieldName × Value)) (extras : List (String × Value))
  /-- A list whose only item is the list itself. Containers that hold themselves by way of others are
      left out. -/
  | selfList
  /-- A dictionary whose key `self` leads to the dictionary itself, as directly as that. -/
  | selfDict
  deriving Inhabited

namespace Value

/-- The number that a truth value counts as. -/
def ofBool (b : Bool) : Int := if b then 1 else 0

/-- Whether a floating point number equals a whole number. -/
def equalsInt (x : Binary64) (n : Int) : Bool := x.toInt? = some n

mutual
/-- Whether two values are the same dictionary key. Truth values and numbers that are equal as
    numbers are one key. -/
def sameKey : Value → Value → Bool
  | .null, .null => true
  | .text s, .text t => s = t
  | .bytes s, .bytes t => s = t
  | .bool a, .bool b => a = b
  | .bool a, .int n => ofBool a = n
  | .int n, .bool a => ofBool a = n
  | .bool a, .float x => equalsInt x (ofBool a)
  | .float x, .bool a => equalsInt x (ofBool a)
  | .int m, .int n => m = n
  | .int n, .float x => equalsInt x n
  | .float x, .int n => equalsInt x n
  | .float x, .float y => x.numericEq y
  | .tuple s, .tuple t => sameKeys s t
  | _, _ => false

/-- Whether two lists of values agree as keys. -/
def sameKeys : List Value → List Value → Bool
  | [], [] => true
  | a :: s, b :: t => sameKey a b && sameKeys s t
  | _, _ => false
end

/-- Set a key: a new one goes to the end, a present one keeps its place and its first spelling. -/
def setEntry (entries : List (Value × Value)) (key value : Value) : List (Value × Value) :=
  if entries.any (fun entry => entry.1.sameKey key) then
    entries.map fun entry => if entry.1.sameKey key then (entry.1, value) else entry
  else entries ++ [(key, value)]

/-- The dictionary that results from setting entries one after the other. -/
def ofEntries (entries : List (Value × Value)) : Value :=
  .dict (entries.foldl (fun dict entry => setEntry dict entry.1 entry.2) [])

/-- The set of the given items, each in the place of its first occurrence. -/
def ofItems (items : List Value) : Value :=
  .set (items.foldl (fun kept item => if kept.any (sameKey item) then kept else kept ++ [item]) [])

/-- The value of a text key in the entries of a dictionary. -/
def find? (entries : List (Value × Value)) (key : String) : Option Value :=
  (entries.find? fun entry => match entry.1 with
    | .text s => s = key
    | _ => false).map (·.2)

/-- The text of a value that is one, the empty text otherwise. -/
def asText : Value → String
  | .text s => s
  | _ => ""

/-- The text of a value that is one. -/
def asText? : Value → Option String
  | .text s => some s
  | _ => none

/-- The whole number of a value that is one. -/
def asInt? : Value → Option Int
  | .int n => some n
  | _ => none

/-- The items of a list; none for any other value. -/
def asList : Value → List Value
  | .list items => items
  | _ => []

/-- The value of a record's field, null when there is none. -/
def field (v : Value) (name : String) : Value :=
  match v with
  | .record _ fields _ => ((fields.find? fun entry => entry.1.name = name).map (·.2)).getD .null
  | _ => .null

/-- An optional text as a value. -/
def ofText? : Option String → Value
  | some s => .text s
  | none => .null

/-- An optional whole number as a value. -/
def ofInt? : Option Int → Value
  | some n => .int n
  | none => .null

end Value

end ContractBench
