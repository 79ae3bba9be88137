import ContractBench.Value

/-! # Schemas

A schema says which values are accepted and what they become. It is data: `Schema.validate` reads
a value by it, and statements about all schemas are proved by induction on it.
-/

namespace ContractBench

/-- How a field of a record is found and what it is when it is absent. -/
structure FieldSpec where
  /-- The names of the field. -/
  name : FieldName
  /-- The keys under which its value is looked for, the preferred one first. -/
  sources : List String
  /-- What the field is without a value; a field without it is required. -/
  default : Option Value
  deriving Inhabited

/-- What values are accepted. -/
inductive Schema where
  /-- Every value. -/
  | any
  /-- Texts and bytes that encode one; numbers too if they are welcome. -/
  | text (welcomesNumbers : Bool)
  /-- Whole numbers, and what reads as one. -/
  | integer
  /-- Numbers, and what reads as one. -/
  | number
  /-- Truth values, and what reads as one. -/
  | boolean
  /-- One of some texts. -/
  | choice (options : List String)
  /-- Null, or what another schema accepts. -/
  | nullable (inner : Schema)
  /-- Sequences of what another schema accepts. -/
  | list (item : Schema)
  /-- Dictionaries whose keys and values other schemas accept. -/
  | dict (key value : Schema)
  /-- What another schema accepts and is at least zero. -/
  | atLeastZero (inner : Schema)
  /-- What another schema accepts and is not the empty text. -/
  | nonEmpty (inner : Schema)
  /-- Records of a named type with the given fields; entries beyond them are kept or dropped. -/
  | record (title : String) (fields : List (FieldSpec × Schema)) (keepsExtras : Bool)
  deriving Inhabited

/-- How many layers of a value a schema describes; below them any value may stand. -/
def Schema.layers : Schema → Nat
  | .any => 0
  | .nullable inner => inner.layers
  | .list item => item.layers + 1
  | .dict _ value => value.layers + 1
  | .atLeastZero inner => inner.layers
  | .nonEmpty inner => inner.layers
  | _ => 1

namespace FieldSpec

/-- The name of a field whose value a schema describes. -/
def nameOver (spec : FieldSpec) (schema : Schema) : FieldName :=
  { spec.name with layers := schema.layers }

/-- A required field under its own name. -/
def required (name : String) : FieldSpec := ⟨.own name, [name], none⟩

/-- A field under its own name with a default. -/
def withDefault (name : String) (default : Value) : FieldSpec :=
  ⟨.own name, [name], some default⟩

/-- The same field, looked for under other keys. -/
def readFrom (spec : FieldSpec) (sources : List String) : FieldSpec :=
  { spec with sources := sources }

/-- The same field, written under another key, which is then the preferred one to read it from. -/
def writtenAs (spec : FieldSpec) (key : String) : FieldSpec :=
  { spec with name := { spec.name with written := key }, sources := [key, spec.name.name] }

end FieldSpec

end ContractBench
