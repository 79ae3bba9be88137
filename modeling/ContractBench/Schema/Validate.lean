import ContractBench.Schema
import ContractBench.Schema.Issue
import ContractBench.Number.Numeral
import ContractBench.Number.Shortest
import ContractBench.Text.Utf8
import ContractBench.Value.Display

/-! # Fitting values to schemas

`Schema.validate` reads a value by a schema. It either gives the value in the form that the schema
describes, or all issues it finds, in the order of the schema.
-/

namespace ContractBench

/-- The outcome of a check: an accepted value, or issues. -/
abbrev Checked (α : Type) := Except (List Issue) α

/-- Refuse the whole value for one reason. -/
def refuse {α : Type} (problem : Problem) : Checked α := .error [.here problem]

/-- Report the issues of a part from where the part lies. -/
def Checked.under {α : Type} (step : PathStep) : Checked α → Checked α
  | .ok a => .ok a
  | .error issues => .error (issues.map (Issue.under step))

/-- Two checks of which both report their issues. -/
def Checked.both {α β γ : Type} (combine : α → β → γ) : Checked α → Checked β → Checked γ
  | .ok a, .ok b => .ok (combine a b)
  | .ok _, .error issues => .error issues
  | .error issues, .ok _ => .error issues
  | .error issues, .error more => .error (issues ++ more)

/-- Check each item of a list. -/
def checkEach {α β : Type} (check : Nat → α → Checked β) : Nat → List α → Checked (List β)
  | _, [] => .ok []
  | i, item :: rest => Checked.both List.cons (check i item) (checkEach check (i + 1) rest)

namespace Schema

/-- Read bytes as text, or refuse them. -/
def decoded (problem : Problem) (bs : List UInt8) : Checked String :=
  match Utf8.decode bs with
  | .ok s => .ok s
  | .error _ => refuse problem

/-- Check a text. -/
def checkText (welcomesNumbers : Bool) : Value → Checked String
  | .text s => .ok s
  | .bytes bs => decoded .notUtf8 bs
  | .int n => if welcomesNumbers then .ok (toString n) else refuse .notText
  | .float x => if welcomesNumbers then .ok x.text else refuse .notText
  | _ => refuse .notText

/-- Read a text as a whole number. -/
def integerOfText (s : String) : Checked Int :=
  match Numeral.readInt s with
  | .ok n => .ok n
  | .error .malformed => refuse .unreadableInteger
  | .error .tooLong => refuse .integerTooLarge

/-- The magnitude from which a floating point number is not taken as a whole number. -/
def integerBound : Nat := Nat.pow 2 63

/-- Whether a whole number is a signed one of 64 bits. -/
def isWord (n : Int) : Bool := -(integerBound : Int) ≤ n && n < integerBound

/-- Take a floating point number as a whole number. -/
def integerOfFloat (x : Binary64) : Checked Int :=
  if x.isFinite then
    match x.toInt? with
    | some n => if n.natAbs < integerBound then .ok n else refuse .integerTooLarge
    | none => refuse .fractional
  else refuse .notFinite

/-- Check a whole number. -/
def checkInteger : Value → Checked Int
  | .int n => .ok n
  | .bool b => .ok (Value.ofBool b)
  | .float x => integerOfFloat x
  | .text s => integerOfText s
  | .bytes bs => (decoded .unreadableInteger bs).bind integerOfText
  | _ => refuse .notInteger

/-- Read a text as a number. -/
def numberOfText (s : String) : Checked Binary64 :=
  match Numeral.readNumber? s with
  | some x => .ok x
  | none => refuse .unreadableNumber

/-- Take a whole number as a floating point number, unless it is out of range. -/
def numberOfInteger (n : Int) : Checked Binary64 :=
  let x := Binary64.ofInt n
  if x.isFinite then .ok x else refuse .notNumber

/-- Check a number. -/
def checkNumber : Value → Checked Binary64
  | .float x => .ok x
  | .int n => numberOfInteger n
  | .bool b => numberOfInteger (Value.ofBool b)
  | .text s => numberOfText s
  | .bytes bs => (decoded .unreadableNumber bs).bind numberOfText
  | _ => refuse .notNumber

/-- The spellings of a truth value. -/
def spellings : Bool → List String
  | true => ["1", "t", "true", "y", "yes", "on"]
  | false => ["0", "f", "false", "n", "no", "off"]

/-- Read a text as a truth value; capitals count as small letters. -/
def booleanOfText (s : String) : Checked Bool :=
  let name := String.ofList (Numeral.lowerCase s.toList)
  if (spellings true).contains name then .ok true
  else if (spellings false).contains name then .ok false
  else refuse .unreadableBoolean

/-- Take zero and one as truth values. -/
def booleanOfInteger (n : Int) : Checked Bool :=
  if n = 0 then .ok false
  else if n = 1 then .ok true
  else if isWord n then refuse .unreadableBoolean
  else refuse .notBoolean

/-- Check a truth value. -/
def checkBoolean : Value → Checked Bool
  | .bool b => .ok b
  | .int n => booleanOfInteger n
  | .float x =>
    match (integerOfFloat x).toOption with
    | some n => booleanOfInteger n
    | none => refuse .notBoolean
  | .text s => booleanOfText s
  | .bytes bs => (decoded .unreadableBoolean bs).bind booleanOfText
  | _ => refuse .notBoolean

/-- Check that a text is one of some options. -/
def checkChoice (options : List String) : Value → Checked String
  | .text s => if options.contains s then .ok s else refuse (.notChoice options)
  | _ => refuse (.notChoice options)

/-- Whether an accepted value is at least zero. -/
def isAtLeastZero : Value → Bool
  | .int n => 0 ≤ n
  | .float x => x.isAtLeastZero
  | _ => true

/-- Whether an accepted value is the empty text. -/
def isEmptyText : Value → Bool
  | .text s => s.isEmpty
  | _ => false

/-- The items of a sequence. -/
def items? : Value → Option (List Value)
  | .list items => some items
  | .tuple items => some items
  | .set items => some items
  | .selfList => some [.selfList]
  | _ => none

/-- The entries of a dictionary. -/
def entries? : Value → Option (List (Value × Value))
  | .dict entries => some entries
  | .selfDict => some [(.text "self", .selfDict)]
  | _ => none

/-- The step of a path that a key makes. -/
def stepOf : Value → PathStep
  | .text s => .key s
  | .int n => if isWord n then .index n else .key (toString n)
  | .bool b => .index (Value.ofBool b)
  | v => .key v.display

/-- The first of some keys that a dictionary has, with its value. -/
def source? (entries : List (Value × Value)) : List String → Option (String × Value)
  | [] => none
  | key :: rest =>
    match Value.find? entries key with
    | some v => some (key, v)
    | none => source? entries rest

/-- The keys that the fields of a record take their values from. -/
def usedKeys (entries : List (Value × Value)) (fields : List (FieldSpec × Schema)) : List String :=
  fields.filterMap fun field => (source? entries field.1.sources).map (·.1)

/-- The entries that a record keeps beyond its fields; their keys must be texts. -/
def checkExtras (used : List String) : List (Value × Value) → Checked (List (String × Value))
  | [] => .ok []
  | (key, value) :: rest =>
    match key with
    | .text s =>
      if used.contains s then checkExtras used rest
      else Checked.both List.cons (.ok (s, value)) (checkExtras used rest)
    | _ =>
      Checked.both (fun (_ : Unit) kept => kept)
        (Checked.under (stepOf key) (refuse .keyNotText)) (checkExtras used rest)

/-- The entries that a record keeps, if it keeps any. -/
def extrasOf (keeps : Bool) (used : List String) (entries : List (Value × Value)) :
    Checked (List (String × Value)) :=
  if keeps then checkExtras used entries else .ok []

/-- The field for which no value was found. -/
def absentField (spec : FieldSpec) : Checked Value :=
  match spec.default with
  | some v => .ok v
  | none => Checked.under (.key (spec.sources.head?.getD spec.name.name)) (refuse .missing)

/-- Check one entry of a dictionary. -/
def checkEntry (checkKey checkValue : Value → Checked Value) (key value : Value) :
    Checked (Value × Value) :=
  let step := stepOf key
  Checked.both Prod.mk
    (Checked.under step (Checked.under (.key "[key]") (checkKey key)))
    (Checked.under step (checkValue value))

mutual
/-- Read a value by a schema. -/
def validate : Schema → Value → Checked Value
  | .any, v => .ok v
  | .text welcomesNumbers, v => (checkText welcomesNumbers v).map .text
  | .integer, v => (checkInteger v).map .int
  | .number, v => (checkNumber v).map .float
  | .boolean, v => (checkBoolean v).map .bool
  | .choice options, v => (checkChoice options v).map .text
  | .nullable inner, v =>
    match v with
    | .null => .ok .null
    | v => validate inner v
  | .list item, v =>
    match items? v with
    | some items =>
      (checkEach (fun i v => Checked.under (.index i) (validate item v)) 0 items).map .list
    | none => refuse .notList
  | .dict key value, v =>
    match entries? v with
    | some entries =>
      (checkEach (fun _ (entry : Value × Value) =>
        checkEntry (validate key) (validate value) entry.1 entry.2) 0 entries).map Value.ofEntries
    | none => refuse .notDict
  | .atLeastZero inner, v =>
    (validate inner v).bind fun v => if isAtLeastZero v then .ok v else refuse .negative
  | .nonEmpty inner, v =>
    (validate inner v).bind fun v => if isEmptyText v then refuse .emptyText else .ok v
  | .record title fields keepsExtras, v =>
    match v with
    | .record name found extras =>
      if name = title then .ok (.record name found extras) else refuse (.notRecord title)
    | v =>
      match entries? v with
      | some entries =>
        Checked.both (Value.record title) (validateFields fields entries)
          (extrasOf keepsExtras (usedKeys entries fields) entries)
      | none => refuse (.notRecord title)

/-- Read the fields of a record from the entries of a dictionary. -/
def validateFields : List (FieldSpec × Schema) → List (Value × Value) →
    Checked (List (FieldName × Value))
  | [], _ => .ok []
  | (spec, schema) :: rest, entries =>
    let value :=
      match source? entries spec.sources with
      | some (key, v) => Checked.under (.key key) (validate schema v)
      | none => absentField spec
    Checked.both (fun v others => (spec.nameOver schema, v) :: others) value
      (validateFields rest entries)
end

/-- Read a value by a schema; a failure is reported under the schema's name. -/
def accept (schema : Schema) (title : String) (v : Value) : Except Report Value :=
  match validate schema v with
  | .ok v => .ok v
  | .error issues => .error ⟨title, issues⟩

end Schema

end ContractBench
