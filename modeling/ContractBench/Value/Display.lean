import ContractBench.Value
import ContractBench.Number.Shortest
import ContractBench.Text.Quoted

/-! # Displayed values

The text that shows a value to a reader: texts in quotes, the items of a list between square
brackets, the fields of a record after its title. A text on its own is shown without quotes by
`Value.plainText`.
-/

namespace ContractBench.Value

/-- Join texts by a separator. -/
def joined (separator : String) (parts : List String) : String := separator.intercalate parts

/-- The whole text of a tuple; a single item is followed by a comma. -/
def tupleText : List String → String
  | [item] => "(" ++ item ++ ",)"
  | items => "(" ++ joined ", " items ++ ")"

/-- The whole text of a set. -/
def setText : List String → String
  | [] => "set()"
  | items => "\x7b" ++ joined ", " items ++ "\x7d"

mutual
/-- The text that shows a value. -/
def display : Value → String
  | .null => "None"
  | .bool b => if b then "True" else "False"
  | .int n => toString n
  | .float x => x.text
  | .text s => Text.quoted s
  | .bytes bs => Text.quotedBytes bs
  | .list items => "[" ++ joined ", " (displayItems items) ++ "]"
  | .tuple items => tupleText (displayItems items)
  | .set items => setText (displayItems items)
  | .dict entries => "\x7b" ++ joined ", " (displayEntries entries) ++ "\x7d"
  | .record title fields extras =>
    title ++ "(" ++ joined ", " (displayFields fields ++ displayExtras extras) ++ ")"
  | .selfList => "[[...]]"
  | .selfDict => "\x7b'self': \x7b...\x7d\x7d"

/-- The texts of a list's items. -/
def displayItems : List Value → List String
  | [] => []
  | item :: rest => display item :: displayItems rest

/-- The texts of a dictionary's entries. -/
def displayEntries : List (Value × Value) → List String
  | [] => []
  | (key, value) :: rest => (display key ++ ": " ++ display value) :: displayEntries rest

/-- The texts of a record's fields. -/
def displayFields : List (FieldName × Value) → List String
  | [] => []
  | (name, value) :: rest => (name.name ++ "=" ++ display value) :: displayFields rest

/-- The texts of what a record kept beyond its fields. -/
def displayExtras : List (String × Value) → List String
  | [] => []
  | (name, value) :: rest => (name ++ "=" ++ display value) :: displayExtras rest
end

/-- The text of a value as part of a sentence: a text stands for itself, and a record shows its
    fields without its title. -/
def plainText : Value → String
  | .text s => s
  | .record _ fields extras => joined " " (displayFields fields ++ displayExtras extras)
  | v => display v

end ContractBench.Value
