import ContractBench.Value

/-! # Tables under construction

While a TOML document is read its tables grow. Marks on key paths keep them well formed: a table
with a header of its own gets no second one, and a value that is complete does not grow.
-/

namespace ContractBench.Toml

/-- The keys that lead to a value. -/
abbrev KeyPath := List String

/-- The entries of a table. -/
abbrev Entries := List (Value × Value)

/-- What a mark says of the value at a path. -/
inductive Mark where
  /-- It is complete, and so is everything in it. -/
  | frozen
  /-- It has a header of its own. -/
  | headed
  deriving Repr, DecidableEq

/-- The marks of a document. -/
abbrev Marks := List (KeyPath × Mark)

namespace Marks

/-- Whether a path has a mark. Being complete is inherited from the tables above. -/
def has (marks : Marks) (path : KeyPath) (mark : Mark) : Bool :=
  !path.isEmpty && marks.any fun entry =>
    entry.2 = mark && (entry.1 = path || (mark = .frozen && entry.1.isPrefixOf path))

/-- Drop all marks at a path and below it. -/
def clear (marks : Marks) (path : KeyPath) : Marks :=
  marks.filter fun entry => !path.isPrefixOf entry.1

end Marks

/-- Change the table at a path, making the tables on the way that are not there. A list on the way
    stands for its last item, where that is allowed. -/
def change (throughLists : Bool) (update : Entries → Option Entries) :
    KeyPath → Entries → Option Entries
  | [], entries => update entries
  | key :: rest, entries =>
    match Value.find? entries key with
    | none =>
      (change throughLists update rest []).map fun inner =>
        Value.setEntry entries (.text key) (.dict inner)
    | some (.dict inner) =>
      (change throughLists update rest inner).map fun inner =>
        Value.setEntry entries (.text key) (.dict inner)
    | some (.list items) =>
      match throughLists, items.getLast? with
      | true, some (.dict inner) =>
        (change throughLists update rest inner).map fun inner =>
          Value.setEntry entries (.text key) (.list (items.dropLast ++ [.dict inner]))
      | _, _ => none
    | some _ => none

/-- Add a value under a key that is not there yet. -/
def addNew (key : String) (value : Value) (entries : Entries) : Option Entries :=
  match Value.find? entries key with
  | some _ => none
  | none => some (Value.setEntry entries (.text key) value)

/-- Add an empty table to the list under a key, making the list if it is not there. -/
def addItem (key : String) (entries : Entries) : Option Entries :=
  match Value.find? entries key with
  | none => some (Value.setEntry entries (.text key) (.list [.dict []]))
  | some (.list items) => some (Value.setEntry entries (.text key) (.list (items ++ [.dict []])))
  | some _ => none

/-- Whether a value is a table or a list, which are complete once they are written. -/
def isContainer : Value → Bool
  | .dict _ => true
  | .list _ => true
  | _ => false

end ContractBench.Toml
