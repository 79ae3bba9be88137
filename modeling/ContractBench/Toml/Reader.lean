import ContractBench.Toml.Scalar
import ContractBench.Toml.Table

/-! # Reading TOML

`Toml.read` reads a document as a dictionary. A document is a sequence of lines: headers that open
tables, headers that add tables to lists, and keys with their values.
-/

namespace ContractBench.Toml

/-- Whether a character may stand in a key without quotes. -/
def isBare (c : Char) : Bool := c.isAlphanum || c = '-' || c = '_'

/-- Read one part of a key. -/
def readKeyPart : List Char → Reading String
  | [] => .error .malformed
  | c :: rest =>
    if isBare c then
      let name := (c :: rest).takeWhile isBare
      .ok (String.ofList name, (c :: rest).drop name.length)
    else if c = '"' ∨ c = '\'' then readLineText c rest
    else .error .malformed

/-- Read the parts of a key between dots, and the white space around them, while there may be
    more parts. -/
def readKeyParts : Nat → List Char → Reading KeyPath
  | 0, cs => (readKeyPart cs).bind fun _ => .error .longKey
  | more + 1, cs =>
    match readKeyPart cs with
    | .error e => .error e
    | .ok (part, rest) =>
      match skipSpaces rest with
      | '.' :: rest =>
        (readKeyParts more (skipSpaces rest)).map fun (parts, rest) => (part :: parts, rest)
      | rest => .ok ([part], rest)

/-- Read a key. -/
def readKey (cs : List Char) : Reading KeyPath := readKeyParts mostParts cs

/-- Read a key and the sign behind it, up to the value. -/
def readKeySign (cs : List Char) : Reading KeyPath :=
  match readKey cs with
  | .error e => .error e
  | .ok (key, '=' :: rest) => .ok (key, skipSpaces rest)
  | .ok _ => .error .malformed

/-- Skip white space, newlines and comments. -/
def skipAll (cs : List Char) : Except Fault (List Char) := skipFiller (cs.length + 1) cs

/-- A table inside a line, with the marks on its paths. -/
structure InlineTable where
  /-- The entries so far. -/
  entries : Entries
  /-- The marks so far. -/
  marks : Marks

/-- Add a value to a table inside a line. -/
def InlineTable.add (table : InlineTable) (key : KeyPath) (value : Value) :
    Except Fault InlineTable :=
  if table.marks.has key .frozen then .error .malformed
  else
    match change false (addNew (key.getLast?.getD "") value) key.dropLast table.entries with
    | none => .error .malformed
    | some entries =>
      .ok ⟨entries, if isContainer value then (key, .frozen) :: table.marks else table.marks⟩

mutual
/-- Read a value that lies in some number of lists and tables. The fuel is at least twice the
    number of characters. -/
def readValue : Nat → Nat → List Char → Reading Value
  | 0, _, _ => .error .malformed
  | fuel + 1, level, cs =>
    if deepest < level then .error .tooDeep
    else
      match cs with
      | '"' :: _ => (readText '"' cs).map fun (s, rest) => (.text s, rest)
      | '\'' :: _ => (readText '\'' cs).map fun (s, rest) => (.text s, rest)
      | '[' :: rest => readArray fuel level [] rest
      | '{' :: rest => readInline fuel level ⟨[], []⟩ rest
      | cs => readScalar cs

/-- Read a list from the next item or its end on; the items before are given last first. -/
def readArray : Nat → Nat → List Value → List Char → Reading Value
  | 0, _, _, _ => .error .malformed
  | fuel + 1, level, before, cs =>
    match skipAll cs with
    | .error e => .error e
    | .ok (']' :: rest) => .ok (.list before.reverse, rest)
    | .ok cs =>
      match readValue fuel (level + 1) cs with
      | .error e => .error e
      | .ok (item, rest) =>
        match skipAll rest with
        | .error e => .error e
        | .ok (']' :: rest) => .ok (.list (item :: before).reverse, rest)
        | .ok (',' :: rest) => readArray fuel level (item :: before) rest
        | .ok _ => .error .malformed

/-- Read a table inside a line from the next key or its end on. -/
def readInline : Nat → Nat → InlineTable → List Char → Reading Value
  | 0, _, _, _ => .error .malformed
  | fuel + 1, level, table, cs =>
    match skipAll cs with
    | .error e => .error e
    | .ok ('}' :: rest) => .ok (.dict table.entries, rest)
    | .ok cs =>
      match readKeySign cs with
      | .error e => .error e
      | .ok (key, rest) =>
        match readValue fuel (level + 1) rest with
        | .error e => .error e
        | .ok (value, rest) =>
          match table.add key value with
          | .error e => .error e
          | .ok table =>
            match skipAll rest with
            | .error e => .error e
            | .ok ('}' :: rest) => .ok (.dict table.entries, rest)
            | .ok (',' :: rest) => readInline fuel level table rest
            | .ok _ => .error .malformed
end

/-- A document under construction. -/
structure Draft where
  /-- The entries so far. -/
  entries : Entries
  /-- The marks so far. -/
  marks : Marks
  /-- Marks that hold from the next header on. -/
  pending : Marks
  /-- The path of the last header. -/
  header : KeyPath

/-- Let the pending marks hold. -/
def Draft.settle (draft : Draft) : Draft :=
  { draft with marks := draft.pending ++ draft.marks, pending := [] }

/-- Go on under a new header, if the change it asks for can be made. -/
def Draft.enter (draft : Draft) (path : KeyPath) (entries : Option Entries) : Except Fault Draft :=
  match entries with
  | none => .error .malformed
  | some entries =>
    .ok { draft with entries := entries, marks := (path, .headed) :: draft.marks, header := path }

/-- Open a table. -/
def Draft.openTable (draft : Draft) (path : KeyPath) : Except Fault Draft :=
  if draft.marks.has path .headed || draft.marks.has path .frozen then .error .malformed
  else draft.enter path (change true some path draft.entries)

/-- Add a table to a list and open it. -/
def Draft.openItem (draft : Draft) (path : KeyPath) : Except Fault Draft :=
  if draft.marks.has path .frozen then .error .malformed
  else
    let draft := { draft with marks := draft.marks.clear path }
    draft.enter path
      (change true (addItem (path.getLast?.getD "")) path.dropLast draft.entries)

/-- The paths of the tables that a key with dots goes through. -/
def Draft.through (draft : Draft) (key : KeyPath) : List KeyPath :=
  (List.range (key.length - 1)).map fun i => draft.header ++ key.take (i + 1)

/-- Add a value under a key. -/
def Draft.add (draft : Draft) (key : KeyPath) (value : Value) : Except Fault Draft :=
  let paths := draft.through key
  let path := draft.header ++ key
  if paths.any (draft.marks.has · .headed) || draft.marks.has path.dropLast .frozen then
    .error .malformed
  else
    match change true (addNew (path.getLast?.getD "") value) path.dropLast draft.entries with
    | none => .error .malformed
    | some entries =>
      .ok { draft with
        entries := entries
        marks := if isContainer value then (path, .frozen) :: draft.marks else draft.marks
        pending := paths.map (fun path => (path, Mark.headed)) ++ draft.pending }

/-- Read a header behind its opening bracket. -/
def readHeader (draft : Draft) : List Char → Reading Draft
  | '[' :: rest =>
    let rest := skipSpaces rest
    match readKey rest with
    | .error e => .error e
    | .ok (path, ']' :: ']' :: rest) => (draft.settle.openItem path).map fun draft => (draft, rest)
    | .ok _ => .error .malformed
  | rest =>
    let rest := skipSpaces rest
    match readKey rest with
    | .error e => .error e
    | .ok (path, ']' :: rest) => (draft.settle.openTable path).map fun draft => (draft, rest)
    | .ok _ => .error .malformed

/-- Read a key with its value. -/
def readPair (draft : Draft) (cs : List Char) : Reading Draft :=
  match readKeySign cs with
  | .error e => .error e
  | .ok (key, rest) =>
    match readValue (2 * rest.length + 2) 0 rest with
    | .error e => .error e
    | .ok (value, rest) => (draft.add key value).map fun draft => (draft, rest)

/-- Read what stands on a line before its comment. -/
def readStatement (draft : Draft) (cs : List Char) : Reading Draft :=
  match cs with
  | [] => .ok (draft, [])
  | '\n' :: _ => .ok (draft, cs)
  | '#' :: _ => .ok (draft, cs)
  | '[' :: rest => readHeader draft rest
  | cs => readPair draft cs

/-- Read the lines of a document. The fuel is at least the number of characters. -/
def readLines : Nat → Draft → List Char → Except Fault Draft
  | 0, draft, _ => .ok draft
  | fuel + 1, draft, cs =>
    match readStatement draft (skipSpaces cs) with
    | .error e => .error e
    | .ok (draft, rest) =>
      match skipComment (skipSpaces rest) with
      | .error e => .error e
      | .ok [] => .ok draft
      | .ok ('\n' :: rest) => readLines fuel draft rest
      | .ok _ => .error .malformed

/-- A text in which a newline stands for each pair of carriage return and newline. -/
def joinLineEnds : List Char → List Char
  | '\r' :: '\n' :: rest => '\n' :: joinLineEnds rest
  | c :: rest => c :: joinLineEnds rest
  | [] => []

/-- Read a document. -/
def read (text : String) : Except Fault Entries :=
  let cs := joinLineEnds text.toList
  (readLines (cs.length + 1) ⟨[], [], [], []⟩ cs).map (·.entries)

end ContractBench.Toml
