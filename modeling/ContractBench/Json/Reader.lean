import ContractBench.Value
import ContractBench.Number.Numeral
import ContractBench.Json.Writer

/-! # Reading JSON

`Json.read` reads a text as one JSON document. The names of the special numbers are values, and a
key that is repeated keeps its first place and gets its last value. A text is made of whole
characters, so half of a surrogate pair that is escaped alone is read as the replacement character;
texts that keep such a half, which cannot be written again, are left out. A failure names its cause
and the place where it shows. `Json.readStrict?` reads what is kept on disk: it refuses halves of
surrogate pairs, long numerals of every kind and documents that are nested less deeply than others
may be.
-/

namespace ContractBench.Json

/-- Why a text is no JSON document. -/
inductive ReadFault where
  /-- No value stands where one must. -/
  | expectingValue
  /-- Something follows the document. -/
  | extraData
  /-- A string has no closing quote. -/
  | unterminated
  /-- A control character stands in a string. -/
  | controlCharacter
  /-- A backslash is followed by a character that it cannot escape. -/
  | badEscape
  /-- The four hexadecimal digits of an escape are not there. -/
  | badUnitEscape
  /-- An item is followed by neither a comma nor the end of the list. -/
  | expectingComma
  /-- A key is not followed by a colon. -/
  | expectingColon
  /-- No key stands where one must. -/
  | expectingKey
  /-- The text begins with a byte order mark. -/
  | byteOrderMark
  /-- A whole number has too many digits. -/
  | longNumeral (digits : Nat)
  /-- Half of a surrogate pair stands alone. -/
  | loneSurrogate
  /-- A list lies too deep. -/
  | deepList
  /-- An object lies too deep. -/
  | deepObject
  deriving Repr, DecidableEq

/-- A failure to read, with the number of characters from its place to the end of the text. -/
structure ReadError where
  /-- The cause. -/
  fault : ReadFault
  /-- How many characters are left at its place. -/
  remaining : Nat
  deriving Repr, DecidableEq

/-- What reading a part of a text gives: the part's value and the rest of the text. -/
abbrev Reading (α : Type) := Except ReadError (α × List Char)

/-- Fail at the start of what is left. -/
def failAt {α : Type} (fault : ReadFault) (rest : List Char) : Except ReadError α :=
  .error ⟨fault, rest.length⟩

/-- The white space of JSON. -/
def isBlank (c : Char) : Bool := c = ' ' || c = '\t' || c = '\n' || c = '\r'

/-- Skip white space. -/
def skipBlanks (cs : List Char) : List Char := cs.dropWhile isBlank

/-- The value of a hexadecimal digit. -/
def hexValue? (c : Char) : Option Nat :=
  if '0' ≤ c ∧ c ≤ '9' then some (c.toNat - 48)
  else if 'a' ≤ c ∧ c ≤ 'f' then some (c.toNat - 87)
  else if 'A' ≤ c ∧ c ≤ 'F' then some (c.toNat - 55)
  else none

/-- The number of four hexadecimal digits. -/
def unit? (a b c d : Char) : Option Nat := do
  let a ← hexValue? a
  let b ← hexValue? b
  let c ← hexValue? c
  let d ← hexValue? d
  return ((a * 16 + b) * 16 + c) * 16 + d

/-- The character that a letter after a backslash stands for. -/
def escaped? (c : Char) : Option Char :=
  if c = '"' ∨ c = '\\' ∨ c = '/' then some c
  else if c = 'b' then some '\x08'
  else if c = 'f' then some '\x0c'
  else if c = 'n' then some '\n'
  else if c = 'r' then some '\r'
  else if c = 't' then some '\t'
  else none

/-- Whether a unit is the first of a surrogate pair. -/
def isHighSurrogate (unit : Nat) : Bool := 0xD800 ≤ unit && unit < 0xDC00

/-- Whether a unit is the second of a surrogate pair. -/
def isLowSurrogate (unit : Nat) : Bool := 0xDC00 ≤ unit && unit < 0xE000

/-- The characters of a string read so far, the last one first, and a first half of a surrogate
    pair that waits for its second. -/
structure StringState where
  /-- The characters. -/
  read : List Char
  /-- The waiting half. -/
  waiting : Option Nat := none

/-- Put the replacement character for a waiting half that stays alone. -/
def StringState.settle (state : StringState) : List Char :=
  match state.waiting with
  | some _ => '\uFFFD' :: state.read
  | none => state.read

/-- Add a character. -/
def StringState.push (state : StringState) (c : Char) : StringState := ⟨c :: state.settle, none⟩

/-- Add an escaped unit. -/
def StringState.pushUnit (state : StringState) (unit : Nat) : StringState :=
  if isHighSurrogate unit then ⟨state.settle, some unit⟩
  else
    match state.waiting with
    | some high =>
      if isLowSurrogate unit then
        ⟨Char.ofNat (0x10000 + (high - 0xD800) * 0x400 + (unit - 0xDC00)) :: state.read, none⟩
      else state.push (Char.ofNat unit)
    | none => state.push (if isLowSurrogate unit then '\uFFFD' else Char.ofNat unit)

/-- Whether adding a unit leaves half of a pair alone. -/
def StringState.strands (state : StringState) (unit : Nat) : Bool :=
  (state.waiting.isSome && !isLowSurrogate unit) || (state.waiting.isNone && isLowSurrogate unit)

/-- Read a string behind its opening quote, at which `start` characters were left. Four
    hexadecimal digits are read as an escape only when something follows them. -/
def readString (strict : Bool) (start : Nat) : StringState → List Char → Reading String
  | _, [] => .error ⟨.unterminated, start⟩
  | state, '"' :: rest =>
    if strict && state.waiting.isSome then failAt .loneSurrogate rest
    else .ok (String.ofList state.settle.reverse, rest)
  | state, '\\' :: 'u' :: rest =>
    match rest with
    | a :: b :: c :: d :: tail =>
      if tail.isEmpty then .error ⟨.badUnitEscape, rest.length + 1⟩
      else
        match unit? a b c d with
        | none => .error ⟨.badUnitEscape, rest.length + 1⟩
        | some unit =>
          if strict && state.strands unit then failAt .loneSurrogate rest
          else readString strict start (state.pushUnit unit) tail
    | _ => .error ⟨.badUnitEscape, rest.length + 1⟩
  | state, '\\' :: c :: rest =>
    match escaped? c with
    | none => .error ⟨.badEscape, rest.length + 2⟩
    | some c =>
      if strict && state.waiting.isSome then failAt .loneSurrogate rest
      else readString strict start (state.push c) rest
  | _, ['\\'] => .error ⟨.unterminated, start⟩
  | state, c :: rest =>
    if c.toNat < 0x20 then failAt .controlCharacter (c :: rest)
    else if strict && state.waiting.isSome then failAt .loneSurrogate rest
    else readString strict start (state.push c) rest

/-- Split off a fraction, when a point and a digit are there. -/
def splitFraction : List Char → Option (List Char) × List Char
  | '.' :: rest =>
    let digits := rest.takeWhile Char.isDigit
    if digits.isEmpty then (none, '.' :: rest) else (some digits, rest.drop digits.length)
  | cs => (none, cs)

/-- Split off an exponent, when its letter and a digit are there. -/
def splitExponent : List Char → Option Int × List Char
  | [] => (none, [])
  | c :: rest =>
    let (negative, body) := Numeral.splitSign rest
    let digits := body.takeWhile Char.isDigit
    if (c = 'e' ∨ c = 'E') ∧ digits ≠ [] then
      (some (Numeral.signed negative (Numeral.ofDigits digits)), body.drop digits.length)
    else (none, c :: rest)

/-- The digits of a number before its point: one zero, or digits that begin with another. -/
def splitWhole : List Char → List Char × List Char
  | '0' :: rest => (['0'], rest)
  | cs => (cs.takeWhile Char.isDigit, cs.dropWhile Char.isDigit)

/-- Read a number behind its sign. Strictly the minus counts among its digits, and their number is
    limited whatever follows them. -/
def readNumber (strict negative : Bool) (cs : List Char) : Reading Value :=
  let (whole, rest) := splitWhole cs
  let (fraction, rest) := splitFraction rest
  let (exponent, rest) := splitExponent rest
  if strict && Numeral.mostDigits < whole.length + (if negative then 1 else 0) then
    failAt (.longNumeral whole.length) cs
  else if fraction.isNone ∧ exponent.isNone then
    if Numeral.mostDigits < whole.length then failAt (.longNumeral whole.length) cs
    else .ok (.int (Numeral.signed negative (Numeral.ofDigits whole)), rest)
  else
    .ok (.float (Numeral.ofParts negative whole (fraction.getD []) (exponent.getD 0)), rest)

/-- The values that have names. -/
def namedValues : List (String × Value) :=
  [("null", .null), ("true", .bool true), ("false", .bool false), ("NaN", .float .nan),
   ("Infinity", .float (.infinite false)), ("-Infinity", .float (.infinite true))]

/-- Read a named value. -/
def readNamed? (cs : List Char) : Option (Value × List Char) :=
  (namedValues.find? fun entry => entry.1.toList.isPrefixOf cs).map fun entry =>
    (entry.2, cs.drop entry.1.length)

/-- Read a number or a named value. -/
def readScalar (strict : Bool) (cs : List Char) : Reading Value :=
  match readNamed? cs with
  | some found => .ok found
  | none =>
    match cs with
    | '-' :: c :: rest =>
      if c.isDigit then readNumber strict true (c :: rest) else failAt .expectingValue cs
    | c :: _ => if c.isDigit then readNumber strict false cs else failAt .expectingValue cs
    | [] => failAt .expectingValue []

/-- Read a key and the colon behind it, up to the value. -/
def readKey (strict : Bool) : List Char → Reading String
  | '"' :: rest =>
    match readString strict (rest.length + 1) ⟨[], none⟩ rest with
    | .error e => .error e
    | .ok (key, rest) =>
      match skipBlanks rest with
      | ':' :: rest => .ok (key, skipBlanks rest)
      | rest => failAt .expectingColon rest
  | cs => failAt .expectingKey cs

/-- How deep the containers of a document may lie within each other. This is a limit of the readers
    in use, and not one of the format. -/
def deepest (strict : Bool) : Nat := if strict then 200 else 4990

mutual
/-- Read a value, in which containers may lie within each other as deep as there is room. Strictly
    an empty container takes no room. The fuel is at least the number of characters. -/
def readValue (strict : Bool) : Nat → Nat → List Char → Reading Value
  | 0, _, cs => failAt .expectingValue cs
  | fuel + 1, room, cs =>
    match cs with
    | '"' :: rest =>
      match readString strict (rest.length + 1) ⟨[], none⟩ rest with
      | .error e => .error e
      | .ok (s, rest) => .ok (.text s, rest)
    | '[' :: rest =>
      match skipBlanks rest with
      | ']' :: tail => if strict || room ≠ 0 then .ok (.list [], tail) else failAt .deepList rest
      | items => if room ≠ 0 then readItems strict fuel room [] items else failAt .deepList rest
    | '{' :: rest =>
      match skipBlanks rest with
      | '}' :: tail => if strict || room ≠ 0 then .ok (.dict [], tail) else failAt .deepObject rest
      | members =>
        if room ≠ 0 then readMembers strict fuel room [] members else failAt .deepObject rest
    | cs => readScalar strict cs

/-- Read the items of a list from the next one on; those before it are given last first. -/
def readItems (strict : Bool) : Nat → Nat → List Value → List Char → Reading Value
  | 0, _, _, cs => failAt .expectingValue cs
  | fuel + 1, room, before, cs =>
    match readValue strict fuel (room - 1) cs with
    | .error e => .error e
    | .ok (item, rest) =>
      match skipBlanks rest with
      | ']' :: rest => .ok (.list (item :: before).reverse, rest)
      | ',' :: rest => readItems strict fuel room (item :: before) (skipBlanks rest)
      | rest => failAt .expectingComma rest

/-- Read the members of an object from the next one on; those before it are given last first. -/
def readMembers (strict : Bool) :
    Nat → Nat → List (Value × Value) → List Char → Reading Value
  | 0, _, _, cs => failAt .expectingKey cs
  | fuel + 1, room, before, cs =>
    match readKey strict cs with
    | .error e => .error e
    | .ok (key, rest) =>
      match readValue strict fuel (room - 1) rest with
      | .error e => .error e
      | .ok (value, rest) =>
        match skipBlanks rest with
        | '}' :: rest => .ok (Value.ofEntries ((.text key, value) :: before).reverse, rest)
        | ',' :: rest =>
          readMembers strict fuel room ((.text key, value) :: before) (skipBlanks rest)
        | rest => failAt .expectingComma rest
end

/-- Read a text that is one value between white space. -/
def readDocument (strict : Bool) (cs : List Char) : Except ReadError Value := do
  let (value, rest) ← readValue strict (2 * cs.length + 2) (deepest strict) (skipBlanks cs)
  match skipBlanks rest with
  | [] => return value
  | rest => failAt .extraData rest

/-- Read a text as a JSON document, with the replacement character for escaped halves of surrogate
    pairs that stand alone. -/
def read (text : String) : Except ReadError Value :=
  match text.toList with
  | '\uFEFF' :: rest => failAt .byteOrderMark ('\uFEFF' :: rest)
  | cs => readDocument false cs

/-- Read a document that is kept on disk. -/
def readStrict? (text : String) : Option Value := (readDocument true text.toList).toOption

/-- The words for a container that lies too deep. -/
def tooDeep (container : String) : String :=
  "maximum recursion depth exceeded while decoding a JSON " ++ container ++
    " from a unicode string"

/-- The words for a fault. -/
def ReadFault.message : ReadFault → String
  | .expectingValue => "Expecting value"
  | .extraData => "Extra data"
  | .unterminated => "Unterminated string starting at"
  | .controlCharacter => "Invalid control character at"
  | .badEscape => "Invalid \\escape"
  | .badUnitEscape => "Invalid \\uXXXX escape"
  | .expectingComma => "Expecting ',' delimiter"
  | .expectingColon => "Expecting ':' delimiter"
  | .expectingKey => "Expecting property name enclosed in double quotes"
  | .byteOrderMark => "Unexpected UTF-8 BOM (decode using utf-8-sig)"
  | .longNumeral digits => numeralLimit (": value has " ++ toString digits ++ " digits")
  | .loneSurrogate => "Expecting value"
  | .deepList => tooDeep "array"
  | .deepObject => tooDeep "object"

/-- A place in a text: lines and columns count from one, characters from zero. -/
def placeText (text : String) (position : Nat) : String :=
  let before := text.toList.take position
  let line := before.count '\n' + 1
  let column := (before.reverse.takeWhile (· ≠ '\n')).length + 1
  "line " ++ toString line ++ " column " ++ toString column ++ " (char " ++ toString position ++ ")"

/-- The message for a failure to read a text. A fault of size is reported without its place. -/
def ReadError.message (e : ReadError) (text : String) : String :=
  match e.fault with
  | .longNumeral _ => e.fault.message
  | .deepList => e.fault.message
  | .deepObject => e.fault.message
  | fault => fault.message ++ ": " ++ placeText text (text.length - e.remaining)

end ContractBench.Json
