import ContractBench.Json.Reader
import ContractBench.Number.Numeral
import ContractBench.Toml.Moment

/-! # TOML texts and numbers

Readers for the four kinds of quoted text, for comments, and for numbers and moments. A text in
double quotes has escapes, one in single quotes has none; three quotes let a text run over lines.
-/

namespace ContractBench.Toml

/-- Why a document cannot be read. -/
inductive Fault where
  /-- It is no TOML document. -/
  | malformed
  /-- It holds a whole number of too many digits. -/
  | longNumeral (digits : Nat)
  /-- It holds a value that lies in too many lists and tables. -/
  | tooDeep
  /-- It holds a key of too many parts. -/
  | longKey
  deriving Repr, DecidableEq

/-- How many lists and tables inside a line a value may lie in, by the version of the reader that is
    in use. -/
def deepest : Nat := 400

/-- The most parts of a key, by the version of the reader that is in use. -/
def mostParts : Nat := 1000

/-- The words for a fault. -/
def Fault.message : Fault → String
  | .malformed => "Invalid TOML document"
  | .longNumeral digits => Json.numeralLimit (": value has " ++ toString digits ++ " digits")
  | .tooDeep =>
    "TOML inline arrays/tables are nested more than the allowed " ++ toString deepest ++ " levels"
  | .longKey => "TOML key has more than the allowed " ++ toString mostParts ++ " parts"

/-- What reading a part of a document gives: its value and the rest of the text. -/
abbrev Reading (α : Type) := Except Fault (α × List Char)

/-- Whether a character is white space within a line. -/
def isSpace (c : Char) : Bool := c = ' ' || c = '\t'

/-- Whether a character is white space. -/
def isSpaceOrNewline (c : Char) : Bool := isSpace c || c = '\n'

/-- Whether a character is a control character that no line may hold. -/
def isControl (c : Char) : Bool := (c.toNat < 32 && c ≠ '\t') || c.toNat = 127

/-- Whether a character may not stand in a text; a newline may if the text runs over lines. -/
def isIllegal (multiline : Bool) (c : Char) : Bool := isControl c && !(multiline && c = '\n')

/-- Skip white space within a line. -/
def skipSpaces (cs : List Char) : List Char := cs.dropWhile isSpace

/-- Skip a comment up to the end of its line. -/
def skipComment : List Char → Except Fault (List Char)
  | '#' :: rest =>
    let comment := rest.takeWhile (· ≠ '\n')
    if comment.any isControl then .error .malformed else .ok (rest.drop comment.length)
  | cs => .ok cs

/-- Skip white space, newlines and comments. -/
def skipFiller : Nat → List Char → Except Fault (List Char)
  | 0, cs => .ok cs
  | fuel + 1, cs =>
    match cs.dropWhile isSpaceOrNewline with
    | '#' :: rest => (skipComment ('#' :: rest)).bind (skipFiller fuel)
    | rest => .ok rest

/-- The characters that an escape with a letter stands for. -/
def escaped? (c : Char) : Option Char :=
  if c = 'b' then some '\x08'
  else if c = 't' then some '\t'
  else if c = 'n' then some '\n'
  else if c = 'f' then some '\x0c'
  else if c = 'r' then some '\r'
  else if c = 'e' then some '\x1b'
  else if c = '"' then some '"'
  else if c = '\\' then some '\\'
  else none

/-- How many hexadecimal digits follow the letter of an escape. -/
def hexWidth? (c : Char) : Option Nat :=
  if c = 'x' then some 2 else if c = 'u' then some 4 else if c = 'U' then some 8 else none

/-- The number of hexadecimal digits. -/
def ofHex? (digits : List Char) : Option Nat :=
  digits.foldl (fun n digit =>
    match n, Json.hexValue? digit with
    | some n, some d => some (16 * n + d)
    | _, _ => none) (some 0)

/-- The character with a number, which may be no surrogate. -/
def scalar? (n : Nat) : Option Char :=
  if n < 0xD800 ∨ (0xDFFF < n ∧ n < 0x110000) then some (Char.ofNat n) else none

/-- Read an escape behind its backslash. A backslash at the end of a line joins lines. -/
def readEscape (multiline : Bool) : List Char → Reading (List Char)
  | [] => .error .malformed
  | c :: rest =>
    if multiline && c = '\n' then .ok ([], rest.dropWhile isSpaceOrNewline)
    else if multiline && isSpace c then
      match skipSpaces rest with
      | [] => .ok ([], [])
      | '\n' :: rest => .ok ([], rest.dropWhile isSpaceOrNewline)
      | _ => .error .malformed
    else
      match hexWidth? c with
      | some width =>
        match (ofHex? (rest.take width)).bind scalar? with
        | some c => if rest.length < width then .error .malformed else .ok ([c], rest.drop width)
        | none => .error .malformed
      | none =>
        match escaped? c with
        | some c => .ok ([c], rest)
        | none => .error .malformed

/-- Read a text with escapes up to its closing quotes; what was read so far is given last
    character first. The fuel is at least the number of characters. -/
def readBasic (multiline : Bool) : Nat → List Char → List Char → Reading (List Char)
  | 0, _, _ => .error .malformed
  | _, _, [] => .error .malformed
  | fuel + 1, before, '"' :: rest =>
    if multiline then
      match rest with
      | '"' :: '"' :: rest => .ok (before, rest)
      | _ => readBasic multiline fuel ('"' :: before) rest
    else .ok (before, rest)
  | fuel + 1, before, '\\' :: rest =>
    match readEscape multiline rest with
    | .error e => .error e
    | .ok (cs, rest) => readBasic multiline fuel (cs.reverse ++ before) rest
  | fuel + 1, before, c :: rest =>
    if isIllegal multiline c then .error .malformed
    else readBasic multiline fuel (c :: before) rest

/-- Read a text without escapes up to its closing quotes; what was read so far is given last
    character first. -/
def readLiteral (multiline : Bool) : List Char → List Char → Reading (List Char)
  | _, [] => .error .malformed
  | before, '\'' :: rest =>
    if multiline then
      match rest with
      | '\'' :: '\'' :: rest => .ok (before, rest)
      | _ => readLiteral multiline ('\'' :: before) rest
    else .ok (before, rest)
  | before, c :: rest =>
    if isIllegal multiline c then .error .malformed else readLiteral multiline (c :: before) rest

/-- Up to two further quotes after three belong to the text. -/
def moreQuotes (quote : Char) (before : List Char) : List Char → List Char × List Char
  | a :: b :: rest =>
    if a = quote then
      if b = quote then (quote :: quote :: before, rest) else (quote :: before, b :: rest)
    else (before, a :: b :: rest)
  | [a] => if a = quote then (quote :: before, []) else (before, [a])
  | [] => (before, [])

/-- Finish a text whose characters are given last first. -/
def finish (result : Reading (List Char)) : Reading String :=
  result.map fun (before, rest) => (String.ofList before.reverse, rest)

/-- Read a text on one line behind its opening quote. -/
def readLineText (quote : Char) (cs : List Char) : Reading String :=
  finish (if quote = '"' then readBasic false (cs.length + 1) [] cs else readLiteral false [] cs)

/-- Read a text over lines behind its three opening quotes. A newline at its start is dropped. -/
def readLongText (quote : Char) (cs : List Char) : Reading String :=
  let cs := match cs with
    | '\n' :: rest => rest
    | cs => cs
  let body := if quote = '"' then readBasic true (cs.length + 1) [] cs else readLiteral true [] cs
  finish (body.map fun (before, rest) => moreQuotes quote before rest)

/-- Read a quoted text. -/
def readText (quote : Char) : List Char → Reading String
  | a :: b :: c :: rest =>
    if a = quote ∧ b = quote ∧ c = quote then readLongText quote rest
    else readLineText quote (b :: c :: rest)
  | _ :: rest => readLineText quote rest
  | [] => .error .malformed

/-- Split off digits of a class with single underscores between them, at least one. -/
def splitDigits (isDigit : Char → Bool) : Nat → List Char → List Char × List Char
  | 0, cs => ([], cs)
  | fuel + 1, cs =>
    let digits := cs.takeWhile isDigit
    match cs.drop digits.length with
    | '_' :: c :: rest =>
      if !digits.isEmpty && isDigit c then
        let (more, rest) := splitDigits isDigit fuel (c :: rest)
        (digits ++ more, rest)
      else (digits, '_' :: c :: rest)
    | rest => (digits, rest)

/-- The number of digits in some base. -/
def ofBase (base : Nat) (digits : List Char) : Nat :=
  digits.foldl (fun n digit => base * n + (Json.hexValue? digit).getD 0) 0

/-- Whether a character is a digit in some base. -/
def isDigitOf (base : Nat) (c : Char) : Bool :=
  match Json.hexValue? c with
  | some d => d < base
  | none => false

/-- The base that the letter after a zero names. -/
def baseOf? (c : Char) : Option Nat :=
  if c = 'x' then some 16 else if c = 'o' then some 8 else if c = 'b' then some 2 else none

/-- Read a number that names its base. -/
def readBased? : List Char → Option (Value × List Char)
  | '0' :: c :: rest =>
    match baseOf? c with
    | some base =>
      let (digits, rest) := splitDigits (isDigitOf base) rest.length rest
      if digits.isEmpty then none else some (.int (ofBase base digits), rest)
    | none => none
  | _ => none

/-- Split off the fraction of a number, if it is there. -/
def splitFraction (cs : List Char) : Option (List Char) × List Char :=
  match cs with
  | '.' :: rest =>
    let (digits, rest) := splitDigits Char.isDigit rest.length rest
    if digits.isEmpty then (none, cs) else (some digits, rest)
  | cs => (none, cs)

/-- Split off the exponent of a number, if it is there. -/
def splitExponent (cs : List Char) : Option Int × List Char :=
  match cs with
  | [] => (none, [])
  | c :: rest =>
    let (negative, body) := Numeral.splitSign rest
    let (digits, rest) := splitDigits Char.isDigit body.length body
    if (c = 'e' ∨ c = 'E') ∧ digits ≠ [] then
      (some (Numeral.signed negative (Numeral.ofDigits digits)), rest)
    else (none, cs)

/-- The digits of a number before its point: one zero, or digits that begin with another. -/
def splitWhole : List Char → List Char × List Char
  | '0' :: rest => (['0'], rest)
  | cs => splitDigits Char.isDigit cs.length cs

/-- Read a decimal number. -/
def readDecimal (cs : List Char) : Reading Value :=
  let (negative, body) := Numeral.splitSign cs
  let (whole, rest) := splitWhole body
  let (fraction, rest) := splitFraction rest
  let (exponent, rest) := splitExponent rest
  if whole.isEmpty then .error .malformed
  else if fraction.isNone ∧ exponent.isNone then
    if Numeral.mostDigits < whole.length then .error (.longNumeral whole.length)
    else .ok (.int (Numeral.signed negative (Numeral.ofDigits whole)), rest)
  else .ok (.float (Numeral.ofParts negative whole (fraction.getD []) (exponent.getD 0)), rest)

/-- The values that have names. -/
def namedValues : List (String × Value) :=
  [("true", .bool true), ("false", .bool false), ("inf", .float (.infinite false)),
   ("+inf", .float (.infinite false)), ("-inf", .float (.infinite true)),
   ("nan", .float .nan), ("+nan", .float .nan), ("-nan", .float .nan)]

/-- Read a named value, a moment or a number. -/
def readScalar (cs : List Char) : Reading Value :=
  match namedValues.find? fun entry => entry.1.toList.isPrefixOf cs with
  | some entry => .ok (entry.2, cs.drop entry.1.length)
  | none =>
    match Moment.read? cs with
    | some (moment, rest) =>
      if moment.isReal then .ok (moment.toValue, rest) else .error .malformed
    | none =>
      match readBased? cs with
      | some found => .ok found
      | none => readDecimal cs

end ContractBench.Toml
