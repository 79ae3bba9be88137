import ContractBench.Number.Binary64
import ContractBench.Text.Blank

/-! # Numerals

How numbers are read from text: whole numbers with grouping underscores and an empty fraction, and
decimal numbers with an exponent and the names of the special numbers.
-/

namespace ContractBench.Numeral

/-- The number that a run of decimal digits denotes. -/
def ofDigits (digits : List Char) : Nat :=
  digits.foldl (fun n digit => 10 * n + (digit.toNat - '0'.toNat)) 0

/-- The number with these digits before and after the point, scaled by a power of ten. -/
def ofParts (negative : Bool) (whole fraction : List Char) (exponent : Int) : Binary64 :=
  Binary64.ofDecimal negative (ofDigits (whole ++ fraction)) (exponent - fraction.length)

/-- The most digits a whole number may be written with. This is a limit of the readers in use. -/
def mostDigits : Nat := 4300

/-- Split off a sign; the flag tells a minus. -/
def splitSign : List Char → Bool × List Char
  | '-' :: rest => (true, rest)
  | '+' :: rest => (false, rest)
  | cs => (false, cs)

/-- A number with a sign. -/
def signed (negative : Bool) (n : Nat) : Int := if negative then -(n : Int) else n

/-- Read a sign and digits. -/
def readSigned? (text : String) : Option Int :=
  let (negative, digits) := splitSign text.toList
  if digits.isEmpty || !digits.all Char.isDigit then none
  else some (signed negative (ofDigits digits))

/-- Why a text is no whole number. -/
inductive Fault where
  /-- It does not have the form of one. -/
  | malformed
  /-- It has too many digits. -/
  | tooLong
  deriving Repr, DecidableEq

/-- Read a whole number in its shortest form: no plus, no zero before another digit. The minus
    counts among the digits, and digits that are too many are so whatever follows them. -/
def readShortest (cs : List Char) : Except Fault Int :=
  let (negative, body) := match cs with
    | '-' :: rest => (true, rest)
    | _ => (false, cs)
  let digits := body.takeWhile Char.isDigit
  match digits with
  | [] => .error .malformed
  | '0' :: _ => if body.length = 1 then .ok 0 else .error .malformed
  | _ =>
    if mostDigits < digits.length + (cs.length - body.length) then .error .tooLong
    else if digits.length < body.length then .error .malformed
    else .ok (signed negative (ofDigits digits))

/-- Whether a character begins what follows leading zeros. -/
def beginsNumber (c : Char) : Bool := c = '-' || ('1' ≤ c && c ≤ '9')

/-- What follows leading zeros, between which underscores may stand. A point keeps the character
    before it, and so does the end. -/
def dropZerosFrom (last : Char) : List Char → Option (List Char)
  | [] => some [last]
  | c :: rest =>
    if c = '0' ∨ c = '_' then dropZerosFrom c rest
    else if c = '.' then some (last :: c :: rest)
    else if beginsNumber c then some (c :: rest)
    else none

/-- A numeral behind its sign without leading zeros. -/
def dropZeros? : List Char → Option (List Char)
  | [] => none
  | c :: rest =>
    if c = '0' then dropZerosFrom c rest
    else if c.isDigit then some (c :: rest)
    else none

/-- A numeral without a point and the zeros behind it. -/
def dropZeroFraction (cs : List Char) : List Char :=
  let whole := cs.takeWhile (· ≠ '.')
  match cs.drop whole.length with
  | _ :: zeros => if !zeros.isEmpty && zeros.all (· = '0') then whole else cs
  | [] => cs

/-- Whether underscores stand only alone and inside. -/
def isGrouped (cs : List Char) : Bool :=
  cs.head? ≠ some '_' && cs.getLast? ≠ some '_' &&
    !(cs.zip (cs.drop 1)).any fun pair => pair.1 = '_' && pair.2 = '_'

/-- A numeral without underscores, where they stand only alone and inside. -/
def ungroup (cs : List Char) : List Char := if isGrouped cs then cs.filter (· ≠ '_') else cs

/-- The shortest form of a numeral that has white space around it, a plus, leading zeros, grouped
    digits or a fraction of zeros. -/
def shortest? (cs : List Char) : Option (List Char) :=
  let tidy (body : List Char) : Option (List Char) :=
    (dropZeros? body).map fun cs => ungroup (dropZeroFraction cs)
  match Text.trimBy Text.isWhiteSpace cs with
  | '-' :: body => (tidy body).map ('-' :: ·)
  | '+' :: body => tidy body
  | body => tidy body

/-- Read a whole number. Only a text in the shortest form can be refused for its length; any other
    text that is no number in range is malformed. -/
def readInt (text : String) : Except Fault Int :=
  match readShortest text.toList with
  | .error .malformed =>
    match (shortest? text.toList).map readShortest with
    | some (.ok n) => .ok n
    | _ => .error .malformed
  | answer => answer

/-- Read the exponent of a decimal numeral: nothing, or the letter, a sign and digits. -/
def readExponent? : List Char → Option Int
  | [] => some 0
  | c :: rest =>
    if c = 'e' ∨ c = 'E' then
      let (negative, digits) := splitSign rest
      if digits.isEmpty || !digits.all Char.isDigit then none
      else some (signed negative (ofDigits digits))
    else none

/-- Read an unsigned decimal numeral with a digit before or after its point. -/
def readUnsigned? (negative : Bool) (cs : List Char) : Option Binary64 :=
  let whole := cs.takeWhile Char.isDigit
  let (fraction, rest) :=
    match cs.drop whole.length with
    | '.' :: rest => (rest.takeWhile Char.isDigit, rest.dropWhile Char.isDigit)
    | rest => ([], rest)
  if whole.isEmpty && fraction.isEmpty then none
  else (readExponent? rest).map (ofParts negative whole fraction)

/-- A text with its capital letters made small. -/
def lowerCase (cs : List Char) : List Char := cs.map Char.toLower

/-- Read a decimal numeral or the name of a special number. -/
def readDecimal? (cs : List Char) : Option Binary64 :=
  let (negative, body) := splitSign cs
  let name := String.ofList (lowerCase body)
  if name = "inf" ∨ name = "infinity" then some (.infinite negative)
  else if name = "nan" then some .nan
  else readUnsigned? negative body

/-- Read a number: white space around it is skipped. Where that fails, single underscores inside
    the whole text are. -/
def readNumber? (text : String) : Option Binary64 :=
  match readDecimal? (Text.trimBy Text.isWhiteSpace text.toList) with
  | some x => some x
  | none =>
    if isGrouped text.toList then readDecimal? (text.toList.filter (· ≠ '_')) else none

end ContractBench.Numeral
