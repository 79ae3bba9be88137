import ContractBench.Number.Numeral
import ContractBench.Number.Places
import ContractBench.Shell.Formula
import ContractBench.Text.Octets

/-! # Printing by formats

Texts in which a backslash begins an escape, and formats in which a percent sign begins a place for
an argument. The shell has a dialect of its own beside that of the program. All text is in octets.
-/

namespace ContractBench.Shell.Format

/-- The dialects of formats. -/
inductive Dialect where
  /-- The shell's own. -/
  | shell
  /-- The program's. -/
  | program
  deriving Repr, DecidableEq

/-- The character of an octet. -/
def octet (n : Nat) : Char := Char.ofNat (n % 256)

/-- Split off a number of at most some digits of a base. -/
def splitNumber (base : Nat) : Nat → Nat → List Char → Nat × List Char
  | 0, n, cs => (n, cs)
  | _, n, [] => (n, [])
  | width + 1, n, c :: rest =>
    if Formula.digit c < base then splitNumber base width (base * n + Formula.digit c) rest
    else (n, c :: rest)

/-- Whether a character is an octal digit. -/
def isOctal (c : Char) : Bool := '0' ≤ c && c ≤ '7'

/-- The control character that a letter behind a backslash stands for. -/
def control? (c : Char) : Option Char :=
  ([('a', 7), ('b', 8), ('t', 9), ('n', 10), ('v', 11), ('f', 12), ('r', 13), ('e', 27),
    ('\\', 92)].find? fun entry => entry.1 = c).map fun entry => Char.ofNat entry.2

/-- Read an escape behind its backslash; octal numbers have at most some digits. -/
def readEscape (dialect : Dialect) (width : Nat) : List Char → List Char × List Char
  | [] => (['\\'], [])
  | c :: rest =>
    match control? c with
    | some control => ([control], rest)
    | none =>
      if isOctal c then
        let (n, rest) := splitNumber 8 width 0 (c :: rest)
        ([octet n], rest)
      else if dialect = .program then
        if c = 'x' then
          let (n, after) := splitNumber 16 2 0 rest
          if after.length = rest.length then (['\\', 'x'], rest) else ([octet n], after)
        else if c = 'u' ∨ c = 'U' then
          let (n, after) := splitNumber 16 (if c = 'u' then 4 else 8) 0 rest
          if after.length = rest.length then (['\\', c], rest)
          else ((Octets.ofText (String.singleton (Char.ofNat n))).toList, after)
        else if c = '"' then (['"'], rest)
        else (['\\', c], rest)
      else (['\\', c], rest)

/-- A text in which escapes count; an octal number there begins with a zero. The flag tells whether
    output ends here. The fuel is more than the number of characters. -/
def escaped (dialect : Dialect) : Nat → List Char → List Char × Bool
  | 0, _ => ([], false)
  | _, [] => ([], false)
  | fuel + 1, '\\' :: rest =>
    if rest.head? = some 'c' then ([], true)
    else
      let (text, rest) :=
        match rest with
        | c :: _ =>
          if '1' ≤ c ∧ c ≤ '7' then
            if dialect = .program then readEscape dialect 3 rest else (['\\'], rest)
          else readEscape dialect 4 rest
        | [] => (['\\'], rest)
      let (more, stop) := escaped dialect fuel rest
      (text ++ more, stop)
  | fuel + 1, c :: rest =>
    let (more, stop) := escaped dialect fuel rest
    (c :: more, stop)

/-- A text in which escapes count, and whether output ends in it. -/
def escapedText (dialect : Dialect) (text : String) : String × Bool :=
  let (cs, stop) := escaped dialect (text.length + 1) text.toList
  (String.ofList cs, stop)

/-- Some words between spaces, with a newline unless it is not wanted or output ended before it;
    escapes count in them. -/
def echoed : List String → String
  | "-n" :: words => (escapedText .shell (" ".intercalate words)).1
  | words =>
    let (text, stop) := escapedText .shell (" ".intercalate words)
    if stop then text else text ++ "\n"

/-- A place for an argument. -/
structure Directive where
  /-- The flags. -/
  flags : List Char
  /-- The least width. -/
  width : Nat
  /-- The precision. -/
  precision : Option Nat
  /-- The letter that says what is printed. -/
  letter : Char
  deriving Repr, DecidableEq

/-- Fill a text up to the width of a place. -/
def Directive.pad (directive : Directive) (text : String) : String :=
  let blanks := String.ofList (List.replicate (directive.width - text.length) ' ')
  if directive.flags.contains '-' then text ++ blanks else blanks ++ text

/-- Fill a number behind its sign up to the width of a place, with zeros if it asks for them. -/
def Directive.padNumber (directive : Directive) (sign text : String) (mayFill : Bool) : String :=
  if mayFill && directive.flags.contains '0' && !directive.flags.contains '-' then
    sign ++ Places.zeroPadded (directive.width - sign.length) text
  else directive.pad (sign ++ text)

/-- The digits of a number in the base of a place. -/
def Directive.digits (directive : Directive) (n : Nat) : String :=
  let base := match directive.letter with
    | 'o' => 8
    | 'x' => 16
    | 'X' => 16
    | _ => 10
  let text := String.ofList (Nat.toDigits base n)
  if directive.letter = 'X' then String.ofList (text.toList.map Char.toUpper) else text

/-- The sign of a number that is negative or not. -/
def Directive.sign (directive : Directive) (negative : Bool) : String :=
  if negative then "-"
  else if directive.flags.contains '+' then "+"
  else if directive.flags.contains ' ' then " "
  else ""

/-- The text of a whole number at a place. -/
def Directive.whole (directive : Directive) (n : Int) : String :=
  let isSigned := directive.letter = 'd' || directive.letter = 'i'
  let magnitude := if isSigned then n.natAbs else (n % Formula.wordCount).toNat
  let digits := if directive.precision = some 0 ∧ magnitude = 0 then ""
    else directive.digits magnitude
  let sign :=
    if isSigned then directive.sign (n < 0)
    else if directive.flags.contains '#' && n ≠ 0 && directive.letter = 'x' then "0x"
    else if directive.flags.contains '#' && n ≠ 0 && directive.letter = 'X' then "0X"
    else ""
  let least := (directive.precision.getD 0).max
    (if directive.flags.contains '#' && directive.letter = 'o' && !digits.startsWith "0" then
      digits.length + 1 else 0)
  directive.padNumber sign (Places.zeroPadded least digits) directive.precision.isNone

/-- A decimal number: a sign, and a ratio unless it is one of the special numbers. -/
inductive Decimal where
  /-- A ratio. -/
  | ratio (negative : Bool) (num den : Nat)
  /-- A special number by its name. -/
  | special (negative : Bool) (name : String)
  deriving Repr, DecidableEq

/-- The text of a decimal number at a place. -/
def Directive.decimal (directive : Directive) : Decimal → String
  | .special negative name =>
    let name := if directive.letter.isUpper then String.ofList (name.toList.map Char.toUpper)
      else name
    directive.pad (directive.sign negative ++ name)
  | .ratio negative num den =>
    let places := directive.precision.getD 6
    let marked := directive.flags.contains '#'
    let text :=
      match directive.letter.toLower with
      | 'e' => Places.scientific directive.letter places marked num den
      | 'g' =>
        Places.general (if directive.letter = 'G' then 'E' else 'e') places marked num den
      | _ => Places.fixed places marked num den
    directive.padNumber (directive.sign negative) text true

/-- How well an argument is a number. -/
inductive Fit where
  /-- It is one. -/
  | whole
  /-- It begins with one. -/
  | begins
  /-- It is none. -/
  | none
  /-- It is too great. -/
  | tooGreat
  deriving Repr, DecidableEq

/-- Drop white space and split off a sign. -/
def splitSign (cs : List Char) : Bool × List Char :=
  match cs.dropWhile fun c => c = ' ' || (9 ≤ c.toNat && c.toNat ≤ 13) with
  | '-' :: rest => (true, rest)
  | '+' :: rest => (false, rest)
  | cs => (false, cs)

/-- The code of the character that an argument means which begins with a quote. -/
def quotedCode? (dialect : Dialect) (cs : List Char) : Option Nat :=
  match cs with
  | '\'' :: c :: rest => some (code c rest)
  | '"' :: c :: rest => some (code c rest)
  | _ => none
where
  /-- The code of the character that begins some octets. -/
  code (c : Char) (rest : List Char) : Nat :=
    if dialect = .program then
      ((Octets.toText (String.ofList (c :: rest))).toList.head?.map Char.toNat).getD 0
    else c.toNat

/-- The whole number that an argument is, or begins with. -/
def readWhole (dialect : Dialect) (unsigned : Bool) (text : String) : Int × Fit :=
  match text.toList, quotedCode? dialect text.toList with
  | [], _ => (0, .whole)
  | _, some code => (code, .whole)
  | cs, none =>
    let (negative, cs) := splitSign cs
    match Formula.splitNumber cs with
    | none => (0, .none)
    | some (n, rest) =>
      let value : Int := if negative then -Int.ofNat n else Int.ofNat n
      let (low, high) : Int × Int :=
        if unsigned then (1 - (Formula.wordCount : Int), Formula.wordCount - 1)
          else (-Formula.greatest - 1, Formula.greatest)
      if value < low then (low, .tooGreat)
      else if high < value then (high, .tooGreat)
      else (value, if rest.isEmpty then .whole else .begins)

/-- The decimal number that begins some characters, as digits and an exponent, and the rest. -/
def splitDecimal (cs : List Char) : Option (Nat × Int × List Char) :=
  let whole := cs.takeWhile Char.isDigit
  let rest := cs.drop whole.length
  let (fraction, rest) := match rest with
    | '.' :: more =>
      let digits := more.takeWhile Char.isDigit
      (digits, more.drop digits.length)
    | rest => ([], rest)
  if whole.isEmpty && fraction.isEmpty then none
  else
    let (exponent, rest) : Int × List Char := match rest with
      | e :: more =>
        if e = 'e' ∨ e = 'E' then
          let (negative, cs) := match more with
            | '-' :: cs => (true, cs)
            | '+' :: cs => (false, cs)
            | cs => (false, cs)
          let digits := cs.takeWhile Char.isDigit
          if digits.isEmpty then (0, rest)
          else (Numeral.signed negative (Numeral.ofDigits digits), cs.drop digits.length)
        else (0, rest)
      | [] => (0, rest)
    some (Numeral.ofDigits (whole ++ fraction), exponent - fraction.length, rest)

/-- The ratio for digits and an exponent. The shell rounds it to 53 bits. -/
def ratioOf (dialect : Dialect) (negative : Bool) (digits : Nat) (exponent : Int) : Decimal :=
  if dialect = .shell then
    match Binary64.ofDecimal negative digits exponent with
    | .finite negative units => .ratio negative units (Nat.pow 2 Binary64.unitBits)
    | .infinite negative => .special negative "inf"
    | .nan => .special negative "nan"
  else if exponent < 0 then .ratio negative digits (Nat.pow 10 (-exponent).toNat)
  else .ratio negative (digits * Nat.pow 10 exponent.toNat) 1

/-- The decimal number that an argument is, or begins with. -/
def readDecimal (dialect : Dialect) (text : String) : Decimal × Fit :=
  match text.toList, quotedCode? dialect text.toList with
  | [], _ => (.ratio false 0 1, .whole)
  | _, some code => (.ratio false code 1, .whole)
  | cs, none =>
    let (negative, cs) := splitSign cs
    let fit (rest : List Char) : Fit := if rest.isEmpty then .whole else .begins
    let lower := String.ofList (cs.map Char.toLower)
    match cs with
    | '0' :: x :: _ =>
      if x = 'x' ∨ x = 'X' then
        match Formula.splitNumber cs with
        | some (n, rest) => (.ratio negative n 1, fit rest)
        | none => (.ratio negative 0 1, .none)
      else decimal negative cs
    | cs =>
      if lower = "inf" ∨ lower = "infinity" then (.special negative "inf", .whole)
      else if lower = "nan" then (.special negative "nan", .whole)
      else decimal negative cs
where
  /-- The decimal number that begins some characters. -/
  decimal (negative : Bool) (cs : List Char) : Decimal × Fit :=
    match splitDecimal cs with
    | some (digits, exponent, rest) =>
      (ratioOf dialect negative digits exponent, if rest.isEmpty then .whole else .begins)
    | none => (.ratio false 0 1, .none)

/-- A text in quotes that curl around it. -/
def curled (text : String) : String := Octets.ofText "‘" ++ text ++ Octets.ofText "’"

/-- What printing by a format gives. -/
structure Printed where
  /-- The pieces of the output, the last first. -/
  pieces : List String := []
  /-- The complaints. -/
  complaints : List String := []
  /-- The arguments that are left. -/
  args : List String
  /-- Whether output has ended. -/
  stopped : Bool := false
  /-- Whether the format itself is at fault. -/
  refused : Bool := false

namespace Printed

/-- Print a text. -/
def add (printed : Printed) (text : String) : Printed :=
  { printed with pieces := text :: printed.pieces }

/-- Complain. -/
def complain (printed : Printed) (words : String) : Printed :=
  { printed with complaints := printed.complaints ++ [words] }

/-- Take an argument; an empty one if none is left. -/
def take (printed : Printed) : String × Printed :=
  (printed.args.headD "", { printed with args := printed.args.drop 1 })

/-- The output. -/
def text (printed : Printed) : String := String.join printed.pieces.reverse

/-- Complain of an argument that is no number. -/
def judge (dialect : Dialect) (printed : Printed) (arg : String) (fit : Fit) : Printed :=
  let quoted := if dialect = .program then curled arg else arg
  match dialect, fit with
  | _, .whole => printed
  | .shell, .begins => printed.complain (arg ++ ": not completely converted")
  | .program, .begins => printed.complain (quoted ++ ": value not completely converted")
  | .shell, .none => printed.complain (arg ++ ": expected numeric value")
  | .program, .none => printed.complain (quoted ++ ": expected a numeric value")
  | _, .tooGreat => printed.complain (quoted ++ ": Numerical result out of range")

end Printed

/-- A text in quotes that a shell reads back. -/
def shellQuoted (text : String) : String :=
  let isPlain (c : Char) : Bool := c.isAlphanum || "%+,-./:=@_".toList.contains c
  if text = "" then "''"
  else if text.toList.all isPlain then text
  else if text.toList.contains '\'' && !text.toList.contains '"' then "\"" ++ text ++ "\""
  else "'" ++ String.join (text.toList.map fun c =>
    if c = '\'' then "'\\''" else String.singleton c) ++ "'"

/-- Print an argument at a place. -/
def fill (dialect : Dialect) (printed : Printed) (directive : Directive) : Printed :=
  let cut (text : String) : String :=
    match directive.precision with
    | some n => String.ofList (text.toList.take n)
    | none => text
  let (arg, printed) := printed.take
  match directive.letter with
  | 's' => printed.add (directive.pad (cut arg))
  | 'b' =>
    let (text, stop) := escapedText dialect arg
    { printed.add (directive.pad (cut text)) with stopped := stop }
  | 'c' => printed.add (directive.pad (String.singleton (arg.toList.headD '\x00')))
  | 'q' => printed.add (directive.pad (cut (shellQuoted arg)))
  | letter =>
    if "feEgGF".toList.contains letter then
      let (value, fit) := readDecimal dialect arg
      (printed.add (directive.decimal value)).judge dialect arg fit
    else
      let (n, fit) := readWhole dialect (letter ≠ 'd' && letter ≠ 'i') arg
      (printed.add (directive.whole n)).judge dialect arg fit

/-- The letters of places. -/
def letters : Dialect → List Char
  | .shell => "sbcdiouxXfeEgGF".toList
  | .program => "sbcdiouxXfeEgGFq".toList

/-- A count at a place: digits, or a star for an argument. -/
def readCount (printed : Printed) (cs : List Char) : Int × Printed × List Char :=
  match cs with
  | '*' :: rest =>
    let (arg, printed) := printed.take
    ((readWhole .shell false arg).1, printed, rest)
  | cs =>
    let digits := cs.takeWhile Char.isDigit
    (Int.ofNat (Numeral.ofDigits digits), printed, cs.drop digits.length)

/-- Print at the place whose percent sign is read; what follows the place is given back. -/
def readPlace (dialect : Dialect) (printed : Printed) (cs : List Char) : Printed × List Char :=
  let flags := cs.takeWhile "-+ #0".toList.contains
  let (width, printed, rest) := readCount printed (cs.drop flags.length)
  let flags := if width < 0 then '-' :: flags else flags
  let (precision, printed, rest) : Option Int × Printed × List Char := match rest with
    | '.' :: rest =>
      let (n, printed, rest) := readCount printed rest
      (some n, printed, rest)
    | rest => (none, printed, rest)
  let rest := if dialect = .program then rest.dropWhile "hlLjzt".toList.contains else rest
  match rest with
  | letter :: after =>
    if (letters dialect).contains letter then
      (fill dialect printed ⟨flags, width.natAbs,
        precision.bind fun n => if n < 0 then none else some n.toNat, letter⟩, after)
    else
      let place := "%" ++ String.ofList (cs.take (cs.length - after.length))
      let words := if dialect = .program then ": invalid conversion specification"
        else ": invalid directive"
      ({ printed.complain (place ++ words) with stopped := true, refused := true }, after)
  | [] =>
    let words := if dialect = .program then "%: invalid conversion specification"
      else "missing format character"
    ({ printed.complain words with stopped := true, refused := true }, [])

/-- Print by a format once. The fuel is more than the length of the format. -/
def once (dialect : Dialect) : Nat → List Char → Printed → Printed
  | 0, _, printed => printed
  | _, [], printed => printed
  | fuel + 1, '\\' :: rest, printed =>
    if dialect = .program && rest.head? = some 'c' then { printed with stopped := true }
    else
      let (text, rest) := readEscape dialect 3 rest
      once dialect fuel rest (printed.add (String.ofList text))
  | fuel + 1, '%' :: '%' :: rest, printed => once dialect fuel rest (printed.add "%")
  | fuel + 1, '%' :: rest, printed =>
    let (printed, rest) := readPlace dialect printed rest
    if printed.stopped then printed else once dialect fuel rest printed
  | fuel + 1, c :: rest, printed => once dialect fuel rest (printed.add (String.singleton c))

/-- Print by a format again and again while it uses up arguments. The fuel is more than the number
    of arguments. -/
def again (dialect : Dialect) (format : List Char) : Nat → Printed → Printed
  | 0, printed => printed
  | fuel + 1, printed =>
    let next := once dialect (format.length + 1) format printed
    if next.stopped || next.args.isEmpty || next.args.length = printed.args.length then next
    else again dialect format fuel next

/-- Print arguments by a format. -/
def print (dialect : Dialect) (format : String) (args : List String) : Printed :=
  again dialect format.toList (args.length + 1) { args := args }

end ContractBench.Shell.Format
