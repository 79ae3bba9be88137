import ContractBench.Shell.Format
import ContractBench.Shell.Program.Excerpt
import ContractBench.Shell.Regex
import ContractBench.Shell.Test

/-! # Programs that work out values

Programs that write a value worked out from their arguments alone: of a formula, a series of
numbers, a part of a path, a text by a format, or the truth of a test.
-/

namespace ContractBench.Shell.Program

/-- Why a row of arguments has no value. -/
inductive ExprFault where
  /-- An argument stands where it may not. -/
  | unexpected (arg : String)
  /-- An argument is missing behind another. -/
  | missing (arg : String)
  /-- A parenthesis is not closed. -/
  | unclosed (arg : String)
  /-- An argument is no whole number. -/
  | notNumber
  /-- A number is divided by zero. -/
  | zeroDivisor
  /-- An expression cannot be read. -/
  | pattern (fault : Regex.Fault)

/-- The words for a fault. -/
def ExprFault.message : ExprFault → String
  | .unexpected arg => "syntax error: unexpected argument " ++ curled arg
  | .missing arg => "syntax error: missing argument after " ++ curled arg
  | .unclosed arg => "syntax error: expecting ')' after " ++ curled arg
  | .notNumber => "non-integer argument"
  | .zeroDivisor => "division by zero"
  | .pattern fault => fault.message

/-- A value, the argument that was read last, and the arguments that are left. -/
abbrev ExprReading := Except ExprFault (String × String × List String)

/-- Whether a value stands for falsehood: nothing, or zero. -/
def isNull (text : String) : Bool :=
  let cs := text.toList
  let body := match cs with
    | '-' :: rest => rest
    | cs => cs
  cs.isEmpty || (!body.isEmpty && body.all (· = '0'))

/-- The whole number that a value is. -/
def exprNumber? (text : String) : Option Int :=
  match text.toList with
  | '-' :: digits =>
    if digits.isEmpty || !digits.all Char.isDigit then none
    else some (-(Numeral.ofDigits digits : Int))
  | digits =>
    if digits.isEmpty || !digits.all Char.isDigit then none
    else some (Numeral.ofDigits digits)

/-- The value of two numbers joined by a sign. -/
def joinNumbers (sign a b : String) : Except ExprFault String :=
  match exprNumber? a, exprNumber? b with
  | some m, some n =>
    match sign with
    | "+" => .ok (toString (m + n))
    | "-" => .ok (toString (m - n))
    | "*" => .ok (toString (m * n))
    | "/" => if n = 0 then .error .zeroDivisor else .ok (toString (Int.tdiv m n))
    | _ => if n = 0 then .error .zeroDivisor else .ok (toString (Int.tmod m n))
  | _, _ => .error .notNumber

/-- The value of a comparison, of numbers if both values are numbers. -/
def compareValues (sign a b : String) : String :=
  let order := match exprNumber? a, exprNumber? b with
    | some m, some n => compare m n
    | _, _ => compare a b
  let holds : Bool := match sign with
    | "<" => order = .lt
    | "<=" => order ≠ .gt
    | "=" => order = .eq
    | "==" => order = .eq
    | "!=" => order ≠ .eq
    | ">" => order = .gt
    | _ => order ≠ .lt
  if holds then "1" else "0"

/-- The part of a text that an expression takes from its start: that of its first group, or else its
    length. -/
def matchValue (text pattern : String) : Except ExprFault String :=
  match Regex.read { extended := false } (Octets.wide pattern) with
  | .error fault => .error (.pattern fault)
  | .ok regex =>
    let subject : Regex.Subject := { text := (Octets.characters text.toList).toArray }
    match regex.matchAt? subject 0 with
    | some found =>
      .ok (if regex.groups = 0 then toString found.stop
        else Octets.narrow (found.part subject 1))
    | none => .ok (if regex.groups = 0 then "0" else "")

/-- The signs between values, those that bind least first. -/
def exprLevels : List (List String) :=
  [["|"], ["&"], ["<", "<=", "=", "==", "!=", ">=", ">"], ["+", "-"], ["*", "/", "%"], [":"]]

/-- The value of two values joined by a sign. -/
def joinValues (sign a b : String) : Except ExprFault String :=
  match sign with
  | "|" => .ok (if !isNull a then a else if !isNull b then b else "0")
  | "&" => .ok (if isNull a || isNull b then "0" else a)
  | ":" => matchValue a b
  | sign =>
    if ["+", "-", "*", "/", "%"].contains sign then joinNumbers sign a b
    else .ok (compareValues sign a b)

/-- The characters of a text from a place on, so many of them; both count from one. -/
def substring (text : String) (start length : Int) : String :=
  if start ≤ 0 || length ≤ 0 then ""
  else
    let cs := Octets.characters text.toList
    Octets.narrow (String.ofList ((cs.drop (start.toNat - 1)).take length.toNat))

mutual
/-- Read values joined by the signs of some levels. The fuel is more than seven times the number of
    arguments. -/
def readExpr : Nat → List (List String) → String → List String → ExprReading
  | 0, _, last, _ => .error (.missing last)
  | fuel + 1, [], last, args => readExprValue fuel last args
  | fuel + 1, level :: levels, last, args => do
    let (a, last, rest) ← readExpr fuel levels last args
    readExprTail fuel level levels a last rest

/-- Read what signs of a level join to a value. -/
def readExprTail : Nat → List String → List (List String) → String → String → List String →
    ExprReading
  | 0, _, _, a, last, rest => .ok (a, last, rest)
  | _, _, _, a, last, [] => .ok (a, last, [])
  | fuel + 1, level, levels, a, last, sign :: rest =>
    if level.contains sign then do
      let (b, last, rest) ← readExpr fuel levels sign rest
      let value ← joinValues sign a b
      readExprTail fuel level levels value last rest
    else .ok (a, last, sign :: rest)

/-- Read one value. -/
def readExprValue : Nat → String → List String → ExprReading
  | 0, last, _ => .error (.missing last)
  | _, last, [] => .error (.missing last)
  | fuel + 1, _, arg :: rest =>
    match arg, rest with
    | "(", rest => do
      let (value, last, rest) ← readExpr fuel exprLevels "(" rest
      match rest with
      | ")" :: rest => return (value, ")", rest)
      | [] => throw (.unclosed last)
      | other :: _ => throw (.unexpected other)
    | ")", _ => .error (.unexpected ")")
    | "+", word :: rest => .ok (word, word, rest)
    | "length", rest => do
      let (text, last, rest) ← readExprValue fuel "length" rest
      return (toString (Octets.wide text).length, last, rest)
    | "match", rest => do
      let (text, last, rest) ← readExprValue fuel "match" rest
      let (pattern, last, rest) ← readExprValue fuel last rest
      return (← matchValue text pattern, last, rest)
    | "index", rest => do
      let (text, last, rest) ← readExprValue fuel "index" rest
      let (wanted, last, rest) ← readExprValue fuel last rest
      let wanted := Octets.characters wanted.toList
      let place := ((Octets.characters text.toList).findIdx? wanted.contains).elim 0 (· + 1)
      return (toString place, last, rest)
    | "substr", rest => do
      let (text, last, rest) ← readExprValue fuel "substr" rest
      let (start, last, rest) ← readExprValue fuel last rest
      let (length, last, rest) ← readExprValue fuel last rest
      match exprNumber? start, exprNumber? length with
      | some start, some length => return (substring text start length, last, rest)
      | _, _ => return ("", last, rest)
    | word, rest => .ok (word, word, rest)
end

/-- Write the value of a formula. -/
def expr : Program := fun _ name args => do
  let args := if args.head? = some "--" then args.drop 1 else args
  if args.isEmpty then missingOperand name 2
  else
    match readExpr (8 * args.length + 16) exprLevels "" args with
    | .error fault => refuse name fault.message 2
    | .ok (_, _, extra :: _) => refuse name (ExprFault.unexpected extra).message 2
    | .ok (value, _, []) =>
      Act.print (value ++ "\n")
      return if isNull value then 1 else 0

/-- A decimal number: a whole number over a power of ten. -/
structure DecimalNumber where
  /-- The digits as a whole number. -/
  digits : Int
  /-- How many of the digits stand behind the point. -/
  places : Nat

/-- The decimal number that a text is. -/
def decimalNumber? (text : String) : Option DecimalNumber :=
  let (negative, body) := Numeral.splitSign text.toList
  let whole := body.takeWhile Char.isDigit
  let fraction? := match body.drop whole.length with
    | [] => some []
    | '.' :: rest => if rest.all Char.isDigit then some rest else none
    | _ => none
  match fraction? with
  | none => none
  | some fraction =>
    if whole.isEmpty && fraction.isEmpty then none
    else some ⟨Numeral.signed negative (Numeral.ofDigits (whole ++ fraction)), fraction.length⟩

/-- The digits of a number with more places behind the point. -/
def DecimalNumber.scaled (n : DecimalNumber) (places : Nat) : Int :=
  n.digits * Nat.pow 10 (places - n.places)

/-- The text of a whole number over a power of ten. -/
def decimalText (places : Nat) (n : Int) : String :=
  (if n < 0 then "-" else "") ++ Places.withPoint places false (toString n.natAbs)

/-- Numbers from one on by steps up to another, a limited number of them. -/
def series (step last : Int) : Nat → Int → List Int
  | 0, _ => []
  | limit + 1, n =>
    if (0 < step && last < n) || (step < 0 && n < last) then []
    else n :: series step last limit (n + step)

/-- Whether an argument is a number below zero. -/
def isNegativeNumber (arg : String) : Bool :=
  arg.startsWith "-" && (decimalNumber? arg).isSome

/-- Write a series of numbers. -/
def seq : Program := fun _ name args => do
  let options := args.takeWhile (!isNegativeNumber ·)
  let known : Options :=
    { flags := "w"
      valued := "sf"
      anywhere := false
      long := [("separator", 's'), ("equal-width", 'w'), ("format", 'f')] }
  withOptions known name options 1 fun parsed => do
    let words := parsed.operands ++ args.drop options.length
    let bad := words.find? fun word => (decimalNumber? word).isNone
    match bad, words.filterMap decimalNumber? with
    | some word, _ => misuse name ("invalid floating point argument: " ++ curled word) 1
    | none, [] => missingOperand name 1
    | none, _ :: _ :: _ :: _ :: _ =>
      misuse name ("extra operand " ++ curled ((words[3]?).getD "")) 1
    | none, numbers =>
      let one : DecimalNumber := ⟨1, 0⟩
      let (first, step, last) := match numbers with
        | [last] => (one, one, last)
        | [first, last] => (first, one, last)
        | first :: step :: last :: _ => (first, step, last)
        | [] => (one, one, one)
      if step.digits = 0 then
        misuse name ("invalid Zero increment value: " ++ curled ((words[1]?).getD "")) 1
      else
        let shownPlaces := max first.places step.places
        let places := max shownPlaces last.places
        let found := series (step.scaled places) (last.scaled places) 1000000 (first.scaled places)
        let texts := found.map fun n =>
          decimalText shownPlaces (Int.tdiv n (Nat.pow 10 (places - shownPlaces)))
        let width := texts.foldl (fun most text => max most text.length) 0
        let padded (text : String) : String :=
          if !parsed.has 'w' then text
          else if text.startsWith "-" then
            "-" ++ Places.zeroPadded (width - 1) (String.ofList (text.toList.drop 1))
          else Places.zeroPadded width text
        let formatted (text : String) : String :=
          match parsed.value? 'f' with
          | some format => (Format.print .program format [text]).text
          | none => padded text
        let separator := (parsed.value? 's').getD "\n"
        if !texts.isEmpty then
          Act.print (separator.intercalate (texts.map formatted) ++ "\n")
        return 0

/-- A path without slashes at its end. -/
def withoutSlashes (path : String) : String :=
  String.ofList (path.toList.reverse.dropWhile (· = '/')).reverse

/-- The last name of a path. -/
def lastName (path : String) : String :=
  let trimmed := withoutSlashes path
  if trimmed = "" then (if path = "" then "" else "/")
  else String.ofList (trimmed.toList.reverse.takeWhile (· ≠ '/')).reverse

/-- A path without its last name. -/
def parentPath (path : String) : String :=
  let trimmed := withoutSlashes path
  if trimmed = "" then (if path = "" then "." else "/")
  else
    let rest := (trimmed.toList.reverse.dropWhile (· ≠ '/')).reverse
    if rest.isEmpty then "."
    else
      let parent := withoutSlashes (String.ofList rest)
      if parent = "" then "/" else parent

/-- A text without an ending, unless nothing else is left. -/
def withoutEnding (ending text : String) : String :=
  if text ≠ ending && ending ≠ "" && text.endsWith ending then
    String.ofList (text.toList.take (text.length - ending.length))
  else text

/-- Write the last names of paths. -/
def basename : Program := fun _ name args =>
  withOptions { flags := "az", valued := "s", anywhere := false, long := [("multiple", 'a'),
    ("suffix", 's')] } name args 1 fun parsed => do
    let many := parsed.has 'a' || parsed.has 's'
    let write (ending path : String) : Act Unit :=
      Act.print (withoutEnding ending (lastName path) ++ "\n")
    match many, parsed.operands with
    | _, [] => missingOperand name 1
    | true, paths =>
      paths.forM (write ((parsed.value? 's').getD ""))
      return 0
    | false, [path] =>
      write "" path
      return 0
    | false, [path, ending] =>
      write ending path
      return 0
    | false, _ :: _ :: extra :: _ => misuse name ("extra operand " ++ curled extra) 1

/-- Write paths without their last names. -/
def dirname : Program := fun _ name args =>
  withOptions { flags := "z" } name args 1 fun parsed => do
    if parsed.operands.isEmpty then missingOperand name 1
    else
      parsed.operands.forM fun path => Act.print (parentPath path ++ "\n")
      return 0

/-- The leading arguments that are options of the program that echoes, and the others. -/
def echoOptions : List String → String × List String
  | [] => ("", [])
  | arg :: rest =>
    match arg.toList with
    | '-' :: c :: letters =>
      if (c :: letters).all "neE".toList.contains then
        let (more, rest) := echoOptions rest
        (String.ofList (c :: letters) ++ more, rest)
      else ("", arg :: rest)
    | _ => ("", arg :: rest)

/-- Write arguments. -/
def echo : Program := fun _ _ args => do
  let (letters, words) := echoOptions args
  let text := " ".intercalate words
  let last := letters.toList.reverse.find? fun c => c = 'e' || c = 'E'
  let (text, stopped) :=
    if last = some 'e' then Format.escapedText .program text else (text, false)
  Act.print (text ++ if letters.toList.contains 'n' || stopped then "" else "\n")
  return 0

/-- Write arguments by a format. -/
def printf : Program := fun _ name args => do
  match if args.head? = some "--" then args.drop 1 else args with
  | [] => missingOperand name 1
  | format :: args =>
    let printed := Format.print .program format args
    Act.print printed.text
    printed.complaints.forM (complain name)
    return if printed.complaints.isEmpty then 0 else 1

/-- The truth of a test, or its refusal. -/
def testValue (name : String) (words : List String) : Act Nat := do
  Act.setProcess fun process => { process with utility := some name }
  match ← Act.observe (Test.holds words) with
  | .ok holds => return if holds then 0 else 1
  | .error _ => return 2

/-- Tell whether a test holds. -/
def test : Program := fun _ name args => testValue name args

/-- Tell whether a test in brackets holds. -/
def bracketTest : Program := fun _ name args =>
  if args.getLast? = some "]" then testValue name args.dropLast
  else refuse name ("missing " ++ curled "]") 2

/-- How many lines are written by the program that never ends by itself. -/
def manyLines : Nat := 16384

/-- Write a line again and again. -/
def yes : Program := fun _ _ args => do
  let line := (if args.isEmpty then "y" else " ".intercalate args) ++ "\n"
  Act.print (String.join (List.replicate manyLines line))
  return 0

end ContractBench.Shell.Program
