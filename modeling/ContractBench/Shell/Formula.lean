/-! # Formulas of shell scripts

A formula has a whole number of 64 bits as its value: numbers and variables, joined by signs that
bind more or less tightly, choices, and settings of variables. `Formula.read` reads one and
`Formula.value` gives its value in a scope.
-/

namespace ContractBench.Shell

/-- A formula. -/
inductive Formula where
  /-- A number. -/
  | number (n : Int)
  /-- The value of a variable. -/
  | named (name : String)
  /-- A value behind a sign. -/
  | unary (sign : String) (a : Formula)
  /-- Two values joined by a sign. -/
  | binary (sign : String) (a b : Formula)
  /-- Whether both hold; the second counts only if the first holds. -/
  | both (a b : Formula)
  /-- Whether one holds; the second counts only if the first does not hold. -/
  | either (a b : Formula)
  /-- One of two values. -/
  | choice (test yes no : Formula)
  /-- Set a variable to a value, or to its own joined with it by a sign. -/
  | setting (name : String) (sign : Option String) (a : Formula)
  deriving Repr, DecidableEq

namespace Formula

/-- Why a formula has no value. -/
inductive Fault where
  /-- There is no value where one must be. -/
  | noValue
  /-- Something follows the formula. -/
  | notEnded
  /-- A parenthesis is not closed. -/
  | openParenthesis
  /-- A choice has no second value. -/
  | openChoice
  /-- Something is divided by zero. -/
  | dividedByZero
  deriving Repr, DecidableEq

/-- The words for a fault of a formula in some text. -/
def Fault.message (text : String) (fault : Fault) : String :=
  let words := match fault with
    | .noValue => "expecting primary"
    | .notEnded => "expecting EOF"
    | .openParenthesis => "expecting ')'"
    | .openChoice => "expecting ':'"
    | .dividedByZero => "division by zero"
  "arithmetic expression: " ++ words ++ ": \"" ++ text ++ "\""

/-- A token of a formula. -/
inductive Part where
  /-- A number. -/
  | number (n : Int)
  /-- A name. -/
  | name (text : String)
  /-- A sign, or a character that is none. -/
  | sign (text : String)
  deriving Repr, DecidableEq

/-- How many numbers of 64 bits there are. -/
def wordCount : Nat := Nat.pow 2 64

/-- The greatest number. -/
def greatest : Int := wordCount / 2 - 1

/-- A number of 64 bits. -/
def wrap (n : Int) : Int := Int.bmod n wordCount

/-- A number that is too great or too small, brought back to the limit it passes. -/
def clamp (n : Int) : Int := max (-greatest - 1) (min greatest n)

/-- The value of a digit of any base. -/
def digit (c : Char) : Nat :=
  if c.isDigit then c.toNat - 48
  else if 'a' ≤ c ∧ c ≤ 'z' then c.toNat - 87
  else if 'A' ≤ c ∧ c ≤ 'Z' then c.toNat - 55
  else 99

/-- Split off the digits of a base. -/
def splitDigits (base : Nat) (cs : List Char) : Nat × Nat × List Char :=
  let digits := cs.takeWhile fun c => digit c < base
  (digits.foldl (fun n c => base * n + digit c) 0, digits.length, cs.drop digits.length)

/-- Split off a number without a sign: hexadecimal behind `0x`, octal behind `0`, and decimal. -/
def splitNumber (cs : List Char) : Option (Nat × List Char) :=
  let plain :=
    let (n, count, rest) := splitDigits (if cs.head? = some '0' then 8 else 10) cs
    if count = 0 then none else some (n, rest)
  match cs with
  | '0' :: x :: rest =>
    if x = 'x' ∨ x = 'X' then
      let (n, count, after) := splitDigits 16 rest
      if count = 0 then plain else some (n, after)
    else plain
  | _ => plain

/-- The number that a text is, between blanks; none for a text that is no number. -/
def readNumber? (text : String) : Option Int :=
  let isBlank (c : Char) : Bool := c = ' ' || (9 ≤ c.toNat && c.toNat ≤ 13)
  let cs := text.toList.dropWhile isBlank
  let (negative, cs) := match cs with
    | '-' :: rest => (true, rest)
    | '+' :: rest => (false, rest)
    | cs => (false, cs)
  (splitNumber cs).bind fun (n, rest) =>
    if (rest.dropWhile isBlank).isEmpty then
      some (clamp (if negative then -Int.ofNat n else Int.ofNat n))
    else none

/-- The signs, the longer ones first. -/
def signs : List String :=
  ["<<=", ">>=", "||", "&&", "==", "!=", "<=", ">=", "<<", ">>", "+=", "-=", "*=", "/=", "%=",
   "&=", "^=", "|=", "=", "<", ">", "|", "^", "&", "+", "-", "*", "/", "%", "!", "~", "(", ")",
   "?", ":"]

/-- Cut a formula into its parts. The fuel is more than the number of characters. -/
def parts : Nat → List Char → List Part
  | 0, _ => []
  | _, [] => []
  | fuel + 1, c :: rest =>
    if c = ' ' ∨ c = '\t' ∨ c = '\n' then parts fuel rest
    else if c.isDigit then
      match splitNumber (c :: rest) with
      | some (n, rest) => .number (clamp (Int.ofNat n)) :: parts fuel rest
      | none => [.sign "0"]
    else if c.isAlpha ∨ c = '_' then
      let name := (c :: rest).takeWhile fun c => c.isAlphanum || c = '_'
      .name (String.ofList name) :: parts fuel ((c :: rest).drop name.length)
    else
      match signs.find? fun sign => sign.toList.isPrefixOf (c :: rest) with
      | some sign => .sign sign :: parts fuel ((c :: rest).drop sign.length)
      | none => .sign (String.singleton c) :: parts fuel rest

/-- The signs that join two values, by how tightly they bind, the loosest first. -/
def levels : List (List String) :=
  [["|"], ["^"], ["&"], ["==", "!="], ["<=", ">=", "<", ">"], ["<<", ">>"], ["+", "-"],
   ["*", "/", "%"]]

/-- The sign that joins a variable's own value to the one it is set to. -/
def settingSign? (sign : String) : Option (Option String) :=
  if sign = "=" then some none
  else if ["<<=", ">>=", "+=", "-=", "*=", "/=", "%=", "&=", "^=", "|="].contains sign then
    some (some (String.ofList sign.toList.dropLast))
  else none

/-- A formula and the parts that follow it, or why there is none. -/
abbrev Reading := Except Fault (Formula × List Part)

mutual
/-- Read a formula that may set a variable. The fuel is more than the number of steps, of which
    each part takes no more than twelve. -/
def readSetting : Nat → List Part → Reading
  | 0, _ => .error .noValue
  | fuel + 1, .name name :: .sign sign :: rest =>
    match settingSign? sign with
    | some own => (readSetting fuel rest).map fun (a, rest) => (.setting name own a, rest)
    | none => readChoice fuel (.name name :: .sign sign :: rest)
  | fuel + 1, parts => readChoice fuel parts

/-- Read a formula that may be a choice. -/
def readChoice : Nat → List Part → Reading
  | 0, _ => .error .noValue
  | fuel + 1, parts => do
    match ← readEither fuel parts with
    | (test, .sign "?" :: rest) =>
      match ← readSetting fuel rest with
      | (yes, .sign ":" :: rest) =>
        let (no, rest) ← readChoice fuel rest
        return (.choice test yes no, rest)
      | _ => .error .openChoice
    | found => return found

/-- Read formulas of which one must hold. -/
def readEither : Nat → List Part → Reading
  | 0, _ => .error .noValue
  | fuel + 1, parts => do
    match ← readBoth fuel parts with
    | (a, .sign "||" :: rest) =>
      let (b, rest) ← readEither fuel rest
      return (.either a b, rest)
    | found => return found

/-- Read formulas that must all hold. -/
def readBoth : Nat → List Part → Reading
  | 0, _ => .error .noValue
  | fuel + 1, parts => do
    match ← readLevel fuel levels parts with
    | (a, .sign "&&" :: rest) =>
      let (b, rest) ← readBoth fuel rest
      return (.both a b, rest)
    | found => return found

/-- Read values joined by signs that bind as tightly as some levels. -/
def readLevel : Nat → List (List String) → List Part → Reading
  | 0, _, _ => .error .noValue
  | fuel + 1, [], parts => readValue fuel parts
  | fuel + 1, level :: levels, parts => do
    let (a, rest) ← readLevel fuel levels parts
    readTail fuel level levels a rest

/-- Read the values that signs of a level join to one. -/
def readTail : Nat → List String → List (List String) → Formula → List Part → Reading
  | 0, _, _, _, _ => .error .noValue
  | fuel + 1, level, levels, a, .sign sign :: rest =>
    if level.contains sign then do
      let (b, rest) ← readLevel fuel levels rest
      readTail fuel level levels (.binary sign a b) rest
    else .ok (a, .sign sign :: rest)
  | _, _, _, a, rest => .ok (a, rest)

/-- Read a number, a variable, a formula in parentheses, or one of these behind a sign. -/
def readValue : Nat → List Part → Reading
  | 0, _ => .error .noValue
  | _, .number n :: rest => .ok (.number n, rest)
  | _, .name name :: rest => .ok (.named name, rest)
  | fuel + 1, .sign "(" :: rest => do
    match ← readSetting fuel rest with
    | (a, .sign ")" :: rest) => return (a, rest)
    | _ => .error .openParenthesis
  | fuel + 1, .sign sign :: rest =>
    if ["+", "-", "!", "~"].contains sign then
      (readValue fuel rest).map fun (a, rest) => (.unary sign a, rest)
    else .error .noValue
  | _, [] => .error .noValue
end

/-- Read a formula. -/
def read (text : String) : Except Fault Formula :=
  let parts := parts (text.length + 1) text.toList
  match readSetting (16 * parts.length + 32) parts with
  | .ok (formula, []) => .ok formula
  | .ok _ => .error .notEnded
  | .error fault => .error fault

/-- The number for a truth value. -/
def truth (holds : Bool) : Int := if holds then 1 else 0

/-- The bits of a number. -/
def bits (n : Int) : BitVec 64 := BitVec.ofInt 64 n

/-- The value of two joined values; there is none when something is divided by zero. -/
def join (sign : String) (a b : Int) : Option Int :=
  match sign with
  | "|" => some (bits a ||| bits b).toInt
  | "^" => some (bits a ^^^ bits b).toInt
  | "&" => some (bits a &&& bits b).toInt
  | "==" => some (truth (a = b))
  | "!=" => some (truth (a ≠ b))
  | "<=" => some (truth (a ≤ b))
  | ">=" => some (truth (a ≥ b))
  | "<" => some (truth (a < b))
  | ">" => some (truth (a > b))
  | "<<" => some (bits a <<< ((bits b).toNat % 64)).toInt
  | ">>" => some ((bits a).sshiftRight ((bits b).toNat % 64)).toInt
  | "+" => some (wrap (a + b))
  | "-" => some (wrap (a - b))
  | "*" => some (wrap (a * b))
  | "/" => if b = 0 then none else some (wrap (Int.tdiv a b))
  | "%" => if b = 0 then none else some (Int.tmod a b)
  | _ => none

/-- The value of a value behind a sign. -/
def behind (sign : String) (a : Int) : Int :=
  match sign with
  | "-" => wrap (-a)
  | "!" => truth (a = 0)
  | "~" => -a - 1
  | _ => a

/-- Where formulas have values. -/
structure Scope (m : Type → Type) where
  /-- The value of a variable. -/
  get : String → m Int
  /-- Set a variable. -/
  set : String → Int → m Unit
  /-- Give up. -/
  fail : Fault → m Int

/-- The value of a formula in a scope. -/
def value {m : Type → Type} [Monad m] (scope : Scope m) : Formula → m Int
  | .number n => pure n
  | .named name => scope.get name
  | .unary sign a => do return behind sign (← value scope a)
  | .binary sign a b => do
    let m ← value scope a
    let n ← value scope b
    match join sign m n with
    | some k => return k
    | none => scope.fail .dividedByZero
  | .both a b => do
    if (← value scope a) = 0 then return 0
    else return truth ((← value scope b) ≠ 0)
  | .either a b => do
    if (← value scope a) ≠ 0 then return 1
    else return truth ((← value scope b) ≠ 0)
  | .choice test yes no => do
    if (← value scope test) ≠ 0 then value scope yes else value scope no
  | .setting name sign a => do
    let n ← value scope a
    let result ← match sign with
      | none => pure n
      | some sign => do
        let own ← scope.get name
        match join sign own n with
        | some k => pure k
        | none => scope.fail .dividedByZero
    scope.set name result
    return result

end Formula

end ContractBench.Shell
