import ContractBench.Number.Numeral
import ContractBench.Shell.Expansion

/-! # Tests of shell scripts

A test says whether something holds of texts, numbers and files. Its words are read from the front:
what one word means hangs on those that follow it.
-/

namespace ContractBench.Shell.Test

/-- The signs before one word. -/
def unarySigns : List String :=
  ["-n", "-z", "-e", "-f", "-d", "-r", "-w", "-x", "-s", "-t", "-h", "-L", "-c", "-b", "-p", "-S",
   "-u", "-g", "-k", "-O", "-G"]

/-- The signs between two words. -/
def binarySigns : List String :=
  ["=", "!=", "<", ">", "-eq", "-ne", "-lt", "-le", "-gt", "-ge", "-nt", "-ot", "-ef"]

/-- What a word means where a value may begin. -/
inductive Meaning where
  /-- No word is there. -/
  | finish
  /-- A word without a meaning of its own. -/
  | plain
  /-- An opening parenthesis. -/
  | opens
  /-- A sign before one word. -/
  | unary
  /-- A sign that turns a test around. -/
  | negation
  deriving Repr, DecidableEq

/-- Whether a sign before one word is but a word, given the words behind it. -/
def isOperand (rest : List String) : Bool :=
  match rest with
  | [] => true
  | [_] => false
  | next :: _ => binarySigns.contains next

/-- What the first of some words means. -/
def meaning : List String → Meaning
  | [] => .finish
  | word :: rest =>
    if unarySigns.contains word then if isOperand rest then .plain else .unary
    else if word = "!" then if rest.isEmpty then .plain else .negation
    else if word = "(" then if rest.isEmpty then .plain else .opens
    else .plain

/-- The whole number that a word is, in decimal digits. -/
def number (word : String) : Act Int := do
  let isBlank (c : Char) : Bool := c = ' ' || (9 ≤ c.toNat && c.toNat ≤ 13)
  let cs := (word.toList.dropWhile isBlank).reverse.dropWhile isBlank |>.reverse
  match Numeral.readSigned? (String.ofList cs) with
  | some n => return n
  | none => Act.fault ("Illegal number: " ++ word)

/-- Whether a sign before a path holds of it. -/
def holdsOfPath (sign path : String) : Act Bool := do
  match ← Act.reach path with
  | .error _ => return false
  | .ok (.gap _) => return false
  | .ok (.node _ .folder) => return ["-e", "-d", "-r", "-w", "-x", "-s", "-O", "-G"].contains sign
  | .ok (.node _ (.file bytes kind)) =>
    return match sign with
      | "-x" => kind.isProgram
      | "-s" => !bytes.isEmpty
      | sign => ["-e", "-f", "-r", "-w", "-O", "-G"].contains sign
  | .ok (.host node) =>
    return match node with
      | .folder => ["-e", "-d", "-r", "-w", "-x", "-s", "-O", "-G"].contains sign
      | .file => ["-e", "-f", "-r", "-w", "-s", "-O", "-G"].contains sign
      | .program => ["-e", "-f", "-r", "-w", "-x", "-s", "-O", "-G"].contains sign
      | .device => ["-e", "-c", "-r", "-w", "-O", "-G"].contains sign

/-- Whether a sign before a word holds of it. -/
def unaryHolds (sign word : String) : Act Bool := do
  match sign with
  | "-n" => return word ≠ ""
  | "-z" => return word = ""
  | "-t" => do
    let _ ← number word
    return false
  | sign => holdsOfPath sign word

/-- Whether a sign between two words holds of them. -/
def binaryHolds (sign a b : String) : Act Bool := do
  let compare (test : Int → Int → Bool) : Act Bool := do return test (← number a) (← number b)
  match sign with
  | "=" => return a = b
  | "==" => return a = b
  | "!=" => return a ≠ b
  | "<" => return a < b
  | ">" => return b < a
  | "-eq" => compare (· = ·)
  | "-ne" => compare (· ≠ ·)
  | "-lt" => compare (· < ·)
  | "-le" => compare (· ≤ ·)
  | "-gt" => compare (· > ·)
  | "-ge" => compare (· ≥ ·)
  | "-ef" => do
    match ← Act.reach a, ← Act.reach b with
    | .ok (.node p _), .ok (.node q _) => return p = q
    | _, _ => return false
  | "-nt" => return (← isThere a) && !(← isThere b)
  | "-ot" => return !(← isThere a) && (← isThere b)
  | _ => return false

/-- A truth value and the words that are left. -/
abbrev Reading := Act (Bool × List String)

mutual
/-- Tests of which one must hold. The fuel is more than four times the number of words. -/
def either : Nat → List String → Reading
  | 0, words => return (false, words)
  | fuel + 1, words => do
    match ← both fuel words with
    | (a, "-o" :: rest) =>
      let (b, rest) ← either fuel rest
      return (a || b, rest)
    | found => return found

/-- Tests that must all hold. -/
def both : Nat → List String → Reading
  | 0, words => return (false, words)
  | fuel + 1, words => do
    match ← negated fuel words with
    | (a, "-a" :: rest) =>
      let (b, rest) ← both fuel rest
      return (a && b, rest)
    | found => return found

/-- A test that may be turned around. -/
def negated : Nat → List String → Reading
  | 0, words => return (false, words)
  | fuel + 1, words => do
    if meaning words = .negation then
      let (a, rest) ← negated fuel (words.drop 1)
      return (!a, rest)
    else single fuel words

/-- A test of one or two words, or one in parentheses. -/
def single : Nat → List String → Reading
  | 0, words => return (false, words)
  | fuel + 1, words => do
    match meaning words, words with
    | .opens, _ :: ")" :: rest => return (false, rest)
    | .opens, _ :: rest =>
      match ← either fuel rest with
      | (a, ")" :: rest) => return (a, rest)
      | _ => Act.fault "closing paren expected"
    | .unary, sign :: word :: rest => return (← unaryHolds sign word, rest)
    | _, a :: sign :: b :: rest =>
      if binarySigns.contains sign then return (← binaryHolds sign a b, rest)
      else return (a ≠ "", sign :: b :: rest)
    | _, [a, sign] =>
      if binarySigns.contains sign then Act.fault (sign ++ ": argument expected")
      else return (a ≠ "", [sign])
    | _, [a] => return (a ≠ "", [])
    | _, [] => return (false, [])
end

/-- The truth value of words, none of which may be left. -/
def value (words : List String) : Act Bool := do
  match ← either (4 * words.length + 8) words with
  | (a, []) => return a
  | (_, rest) =>
    let last := (words.take (words.length - rest.length)).getLastD ""
    Act.fault (last ++ ": unexpected operator")

/-- Whether a test holds. How it is read depends on the number of its words. -/
def holds (words : List String) : Act Bool := do
  match words with
  | [] => return false
  | [a, sign, b] =>
    if binarySigns.contains sign then binaryHolds sign a b
    else if a = "(" ∧ b = ")" then value [sign]
    else if a = "!" then return !(← value [sign, b])
    else value words
  | [a, b, c, d] =>
    if a = "(" ∧ d = ")" then value [b, c]
    else if a = "!" then return !(← value [b, c, d])
    else value words
  | words => value words

end ContractBench.Shell.Test
