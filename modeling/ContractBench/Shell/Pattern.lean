/-! # Patterns of shell scripts

A pattern fits texts: a star stands for any text, a question mark for any character, brackets for
one of some characters, and every other character for itself. A character that is quoted, or
behind a backslash, stands for itself too.
-/

namespace ContractBench.Shell

/-- What brackets hold. -/
inductive BracketItem where
  /-- All characters from one to another. -/
  | range (low high : Char)
  /-- A class of characters. -/
  | kind (name : String)
  deriving Repr, DecidableEq

/-- A part of a pattern. -/
inductive PatternPart where
  /-- Any text. -/
  | anyText
  /-- Any character. -/
  | anyChar
  /-- A character that is among some, or is not. -/
  | oneOf (inside : Bool) (items : List BracketItem)
  /-- A character. -/
  | char (c : Char)
  deriving Repr, DecidableEq

/-- A pattern. -/
abbrev Pattern := List PatternPart

/-- The classes of characters by name. -/
def characterClass? (name : String) : Option (Char → Bool) :=
  match name with
  | "alpha" => some Char.isAlpha
  | "digit" => some Char.isDigit
  | "alnum" => some Char.isAlphanum
  | "upper" => some Char.isUpper
  | "lower" => some Char.isLower
  | "space" => some fun c => c = ' ' || (9 ≤ c.toNat && c.toNat ≤ 13)
  | "blank" => some fun c => c = ' ' || c = '\t'
  | "punct" => some fun c => 32 < c.toNat && c.toNat < 127 && !c.isAlphanum
  | "print" => some fun c => 32 ≤ c.toNat && c.toNat < 127
  | "graph" => some fun c => 32 < c.toNat && c.toNat < 127
  | "cntrl" => some fun c => c.toNat < 32 || c.toNat = 127
  | "xdigit" => some fun c =>
    c.isDigit || ('a' ≤ c && c ≤ 'f') || ('A' ≤ c && c ≤ 'F')
  | _ => none

/-- Whether a character is among some. -/
def BracketItem.holds (c : Char) : BracketItem → Bool
  | .range low high => low ≤ c && c ≤ high
  | .kind name => ((characterClass? name).map fun test => test c).getD false

/-- A character and whether it stands for itself. -/
abbrev Marked := Char × Bool

/-- The name of a class of characters, behind its opening bracket, and what follows its closing
    one. -/
def className? (cs : List Marked) : Option (String × List Marked) :=
  match cs with
  | (':', _) :: rest =>
    let name := rest.takeWhile fun c => c.1.isAlpha
    let text := String.ofList (name.map (·.1))
    match rest.drop name.length with
    | (':', _) :: (']', _) :: rest =>
      if (characterClass? text).isSome then some (text, rest) else none
    | _ => none
  | _ => none

/-- The end of a range that begins some characters, if they go on one. -/
def rangeEnd? (cs : List Marked) : Option (Char × List Marked) :=
  match cs with
  | ('-', false) :: (']', false) :: _ => none
  | ('-', false) :: ('\\', false) :: (c, _) :: rest => some (c, rest)
  | ('-', false) :: (c, _) :: rest => some (c, rest)
  | _ => none

/-- The items of brackets and what follows them; nothing if they are not closed. The fuel is at
    least the number of characters. -/
def readItems : Nat → Bool → List Marked → Option (List BracketItem × List Marked)
  | 0, _, _ => none
  | _, _, [] => none
  | fuel + 1, first, (c, literal) :: rest =>
    if c = ']' && !literal && !first then some ([], rest)
    else
      match if c = '[' && !literal then className? rest else none with
      | some (name, rest) =>
        (readItems fuel false rest).map fun (items, rest) => (.kind name :: items, rest)
      | none =>
        let (c, rest) := match c, literal, rest with
          | '\\', false, (d, _) :: rest => (d, rest)
          | c, _, rest => (c, rest)
        match rangeEnd? rest with
        | some (d, rest) =>
          (readItems fuel false rest).map fun (items, rest) => (.range c d :: items, rest)
        | none =>
          (readItems fuel false rest).map fun (items, rest) => (.range c c :: items, rest)

namespace Pattern

/-- Read a pattern. The fuel is at least the number of characters. -/
def read : Nat → List Marked → Pattern
  | 0, _ => []
  | _, [] => []
  | fuel + 1, (c, true) :: rest => .char c :: read fuel rest
  | fuel + 1, (c, false) :: rest =>
    match c with
    | '*' => .anyText :: read fuel rest
    | '?' => .anyChar :: read fuel rest
    | '\\' =>
      match rest with
      | (d, _) :: rest => .char d :: read fuel rest
      | [] => [.char '\\']
    | '[' =>
      let (inside, body) := match rest with
        | ('!', false) :: body => (false, body)
        | body => (true, body)
      match readItems fuel true body with
      | some (items, rest) => .oneOf inside items :: read fuel rest
      | none => .char '[' :: read fuel rest
    | c => .char c :: read fuel rest

/-- The pattern that marked characters describe. -/
def ofMarked (cs : List Marked) : Pattern := read (cs.length + 1) cs

/-- The pattern that a text describes. -/
def ofText (text : String) : Pattern := ofMarked (text.toList.map fun c => (c, false))

/-- Whether a pattern is one text throughout. -/
def isLiteral (pattern : Pattern) : Bool :=
  pattern.all fun part =>
    match part with
    | .char _ => true
    | _ => false

/-- Whether a character fits a part that stands for one. -/
def fitsChar (c : Char) : PatternPart → Bool
  | .anyText => true
  | .anyChar => true
  | .oneOf inside items => inside = items.any (·.holds c)
  | .char d => c = d

/-- Whether a text fits a pattern. -/
def fits : Pattern → List Char → Bool
  | [], cs => cs.isEmpty
  | .anyText :: rest, [] => fits rest []
  | .anyText :: rest, c :: cs => fits rest (c :: cs) || fits (.anyText :: rest) cs
  | _ :: _, [] => false
  | part :: rest, c :: cs => fitsChar c part && fits rest cs
termination_by pattern cs => pattern.length + cs.length

/-- All ways to split a text, the shortest first part first. -/
def splits (cs : List Char) : List (List Char × List Char) :=
  (List.range (cs.length + 1)).map fun n => (cs.take n, cs.drop n)

/-- A text without the shortest or longest start that fits a pattern. -/
def dropStart (pattern : Pattern) (longest : Bool) (cs : List Char) : List Char :=
  let ways := if longest then (splits cs).reverse else splits cs
  ((ways.find? fun way => pattern.fits way.1).map (·.2)).getD cs

/-- A text without the shortest or longest end that fits a pattern. -/
def dropEnd (pattern : Pattern) (longest : Bool) (cs : List Char) : List Char :=
  let ways := if longest then splits cs else (splits cs).reverse
  ((ways.find? fun way => pattern.fits way.2).map (·.1)).getD cs

end Pattern

end ContractBench.Shell
