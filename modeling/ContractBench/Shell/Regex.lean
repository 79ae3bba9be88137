import ContractBench.Shell.Pattern
import ContractBench.Text.Letter
import ContractBench.Text.Octets

/-! # Regular expressions

A regular expression fits parts of a text. Of all parts that it fits the first one counts, and of
those that begin at the same place the longest. Expressions are written in two dialects: in the
basic one a backslash gives parentheses, braces and bars their meaning, in the extended one it
takes it from them.
-/

namespace ContractBench.Shell

/-- A kind of place between characters. -/
inductive Edge where
  /-- The start of the line. -/
  | lineStart
  /-- The end of the line. -/
  | lineEnd
  /-- The start of the text. -/
  | textStart
  /-- The end of the text. -/
  | textEnd
  /-- The start of a word. -/
  | wordStart
  /-- The end of a word. -/
  | wordEnd
  /-- The start or end of a word. -/
  | wordEdge
  /-- A place that is neither the start nor the end of a word. -/
  | noEdge
  /-- A place behind no word. -/
  | behindNoWord
  /-- A place before no word. -/
  | beforeNoWord
  deriving Repr, DecidableEq

/-- A regular expression. -/
inductive Regex where
  /-- Nothing. -/
  | empty
  /-- A character. -/
  | char (c : Char)
  /-- Any character. -/
  | any
  /-- A character that is among some, or is not. -/
  | oneOf (inside : Bool) (items : List BracketItem)
  /-- A place. -/
  | edge (kind : Edge)
  /-- One behind the other. -/
  | inOrder (first second : Regex)
  /-- One or the other. -/
  | either (first second : Regex)
  /-- The body so many times; there may be no limit. -/
  | repeated (low : Nat) (high : Option Nat) (body : Regex)
  /-- The body, whose part of the text has a number. -/
  | group (number : Nat) (body : Regex)
  /-- The part of the text with a number once more. -/
  | same (number : Nat)
  deriving Repr

namespace Regex

/-- How expressions are written. -/
structure Dialect where
  /-- Whether signs have their meaning without a backslash. -/
  extended : Bool
  /-- Whether letters behind a backslash stand for characters without a sign of their own. -/
  escapes : Bool := false
  /-- Whether a letter behind a backslash stands for the digits. -/
  digits : Bool := false
  /-- Whether a parenthesis that closes nothing stands for itself. -/
  looseClosing : Bool := false

/-- Why a text is no expression. -/
inductive Fault where
  /-- A parenthesis is not closed. -/
  | openGroup
  /-- A parenthesis closes none. -/
  | closedGroup
  /-- Brackets are not closed. -/
  | openSet
  /-- A class of characters has no such name. -/
  | kind
  /-- The bounds of a repetition have no meaning. -/
  | bounds
  /-- The braces of a repetition are not closed. -/
  | openBounds
  /-- A part is asked for that does not exist. -/
  | reference
  /-- A backslash stands at the end. -/
  | backslash
  /-- There is nothing to repeat. -/
  | repetition
  /-- A range of characters runs backwards. -/
  | range
  /-- A range of characters begins or ends beyond the first 128. -/
  | wideRange
  /-- Nothing stands behind an opening bracket. -/
  | bareBracket
  deriving Repr, DecidableEq

/-- The words for a fault. -/
def Fault.message : Fault → String
  | .openGroup => "Unmatched ( or \\("
  | .closedGroup => "Unmatched ) or \\)"
  | .openSet => "Unmatched [, [^, [:, [., or [="
  | .kind => "Invalid character class name"
  | .bounds => "Invalid content of \\\x7b\\\x7d"
  | .openBounds => "Unmatched \\\x7b"
  | .reference => "Invalid back reference"
  | .backslash => "Trailing backslash"
  | .repetition => "Invalid preceding regular expression"
  | .range => "Invalid range end"
  | .wideRange => "Invalid collation character"
  | .bareBracket => "Invalid regular expression"

/-- A sign of an expression. -/
inductive Sign where
  /-- An expression by itself. -/
  | single (body : Regex)
  /-- The start of a group. -/
  | opening
  /-- The end of a group. -/
  | closing
  /-- The bar between expressions of which one is to fit. -/
  | bar
  /-- A repetition of what stands before it. -/
  | times (low : Nat) (high : Option Nat)

/-- Whether a character is part of a word. -/
def isWordChar (c : Char) : Bool := Text.isLetter c || c.isDigit || c = '_'

/-- The characters of words. -/
def wordItems : List BracketItem := [.kind "alnum", .range '_' '_']

/-- What a letter behind a backslash stands for in both dialects. -/
def letterSign? (c : Char) : Option Regex :=
  match c with
  | 'w' => some (.oneOf true wordItems)
  | 'W' => some (.oneOf false wordItems)
  | 's' => some (.oneOf true [.kind "space"])
  | 'S' => some (.oneOf false [.kind "space"])
  | 'b' => some (.edge .wordEdge)
  | 'B' => some (.edge .noEdge)
  | '<' => some (.edge .wordStart)
  | '>' => some (.edge .wordEnd)
  | '\'' => some (.edge .textEnd)
  | c => if c = Char.ofNat 96 then some (.edge .textStart) else none

/-- The character that a letter behind a backslash stands for. -/
def escape? (c : Char) : Option Char :=
  match c with
  | 'n' => some '\n'
  | 't' => some '\t'
  | 'r' => some '\r'
  | 'a' => some (Char.ofNat 7)
  | 'f' => some (Char.ofNat 12)
  | 'v' => some (Char.ofNat 11)
  | _ => none

/-- The bounds of a repetition behind their opening brace. -/
def readBounds (dialect : Dialect) (cs : List Char) :
    Except Fault (Nat × Option Nat × List Char) := do
  let low := cs.takeWhile Char.isDigit
  let number (digits : List Char) : Nat :=
    digits.foldl (fun n d => 10 * n + (d.toNat - '0'.toNat)) 0
  let (high, rest) := match cs.drop low.length with
    | ',' :: rest =>
      let digits := rest.takeWhile Char.isDigit
      (if digits.isEmpty then none else some (number digits), rest.drop digits.length)
    | rest => (some (number low), rest)
  let rest ← match dialect.extended, rest with
    | true, '\x7d' :: rest => pure rest
    | false, '\\' :: '\x7d' :: rest => pure rest
    | _, [] => throw .openBounds
    | _, _ => throw .bounds
  if high.any (· < number low) || 32767 < number low then throw .bounds
  else return (number low, high, rest)

/-- Whether a class of characters is named that is not known. -/
def namesUnknown : List Char → Bool
  | '[' :: ':' :: rest =>
    let name := rest.takeWhile Char.isAlpha
    let isClosed := (rest.drop name.length).take 2 = [':', ']']
    (isClosed && (characterClass? (String.ofList name)).isNone) || namesUnknown rest
  | _ :: rest => namesUnknown rest
  | [] => false

/-- The characters in brackets behind the opening one. A backslash is a character like others. -/
def readSet (dialect : Dialect) (cs : List Char) : Except Fault (Regex × List Char) := do
  let (inside, body) := match cs with
    | '^' :: rest => (false, rest)
    | rest => (true, rest)
  let rec mark : List Char → List Marked
    | '[' :: '.' :: c :: '.' :: ']' :: rest => (c, true) :: mark rest
    | '[' :: '=' :: c :: '=' :: ']' :: rest => (c, true) :: mark rest
    | '\\' :: c :: rest =>
      match if dialect.escapes then escape? c else none with
      | some d => (d, true) :: mark rest
      | none => ('\\', true) :: mark (c :: rest)
    | c :: rest => (c, c = '\\') :: mark rest
    | [] => []
  let marked := mark body
  match readItems (marked.length + 1) true marked with
  | some (items, rest) =>
    let runsBack (item : BracketItem) : Bool :=
      match item with
      | .range low high => high < low
      | .kind _ => false
    let isWide (item : BracketItem) : Bool :=
      match item with
      | .range low high => low ≠ high && (127 < low.toNat || 127 < high.toNat)
      | .kind _ => false
    if items.any isWide then throw .wideRange
    else if items.any runsBack then throw .range
    else if namesUnknown (body.take (body.length - rest.length)) then throw .kind
    else return (.oneOf inside items, rest.map (·.1))
  | none => if cs.isEmpty then throw .bareBracket else throw .openSet

/-- What stands before a sign in its group. -/
inductive Standing where
  /-- Nothing. -/
  | start
  /-- The sign for the start of the line. -/
  | anchored
  /-- Something else. -/
  | inner
  deriving DecidableEq

/-- The sign that begins some characters, if one does that the dialect spells in its own way, given
    whether nothing that can be repeated stands before it. -/
def readSpelled? (dialect : Dialect) (first : Bool) (spelled : Char) (rest : List Char) :
    Option (Except Fault (Sign × List Char)) :=
  match spelled with
  | '(' => some (.ok (.opening, rest))
  | ')' => some (.ok (.closing, rest))
  | '|' => some (.ok (.bar, rest))
  | '+' =>
    if first then none else some (.ok (.times 1 none, rest))
  | '?' =>
    if first then none else some (.ok (.times 0 (some 1), rest))
  | '\x7b' =>
    let isBound := (rest.head?.map fun c => c.isDigit || c = ',').getD false
    if dialect.extended && (first || !isBound) then none
    else if first then some (.error .repetition)
    else
      match dialect.extended, readBounds dialect rest with
      | _, .ok (low, high, rest) => some (.ok (.times low high, rest))
      | true, .error _ => none
      | false, .error fault => some (.error fault)
  | _ => none

/-- Whether the end of an expression or group follows. -/
def endsGroup (dialect : Dialect) (cs : List Char) : Bool :=
  match cs with
  | [] => true
  | '\\' :: ')' :: _ => !dialect.extended
  | '\\' :: '|' :: _ => !dialect.extended
  | _ => false

/-- The next sign, given what stands before it. -/
def readSign (dialect : Dialect) (standing : Standing) (c : Char) (rest : List Char) :
    Except Fault (Sign × List Char) :=
  let first := standing ≠ .inner
  let plain : Except Fault (Sign × List Char) := .ok (.single (.char c), rest)
  match c with
  | '\\' =>
    match rest with
    | [] => .error .backslash
    | d :: rest =>
      match if dialect.extended then none else readSpelled? dialect first d rest with
      | some found => found
      | none =>
        if '1' ≤ d && d ≤ '9' then .ok (.single (.same (d.toNat - 48)), rest)
        else
          match if dialect.escapes then escape? d else none with
          | some e => .ok (.single (.char e), rest)
          | none =>
            if dialect.digits && d.toLower = 'd' then
              .ok (.single (.oneOf (d = 'd') [.kind "digit"]), rest)
            else .ok (.single ((letterSign? d).getD (.char d)), rest)
  | '.' => .ok (.single .any, rest)
  | '[' => (readSet dialect rest).map fun (set, rest) => (.single set, rest)
  | '*' => if first then plain else .ok (.times 0 none, rest)
  | '^' =>
    if dialect.extended || standing = .start then .ok (.single (.edge .lineStart), rest)
    else plain
  | '$' =>
    if dialect.extended || endsGroup dialect rest then .ok (.single (.edge .lineEnd), rest)
    else plain
  | c =>
    match if dialect.extended then readSpelled? dialect first c rest else none with
    | some found => found
    | none => plain

/-- The signs of an expression. The fuel is more than the number of characters. -/
def signs (dialect : Dialect) : Nat → Standing → List Char → Except Fault (List Sign)
  | 0, _, _ => .ok []
  | _, _, [] => .ok []
  | fuel + 1, standing, c :: rest => do
    let (sign, rest) ← readSign dialect standing c rest
    let next : Standing := match sign with
      | .opening => .start
      | .bar => .start
      | .single (.edge .lineStart) => if dialect.extended then .inner else .anchored
      | _ => .inner
    return sign :: (← signs dialect fuel next rest)

/-- A reader of signs that counts groups. -/
abbrev Reader := StateT (List Sign × Nat) (Except Fault)

/-- Repeat the last of some expressions. -/
def repeatLast (low : Nat) (high : Option Nat) : List Regex → List Regex
  | body :: before => .repeated low high body :: before
  | [] => [.empty]

/-- Read expressions up to the end of a group. Given are those that were read since the last bar,
    the last first, and what stands before the bar. A parenthesis that closes nothing may stand for
    itself. The fuel is more than the number of signs. -/
def readGroup (loose : Bool) : Nat → Option Regex → List Regex → Reader Regex
  | 0, _, _ => return .empty
  | fuel + 1, before, done => do
    let row := done.foldl (fun behind body =>
      match behind with
      | .empty => body
      | behind => .inOrder body behind) .empty
    let whole := match before with
      | some first => .either first row
      | none => row
    let (left, groups) ← get
    match left with
    | [] => return whole
    | .closing :: rest =>
      if loose then
        set (rest, groups)
        readGroup loose fuel before (.char ')' :: done)
      else return whole
    | .bar :: rest =>
      set (rest, groups)
      readGroup loose fuel (some whole) []
    | .times low high :: rest =>
      set (rest, groups)
      readGroup loose fuel before (repeatLast low high done)
    | .single body :: rest =>
      match body with
      | .same n => if groups < n then throw .reference
      | _ => pure ()
      set (rest, groups)
      readGroup loose fuel before (body :: done)
    | .opening :: rest =>
      set (rest, groups + 1)
      let body ← readGroup false fuel none []
      match ← get with
      | (.closing :: rest, count) =>
        set (rest, count)
        readGroup loose fuel before (.group (groups + 1) body :: done)
      | _ => throw .openGroup

/-- Read an expression. -/
def read (dialect : Dialect) (text : String) : Except Fault Regex := do
  let found ← signs dialect (text.length + 1) .start text.toList
  let (body, left, _) ← readGroup dialect.looseClosing (2 * found.length + 2) none [] (found, 0)
  match left with
  | [] => return body
  | _ => throw .closedGroup

/-- The expression that fits a text. -/
def ofLiteral (text : String) : Regex :=
  text.toList.foldr (fun c behind => .inOrder (.char c) behind) .empty

/-- How many groups an expression has. -/
def groups : Regex → Nat
  | .inOrder a b => max a.groups b.groups
  | .either a b => max a.groups b.groups
  | .repeated _ _ body => body.groups
  | .group n body => max n body.groups
  | _ => 0

/-- A text that is searched. -/
structure Subject where
  /-- The characters. -/
  text : Array Char
  /-- Whether upper and lower case are the same. -/
  ignoresCase : Bool := false
  /-- Whether each of its lines has a start and an end. -/
  manyLines : Bool := false

/-- A place in a text, with the parts that groups have taken. -/
structure Spot where
  /-- The number of characters before it. -/
  place : Nat
  /-- The parts, each with its number, start and end, the latest first. -/
  parts : List (Nat × Nat × Nat) := []
  deriving Repr, DecidableEq

namespace Subject

/-- The character at a place. -/
def at? (subject : Subject) (place : Nat) : Option Char := subject.text[place]?

/-- Whether part of a word stands before a place, and behind it. -/
def wordsAround (subject : Subject) (place : Nat) : Bool × Bool :=
  let isWord (c : Option Char) : Bool := c.any isWordChar
  (place ≠ 0 && isWord (subject.at? (place - 1)), isWord (subject.at? place))

/-- Whether a place is of a kind. -/
def isEdge (subject : Subject) (place : Nat) : Edge → Bool
  | .textStart => place = 0
  | .textEnd => place = subject.text.size
  | .lineStart =>
    place = 0 || (subject.manyLines && subject.at? (place - 1) = some '\n')
  | .lineEnd =>
    place = subject.text.size || (subject.manyLines && subject.at? place = some '\n')
  | .wordStart => subject.wordsAround place = (false, true)
  | .wordEnd => subject.wordsAround place = (true, false)
  | .wordEdge =>
    let (before, behind) := subject.wordsAround place
    before ≠ behind
  | .noEdge =>
    let (before, behind) := subject.wordsAround place
    before = behind
  | .behindNoWord => !(subject.wordsAround place).1
  | .beforeNoWord => !(subject.wordsAround place).2

/-- Whether two characters are the same in a text. -/
def same (subject : Subject) (a b : Char) : Bool :=
  a = b || (subject.ignoresCase && Text.lowerCase a = Text.lowerCase b)

/-- Whether a character is among some; the classes of characters know letters of all scripts. -/
def holds (items : List BracketItem) (c : Char) : Bool :=
  items.any fun item =>
    match item with
    | .kind name => if c.toNat < 128 then item.holds c else Text.isInWideClass name c
    | item => item.holds c

/-- Whether a character fits an expression for one. -/
def fitsChar (subject : Subject) (c : Char) : Regex → Bool
  | .char d => subject.same c d
  | .any => c ≠ '\x00' && !Octets.isStray c
  | .oneOf inside items =>
    let found := holds items c || (subject.ignoresCase &&
      (holds items (Text.lowerCase c) || holds items (Text.upperCase c)))
    if Octets.isStray c then inside && found else inside = found
  | _ => false

end Subject

/-- The first of the spots at each place. -/
def firstOfEach (size : Nat) (spots : List Spot) : List Spot :=
  match spots with
  | [] => []
  | [spot] => [spot]
  | spots =>
    (spots.foldl (fun (seen, kept) spot =>
      if (seen[spot.place]?).getD false then (seen, kept)
      else (seen.setIfInBounds spot.place true, spot :: kept))
      ((Array.replicate (size + 1) false : Array Bool), ([] : List Spot))).2.reverse

/-- The spots after any number of steps, those after more steps first; no place is reached twice.
    The fuel is more than the number of places. -/
def anyTimes (step : Spot → List Spot) (size : Nat) : Nat → List Nat → List Spot → List Spot
  | 0, _, spots => spots
  | fuel + 1, seen, spots =>
    let next := firstOfEach size ((spots.map step).flatten.filter fun spot =>
      !seen.contains spot.place)
    if next.isEmpty then spots
    else anyTimes step size fuel (next.map (·.place) ++ seen) next ++ spots

/-- The spots after at most so many steps, those after more steps first. -/
def upToTimes (step : Spot → List Spot) (size : Nat) : Nat → List Spot → List Spot
  | 0, spots => spots
  | count + 1, spots =>
    let next := firstOfEach size (spots.map step).flatten
    if next.isEmpty then spots else upToTimes step size count next ++ spots

/-- The spots after characters of a kind, the last first. The fuel is the number of characters that
    are left. -/
def alongChars (subject : Subject) (body : Regex) : Nat → Spot → List Spot → List Spot
  | 0, _, found => found
  | fuel + 1, spot, found =>
    match subject.at? spot.place with
    | some c =>
      if subject.fitsChar c body then
        let next := { spot with place := spot.place + 1 }
        alongChars subject body fuel next (next :: found)
      else found
    | none => found

/-- Whether an expression stands for one character. -/
def isSingle : Regex → Bool
  | .char _ => true
  | .any => true
  | .oneOf _ _ => true
  | _ => false

/-- The spots at which an expression that begins at a spot may end; those that are preferred come
    first. -/
def ends (subject : Subject) : Regex → Spot → List Spot
  | .empty, spot => [spot]
  | .edge kind, spot => if subject.isEdge spot.place kind then [spot] else []
  | .inOrder first second, spot =>
    firstOfEach subject.text.size (((ends subject first spot).map (ends subject second)).flatten)
  | .either first second, spot =>
    firstOfEach subject.text.size (ends subject first spot ++ ends subject second spot)
  | .group n body, spot =>
    (ends subject body spot).map fun last =>
      { last with parts := (n, spot.place, last.place) :: last.parts.filter fun part =>
          part.1 ≠ n }
  | .same n, spot =>
    match spot.parts.find? fun part => part.1 = n with
    | none => []
    | some (_, start, stop) =>
      let fits := (List.range (stop - start)).all fun i =>
        match subject.at? (start + i), subject.at? (spot.place + i) with
        | some a, some b => subject.same a b
        | _, _ => false
      if fits then [{ spot with place := spot.place + (stop - start) }] else []
  | .repeated low high body, spot =>
    let size := subject.text.size
    if low = 0 && high.isNone && body.isSingle then
      alongChars subject body (size - spot.place) spot [spot]
    else
      let step := ends subject body
      let start := (List.range low).foldl (fun spots _ =>
        firstOfEach size (spots.map step).flatten) [spot]
      match high with
      | none => anyTimes step size (size + 2) (start.map (·.place)) start
      | some high => upToTimes step size (high - low) start
  | .char c, spot =>
    match subject.at? spot.place with
    | some d => if subject.same c d then [{ spot with place := spot.place + 1 }] else []
    | none => []
  | .any, spot =>
    match subject.at? spot.place with
    | some c =>
      if subject.fitsChar c .any then [{ spot with place := spot.place + 1 }] else []
    | none => []
  | .oneOf inside items, spot =>
    match subject.at? spot.place with
    | some c =>
      if subject.fitsChar c (.oneOf inside items) then [{ spot with place := spot.place + 1 }]
      else []
    | none => []

/-- A part of a text that an expression fits. -/
structure Match where
  /-- Its start. -/
  start : Nat
  /-- Its end. -/
  stop : Nat
  /-- The parts of the groups within it, each with its number, start and end. -/
  parts : List (Nat × Nat × Nat)

/-- The longest part that begins at a place. -/
def matchAt? (regex : Regex) (subject : Subject) (start : Nat) : Option Match :=
  (ends subject regex { place := start }).foldl (fun best spot =>
    match best with
    | some found =>
      if found.stop < spot.place then some ⟨start, spot.place, spot.parts⟩ else best
    | none => some ⟨start, spot.place, spot.parts⟩) none

/-- The first part that begins at a place or behind it. The fuel is more than the number of
    characters behind it. -/
def searchFrom (regex : Regex) (subject : Subject) : Nat → Nat → Option Match
  | 0, _ => none
  | fuel + 1, start =>
    if subject.text.size < start then none
    else
      match regex.matchAt? subject start with
      | some found => some found
      | none => searchFrom regex subject fuel (start + 1)

/-- The first part of a text that an expression fits, from a place on. -/
def search (regex : Regex) (subject : Subject) (start : Nat) : Option Match :=
  searchFrom regex subject (subject.text.size + 2 - start) start

/-- The characters of a text between two places. -/
def Subject.between (subject : Subject) (start stop : Nat) : String :=
  String.ofList (subject.text.extract start stop).toList

/-- The part of a text that a group has taken; the number zero stands for the whole match. -/
def Match.part (found : Match) (subject : Subject) (number : Nat) : String :=
  if number = 0 then subject.between found.start found.stop
  else
    match found.parts.find? fun part => part.1 = number with
    | some (_, start, stop) => subject.between start stop
    | none => ""

end Regex

end ContractBench.Shell
