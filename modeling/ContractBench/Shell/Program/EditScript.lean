import ContractBench.Shell.Format
import ContractBench.Shell.Regex

/-! # Scripts that edit lines

A script is a row of edits. Each is made on the lines that its addresses select: a line by its
number, the last line, lines that fit an expression, or all lines from one to another.
-/

namespace ContractBench.Shell.Program

/-- What selects a line. -/
inductive Address where
  /-- Its number. -/
  | line (number : Nat)
  /-- That it is the last. -/
  | last
  /-- That it fits an expression, or the one that was used last. -/
  | fits (regex : Option Regex) (ignoresCase manyLines : Bool)
  /-- That its number is one of a row. -/
  | step (first step : Nat)

/-- Where a range of lines ends. -/
inductive RangeEnd where
  /-- At a line. -/
  | address (address : Address)
  /-- So many lines after its start. -/
  | after (count : Nat)
  /-- At the next line whose number is a multiple. -/
  | multiple (number : Nat)

/-- The lines on which an edit is made. -/
structure Selection where
  /-- The line, or the first of a range. -/
  start : Option Address := none
  /-- The end of a range. -/
  stop : Option RangeEnd := none
  /-- Whether the other lines are meant. -/
  negated : Bool := false

/-- A change of the case of what comes next. -/
inductive CaseChange where
  /-- All of it to upper case. -/
  | upper
  /-- All of it to lower case. -/
  | lower
  /-- Its first character to upper case. -/
  | upperNext
  /-- Its first character to lower case. -/
  | lowerNext
  /-- None any more. -/
  | keep
  deriving DecidableEq

/-- A part of what is put in place of a match. -/
inductive NewPart where
  /-- Text. -/
  | text (text : String)
  /-- The part of a group, or the whole match. -/
  | group (number : Nat)
  /-- A change of case. -/
  | change (change : CaseChange)

/-- A substitution. -/
structure Substitution where
  /-- The expression, or the one that was used last. -/
  regex : Option Regex
  /-- What is put in place of a match. -/
  new : List NewPart
  /-- Which match is the first to be replaced. -/
  first : Nat := 1
  /-- Whether all matches from there on are replaced. -/
  all : Bool := false
  /-- Whether the line is written if there is a match. -/
  prints : Bool := false
  /-- Whether upper and lower case are the same. -/
  ignoresCase : Bool := false
  /-- Whether each line within the text has a start and an end. -/
  manyLines : Bool := false
  /-- The file to which the line is written if there is a match. -/
  file : Option String := none

/-- What an edit does. -/
inductive Edit where
  /-- The edits up to a place in the script are made only on the selected lines. -/
  | block (stop : Nat)
  /-- Nothing. -/
  | nothing
  /-- Replace matches. -/
  | substitute (body : Substitution)
  /-- Replace characters. -/
  | exchange (pairs : List (Char × Char))
  /-- Write a text before the line, behind it, or in its place. -/
  | insert (text : String)
  /-- Write a text behind the line. -/
  | append (text : String)
  /-- Write a text in place of the line. -/
  | change (text : String)
  /-- Go on at a place in the script. -/
  | jump (target : Nat)
  /-- Go on at a place in the script if a match was replaced, or if none was. -/
  | jumpIf (replaced : Bool) (target : Nat)
  /-- Write no more lines than this one, which may be left out too. -/
  | quit (code : Nat) (silent : Bool)
  /-- Write a file behind the line. -/
  | readFile (path : String)
  /-- Write the line to a file. -/
  | writeFile (path : String)
  /-- What a letter stands for. -/
  | letter (c : Char)

/-- An edit and the lines on which it is made. -/
structure SelectedEdit where
  /-- The lines. -/
  selection : Selection
  /-- The edit. -/
  edit : Edit

/-- Why a text is no script. -/
inductive ScriptFault where
  /-- It is at fault at a place, behind which so many characters are left. -/
  | atPlace (words : String) (left : Nat)
  /-- It is at fault as a whole. -/
  | whole (words : String)
  /-- A label that a jump names is not there. -/
  | noLabel (name : String)

namespace EditScript

/-- Fail before what is left. -/
def fail {α : Type} (words : String) (rest : List Char) : Except ScriptFault α :=
  .error (.atPlace words rest.length)

/-- A name between quotes of an older kind. -/
def cited (text : String) : String := String.singleton (Char.ofNat 96) ++ text ++ "'"

/-- Where a character of an expression stands. -/
inductive SetPlace where
  /-- Outside brackets. -/
  | outside
  /-- Behind the opening bracket, where a closing one is a character like others. -/
  | first
  /-- In brackets. -/
  | inside
  /-- In the name of a class within brackets, which ends with a sign and a bracket. -/
  | named (sign : Char)
  /-- Before the bracket that ends the name of a class. -/
  | closing
  deriving DecidableEq

/-- Where the next character stands, after one and before another. -/
def SetPlace.after (place : SetPlace) (c : Char) (next : Option Char) : SetPlace :=
  let opensName := c = '[' && (next = some ':' || next = some '.' || next = some '=')
  match place with
  | .outside => if c = '[' then .first else .outside
  | .first =>
    if c = '^' then .first else if opensName then .named (next.getD ':') else .inside
  | .inside =>
    if c = ']' then .outside else if opensName then .named (next.getD ':') else .inside
  | .named sign => if c = sign && next = some ']' then .closing else .named sign
  | .closing => .inside

/-- The characters up to a mark that stands neither behind a backslash nor in the brackets of an
    expression. A backslash before the mark is dropped, and one before the letter for a newline
    gives one. -/
def upToMark (mark : Char) (isRegex : Bool) :
    SetPlace → List Char → Option (List Char × List Char)
  | _, [] => none
  | .outside, '\\' :: c :: rest =>
    let kept := if c = mark then [c] else if c = 'n' && isRegex then ['\n'] else ['\\', c]
    (upToMark mark isRegex .outside rest).map fun (body, rest) => (kept ++ body, rest)
  | place, c :: rest =>
    if c = mark && place = .outside then some ([], rest)
    else if c = '\n' && isRegex then none
    else
      let next := if isRegex then place.after c rest.head? else .outside
      (upToMark mark isRegex next rest).map fun (body, rest) => (c :: body, rest)

/-- The base of the number that a letter behind a backslash announces, and its most digits. -/
def numberForm? (letter : Char) : Option (Nat × Nat) :=
  match letter with
  | 'x' => some (16, 2)
  | 'o' => some (8, 3)
  | 'd' => some (10, 3)
  | _ => none

/-- The octet with a number; in a text that is put in place of a match, one with a meaning of its
    own is kept from it by a backslash, and a backslash always is. -/
def numberedOctet (isNew : Bool) (n : Nat) : List Char :=
  let octet := Format.octet n
  if octet = '\\' || (octet = '&' && isNew) then ['\\', octet] else [octet]

/-- Octets in which numbers behind a backslash are replaced by the octets that they mean. The fuel
    is more than the number of octets. -/
def withNumbers (isNew : Bool) : Nat → List Char → List Char
  | 0, cs => cs
  | fuel + 1, '\\' :: c :: rest =>
    match numberForm? c, c, rest with
    | some (base, most), _, rest =>
      let (n, after) := Format.splitNumber base most 0 rest
      if after.length < rest.length then numberedOctet isNew n ++ withNumbers isNew fuel after
      else '\\' :: c :: withNumbers isNew fuel rest
    | none, 'c', control :: rest =>
      numberedOctet isNew (control.toUpper.toNat ^^^ 64) ++ withNumbers isNew fuel rest
    | none, _, rest => '\\' :: c :: withNumbers isNew fuel rest
  | fuel + 1, c :: rest => c :: withNumbers isNew fuel rest
  | _, [] => []

/-- Characters in which numbers behind a backslash are replaced by what they mean. -/
def numbersRead (isNew : Bool) (cs : List Char) : List Char :=
  let octets := (cs.map Octets.ofCharacter).flatten
  Octets.characters (withNumbers isNew (octets.length + 1) octets)

/-- The number that some characters begin with. -/
def number (cs : List Char) : Nat × List Char :=
  let digits := cs.takeWhile Char.isDigit
  (Numeral.ofDigits digits, cs.drop digits.length)

/-- Some characters without the blanks they begin with. -/
def skipBlanks (cs : List Char) : List Char := cs.dropWhile fun c => c = ' ' || c = '\t'

/-- Some characters without the white space they begin with. -/
def skipSpace (cs : List Char) : List Char :=
  cs.dropWhile fun c => c = ' ' || (9 ≤ c.toNat && c.toNat ≤ 13)

/-- Read an expression; an empty text stands for the one that was used last. -/
def readRegex (extended : Bool) (body rest : List Char) : Except ScriptFault (Option Regex) :=
  if body.isEmpty then .ok none
  else
    match Regex.read { extended := extended, escapes := true }
        (String.ofList (numbersRead false body)) with
    | .ok regex => .ok (some regex)
    | .error fault => fail fault.message rest

/-- Read an address, if there is one. -/
def readAddress (extended : Bool) (cs : List Char) :
    Except ScriptFault (Option Address × List Char) := do
  let pattern (mark : Char) (rest : List Char) :
      Except ScriptFault (Option Address × List Char) := do
    match upToMark mark true .outside rest with
    | none => fail "unterminated address regex" []
    | some (body, rest) =>
      let flags := rest.takeWhile fun c => c = 'I' || c = 'M'
      let rest := rest.drop flags.length
      let regex ← readRegex extended body rest
      return (some (.fits regex (flags.contains 'I') (flags.contains 'M')), rest)
  match cs with
  | '$' :: rest => return (some .last, rest)
  | '/' :: rest => pattern '/' rest
  | '\\' :: mark :: rest => pattern mark rest
  | c :: _ =>
    if c.isDigit then
      let (n, rest) := number cs
      match skipBlanks rest with
      | '~' :: rest =>
        let (step, rest) := number (skipBlanks rest)
        return (some (.step n step), rest)
      | _ => return (some (.line n), rest)
    else return (none, cs)
  | [] => return (none, [])

/-- Read the addresses of an edit. -/
def readSelection (extended : Bool) (cs : List Char) :
    Except ScriptFault (Selection × List Char) := do
  let (start, rest) ← readAddress extended cs
  let (stop, rest) ← match start, skipBlanks rest with
    | some _, ',' :: rest => do
      match skipBlanks rest with
      | '+' :: rest =>
        let (n, rest) := number rest
        pure (some (RangeEnd.after n), rest)
      | '~' :: rest =>
        let (n, rest) := number rest
        pure (some (RangeEnd.multiple n), rest)
      | rest =>
        match ← readAddress extended rest with
        | (some address, rest) => pure (some (RangeEnd.address address), rest)
        | (none, rest) => fail "unexpected ','" (rest.drop 1)
    | _, _ => pure (none, rest)
  let isZero := match start, stop with
    | some (.line 0), some (.address (.fits _ _ _)) => false
    | some (.line 0), _ => true
    | _, _ => false
  if isZero then fail "invalid usage of line address 0" rest
  let rest := skipSpace rest
  match rest with
  | '!' :: _ =>
    let rest := skipSpace (rest.dropWhile fun c => c = '!' || c = ' ')
    return (⟨start, stop, true⟩, rest)
  | _ => return (⟨start, stop, false⟩, rest)

/-- The letter of a change of case. -/
def caseChange? (c : Char) : Option CaseChange :=
  match c with
  | 'U' => some .upper
  | 'L' => some .lower
  | 'u' => some .upperNext
  | 'l' => some .lowerNext
  | 'E' => some .keep
  | _ => none

/-- The parts of what is put in place of a match. -/
def newParts : List Char → List NewPart
  | [] => []
  | '&' :: rest => .group 0 :: newParts rest
  | '\\' :: c :: rest =>
    if c.isDigit then .group (c.toNat - 48) :: newParts rest
    else
      match caseChange? c, Regex.escape? c with
      | some change, _ => .change change :: newParts rest
      | none, some d => .text (String.singleton d) :: newParts rest
      | none, none => .text (String.singleton c) :: newParts rest
  | c :: rest => .text (String.singleton c) :: newParts rest

/-- Whether a character ends an edit. -/
def endsEdit (c : Char) : Bool := c = ';' || c = '\n' || c = '\x7d' || c = '#'

/-- What follows the end of an edit, which must come next. -/
def atEnd (rest : List Char) : Except ScriptFault (List Char) :=
  match skipBlanks rest with
  | [] => .ok []
  | ';' :: rest => .ok rest
  | '\n' :: rest => .ok rest
  | '\x7d' :: rest => .ok ('\x7d' :: rest)
  | '#' :: rest => .ok ('#' :: rest)
  | _ :: rest => fail "extra characters after command" rest

/-- The name of a file, which goes to the end of the line. -/
def fileName (cs : List Char) : String × List Char :=
  let body := (skipBlanks cs).takeWhile (· ≠ '\n')
  (Octets.narrow (String.ofList body), ((skipBlanks cs).drop body.length).drop 1)

/-- Read the flags of a substitution. The fuel is more than the number of characters. -/
def readFlags : Nat → Substitution → List Char → Except ScriptFault (Substitution × List Char)
  | 0, body, rest => .ok (body, rest)
  | _, body, [] => .ok (body, [])
  | fuel + 1, body, c :: rest =>
    let twice : Except ScriptFault (Substitution × List Char) :=
      fail ("multiple " ++ cited (String.singleton c) ++ " options to " ++ cited "s" ++
        " command") rest
    match c with
    | 'g' => if body.all then twice else readFlags fuel { body with all := true } rest
    | 'p' => if body.prints then twice else readFlags fuel { body with prints := true } rest
    | 'i' => readFlags fuel { body with ignoresCase := true } rest
    | 'I' => readFlags fuel { body with ignoresCase := true } rest
    | 'm' => readFlags fuel { body with manyLines := true } rest
    | 'M' => readFlags fuel { body with manyLines := true } rest
    | 'w' =>
      let (name, rest) := fileName rest
      .ok ({ body with file := some name }, rest)
    | c =>
      if c.isDigit then
        let (n, rest) := number (c :: rest)
        if n = 0 then fail ("number option to " ++ cited "s" ++ " command may not be zero") rest
        else readFlags fuel { body with first := n } rest
      else if endsEdit c || c = ' ' || c = '\t' then
        (atEnd (c :: rest)).map fun rest => (body, rest)
      else fail ("unknown option to " ++ cited "s") rest

/-- Read a substitution behind its letter. -/
def readSubstitution (extended : Bool) (cs : List Char) :
    Except ScriptFault (Edit × List Char) := do
  let unterminated {α : Type} : Except ScriptFault α :=
    fail ("unterminated " ++ cited "s" ++ " command") []
  match cs with
  | [] => unterminated
  | mark :: rest =>
    match upToMark mark true .outside rest with
    | none => unterminated
    | some (pattern, rest) =>
      match upToMark mark false .outside rest with
      | none => unterminated
      | some (new, rest) =>
        let parts := newParts (numbersRead true new)
        let (body, rest) ← readFlags (rest.length + 1) ⟨none, parts, 1, false, false, false,
          false, none⟩ rest
        let regex ← readRegex extended pattern rest
        let wanted := parts.foldl (fun most part =>
          match part with
          | .group n => max most n
          | _ => most) 0
        let groups := (regex.map Regex.groups).getD 9
        if groups < wanted then
          fail ("invalid reference \\" ++ toString wanted ++ " on " ++ cited "s" ++
            " command's RHS") rest
        return (.substitute { body with regex := regex }, rest)

/-- A text in which a backslash keeps the next character. -/
def unescaped : List Char → List Char
  | '\\' :: 'n' :: rest => '\n' :: unescaped rest
  | '\\' :: c :: rest => c :: unescaped rest
  | c :: rest => c :: unescaped rest
  | [] => []

/-- Read an exchange of characters behind its letter. -/
def readExchange (cs : List Char) : Except ScriptFault (Edit × List Char) := do
  let unterminated {α : Type} : Except ScriptFault α :=
    fail ("unterminated " ++ cited "y" ++ " command") []
  match cs with
  | [] => unterminated
  | mark :: rest =>
    match upToMark mark false .outside rest with
    | none => unterminated
    | some (source, rest) =>
      match upToMark mark false .outside rest with
      | none => unterminated
      | some (target, rest) =>
        let (source, target) :=
          (unescaped (numbersRead false source), unescaped (numbersRead false target))
        if source.length ≠ target.length then
          fail ("strings for " ++ cited "y" ++ " command are different lengths") rest
        else return (.exchange (source.zip target), ← atEnd rest)

/-- What stands up to the end of a line that no backslash keeps from being one. -/
def splitLine : List Char → List Char × List Char
  | '\\' :: c :: rest =>
    let (text, rest) := splitLine rest
    ('\\' :: c :: text, rest)
  | '\n' :: rest => ([], rest)
  | c :: rest =>
    let (text, rest) := splitLine rest
    (c :: text, rest)
  | [] => ([], [])

/-- The text of an edit, where a backslash keeps the next character. -/
def lineText : List Char → List Char
  | '\\' :: c :: rest => ((Regex.escape? c).getD c) :: lineText rest
  | c :: rest => c :: lineText rest
  | [] => []

/-- Read the text of an edit, on the same line or on those that follow. -/
def readText (cs : List Char) : Except ScriptFault (String × List Char) :=
  let body := skipBlanks cs
  if body.isEmpty then fail "expected \\ after 'a', 'c' or 'i'" []
  else
    let body := match body with
      | '\\' :: rest =>
        match skipBlanks rest with
        | '\n' :: rest => rest
        | _ => rest
      | body => body
    let (line, rest) := splitLine body
    .ok (String.ofList (lineText (numbersRead false line)) ++ "\n", rest)

/-- The label of an edit. -/
def readLabel (cs : List Char) : String × List Char :=
  let body := skipBlanks cs
  let label := body.takeWhile fun c => !"; \t\n\x7d".toList.contains c
  (String.ofList label, body.drop label.length)

/-- An edit that was read, where jumps still name labels. -/
inductive RawEdit where
  /-- An edit that is complete. -/
  | edit (edit : Edit)
  /-- The start of a block. -/
  | opening
  /-- The end of a block. -/
  | closing
  /-- A label. -/
  | label (name : String)
  /-- A jump to a label, or to the end, on a condition. -/
  | jump (condition : Option Bool) (name : String)

/-- Read an edit behind its addresses. -/
def readEdit (extended : Bool) (selection : Selection) (cs : List Char) :
    Except ScriptFault (RawEdit × List Char) := do
  let letters := "=dDgGhHlnNpPxzF".toList
  match cs with
  | [] => fail "missing command" []
  | c :: rest =>
    match c with
    | '\x7b' => return (.opening, rest)
    | '\x7d' =>
      if selection.start.isSome then fail "\x7d doesn't want any addresses" rest
      else return (.closing, ← atEnd rest)
    | 's' => (readSubstitution extended rest).map fun (edit, rest) => (.edit edit, rest)
    | 'y' => (readExchange rest).map fun (edit, rest) => (.edit edit, rest)
    | 'a' => (readText rest).map fun (text, rest) => (.edit (.append text), rest)
    | 'i' => (readText rest).map fun (text, rest) => (.edit (.insert text), rest)
    | 'c' => (readText rest).map fun (text, rest) => (.edit (.change text), rest)
    | ':' =>
      let (name, rest) := readLabel rest
      if selection.start.isSome then fail ": doesn't want any addresses" rest
      else if name = "" then fail "\":\" lacks a label" rest
      else return (.label name, ← atEnd rest)
    | 'b' =>
      let (name, rest) := readLabel rest
      return (.jump none name, ← atEnd rest)
    | 't' =>
      let (name, rest) := readLabel rest
      return (.jump (some true) name, ← atEnd rest)
    | 'T' =>
      let (name, rest) := readLabel rest
      return (.jump (some false) name, ← atEnd rest)
    | 'r' =>
      let (name, rest) := fileName rest
      if name = "" then fail "missing filename in r/R/w/W commands" rest
      else return (.edit (.readFile name), rest)
    | 'w' =>
      let (name, rest) := fileName rest
      if name = "" then fail "missing filename in r/R/w/W commands" rest
      else return (.edit (.writeFile name), rest)
    | c =>
      if c = 'q' || c = 'Q' then
        if selection.stop.isSome then fail "command only uses one address" rest
        else
          let (code, rest) := number (skipBlanks rest)
          return (.edit (.quit code (c = 'Q')), ← atEnd rest)
      else if letters.contains c then return (.edit (.letter c), ← atEnd rest)
      else fail ("unknown command: " ++ cited (String.singleton c)) rest

/-- Read the edits of a script. The fuel is more than the number of characters. -/
def readEdits (extended : Bool) :
    Nat → List Char → Except ScriptFault (List (Selection × RawEdit))
  | 0, _ => .ok []
  | fuel + 1, cs =>
    match cs.dropWhile fun c => c = ';' || c = ' ' || (9 ≤ c.toNat && c.toNat ≤ 13) with
    | [] => .ok []
    | '#' :: rest => readEdits extended fuel (rest.dropWhile (· ≠ '\n'))
    | cs => do
      let (selection, rest) ← readSelection extended cs
      let (edit, rest) ← readEdit extended selection rest
      return (selection, edit) :: (← readEdits extended fuel rest)

/-- The place behind the end of the block that is open before some edits, so deep in other blocks
    within it. -/
def blockEnd? : Nat → Nat → List (Selection × RawEdit) → Option Nat
  | _, _, [] => none
  | place, depth, (_, edit) :: rest =>
    match edit, depth with
    | .closing, 0 => some (place + 1)
    | .closing, depth + 1 => blockEnd? (place + 1) depth rest
    | .opening, depth => blockEnd? (place + 1) (depth + 1) rest
    | _, depth => blockEnd? (place + 1) depth rest

/-- Whether each end of a block has a start, given how many blocks are open. -/
def isBalanced : Nat → List (Selection × RawEdit) → Bool
  | _, [] => true
  | depth, (_, edit) :: rest =>
    match edit, depth with
    | .closing, 0 => false
    | .closing, depth + 1 => isBalanced depth rest
    | .opening, depth => isBalanced (depth + 1) rest
    | _, depth => isBalanced depth rest

/-- The place of a label; the empty one is the end. -/
def labelPlace? (edits : List (Selection × RawEdit)) (name : String) : Option Nat :=
  if name = "" then some edits.length
  else edits.findIdx? fun (_, edit) =>
    match edit with
    | .label other => other = name
    | _ => false

/-- Read a script. -/
def read (extended : Bool) (text : String) : Except ScriptFault (List SelectedEdit) := do
  let edits ← readEdits extended (text.length + 1) text.toList
  if !isBalanced 0 edits then
    fail ("unexpected " ++ cited "\x7d") ((text.toList.dropWhile (· ≠ '\x7d')).drop 1)
  let target (name : String) : Except ScriptFault Nat :=
    match labelPlace? edits name with
    | some place => .ok place
    | none => .error (.noLabel name)
  edits.zipIdx.mapM fun ((selection, raw), place) => do
    match raw with
    | .edit edit => return ⟨selection, edit⟩
    | .closing => return ⟨selection, .nothing⟩
    | .label _ => return ⟨selection, .nothing⟩
    | .opening =>
      match blockEnd? (place + 1) 0 (edits.drop (place + 1)) with
      | some stop => return ⟨selection, .block stop⟩
      | none => throw (.whole ("unmatched " ++ cited "\x7b"))
    | .jump none name => return ⟨selection, .jump (← target name)⟩
    | .jump (some replaced) name => return ⟨selection, .jumpIf replaced (← target name)⟩

end EditScript

end ContractBench.Shell.Program
