import ContractBench.Shell.Command

/-! # Words of shell scripts

A script is read from its front. A word ends before a sign or blank that is not in quotes. Within
it a backslash keeps the next character from its meaning, and a dollar sign or back tick begins a
place where something is put in. A backslash before a newline joins two lines.
-/

namespace ContractBench.Shell

/-- Why a script has no meaning. -/
inductive SyntaxFault where
  /-- A quote is not closed. -/
  | openQuote
  /-- Back ticks are not closed. -/
  | openTicks
  /-- Braces are not closed. -/
  | openBraces
  /-- A formula is not closed. -/
  | openFormula
  /-- A function cannot have the name. -/
  | functionName
  /-- A loop cannot have the variable. -/
  | loopVariable
  /-- A stream cannot have the name. -/
  | streamName
  /-- A token stands where it may not, while another may be expected. -/
  | unexpected (what : String) (expected : Option String)
  deriving Repr, DecidableEq

/-- The words for a fault. -/
def SyntaxFault.message : SyntaxFault → String
  | .openQuote => "Syntax error: Unterminated quoted string"
  | .openTicks => "Syntax error: EOF in backquote substitution"
  | .openBraces => "Syntax error: Missing '\x7d'"
  | .openFormula => "Syntax error: Missing '))'"
  | .functionName => "Syntax error: Bad function name"
  | .loopVariable => "Syntax error: Bad for loop variable"
  | .streamName => "Syntax error: Bad fd number"
  | .unexpected what expected =>
    let hint := match expected with
      | some keyword => " (expecting " ++ keyword ++ ")"
      | none => ""
    "Syntax error: " ++ what ++ " unexpected" ++ hint

/-- A fault and the line on which it is found. -/
structure SyntaxError where
  /-- The line. -/
  line : Nat
  /-- The fault. -/
  fault : SyntaxFault
  deriving Repr, DecidableEq

/-- A token. -/
inductive Token where
  /-- A word. -/
  | word (pieces : Word)
  /-- A sign between commands; a newline is one. -/
  | sign (text : String)
  /-- A change of a stream; its word is yet to be read. -/
  | redirect (stream : Nat) (sign : String)
  /-- The end of the script. -/
  | finish

/-- What is left of a script. -/
structure Source where
  /-- The characters. -/
  rest : List Char
  /-- The line of the first of them. -/
  line : Nat := 1
  /-- How many lines after the current one were taken out already. -/
  taken : Nat := 0
  /-- A token that was read and put back. -/
  returned : Option Token := none

/-- A reader of scripts. -/
abbrev Reader := StateT Source (Except SyntaxError)

/-- Drop the line ends that a backslash cancels. -/
def dropJoints : Nat → List Char → Nat × List Char
  | joints, '\\' :: '\n' :: rest => dropJoints (joints + 1) rest
  | joints, cs => (joints, cs)

namespace Reader

/-- Fail on the current line. -/
def fail {α : Type} (fault : SyntaxFault) : Reader α := do
  throw ⟨(← get).line, fault⟩

/-- The next character, which stays. -/
def peek : Reader (Option Char) := do
  let source ← get
  let (joints, rest) := dropJoints 0 source.rest
  set { source with rest := rest, line := source.line + joints }
  return rest.head?

/-- Take the next character as it stands. -/
def raw : Reader (Option Char) := do
  let source ← get
  match source.rest with
  | [] => return none
  | c :: rest =>
    set { source with rest := rest, line := if c = '\n' then source.line + 1 else source.line }
    return some c

/-- Take the next character. -/
def next : Reader (Option Char) := do
  let _ ← peek
  raw

/-- Take the next characters while they are of a kind; those taken so far are given last first. -/
def takeWhile (kind : Char → Bool) : Nat → List Char → Reader (List Char)
  | 0, taken => return taken.reverse
  | fuel + 1, taken => do
    match ← peek with
    | some c =>
      if kind c then
        let _ ← next
        takeWhile kind fuel (c :: taken)
      else return taken.reverse
    | none => return taken.reverse

/-- More than the number of tokens that are left, of which one may have been put back. -/
def fuel : Reader Nat := do return (← get).rest.length + 2

end Reader

/-- Whether a character ends a word. -/
def endsWord (c : Char) : Bool := " \t\n;&|<>()".toList.contains c

/-- Whether a character is a parameter by itself. -/
def isSpecial (c : Char) : Bool := c.isDigit || "@*#?$!-".toList.contains c

/-- The character that opens and closes a command in the older way. -/
def backTick : Char := Char.ofNat 96

/-- Where pieces are read. -/
inductive Zone where
  /-- In a word, outside quotes. -/
  | bare
  /-- In double quotes. -/
  | quotes
  /-- In the braces of a parameter, which may be in quotes. -/
  | braces (inQuotes : Bool)
  /-- In a formula, with the number of its open parentheses. -/
  | formula (depth : Nat)
  /-- In a text that ends with the script. -/
  | text
  deriving Repr, DecidableEq

/-- Whether the text of a zone counts as quoted. -/
def Zone.isQuoted : Zone → Bool
  | .bare => false
  | .braces inQuotes => inQuotes
  | _ => true

/-- A word that grows: its pieces and the text behind them, the last of each first. -/
structure Growing where
  /-- The pieces. -/
  pieces : List Piece := []
  /-- The text. -/
  letters : List Char := []
  /-- Whether the text is in quotes. -/
  quoted : Bool := false

namespace Growing

/-- The pieces, with the text as the last of them. -/
def closed (word : Growing) : List Piece :=
  if word.letters.isEmpty then word.pieces
  else .text (String.ofList word.letters.reverse) word.quoted :: word.pieces

/-- Add a character. -/
def add (word : Growing) (c : Char) (quoted : Bool) : Growing :=
  if word.quoted = quoted then { word with letters := c :: word.letters }
  else ⟨word.closed, [c], quoted⟩

/-- Add pieces. -/
def append (word : Growing) (pieces : List Piece) : Growing :=
  ⟨pieces.reverse ++ word.closed, [], word.quoted⟩

/-- The word. -/
def toWord (word : Growing) : Word := word.closed.reverse

end Growing

/-- The characters that a backslash keeps from their meaning in quotes. -/
def isKeptInQuotes (zone : Zone) (c : Char) : Bool :=
  c = '$' || c = '\\' || c = backTick || (c = '"' && zone ≠ .text) ||
    (c = '\x7d' && zone = .braces true)

/-- The text between back ticks; a backslash there keeps some characters from their meaning. -/
def readTicked (inQuotes : Bool) : Nat → List Char → Reader (List Char)
  | 0, _ => Reader.fail .openTicks
  | fuel + 1, taken => do
    match ← Reader.raw with
    | none => Reader.fail .openTicks
    | some '\\' =>
      match ← Reader.raw with
      | none => Reader.fail .openTicks
      | some c =>
        if c = '\n' then readTicked inQuotes fuel taken
        else if c = '\\' || c = '$' || c = backTick || (c = '"' && inQuotes) then
          readTicked inQuotes fuel (c :: taken)
        else readTicked inQuotes fuel (c :: '\\' :: taken)
    | some c =>
      if c = backTick then return taken.reverse else readTicked inQuotes fuel (c :: taken)

/-- How the commands within words are read. -/
structure Nested where
  /-- Commands up to a closing parenthesis, which is taken. -/
  enclosed : Reader Command
  /-- All commands that are left. -/
  whole : Reader Command

/-- The command in a text of its own. -/
def readApart (nested : Nested) (text : List Char) : Reader Command := fun outer =>
  match nested.whole { rest := text, line := outer.line } with
  | .ok (command, _) => .ok (command, outer)
  | .error e => .error e

/-- The treatment that a character asks for. -/
def treatment? (c : Char) : Option Treatment :=
  match c with
  | '-' => some .orElse
  | '+' => some .instead
  | '?' => some .orComplain
  | '=' => some .orAssign
  | _ => none

/-- The name of a parameter in braces, and whether the number of its octets is asked for. There is
    no name where none can be read. -/
def readName : Reader (Option String × Bool) := do
  let fuel ← Reader.fuel
  let plain (c : Char) : Reader String := do
    if beginsName c then return String.ofList (← Reader.takeWhile isNameChar fuel [])
    else return String.ofList (← Reader.takeWhile Char.isDigit fuel [])
  match ← Reader.peek with
  | none => return (none, false)
  | some c =>
    if beginsName c || c.isDigit then return (some (← plain c), false)
    else if c = '\x7d' then return (none, false)
    else
      let _ ← Reader.next
      if c ≠ '#' then return (if isSpecial c then some (String.singleton c) else none, false)
      else
        match ← Reader.peek with
        | none => return (some "#", false)
        | some d =>
          if beginsName d || d.isDigit then return (some (← plain d), true)
          else if isSpecial d then
            let source ← get
            let _ ← Reader.next
            if (← Reader.peek) = some '\x7d' then return (some (String.singleton d), true)
            else
              set source
              return (some "#", false)
          else return (some "#", false)

/-- A parameter in braces, behind the opening one. -/
def readBraced (word : Zone → Reader Word) (zone : Zone) : Reader Piece := do
  let quoted := zone.isQuoted
  let (name, sized) ← readName
  let finish (name : String) (treatment : Treatment) (strict : Bool) (zone : Zone) :
      Reader Piece := do
    return .parameter name treatment strict (← word zone) quoted
  match name with
  | none => finish "" .unknown false (.braces quoted)
  | some name =>
    match ← Reader.peek with
    | none => Reader.fail .openBraces
    | some '\x7d' =>
      let _ ← Reader.next
      return .parameter name (if sized then .size else .plain) false [] quoted
    | some c =>
      if sized then finish name .unknown false (.braces quoted)
      else if c = '#' || c = '%' then
        let _ ← Reader.next
        let longest := (← Reader.peek) = some c
        if longest then
          let _ ← Reader.next
        finish name (if c = '#' then .cutStart longest else .cutEnd longest) false (.braces false)
      else
        let strict := c = ':'
        if strict then
          let _ ← Reader.next
        match (← Reader.peek).bind treatment? with
        | some treatment =>
          let _ ← Reader.next
          finish name treatment strict (.braces quoted)
        | none => finish name .unknown false (.braces quoted)

/-- What a dollar sign stands for, behind it; nothing if it stands for itself. -/
def readDollar (nested : Nested) (word : Zone → Reader Word) (zone : Zone) :
    Reader (Option Piece) := do
  let quoted := zone.isQuoted
  match ← Reader.peek with
  | some '(' =>
    let _ ← Reader.next
    if (← Reader.peek) = some '(' then
      let _ ← Reader.next
      return some (.formula (← word (.formula 0)) quoted)
    else return some (.output (← nested.enclosed) quoted)
  | some '\x7b' =>
    let _ ← Reader.next
    return some (← readBraced word zone)
  | some c =>
    if beginsName c then
      let name ← Reader.takeWhile isNameChar (← Reader.fuel) []
      return some (.parameter (String.ofList name) .plain false [] quoted)
    else if isSpecial c then
      let _ ← Reader.next
      return some (.parameter (String.singleton c) .plain false [] quoted)
    else return none
  | none => return none

/-- What a zone fails with when a script ends in it. -/
def Zone.openFault : Zone → Option SyntaxFault
  | .bare => none
  | .text => none
  | .quotes => some .openQuote
  | .braces _ => some .openBraces
  | .formula _ => some .openFormula

/-- The text of single quotes, behind the opening one. -/
def readVerbatim : Nat → List Char → Reader (List Char)
  | 0, _ => Reader.fail .openQuote
  | fuel + 1, taken => do
    match ← Reader.raw with
    | none => Reader.fail .openQuote
    | some '\'' => return taken.reverse
    | some c => readVerbatim fuel (c :: taken)

/-- The pieces of a zone, up to its end. The fuel is more than the number of characters. -/
def readPieces (nested : Nested) : Nat → Zone → Growing → Reader Word
  | 0, _, _ => Reader.fail .openQuote
  | fuel + 1, zone, word => do
    let quoted := zone.isQuoted
    match ← Reader.peek with
    | none =>
      match zone.openFault with
      | some fault => Reader.fail fault
      | none => return word.toWord
    | some c =>
      if zone = .bare && endsWord c then return word.toWord
      else
        let _ ← Reader.raw
        match c with
        | '$' =>
          match ← readDollar nested (fun zone => readPieces nested fuel zone {}) zone with
          | some piece => readPieces nested fuel zone (word.append [piece])
          | none => readPieces nested fuel zone (word.add '$' quoted)
        | '\\' =>
          match ← Reader.raw with
          | none => readPieces nested fuel zone (word.add '\\' true)
          | some c =>
            if !quoted || isKeptInQuotes zone c then readPieces nested fuel zone (word.add c true)
            else readPieces nested fuel zone ((word.add '\\' true).add c true)
        | '"' =>
          match zone with
          | .quotes => return word.toWord
          | .text => readPieces nested fuel zone (word.add c true)
          | .formula _ => readPieces nested fuel zone (word.add c true)
          | _ =>
            let inner ← readPieces nested fuel .quotes {}
            readPieces nested fuel zone
              (word.append (if inner.isEmpty then [.text "" true] else inner))
        | '\'' =>
          if quoted then readPieces nested fuel zone (word.add c true)
          else
            let text ← readVerbatim fuel []
            readPieces nested fuel zone (word.append [.text (String.ofList text) true])
        | '\x7d' =>
          match zone with
          | .braces _ => return word.toWord
          | _ => readPieces nested fuel zone (word.add c quoted)
        | '(' =>
          match zone with
          | .formula depth => readPieces nested fuel (.formula (depth + 1)) (word.add c true)
          | _ => readPieces nested fuel zone (word.add c quoted)
        | ')' =>
          match zone with
          | .formula 0 =>
            if (← Reader.peek) = some ')' then
              let _ ← Reader.next
              return word.toWord
            else readPieces nested fuel zone (word.add c true)
          | .formula (depth + 1) => readPieces nested fuel (.formula depth) (word.add c true)
          | _ => readPieces nested fuel zone (word.add c quoted)
        | c =>
          if c = backTick then
            let text ← readTicked quoted fuel []
            let body ← readApart nested text
            readPieces nested fuel zone (word.append [.output body quoted])
          else readPieces nested fuel zone (word.add c quoted)

/-- The word that begins what is left. -/
def readWord (nested : Nested) : Reader Word := do
  readPieces nested (← Reader.fuel) .bare {}

/-- The pieces of a text in which only what is put in counts. -/
def readText (nested : Nested) (text : List Char) : Reader Word := fun outer =>
  match readPieces nested (text.length + 1) .text {} { rest := text, line := outer.line } with
  | .ok (word, _) => .ok (word, outer)
  | .error e => .error e

/-- A word in which the sign for the folder of the user stands for it, at its start and, in the
    value of a variable, behind colons. -/
def Word.withHome (inValue : Bool) (word : Word) : Word :=
  go true word
where
  /-- Work on the pieces; the flag tells whether the sign counts at the start of the first. -/
  go (start : Bool) : Word → Word
    | [] => []
    | .text text false :: rest =>
      match text.toList with
      | [] => .text text false :: go start rest
      | cs => letters start [] cs rest.isEmpty ++ go (inValue && cs.getLast? = some ':') rest
    | piece :: rest => piece :: go false rest
  /-- Work on the letters of a text; those passed are given last first. -/
  letters (start : Bool) (passed : List Char) : List Char → Bool → Word
    | [], _ => flush passed
    | '~' :: 'r' :: 'o' :: 'o' :: 't' :: rest, isLast =>
      if start && endsHome rest isLast then
        flush passed ++ .text "/root" true :: letters false [] rest isLast
      else letters false ("toor~".toList ++ passed) rest isLast
    | '~' :: rest, isLast =>
      let ends := endsHome rest isLast
      if start && ends then flush passed ++ .home :: letters false [] rest isLast
      else letters false ('~' :: passed) rest isLast
    | c :: rest, isLast => letters (inValue && c = ':') (c :: passed) rest isLast
  /-- Whether the name of a home ends before some letters. -/
  endsHome (rest : List Char) (isLast : Bool) : Bool :=
    match rest with
    | [] => isLast
    | c :: _ => c = '/' || (inValue && c = ':')
  /-- The text of letters given last first. -/
  flush (passed : List Char) : Word :=
    if passed.isEmpty then [] else [.text (String.ofList passed.reverse) false]

end ContractBench.Shell
