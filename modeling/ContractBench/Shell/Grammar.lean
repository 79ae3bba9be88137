import ContractBench.Shell.Source

/-! # The grammar of shell scripts

Commands are read from tokens: pipelines joined by signs, conditions, loops, choices and functions.
A script is read one line of commands at a time, since what is run first may come before what has
no meaning.
-/

namespace ContractBench.Shell

/-- How a list of commands ends. -/
inductive ListKind where
  /-- With the line. -/
  | line
  /-- With a token that no command begins with; there is at least one command. -/
  | body
  /-- The same, with any number of commands. -/
  | any
  deriving Repr, DecidableEq

/-- The readers that commands need for the commands within them. -/
structure Grammar where
  /-- A list of commands. -/
  list : ListKind → Reader Command
  /-- One command. -/
  command : Reader Command

namespace Token

/-- The words with a meaning of their own. -/
def keywords : List String :=
  ["!", "case", "do", "done", "elif", "else", "esac", "fi", "for", "if", "in", "then", "until",
   "while", "\x7b", "\x7d"]

/-- The keywords that no command begins with. -/
def closers : List String := ["do", "done", "elif", "else", "esac", "fi", "then", "\x7d"]

/-- The keyword that a token is. -/
def keyword? : Token → Option String
  | .word pieces => (bareText? pieces).bind fun text => keywords.find? (· = text)
  | _ => none

/-- Whether a token ends a list of commands. -/
def closes (token : Token) : Bool :=
  match token with
  | .finish => true
  | .sign s => s = ")" || s = ";;"
  | token => (token.keyword?.map closers.contains).getD false

/-- Whether a token is a newline. -/
def isNewline : Token → Bool
  | .sign s => s = "\n"
  | _ => false

/-- Whether a token is a sign. -/
def isSign (token : Token) (text : String) : Bool :=
  match token with
  | .sign s => s = text
  | _ => false

/-- The name of a token. -/
def name : Token → String
  | .finish => "end of file"
  | .redirect _ _ => "redirection"
  | .sign s => if s = "\n" then "newline" else "\"" ++ s ++ "\""
  | .word pieces =>
    match keyword? (.word pieces) with
    | some keyword => "\"" ++ keyword ++ "\""
    | none => "word"

end Token

/-- The signs between commands, the longer ones first. -/
def signs : List String := ["&&", "||", ";;", ";", "&", "|", "(", ")"]

/-- The signs that change a stream, the longer ones first, with the stream they mean. -/
def redirectSigns : List (String × Nat) :=
  [("<<-", 0), ("<<", 0), ("<&", 0), ("<>", 0), ("<", 0), (">>", 1), (">&", 1), (">|", 1),
   (">", 1)]

/-- Whether some characters begin with a text. -/
def begins (text : String) (cs : List Char) : Bool := text.toList.isPrefixOf cs

/-- The stream and the sign with which some characters change a stream. -/
def redirect? (cs : List Char) : Option (Nat × String × List Char) :=
  let (stream, rest) := match cs with
    | c :: rest => if c.isDigit then (some (c.toNat - 48), rest) else (none, cs)
    | [] => (none, [])
  (redirectSigns.find? fun entry => begins entry.1 rest).map fun entry =>
    (stream.getD entry.2, entry.1, rest.drop entry.1.length)

namespace Reader

/-- Put a token back. -/
def putBack (token : Token) : Reader Unit :=
  modify fun source => { source with returned := some token }

/-- Drop blanks and a comment. -/
def skipBlanks : Nat → Reader Unit
  | 0 => return
  | fuel + 1 => do
    match ← peek with
    | some ' ' =>
      let _ ← raw
      skipBlanks fuel
    | some '\t' =>
      let _ ← raw
      skipBlanks fuel
    | some '#' => modify fun source => { source with rest := source.rest.dropWhile (· ≠ '\n') }
    | _ => return

/-- The readers of the commands within words. -/
def nested (grammar : Grammar) (token : Reader Token) : Nested where
  enclosed := do
    let body ← grammar.list .any
    let last ← token
    if last.isSign ")" then return body
    else fail (.unexpected last.name (some "\")\""))
  whole := grammar.list .any

/-- The next token, given how the one after a list of commands is read. -/
def tokenWith (grammar : Grammar) (closing : Reader Token) : Reader Token := do
  let source ← get
  match source.returned with
  | some token =>
    set { source with returned := none }
    return token
  | none =>
    skipBlanks (← fuel)
    match ← peek with
    | none => return .finish
    | some '\n' =>
      let _ ← raw
      modify fun source => { source with line := source.line + source.taken, taken := 0 }
      return .sign "\n"
    | some _ =>
      let source ← get
      match redirect? source.rest with
      | some (stream, sign, rest) =>
        set { source with rest := rest }
        return .redirect stream sign
      | none =>
        match signs.find? fun sign => begins sign source.rest with
        | some sign =>
          set { source with rest := source.rest.drop sign.length }
          return .sign sign
        | none => return .word (← readWord (nested grammar closing))

/-- A token that was put back, or none: what follows a list of commands that has ended. -/
def returnedToken : Reader Token := do
  let source ← get
  set { source with returned := none }
  return source.returned.getD .finish

/-- The next token. -/
def token (grammar : Grammar) : Reader Token := tokenWith grammar returnedToken

/-- The next token that is no newline. -/
def tokenAfterLines (grammar : Grammar) : Nat → Reader Token
  | 0 => return .finish
  | fuel + 1 => do
    let found ← token grammar
    if found.isNewline then tokenAfterLines grammar fuel else return found

/-- The next token that is no newline. -/
def solid (grammar : Grammar) : Reader Token := do tokenAfterLines grammar (← fuel)

/-- Refuse a token, while another may be expected. -/
def refuse {α : Type} (token : Token) (expected : Option String) : Reader α :=
  fail (.unexpected token.name expected)

/-- Take a keyword that must be there. -/
def expect (grammar : Grammar) (keyword : String) : Reader Unit := do
  let found ← solid grammar
  if found.keyword? = some keyword then return
  else refuse found (some ("\"" ++ keyword ++ "\""))

end Reader

/-- Split a text at the end of its first line. A newline in quotes or in the parentheses of a
    command within a word ends no line. -/
def splitLine : Option Char → Nat → List Char → List Char × List Char
  | _, _, [] => ([], [])
  | quote, depth, '\\' :: c :: rest =>
    if quote = some '\'' then
      let (line, rest) := splitLine quote depth (c :: rest)
      ('\\' :: line, rest)
    else
      let (line, rest) := splitLine quote depth rest
      ('\\' :: c :: line, rest)
  | some quote, depth, c :: rest =>
    let (line, rest) := splitLine (if c = quote then none else some quote) depth rest
    (c :: line, rest)
  | none, depth, c :: rest =>
    if c = '\n' ∧ depth = 0 then ([], rest)
    else
      let quote := if c = '\'' ∨ c = '"' then some c else none
      let depth := if c = '(' then depth + 1 else if c = ')' then depth - 1 else depth
      let (line, rest) := splitLine quote depth rest
      (c :: line, rest)

/-- The lines of a text, each with its newline unless it is the last and has none. -/
def linesOf : List Char → List Char → List (List Char)
  | [], line => if line.isEmpty then [] else [line.reverse]
  | '\n' :: rest, line => ('\n' :: line).reverse :: linesOf rest []
  | c :: rest, line => linesOf rest (c :: line)

/-- Split the lines before a closing line from those after it, and count the lines that end the
    text. -/
def splitHere (closing : List Char) (dropTabs : Bool) :
    List (List Char) → List (List Char) × List (List Char) × Nat
  | [] => ([], [], 0)
  | line :: rest =>
    let line := if dropTabs then line.dropWhile (· = '\t') else line
    if line = closing ∨ line = closing ++ ['\n'] then ([], rest, 1)
    else
      let (body, rest, count) := splitHere closing dropTabs rest
      (line :: body, rest, count + 1)

/-- Take the text that the lines after the current one give. -/
def takeHere (nested : Nested) (closing : Word) (dropTabs : Bool) : Reader Word := do
  let source ← get
  let (current, after) := splitLine none 0 source.rest
  let (body, after, count) := splitHere (plainText closing).toList dropTabs (linesOf after [])
  set { source with
    rest := current ++ '\n' :: after.flatten, taken := source.taken + count }
  let text := body.flatten
  if isBareWord closing then readText nested text
  else return [.text (String.ofList text) true]

/-- The change of a stream by a sign, whose word is yet to be read. -/
def readRedirect (grammar : Grammar) (stream : Nat) (sign : String) : Reader Redirect := do
  match ← Reader.token grammar with
  | .word target =>
    let file (opening : Opening) : Redirect := .file stream opening (target.withHome false)
    match sign with
    | "<<" =>
      return .here stream (← takeHere (Reader.nested grammar Reader.returnedToken) target false)
    | "<<-" =>
      return .here stream (← takeHere (Reader.nested grammar Reader.returnedToken) target true)
    | "<" => return file .reading
    | "<>" => return file .both
    | ">>" => return file .appending
    | ">" => return file (.writing false)
    | ">|" => return file (.writing true)
    | _ => return .copy stream target
  | token => Reader.refuse token none

/-- The changes of streams that come next, after some others, the last of them first. -/
def readRedirects (grammar : Grammar) : Nat → List Redirect → Reader (List Redirect)
  | 0, redirects => return redirects.reverse
  | fuel + 1, redirects => do
    match ← Reader.token grammar with
    | .redirect stream sign =>
      let redirect ← readRedirect grammar stream sign
      readRedirects grammar fuel (redirect :: redirects)
    | token =>
      Reader.putBack token
      return redirects.reverse

/-- The variable that a word sets, with its value. -/
def setting? : Word → Option (String × Word)
  | .text text false :: rest =>
    let name := text.toList.takeWhile (· ≠ '=')
    match text.toList.drop name.length with
    | '=' :: value =>
      if isName name then
        let rest := if value.isEmpty then rest else .text (String.ofList value) false :: rest
        some (String.ofList name, Word.withHome true rest)
      else none
    | _ => none
  | _ => none

/-- The names that no function can have. -/
def specialNames : List String :=
  [".", ":", "break", "continue", "eval", "exec", "exit", "export", "readonly", "return", "set",
   "shift", "times", "trap", "unset"]

/-- The parts of a simple command, the last of each first. -/
structure SimpleParts where
  /-- The variables it sets. -/
  settings : List (String × Word) := []
  /-- The words. -/
  words : List Word := []
  /-- The changes of streams. -/
  redirects : List Redirect := []

/-- Read the rest of a simple command, whose line is known. -/
def readSimple (grammar : Grammar) (line : Nat) : Nat → SimpleParts → Reader Command
  | 0, _ => return .skip
  | fuel + 1, parts => do
    match ← Reader.token grammar with
    | .word word =>
      match if parts.words.isEmpty then setting? word else none with
      | some setting =>
        readSimple grammar line fuel { parts with settings := setting :: parts.settings }
      | none =>
        readSimple grammar line fuel
          { parts with words := word.withHome false :: parts.words }
    | .redirect stream sign =>
      let redirect ← readRedirect grammar stream sign
      readSimple grammar line fuel { parts with redirects := redirect :: parts.redirects }
    | token =>
      match token.isSign "(", parts with
      | true, ⟨[], [word], []⟩ =>
        let closing ← Reader.token grammar
        if !closing.isSign ")" then Reader.refuse closing (some "\")\"")
        else
          let name := (bareText? word).getD ""
          if !isName name.toList || specialNames.contains name then Reader.fail .functionName
          else
            let line := (← get).line
            Reader.putBack (← Reader.solid grammar)
            return .define line name (← grammar.command)
      | _, _ =>
        Reader.putBack token
        return .simple line parts.settings.reverse parts.words.reverse parts.redirects.reverse

/-- Read the rest of a condition, behind its first keyword. -/
def readCondition (grammar : Grammar) : Nat → Reader Command
  | 0 => return .skip
  | fuel + 1 => do
    let test ← grammar.list .body
    Reader.expect grammar "then"
    let yes ← grammar.list .body
    let token ← Reader.token grammar
    match token.keyword? with
    | some "elif" => return .cond test yes (← readCondition grammar fuel)
    | some "else" =>
      let no ← grammar.list .body
      Reader.expect grammar "fi"
      return .cond test yes no
    | _ =>
      Reader.putBack token
      Reader.expect grammar "fi"
      return .cond test yes .skip

/-- The words up to another token, after some others, the last of them first. -/
def readWords (grammar : Grammar) : Nat → List Word → Reader (List Word)
  | 0, words => return words.reverse
  | fuel + 1, words => do
    match ← Reader.token grammar with
    | .word word => readWords grammar fuel (word.withHome false :: words)
    | token =>
      Reader.putBack token
      return words.reverse

/-- The word for all arguments of a shell. -/
def allArguments : Word := [.parameter "@" .plain false [] true]

/-- Read a loop over words, behind its first keyword. -/
def readEach (grammar : Grammar) : Reader Command := do
  let line := (← get).line
  match ← Reader.token grammar with
  | .word pieces =>
    match bareText? pieces with
    | some name =>
      if !isName name.toList then Reader.fail .loopVariable
      else
        let next ← Reader.solid grammar
        let words ←
          if next.keyword? = some "in" then
            let words ← readWords grammar (← Reader.fuel) []
            let token ← Reader.token grammar
            if token.isNewline || token.isSign ";" then pure words
            else Reader.refuse token none
          else do
            if !next.isSign ";" then Reader.putBack next
            pure [allArguments]
        Reader.expect grammar "do"
        let body ← grammar.list .body
        Reader.expect grammar "done"
        return .each line name words body
    | none => Reader.fail .loopVariable
  | _ => Reader.fail .loopVariable

/-- The patterns of a branch, of which the first token is read already. -/
def readPatterns (grammar : Grammar) : Nat → Token → List Word → Reader (List Word)
  | 0, _, patterns => return patterns.reverse
  | fuel + 1, .word pattern, patterns => do
    let patterns := pattern.withHome false :: patterns
    let token ← Reader.token grammar
    if token.isSign "|" then readPatterns grammar fuel (← Reader.token grammar) patterns
    else if token.isSign ")" then return patterns.reverse
    else Reader.refuse token (some "\")\"")
  | _, token, _ => Reader.refuse token none

/-- The branches of a choice, after some others, the last of them first. -/
def readBranches (grammar : Grammar) :
    Nat → List (List Word × Command) → Reader (List (List Word × Command))
  | 0, branches => return branches.reverse
  | fuel + 1, branches => do
    let token ← Reader.solid grammar
    if token.keyword? = some "esac" then return branches.reverse
    else
      let first ← if token.isSign "(" then Reader.token grammar else pure token
      let patterns ← readPatterns grammar (← Reader.fuel) first []
      let body ← grammar.list .any
      let branches := (patterns, body) :: branches
      let token ← Reader.solid grammar
      if token.isSign ";;" then readBranches grammar fuel branches
      else if token.keyword? = some "esac" then return branches.reverse
      else Reader.refuse token (some "\";;\"")

/-- Read a choice, behind its first keyword. -/
def readChoice (grammar : Grammar) : Reader Command := do
  let line := (← get).line
  match ← Reader.token grammar with
  | .word pieces =>
    Reader.expect grammar "in"
    return .choose line (pieces.withHome false) (← readBranches grammar (← Reader.fuel) [])
  | token => Reader.refuse token (some "word")

/-- A command with the changes of streams that follow it. -/
def withRedirects (grammar : Grammar) (line : Nat) (body : Command) : Reader Command := do
  let redirects ← readRedirects grammar (← Reader.fuel) []
  match redirects, body with
  | redirects, .apart line body _ => return .apart line body redirects
  | [], body => return body
  | redirects, body => return .redirected line body redirects

/-- Read one command, whose first token is known. -/
def readCommandFrom (grammar : Grammar) (token : Token) : Reader Command := do
  let line := (← get).line
  match token, token.keyword? with
  | .word _, none =>
    Reader.putBack token
    readSimple grammar line (← Reader.fuel) {}
  | .redirect _ _, _ =>
    Reader.putBack token
    readSimple grammar line (← Reader.fuel) {}
  | .sign "(", _ =>
    let body ← grammar.list .body
    let closing ← Reader.token grammar
    if closing.isSign ")" then withRedirects grammar line (.apart line body [])
    else Reader.refuse closing (some "\")\"")
  | _, some "\x7b" =>
    let body ← grammar.list .body
    Reader.expect grammar "\x7d"
    withRedirects grammar line body
  | _, some "if" => do withRedirects grammar line (← readCondition grammar (← Reader.fuel))
  | _, some "for" => do withRedirects grammar line (← readEach grammar)
  | _, some "case" => do withRedirects grammar line (← readChoice grammar)
  | token, keyword =>
    if keyword = some "while" ∨ keyword = some "until" then
      let test ← grammar.list .body
      Reader.expect grammar "do"
      let body ← grammar.list .body
      Reader.expect grammar "done"
      withRedirects grammar line (.loop (keyword = some "while") test body)
    else Reader.refuse token none

/-- The commands that pipes join to some others, the last of them first. -/
def readStages (grammar : Grammar) : Nat → List Command → Reader (List Command)
  | 0, stages => return stages.reverse
  | fuel + 1, stages => do
    let token ← Reader.token grammar
    if token.isSign "|" then
      let stage ← readCommandFrom grammar (← Reader.solid grammar)
      readStages grammar fuel (stage :: stages)
    else
      Reader.putBack token
      return stages.reverse

/-- Read commands joined by pipes. -/
def readPipeline (grammar : Grammar) (first : Token) : Reader Command := do
  let negated := first.keyword? = some "!"
  let token ← if negated then Reader.token grammar else pure first
  let stage ← readCommandFrom grammar token
  let body ← match ← readStages grammar (← Reader.fuel) [stage] with
    | [single] => pure single
    | stages => pure (Command.pipe stages)
  return if negated then .negate body else body

/-- Read the conditions and pipelines that follow one. -/
def readChain (grammar : Grammar) : Nat → Command → Reader Command
  | 0, first => return first
  | fuel + 1, first => do
    let token ← Reader.token grammar
    if token.isSign "&&" then
      let second ← readPipeline grammar (← Reader.solid grammar)
      readChain grammar fuel (.ifSuccess first second)
    else if token.isSign "||" then
      let second ← readPipeline grammar (← Reader.solid grammar)
      readChain grammar fuel (.ifFailure first second)
    else
      Reader.putBack token
      return first

/-- A command after the commands before it. -/
def Command.after (command : Command) : Option Command → Command
  | none => command
  | some before => .inOrder before command

/-- Read a list of commands, after those that are read already. -/
def readListFrom (grammar : Grammar) (kind : ListKind) : Nat → Option Command → Reader Command
  | 0, done => return done.getD .skip
  | fuel + 1, done => do
    let token ← if kind = .line then Reader.token grammar else Reader.solid grammar
    match token, token.closes && (kind = .any || (kind = .body && done.isSome)) with
    | .finish, _ =>
      Reader.putBack .finish
      return done.getD .skip
    | token, true =>
      Reader.putBack token
      return done.getD .skip
    | token, false =>
      if token.isNewline then return done.getD .skip
      else
        let line := (← get).line
        let first ← readPipeline grammar token
        let command ← readChain grammar (← Reader.fuel) first
        let next ← Reader.token grammar
        if next.isSign "&" then
          readListFrom grammar kind fuel
            (some ((Command.background line command).after done))
        else if next.isSign ";" then readListFrom grammar kind fuel (some (command.after done))
        else
          Reader.putBack next
          match next, next.isNewline with
          | .finish, _ => readListFrom grammar kind fuel (some (command.after done))
          | _, true => readListFrom grammar kind fuel (some (command.after done))
          | _, false =>
            if kind = .line then Reader.refuse next none
            else return command.after done

mutual
/-- Read a list of commands. The fuel is more than the depth in which commands lie within each
    other. -/
def readList : Nat → ListKind → Reader Command
  | 0, _ => Reader.fail .openBraces
  | fuel + 1, kind => do
    readListFrom ⟨readList fuel, readCommand fuel⟩ kind (← Reader.fuel) none

/-- Read one command. -/
def readCommand : Nat → Reader Command
  | 0 => Reader.fail .openBraces
  | fuel + 1 => do
    let grammar : Grammar := ⟨readList fuel, readCommand fuel⟩
    readCommandFrom grammar (← Reader.token grammar)
end

/-- The next line of commands of a script, and what is left of the script. There is none at the
    end. -/
def readLine? (source : Source) : Except SyntaxError (Option (Command × Source)) :=
  let source := { source with returned := none }
  if source.rest.isEmpty then .ok none
  else (readList (source.rest.length + 1) .line source).map fun (command, rest) =>
    some (command, rest)

/-- Whether nothing but blanks and comments is left of a script. -/
def Source.isSpent (source : Source) : Bool :=
  (source.rest.dropWhile fun c => c = ' ' || c = '\t' || c = '\n').isEmpty

end ContractBench.Shell
