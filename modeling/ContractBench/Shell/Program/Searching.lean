import ContractBench.Shell.Program.Lines
import ContractBench.Shell.Expansion
import ContractBench.Shell.Regex

/-! # Searching

A program that writes the lines of files that fit an expression, or what else is asked for about
them.
-/

namespace ContractBench.Shell.Program

/-- What a search is for and what it shows. -/
structure Search where
  /-- The expression. -/
  regex : Regex
  /-- Whether upper and lower case are the same. -/
  ignoresCase : Bool
  /-- Whether the lines that do not fit are wanted. -/
  negated : Bool
  /-- The number of lines after which a file is left, if there is one. -/
  limit : Option Nat
  /-- The options. -/
  parsed : Parsed
  /-- Whether lines are shown with the name of their file. -/
  named : Bool

/-- Whether a line is wanted. -/
def Search.wants (search : Search) (line : String) : Bool :=
  let subject : Regex.Subject :=
    { text := (Octets.characters line.toList).toArray, ignoresCase := search.ignoresCase }
  (search.regex.search subject 0).isSome ≠ search.negated

/-- Whether a line is shown as it is, which one that is no text is only where this is asked for. -/
def Search.canShow (search : Search) (line : String) : Bool :=
  search.parsed.has 'a' || !(Octets.characters line.toList).any Octets.isStray

/-- The parts of a line that fit. The fuel is more than its length. -/
def matchesIn (regex : Regex) (subject : Regex.Subject) : Nat → Nat → List Regex.Match
  | 0, _ => []
  | fuel + 1, start =>
    match regex.search subject start with
    | none => []
    | some found =>
      if found.stop = found.start then matchesIn regex subject fuel (found.stop + 1)
      else found :: matchesIn regex subject fuel found.stop

/-- What leads a line: the name of its file and its number, each behind a mark. -/
def Search.lead (search : Search) (path : String) (number : Nat) (mark : String) : String :=
  (if search.named then path ++ mark else "") ++
    (if search.parsed.has 'n' then toString number ++ mark else "")

/-- Whether each of some lines is shown, given those that are wanted and how many lines around them
    are shown too. -/
def shownAround (before after : Nat) (wanted : List Bool) : List Bool :=
  let array := wanted.toArray
  (List.range wanted.length).map fun i =>
    (List.range (before + after + 1)).any fun step =>
      after ≤ i + step && (array[i + step - after]?).getD false

/-- The text for the lines of a file: those that are shown, with marks between groups. -/
def Search.context (search : Search) (path : String) (before after : Nat)
    (lines : List (String × Bool)) : String :=
  let shown := shownAround before after (lines.map (·.2))
  let entries := ((lines.zip shown).zipIdx).filter fun entry => entry.1.2
  let text (entry : ((String × Bool) × Bool) × Nat) : String :=
    let (((line, wanted), _), index) := entry
    if search.canShow line then
      search.lead path (index + 1) (if wanted then ":" else "-") ++ line ++ "\n"
    else ""
  let rec join (last : Option Nat) : List (((String × Bool) × Bool) × Nat) → String
    | [] => ""
    | entry :: rest =>
      let gap := last.any fun index => index + 1 < entry.2
      (if gap && 0 < before + after then "--\n" else "") ++ text entry ++
        join (some entry.2) rest
  join none entries

/-- The lines up to the last one that a limit admits. -/
def upToLimit : Option Nat → List (String × Bool) → List (String × Bool)
  | _, [] => []
  | some 0, _ => []
  | limit, (line, wanted) :: rest =>
    (line, wanted) :: upToLimit (if wanted then limit.map (· - 1) else limit) rest

/-- Search a file. The flag tells whether a line was wanted. -/
def Search.run (search : Search) (path : String) (content : List Char) : Act Bool := do
  let parsed := search.parsed
  let lines := upToLimit search.limit
    ((linesOf content).map fun line => (line, search.wants line))
  let count := lines.countP (·.2)
  let isBinary := content.contains '\x00' && !parsed.has 'a'
  if parsed.has 'q' then return 0 < count
  else if parsed.has 'l' || parsed.has 'L' then
    if (0 < count) = parsed.has 'l' then Act.print (path ++ "\n")
    return 0 < count
  else if parsed.has 'c' then
    Act.print ((if search.named then path ++ ":" else "") ++ toString count ++ "\n")
    return 0 < count
  else if isBinary then
    if 0 < count then complain "grep" (path ++ ": binary file matches")
    return 0 < count
  else if parsed.has 'o' then
    let texts := lines.zipIdx.map fun ((line, _), index) =>
      let subject : Regex.Subject :=
        { text := (Octets.characters line.toList).toArray, ignoresCase := search.ignoresCase }
      if search.negated then ""
      else
        String.join ((matchesIn search.regex subject (line.length + 2) 0).map fun found =>
          search.lead path (index + 1) ":" ++ Octets.narrow (found.part subject 0) ++ "\n")
    Act.print (String.join texts)
    return 0 < count
  else
    let around (letter : Char) : Nat :=
      ((parsed.number? letter).orElse fun _ => parsed.number? 'C').getD 0
    Act.print (search.context path (around 'B') (around 'A') lines)
    let shown := shownAround (around 'B') (around 'A') (lines.map (·.2))
    if (lines.zip shown).any fun ((line, _), isShown) => isShown && !search.canShow line then
      complain "grep" (path ++ ": binary file matches")
    return 0 < count

/-- The files at and below some paths. The fuel is more than the depth of the disk. -/
def filesAt : Nat → String → Act (List String)
  | 0, _ => return []
  | fuel + 1, path => do
    if ← isFolder path then
      let names ← namesIn path
      let found ← names.mapM fun name =>
        filesAt fuel (if path.endsWith "/" then path ++ name else path ++ "/" ++ name)
      return found.flatten
    else return [path]

/-- How deep folders are searched. -/
def folderDepth : Nat := 64

/-- The options of searches. -/
def searchOptions : Options :=
  { flags := "chilnoqsvwxzrRHLEFGPaIU", valued := "efmABC", long := [("count", 'c'),
    ("ignore-case", 'i'), ("files-with-matches", 'l'), ("files-without-match", 'L'),
    ("line-number", 'n'), ("only-matching", 'o'), ("quiet", 'q'), ("silent", 'q'),
    ("no-messages", 's'), ("invert-match", 'v'), ("word-regexp", 'w'), ("line-regexp", 'x'),
    ("recursive", 'r'), ("with-filename", 'H'), ("no-filename", 'h'), ("extended-regexp", 'E'),
    ("fixed-strings", 'F'), ("basic-regexp", 'G'), ("regexp", 'e'), ("file", 'f'),
    ("max-count", 'm'), ("after-context", 'A'), ("before-context", 'B'), ("context", 'C'),
    ("text", 'a'), ("color", 'U'), ("perl-regexp", 'P')] }

/-- The expression for texts of which one is to fit. -/
def expressionOf (parsed : Parsed) (letter : Option Char) (texts : List String) :
    Except Regex.Fault Regex := do
  let extended := letter = some 'E' || letter = some 'P'
  let bodies ← texts.mapM fun text =>
    let text := Octets.wide text
    if letter = some 'F' then pure (Regex.ofLiteral text)
    else
      Regex.read { extended := extended, digits := letter = some 'P', looseClosing := extended }
        text
  let body := match bodies with
    | [] => Regex.oneOf true []
    | first :: rest => rest.foldl .either first
  return if parsed.has 'x' then .inOrder (.edge .lineStart) (.inOrder body (.edge .lineEnd))
    else if parsed.has 'w' then
      .inOrder (.edge .behindNoWord) (.inOrder body (.edge .beforeNoWord))
    else body

/-- Search files for expressions, written in a way that options may change. -/
def grepAs (usual : Option Char) : Program := fun _ name args => do
  let usage : Act Nat := do
    Act.complain ("Usage: " ++ name ++ " [OPTION]... PATTERNS [FILE]...")
    tryHelp name
    return 2
  match readOptions searchOptions (args.length + 1) args {} with
  | .error fault =>
    complain name fault.message
    usage
  | .ok parsed =>
    let listed ← (parsed.values 'f').mapM contentOf
    match listed.findSome? fun entry => match entry with
      | .error fault => some fault
      | .ok _ => none with
    | some fault => refuse name (readingWords ((parsed.values 'f').headD "") fault) 2
    | none =>
      let fromFiles := (listed.map fun entry => linesOf (entry.toOption.getD [])).flatten
      let own := !(parsed.has 'e' || parsed.has 'f')
      match own, parsed.operands with
      | true, [] => usage
      | _, operands =>
        let given := if own then [operands.headD ""] else parsed.values 'e'
        let texts := (given.map fun text =>
          (text.split (· = '\n')).toList.map (·.toString)).flatten ++ fromFiles
        let paths := if own then operands.drop 1 else operands
        let letter := ((parsed.options.reverse.find? fun entry =>
          ['E', 'F', 'G', 'P'].contains entry.1).map (·.1)).or usual
        match expressionOf parsed letter texts with
        | .error fault => refuse name fault.message 2
        | .ok regex =>
          let recursive := parsed.has 'r' || parsed.has 'R'
          let found ← if recursive then do
              if paths.isEmpty then do
                let files ← filesAt folderDepth "."
                pure (files.map fun path => String.ofList (path.toList.drop 2))
              else do pure (← paths.mapM (filesAt folderDepth)).flatten
            else pure (if paths.isEmpty then ["-"] else paths)
          let search : Search :=
            { regex := regex
              ignoresCase := parsed.has 'i'
              negated := parsed.has 'v'
              limit := parsed.number? 'm'
              parsed := parsed
              named := !parsed.has 'h' &&
                (parsed.has 'H' || 1 < paths.length || recursive) }
          let results ← found.mapM fun path => do
            match ← contentOf path with
            | .error fault =>
              if !parsed.has 's' then complain name (path ++ ": " ++ fault.text)
              return 2
            | .ok content =>
              let title := if path = "-" then "(standard input)" else path
              return if ← search.run title content then 0 else 1
          let isFound := results.contains 0
          return if results.contains 2 && !(parsed.has 'q' && isFound) then 2
            else if parsed.has 'L' then (if results.contains 1 then 0 else 1)
            else if isFound then 0 else 1

/-- Search files for basic expressions. -/
def grep : Program := grepAs none

end ContractBench.Shell.Program
