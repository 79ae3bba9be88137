import ContractBench.Shell.Program.Files
import ContractBench.Shell.Program.Lines

/-! # Programs that compare files

Programs that tell where two files differ, octet by octet or line by line, and what is known of
files besides what they hold.
-/

namespace ContractBench.Shell.Program

/-- The places where two texts differ, counted from one, with the octets there. -/
def differences : Nat → List Char → List Char → List (Nat × Char × Char)
  | n, a :: as, b :: bs =>
    if a = b then differences (n + 1) as bs else (n, a, b) :: differences (n + 1) as bs
  | _, _, _ => []

/-- Refuse arguments that end behind one. -/
def missingBehind (name last : String) : Act Nat := do
  complain name ("missing operand after '" ++ last ++ "'")
  complain name ("Try '" ++ name ++ " --help' for more information.")
  return 2

/-- Tell where two files first differ, or all places where they do. -/
def cmp : Program := fun _ name args =>
  withOptions { flags := "slb", valued := "ni", long := [("silent", 's'), ("quiet", 's'),
    ("verbose", 'l'), ("bytes", 'n'), ("print-bytes", 'b')] } name args 2 fun parsed => do
    match parsed.operands with
    | [] => missingBehind name name
    | first :: more =>
      let second := more.headD "-"
      let say (words : String) : Act Nat := do
        if !parsed.has 's' then complain name words
        return 2
      let cut (content : List Char) : List Char :=
        match parsed.number? 'n' with
        | some n => content.take n
        | none => content
      match ← contentOf first with
      | .error fault => say (first ++ ": " ++ fault.text)
      | .ok a =>
        match ← if first = second then pure (Except.ok a) else contentOf second with
        | .error fault => say (second ++ ": " ++ fault.text)
        | .ok b =>
          let (a, b) := (cut a, cut b)
          let found := differences 1 a b
          let shorter := min a.length b.length
          let lineAt (n : Nat) : String := toString ((a.take n).countP (· = '\n') + 1)
          if !parsed.has 's' && parsed.has 'l' then
            let width := (Nat.repr (max a.length b.length)).length
            let octal (c : Char) : String := flushRight 3 (String.ofList (Nat.toDigits 8 c.toNat))
            Act.print (String.join (found.map fun (n, x, y) =>
              flushRight width (toString n) ++ " " ++ octal x ++ " " ++ octal y ++ "\n"))
          match found with
          | (n, _, _) :: _ =>
            if !(parsed.has 's' || parsed.has 'l') then
              Act.print (first ++ " " ++ second ++ " differ: byte " ++ toString n ++ ", line " ++
                lineAt (n - 1) ++ "\n")
            if !parsed.has 'l' then return 1
          | [] => pure ()
          if a.length = b.length then return if found.isEmpty then 0 else 1
          else
            let short := if a.length < b.length then first else second
            let line := lineAt (shorter - 1)
            if !parsed.has 's' then
              complain name ("EOF on " ++ short ++
                if shorter = 0 then " which is empty"
                else " after byte " ++ toString shorter ++
                  (if parsed.has 'l' then ""
                    else (if (a.take shorter).getLast? = some '\n' then ", line "
                      else ", in line ") ++ line))
            return 1

/-- What is done with a line on the way from one text to another. -/
inductive LineFate where
  /-- It is in both. -/
  | kept
  /-- It is in the first alone. -/
  | dropped
  /-- It is in the second alone. -/
  | added
  deriving Repr, DecidableEq

/-- The lengths of the longest rows of lines that are in both of two texts, which a line and the
    starts of the second leave. Given are those without the line. -/
def commonRow (line : String) : List String → List Nat → List Nat
  | other :: others, below :: more =>
    let rest := commonRow line others more
    (if line = other then 1 + more.headD 0 else max below (rest.headD 0)) :: rest
  | _, _ => [0]

/-- The lengths of the longest rows of lines that are in both of two texts, for each end of the
    first and each end of the second. -/
def commonRows (second : List String) : List String → List (List Nat)
  | [] => [List.replicate (second.length + 1) 0]
  | line :: first =>
    let below := commonRows second first
    commonRow line second (below.headD []) :: below

/-- What is done with each line of two texts. The fuel is more than the number of their lines. -/
def lineFates : Nat → List (List Nat) → List String → List String → List LineFate
  | 0, _, _, _ => []
  | _, _, [], second => second.map fun _ => .added
  | _, _, first, [] => first.map fun _ => .dropped
  | fuel + 1, rows, a :: first, b :: second =>
    if a = b then
      .kept :: lineFates fuel ((rows.drop 1).map (·.drop 1)) first second
    else
      let without := ((rows.getD 1 []).headD 0, (rows.headD []).getD 1 0)
      if without.2 ≤ without.1 then .dropped :: lineFates fuel (rows.drop 1) first (b :: second)
      else .added :: lineFates fuel (rows.map (·.drop 1)) (a :: first) second

/-- A place where lines of two texts differ: their numbers before it, and the lines. -/
structure LineChange where
  /-- The number of lines of the first text before it. -/
  first : Nat
  /-- The number of lines of the second text before it. -/
  second : Nat
  /-- The lines of the first text. -/
  dropped : List String := []
  /-- The lines of the second text. -/
  added : List String := []

/-- The changes that the fates of lines make, given the one that is open. -/
def lineChanges : Nat → Nat → Option LineChange → List LineFate → List String → List String →
    List LineChange
  | _, _, current, [], _, _ => current.toList
  | i, j, current, fate :: fates, first, second =>
    let change := current.getD { first := i, second := j }
    match fate with
    | .kept =>
      current.toList ++ lineChanges (i + 1) (j + 1) none fates (first.drop 1) (second.drop 1)
    | .dropped =>
      lineChanges (i + 1) j (some { change with dropped := change.dropped ++ first.take 1 })
        fates (first.drop 1) second
    | .added =>
      lineChanges i (j + 1) (some { change with added := change.added ++ second.take 1 })
        fates first (second.drop 1)

/-- Some lines with a sign before each; one without a newline is marked. -/
def signedLines (sign : String) (lines : List String) : String :=
  String.join (lines.map fun line =>
    sign ++ line ++ if line.endsWith "\n" then "" else "\n\\ No newline at end of file\n")

/-- The text for a change. -/
def LineChange.text (change : LineChange) : String :=
  let range (start count : Nat) : String :=
    if count = 0 then toString start
    else if count = 1 then toString (start + 1)
    else toString (start + 1) ++ "," ++ toString (start + count)
  let letter := if change.added.isEmpty then "d" else if change.dropped.isEmpty then "a" else "c"
  range change.first change.dropped.length ++ letter ++
    range change.second change.added.length ++ "\n" ++ signedLines "< " change.dropped ++
    (if letter = "c" then "---\n" else "") ++ signedLines "> " change.added

/-- A line as it is compared: case and blanks may not count. -/
def comparedLine (parsed : Parsed) (line : String) : String :=
  let cs := if parsed.has 'i' then line.toList.map Char.toLower else line.toList
  let isBlank (c : Char) : Bool := c = ' ' || c = '\t'
  let rec squeeze : List Char → List Char
    | ' ' :: ' ' :: rest => squeeze (' ' :: rest)
    | ' ' :: '\n' :: rest => '\n' :: squeeze rest
    | c :: rest => c :: squeeze rest
    | [] => []
  String.ofList (if parsed.has 'w' then cs.filter (!isBlank ·)
    else if parsed.has 'b' then squeeze (cs.map fun c => if isBlank c then ' ' else c)
    else cs)

/-- Tell in which lines two files differ. -/
def diff : Program := fun _ name args =>
  withOptions { flags := "qsiwbBaN", long := [("brief", 'q'), ("report-identical-files", 's'),
    ("ignore-case", 'i'), ("ignore-all-space", 'w'), ("ignore-space-change", 'b'),
    ("text", 'a')] } name args 2 fun parsed => do
    match parsed.operands with
    | [] => missingBehind name name
    | [only] => missingBehind name only
    | _ :: _ :: extra :: _ => misuse name ("extra operand " ++ curled extra) 2
    | [first, second] =>
      let inside (folder path : String) : String := within folder (lastName path)
      let first' ← if ← isFolder first then pure (inside first second) else pure first
      let second' ← if ← isFolder second then pure (inside second first) else pure second
      let a? ← contentOf first'
      let b? ← if first' = second' then pure a? else contentOf second'
      match a?, b? with
      | .ok a, .ok b =>
        let verdict (words : String) : Act Unit :=
          Act.print (words ++ " " ++ first' ++ " and " ++ second' ++ " ")
        let (linesA, linesB) := (fullLines a, fullLines b)
        let (keysA, keysB) := (linesA.map (comparedLine parsed), linesB.map (comparedLine parsed))
        if keysA = keysB then
          if parsed.has 's' then
            verdict "Files"
            Act.print "are identical\n"
          return 0
        else if parsed.has 'q' then
          verdict "Files"
          Act.print "differ\n"
          return 1
        else if (a.contains '\x00' || b.contains '\x00') && !parsed.has 'a' then
          verdict "Binary files"
          Act.print "differ\n"
          return 1
        else
          let fates := lineFates (linesA.length + linesB.length + 1) (commonRows keysB keysA)
            keysA keysB
          Act.print (String.join
            ((lineChanges 0 0 none fates linesA linesB).map LineChange.text))
          return 1
      | _, _ =>
        match a? with
        | .error fault => complain name (first' ++ ": " ++ fault.text)
        | _ => pure ()
        match b? with
        | .error fault => complain name (second' ++ ": " ++ fault.text)
        | _ => pure ()
        return 2

/-- What is known of what lies at a path, by the letter of a format. -/
def statusField (path : String) (reached : Reached) (letter : Char) : String :=
  let isFolder := match reached with
    | .node _ .folder => true
    | .host .folder => true
    | _ => false
  let isRunnable := match reached with
    | .node _ (.file _ kind) => kind.isProgram
    | .host .program => true
    | _ => isFolder
  let size := match reached with
    | .node _ (.file bytes _) => bytes.length
    | _ => 4096
  match letter with
  | 'n' => path
  | 'N' => quoted path
  | 's' => toString size
  | 'a' => if isRunnable then "755" else "644"
  | 'A' => (if isFolder then "d" else "-") ++ if isRunnable then "rwxr-xr-x" else "rw-r--r--"
  | 'F' =>
    if isFolder then "directory"
    else if size = 0 then "regular empty file" else "regular file"
  | 'f' => (if isFolder then "4" else "8") ++ if isRunnable then "1ed" else "1a4"
  | 'u' => "0"
  | 'g' => "0"
  | 'U' => "root"
  | 'G' => "root"
  | 'h' => "1"
  | '%' => "%"
  | _ => "?"

/-- A format with what is known of what lies at a path put in. -/
def statusText (path : String) (reached : Reached) : List Char → String
  | '\\' :: 'n' :: rest => "\n" ++ statusText path reached rest
  | '\\' :: 't' :: rest => "\t" ++ statusText path reached rest
  | '%' :: letter :: rest => statusField path reached letter ++ statusText path reached rest
  | c :: rest => String.singleton c ++ statusText path reached rest
  | [] => ""

/-- Tell what is known of files. -/
def stat : Program := fun _ name args =>
  withOptions { flags := "Lft", valued := "cP", long := [("format", 'c'), ("printf", 'P'),
    ("dereference", 'L')] } name args 1 fun parsed => do
    if parsed.operands.isEmpty then missingOperand name 1
    else
      let format := ((parsed.value? 'c').orElse fun _ => parsed.value? 'P').getD "%n"
      let ending := if (parsed.value? 'P').isSome then "" else "\n"
      forEach parsed.operands fun path => do
        match ← found? path with
        | .error fault => refuse name ("cannot statx " ++ quoted path ++ ": " ++ fault.text) 1
        | .ok reached =>
          Act.print (statusText path reached format.toList ++ ending)
          return 0

end ContractBench.Shell.Program
