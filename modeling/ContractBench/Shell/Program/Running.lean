import ContractBench.Shell.Program.Files
import ContractBench.Shell.Program.Lines
import ContractBench.Shell.Utility.Control

/-! # Programs that run programs

Programs that run others: with other variables, with arguments from the input, for a limited time.
And programs that tell about the host and the process.
-/

namespace ContractBench.Shell.Program

/-- Run a program with arguments. One that cannot be run is complained of, in words that the name of
    the program that runs it decides. -/
def runOther (services : Services) (name : String) (words : List String) : Act Nat := do
  match ← services.spawn words with
  | .ok ending => return ending.code
  | .error fault =>
    let program := words.headD ""
    let what := match lastName name with
      | "xargs" => program
      | "env" => curled program
      | "find" => curled program
      | _ => "failed to run command " ++ curled program
    refuse name (what ++ ": " ++ fault.text) (if fault = .file .notFound then 127 else 126)

/-- The variables that programs are given, with their values. -/
def environment : Act (List (String × String)) := do
  return ((← Act.process).bindings.filter (·.exported)).map fun binding =>
    (binding.name, binding.value.getD "")

/-- The settings that lead some arguments, and the other arguments. -/
def leadingSettings : List String → List (String × String) × List String
  | [] => ([], [])
  | arg :: rest =>
    match Utility.splitSetting arg with
    | (name, some value) =>
      let (more, rest) := leadingSettings rest
      ((name, value) :: more, rest)
    | (_, none) => ([], arg :: rest)

/-- Run a program with other variables, or show the variables. -/
def env : Program := fun services name args =>
  withOptions { flags := "i0v", valued := "uSC", anywhere := false, long := [
    ("ignore-environment", 'i'), ("unset", 'u'), ("split-string", 'S'), ("chdir", 'C')] }
    name args 125 fun parsed => do
      let operands := match parsed.operands with
        | "-" :: rest => rest
        | operands => operands
      let split := (parsed.values 'S').map fun text =>
        ((text.split (· = ' ')).toList.map (·.toString)).filter (· ≠ "")
      let (settings, words) := leadingSettings (split.flatten ++ operands)
      if parsed.has 'i' || parsed.operands.head? = some "-" then
        Act.setProcess fun process => { process with bindings := [] }
      (parsed.values 'u').forM Act.dropBinding
      settings.forM fun (variableName, value) =>
        Act.putBinding { name := variableName, value := some value, exported := true }
      match words with
      | [] =>
        let found ← environment
        Act.print (ofLines (found.map fun (variableName, value) => variableName ++ "=" ++ value))
        return 0
      | words => runOther services name words

/-- Show the values of variables. -/
def printenv : Program := fun _ name args =>
  withOptions { flags := "0" } name args 2 fun parsed => do
    let found ← environment
    if parsed.operands.isEmpty then
      Act.print (ofLines (found.map fun (variableName, value) => variableName ++ "=" ++ value))
      return 0
    else
      forEach parsed.operands fun wanted => do
        match found.find? fun entry => entry.1 = wanted with
        | some (_, value) =>
          Act.print (value ++ "\n")
          return 0
        | none => return 1

/-- Add a word to the words before it, if it has begun. -/
def addWord (word : Option (List Char)) (words : List String) : List String :=
  match word with
  | some cs => String.ofList cs.reverse :: words
  | none => words

/-- The words in a text, where blanks in quotes and behind a backslash do not separate. Given are
    the word that is being read, last character first, and the words before it, the last first. -/
def wordsIn : Option Char → Option (List Char) → List String → List Char → List String
  | _, word, words, [] => (addWord word words).reverse
  | some quote, word, words, c :: rest =>
    if c = quote then wordsIn none word words rest
    else wordsIn (some quote) (some (c :: word.getD [])) words rest
  | none, word, words, '\\' :: c :: rest => wordsIn none (some (c :: word.getD [])) words rest
  | none, word, words, c :: rest =>
    if c = '\'' || c = '"' then wordsIn (some c) (some (word.getD [])) words rest
    else if c = ' ' || c = '\t' || c = '\n' then wordsIn none none (addWord word words) rest
    else wordsIn none (some (c :: word.getD [])) words rest

/-- Some items in rows of a length. The fuel is more than the number of items. -/
def rowsOf {α : Type} (length : Nat) : Nat → List α → List (List α)
  | 0, _ => []
  | _, [] => []
  | fuel + 1, items => items.take length :: rowsOf length fuel (items.drop length)

/-- A text with another in place of a part, wherever it occurs. The fuel is more than its
    length. -/
def replaceAll (part new : List Char) : Nat → List Char → List Char
  | 0, cs => cs
  | _, [] => []
  | fuel + 1, c :: rest =>
    if part.isPrefixOf (c :: rest) then
      new ++ replaceAll part new fuel ((c :: rest).drop part.length)
    else c :: replaceAll part new fuel rest

/-- Run a program with arguments that are read from the input. -/
def xargs : Program := fun services name args =>
  withOptions { flags := "0rtxp", valued := "nILdPsaE", anywhere := false, long := [("null", '0'),
    ("no-run-if-empty", 'r'), ("max-args", 'n'), ("verbose", 't'), ("delimiter", 'd')] } name args 1
    fun parsed => do
      let content := ((← Act.readAll 0).toOption).getD []
      let given : List String :=
        if parsed.operands.isEmpty then ["echo"] else parsed.operands
      let separator : Option Char := if parsed.has '0' then some '\x00'
        else (parsed.value? 'd').bind fun text => (separatorList text.toList).head?.bind fun c =>
          c.toList.head?
      let trimmed (line : String) : String :=
        String.ofList (line.toList.dropWhile fun c => c = ' ' || c = '\t')
      let marker := parsed.value? 'I'
      let words : List String := match separator, marker with
        | some mark, _ =>
          let pieces := (piecesBetween mark [] content).map String.ofList
          if pieces.getLast? = some "" then pieces.dropLast else pieces
        | none, some _ => ((linesOf content).map trimmed).filter (· ≠ "")
        | none, none => wordsIn none none [] content
      let run (words : List String) : Act Nat := do
        if parsed.has 't' then Act.complain (" ".intercalate words)
        let code ← runOther services name words
        if code = 255 then
          refuse name (words.headD "" ++ ": exited with status 255; aborting") 124
        else return if code = 0 || code = 126 || code = 127 then code else 123
      let rows : List (List String) := match marker, parsed.number? 'n', parsed.number? 'L' with
        | some marker, _, _ =>
          words.map fun word => given.map fun arg =>
            String.ofList (replaceAll marker.toList word.toList (arg.length + 1) arg.toList)
        | none, some count, _ => (rowsOf (max 1 count) (words.length + 1) words).map (given ++ ·)
        | none, none, some count =>
          let lines := (linesOf content).map fun (line : String) =>
            wordsIn none none [] line.toList
          let kept := lines.filter fun words => !words.isEmpty
          (rowsOf (max 1 count) (kept.length + 1) kept).map fun row => given ++ row.flatten
        | none, none, none => if words.isEmpty && parsed.has 'r' then [] else [given ++ words]
      let rows := if rows.isEmpty && !parsed.has 'r' && marker.isNone then [given] else rows
      forEach rows run

/-- The thousandths of a second that a text asks for, with a letter for the unit. -/
def duration? (text : String) : Option Nat :=
  let unit (c : Char) : Option Nat :=
    match c with
    | 's' => some 1
    | 'm' => some 60
    | 'h' => some 3600
    | 'd' => some 86400
    | _ => none
  let (factor, body) := match text.toList.getLast?.bind unit with
    | some factor => (factor, String.ofList text.toList.dropLast)
    | none => (1, text)
  match decimalNumber? body with
  | some n =>
    if n.digits < 0 || body.startsWith "-" then none
    else some ((n.digits.toNat * 1000 * factor) / Nat.pow 10 n.places)
  | none => none

/-- Wait. -/
def sleep : Program := fun services name args => do
  if args.isEmpty then missingOperand name 1
  else
    match args.find? fun arg => (duration? arg).isNone with
    | some bad => misuse name ("invalid time interval " ++ curled bad) 1
    | none =>
      services.pause ((args.filterMap duration?).foldl (· + ·) 0)
      return 0

/-- Run a program for a limited time. -/
def timeout : Program := fun services name args =>
  withOptions { flags := "v", valued := "sk", anywhere := false, long := [("signal", 's'),
    ("kill-after", 'k'), ("preserve-status", 'v'), ("foreground", 'v')] } name args 125
    fun parsed => do
      match parsed.operands with
      | limit :: word :: words =>
        match duration? limit with
        | none => misuse name ("invalid time interval " ++ curled limit) 125
        | some limit =>
          let outer := (← Act.machine).deadline
          let start := (← Act.machine).clock
          let own := if limit = 0 then outer else
            some (min (start + limit) (outer.getD (start + limit)))
          Act.setMachine fun machine => { machine with deadline := own }
          let result ← services.spawn (word :: words)
          Act.setMachine fun machine => { machine with deadline := outer }
          match result with
          | .ok (.killed 15) => return 124
          | .ok ending => return ending.code
          | .error fault =>
            refuse name ("failed to run command " ++ curled word ++ ": " ++ fault.text)
              (if fault = .file .notFound then 127 else 126)
      | _ => missingOperand name 125

/-- Run a program in the usual way. -/
def runPlain (known : Options) : Program := fun services name args =>
  withOptions { known with anywhere := false } name args 125 fun parsed => do
    if parsed.operands.isEmpty then missingOperand name 125
    else runOther services name parsed.operands

/-- Tell who the user is. -/
def id : Program := fun _ name args =>
  withOptions { flags := "ugGnr" } name args 1 fun parsed => do
    let text := if parsed.has 'n' then "root"
      else if parsed.has 'u' || parsed.has 'g' || parsed.has 'G' then "0"
      else "uid=0(root) gid=0(root) groups=0(root)"
    Act.print (text ++ "\n")
    return 0

/-- Write a line that never changes. -/
def fixedLine (text : String) : Program := fun _ _ _ => do
  Act.print (text ++ "\n")
  return 0

/-- Tell what system the host has. -/
def uname : Program := fun _ name args =>
  withOptions { flags := "asmrnvpio" } name args 1 fun parsed => do
    let words := [('s', "Linux"), ('n', "localhost"), ('m', "x86_64"), ('o', "GNU/Linux")]
    let wanted := words.filter fun entry => parsed.has entry.1 || parsed.has 'a'
    let shown := if wanted.isEmpty then ["Linux"] else wanted.map (·.2)
    Act.print (" ".intercalate shown ++ "\n")
    return 0

/-- Send signals. -/
def kill : Program := fun _ name args => do
  Act.setProcess fun process => { process with utility := some name }
  match ← Act.observe (Utility.kill (fun _ _ => return false) args) with
  | .ok status => return status
  | .error .fault => return 1
  | .error jump => throw jump

/-- Tell the paths of programs. -/
def which : Program := fun _ name args =>
  withOptions { flags := "as" } name args 2 fun parsed => do
    let folders := (← Act.value? "PATH").getD ""
    let results ← parsed.operands.mapM fun wanted => do
      match ← Utility.findProgram? wanted folders with
      | some path =>
        if ← Utility.isProgram path then
          Act.print (path ++ "\n")
          return 0
        else return 1
      | none => return 1
    return if parsed.operands.isEmpty then 1 else results.foldl max 0

end ContractBench.Shell.Program
