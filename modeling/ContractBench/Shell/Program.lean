import ContractBench.Shell.Format
import ContractBench.Shell.Stream

/-! # Programs of the host

A program is given its name and its arguments, works on the streams and the disk, and leaves an
exit code. What it cannot do by itself, the host does for it.
-/

namespace ContractBench.Shell

/-- What the host does for programs. -/
structure Services where
  /-- Run a program with arguments in a process of its own. -/
  spawn : List String → Act (Except SystemFault Ending)
  /-- Wait for so many thousandths of a second. -/
  pause : Nat → Act Unit

/-- A program. -/
abbrev Program := Services → String → List String → Act Nat

namespace Program

/-- Complain in the name of a program. -/
def complain (name words : String) : Act Unit := Act.complain (name ++ ": " ++ words)

/-- Complain in the name of a program, and give an exit code. -/
def refuse (name words : String) (code : Nat) : Act Nat := do
  complain name words
  return code

/-- What is said to one who uses a program in a wrong way. -/
def tryHelp (name : String) : Act Unit :=
  Act.complain ("Try '" ++ name ++ " --help' for more information.")

/-- Refuse wrong use of a program. -/
def misuse (name words : String) (code : Nat) : Act Nat := do
  complain name words
  tryHelp name
  return code

/-- Refuse arguments that are too few. -/
def missingOperand (name : String) (code : Nat) : Act Nat := misuse name "missing operand" code

/-- What a file or a stream gives. A dash is the input. -/
def contentOf (path : String) : Act (Except SystemFault (List Char)) := do
  if path = "-" then Act.readAll 0
  else
    match ← Act.openPath path .reading with
    | .error fault => return .error fault
    | .ok index => Act.unreadOf index

/-- A name in messages, in quotes if it holds more than plain characters. -/
def shown (name : String) : String := Format.shellQuoted name

/-- A name in messages, always in quotes. -/
def quoted (name : String) : String :=
  let text := Format.shellQuoted name
  if text.startsWith "'" || text.startsWith "\"" then text else "'" ++ text ++ "'"

/-- A name in messages, in quotes that curl around it. -/
def curled (name : String) : String := Format.curled name

/-- The contents of some files, with their names, or of the input if there are none. What cannot be
    read is complained of in some words, and makes the exit code one. -/
def inputsWith (words : String → SystemFault → String) (name : String) (paths : List String) :
    Act (List (String × List Char) × Nat) := do
  let results ← (if paths.isEmpty then ["-"] else paths).mapM fun path => do
    match ← contentOf path with
    | .ok content => return some (path, content)
    | .error fault =>
      complain name (words path fault)
      return none
  return (results.filterMap id, if results.all (·.isSome) then 0 else 1)

/-- The usual words for a file that cannot be read. -/
def readingWords (path : String) (fault : SystemFault) : String :=
  shown path ++ ": " ++ fault.text

/-- The contents of some files, with their names, or of the input if there are none. -/
def inputs : String → List String → Act (List (String × List Char) × Nat) :=
  inputsWith readingWords

/-- The contents of some files one behind the other, or of the input if there are none. -/
def joinedInputs (name : String) (paths : List String) : Act (List Char × Nat) := do
  let (found, status) ← inputs name paths
  return ((found.map (·.2)).flatten, status)

/-- The lines of a text, without their newlines. -/
def linesFrom : List Char → List Char → List (List Char)
  | [], line => if line.isEmpty then [] else [line.reverse]
  | '\n' :: rest, line => line.reverse :: linesFrom rest []
  | c :: rest, line => linesFrom rest (c :: line)

/-- The lines of a text, without their newlines; what follows the last newline is a line unless it
    is empty. -/
def linesOf (text : List Char) : List String := (linesFrom text []).map String.ofList

/-- A text of lines. -/
def ofLines (lines : List String) : String := String.join (lines.map fun line => line ++ "\n")

/-- What is known of the options of a program: letters without and with a value, and long names
    for letters. -/
structure Options where
  /-- The letters without a value. -/
  flags : String := ""
  /-- The letters with a value. -/
  valued : String := ""
  /-- The long names and the letters they stand for. -/
  long : List (String × Char) := []
  /-- Whether options may stand behind other arguments. -/
  anywhere : Bool := true

/-- The options and the other arguments of a program. -/
structure Parsed where
  /-- The options in order, with their values. -/
  options : List (Char × String) := []
  /-- The other arguments. -/
  operands : List String := []

/-- Whether an option is there. -/
def Parsed.has (parsed : Parsed) (letter : Char) : Bool :=
  parsed.options.any fun entry => entry.1 = letter

/-- The last value of an option. -/
def Parsed.value? (parsed : Parsed) (letter : Char) : Option String :=
  (parsed.options.reverse.find? fun entry => entry.1 = letter).map (·.2)

/-- All values of an option. -/
def Parsed.values (parsed : Parsed) (letter : Char) : List String :=
  (parsed.options.filter fun entry => entry.1 = letter).map (·.2)

/-- Why options cannot be read. -/
inductive OptionFault where
  /-- A letter is not known. -/
  | letter (c : Char)
  /-- A long name is not known. -/
  | name (text : String)
  /-- An option lacks its value. -/
  | noValue (c : Char)
  deriving Repr, DecidableEq

/-- The words for a fault. -/
def OptionFault.message : OptionFault → String
  | .letter c => "invalid option -- '" ++ String.singleton c ++ "'"
  | .name text => "unrecognized option '" ++ text ++ "'"
  | .noValue c => "option requires an argument -- '" ++ String.singleton c ++ "'"

/-- Read the letters of one argument; the value of the last may be the next argument. The flag
    tells whether it is. -/
def readLetters (known : Options) (next : Option String) :
    List Char → Except OptionFault (List (Char × String) × Bool)
  | [] => .ok ([], false)
  | c :: rest =>
    if known.valued.toList.contains c then
      if !rest.isEmpty then .ok ([(c, String.ofList rest)], false)
      else
        match next with
        | some value => .ok ([(c, value)], true)
        | none => .error (.noValue c)
    else if known.flags.toList.contains c then
      (readLetters known next rest).map fun (more, used) => ((c, "") :: more, used)
    else .error (.letter c)

/-- Read a long option. The flag tells whether its value is the next argument. -/
def readLong (known : Options) (next : Option String) (arg : String) :
    Except OptionFault (List (Char × String) × Bool) :=
  let body := arg.toList.drop 2
  let name := String.ofList (body.takeWhile (· ≠ '='))
  let value := body.drop (name.length + 1)
  match known.long.find? fun entry => entry.1 = name with
  | none => .error (.name arg)
  | some (_, c) =>
    if known.valued.toList.contains c then
      if name.length < body.length then .ok ([(c, String.ofList value)], false)
      else
        match next with
        | some value => .ok ([(c, value)], true)
        | none => .error (.noValue c)
    else .ok ([(c, String.ofList value)], false)

/-- Read the options among some arguments. The fuel is more than their number. -/
def readOptions (known : Options) : Nat → List String → Parsed → Except OptionFault Parsed
  | 0, _, parsed => .ok parsed
  | _, [], parsed => .ok parsed
  | fuel + 1, arg :: rest, parsed =>
    let found : Option (Except OptionFault (List (Char × String) × Bool)) :=
      match arg.toList with
      | '-' :: '-' :: _ :: _ => some (readLong known rest.head? arg)
      | '-' :: c :: letters =>
        if c = '-' then none else some (readLetters known rest.head? (c :: letters))
      | _ => none
    match found with
    | some (.ok (options, used)) =>
      readOptions known fuel (if used then rest.drop 1 else rest)
        { parsed with options := parsed.options ++ options }
    | some (.error fault) => .error fault
    | none =>
      if arg = "--" then .ok { parsed with operands := parsed.operands ++ rest }
      else if known.anywhere then
        readOptions known fuel rest { parsed with operands := parsed.operands ++ [arg] }
      else .ok { parsed with operands := parsed.operands ++ arg :: rest }

/-- Go on with the options and other arguments of a program, or refuse them. -/
def withOptions (known : Options) (name : String) (args : List String) (code : Nat)
    (body : Parsed → Act Nat) : Act Nat :=
  match readOptions known (args.length + 1) args {} with
  | .ok parsed => body parsed
  | .error fault => misuse name fault.message code

end Program

end ContractBench.Shell
