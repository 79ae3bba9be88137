import ContractBench.Shell.Catalog
import ContractBench.Shell.Step

/-! # How programs begin

A process goes on as a program: one of the host, or a file that names its interpreter in its first
line. A new shell has no functions and of the variables only those that programs are given.
-/

namespace ContractBench.Shell

/-- The names of the shell. -/
def shellNames : List String := ["sh", "dash", "bash"]

/-- The interpreter that the first line of a file names, with the one argument that may follow. -/
def interpreter? (content : List Char) : Option (List String) :=
  match content with
  | '#' :: '!' :: rest =>
    let isBlank (c : Char) : Bool := c = ' ' || c = '\t'
    let line := (rest.takeWhile fun c => c ≠ '\n' && c ≠ '\x00').dropWhile isBlank
    let line := (line.reverse.dropWhile isBlank).reverse
    let program := line.takeWhile (!isBlank ·)
    let argument := (line.drop program.length).dropWhile isBlank
    if program.isEmpty then none
    else if argument.isEmpty then some [String.ofList program]
    else some [String.ofList program, String.ofList argument]
  | _ => none

/-- What the arguments of a shell ask for. -/
structure ShellCall where
  /-- Whether the script is an argument. -/
  takesScript : Bool := false
  /-- What follows the options. -/
  operands : List String := []

namespace ShellCall

/-- Heed the letters of an argument. The letter `o` takes the long name that comes next. -/
def heedLetters (on : Bool) : List Char → ShellCall → Act ShellCall
  | [], call => return call
  | c :: rest, call => do
    if c = 'c' then heedLetters on rest { call with takesScript := true }
    else if c = 'l' then heedLetters on rest call
    else if c = 'o' then
      match call.operands with
      | [] => heedLetters on rest call
      | name :: operands =>
        match Utility.optionNames.find? fun entry => entry.1 = name with
        | some (_, letter) =>
          Utility.setOption on letter
          heedLetters on rest { call with operands := operands }
        | none => Act.fault ("Illegal option " ++ (if on then "-" else "+") ++ "o " ++ name)
    else
      Utility.setOption on c
      heedLetters on rest call

/-- Read the options that lead the arguments. The fuel is more than their number. -/
def read : Nat → ShellCall → Act ShellCall
  | 0, call => return call
  | fuel + 1, call => do
    match call.operands with
    | [] => return call
    | arg :: operands =>
      match arg.toList with
      | ['-'] => return { call with operands := operands }
      | ['-', '-'] => return { call with operands := operands }
      | '-' :: letters => read fuel (← heedLetters true letters { call with operands := operands })
      | '+' :: letters => read fuel (← heedLetters false letters { call with operands := operands })
      | _ => return call

end ShellCall

/-- The variables of a new shell, besides those that it is given. -/
def newBindings (folder : String) (parent : Nat) : List Binding :=
  [⟨"IFS", some " \t\n", false, false⟩, ⟨"OPTIND", some "1", false, false⟩,
   ⟨"PPID", some (toString parent), false, false⟩, ⟨"PS1", some "# ", false, false⟩,
   ⟨"PS2", some "> ", false, false⟩, ⟨"PS4", some "+ ", false, false⟩,
   ⟨"PWD", some folder, true, false⟩]

/-- Begin anew as a program with arguments, which keeps little of the process it was before. -/
def renew (name : String) (args : List String) : Act Unit :=
  Act.setProcess fun process =>
    { name := name
      args := args
      id := process.id
      shellId := process.id
      streams := process.streams
      bindings := process.bindings.filter fun binding => binding.exported && binding.value.isSome
      traps := process.traps.filter fun entry => entry.2 = ""
      mask := process.mask }

namespace Tools

/-- Run the script that a shell is to run, with what it is called by and its arguments. -/
def runCall (tools : Tools) (call : ShellCall) (name : String) : Act Unit := do
  let callAs (name : String) (args : List String) : Act Unit :=
    Act.setProcess fun process => { process with name := name, args := args }
  let fromInput ← Act.hasOption 's'
  match call.takesScript, call.operands with
  | true, [] => Act.fault "-c requires an argument"
  | true, script :: operands =>
    callAs (operands.headD name) (operands.drop 1)
    tools.script { final := !fromInput } script
  | false, operands =>
    match if fromInput then none else operands.head? with
    | some path =>
      match ← Program.contentOf path with
      | .error _ => Act.fault ("cannot open " ++ path ++ ": No such file")
      | .ok text =>
        callAs path (operands.drop 1)
        tools.script {} (String.ofList text)
    | none =>
      callAs name operands
      match ← Act.readAll 0 with
      | .ok text => tools.script {} (String.ofList text)
      | .error _ => return

/-- Go on as a shell. -/
def startShell (tools : Tools) (name : String) (args : List String) : Act Unit := do
  renew name []
  let folder := "/" ++ "/".intercalate (← Act.disk).workDir
  let own := newBindings folder (firstId - 1)
  Act.setProcess fun process =>
    let given := process.bindings.filter fun binding =>
      isName binding.name.toList && own.all fun other => other.name ≠ binding.name
    { process with line := 0, bindings := given ++ own }
  let call ← ShellCall.read (args.length + 1) { operands := args }
  tools.runCall call name

/-- Go on as a program of the host. -/
def startProgram (services : Services) (program : Program) (name : String) (args : List String) :
    Act Unit := do
  renew name args
  Act.leave (← program services name args)

/-- What lies behind a path that leads to a program. -/
inductive Start where
  /-- A shell. -/
  | shell (name : String) (args : List String)
  /-- A program of the host. -/
  | program (body : Program) (name : String) (args : List String)

/-- How many files may name each other as interpreters. -/
def interpreterLimit : Nat := 5

/-- What a path leads to, with a name and arguments, if the system allows to run it; so many files
    may name others as their interpreters. -/
def startOf : Nat → String → String → List String → Act (Except SystemFault Start)
  | limit, path, name, args => do
    match ← Act.reach path with
    | .error fault => return .error (.file fault)
    | .ok (.gap _) => return .error (.file .notFound)
    | .ok (.host .program) =>
      let last := ((path.split (· = '/')).toList.map (·.toString)).getLastD ""
      if shellNames.contains last then return .ok (.shell name args)
      else
        match Program.named? last with
        | some program => return .ok (.program program name args)
        | none => return .error (.file .notFound)
    | .ok (.host _) => return .error .denied
    | .ok (.node _ .folder) => return .error .denied
    | .ok (.node _ (.file bytes kind)) =>
      if !kind.isProgram then return .error .denied
      else
        match interpreter? (Octets.ofBytes bytes), limit with
        | none, _ => return .error .notProgram
        | some _, 0 => return .error .tooManyLinks
        | some words, limit + 1 =>
          let program := words.headD ""
          startOf limit program program (words.drop 1 ++ path :: args)

/-- The folders in which programs are looked for where nothing else is said. -/
def usualFolders : String := "/bin:/usr/bin"

mutual
/-- What the host does for programs; the programs that they run may run others in turn, to a
    limited depth. -/
def servicesTo (tools : Tools) : Nat → Services
  | 0 => ⟨fun _ => return .ok (.exited 127), tools.pause⟩
  | depth + 1 =>
    { spawn := fun words => do
        match words with
        | [] => return .ok (.exited 0)
        | name :: args =>
          let folders := ((← Act.value? "PATH")).getD usualFolders
          match ← Utility.findProgram? name folders with
          | none => return .error (.file .notFound)
          | some path =>
            match ← startOf interpreterLimit path name args with
            | .error .notProgram =>
              return .ok (← tools.apart (startTo tools depth (.shell "/bin/sh" (path :: args))))
            | .error fault => return .error fault
            | .ok start => return .ok (← tools.apart (startTo tools depth start))
      pause := tools.pause }

/-- Go on as what lies behind a path. -/
def startTo (tools : Tools) : Nat → Start → Act Unit
  | _, .shell name args => tools.startShell name args
  | 0, .program _ _ _ => return
  | depth + 1, .program body name args =>
    startProgram (servicesTo tools depth) body name args
end

/-- How deep programs may run programs. -/
def programDepth : Nat := 100

/-- Go on as the program at a path, under a name, with arguments, if the system allows it. -/
def enter (tools : Tools) (path name : String) (args : List String) :
    Act (Except SystemFault Unit) := do
  match ← startOf interpreterLimit path name args with
  | .error fault => return .error fault
  | .ok start =>
    startTo tools programDepth start
    return .ok ()

end Tools

end ContractBench.Shell
