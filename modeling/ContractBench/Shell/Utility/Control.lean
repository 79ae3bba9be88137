import ContractBench.Shell.Grammar
import ContractBench.Shell.Utility.Variables

/-! # Utilities for the flow of a script

The utilities of a shell that end it, its loops and its functions, that send and heed signals, that
move it to another folder and that tell what a name means.
-/

namespace ContractBench.Shell.Utility

/-- The exit code in the first of some arguments, or that of the last command. -/
def givenStatus (args : List String) : Act Nat := do
  match args.head? with
  | some arg => return (← naturalNumber arg)
  | none => Act.status

/-- End the shell. -/
def exit (args : List String) : Act Nat := do
  Act.leave ((← givenStatus args) % 256)
  throw .finish

/-- End the function or script that runs. -/
def leaveCall (args : List String) : Act Nat := do
  Act.leave (← givenStatus args)
  throw .leaveCall

/-- Jump out of loops, or do nothing outside them. -/
def leaveLoops (jump : Nat → Jump) (args : List String) : Act Nat := do
  let count ← match args.head? with
    | some arg => naturalNumber arg
    | none => pure 1
  if count = 0 then Act.fault ("Illegal number: " ++ args.headD "")
  else
    let depth := min count (← Act.process).loops
    if depth = 0 then return 0
    else
      Act.leave 0
      throw (jump depth)

/-- Show what is done on signals. -/
def showTraps : Act Unit := do
  let traps := (← Act.process).traps.mergeSort fun a b => a.1 ≤ b.1
  Act.print (String.join (traps.map fun (signal, action) =>
    "trap -- " ++ singleQuoted action ++ " " ++ Signal.name signal ++ "\n"))

/-- Do something on signals, or what is usual. -/
def setTraps (action : Option String) (signals : List String) : Act Nat := do
  match signals with
  | [] => return 0
  | name :: rest =>
    match Signal.ofText? name with
    | none =>
      Act.complain ("trap: " ++ name ++ ": bad trap")
      return 1
    | some signal =>
      Act.setProcess fun process =>
        let others := process.traps.filter fun entry => entry.1 ≠ signal
        { process with traps := match action with
            | some text => (signal, text) :: others
            | none => others }
      setTraps action rest

/-- Say what is to be done on signals. -/
def trap (args : List String) : Act Nat := do
  let (_, args) ← takeOptions [] (if args.head? = some "-" then "--" :: args else args)
  match args with
  | [] =>
    showTraps
    return 0
  | [signal] => setTraps none [signal]
  | action :: signals =>
    if action = "-" then setTraps none signals
    else if action.toNat?.isSome then setTraps none args
    else setTraps (some action) signals

/-- The words on how to send signals. -/
def killUsage : String :=
  "Usage: kill [-s sigspec | -signum | -sigspec] [pid | job]... or\nkill -l [exitstatus]"

/-- Send a signal to a process, given how jobs are sent one. -/
def sendTo (sendToJob : Nat → Nat → Act Bool) (signal : Nat) (target : String) : Act Nat := do
  match target.toList with
  | '%' :: _ => Act.fault ("No such job: " ++ target)
  | '-' :: _ => return 0
  | _ =>
    let id ← naturalNumber target
    let process ← Act.process
    if ← sendToJob id signal then return 0
    else if id = 0 || (firstId ≤ id && id ≤ process.id) then
      if signal ≠ 0 then Act.send (if id = 0 then process.id else id) signal
      return 0
    else
      Act.grumble "No such process\n"
      return 1

/-- Send a signal to processes, or tell the names of signals. -/
def kill (sendToJob : Nat → Nat → Act Bool) (args : List String) : Act Nat := do
  let sendAll (signal : Nat) (targets : List String) : Act Nat := do
    if targets.isEmpty then Act.fault killUsage
    else
      let results ← targets.mapM (sendTo sendToJob signal)
      return results.foldl max 0
  match args with
  | [] => Act.fault killUsage
  | "-l" :: [] =>
    Act.print (String.join ((List.range 65).map fun signal =>
      (if signal = 0 then "0" else Signal.name signal) ++ "\n"))
    return 0
  | "-l" :: number :: _ =>
    let n ← naturalNumber number
    Act.print (Signal.name (if 128 < n then n - 128 else n) ++ "\n")
    return 0
  | "--" :: targets => sendAll 15 targets
  | "-s" :: name :: targets =>
    match Signal.ofText? name with
    | some signal => sendAll signal targets
    | none => Act.fault ("invalid signal number or name: " ++ name)
  | arg :: rest =>
    match arg.toList with
    | '-' :: c :: name =>
      match Signal.ofText? (String.ofList (c :: name)) with
      | some signal => sendAll signal rest
      | none => Act.fault ("Illegal option -" ++ String.singleton c)
    | _ => sendAll 15 args

/-- The names on a path, with those of a folder from which it leads, after steps up. -/
def logicalParts (folder : List String) (path : String) : List String :=
  (Path.namesIn path).foldl (fun parts name =>
    if name = ".." then parts.dropLast else parts ++ [name])
    (if path.startsWith "/" then [] else folder)

/-- Move the shell to another folder. -/
def moveTo (path : String) : Act Unit := do
  let old ← Act.disk
  match ← Act.reach (if path = "" then "." else path) with
  | .ok (.node place .folder) => Act.setDisk fun disk => { disk with workDir := place }
  | .ok (.host .folder) =>
    Act.setDisk fun disk => { disk with workDir := (Path.ofText path).parts }
  | _ => Act.fault ("can't cd to " ++ path)
  let before := (← Act.value? "PWD").getD ("/" ++ "/".intercalate old.workDir)
  let parts := logicalParts (Path.namesIn before) path
  Act.forceValue "OLDPWD" before
  Act.forceValue "PWD" ("/" ++ "/".intercalate parts)

/-- The folder that the shell is in. -/
def currentFolder : Act String := do
  return (← Act.value? "PWD").getD ("/" ++ "/".intercalate (← Act.disk).workDir)

/-- Move the shell to the folder of an argument, of the user, or to the one before. -/
def changeFolder (args : List String) : Act Nat := do
  let (_, args) ← takeOptions ['L', 'P'] (if args.head? = some "-" then "--" :: args else args)
  match args with
  | [] => moveTo ((← Act.value? "HOME").getD "")
  | "-" :: _ =>
    moveTo ((← Act.value? "OLDPWD").getD "")
    Act.print ((← currentFolder) ++ "\n")
  | path :: _ => moveTo path
  return 0

/-- Show the folder that the shell is in. -/
def showFolder (_ : List String) : Act Nat := do
  Act.print ((← currentFolder) ++ "\n")
  return 0

/-- The letters for three bits of permission. -/
def permissionLetters (bits : Nat) : String :=
  (if bits / 4 % 2 = 1 then "r" else "") ++ (if bits / 2 % 2 = 1 then "w" else "") ++
    (if bits % 2 = 1 then "x" else "")

/-- The permissions that a letter stands for, in one of the three groups of bits. -/
def permissionBits (c : Char) : Nat :=
  match c with
  | 'r' => 4
  | 'w' => 2
  | 'x' => 1
  | _ => 0

/-- Three groups of bits, where a letter names one or all of them. -/
def groupBits (c : Char) (bits : Nat) : Nat :=
  match c with
  | 'u' => bits * 64
  | 'g' => bits * 8
  | 'o' => bits
  | _ => bits * 73

/-- The permissions that one of the three groups has, as bits of the last group. -/
def groupPermissions (c : Char) (permissions : Nat) : Nat :=
  match c with
  | 'u' => permissions / 64 % 8
  | 'g' => permissions / 8 % 8
  | 'o' => permissions % 8
  | _ => 0

/-- Permissions changed by the signs and letters behind the names of groups. The fuel is more than
    the number of characters. -/
def changePermissions (groups : List Char) : Nat → List Char → Nat → Option Nat
  | 0, _, permissions => some permissions
  | _, [], permissions => some permissions
  | fuel + 1, sign :: rest, permissions =>
    let letters := rest.takeWhile fun c => "rwxXstugo".toList.contains c
    let bits := letters.foldl (fun bits c => bits |||
      permissionBits c ||| groupPermissions c permissions) 0
    let wanted := groups.foldl (fun all c => all ||| groupBits c bits) 0
    let meant := groups.foldl (fun all c => all ||| groupBits c 7) 0
    let go := changePermissions groups fuel (rest.drop letters.length)
    match sign with
    | '+' => go (permissions ||| wanted)
    | '-' => go (permissions &&& (511 - wanted))
    | '=' => go ((permissions &&& (511 - meant)) ||| wanted)
    | _ => none

/-- Permissions changed by clauses between commas. -/
def permissionsAfter? (clauses : String) (permissions : Nat) : Option Nat :=
  (clauses.split (· = ',')).toList.foldl (fun found clause =>
    let cs := clause.toString.toList
    let groups := cs.takeWhile fun c => "ugoa".toList.contains c
    let groups' := if groups.isEmpty then ['a'] else groups
    found.bind fun permissions =>
      if cs.isEmpty then none
      else changePermissions groups' (cs.length + 1) (cs.drop groups.length) permissions)
    (some permissions)

/-- Show or set the permissions that new files lack. -/
def umask (args : List String) : Act Nat := do
  let mask := (← Act.process).mask
  let (options, args) ← takeOptions ['S'] args
  match args with
  | [] =>
    if options.contains 'S' then
      Act.print ("u=" ++ permissionLetters (7 - mask / 64 % 8) ++ ",g=" ++
        permissionLetters (7 - mask / 8 % 8) ++ ",o=" ++ permissionLetters (7 - mask % 8) ++ "\n")
      return 0
    Act.print (Places.zeroPadded 4 (String.ofList (Nat.toDigits 8 mask)) ++ "\n")
    return 0
  | mode :: _ =>
    let (n, rest) := Format.splitNumber 8 4 0 mode.toList
    if rest.isEmpty then
      Act.setProcess fun process => { process with mask := n }
      return 0
    else if (mode.toList.head?.map Char.isDigit).getD false then
      Act.fault ("Illegal number: " ++ mode)
    else
      match permissionsAfter? mode (511 - mask) with
      | some permissions =>
        Act.setProcess fun process => { process with mask := 511 - permissions }
        return 0
      | none => Act.fault ("Illegal mode: " ++ mode)

/-- The names of the utilities of the shell. -/
def ownNames : List String :=
  specialNames ++
    ["alias", "bg", "cd", "chdir", "command", "echo", "false", "fg", "getopts", "hash", "jobs",
     "kill", "local", "printf", "pwd", "read", "test", "[", "true", "type", "ulimit", "umask",
     "unalias", "wait"]

/-- Whether a file on the disk or the host may be run as a program. -/
def isProgram (path : String) : Act Bool := do
  match ← Act.reach path with
  | .ok (.node _ (.file _ kind)) => return kind.isProgram
  | .ok (.host .program) => return true
  | _ => return false

/-- The path of a program, which is looked for in some folders unless its name has a slash. -/
def findProgram? (name : String) (folders : String) : Act (Option String) := do
  if name.toList.contains '/' then return some name
  else
    let paths := (folders.split (· = ':')).toList.map fun folder =>
      let folder := folder.toString
      if folder = "" then name
      else if folder.endsWith "/" then folder ++ name
      else folder ++ "/" ++ name
    paths.findM? isProgram

/-- The folders in which programs are looked for. -/
def programPath : Act String := do return (← Act.value? "PATH").getD ""

/-- Tell what names mean; shortly, if they mean something. -/
def describe (short : Bool) (name : String) : Act Nat := do
  let say (what : String) : Act Nat := do
    Act.print ((if short then name else name ++ " is " ++ what) ++ "\n")
    return 0
  if Token.keywords.contains name then say "a shell keyword"
  else if (← Act.process).functions.any fun entry => entry.1 = name then say "a shell function"
  else if specialNames.contains name then say "a special shell builtin"
  else if ownNames.contains name then say "a shell builtin"
  else
    let found ← findProgram? name (← programPath)
    let found ← match found with
      | some path => do pure (if ← isProgram path then some path else none)
      | none => pure none
    match found with
    | some path =>
      Act.print ((if short then path else name ++ " is " ++ path) ++ "\n")
      return 0
    | none =>
      if !short then Act.print (name ++ ": not found\n")
      return 127

/-- Tell what each of some names means. -/
def describeAll (args : List String) : Act Nat := do
  let results ← args.mapM (describe false)
  return results.foldl max 0

end ContractBench.Shell.Utility
