import ContractBench.Shell.Program
import ContractBench.Shell.Test
import ContractBench.Shell.Utility.Control

/-! # Running commands

What each command does, given how the commands within it are run. Parts of a shell that cannot
change it run in processes of their own, one after the other; a pipe holds what one of them has
written until the next one reads it.
-/

namespace ContractBench.Shell

/-- How a command is run. -/
structure Setting where
  /-- Whether something asks about its failure. -/
  guarded : Bool := false
  /-- Whether the process ends with it. -/
  final : Bool := false

/-- What the running of commands needs. -/
structure Tools where
  /-- Run a command. -/
  run : Setting → Command → Act Unit
  /-- Run a text as a script of the same shell. -/
  script : Setting → String → Act Unit
  /-- Go on as the program at a path, under a name, with arguments, if the system allows it. -/
  become : String → String → List String → Act (Except SystemFault Unit)

namespace Tools

/-- Do something to the end of a process, and then what the shell does when it ends. -/
def toEnd (tools : Tools) (action : Act Unit) : Act Ending := do
  match ← Act.observe action with
  | .error (.killed signal) => return .killed signal
  | _ =>
    let status ← Act.status
    match ← Act.trap? 0 with
    | none => return .exited status
    | some text =>
      Act.setProcess fun process =>
        { process with traps := process.traps.filter fun entry => entry.1 ≠ 0 }
      match ← Act.observe (tools.script {} text) with
      | .error (.killed signal) => return .killed signal
      | .error .finish => return .exited (← Act.status)
      | .error .fault => return .exited (← Act.status)
      | _ => return .exited status

/-- Do something in a process of its own, which begins as a copy of this one. -/
def apart (tools : Tools) (action : Act Unit) : Act Ending := do
  let outer ← Act.process
  let folder := (← Act.disk).workDir
  let id := (← Act.machine).nextId
  Act.setMachine fun machine => { machine with nextId := id + 1 }
  Act.setProcess fun process =>
    { process with
      id := id
      traps := process.traps.filter fun entry => entry.2 = "" }
  let ending ← Act.observe (tools.toEnd action)
  Act.setProcess fun _ => outer
  Act.setDisk fun disk => { disk with workDir := folder }
  match ending with
  | .ok ending => return ending
  | .error _ => return .exited 2

/-- Say how a process has ended, if a signal ended it. -/
def bury (ending : Ending) : Act Unit := do
  match ending with
  | .killed signal =>
    if signal = 2 || signal = 13 then return else Act.complain (Signal.obituary signal)
  | .exited _ => return

/-- Leave the exit code of a process. A process that ends with it ends in the same way. -/
def settle (setting : Setting) (ending : Ending) : Act Unit := do
  match ending, setting.final && (← Act.process).traps.isEmpty with
  | .killed signal, true => throw (.killed signal)
  | ending, _ =>
    bury ending
    Act.leave ending.code

/-- Work out a job, if this is not done yet. The time at which it ends is given. -/
def workOut (tools : Tools) (index : Nat) : Act Nat := do
  match (← get).jobs[index]? with
  | none => return (← Act.machine).clock
  | some job =>
    if job.status.isSome || job.running then return (← Act.machine).clock
    else
      let change (change : Job → Job) : Act Unit :=
        modify fun state => { state with jobs := state.jobs.modify index change }
      let outer ← Act.process
      let folder := (← Act.disk).workDir
      let now := (← Act.machine).clock
      change fun job => { job with running := true }
      Act.setProcess fun _ => job.process
      Act.setDisk fun disk => { disk with workDir := job.folder }
      Act.setMachine fun machine => { machine with clock := job.start }
      let ending ← tools.toEnd (tools.run { final := true } job.body)
      let time := (← Act.machine).clock
      Act.setProcess fun _ => outer
      Act.setDisk fun disk => { disk with workDir := folder }
      Act.setMachine fun machine => { machine with clock := max now time }
      change fun job => { job with running := false, status := some ending.code }
      return time

/-- Work out the jobs from one on, in order. -/
def workOutFrom (tools : Tools) (first : Nat) : Act Unit := do
  let count := (← get).jobs.length
  (List.range count).forM fun index => do
    if first ≤ index then
      let _ ← tools.workOut index

/-- Work out the jobs that have ended by a time. -/
def catchUp (tools : Tools) (time : Nat) : Act Unit := do
  let count := (← get).jobs.length
  (List.range count).forM fun index => do
    let before ← get
    if time < (← tools.workOut index) then set before

/-- Wait for so many thousandths of a second. -/
def pause (tools : Tools) (duration : Nat) : Act Unit := do
  let time := (← Act.machine).clock + duration
  match (← Act.machine).deadline with
  | some deadline => if deadline < time then throw (.killed 15)
  | none => pure ()
  tools.catchUp time
  Act.setMachine fun machine => { machine with clock := max machine.clock time }

/-- Send a job a signal; it does no more from now on. The flag tells whether there is such a job. -/
def sendToJob (tools : Tools) (id signal : Nat) : Act Bool := do
  let jobs := (← get).jobs
  match jobs.findIdx? fun job => job.process.id = id with
  | none => return false
  | some index =>
    if signal = 0 || Signal.isHarmless signal then return true
    else
      let now := (← Act.machine).clock
      Act.setMachine fun machine => { machine with deadline := some now }
      let isNew := ((jobs[index]?).bind (·.status)).isNone
      let _ ← tools.workOut index
      Act.setMachine fun machine => { machine with deadline := none }
      if isNew then
        let mark (job : Job) : Job :=
          if job.status = some 143 then { job with status := some (128 + signal) } else job
        modify fun state => { state with jobs := state.jobs.modify index mark }
      return true

/-- The output of a command. -/
def capture (tools : Tools) (body : Command) : Act String := do
  let index ← Act.addFile ⟨.buffer [] [], true, true⟩
  let known := (← get).jobs.length
  let ending ← tools.apart do
    Act.setStream 1 index
    tools.run { final := true } body
  bury ending
  tools.workOutFrom known
  Act.setProcess fun process => { process with substituted := ending.code }
  match ← Act.unreadOf index with
  | .ok text => return String.ofList text
  | .error _ => return ""

/-- Do what is to be done on the signals that were sent. -/
def heedSignals (tools : Tools) : Act Unit := do
  (← Act.receive).forM fun signal => do
    let action ← if signal = 9 then pure none else Act.trap? signal
    match action with
    | some "" => return
    | some text =>
      let status ← Act.status
      tools.script {} text
      Act.leave status
    | none => if Signal.isHarmless signal then return else throw (.killed signal)

/-- What follows a command whose failure may end the shell. -/
def afterCommand (tools : Tools) (setting : Setting) : Act Unit := do
  tools.heedSignals
  if !setting.guarded && (← Act.hasOption 'e') && (← Act.status) ≠ 0 then throw .finish

/-- The words for a file that cannot be opened. -/
def openingWords (opening : Opening) (path : String) (fault : SystemFault) : String :=
  let reads := opening = .reading
  let words :=
    match fault with
    | .file .notFound => if reads then "No such file" else "Directory nonexistent"
    | .file .notFolder => if reads then "No such file" else "Directory nonexistent"
    | fault => fault.text
  (if reads then "cannot open " else "cannot create ") ++ path ++ ": " ++ words

/-- Change a stream. -/
def redirect (tools : Tools) : Redirect → Act Unit
  | .file stream opening target => do
    let path ← textOf tools.capture target
    match ← Act.openPath path opening with
    | .ok index => Act.setStream stream index
    | .error fault => Act.fault (openingWords opening path fault)
  | .copy stream target => do
    let text ← textOf tools.capture target
    if text = "-" then Act.closeStream stream
    else
      match text.toNat? with
      | some other =>
        match ← Act.stream? other with
        | some (index, _) => Act.setStream stream index
        | none => Act.fault (text ++ ": Bad file descriptor")
      | none => Act.fault SyntaxFault.streamName.message
  | .here stream text => do
    let content ← textOf tools.capture text
    Act.setStream stream (← Act.addFile ⟨.buffer [] content.toList, true, false⟩)

/-- Do something with changed streams. The flag tells whether they could be changed. -/
def withStreams (tools : Tools) (redirects : List Redirect) (action : Act Unit) : Act Bool := do
  let streams := (← Act.process).streams
  let restore : Act Unit := Act.setProcess fun process => { process with streams := streams }
  match ← Act.observe (redirects.forM tools.redirect) with
  | .ok () =>
    Act.followedBy action restore
    return true
  | .error .fault =>
    restore
    Act.leave 2
    return false
  | .error jump =>
    restore
    throw jump

/-- Set a variable for one command, or for good. -/
def setFor (tools : Tools) (forGood : Bool) (setting : String × Word) : Act String := do
  let (name, word) := setting
  let value ← textOf tools.capture word
  if !forGood then Act.keepBinding name
  setValue name value
  if !forGood then Utility.markBinding (fun binding => { binding with exported := true }) name
  return name ++ "=" ++ value

/-- Write down a command that is about to be run, if this is asked for. -/
def trace (file : Option (Nat × OpenFile)) (words : List String) : Act Unit := do
  if !words.isEmpty && (← Act.hasOption 'x') then
    let streams := (← Act.process).streams
    match file with
    | some (index, _) =>
      Act.setStream 2 index
      Act.complain (((← Act.value? "PS4").getD "") ++ " ".intercalate words)
      Act.setProcess fun process => { process with streams := streams }
    | none => return

/-- Call a function. -/
def call (tools : Tools) (setting : Setting) (function : Function) (args : List String) :
    Act Unit := do
  let outer ← Act.process
  Act.setProcess fun process =>
    { process with
      args := args
      functionLine := some function.line
      calls := process.calls + 1
      loops := 0
      optionOffset := 0 }
  Act.pushFrame
  let result ← Act.observe (tools.run { guarded := setting.guarded } function.body)
  Act.popFrame
  Act.setProcess fun process =>
    { process with
      args := outer.args
      functionLine := outer.functionLine
      calls := outer.calls
      loops := outer.loops
      optionOffset := outer.optionOffset }
  match result with
  | .error .leaveCall => return
  | result => Act.resume result

/-- Run a file of commands in the same shell. -/
def source (tools : Tools) (args : List String) : Act Nat := do
  match args with
  | [] => return 0
  | name :: _ =>
    let path ←
      if name.toList.contains '/' then pure (some name)
      else
        let folders := ((← Utility.programPath).split (· = ':')).toList.map (·.toString)
        let paths := folders.map fun folder => if folder = "" then name else folder ++ "/" ++ name
        paths.findM? fun path => do
          match ← Act.reach path with
          | .ok (.node _ (.file _ _)) => return true
          | _ => return false
    match path with
    | none => Act.fault (name ++ ": not found")
    | some path =>
      match ← Program.contentOf path with
      | .error fault => Act.fault (openingWords .reading path fault)
      | .ok text =>
        Act.leave 0
        Act.setProcess fun process => { process with utility := some path }
        match ← Act.observe (tools.script {} (String.ofList text)) with
        | .error .leaveCall => Act.status
        | result =>
          Act.resume result
          Act.status

/-- The exit code of a job, which is waited for. -/
def awaitJob (tools : Tools) (target : String) : Act Nat := do
  if target.startsWith "%" then Act.fault ("No such job: " ++ target)
  else
    let id ← Utility.naturalNumber target
    let owner := (← Act.process).id
    match (← get).jobs.findIdx? fun job => job.process.id = id && job.owner = owner with
    | none => return 127
    | some index =>
      let isNew := (((← get).jobs[index]?).bind (·.status)).isNone
      let _ ← tools.workOut index
      let status := (((← get).jobs[index]?).bind (·.status)).getD 0
      if isNew then return status
      else
        if 128 < status then bury (.killed (status - 128))
        return status

/-- Wait for jobs. -/
def await (tools : Tools) (args : List String) : Act Nat := do
  let (_, args) ← Utility.takeOptions [] args
  if args.isEmpty then
    let owner := (← Act.process).id
    let jobs := (← get).jobs
    (List.range jobs.length).forM fun index => do
      let isOwn := (jobs[index]?).any fun job => job.owner = owner
      if isOwn then
        let _ ← tools.workOut index
    return 0
  else
    let results ← args.mapM tools.awaitJob
    return results.getLastD 0

/-- Print words between spaces. -/
def echo (args : List String) : Act Nat := do
  if ← Act.write 1 (Format.echoed args) then return 0
  else
    Act.grumble "echo: I/O error"
    return 1

/-- Print by a format. -/
def printf (args : List String) : Act Nat := do
  let (_, args) ← Utility.takeOptions [] args
  match args with
  | [] => Act.fault "usage: printf format [arg ...]"
  | format :: args =>
    let printed := Format.print .shell format args
    printed.complaints.forM Act.grumble
    let written ← Act.write 1 printed.text
    if !written then
      Act.grumble "printf: I/O error"
      return 1
    else if printed.refused then
      Act.leave 2
      throw .fault
    else return if printed.complaints.isEmpty then 0 else 1

/-- The truth value of a test as an exit code. -/
def test (words : List String) : Act Nat := do
  return if ← Test.holds words then 0 else 1

/-- Run a utility of the shell. -/
def runOwn (tools : Tools) (setting : Setting) (name : String) (args : List String) : Act Nat :=
  match name with
  | ":" => return 0
  | "true" => return 0
  | "false" => return 1
  | "echo" => echo args
  | "printf" => printf args
  | "test" => test args
  | "[" =>
    if args.getLast? = some "]" then test args.dropLast else Act.fault "missing ]"
  | "read" => Utility.readInto args
  | "export" => Utility.exportVariables args
  | "readonly" => Utility.fixVariables args
  | "local" => Utility.localVariables args
  | "unset" => Utility.forget args
  | "set" => Utility.set args
  | "shift" => Utility.shift args
  | "getopts" => Utility.nextOption args
  | "exit" => Utility.exit args
  | "return" => Utility.leaveCall args
  | "break" => Utility.leaveLoops .leaveLoops args
  | "continue" => Utility.leaveLoops .nextTurn args
  | "trap" => Utility.trap args
  | "kill" => Utility.kill tools.sendToJob args
  | "wait" => tools.await args
  | "cd" => Utility.changeFolder args
  | "chdir" => Utility.changeFolder args
  | "pwd" => Utility.showFolder args
  | "umask" => Utility.umask args
  | "type" => Utility.describeAll args
  | "." => tools.source args
  | "eval" => do
    let text := " ".intercalate args
    if text.toList.all fun c => c = ' ' || c = '\t' || c = '\n' then return 0
    else
      tools.script { guarded := setting.guarded } text
      Act.status
  | "times" => do
    Act.print "0m0.000000s 0m0.000000s\n0m0.000000s 0m0.000000s\n"
    return 0
  | _ => return 0

/-- Run a utility of the shell under its name. One that is not special fails by itself; a special
    one takes the shell with it. -/
def runUtility (tools : Tools) (setting : Setting) (special : Bool) (name : String)
    (args : List String) : Act Unit := do
  let outer := (← Act.process).utility
  Act.setProcess fun process => { process with utility := some name }
  let result ← Act.observe (tools.runOwn setting name args)
  Act.setProcess fun process => { process with utility := outer }
  match result with
  | .ok status => Act.leave status
  | .error .fault => if special then throw .fault else return
  | .error jump => throw jump

/-- Go on as a program, and end with it; the shell complains if there is none. -/
def turnInto (tools : Tools) (name : String) (args : List String) : Act Unit := do
  let missing : Act Unit := do
    Act.grumble (name ++ ": not found")
    Act.leave 127
    throw .finish
  match ← Utility.findProgram? name (← Utility.programPath) with
  | none => missing
  | some path =>
    match ← tools.become path name args with
    | .ok () => throw .finish
    | .error .notProgram =>
      let _ ← tools.become "/bin/sh" "/bin/sh" (path :: args)
      throw .finish
    | .error (.file .notFound) => missing
    | .error (.file .notFolder) => missing
    | .error fault =>
      Act.grumble (name ++ ": " ++ fault.text)
      Act.leave 126
      throw .finish

/-- Run a program, in a process of its own unless the shell ends with it. -/
def runProgram (tools : Tools) (setting : Setting) (name : String) (args : List String) :
    Act Unit := do
  match ← Utility.findProgram? name (← Utility.programPath) with
  | none =>
    Act.grumble (name ++ if name = "" then ": Permission denied" else ": not found")
    Act.leave 127
  | some _ =>
    if setting.final && (← Act.process).traps.isEmpty then tools.turnInto name args
    else settle setting (← tools.apart (tools.turnInto name args))

/-- What the first word of a command stands for. -/
inductive Target where
  /-- A function. -/
  | function (body : Function)
  /-- A utility of the shell. -/
  | own (special : Bool)
  /-- A program. -/
  | program

/-- What a word stands for, where functions may count or not. -/
def targetOf (functions : Bool) (name : String) : Act Target := do
  if specialNames.contains name then return .own true
  else
    let known := (← Act.process).functions.find? fun entry => entry.1 = name
    match if functions then known else none with
    | some (_, function) => return .function function
    | none => return if Utility.ownNames.contains name then .own false else .program

/-- What is left of the fields of a command whose first word asks for no function, and whether it
    asks what the words mean. -/
def commandWords : List String → Option Bool × List String
  | "-v" :: rest => (some true, rest)
  | "-V" :: rest => (some false, rest)
  | "-p" :: rest => commandWords rest
  | "--" :: rest => (none, rest)
  | fields => (none, fields)

/-- The words of a command, behind those that ask for no function; with whether any did, and
    whether it asks what the words mean. -/
def bareCommand : Nat → Bool → List String → Bool × Option Bool × List String
  | 0, asked, fields => (asked, none, fields)
  | fuel + 1, asked, "command" :: rest =>
    match commandWords rest with
    | (some short, rest) => (true, some short, rest)
    | (none, []) => (asked, none, ["command"])
    | (none, rest) => bareCommand fuel true rest
  | _, asked, fields => (asked, none, fields)

/-- The utilities whose arguments may set variables and are then not split. -/
def setsVariables (word : Option Word) : Bool :=
  match word.bind bareText? with
  | some name => ["export", "readonly", "local", "alias"].contains name
  | none => false

/-- The fields of the words of a command. -/
def fieldsOfWords (tools : Tools) (words : List Word) : Act (List String) := do
  let own := setsVariables words.head?
  let fields ← words.mapM fun word => do
    if own && (setting? word).isSome then return [← textOf tools.capture word]
    else fieldsOf tools.capture word
  return fields.flatten

/-- Run a command whose words are expanded. -/
def runFields (tools : Tools) (setting : Setting) (settings : List (String × Word))
    (redirects : List Redirect) (fields : List String) : Act Unit := do
  let errors ← Act.stream? 2
  let (asked, describing, fields) := bareCommand (fields.length + 1) false fields
  match fields with
  | [] =>
    let done ← tools.withStreams redirects do
      let texts ← settings.mapM (tools.setFor true)
      trace errors texts
      Act.leave (← Act.process).substituted
    if !done then Act.leave 2
  | name :: args =>
    let target ← targetOf (!asked) name
    let isSpecial := match target with
      | .own true => !asked && describing.isNone
      | _ => false
    let isExec := name = "exec" && describing.isNone
    let body : Act Unit := do
      let texts ← settings.mapM (tools.setFor isSpecial)
      trace errors (texts ++ fields)
      match describing, target with
      | some short, _ => do
        let outer := (← Act.process).utility
        Act.leave (← Utility.describe short name)
        Act.setProcess fun process => { process with utility := outer }
      | none, .function function => tools.call setting function args
      | none, .own _ =>
        match isExec, args with
        | true, program :: args => do
          Act.setProcess fun process => { process with utility := some "exec" }
          tools.turnInto program args
        | true, [] => Act.leave 0
        | false, args => tools.runUtility setting isSpecial name args
      | none, .program => tools.runProgram setting name args
    let framed : Act Unit :=
      if isSpecial || settings.isEmpty then body
      else do
        Act.pushFrame
        Act.followedBy body Act.popFrame
    if isExec then
      if args.isEmpty then
        match ← Act.observe (redirects.forM tools.redirect) with
        | .error .fault => throw .fault
        | result =>
          Act.resume result
          framed
      else
        let done ← tools.withStreams redirects framed
        if !done then throw .fault
    else
      let done ← tools.withStreams redirects framed
      if !done && isSpecial then throw .fault

/-- Run a simple command. -/
def runSimple (tools : Tools) (setting : Setting) (line : Nat) (settings : List (String × Word))
    (words : List Word) (redirects : List Redirect) : Act Unit := do
  Act.setProcess fun process => { process with line := line, substituted := 0 }
  let fields ← tools.fieldsOfWords words
  tools.runFields setting settings redirects fields

/-- How a part of a turn of a loop ends. -/
inductive TurnEnd where
  /-- Usually. -/
  | done
  /-- The next turn comes at once. -/
  | again
  /-- The loop has ended. -/
  | stopped
  deriving Repr, DecidableEq

/-- Do a part of a turn of a loop. -/
def inTurn (action : Act Unit) : Act TurnEnd := do
  match ← Act.observe action with
  | .ok () => return .done
  | .error (.leaveLoops count) =>
    if count ≤ 1 then return .stopped else throw (.leaveLoops (count - 1))
  | .error (.nextTurn count) =>
    if count ≤ 1 then return .again else throw (.nextTurn (count - 1))
  | .error jump => throw jump

/-- Do something within one more loop. -/
def inLoop (action : Act Unit) : Act Unit := do
  let loops := (← Act.process).loops
  Act.setProcess fun process => { process with loops := loops + 1 }
  Act.followedBy action (Act.setProcess fun process => { process with loops := loops })

/-- Turn a loop, a limited number of times; the last exit code of its body is known. -/
def runLoop (tools : Tools) (setting : Setting) (success : Bool) (test body : Command) :
    Nat → Nat → Act Unit
  | 0, last => Act.leave last
  | limit + 1, last => do
    match ← inTurn (tools.run { guarded := true } test) with
    | .stopped => return
    | .again => runLoop tools setting success test body limit last
    | .done =>
      if decide ((← Act.status) = 0) = success then
        match ← inTurn (tools.run { guarded := setting.guarded } body) with
        | .stopped => return
        | _ => runLoop tools setting success test body limit (← Act.status)
      else Act.leave last

/-- Run the body of a loop for each of some values. -/
def runEach (tools : Tools) (setting : Setting) (name : String) (body : Command) :
    List String → Act Unit
  | [] => return
  | value :: rest => do
    setValue name value
    match ← inTurn (tools.run { guarded := setting.guarded } body) with
    | .stopped => return
    | _ => runEach tools setting name body rest

/-- Run a command that may be nothing. -/
def runPart (tools : Tools) (setting : Setting) : Command → Act Unit
  | .skip => Act.leave 0
  | command => tools.run setting command

/-- Run the first branch with a pattern that fits a text. -/
def runChoice (tools : Tools) (setting : Setting) (text : String) :
    List (List Word × Command) → Act Unit
  | [] => Act.leave 0
  | (patterns, body) :: rest => do
    let found ← patterns.anyM fun word => do
      let pattern := Glyph.pattern (← glyphsOf tools.capture false word)
      return pattern.fits text.toList
    if found then tools.runPart setting body else runChoice tools setting text rest

/-- Run commands each of which reads what the one before it writes. -/
def runStages (tools : Tools) (setting : Setting) : List Command → Act Ending
  | [] => return .exited 0
  | [stage] => tools.apart (tools.run { setting with final := true } stage)
  | stage :: rest => do
    let index ← Act.addFile ⟨.buffer [] [], true, true⟩
    let known := (← get).jobs.length
    let _ ← tools.apart do
      Act.setStream 1 index
      tools.run { setting with final := true } stage
    tools.workOutFrom known
    let streams := (← Act.process).streams
    Act.setStream 0 index
    let ending ← tools.runStages setting rest
    Act.setProcess fun process => { process with streams := streams }
    return ending

/-- Begin a job. -/
def beginJob (body : Command) : Act Unit := do
  let process ← Act.process
  let id := (← Act.machine).nextId
  let input ← Act.addFile ⟨.nothing, true, false⟩
  let start := (← Act.machine).clock
  let folder := (← Act.disk).workDir
  Act.setMachine fun machine => { machine with nextId := id + 1 }
  let child : Process :=
    { process with
      id := id
      streams := (0, input) :: process.streams.filter fun entry => entry.1 ≠ 0
      traps := process.traps.filter fun entry => entry.2 = "" }
  let job : Job :=
    { process := child, folder := folder, owner := process.id, body := body, start := start }
  modify fun state => { state with jobs := state.jobs ++ [job] }
  Act.setProcess fun process => { process with lastJob := some id, status := 0 }

end Tools

end ContractBench.Shell
