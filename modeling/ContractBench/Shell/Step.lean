import ContractBench.Shell.Run

/-! # What each command does

`Tools.step` says for each form of command what it does, given how the commands within it are run.
The exit code of a command is that of what it ran last.
-/

namespace ContractBench.Shell.Tools

/-- How often a loop turns at most. -/
def turnLimit : Nat := 1000000

/-- Put a command on a line. -/
def onLine (line : Nat) : Act Unit := Act.setProcess fun process => { process with line := line }

/-- Run a command, given how the commands within it are run. -/
def stepOf (tools : Tools) (setting : Setting) : Command → Act Unit
  | .skip => return
  | .simple line settings words redirects => do
    tools.runSimple setting line settings words redirects
    tools.afterCommand setting
  | .redirected line body redirects => do
    onLine line
    let _ ← tools.withStreams redirects (tools.run { guarded := setting.guarded } body)
  | .inOrder first second => do
    tools.run { guarded := setting.guarded } first
    tools.run setting second
  | .ifSuccess first second => do
    tools.run { guarded := true } first
    if (← Act.status) = 0 then tools.run setting second
  | .ifFailure first second => do
    tools.run { guarded := true } first
    if (← Act.status) ≠ 0 then tools.run setting second
  | .pipe stages => do
    let ending ← tools.runStages { guarded := setting.guarded } stages
    bury ending
    Act.leave ending.code
    tools.afterCommand setting
  | .negate body => do
    tools.run { guarded := true } body
    Act.leave (if (← Act.status) = 0 then 1 else 0)
  | .background line body => do
    onLine line
    beginJob body
  | .cond test yes no => do
    tools.run { guarded := true } test
    if (← Act.status) = 0 then tools.runPart setting yes else tools.runPart setting no
  | .loop success test body => inLoop (tools.runLoop setting success test body turnLimit 0)
  | .each line name words body => do
    onLine line
    let fields ← words.mapM (fieldsOf tools.capture)
    Act.leave 0
    inLoop (tools.runEach setting name body fields.flatten)
  | .choose line word branches => do
    onLine line
    tools.runChoice setting (← textOf tools.capture word) branches
  | .define line name body => do
    Act.setProcess fun process =>
      { process with functions :=
          (name, ⟨line, body⟩) :: process.functions.filter fun entry => entry.1 ≠ name }
    Act.leave 0
  | .apart line body redirects => do
    onLine line
    let ending ← tools.apart do
      redirects.forM tools.redirect
      tools.run { guarded := setting.guarded, final := true } body
    settle setting ending
    tools.afterCommand setting

/-- Run a command unless the shell only reads its script. -/
def step (tools : Tools) (setting : Setting) (command : Command) : Act Unit := do
  if !(← Act.hasOption 'n') then tools.stepOf setting command

/-- Run a script line by line. The fuel is more than the number of its characters. -/
def runLines (tools : Tools) (setting : Setting) : Nat → Source → Act Unit
  | 0, _ => return
  | fuel + 1, source => do
    match readLine? source with
    | .error e =>
      onLine e.line
      Act.fault e.fault.message
    | .ok none => return
    | .ok (some (command, rest)) =>
      tools.run { setting with final := setting.final && rest.isSpent } command
      runLines tools setting fuel rest

/-- Run a text as a script. -/
def runText (tools : Tools) (setting : Setting) (text : String) : Act Unit :=
  let cs := text.toList.filter (· ≠ '\x00')
  tools.runLines setting (cs.length + 1) { rest := cs }

end ContractBench.Shell.Tools
