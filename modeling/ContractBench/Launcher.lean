import ContractBench.Bench
import ContractBench.Settings
import ContractBench.Text.Blank

/-! # The launcher

The launcher runs commands of the daemon. A run that complains has not settled: the launcher waits
and runs the command again, as often as the settings allow, and takes the last answer as it is.
Exit codes are only logged.
-/

namespace ContractBench

/-- What runs commands. -/
structure Launcher where
  /-- The settings. -/
  settings : Settings
  /-- The name of the logger. -/
  logger : String := "secretcli.runner"
  deriving Repr, DecidableEq

namespace Launcher

/-- Whether an argument may be named in logs. Messages begin with a brace and may not. -/
def isSpeakable (arg : String) : Bool := !arg.startsWith "\x7b"

/-- A short text for a command: the program and some leading arguments that may be named. -/
def describe (launcher : Launcher) (depth : Nat) (command : List String) : String :=
  " ".intercalate (launcher.settings.binary :: (command.take depth).filter isSpeakable)

/-- How many leading arguments are named in logs. -/
def namedArguments : Nat := 3

/-- How many leading arguments tell commands apart when warnings are throttled. -/
def distinctArguments : Nat := 4

/-- The text for a command in logs. -/
def named (launcher : Launcher) (command : List String) : String :=
  launcher.describe namedArguments command

/-- Run a command once. -/
def invoke (launcher : Launcher) (command : List String) : Bench Output := do
  let binary := launcher.settings.binary
  Bench.log .debug launcher.logger ("Running " ++ launcher.named command)
  match ← Bench.call (binary :: command) with
  | .finished output =>
    Bench.log .debug launcher.logger
      ("Exit code " ++ toString output.exitCode ++ " from " ++ launcher.named command)
    return output
  | .refused fault =>
    Bench.log .error launcher.logger ("Failed to launch " ++ binary ++ ": " ++ fault.message)
    if fault.isMissing then throw (.daemonMissing binary fault)
    else throw (.daemonUnusable (launcher.named command) fault)
  | .embeddedNul => throw .embeddedNul

/-- Log that a command is run again: as a warning the first time in a while, then for debugging. -/
def announceRetry (launcher : Launcher) (command : List String) (attempt : Nat)
    (complaint : String) : Bench Unit := do
  let warned ← Bench.logThrottled launcher.logger "warning"
    (launcher.named command ++ " wrote to stderr, retrying every " ++
      launcher.settings.retryInterval.text ++ "s: " ++ Text.strip complaint)
    (some ("retry:" ++ launcher.describe distinctArguments command))
  if warned then return
  Bench.log .debug launcher.logger
    ("Retry " ++ toString attempt ++ "/" ++ toString launcher.settings.maxRetries ++ " for " ++
      launcher.named command)

/-- Run a command again while it complains and attempts are left; `attempt` counts them. -/
def settle (launcher : Launcher) (command : List String) : Nat → Nat → Output → Bench Output
  | 0, _, output => return output
  | left + 1, attempt, output => do
    if output.isSettled then return output
    launcher.announceRetry command attempt output.complaint
    Bench.wait launcher.settings.retryInterval
    let output ← launcher.invoke command
    launcher.settle command left (attempt + 1) output

/-- The answer of a command, once it has settled or attempts have run out. -/
def run (launcher : Launcher) (command : List String) : Bench String := do
  let output ← launcher.invoke command
  let output ← launcher.settle command launcher.settings.maxRetries 1 output
  return output.answer

/-- The document that a command answers with. -/
def runJson (launcher : Launcher) (args : List String) : Bench Value := do
  let command := args ++ launcher.settings.outputFlags
  let answer ← launcher.run command
  match Json.read answer with
  | .ok document => return document
  | .error e =>
    if let some failure := Failure.ofSize? e.fault then throw failure
    Bench.log .error launcher.logger
      ("Invalid JSON from '" ++ launcher.named command ++ "': " ++ e.message answer)
    throw (.notJson launcher.settings.binary e answer)

end Launcher

end ContractBench
