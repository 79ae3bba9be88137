import ContractBench.Disk
import ContractBench.Number.Binary64

/-! # The daemon

The daemon is a program that the bench runs and does not know. What one run of it gives may depend
on everything it was asked before, and on the disk and the environment as it finds them. It may
leave the disk changed, and takes its time.
-/

namespace ContractBench

/-- One call of the daemon. -/
structure Invocation where
  /-- The program and its arguments. -/
  argv : List String
  /-- The disk at the time of the call. -/
  disk : Disk
  /-- The variables of the environment, those that count before those that are hidden by them. -/
  environment : List (String × String)
  deriving Repr, DecidableEq

/-- A refusal of the system to run a program. -/
structure LaunchFault where
  /-- The number of the fault. -/
  number : Int
  /-- The words for it. -/
  text : String
  /-- The program, where the system names it. -/
  path : Option String
  deriving Repr, DecidableEq

/-- The message of a refusal. -/
def LaunchFault.message (fault : LaunchFault) : String :=
  systemMessage fault.number fault.text fault.path

/-- Whether a refusal says that the program is missing or may not be run. -/
def LaunchFault.isMissing (fault : LaunchFault) : Bool :=
  fault.number = 1 || fault.number = 2 || fault.number = 13

/-- What a finished run leaves; a stream that was not read is absent. -/
structure Output where
  /-- The answer. -/
  stdout : Option String
  /-- The complaints. -/
  stderr : Option String
  /-- The exit code. -/
  exitCode : Int
  deriving Repr, DecidableEq

/-- The complaints of a run, empty if none were read. -/
def Output.complaint (output : Output) : String := output.stderr.getD ""

/-- Whether a run has settled: it complained of nothing. -/
def Output.isSettled (output : Output) : Bool := output.complaint = ""

/-- The answer of a run, empty if none was read. -/
def Output.answer (output : Output) : String := output.stdout.getD ""

/-- What comes of a call. -/
inductive Outcome where
  /-- The program ran. -/
  | finished (output : Output)
  /-- The system refused to run it. -/
  | refused (fault : LaunchFault)
  /-- The call cannot be put to the system: a part of it holds the character that ends texts
      there. -/
  | embeddedNul
  deriving Repr, DecidableEq

/-- One run of the daemon. -/
structure Run where
  /-- What comes of it. -/
  outcome : Outcome
  /-- The disk after it. -/
  disk : Disk
  /-- The seconds that it took. -/
  elapsed : Binary64
  deriving Repr, DecidableEq

/-- A daemon runs for a call, after the earlier calls, the latest of them first. -/
abbrev Daemon := List Invocation → Invocation → Run

/-- The daemon that gives an outcome to each call at once and leaves the disk alone. -/
def Daemon.ofOutcomes (outcome : List Invocation → Invocation → Outcome) : Daemon :=
  fun earlier call => ⟨outcome earlier call, call.disk, .zero⟩

end ContractBench
