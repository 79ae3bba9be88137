import ContractBench.Disk.Operation
import ContractBench.Shell.Command
import ContractBench.Shell.Signal
import ContractBench.Text.Octets

/-! # Processes of the host

A process has streams, variables and, if it is a shell, much else. Processes share a machine: a
disk, the files that are open, a clock and the signals that are under way. An `Act` is something
that a process does; it may change the process and the machine, and may end in a jump out of what
is being run.
-/

namespace ContractBench.Shell

/-- What an open file gives and takes. -/
inductive Channel where
  /-- Nothing comes from it, and what goes to it is lost. -/
  | nothing
  /-- A pipe or a text: what was written, the last first, behind what is not yet read. -/
  | buffer (written : List String) (unread : List Char)
  /-- A file on the disk, at a place in it or always at its end. -/
  | file (place : Location) (offset : Nat) (atEnd : Bool)
  /-- A file that is no more on the disk. -/
  | orphan (content : List Char) (offset : Nat)
  /-- A folder, which can be opened and not read. -/
  | folder
  deriving Repr, DecidableEq

/-- An open file. -/
structure OpenFile where
  /-- What it gives and takes. -/
  channel : Channel
  /-- Whether it can be read. -/
  readable : Bool
  /-- Whether it can be written. -/
  writable : Bool
  deriving Repr, DecidableEq

/-- The number of the first process. -/
def firstId : Nat := 4242

/-- What processes share. -/
structure Machine where
  /-- The disk; paths lead from the folder of the process that runs. -/
  disk : Disk
  /-- The open files. -/
  files : Array OpenFile := #[]
  /-- The number of the next process. -/
  nextId : Nat := firstId + 1
  /-- The time, in thousandths of a second. -/
  clock : Nat := 0
  /-- The signals that were sent and not yet received, each with the process it is for. -/
  signals : List (Nat × Nat) := []
  /-- The time after which nothing more is done, if there is one. -/
  deadline : Option Nat := none

/-- A variable. -/
structure Binding where
  /-- Its name. -/
  name : String
  /-- Its value; it may have none. -/
  value : Option String
  /-- Whether programs are given it. -/
  exported : Bool := false
  /-- Whether it cannot be set. -/
  fixed : Bool := false
  deriving Repr, DecidableEq

/-- A function of a shell. -/
structure Function where
  /-- The line on which it begins. -/
  line : Nat
  /-- What it does. -/
  body : Command

/-- A process. -/
structure Process where
  /-- Its name. -/
  name : String
  /-- Its arguments. -/
  args : List String := []
  /-- Its number. -/
  id : Nat := 0
  /-- The number of the shell that it is a part of. -/
  shellId : Nat := 0
  /-- Its streams, by their numbers, and the open files they are. -/
  streams : List (Nat × Nat) := []
  /-- Its variables. -/
  bindings : List Binding := []
  /-- Its functions. -/
  functions : List (String × Function) := []
  /-- What it heeds, as the letters of its options. -/
  options : List Char := []
  /-- What it does on signals; an empty text ignores one. -/
  traps : List (Nat × String) := []
  /-- The line that it is on. -/
  line : Nat := 1
  /-- The line on which the function that it runs begins. -/
  functionLine : Option Nat := none
  /-- The exit code of the last command. -/
  status : Nat := 0
  /-- The exit code of the last substitution within the command that is being run. -/
  substituted : Nat := 0
  /-- How many loops it is in. -/
  loops : Nat := 0
  /-- How many functions it is in. -/
  calls : Nat := 0
  /-- The variables that come back at the end of functions and commands, the innermost first, each
      with its old state. -/
  frames : List (List (String × Option Binding)) := []
  /-- The last process that was not waited for. -/
  lastJob : Option Nat := none
  /-- The number of characters that options were read from within one argument. -/
  optionOffset : Nat := 0
  /-- The permissions that new files lack, as a number. -/
  mask : Nat := 18
  /-- The word that leads complaints of the utility that runs. -/
  utility : Option String := none

/-- A process that is not waited for. What it does is worked out when another process waits for it
    or comes to a time after its end. -/
structure Job where
  /-- The process at its start. -/
  process : Process
  /-- The folder it begins in. -/
  folder : Location
  /-- The number of the process that began it. -/
  owner : Nat
  /-- What it runs. -/
  body : Command
  /-- When it began. -/
  start : Nat
  /-- Whether it is being worked out. -/
  running : Bool := false
  /-- Its exit code once it has ended. -/
  status : Option Nat := none

/-- A process on a machine, with the jobs of all processes. -/
structure State where
  /-- The process. -/
  process : Process
  /-- The jobs, the oldest first. -/
  jobs : List Job := []
  /-- The machine. -/
  machine : Machine

/-- A jump out of what is being run. -/
inductive Jump where
  /-- Out of some loops. -/
  | leaveLoops (count : Nat)
  /-- To the next turn of a loop, out of some loops within it. -/
  | nextTurn (count : Nat)
  /-- Out of a function or a script that is run within another. -/
  | leaveCall
  /-- Out of the process. -/
  | finish
  /-- Out of a utility that failed, or out of the process. -/
  | fault
  /-- Out of the process, by a signal. -/
  | killed (signal : Nat)
  deriving Repr, DecidableEq

/-- How a process has ended. -/
inductive Ending where
  /-- With an exit code. -/
  | exited (code : Nat)
  /-- By a signal. -/
  | killed (signal : Nat)
  deriving Repr, DecidableEq

/-- The exit code of an ending, as shells see it. -/
def Ending.code : Ending → Nat
  | .exited code => code
  | .killed signal => 128 + signal

/-- Something that a process does. -/
abbrev Act := ExceptT Jump (StateM State)

namespace Act

/-- The process. -/
def process : Act Process := do return (← get).process

/-- The machine. -/
def machine : Act Machine := do return (← get).machine

/-- Change the process. -/
def setProcess (change : Process → Process) : Act Unit :=
  modify fun state => { state with process := change state.process }

/-- Change the machine. -/
def setMachine (change : Machine → Machine) : Act Unit :=
  modify fun state => { state with machine := change state.machine }

/-- The disk. -/
def disk : Act Disk := do return (← machine).disk

/-- Change the disk. -/
def setDisk (change : Disk → Disk) : Act Unit :=
  setMachine fun machine => { machine with disk := change machine.disk }

/-- Leave an exit code. -/
def leave (status : Nat) : Act Unit := setProcess fun process => { process with status := status }

/-- The exit code of the last command. -/
def status : Act Nat := do return (← process).status

/-- Do something and see whether it jumps. -/
def observe {α : Type} (action : Act α) : Act (Except Jump α) := fun state =>
  match action state with
  | (result, state) => (.ok result, state)

/-- Go on with what was observed. -/
def resume {α : Type} : Except Jump α → Act α
  | .ok a => return a
  | .error jump => throw jump

/-- Do something, and something else after it even if it jumps. -/
def followedBy {α : Type} (action : Act α) (closing : Act Unit) : Act α := do
  let result ← observe action
  closing
  resume result

/-- Turn over and over as long as asked to, a limited number of times. -/
def turns (turn : Act Bool) : Nat → Act Unit
  | 0 => return
  | limit + 1 => do
    if ← turn then turns turn limit

/-- Whether an option is heeded. -/
def hasOption (letter : Char) : Act Bool := do return (← process).options.contains letter

/-- The variable of a name. -/
def binding? (name : String) : Act (Option Binding) := do
  return (← process).bindings.find? fun binding => binding.name = name

/-- The value of a variable. -/
def value? (name : String) : Act (Option String) := do
  return (← binding? name).bind (·.value)

/-- Put a variable in place of the one of its name. -/
def putBinding (binding : Binding) : Act Unit :=
  setProcess fun process =>
    { process with bindings :=
        binding :: process.bindings.filter fun other => other.name ≠ binding.name }

/-- Forget a variable. -/
def dropBinding (name : String) : Act Unit :=
  setProcess fun process =>
    { process with bindings := process.bindings.filter fun other => other.name ≠ name }

/-- Set a variable whether or not it may be set. -/
def forceValue (name value : String) : Act Unit := do
  match ← binding? name with
  | some binding => putBinding { binding with value := some value }
  | none => putBinding { name := name, value := some value }

/-- Let variables come back later on. -/
def pushFrame : Act Unit :=
  setProcess fun process => { process with frames := [] :: process.frames }

/-- Let a variable come back to its present state at the end of the innermost function or
    command. -/
def keepBinding (name : String) : Act Unit := do
  let old ← binding? name
  setProcess fun process =>
    { process with frames := match process.frames with
        | frame :: frames =>
          (if frame.any fun entry => entry.1 = name then frame else (name, old) :: frame) :: frames
        | [] => [] }

/-- Bring variables back. -/
def popFrame : Act Unit := do
  match (← process).frames with
  | frame :: frames =>
    frame.forM fun (name, old) =>
      match old with
      | some binding => putBinding binding
      | none => dropBinding name
    setProcess fun process => { process with frames := frames }
  | [] => return

/-- What a trap does on a signal. -/
def trap? (signal : Nat) : Act (Option String) := do
  return ((← process).traps.find? fun entry => entry.1 = signal).map (·.2)

/-- Send a process a signal. -/
def send (id signal : Nat) : Act Unit :=
  setMachine fun machine => { machine with signals := machine.signals ++ [(id, signal)] }

/-- The signals that the process is sent, which are then received. -/
def receive : Act (List Nat) := do
  let id := (← process).id
  let sent := (← machine).signals
  setMachine fun machine =>
    { machine with signals := machine.signals.filter fun entry => entry.1 ≠ id }
  return (sent.filter fun entry => entry.1 = id).map (·.2)

end Act

end ContractBench.Shell
