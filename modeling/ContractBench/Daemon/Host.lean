import ContractBench.Daemon
import ContractBench.Shell

/-! # Programs of the host

The host runs a program by its name or path: its own programs and its shell, and files on the disk
that name their interpreter in the first line. It refuses what is not there, may not be run, or is
no program.
-/

namespace ContractBench.Host

/-- A text in which a newline stands for each line end of another kind. -/
def unifyLineEnds : List Char → List Char
  | '\r' :: '\n' :: rest => '\n' :: unifyLineEnds rest
  | '\r' :: rest => '\n' :: unifyLineEnds rest
  | c :: rest => c :: unifyLineEnds rest
  | [] => []

/-- The text of what a program has written, in octets. -/
def streamText (octets : List Char) : String :=
  String.ofList (unifyLineEnds (Utf8.decodeLossy (Octets.toBytes octets)).toList)

/-- The longest argument that a program can be given, in bytes. -/
def argumentLimit : Nat := 131071

/-- The folders in which programs are looked for. -/
def programFolders : String :=
  "/usr/local/sbin:/usr/local/bin:/usr/sbin:/usr/bin:/sbin:/bin"

/-- The variables of the environment of every program, unless others are set. -/
def usualEnvironment : List (String × String) := [("HOME", "/root"), ("PATH", programFolders)]

/-- The variables that a program is given, those that are set and the usual ones. -/
def bindingsOf (environment : List (String × String)) : List Shell.Binding :=
  (environment ++ usualEnvironment).foldl (fun bindings (name, value) =>
    if bindings.any fun binding => binding.name = name then bindings
    else bindings ++ [⟨name, some (Octets.ofText value), true, false⟩]) []

/-- The paths at which a program is looked for. -/
def candidates (folders program : String) : List String :=
  if program.toList.contains '/' then [program]
  else
    (folders.split (· = ':')).toList.map fun folder =>
      let folder := folder.toString
      if folder = "" || folder.endsWith "/" then folder ++ program else folder ++ "/" ++ program

/-- The fault that counts among those of some paths: the first that does not say that nothing is
    there, or else the last. -/
def worstOf (faults : List Shell.SystemFault) : Shell.SystemFault :=
  let isMissing (fault : Shell.SystemFault) : Bool :=
    fault = .file .notFound || fault = .file .notFolder
  (faults.find? (!isMissing ·)).getD (faults.getLastD (.file .notFound))

/-- Find the first of some paths that can be run, given the faults of those before. -/
def findStart (program : String) (args : List String) :
    List String → List Shell.SystemFault → Shell.Act (Except Shell.SystemFault Shell.Tools.Start)
  | [], faults => return .error (worstOf faults)
  | path :: paths, faults => do
    match ← Shell.Tools.startOf Shell.Tools.interpreterLimit path program args with
    | .ok start => return .ok start
    | .error fault => findStart program args paths (faults ++ [fault])

/-- Run what was found, and all the jobs that it leaves. -/
def runStart (start : Shell.Tools.Start) : Shell.Act Shell.Ending := do
  let ending ← Shell.tools.toEnd (Shell.tools.startTo Shell.Tools.programDepth start)
  Shell.tools.workOutFrom 0
  return ending

/-- Run a program on a new machine. -/
def launch (program : String) (args : List String) :
    Shell.Act (Except Shell.SystemFault Shell.Ending) := do
  let folders := (← Shell.Act.value? "PATH").getD programFolders
  match ← findStart program args (candidates folders program) [] with
  | .ok start => return .ok (← runStart start)
  | .error fault => return .error fault

/-- The number of the open file that holds what is written to the output, and the one for the
    complaints. -/
def outputFile : Nat := 1

/-- The number of the open file that holds the complaints. -/
def complaintFile : Nat := 2

/-- The machine on which a program begins. -/
def machineOf (disk : Disk) : Shell.Machine where
  disk := disk
  files :=
    #[⟨.nothing, true, false⟩, ⟨.buffer [] [], true, true⟩, ⟨.buffer [] [], true, true⟩]

/-- The process as which a program begins. -/
def processOf (call : Invocation) : Shell.Process where
  name := ""
  id := Shell.firstId
  shellId := Shell.firstId
  streams := [(0, 0), (1, outputFile), (2, complaintFile)]
  bindings := bindingsOf call.environment

/-- What was written to an open file. -/
def writtenTo (state : Shell.State) (file : Nat) : String :=
  match (Shell.Act.unreadOf file state).1 with
  | .ok (.ok text) => streamText text
  | _ => ""

/-- The number of an ending, below zero for a signal. -/
def exitNumber : Shell.Ending → Int
  | .exited code => code
  | .killed signal => -signal

/-- The daemon that is whatever program it is called by. -/
def daemon : Daemon := fun _ call =>
  let program := call.argv.headD ""
  if call.argv.any fun arg => arg.toList.contains '\x00' then ⟨.embeddedNul, call.disk, .zero⟩
  else if call.argv.any fun arg => argumentLimit < arg.utf8ByteSize then
    ⟨.refused ⟨7, "Argument list too long", some program⟩, call.disk, .zero⟩
  else
    let args := (call.argv.drop 1).map Octets.ofText
    let state : Shell.State := { process := processOf call, machine := machineOf call.disk }
    match launch (Octets.ofText program) args state with
    | (.ok (.error fault), _) =>
      ⟨.refused ⟨fault.number, fault.text, some program⟩, call.disk, .zero⟩
    | (result, state) =>
      let ending := match result with
        | .ok (.ok ending) => ending
        | _ => .exited 2
      ⟨.finished ⟨some (writtenTo state outputFile), some (writtenTo state complaintFile),
          exitNumber ending⟩,
        { state.machine.disk with workDir := call.disk.workDir }, .zero⟩

end ContractBench.Host
