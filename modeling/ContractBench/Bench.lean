import ContractBench.Disk.Operation
import ContractBench.Failure
import ContractBench.Log.Throttle

/-! # The bench

Operations of the bench run against a daemon and a world: a disk, a clock, an environment and the
memory of the throttle. What they do that can be seen from outside is written down in the world,
the latest deed first. What was done before a failure stays done.
-/

namespace ContractBench

/-- Something that can be seen from outside. -/
inductive Deed where
  /-- The daemon was called. -/
  | called (call : Invocation)
  /-- Time was spent waiting. -/
  | waited (seconds : Binary64)
  /-- A record was logged. -/
  | logged (record : LogRecord)
  /-- A line was printed. -/
  | printed (line : String)
  deriving Repr, DecidableEq

/-- What operations find and change. -/
structure World where
  /-- The disk. -/
  disk : Disk
  /-- The seconds since the start. -/
  clock : Binary64
  /-- The longest wait that the system grants, in seconds. -/
  longestWait : Binary64
  /-- The keys of the messages logged lately. -/
  throttle : Throttle
  /-- The variables of the environment. -/
  environment : List (String × String)
  /-- The folder of the shared registry, once it is fixed. -/
  sharedFolder : Option String
  /-- What was done, the latest first. -/
  deeds : List Deed
  deriving Repr, DecidableEq

/-- The world at the start, with a disk and an environment. Every wait is granted. -/
def World.start (disk : Disk) (environment : List (String × String)) : World :=
  ⟨disk, .zero, .infinite false, [], environment, none, []⟩

/-- The calls of the daemon so far, the latest first. -/
def World.calls (world : World) : List Invocation :=
  world.deeds.filterMap fun
    | .called call => some call
    | _ => none

/-- An operation: it may call the daemon, change the world, and fail. -/
abbrev Bench := ReaderT Daemon (ExceptT Failure (StateM World))

namespace Bench

/-- Run an operation. -/
def perform {α : Type} (action : Bench α) (daemon : Daemon) (world : World) :
    Except Failure α × World :=
  action daemon world

/-- Write down a deed. -/
def record (deed : Deed) : Bench Unit :=
  modify fun world => { world with deeds := deed :: world.deeds }

/-- Log a message. -/
def log (level : Level) (logger message : String) : Bench Unit :=
  record (.logged ⟨level, logger, message⟩)

/-- Print a line. -/
def print (line : String) : Bench Unit := record (.printed line)

/-- Wait for some seconds, unless that is longer than the system grants. -/
def wait (seconds : Binary64) : Bench Unit := do
  if (← get).longestWait.lt seconds then throw .endlessWait
  modify fun world => { world with clock := world.clock + seconds }
  record (.waited seconds)

/-- Call the daemon. -/
def call (argv : List String) : Bench Outcome := do
  let daemon ← read
  let world ← get
  let call : Invocation := ⟨argv, world.disk, world.environment⟩
  record (.called call)
  let run := daemon world.calls call
  modify fun world => { world with disk := run.disk, clock := world.clock + run.elapsed }
  return run.outcome

/-- Take a value, or fail. -/
def ofExcept {α : Type} : Except Failure α → Bench α
  | .ok a => return a
  | .error e => throw e

/-- Do something that may fail, and go on either way. -/
def observe {α : Type} (action : Bench α) : Bench (Except Failure α) :=
  tryCatch (Except.ok <$> action) fun e => return .error e

/-- Work on the disk, and go on either way. -/
def tryFiles {α : Type} (op : FileOp α) : Bench (Except FileError α) := do
  let world ← get
  let (result, disk) := (ExceptT.run op).run world.disk
  set { world with disk := disk }
  return result

/-- Work on the disk. -/
def files {α : Type} (op : FileOp α) : Bench α := do
  match ← tryFiles op with
  | .ok a => return a
  | .error e => throw (.file e)

/-- Log a message unless its key was logged lately. The flag tells whether it was logged. Without
    a key of its own a message is known by its level and text. -/
def logThrottled (logger level message : String) (key : Option String) : Bench Bool := do
  let known := match key with
    | some k => if k = "" then level ++ ":" ++ message else k
    | none => level ++ ":" ++ message
  let world ← get
  if world.throttle.holds world.clock known then return false
  match LevelName.ofText logger level message with
  | .logs level => log level logger message
  | .silent => pure ()
  | .refused fault => throw (.level fault)
  modify fun world => { world with throttle := world.throttle.remember world.clock known }
  return true

/-- Forget all throttled messages. -/
def resetThrottle : Bench Unit := modify fun world => { world with throttle := [] }

end Bench

end ContractBench
