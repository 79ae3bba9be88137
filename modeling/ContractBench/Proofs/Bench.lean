import ContractBench.Bench
import ContractBench.Proofs.Files

/-! # Performing operations

How an operation of the bench unfolds into its steps, and what of a world can be seen from outside.

`World.scene` is all that a call of the daemon can depend on, `World.acts` is the history of calls
and waits with what came of each call. Logging changes neither: two worlds between which records
were only logged are `Quiet`, and most frame facts about flows are facts about that relation. Which
waits the system grants never changes (`World.Grants`).
-/

namespace ContractBench

/-- The calls in a history of deeds, the latest first. -/
def callsIn (deeds : List Deed) : List Invocation :=
  deeds.filterMap fun
    | .called call => some call
    | _ => none

theorem callsIn_append (added begun : List Deed) :
    callsIn (added ++ begun) = callsIn added ++ callsIn begun :=
  List.filterMap_append

/-- What a call of the daemon can depend on. -/
structure Scene where
  calls : List Invocation
  disk : Disk
  environment : List (String × String)
  deriving DecidableEq

namespace Scene

def call (scene : Scene) (argv : List String) : Invocation := ⟨argv, scene.disk, scene.environment⟩

/-- The run of the daemon that such a call leads to. -/
def run (scene : Scene) (daemon : Daemon) (argv : List String) : Run :=
  daemon scene.calls (scene.call argv)

/-- What the next call finds. -/
def next (daemon : Daemon) (argv : List String) (scene : Scene) : Scene :=
  ⟨scene.call argv :: scene.calls, (scene.run daemon argv).disk, scene.environment⟩

/-- What comes of putting the same command to the daemon again and again. -/
def outcomes (daemon : Daemon) (argv : List String) : Scene → Nat → Outcome
  | scene, 0 => (scene.run daemon argv).outcome
  | scene, i + 1 => (scene.next daemon argv).outcomes daemon argv i

/-- What is found after putting the same command to the daemon some times. -/
def reached (daemon : Daemon) (argv : List String) : Scene → Nat → Scene
  | scene, 0 => scene
  | scene, i + 1 => (scene.next daemon argv).reached daemon argv i

end Scene

/-- What is done with the daemon and the clock. -/
inductive Act where
  /-- A command was put to the daemon, and something came of it. -/
  | asked (argv : List String) (outcome : Outcome)
  /-- Time was spent waiting. -/
  | waited (seconds : Binary64)
  deriving DecidableEq

/-- The acts in a history of deeds, the earliest first. -/
def actsIn (daemon : Daemon) : List Deed → List Act
  | [] => []
  | .called call :: earlier =>
      actsIn daemon earlier ++ [.asked call.argv (daemon (callsIn earlier) call).outcome]
  | .waited seconds :: earlier => actsIn daemon earlier ++ [.waited seconds]
  | _ :: earlier => actsIn daemon earlier

namespace World

def scene (world : World) : Scene := ⟨world.calls, world.disk, world.environment⟩

def acts (world : World) (daemon : Daemon) : List Act := actsIn daemon world.deeds

def did (world : World) (deed : Deed) : World := { world with deeds := deed :: world.deeds }

def logged (world : World) (level : Level) (logger message : String) : World :=
  world.did (.logged ⟨level, logger, message⟩)

def withDisk (world : World) (disk : Disk) : World := { world with disk := disk }

/-- The system grants a wait. -/
def Grants (world : World) (seconds : Binary64) : Prop := world.longestWait.lt seconds = false

instance (world : World) (seconds : Binary64) : Decidable (world.Grants seconds) :=
  inferInstanceAs (Decidable (_ = _))

theorem grants_congr {before after : World} (same : after.longestWait = before.longestWait)
    (seconds : Binary64) : after.Grants seconds ↔ before.Grants seconds := by
  rw [Grants, Grants, same]

def passed (world : World) (seconds : Binary64) : World :=
  { world with clock := world.clock + seconds, deeds := .waited seconds :: world.deeds }

/-- The world in which a key is remembered from now on. -/
def remembering (world : World) (key : String) : World :=
  { world with throttle := world.throttle.remember world.clock key }

def asked (world : World) (daemon : Daemon) (argv : List String) : World :=
  { world with
    disk := (world.scene.run daemon argv).disk
    clock := world.clock + (world.scene.run daemon argv).elapsed
    deeds := .called (world.scene.call argv) :: world.deeds }

@[simp] theorem scene_passed (world : World) (seconds : Binary64) :
    (world.passed seconds).scene = world.scene := rfl

@[simp] theorem scene_asked (world : World) (daemon : Daemon) (argv : List String) :
    (world.asked daemon argv).scene = world.scene.next daemon argv := rfl

/-- From one world to the next records were logged, and their keys remembered, but nothing else
    happened. -/
structure Quiet (before after : World) : Prop where
  disk : after.disk = before.disk
  clock : after.clock = before.clock
  longestWait : after.longestWait = before.longestWait
  environment : after.environment = before.environment
  sharedFolder : after.sharedFolder = before.sharedFolder
  deeds : ∃ records : List LogRecord, after.deeds = records.map .logged ++ before.deeds

namespace Quiet

theorem refl (world : World) : world.Quiet world := ⟨rfl, rfl, rfl, rfl, rfl, [], rfl⟩

theorem trans {first second third : World} (h : first.Quiet second) (h' : second.Quiet third) :
    first.Quiet third := by
  obtain ⟨records, hr⟩ := h.deeds
  obtain ⟨more, hm⟩ := h'.deeds
  refine ⟨h'.disk.trans h.disk, h'.clock.trans h.clock, h'.longestWait.trans h.longestWait,
    h'.environment.trans h.environment, h'.sharedFolder.trans h.sharedFolder, more ++ records, ?_⟩
  rw [hm, hr, List.map_append, List.append_assoc]

theorem logged (world : World) (level : Level) (logger message : String) :
    world.Quiet (world.logged level logger message) :=
  ⟨rfl, rfl, rfl, rfl, rfl, [⟨level, logger, message⟩], rfl⟩

theorem grants {before after : World} (h : before.Quiet after) (seconds : Binary64) :
    after.Grants seconds ↔ before.Grants seconds := grants_congr h.longestWait seconds

theorem calls {before after : World} (h : before.Quiet after) : after.calls = before.calls := by
  obtain ⟨records, hr⟩ := h.deeds
  simp [World.calls, hr, List.filterMap_map]

theorem scene {before after : World} (h : before.Quiet after) : after.scene = before.scene := by
  simp only [World.scene, h.calls, h.disk, h.environment]

theorem acts {before after : World} (h : before.Quiet after) (daemon : Daemon) :
    after.acts daemon = before.acts daemon := by
  obtain ⟨records, hr⟩ := h.deeds
  simp only [World.acts, hr]
  clear hr
  induction records with
  | nil => rfl
  | cons record records ih => simpa only [List.map_cons, List.cons_append, actsIn] using ih

end Quiet

/-- From one world to a later one some acts were done with the daemon and the clock. -/
structure Leads (daemon : Daemon) (before : World) (acts : List Act) (after : World) : Prop where
  acts : after.acts daemon = before.acts daemon ++ acts
  longestWait : after.longestWait = before.longestWait
  environment : after.environment = before.environment
  sharedFolder : after.sharedFolder = before.sharedFolder

theorem Quiet.leads {before after : World} (h : before.Quiet after) (daemon : Daemon) :
    before.Leads daemon [] after :=
  ⟨by rw [h.acts, List.append_nil], h.longestWait, h.environment, h.sharedFolder⟩

namespace Leads

theorem trans {daemon : Daemon} {first second third : World} {acts more : List Act}
    (h : first.Leads daemon acts second) (h' : second.Leads daemon more third) :
    first.Leads daemon (acts ++ more) third :=
  ⟨by rw [h'.acts, h.acts, List.append_assoc], h'.longestWait.trans h.longestWait,
    h'.environment.trans h.environment, h'.sharedFolder.trans h.sharedFolder⟩

theorem quiet {daemon : Daemon} {first second third : World} {acts : List Act}
    (h : first.Leads daemon acts second) (h' : second.Quiet third) :
    first.Leads daemon acts third := by
  simpa only [List.append_nil] using h.trans (h'.leads daemon)

theorem passed (daemon : Daemon) (world : World) (seconds : Binary64) :
    world.Leads daemon [.waited seconds] (world.passed seconds) := ⟨rfl, rfl, rfl, rfl⟩

theorem asked (daemon : Daemon) (world : World) (argv : List String) :
    world.Leads daemon [.asked argv (world.scene.run daemon argv).outcome]
      (world.asked daemon argv) := ⟨rfl, rfl, rfl, rfl⟩

theorem grants {daemon : Daemon} {before after : World} {acts : List Act}
    (h : before.Leads daemon acts after) (seconds : Binary64) :
    after.Grants seconds ↔ before.Grants seconds := grants_congr h.longestWait seconds

end Leads

end World

instance decidableEqResult {ε α : Type} [DecidableEq ε] [DecidableEq α] : DecidableEq (Except ε α)
  | .ok a, .ok b => decidable_of_iff (a = b) (by simp)
  | .error e, .error e' => decidable_of_iff (e = e') (by simp)
  | .ok _, .error _ => isFalse nofun
  | .error _, .ok _ => isFalse nofun

namespace Bench

variable {α β : Type} (daemon : Daemon) (world : World)

@[simp] theorem perform_pure (a : α) : perform (pure a) daemon world = (.ok a, world) := rfl

@[simp] theorem perform_throw (failure : Failure) :
    perform (throw failure : Bench α) daemon world = (.error failure, world) := rfl

@[simp] theorem perform_get : perform get daemon world = (.ok world, world) := rfl

@[simp] theorem perform_bind (action : Bench α) (next : α → Bench β) :
    perform (action >>= next) daemon world =
      match perform action daemon world with
      | (.ok a, later) => perform (next a) daemon later
      | (.error failure, later) => (.error failure, later) := by
  simp only [perform, bind, ReaderT.bind, ExceptT.bind, ExceptT.mk, StateT.bind]
  rcases action daemon world with ⟨_ | _, _⟩ <;> rfl

/-- A run gives what is computed for it, in the world that is computed for it. -/
theorem perform_eq {daemon : Daemon} {world : World} {action : Bench α} {result : Except Failure α}
    (computed : (perform action daemon world).1 = result) :
    perform action daemon world = (result, (perform action daemon world).2) := by
  rw [← computed]

/-- Peels the first step off an operation that gave a result. -/
theorem bind_ok {daemon : Daemon} {world later : World} {action : Bench α} {next : α → Bench β}
    {b : β} (performed : perform (action >>= next) daemon world = (.ok b, later)) :
    ∃ a between, perform action daemon world = (.ok a, between) ∧
      perform (next a) daemon between = (.ok b, later) := by
  rw [perform_bind] at performed
  rcases step : perform action daemon world with ⟨failure | a, between⟩
  · simp [step] at performed
  · exact ⟨a, between, rfl, by simpa [step] using performed⟩

/-- What fails first is the failure of the whole. -/
theorem bind_failed {daemon : Daemon} {world : World} {action : Bench α} {next : α → Bench β}
    {failure : Failure} (failed : (perform action daemon world).1 = .error failure) :
    (perform (action >>= next) daemon world).1 = .error failure := by
  rw [perform_bind, perform_eq failed]

@[simp] theorem perform_map (f : α → β) (action : Bench α) :
    perform (f <$> action) daemon world =
      match perform action daemon world with
      | (.ok a, later) => (.ok (f a), later)
      | (.error failure, later) => (.error failure, later) := by
  rw [map_eq_pure_bind, perform_bind]
  rfl

@[simp] theorem perform_log (level : Level) (logger message : String) :
    perform (log level logger message) daemon world =
      (.ok (), world.logged level logger message) := rfl

theorem perform_wait {world : World} {seconds : Binary64} (granted : world.Grants seconds) :
    perform (wait seconds) daemon world = (.ok (), world.passed seconds) := by
  have inside : world.longestWait.lt seconds = false := granted
  simp only [wait, perform_bind, perform_get, inside]
  rfl

theorem perform_wait_of_not {world : World} {seconds : Binary64}
    (refused : ¬ world.Grants seconds) :
    perform (wait seconds) daemon world = (.error .endlessWait, world) := by
  have outside : world.longestWait.lt seconds = true := by simpa [World.Grants] using refused
  simp only [wait, perform_bind, perform_get, outside]
  rfl

@[simp] theorem perform_call (argv : List String) :
    perform (call argv) daemon world =
      (.ok (world.scene.run daemon argv).outcome, world.asked daemon argv) := rfl

@[simp] theorem perform_ofExcept (result : Except Failure α) :
    perform (ofExcept result) daemon world = (result, world) := by
  cases result <;> rfl

@[simp] theorem perform_tryFiles (op : FileOp α) :
    perform (tryFiles op) daemon world =
      (.ok (op.perform world.disk).1, world.withDisk (op.perform world.disk).2) := rfl

@[simp] theorem perform_files (op : FileOp α) :
    perform (files op) daemon world =
      ((op.perform world.disk).1.mapError .file, world.withDisk (op.perform world.disk).2) := by
  simp only [files, perform_bind, perform_tryFiles]
  cases (op.perform world.disk).1 <;> rfl

@[simp] theorem perform_observe (action : Bench α) :
    perform (observe action) daemon world =
      (.ok (perform action daemon world).1, (perform action daemon world).2) := by
  simp only [perform, observe, tryCatch, tryCatchThe, MonadExceptOf.tryCatch, ExceptT.tryCatch,
    ExceptT.mk, Functor.map, ExceptT.map, bind, StateT.bind]
  rcases action daemon world with ⟨_ | _, _⟩ <;> rfl

/-- The key under which a throttled message is known. -/
def throttleKey (level message : String) : Option String → String
  | some key => if key = "" then level ++ ":" ++ message else key
  | none => level ++ ":" ++ message

theorem perform_logThrottled (logger level message : String) (key : Option String) :
    perform (logThrottled logger level message key) daemon world =
      let known := throttleKey level message key
      if world.throttle.holds world.clock known then (.ok false, world)
      else
        match LevelName.ofText logger level message with
        | .logs level => (.ok true, (world.logged level logger message).remembering known)
        | .silent => (.ok true, world.remembering known)
        | .refused fault => (.error (.level fault), world) := by
  have throttles (known : String) : perform (do
      if world.throttle.holds world.clock known then return false
      match LevelName.ofText logger level message with
      | .logs level => log level logger message
      | .silent => pure ()
      | .refused fault => throw (.level fault)
      modify fun world => { world with throttle := world.throttle.remember world.clock known }
      return true : Bench Bool) daemon world =
      if world.throttle.holds world.clock known then (.ok false, world)
      else
        match LevelName.ofText logger level message with
        | .logs level => (.ok true, (world.logged level logger message).remembering known)
        | .silent => (.ok true, world.remembering known)
        | .refused fault => (.error (.level fault), world) := by
    split
    · rfl
    · cases LevelName.ofText logger level message <;> rfl
  simp only [logThrottled, perform_bind, perform_get]
  cases key <;> exact throttles _

/-- A throttled message of a level that logs is either logged or held back. -/
theorem logThrottled_spec {logger name message : String} {level : Level}
    (known : LevelName.ofText logger name message = .logs level) (key : Option String) :
    ∃ emitted later, perform (logThrottled logger name message key) daemon world =
      (.ok emitted, later) ∧ world.Quiet later := by
  simp only [perform_logThrottled, known]
  split
  · exact ⟨false, world, rfl, .refl world⟩
  · exact ⟨true, _, rfl, rfl, rfl, rfl, rfl, rfl, [⟨level, logger, message⟩], rfl⟩

end Bench

end ContractBench
