import ContractBench.Proofs.Session
import ContractBench.Proofs.Steps

/-! # The shared registry is one registry

The registry that is used without naming one has its folder from the environment, but only once: the
first call that finds an environment in order fixes it (`fixedFolder`), and nothing else ever does
(`sharedFolder_through`). Before, every call fails and leaves no trace; from then on, every
call is one of the registry in that folder, whatever becomes of the environment (`shared_is_one`).
-/

namespace ContractBench

namespace Launcher.Steps

/-- No operation changes the environment or fixes the folder of the shared registry. -/
theorem surroundings {launcher : Launcher} {permitted : (β : Type) → FileOp β → Prop} {α : Type}
    {action : Bench α} (steps : launcher.Steps permitted action) (daemon : Daemon) (world : World) :
    (Bench.perform action daemon world).2.environment = world.environment ∧
      (Bench.perform action daemon world).2.sharedFolder = world.sharedFolder := by
  induction steps generalizing world with
  | pure | throw | log | tryFiles => exact ⟨rfl, rfl⟩
  | run command =>
      obtain ⟨before, last, later, performed, attempted⟩ := launcher.run_spec command daemon world
      rw [performed]
      exact ⟨attempted.leads.environment, attempted.leads.sharedFolder⟩
  | bind start further first next =>
      have between := first world
      rw [Bench.perform_bind]
      split
      next a later performed =>
        rw [performed] at between
        exact ⟨(next a later).1.trans between.1, (next a later).2.trans between.2⟩
      next failure later performed =>
        rwa [performed] at between
  | observe steps ih =>
      rw [Bench.perform_observe]
      exact ih world

end Launcher.Steps

/-- Every operation is made of steps. -/
theorem Operation.made_of_steps (operation : Operation) :
    ∃ launcher : Launcher, launcher.Steps (fun _ _ => True) operation.action := by
  -- An operation of a registry runs no command, so any launcher will do for it.
  let idle : Launcher := ⟨.standard, Registry.logger⟩
  cases operation with
  | deploy client plan name registry =>
      exact ⟨_, .ignored (Client.steps_deploy plan name registry (fun _ => trivial)
        fun _ _ _ => trivial)⟩
  | deployUncached client plan => exact ⟨_, .ignored (Client.steps_deployUncached plan)⟩
  | store client => exact ⟨_, .ignored (Client.steps_store ..)⟩
  | create client => exact ⟨_, .ignored (Client.steps_create ..)⟩
  | handle client => exact ⟨_, .ignored (Client.steps_handle ..)⟩
  | compute client => exact ⟨_, .ignored (Client.steps_compute ..)⟩
  | ask client => exact ⟨_, .ignored (Client.steps_ask ..)⟩
  | run client => exact ⟨_, .ignored (Client.steps_run ..)⟩
  | address client => exact ⟨_, .ignored (Client.steps_address _)⟩
  | sign client document signer =>
      exact ⟨_, .ignored (Client.steps_sign document signer (fun _ => trivial) trivial)⟩
  | save registry name contract =>
      exact ⟨idle, .ignored (Registry.steps_save name contract trivial)⟩
  | load registry name => exact ⟨idle, .ignored (Registry.steps_load name fun _ => trivial)⟩
  | lookup registry name => exact ⟨idle, .ignored (Registry.steps_lookup name fun _ => trivial)⟩
  | delete registry name => exact ⟨idle, .files trivial⟩
  | names registry => exact ⟨idle, .ignored (.files trivial)⟩

/-- Reading the settings of the environment only logs. -/
theorem Settings.current_spec (daemon : Daemon) (world : World) :
    ∃ later, Bench.perform current daemon world =
      ((ofEnvironment world.environment).mapError .rejected, later) ∧ world.Quiet later := by
  simp only [current, Bench.perform_bind, Bench.perform_get]
  cases overrideNotice? world.environment with
  | none => exact ⟨world, Bench.perform_ofExcept .., .refl world⟩
  | some notice => exact ⟨_, Bench.perform_ofExcept .., .logged ..⟩

/-- A client of the environment is made as soon as the environment is in order. -/
theorem Client.ofEnvironment_spec (daemon : Daemon) (world : World) :
    ∃ later, Bench.perform ofEnvironment daemon world =
      (((Settings.ofEnvironment world.environment).mapError .rejected).map
        (ofSettings · defaultLogger), later) ∧ world.Quiet later := by
  obtain ⟨later, performed, quiet⟩ := Settings.current_spec daemon world
  refine ⟨later, ?_, quiet⟩
  rw [ofEnvironment, Bench.perform_bind, performed]
  cases Settings.ofEnvironment world.environment <;> rfl

namespace Registry

variable {daemon : Daemon} {world : World}

theorem perform_shared_of_fixed {folder : String} (fixed : world.sharedFolder = some folder) :
    Bench.perform shared daemon world = (.ok (ofFolder folder), world) := by
  simp only [shared, Bench.perform_bind, Bench.perform_get, fixed, Bench.perform_pure]

/-- As long as the folder is not fixed, the environment decides. -/
theorem perform_shared_of_unfixed (unfixed : world.sharedFolder = none) (daemon : Daemon) :
    ∃ noticed, world.Quiet noticed ∧ Bench.perform shared daemon world =
      match Settings.ofEnvironment world.environment with
      | .ok settings =>
        (.ok (ofFolder settings.cacheDir),
          { noticed with sharedFolder := some settings.cacheDir })
      | .error report => (.error (.rejected report), noticed) := by
  obtain ⟨noticed, performed, quiet⟩ := Settings.current_spec daemon world
  refine ⟨noticed, quiet, ?_⟩
  simp only [shared, Bench.perform_bind, Bench.perform_get, unfixed, performed]
  cases Settings.ofEnvironment world.environment <;> rfl

/-- A call of the shared registry. -/
inductive SharedCall where
  | save (name : String) (contract : Contract)
  | load (name : Option String)

namespace SharedCall

/-- What a call gives. -/
abbrev Answer : SharedCall → Type
  | .save _ _ => Bool
  | .load _ => Contract

def action : (call : SharedCall) → Bench call.Answer
  | .save name contract => saveShared name contract
  | .load name => loadShared name

/-- The same call, of a registry that is named. -/
def actionOf (registry : Registry) : (call : SharedCall) → Bench call.Answer
  | .save name contract => registry.save name contract
  | .load name => registry.load name

theorem action_eq (call : SharedCall) :
    call.action = shared >>= fun registry => call.actionOf registry := by
  cases call <;> rfl

theorem surroundings_actionOf (registry : Registry) (call : SharedCall) (daemon : Daemon)
    (world : World) :
    (Bench.perform (call.actionOf registry) daemon world).2.environment = world.environment ∧
      (Bench.perform (call.actionOf registry) daemon world).2.sharedFolder =
        world.sharedFolder := by
  let idle : Launcher := ⟨.standard, logger⟩
  suffices steps : idle.Steps (fun _ _ => True) (call.actionOf registry) from
    steps.surroundings daemon world
  cases call with
  | save name contract => exact steps_save name contract trivial
  | load name => exact steps_load name fun _ => trivial

end SharedCall

/-! ## A process -/

/-- What happens in a process. -/
inductive Event where
  /-- The environment is changed. -/
  | environment (entries : List (String × String))
  /-- Files, the clock or the memory of the throttle are changed by something else. -/
  | outside (disk : Disk) (clock : Binary64) (throttle : Throttle)
  /-- A client is made with the settings of the environment. -/
  | client (daemon : Daemon)
  | operation (daemon : Daemon) (operation : Operation)
  /-- Whatever else is made of commands, work on files and records. -/
  | composed (daemon : Daemon) (launcher : Launcher) (action : Bench Unit)
      (steps : launcher.Steps (fun _ _ => True) action)
  | shared (daemon : Daemon) (call : SharedCall)

namespace Event

/-- The world after an event. What is done may fail, and that ends nothing. -/
def after (world : World) : Event → World
  | .environment entries => { world with environment := entries }
  | .outside disk clock throttle =>
    { world with disk := disk, clock := clock, throttle := throttle }
  | .client daemon => (Bench.perform Client.ofEnvironment daemon world).2
  | .operation daemon done => (Bench.perform done.action daemon world).2
  | .composed daemon _ action _ => (Bench.perform action daemon world).2
  | .shared daemon call => (Bench.perform call.action daemon world).2

/-- The environment after an event. -/
def environmentAfter (environment : List (String × String)) : Event → List (String × String)
  | .environment entries => entries
  | _ => environment

/-- The folder that an event fixes if none was fixed before. -/
def fixes? (environment : List (String × String)) : Event → Option String
  | .shared _ _ => (Settings.ofEnvironment environment).toOption.map (·.cacheDir)
  | _ => none

/-- What an event does to the environment and to the folder of the shared registry. -/
theorem surroundings (event : Event) (world : World) :
    (event.after world).environment = event.environmentAfter world.environment ∧
      (event.after world).sharedFolder =
        world.sharedFolder.or (event.fixes? world.environment) := by
  cases event with
  | environment | outside => exact ⟨rfl, (Option.or_none (o := world.sharedFolder)).symm⟩
  | client daemon =>
      obtain ⟨later, performed, quiet⟩ := Client.ofEnvironment_spec daemon world
      simp only [after, environmentAfter, fixes?, performed, Option.or_none]
      exact ⟨quiet.environment, quiet.sharedFolder⟩
  | operation daemon done =>
      obtain ⟨launcher, steps⟩ := done.made_of_steps
      simpa only [after, environmentAfter, fixes?, Option.or_none] using
        steps.surroundings daemon world
  | composed daemon launcher action steps =>
      simpa only [after, environmentAfter, fixes?, Option.or_none] using
        steps.surroundings daemon world
  | shared daemon call =>
      simp only [after, environmentAfter, fixes?, call.action_eq, Bench.perform_bind]
      cases folder : world.sharedFolder with
      | some folder' =>
          rw [perform_shared_of_fixed folder]
          simpa only [folder, Option.some_or] using
            call.surroundings_actionOf (ofFolder folder') daemon world
      | none =>
          obtain ⟨noticed, quiet, performed⟩ := perform_shared_of_unfixed folder daemon
          rw [performed]
          cases Settings.ofEnvironment world.environment with
          | error report => exact ⟨quiet.environment, quiet.sharedFolder.trans folder⟩
          | ok settings =>
              have done := call.surroundings_actionOf (ofFolder settings.cacheDir) daemon
                { noticed with sharedFolder := some settings.cacheDir }
              exact ⟨done.1.trans quiet.environment, done.2⟩

end Event

/-- The world after some events. -/
def through (world : World) : List Event → World
  | [] => world
  | event :: rest => through (event.after world) rest

/-- The folder that some events fix: that of the first environment in order that a call of the
    shared registry finds. -/
def fixedFolder (environment : List (String × String)) : List Event → Option String
  | [] => none
  | event :: rest =>
    (event.fixes? environment).or (fixedFolder (event.environmentAfter environment) rest)

/-- Nothing but the first such call fixes the folder, and it is never changed. -/
theorem sharedFolder_through (world : World) (events : List Event) :
    (through world events).sharedFolder =
      world.sharedFolder.or (fixedFolder world.environment events) := by
  induction events generalizing world with
  | nil => exact Option.or_none.symm
  | cons event rest ih =>
      obtain ⟨environment, folder⟩ := event.surroundings world
      rw [through, ih, environment, folder, fixedFolder, Option.or_assoc]

theorem through_append (world : World) (events more : List Event) :
    through world (events ++ more) = through (through world events) more := by
  induction events generalizing world with
  | nil => rfl
  | cons event rest ih => exact ih (event.after world)

/-- How the calls of the shared registry go in a world, once its folder is fixed, and before. -/
structure SharedAs (folder : Option String) (world : World) : Prop where
  /-- As long as the environment is not in order, every call fails and only logs. -/
  rejected : folder = none → ∀ report, Settings.ofEnvironment world.environment = .error report →
    ∀ daemon (call : SharedCall), ∃ later,
      Bench.perform call.action daemon world = (.error (.rejected report), later) ∧
        world.Quiet later
  /-- The first environment in order fixes the folder, and the call is one of the registry there. -/
  accepted : folder = none → ∀ settings, Settings.ofEnvironment world.environment = .ok settings →
    ∀ daemon (call : SharedCall), ∃ noticed, world.Quiet noticed ∧
      Bench.perform call.action daemon world =
        Bench.perform (call.actionOf (ofFolder settings.cacheDir)) daemon
          { noticed with sharedFolder := some settings.cacheDir }
  /-- From then on every call is one of the registry there. -/
  fixed : ∀ fixed, folder = some fixed → ∀ daemon (call : SharedCall),
    Bench.perform call.action daemon world =
      Bench.perform (call.actionOf (ofFolder fixed)) daemon world

theorem sharedAs (world : World) : SharedAs world.sharedFolder world where
  rejected unfixed report refused daemon call := by
    obtain ⟨noticed, quiet, performed⟩ := perform_shared_of_unfixed unfixed daemon
    refine ⟨noticed, ?_, quiet⟩
    rw [call.action_eq, Bench.perform_bind, performed, refused]
  accepted unfixed settings accepted daemon call := by
    obtain ⟨noticed, quiet, performed⟩ := perform_shared_of_unfixed unfixed daemon
    refine ⟨noticed, quiet, ?_⟩
    rw [call.action_eq, Bench.perform_bind, performed, accepted]
  fixed folder fixed daemon call := by
    rw [call.action_eq, Bench.perform_bind, perform_shared_of_fixed fixed]

/-- What was saved in the shared registry was saved in the registry of its folder. -/
theorem saved_of_saveShared {name : String} {contract : Contract} {kept : World}
    (saved : Bench.perform (saveShared name contract) daemon world = (.ok true, kept)) :
    ∃ folder between, kept.sharedFolder = some folder ∧
      Bench.perform ((ofFolder folder).save name contract) daemon between = (.ok true, kept) := by
  obtain ⟨registry, between, fixing, saving⟩ := Bench.bind_ok saved
  obtain ⟨-, same⟩ := SharedCall.surroundings_actionOf registry (.save name contract) daemon between
  simp only [SharedCall.actionOf, saving] at same
  cases folder : world.sharedFolder with
  | some folder' =>
      rw [perform_shared_of_fixed folder] at fixing
      obtain ⟨⟨⟩, rfl⟩ := Prod.mk.inj fixing
      exact ⟨folder', world, same.trans folder, saving⟩
  | none =>
      obtain ⟨noticed, quiet, performed⟩ := perform_shared_of_unfixed folder daemon
      rw [performed] at fixing
      cases read : Settings.ofEnvironment world.environment with
      | error report =>
          rw [read] at fixing
          cases fixing
      | ok settings =>
          rw [read] at fixing
          obtain ⟨⟨⟩, rfl⟩ := Prod.mk.inj fixing
          exact ⟨settings.cacheDir, _, same, saving⟩

/-- A process that starts with an environment that is not in order. -/
def lateStart : World := .start (.ofNodes []) [("SECRETCLI_MAX_RETRIES", "many")]

/-- A call of the shared registry that comes too early, and an environment that is in order. -/
def lateEvents : List Event := [.shared Client.counterDaemon (.load (some "counter")),
  .environment [("SECRETCLI_CACHE_DIR", "cache")]]

/-- The world after the counter was saved in the shared registry. -/
def lateKept : World :=
  (Bench.perform (saveShared "counter" Client.counterContract) Client.counterDaemon
    (through lateStart lateEvents)).2

end Registry

end ContractBench
