import ContractBench.Deployment
import ContractBench.Proofs.Retry

/-! # Operations are made of steps

Every operation of a client runs commands, works on files, logs and fails, and what it does next
depends on the world only through what these steps gave. `Launcher.Steps` says so, and what holds of
each kind of step then holds of all operations by one induction: the history of calls only grows
(`Steps.calls_suffix`), and what files and daemon preserve is preserved (`Steps.preserves`).
-/

namespace ContractBench

namespace Scene

theorem reached_succ (daemon : Daemon) (argv : List String) (scene : Scene) (i : Nat) :
    scene.reached daemon argv (i + 1) = (scene.reached daemon argv i).next daemon argv := by
  induction i generalizing scene with
  | zero => rfl
  | succ i ih => exact ih (scene.next daemon argv)

theorem outcomes_eq (daemon : Daemon) (argv : List String) (scene : Scene) (i : Nat) :
    scene.outcomes daemon argv i = ((scene.reached daemon argv i).run daemon argv).outcome := by
  induction i generalizing scene with
  | zero => rfl
  | succ i ih => exact ih (scene.next daemon argv)

theorem calls_suffix_reached (daemon : Daemon) (argv : List String) (scene : Scene) (i : Nat) :
    scene.calls <:+ (scene.reached daemon argv i).calls := by
  induction i with
  | zero => exact List.suffix_refl _
  | succ i ih =>
      rw [reached_succ]
      exact ih.trans (List.suffix_cons _ _)

/-- What every run of the daemon preserves is not lost by putting a command to it some times. -/
theorem disk_reached {holds : Disk → Prop} {daemon : Daemon}
    (keeps : ∀ earlier call, holds call.disk → holds (daemon earlier call).disk)
    (argv : List String) (scene : Scene) (begun : holds scene.disk) (i : Nat) :
    holds (scene.reached daemon argv i).disk := by
  induction i with
  | zero => exact begun
  | succ i ih =>
      rw [reached_succ]
      exact keeps _ _ ih

/-- As long as the disk stays as it is, the same call is made again and again. -/
theorem reached_of_unchanged {daemon : Daemon} {argv : List String} {scene : Scene} {i : Nat}
    (unchanged : ∀ j < i, (daemon (List.replicate j (scene.call argv) ++ scene.calls)
      (scene.call argv)).disk = scene.disk) :
    scene.reached daemon argv i =
      ⟨List.replicate i (scene.call argv) ++ scene.calls, scene.disk, scene.environment⟩ := by
  induction i with
  | zero => rfl
  | succ i ih =>
      rw [reached_succ, ih fun j below => unchanged j (Nat.lt_succ_of_lt below), next, run]
      change Scene.mk _ (daemon _ (scene.call argv)).disk _ = _
      rw [unchanged i (Nat.lt_succ_self i)]
      rfl

end Scene

/-- What comes next in an operation adds to the calls of what came first. -/
theorem Bench.calls_suffix_of_grows {α β : Type} {first : Bench α} {next : α → Bench β}
    {daemon : Daemon} {world : World}
    (grows : ∀ a later, later.calls <:+ (perform (next a) daemon later).2.calls) :
    (perform first daemon world).2.calls <:+ (perform (first >>= next) daemon world).2.calls := by
  rw [perform_bind]
  rcases perform first daemon world with ⟨failure | a, later⟩
  · exact List.suffix_refl _
  · exact grows a later

namespace Launcher

theorem run_spec (launcher : Launcher) (command : List String) (daemon : Daemon) (world : World) :
    ∃ before last later, Bench.perform (launcher.run command) daemon world =
        ((launcher.conclusion command last).map Output.answer, later) ∧
      launcher.Attempted command daemon launcher.settings.maxRetries world before last later := by
  obtain ⟨before, last, later, performed, attempted⟩ :=
    launcher.attempts_spec command daemon launcher.settings.maxRetries 1 world
  refine ⟨before, last, later, ?_, attempted⟩
  rw [run_eq_attempts, Bench.perform_bind, performed]
  cases launcher.conclusion command last <;> rfl

/-- Running a command calls the daemon at least once. -/
theorem call_suffix (launcher : Launcher) (command : List String) (daemon : Daemon)
    (world : World) :
    world.scene.call (launcher.argv command) :: world.calls <:+
      (Bench.perform (launcher.run command) daemon world).2.calls := by
  obtain ⟨before, last, later, performed, attempted⟩ := launcher.run_spec command daemon world
  rw [performed]
  have reached := Scene.calls_suffix_reached daemon (launcher.argv command)
    (world.scene.next daemon (launcher.argv command)) before.length
  have calls := congrArg Scene.calls attempted.scene
  change later.calls = _ at calls
  rw [calls]
  exact reached

/-- An operation of which each step runs a command with the launcher, works on files in a way that
    is permitted, logs, or fails. -/
inductive Steps (launcher : Launcher) (permitted : (β : Type) → FileOp β → Prop) :
    {α : Type} → Bench α → Prop where
  | pure {α : Type} (a : α) : Steps launcher permitted (pure a : Bench α)
  | throw {α : Type} (failure : Failure) : Steps launcher permitted (throw failure : Bench α)
  | log (level : Level) (logger message : String) :
      Steps launcher permitted (Bench.log level logger message)
  | tryFiles {α : Type} {op : FileOp α} (allowed : permitted α op) :
      Steps launcher permitted (Bench.tryFiles op)
  | run (command : List String) : Steps launcher permitted (launcher.run command)
  /-- What comes next may depend on what the first steps gave, and on nothing else. -/
  | bind {α β : Type} {first : Bench α} {next : α → Bench β}
      (start : Steps launcher permitted first)
      (further : ∀ a, Steps launcher permitted (next a)) :
      Steps launcher permitted (first >>= next)
  | observe {α : Type} {action : Bench α} (steps : Steps launcher permitted action) :
      Steps launcher permitted (Bench.observe action)

namespace Steps

variable {launcher : Launcher} {permitted : (β : Type) → FileOp β → Prop} {α : Type}

theorem ofExcept (result : Except Failure α) :
    launcher.Steps permitted (Bench.ofExcept result) := by
  cases result with
  | ok a => exact .pure a
  | error failure => exact .throw failure

theorem files {op : FileOp α} (allowed : permitted α op) :
    launcher.Steps permitted (Bench.files op) := by
  refine .bind (.tryFiles allowed) fun result => ?_
  cases result with
  | ok a => exact .pure a
  | error e => exact .throw (.file e)

theorem ignored {action : Bench α} (steps : launcher.Steps permitted action) :
    launcher.Steps permitted (discard action) := by
  change launcher.Steps permitted (_ <$> action)
  rw [map_eq_pure_bind]
  exact .bind steps fun _ => .pure _

theorem readAnswer (command : List String) (answer : String) :
    launcher.Steps permitted (launcher.readAnswer command answer) := by
  rw [Launcher.readAnswer]
  cases Json.read answer with
  | ok document => exact .pure document
  | error e =>
      simp only
      cases Failure.ofSize? e.fault with
      | some failure => exact .throw failure
      | none => exact .bind (.log ..) fun _ => .throw _

theorem runJson (args : List String) : launcher.Steps permitted (launcher.runJson args) :=
  .bind (.run _) fun answer => .readAnswer _ answer

/-! ## What all steps have in common -/

variable {action : Bench α}

theorem calls_suffix (steps : launcher.Steps permitted action) (daemon : Daemon) (world : World) :
    world.calls <:+ (Bench.perform action daemon world).2.calls := by
  induction steps generalizing world with
  | pure | throw | log | tryFiles => exact List.suffix_refl _
  | run command => exact (List.suffix_cons _ _).trans (launcher.call_suffix command daemon world)
  | bind start further first next =>
      exact (first world).trans (Bench.calls_suffix_of_grows fun a later => next a later)
  | observe steps ih =>
      rw [Bench.perform_observe]
      exact ih world

theorem calls_suffix_bind {β : Type} {first : Bench α} {next : α → Bench β}
    (further : ∀ a, launcher.Steps permitted (next a)) (daemon : Daemon) (world : World) :
    (Bench.perform first daemon world).2.calls <:+
      (Bench.perform (first >>= next) daemon world).2.calls :=
  Bench.calls_suffix_of_grows fun a later => (further a).calls_suffix daemon later

/-- What each work on files and each run of the daemon preserves of the disk is preserved by every
    operation, whatever comes of it. -/
theorem preserves {holds : Disk → Prop}
    (steps : launcher.Steps (fun _ op => op.Preserves holds) action)
    {daemon : Daemon} (keeps : ∀ earlier call, holds call.disk → holds (daemon earlier call).disk)
    {world : World} (begun : holds world.disk) :
    holds (Bench.perform action daemon world).2.disk := by
  induction steps generalizing world with
  | pure | throw | log => exact begun
  | tryFiles allowed => exact allowed world.disk begun
  | run command =>
      obtain ⟨before, last, later, performed, attempted⟩ := launcher.run_spec command daemon world
      rw [performed]
      have reached := Scene.disk_reached keeps (launcher.argv command) world.scene begun
        (before.length + 1)
      rwa [← attempted.scene] at reached
  | bind start further first next =>
      have between := first begun
      rw [Bench.perform_bind]
      split
      next a later performed =>
        rw [performed] at between
        exact next a between
      next failure later performed =>
        rw [performed] at between
        exact between
  | observe steps ih =>
      rw [Bench.perform_observe]
      exact ih begun

end Steps

end Launcher

/-! ## The operations of a client -/

namespace Client

/-- What is made of an answer that must be of a type. -/
def reading (client : Client) (type : AnswerType) (answer : String) : Except Failure Value :=
  (client.launcher.document answer).bind fun document =>
    (type.schema.accept type.title document).mapError fun report =>
      .mismatch type.name report document.display

theorem fit_spec (client : Client) (type : AnswerType) (document : Value) (daemon : Daemon)
    (world : World) :
    ∃ later, Bench.perform (client.fit type document) daemon world =
      ((type.schema.accept type.title document).mapError fun report =>
        .mismatch type.name report document.display, later) ∧ world.Quiet later := by
  rw [fit]
  cases type.schema.accept type.title document with
  | ok value => exact ⟨world, rfl, .refl world⟩
  | error report => exact ⟨_, rfl, .logged ..⟩

/-- A command that must give a value of a type: the loop of its calls, and what is made of its
    end. -/
theorem run_spec (client : Client) (command : List String) (type : AnswerType) (daemon : Daemon)
    (world : World) :
    let args := command ++ client.launcher.settings.outputFlags
    ∃ before last ended later, Bench.perform (client.run command type) daemon world =
        ((client.launcher.conclusion args last).bind fun output =>
          client.reading type output.answer, later) ∧
      client.launcher.Attempted args daemon client.launcher.settings.maxRetries world before last
        ended ∧
      ended.Quiet later := by
  intro args
  obtain ⟨before, last, ended, performed, attempted⟩ :=
    client.launcher.run_spec args daemon world
  refine ⟨before, last, ended, ?_⟩
  rw [run, Bench.perform_bind, Launcher.runJson_eq, Bench.perform_bind, performed]
  cases client.launcher.conclusion args last with
  | error failure => exact ⟨ended, rfl, attempted, .refl ended⟩
  | ok output =>
      obtain ⟨read, answered, quiet⟩ :=
        client.launcher.readAnswer_spec args output.answer daemon ended
      simp only [Except.map, Except.bind, reading, args, answered]
      cases client.launcher.document output.answer with
      | error failure => exact ⟨read, rfl, attempted, quiet⟩
      | ok document =>
          obtain ⟨later, fitted, after⟩ := client.fit_spec type document daemon read
          exact ⟨later, fitted, attempted, quiet.trans after⟩

variable {client : Client} {permitted : (β : Type) → FileOp β → Prop}

theorem steps_fit (type : AnswerType) (document : Value) :
    client.launcher.Steps permitted (client.fit type document) := by
  rw [fit]
  cases type.schema.accept type.title document with
  | ok value => exact .pure value
  | error report => exact .bind (.log ..) fun _ => .throw _

theorem steps_run (command : List String) (type : AnswerType) :
    client.launcher.Steps permitted (client.run command type) :=
  .bind (.runJson command) fun document => steps_fit type document

theorem steps_store (file : String) (user gas backend : Option String) :
    client.launcher.Steps permitted (client.store file user gas backend) :=
  .bind (steps_run ..) fun _ => .bind (.log ..) fun _ => .pure _

theorem steps_instantiate (contract : Contract) (message : Value) (label sender : String)
    (gas backend : Option String) :
    client.launcher.Steps permitted
      (client.instantiate contract message label sender gas backend) :=
  .bind (.ofExcept _) fun _ => .bind (steps_run ..) fun _ => .bind (.log ..) fun _ => .pure _

theorem steps_execute (contract : Contract) (message : Value) (sender : String)
    (gas backend amount : Option String) :
    client.launcher.Steps permitted
      (client.execute contract message sender gas backend amount) :=
  .bind (.ofExcept _) fun _ => .bind (steps_run ..) fun _ => .bind (.log ..) fun _ => .pure _

theorem steps_ask (contract : Contract) (message : Value) (type : Option AnswerType) :
    client.launcher.Steps permitted (client.ask contract message type) := by
  refine .bind (.ofExcept _) fun text => .bind (.runJson _) fun document => ?_
  cases type with
  | none => exact .pure document
  | some type => exact steps_fit type document

theorem steps_transaction (hash : String) :
    client.launcher.Steps permitted (client.transaction hash) :=
  .bind (steps_run ..) fun _ => .pure _

theorem steps_computation (hash : String) :
    client.launcher.Steps permitted (client.computation hash) :=
  .bind (steps_run ..) fun _ => .pure _

theorem steps_storedCodes : client.launcher.Steps permitted client.storedCodes :=
  .bind (steps_run ..) fun _ => .pure _

theorem steps_address (key : String) : client.launcher.Steps permitted (client.address key) :=
  .bind (.run _) fun _ => .pure _

theorem steps_sign (document : Value) (signer : String)
    (write : ∀ text, permitted Unit
      (FileOp.writeText (.ofText client.settings.signFile) text))
    (remove : permitted Unit (FileOp.remove (.ofText client.settings.signFile))) :
    client.launcher.Steps permitted (client.sign document signer) := by
  refine .bind (.ofExcept _) fun text => .bind (.files (write text)) fun _ =>
    .bind (.observe (steps_run ..)) fun answer => .bind ?_ fun _ =>
    .bind (.ofExcept answer) fun _ => .pure _
  refine .bind (.tryFiles remove) fun result => ?_
  cases result with
  | ok => exact .pure ()
  | error e =>
      simp only
      split
      · exact .pure ()
      · exact .throw _

theorem steps_reportFailure (tx : Transaction) (withLog : Bool) :
    client.launcher.Steps permitted (client.reportFailure tx withLog) := by
  rw [reportFailure]
  cases tx.hasFailed <;> cases withLog
  · exact .pure ()
  · exact .pure ()
  · exact .bind (.pure ()) fun _ => .log ..
  · exact .bind (.log ..) fun _ => .log ..

theorem steps_create (message : Value) (contract : Contract) (label sender : String)
    (gas backend : Option String) :
    client.launcher.Steps permitted (client.create message contract label sender gas backend) :=
  .bind (steps_instantiate ..) fun _ => steps_transaction _

theorem steps_compute (message : Value) (contract : Contract) (sender : String)
    (gas backend amount : Option String) :
    client.launcher.Steps permitted
      (client.compute message contract sender gas backend amount) :=
  .bind (steps_execute ..) fun _ => steps_computation _

theorem steps_handle (message : Value) (contract : Contract) (sender : String)
    (gas backend amount : Option String) :
    client.launcher.Steps permitted
      (client.handle message contract sender gas backend amount) :=
  .bind (steps_execute ..) fun _ => .bind (steps_computation _) fun _ =>
    .bind (steps_transaction _) fun tx => .bind (steps_reportFailure tx true) fun _ => .pure _

theorem steps_attributeOf (tx : Transaction) (key step : String) :
    client.launcher.Steps permitted (client.attributeOf tx key step) := by
  rw [attributeOf]
  cases tx.findAttribute? key client.settings.attributeScan with
  | some text => exact .pure text
  | none => exact .bind (.log ..) fun _ => .pure ""

theorem steps_deployNew (plan : DeployPlan) :
    client.launcher.Steps permitted (client.deployNew plan) :=
  .bind (steps_store ..) fun _ => .bind (steps_transaction _) fun storeTx =>
    .bind (steps_attributeOf storeTx _ _) fun _ => .bind (steps_create ..) fun initTx =>
    .bind (steps_reportFailure initTx false) fun _ =>
    .bind (steps_attributeOf initTx _ _) fun _ => .bind steps_storedCodes fun _ => .pure _

theorem steps_deployUncached (plan : DeployPlan) :
    client.launcher.Steps permitted (client.deployUncached plan) :=
  .bind (steps_deployNew plan) fun _ => .pure _

end Client

namespace Registry

variable {launcher : Launcher} {permitted : (β : Type) → FileOp β → Prop} {registry : Registry}

theorem steps_load (name : Option String)
    (read : ∀ path, permitted (List UInt8) (FileOp.readBytes path)) :
    launcher.Steps permitted (registry.load name) := by
  cases name with
  | none => exact .throw _
  | some name =>
      refine .bind (.tryFiles (read _)) fun result => ?_
      cases result with
      | error e => exact .throw _
      | ok bytes =>
          simp only
          cases readEntry bytes with
          | error fault => exact .throw _
          | ok contract => exact .bind (.log ..) fun _ => .pure contract

theorem steps_lookup (name : Option String)
    (read : ∀ path, permitted (List UInt8) (FileOp.readBytes path)) :
    launcher.Steps permitted (registry.lookup name) := by
  refine .bind (.observe (steps_load name read)) fun result => ?_
  cases result with
  | ok contract => exact .pure _
  | error failure =>
      simp only
      split
      · exact .bind (.log ..) fun _ => .pure _
      · exact .throw failure

theorem steps_save (name : String) (contract : Contract)
    (write : permitted Unit (registry.writeEntry name contract)) :
    launcher.Steps permitted (registry.save name contract) := by
  refine .bind (.tryFiles write) fun result => ?_
  cases result with
  | ok => exact .bind (.log ..) fun _ => .pure true
  | error e =>
      simp only
      split
      · exact .throw _
      · exact .bind (.log ..) fun _ => .pure false

end Registry

namespace Client

variable {client : Client} {permitted : (β : Type) → FileOp β → Prop}

theorem steps_keep (registry : Registry) (name : Option String) (label : String)
    (deployed : Deployed)
    (write : deployed.contract.isResolved = true → ∀ given,
      permitted Unit (registry.writeEntry given deployed.contract)) :
    client.launcher.Steps permitted (keep registry name label deployed) := by
  rw [keep.eq_def]
  cases resolved : deployed.contract.isResolved with
  | false => exact .log ..
  | true =>
      cases name with
      | none => exact .log ..
      | some given =>
          exact .bind (Registry.steps_save given _ (write resolved given)) fun _ => .pure ()

theorem steps_deploy (plan : DeployPlan) (name : Option String) (registry : Option Registry)
    (read : ∀ path, permitted (List UInt8) (FileOp.readBytes path))
    (write : ∀ contract : Contract, contract.isResolved = true → ∀ given,
      permitted Unit ((client.registryFor registry).writeEntry given contract)) :
    client.launcher.Steps permitted (client.deploy plan name registry) := by
  refine .bind (Registry.steps_lookup name read) fun looked => ?_
  cases looked.contract with
  | some contract => exact .pure contract
  | none =>
      exact .bind (steps_deployNew plan) fun deployed =>
        .bind (steps_keep _ _ _ deployed (write deployed.contract)) fun _ => .pure _

end Client

end ContractBench
