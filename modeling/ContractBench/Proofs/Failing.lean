import ContractBench.Proofs.Reports
import ContractBench.Proofs.Tolerance

/-! # Deployments that fail

A deployment that fails stops at one of its steps. What it did with the daemon are the exchanges
before that step and the calls of the command that failed, and nothing more
(`Client.DeployStops`). No file was touched, so a lookup gives what it gave before, and the next
deployment under that name starts from the beginning (`Client.failed_without_trace`).
-/

namespace ContractBench

/-- A command that must give a value of a type, with the attempts at it that end in a failure: the
    outputs that complained, and what came last. -/
structure Unanswered (client : Client) (command : List String) (type : AnswerType)
    (failure : Failure) where
  before : List Output
  last : Ending
  trials : Trials client.launcher.settings.maxRetries before last
  failed : ((client.launcher.conclusion (command ++ client.launcher.settings.outputFlags) last).bind
    fun output => client.reading type output.answer) = .error failure

def Unanswered.acts {client : Client} {command : List String} {type : AnswerType}
    {failure : Failure} (unanswered : Unanswered client command type failure) : List Act :=
  rounds (client.launcher.argv (command ++ client.launcher.settings.outputFlags))
    client.launcher.settings.retryInterval (unanswered.before.map .finished)
    unanswered.last.outcome

/-- The exchanges of a deployment up to the number of its code. -/
structure CodeStored (client : Client) (plan : DeployPlan) where
  stored : Answered client.launcher
    (Command.store plan.file (some plan.sender) plan.storeGas plan.backend) .broadcast
  storeTx : Answered client.launcher
    (Command.transaction (Broadcast.ofRecord stored.value).txHash) .transaction
  id : String
  known : FirstText (fun attr => attr.key = "code_id") Attribute.value
    ((Transaction.ofRecord storeTx.value).visited client.settings.attributeScan) id

def CodeStored.acts {client : Client} {plan : DeployPlan} (code : CodeStored client plan) :
    List Act := code.stored.acts ++ code.storeTx.acts

/-- The exchanges of a deployment up to the making of its contract. -/
structure ContractMade (client : Client) (plan : DeployPlan) extends CodeStored client plan where
  text : String
  encoded : Message.encode plan.message = .ok text
  made : Answered client.launcher
    (Command.instantiate id text plan.label plan.sender plan.initGas plan.backend) .broadcast

def ContractMade.acts {client : Client} {plan : DeployPlan} (contract : ContractMade client plan) :
    List Act := contract.toCodeStored.acts ++ contract.made.acts

namespace Client

/-- What a deployment did with the daemon and the clock when it failed at one of its steps. -/
inductive DeployStops (client : Client) (plan : DeployPlan) (failure : Failure) :
    List Act → Prop where
  | store (failed : Unanswered client
      (Command.store plan.file (some plan.sender) plan.storeGas plan.backend) .broadcast failure) :
      DeployStops client plan failure failed.acts
  | storeTx (stored : Answered client.launcher
      (Command.store plan.file (some plan.sender) plan.storeGas plan.backend) .broadcast)
      (failed : Unanswered client
        (Command.transaction (Broadcast.ofRecord stored.value).txHash) .transaction failure) :
      DeployStops client plan failure (stored.acts ++ failed.acts)
  /-- The message has no text. -/
  | message (code : CodeStored client plan)
      (unsent : Message.encode plan.message = .error failure) :
      DeployStops client plan failure code.acts
  | make (code : CodeStored client plan) (text : String)
      (encoded : Message.encode plan.message = .ok text)
      (failed : Unanswered client
        (Command.instantiate code.id text plan.label plan.sender plan.initGas plan.backend)
        .broadcast failure) :
      DeployStops client plan failure (code.acts ++ failed.acts)
  | initTx (contract : ContractMade client plan)
      (failed : Unanswered client
        (Command.transaction (Broadcast.ofRecord contract.made.value).txHash) .transaction
        failure) :
      DeployStops client plan failure (contract.acts ++ failed.acts)
  | list (contract : ContractMade client plan)
      (initTx : Answered client.launcher
        (Command.transaction (Broadcast.ofRecord contract.made.value).txHash) .transaction)
      (failed : Unanswered client Command.listCodes .storedCodes failure) :
      DeployStops client plan failure (contract.acts ++ initTx.acts ++ failed.acts)

variable {client : Client} {daemon : Daemon} {world later : World} {failure : Failure}

/-! ## Where an operation failed -/

theorem run_error {command : List String} {type : AnswerType}
    (performed : Bench.perform (client.run command type) daemon world = (.error failure, later)) :
    ∃ failed : Unanswered client command type failure, world.Leads daemon failed.acts later := by
  obtain ⟨before, last, ended, final, spec, attempted, quiet⟩ :=
    client.run_spec command type daemon world
  rw [performed] at spec
  obtain ⟨failed, rfl⟩ := Prod.mk.inj spec
  exact ⟨⟨before, last, attempted.trials, failed.symm⟩, attempted.leads.quiet quiet⟩

theorem store_error {file : String} {user gas backend : Option String}
    (performed : Bench.perform (client.store file user gas backend) daemon world =
      (.error failure, later)) :
    ∃ failed : Unanswered client (Command.store file user gas backend) .broadcast failure,
      world.Leads daemon failed.acts later := by
  rw [store] at performed
  rcases Bench.bind_error performed with failed | ⟨value, between, -, logged⟩
  · exact run_error failed
  · cases logged

theorem transaction_error {hash : String}
    (performed : Bench.perform (client.transaction hash) daemon world = (.error failure, later)) :
    ∃ failed : Unanswered client (Command.transaction hash) .transaction failure,
      world.Leads daemon failed.acts later := by
  rw [transaction] at performed
  rcases Bench.bind_error performed with failed | ⟨value, between, -, made⟩
  · exact run_error failed
  · cases made

theorem storedCodes_error
    (performed : Bench.perform client.storedCodes daemon world = (.error failure, later)) :
    ∃ failed : Unanswered client Command.listCodes .storedCodes failure,
      world.Leads daemon failed.acts later := by
  rw [storedCodes] at performed
  rcases Bench.bind_error performed with failed | ⟨value, between, -, made⟩
  · exact run_error failed
  · cases made

/-- A contract is not made if the message has no text, and then no command was run, or because the
    command failed. -/
theorem instantiate_error {contract : Contract} {message : Value} {label sender : String}
    {gas backend : Option String}
    (performed : Bench.perform (client.instantiate contract message label sender gas backend)
      daemon world = (.error failure, later)) :
    (Message.encode message = .error failure ∧ later = world) ∨
      ∃ text, Message.encode message = .ok text ∧
        ∃ failed : Unanswered client
            (Command.instantiate contract.id text label sender gas backend) .broadcast failure,
          world.Leads daemon failed.acts later := by
  rw [instantiate] at performed
  rcases Bench.bind_error performed with unsent | ⟨text, start, wrote, running⟩
  · rw [Bench.perform_ofExcept] at unsent
    obtain ⟨refused, rfl⟩ := Prod.mk.inj unsent
    exact .inl ⟨refused, rfl⟩
  · rw [Bench.perform_ofExcept] at wrote
    obtain ⟨encoded, rfl⟩ := Prod.mk.inj wrote
    rcases Bench.bind_error running with failed | ⟨value, between, -, logged⟩
    · exact .inr ⟨text, encoded, run_error failed⟩
    · cases logged

theorem attributeOf_not_error {tx : Transaction} {key step : String} :
    Bench.perform (client.attributeOf tx key step) daemon world ≠ (.error failure, later) := by
  intro failed
  rw [attributeOf] at failed
  cases known : tx.findAttribute? key client.settings.attributeScan with
  | some text => simp [known] at failed
  | none => simp [known] at failed

theorem reportFailure_not_error {tx : Transaction} {withLog : Bool} :
    Bench.perform (client.reportFailure tx withLog) daemon world ≠ (.error failure, later) := by
  intro failed
  rw [reportFailure] at failed
  cases refused : tx.hasFailed with
  | false => simp [refused] at failed
  | true => cases withLog <;> simp [refused] at failed

theorem create_error {message : Value} {contract : Contract} {label sender : String}
    {gas backend : Option String}
    (performed : Bench.perform (client.create message contract label sender gas backend) daemon
      world = (.error failure, later)) :
    (Message.encode message = .error failure ∧ later = world) ∨
      ∃ text, Message.encode message = .ok text ∧
        ((∃ failed : Unanswered client
            (Command.instantiate contract.id text label sender gas backend) .broadcast failure,
          world.Leads daemon failed.acts later) ∨
        ∃ (made : Answered client.launcher
            (Command.instantiate contract.id text label sender gas backend) .broadcast)
          (failed : Unanswered client
            (Command.transaction (Broadcast.ofRecord made.value).txHash) .transaction failure),
          world.Leads daemon (made.acts ++ failed.acts) later) := by
  rw [create] at performed
  rcases Bench.bind_error performed with making | ⟨sent, between, instantiated, fetching⟩
  · rcases instantiate_error making with unsent | ⟨text, encoded, failed⟩
    · exact .inl unsent
    · exact .inr ⟨text, encoded, .inl failed⟩
  · obtain ⟨text, made, encoded, rfl, sending⟩ := instantiate_ok instantiated
    obtain ⟨failed, asking⟩ := transaction_error fetching
    exact .inr ⟨text, encoded, .inr ⟨made, failed, sending.trans asking⟩⟩

/-- A deployment fails at one of its steps, and what it read off the answers never fails. -/
theorem deployNew_stops {plan : DeployPlan}
    (failed : Bench.perform (client.deployNew plan) daemon world = (.error failure, later)) :
    ∃ acts, client.DeployStops plan failure acts ∧ world.Leads daemon acts later := by
  rw [deployNew] at failed
  rcases Bench.bind_error failed with storing | ⟨answer, w₁, storing, failed⟩
  · obtain ⟨unanswered, leads⟩ := store_error storing
    exact ⟨_, .store unanswered, leads⟩
  obtain ⟨stored, rfl, storeActs⟩ := store_ok storing
  rcases Bench.bind_error failed with fetching | ⟨tx, w₂, fetching, failed⟩
  · obtain ⟨unanswered, leads⟩ := transaction_error fetching
    exact ⟨_, .storeTx stored unanswered, storeActs.trans leads⟩
  obtain ⟨storeTx, rfl, fetchActs⟩ := transaction_ok fetching
  rcases Bench.bind_error failed with numbering | ⟨id, w₃, numbered, failed⟩
  · exact absurd numbering attributeOf_not_error
  obtain ⟨known, quiet₃⟩ := attributeOf_ok numbered
  let code : CodeStored client plan := ⟨stored, storeTx, id, known⟩
  have codeActs : world.Leads daemon code.acts w₃ := (storeActs.trans fetchActs).quiet quiet₃
  rcases Bench.bind_error failed with creating | ⟨tx, w₄, creating, failed⟩
  · rcases create_error creating with
      ⟨unsent, rfl⟩ | ⟨text, encoded, ⟨unanswered, leads⟩ | ⟨made, unanswered, leads⟩⟩
    · exact ⟨_, .message code unsent, codeActs⟩
    · exact ⟨_, .make code text encoded unanswered, codeActs.trans leads⟩
    · refine ⟨_, .initTx ⟨code, text, encoded, made⟩ unanswered, ?_⟩
      simpa only [ContractMade.acts, List.append_assoc] using codeActs.trans leads
  obtain ⟨text, made, initTx, encoded, rfl, createActs⟩ := create_ok creating
  rcases Bench.bind_error failed with reporting | ⟨_, w₅, reported, failed⟩
  · exact absurd reporting reportFailure_not_error
  rcases Bench.bind_error failed with addressing | ⟨address, w₆, addressed, failed⟩
  · exact absurd addressing attributeOf_not_error
  obtain ⟨-, quiet₆⟩ := attributeOf_ok addressed
  rcases Bench.bind_error failed with listing | ⟨codes, w₇, -, impossible⟩
  · obtain ⟨unanswered, leads⟩ := storedCodes_error listing
    refine ⟨_, .list ⟨code, text, encoded, made⟩ initTx unanswered, ?_⟩
    have acts := (((codeActs.trans createActs).quiet (reportFailure_ok reported)).quiet
      quiet₆).trans leads
    simpa only [ContractMade.acts, List.append_assoc] using acts
  · cases impossible

/-- Keeping a contract fails with none of the bench's own kinds of failure. -/
theorem keep_not_own {registry : Registry} {name : Option String} {label : String}
    {deployed : Deployed}
    (performed : Bench.perform (keep registry name label deployed) daemon world =
      (.error failure, later)) : failure.isOwn = false := by
  obtain ⟨ifSpoiled, ifNot⟩ := keep_cases registry name label deployed daemon world
  rw [performed] at ifSpoiled ifNot
  by_cases spoiled : Spoiled registry name deployed.contract world.disk
  · obtain ⟨e, -, same⟩ := ifSpoiled spoiled
    obtain rfl := Except.error.inj same
    rfl
  · cases ifNot spoiled

/-- A deployment that fails in a way of the bench's own has found nothing under the name, and failed
    at one of the steps that follow. -/
theorem deploy_error {plan : DeployPlan} {name : Option String} {registry : Option Registry}
    (own : failure.isOwn = true)
    (failed : Bench.perform (client.deploy plan name registry) daemon world =
      (.error failure, later)) :
    ((client.registryFor registry).found world.disk name).toOption = none ∧
      ∃ missed, world.Quiet missed ∧
        Bench.perform (client.deployNew plan) daemon missed = (.error failure, later) := by
  obtain ⟨missed, looked, quiet⟩ := (client.registryFor registry).lookup_spec name daemon world
  rw [deploy, Bench.perform_bind, looked] at failed
  cases known : (client.registryFor registry).found world.disk name with
  | ok kept =>
      simp only [known, Except.toOption] at failed
      cases failed
  | error fault =>
      simp only [known, Except.toOption] at failed
      refine ⟨rfl, missed, quiet, ?_⟩
      rcases Bench.bind_error failed with deploying | ⟨deployed, made, -, failed⟩
      · exact deploying
      · rcases Bench.bind_error failed with keeping | ⟨_, _, -, impossible⟩
        · rw [keep_not_own keeping] at own
          cases own
        · cases impossible

end Client

/-! ## Where a deployment begins -/

namespace Launcher

/-- An operation of which the first call of the daemon is for some command. -/
def Begins (launcher : Launcher) (command : List String) {α : Type} (action : Bench α) : Prop :=
  ∀ daemon world, world.scene.call (launcher.argv command) :: world.calls <:+
    (Bench.perform action daemon world).2.calls

theorem Begins.bind {launcher : Launcher} {command : List String} {α β : Type}
    {first : Bench α} {next : α → Bench β} (begins : launcher.Begins command first)
    (further : ∀ a, launcher.Steps (fun _ _ => True) (next a)) :
    launcher.Begins command (first >>= next) := by
  intro daemon world
  exact (begins daemon world).trans (Steps.calls_suffix_bind further daemon world)

theorem begins_runJson (launcher : Launcher) (args : List String) :
    launcher.Begins (args ++ launcher.settings.outputFlags) (launcher.runJson args) := by
  have begins : launcher.Begins (args ++ launcher.settings.outputFlags)
    (launcher.run (args ++ launcher.settings.outputFlags)) := launcher.call_suffix _
  exact begins.bind fun answer => .readAnswer _ answer

end Launcher

namespace Client

variable {client : Client} {daemon : Daemon} {world later : World} {failure : Failure}

def storeArgs (client : Client) (plan : DeployPlan) : List String :=
  Command.store plan.file (some plan.sender) plan.storeGas plan.backend ++
    client.launcher.settings.outputFlags

theorem begins_store (plan : DeployPlan) :
    client.launcher.Begins (client.storeArgs plan)
      (client.store plan.file (some plan.sender) plan.storeGas plan.backend) :=
  ((client.launcher.begins_runJson _).bind fun document => steps_fit .broadcast document).bind
    fun _ => .bind (.log ..) fun _ => .pure _

theorem begins_deployNew (plan : DeployPlan) :
    client.launcher.Begins (client.storeArgs plan) (client.deployNew plan) :=
  (begins_store plan).bind fun _ => .bind (steps_transaction _) fun storeTx =>
    .bind (steps_attributeOf storeTx _ _) fun _ => .bind (steps_create ..) fun initTx =>
    .bind (steps_reportFailure initTx false) fun _ =>
    .bind (steps_attributeOf initTx _ _) fun _ => .bind steps_storedCodes fun _ => .pure _

/-- A deployment under a name that nothing is found under begins with the code. -/
theorem deploy_begins {plan : DeployPlan} {name : Option String} {registry : Option Registry}
    (missing : ((client.registryFor registry).found world.disk name).toOption = none)
    (daemon : Daemon) :
    world.scene.call (client.launcher.argv (client.storeArgs plan)) :: world.calls <:+
      (Bench.perform (client.deploy plan name registry) daemon world).2.calls := by
  obtain ⟨missed, looked, quiet⟩ := (client.registryFor registry).lookup_spec name daemon world
  have begins : client.launcher.Begins (client.storeArgs plan) (do
      let deployed ← client.deployNew plan
      keep (client.registryFor registry) name plan.label deployed
      return deployed.contract) :=
    (begins_deployNew plan).bind fun deployed =>
      .bind (steps_keep _ _ _ deployed fun _ _ => trivial) fun _ => .pure _
  have called := begins daemon missed
  rw [quiet.scene, quiet.calls] at called
  rw [deploy, Bench.perform_bind, looked]
  simp only [missing]
  exact called

/-- A deployment that fails in a way of the bench's own leaves no trace on the disk. It stopped at
    one of its steps, and the steps after that one were not taken. A lookup of the name gives what
    it gave before, so whatever is deployed next under this name begins with its code. -/
theorem failed_without_trace (client : Client) (leaves : daemon.LeavesDisk) (plan : DeployPlan)
    (name : Option String) (registry : Option Registry) (own : failure.isOwn = true)
    (failed : Bench.perform (client.deploy plan name registry) daemon world =
      (.error failure, later)) :
    later.disk = world.disk ∧
    (∃ acts, client.DeployStops plan failure acts ∧ world.Leads daemon acts later) ∧
    ∀ daemon' : Daemon,
      (Bench.perform ((client.registryFor registry).lookup name) daemon' later).1 =
        (Bench.perform ((client.registryFor registry).lookup name) daemon' world).1 ∧
      ∀ plan' : DeployPlan,
        later.scene.call (client.launcher.argv (client.storeArgs plan')) :: later.calls <:+
          (Bench.perform (client.deploy plan' name registry) daemon' later).2.calls := by
  obtain ⟨missing, missed, quiet, deploying⟩ := deploy_error own failed
  have disk : later.disk = world.disk := by
    have unchanged : (Bench.perform (client.deployNew plan) daemon missed).2.disk = missed.disk :=
      (steps_deployNew plan).disk_unchanged leaves
    rw [deploying] at unchanged
    exact unchanged.trans quiet.disk
  obtain ⟨acts, stops, leads⟩ := deployNew_stops deploying
  refine ⟨disk, ⟨acts, stops, (quiet.leads daemon).trans leads⟩, fun daemon' => ⟨?_, ?_⟩⟩
  · obtain ⟨_, before, -⟩ := (client.registryFor registry).lookup_spec name daemon' world
    obtain ⟨_, after, -⟩ := (client.registryFor registry).lookup_spec name daemon' later
    rw [before, after, disk]
  · intro plan'
    rw [← disk] at missing
    exact deploy_begins missing daemon'

/-- A daemon that answers until the counter is made, and then no more. -/
def fallingSilent : Daemon := .ofAnswers [
  "\x7b\"txhash\":\"A\"\x7d",
  "\x7b\"txhash\":\"A\",\"logs\":[\x7b\"events\":[\x7b\"attributes\":" ++
    "[\x7b\"key\":\"code_id\",\"value\":\"7\"\x7d]\x7d]\x7d]\x7d"]

def brokenOff : Except Failure Contract × World :=
  Bench.perform (counterClient.deploy counterPlan (some "counter") none) fallingSilent counterStart

/-- The counter is stored but not made: three calls, and the same disk as before. The next attempt
    stores it again. -/
theorem counter_broken_off :
    brokenOff.1 = .error (.notJson "secretd" ⟨.expectingValue, 0⟩ "") ∧
      brokenOff.2.calls.length = 3 ∧ brokenOff.2.disk = counterStart.disk ∧
      brokenOff.2.scene.call ("secretd" :: counterClient.storeArgs counterPlan) ::
          brokenOff.2.calls <:+
        (Bench.perform (counterClient.deploy counterPlan (some "counter") none) counterDaemon
          brokenOff.2).2.calls := by
  have leaves : fallingSilent.LeavesDisk := Daemon.leavesDisk_ofStream _ _ _
  have result : brokenOff.1 = .error (.notJson "secretd" ⟨.expectingValue, 0⟩ "") := by
    decide +kernel
  have failed : Bench.perform (counterClient.deploy counterPlan (some "counter") none)
      fallingSilent counterStart = (.error _, brokenOff.2) := Bench.perform_eq result
  obtain ⟨disk, -, again⟩ :=
    failed_without_trace counterClient leaves counterPlan (some "counter") none rfl failed
  obtain ⟨-, begins⟩ := again counterDaemon
  exact ⟨result, by decide +kernel, disk, begins counterPlan⟩

end Client

end ContractBench
