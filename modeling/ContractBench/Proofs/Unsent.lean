import ContractBench.Proofs.Failing
import ContractBench.Proofs.Secrecy

/-! # Messages that are not sent

A message without a text is never sent. An errand puts its message into text before it does
anything else and fails in the world in which it began, unless it is a deployment. A deployment
comes to its message only after it stored the code and fetched the transaction
(`Client.StoresOnly`): it fails all the same, but the code is stored by then
(`Errand.not_always_untouched`).
-/

namespace ContractBench

theorem Message.eq_of_forUse {use : String} {titles : List String} {v message : Value}
    (used : Message.forUse use titles v = .ok message) : message = v := by
  unfold Message.forUse at used
  split at used
  · split at used
    · cases used
      rfl
    · split at used <;> cases used
  · cases used

namespace Client

variable {client : Client} {plan : DeployPlan} {daemon : Daemon} {world : World}
  {failure : Failure}

/-- What a deployment does with the daemon whose message has no text. It fails with the message only
    if both commands before that were answered. -/
inductive StoresOnly (client : Client) (plan : DeployPlan) (unsent : Failure) :
    Failure → List Act → Prop where
  | store {failure : Failure} (failed : Unanswered client
      (Command.store plan.file (some plan.sender) plan.storeGas plan.backend) .broadcast failure) :
      StoresOnly client plan unsent failure failed.acts
  | storeTx {failure : Failure} (stored : Answered client.launcher
      (Command.store plan.file (some plan.sender) plan.storeGas plan.backend) .broadcast)
      (failed : Unanswered client
        (Command.transaction (Broadcast.ofRecord stored.value).txHash) .transaction failure) :
      StoresOnly client plan unsent failure (stored.acts ++ failed.acts)
  | message (code : CodeStored client plan) : StoresOnly client plan unsent unsent code.acts

theorem DeployStops.storesOnly {unsent : Failure} {acts : List Act}
    (refused : Message.encode plan.message = .error unsent)
    (stops : client.DeployStops plan failure acts) :
    client.StoresOnly plan unsent failure acts := by
  cases stops with
  | store failed => exact .store failed
  | storeTx stored failed => exact .storeTx stored failed
  | message code unsent' =>
      cases refused.symm.trans unsent'
      exact .message code
  | make code text encoded => cases refused.symm.trans encoded
  | initTx contract => cases refused.symm.trans contract.encoded
  | list contract => cases refused.symm.trans contract.encoded

theorem argv_of_rounds {argv argv' : List String} {interval : Binary64} {before : List Outcome}
    {last outcome : Outcome} (inside : .asked argv' outcome ∈ rounds argv interval before last) :
    argv' = argv := by
  unfold rounds at inside
  rcases List.mem_append.mp inside with early | late
  · obtain ⟨_, -, either⟩ := List.mem_flatMap.mp early
    simp at either
    exact either.1
  · simp at late
    exact late.1

theorem StoresOnly.asked {unsent : Failure} {acts : List Act} {argv : List String}
    {outcome : Outcome} (stores : client.StoresOnly plan unsent failure acts)
    (inside : .asked argv outcome ∈ acts) :
    argv = client.launcher.argv (client.storeArgs plan) ∨
      ∃ hash, argv = client.launcher.argv
        (Command.transaction hash ++ client.launcher.settings.outputFlags) := by
  cases stores with
  | store failed => exact .inl (argv_of_rounds inside)
  | storeTx stored failed =>
      rcases List.mem_append.mp inside with first | second
      · exact .inl (argv_of_rounds first)
      · exact .inr ⟨_, argv_of_rounds second⟩
  | message code =>
      rcases List.mem_append.mp inside with first | second
      · exact .inl (argv_of_rounds first)
      · exact .inr ⟨_, argv_of_rounds second⟩

theorem deployNew_unsent (refused : Message.encode plan.message = .error failure)
    (daemon : Daemon) (world : World) :
    ∃ reported acts later,
      Bench.perform (client.deployNew plan) daemon world = (.error reported, later) ∧
      client.StoresOnly plan failure reported acts ∧ world.Leads daemon acts later ∧
      (daemon.LeavesDisk → later.disk = world.disk) := by
  rcases performed : Bench.perform (client.deployNew plan) daemon world with
    ⟨reported | deployed, later⟩
  · obtain ⟨acts, stops, leads⟩ := deployNew_stops performed
    refine ⟨reported, acts, later, rfl, stops.storesOnly refused, leads, ?_⟩
    intro leaves
    have unchanged : (Bench.perform (client.deployNew plan) daemon world).2.disk = world.disk :=
      (steps_deployNew plan).disk_unchanged leaves
    rwa [performed] at unchanged
  · obtain ⟨flow, -⟩ := deployNew_flow performed
    cases refused.symm.trans flow.encoded

namespace Errand

variable {α : Type} {message : Value}

/-- The deployment that an errand makes, if it makes one. -/
def plan? (message : Value) : {α : Type} → Errand α → Option DeployPlan
  | _, .deployUncached plan => some { plan with message := message }
  | _, .deploy plan _ _ => some { plan with message := message }
  | _, _ => none

/-- No contract is found that makes the errand needless. -/
def Misses (client : Client) (world : World) : {α : Type} → Errand α → Prop
  | _, .deploy _ name registry =>
    ((client.registryFor registry).found world.disk name).toOption = none
  | _, _ => True

/-- An errand for a message that must be of one of some types. -/
def actionAs (client : Client) (use : String) (titles : List String) (message : Value)
    (errand : Errand α) : Bench α := do
  let message ← Bench.ofExcept (Message.forUse use titles message)
  errand.action client message

theorem perform_actionAs (use : String) (titles : List String) (errand : Errand α)
    (daemon : Daemon) (world : World) :
    Bench.perform (errand.actionAs client use titles message) daemon world =
        Bench.perform (errand.action client message) daemon world ∨
      ∃ reported, Bench.perform (errand.actionAs client use titles message) daemon world =
        (.error reported, world) := by
  unfold actionAs
  rw [Bench.perform_bind, Bench.perform_ofExcept]
  cases used : Message.forUse use titles message with
  | ok given =>
      obtain rfl := Message.eq_of_forUse used
      exact .inl rfl
  | error reported => exact .inr ⟨reported, rfl⟩

theorem untouched_of_refused (errand : Errand α) (refused : Message.encode message = .error failure)
    (spared : errand.plan? message = none) (daemon : Daemon) (world : World) :
    Bench.perform (errand.action client message) daemon world = (.error failure, world) := by
  cases errand with
  | instantiate =>
      unfold action Client.instantiate
      rw [refused]
      rfl
  | execute =>
      unfold action Client.execute
      rw [refused]
      rfl
  | ask =>
      unfold action Client.ask
      rw [refused]
      rfl
  | sign =>
      unfold action Client.sign
      rw [refused]
      rfl
  | create =>
      unfold action Client.create Client.instantiate
      rw [refused]
      rfl
  | compute =>
      unfold action Client.compute Client.execute
      rw [refused]
      rfl
  | handle =>
      unfold action Client.handle Client.execute
      rw [refused]
      rfl
  | deployUncached => cases spared
  | deploy => cases spared

/-- A deployment that finds no contract fails as soon as its exchanges do. -/
theorem fails_as_deployNew (errand : Errand α) (deploys : errand.plan? message = some plan)
    (misses : errand.Misses client world)
    (fails : ∀ world, ∃ reported later,
      Bench.perform (client.deployNew plan) daemon world = (.error reported, later)) :
    ∃ reported missed later, world.Quiet missed ∧
      Bench.perform (client.deployNew plan) daemon missed = (.error reported, later) ∧
      Bench.perform (errand.action client message) daemon world = (.error reported, later) := by
  cases errand with
  | deployUncached given =>
      cases deploys
      obtain ⟨reported, later, performed⟩ := fails world
      refine ⟨reported, world, later, .refl world, performed, ?_⟩
      unfold action Client.deployUncached
      rw [Bench.perform_bind, performed]
  | deploy given name registry =>
      cases deploys
      obtain ⟨missed, looked, quiet⟩ := (client.registryFor registry).lookup_spec name daemon world
      obtain ⟨reported, later, performed⟩ := fails missed
      refine ⟨reported, missed, later, quiet, performed, ?_⟩
      have missing : ((client.registryFor registry).found world.disk name).toOption = none := misses
      unfold action Client.deploy
      rw [Bench.perform_bind, looked]
      simp only [missing, Bench.perform_bind, performed]
  | _ => cases deploys

theorem message_of_plan? {errand : Errand α} (deploys : errand.plan? message = some plan) :
    plan.message = message := by
  cases errand <;> cases deploys <;> rfl

/-- A message without a text is never sent. Every errand fails that has such a message, and all but
    deployments leave the world as it was. A deployment that finds no contract has stored the code
    by then, and fetched the transaction; it does nothing else with the daemon, and leaves the disk
    alone. A message that must be of a type makes no difference, or fails for its type before
    anything else is done. -/
theorem never_sent (client : Client) (errand : Errand α)
    (refused : Message.encode message = .error failure) (misses : errand.Misses client world)
    (daemon : Daemon) :
    let run := Bench.perform (errand.action client message) daemon world
    (errand.plan? message = none → run = (.error failure, world)) ∧
    (∀ plan, errand.plan? message = some plan → ∃ reported acts,
      run.1 = .error reported ∧ client.StoresOnly plan failure reported acts ∧
      world.Leads daemon acts run.2 ∧
      (∀ argv outcome, .asked argv outcome ∈ acts →
        argv = client.launcher.argv (client.storeArgs plan) ∨
        ∃ hash, argv = client.launcher.argv
          (Command.transaction hash ++ client.launcher.settings.outputFlags)) ∧
      (daemon.LeavesDisk → run.2.disk = world.disk)) ∧
    ∀ use titles,
      let own := Bench.perform (errand.actionAs client use titles message) daemon world
      own = run ∨ ∃ reported, own = (.error reported, world) := by
  intro run
  refine ⟨?_, ?_, ?_⟩
  · intro spared
    exact errand.untouched_of_refused refused spared daemon world
  · intro plan deploys
    rw [← message_of_plan? deploys] at refused
    have fails (world : World) : ∃ reported later,
        Bench.perform (client.deployNew plan) daemon world = (.error reported, later) := by
      obtain ⟨reported, -, later, performed, -⟩ := deployNew_unsent refused daemon world
      exact ⟨reported, later, performed⟩
    obtain ⟨reported, missed, later, quiet, deploying, performed⟩ :=
      errand.fails_as_deployNew deploys misses fails
    obtain ⟨_, acts, _, same, stores, leads, disk⟩ :=
      @deployNew_unsent client _ _ refused daemon missed
    cases deploying.symm.trans same
    have performed : run = (.error reported, later) := performed
    rw [performed]
    refine ⟨reported, acts, rfl, stores, (quiet.leads daemon).trans leads, ?_, ?_⟩
    · intro argv outcome inside
      exact stores.asked inside
    · intro leaves
      exact (disk leaves).trans quiet.disk
  · intro use titles
    exact perform_actionAs use titles errand daemon world

def unwritableMessage : Value := .set []

theorem encode_unwritableMessage :
    Message.encode unwritableMessage = .error (.unwritable (.valueType "set")) := by
  decide +kernel

def deployCounter : Errand Contract := .deploy counterPlan (some "counter") none

theorem deployCounter_misses : deployCounter.Misses counterClient counterStart := by
  change ((counterClient.registryFor none).found counterStart.disk (some "counter")).toOption = none
  decide +kernel

/-- The counter is stored and its transaction fetched, but it is never made. -/
theorem counter_never_sent : ∃ reported acts later,
    Bench.perform (deployCounter.action counterClient unwritableMessage) counterDaemon
      counterStart = (.error reported, later) ∧
    counterClient.StoresOnly { counterPlan with message := unwritableMessage }
      (.unwritable (.valueType "set")) reported acts ∧
    counterStart.Leads counterDaemon acts later ∧
    later.calls.length = 2 ∧ later.disk = counterStart.disk := by
  have leaves : counterDaemon.LeavesDisk := Daemon.leavesDisk_ofStream _ _ _
  have calls : (Bench.perform (deployCounter.action counterClient unwritableMessage) counterDaemon
      counterStart).2.calls.length = 2 := by decide +kernel
  obtain ⟨-, deployment, -⟩ := never_sent counterClient deployCounter encode_unwritableMessage
    deployCounter_misses counterDaemon
  obtain ⟨reported, acts, fails, stores, leads, -, disk⟩ :=
    deployment { counterPlan with message := unwritableMessage } rfl
  exact ⟨reported, acts, _, Bench.perform_eq fails, stores, leads, calls, disk leaves⟩

/-- A message without a text does not keep a deployment from calling the daemon. -/
theorem not_always_untouched :
    ¬ ∀ (client : Client) (errand : Errand Contract) (message : Value) (failure : Failure)
      (world : World) (daemon : Daemon), Message.encode message = .error failure →
      errand.Misses client world →
      (Bench.perform (errand.action client message) daemon world).2.calls = world.calls := by
  intro untouched
  have calls := untouched counterClient deployCounter unwritableMessage _ counterStart counterDaemon
    encode_unwritableMessage deployCounter_misses
  have two : (Bench.perform (deployCounter.action counterClient unwritableMessage) counterDaemon
      counterStart).2.calls.length = 2 := by decide +kernel
  rw [calls] at two
  exact absurd two (by decide)

end Errand

end Client

end ContractBench
