import ContractBench.Deployment
import ContractBench.Proofs.Client
import ContractBench.Proofs.Registry

/-! # What a deployment does

A deployment that comes to an end is five exchanges, and what each command asks for is taken from
the answers before it. `DeployFlow` holds the exchanges together with where every field of the
contract was found; `deployNew_flow` reads it off a run, step by step. What `Client.deploy` does
after a miss is then only a matter of what is known of the contract and of its name.
-/

namespace ContractBench

/-- The text of the first item of the wanted kind, empty if there is none. -/
inductive FirstText {α : Type} (wanted : α → Prop) (text : α → String) :
    List α → String → Prop where
  /-- The first item is wanted. -/
  | here {item : α} {rest : List α} (fits : wanted item) :
      FirstText wanted text (item :: rest) (text item)
  /-- The first item is not wanted. -/
  | later {item : α} {rest : List α} {found : String} (misfit : ¬ wanted item)
      (further : FirstText wanted text rest found) : FirstText wanted text (item :: rest) found
  /-- No item is wanted. -/
  | nowhere : FirstText wanted text [] ""

theorem FirstText.of_find? {α : Type} (wanted : α → Prop) [DecidablePred wanted]
    (text : α → String) (items : List α) :
    FirstText wanted text items (((items.find? wanted).map text).getD "") := by
  induction items with
  | nil => exact .nowhere
  | cons item rest ih =>
      by_cases fits : wanted item
      · simpa [List.find?_cons, fits] using .here fits
      · simpa [List.find?_cons, fits] using .later fits ih

/-- The exchanges of a deployment and where the fields of its contract were found. -/
structure DeployFlow (client : Client) (plan : DeployPlan) (contract : Contract) where
  /-- The text of the message that the contract starts with. -/
  text : String
  encoded : Message.encode plan.message = .ok text
  stored : Answered client.launcher
    (Command.store plan.file (some plan.sender) plan.storeGas plan.backend) .broadcast
  storeTx : Answered client.launcher
    (Command.transaction (Broadcast.ofRecord stored.value).txHash) .transaction
  made : Answered client.launcher
    (Command.instantiate contract.id text plan.label plan.sender plan.initGas plan.backend)
    .broadcast
  initTx : Answered client.launcher
    (Command.transaction (Broadcast.ofRecord made.value).txHash) .transaction
  listed : Answered client.launcher Command.listCodes .storedCodes
  label : contract.label = plan.label
  id : FirstText (fun attr => attr.key = "code_id") Attribute.value
    ((Transaction.ofRecord storeTx.value).visited client.settings.attributeScan) contract.id
  address : FirstText (fun attr => attr.key = "contract_address") Attribute.value
    ((Transaction.ofRecord initTx.value).visited client.settings.attributeScan) contract.address
  codeHash : FirstText (fun code => toString code.id = contract.id) StoredCode.dataHash
    (listed.value.asList.map .ofRecord) contract.codeHash

/-- The acts of a deployment, one exchange after the other. -/
def DeployFlow.acts {client : Client} {plan : DeployPlan} {contract : Contract}
    (flow : DeployFlow client plan contract) : List Act :=
  flow.stored.acts ++ flow.storeTx.acts ++ flow.made.acts ++ flow.initTx.acts ++ flow.listed.acts

/-- The parts that a contract is kept for: it is resolved when none of them is empty. -/
theorem Contract.isResolved_iff (contract : Contract) :
    contract.isResolved = true ↔
      contract.id ≠ "" ∧ contract.address ≠ "" ∧ contract.codeHash ≠ "" := by
  simp [isResolved, and_assoc]

namespace Client

variable {client : Client} {daemon : Daemon} {world later : World}

theorem attributeOf_ok {tx : Transaction} {key step text : String}
    (performed : Bench.perform (client.attributeOf tx key step) daemon world = (.ok text, later)) :
    FirstText (fun attr => attr.key = key) Attribute.value
      (tx.visited client.settings.attributeScan) text ∧ world.Quiet later := by
  have first := FirstText.of_find? (fun attr : Attribute => attr.key = key) Attribute.value
    (tx.visited client.settings.attributeScan)
  rw [attributeOf, Transaction.findAttribute?] at performed
  cases known : (tx.visited client.settings.attributeScan).find? fun attr => attr.key = key with
  | some attr =>
      rw [known] at first performed
      obtain ⟨rfl, rfl⟩ : attr.value = text ∧ world = later := by simpa using performed
      exact ⟨first, .refl world⟩
  | none =>
      rw [known] at first performed
      obtain ⟨rfl, rfl⟩ : "" = text ∧ _ = later := by simpa using performed
      exact ⟨first, .logged ..⟩

theorem reportFailure_ok {tx : Transaction} {withLog : Bool} {done : Unit}
    (performed : Bench.perform (client.reportFailure tx withLog) daemon world =
      (.ok done, later)) : world.Quiet later := by
  rw [reportFailure] at performed
  cases failed : tx.hasFailed with
  | false =>
      obtain rfl : world = later := by simpa [failed] using performed
      exact .refl world
  | true =>
      cases withLog with
      | false =>
          obtain rfl : _ = later := by simpa [failed] using performed
          exact .logged ..
      | true =>
          obtain rfl : _ = later := by simpa [failed] using performed
          exact (World.Quiet.logged ..).trans (.logged ..)

theorem hashOf_first (codes : List StoredCode) (id : String) :
    FirstText (fun code => toString code.id = id) StoredCode.dataHash codes (hashOf codes id) :=
  FirstText.of_find? _ _ codes

theorem create_ok {message : Value} {contract : Contract} {label sender : String}
    {gas backend : Option String} {tx : Transaction}
    (performed : Bench.perform (client.create message contract label sender gas backend) daemon
      world = (.ok tx, later)) :
    ∃ (text : String) (made : Answered client.launcher
        (Command.instantiate contract.id text label sender gas backend) .broadcast)
      (fetched : Answered client.launcher
        (Command.transaction (Broadcast.ofRecord made.value).txHash) .transaction),
      Message.encode message = .ok text ∧ tx = .ofRecord fetched.value ∧
      world.Leads daemon (made.acts ++ fetched.acts) later := by
  rw [create] at performed
  obtain ⟨sent, between, instantiated, fetching⟩ := Bench.bind_ok performed
  obtain ⟨text, made, encoded, rfl, sending⟩ := instantiate_ok instantiated
  obtain ⟨fetched, rfl, asking⟩ := transaction_ok fetching
  exact ⟨text, made, fetched, encoded, rfl, sending.trans asking⟩

/-- A deployment that comes to an end is five exchanges. -/
theorem deployNew_flow {plan : DeployPlan} {deployed : Deployed}
    (done : Bench.perform (client.deployNew plan) daemon world = (.ok deployed, later)) :
    ∃ flow : DeployFlow client plan deployed.contract, world.Leads daemon flow.acts later := by
  rw [deployNew] at done
  obtain ⟨answer, w₁, storing, done⟩ := Bench.bind_ok done
  obtain ⟨stored, rfl, storeActs⟩ := store_ok storing
  obtain ⟨_, w₂, fetching, done⟩ := Bench.bind_ok done
  obtain ⟨storeTx, rfl, fetchActs⟩ := transaction_ok fetching
  obtain ⟨id, w₃, numbered, done⟩ := Bench.bind_ok done
  obtain ⟨firstId, quiet₃⟩ := attributeOf_ok numbered
  obtain ⟨_, w₄, creating, done⟩ := Bench.bind_ok done
  obtain ⟨text, made, initTx, encoded, rfl, createActs⟩ := create_ok creating
  obtain ⟨_, w₅, reported, done⟩ := Bench.bind_ok done
  have quiet₅ := reportFailure_ok reported
  obtain ⟨address, w₆, addressed, done⟩ := Bench.bind_ok done
  obtain ⟨firstAddress, quiet₆⟩ := attributeOf_ok addressed
  obtain ⟨codes, w₇, listing, done⟩ := Bench.bind_ok done
  obtain ⟨listed, rfl, listActs⟩ := storedCodes_ok listing
  obtain ⟨rfl, rfl⟩ : _ = deployed ∧ w₇ = later := by simpa using done
  have acts := (((storeActs.trans fetchActs).quiet quiet₃).trans
    ((createActs.quiet quiet₅).quiet quiet₆)).trans listActs
  refine ⟨⟨text, encoded, stored, storeTx, made, initTx, listed, rfl, firstId, firstAddress,
    hashOf_first _ _⟩, ?_⟩
  simpa only [DeployFlow.acts, List.append_assoc] using acts

theorem keep_named {registry : Registry} {label given : String} {deployed : Deployed}
    (resolved : deployed.contract.isResolved = true) :
    keep registry (some given) label deployed =
      registry.save given deployed.contract >>= fun _ => pure () := by
  simp only [keep, resolved, if_true]

theorem keep_spec_of_not {registry : Registry} {name : Option String} {label : String}
    {deployed : Deployed} (notKept : name = none ∨ deployed.contract.isResolved = false)
    (daemon : Daemon) (world : World) :
    ∃ later, Bench.perform (keep registry name label deployed) daemon world = (.ok (), later) ∧
      world.Quiet later := by
  cases resolved : deployed.contract.isResolved with
  | false =>
      simp only [keep, resolved]
      exact ⟨_, rfl, .logged ..⟩
  | true =>
      obtain rfl : name = none := by simpa [resolved] using notKept
      simp only [keep, resolved, if_true]
      exact ⟨_, rfl, .logged ..⟩

/-- After a miss a deployment does its exchanges and then keeps what it made. -/
theorem deploy_of_exchanges {plan : DeployPlan} {name : Option String}
    {registry : Option Registry} {begun missed : World} {deployed : Deployed}
    (miss : Bench.perform ((client.registryFor registry).lookup name) daemon begun =
      (.ok ⟨name, none⟩, missed))
    (done : Bench.perform (client.deployNew plan) daemon missed = (.ok deployed, later)) :
    Bench.perform (client.deploy plan name registry) daemon begun =
      Bench.perform (do
        keep (client.registryFor registry) name plan.label deployed
        return deployed.contract) daemon later := by
  simp only [deploy, Bench.perform_bind, miss, done]

/-- What a deployment does after a miss, once its exchanges came to an end. -/
theorem deploy_of_miss {plan : DeployPlan} {name : Option String} {registry : Option Registry}
    {begun missed : World} {deployed : Deployed}
    (miss : Bench.perform ((client.registryFor registry).lookup name) daemon begun =
      (.ok ⟨name, none⟩, missed))
    (done : Bench.perform (client.deployNew plan) daemon missed = (.ok deployed, later)) :
    let contract := deployed.contract
    (∃ flow : DeployFlow client plan contract, begun.Leads daemon flow.acts later) ∧
    (∀ given, name = some given →
      contract.id ≠ "" ∧ contract.address ≠ "" ∧ contract.codeHash ≠ "" →
      Bench.perform (client.deploy plan name registry) daemon begun =
        Bench.perform (do
          let _ ← (client.registryFor registry).save given contract
          return contract) daemon later) ∧
    (name = none ∨ contract.id = "" ∨ contract.address = "" ∨ contract.codeHash = "" →
      ∃ final, Bench.perform (client.deploy plan name registry) daemon begun =
        (.ok contract, final) ∧ later.Quiet final) := by
  intro contract
  obtain ⟨missed', spec, quiet⟩ := (client.registryFor registry).lookup_spec name daemon begun
  obtain ⟨-, rfl⟩ := Prod.mk.inj (miss.symm.trans spec)
  have finishes := deploy_of_exchanges miss done
  refine ⟨?_, ?_, ?_⟩
  · obtain ⟨flow, leads⟩ := deployNew_flow done
    exact ⟨flow, (quiet.leads daemon).trans leads⟩
  · rintro given rfl known
    rw [finishes, keep_named (contract.isResolved_iff.mpr known)]
    simp only [contract, bind_assoc, pure_bind]
  · intro notKept
    have unresolved : name = none ∨ contract.isResolved = false := by
      refine notKept.imp_right fun empty => ?_
      rw [Bool.eq_false_iff, ne_eq, contract.isResolved_iff]
      rintro ⟨id, address, codeHash⟩
      rcases empty with h | h | h <;> contradiction
    obtain ⟨final, kept, quiet⟩ := keep_spec_of_not unresolved daemon later
    refine ⟨final, ?_, quiet⟩
    rw [finishes, Bench.perform_bind, kept]
    rfl

/-! ## The first deployment of a counter -/

/-- The daemon that is asked five times when a counter is deployed. -/
def counterDaemon : Daemon := .ofAnswers [
  "\x7b\"txhash\":\"A\"\x7d",
  "\x7b\"txhash\":\"A\",\"logs\":[\x7b\"events\":[\x7b\"attributes\":" ++
    "[\x7b\"key\":\"code_id\",\"value\":\"7\"\x7d]\x7d]\x7d]\x7d",
  "\x7b\"txhash\":\"B\"\x7d",
  "\x7b\"txhash\":\"B\",\"logs\":[\x7b\"events\":[\x7b\"attributes\":" ++
    "[\x7b\"key\":\"contract_address\",\"value\":\"secret1\"\x7d]\x7d]\x7d]\x7d",
  "[\x7b\"id\":6,\"data_hash\":\"F6\"\x7d,\x7b\"id\":7,\"data_hash\":\"F7\"\x7d]"]

def counterClient : Client := .ofSettings .standard defaultLogger

def counterPlan : DeployPlan := ⟨.dict [], "counter.wasm", "counter", "a", none, none, none⟩

def counterContract : Contract := ⟨"counter", "7", "secret1", "F7"⟩

def counterStart : World := .start (.ofNodes []) []

/-- The world after the counter was looked for. -/
def counterMissed : World :=
  (Bench.perform ((counterClient.registryFor none).lookup (some "counter")) counterDaemon
    counterStart).2

/-- The world after the counter was made. -/
def counterMade : World :=
  (Bench.perform (counterClient.deployNew counterPlan) counterDaemon counterMissed).2

theorem counter_miss :
    Bench.perform ((counterClient.registryFor none).lookup (some "counter")) counterDaemon
      counterStart = (.ok ⟨some "counter", none⟩, counterMissed) :=
  Bench.perform_eq (by decide +kernel)

theorem counter_done :
    Bench.perform (counterClient.deployNew counterPlan) counterDaemon counterMissed =
      (.ok ⟨counterContract, "A", "B"⟩, counterMade) :=
  Bench.perform_eq (by decide +kernel)

theorem deploy_counter_of_miss :
    (∃ flow : DeployFlow counterClient counterPlan counterContract,
      counterStart.Leads counterDaemon flow.acts counterMade) ∧
    Bench.perform (counterClient.deploy counterPlan (some "counter") none) counterDaemon
        counterStart =
      Bench.perform (do
        let _ ← (counterClient.registryFor none).save "counter" counterContract
        return counterContract) counterDaemon counterMade := by
  obtain ⟨flow, saves, -⟩ := deploy_of_miss counter_miss counter_done
  exact ⟨flow, saves "counter" rfl (by decide)⟩

end Client

end ContractBench
