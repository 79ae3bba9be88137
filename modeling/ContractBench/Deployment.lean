import ContractBench.Execution
import ContractBench.Registry

/-! # Deployments

A deployment stores code, makes a contract of it, and finds out the contract's number, address and
hash. `Client.deploy` keeps the contract in a registry under a name, and takes it from there the
next time. A contract of which something is not known is never kept.
-/

namespace ContractBench

/-- What a deployment is made of. -/
structure DeployPlan where
  /-- The message that the contract starts with. -/
  message : Value
  /-- The file with the code. -/
  file : String
  /-- The label of the contract. -/
  label : String
  /-- Who deploys it. -/
  sender : String
  /-- The gas for storing the code. -/
  storeGas : Option String
  /-- The gas for making the contract. -/
  initGas : Option String
  /-- Where the keys are kept. -/
  backend : Option String
  deriving Inhabited

/-- A deployed contract and the hashes of the two transactions that made it. -/
structure Deployed where
  /-- The contract; what was not found out is empty. -/
  contract : Contract
  /-- The hash of the transaction that stored the code. -/
  storeHash : String
  /-- The hash of the transaction that made the contract. -/
  initHash : String
  deriving Repr, DecidableEq

namespace Client

/-- The text of an attribute of a transaction, empty with a warning if it has none. -/
def attributeOf (client : Client) (tx : Transaction) (key step : String) : Bench String := do
  match tx.findAttribute? key client.settings.attributeScan with
  | some text => return text
  | none =>
    Bench.log .warning flowLogger
      ("No " ++ key ++ " attribute in " ++ step ++ " tx " ++ tx.txHash)
    return ""

/-- The hash of the stored code of a number, empty if no code has it. -/
def hashOf (codes : List StoredCode) (id : String) : String :=
  ((codes.find? fun code => code.idText = id).map (·.dataHash)).getD ""

/-- Deploy a contract without a registry. -/
def deployNew (client : Client) (plan : DeployPlan) : Bench Deployed := do
  let stored ← client.store plan.file (some plan.sender) plan.storeGas plan.backend
  let storeTx ← client.transaction stored.txHash
  let id ← client.attributeOf storeTx "code_id" "store"
  let initTx ← client.create plan.message { label := plan.label, id := id } plan.label
    plan.sender plan.initGas plan.backend
  client.reportFailure initTx false
  let address ← client.attributeOf initTx "contract_address" "instantiate"
  let codeHash := hashOf (← client.storedCodes) id
  return ⟨⟨plan.label, id, address, codeHash⟩, storeTx.txHash, initTx.txHash⟩

/-- Deploy a contract and give it alone. -/
def deployUncached (client : Client) (plan : DeployPlan) : Bench Contract := do
  return (← client.deployNew plan).contract

/-- Deploy a contract with a message that must be of one of the types that contracts start with. -/
def deployByMessage (client : Client) (titles : List String) (plan : DeployPlan) :
    Bench Contract := do
  let message ← Bench.ofExcept (Message.forUse "inst_init" titles plan.message)
  client.deployUncached { plan with message := message }

/-- The warning that something of a deployed contract is not known. -/
def missingNotice (label : String) (deployed : Deployed) : String :=
  "Contract '" ++ label ++ "' is missing " ++ ", ".intercalate deployed.contract.missing ++
    " after deployment (store tx " ++ deployed.storeHash ++ ", instantiate tx " ++
    deployed.initHash ++ "); it will not be cached"

/-- The notice that a deployed contract has no name to be kept under. -/
def unnamedNotice : String :=
  "This contract deployment will not be cached because a name was not provided upon " ++
    "instantiation."

/-- Keep a deployed contract, if all of it is known and it has a name. -/
def keep (registry : Registry) (name : Option String) (label : String) (deployed : Deployed) :
    Bench Unit := do
  if deployed.contract.isResolved then
    match name with
    | some name =>
      let _ ← registry.save name deployed.contract
    | none =>
      Bench.log .info flowLogger unnamedNotice
  else Bench.log .warning flowLogger (missingNotice label deployed)

/-- The registry that a deployment uses. -/
def registryFor (client : Client) (registry : Option Registry) : Registry :=
  registry.getD (.ofFolder client.settings.cacheDir)

/-- Deploy a contract, unless the registry has one under the name. -/
def deploy (client : Client) (plan : DeployPlan) (name : Option String)
    (registry : Option Registry) : Bench Contract := do
  let registry := client.registryFor registry
  match (← registry.lookup name).contract with
  | some contract => return contract
  | none =>
    let deployed ← client.deployNew plan
    keep registry name plan.label deployed
    return deployed.contract

end Client

end ContractBench
