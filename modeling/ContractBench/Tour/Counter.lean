import ContractBench.Deployment

/-! # A tour of the counter

The counter contract starts with a number, can be raised, and tells its count. The tour deploys it,
or takes it from the registry, raises it, and prints what it finds.
-/

namespace ContractBench.Counter

/-- The message that starts a counter. -/
def start (count : Int) : Value := .record "CounterInit" [(.own "count", .int count)] []

/-- The schema of the message that starts a counter. -/
def startSchema : Schema := .record "CounterInit" [(.required "count", .integer)] false

/-- The schema of a message that is one dictionary, empty unless it is given. -/
def dictSchema (title key : String) : Schema :=
  .record title [(.withDefault key (.dict []), .dict .any .any)] false

/-- The message that raises the counter. -/
def raise : Value := .record "Increment" [(.own "increment", .dict [])] []

/-- The schema of the message that raises the counter. -/
def raiseSchema : Schema := dictSchema "Increment" "increment"

/-- The message that asks for the count. -/
def askCount : Value := .record "GetCount" [(.own "get_count", .dict [])] []

/-- The schema of the message that asks for the count. -/
def askCountSchema : Schema := dictSchema "GetCount" "get_count"

/-- How the tour deploys the counter. -/
def plan (file : String) : DeployPlan :=
  ⟨start 0, file, "counter-example", "a", none, none, some "test"⟩

/-- What the tour prints when it is given the wrong number of arguments. -/
def usage : String := "Usage: deploy_counter.py path/to/contract.wasm.gz"

/-- Raise a counter, tell what came of it, and tell its count. -/
def exercise (client : Client) (counter : Contract) : Bench Unit := do
  let (computed, tx) ← client.handle raise counter "a" none (some "test") none
  Bench.print ("Increment tx " ++ tx.txHash ++ ": " ++
    (Value.ofText? computed.outputText).plainText)
  Bench.print ("Count: " ++ (← client.ask counter askCount none).plainText)

/-- The tour; it gives an exit code. -/
def tour : List String → Bench Nat
  | [file] => do
    let client ← Client.ofEnvironment
    Bench.print ("Deployer address: " ++ (← client.address "a"))
    let counter ← client.deploy (plan file) (some "counter") none
    if counter.isResolved then
      Bench.print ("Counter at " ++ counter.address ++ " (code " ++ counter.id ++ ", hash " ++
        counter.codeHash ++ ")")
      exercise client counter
      return 0
    else
      Bench.print ("Deployment incomplete: " ++ counter.toValue.plainText)
      return 1
  | _ => do
    Bench.print usage
    return 1

end ContractBench.Counter
