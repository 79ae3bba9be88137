import ContractBench.Client

/-! # Executions

Flows that send a transaction and fetch what came of it. A transaction that a contract refused is
only reported; its results are given all the same.
-/

namespace ContractBench.Client

/-- The name of the logger of flows. -/
def flowLogger : String := "secretcli.harness"

/-- Report a transaction that a contract refused, with its log if that is wanted. -/
def reportFailure (client : Client) (tx : Transaction) (withLog : Bool) : Bench Unit := do
  if tx.hasFailed then
    if withLog then Bench.log .warning flowLogger ("Raw log: " ++ tx.rawLog)
    Bench.log .warning flowLogger
      ("Tx Hash (call " ++ client.settings.binary ++
        " q compute tx <hash> to see encrypted error) " ++ tx.txHash)

/-- Make a contract of stored code and fetch the transaction. -/
def create (client : Client) (message : Value) (contract : Contract) (label sender : String)
    (gas backend : Option String) : Bench Transaction := do
  let sent ← client.instantiate contract message label sender gas backend
  client.transaction sent.txHash

/-- Run a message of a contract and fetch its result. -/
def compute (client : Client) (message : Value) (contract : Contract) (sender : String)
    (gas backend amount : Option String) : Bench Computation := do
  let sent ← client.execute contract message sender gas backend amount
  client.computation sent.txHash

/-- Run a message of a contract and fetch both its result and the transaction. -/
def handle (client : Client) (message : Value) (contract : Contract) (sender : String)
    (gas backend amount : Option String) : Bench (Computation × Transaction) := do
  let sent ← client.execute contract message sender gas backend amount
  let computed ← client.computation sent.txHash
  let tx ← client.transaction sent.txHash
  client.reportFailure tx true
  return (computed, tx)

end ContractBench.Client
