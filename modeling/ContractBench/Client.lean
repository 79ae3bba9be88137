import ContractBench.Answer
import ContractBench.Command
import ContractBench.Contract
import ContractBench.Launcher
import ContractBench.Message

/-! # The client

The client gives the daemon typed commands: each runs one command and fits its answer to the type
that it must have.
-/

namespace ContractBench

/-- A client of the daemon. -/
structure Client where
  /-- The settings. -/
  settings : Settings
  /-- The name of the logger. -/
  logger : String
  /-- What runs its commands. -/
  launcher : Launcher
  deriving Repr, DecidableEq

/-- The settings of the environment. -/
def Settings.current : Bench Settings := do
  let environment := (← get).environment
  match Settings.overrideNotice? environment with
  | some notice => Bench.log .debug "secretcli.config" notice
  | none => pure ()
  Bench.ofExcept ((Settings.ofEnvironment environment).mapError .rejected)

namespace Client

/-- The name of a client's logger, unless it is given one. -/
def defaultLogger : String := "secretcli.client"

/-- A client that runs commands itself. -/
def ofSettings (settings : Settings) (logger : String) : Client :=
  ⟨settings, logger, ⟨settings, logger⟩⟩

/-- A client with settings of its own that has its commands run. -/
def withLauncher (settings : Settings) (launcher : Launcher) : Client :=
  ⟨settings, defaultLogger, launcher⟩

/-- A client with the settings of the environment. -/
def ofEnvironment : Bench Client := do
  return ofSettings (← Settings.current) defaultLogger

/-- Fit a document to a type of answer. -/
def fit (client : Client) (type : AnswerType) (document : Value) : Bench Value := do
  match type.schema.accept type.title document with
  | .ok v => return v
  | .error report =>
    let failure := Failure.mismatch type.name report document.display
    Bench.log .error client.logger failure.message
    throw failure

/-- Run a command and fit its answer to a type. -/
def run (client : Client) (command : List String) (type : AnswerType) : Bench Value := do
  client.fit type (← client.launcher.runJson command)

/-- Log that a transaction was sent. -/
def logSent (client : Client) (kind : String) (answer : Broadcast) : Bench Unit :=
  Bench.log .info client.logger (kind ++ " transaction sent: " ++ answer.txHash)

/-- Store the code in a file. -/
def store (client : Client) (file : String) (user gas backend : Option String) :
    Bench Broadcast := do
  let answer := Broadcast.ofRecord
    (← client.run (Command.store file user gas backend) .broadcast)
  client.logSent "Store" answer
  return answer

/-- Make a contract of stored code. -/
def instantiate (client : Client) (contract : Contract) (message : Value) (label sender : String)
    (gas backend : Option String) : Bench Broadcast := do
  let text ← Bench.ofExcept (Message.encode message)
  let answer := Broadcast.ofRecord
    (← client.run (Command.instantiate contract.id text label sender gas backend) .broadcast)
  client.logSent "Instantiate" answer
  return answer

/-- Run a message of a contract. -/
def execute (client : Client) (contract : Contract) (message : Value) (sender : String)
    (gas backend amount : Option String) : Bench Broadcast := do
  let text ← Bench.ofExcept (Message.encode message)
  let answer := Broadcast.ofRecord
    (← client.run (Command.execute contract.address text sender gas backend amount) .broadcast)
  client.logSent "Execute" answer
  return answer

/-- Ask a contract; without a type the answer is any document. -/
def ask (client : Client) (contract : Contract) (message : Value) (type : Option AnswerType) :
    Bench Value := do
  let text ← Bench.ofExcept (Message.encode message)
  let document ← client.launcher.runJson (Command.ask contract.address text)
  match type with
  | some type => client.fit type document
  | none => return document

/-- Fetch a transaction by its hash. -/
def transaction (client : Client) (hash : String) : Bench Transaction := do
  return .ofRecord (← client.run (Command.transaction hash) .transaction)

/-- Fetch the decrypted result of a transaction. -/
def computation (client : Client) (hash : String) : Bench Computation := do
  return .ofRecord (← client.run (Command.computation hash) .computation)

/-- List the stored codes. -/
def storedCodes (client : Client) : Bench (List StoredCode) := do
  return (← client.run Command.listCodes .storedCodes).asList.map .ofRecord

/-- List the contracts that run a code. -/
def instances (client : Client) (codeId : Value) : Bench (List Instance) := do
  return (← client.run (Command.listInstances codeId.plainText) .instances).asList.map .ofRecord

/-- The address of a key. -/
def address (client : Client) (key : String) : Bench String := do
  return Text.dropLineEnd (← client.launcher.run (Command.showAddress key))

/-- Remove the file of a signed document, if it is still there. -/
def discard (path : Path) : Bench Unit := do
  match ← Bench.tryFiles (FileOp.remove path) with
  | .ok _ => return
  | .error e => if e.fault = .notFound then return else throw (.file e)

/-- Sign a document. It lies in the file that the settings name while the daemon runs, and not
    afterwards, whatever comes of the run. -/
def sign (client : Client) (document : Value) (signer : String) : Bench Signature := do
  let text ← Bench.ofExcept (Message.encode document)
  let path := Path.ofText client.settings.signFile
  Bench.files (FileOp.writeText path text)
  let answer ← Bench.observe
    (client.run (Command.signDocument client.settings.signFile signer) .signature)
  discard path
  return .ofRecord (← Bench.ofExcept answer)

end Client

end ContractBench
