/-! # Commands

The arguments of the commands that the daemon is given. An option that is absent or empty falls
back to its default, or is left out where it has none.
-/

namespace ContractBench.Command

/-- An option's text, unless it is absent or empty. -/
def given? : Option String → Option String
  | some text => if text = "" then none else some text
  | none => none

/-- A flag and its text, if the option is given. -/
def flag (name : String) (option : Option String) : List String :=
  match given? option with
  | some text => [name, text]
  | none => []

/-- The user that stores code. -/
def defaultUser : String := "a"

/-- The gas for storing code. -/
def defaultStoreGas : String := "10000000"

/-- The gas for making a contract. -/
def defaultInitGas : String := "10000000"

/-- The gas for running a contract. -/
def defaultExecuteGas : String := "800000"

/-- Store the code in a file. -/
def store (file : String) (user gas backend : Option String) : List String :=
  ["tx", "compute", "store", file, "--from", (given? user).getD defaultUser,
    "--gas", (given? gas).getD defaultStoreGas] ++
    flag "--keyring-backend" backend ++ ["-y"]

/-- Make a contract of stored code. -/
def instantiate (codeId message label sender : String) (gas backend : Option String) :
    List String :=
  ["tx", "compute", "instantiate", codeId, message, "--from", sender, "--label", label,
    "--gas", (given? gas).getD defaultInitGas] ++
    flag "--keyring-backend" backend ++ ["-y"]

/-- Run a message of a contract, with funds. -/
def execute (address message sender : String) (gas backend amount : Option String) :
    List String :=
  ["tx", "compute", "execute", address, message, "--from", sender,
    "--gas", (given? gas).getD defaultExecuteGas] ++
    flag "--keyring-backend" backend ++ flag "--amount" amount ++ ["-y"]

/-- Ask a contract. -/
def ask (address message : String) : List String := ["query", "compute", "query", address, message]

/-- Fetch a transaction. -/
def transaction (hash : String) : List String := ["q", "tx", hash]

/-- Fetch the decrypted result of a transaction. -/
def computation (hash : String) : List String := ["q", "compute", "tx", hash]

/-- List the stored codes. -/
def listCodes : List String := ["query", "compute", "list-code"]

/-- List the contracts of a code. -/
def listInstances (codeId : String) : List String :=
  ["query", "compute", "list-contract-by-code", codeId]

/-- Show the address of a key. -/
def showAddress (key : String) : List String := ["keys", "show", "-a", key]

/-- Sign the document in a file. -/
def signDocument (file signer : String) : List String := ["tx", "sign-doc", file, "--from", signer]

end ContractBench.Command
