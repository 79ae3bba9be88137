import ContractBench.Bench
import ContractBench.Client
import ContractBench.Contract

/-! # The registry

The registry keeps deployed contracts in a folder, one file for each name. A save that fails is
logged and does no harm; a load that fails says why there is no entry.
-/

namespace ContractBench

/-- A folder of contracts. -/
structure Registry where
  /-- The folder. -/
  folder : Path
  deriving Repr, DecidableEq

/-- What comes of looking for an entry. -/
structure Lookup where
  /-- The name that was looked for. -/
  name : Option String
  /-- The contract that was found. -/
  contract : Option Contract
  deriving Repr, DecidableEq

namespace Lookup

/-- The name of a lookup in reports. -/
def title : String := "CacheLookup"

/-- The schema of a lookup. -/
def schema : Schema := .record title [
  (.required "hit", .boolean),
  (.withDefault "name" .null, .nullable (.text false)),
  (.withDefault "contract" .null, .nullable Contract.schema)] false

/-- The record of a lookup. -/
def toValue (lookup : Lookup) : Value := .record title [
  (.own "hit", .bool lookup.contract.isSome),
  (.own "name", .ofText? lookup.name),
  (.own "contract", (lookup.contract.map Contract.toValue).getD .null)] []

end Lookup

namespace Registry

/-- The name of the registry's logger. -/
def logger : String := "secretcli.cache"

/-- The file that writers hold while they write. -/
def lockFile : String := ".lock"

/-- The registry in a folder. -/
def ofFolder (folder : String) : Registry := ⟨.ofText folder⟩

/-- The path of an entry. -/
def pathOf (registry : Registry) (name : String) : Path := registry.folder.join name

/-- The words in which an entry is named with its path. -/
def entryText (registry : Registry) (name : String) : String :=
  "contract '" ++ name ++ "' at " ++ (registry.pathOf name).toText

/-- Write the file of an entry, behind the lock. -/
def writeEntry (registry : Registry) (name : String) (contract : Contract) : FileOp Unit := do
  FileOp.ensureFolders registry.folder
  FileOp.touch (registry.pathOf lockFile)
  FileOp.writeText (registry.pathOf name) contract.encode

/-- Keep a contract under a name; the flag tells whether it was written. -/
def save (registry : Registry) (name : String) (contract : Contract) : Bench Bool := do
  match ← Bench.tryFiles (registry.writeEntry name contract) with
  | .ok _ =>
    Bench.log .info logger ("Cached " ++ registry.entryText name)
    return true
  | .error e =>
    if e.fault = .embeddedNul then throw (.file e)
    Bench.log .warning logger
      ("Could not cache " ++ registry.entryText name ++ ": " ++ e.message)
    return false

/-- The contract in the bytes of an entry. -/
def readEntry (bytes : List UInt8) : Except EntryFault Contract :=
  match Utf8.decode bytes with
  | .error place => .error (.notText place)
  | .ok text => (Contract.decode text).mapError .invalid

/-- The contract that is kept under a name. -/
def load (registry : Registry) : Option String → Bench Contract
  | none => throw .unnamedEntry
  | some name => do
    let path := registry.pathOf name
    let refuse (fault : EntryFault) : Bench Contract := throw (.noEntry name path.toText fault)
    match ← Bench.tryFiles (FileOp.readBytes path) with
    | .error e => refuse (.file e)
    | .ok bytes =>
      match readEntry bytes with
      | .error fault => refuse fault
      | .ok contract =>
        Bench.log .info logger ("Using cached contract '" ++ name ++ "'")
        return contract

/-- Whether a failure says that there is no entry to be used. -/
def isMiss : Failure → Bool
  | .unnamedEntry => true
  | .noEntry _ _ _ => true
  | _ => false

/-- Look for the contract that is kept under a name. -/
def lookup (registry : Registry) (name : Option String) : Bench Lookup := do
  match ← Bench.observe (registry.load name) with
  | .ok contract => return ⟨name, some contract⟩
  | .error failure =>
    if isMiss failure then
      Bench.log .debug logger ("Cache miss: " ++ failure.message)
      return ⟨name, none⟩
    else throw failure

/-- Remove the entry of a name, if there is one. -/
def delete (registry : Registry) (name : String) : Bench Unit :=
  Bench.files do
    let path := registry.pathOf name
    if ← FileOp.isThere path then FileOp.remove path

/-- The names of all entries, sorted. Names that begin with a dot are not shown. -/
def names (registry : Registry) : Bench (List String) :=
  Bench.files (FileOp.visibleFiles registry.folder)

/-- The registry that is used without naming one. Its folder is fixed by the first environment
    that is in order. -/
def shared : Bench Registry := do
  match (← get).sharedFolder with
  | some folder => return ofFolder folder
  | none =>
    let settings ← Settings.current
    modify fun world => { world with sharedFolder := some settings.cacheDir }
    return ofFolder settings.cacheDir

/-- Keep a contract in the shared registry. -/
def saveShared (name : String) (contract : Contract) : Bench Bool := do
  (← shared).save name contract

/-- The contract that the shared registry keeps under a name. -/
def loadShared (name : Option String) : Bench Contract := do
  (← shared).load name

end Registry

end ContractBench
