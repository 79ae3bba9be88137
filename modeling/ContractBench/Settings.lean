import ContractBench.Schema
import ContractBench.Schema.Validate

/-! # Settings

The settings that the launcher, the client and the registry share. They are read from a dictionary
of values (`Settings.ofValue`) or from environment variables (`Settings.ofEnvironment`), of which an
empty one counts as unset.
-/

namespace ContractBench

/-- Which attributes of a transaction are searched. -/
inductive ScanMode where
  /-- Those of the first event of the first log. -/
  | firstEvent
  /-- Those of all events of all logs. -/
  | all
  deriving Repr, DecidableEq, Inhabited

/-- The spelling of a scan mode. -/
def ScanMode.text : ScanMode → String
  | .firstEvent => "first_event"
  | .all => "all"

/-- The scan mode that a text asks for; what is not spelled `all` asks for the first event. -/
def ScanMode.ofText (text : String) : ScanMode :=
  if text = ScanMode.all.text then .all else .firstEvent

/-- The settings. -/
structure Settings where
  /-- The program that is run. -/
  binary : String
  /-- The arguments that make it answer in JSON. -/
  outputFlags : List String
  /-- How often a command is run again. -/
  maxRetries : Nat
  /-- The seconds to wait before it is run again. -/
  retryInterval : Binary64
  /-- The folder of the registry. -/
  cacheDir : String
  /-- The file in which a document lies while it is signed. -/
  signFile : String
  /-- Which attributes are searched. -/
  attributeScan : ScanMode
  deriving Repr, DecidableEq, Inhabited

namespace Settings

/-- The settings without any of a caller's own. -/
def standard : Settings where
  binary := "secretd"
  outputFlags := ["--output", "json"]
  maxRetries := 20
  retryInterval := .ofInt 1
  cacheDir := "../cached_contracts/"
  signFile := "tx_to_sign"
  attributeScan := .firstEvent

/-- The name of the settings in reports. -/
def title : String := "CLIConfig"

/-- The schema of the settings. -/
def schema : Schema := .record title [
  (.withDefault "binary" (.text standard.binary), .nonEmpty (.text false)),
  (.withDefault "output_flags" (.list (standard.outputFlags.map .text)), .list (.text false)),
  (.withDefault "max_retries" (.int standard.maxRetries), .atLeastZero .integer),
  (.withDefault "retry_interval" (.float standard.retryInterval), .atLeastZero .number),
  (.withDefault "cache_dir" (.text standard.cacheDir), .text false),
  (.withDefault "sign_file" (.text standard.signFile), .nonEmpty (.text false)),
  (.withDefault "attribute_scan" (.text standard.attributeScan.text),
    .choice [ScanMode.firstEvent.text, ScanMode.all.text])] false

/-- The number of a value that is one, zero otherwise. -/
def numberOf : Value → Binary64
  | .float x => x
  | _ => .zero

/-- The settings in an accepted record. -/
def ofRecord (v : Value) : Settings where
  binary := (v.field "binary").asText
  outputFlags := (v.field "output_flags").asList.map Value.asText
  maxRetries := ((v.field "max_retries").asInt?.getD 0).toNat
  retryInterval := numberOf (v.field "retry_interval")
  cacheDir := (v.field "cache_dir").asText
  signFile := (v.field "sign_file").asText
  attributeScan := .ofText (v.field "attribute_scan").asText

/-- The record of the settings. -/
def toValue (settings : Settings) : Value := .record title [
  (.own "binary", .text settings.binary),
  (.own "output_flags", .list (settings.outputFlags.map .text)),
  (.own "max_retries", .int settings.maxRetries),
  (.own "retry_interval", .float settings.retryInterval),
  (.own "cache_dir", .text settings.cacheDir),
  (.own "sign_file", .text settings.signFile),
  (.own "attribute_scan", .text settings.attributeScan.text)] []

/-- Read settings from a value. -/
def ofValue (v : Value) : Except Report Settings := (schema.accept title v).map ofRecord

/-- The settings that the environment may set, each with its variable. -/
def variableNames : List (String × String) :=
  [("binary", "SECRETCLI_BINARY"), ("max_retries", "SECRETCLI_MAX_RETRIES"),
   ("retry_interval", "SECRETCLI_RETRY_INTERVAL"), ("cache_dir", "SECRETCLI_CACHE_DIR"),
   ("sign_file", "SECRETCLI_SIGN_FILE"), ("attribute_scan", "SECRETCLI_ATTRIBUTE_SCAN")]

/-- The settings that an environment sets, in the order of `variableNames`. -/
def overrides (environment : List (String × String)) : List (String × String) :=
  variableNames.filterMap fun (name, key) =>
    match environment.find? fun entry => entry.1 = key with
    | some entry => if entry.2 = "" then none else some (name, entry.2)
    | none => none

/-- Read settings from the environment. -/
def ofEnvironment (environment : List (String × String)) : Except Report Settings :=
  ofValue (.dict ((overrides environment).map fun (name, text) => (.text name, .text text)))

/-- The message that lists which settings an environment sets, if it sets any. -/
def overrideNotice? (environment : List (String × String)) : Option String :=
  match (overrides environment).map (·.1) with
  | [] => none
  | names =>
    let sorted := names.mergeSort fun a b => a ≤ b
    some ("Configuration overrides from environment: [" ++
      ", ".intercalate (sorted.map Text.quoted) ++ "]")

end Settings

end ContractBench
