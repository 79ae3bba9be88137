import ContractBench.Failure
import ContractBench.Toml.Reader

/-! # Releases

Which release this is: what the installation says, else what the project file says at
`project.version`, else a fixed release. The project file may hold any value there; one that counts
as nothing is passed over.
-/

namespace ContractBench.Release

/-- The release that is given when nothing else is known. -/
def fallback : String := "0.1.0"

/-- Whether a value counts as nothing. -/
def isNothing : Value → Bool
  | .null => true
  | .bool b => !b
  | .int n => n = 0
  | .float x => x.isZero
  | .text s => s.isEmpty
  | .list items => items.isEmpty
  | .dict entries => entries.isEmpty
  | _ => false

/-- The value at a key of what must be a table. -/
def member? (key : String) : Value → Except Failure (Option Value)
  | .dict entries => .ok (Value.find? entries key)
  | v => .error (.notTable (Json.typeName v))

/-- The release in the text of a project file. -/
def inProject? (text : String) : Except Failure (Option Value) :=
  match Toml.read text with
  | .error .malformed => .ok none
  | .error fault => .error (.oversizedTable fault)
  | .ok entries =>
    match Value.find? entries "project" with
    | none => .ok none
    | some project => member? "version" project

/-- The release in the bytes of a project file. -/
def inProjectFile? (bytes : List UInt8) : Except Failure (Option Value) :=
  match Utf8.decode bytes with
  | .error place => .error (.notText place)
  | .ok text => inProject? text

/-- A value, or the fixed release when it is absent or counts as nothing. -/
def orFallback : Option Value → Value
  | some v => if isNothing v then .text fallback else v
  | none => .text fallback

/-- The release, from what the installation says and from the project file, if they are there. -/
def current (installed : Option String) (project : Option (List UInt8)) : Except Failure Value :=
  match installed, project with
  | some release, _ => .ok (.text release)
  | none, none => .ok (.text fallback)
  | none, some bytes => (inProjectFile? bytes).map orFallback

end ContractBench.Release
