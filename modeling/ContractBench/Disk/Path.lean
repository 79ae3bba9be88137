/-! # Paths

A path is a root and the names that lead from it. Empty names and single dots say nothing and are
dropped; a double dot stays, since it depends on the disk what it means.
-/

namespace ContractBench

/-- A path. -/
structure Path where
  /-- Empty for a path from the working directory; otherwise one slash or exactly two. -/
  root : String
  /-- The names on the way. -/
  parts : List String
  deriving Repr, DecidableEq, Inhabited

namespace Path

/-- The pieces of a text between slashes; the piece read so far is given last character first. -/
def piecesFrom : List Char → List Char → List String
  | piece, [] => [String.ofList piece.reverse]
  | piece, '/' :: rest => String.ofList piece.reverse :: piecesFrom [] rest
  | piece, c :: rest => piecesFrom (c :: piece) rest

/-- The names in a text that say something. -/
def namesIn (text : String) : List String :=
  (piecesFrom [] text.toList).filter fun piece => piece ≠ "" && piece ≠ "."

/-- The root of a text. Two slashes at its start are a root of their own, three are one slash. -/
def rootOf (text : String) : String :=
  match text.toList with
  | '/' :: '/' :: '/' :: _ => "/"
  | '/' :: '/' :: _ => "//"
  | '/' :: _ => "/"
  | _ => ""

/-- Read a path. -/
def ofText (text : String) : Path := ⟨rootOf text, namesIn text⟩

/-- The path of a text seen from another path; a rooted text replaces it. -/
def join (base : Path) (text : String) : Path :=
  if rootOf text = "" then ⟨base.root, base.parts ++ namesIn text⟩ else ofText text

/-- The text of a path. The working directory itself is a dot. -/
def toText (path : Path) : String :=
  if path.root = "" ∧ path.parts = [] then "." else path.root ++ "/".intercalate path.parts

end Path

end ContractBench
