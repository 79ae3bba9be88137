/-! # Commands of shell scripts

A command is made of words and of other commands, and a word is a row of pieces: text as it stands,
and places where the value of a parameter, the output of a command or the value of a formula goes.
All text is in octets.
-/

namespace ContractBench.Shell

/-- What is made of the value of a parameter. -/
inductive Treatment where
  /-- The value itself. -/
  | plain
  /-- The number of its octets. -/
  | size
  /-- The value, or a word in place of none. -/
  | orElse
  /-- The value, or a word in place of none, which the parameter takes over. -/
  | orAssign
  /-- The value; without one, the shell ends and complains. -/
  | orComplain
  /-- A word in place of a value, and nothing in place of none. -/
  | instead
  /-- The value without the start that fits a pattern. -/
  | cutStart (longest : Bool)
  /-- The value without the end that fits a pattern. -/
  | cutEnd (longest : Bool)
  /-- What no shell knows. -/
  | unknown
  deriving Repr, DecidableEq

/-- How a file is opened for a stream. -/
inductive Opening where
  /-- To be read. -/
  | reading
  /-- To be written from its start; an old file is emptied, which some shells refuse. -/
  | writing (force : Bool)
  /-- To be written at its end. -/
  | appending
  /-- To be read and written. -/
  | both
  deriving Repr, DecidableEq

mutual
/-- A piece of a word. -/
inductive Piece where
  /-- Text, in quotes or not. -/
  | text (text : String) (quoted : Bool)
  /-- The folder of the user. -/
  | home
  /-- What is made of the value of a parameter, with a word to help; a strict treatment takes an
      empty value for none. -/
  | parameter (name : String) (treatment : Treatment) (strict : Bool) (word : List Piece)
      (quoted : Bool)
  /-- The output of a command. -/
  | output (body : Command) (quoted : Bool)
  /-- The value of a formula. -/
  | formula (body : List Piece) (quoted : Bool)

/-- A change of one stream. -/
inductive Redirect where
  /-- The stream is a file. -/
  | file (stream : Nat) (opening : Opening) (target : List Piece)
  /-- The stream is another stream, or is closed. -/
  | copy (stream : Nat) (target : List Piece)
  /-- The stream gives a text. -/
  | here (stream : Nat) (text : List Piece)

/-- A command. -/
inductive Command where
  /-- Nothing to do. -/
  | skip
  /-- Set variables, and run a program if one is named; with the line it is on. -/
  | simple (line : Nat) (settings : List (String × List Piece)) (words : List (List Piece))
      (redirects : List Redirect)
  /-- A command with changed streams. -/
  | redirected (line : Nat) (body : Command) (redirects : List Redirect)
  /-- One after the other. -/
  | inOrder (first second : Command)
  /-- The second if the first succeeds. -/
  | ifSuccess (first second : Command)
  /-- The second if the first fails. -/
  | ifFailure (first second : Command)
  /-- Each reads what the one before it writes. -/
  | pipe (stages : List Command)
  /-- Success for failure. -/
  | negate (body : Command)
  /-- A command that is not waited for. -/
  | background (line : Nat) (body : Command)
  /-- A condition with two branches. -/
  | cond (test yes no : Command)
  /-- The body while the test succeeds, or while it fails. -/
  | loop (success : Bool) (test body : Command)
  /-- The body for each of some words. -/
  | each (line : Nat) (name : String) (words : List (List Piece)) (body : Command)
  /-- The first body with a pattern that fits a word. -/
  | choose (line : Nat) (word : List Piece) (branches : List (List (List Piece) × Command))
  /-- Give a command a name. -/
  | define (line : Nat) (name : String) (body : Command)
  /-- A command that cannot change the shell it runs in. -/
  | apart (line : Nat) (body : Command) (redirects : List Redirect)
end

/-- A word. -/
abbrev Word := List Piece

instance : Inhabited Piece := ⟨.home⟩

instance : Inhabited Command := ⟨.skip⟩

/-- Whether a character may begin a name. -/
def beginsName (c : Char) : Bool := c.isAlpha || c = '_'

/-- Whether a character may stand in a name. -/
def isNameChar (c : Char) : Bool := c.isAlphanum || c = '_'

/-- Whether characters are a name. -/
def isName : List Char → Bool
  | [] => false
  | c :: rest => beginsName c && rest.all isNameChar

/-- The text of a word that is bare throughout. -/
def bareText? : Word → Option String
  | [] => some ""
  | .text text false :: rest => (bareText? rest).map (text ++ ·)
  | _ :: _ => none

/-- The text of a word in which nothing is put in. -/
def plainText (word : Word) : String :=
  String.join (word.map fun piece =>
    match piece with
    | .text text _ => text
    | _ => "")

/-- Whether no part of a word is in quotes. -/
def isBareWord (word : Word) : Bool :=
  word.all fun piece =>
    match piece with
    | .text _ quoted => !quoted
    | _ => true

end ContractBench.Shell
