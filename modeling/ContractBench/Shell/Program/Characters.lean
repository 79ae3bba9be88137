import ContractBench.Shell.Pattern
import ContractBench.Shell.Program.Excerpt

/-! # Exchanging characters

A program that replaces, deletes or squeezes characters. Its sets of characters are written with
ranges, classes, repetitions and escapes.
-/

namespace ContractBench.Shell.Program

/-- A part of a set of characters. -/
inductive SetPart where
  /-- Some characters. -/
  | characters (cs : List Char)
  /-- A character so many times, or as often as there is room. -/
  | repeated (c : Char) (count : Nat)

/-- The escapes of single letters. -/
def setEscape (c : Char) : Char :=
  match c with
  | 'n' => '\n'
  | 't' => '\t'
  | 'r' => '\r'
  | 'a' => Char.ofNat 7
  | 'b' => Char.ofNat 8
  | 'f' => Char.ofNat 12
  | 'v' => Char.ofNat 11
  | c => c

/-- Characters marked where an escape gives them. -/
def setMarks : Nat → List Char → List Marked
  | 0, _ => []
  | _, [] => []
  | fuel + 1, '\\' :: c :: rest =>
    if Format.isOctal c then
      let (n, after) := Format.splitNumber 8 3 0 (c :: rest)
      (Format.octet n, true) :: setMarks fuel after
    else (setEscape c, true) :: setMarks fuel rest
  | fuel + 1, c :: rest => (c, false) :: setMarks fuel rest

/-- All octets. -/
def allOctets : List Char := (List.range 256).map Char.ofNat

/-- Why a set has no meaning. -/
inductive SetFault where
  /-- A range runs backwards. -/
  | reversed (text : String)
  /-- A class is not known. -/
  | kind (name : String)

/-- The words for a fault. -/
def SetFault.message : SetFault → String
  | .reversed text =>
    "range-endpoints of " ++ quoted text ++ " are in reverse collating sequence order"
  | .kind name => "invalid character class " ++ curled name

/-- Read the parts of a set. The fuel is more than the number of characters. -/
def setParts : Nat → List Marked → Except SetFault (List SetPart)
  | 0, _ => .ok []
  | _, [] => .ok []
  | fuel + 1, ('[', false) :: (':', false) :: rest =>
    let name := rest.takeWhile fun c => c.1 ≠ ':'
    match rest.drop name.length with
    | (':', _) :: (']', _) :: after =>
      let text := String.ofList (name.map (·.1))
      match characterClass? text with
      | some holds =>
        (setParts fuel after).map (.characters (allOctets.filter holds) :: ·)
      | none => .error (.kind text)
    | _ => (setParts fuel ((':', false) :: rest)).map (.characters ['['] :: ·)
  | fuel + 1, ('[', false) :: ('=', false) :: (c, _) :: ('=', _) :: (']', _) :: rest =>
    (setParts fuel rest).map (.characters [c] :: ·)
  | fuel + 1, ('[', false) :: (c, marked) :: ('*', false) :: rest =>
    let digits := rest.takeWhile fun d => d.1.isDigit
    match rest.drop digits.length with
    | (']', false) :: after =>
      let base := if digits.head?.map (·.1) = some '0' then 8 else 10
      let n := (Format.splitNumber base digits.length 0 (digits.map (·.1))).1
      (setParts fuel after).map (.repeated c n :: ·)
    | _ => (setParts fuel ((c, marked) :: ('*', false) :: rest)).map (.characters ['['] :: ·)
  | fuel + 1, (low, _) :: ('-', false) :: (high, _) :: rest =>
    if low ≤ high then
      let range := allOctets.filter fun c => low ≤ c && c ≤ high
      (setParts fuel rest).map (.characters range :: ·)
    else .error (.reversed (String.ofList [low, '-', high]))
  | fuel + 1, (c, _) :: rest => (setParts fuel rest).map (.characters [c] :: ·)

/-- The parts of the set that a text describes. -/
def readSet (text : String) : Except SetFault (List SetPart) :=
  let marks := setMarks (text.length + 1) text.toList
  setParts (marks.length + 1) marks

/-- The characters of a set, where a repetition without a number fills the room that is left. -/
def setCharacters (room : Nat) (parts : List SetPart) : List Char :=
  let fixed := (parts.map fun part =>
    match part with
    | .characters cs => cs.length
    | .repeated _ n => n).foldl (· + ·) 0
  (parts.map fun part =>
    match part with
    | .characters cs => cs
    | .repeated c 0 => List.replicate (room - fixed) c
    | .repeated c n => List.replicate n c).flatten

/-- What a character becomes where a set stands for another. -/
def exchanged (source target : List Char) (c : Char) : Char :=
  match (source.zip target).reverse.find? fun entry => entry.1 = c with
  | some (_, d) => d
  | none => c

/-- A text in which characters of a set that repeat each other stand once. -/
def squeezeRuns (set : List Char) : List Char → List Char
  | a :: b :: rest =>
    if a = b && set.contains a then squeezeRuns set (b :: rest)
    else a :: squeezeRuns set (b :: rest)
  | cs => cs

/-- Exchange, delete or squeeze the characters of the input. -/
def tr : Program := fun _ name args =>
  withOptions { flags := "cCdst", anywhere := false, long := [("complement", 'c'),
    ("delete", 'd'), ("squeeze-repeats", 's'), ("truncate-set1", 't')] } name args 1
    fun parsed => do
      let deletes := parsed.has 'd'
      let squeezes := parsed.has 's'
      let complement := parsed.has 'c' || parsed.has 'C'
      let sets := parsed.operands.mapM readSet
      let run (change : List Char → List Char) : Act Nat := do
        match ← Act.readAll 0 with
        | .ok text =>
          Act.print (String.ofList (change text))
          return 0
        | .error fault => refuse name ("read error: " ++ fault.text) 1
      let whole (parts : List SetPart) : List Char :=
        let set := setCharacters 0 parts
        if complement then allOctets.filter (!set.contains ·) else set
      match parsed.operands, sets with
      | _, .error fault => refuse name fault.message 1
      | [], _ => missingOperand name 1
      | [_], .ok [first] =>
        let set := whole first
        if deletes && !squeezes then run fun text => text.filter (!set.contains ·)
        else if squeezes && !deletes then run (squeezeRuns set)
        else
          complain name ("missing operand after " ++ curled (parsed.operands.headD ""))
          Act.complain (if deletes
            then "Two strings must be given when both deleting and squeezing repeats."
            else "Two strings must be given when translating.")
          tryHelp name
          return 1
      | [_, second], .ok [first, target] =>
        let set := whole first
        let target := setCharacters set.length target
        let filled :=
          if parsed.has 't' then target
          else match target.getLast? with
            | some last => target ++ List.replicate (set.length - target.length) last
            | none => []
        if deletes && squeezes then
          run fun text => squeezeRuns target (text.filter (!set.contains ·))
        else if deletes then
          complain name ("extra operand " ++ curled second)
          Act.complain "Only one string may be given when deleting without squeezing repeats."
          tryHelp name
          return 1
        else if target.isEmpty && !parsed.has 't' then
          refuse name "when not truncating set1, string2 must be non-empty" 1
        else
          run fun text =>
            let changed := text.map (exchanged set filled)
            if squeezes then squeezeRuns target changed else changed
      | operands, _ => misuse name ("extra operand " ++ curled ((operands[2]?).getD "")) 1

end ContractBench.Shell.Program
