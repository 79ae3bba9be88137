import ContractBench.Shell.Program.Lines

/-! # Sorting

A program that sorts lines by keys. A key is a part of a line with a way to compare it; lines with
equal keys are compared as a whole, unless the order in which they came counts.
-/

namespace ContractBench.Shell.Program

/-- A place in a line: a field, and characters within it. -/
structure KeyPlace where
  /-- The field, counted from one. -/
  field : Nat
  /-- The character, counted from one; none is the end of the field. -/
  character : Nat
  /-- Whether blanks at the start of the field are passed over. -/
  skipsBlanks : Bool := false

/-- A key. -/
structure Key where
  /-- Its start. -/
  start : KeyPlace
  /-- Its end, if it is not the end of the line. -/
  stop : Option KeyPlace
  /-- The letters that say how it is compared. -/
  letters : List Char

/-- A place at the start of some characters, with letters behind it, and what follows them. -/
def readPlace? (cs : List Char) : Option (Nat × Option Nat × List Char × List Char) :=
  let field := cs.takeWhile Char.isDigit
  let rest := cs.drop field.length
  if field.isEmpty then none
  else
    let (character, rest) := match rest with
      | '.' :: rest =>
        let digits := rest.takeWhile Char.isDigit
        (some (Numeral.ofDigits digits), rest.drop digits.length)
      | rest => (none, rest)
    let letters := rest.takeWhile "bdfgihMnRrV".toList.contains
    some (Numeral.ofDigits field, character, letters, rest.drop letters.length)

/-- The key that a text describes. -/
def readKey? (text : String) : Option Key :=
  match readPlace? text.toList with
  | none => none
  | some (field, character, letters, rest) =>
    if field = 0 || character = some 0 then none
    else
      let start : KeyPlace := ⟨field, character.getD 1, letters.contains 'b'⟩
      match rest with
      | [] => some ⟨start, none, letters⟩
      | ',' :: rest =>
        match readPlace? rest with
        | some (field, character, more, []) =>
          if field = 0 then none
          else some ⟨start, some ⟨field, character.getD 0, more.contains 'b'⟩, letters ++ more⟩
        | _ => none
      | _ => none

/-- Whether a character is a blank. -/
def isBlankChar (c : Char) : Bool := c = ' ' || c = '\t' || c = '\n'

/-- A line without one more field. -/
def dropField (separator : Option Char) (cs : List Char) : List Char :=
  match separator with
  | some mark => (cs.dropWhile (· ≠ mark)).drop 1
  | none => (cs.dropWhile isBlankChar).dropWhile (!isBlankChar ·)

/-- What begins at a field of a line. -/
def fromField (separator : Option Char) (field : Nat) (cs : List Char) : List Char :=
  (List.range (field - 1)).foldl (fun cs _ => dropField separator cs) cs

/-- The part of a line that a key is. -/
def Key.part (key : Key) (separator : Option Char) (line : List Char) : List Char :=
  let skip (place : KeyPlace) (cs : List Char) : List Char :=
    if place.skipsBlanks then cs.dropWhile isBlankChar else cs
  let start := (skip key.start (fromField separator key.start.field line)).drop
    (key.start.character - 1)
  match key.stop with
  | none => start
  | some stop =>
    let field := fromField separator stop.field line
    let after :=
      if stop.character = 0 then
        match separator with
        | some mark => field.dropWhile (· ≠ mark)
        | none => dropField none field
      else (skip stop field).drop stop.character
    start.take (start.length - after.length)

/-- The number that some characters begin with, as a numerator over a power of ten. -/
def leadingNumber (cs : List Char) : Int × Nat :=
  let cs := cs.dropWhile isBlankChar
  let (negative, cs) := match cs with
    | '-' :: rest => (true, rest)
    | cs => (false, cs)
  let whole := cs.takeWhile Char.isDigit
  let fraction := match cs.drop whole.length with
    | '.' :: rest => rest.takeWhile Char.isDigit
    | _ => []
  let n := Numeral.ofDigits (whole ++ fraction)
  (if negative then -(n : Int) else n, fraction.length)

/-- The order of two numbers over powers of ten. -/
def compareNumbers (a b : Int × Nat) : Ordering :=
  compare (a.1 * Nat.pow 10 b.2) (b.1 * Nat.pow 10 a.2)

/-- The power of a thousand that the letter behind a number stands for. -/
def unitOf (cs : List Char) : Nat :=
  let rest := (cs.dropWhile isBlankChar).dropWhile fun c => c.isDigit || c = '-' || c = '.'
  match rest with
  | c :: _ => ("KMGTPEZY".toList.idxOf? c.toUpper).elim 0 (· + 1)
  | [] => 0

/-- The number that some characters begin with, where it may have an exponent; texts without one
    come first. -/
def leadingDecimal (cs : List Char) : Nat × Int × Nat :=
  let body := cs.dropWhile isBlankChar
  match body.dropWhile fun c => c = '-' || c = '+' || c = '.' with
  | c :: _ =>
    if !c.isDigit then (0, 0, 0)
    else
      let (n, places) := leadingNumber (body.dropWhile (· = '+'))
      let rest := body.dropWhile fun c => c.isDigit || c = '-' || c = '+' || c = '.'
      match rest with
      | e :: rest =>
        let (minus, digits) := match rest with
          | '-' :: rest => (true, rest)
          | '+' :: rest => (false, rest)
          | rest => (false, rest)
        let power := Numeral.ofDigits (digits.takeWhile Char.isDigit)
        if e.toLower ≠ 'e' || 400 < power then (1, n, places)
        else if minus then (1, n, places + power)
        else (1, n * Nat.pow 10 power, places)
      | [] => (1, n, places)
  | [] => (0, 0, 0)

/-- The number of the month whose short name begins some characters. -/
def monthOf (cs : List Char) : Nat :=
  let name := String.ofList (((cs.dropWhile isBlankChar).take 3).map Char.toUpper)
  (["JAN", "FEB", "MAR", "APR", "MAY", "JUN", "JUL", "AUG", "SEP", "OCT", "NOV", "DEC"].idxOf?
    name).elim 0 (· + 1)

/-- The order of two texts by their characters. -/
def compareTexts (a b : List Char) : Ordering :=
  compare (String.ofList a) (String.ofList b)

/-- The pieces of a version: texts without digits and numbers in turn. The fuel is more than the
    number of characters. -/
def versionPieces : Nat → List Char → List (List Char × Nat)
  | 0, _ => []
  | _, [] => []
  | fuel + 1, cs =>
    let text := cs.takeWhile (!·.isDigit)
    let digits := (cs.drop text.length).takeWhile Char.isDigit
    (text, Numeral.ofDigits digits) ::
      versionPieces fuel (cs.drop (text.length + digits.length))

/-- The order of two versions. -/
def compareVersions : List (List Char × Nat) → List (List Char × Nat) → Ordering
  | [], [] => .eq
  | [], _ => .lt
  | _, [] => .gt
  | (s, m) :: a, (t, n) :: b =>
    (compareTexts s t).then ((compare m n).then (compareVersions a b))

/-- The order of two parts of lines, by the letters of a key. -/
def compareBy (letters : List Char) (a b : List Char) : Ordering :=
  let has := letters.contains
  let order :=
    if has 'n' then compareNumbers (leadingNumber a) (leadingNumber b)
    else if has 'g' then
      let (x, y) := (leadingDecimal a, leadingDecimal b)
      (compare x.1 y.1).then (compareNumbers x.2 y.2)
    else if has 'h' then
      let signed (cs : List Char) : Int :=
        let n := (leadingNumber cs).1
        if n = 0 then 0 else if n < 0 then -(unitOf cs + 1 : Int) else unitOf cs + 1
      (compare (signed a) (signed b)).then (compareNumbers (leadingNumber a) (leadingNumber b))
    else if has 'M' then compare (monthOf a) (monthOf b)
    else if has 'V' then
      (compareVersions (versionPieces (a.length + 1) a) (versionPieces (b.length + 1) b)).then
        (compareTexts a b)
    else
      let prepared (cs : List Char) : List Char :=
        let cs := if has 'd' then cs.filter fun c => c.isAlphanum || isBlankChar c else cs
        let cs := if has 'i' then cs.filter fun c => 32 ≤ c.toNat && c.toNat < 127 else cs
        if has 'f' then cs.map Char.toUpper else cs
      compareTexts (prepared a) (prepared b)
  if has 'r' then order.swap else order

/-- The order of two lines by keys. -/
def compareKeys (separator : Option Char) (keys : List Key) (a b : List Char) : Ordering :=
  keys.foldl (fun order key =>
    order.then (compareBy key.letters (key.part separator a) (key.part separator b))) .eq

/-- Lines in which of those that follow each other with equal keys only the first is left. -/
def dropEqual (isEqual : String → String → Bool) : List String → List String
  | a :: b :: rest =>
    if isEqual a b then dropEqual isEqual (a :: rest) else a :: dropEqual isEqual (b :: rest)
  | lines => lines

/-- The letters that say how lines are compared. -/
def orderLetters : List Char := "bdfghiMnrV".toList

/-- Sort lines. -/
def sort : Program := fun _ name args =>
  withOptions { flags := "bdfghiMnrVucCsmz", valued := "koStT", long := [("reverse", 'r'),
    ("numeric-sort", 'n'), ("unique", 'u'), ("key", 'k'), ("field-separator", 't'),
    ("ignore-case", 'f'), ("output", 'o'), ("stable", 's'), ("check", 'c'),
    ("general-numeric-sort", 'g'), ("human-numeric-sort", 'h'), ("version-sort", 'V'),
    ("month-sort", 'M'), ("dictionary-order", 'd'), ("ignore-leading-blanks", 'b')] } name args 2
    fun parsed => do
      let letters := (parsed.options.map (·.1)).filter orderLetters.contains
      let separator := (parsed.value? 't').bind fun text =>
        if text = "\\0" then some '\x00' else text.toList.head?
      let wordy (path : String) (fault : SystemFault) : String :=
        if fault = .file .isFolder then "read failed: " ++ shown path ++ ": " ++ fault.text
        else "cannot read: " ++ shown path ++ ": " ++ fault.text
      match (parsed.values 'k').mapM readKey? with
      | none =>
        let bad := (parsed.values 'k').find? fun text => (readKey? text).isNone
        refuse name ("invalid number at field start: invalid count at start of " ++
          curled (bad.getD "")) 2
      | some keys =>
        let inherit (key : Key) : Key :=
          if key.letters.isEmpty && !key.start.skipsBlanks then
            { key with
              letters := letters
              start := { key.start with skipsBlanks := letters.contains 'b' } }
          else key
        let keys := if keys.isEmpty && letters.any (· ≠ 'r') then
            [⟨⟨1, 1, letters.contains 'b'⟩, none, letters⟩]
          else keys.map inherit
        let byKeys (a b : String) : Ordering := compareKeys separator keys a.toList b.toList
        let whole (a b : String) : Ordering :=
          let order := compare a b
          if letters.contains 'r' then order.swap else order
        let order (a b : String) : Ordering :=
          if keys.isEmpty then whole a b
          else if parsed.has 's' || parsed.has 'u' then byKeys a b
          else (byKeys a b).then (whole a b)
        let isEqual (a b : String) : Bool := order a b = .eq
        let (found, status) ← inputsWith wordy name parsed.operands
        if status ≠ 0 then return 2
        let lines := (found.map fun (_, content) => linesOf content).flatten
        if parsed.has 'c' || parsed.has 'C' then
          let pairs := (lines.zip (lines.drop 1)).zipIdx
          let disorder := pairs.find? fun ((a, b), _) =>
            order a b = .gt || (parsed.has 'u' && isEqual a b)
          match disorder with
          | none => return 0
          | some ((_, b), index) =>
            if parsed.has 'c' then
              complain name (parsed.operands.headD "-" ++ ":" ++ toString (index + 2) ++
                ": disorder: " ++ b)
            return 1
        else
          let sorted := lines.mergeSort fun a b => order a b ≠ .gt
          let kept := if parsed.has 'u' then dropEqual isEqual sorted else sorted
          match parsed.value? 'o' with
          | none =>
            Act.print (ofLines kept)
            return 0
          | some path =>
            match ← Act.openPath path (.writing true) with
            | .error fault => refuse name ("open failed: " ++ readingWords path fault) 2
            | .ok index =>
              Act.setStream 1 index
              Act.print (ofLines kept)
              return 0

end ContractBench.Shell.Program
