import ContractBench.Shell.Program.Excerpt

/-! # Programs that work on lines

Programs that write a line for each line they read, or for some of them: numbered, folded, turned
around, side by side, or once for a row of equal ones.
-/

namespace ContractBench.Shell.Program

/-- The number that an option asks for, if it is one. -/
def Parsed.number? (parsed : Parsed) (letter : Char) : Option Nat :=
  (parsed.value? letter).bind String.toNat?

/-- A line without some of its first fields and characters. -/
def afterFields (fields characters : Nat) (line : String) : List Char :=
  let isBlank (c : Char) : Bool := c = ' ' || c = '\t'
  let rest := (List.range fields).foldl (fun cs _ =>
    (cs.dropWhile isBlank).dropWhile (!isBlank ·)) line.toList
  rest.drop characters

/-- Rows of lines with equal keys, each with its first line and the number of its lines. -/
def groups (key : String → List Char) : List String → List (String × Nat)
  | [] => []
  | line :: rest =>
    match groups key rest with
    | (next, count) :: more =>
      if key next = key line then (line, count + 1) :: more else (line, 1) :: (next, count) :: more
    | [] => [(line, 1)]

/-- Write equal lines that follow each other once. -/
def uniq : Program := fun _ name args =>
  withOptions { flags := "cdui", valued := "fsw", long := [("count", 'c'), ("repeated", 'd'),
    ("unique", 'u'), ("ignore-case", 'i'), ("skip-fields", 'f'), ("skip-chars", 's'),
    ("check-chars", 'w')] } name args 1 fun parsed => do
    let count (letter : Char) : Nat := (parsed.number? letter).getD 0
    let key (line : String) : List Char :=
      let cs := afterFields (count 'f') (count 's') line
      let cs := if parsed.has 'w' then cs.take (count 'w') else cs
      if parsed.has 'i' then cs.map Char.toLower else cs
    match parsed.operands with
    | _ :: _ :: extra :: _ => misuse name ("extra operand " ++ curled extra) 1
    | operands =>
      let (content, status) ← joinedInputs name (operands.take 1)
      let kept := (groups key (linesOf content)).filter fun (_, n) =>
        (!parsed.has 'd' || 1 < n) && (!parsed.has 'u' || n = 1)
      let lines := kept.map fun (line, n) =>
        if parsed.has 'c' then flushRight 7 (toString n) ++ " " ++ line else line
      let output ← match operands with
        | [_, path] => do
          match ← Act.openPath path (.writing true) with
          | .ok index =>
            Act.setStream 1 index
            pure 0
          | .error fault => refuse name (readingWords path fault) 1
        | _ => pure 0
      if status = 0 && output = 0 then Act.print (ofLines lines)
      return max status output

/-- The layout of a number of a line. -/
def lineNumber (layout : String) (width n : Nat) : String :=
  match layout with
  | "ln" => flushLeft width (toString n)
  | "rz" => Places.zeroPadded width (toString n)
  | _ => flushRight width (toString n)

/-- Number lines. -/
def nl : Program := fun _ name args =>
  withOptions { flags := "p", valued := "bwsnvihfld", long := [("body-numbering", 'b'),
    ("number-width", 'w'), ("number-separator", 's'), ("number-format", 'n'),
    ("starting-line-number", 'v'), ("line-increment", 'i')] } name args 1 fun parsed => do
    let (content, status) ← joinedInputs name parsed.operands
    let all := parsed.value? 'b' = some "a"
    let none_ := parsed.value? 'b' = some "n"
    let width := (parsed.number? 'w').getD 6
    let separator := (parsed.value? 's').getD "\t"
    let step := (parsed.number? 'i').getD 1
    let blank := String.ofList (List.replicate (width + separator.length) ' ')
    let rec write (n : Nat) : List String → String
      | [] => ""
      | line :: rest =>
        if !none_ && (all || line ≠ "") then
          lineNumber ((parsed.value? 'n').getD "rn") width n ++ separator ++ line ++ "\n" ++
            write (n + step) rest
        else blank ++ line ++ "\n" ++ write n rest
    Act.print (write ((parsed.number? 'v').getD 1) (linesOf content))
    return status

/-- Turn each line around. -/
def rev : Program := fun _ name args =>
  withOptions {} name args 1 fun parsed => do
    let (content, status) ← joinedInputs name parsed.operands
    let turned (line : String) : String :=
      let cs := (Octets.toText line).toList
      let body := cs.filter (· ≠ '\n')
      Octets.ofText (String.ofList (body.reverse ++ cs.drop body.length))
    Act.print (String.join ((fullLines content).map turned))
    return status

/-- The characters of a list in which a backslash begins an escape. -/
def separatorList : List Char → List String
  | '\\' :: 'n' :: rest => "\n" :: separatorList rest
  | '\\' :: 't' :: rest => "\t" :: separatorList rest
  | '\\' :: '0' :: rest => "" :: separatorList rest
  | '\\' :: c :: rest => String.singleton c :: separatorList rest
  | c :: rest => String.singleton c :: separatorList rest
  | [] => []

/-- Texts joined by separators that take turns. -/
def joinInTurn (separators : List String) : Nat → List String → String
  | _, [] => ""
  | _, [last] => last
  | n, text :: rest =>
    text ++ (separators[n % separators.length]?).getD "" ++ joinInTurn separators (n + 1) rest

/-- The lines of each of some files; those of the input are dealt out to all that ask for it. -/
def columnsOf (found : List (String × List Char)) : List (List String) :=
  let asking := (found.filter fun entry => entry.1 = "-").length
  let dealt := linesOf (found.foldl (fun all (path, content) =>
    if path = "-" then all ++ content else all) [])
  let rec deal (turn : Nat) : List (String × List Char) → List (List String)
    | [] => []
    | (path, content) :: rest =>
      if path = "-" then
        let lines := (dealt.zipIdx.filter fun entry => entry.2 % asking = turn).map (·.1)
        lines :: deal (turn + 1) rest
      else linesOf content :: deal turn rest
  deal 0 found

/-- Write the lines of files side by side, or those of each file on one line. -/
def paste : Program := fun _ name args =>
  withOptions { flags := "sz", valued := "d", long := [("delimiters", 'd'), ("serial", 's')] }
    name args 1 fun parsed => do
      let separators := match separatorList ((parsed.value? 'd').getD "\t").toList with
        | [] => [""]
        | separators => separators
      let (found, status) ← inputs name parsed.operands
      if status ≠ 0 then return status
      let columns := columnsOf found
      if parsed.has 's' then
        Act.print (ofLines (columns.map (joinInTurn separators 0)))
      else
        let height := columns.foldl (fun most column => max most column.length) 0
        let rows := (List.range height).map fun row =>
          joinInTurn separators 0 (columns.map fun column => (column[row]?).getD "")
        Act.print (ofLines rows)
      return 0

/-- Split a line into pieces of a width, at blanks if this is asked for. The fuel is more than the
    length of the line. -/
def foldLine (width : Nat) (atBlanks : Bool) : Nat → List Char → List (List Char)
  | 0, _ => []
  | fuel + 1, line =>
    if line.length ≤ width then [line]
    else
      let piece := line.take width
      let upToBlank := (piece.reverse.dropWhile (· ≠ ' ')).reverse
      let piece := if atBlanks && !upToBlank.isEmpty then upToBlank else piece
      piece :: foldLine width atBlanks fuel (line.drop piece.length)

/-- Fold long lines. -/
def fold : Program := fun _ name args =>
  withOptions { flags := "bs", valued := "w", long := [("width", 'w'), ("spaces", 's'),
    ("bytes", 'b')] } name (modernArgs [] args) 1 fun parsed => do
    let (content, status) ← joinedInputs name parsed.operands
    let width := max 1 ((parsed.number? 'w').getD 80)
    let folded (line : String) : String :=
      let body := line.toList.filter (· ≠ '\n')
      let pieces := (foldLine width (parsed.has 's') (body.length + 1) body).map String.ofList
      "\n".intercalate pieces ++ String.ofList (line.toList.drop body.length)
    Act.print (String.join ((fullLines content).map folded))
    return status

/-- The lines of two sorted files, each in one of three columns. The fuel is more than the number
    of the lines. -/
def merged : Nat → List String → List String → List (Nat × String)
  | 0, _, _ => []
  | _, [], [] => []
  | fuel + 1, a :: left, [] => (1, a) :: merged fuel left []
  | fuel + 1, [], b :: right => (2, b) :: merged fuel [] right
  | fuel + 1, a :: left, b :: right =>
    if a = b then (3, a) :: merged fuel left right
    else if a < b then (1, a) :: merged fuel left (b :: right)
    else (2, b) :: merged fuel (a :: left) right

/-- Compare two sorted files line by line. -/
def comm : Program := fun _ name args =>
  withOptions { flags := "123" } name args 1 fun parsed => do
    match parsed.operands with
    | [a, b] =>
      let (found, status) ← inputs name [a, b]
      match found with
      | [(_, left), (_, right)] =>
        let (left, right) := (linesOf left, linesOf right)
        let hides (column : Nat) : Bool := parsed.has (Char.ofNat (48 + column))
        let lead (column : Nat) : String :=
          String.join ((List.range (column - 1)).map fun before =>
            if hides (before + 1) then "" else "\t")
        let entries := merged (left.length + right.length + 1) left right
        Act.print (String.join (entries.map fun (column, line) =>
          if hides column then "" else lead column ++ line ++ "\n"))
        return 0
      | _ => return status
    | [] => missingOperand name 1
    | [a] => misuse name ("missing operand after " ++ curled a) 1
    | _ :: _ :: extra :: _ => misuse name ("extra operand " ++ curled extra) 1

/-- A range of places in a line, both ends counted from one; it may have no end. -/
structure PlaceRange where
  /-- The first place. -/
  first : Nat
  /-- The last place. -/
  last : Option Nat

/-- The range that a text asks for. -/
def placeRange? (text : String) : Option PlaceRange :=
  let cs := text.toList
  let low := cs.takeWhile Char.isDigit
  match cs.drop low.length with
  | [] => if low.isEmpty then none else some ⟨Numeral.ofDigits low, some (Numeral.ofDigits low)⟩
  | '-' :: high =>
    if !high.all Char.isDigit || (low.isEmpty && high.isEmpty) then none
    else
      some ⟨if low.isEmpty then 1 else Numeral.ofDigits low,
        if high.isEmpty then none else some (Numeral.ofDigits high)⟩
  | _ => none

/-- The ranges that a list asks for. -/
def placeRanges? (text : String) : Option (List PlaceRange) :=
  ((text.split fun c => c = ',' || c = ' ').toList.map (·.toString)).mapM placeRange?

/-- Whether a place is in some ranges. -/
def inRanges (ranges : List PlaceRange) (place : Nat) : Bool :=
  ranges.any fun range => range.first ≤ place && range.last.all (place ≤ ·)

/-- The pieces of a line between separators. -/
def piecesBetween (separator : Char) : List Char → List Char → List (List Char)
  | piece, [] => [piece.reverse]
  | piece, c :: rest =>
    if c = separator then piece.reverse :: piecesBetween separator [] rest
    else piecesBetween separator (c :: piece) rest

/-- The units of a line whose places are in ranges, or are not. -/
def keepUnits {α : Type} (ranges : List PlaceRange) (inside : Bool) (units : List α) : List α :=
  (units.zipIdx.filter fun entry => inRanges ranges (entry.2 + 1) = inside).map (·.1)

/-- Write parts of lines: fields or characters. -/
def cut : Program := fun _ name args =>
  withOptions { flags := "snz!", valued := "dfcbO", long := [("delimiter", 'd'), ("fields", 'f'),
    ("characters", 'c'), ("bytes", 'b'), ("only-delimited", 's'), ("complement", '!'),
    ("output-delimiter", 'O')] } name args 1 fun parsed => do
    let lists := parsed.options.filter fun entry => ['f', 'c', 'b'].contains entry.1
    let separator := (parsed.value? 'd').getD "\t"
    match lists with
    | [] => misuse name "you must specify a list of bytes, characters, or fields" 1
    | _ :: _ :: _ => misuse name "only one list may be specified" 1
    | [(letter, list)] =>
      match placeRanges? list with
      | none =>
        let what := if letter = 'f' then "field" else "byte or character"
        misuse name (if letter = 'f' then "invalid field value " ++ curled list
          else "invalid " ++ what ++ " position " ++ curled list) 1
      | some ranges =>
        if letter = 'f' && 1 < separator.length then
          misuse name "the delimiter must be a single character" 1
        else if ranges.any fun range => range.first = 0 then
          misuse name ((if letter = 'f' then "fields" else "byte/character positions") ++
            " are numbered from 1") 1
        else if ranges.any fun range => range.last.any (· < range.first) then
          misuse name "invalid decreasing range" 1
        else if letter ≠ 'f' && parsed.has 'd' then
          misuse name "an input delimiter may be specified only when operating on fields" 1
        else
          let (content, status) ← joinedInputs name parsed.operands
          let inside := !parsed.has '!'
          let mark := separator.toList.headD '\x00'
          let part (line : String) : Option String :=
            if letter = 'f' then
              if line.toList.contains mark then
                let pieces := piecesBetween mark [] line.toList
                some (((parsed.value? 'O').getD (String.singleton mark)).intercalate
                  ((keepUnits ranges inside pieces).map String.ofList))
              else if parsed.has 's' then none
              else some line
            else some (String.ofList (keepUnits ranges inside line.toList))
          Act.print (ofLines ((linesOf content).filterMap part))
          return status

end ContractBench.Shell.Program
