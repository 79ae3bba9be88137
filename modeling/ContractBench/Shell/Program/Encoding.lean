import ContractBench.Shell.Program.Lines
import ContractBench.Shell.Digest

/-! # Programs that encode

Programs that write octets in other ways: as letters of a small alphabet, as numbers, and as
digests.
-/

namespace ContractBench.Shell.Program

/-- The letters for the numbers below 64. -/
def sixBitLetters : Array Char :=
  "ABCDEFGHIJKLMNOPQRSTUVWXYZabcdefghijklmnopqrstuvwxyz0123456789+/".toList.toArray

/-- The letter for a number below 64. -/
def sixBitLetter (n : Nat) : Char := sixBitLetters.getD (n % 64) 'A'

/-- Octets as letters, three octets as four letters; signs fill up the last ones. -/
def sixBitText : List Char → List Char
  | a :: b :: c :: rest =>
    let n := (a.toNat * 256 + b.toNat) * 256 + c.toNat
    sixBitLetter (n / 262144) :: sixBitLetter (n / 4096) :: sixBitLetter (n / 64) ::
      sixBitLetter n :: sixBitText rest
  | [a, b] =>
    let n := (a.toNat * 256 + b.toNat) * 4
    [sixBitLetter (n / 4096), sixBitLetter (n / 64), sixBitLetter n, '=']
  | [a] =>
    let n := a.toNat * 16
    [sixBitLetter (n / 64), sixBitLetter n, '=', '=']
  | [] => []

/-- The number of a letter. -/
def sixBitValue? (c : Char) : Option Nat := sixBitLetters.toList.idxOf? c

/-- The octets that letters are, up to a fault; the flag tells whether there is none. -/
def sixBitOctets : List Char → List Char × Bool
  | [] => ([], true)
  | a :: b :: rest =>
    match sixBitValue? a, sixBitValue? b with
    | some x, some y =>
      let first := Format.octet (x * 4 + y / 16)
      match rest with
      | [] => ([first], false)
      | '=' :: '=' :: rest =>
        let (more, whole) := sixBitOctets rest
        (first :: more, whole)
      | c :: rest =>
        match sixBitValue? c, rest with
        | none, _ => ([first], false)
        | some z, [] => ([first, Format.octet (y * 16 + z / 4)], false)
        | some z, d :: rest =>
          let second := Format.octet (y * 16 + z / 4)
          match d, sixBitValue? d with
          | '=', _ =>
            let (more, whole) := sixBitOctets rest
            (first :: second :: more, whole)
          | _, none => ([first, second], false)
          | _, some w =>
            let (more, whole) := sixBitOctets rest
            (first :: second :: Format.octet (z * 64 + w) :: more, whole)
    | _, _ => ([], false)
  | _ => ([], false)

/-- A text in lines of some length, or in one without a newline if the length is zero. The fuel is
    more than the number of characters. -/
def wrapped (width : Nat) : Nat → List Char → String
  | 0, _ => ""
  | _, [] => ""
  | fuel + 1, cs =>
    if width = 0 then String.ofList cs
    else String.ofList (cs.take width) ++ "\n" ++ wrapped width fuel (cs.drop width)

/-- Write octets as letters, or read them back. -/
def base64 : Program := fun _ name args =>
  withOptions { flags := "di", valued := "w", long := [("decode", 'd'), ("ignore-garbage", 'i'),
    ("wrap", 'w')] } name args 1 fun parsed => do
    match parsed.operands with
    | _ :: extra :: _ => misuse name ("extra operand " ++ curled extra) 1
    | operands =>
      match (parsed.value? 'w').map String.toNat? with
      | some none =>
        refuse name ("invalid wrap size: " ++ curled ((parsed.value? 'w').getD "")) 1
      | width =>
        let path := operands.headD "-"
        match ← contentOf path with
        | .error fault =>
          let lead := if fault = .file .isFolder then "read error" else shown path
          refuse name (lead ++ ": " ++ fault.text) 1
        | .ok content =>
          if parsed.has 'd' then
            let kept := content.filter fun c =>
              if parsed.has 'i' then (sixBitValue? c).isSome || c = '=' else c ≠ '\n'
            let (octets, whole) := sixBitOctets kept
            Act.print (String.ofList octets)
            return ← if whole then pure 0 else refuse name "invalid input" 1
          else
            let letters := sixBitText content
            Act.print (wrapped ((width.bind id).getD 76) (letters.length + 1) letters)
            return 0

/-- Write digests of files. -/
def digest (of : List UInt8 → List UInt8) : Program := fun _ name args =>
  withOptions { flags := "bt", long := [("binary", 'b'), ("text", 't')] } name args 1
    fun parsed => do
      let (found, status) ← inputs name parsed.operands
      Act.print (String.join (found.map fun (path, content) =>
        Digest.text (of (Octets.toBytes content)) ++ (if parsed.has 'b' then " *" else "  ") ++
          path ++ "\n"))
      return status

/-- How some octets are shown as one value. -/
inductive DumpKind where
  /-- As characters with names. -/
  | named
  /-- As characters or escapes. -/
  | character
  /-- As a number in a base. -/
  | number (base : Nat)
  /-- As a number with a sign. -/
  | signed
  deriving DecidableEq

/-- A way to show octets: the kind and the number of octets of a value, and whether the characters
    follow. -/
structure DumpForm where
  /-- The kind of values. -/
  kind : DumpKind
  /-- The octets of a value. -/
  size : Nat
  /-- Whether the octets follow as characters. -/
  trailer : Bool := false

/-- How many digits a number of some octets has at most in a base. -/
def mostDigits (base size : Nat) : Nat := (Nat.toDigits base (Nat.pow 256 size - 1)).length

/-- The width of a value. -/
def DumpForm.width (form : DumpForm) : Nat :=
  match form.kind with
  | .named => 3
  | .character => 3
  | .number base => mostDigits base form.size
  | .signed => mostDigits 10 form.size + (if form.size = 8 then 0 else 1)

/-- The names of the control characters and the space. -/
def controlNames : List String :=
  ["nul", "soh", "stx", "etx", "eot", "enq", "ack", "bel", "bs", "ht", "nl", "vt", "ff", "cr",
   "so", "si", "dle", "dc1", "dc2", "dc3", "dc4", "nak", "syn", "etb", "can", "em", "sub", "esc",
   "fs", "gs", "rs", "us", "sp"]

/-- An octet as a character or an escape. -/
def escaped (c : Char) : String :=
  match ([(0, '0'), (7, 'a'), (8, 'b'), (9, 't'), (10, 'n'), (11, 'v'), (12, 'f'),
    (13, 'r')].find? fun entry => entry.1 = c.toNat) with
  | some (_, letter) => "\\" ++ String.singleton letter
  | none =>
    if 32 ≤ c.toNat && c.toNat < 127 then String.singleton c
    else Places.zeroPadded 3 (String.ofList (Nat.toDigits 8 c.toNat))

/-- The value of some octets, the first of which counts least. -/
def DumpForm.value (form : DumpForm) (octets : List Char) : String :=
  let n := octets.foldr (fun c n => c.toNat + 256 * n) 0
  match form.kind with
  | .named =>
    let m := n % 128
    if m = 127 then "del"
    else controlNames.getD m (String.singleton (Char.ofNat m))
  | .character => escaped (Char.ofNat n)
  | .number base =>
    let text := String.ofList (Nat.toDigits base n)
    if base = 10 then text else Places.zeroPadded form.width text
  | .signed =>
    let limit := Nat.pow 256 form.size
    toString (if 2 * n < limit then (n : Int) else (n : Int) - limit)

/-- The octets of each value of a line. The fuel is at least their number. -/
def valueOctets (size : Nat) : Nat → List Char → List (List Char)
  | 0, _ => []
  | _, [] => []
  | fuel + 1, cs => cs.take size :: valueOctets size fuel (cs.drop size)

/-- A line of octets in a form, with room so that lines of other forms have the same width. -/
def DumpForm.line (form : DumpForm) (lineSize room : Nat) (octets : List Char) : String :=
  let fields := lineSize / form.size
  let padding := room - (form.width + 1) * fields
  let values := valueOctets form.size octets.length octets
  let text := String.join (values.zipIdx.map fun (value, i) =>
    let left := fields - i
    let extra := padding * left / fields - padding * (left - 1) / fields
    " " ++ flushRight (extra + form.width) (form.value value))
  if form.trailer then
    let missing := fields - values.length
    text ++ String.ofList (List.replicate (missing * (form.width + 1) +
      padding * missing / fields) ' ') ++ "  >" ++ String.ofList (octets.map fun c =>
        if 32 ≤ c.toNat && c.toNat < 127 then c else '.') ++ "<"
  else text

/-- The size of values that a letter or number stands for, and what follows. -/
def formSize (usual : Nat) (cs : List Char) : Option (Nat × List Char) :=
  match cs with
  | 'C' :: rest => some (1, rest)
  | 'S' :: rest => some (2, rest)
  | 'I' :: rest => some (4, rest)
  | 'L' :: rest => some (8, rest)
  | cs =>
    let digits := cs.takeWhile Char.isDigit
    let n := Numeral.ofDigits digits
    if digits.isEmpty then some (usual, cs)
    else if [1, 2, 4, 8].contains n then some (n, cs.drop digits.length)
    else none

/-- The forms that a text names. The fuel is more than the number of characters. -/
def dumpForms (whole : String) : Nat → List Char → Except String (List DumpForm)
  | 0, _ => .ok []
  | _, [] => .ok []
  | fuel + 1, c :: rest => do
    let numbered (kind : DumpKind) : Except String (DumpForm × List Char) :=
      match formSize 4 rest with
      | some (size, rest) => .ok (⟨kind, size, false⟩, rest)
      | none =>
        .error ("invalid type string " ++ curled whole ++
          ";\nthis system doesn't provide a " ++ String.ofList (rest.takeWhile Char.isDigit) ++
          "-byte integral type")
    let (form, rest) ← match c with
      | 'a' => Except.ok (⟨DumpKind.named, 1, false⟩, rest)
      | 'c' => Except.ok (⟨.character, 1, false⟩, rest)
      | 'd' => numbered .signed
      | 'o' => numbered (.number 8)
      | 'u' => numbered (.number 10)
      | 'x' => numbered (.number 16)
      | c => .error ("invalid character " ++ cite c ++ " in type string " ++ curled whole)
    let (form, rest) := match rest with
      | 'z' :: rest => ({ form with trailer := true }, rest)
      | rest => (form, rest)
    return form :: (← dumpForms whole fuel rest)
where
  /-- A character between quotes. -/
  cite (c : Char) : String := "'" ++ String.singleton c ++ "'"

/-- The forms that options ask for. -/
def wantedForms (parsed : Parsed) : Except String (List DumpForm) := do
  let forms ← parsed.options.mapM fun (letter, value) =>
    match letter with
    | 't' => dumpForms value (value.length + 1) value.toList
    | 'a' => .ok [⟨.named, 1, false⟩]
    | 'b' => .ok [⟨.number 8, 1, false⟩]
    | 'c' => .ok [⟨.character, 1, false⟩]
    | 'd' => .ok [⟨.number 10, 2, false⟩]
    | 'o' => .ok [⟨.number 8, 2, false⟩]
    | 'x' => .ok [⟨.number 16, 2, false⟩]
    | 's' => .ok [⟨.signed, 2, false⟩]
    | 'i' => .ok [⟨.signed, 4, false⟩]
    | 'l' => .ok [⟨.signed, 8, false⟩]
    | _ => .ok []
  return if forms.flatten.isEmpty then [⟨.number 8, 2, false⟩] else forms.flatten

/-- The address of a line in a base; some lines have none. -/
def dumpAddress (letter : Char) (n : Nat) : String :=
  match letter with
  | 'd' => Places.zeroPadded 7 (toString n)
  | 'x' => Places.zeroPadded 6 (String.ofList (Nat.toDigits 16 n))
  | 'n' => ""
  | _ => Places.zeroPadded 7 (String.ofList (Nat.toDigits 8 n))

/-- The lines of a dump from an address on. A line like the one before is left out, with a sign for
    all that are. The fuel is more than the number of octets. -/
def dumpLines (forms : List DumpForm) (lineSize : Nat) (letter : Char) (all : Bool) :
    Nat → Nat → List Char → Bool → List Char → String
  | 0, _, _, _, _ => ""
  | _, address, _, _, [] => if letter = 'n' then "" else dumpAddress letter address ++ "\n"
  | fuel + 1, address, before, same, content =>
    let octets := content.take lineSize
    let rest := content.drop lineSize
    let next := dumpLines forms lineSize letter all fuel (address + octets.length) octets
    if !all && octets = before && octets.length = lineSize then
      (if same then "" else "*\n") ++ next true rest
    else
      let most := forms.foldl (fun most form =>
        max most ((form.width + 1) * (lineSize / form.size))) 0
      let lead := dumpAddress letter address
      let blank := String.ofList (List.replicate lead.length ' ')
      String.join (forms.zipIdx.map fun (form, i) =>
        (if i = 0 then lead else blank) ++ form.line lineSize most octets ++ "\n") ++
          next false rest

/-- Write octets as numbers or characters. -/
def od : Program := fun _ name args =>
  withOptions { flags := "abcdoxsilv", valued := "AtNjw", long := [("address-radix", 'A'),
    ("format", 't'), ("read-bytes", 'N'), ("skip-bytes", 'j'), ("width", 'w'),
    ("output-duplicates", 'v')] } name args 1 fun parsed => do
    match wantedForms parsed with
    | .error words => refuse name words 1
    | .ok forms =>
      let letter := ((parsed.value? 'A').bind fun text => text.toList.head?).getD 'o'
      if !"donx".toList.contains letter then
        refuse name ("invalid output address radix '" ++ String.singleton letter ++
          "'; it must be one character from [doxn]") 1
      else
        let (found, status) ← inputs name parsed.operands
        if found.isEmpty then return status
        let content := (found.map (·.2)).flatten
        let number (letter : Char) : Option Nat := (parsed.value? letter).bind scaledNumber?
        let skipped := (number 'j').getD 0
        let content := content.drop skipped
        let content := match number 'N' with
          | some n => content.take n
          | none => content
        let lineSize := (number 'w').getD 16
        Act.print (dumpLines forms (max 1 lineSize) letter (parsed.has 'v') (content.length + 2)
          skipped [] false content)
        return status

end ContractBench.Shell.Program
